set_option autoImplicit false

namespace StickyRouting.Text.Numeral

def digit? (c : Char) : Option Nat :=
  if '0' ≤ c ∧ c ≤ '9' then some (c.toNat - '0'.toNat) else none

def extend? : Nat → List Char → Option Nat
  | start, [] => some start
  | start, c :: rest => (digit? c).bind fun d => extend? (10 * start + d) rest

def digits? : List Char → Option Nat
  | [] => none
  | c :: rest => extend? 0 (c :: rest)

def natural? : List Char → Option Nat
  | '+' :: rest => digits? rest
  | text => digits? text

def integer? : List Char → Option Int
  | '-' :: rest => (digits? rest).map fun n => -(n : Int)
  | text => (natural? text).map Int.ofNat

def bounded? (limit : Nat) (text : List Char) : Option Nat :=
  (natural? text).filter (· ≤ limit)

def writeNat (n : Nat) : List Char :=
  Nat.toDigits 10 n

def writeInt : Int → List Char
  | .ofNat n => writeNat n
  | .negSucc n => '-' :: writeNat (n + 1)

def hexDigit? (c : Char) : Option Nat :=
  if '0' ≤ c ∧ c ≤ '9' then some (c.toNat - '0'.toNat)
  else if 'a' ≤ c ∧ c ≤ 'f' then some (c.toNat - 'a'.toNat + 10)
  else if 'A' ≤ c ∧ c ≤ 'F' then some (c.toNat - 'A'.toNat + 10)
  else none

def hex (width n : Nat) : List Char :=
  (Nat.toDigits 16 n).leftpad width '0'

def showNat (n : Nat) : String := String.ofList (writeNat n)
def showInt (n : Int) : String := String.ofList (writeInt n)

def word32 : Nat := UInt32.size - 1

def word64 : Nat := UInt64.size - 1

def fitsInt64 (n : Int) : Bool := decide (-0x8000000000000000 ≤ n ∧ n < 0x8000000000000000)

def int64? (text : List Char) : Option Int64 :=
  ((integer? text).filter fitsInt64).map Int64.ofInt

def showInt64 (n : Int64) : String := showInt n.toInt

end StickyRouting.Text.Numeral
