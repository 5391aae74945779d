import StickyRouting.Toml.Text

set_option autoImplicit false

namespace StickyRouting.Toml

inductive Scalar where
  | text (value : List Char)
  | integer (value : Int)
  | float (spelling : List Char)
  | boolean (value : Bool)
  | moment (spelling : List Char)
  deriving Repr, DecidableEq

def isDecimal (c : Char) : Bool := '0' ≤ c && c ≤ '9'

def moreDigits (isDigit : Char → Bool) : List Char → List Char × List Char
  | '_' :: c :: rest =>
    if isDigit c then
      let (run, rest) := moreDigits isDigit rest
      (c :: run, rest)
    else ([], '_' :: c :: rest)
  | c :: rest =>
    if isDigit c then
      let (run, rest) := moreDigits isDigit rest
      (c :: run, rest)
    else ([], c :: rest)
  | [] => ([], [])

def digitRun (isDigit : Char → Bool) : Reader (List Char)
  | c :: rest =>
    if isDigit c then
      let (run, rest) := moreDigits isDigit rest
      some (c :: run, rest)
    else none
  | [] => none

def readSign : List Char → Bool × List Char
  | '-' :: rest => (true, rest)
  | '+' :: rest => (false, rest)
  | rest => (false, rest)

def readWhole : Reader (List Char)
  | '0' :: rest => some (['0'], rest)
  | rest => digitRun isDecimal rest

def inBase (base : Nat) (digits : List Char) : Nat :=
  digits.foldl (fun n c => base * n + (Text.Numeral.hexDigit? c).getD 0) 0

def readBased (base : Nat) : Reader Scalar := fun text => do
  let (digits, rest) ← digitRun (fun c => (Text.Numeral.hexDigit? c).any (· < base)) text
  let n := inBase base digits
  if n < 0x8000000000000000 then some (.integer n, rest) else none

def readInteger : Reader Scalar
  | '0' :: 'x' :: rest => readBased 16 rest
  | '0' :: 'o' :: rest => readBased 8 rest
  | '0' :: 'b' :: rest => readBased 2 rest
  | text => do
    let (negative, rest) := readSign text
    let (digits, rest) ← readWhole rest
    let n : Int := inBase 10 digits
    let n := if negative then -n else n
    if Text.Numeral.fitsInt64 n then some (.integer n, rest) else none

/-- Is `digits * 10 ^ exponent` too great for a double? It is from half a step above the greatest. -/
def overflows (digits : List Char) (exponent : Int) : Bool :=
  let n := inBase 10 digits
  let magnitude := (Text.Numeral.writeNat n).length + exponent
  if n = 0 ∨ magnitude < 300 then false
  else if 320 < magnitude then true
  else 0x3FFFFFFFFFFFFF * Nat.pow 2 970 * Nat.pow 10 (-exponent).toNat ≤ n * Nat.pow 10 exponent.toNat

def readFraction : Reader (List Char)
  | '.' :: rest => digitRun isDecimal rest
  | _ => none

def readExponent : Reader Int
  | c :: rest =>
    if c = 'e' ∨ c = 'E' then do
      let (negative, rest) := readSign rest
      let (digits, rest) ← digitRun isDecimal rest
      let n : Int := inBase 10 digits
      some (if negative then -n else n, rest)
    else none
  | [] => none

def readSpecial : Reader (List Char)
  | 'i' :: 'n' :: 'f' :: rest => some (['i', 'n', 'f'], rest)
  | 'n' :: 'a' :: 'n' :: rest => some (['n', 'a', 'n'], rest)
  | _ => none

def taken (text rest : List Char) : List Char := text.take (text.length - rest.length)

def readFinite : Reader Scalar := fun text => do
  let (negative, rest) := readSign text
  let (whole, rest) ← readWhole rest
  let (part, exponent, rest) ← match readFraction rest with
    | some (part, rest) =>
      match readExponent rest with
      | some (exponent, rest) => some (part, exponent, rest)
      | none => some (part, 0, rest)
    | none => (readExponent rest).map fun (exponent, rest) => ([], exponent, rest)
  if !negative && overflows (whole ++ part) (exponent - part.length) then none
  else some (.float (taken text rest), rest)

def readFloat : Reader Scalar := fun text =>
  (readFinite text).or <|
    (readSpecial (readSign text).2).map fun (_, rest) => (.float (taken text rest), rest)

def readCount (width : Nat) : Reader Nat := fun text =>
  let digits := text.take width
  if digits.length = width && digits.all isDecimal then some (inBase 10 digits, text.drop width)
  else none

def expect (c : Char) : Reader Unit
  | d :: rest => if c = d then some ((), rest) else none
  | [] => none

def isLeap (year : Nat) : Bool := year % 4 == 0 && (year % 100 != 0 || year % 400 == 0)

def daysIn (year month : Nat) : Nat :=
  if month = 2 then if isLeap year then 29 else 28
  else if month = 4 ∨ month = 6 ∨ month = 9 ∨ month = 11 then 30
  else 31

def readDate : Reader Unit := fun text => do
  let (year, rest) ← readCount 4 text
  let (_, rest) ← expect '-' rest
  let (month, rest) ← readCount 2 rest
  let (_, rest) ← expect '-' rest
  let (day, rest) ← readCount 2 rest
  if 1 ≤ month ∧ month ≤ 12 ∧ 1 ≤ day ∧ day ≤ daysIn year month then some ((), rest) else none

def readPoint : Reader Unit := fun text => do
  let (_, rest) ← expect '.' text
  let run := rest.takeWhile isDecimal
  if run.isEmpty then none else some ((), rest.drop run.length)

def readTime : Reader Unit := fun text => do
  let (hour, rest) ← readCount 2 text
  let (_, rest) ← expect ':' rest
  let (minute, rest) ← readCount 2 rest
  let (_, rest) ← expect ':' rest
  let (second, rest) ← readCount 2 rest
  if hour ≤ 23 ∧ minute ≤ 59 ∧ second ≤ 60 then some ((), ((readPoint rest).map (·.2)).getD rest)
  else none

def readOffset : Reader Unit
  | 'Z' :: rest => some ((), rest)
  | 'z' :: rest => some ((), rest)
  | c :: rest =>
    if c = '+' ∨ c = '-' then do
      let (hour, rest) ← readCount 2 rest
      let (_, rest) ← expect ':' rest
      let (minute, rest) ← readCount 2 rest
      if hour ≤ 23 ∧ minute ≤ 59 then some ((), rest) else none
    else none
  | [] => none

def readClock : Reader Unit
  | c :: rest =>
    if c = 'T' ∨ c = 't' ∨ c = ' ' then do
      let (_, rest) ← readTime rest
      some ((), ((readOffset rest).map (·.2)).getD rest)
    else none
  | [] => none

def readMoment : Reader Scalar := fun text => do
  let rest ← match readDate text with
    | some (_, rest) => some (((readClock rest).map (·.2)).getD rest)
    | none => (readTime text).map (·.2)
  some (.moment (taken text rest), rest)

def readBoolean : Reader Scalar
  | 't' :: 'r' :: 'u' :: 'e' :: rest => some (.boolean true, rest)
  | 'f' :: 'a' :: 'l' :: 's' :: 'e' :: rest => some (.boolean false, rest)
  | _ => none

def readScalar : Reader Scalar := fun text =>
  ((readText text).map fun (value, rest) => (.text value, rest)).or <|
    (readMoment text).or <| (readFloat text).or <| (readInteger text).or <| readBoolean text

end StickyRouting.Toml
