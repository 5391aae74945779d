import StickyRouting.Text.Numeral

/-!
The shortest decimal that reads back as a given binary number. The reals that round to a binary number
form an interval around it; on each decimal grid, coarse to fine, only the number's two neighbours can
be the nearest grid points inside.
-/

set_option autoImplicit false

namespace StickyRouting.Decimal

/-- The number `mantissa * 2 ^ exponent`, with the marks of the interval that rounds to it. -/
structure Binary where
  mantissa : Nat
  exponent : Int
  /-- Is the next smaller number only half a step away? -/
  narrowBelow : Bool
  deriving Repr, DecidableEq

/-- The decimal `value * 10 ^ exponent`. -/
structure Digits where
  value : Nat
  exponent : Int
  deriving Repr, DecidableEq

def Binary.ofBits (bits : UInt64) : Option Binary :=
  let fraction : Nat := bits.toNat % Nat.pow 2 52
  let raised : Nat := bits.toNat / Nat.pow 2 52 % Nat.pow 2 11
  if raised = 2047 then none
  else if raised = 0 then some ⟨fraction, -1074, false⟩
  else some ⟨Nat.pow 2 52 + fraction, (raised : Int) - 1075, fraction = 0 && 1 < raised⟩

/-- Both sides of a comparison between `a * 2 ^ p` and `b * 10 ^ k`, as whole numbers. -/
def scaled (a : Nat) (p : Int) (b : Nat) (k : Int) : Nat × Nat :=
  (a * Nat.pow 2 p.toNat * Nat.pow 10 (-k).toNat, b * Nat.pow 10 k.toNat * Nat.pow 2 (-p).toNat)

/-- Does the decimal round to the number? The ends of the interval belong to even mantissas. -/
def Binary.holds (n : Binary) (d : Digits) : Bool :=
  let below := 4 * n.mantissa - if n.narrowBelow then 1 else 2
  let (low, point) := scaled below (n.exponent - 2) d.value d.exponent
  let (high, point') := scaled (4 * n.mantissa + 2) (n.exponent - 2) d.value d.exponent
  if n.mantissa % 2 = 0 then low ≤ point && point' ≤ high else low < point && point' < high

def Binary.gridFloor (n : Binary) (k : Int) : Nat :=
  let (value, step) := scaled n.mantissa n.exponent 1 k
  value / step

def digitCount (n : Nat) : Nat := if n = 0 then 0 else (Nat.toDigits 10 n).length

def Binary.leading (n : Binary) : Int :=
  let (value, one) := scaled n.mantissa n.exponent 1 0
  if one ≤ value then (digitCount (value / one) : Int) - 1
  else -(digitCount ((one + value - 1) / value - 1) : Int)

/-- The point of the grid of step `10 ^ k` that stands for the number, if one does. Of two the nearer
stands for it, and the upper one when both are as near. -/
def Binary.onGrid (n : Binary) (k : Int) : Option Digits :=
  let low := n.gridFloor k
  let (value, middle) := scaled (2 * n.mantissa) n.exponent (2 * low + 1) k
  match n.holds ⟨low, k⟩, n.holds ⟨low + 1, k⟩ with
  | true, true => some ⟨if value < middle then low else low + 1, k⟩
  | true, false => some ⟨low, k⟩
  | false, true => some ⟨low + 1, k⟩
  | false, false => none

def Binary.shortest (n : Binary) : Digits :=
  if n.mantissa = 0 then ⟨0, 0⟩
  else
    let grids := (List.range 17).map fun (i : Nat) => n.leading - (i : Int)
    (grids.findSome? n.onGrid).getD ⟨n.gridFloor (n.leading - 16), n.leading - 16⟩

def Digits.positional (d : Digits) : List Char :=
  let digits := Text.Numeral.writeNat d.value
  if d.exponent ≥ 0 then
    if d.value = 0 then ['0'] else digits ++ List.replicate d.exponent.toNat '0'
  else
    let places := (-d.exponent).toNat
    let padded := digits.leftpad (places + 1) '0'
    let whole := padded.take (padded.length - places)
    let part := ((padded.drop (padded.length - places)).reverse.dropWhile (· == '0')).reverse
    if part.isEmpty then whole else whole ++ '.' :: part

def showPositional (x : Float) : String :=
  match Binary.ofBits x.toBits with
  | none => if x.isNaN then "NaN" else "inf"
  | some n => String.ofList n.shortest.positional

end StickyRouting.Decimal
