import StickyRouting.Duration
import StickyRouting.Text.Numeral

set_option autoImplicit false

namespace StickyRouting.Duration

/-- `count / 10 ^ places`, exactly. -/
def decimal (count places : Nat) : List Char :=
  let whole := Text.Numeral.writeNat (count / Nat.pow 10 places)
  let rest := count % Nat.pow 10 places
  if rest = 0 then whole
  else
    let digits := (Text.Numeral.writeNat rest).leftpad places '0'
    whole ++ '.' :: (digits.reverse.dropWhile (· == '0')).reverse

def inUnits (d : Duration) : String :=
  let n := d.nanos
  if 1_000_000_000 ≤ n then String.ofList (decimal n 9) ++ "s"
  else if 1_000_000 ≤ n then String.ofList (decimal n 6) ++ "ms"
  else if 1_000 ≤ n then String.ofList (decimal n 3) ++ "µs"
  else String.ofList (decimal n 0) ++ "ns"

end StickyRouting.Duration
