import StickyRouting.Text.Numeral
import StickyRouting.Text.Utf8

set_option autoImplicit false

namespace StickyRouting.Text.Percent

def decode : List Char → List UInt8
  | [] => []
  | ['%'] => Utf8.encode ['%']
  | ['%', a] => Utf8.encode ['%', a]
  | '%' :: a :: b :: rest =>
    match Numeral.hexDigit? a, Numeral.hexDigit? b with
    | some high, some low => UInt8.ofNat (16 * high + low) :: decode rest
    | _, _ => Utf8.encode ['%'] ++ decode (a :: b :: rest)
  | c :: rest => Utf8.encode [c] ++ decode rest

end StickyRouting.Text.Percent
