import StickyRouting.Text.Numeral

set_option autoImplicit false

namespace StickyRouting.Json

def escapeChar : Char → List Char
  | '"' => ['\\', '"']
  | '\\' => ['\\', '\\']
  | '\x08' => ['\\', 'b']
  | '\x0c' => ['\\', 'f']
  | '\n' => ['\\', 'n']
  | '\r' => ['\\', 'r']
  | '\t' => ['\\', 't']
  | c => if c.toNat < 0x20 then ['\\', 'u'] ++ Text.Numeral.hex 4 c.toNat else [c]

def quote (text : List Char) : List Char :=
  '"' :: (text.flatMap escapeChar ++ ['"'])

end StickyRouting.Json
