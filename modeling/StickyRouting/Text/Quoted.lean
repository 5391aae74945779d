import StickyRouting.Text.Unprintable
import StickyRouting.Text.Extending
import StickyRouting.Text.Numeral

/-!
Quoted text for messages. Quotes and backslashes get a backslash, four controls have a letter, and
whatever cannot be seen on its own is written as its code point in braces.
-/

set_option autoImplicit false

namespace StickyRouting.Text

def quotedChar (c : Char) : List Char :=
  match c with
  | '"' => ['\\', '"']
  | '\\' => ['\\', '\\']
  | '\t' => ['\\', 't']
  | '\r' => ['\\', 'r']
  | '\n' => ['\\', 'n']
  | '\x00' => ['\\', '0']
  | c =>
    if isUnprintable c || isExtending c then
      ['\\', 'u', '{'] ++ Numeral.hex 1 c.toNat ++ ['}']
    else [c]

def quoted (text : String) : String :=
  String.ofList ('"' :: (text.toList.flatMap quotedChar ++ ['"']))

def quotedOption : Option String → String
  | none => "None"
  | some text => "Some(" ++ quoted text ++ ")"

end StickyRouting.Text
