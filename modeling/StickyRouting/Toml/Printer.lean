import StickyRouting.Text.Numeral

/-!
How a text is written. The plainest kind of string that can hold it is taken: a basic one, a literal
one, and the same on several lines; only where none can hold it as it stands are characters escaped.
-/

set_option autoImplicit false

namespace StickyRouting.Toml

def isControl (c : Char) : Bool :=
  (c.toNat < 0x20 && c != '\t' && c != '\n') || c.toNat == 0x7F

def longestRun (c : Char) : (run : Nat) → List Char → Nat
  | run, [] => run
  | run, x :: rest =>
    if x = c then longestRun c (run + 1) rest else max run (longestRun c 0 rest)

inductive Style where
  | basic
  | literal
  | basicLines
  | literalLines
  deriving Repr, DecidableEq

def Style.of (text : List Char) : Style :=
  let controls := text.any isControl
  let backslash := text.contains '\\'
  let lines := text.contains '\n'
  let double := longestRun '"' 0 text
  let single := longestRun '\'' 0 text
  if !controls && !backslash && !lines && double = 0 then .basic
  else if !controls && !lines && single = 0 then .literal
  else if !controls && !backslash && double ≤ 2 then .basicLines
  else if !controls && single ≤ 2 then .literalLines
  else if lines then .basicLines
  else .basic

def escapeChar (c : Char) : List Char :=
  match c with
  | '\x08' => ['\\', 'b']
  | '\t' => ['\\', 't']
  | '\n' => ['\\', 'n']
  | '\x0c' => ['\\', 'f']
  | '\r' => ['\\', 'r']
  | '"' => ['\\', '"']
  | '\\' => ['\\', '\\']
  | c =>
    if isControl c then ['\\', 'u'] ++ (Text.Numeral.hex 4 c.toNat).map Char.toUpper else [c]

/-- The body of a basic string. So many quotes in a row may stand as they are, given how many have,
and line ends may if the string has several lines. -/
def writeBasic (quotes : Nat) (lines : Bool) : (run : Nat) → List Char → List Char
  | _, [] => []
  | run, '"' :: rest =>
    if run < quotes then '"' :: writeBasic quotes lines (run + 1) rest
    else escapeChar '"' ++ writeBasic quotes lines 0 rest
  | _, '\n' :: rest =>
    (if lines then ['\n'] else escapeChar '\n') ++ writeBasic quotes lines 0 rest
  | _, c :: rest => escapeChar c ++ writeBasic quotes lines 0 rest

def triple (c : Char) : List Char := [c, c, c]

def opening (text : List Char) : List Char := if text.contains '\n' then ['\n'] else []

def writeText (text : List Char) : List Char :=
  match Style.of text with
  | .basic => '"' :: writeBasic 0 false 0 text ++ ['"']
  | .literal => '\'' :: text ++ ['\'']
  | .basicLines => triple '"' ++ opening text ++ writeBasic 2 true 0 text ++ triple '"'
  | .literalLines => triple '\'' ++ opening text ++ text ++ triple '\''

def writeField (key value : List Char) : List Char := key ++ [' ', '=', ' '] ++ value ++ ['\n']

def writeHeader (key : List Char) : List Char := '[' :: key ++ [']', '\n']

end StickyRouting.Toml
