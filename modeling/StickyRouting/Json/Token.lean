import StickyRouting.Text.Numeral
import StickyRouting.Text.Utf8

/-!
A text of JSON may hold bytes or escapes that make no Unicode text of it; such a text is still a word,
with nothing for its value.
-/

set_option autoImplicit false

namespace StickyRouting.Json

open Text.Utf8 (Piece)

inductive Token where
  | openList
  | closeList
  | openObject
  | closeObject
  | comma
  | colon
  | null
  | boolean (value : Bool)
  | number (spelling : List Char)
  | text (value : Option (List Char))
  deriving Repr, DecidableEq

def isBlank (c : Char) : Bool := c == ' ' || c == '\n' || c == '\t' || c == '\r'

def isDigit (c : Char) : Bool := '0' ≤ c && c ≤ '9'

def hex4? (a b c d : Char) : Option Nat := do
  let a ← Text.Numeral.hexDigit? a
  let b ← Text.Numeral.hexDigit? b
  let c ← Text.Numeral.hexDigit? c
  let d ← Text.Numeral.hexDigit? d
  some (((16 * a + b) * 16 + c) * 16 + d)

/-- One sign of a text: a character, or a unit of sixteen bits written as an escape. -/
inductive Sign where
  | char (c : Char)
  | code (unit : Nat)
  | stray
  deriving Repr, DecidableEq

def shortEscape? : Char → Option Char
  | '"' => some '"'
  | '\\' => some '\\'
  | '/' => some '/'
  | 'b' => some '\x08'
  | 'f' => some '\x0c'
  | 'n' => some '\n'
  | 'r' => some '\r'
  | 't' => some '\t'
  | _ => none

def scanText : List Piece → Option (List Sign × List Piece)
  | [] => none
  | .stray _ :: rest => (scanText rest).map fun r => (.stray :: r.1, r.2)
  | .char '"' :: rest => some ([], rest)
  | .char '\\' :: .char 'u' :: .char a :: .char b :: .char c :: .char d :: rest =>
    (hex4? a b c d).bind fun unit => (scanText rest).map fun r => (.code unit :: r.1, r.2)
  | .char '\\' :: .char e :: rest =>
    (shortEscape? e).bind fun c => (scanText rest).map fun r => (.char c :: r.1, r.2)
  | .char c :: rest =>
    if c.toNat < 0x20 ∨ c = '\\' then none
    else (scanText rest).map fun r => (.char c :: r.1, r.2)

def isHigh (unit : Nat) : Bool := 0xD800 ≤ unit && unit < 0xDC00
def isLow (unit : Nat) : Bool := 0xDC00 ≤ unit && unit < 0xE000

/-- The characters of the signs, unless a byte is stray or a surrogate stands alone. -/
def joinSigns : List Sign → Option (List Char)
  | [] => some []
  | .stray :: _ => none
  | .char c :: rest => (joinSigns rest).map (c :: ·)
  | .code high :: .code low :: rest =>
    if isHigh high then
      if isLow low then
        let c := Char.ofNat (0x10000 + (high - 0xD800) * 0x400 + (low - 0xDC00))
        (joinSigns rest).map (c :: ·)
      else none
    else if isLow high then none
    else (joinSigns (.code low :: rest)).map (Char.ofNat high :: ·)
  | .code unit :: rest =>
    if isHigh unit || isLow unit then none else (joinSigns rest).map (Char.ofNat unit :: ·)

def digitRun : List Piece → List Char × List Piece
  | .char c :: rest =>
    if isDigit c then
      let (run, rest) := digitRun rest
      (c :: run, rest)
    else ([], .char c :: rest)
  | rest => ([], rest)

def scanWhole (pieces : List Piece) : Option (List Char × List Piece) :=
  match digitRun pieces with
  | ([], _) => none
  | ('0' :: _ :: _, _) => none
  | (run, rest) => some (run, rest)

def scanFraction : List Piece → Option (List Char × List Piece)
  | .char '.' :: rest =>
    match digitRun rest with
    | ([], _) => none
    | (run, rest) => some ('.' :: run, rest)
  | rest => some ([], rest)

def scanSign : List Piece → List Char × List Piece
  | .char '+' :: rest => (['+'], rest)
  | .char '-' :: rest => (['-'], rest)
  | rest => ([], rest)

def scanExponent : List Piece → Option (List Char × List Piece)
  | .char c :: rest =>
    if c = 'e' ∨ c = 'E' then
      let (sign, rest) := scanSign rest
      match digitRun rest with
      | ([], _) => none
      | (run, rest) => some (c :: sign ++ run, rest)
    else some ([], .char c :: rest)
  | rest => some ([], rest)

def scanNumber (pieces : List Piece) : Option (List Char × List Piece) := do
  let (minus, rest) := match pieces with
    | .char '-' :: rest => (['-'], rest)
    | rest => ([], rest)
  let (whole, rest) ← scanWhole rest
  let (fraction, rest) ← scanFraction rest
  let (exponent, rest) ← scanExponent rest
  some (minus ++ whole ++ fraction ++ exponent, rest)

/-- The first word, and what follows it. The text begins with no blank. -/
def next? : List Piece → Option (Token × List Piece)
  | .char '[' :: rest => some (.openList, rest)
  | .char ']' :: rest => some (.closeList, rest)
  | .char '{' :: rest => some (.openObject, rest)
  | .char '}' :: rest => some (.closeObject, rest)
  | .char ',' :: rest => some (.comma, rest)
  | .char ':' :: rest => some (.colon, rest)
  | .char 'n' :: .char 'u' :: .char 'l' :: .char 'l' :: rest => some (.null, rest)
  | .char 't' :: .char 'r' :: .char 'u' :: .char 'e' :: rest => some (.boolean true, rest)
  | .char 'f' :: .char 'a' :: .char 'l' :: .char 's' :: .char 'e' :: rest =>
    some (.boolean false, rest)
  | .char '"' :: rest => (scanText rest).map fun r => (.text (joinSigns r.1), r.2)
  | rest => (scanNumber rest).map fun r => (.number r.1, r.2)

def tokensUpTo : Nat → List Piece → Option (List Token)
  | _, [] => some []
  | 0, _ :: _ => none
  | fuel + 1, piece :: rest =>
    match piece with
    | .char c =>
      if isBlank c then tokensUpTo fuel rest
      else (next? (piece :: rest)).bind fun r => (tokensUpTo fuel r.2).map (r.1 :: ·)
    | .stray _ => none

def tokens (pieces : List Piece) : Option (List Token) := tokensUpTo pieces.length pieces

end StickyRouting.Json
