import StickyRouting.Text.Numeral

/-!
Each reader of a TOML text starts after the opening quotes and gives back the text and what follows the
closing ones.
-/

set_option autoImplicit false

namespace StickyRouting.Toml

abbrev Reader (α : Type) : Type := List Char → Option (α × List Char)

def isSpace (c : Char) : Bool := c == ' ' || c == '\t'

def isPlain (c : Char) : Bool := c == '\t' || (0x20 ≤ c.toNat && c.toNat != 0x7F)

def codePoint? (digits : List Char) : Option Char := do
  let values ← digits.mapM Text.Numeral.hexDigit?
  let code := values.foldl (fun n d => 16 * n + d) 0
  if code.isValidChar then some (Char.ofNat code) else none

def shortEscape? : Char → Option Char
  | 'b' => some '\x08'
  | 't' => some '\t'
  | 'n' => some '\n'
  | 'f' => some '\x0c'
  | 'r' => some '\r'
  | '"' => some '"'
  | '\\' => some '\\'
  | _ => none

def push (c : Char) (read : Option (List Char × List Char)) : Option (List Char × List Char) :=
  read.map fun (text, rest) => (c :: text, rest)

def basicBody : Reader (List Char)
  | [] => none
  | '"' :: rest => some ([], rest)
  | '\\' :: 'u' :: a :: b :: c :: d :: rest =>
    (codePoint? [a, b, c, d]).bind fun x => push x (basicBody rest)
  | '\\' :: 'U' :: a :: b :: c :: d :: e :: f :: g :: h :: rest =>
    (codePoint? [a, b, c, d, e, f, g, h]).bind fun x => push x (basicBody rest)
  | '\\' :: c :: rest => (shortEscape? c).bind fun x => push x (basicBody rest)
  | c :: rest => if isPlain c && c != '\\' then push c (basicBody rest) else none

def literalBody : Reader (List Char)
  | [] => none
  | '\'' :: rest => some ([], rest)
  | c :: rest => if isPlain c then push c (literalBody rest) else none

def endsLine (text : List Char) : Bool :=
  match text.dropWhile isSpace with
  | '\n' :: _ => true
  | '\r' :: '\n' :: _ => true
  | _ => false

def basicLines : (skipping : Bool) → Reader (List Char)
  | _, [] => none
  | true, ' ' :: rest => basicLines true rest
  | true, '\t' :: rest => basicLines true rest
  | true, '\n' :: rest => basicLines true rest
  | true, '\r' :: '\n' :: rest => basicLines true rest
  -- Up to two quotes may stand right before the closing ones.
  | _, '"' :: '"' :: '"' :: '"' :: '"' :: rest => some (['"', '"'], rest)
  | _, '"' :: '"' :: '"' :: '"' :: rest => some (['"'], rest)
  | _, '"' :: '"' :: '"' :: rest => some ([], rest)
  | _, '\r' :: '\n' :: rest => push '\n' (basicLines false rest)
  | _, '\n' :: rest => push '\n' (basicLines false rest)
  | _, '\\' :: 'u' :: a :: b :: c :: d :: rest =>
    (codePoint? [a, b, c, d]).bind fun x => push x (basicLines false rest)
  | _, '\\' :: 'U' :: a :: b :: c :: d :: e :: f :: g :: h :: rest =>
    (codePoint? [a, b, c, d, e, f, g, h]).bind fun x => push x (basicLines false rest)
  | _, '\\' :: c :: rest =>
    -- At the end of a line a backslash takes away all blanks after it.
    if endsLine (c :: rest) then basicLines true (c :: rest)
    else (shortEscape? c).bind fun x => push x (basicLines false rest)
  | _, c :: rest => if isPlain c && c != '\\' then push c (basicLines false rest) else none

def literalLines : Reader (List Char)
  | [] => none
  | '\'' :: '\'' :: '\'' :: '\'' :: '\'' :: rest => some (['\'', '\''], rest)
  | '\'' :: '\'' :: '\'' :: '\'' :: rest => some (['\''], rest)
  | '\'' :: '\'' :: '\'' :: rest => some ([], rest)
  | '\r' :: '\n' :: rest => push '\n' (literalLines rest)
  | '\n' :: rest => push '\n' (literalLines rest)
  | c :: rest => if isPlain c then push c (literalLines rest) else none

/-- A line end right after the opening quotes is no part of the text. -/
def dropLineEnd : List Char → List Char
  | '\n' :: rest => rest
  | '\r' :: '\n' :: rest => rest
  | text => text

def readText : Reader (List Char)
  | '"' :: '"' :: '"' :: rest => basicLines false (dropLineEnd rest)
  | '\'' :: '\'' :: '\'' :: rest => literalLines (dropLineEnd rest)
  | '"' :: rest => basicBody rest
  | '\'' :: rest => literalBody rest
  | _ => none

end StickyRouting.Toml
