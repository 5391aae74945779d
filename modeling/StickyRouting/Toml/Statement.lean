import StickyRouting.Toml.Table

set_option autoImplicit false

namespace StickyRouting.Toml

/-- Lists and tables may be nested less deep than this, and keys have fewer parts. -/
def nestingLimit : Nat := 80

def skipSpace (text : List Char) : List Char := text.dropWhile isSpace

def isBareKey (c : Char) : Bool :=
  ('A' ≤ c && c ≤ 'Z') || ('a' ≤ c && c ≤ 'z') || isDecimal c || c == '-' || c == '_'

def readKeyPart : Reader (List Char)
  | '"' :: rest => basicBody rest
  | '\'' :: rest => literalBody rest
  | text =>
    let name := text.takeWhile isBareKey
    if name.isEmpty then none else some (name, text.drop name.length)

def readKeyUpTo : Nat → Reader (List (List Char))
  | 0, _ => none
  | fuel + 1, text => do
    let (part, rest) ← readKeyPart (skipSpace text)
    match skipSpace rest with
    | '.' :: rest => (readKeyUpTo fuel rest).map fun (parts, rest) => (part :: parts, rest)
    | rest => some ([part], rest)

def readKey : Reader (List (List Char)) := readKeyUpTo (nestingLimit - 1)

def readLineEnd (text : List Char) : Option (List Char) :=
  let rest := match skipSpace text with
    | '#' :: rest => rest.dropWhile isPlain
    | rest => rest
  match rest with
  | [] => some []
  | '\n' :: rest => some rest
  | '\r' :: '\n' :: rest => some rest
  | _ => none

def skipLinesUpTo : Nat → List Char → List Char
  | 0, text => text
  | fuel + 1, text =>
    match skipSpace text with
    | '\n' :: rest => skipLinesUpTo fuel rest
    | '\r' :: '\n' :: rest => skipLinesUpTo fuel rest
    | '#' :: rest => skipLinesUpTo fuel (rest.dropWhile isPlain)
    | rest => rest

def skipLines (text : List Char) : List Char := skipLinesUpTo text.length text

def readItems (item : Reader Value) : Nat → Reader (List Value)
  | 0, _ => none
  | fuel + 1, text =>
    match skipLines text with
    | ']' :: rest => some ([], rest)
    | text => do
      let (value, rest) ← item text
      match skipLines rest with
      | ']' :: rest => some ([value], rest)
      | ',' :: rest => (readItems item fuel rest).map fun (more, rest) => (value :: more, rest)
      | _ => none

def readPair (item : Reader Value) : Reader (List (List Char) × Value) := fun text => do
  let (key, rest) ← readKey text
  let (_, rest) ← expect '=' rest
  let (value, rest) ← item (skipSpace rest)
  some ((key, value), rest)

def readPairs (item : Reader Value) : Nat → Reader (List (List (List Char) × Value))
  | 0, _ => none
  | fuel + 1, text => do
    let (pair, rest) ← readPair item text
    match skipSpace rest with
    | '}' :: rest => some ([pair], rest)
    | ',' :: rest => (readPairs item fuel rest).map fun (more, rest) => (pair :: more, rest)
    | _ => none

def readInline (item : Reader Value) : Reader Value := fun text =>
  match skipSpace text with
  | '}' :: rest => some (.table [], rest)
  | text => do
    let (pairs, rest) ← readPairs item text.length text
    let fields ← tableOf? pairs
    some (.table fields, rest)

def readValue : (depth : Nat) → Reader Value
  | 0, text => (readScalar text).map fun (value, rest) => (.scalar value, rest)
  | depth + 1, '[' :: rest =>
    (readItems (readValue depth) (rest.length + 1) rest).map fun (items, rest) =>
      (.list items, rest)
  | depth + 1, '{' :: rest => readInline (readValue depth) rest
  | _ + 1, text => (readScalar text).map fun (value, rest) => (.scalar value, rest)

inductive Statement where
  | pair (key : List (List Char)) (value : Value)
  | table (path : List (List Char))
  | tables (path : List (List Char))
  deriving Repr

def readStatement : Reader Statement
  | '[' :: '[' :: rest => do
    let (path, rest) ← readKey rest
    let (_, rest) ← expect ']' rest
    let (_, rest) ← expect ']' rest
    some (.tables path, ← readLineEnd rest)
  | '[' :: rest => do
    let (path, rest) ← readKey rest
    let (_, rest) ← expect ']' rest
    some (.table path, ← readLineEnd rest)
  | text => do
    let ((key, value), rest) ← readPair (readValue (nestingLimit - 1)) text
    some (.pair key value, ← readLineEnd rest)

def readStatementsUpTo : Nat → List Char → Option (List Statement)
  | 0, _ => none
  | fuel + 1, text =>
    match skipLines text with
    | [] => some []
    | text => do
      let (statement, rest) ← readStatement text
      (readStatementsUpTo fuel rest).map (statement :: ·)

end StickyRouting.Toml
