import StickyRouting.Json.Token

set_option autoImplicit false

namespace StickyRouting.Json

/-- A value. Numbers keep their spelling, and texts that are not Unicode have nothing for a value. -/
inductive Tree where
  | null
  | boolean (value : Bool)
  | number (spelling : List Char)
  | text (value : Option (List Char))
  | list (items : List Tree)
  | object (fields : List (Option (List Char) × Tree))
  deriving Repr

mutual

def valueUpTo : Nat → List Token → Option (Tree × List Token)
  | 0, _ => none
  | fuel + 1, words =>
    match words with
    | .null :: rest => some (.null, rest)
    | .boolean value :: rest => some (.boolean value, rest)
    | .number spelling :: rest => some (.number spelling, rest)
    | .text value :: rest => some (.text value, rest)
    | .openList :: .closeList :: rest => some (.list [], rest)
    | .openList :: rest => (itemsUpTo fuel rest).map fun r => (.list r.1, r.2)
    | .openObject :: .closeObject :: rest => some (.object [], rest)
    | .openObject :: rest => (fieldsUpTo fuel rest).map fun r => (.object r.1, r.2)
    | _ => none

def itemsUpTo : Nat → List Token → Option (List Tree × List Token)
  | 0, _ => none
  | fuel + 1, words => do
    let (item, rest) ← valueUpTo fuel words
    match rest with
    | .closeList :: rest => some ([item], rest)
    | .comma :: rest => (itemsUpTo fuel rest).map fun r => (item :: r.1, r.2)
    | _ => none

def fieldsUpTo : Nat → List Token → Option (List (Option (List Char) × Tree) × List Token)
  | 0, _ => none
  | fuel + 1, words =>
    match words with
    | .text name :: .colon :: rest => do
      let (value, rest) ← valueUpTo fuel rest
      match rest with
      | .closeObject :: rest => some ([(name, value)], rest)
      | .comma :: rest => (fieldsUpTo fuel rest).map fun r => ((name, value) :: r.1, r.2)
      | _ => none
    | _ => none

end

def read? (bytes : List UInt8) : Option Tree := do
  let words ← tokens (Text.Utf8.decode bytes)
  match ← valueUpTo (2 * words.length) words with
  | (tree, []) => some tree
  | _ => none

end StickyRouting.Json
