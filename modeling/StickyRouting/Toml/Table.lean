import StickyRouting.Toml.Scalar

/-!
A table may be made by a header, by a dotted key, or in passing by a header below it; what has been made
one way cannot be extended in another.
-/

set_option autoImplicit false

namespace StickyRouting.Toml

inductive Value where
  | scalar (value : Scalar)
  | list (items : List Value)
  | table (fields : List (List Char × Value))
  deriving Repr

inductive Origin where
  | header
  | implied
  | dotted
  deriving Repr, DecidableEq

inductive Node where
  | value (value : Value)
  | table (origin : Origin) (fields : List (List Char × Node))
  | tables (items : List (List (List Char × Node)))
  deriving Repr

abbrev Fields : Type := List (List Char × Node)

namespace Fields

def put (fields : Fields) (key : List Char) (node : Node) : Fields :=
  fields.map fun field => if field.1 = key then (key, node) else field

/-- Change the table at a path. Tables that are missing on the way are made; of several tables under
one key the last is meant. A dotted path does not go through tables that a header has made. -/
def descend (dotted : Bool) (change : Origin → Fields → Option Fields) :
    List (List Char) → Origin → Fields → Option Fields
  | [], origin, fields => change origin fields
  | key :: path, _, fields =>
    match fields.lookup key with
    | none => do
      let origin := if dotted then .dotted else .implied
      let inner ← descend dotted change path origin []
      some (fields ++ [(key, .table origin inner)])
    | some (.value _) => none
    | some (.table origin inner) =>
      if dotted && origin == .header then none
      else do
        let inner ← descend dotted change path origin inner
        some (put fields key (.table origin inner))
    | some (.tables items) => do
      let last ← items.getLast?
      let last ← descend dotted change path .header last
      some (put fields key (.tables (items.dropLast ++ [last])))

def addKey (path : List (List Char)) (key : List Char) (value : Value) (origin : Origin)
    (fields : Fields) : Option Fields :=
  if (origin == .dotted) == path.isEmpty then none
  else if (fields.lookup key).isSome then none
  else some (fields ++ [(key, .value value)])

def addPair (fields : Fields) (pair : List (List Char) × Value) : Option Fields := do
  let key ← pair.1.getLast?
  let path := pair.1.dropLast
  descend true (addKey path key pair.2) path .header fields

def addPairs (fields : Fields) (pairs : List (List (List Char) × Value)) : Option Fields :=
  pairs.foldlM addPair fields

end Fields

mutual

def Node.finish : Node → Value
  | .value value => value
  | .table _ fields => .table (finishFields fields)
  | .tables items => .list (finishTables items)

def finishFields : Fields → List (List Char × Value)
  | [] => []
  | (key, node) :: rest => (key, node.finish) :: finishFields rest

def finishTables : List Fields → List Value
  | [] => []
  | fields :: rest => .table (finishFields fields) :: finishTables rest

end

def tableOf? (pairs : List (List (List Char) × Value)) : Option (List (List Char × Value)) :=
  (Fields.addPairs [] pairs).map finishFields

end StickyRouting.Toml
