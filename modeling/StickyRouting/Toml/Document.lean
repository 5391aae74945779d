import StickyRouting.Toml.Statement

set_option autoImplicit false

namespace StickyRouting.Toml

abbrev Pair : Type := List (List Char) × Value

inductive Header where
  | table (path : List (List Char))
  | tables (path : List (List Char))
  deriving Repr

def sections : List Statement → List Pair × List (Header × List Pair)
  | [] => ([], [])
  | .pair key value :: rest =>
    let (pairs, more) := sections rest
    ((key, value) :: pairs, more)
  | .table path :: rest =>
    let (pairs, more) := sections rest
    ([], (.table path, pairs) :: more)
  | .tables path :: rest =>
    let (pairs, more) := sections rest
    ([], (.tables path, pairs) :: more)

/-- A header may take over a table that was made in passing; it then comes last in its parent. -/
def attachTable (key : List Char) (pairs : List Pair) (parent : Fields) : Option Fields := do
  let start ← match parent.lookup key with
    | none => some []
    | some (.table .implied inner) => some inner
    | some _ => none
  let fields ← Fields.addPairs start pairs
  some (parent.filter (fun field => field.1 ≠ key) ++ [(key, .table .header fields)])

def attachItem (key : List Char) (pairs : List Pair) (parent : Fields) : Option Fields := do
  let fields ← Fields.addPairs [] pairs
  match parent.lookup key with
  | none => some (parent ++ [(key, .tables [fields])])
  | some (.tables items) => some (Fields.put parent key (.tables (items ++ [fields])))
  | some _ => none

def addSection (root : Fields) (part : Header × List Pair) : Option Fields :=
  let attach (path : List (List Char)) (add : List Char → List Pair → Fields → Option Fields) := do
    let key ← path.getLast?
    Fields.descend false (fun _ parent => add key part.2 parent) path.dropLast .header root
  match part.1 with
  | .table path => attach path attachTable
  | .tables path => attach path attachItem

def assemble (statements : List Statement) : Option (List (List Char × Value)) := do
  let (pairs, parts) := sections statements
  let root ← Fields.addPairs [] pairs
  let root ← parts.foldlM addSection root
  some (finishFields root)

/-- The fields that a text spells, in the order in which they stand. A byte order mark is skipped. -/
def parse? (text : String) : Option (List (List Char × Value)) := do
  let body := match text.toList with
    | '\ufeff' :: rest => rest
    | chars => chars
  assemble (← readStatementsUpTo (body.length + 1) body)

end StickyRouting.Toml
