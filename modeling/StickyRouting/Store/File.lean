import StickyRouting.Store.Embedded

set_option autoImplicit false

namespace StickyRouting.Store

inductive File where
  | table (rows : Table)
  | otherTable
  | bytes (content : List UInt8)
  deriving Repr, DecidableEq

/-- The table of a file. A file that is empty becomes one with an empty table. -/
def File.open? : File → Except RouteError Table
  | .table rows => .ok rows
  | .otherTable => .error (.fault .table "the route table is of another kind")
  | .bytes [] => .ok ∅
  | .bytes _ => .error (.fault .opening "not a database")

end StickyRouting.Store
