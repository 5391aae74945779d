import StickyRouting.KeyMap
import StickyRouting.Store.Call
import StickyRouting.Store.Record

/-!
An entry that is over stays in the table until a call on its key or a purge removes it. A call that
fails leaves the table as it is.
-/

set_option autoImplicit false

namespace StickyRouting.Store

abbrev Table := KeyMap (List UInt8)

namespace Embedded

def unreadable : RouteError := .fault .decoding "not a route record"

def decode (bytes : List UInt8) : Except RouteError Record :=
  match Record.decode? bytes with
  | some record => .ok record
  | none => .error unreadable

def stored (table : Table) (key : String) : Except RouteError (Option Record) :=
  match table.get? key with
  | none => .ok none
  | some bytes => (decode bytes).map some

def live (now : Nat) (record : Option Record) : Option Record :=
  record.filter fun r => !r.isExpired now

def valueOf (record : Option Record) : Option String := record.map (·.value)

def look (now : Nat) (table : Table) (key : String) : Except RouteError (Option String) :=
  (stored table key).map fun record => valueOf (live now record)

inductive Mutation where
  | keep
  | put (record : Record)
  | remove
  deriving Repr, DecidableEq

def Mutation.apply (mutation : Mutation) (now : Nat) (key : String) (before : Option Record)
    (table : Table) : Table :=
  match mutation with
  | put record => table.insert key record.encode
  | remove => table.erase key
  -- An entry that is over is not kept.
  | keep => if before.any (·.isExpired now) then table.erase key else table

/-- One transaction on one key: decide by the live entry, then change it. -/
def atomically {α : Type} (now : Nat) (key : String) (table : Table)
    (step : Option Record → Except RouteError (Mutation × α)) : Except RouteError α × Table :=
  match stored table key with
  | .error e => (.error e, table)
  | .ok before =>
    match step (live now before) with
    | .error e => (.error e, table)
    | .ok (mutation, answer) => (.ok answer, mutation.apply now key before table)

def ifSame (key expected : String) (mutation : Record → Mutation) (entry : Option Record) :
    Except RouteError (Mutation × Unit) :=
  match entry with
  | some record =>
    if record.value = expected then .ok (mutation record, ())
    else .error (.valueChanged key expected (some record.value))
  | none => .error (.valueChanged key expected none)

def perform : Engine Table := fun now call table =>
  match call with
  | .get key => (look now table key, table)
  | .getAll keys => (keys.mapM (look now table), table)
  | .getRenewing key ttl =>
    atomically now key table fun
      | some record => .ok (.put (record.renew now ttl), some record.value)
      | none => .ok (.keep, none)
  | .set key value ttl =>
    atomically now key table fun _ => .ok (.put (.bind value now ttl), ())
  | .claim key value ttl =>
    atomically now key table fun
      | some record => .ok (.keep, ⟨false, record.value⟩)
      | none => .ok (.put (.bind value now ttl), ⟨true, value⟩)
  | .exchange key value ttl =>
    atomically now key table fun entry => .ok (.put (.bind value now ttl), valueOf entry)
  | .renew key ttl =>
    atomically now key table fun
      | some record => .ok (.put (record.renew now ttl), ())
      | none => .error (.notFound key)
  | .renewIf key expected ttl =>
    atomically now key table (ifSame key expected fun record => .put (record.renew now ttl))
  | .delete key => atomically now key table fun _ => .ok (.remove, ())
  | .deleteIf key expected => atomically now key table (ifSame key expected fun _ => .remove)

def remaining (now : Nat) (table : Table) (key : String) : Except RouteError (Option Duration) :=
  (stored table key).map fun record =>
    (live now record).map fun r => .ofMillis (r.deadline - now)

def entries (now : Nat) (table : Table) (start : Option String) :
    Except RouteError (List Entry) := do
  let rows := table.entries.filter fun row =>
    (start.getD "").toList.isPrefixOf row.1.toList
  let records ← rows.mapM fun row => (decode row.2).map fun record => (row.1, record)
  return records.filterMap fun (key, record) =>
    if record.isExpired now then none
    else some ⟨key, record.value, .ofMillis (record.deadline - now)⟩

def purge (now : Nat) (table : Table) : Except RouteError Nat × Table :=
  match table.entries.mapM fun row => (decode row.2).map fun record => (row.1, record) with
  | .error e => (.error e, table)
  | .ok records =>
    let lapsed := records.filter fun row => row.2.isExpired now
    (.ok lapsed.length, lapsed.foldl (fun table row => table.erase row.1) table)

end Embedded

end StickyRouting.Store
