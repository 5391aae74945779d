import StickyRouting.Store.Call

set_option autoImplicit false

namespace StickyRouting.Store

inductive Call.Kind where
  | get
  | getRenewing
  | getAll
  | set
  | claim
  | exchange
  | renew
  | renewIf
  | delete
  | deleteIf
  deriving Repr, DecidableEq

def Call.kind : Call → Call.Kind
  | .get _ => .get
  | .getRenewing _ _ => .getRenewing
  | .getAll _ => .getAll
  | .set _ _ _ => .set
  | .claim _ _ _ => .claim
  | .exchange _ _ _ => .exchange
  | .renew _ _ => .renew
  | .renewIf _ _ _ => .renewIf
  | .delete _ => .delete
  | .deleteIf _ _ => .deleteIf

structure Rehearsal where
  faults : List (Call.Kind × RouteError) := []
  fault : Option RouteError := none
  /-- Who comes first in every claim. -/
  rival : Option String := none
  misses : Bool := false
  /-- The kinds of the calls so far, the last one first. -/
  calls : List Call.Kind := []
  deriving Repr

namespace Rehearsal

variable {σ : Type}

def faultFor (rehearsal : Rehearsal) (kind : Call.Kind) : Option RouteError :=
  (rehearsal.faults.lookup kind).or rehearsal.fault

def count (rehearsal : Rehearsal) (kind : Call.Kind) : Nat := rehearsal.calls.count kind

def answer (rehearsal : Rehearsal) (engine : Engine σ) : Engine σ := fun now call store =>
  match call with
  | .getRenewing key ttl =>
    if rehearsal.misses then (.ok none, store) else engine now (.getRenewing key ttl) store
  | .claim key value ttl =>
    match rehearsal.rival with
    | none => engine now (.claim key value ttl) store
    | some rival => engine now (.claim key value ttl) (engine now (.claim key rival ttl) store).2
  | call => engine now call store

def perform (engine : Engine σ) : Engine (Rehearsal × σ) := fun now call (rehearsal, store) =>
  let counted := { rehearsal with calls := call.kind :: rehearsal.calls }
  match rehearsal.faultFor call.kind with
  | some e => (.error e, counted, store)
  | none =>
    let (reply, store) := rehearsal.answer engine now call store
    (reply, counted, store)

end Rehearsal

end StickyRouting.Store
