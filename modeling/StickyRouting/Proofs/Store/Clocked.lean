import StickyRouting.Proofs.Store.Change

set_option autoImplicit false

namespace StickyRouting.Store

namespace Embedded

variable {now : Nat} {table : Table} {key : String} {ttl : Duration}

theorem look_of_none (here : stored table key = .ok none) : look now table key = .ok none := by
  rw [look, here]
  rfl

theorem look_of_live {r : Record} (here : stored table key = .ok (some r))
    (early : now < r.deadline) : look now table key = .ok (some r.value) := by
  have found : live now (some r) = some r := live_eq_some_iff.2 ⟨rfl, early⟩
  rw [look, here, Except.map, found]
  rfl

theorem perform_getRenewing_of_none (here : stored table key = .ok none) :
    perform now (.getRenewing key ttl) table = (.ok none, table) := by
  rw [perform, atomically_ok here rfl]
  rfl

theorem exists_perform_getRenewing_of_lapsed {before : Option Record}
    (here : stored table key = .ok before) (absent : live now before = none) (ttl : Duration) :
    ∃ left, perform now (.getRenewing key ttl) table = (.ok none, left) ∧
      ∀ other, stored left other = if other = key then .ok none else stored table other := by
  rw [perform, atomically_ok here (by rw [absent])]
  exact ⟨_, rfl, fun other => by rw [stored_keep here, absent]⟩

theorem perform_getRenewing_of_live {r : Record} (ttl : Duration) (here : stored table key = .ok (some r))
    (early : now < r.deadline) : perform now (.getRenewing key ttl) table =
      (.ok (some r.value), table.insert key (r.renew now ttl).encode) := by
  have found : live now (some r) = some r := live_eq_some_iff.2 ⟨rfl, early⟩
  rw [perform, atomically_ok here (by rw [found])]
  rfl

theorem perform_renew_of_live {r : Record} (ttl : Duration) (here : stored table key = .ok (some r))
    (early : now < r.deadline) : perform now (.renew key ttl) table =
      (.ok (), table.insert key (r.renew now ttl).encode) := by
  have found : live now (some r) = some r := live_eq_some_iff.2 ⟨rfl, early⟩
  rw [perform, atomically_ok here (by rw [found])]
  rfl

theorem perform_claim_of_live {r : Record} (value : String) (ttl : Duration)
    (here : stored table key = .ok (some r)) (early : now < r.deadline) :
    perform now (.claim key value ttl) table = (.ok ⟨false, r.value⟩, table) := by
  have found : live now (some r) = some r := live_eq_some_iff.2 ⟨rfl, early⟩
  rw [perform, atomically_ok here (by rw [found])]
  simp [Mutation.apply, Record.isExpired, Nat.not_le.2 early]

theorem perform_claim_of_none {value : String} (here : stored table key = .ok none) :
    perform now (.claim key value ttl) table =
      (.ok ⟨true, value⟩, table.insert key (Record.bind value now ttl).encode) := by
  rw [perform, atomically_ok here rfl]
  rfl

end Embedded

structure Clocked where
  readings : Nat
  table : Table

/-- Every call takes the next reading of the clock, whatever instant the caller has in mind. -/
def Clocked.perform (clock : Nat → Nat) : Engine Clocked := fun _ call store =>
  let (answer, table) := Embedded.perform (clock store.readings) call store.table
  (answer, ⟨store.readings + 1, table⟩)

theorem Clocked.perform_eq {clock : Nat → Nat} {now : Nat} {call : Call} {store : Clocked}
    {answer : Except RouteError call.Answer} {table : Table}
    (does : Embedded.perform (clock store.readings) call store.table = (answer, table)) :
    perform clock now call store = (answer, ⟨store.readings + 1, table⟩) := by
  simp only [perform, does]

end StickyRouting.Store
