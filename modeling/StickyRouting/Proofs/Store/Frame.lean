import StickyRouting.KeyMap.Lemmas
import StickyRouting.Store.Embedded

set_option autoImplicit false

namespace StickyRouting.Store

def Call.keys : Call → List String
  | .get key => [key]
  | .getRenewing key _ => [key]
  | .getAll keys => keys
  | .set key _ _ => [key]
  | .claim key _ _ => [key]
  | .exchange key _ _ => [key]
  | .renew key _ => [key]
  | .renewIf key _ _ => [key]
  | .delete key => [key]
  | .deleteIf key _ => [key]

namespace Embedded

theorem stored_congr {table other : Table} {key : String} (same : table.get? key = other.get? key) :
    stored table key = stored other key := by
  rw [stored, stored, same]

theorem look_congr {table other : Table} {key : String} (same : table.get? key = other.get? key)
    (now : Nat) : look now table key = look now other key := by
  rw [look, look, stored_congr same]

namespace Mutation

variable {now : Nat} {key : String} {before : Option Record} {table other : Table}

theorem get?_apply_of_ne (mutation : Mutation) {name : String} (ne : name ≠ key) :
    (mutation.apply now key before table).get? name = table.get? name := by
  cases mutation with
  | put record => simp only [apply, KeyMap.get?_insert, ne, if_false]
  | remove => simp only [apply, KeyMap.get?_erase, ne, if_false]
  | keep =>
    simp only [apply]
    split
    next => simp only [KeyMap.get?_erase, ne, if_false]
    next => rfl

theorem get?_apply_congr (mutation : Mutation) (same : table.get? key = other.get? key) :
    (mutation.apply now key before table).get? key = (mutation.apply now key before other).get? key := by
  cases mutation with
  | put record => simp only [apply, KeyMap.get?_insert_self]
  | remove => simp only [apply, KeyMap.get?_erase_self]
  | keep =>
    simp only [apply]
    split
    next => simp only [KeyMap.get?_erase_self]
    next => exact same

end Mutation

section Atomically

variable {α : Type} {now : Nat} {key : String} {table other : Table}
  {step : Option Record → Except RouteError (Mutation × α)}

theorem get?_atomically_of_ne {name : String} (ne : name ≠ key) :
    (atomically now key table step).2.get? name = table.get? name := by
  unfold atomically
  split
  next => rfl
  next =>
    split
    next => rfl
    next => exact Mutation.get?_apply_of_ne _ ne

theorem atomically_congr (same : table.get? key = other.get? key) :
    (atomically now key table step).1 = (atomically now key other step).1 ∧
      (atomically now key table step).2.get? key = (atomically now key other step).2.get? key := by
  unfold atomically
  rw [stored_congr same]
  split
  next => exact ⟨rfl, same⟩
  next =>
    split
    next => exact ⟨rfl, same⟩
    next => exact ⟨rfl, Mutation.get?_apply_congr _ same⟩

end Atomically

theorem get?_perform_of_not_mem (now : Nat) (call : Call) (table : Table) {key : String}
    (other : key ∉ call.keys) : (perform now call table).2.get? key = table.get? key := by
  cases call with
  | get => rfl
  | getAll => rfl
  | _ => exact get?_atomically_of_ne fun same => other (by simp [Call.keys, same])

theorem looks_congr {keys : List String} {table other : Table}
    (same : ∀ key ∈ keys, table.get? key = other.get? key) (now : Nat) :
    keys.mapM (look now table) = keys.mapM (look now other) := by
  induction keys with
  | nil => rfl
  | cons key keys ih =>
    rw [List.mapM_cons, List.mapM_cons, look_congr (same key (List.mem_cons_self ..)),
      ih fun name member => same name (List.mem_cons_of_mem _ member)]

theorem perform_congr (now : Nat) (call : Call) {table other : Table}
    (same : ∀ key ∈ call.keys, table.get? key = other.get? key) :
    (perform now call table).1 = (perform now call other).1 ∧
      ∀ key ∈ call.keys,
        (perform now call table).2.get? key = (perform now call other).2.get? key := by
  cases call with
  | get key => exact ⟨look_congr (same key (List.mem_singleton_self _)) now, same⟩
  | getAll keys => exact ⟨looks_congr same now, same⟩
  | _ =>
    simp only [Call.keys, List.mem_singleton, forall_eq] at same ⊢
    exact atomically_congr same

theorem perform_congr_of_only (now : Nat) {call : Call} {table other : Table} {key : String}
    (only : ∀ name ∈ call.keys, name = key) (same : table.get? key = other.get? key) :
    (perform now call table).1 = (perform now call other).1 ∧
      (perform now call table).2.get? key = (perform now call other).2.get? key := by
  obtain ⟨answers, leaves⟩ := perform_congr now call fun name member => only name member ▸ same
  refine ⟨answers, ?_⟩
  by_cases named : key ∈ call.keys
  next => exact leaves key named
  next => rw [get?_perform_of_not_mem now call table named, get?_perform_of_not_mem now call other named,
    same]

end Embedded

end StickyRouting.Store
