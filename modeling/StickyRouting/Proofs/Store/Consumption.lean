import StickyRouting.Proofs.Store.Claims

set_option autoImplicit false

namespace StickyRouting.Store

open Embedded (live stored valueOf Readable Change)

namespace Embedded

def boundTo? (table : Table) (key : String) : Option String :=
  match stored table key with
  | .ok record => valueOf record
  | .error _ => none

theorem boundTo?_of_stored {table : Table} {key : String} {record : Option Record}
    (here : stored table key = .ok record) : boundTo? table key = valueOf record := by
  rw [boundTo?, here]

theorem boundTo?_congr {table other : Table} {key : String}
    (same : stored table key = stored other key) : boundTo? table key = boundTo? other key := by
  rw [boundTo?, same, boundTo?]

theorem valueOf_live (now : Nat) (record : Option Record) :
    valueOf (live now record) = none ∨ valueOf (live now record) = valueOf record := by
  cases found : live now record with
  | none => exact .inl rfl
  | some r => exact .inr (by rw [(live_eq_some_iff.1 found).1])

end Embedded

open Embedded (boundTo?)

namespace Event

def taken? (key : String) : Event → Option String
  | ⟨_, .call (.exchange k _ _), .ok old⟩ => if k = key then old else none
  | ⟨_, .call (.deleteIf k expected), .ok _⟩ => if k = key then some expected else none
  | _ => none

def installed? (key : String) (event : Event) : Option String := event.effect.installed? key

inductive Passes (key : String) (event : Event) : Option String → Option String → Prop where
  | hands {before after : Option String}
      (out : event.taken? key = none ∨ event.taken? key = before)
      (made : event.installed? key = after) : Passes key event before after
  | keeps {before : Option String} (out : event.taken? key = none)
      (made : event.installed? key = none) : Passes key event before before

variable {now : Nat} {key : String} {table : Table}

theorem passes_of_change {call : Call} {answer : Except RouteError call.Answer}
    {before after : Option Record} (about : call.target? = some key)
    (change : Change now call before answer after) :
    Passes key ⟨now, .call call, answer⟩ (valueOf before) (valueOf after) := by
  cases change <;> simp only [Call.target?, Option.some.injEq] at about <;> subst about
  case touched found =>
    rw [(Embedded.live_eq_some_iff.1 found).1]
    exact .keeps rfl rfl
  case missed => exact .hands (.inl rfl) rfl
  case set => exact .hands (.inl rfl) (if_pos rfl)
  case claimed => exact .hands (.inl rfl) (if_pos rfl)
  case lost => exact .keeps rfl rfl
  case exchanged =>
    refine .hands ?_ (if_pos rfl)
    rw [taken?, if_pos rfl]
    exact Embedded.valueOf_live now before
  case renewed found =>
    rw [(Embedded.live_eq_some_iff.1 found).1]
    exact .keeps rfl rfl
  case notFound => exact .keeps rfl rfl
  case renewedIf found =>
    rw [(Embedded.live_eq_some_iff.1 found).1]
    exact .keeps rfl rfl
  case renewalRefused => exact .keeps rfl rfl
  case deleted => exact .hands (.inl rfl) rfl
  case deletedIf found =>
    refine .hands (.inr ?_) rfl
    rw [taken?, if_pos rfl, (Embedded.live_eq_some_iff.1 found).1]
    rfl
  case deletionRefused => exact .keeps rfl rfl

theorem taken?_of_other {call : Call} {answer : Except RouteError call.Answer}
    (other : call.target? ≠ some key) : taken? key ⟨now, .call call, answer⟩ = none := by
  unfold taken?
  split <;> simp_all [Call.target?]

theorem installed?_of_other {call : Call} {answer : Except RouteError call.Answer}
    (other : call.target? ≠ some key) : installed? key ⟨now, .call call, answer⟩ = none :=
  Effect.installed?_of_other (effect_of_target other)

theorem passes_of_error {call : Call} {e : RouteError} (before : Option String) :
    Passes key ⟨now, .call call, .error e⟩ before before := by
  cases call <;> exact .keeps rfl rfl

theorem perform_passes (now : Nat) (call : Call) (table : Table) (key : String) :
    Passes key ⟨now, .call call, (Embedded.perform now call table).1⟩ (boundTo? table key)
      (boundTo? (Embedded.perform now call table).2 key) := by
  by_cases about : call.target? = some key
  next =>
    cases here : stored table key with
    | error e =>
      rw [Embedded.perform_unreadable about here]
      exact passes_of_error _
    | ok before =>
      obtain ⟨after, change, left⟩ := Embedded.perform_change_self now about here
      rw [Embedded.boundTo?_of_stored here, Embedded.boundTo?_of_stored left]
      exact passes_of_change about change
  next =>
    rw [Embedded.boundTo?_congr (Embedded.stored_perform_of_target_ne now table about)]
    exact .keeps (taken?_of_other about) (installed?_of_other about)

theorem operate_passes (now : Nat) (operation : Operation) (table : Table) (key : String) :
    Passes key ⟨now, operation, (Embedded.operate now operation table).1⟩ (boundTo? table key)
      (boundTo? (Embedded.operate now operation table).2 key) := by
  cases operation with
  | call call => exact perform_passes now call table key
  | remaining => exact .keeps rfl rfl
  | entries => exact .keeps rfl rfl
  | purge =>
    rcases Embedded.purge_or_readable now table with same | readable
    next =>
      rw [Embedded.operate, same]
      exact .keeps rfl rfl
    next =>
      obtain ⟨-, stores⟩ := Embedded.purge_of_readable readable now
      rw [Embedded.operate, Embedded.boundTo?_of_stored (stores key),
        Embedded.boundTo?_of_stored (Embedded.stored_of_readable readable key)]
      -- An entry that is over goes, and nobody has taken its value.
      rcases Embedded.valueOf_live now ((Embedded.records table).get? key) with gone | same
      next =>
        rw [gone]
        exact .hands (.inl rfl) rfl
      next =>
        rw [same]
        exact .keeps rfl rfl

end Event

theorem taken_step {event : Event} {key : String} {before after : Option String}
    (passes : event.Passes key before after) (value : String) :
    (if event.taken? key = some value then 1 else 0) + (if after = some value then 1 else 0) ≤
      (if event.installed? key = some value then 1 else 0) +
        if before = some value then 1 else 0 := by
  cases passes with
  | hands out made =>
    subst made
    rcases out with out | out <;> rw [out]
    next => simp
    next => omega
  | keeps out made => simp [out, made]

def taken (key value : String) (log : List Event) : Nat :=
  log.countP fun event => event.taken? key = some value

def installed (key value : String) (log : List Event) : Nat :=
  log.countP fun event => event.installed? key = some value

/-- A value is taken from a key at most once for each time that it was put there, the record of the
beginning included. -/
theorem taken_le_installed (history : History) (table : Table) (key value : String) :
    taken key value (run Embedded.operate history table).1 ≤
      installed key value (run Embedded.operate history table).1 +
        if boundTo? table key = some value then 1 else 0 := by
  induction history generalizing table with
  | nil => simp [taken]
  | cons step rest ih =>
    obtain ⟨now, operation⟩ := step
    have first := taken_step (Event.operate_passes now operation table key) value
    have later := ih (Embedded.operate now operation table).2
    simp only [taken, installed] at later
    simp only [run_cons, taken, installed, List.countP_cons, decide_eq_true_eq]
    omega

end StickyRouting.Store
