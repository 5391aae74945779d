import StickyRouting.Store.Embedded

set_option autoImplicit false

namespace StickyRouting.Store

inductive Operation where
  | call (call : Call)
  | remaining (key : String)
  | entries (start : Option String)
  | purge
  deriving Repr, DecidableEq

abbrev Operation.Answer : Operation → Type
  | .call c => c.Answer
  | .remaining _ => Option Duration
  | .entries _ => List Entry
  | .purge => Nat

structure Event where
  now : Nat
  operation : Operation
  answer : Except RouteError operation.Answer

abbrev Keeper (σ : Type) : Type :=
  Nat → (operation : Operation) → σ → Except RouteError operation.Answer × σ

def Embedded.operate : Keeper Table := fun now operation table =>
  match operation with
  | .call call => perform now call table
  | .remaining key => (remaining now table key, table)
  | .entries start => (entries now table start, table)
  | .purge => purge now table

abbrev History : Type := List (Nat × Operation)

abbrev History.Ordered (history : History) : Prop := history.Pairwise fun a b => a.1 ≤ b.1

section Run

variable {σ τ γ : Type}

def run (operate : Keeper σ) : History → σ → List Event × σ
  | [], state => ([], state)
  | (now, operation) :: rest, state =>
    let (answer, state) := operate now operation state
    let (events, state) := run operate rest state
    (⟨now, operation, answer⟩ :: events, state)

@[simp] theorem run_nil (operate : Keeper σ) (state : σ) : run operate [] state = ([], state) := rfl

@[simp] theorem run_cons (operate : Keeper σ) (now : Nat) (operation : Operation)
    (rest : History) (state : σ) :
    run operate ((now, operation) :: rest) state =
      (⟨now, operation, (operate now operation state).1⟩ ::
          (run operate rest (operate now operation state).2).1,
        (run operate rest (operate now operation state).2).2) := rfl

theorem run_append (operate : Keeper σ) (earlier later : History) (state : σ) :
    run operate (earlier ++ later) state =
      ((run operate earlier state).1 ++ (run operate later (run operate earlier state).2).1,
        (run operate later (run operate earlier state).2).2) := by
  induction earlier generalizing state with
  | nil => rfl
  | cons step earlier ih =>
    obtain ⟨now, operation⟩ := step
    simp [ih]

theorem run_eq_append {operate : Keeper σ} {history : History} {state : σ} {earlier later : List Event}
    {event : Event} (log : (run operate history state).1 = earlier ++ event :: later) :
    ∃ before now operation after, history = before ++ (now, operation) :: after ∧
      (run operate before state).1 = earlier ∧
      event = ⟨now, operation, (operate now operation (run operate before state).2).1⟩ ∧
      (run operate after (operate now operation (run operate before state).2).2).1 = later := by
  -- The state before the event is that after the steps whose answers stand before it.
  induction history generalizing state earlier with
  | nil => simp at log
  | cons step rest ih =>
    obtain ⟨now, operation⟩ := step
    rw [run_cons] at log
    cases earlier with
    | nil =>
      obtain ⟨rfl, rfl⟩ := List.cons.inj log
      exact ⟨[], now, operation, rest, rfl, rfl, rfl, rfl⟩
    | cons first earlier =>
      obtain ⟨rfl, tail⟩ := List.cons.inj log
      obtain ⟨before, then_, asked, after, rfl, answered, answer, left⟩ := ih tail
      exact ⟨(now, operation) :: before, then_, asked, after, rfl, by rw [run_cons, answered], answer,
        left⟩

theorem mem_run {operate : Keeper σ} {history : History} {state : σ} {event : Event}
    (member : event ∈ (run operate history state).1) :
    ∃ now operation s, (now, operation) ∈ history ∧
      event = ⟨now, operation, (operate now operation s).1⟩ := by
  induction history generalizing state with
  | nil => simp at member
  | cons step rest ih =>
    obtain ⟨now, operation⟩ := step
    rw [run_cons] at member
    rcases List.mem_cons.1 member with rfl | member
    · exact ⟨now, operation, state, List.mem_cons_self .., rfl⟩
    · obtain ⟨now, operation, s, asked, answered⟩ := ih member
      exact ⟨now, operation, s, List.mem_cons_of_mem _ asked, answered⟩

theorem run_eq_of_related {left : Keeper σ} {right : Keeper τ} (seen : Event → γ)
    (allowed : Nat → Operation → Prop) (related : Nat → σ → τ → Prop)
    (alike : ∀ {last now : Nat} {operation : Operation} {s : σ} {t : τ}, last ≤ now →
      allowed now operation → related last s t →
        seen ⟨now, operation, (left now operation s).1⟩ =
            seen ⟨now, operation, (right now operation t).1⟩ ∧
          related now (left now operation s).2 (right now operation t).2)
    {history : History} (ordered : history.Ordered)
    (within : ∀ step ∈ history, allowed step.1 step.2) {last : Nat}
    (after : ∀ step ∈ history, last ≤ step.1) {s : σ} {t : τ} (start : related last s t) :
    (run left history s).1.map seen = (run right history t).1.map seen := by
  -- The relation speaks of an instant, and each step moves that instant on to its own.
  induction history generalizing last s t with
  | nil => rfl
  | cons step rest ih =>
    obtain ⟨now, operation⟩ := step
    obtain ⟨first, tail⟩ := List.pairwise_cons.1 ordered
    obtain ⟨answers, states⟩ := alike (after _ (List.mem_cons_self ..))
      (within _ (List.mem_cons_self ..)) start
    have later := ih tail (fun step member => within step (List.mem_cons_of_mem _ member)) first
      states
    simp [answers, later]

end Run

end StickyRouting.Store
