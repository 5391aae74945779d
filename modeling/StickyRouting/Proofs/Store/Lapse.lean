import StickyRouting.Proofs.Store.Claims
import StickyRouting.Proofs.Store.Clocked

set_option autoImplicit false

namespace StickyRouting.Store

open Embedded (live perform stored)

namespace Event

def touched? (key : String) : Event → Option Nat
  | ⟨now, .call (.getRenewing k ttl), .ok (some _)⟩ => if k = key then some (deadline now ttl) else none
  | _ => none

def Rewrites (key : String) : Event → Prop
  | ⟨_, .call (.set k _ _), .ok _⟩ => k = key
  | ⟨_, .call (.exchange k _ _), .ok _⟩ => k = key
  | ⟨_, .call (.claim k _ _), .ok ⟨true, _⟩⟩ => k = key
  | ⟨_, .call (.renew k _), .ok _⟩ => k = key
  | ⟨_, .call (.renewIf k _ _), .ok _⟩ => k = key
  | _ => False

theorem effect_of_calm {key : String} {event : Event} (calm : ¬ event.Rewrites key) :
    event.effect.written? key = event.touched? key ∧ event.effect.installed? key = none := by
  obtain ⟨now, operation, answer⟩ := event
  cases operation with
  | remaining => exact ⟨rfl, rfl⟩
  | entries => exact ⟨rfl, rfl⟩
  | purge => exact ⟨rfl, rfl⟩
  | call call =>
    cases answer with
    | error => cases call <;> exact ⟨rfl, rfl⟩
    | ok result =>
      cases call with
      | set => exact ⟨if_neg calm, if_neg calm⟩
      | exchange => exact ⟨if_neg calm, if_neg calm⟩
      | claim =>
        obtain ⟨created, value⟩ := result
        cases created with
        | true => exact ⟨if_neg calm, if_neg calm⟩
        | false => exact ⟨rfl, rfl⟩
      | renew => exact ⟨if_neg calm, rfl⟩
      | renewIf => exact ⟨if_neg calm, rfl⟩
      | getRenewing => cases result <;> exact ⟨rfl, rfl⟩
      | _ => exact ⟨rfl, rfl⟩

inductive Fades (key : String) (event : Event) : Option Record → Option Record → Prop where
  | touched {before : Option Record} {r : Record} {due : Nat} (found : live event.now before = some r)
      (does : event.touched? key = some due) : Fades key event before (some ⟨r.value, due⟩)
  | stays {before : Option Record} (does : event.touched? key = none) : Fades key event before before
  | goes {before : Option Record} (does : event.touched? key = none)
      (cause : event.effect = .removes key ∨ live event.now before = none) : Fades key event before none

theorem Moves.fades {key : String} {event : Event} {before after : Option Record}
    (moves : event.Moves key before after) (calm : ¬ event.Rewrites key) : event.Fades key before after := by
  obtain ⟨written, installed⟩ := effect_of_calm calm
  cases moves with
  | installs does => simp [does, Effect.installed?] at installed
  | prolongs found does =>
    refine .touched found ?_
    simp [← written, does, Effect.written?]
  | removes does =>
    refine .goes ?_ (.inl does)
    simp [← written, does, Effect.written?]
  | keeps other => exact .stays (by rw [← written, Effect.written?_of_other other])
  | forgets other absent =>
    exact .goes (by rw [← written, Effect.written?_of_other other]) (.inr absent)

end Event

/-- The instant at which the entry is over after the events of a log: the last of them that has found and
renewed it sets it. -/
def due (key : String) (start : Nat) (log : List Event) : Nat :=
  log.foldl (fun due event => (event.touched? key).getD due) start

@[simp] theorem due_nil (key : String) (start : Nat) : due key start [] = start := rfl

@[simp] theorem due_cons (key : String) (start : Nat) (event : Event) (log : List Event) :
    due key start (event :: log) = due key ((event.touched? key).getD start) log := rfl

def Lapses (key : String) (due : Nat) (table : Table) : Prop :=
  ∃ before, stored table key = .ok before ∧ ∀ r, before = some r → r.deadline = due

def Lives (key value : String) (due last : Nat) (table : Table) : Prop :=
  last < due → stored table key = .ok (some ⟨value, due⟩)

section Run

variable {key value : String} {limit last now : Nat} {table : Table} {operation : Operation}
  {history : History}

theorem Lapses.operate (lapses : Lapses key limit table)
    (calm : ¬ Event.Rewrites key ⟨now, operation, (Embedded.operate now operation table).1⟩) :
    Lapses key
      ((Event.touched? key ⟨now, operation, (Embedded.operate now operation table).1⟩).getD limit)
      (Embedded.operate now operation table).2 := by
  obtain ⟨before, here, ends⟩ := lapses
  obtain ⟨after, left, moves⟩ := operate_moves here now operation
  refine ⟨after, left, fun r held => ?_⟩
  cases moves.fades calm with
  | touched found does =>
    obtain rfl := Option.some.inj held
    rw [does, Option.getD_some]
  | stays does =>
    rw [does, Option.getD_none]
    exact ends r held
  | goes => contradiction

theorem Lapses.run (lapses : Lapses key limit table)
    (calm : ∀ event ∈ (run Embedded.operate history table).1, ¬ event.Rewrites key) :
    Lapses key (due key limit (run Embedded.operate history table).1)
      (run Embedded.operate history table).2 := by
  -- The instant is general in the induction, since a read that renews moves it.
  induction history generalizing table limit with
  | nil => exact lapses
  | cons step rest ih =>
    obtain ⟨now, operation⟩ := step
    rw [run_cons] at calm ⊢
    exact ih (lapses.operate (calm _ (List.mem_cons_self ..)))
      fun event member => calm event (List.mem_cons_of_mem _ member)

theorem Lapses.get (lapses : Lapses key limit table) (late : limit ≤ now) :
    (perform now (.get key) table).1 = .ok none := by
  obtain ⟨before, here, ends⟩ := lapses
  have gone : live now before = none :=
    Embedded.live_eq_none_iff.2 fun r held => (ends r held).trans_le late
  rw [perform, Embedded.look, here, Except.map, gone]
  rfl

theorem Lives.operate (lives : Lives key value limit last table) (lapses : Lapses key limit table)
    (forward : last ≤ now)
    (calm : ¬ Event.Rewrites key ⟨now, operation, (Embedded.operate now operation table).1⟩)
    (spared : Event.effect ⟨now, operation, (Embedded.operate now operation table).1⟩ ≠ .removes key) :
    Lives key value
      ((Event.touched? key ⟨now, operation, (Embedded.operate now operation table).1⟩).getD limit) now
      (Embedded.operate now operation table).2 := by
  obtain ⟨before, here, ends⟩ := lapses
  obtain ⟨after, left, moves⟩ := operate_moves here now operation
  have whole (early : now < limit) : before = some ⟨value, limit⟩ := by
    have held := lives (Nat.lt_of_le_of_lt forward early)
    rw [here] at held
    exact Except.ok.inj held
  intro early
  rw [left]
  cases moves.fades calm with
  | touched found does =>
    -- The read has found the entry, so that its time was not over before.
    obtain ⟨held, live⟩ := Embedded.live_eq_some_iff.1 found
    rw [ends _ held] at live
    obtain rfl := Option.some.inj (held.symm.trans (whole live))
    rw [does, Option.getD_some]
  | stays does =>
    rw [does, Option.getD_none] at early ⊢
    rw [whole early]
  | goes does cause =>
    -- Nobody has deleted it, so that its time was over; but the instant has not come.
    rw [does, Option.getD_none] at early
    have absent := cause.resolve_left spared
    rw [whole early] at absent
    exact absurd (Embedded.live_eq_none_iff.1 absent _ rfl) (Nat.not_le.2 early)

theorem Lives.run (lives : Lives key value limit last table) (lapses : Lapses key limit table)
    (calm : ∀ event ∈ (run Embedded.operate history table).1, ¬ event.Rewrites key)
    (spared : ∀ event ∈ (run Embedded.operate history table).1, event.effect ≠ .removes key)
    (ordered : history.Ordered) (forward : last ≤ now)
    (within : ∀ step ∈ history, last ≤ step.1 ∧ step.1 ≤ now) :
    Lives key value (due key limit (run Embedded.operate history table).1) now
      (run Embedded.operate history table).2 := by
  -- `Lapses` goes along: what a step does to the record depends on where it ends, also after that instant.
  induction history generalizing table limit last with
  | nil => exact fun early => lives (Nat.lt_of_le_of_lt forward early)
  | cons step rest ih =>
    obtain ⟨instant, operation⟩ := step
    obtain ⟨first, tail⟩ := List.pairwise_cons.1 ordered
    obtain ⟨before, upto⟩ := within _ (List.mem_cons_self ..)
    rw [run_cons] at calm spared ⊢
    have calm_first := calm _ (List.mem_cons_self ..)
    exact ih (lives.operate lapses before calm_first (spared _ (List.mem_cons_self ..)))
      (lapses.operate calm_first) (fun event member => calm event (List.mem_cons_of_mem _ member))
      (fun event member => spared event (List.mem_cons_of_mem _ member)) tail upto
      fun step member => ⟨first step member, (within step (List.mem_cons_of_mem _ member)).2⟩

theorem Lives.get (lives : Lives key value limit now table) (early : now < limit) :
    (perform now (.get key) table).1 = .ok (some value) :=
  Embedded.look_of_live (lives early) early

end Run

end StickyRouting.Store
