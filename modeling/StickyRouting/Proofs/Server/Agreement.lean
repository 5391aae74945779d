import StickyRouting.Proofs.Server.Scan
import StickyRouting.Proofs.Store.Refinement

set_option autoImplicit false

namespace StickyRouting.Server

open Store (Operation History)

structure Scan where
  pages : Nat → Link → String → List (Nat × List String)
  scanned : ∀ now link pattern, Scanned link.server now pattern (pages now link pattern)

def operate (scan : Scan) : Store.Keeper Link := fun now operation link =>
  match operation with
  | .call call => perform now call link
  | .remaining key => remaining now key link
  | .entries start =>
    let pages := scan.pages now link (startPattern (start.getD keyStart))
    entries now start { link with scripted := pages.map .ofPage }
  | .purge => (.ok 0, link)

def Shared (now : Nat) : Operation → Prop
  | .call call => CallFits now call
  | .remaining _ => True
  | .entries start => start.isSome = true
  | .purge => False

instance (now : Nat) (operation : Operation) : Decidable (Shared now operation) :=
  match operation with
  | .call call => inferInstanceAs (Decidable (CallFits now call))
  | .remaining _ => inferInstanceAs (Decidable True)
  | .entries start => inferInstanceAs (Decidable (start.isSome = true))
  | .purge => inferInstanceAs (Decidable False)

theorem operate_mirrors (scan : Scan) {last now : Nat} {operation : Operation} {link : Link}
    {map : Store.Ideal.Bindings} (forward : last ≤ now) (shared : Shared now operation)
    (mirrors : Mirrors last link map) :
    (operate scan now operation link).1 = (Store.Ideal.operate now operation map).1 ∧
      Mirrors now (operate scan now operation link).2 (Store.Ideal.operate now operation map).2 := by
  cases operation with
  | call call => exact perform_mirrors mirrors forward shared
  | remaining key => exact remaining_mirrors mirrors forward key
  | entries start =>
    obtain ⟨start, rfl⟩ := Option.isSome_iff_exists.1 shared
    exact entries_mirrors mirrors forward start (scan.scanned now link _)
  | purge => contradiction

theorem stores_agree (scan : Scan) (history : History) (ordered : history.Ordered)
    (shared : ∀ step ∈ history, Shared step.1 step.2) :
    (Store.run (operate scan) history {}).1 = (Store.run Store.Embedded.operate history ∅).1 := by
  have unpurged : ∀ step ∈ history, step.2.isPurge = false := by
    rintro ⟨now, operation⟩ member
    have can := shared _ member
    cases operation <;> first | rfl | contradiction
  -- Both stores are compared with the ideal one, which knows neither pages nor records.
  have start : Mirrors 0 {} ∅ := ⟨rfl, .empty 0⟩
  have alike := Store.run_eq_of_related id Shared Mirrors
    (fun forward can mirrors => by
      obtain ⟨answers, states⟩ := operate_mirrors scan forward can mirrors
      exact ⟨by rw [answers], states⟩)
    ordered shared (fun _ _ => Nat.zero_le _) start
  rw [Store.run_eq_ideal ordered unpurged]
  simpa using alike

def Scan.atOnce : Scan where
  pages now link pattern :=
    [(0, (link.server.items.filter fun _ item => link.server.isLive now item).keys.filter
      (Glob.agrees pattern))]
  scanned now link pattern := by
    refine ⟨.last _, ?_, fun key there matching => ?_⟩
    next =>
      intro page member key given
      obtain rfl := List.mem_singleton.1 member
      exact (List.mem_filter.1 given).2
    next =>
      refine ⟨_, List.mem_singleton_self _, List.mem_filter.2 ⟨?_, matching⟩⟩
      rwa [KeyMap.mem_keys_iff, KeyMap.get?_filter]

theorem stores_agree_at_once :
    let history : History := [(0, .call (.set "r_a" "x" (.ofMillis 5))), (1, .entries (some "r_")),
      (2, .call (.renewIf "r_a" "y" (.ofMillis 9))), (4, .call (.claim "r_a" "y" (.ofMillis 9))),
      (5, .call (.claim "r_a" "y" (.ofMillis 9))), (6, .remaining "r_a")]
    history.Ordered ∧ (∀ step ∈ history, Shared step.1 step.2) ∧
      (Store.run (operate .atOnce) history {}).1 =
        (Store.run Store.Embedded.operate history ∅).1 := by
  intro history
  have ordered : history.Ordered := by decide
  have shared : ∀ step ∈ history, Shared step.1 step.2 := by decide
  exact ⟨ordered, shared, stores_agree .atOnce history ordered shared⟩

end StickyRouting.Server
