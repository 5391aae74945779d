import StickyRouting.Proofs.Picker.Selections
import Mathlib.Algebra.Order.Ring.Int
import Mathlib.Order.Disjoint

set_option autoImplicit false

namespace StickyRouting.Picker

open Node (addresses)

variable {ι ω τ : Type} [Zero ω] [Add ω] [Sub ω] [LT ω] [DecidableLT ω]

def Keeps (picker : Picker ω) (address : String) (current : ω) (idle : Nat) : Prop :=
  ∃ lastSeen, picker.scores.get? address = some ⟨current, lastSeen⟩ ∧ picker.tick ≤ lastSeen + idle

section Keeps

variable {picker : Picker ω} {roster : List (Node ω τ)} {address : String} {current : ω} {idle : Nat}

omit [Add ω] [Sub ω] [LT ω] [DecidableLT ω] in
theorem Keeps.score_eq (keeps : Keeps picker address current idle) : picker.score address = current := by
  obtain ⟨lastSeen, held, -⟩ := keeps
  rw [Picker.score_eq, scoreIn, held]
  rfl

theorem keeps_select (picker : Picker ω) (inside : address ∈ addresses roster) :
    Keeps (picker.select roster).2 address ((picker.select roster).2.score address) 0 := by
  obtain ⟨node, member, -⟩ := Node.mem_addresses.1 inside
  have counted := picker.tick_select (List.ne_nil_of_mem member)
  exact ⟨picker.tick + 1, picker.get?_select inside, Nat.le_of_eq counted⟩

theorem Keeps.select_of_not_mem (keeps : Keeps picker address current idle)
    (outside : address ∉ addresses roster) (short : idle + 1 < idleSelections) :
    Keeps (picker.select roster).2 address current (idle + 1) := by
  obtain ⟨lastSeen, held, late⟩ := keeps
  by_cases empty : roster = []
  next =>
    subst empty
    exact ⟨lastSeen, held, Nat.le_succ_of_le late⟩
  next =>
    refine ⟨lastSeen, ?_, ?_⟩
    · rw [picker.get?_select_of_not_mem empty outside]
      refine get?_sweep_of_recent held ?_
      show picker.tick + 1 - lastSeen < idleSelections
      omega
    · rw [picker.tick_select empty]
      omega

end Keeps

def afterTurns (picker : Picker ω) (rosters : ι → List (Node ω τ)) (turn : Nat → ι) : Nat → Picker ω
  | 0 => picker
  | n + 1 => ((afterTurns picker rosters turn n).select (rosters (turn n))).2

/-- Up to this one, no two turns of a roster that follow each other are further apart than an address may
sit out. -/
def Regular (turn : Nat → ι) (n : Nat) : Prop :=
  ∀ i j, i < j → j ≤ n → turn i = turn j → (∀ k, i < k → k < j → turn k ≠ turn j) →
    j ≤ i + idleSelections

variable [DecidableEq ι]

def turnsOf (turn : Nat → ι) (who : ι) (n : Nat) : Nat := Nat.count (turn · = who) n

/-- What the picker knows of a roster between its turns: nothing before the first one, and then, for as
long as the next one would be in time, what a picker of its own would know. -/
inductive Remembers (picker : Picker ω) (rosters : ι → List (Node ω τ)) (turn : Nat → ι) (who : ι)
    (n : Nat) : Prop where
  | unserved (never : ∀ k < n, turn k ≠ who)
      (zero : ∀ address ∈ addresses (rosters who), (picker.afterTurns rosters turn n).score address = 0)
  | served (last : Nat) (past : last < n) (own : turn last = who)
      (since : ∀ k, last < k → k < n → turn k ≠ who)
      (keeps : n ≤ last + idleSelections → ∀ address ∈ addresses (rosters who),
        Keeps (picker.afterTurns rosters turn n) address
          (((empty : Picker ω).after (rosters who) (turnsOf turn who n)).score address) (n - (last + 1)))

section Turns

variable {picker : Picker ω} {rosters : ι → List (Node ω τ)} {turn : Nat → ι} {who : ι} {n : Nat}

theorem Remembers.agrees (remembers : Remembers picker rosters turn (turn n) n) (regular : Regular turn n) :
    ∀ address ∈ addresses (rosters (turn n)), (picker.afterTurns rosters turn n).score address =
      ((empty : Picker ω).after (rosters (turn n)) (turnsOf turn (turn n) n)).score address := by
  intro address member
  cases remembers with
  | unserved never zero =>
    rw [turnsOf, Nat.count_of_forall_not never, zero address member]
    rfl
  | served last past own since keeps =>
    exact (keeps (regular last n past (Nat.le_refl n) own since) address member).score_eq

theorem Remembers.succ
    (apart : ∀ a b, a ≠ b → Disjoint (addresses (rosters a)) (addresses (rosters b)))
    (regular : Regular turn n) (remembers : Remembers picker rosters turn who n) :
    Remembers picker rosters turn who (n + 1) := by
  by_cases own : turn n = who
  next =>
    subst own
    have scores := (select_congr (remembers.agrees regular)).2
    refine .served n (Nat.lt_succ_self n) rfl (fun k after before => by omega) fun _ address member => ?_
    rw [turnsOf, Nat.count_succ, if_pos rfl, Nat.sub_self, after_succ, ← turnsOf, ← scores address member]
    exact keeps_select _ member
  next =>
    have elsewhere : ∀ address ∈ addresses (rosters who), address ∉ addresses (rosters (turn n)) :=
      fun address member => Finset.disjoint_left.1 (apart who (turn n) (Ne.symm own)) member
    cases remembers with
    | unserved never zero =>
      refine .unserved (fun k before => ?_) fun address member =>
        score_select_of_zero (elsewhere address member) (zero address member)
      rcases Nat.lt_succ_iff_lt_or_eq.1 before with before | rfl
      · exact never k before
      · exact own
    | served last past mine since keeps =>
      refine .served last (Nat.lt_succ_of_lt past) mine (fun k after before => ?_)
        fun inTime address member => ?_
      · rcases Nat.lt_succ_iff_lt_or_eq.1 before with before | rfl
        · exact since k after before
        · exact own
      · have kept := (keeps (by omega) address member).select_of_not_mem (elsewhere address member)
          (by omega)
        rw [turnsOf, Nat.count_succ, if_neg own, Nat.add_zero, ← turnsOf]
        rwa [show n + 1 - (last + 1) = n - (last + 1) + 1 by omega]

theorem remembers
    (apart : ∀ a b, a ≠ b → Disjoint (addresses (rosters a)) (addresses (rosters b)))
    (clear : ∀ who, ∀ address ∈ addresses (rosters who), picker.score address = 0) (who : ι)
    (regular : Regular turn n) : Remembers picker rosters turn who n := by
  induction n with
  | zero => exact .unserved nofun (clear who)
  | succ n ih =>
    have earlier : Regular turn n := fun i j before upto => regular i j before (Nat.le_succ_of_le upto)
    exact (ih earlier).succ apart earlier

end Turns

/-- As long as each roster has its next turn within `idleSelections`, every selection chooses, and
leaves for its addresses the scores, as if a new picker served that roster alone. -/
theorem rosters_undisturbed (picker : Picker ω) (rosters : ι → List (Node ω τ)) (turn : Nat → ι)
    (apart : ∀ a b, a ≠ b → Disjoint (addresses (rosters a)) (addresses (rosters b)))
    (clear : ∀ who, ∀ address ∈ addresses (rosters who), picker.score address = 0) (n : Nat)
    (regular : Regular turn n) :
    let roster := rosters (turn n)
    let turns := turnsOf turn (turn n) n
    ((picker.afterTurns rosters turn n).select roster).1 = (empty : Picker ω).chosen roster turns ∧
      ∀ address ∈ addresses roster, (picker.afterTurns rosters turn (n + 1)).score address =
        ((empty : Picker ω).after roster (turns + 1)).score address :=
  select_congr ((remembers apart clear (turn n) regular).agrees regular)

def sides : Bool → List (Node Int Unit)
  | true => [⟨"a", 1, "blue", ()⟩, ⟨"b", 1, "blue", ()⟩]
  | false => [⟨"c", 1, "green", ()⟩, ⟨"d", 2, "green", ()⟩]

def seldom (n : Nat) : Bool := n % idleSelections = 0

theorem regular_seldom (n : Nat) : Regular seldom n := by
  intro i j before _ same apart
  by_contra far
  have again : seldom (i + idleSelections) = seldom i := by simp [seldom]
  exact apart (i + idleSelections) (by simp [idleSelections]) (Nat.not_le.1 far) (again.trans same)

/-- The second turn of the first roster comes as late as it may, right after a sweep. -/
theorem rosters_undisturbed_seldom :
    (∀ a b, a ≠ b → Disjoint (addresses (sides a)) (addresses (sides b))) ∧
      (∀ who, ∀ address ∈ addresses (sides who), (empty : Picker Int).score address = 0) ∧
      Regular seldom 1024 ∧ seldom 0 = true ∧ seldom 1024 = true ∧
      ((empty : Picker Int).afterTurns sides seldom 1024 |>.select (sides true)).1 =
        some ⟨"b", 1, "blue", ()⟩ := by
  have apart : ∀ a b, a ≠ b → Disjoint (addresses (sides a)) (addresses (sides b)) := by decide
  have clear : ∀ who, ∀ address ∈ addresses (sides who), (empty : Picker Int).score address = 0 :=
    fun _ _ _ => rfl
  have counted : turnsOf seldom true 1024 = 1 := by decide +kernel
  obtain ⟨chosen, -⟩ := rosters_undisturbed empty sides seldom apart clear 1024 (regular_seldom 1024)
  have second : (empty : Picker Int).chosen (sides true) 1 = some ⟨"b", 1, "blue", ()⟩ := by decide
  rw [show seldom 1024 = true from rfl, counted, second] at chosen
  exact ⟨apart, clear, regular_seldom 1024, rfl, rfl, chosen⟩

end StickyRouting.Picker
