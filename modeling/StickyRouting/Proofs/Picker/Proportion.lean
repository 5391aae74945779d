import StickyRouting.Proofs.Picker.Selections
import Mathlib.Algebra.BigOperators.Ring.Finset
import Mathlib.Algebra.Order.BigOperators.Group.Finset
import Mathlib.Algebra.Order.Ring.Int
import Mathlib.Data.Finset.Order
import Mathlib.Tactic.Linarith
import Mathlib.Tactic.Ring

/-!
The scores of a roster's addresses keep their sum; a winner has at least the mean of the raised scores,
so that the charge never takes it far below zero.
-/

set_option autoImplicit false

namespace StickyRouting

namespace Node

def backends {ω τ : Type} (roster : List (Node ω τ)) : Int := (addresses roster).card

end Node

namespace Picker

open Node (total share addresses backends)

variable {τ : Type} {picker : Picker Int} {roster : List (Node Int τ)}

def balance (picker : Picker Int) (roster : List (Node Int τ)) : Int :=
  ∑ address ∈ addresses roster, picker.score address

section Select

variable {winner : Node Int τ}

theorem Wins.sum_raised (picker : Picker Int) (roster : List (Node Int τ)) :
    ∑ address ∈ addresses roster, (picker.score address + share roster address) =
      picker.balance roster + total roster := by
  rw [Finset.sum_add_distrib, Node.sum_share (Finset.Subset.refl _), balance]

theorem Wins.balance_select (wins : Wins picker roster winner) :
    (picker.select roster).2.balance roster = picker.balance roster := by
  rw [balance, Finset.sum_congr rfl wins.scores, Finset.sum_sub_distrib, Wins.sum_raised,
    Finset.sum_ite_eq' _ _ fun _ => total roster,
    if_pos (Node.address_mem_addresses wins.member), add_sub_cancel_right]

theorem Wins.mean_le (wins : Wins picker roster winner) :
    picker.balance roster + total roster ≤
      backends roster * (picker.score winner.address + share roster winner.address) := by
  rw [← Wins.sum_raised, backends, ← nsmul_eq_mul]
  exact Finset.sum_le_card_nsmul _ _ _ wins.greatest

/-- No score is below the floor, and a charge will not take the score of a winner there. The floor is
that of the scores multiplied by the number of backends, which keeps the mean whole. -/
structure Above (floor : Int) (picker : Picker Int) (roster : List (Node Int τ)) : Prop where
  scores : ∀ address ∈ addresses roster, floor ≤ backends roster * picker.score address
  mean : floor ≤ picker.balance roster - (backends roster - 1) * total roster

variable {floor : Int}

theorem Above.select (above : Above floor picker roster) (wins : Wins picker roster winner)
    (nonneg : ∀ node ∈ roster, 0 ≤ node.weight) : Above floor (picker.select roster).2 roster := by
  refine ⟨fun address member => ?_, wins.balance_select ▸ above.mean⟩
  rw [wins.scores address member]
  split
  next same =>
    rw [same]
    linarith [wins.mean_le, above.mean]
  next =>
    have old := above.scores address member
    have raised := mul_nonneg (Int.natCast_nonneg (addresses roster).card) (share_nonneg nonneg address)
    rw [backends] at old ⊢
    linarith

theorem Above.sum_excess (floor : Int) (picker : Picker Int) (roster : List (Node Int τ)) :
    ∑ address ∈ addresses roster, (backends roster * picker.score address - floor) =
      backends roster * picker.balance roster - backends roster * floor := by
  rw [Finset.sum_sub_distrib, ← Finset.mul_sum, Finset.sum_const, nsmul_eq_mul, balance, backends]

theorem Above.score_le (above : Above floor picker roster) {address : String}
    (member : address ∈ addresses roster) :
    backends roster * picker.score address ≤
      backends roster * picker.balance roster - (backends roster - 1) * floor := by
  have part := Finset.single_le_sum (fun other inside => sub_nonneg.2 (above.scores other inside)) member
  rw [Above.sum_excess] at part
  linarith

theorem Above.score_le_of_lost (above : Above floor picker roster) (wins : Wins picker roster winner)
    (nonneg : ∀ node ∈ roster, 0 ≤ node.weight) {address : String}
    (member : address ∈ addresses roster) (lost : address ≠ winner.address) :
    2 * (backends roster * (picker.select roster).2.score address) ≤
      backends roster * picker.balance roster + backends roster * total roster -
        (backends roster - 2) * floor := by
  have inside := Node.address_mem_addresses wins.member
  have next := above.select wins nonneg
  have parts := Finset.add_le_sum (fun other inside => sub_nonneg.2 (next.scores other inside)) member
    inside lost
  rw [Above.sum_excess, wins.balance_select] at parts
  -- Before the winner paid it was not behind.
  have paid : (picker.select roster).2.score address - total roster ≤
      (picker.select roster).2.score winner.address := by
    rw [wins.scores _ member, wins.scores _ inside, if_neg lost, if_pos rfl]
    linarith [wins.greatest address member]
  have scaled := mul_le_mul_of_nonneg_left paid (Int.natCast_nonneg (addresses roster).card)
  rw [← backends] at scaled
  linarith

end Select

section After

variable (nonempty : roster ≠ []) (nonneg : ∀ node ∈ roster, 0 ≤ node.weight)
include nonempty nonneg

theorem score_after (picker : Picker Int) {address : String} (member : address ∈ addresses roster)
    (n : Nat) : (picker.after roster n).score address =
      picker.score address + n * share roster address -
        total roster * picker.wins roster address n := by
  induction n with
  | zero => simp
  | succ n ih =>
    obtain ⟨winner, wins⟩ := (picker.after roster n).exists_wins nonempty nonneg
    have won : picker.WonBy roster address n ↔ address = winner.address := by
      rw [WonBy, chosen, wins.chosen]
      simp [eq_comm]
    rw [after_succ, wins.scores address member, ih, wins_succ]
    split
    next same =>
      rw [if_pos (won.2 same)]
      push_cast
      ring
    next other =>
      rw [if_neg fun same => other (won.1 same)]
      push_cast
      ring

theorem balance_after (picker : Picker Int) (n : Nat) :
    (picker.after roster n).balance roster = picker.balance roster := by
  induction n with
  | zero => rfl
  | succ n ih =>
    obtain ⟨winner, wins⟩ := (picker.after roster n).exists_wins nonempty nonneg
    rw [after_succ, wins.balance_select, ih]

theorem Above.after {floor : Int} (above : Above floor picker roster) (n : Nat) :
    Above floor (picker.after roster n) roster := by
  induction n with
  | zero => exact above
  | succ n ih =>
    obtain ⟨winner, wins⟩ := (picker.after roster n).exists_wins nonempty nonneg
    exact ih.select wins nonneg

end After

theorem nonempty_of_total (positive : 0 < total roster) : roster ≠ [] := by
  rintro rfl
  exact lt_irrefl _ positive

theorem one_le_backends (positive : 0 < total roster) : 1 ≤ backends roster := by
  obtain ⟨node, rest, rfl⟩ := List.exists_cons_of_ne_nil (nonempty_of_total positive)
  have some : 0 < (addresses (node :: rest)).card :=
    Finset.card_pos.2 ⟨_, Node.address_mem_addresses (List.mem_cons_self ..)⟩
  rw [backends]
  omega

theorem exists_above (picker : Picker Int) (roster : List (Node Int τ)) :
    ∃ floor, Above floor picker roster := by
  obtain ⟨bound, bounded⟩ := ((addresses roster).image fun address =>
    -(backends roster * picker.score address)).exists_le
  refine ⟨min (-bound) (picker.balance roster - (backends roster - 1) * total roster), ?_,
    min_le_right ..⟩
  intro address member
  exact le_trans (min_le_left ..) (neg_le.1 (bounded _ (Finset.mem_image_of_mem _ member)))

theorem Above.abs_sub_le {floor : Int} (above : Above floor picker roster)
    (nonneg : ∀ node ∈ roster, 0 ≤ node.weight) (positive : 0 < total roster) (n : Nat)
    {address : String} (member : address ∈ addresses roster) :
    |picker.score address - (picker.after roster n).score address| ≤ picker.balance roster - floor := by
  have filled := nonempty_of_total positive
  have later := above.after filled nonneg n
  have high := later.score_le member
  rw [balance_after filled nonneg] at high
  refine abs_sub_le_iff.2 ⟨?_, ?_⟩ <;>
    refine le_of_mul_le_mul_left ?_ (lt_of_lt_of_le Int.one_pos (one_le_backends positive))
  next => linarith [above.score_le member, later.scores address member]
  next => linarith [above.scores address member]

def Level (picker : Picker Int) (roster : List (Node Int τ)) : Prop :=
  ∀ address ∈ addresses roster, picker.score address = 0

theorem level_empty (roster : List (Node Int τ)) : Level (empty : Picker Int) roster := fun _ _ => rfl

theorem Level.balance (level : Level picker roster) : picker.balance roster = 0 :=
  Finset.sum_eq_zero level

section Level

variable (level : Level picker roster) (nonneg : ∀ node ∈ roster, 0 ≤ node.weight)
  (positive : 0 < total roster)
include level nonneg positive

theorem Level.above_after (n : Nat) :
    Above (-((backends roster - 1) * total roster)) (picker.after roster n) roster := by
  have debt := mul_nonneg (sub_nonneg.2 (one_le_backends positive)) positive.le
  refine Above.after (nonempty_of_total positive) nonneg ⟨fun address member => ?_, ?_⟩ n
  · rw [level address member]
    linarith
  · rw [level.balance]
    linarith

theorem Level.lt_score_after (n : Nat) {address : String} (member : address ∈ addresses roster) :
    -total roster < (picker.after roster n).score address := by
  by_contra low
  have scaled := mul_le_mul_of_nonneg_left (not_lt.1 low)
    (le_trans Int.one_nonneg (one_le_backends positive))
  have above := (level.above_after nonneg positive n).scores address member
  linarith

theorem Level.score_after_le (n : Nat) {address : String} (member : address ∈ addresses roster) :
    (picker.after roster n).score address ≤ (backends roster - 1) * total roster := by
  have some := one_le_backends positive
  have debt := mul_nonneg (sub_nonneg.2 some) positive.le
  have below := (level.above_after nonneg positive n).score_le member
  rw [balance_after (nonempty_of_total positive) nonneg, level.balance] at below
  refine le_of_mul_le_mul_left ?_ (lt_of_lt_of_le Int.one_pos some)
  linarith

theorem Level.share_le_of_lost (start l : Nat) {address : String} (member : address ∈ addresses roster)
    (lost : ∀ j < l + 1, ¬ (picker.after roster start).WonBy roster address j) :
    2 * ((l + 1 : Nat) * share roster address) ≤ backends roster * total roster ∧
      2 ≤ backends roster := by
  have filled := nonempty_of_total positive
  have above := level.above_after nonneg positive start
  have balance : (picker.after roster start).balance roster = 0 :=
    (balance_after filled nonneg picker start).trans level.balance
  generalize picker.after roster start = begun at *
  obtain ⟨winner, wins⟩ := (begun.after roster l).exists_wins filled nonneg
  have other : address ≠ winner.address := fun same =>
    lost l (Nat.lt_succ_self l) (by rw [WonBy, chosen, wins.chosen, same]; rfl)
  -- An address that loses all the time gains its share each time: it begins no lower than the floor,
  -- and the last winner has to be at least as high before it pays.
  have low := above.scores address member
  have high := (above.after filled nonneg l).score_le_of_lost wins nonneg member other
  rw [balance_after filled nonneg, balance, ← after_succ, score_after filled nonneg _ member,
    wins_eq_zero lost, Nat.cast_zero, mul_zero, sub_zero] at high
  refine ⟨le_of_mul_le_mul_left ?_ (lt_of_lt_of_le Int.one_pos (one_le_backends positive)), ?_⟩
  next => linarith
  next =>
    have two : 1 < (addresses roster).card := Finset.one_lt_card.2
      ⟨address, member, winner.address, Node.address_mem_addresses wins.member, other⟩
    rw [backends]
    omega

theorem Level.exists_win (start : Nat) {m : Nat} {address : String}
    (long : (backends roster - 1) * total roster < m * share roster address) :
    ∃ j < m, picker.WonBy roster address (start + j) := by
  have debt := mul_nonneg (sub_nonneg.2 (one_le_backends positive)) positive.le
  have member : address ∈ addresses roster := by
    by_contra absent
    rw [Node.share_eq_zero absent, mul_zero] at long
    exact absurd debt (not_le.2 long)
  by_contra none
  have lost (j : Nat) (early : j < m) : ¬ (picker.after roster start).WonBy roster address j :=
    fun won => none ⟨j, early, by rwa [WonBy, chosen_add]⟩
  cases m with
  | zero =>
    rw [Nat.cast_zero, zero_mul] at long
    exact absurd debt (not_le.2 long)
  | succ l =>
    obtain ⟨gained, two⟩ := level.share_le_of_lost nonneg positive start l member lost
    have spare := mul_nonneg (sub_nonneg.2 two) positive.le
    linarith

end Level

/-- Every address keeps within its share at every moment and has a turn in every long enough run of
selections. From whatever scores a picker begins, the distance to the shares is bounded for good. -/
theorem wins_proportional (roster : List (Node Int τ)) (nonneg : ∀ node ∈ roster, 0 ≤ node.weight)
    (positive : 0 < total roster) :
    (∀ n, ∀ address ∈ addresses roster,
      total roster * (empty : Picker Int).wins roster address n <
          n * share roster address + total roster ∧
        n * share roster address - total roster * (empty : Picker Int).wins roster address n ≤
          (backends roster - 1) * total roster) ∧
    (∀ (start m : Nat) (address : String),
      (backends roster - 1) * total roster < m * share roster address →
      ∃ j < m, (empty : Picker Int).WonBy roster address (start + j)) ∧
    ∀ picker : Picker Int, ∃ bound, ∀ n, ∀ address ∈ addresses roster,
      |total roster * picker.wins roster address n - n * share roster address| ≤ bound := by
  have filled := nonempty_of_total positive
  have level := level_empty roster
  refine ⟨fun n address member => ?_, fun start m address long =>
    level.exists_win nonneg positive start long, fun picker => ?_⟩
  next =>
    have low := level.lt_score_after nonneg positive n member
    have high := level.score_after_le nonneg positive n member
    rw [score_after filled nonneg _ member, level address member] at low high
    constructor <;> linarith
  next =>
    obtain ⟨floor, above⟩ := exists_above picker roster
    refine ⟨picker.balance roster - floor, fun n address member => ?_⟩
    have near := above.abs_sub_le nonneg positive n member
    rw [score_after filled nonneg _ member] at near
    convert near using 2
    ring

def mixed : List (Node Int Unit) :=
  [⟨"a", 2, "blue", ()⟩, ⟨"b", 1, "blue", ()⟩, ⟨"a", 1, "blue", ()⟩]

theorem wins_proportional_mixed :
    (∀ node ∈ mixed, 0 ≤ node.weight) ∧ 0 < total mixed ∧ "a" ∈ addresses mixed ∧
      total mixed * (empty : Picker Int).wins mixed "a" 1000 <
        (1000 : Nat) * share mixed "a" + total mixed ∧
      (backends mixed - 1) * total mixed < (5 : Nat) * share mixed "b" ∧
      ∃ j < 5, (empty : Picker Int).WonBy mixed "b" (1022 + j) := by
  have nonneg : ∀ node ∈ mixed, 0 ≤ node.weight := by decide
  have positive : 0 < total mixed := by decide
  have member : "a" ∈ addresses mixed := by decide
  have long : (backends mixed - 1) * total mixed < (5 : Nat) * share mixed "b" := by decide
  obtain ⟨within, turns, -⟩ := wins_proportional mixed nonneg positive
  exact ⟨nonneg, positive, member, (within 1000 "a" member).1, long, turns 1022 5 "b" long⟩

end Picker

end StickyRouting
