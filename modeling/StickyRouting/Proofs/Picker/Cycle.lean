import StickyRouting.Proofs.Picker.Proportion

/-!
As many selections as the weights add up to make a cycle: scores differ from zero then by multiples of
that sum, none is as low as minus one times it, and together they are zero.
-/

set_option autoImplicit false

namespace StickyRouting.Picker

open Node (total share addresses)

variable {τ : Type} {picker : Picker Int} {roster : List (Node Int τ)}

def period (roster : List (Node Int τ)) : Nat := (total roster).toNat

theorem cast_period (positive : 0 < total roster) : (period roster : Int) = total roster :=
  Int.toNat_of_nonneg positive.le

section Level

variable (level : Level picker roster) (nonneg : ∀ node ∈ roster, 0 ≤ node.weight)
  (positive : 0 < total roster)
include level nonneg positive

theorem Level.score_after_period {address : String} (member : address ∈ addresses roster) :
    (picker.after roster (period roster)).score address =
      total roster * (share roster address - picker.wins roster address (period roster)) := by
  rw [score_after (nonempty_of_total positive) nonneg _ member, level address member,
    cast_period positive]
  ring

theorem Level.after_period : Level (picker.after roster (period roster)) roster := by
  have nonneg_score : ∀ address ∈ addresses roster,
      0 ≤ (picker.after roster (period roster)).score address := by
    intro address member
    have low := level.lt_score_after nonneg positive (period roster) member
    rw [level.score_after_period nonneg positive member] at low ⊢
    refine mul_nonneg positive.le ?_
    -- A score is a multiple of the total here, so one below zero is as low as minus the total.
    by_contra owed
    have scaled := mul_le_mul_of_nonneg_left (Int.le_sub_one_of_lt (not_le.1 owed)) positive.le
    linarith
  have even : (picker.after roster (period roster)).balance roster = 0 :=
    (balance_after (nonempty_of_total positive) nonneg picker _).trans level.balance
  exact (Finset.sum_eq_zero_iff_of_nonneg nonneg_score).1 even

theorem Level.wins_period {address : String} (member : address ∈ addresses roster) :
    (picker.wins roster address (period roster) : Int) = share roster address := by
  have zero := level.after_period nonneg positive address member
  rw [level.score_after_period nonneg positive member] at zero
  exact (sub_eq_zero.1 ((mul_eq_zero.1 zero).resolve_left positive.ne')).symm

theorem Level.after_cycles (q : Nat) : Level (picker.after roster (q * period roster)) roster := by
  induction q with
  | zero => rwa [zero_mul]
  | succ q ih =>
    rw [Nat.succ_mul, after_add]
    exact ih.after_period nonneg positive

theorem Level.chosen_add_period (n : Nat) :
    picker.chosen roster (n + period roster) = picker.chosen roster n := by
  rw [Nat.add_comm, chosen_add]
  refine chosen_congr (fun address member => ?_) n
  rw [level.after_period nonneg positive address member, level address member]

end Level

theorem score_after_of_not_mem {address : String} (outside : address ∉ addresses roster) (n : Nat) :
    ((empty : Picker Int).after roster n).score address = 0 := by
  induction n with
  | zero => rfl
  | succ n ih => exact score_select_of_zero outside ih

/-- After each cycle every score is back at zero, and in it an address wins as often as its weights add
up to. -/
theorem chosen_periodic (roster : List (Node Int τ)) (nonneg : ∀ node ∈ roster, 0 ≤ node.weight)
    (positive : 0 < total roster) :
    (∀ q address, ((empty : Picker Int).after roster (q * period roster)).score address = 0) ∧
    (∀ q, ∀ address ∈ addresses roster,
      ((empty : Picker Int).wins roster address ((q + 1) * period roster) : Int) =
        (empty : Picker Int).wins roster address (q * period roster) + share roster address) ∧
    ∀ n, (empty : Picker Int).chosen roster (n + period roster) =
      (empty : Picker Int).chosen roster n := by
  have level := level_empty roster
  refine ⟨fun q address => ?_, fun q address member => ?_, level.chosen_add_period nonneg positive⟩
  next =>
    by_cases member : address ∈ addresses roster
    · exact level.after_cycles nonneg positive q address member
    · exact score_after_of_not_mem member _
  next =>
    have cycle := (level.after_cycles nonneg positive q).wins_period nonneg positive member
    rw [Nat.succ_mul, wins_add, Nat.cast_add, cycle]

theorem chosen_periodic_mixed :
    (∀ node ∈ mixed, 0 ≤ node.weight) ∧ 0 < total mixed ∧ "b" ∈ addresses mixed ∧
      ((empty : Picker Int).after mixed (256 * period mixed)).score "b" = 0 ∧
      ((empty : Picker Int).wins mixed "b" ((255 + 1) * period mixed) : Int) =
        (empty : Picker Int).wins mixed "b" (255 * period mixed) + share mixed "b" ∧
      (empty : Picker Int).chosen mixed (1022 + period mixed) =
        (empty : Picker Int).chosen mixed 1022 := by
  have nonneg : ∀ node ∈ mixed, 0 ≤ node.weight := by decide
  have positive : 0 < total mixed := by decide
  have member : "b" ∈ addresses mixed := by decide
  obtain ⟨scores, blocks, again⟩ := chosen_periodic mixed nonneg positive
  exact ⟨nonneg, positive, member, scores 256 "b", blocks 255 "b" member, again 1022⟩

end StickyRouting.Picker
