import StickyRouting.Proofs.Picker.Round
import Mathlib.Data.Nat.Count

set_option autoImplicit false

namespace StickyRouting.Picker

open Node (addresses)

variable {ω τ : Type} [Zero ω] [Add ω] [Sub ω] [LT ω] [DecidableLT ω]

def after (picker : Picker ω) (roster : List (Node ω τ)) : Nat → Picker ω
  | 0 => picker
  | n + 1 => ((after picker roster n).select roster).2

def chosen (picker : Picker ω) (roster : List (Node ω τ)) (n : Nat) : Option (Node ω τ) :=
  ((picker.after roster n).select roster).1

abbrev WonBy (picker : Picker ω) (roster : List (Node ω τ)) (address : String) (n : Nat) : Prop :=
  (picker.chosen roster n).map (·.address) = some address

def wins (picker : Picker ω) (roster : List (Node ω τ)) (address : String) (n : Nat) : Nat :=
  Nat.count (picker.WonBy roster address) n

variable {picker other : Picker ω} {roster : List (Node ω τ)}

@[simp] theorem after_zero : picker.after roster 0 = picker := rfl

theorem after_succ (n : Nat) :
    picker.after roster (n + 1) = ((picker.after roster n).select roster).2 := rfl

theorem after_add (m n : Nat) :
    picker.after roster (m + n) = (picker.after roster m).after roster n := by
  induction n with
  | zero => rfl
  | succ n ih => rw [← Nat.add_assoc, after_succ, ih, after_succ]

theorem chosen_add (m n : Nat) :
    picker.chosen roster (m + n) = (picker.after roster m).chosen roster n := by
  rw [chosen, after_add, chosen]

@[simp] theorem wins_zero (address : String) : picker.wins roster address 0 = 0 := Nat.count_zero _

theorem wins_succ (address : String) (n : Nat) :
    picker.wins roster address (n + 1) =
      picker.wins roster address n + if picker.WonBy roster address n then 1 else 0 :=
  Nat.count_succ ..

theorem wins_eq_zero {address : String} {n : Nat} (lost : ∀ j < n, ¬ picker.WonBy roster address j) :
    picker.wins roster address n = 0 :=
  Nat.count_of_forall_not lost

theorem wins_add (address : String) (m n : Nat) :
    picker.wins roster address (m + n) =
      picker.wins roster address m + (picker.after roster m).wins roster address n := by
  simp only [wins, Nat.count_add, WonBy, chosen_add]

theorem exists_chosen (picker : Picker ω) (nonempty : roster ≠ []) (n : Nat) :
    ∃ node ∈ roster, picker.chosen roster n = some node :=
  exists_select _ nonempty

theorem after_congr (agree : ∀ address ∈ addresses roster, picker.score address = other.score address)
    (n : Nat) : ∀ address ∈ addresses roster,
      (picker.after roster n).score address = (other.after roster n).score address := by
  induction n with
  | zero => exact agree
  | succ n ih => exact (select_congr ih).2

theorem chosen_congr (agree : ∀ address ∈ addresses roster, picker.score address = other.score address)
    (n : Nat) : picker.chosen roster n = other.chosen roster n :=
  (select_congr (after_congr agree n)).1

end StickyRouting.Picker
