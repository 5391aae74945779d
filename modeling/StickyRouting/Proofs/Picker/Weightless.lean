import StickyRouting.Proofs.Picker.Turns
import Mathlib.Algebra.Order.BigOperators.Group.Finset

set_option autoImplicit false

namespace StickyRouting.Picker

open Node (total share addresses)

variable {ω τ : Type} [AddCommGroup ω] [LinearOrder ω] {picker : Picker ω}
  {roster other : List (Node ω τ)} {winner : Node ω τ}

def weighted (roster : List (Node ω τ)) : Finset String :=
  (addresses roster).filter fun address => 0 < share roster address

theorem mem_weighted {address : String} : address ∈ weighted roster ↔ 0 < share roster address := by
  rw [weighted, Finset.mem_filter, and_iff_right_iff_imp]
  intro positive
  by_contra outside
  exact positive.ne' (Node.share_eq_zero outside)

theorem weighted_congr (same : ∀ address, share roster address = share other address) :
    weighted roster = weighted other := by
  ext address
  rw [mem_weighted, mem_weighted, same]

/-- The scores of the weighted addresses make up for each other, and any other is zero. -/
structure Settled (picker : Picker ω) (roster : List (Node ω τ)) : Prop where
  even : ∑ address ∈ weighted roster, picker.score address = 0
  others : ∀ address ∉ weighted roster, picker.score address = 0

theorem settled_empty (roster : List (Node ω τ)) : Settled empty roster :=
  ⟨Finset.sum_const_zero, fun _ _ => rfl⟩

theorem Settled.congr (same : ∀ address, share roster address = share other address)
    (settled : Settled picker roster) : Settled picker other := by
  obtain ⟨sum, others⟩ := settled
  rw [weighted_congr same] at sum others
  exact ⟨sum, others⟩

variable [IsOrderedAddMonoid ω]

theorem Wins.share_eq_zero (wins : Wins picker roster winner) (nonneg : ∀ node ∈ roster, 0 ≤ node.weight)
    (weightless : winner.weight = 0) : share roster winner.address = 0 := by
  obtain ⟨before, leader, after, rfl, leads, led⟩ :=
    picker.exists_leads (List.ne_nil_of_mem wins.member) nonneg
  have chosen : (picker.select (before ++ leader :: after)).1 = some leader := by rw [select_of_leader led]
  obtain rfl : winner = leader := Option.some.inj (wins.chosen.symm.trans chosen)
  rw [leads.share_eq, weightless, add_zero]
  exact Node.share_eq_zero (leads.unseen weightless)

theorem share_eq_zero_of_not_mem_weighted (nonneg : ∀ node ∈ roster, 0 ≤ node.weight) {address : String}
    (outside : address ∉ weighted roster) : share roster address = 0 :=
  le_antisymm (not_lt.1 fun positive => outside (mem_weighted.2 positive)) (share_nonneg nonneg address)

theorem sum_share_weighted (nonneg : ∀ node ∈ roster, 0 ≤ node.weight) :
    ∑ address ∈ weighted roster, share roster address = total roster := by
  rw [← Node.sum_share (Finset.Subset.refl (addresses roster)), weighted]
  exact Finset.sum_filter_of_ne fun address _ some => lt_of_le_of_ne (share_nonneg nonneg address) some.symm

theorem Settled.winner_mem (settled : Settled picker roster) (wins : Wins picker roster winner)
    (nonneg : ∀ node ∈ roster, 0 ≤ node.weight) (some : (weighted roster).Nonempty) :
    winner.address ∈ weighted roster := by
  -- Otherwise no weighted address would be above zero, and yet all their weights have just been added.
  by_contra outside
  have raised : picker.score winner.address + share roster winner.address = 0 := by
    rw [settled.others _ outside, share_eq_zero_of_not_mem_weighted nonneg outside, add_zero]
  have behind : ∑ address ∈ weighted roster, (picker.score address + share roster address) ≤ 0 :=
    Finset.sum_nonpos fun address inside =>
      (wins.greatest address (Finset.mem_filter.1 inside).1).trans raised.le
  rw [Finset.sum_add_distrib, settled.even, zero_add] at behind
  exact absurd (Finset.sum_pos (fun address inside => mem_weighted.1 inside) some) (not_lt.2 behind)

theorem Settled.select (settled : Settled picker roster) (nonneg : ∀ node ∈ roster, 0 ≤ node.weight)
    (some : (weighted roster).Nonempty) : Settled (picker.select roster).2 roster := by
  obtain ⟨address, inside⟩ := some
  have filled : roster ≠ [] := by
    rintro rfl
    simp [weighted, addresses] at inside
  obtain ⟨winner, wins⟩ := picker.exists_wins filled nonneg
  have winning := settled.winner_mem wins nonneg ⟨address, inside⟩
  constructor
  case even =>
    have paid (address : String) (inside : address ∈ weighted roster) :=
      wins.scores address (Finset.mem_filter.1 inside).1
    rw [Finset.sum_congr rfl paid, Finset.sum_sub_distrib, Finset.sum_add_distrib, settled.even,
      sum_share_weighted nonneg, Finset.sum_ite_eq' _ _ fun _ => total roster, if_pos winning, zero_add, sub_self]
  case others =>
    intro address outside
    by_cases present : address ∈ addresses roster
    · rw [wins.scores address present, settled.others address outside,
        share_eq_zero_of_not_mem_weighted nonneg outside,
        if_neg fun same : address = winner.address => outside (same ▸ winning), add_zero, sub_zero]
    · exact score_select_of_zero present (settled.others address outside)

theorem settled_afterTurns {rosters : Nat → List (Node ω τ)}
    (nonneg : ∀ n, ∀ node ∈ rosters n, 0 ≤ node.weight) (some : (weighted roster).Nonempty) {n : Nat}
    (same : ∀ k < n, ∀ address, share (rosters k) address = share roster address) :
    Settled ((empty : Picker ω).afterTurns rosters id n) roster := by
  induction n with
  | zero => exact settled_empty roster
  | succ n ih =>
    -- The step is taken by the roster that has its turn, which settles the same addresses.
    have alike := same n (Nat.lt_succ_self n)
    have settled := ih fun k before => same k (Nat.lt_succ_of_lt before)
    refine Settled.congr alike (Settled.select ?_ (nonneg n) (weighted_congr alike ▸ some))
    exact settled.congr fun address => (alike address).symm

/-- A node without weight is taken beside a weighted one only if the score left to its address is ahead.
It never comes to that while the rosters agree on what weight each address has, whichever nodes without
weight join and leave. -/
theorem weightless_wins_only_ahead (rosters : Nat → List (Node ω τ))
    (nonneg : ∀ n, ∀ node ∈ rosters n, 0 ≤ node.weight) (n : Nat)
    (positive : ∃ node ∈ rosters n, 0 < node.weight) :
    let picker := (empty : Picker ω).afterTurns rosters id n
    ∃ winner ∈ rosters n, (picker.select (rosters n)).1 = some winner ∧
      (winner.weight = 0 → ∀ node ∈ rosters n,
        picker.score node.address + share (rosters n) node.address ≤ picker.score winner.address) ∧
      ((∃ idle ∈ rosters n, ∀ node ∈ rosters n, 0 < node.weight →
          picker.score node.address + share (rosters n) node.address < picker.score idle.address) →
        winner.weight = 0) ∧
      ((∀ k < n, ∀ address, share (rosters k) address = share (rosters n) address) →
        0 < winner.weight) := by
  intro picker
  obtain ⟨node, member, heavy⟩ := positive
  obtain ⟨winner, wins⟩ := picker.exists_wins (List.ne_nil_of_mem member) (nonneg n)
  refine ⟨winner, wins.member, wins.chosen, fun weightless peer among => ?_, fun ahead => ?_,
    fun same => ?_⟩
  next =>
    have greatest := wins.greatest peer.address (Node.address_mem_addresses among)
    rwa [wins.share_eq_zero (nonneg n) weightless, add_zero] at greatest
  next =>
    obtain ⟨idle, among, ahead⟩ := ahead
    by_contra heavy
    have behind := ahead winner wins.member (lt_of_le_of_ne (nonneg n winner wins.member) (Ne.symm heavy))
    have greatest := wins.greatest idle.address (Node.address_mem_addresses among)
    have raised := le_add_of_nonneg_right (a := picker.score idle.address)
      (share_nonneg (nonneg n) idle.address)
    exact absurd (lt_of_lt_of_le behind raised) (not_lt.2 greatest)
  next =>
    have some : (weighted (rosters n)).Nonempty :=
      ⟨node.address, mem_weighted.2 (lt_of_lt_of_le heavy (weight_le_share (nonneg n) member))⟩
    have winning := (settled_afterTurns nonneg some same).winner_mem wins (nonneg n) some
    refine lt_of_le_of_ne (nonneg n winner wins.member) fun zero => ?_
    exact (mem_weighted.1 winning).ne' (wins.share_eq_zero (nonneg n) zero.symm)

def visited (n : Nat) : List (Node Int Unit) :=
  if n % 2 = 0 then [⟨"a", 2, "blue", ()⟩, ⟨"b", 1, "blue", ()⟩]
  else [⟨"idle", 0, "blue", ()⟩, ⟨"b", 1, "blue", ()⟩, ⟨"a", 2, "blue", ()⟩]

theorem share_visited (n : Nat) (address : String) :
    share (visited n) address =
      (if address = "a" then 2 else 0) + if address = "b" then 1 else 0 := by
  unfold visited
  split <;> simp [Node.share_cons, add_comm]

theorem weightless_wins_only_ahead_visited :
    (∀ n, ∀ node ∈ visited n, 0 ≤ node.weight) ∧ (∃ node ∈ visited 1001, 0 < node.weight) ∧
      ∃ winner ∈ visited 1001, ((empty : Picker Int).afterTurns visited id 1001 |>.select
        (visited 1001)).1 = some winner ∧ 0 < winner.weight := by
  have nonneg (n : Nat) : ∀ node ∈ visited n, 0 ≤ node.weight := by
    unfold visited
    split <;> decide
  have positive : ∃ node ∈ visited 1001, 0 < node.weight := ⟨⟨"b", 1, "blue", ()⟩, by decide, by decide⟩
  obtain ⟨winner, member, chosen, -, -, safe⟩ := weightless_wins_only_ahead visited nonneg 1001 positive
  exact ⟨nonneg, positive, winner, member, chosen,
    safe fun k _ address => (share_visited k address).trans (share_visited 1001 address).symm⟩

/-- A backend loses its weight, but not the score that it has gathered. -/
def drained : Nat → List (Node Int Unit)
  | 0 => [⟨"a", 3, "blue", ()⟩, ⟨"b", 2, "blue", ()⟩]
  | _ => [⟨"b", 0, "blue", ()⟩, ⟨"c", 1, "blue", ()⟩]

theorem drained_displaces_weighted :
    (∃ node ∈ drained 1, 0 < node.weight) ∧
      ((empty : Picker Int).afterTurns drained id 1 |>.select (drained 1)).1 =
        some ⟨"b", 0, "blue", ()⟩ := by
  decide

end StickyRouting.Picker
