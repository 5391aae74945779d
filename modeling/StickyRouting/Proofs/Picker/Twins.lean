import StickyRouting.Proofs.Picker.Round
import Mathlib.Algebra.Order.Ring.Int

/-!
While a round goes on, the score of an address grows node by node, and the lead is taken with the node
that brings it to its full height.
-/

set_option autoImplicit false

namespace StickyRouting

variable {ω τ : Type}

namespace Node

section Merged

variable [Zero ω] [LT ω]

/-- Of the nodes of its address it is the last with a positive weight, or the first if none has one. -/
def Stands (before : List (Node ω τ)) (node : Node ω τ) (after : List (Node ω τ)) : Prop :=
  (0 < node.weight ∨ node.address ∉ addresses before) ∧
    ∀ other ∈ after, other.address = node.address → ¬ 0 < other.weight

instance [DecidableLT ω] (before : List (Node ω τ)) (node : Node ω τ) (after : List (Node ω τ)) :
    Decidable (Stands before node after) :=
  inferInstanceAs (Decidable ((_ ∨ _) ∧ _))

def Pending (before rest : List (Node ω τ)) (address : String) : Prop :=
  (∃ node ∈ rest, node.address = address ∧ 0 < node.weight) ∨
    address ∉ addresses before ∧ address ∈ addresses rest

variable [Add ω] [DecidableLT ω]

def mergedFrom (before : List (Node ω τ)) : List (Node ω τ) → List (Node ω τ)
  | [] => []
  | node :: after =>
    let rest := mergedFrom (before ++ [node]) after
    if Stands before node after then
      { node with weight := share (before ++ node :: after) node.address } :: rest
    else rest

def merged (roster : List (Node ω τ)) : List (Node ω τ) := mergedFrom [] roster

end Merged

section Pending

variable [Zero ω] [LT ω] {before after rest : List (Node ω τ)} {node : Node ω τ} {address : String}

theorem not_pending_nil : ¬ Pending before [] address := by
  simp [Pending, addresses]

theorem pending_cons_of_ne (other : address ≠ node.address) :
    Pending before (node :: after) address ↔ Pending (before ++ [node]) after address := by
  simp [Pending, addresses, other, Ne.symm other]

theorem pending_concat_self : Pending (before ++ [node]) after node.address ↔
    ∃ other ∈ after, other.address = node.address ∧ 0 < other.weight := by
  simp [Pending, addresses]

theorem Stands.not_pending (stands : Stands before node after) :
    ¬ Pending (before ++ [node]) after node.address := by
  rw [pending_concat_self]
  rintro ⟨other, member, same, positive⟩
  exact stands.2 other member same positive

theorem pending_cons_self : Pending before (node :: after) node.address ↔
    Stands before node after ∨ Pending (before ++ [node]) after node.address := by
  rw [pending_concat_self]
  by_cases later : ∃ other ∈ after, other.address = node.address ∧ 0 < other.weight
  next =>
    obtain ⟨other, member, same, positive⟩ := later
    refine iff_of_true (.inl ⟨other, List.mem_cons_of_mem _ member, same, positive⟩) (.inr ?_)
    exact ⟨other, member, same, positive⟩
  next =>
    have none : ∀ other ∈ after, other.address = node.address → ¬ 0 < other.weight :=
      fun other member same positive => later ⟨other, member, same, positive⟩
    rw [or_iff_left later, Stands, and_iff_left none, Pending, addresses_cons]
    constructor
    · rintro (⟨other, member, same, positive⟩ | ⟨unseen, -⟩)
      · rcases List.mem_cons.1 member with rfl | member
        · exact .inl positive
        · exact absurd positive (none other member same)
      · exact .inr unseen
    · rintro (positive | unseen)
      · exact .inl ⟨node, List.mem_cons_self .., rfl, positive⟩
      · exact .inr ⟨unseen, Finset.mem_insert_self ..⟩

theorem pending_nil_iff : Pending [] rest address ↔ address ∈ addresses rest := by
  constructor
  · rintro (⟨node, member, rfl, -⟩ | ⟨-, inside⟩)
    · exact address_mem_addresses member
    · exact inside
  · intro inside
    exact .inr ⟨by simp [addresses], inside⟩

variable [Add ω] [DecidableLT ω]

theorem mem_addresses_mergedFrom :
    address ∈ addresses (mergedFrom before rest) ↔ Pending before rest address := by
  induction rest generalizing before with
  | nil => simp [mergedFrom, addresses, not_pending_nil]
  | cons node after ih =>
    rw [mergedFrom]
    by_cases same : address = node.address
    next =>
      subst same
      rw [pending_cons_self]
      split
      next stands => simp [stands]
      next absent => rw [ih, or_iff_right absent]
    next =>
      rw [pending_cons_of_ne same, ← ih]
      split
      next => simp [same]
      next => rfl

theorem nodup_mergedFrom : ((mergedFrom before rest).map (·.address)).Nodup := by
  induction rest generalizing before with
  | nil => exact List.nodup_nil
  | cons node after ih =>
    rw [mergedFrom]
    split
    next stands =>
      refine List.nodup_cons.2 ⟨fun again => stands.not_pending ?_, ih⟩
      exact mem_addresses_mergedFrom.1 (List.mem_toFinset.2 again)
    next => exact ih

theorem exists_mergedFrom_append (before part rest : List (Node ω τ)) :
    ∃ kept, mergedFrom before (part ++ rest) = kept ++ mergedFrom (before ++ part) rest ∧
      addresses kept ⊆ addresses part := by
  -- Whether a node is kept is decided where it stands, so that the rest is merged as if alone, but for
  -- what came before it.
  induction part generalizing before with
  | nil => exact ⟨[], by simp, Finset.Subset.refl _⟩
  | cons node part ih =>
    obtain ⟨kept, same, within⟩ := ih (before ++ [node])
    rw [List.append_assoc, List.singleton_append] at same
    have wider : addresses kept ⊆ addresses (node :: part) := by
      rw [addresses_cons]
      exact within.trans (Finset.subset_insert ..)
    rw [List.cons_append, mergedFrom, same]
    split
    next =>
      refine ⟨_ :: kept, rfl, ?_⟩
      rw [addresses_cons, addresses_cons]
      exact Finset.insert_subset_insert _ within
    next => exact ⟨kept, rfl, wider⟩

end Pending

section Share

variable [AddCommMonoid ω] [LT ω] [DecidableLT ω]
variable {before rest roster : List (Node ω τ)} {address : String}

theorem share_mergedFrom (pending : Pending before rest address) :
    share (mergedFrom before rest) address = share (before ++ rest) address := by
  induction rest generalizing before with
  | nil => exact absurd pending not_pending_nil
  | cons node after ih =>
    have regrouped : before ++ node :: after = before ++ [node] ++ after := by simp
    rw [mergedFrom]
    by_cases same : address = node.address
    next =>
      subst same
      split
      next stands =>
        have gone : node.address ∉ addresses (mergedFrom (before ++ [node]) after) :=
          mt mem_addresses_mergedFrom.1 stands.not_pending
        rw [share_cons, if_pos rfl, share_eq_zero gone, add_zero]
      next absent =>
        rw [regrouped]
        exact ih ((pending_cons_self.1 pending).resolve_left absent)
    next =>
      have later := ih ((pending_cons_of_ne same).1 pending)
      rw [← regrouped] at later
      split
      next => rw [share_cons, if_neg same, zero_add, later]
      next => exact later

theorem weight_of_mem_mergedFrom {node : Node ω τ} (member : node ∈ mergedFrom before rest) :
    node.weight = share (before ++ rest) node.address := by
  induction rest generalizing before with
  | nil => simp [mergedFrom] at member
  | cons first after ih =>
    have regrouped : before ++ first :: after = before ++ [first] ++ after := by simp
    rw [mergedFrom] at member
    split at member
    next =>
      rcases List.mem_cons.1 member with rfl | member
      · rfl
      · rw [ih member, regrouped]
    next => rw [ih member, regrouped]

theorem addresses_merged (roster : List (Node ω τ)) : addresses (merged roster) = addresses roster := by
  ext address
  rw [merged, mem_addresses_mergedFrom, pending_nil_iff]

theorem share_merged (roster : List (Node ω τ)) (address : String) :
    share (merged roster) address = share roster address := by
  by_cases inside : address ∈ addresses roster
  next => exact share_mergedFrom (pending_nil_iff.2 inside)
  next => rw [share_eq_zero inside, share_eq_zero (by rwa [addresses_merged])]

theorem total_merged (roster : List (Node ω τ)) : total (merged roster) = total roster := by
  have all := addresses_merged roster
  rw [← sum_share (Finset.Subset.refl (addresses roster)), ← sum_share (Finset.subset_of_eq all)]
  exact Finset.sum_congr rfl fun address _ => share_merged roster address

end Share

end Node

namespace Picker

open Node (Stands addresses total share merged mergedFrom)

section Round

variable [AddCommMonoid ω] [LT ω] [DecidableLT ω] {roster other : List (Node ω τ)}

theorem get?_round (picker : Picker ω) {address : String} (inside : address ∈ addresses roster) :
    (picker.round roster).scores.get? address =
      some ⟨picker.score address + share roster address, picker.tick + 1⟩ := by
  obtain ⟨current, held⟩ := picker.raised_round inside
  have raised := scoreIn_round picker roster address
  rw [scoreIn, held] at raised
  rw [held, ← raised]
  rfl

theorem scores_round_congr (picker : Picker ω) (same : addresses roster = addresses other)
    (shares : ∀ address, share roster address = share other address) :
    (picker.round roster).scores = (picker.round other).scores := by
  ext1 address
  by_cases inside : address ∈ addresses roster
  next => rw [picker.get?_round inside, picker.get?_round (same ▸ inside), shares]
  next =>
    have outside : address ∉ addresses other := same ▸ inside
    exact (Round.get?_foldl_of_not_mem inside).trans (Round.get?_foldl_of_not_mem outside).symm

end Round

variable [AddCommGroup ω] [LinearOrder ω] [IsOrderedAddMonoid ω] {picker : Picker ω}
  {before after before' after' : List (Node ω τ)} {leader leader' : Node ω τ}

theorem Leads.stands (leads : Leads picker before leader after)
    (nonneg : ∀ node ∈ before ++ leader :: after, 0 ≤ node.weight) : Stands before leader after := by
  constructor
  next =>
    rcases (nonneg leader (by simp)).eq_or_lt with zero | positive
    · exact .inr (leads.unseen zero.symm)
    · exact .inl positive
  next =>
    intro other member same positive
    have bounded := weight_le_share (fun node later => nonneg node (by simp [later])) member
    rw [same, leads.kept] at bounded
    exact absurd positive (not_lt.2 bounded)

theorem Leads.not_later {more : List (Node ω τ)} (leads : Leads picker before leader after)
    (later : Leads picker (before ++ leader :: more) leader' after')
    (same : after = more ++ leader' :: after') (nonneg : ∀ node ∈ more, 0 ≤ node.weight) : False := by
  subst same
  have whole : before ++ leader :: (more ++ leader' :: after') =
      before ++ leader :: more ++ leader' :: after' := by simp
  -- The leader has its full height there, and the later one would have to be higher.
  have reached : share (before ++ leader :: (more ++ leader' :: after')) leader.address ≤
      share (before ++ leader :: more) leader.address := by
    rw [leads.share_eq, Node.share_append, Node.share_cons, if_pos rfl, ← add_assoc]
    exact le_add_of_nonneg_right (share_nonneg nonneg leader.address)
  have beaten := later.ahead leader.address (Node.address_mem_addresses (by simp))
  rw [← whole] at beaten
  have greatest := leads.greatest leader'.address (Node.address_mem_addresses (by simp))
  exact absurd (lt_of_lt_of_le beaten greatest) (not_lt.2 (add_le_add_right reached _))

theorem Leads.unique (leads : Leads picker before leader after)
    (other : Leads picker before' leader' after')
    (same : before ++ leader :: after = before' ++ leader' :: after')
    (nonneg : ∀ node ∈ before ++ leader :: after, 0 ≤ node.weight) : leader = leader' := by
  rcases List.append_eq_append_iff.1 same with ⟨more, rfl, rest⟩ | ⟨more, rfl, rest⟩
  next =>
    cases more with
    | nil => exact (List.cons.inj rest).1
    | cons node more =>
      obtain ⟨rfl, rfl⟩ := List.cons.inj rest
      exact (leads.not_later other rfl fun node member => nonneg node (by simp [member])).elim
  next =>
    cases more with
    | nil => exact (List.cons.inj rest).1.symm
    | cons node more =>
      obtain ⟨rfl, rfl⟩ := List.cons.inj rest
      exact (other.not_later leads rfl fun node member => nonneg node (by simp [member])).elim

omit [IsOrderedAddMonoid ω] in
theorem share_of_not_pending {rest : List (Node ω τ)} (nonneg : ∀ node ∈ rest, 0 ≤ node.weight)
    {address : String} (spent : ¬ Node.Pending before rest address) : share rest address = 0 := by
  apply List.sum_eq_zero
  intro weight member
  obtain ⟨node, kept, rfl⟩ := List.mem_map.1 member
  obtain ⟨among, same⟩ := List.mem_filter.1 kept
  refine le_antisymm (not_lt.1 fun positive => spent ?_) (nonneg node among)
  exact .inl ⟨node, among, by simpa using same, positive⟩

theorem Leads.merged (leads : Leads picker before leader after)
    (nonneg : ∀ node ∈ before ++ leader :: after, 0 ≤ node.weight) :
    let standing := { leader with weight := share (before ++ leader :: after) leader.address }
    ∃ kept rest, Node.merged (before ++ leader :: after) = kept ++ standing :: rest ∧
      Leads picker kept standing rest := by
  intro standing
  obtain ⟨kept, split, within⟩ := Node.exists_mergedFrom_append [] before (leader :: after)
  obtain ⟨rest, tail⟩ : ∃ rest, mergedFrom before (leader :: after) = standing :: rest :=
    ⟨_, by rw [mergedFrom, if_pos (leads.stands nonneg)]⟩
  have whole : Node.merged (before ++ leader :: after) = kept ++ standing :: rest := by
    rw [Node.merged, split, List.nil_append, tail]
  have shares (address : String) : share (kept ++ standing :: rest) address =
      share (before ++ leader :: after) address := by
    rw [← whole, Node.share_merged]
  have once : ((kept ++ standing :: rest).map (·.address)).Nodup := whole ▸ Node.nodup_mergedFrom
  rw [List.map_append, List.nodup_append', List.map_cons, List.nodup_cons] at once
  obtain ⟨-, ⟨alone, -⟩, apart⟩ := once
  refine ⟨kept, rest, whole, ?ahead, ?kept, ?greatest⟩
  -- An address kept before the leader has no positive weight behind it, so that it was as high there as
  -- it comes to be.
  case ahead =>
    intro address inside
    have gone : address ∉ addresses (standing :: rest) := fun again =>
      apart (List.mem_toFinset.1 inside) (List.mem_toFinset.1 again)
    have spent : share (leader :: after) address = 0 := by
      rw [← tail, Node.mem_addresses_mergedFrom] at gone
      exact share_of_not_pending (fun node later => nonneg node (List.mem_append_right _ later)) gone
    have all := shares address
    rw [Node.share_append, Node.share_eq_zero gone, Node.share_append, spent, add_zero, add_zero] at all
    rw [shares, all]
    exact leads.ahead address (within inside)
  case kept => exact Node.share_eq_zero fun again => alone (List.mem_toFinset.1 again)
  case greatest =>
    intro address inside
    rw [← whole, Node.addresses_merged] at inside
    rw [shares, shares]
    exact leads.greatest address inside

theorem nonneg_merged {roster : List (Node ω τ)} (nonneg : ∀ node ∈ roster, 0 ≤ node.weight) :
    ∀ node ∈ Node.merged roster, 0 ≤ node.weight := by
  intro node member
  rw [Node.weight_of_mem_mergedFrom member]
  exact share_nonneg nonneg node.address

theorem Leads.leader_round (leads : Leads picker before leader after)
    (nonneg : ∀ node ∈ before ++ leader :: after, 0 ≤ node.weight) :
    ∃ best, (picker.round (before ++ leader :: after)).leader = some (leader, best) := by
  -- The round has some leader that leads, and no two nodes of a roster do.
  obtain ⟨_, first, _, same, other, led⟩ := picker.exists_leads (by simp) nonneg
  obtain rfl := leads.unique other same nonneg
  exact ⟨_, led⟩

/-- A selection takes the node that stands for its address, and agrees with a selection from the roster
in which that node alone stands for each address, with the weights of all. -/
theorem select_merged (picker : Picker ω) (roster : List (Node ω τ)) (nonempty : roster ≠ [])
    (nonneg : ∀ node ∈ roster, 0 ≤ node.weight) :
    ((merged roster).map (·.address)).Nodup ∧ addresses (merged roster) = addresses roster ∧
      (∀ address, share (merged roster) address = share roster address) ∧
      ∃ before winner after, roster = before ++ winner :: after ∧ Stands before winner after ∧
        picker.select roster = (some winner, (picker.select (merged roster)).2) ∧
        (picker.select (merged roster)).1 =
          some { winner with weight := share roster winner.address } := by
  refine ⟨Node.nodup_mergedFrom, Node.addresses_merged roster, Node.share_merged roster, ?_⟩
  obtain ⟨before, winner, after, rfl, leads, led⟩ := picker.exists_leads nonempty nonneg
  obtain ⟨kept, rest, whole, once⟩ := leads.merged nonneg
  obtain ⟨best, led'⟩ := once.leader_round (whole ▸ nonneg_merged nonneg)
  rw [← whole] at led'
  refine ⟨before, winner, after, rfl, leads.stands nonneg, ?_, by rw [select_of_leader led']⟩
  rw [select_of_leader led, select_of_leader led', total_round, total_round, Node.total_merged,
    picker.scores_round_congr (Node.addresses_merged _) (Node.share_merged _)]

def doubled : List (Node Int Nat) :=
  [⟨"a", 1, "blue", 0⟩, ⟨"b", 0, "blue", 1⟩, ⟨"c", 0, "blue", 2⟩, ⟨"b", 3, "blue", 3⟩,
    ⟨"a", 2, "blue", 4⟩, ⟨"b", 0, "blue", 5⟩]

theorem select_merged_doubled :
    doubled ≠ [] ∧ (∀ node ∈ doubled, 0 ≤ node.weight) ∧
      merged doubled = [⟨"c", 0, "blue", 2⟩, ⟨"b", 3, "blue", 3⟩, ⟨"a", 3, "blue", 4⟩] ∧
      ((empty : Picker Int).select doubled).1 = some ⟨"b", 3, "blue", 3⟩ ∧
      (empty : Picker Int).select doubled =
        (some ⟨"b", 3, "blue", 3⟩, ((empty : Picker Int).select (merged doubled)).2) := by
  have filled : doubled ≠ [] := by decide
  have nonneg : ∀ node ∈ doubled, 0 ≤ node.weight := by decide
  have chosen : ((empty : Picker Int).select doubled).1 = some ⟨"b", 3, "blue", 3⟩ := by decide
  obtain ⟨-, -, -, before, winner, after, -, -, taken, -⟩ := select_merged empty doubled filled nonneg
  obtain rfl : winner = ⟨"b", 3, "blue", 3⟩ :=
    Option.some.inj ((congrArg Prod.fst taken).symm.trans chosen)
  exact ⟨filled, nonneg, by decide, chosen, taken⟩

end Picker

end StickyRouting
