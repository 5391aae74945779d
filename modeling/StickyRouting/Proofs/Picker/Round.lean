import StickyRouting.Picker
import StickyRouting.KeyMap.Lemmas
import Mathlib.Algebra.BigOperators.Group.Finset.Piecewise
import Mathlib.Algebra.Order.BigOperators.Group.List
import Mathlib.Algebra.Order.Group.Defs

set_option autoImplicit false

namespace StickyRouting

variable {ω τ : Type}

namespace Node

def added [Add ω] (sum : ω) (roster : List (Node ω τ)) : ω :=
  roster.foldl (fun sum node => sum + node.weight) sum

def total [Zero ω] [Add ω] (roster : List (Node ω τ)) : ω := (roster.map (·.weight)).sum

def share [Zero ω] [Add ω] (roster : List (Node ω τ)) (address : String) : ω :=
  total (roster.filter fun node => node.address = address)

def addresses (roster : List (Node ω τ)) : Finset String := (roster.map (·.address)).toFinset

theorem mem_addresses {roster : List (Node ω τ)} {address : String} :
    address ∈ addresses roster ↔ ∃ node ∈ roster, node.address = address := by
  simp [addresses]

@[simp] theorem addresses_cons (node : Node ω τ) (rest : List (Node ω τ)) :
    addresses (node :: rest) = insert node.address (addresses rest) := List.toFinset_cons

theorem address_mem_addresses {roster : List (Node ω τ)} {node : Node ω τ} (member : node ∈ roster) :
    node.address ∈ addresses roster :=
  mem_addresses.2 ⟨node, member, rfl⟩

section Sums

variable [AddCommMonoid ω]

@[simp] theorem total_nil : total ([] : List (Node ω τ)) = 0 := rfl

@[simp] theorem total_cons (node : Node ω τ) (rest : List (Node ω τ)) :
    total (node :: rest) = node.weight + total rest := List.sum_cons

theorem added_eq (sum : ω) (roster : List (Node ω τ)) : added sum roster = sum + total roster := by
  induction roster generalizing sum with
  | nil => exact (add_zero sum).symm
  | cons node rest ih => rw [added, List.foldl_cons, ← added, ih, total_cons, add_assoc]

@[simp] theorem share_nil (address : String) : share ([] : List (Node ω τ)) address = 0 := rfl

theorem share_cons (node : Node ω τ) (rest : List (Node ω τ)) (address : String) :
    share (node :: rest) address =
      (if address = node.address then node.weight else 0) + share rest address := by
  by_cases same : node.address = address
  · simp [share, same]
  · simp [share, same, Ne.symm same]

theorem share_append (roster other : List (Node ω τ)) (address : String) :
    share (roster ++ other) address = share roster address + share other address := by
  simp [share, total]

theorem share_concat (roster : List (Node ω τ)) (node : Node ω τ) (address : String) :
    share (roster ++ [node]) address =
      share roster address + if address = node.address then node.weight else 0 := by
  rw [share_append, share_cons, share_nil, add_zero]

theorem share_eq_zero {roster : List (Node ω τ)} {address : String}
    (absent : address ∉ addresses roster) : share roster address = 0 := by
  rw [share, List.filter_eq_nil_iff.2]
  · rfl
  · intro node member same
    exact absent (mem_addresses.2 ⟨node, member, by simpa using same⟩)

theorem sum_share {roster : List (Node ω τ)} {within : Finset String}
    (all : addresses roster ⊆ within) : ∑ address ∈ within, share roster address = total roster := by
  induction roster with
  | nil => simp
  | cons node rest ih =>
    rw [addresses_cons, Finset.insert_subset_iff] at all
    obtain ⟨inside, tail⟩ := all
    simp only [share_cons, Finset.sum_add_distrib, ih tail, total_cons]
    rw [Finset.sum_ite_eq' within node.address fun _ => node.weight, if_pos inside]

end Sums

end Node

namespace Picker

open Node (total share addresses)

section Scores

def Raised (tick : Nat) (scores : KeyMap (Score ω)) (address : String) : Prop :=
  ∃ current, scores.get? address = some ⟨current, tick⟩

theorem get?_sweep_of_recent {tick : Nat} {scores : KeyMap (Score ω)} {address : String} {score : Score ω}
    (held : scores.get? address = some score) (recent : tick - score.lastSeen < idleSelections) :
    (sweep tick scores).get? address = some score := by
  unfold sweep
  split
  · rw [KeyMap.get?_filter, held]
    simp [Option.filter, recent]
  · exact held

theorem get?_sweep {tick : Nat} {scores : KeyMap (Score ω)} {address : String}
    (raised : Raised tick scores address) :
    (sweep tick scores).get? address = scores.get? address := by
  obtain ⟨current, held⟩ := raised
  rw [held]
  exact get?_sweep_of_recent held (by simp [idleSelections])

theorem get?_sweep_congr (tick : Nat) {scores other : KeyMap (Score ω)} {address : String}
    (same : scores.get? address = other.get? address) :
    (sweep tick scores).get? address = (sweep tick other).get? address := by
  unfold sweep
  split
  · rw [KeyMap.get?_filter, KeyMap.get?_filter, same]
  · exact same

theorem get?_of_sweep {tick : Nat} {scores : KeyMap (Score ω)} {address : String} {score : Score ω}
    (held : (sweep tick scores).get? address = some score) : scores.get? address = some score := by
  unfold sweep at held
  split at held
  · rw [KeyMap.get?_filter] at held
    exact (Option.filter_eq_some_iff.1 held).1
  · exact held

theorem get?_charge [Sub ω] (amount : ω) (scores : KeyMap (Score ω)) (winner address : String) :
    (charge amount scores winner).get? address =
      if address = winner then
        (scores.get? winner).map fun s => { s with current := s.current - amount }
      else scores.get? address :=
  KeyMap.get?_alter ..

theorem Raised.charge [Sub ω] {tick : Nat} {scores : KeyMap (Score ω)} {address : String} (amount : ω)
    (winner : String) (raised : Raised tick scores address) :
    Raised tick (charge amount scores winner) address := by
  obtain ⟨current, held⟩ := raised
  rw [Raised, get?_charge]
  split
  next same =>
    subst same
    exact ⟨current - amount, by rw [held]; rfl⟩
  next => exact ⟨current, held⟩

variable [Zero ω]

def currentOf : Option (Score ω) → ω
  | some s => s.current
  | none => 0

def scoreIn (scores : KeyMap (Score ω)) (address : String) : ω := currentOf (scores.get? address)

theorem score_eq (picker : Picker ω) (address : String) :
    picker.score address = scoreIn picker.scores address := rfl

theorem scoreIn_charge [Sub ω] {tick : Nat} {scores : KeyMap (Score ω)} {winner : String} (amount : ω)
    (raised : Raised tick scores winner) (address : String) :
    scoreIn (charge amount scores winner) address =
      if address = winner then scoreIn scores address - amount else scoreIn scores address := by
  obtain ⟨current, held⟩ := raised
  rw [scoreIn, get?_charge]
  split
  next same => rw [same, scoreIn, held]; rfl
  next => rfl

theorem scoreIn_sweep {tick : Nat} {scores : KeyMap (Score ω)} {address : String}
    (raised : Raised tick scores address) :
    scoreIn (sweep tick scores) address = scoreIn scores address := by
  rw [scoreIn, get?_sweep raised, scoreIn]

theorem scoreIn_sweep_of_zero (tick : Nat) {scores : KeyMap (Score ω)} {address : String}
    (zero : scoreIn scores address = 0) : scoreIn (sweep tick scores) address = 0 := by
  rw [scoreIn]
  cases kept : (sweep tick scores).get? address with
  | none => rfl
  | some s => rwa [scoreIn, get?_of_sweep kept] at zero

end Scores

theorem Round.lead_eq [LT ω] [DecidableLT ω] (leader : Option (Node ω τ × ω)) (node : Node ω τ)
    (reached : ω) :
    Round.lead leader node reached = some (node, reached) ∨
      leader.isSome ∧ Round.lead leader node reached = leader := by
  unfold Round.lead
  split
  · exact .inl rfl
  · split
    · exact .inl rfl
    · exact .inr ⟨rfl, rfl⟩

section Round

variable [Zero ω] [Add ω] [LT ω] [DecidableLT ω]

namespace Round

variable {tick : Nat} {round : Round ω τ} {node : Node ω τ}

theorem scoreIn_enter (tick : Nat) (round : Round ω τ) (node : Node ω τ) (address : String) :
    scoreIn (round.enter tick node).scores address =
      if address = node.address then scoreIn round.scores address + node.weight
      else scoreIn round.scores address := by
  rw [scoreIn, enter, KeyMap.get?_insert]
  split
  next same => rw [same]; rfl
  next => rfl

theorem raised_enter : Raised tick (round.enter tick node).scores node.address :=
  ⟨_, KeyMap.get?_insert_self ..⟩

theorem Raised.enter {address : String} (raised : Raised tick round.scores address) :
    Raised tick (round.enter tick node).scores address := by
  by_cases same : address = node.address
  · exact same ▸ raised_enter
  · obtain ⟨current, held⟩ := raised
    exact ⟨current, by rw [Round.enter, KeyMap.get?_insert, if_neg same, held]⟩

theorem raised_foldl {roster : List (Node ω τ)} {address : String}
    (member : address ∈ addresses roster ∨ Raised tick round.scores address) :
    Raised tick (roster.foldl (enter tick) round).scores address := by
  induction roster generalizing round with
  | nil => simpa [addresses] using member
  | cons node rest ih =>
    refine ih ?_
    rw [Node.addresses_cons, Finset.mem_insert] at member
    rcases member with (rfl | member) | raised
    · exact .inr raised_enter
    · exact .inl member
    · exact .inr (Raised.enter raised)

theorem get?_foldl_of_not_mem {roster : List (Node ω τ)} {address : String}
    (outside : address ∉ addresses roster) :
    (roster.foldl (enter tick) round).scores.get? address = round.scores.get? address := by
  induction roster generalizing round with
  | nil => rfl
  | cons node rest ih =>
    rw [Node.addresses_cons, Finset.mem_insert, not_or] at outside
    rw [List.foldl_cons, ih outside.2, Round.enter, KeyMap.get?_insert, if_neg outside.1]

theorem total_foldl (tick : Nat) (roster : List (Node ω τ)) (round : Round ω τ) :
    (roster.foldl (enter tick) round).total = Node.added round.total roster := by
  induction roster generalizing round with
  | nil => rfl
  | cons node rest ih => exact ih (round.enter tick node)

theorem scoreIn_foldl (tick : Nat) (roster : List (Node ω τ)) (round : Round ω τ) (address : String) :
    scoreIn (roster.foldl (enter tick) round).scores address =
      Node.added (scoreIn round.scores address) (roster.filter fun node => node.address = address) := by
  induction roster generalizing round with
  | nil => rfl
  | cons node rest ih =>
    rw [List.foldl_cons, ih, scoreIn_enter]
    by_cases same : address = node.address
    next => simp [same, Node.added]
    next => simp [same, Ne.symm same]

theorem leader_foldl (tick : Nat) (roster : List (Node ω τ)) {leader : Node ω τ × ω}
    (leads : round.leader = some leader) :
    ∃ next, (roster.foldl (enter tick) round).leader = some next ∧
      (next.1 ∈ roster ∨ next = leader) := by
  induction roster generalizing round leader with
  | nil => exact ⟨leader, leads, .inr rfl⟩
  | cons node rest ih =>
    rcases lead_eq round.leader node _ with taken | ⟨-, kept⟩
    next =>
      have entered : (round.enter tick node).leader = some (node, _) := taken
      obtain ⟨next, leads, from_⟩ := ih entered
      refine ⟨next, leads, .inl ?_⟩
      rcases from_ with member | rfl
      · exact List.mem_cons_of_mem _ member
      · exact List.mem_cons_self ..
    next =>
      have entered : (round.enter tick node).leader = some leader := kept.trans leads
      obtain ⟨next, leads, from_⟩ := ih entered
      exact ⟨next, leads, from_.imp_left (List.mem_cons_of_mem _)⟩

structure Alike (within : Finset String) (round other : Round ω τ) : Prop where
  scores : ∀ address ∈ within, scoreIn round.scores address = scoreIn other.scores address
  total : round.total = other.total
  leader : round.leader = other.leader

theorem Alike.enter {within : Finset String} {other : Round ω τ} {tick' : Nat}
    (alike : Alike within round other) (member : node.address ∈ within) :
    Alike within (round.enter tick node) (other.enter tick' node) := by
  have reached : currentOf (round.scores.get? node.address) + node.weight =
      currentOf (other.scores.get? node.address) + node.weight :=
    congrArg (· + node.weight) (alike.scores node.address member)
  constructor
  case scores =>
    intro address inside
    rw [scoreIn_enter, scoreIn_enter, alike.scores address inside]
  case total => exact congrArg (· + node.weight) alike.total
  case leader =>
    show lead round.leader node _ = lead other.leader node _
    rw [alike.leader]
    exact congrArg _ reached

theorem Alike.foldl {within : Finset String} {other : Round ω τ} {tick' : Nat}
    {roster : List (Node ω τ)} (alike : Alike within round other) (members : addresses roster ⊆ within) :
    Alike within (roster.foldl (Round.enter tick) round) (roster.foldl (Round.enter tick') other) := by
  induction roster generalizing round other with
  | nil => exact alike
  | cons node rest ih =>
    rw [Node.addresses_cons, Finset.insert_subset_iff] at members
    exact ih (alike.enter members.1) members.2

end Round

def round (picker : Picker ω) (roster : List (Node ω τ)) : Round ω τ :=
  roster.foldl (Round.enter (picker.tick + 1)) ⟨picker.scores, 0, none⟩

theorem exists_leader (picker : Picker ω) {roster : List (Node ω τ)} (nonempty : roster ≠ []) :
    ∃ leader ∈ roster, ∃ best, (picker.round roster).leader = some (leader, best) := by
  obtain ⟨node, rest, rfl⟩ := List.exists_cons_of_ne_nil nonempty
  have entered : (Round.enter (picker.tick + 1) ⟨picker.scores, 0, none⟩ node).leader =
      some (node, _) := rfl
  obtain ⟨⟨leader, best⟩, leads, from_⟩ := Round.leader_foldl (picker.tick + 1) rest entered
  refine ⟨leader, ?_, best, leads⟩
  rcases from_ with member | same
  · exact List.mem_cons_of_mem _ member
  · exact (Prod.mk.inj same).1 ▸ List.mem_cons_self ..

theorem raised_round (picker : Picker ω) {roster : List (Node ω τ)} {address : String}
    (member : address ∈ addresses roster) :
    Raised (picker.tick + 1) (picker.round roster).scores address :=
  Round.raised_foldl (.inl member)

variable [Sub ω]

theorem select_of_leader {picker : Picker ω} {roster : List (Node ω τ)} {leader : Node ω τ} {best : ω}
    (leads : (picker.round roster).leader = some (leader, best)) :
    picker.select roster = (some leader, ⟨sweep (picker.tick + 1)
      (charge (picker.round roster).total (picker.round roster).scores leader.address),
      picker.tick + 1⟩) := by
  unfold round at leads
  simp only [select, leads, round]

theorem exists_select (picker : Picker ω) {roster : List (Node ω τ)} (nonempty : roster ≠ []) :
    ∃ node ∈ roster, (picker.select roster).1 = some node := by
  obtain ⟨leader, member, best, leads⟩ := picker.exists_leader nonempty
  exact ⟨leader, member, by rw [select_of_leader leads]⟩

theorem tick_select (picker : Picker ω) {roster : List (Node ω τ)} (nonempty : roster ≠ []) :
    (picker.select roster).2.tick = picker.tick + 1 := by
  obtain ⟨leader, -, best, leads⟩ := picker.exists_leader nonempty
  rw [select_of_leader leads]

theorem get?_select_of_not_mem (picker : Picker ω) {roster : List (Node ω τ)} {address : String}
    (nonempty : roster ≠ []) (outside : address ∉ addresses roster) :
    (picker.select roster).2.scores.get? address =
      (sweep (picker.tick + 1) picker.scores).get? address := by
  obtain ⟨leader, member, best, leads⟩ := picker.exists_leader nonempty
  have ne : address ≠ leader.address := fun same =>
    outside (same ▸ Node.address_mem_addresses member)
  rw [select_of_leader leads]
  refine get?_sweep_congr _ ?_
  rw [get?_charge, if_neg ne]
  exact Round.get?_foldl_of_not_mem outside

theorem get?_select (picker : Picker ω) {roster : List (Node ω τ)} {address : String}
    (inside : address ∈ addresses roster) : (picker.select roster).2.scores.get? address =
      some ⟨(picker.select roster).2.score address, picker.tick + 1⟩ := by
  obtain ⟨node, member, -⟩ := Node.mem_addresses.1 inside
  obtain ⟨leader, -, best, leads⟩ := picker.exists_leader (List.ne_nil_of_mem member)
  obtain ⟨current, held⟩ := (picker.raised_round inside).charge (picker.round roster).total leader.address
  have kept : (picker.select roster).2.scores.get? address = some ⟨current, picker.tick + 1⟩ := by
    rw [select_of_leader leads, get?_sweep ⟨current, held⟩, held]
  rw [score_eq, scoreIn, kept]
  rfl

theorem score_select_of_zero {picker : Picker ω} {roster : List (Node ω τ)} {address : String}
    (outside : address ∉ addresses roster) (zero : picker.score address = 0) :
    (picker.select roster).2.score address = 0 := by
  by_cases empty : roster = []
  next =>
    subst empty
    exact zero
  next =>
    rw [score_eq, scoreIn, picker.get?_select_of_not_mem empty outside]
    exact scoreIn_sweep_of_zero _ zero

theorem score_select {picker : Picker ω} {roster : List (Node ω τ)} {leader : Node ω τ} {best : ω}
    (leads : (picker.round roster).leader = some (leader, best)) (member : leader ∈ roster)
    {address : String} (inside : address ∈ addresses roster) :
    (picker.select roster).2.score address =
      if address = leader.address then
        scoreIn (picker.round roster).scores address - (picker.round roster).total
      else scoreIn (picker.round roster).scores address := by
  rw [select_of_leader leads, score_eq, scoreIn_sweep ((picker.raised_round inside).charge _ _)]
  exact scoreIn_charge _ (picker.raised_round (Node.address_mem_addresses member)) address

theorem select_congr {picker other : Picker ω} {roster : List (Node ω τ)}
    (agree : ∀ address ∈ addresses roster, picker.score address = other.score address) :
    (picker.select roster).1 = (other.select roster).1 ∧
      ∀ address ∈ addresses roster,
        (picker.select roster).2.score address = (other.select roster).2.score address := by
  by_cases empty : roster = []
  next =>
    subst empty
    exact ⟨rfl, agree⟩
  next =>
    -- The two ticks may differ: whoever is in the round is raised, and a sweep spares the raised.
    have alike : Round.Alike (addresses roster) (picker.round roster) (other.round roster) :=
      Round.Alike.foldl ⟨agree, rfl, rfl⟩ (Finset.Subset.refl _)
    obtain ⟨leader, member, best, leads⟩ := picker.exists_leader empty
    have leads' := alike.leader.symm.trans leads
    refine ⟨by rw [select_of_leader leads, select_of_leader leads'], fun address inside => ?_⟩
    rw [score_select leads member inside, score_select leads' member inside, alike.scores _ inside,
      alike.total]

end Round

section Totals

variable [AddCommMonoid ω] [LT ω] [DecidableLT ω]

@[simp] theorem total_round (picker : Picker ω) (roster : List (Node ω τ)) :
    (picker.round roster).total = total roster := by
  rw [round, Round.total_foldl, Node.added_eq, zero_add]

@[simp] theorem scoreIn_round (picker : Picker ω) (roster : List (Node ω τ)) (address : String) :
    scoreIn (picker.round roster).scores address = picker.score address + share roster address := by
  rw [round, Round.scoreIn_foldl, Node.added_eq, share, total, score_eq]

end Totals

section Ordered

variable [AddCommGroup ω] [LinearOrder ω] {picker : Picker ω} {roster before after : List (Node ω τ)}
  {leader node : Node ω τ} {best : ω}

theorem leader_concat (led : (picker.round roster).leader = some (leader, best)) (node : Node ω τ) :
    (picker.round (roster ++ [node])).leader =
      if best < picker.score node.address + share roster node.address + node.weight then
        some (node, picker.score node.address + share roster node.address + node.weight)
      else some (leader, best) := by
  rw [← scoreIn_round, round, List.foldl_concat, ← round, Round.enter, led]
  rfl

/-- The leader is the first node with which an address has reached the greatest score. -/
structure Leads (picker : Picker ω) (before : List (Node ω τ)) (leader : Node ω τ)
    (after : List (Node ω τ)) : Prop where
  ahead : ∀ address ∈ addresses before, picker.score address + share before address <
    picker.score leader.address + share (before ++ leader :: after) leader.address
  kept : share after leader.address = 0
  greatest : ∀ address ∈ addresses (before ++ leader :: after),
    picker.score address + share (before ++ leader :: after) address ≤
      picker.score leader.address + share (before ++ leader :: after) leader.address

theorem Leads.share_eq (leads : Leads picker before leader after) :
    share (before ++ leader :: after) leader.address = share before leader.address + leader.weight := by
  rw [Node.share_append, Node.share_cons, if_pos rfl, leads.kept, add_zero]

theorem Leads.unseen (leads : Leads picker before leader after) (weightless : leader.weight = 0) :
    leader.address ∉ addresses before := by
  intro inside
  have ahead := leads.ahead leader.address inside
  rw [leads.share_eq, weightless, add_zero] at ahead
  exact lt_irrefl _ ahead

theorem leads_singleton (picker : Picker ω) (node : Node ω τ) : Leads picker [] node [] := by
  constructor <;> simp [addresses]

theorem Leads.overtaken (leads : Leads picker before leader after)
    (beaten : picker.score leader.address + share (before ++ leader :: after) leader.address <
      picker.score node.address + share (before ++ leader :: after) node.address + node.weight) :
    Leads picker (before ++ leader :: after) node [] := by
  have reached : picker.score node.address + share (before ++ leader :: after ++ [node]) node.address =
      picker.score node.address + share (before ++ leader :: after) node.address + node.weight := by
    rw [Node.share_concat, if_pos rfl, add_assoc]
  constructor
  case ahead =>
    intro address inside
    rw [reached]
    exact lt_of_le_of_lt (leads.greatest address inside) beaten
  case kept => rfl
  case greatest =>
    intro address inside
    by_cases same : address = node.address
    next => rw [same]
    next =>
      have seen : address ∈ addresses (before ++ leader :: after) := by
        simpa [addresses, same] using inside
      rw [reached, Node.share_concat, if_neg same, add_zero]
      exact le_of_lt (lt_of_le_of_lt (leads.greatest address seen) beaten)

theorem nonneg_of_mem_share (nonneg : ∀ node ∈ roster, 0 ≤ node.weight) (address : String) :
    ∀ weight ∈ (roster.filter fun node => node.address = address).map (·.weight), 0 ≤ weight := by
  intro weight member
  obtain ⟨node, kept, rfl⟩ := List.mem_map.1 member
  exact nonneg node (List.mem_filter.1 kept).1

variable [IsOrderedAddMonoid ω]

section Share

variable (nonneg : ∀ node ∈ roster, 0 ≤ node.weight)
include nonneg

theorem share_nonneg (address : String) : 0 ≤ share roster address :=
  List.sum_nonneg (nonneg_of_mem_share nonneg address)

theorem weight_le_share (member : node ∈ roster) : node.weight ≤ share roster node.address :=
  List.single_le_sum (nonneg_of_mem_share nonneg node.address) _
    (List.mem_map_of_mem (List.mem_filter.2 ⟨member, by simp⟩))

end Share

theorem unraised_of_behind (nonneg : 0 ≤ node.weight)
    (behind : picker.score node.address + share roster node.address + node.weight ≤
      picker.score leader.address + share roster leader.address) :
    (if leader.address = node.address then node.weight else 0) = 0 := by
  split
  next same =>
    rw [same] at behind
    exact le_antisymm (by simpa using behind) nonneg
  next => rfl

theorem Leads.stays (leads : Leads picker before leader after) (nonneg : 0 ≤ node.weight)
    (behind : picker.score node.address + share (before ++ leader :: after) node.address + node.weight ≤
      picker.score leader.address + share (before ++ leader :: after) leader.address) :
    Leads picker before leader (after ++ [node]) := by
  have unraised := unraised_of_behind nonneg behind
  have shares (address : String) : share (before ++ leader :: (after ++ [node])) address =
      share (before ++ leader :: after) address + if address = node.address then node.weight else 0 := by
    rw [← Node.share_concat, List.append_assoc, List.cons_append]
  have reached := shares leader.address
  rw [unraised, add_zero] at reached
  constructor
  case ahead =>
    rw [reached]
    exact leads.ahead
  case kept => rw [Node.share_concat, leads.kept, unraised, add_zero]
  case greatest =>
    intro address inside
    rw [reached, shares]
    by_cases same : address = node.address
    next =>
      rw [if_pos same, ← add_assoc, same]
      exact behind
    next =>
      have seen : address ∈ addresses (before ++ leader :: after) := by
        simpa [addresses, same] using inside
      rw [if_neg same, add_zero]
      exact leads.greatest address seen

theorem exists_leads (picker : Picker ω) (nonempty : roster ≠ [])
    (nonneg : ∀ node ∈ roster, 0 ≤ node.weight) :
    ∃ before leader after, roster = before ++ leader :: after ∧ Leads picker before leader after ∧
      (picker.round roster).leader =
        some (leader, picker.score leader.address + share roster leader.address) := by
  -- The last node of the roster is the last to enter the round.
  induction roster using List.reverseRecOn with
  | nil => exact absurd rfl nonempty
  | append_singleton roster node ih =>
    by_cases first : roster = []
    next =>
      subst first
      refine ⟨[], node, [], rfl, leads_singleton picker node, ?_⟩
      rw [List.nil_append, ← scoreIn_round]
      simp only [round, List.foldl_cons, List.foldl_nil, Round.scoreIn_enter, if_pos]
      rfl
    next =>
      obtain ⟨before, leader, after, rfl, leads, led⟩ := ih first fun other member =>
        nonneg other (List.mem_append_left _ member)
      have own := nonneg node (List.mem_append_right _ (List.mem_singleton_self node))
      have next := leader_concat led node
      split at next
      next beaten =>
        refine ⟨_, node, [], rfl, leads.overtaken beaten, ?_⟩
        rw [next, Node.share_concat, if_pos rfl, add_assoc]
      next behind =>
        have behind := not_lt.1 behind
        refine ⟨before, leader, after ++ [node], by simp, leads.stays own behind, ?_⟩
        rw [next, Node.share_concat, unraised_of_behind own behind, add_zero]

structure Wins (picker : Picker ω) (roster : List (Node ω τ)) (winner : Node ω τ) : Prop where
  chosen : (picker.select roster).1 = some winner
  member : winner ∈ roster
  greatest : ∀ address ∈ addresses roster, picker.score address + share roster address ≤
    picker.score winner.address + share roster winner.address
  scores : ∀ address ∈ addresses roster, (picker.select roster).2.score address =
    picker.score address + share roster address -
      if address = winner.address then total roster else 0

theorem exists_wins (picker : Picker ω) {roster : List (Node ω τ)} (nonempty : roster ≠ [])
    (nonneg : ∀ node ∈ roster, 0 ≤ node.weight) : ∃ winner, Wins picker roster winner := by
  obtain ⟨before, winner, after, rfl, leads, led⟩ := picker.exists_leads nonempty nonneg
  have member : winner ∈ before ++ winner :: after := by simp
  refine ⟨winner, by rw [select_of_leader led], member, leads.greatest, fun address inside => ?_⟩
  rw [score_select led member inside, total_round, scoreIn_round]
  split
  · rfl
  · rw [sub_zero]

end Ordered

end Picker

end StickyRouting
