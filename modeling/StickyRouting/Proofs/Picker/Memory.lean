import StickyRouting.Proofs.Picker.Round
import Mathlib.Algebra.Order.Ring.Nat

/-!
A picker looks through its scores only at every selection that `idleSelections` divides, while addresses
come and go at any, and a reset clears the scores but not the number of selections.
-/

set_option autoImplicit false

namespace StickyRouting.Picker

open Node (addresses)

variable {ω τ : Type}

inductive Call (ω τ : Type) where
  | select (roster : List (Node ω τ))
  | reset

section Calls

def Call.selection? : Call ω τ → Option (List (Node ω τ))
  | select [] => none
  | select roster => some roster
  | reset => none

def Call.isSelect : Call ω τ → Bool
  | select _ => true
  | reset => false

/-- The selections among the calls, of which the latest is the first, as in all lists of them here. -/
def selections (calls : List (Call ω τ)) : List (List (Node ω τ)) := calls.filterMap Call.selection?

def sinceReset (calls : List (Call ω τ)) : List (Call ω τ) := calls.takeWhile Call.isSelect

def Recent (n : Nat) (calls : List (Call ω τ)) (address : String) : Prop :=
  ∃ roster ∈ (selections (sinceReset calls)).take n, address ∈ addresses roster

def lastPart? (address : String) : List (Call ω τ) → Option Nat
  | [] => none
  | .reset :: _ => none
  | .select roster :: earlier =>
    if address ∈ addresses roster then some ((selections earlier).length + 1)
    else lastPart? address earlier

variable {calls earlier : List (Call ω τ)} {roster : List (Node ω τ)} {address : String} {n seen : Nat}

@[simp] theorem selections_reset : selections (.reset :: calls) = selections calls := rfl

@[simp] theorem selections_none : selections (.select [] :: calls) = selections calls := rfl

theorem selections_select (filled : roster ≠ []) :
    selections (.select roster :: calls) = roster :: selections calls := by
  obtain ⟨node, rest, rfl⟩ := List.exists_cons_of_ne_nil filled
  rfl

theorem lastPart?_le (last : lastPart? address calls = some seen) : seen ≤ (selections calls).length := by
  induction calls with
  | nil => cases last
  | cons call earlier ih =>
    cases call with
    | reset => cases last
    | select roster =>
      by_cases empty : roster = []
      next =>
        subst empty
        exact ih last
      next =>
        rw [selections_select empty, List.length_cons]
        rw [lastPart?] at last
        split at last
        next => exact Nat.le_of_eq (Option.some.inj last).symm
        next => exact Nat.le_succ_of_le (ih last)

theorem recent_iff : Recent n calls address ↔
    ∃ seen, lastPart? address calls = some seen ∧ (selections calls).length < seen + n := by
  induction calls generalizing n with
  | nil => simp [Recent, sinceReset, selections, lastPart?]
  | cons call earlier ih =>
    cases call with
    | reset => simp [Recent, sinceReset, selections, lastPart?, Call.isSelect]
    | select roster =>
      by_cases empty : roster = []
      next =>
        subst empty
        exact ih
      next =>
        have since : selections (sinceReset (.select roster :: earlier)) =
            roster :: selections (sinceReset earlier) := selections_select empty
        rw [Recent, since, selections_select empty, List.length_cons, lastPart?]
        cases n with
        | zero =>
          -- Nothing is among the last none, and no part is taken later than the last selection.
          refine iff_of_false (by simp) ?_
          rintro ⟨seen, last, late⟩
          split at last
          next =>
            obtain rfl := Option.some.inj last
            omega
          next =>
            have early := lastPart?_le last
            omega
        | succ n =>
          simp only [List.take_succ_cons, List.mem_cons, exists_eq_or_imp]
          split
          next inside => exact iff_of_true (.inl inside) ⟨_, rfl, by omega⟩
          next outside =>
            rw [or_iff_right outside]
            refine ih.trans (exists_congr fun seen => and_congr_right fun _ => ?_)
            omega

end Calls

section Memory

variable [Zero ω] [Add ω] [Sub ω] [LT ω] [DecidableLT ω]

def apply (picker : Picker ω) : Call ω τ → Picker ω
  | .select roster => (picker.select roster).2
  | .reset => picker.reset

def ofCalls : List (Call ω τ) → Picker ω
  | [] => empty
  | call :: earlier => (ofCalls earlier).apply call

def lastSweep (tick : Nat) : Nat := tick - tick % idleSelections

variable {calls earlier : List (Call ω τ)} {roster : List (Node ω τ)} {address : String}

theorem tick_ofCalls (calls : List (Call ω τ)) : (ofCalls calls).tick = (selections calls).length := by
  induction calls with
  | nil => rfl
  | cons call earlier ih =>
    cases call with
    | reset => exact ih
    | select roster =>
      by_cases empty : roster = []
      next =>
        subst empty
        exact ih
      next =>
        rw [selections_select empty, List.length_cons, ← ih]
        exact tick_select _ empty

omit [Zero ω] [Add ω] [Sub ω] [LT ω] [DecidableLT ω] in
theorem lastSeen_sweep {tick : Nat} {scores : KeyMap (Score ω)} {last : Option Nat}
    (held : (scores.get? address).map (·.lastSeen) =
      last.filter fun seen => lastSweep tick < seen + idleSelections) :
    ((sweep (tick + 1) scores).get? address).map (·.lastSeen) =
      last.filter fun seen => lastSweep (tick + 1) < seen + idleSelections := by
  unfold sweep
  split
  next due =>
    have kept : ((scores.get? address).filter fun s => tick + 1 - s.lastSeen < idleSelections).map
        (·.lastSeen) = ((scores.get? address).map (·.lastSeen)).filter fun seen =>
          tick + 1 - seen < idleSelections := by
      cases scores.get? address with
      | none => rfl
      | some score => simp only [Option.map_some, Option.filter_some]; split <;> rfl
    -- Whom this sweep spares the sweep before it would have spared as well.
    rw [KeyMap.get?_filter, kept, held, Option.filter_filter]
    congr 1
    funext seen
    rw [← Bool.decide_and, decide_eq_decide]
    unfold lastSweep idleSelections at *
    omega
  next early =>
    have same : lastSweep (tick + 1) = lastSweep tick := by
      unfold lastSweep idleSelections at *
      omega
    rw [same, held]

theorem lastSeen_ofCalls (calls : List (Call ω τ)) (address : String) :
    ((ofCalls calls).scores.get? address).map (·.lastSeen) =
      (lastPart? address calls).filter fun seen =>
        lastSweep (selections calls).length < seen + idleSelections := by
  induction calls with
  | nil => rfl
  | cons call earlier ih =>
    cases call with
    | reset => rfl
    | select roster =>
      by_cases empty : roster = []
      next =>
        subst empty
        exact ih
      next =>
        have ticks := tick_ofCalls earlier
        rw [ofCalls, apply, lastPart?, selections_select empty, List.length_cons, ← ticks]
        split
        next inside =>
          have recent : lastSweep ((ofCalls earlier).tick + 1) <
              (ofCalls earlier).tick + 1 + idleSelections := by
            unfold lastSweep idleSelections
            omega
          simp [get?_select _ inside, Option.filter_some, recent]
        next outside =>
          rw [get?_select_of_not_mem _ empty outside]
          rw [← ticks] at ih
          exact lastSeen_sweep ih

omit [Zero ω] [Add ω] [Sub ω] [LT ω] [DecidableLT ω] in
theorem contains_iff_lastSeen (picker : Picker ω) (address : String) :
    picker.scores.contains address = true ↔
      ∃ seen, (picker.scores.get? address).map (·.lastSeen) = some seen := by
  rw [KeyMap.contains]
  cases picker.scores.get? address <;> simp

theorem recent_of_contains (held : (ofCalls calls).scores.contains address = true) :
    Recent (2 * idleSelections - 1) calls address := by
  obtain ⟨seen, held⟩ := (contains_iff_lastSeen _ _).1 held
  rw [lastSeen_ofCalls] at held
  obtain ⟨last, kept⟩ := Option.filter_eq_some_iff.1 held
  refine recent_iff.2 ⟨seen, last, ?_⟩
  have late := of_decide_eq_true kept
  unfold lastSweep idleSelections at *
  omega

theorem contains_of_recent (recent : Recent idleSelections calls address) :
    (ofCalls calls).scores.contains address = true := by
  obtain ⟨seen, last, late⟩ := recent_iff.1 recent
  refine (contains_iff_lastSeen _ _).2 ⟨seen, ?_⟩
  rw [lastSeen_ofCalls, last, Option.filter_some, if_pos]
  refine decide_eq_true ?_
  unfold lastSweep
  omega

theorem lastSeen_le {score : Score ω} (held : (ofCalls calls).scores.get? address = some score) :
    score.lastSeen ≤ (ofCalls calls).tick := by
  have seen := lastSeen_ofCalls calls address
  rw [held, Option.map_some] at seen
  rw [tick_ofCalls]
  exact lastPart?_le (Option.filter_eq_some_iff.1 seen.symm).1

def unswept (picker : Picker ω) (roster : List (Node ω τ)) (winner : Node ω τ) : KeyMap (Score ω) :=
  charge (picker.round roster).total (picker.round roster).scores winner.address

theorem lastSeen_unswept_le {picker : Picker ω} {winner : Node ω τ} {score : Score ω}
    (known : ∀ {score}, picker.scores.get? address = some score → score.lastSeen ≤ picker.tick)
    (held : (picker.unswept roster winner).get? address = some score) :
    score.lastSeen ≤ picker.tick + 1 := by
  by_cases inside : address ∈ addresses roster
  next =>
    obtain ⟨current, raised⟩ := (picker.raised_round inside).charge (picker.round roster).total
      winner.address
    obtain rfl := Option.some.inj (held.symm.trans raised)
    exact Nat.le_refl _
  next =>
    have old : (picker.round roster).scores.get? address = picker.scores.get? address :=
      Round.get?_foldl_of_not_mem inside
    rw [unswept, get?_charge] at held
    split at held
    next same =>
      obtain ⟨before, found, rfl⟩ := Option.map_eq_some_iff.1 held
      rw [← same, old] at found
      have bound : before.lastSeen ≤ picker.tick := known found
      exact Nat.le_succ_of_le bound
    next =>
      rw [old] at held
      exact Nat.le_succ_of_le (known held)

def settle (picker : Picker ω) (roster : List (Node ω τ)) (address : String) (score : ω) : ω :=
  let raised := Node.added score (roster.filter fun node => node.address = address)
  if (picker.select roster).1.map (·.address) = some address then raised - Node.added 0 roster
  else raised

/-- The score that an address comes to by the later calls if none of them is forgotten. -/
def account (past : List (Call ω τ)) (address : String) : List (Call ω τ) → ω
  | [] => (ofCalls past).score address
  | .reset :: _ => 0
  | .select roster :: later =>
    settle (ofCalls (later ++ past)) roster address (account past address later)

def StaysTracked (past later : List (Call ω τ)) (address : String) : Prop :=
  ∀ part, part ≠ [] → part <:+ later → (ofCalls (part ++ past)).scores.contains address = true

theorem score_select_of_mem (picker : Picker ω) (inside : address ∈ addresses roster) :
    (picker.select roster).2.score address = settle picker roster address (picker.score address) := by
  obtain ⟨node, among, -⟩ := Node.mem_addresses.1 inside
  obtain ⟨leader, member, best, leads⟩ := picker.exists_leader (List.ne_nil_of_mem among)
  rw [score_select leads member inside, round, Round.scoreIn_foldl, Round.total_foldl, settle,
    select_of_leader leads, ← score_eq]
  simp [eq_comm]

theorem settle_of_not_mem (picker : Picker ω) (outside : address ∉ addresses roster) (score : ω) :
    settle picker roster address score = score := by
  have none : (roster.filter fun node => node.address = address) = [] := by
    apply List.filter_eq_nil_iff.2
    intro node member same
    exact outside (Node.mem_addresses.2 ⟨node, member, by simpa using same⟩)
  have lost : (picker.select roster).1.map (·.address) ≠ some address := by
    by_cases empty : roster = []
    next =>
      subst empty
      exact nofun
    next =>
      obtain ⟨winner, member, chosen⟩ := picker.exists_select empty
      rw [chosen]
      intro same
      exact outside (Option.some.inj same ▸ Node.address_mem_addresses member)
  rw [settle, none, if_neg lost]
  rfl

theorem score_select_of_kept (picker : Picker ω) (outside : address ∉ addresses roster)
    (kept : (picker.select roster).2.scores.contains address = true) :
    (picker.select roster).2.score address = picker.score address := by
  by_cases empty : roster = []
  next =>
    subst empty
    rfl
  next =>
    rw [KeyMap.contains, get?_select_of_not_mem _ empty outside] at kept
    obtain ⟨score, held⟩ := Option.isSome_iff_exists.1 kept
    rw [score_eq, score_eq, scoreIn, scoreIn, get?_select_of_not_mem _ empty outside, held,
      get?_of_sweep held]

theorem score_eq_account {past later : List (Call ω τ)} (stays : StaysTracked past later address) :
    (ofCalls (later ++ past)).score address = account past address later := by
  -- By induction on the later calls. A selection settles the score of whom it has in its roster, and a
  -- sweep that spares an address leaves its score; a reset spares none.
  induction later with
  | nil => rfl
  | cons call later ih =>
    have before : StaysTracked past later address := fun part filled among =>
      stays part filled (among.trans (List.suffix_cons ..))
    have kept : (ofCalls (call :: (later ++ past))).scores.contains address = true :=
      stays (call :: later) (List.cons_ne_nil _ _) List.suffix_rfl
    cases call with
    | reset => cases kept
    | select roster =>
      rw [account, ← ih before]
      by_cases inside : address ∈ addresses roster
      next => exact score_select_of_mem _ inside
      next =>
        rw [settle_of_not_mem _ inside]
        exact score_select_of_kept _ inside kept

theorem tracked_le {m : Nat} (small : ∀ roster, .select roster ∈ calls → roster.length ≤ m) :
    (ofCalls calls).tracked ≤ (2 * idleSelections - 1) * m := by
  -- Whoever is tracked is in a roster of the window, and no one is tracked twice.
  let window := (selections (sinceReset calls)).take (2 * idleSelections - 1)
  have distinct : (ofCalls calls).scores.keys.Nodup :=
    (KeyMap.ascending_keys _).imp String.ne_of_lt
  have among : (ofCalls calls).scores.keys ⊆ window.flatMap fun roster => roster.map (·.address) := by
    intro address held
    obtain ⟨roster, recent, part⟩ := recent_of_contains ((KeyMap.mem_keys_iff _ _).1 held)
    exact List.mem_flatMap.2 ⟨roster, recent, List.mem_toFinset.1 part⟩
  have short : ∀ roster ∈ window, roster.length ≤ m := by
    intro roster recent
    obtain ⟨call, held, chosen⟩ := List.mem_filterMap.1 (List.mem_of_mem_take recent)
    have made : call ∈ calls := List.takeWhile_subset _ held
    match call, chosen with
    | .select (node :: rest), rfl => exact small _ made
  calc (ofCalls calls).tracked = (ofCalls calls).scores.keys.length := (List.length_map _).symm
    _ ≤ (window.flatMap fun roster => roster.map (·.address)).length :=
      (List.subperm_of_subset distinct among).length_le
    _ = (window.map List.length).sum := by simp [List.length_flatMap]
    _ ≤ window.length * m := by
      simpa using List.sum_le_card_nsmul (window.map List.length) m (by simpa using short)
    _ ≤ (2 * idleSelections - 1) * m := Nat.mul_le_mul_right m (List.length_take_le _ _)

/-- A tracked address took part in one of the last 2047 selections. One that took part in one of the
last 1024, with no reset since, is tracked, and while it stays so its score is the account of what it
was given and charged. A call on no nodes is no selection. -/
theorem memory_bounded (calls : List (Call ω τ)) :
    let picker : Picker ω := ofCalls calls
    (∀ address, picker.scores.contains address = true →
      Recent (2 * idleSelections - 1) calls address) ∧
    (∀ address, Recent idleSelections calls address → picker.scores.contains address = true) ∧
    (∀ past later address, calls = later ++ past → StaysTracked past later address →
      picker.score address = account past address later) ∧
    (∀ (roster : List (Node ω τ)) winner, (picker.select roster).1 = some winner →
      (picker.select roster).2 =
        ⟨sweep (picker.tick + 1) (picker.unswept roster winner), picker.tick + 1⟩ ∧
      ∀ address score, (picker.unswept roster winner).get? address = some score →
        score.lastSeen ≤ picker.tick + 1) ∧
    ∀ m, (∀ roster, .select roster ∈ calls → roster.length ≤ m) →
      picker.tracked ≤ (2 * idleSelections - 1) * m := by
  intro picker
  refine ⟨fun _ => recent_of_contains, fun _ => contains_of_recent, ?account, ?ages, fun _ => tracked_le⟩
  case account =>
    intro past later address split stays
    subst split
    exact score_eq_account stays
  case ages =>
    intro roster winner chosen
    have nonempty : roster ≠ [] := by
      rintro rfl
      cases chosen
    obtain ⟨leader, -, best, leads⟩ := picker.exists_leader nonempty
    rw [select_of_leader leads] at chosen ⊢
    obtain rfl := Option.some.inj chosen
    exact ⟨rfl, fun _ _ => lastSeen_unswept_le lastSeen_le⟩

example : 2 * idleSelections - 1 = 2047 := rfl

end Memory

end StickyRouting.Picker
