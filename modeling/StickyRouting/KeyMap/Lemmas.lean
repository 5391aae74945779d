import StickyRouting.KeyMap

set_option autoImplicit false

namespace StickyRouting.KeyMap

variable {α β : Type}

theorem lookup_eq_none_of_below {key : String} {entries : List (String × α)}
    (below : ∀ x ∈ entries, key < x.1) : lookup key entries = none := by
  induction entries with
  | nil => rfl
  | cons e rest ih =>
    have ne : key ≠ e.1 := fun same =>
      String.lt_irrefl _ (same ▸ below e (List.mem_cons_self ..))
    simp [lookup, ne, ih fun x hx => below x (List.mem_cons_of_mem _ hx)]

theorem lookup_place {key other : String} {value : Option α} {rest : List (String × α)}
    (absent : lookup key rest = none) :
    lookup other (place key value rest) = if other = key then value else lookup other rest := by
  by_cases same : other = key
  · cases value <;> simp [place, lookup, same, absent]
  · cases value <;> simp [place, lookup, same]

theorem lookup_alterList {key other : String} {change : Option α → Option α}
    {entries : List (String × α)} (h : Ascending entries) :
    lookup other (alterList key change entries) =
      if other = key then change (lookup key entries) else lookup other entries := by
  induction entries with
  | nil => exact lookup_place rfl
  | cons e rest ih =>
    obtain ⟨name, value⟩ := e
    obtain ⟨first, tail⟩ := List.pairwise_cons.1 h
    simp only [alterList]
    split
    case isTrue lt =>
      have absent : lookup key ((name, value) :: rest) = none :=
        lookup_eq_none_of_below fun x hx => by
          rcases List.mem_cons.1 hx with rfl | hx
          · exact lt
          · exact String.lt_trans lt (first x hx)
      rw [lookup_place absent, absent]
    case isFalse not_lt =>
      split
      case isTrue gt =>
        have ne : key ≠ name := fun same => String.lt_irrefl _ (same ▸ gt)
        simp only [lookup, ih tail, ne, if_false]
        by_cases same : other = name
        · simp [same, ne.symm]
        · simp [same]
      case isFalse not_gt =>
        have same := eq_of_not_lt not_lt not_gt
        subst same
        have absent : lookup key rest = none := lookup_eq_none_of_below first
        rw [lookup_place absent]
        by_cases here : other = key <;> simp [here, lookup]

@[simp] theorem get?_empty (key : String) : (∅ : KeyMap α).get? key = none := rfl

theorem get?_alter (m : KeyMap α) (key other : String) (change : Option α → Option α) :
    (m.alter key change).get? other =
      if other = key then change (m.get? key) else m.get? other :=
  lookup_alterList m.ascending

@[simp] theorem get?_insert_self (m : KeyMap α) (key : String) (value : α) :
    (m.insert key value).get? key = some value := by
  simp [insert, get?_alter]

@[simp] theorem get?_erase_self (m : KeyMap α) (key : String) : (m.erase key).get? key = none := by
  simp [erase, get?_alter]

theorem get?_insert (m : KeyMap α) (key other : String) (value : α) :
    (m.insert key value).get? other = if other = key then some value else m.get? other :=
  get?_alter ..

theorem get?_erase (m : KeyMap α) (key other : String) :
    (m.erase key).get? other = if other = key then none else m.get? other :=
  get?_alter ..

theorem mem_entries_iff (m : KeyMap α) (key : String) (value : α) :
    (key, value) ∈ m.entries ↔ m.get? key = some value := by
  obtain ⟨entries, ascending⟩ := m
  simp only [get?]
  induction entries with
  | nil => simp [lookup]
  | cons e rest ih =>
    obtain ⟨name, held⟩ := e
    obtain ⟨first, tail⟩ := List.pairwise_cons.1 ascending
    by_cases same : key = name
    · subst same
      have absent : (key, value) ∉ rest := fun h =>
        String.lt_irrefl key (first (key, value) h)
      simp [lookup, absent, eq_comm]
    · simp [lookup, same, ih tail]

theorem get?_filter (m : KeyMap α) (keep : String → α → Bool) (key : String) :
    (m.filter keep).get? key = (m.get? key).filter (keep key) := by
  apply Option.ext
  intro value
  rw [← mem_entries_iff, Option.filter_eq_some_iff, ← mem_entries_iff]
  simp [filter]

theorem get?_map (m : KeyMap α) (f : α → β) (key : String) :
    (m.map f).get? key = (m.get? key).map f := by
  obtain ⟨entries, ascending⟩ := m
  simp only [get?, map]
  clear ascending
  induction entries with
  | nil => rfl
  | cons e rest ih => by_cases same : key = e.1 <;> simp [lookup, same, ih]

theorem eq_of_mem_iff {a b : List (String × α)} (ha : Ascending a) (hb : Ascending b)
    (same : ∀ x, x ∈ a ↔ x ∈ b) : a = b := by
  induction a generalizing b with
  | nil =>
    cases b with
    | nil => rfl
    | cons y b => exact absurd ((same y).2 (List.mem_cons_self ..)) (by simp)
  | cons x a ih =>
    cases b with
    | nil => exact absurd ((same x).1 (List.mem_cons_self ..)) (by simp)
    | cons y b =>
      obtain ⟨below_a, rest_a⟩ := List.pairwise_cons.1 ha
      obtain ⟨below_b, rest_b⟩ := List.pairwise_cons.1 hb
      have head : x = y := by
        rcases List.mem_cons.1 ((same x).1 (List.mem_cons_self ..)) with h | h
        · exact h
        · rcases List.mem_cons.1 ((same y).2 (List.mem_cons_self ..)) with h' | h'
          · exact h'.symm
          · exact absurd (below_b x h) (String.lt_asymm (below_a y h'))
      subst head
      refine congrArg _ (ih rest_a rest_b fun z => ?_)
      constructor
      · intro hz
        rcases List.mem_cons.1 ((same z).1 (List.mem_cons_of_mem _ hz)) with rfl | h
        · exact absurd (below_a _ hz) (String.lt_irrefl _)
        · exact h
      · intro hz
        rcases List.mem_cons.1 ((same z).2 (List.mem_cons_of_mem _ hz)) with rfl | h
        · exact absurd (below_b _ hz) (String.lt_irrefl _)
        · exact h

@[ext] theorem ext {a b : KeyMap α} (same : ∀ key, a.get? key = b.get? key) : a = b := by
  have : a.entries = b.entries := eq_of_mem_iff a.ascending b.ascending fun x => by
    rw [mem_entries_iff a x.1 x.2, mem_entries_iff b x.1 x.2, same]
  cases a; cases b; simpa using this

theorem mem_keys_iff (m : KeyMap α) (key : String) : key ∈ m.keys ↔ (m.get? key).isSome = true := by
  rw [Option.isSome_iff_exists, keys, List.mem_map]
  constructor
  · rintro ⟨⟨name, value⟩, member, rfl⟩
    exact ⟨value, (mem_entries_iff m name value).1 member⟩
  · rintro ⟨value, held⟩
    exact ⟨(key, value), (mem_entries_iff m key value).2 held, rfl⟩

theorem mem_keys_ofList (pairs : List (String × α)) (key : String) :
    key ∈ (ofList pairs).keys ↔ key ∈ pairs.map (·.1) := by
  have grown (m : KeyMap α) : key ∈ (pairs.foldl (fun m e => m.insert e.1 e.2) m).keys ↔
      key ∈ pairs.map (·.1) ∨ key ∈ m.keys := by
    induction pairs generalizing m with
    | nil => simp
    | cons pair pairs ih =>
      rw [List.foldl_cons, ih, mem_keys_iff, get?_insert, mem_keys_iff]
      by_cases same : key = pair.1 <;> simp [same]
  simpa [mem_keys_iff, ofList] using grown ∅

theorem ascending_keys (m : KeyMap α) : m.keys.Pairwise (· < ·) := List.pairwise_map.2 m.ascending

theorem filterMap_get? (m : KeyMap α) {keys : List String} (ascending : keys.Pairwise (· < ·))
    (all : ∀ key, (m.get? key).isSome = true → key ∈ keys) :
    keys.filterMap (fun key => (m.get? key).map fun value => (key, value)) = m.entries := by
  refine eq_of_mem_iff ?_ m.ascending fun x => ?_
  · refine List.pairwise_filterMap.2 (ascending.imp fun less x found y found' => ?_)
    obtain ⟨_, -, rfl⟩ := Option.map_eq_some_iff.1 found
    obtain ⟨_, -, rfl⟩ := Option.map_eq_some_iff.1 found'
    exact less
  · obtain ⟨key, value⟩ := x
    rw [mem_entries_iff, List.mem_filterMap]
    constructor
    · rintro ⟨name, -, found⟩
      obtain ⟨held, here, same⟩ := Option.map_eq_some_iff.1 found
      obtain ⟨rfl, rfl⟩ := Prod.mk.inj same
      exact here
    · intro here
      exact ⟨key, all key (by simp [here]), by simp [here]⟩

end StickyRouting.KeyMap
