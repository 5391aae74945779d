/-!
Finite maps from text to values, kept as a list in ascending order of the keys. Text is ordered by
code point, which is also the order of its bytes.
-/

set_option autoImplicit false

namespace StickyRouting

variable {α β : Type}

namespace KeyMap

def lookup (key : String) : List (String × α) → Option α
  | [] => none
  | (name, value) :: rest => if key = name then some value else lookup key rest

def place (key : String) : Option α → List (String × α) → List (String × α)
  | none, rest => rest
  | some value, rest => (key, value) :: rest

def alterList (key : String) (change : Option α → Option α) :
    List (String × α) → List (String × α)
  | [] => place key (change none) []
  | (other, value) :: rest =>
    if key < other then place key (change none) ((other, value) :: rest)
    else if other < key then (other, value) :: alterList key change rest
    else place key (change (some value)) rest

abbrev Ascending (entries : List (String × α)) : Prop :=
  entries.Pairwise fun a b => a.1 < b.1

theorem eq_of_not_lt {a b : String} (h : ¬ a < b) (h' : ¬ b < a) : a = b :=
  String.le_antisymm (String.not_lt.1 h') (String.not_lt.1 h)

theorem mem_place {key : String} {value : Option α} {rest : List (String × α)} {x : String × α}
    (h : x ∈ place key value rest) : x.1 = key ∨ x ∈ rest := by
  cases value with
  | none => exact .inr h
  | some v =>
    rcases List.mem_cons.1 h with rfl | h
    · exact .inl rfl
    · exact .inr h

theorem mem_alterList {key : String} {change : Option α → Option α}
    {entries : List (String × α)} {x : String × α} (h : x ∈ alterList key change entries) :
    x.1 = key ∨ x ∈ entries := by
  induction entries with
  | nil => simpa using mem_place h
  | cons e rest ih =>
    obtain ⟨other, value⟩ := e
    simp only [alterList] at h
    split at h
    · exact mem_place h
    · split at h
      · rcases List.mem_cons.1 h with rfl | h
        · exact .inr (List.mem_cons_self ..)
        · exact (ih h).imp_right (List.mem_cons_of_mem _)
      · exact (mem_place h).imp_right (List.mem_cons_of_mem _)

theorem ascending_place {key : String} {value : Option α} {rest : List (String × α)}
    (h : Ascending rest) (below : ∀ x ∈ rest, key < x.1) : Ascending (place key value rest) := by
  cases value with
  | none => exact h
  | some v => exact List.pairwise_cons.2 ⟨below, h⟩

theorem ascending_alterList {key : String} {change : Option α → Option α}
    {entries : List (String × α)} (h : Ascending entries) :
    Ascending (alterList key change entries) := by
  induction entries with
  | nil => exact ascending_place .nil (by simp)
  | cons e rest ih =>
    obtain ⟨other, value⟩ := e
    obtain ⟨first, tail⟩ := List.pairwise_cons.1 h
    simp only [alterList]
    split
    case isTrue lt =>
      refine ascending_place h fun x hx => ?_
      rcases List.mem_cons.1 hx with rfl | hx
      · exact lt
      · exact String.lt_trans lt (first x hx)
    case isFalse not_lt =>
      split
      case isTrue gt =>
        refine List.pairwise_cons.2 ⟨fun x hx => ?_, ih tail⟩
        rcases mem_alterList hx with same | hx
        · exact same ▸ gt
        · exact first x hx
      case isFalse not_gt =>
        have same := eq_of_not_lt not_lt not_gt
        exact ascending_place tail fun x hx => same ▸ first x hx

end KeyMap

structure KeyMap (α : Type) where
  entries : List (String × α)
  ascending : KeyMap.Ascending entries

namespace KeyMap

instance [Repr α] : Repr (KeyMap α) := ⟨fun m n => reprPrec m.entries n⟩

instance [DecidableEq α] : DecidableEq (KeyMap α) := fun a b =>
  decidable_of_iff (a.entries = b.entries) <| by cases a; cases b; simp

def empty : KeyMap α := ⟨[], .nil⟩

instance : EmptyCollection (KeyMap α) := ⟨empty⟩
instance : Inhabited (KeyMap α) := ⟨empty⟩

def get? (m : KeyMap α) (key : String) : Option α := lookup key m.entries

def contains (m : KeyMap α) (key : String) : Bool := (m.get? key).isSome

def size (m : KeyMap α) : Nat := m.entries.length

def keys (m : KeyMap α) : List String := m.entries.map (·.1)

/-- Change what is held for one key: `none` stands for nothing, before and after. -/
def alter (m : KeyMap α) (key : String) (change : Option α → Option α) : KeyMap α :=
  ⟨alterList key change m.entries, ascending_alterList m.ascending⟩

def insert (m : KeyMap α) (key : String) (value : α) : KeyMap α := m.alter key fun _ => some value

def erase (m : KeyMap α) (key : String) : KeyMap α := m.alter key fun _ => none

def filter (m : KeyMap α) (keep : String → α → Bool) : KeyMap α :=
  ⟨m.entries.filter fun e => keep e.1 e.2, m.ascending.filter _⟩

def map (m : KeyMap α) (f : α → β) : KeyMap β :=
  ⟨m.entries.map fun e => (e.1, f e.2), by
    simpa [Ascending, List.pairwise_map] using m.ascending⟩

/-- Insert pairs from the left to the right, so that the last value of a key stays. -/
def ofList (pairs : List (String × α)) : KeyMap α :=
  pairs.foldl (fun m e => m.insert e.1 e.2) ∅

end KeyMap

end StickyRouting
