import StickyRouting.Proofs.Store.Change
import StickyRouting.Proofs.Store.History

set_option autoImplicit false

namespace StickyRouting.Store.Ideal

abbrev Bindings := KeyMap Record

def current (now : Nat) (map : Bindings) : Bindings := map.filter fun _ entry => now < entry.deadline

def bound (value : String) (now : Nat) (ttl : Duration) : Record :=
  ⟨value, min (now + ttl.millis) (UInt64.size - 1)⟩

def value? (map : Bindings) (key : String) : Option String := (map.get? key).map (·.value)

def perform : Engine Bindings := fun now call map =>
  let map := current now map
  match call with
  | .get key => (.ok (value? map key), map)
  | .getAll keys => (.ok (keys.map (value? map)), map)
  | .getRenewing key ttl =>
    match map.get? key with
    | some entry => (.ok (some entry.value), map.insert key (bound entry.value now ttl))
    | none => (.ok none, map)
  | .set key value ttl => (.ok (), map.insert key (bound value now ttl))
  | .claim key value ttl =>
    match map.get? key with
    | some entry => (.ok ⟨false, entry.value⟩, map)
    | none => (.ok ⟨true, value⟩, map.insert key (bound value now ttl))
  | .exchange key value ttl => (.ok (value? map key), map.insert key (bound value now ttl))
  | .renew key ttl =>
    match map.get? key with
    | some entry => (.ok (), map.insert key (bound entry.value now ttl))
    | none => (.error (.notFound key), map)
  | .renewIf key expected ttl =>
    if value? map key = some expected then (.ok (), map.insert key (bound expected now ttl))
    else (.error (.valueChanged key expected (value? map key)), map)
  | .delete key => (.ok (), map.erase key)
  | .deleteIf key expected =>
    if value? map key = some expected then (.ok (), map.erase key)
    else (.error (.valueChanged key expected (value? map key)), map)

def entry (now : Nat) (row : String × Record) : Entry :=
  ⟨row.1, row.2.value, .ofMillis (row.2.deadline - now)⟩

def operate : Keeper Bindings := fun now operation map =>
  match operation with
  | .call call => perform now call map
  | .remaining key =>
    (.ok (((current now map).get? key).map fun e => .ofMillis (e.deadline - now)), current now map)
  | .entries start =>
    (.ok (((current now map).entries.filter fun row =>
      (start.getD "").toList.isPrefixOf row.1.toList).map (entry now)), current now map)
  | .purge => (.ok 0, map)

open Embedded (live valueOf stored Change)

theorem get?_current (now : Nat) (map : Bindings) (key : String) :
    (current now map).get? key = live now (map.get? key) := by
  rw [current, KeyMap.get?_filter, live]
  congr 1
  funext r
  rw [Record.isExpired, ← decide_not, decide_eq_decide, Nat.not_le]

theorem value?_current (now : Nat) (map : Bindings) (key : String) :
    value? (current now map) key = valueOf (live now (map.get? key)) := by
  rw [value?, get?_current, valueOf]

/-- From an instant on, two records of a key are live at the same times, and then the same. -/
def Agrees (now : Nat) (record held : Option Record) : Prop :=
  ∀ later, now ≤ later → live later record = live later held

theorem Agrees.refl (now : Nat) (record : Option Record) : Agrees now record record :=
  fun _ _ => rfl

theorem Agrees.live_right {last now : Nat} {record held : Option Record} (h : last ≤ now)
    (agrees : Agrees last record held) : Agrees now record (live now held) := by
  intro later after
  rw [Embedded.live_live after]
  exact agrees later (Nat.le_trans h after)

theorem perform_of_change {last now : Nat} {call : Call} {key : String}
    {before after : Option Record} {answer : Except RouteError call.Answer} {map : Bindings}
    (forward : last ≤ now) (about : call.target? = some key)
    (change : Change now call before answer after) (agrees : Agrees last before (map.get? key)) :
    (perform now call map).1 = answer ∧ Agrees now after ((perform now call map).2.get? key) ∧
      ∀ other, other ≠ key → (perform now call map).2.get? other = live now (map.get? other) := by
  have held : (current now map).get? key = live now before := by
    rw [get?_current, agrees now forward]
  have value : value? (current now map) key = valueOf (live now before) := by
    rw [value?, held, valueOf]
  have kept : Agrees now before ((current now map).get? key) := by
    rw [get?_current]
    exact agrees.live_right forward
  have inserted (record : Record) (other : String) (ne : other ≠ key) :
      ((current now map).insert key record).get? other = live now (map.get? other) := by
    rw [KeyMap.get?_insert, if_neg ne, get?_current]
  have erased (other : String) (ne : other ≠ key) :
      ((current now map).erase key).get? other = live now (map.get? other) := by
    rw [KeyMap.get?_erase, if_neg ne, get?_current]
  cases change <;> simp only [Call.target?, Option.some.injEq] at about <;> subst about
  case touched r found =>
    rw [found] at held
    simp only [perform, held, KeyMap.get?_insert_self]
    exact ⟨trivial, .refl _ _, inserted _⟩
  case missed absent =>
    rw [absent] at held
    simp only [perform, held]
    exact ⟨trivial, .refl _ _, fun other _ => get?_current ..⟩
  case set =>
    simp only [perform, KeyMap.get?_insert_self]
    exact ⟨trivial, .refl _ _, inserted _⟩
  case claimed absent =>
    rw [absent] at held
    simp only [perform, held, KeyMap.get?_insert_self]
    exact ⟨trivial, .refl _ _, inserted _⟩
  case lost r found =>
    rw [found] at held
    simp only [perform, held]
    exact ⟨trivial, held ▸ kept, fun other _ => get?_current ..⟩
  case exchanged =>
    simp only [perform, value, KeyMap.get?_insert_self]
    exact ⟨trivial, .refl _ _, inserted _⟩
  case renewed r found =>
    rw [found] at held
    simp only [perform, held, KeyMap.get?_insert_self]
    exact ⟨trivial, .refl _ _, inserted _⟩
  case notFound absent =>
    rw [absent] at held
    simp only [perform, held]
    exact ⟨trivial, held ▸ kept, fun other _ => get?_current ..⟩
  case renewedIf r found =>
    rw [found] at value
    simp only [perform, value, valueOf, Option.map_some, if_true, KeyMap.get?_insert_self]
    exact ⟨trivial, .refl _ _, inserted _⟩
  case renewalRefused other =>
    simp only [perform, value, other, if_false]
    exact ⟨trivial, kept, fun other _ => get?_current ..⟩
  case deleted =>
    simp only [perform, KeyMap.get?_erase_self]
    exact ⟨trivial, .refl _ _, erased⟩
  case deletedIf r found =>
    rw [found] at value
    simp only [perform, value, valueOf, Option.map_some, if_true, KeyMap.get?_erase_self]
    exact ⟨trivial, .refl _ _, erased⟩
  case deletionRefused other =>
    simp only [perform, value, other, if_false]
    exact ⟨trivial, kept, fun other _ => get?_current ..⟩

end StickyRouting.Store.Ideal
