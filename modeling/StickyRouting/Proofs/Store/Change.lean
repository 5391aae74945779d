import StickyRouting.Store.Embedded
import StickyRouting.KeyMap.Lemmas
import StickyRouting.Proofs.Store.Frame
import StickyRouting.Proofs.Store.Record

set_option autoImplicit false

namespace StickyRouting.Store

theorem deadline_le (now : Nat) (ttl : Duration) : deadline now ttl ≤ lastInstant :=
  Nat.min_le_right ..

theorem deadline_le_now_iff {now : Nat} (early : now < lastInstant) (ttl : Duration) :
    deadline now ttl ≤ now ↔ ttl.millis = 0 := by
  unfold deadline
  omega

def Call.target? : Call → Option String
  | .get _ => none
  | .getAll _ => none
  | .getRenewing key _ => some key
  | .set key _ _ => some key
  | .claim key _ _ => some key
  | .exchange key _ _ => some key
  | .renew key _ => some key
  | .renewIf key _ _ => some key
  | .delete key => some key
  | .deleteIf key _ => some key

theorem Call.keys_of_target? {call : Call} {key : String} (about : call.target? = some key) :
    call.keys = [key] := by
  cases call <;> simp_all [Call.target?, Call.keys]

namespace Embedded

@[simp] theorem live_none (now : Nat) : live now none = none := rfl

theorem live_eq_some_iff {now : Nat} {record : Option Record} {r : Record} :
    live now record = some r ↔ record = some r ∧ now < r.deadline := by
  simp [live, Option.filter_eq_some_iff, Record.isExpired]

theorem live_eq_none_iff {now : Nat} {record : Option Record} :
    live now record = none ↔ ∀ r, record = some r → r.deadline ≤ now := by
  simp [live, Option.filter_eq_none_iff, Record.isExpired]

theorem live_some (now : Nat) (r : Record) :
    live now (some r) = if r.deadline ≤ now then none else some r := by
  by_cases lapsed : r.deadline ≤ now <;> simp [live, Option.filter, Record.isExpired, lapsed]

theorem live_live {now later : Nat} (h : now ≤ later) (record : Option Record) :
    live later (live now record) = live later record := by
  cases record with
  | none => rfl
  | some r =>
    by_cases lapsed : r.deadline ≤ now
    · have still : r.deadline ≤ later := Nat.le_trans lapsed h
      simp [live_some, lapsed, still]
    · simp [live_some, lapsed]

inductive Change (now : Nat) :
    (call : Call) → Option Record → Except RouteError call.Answer → Option Record → Prop where
  | touched {key : String} {ttl : Duration} {before : Option Record} {r : Record}
      (found : live now before = some r) :
      Change now (.getRenewing key ttl) before (.ok (some r.value)) (some (r.renew now ttl))
  | missed {key : String} {ttl : Duration} {before : Option Record}
      (absent : live now before = none) :
      Change now (.getRenewing key ttl) before (.ok none) none
  | set {key value : String} {ttl : Duration} {before : Option Record} :
      Change now (.set key value ttl) before (.ok ()) (some (.bind value now ttl))
  | claimed {key value : String} {ttl : Duration} {before : Option Record}
      (absent : live now before = none) :
      Change now (.claim key value ttl) before (.ok ⟨true, value⟩) (some (.bind value now ttl))
  | lost {key value : String} {ttl : Duration} {before : Option Record} {r : Record}
      (found : live now before = some r) :
      Change now (.claim key value ttl) before (.ok ⟨false, r.value⟩) before
  | exchanged {key value : String} {ttl : Duration} {before : Option Record} :
      Change now (.exchange key value ttl) before (.ok (valueOf (live now before)))
        (some (.bind value now ttl))
  | renewed {key : String} {ttl : Duration} {before : Option Record} {r : Record}
      (found : live now before = some r) :
      Change now (.renew key ttl) before (.ok ()) (some (r.renew now ttl))
  | notFound {key : String} {ttl : Duration} {before : Option Record}
      (absent : live now before = none) :
      Change now (.renew key ttl) before (.error (.notFound key)) before
  | renewedIf {key : String} {ttl : Duration} {before : Option Record} {r : Record}
      (found : live now before = some r) :
      Change now (.renewIf key r.value ttl) before (.ok ()) (some (r.renew now ttl))
  | renewalRefused {key expected : String} {ttl : Duration} {before : Option Record}
      (other : valueOf (live now before) ≠ some expected) :
      Change now (.renewIf key expected ttl) before
        (.error (.valueChanged key expected (valueOf (live now before)))) before
  | deleted {key : String} {before : Option Record} :
      Change now (.delete key) before (.ok ()) none
  | deletedIf {key : String} {before : Option Record} {r : Record}
      (found : live now before = some r) :
      Change now (.deleteIf key r.value) before (.ok ()) none
  | deletionRefused {key expected : String} {before : Option Record}
      (other : valueOf (live now before) ≠ some expected) :
      Change now (.deleteIf key expected) before
        (.error (.valueChanged key expected (valueOf (live now before)))) before

theorem stored_insert (table : Table) (key other : String) (record : Record)
    (bounded : record.deadline ≤ lastInstant) :
    stored (table.insert key record.encode) other =
      if other = key then .ok (some record) else stored table other := by
  unfold stored
  rw [KeyMap.get?_insert]
  by_cases same : other = key
  · simp [same, decode, bounded]
    rfl
  · simp [same]

theorem stored_erase (table : Table) (key other : String) :
    stored (table.erase key) other = if other = key then .ok none else stored table other := by
  unfold stored
  rw [KeyMap.get?_erase]
  by_cases same : other = key <;> simp [same]

theorem stored_self {table : Table} {key : String} {before : Option Record}
    (here : stored table key = .ok before) (other : String) :
    stored table other = if other = key then .ok before else stored table other := by
  split
  case isTrue same => rw [same, here]
  case isFalse => rfl

theorem stored_keep {now : Nat} {table : Table} {key : String} {before : Option Record}
    (here : stored table key = .ok before) (other : String) :
    stored (Mutation.keep.apply now key before table) other =
      if other = key then .ok (live now before) else stored table other := by
  cases before with
  | none => exact stored_self here other
  | some r =>
    by_cases lapsed : r.deadline ≤ now
    · simp [Mutation.apply, Record.isExpired, lapsed, live_some, stored_erase]
    · simpa [Mutation.apply, Record.isExpired, lapsed, live_some] using stored_self here other

theorem atomically_ok {α : Type} {now : Nat} {key : String} {table : Table}
    {step : Option Record → Except RouteError (Mutation × α)} {before : Option Record}
    {mutation : Mutation} {answer : α} (here : stored table key = .ok before)
    (does : step (live now before) = .ok (mutation, answer)) :
    atomically now key table step = (.ok answer, mutation.apply now key before table) := by
  simp [atomically, here, does]

theorem atomically_error {α : Type} {now : Nat} {key : String} {table : Table}
    {step : Option Record → Except RouteError (Mutation × α)} {before : Option Record}
    {e : RouteError} (here : stored table key = .ok before)
    (fails : step (live now before) = .error e) :
    atomically now key table step = (.error e, table) := by
  simp [atomically, here, fails]

theorem ifSame_same {key : String} {mutation : Record → Mutation} {r : Record} :
    ifSame key r.value mutation (some r) = .ok (mutation r, ()) := by
  simp [ifSame]

theorem ifSame_other {key expected : String} {mutation : Record → Mutation}
    {entry : Option Record} (other : valueOf entry ≠ some expected) :
    ifSame key expected mutation entry = .error (.valueChanged key expected (valueOf entry)) := by
  cases entry with
  | none => rfl
  | some r =>
    have ne : r.value ≠ expected := fun same => other (by simp [valueOf, same])
    simp [ifSame, ne, valueOf]

theorem perform_unreadable {now : Nat} {call : Call} {table : Table} {key : String}
    {e : RouteError} (about : call.target? = some key) (broken : stored table key = .error e) :
    perform now call table = (.error e, table) := by
  cases call <;> simp only [Call.target?, Option.some.injEq, reduceCtorEq] at about
  all_goals subst about; simp [perform, atomically, broken]

theorem perform_change (now : Nat) {call : Call} {table : Table} {key : String}
    {before : Option Record} (about : call.target? = some key)
    (here : stored table key = .ok before) :
    ∃ after, Change now call before (perform now call table).1 after ∧
      ∀ other, stored (perform now call table).2 other =
        if other = key then .ok after else stored table other := by
  cases call with
  | get => simp [Call.target?] at about
  | getAll => simp [Call.target?] at about
  | getRenewing name ttl =>
    obtain rfl : name = key := by simpa [Call.target?] using about
    cases found : live now before with
    | none =>
      rw [perform, atomically_ok here (by rw [found])]
      exact ⟨none, .missed found, fun other => by rw [stored_keep here, found]⟩
    | some r =>
      rw [perform, atomically_ok here (by rw [found])]
      exact ⟨_, .touched found, fun other => stored_insert _ _ _ _ (deadline_le ..)⟩
  | set name value ttl =>
    obtain rfl : name = key := by simpa [Call.target?] using about
    rw [perform, atomically_ok here rfl]
    exact ⟨_, .set, fun other => stored_insert _ _ _ _ (deadline_le ..)⟩
  | claim name value ttl =>
    obtain rfl : name = key := by simpa [Call.target?] using about
    cases found : live now before with
    | none =>
      rw [perform, atomically_ok here (by rw [found])]
      exact ⟨_, .claimed found, fun other => stored_insert _ _ _ _ (deadline_le ..)⟩
    | some r =>
      have whole : before = some r := (live_eq_some_iff.1 found).1
      rw [perform, atomically_ok here (by rw [found])]
      exact ⟨_, .lost found, fun other => by rw [stored_keep here, found, whole]⟩
  | exchange name value ttl =>
    obtain rfl : name = key := by simpa [Call.target?] using about
    rw [perform, atomically_ok here rfl]
    exact ⟨_, .exchanged, fun other => stored_insert _ _ _ _ (deadline_le ..)⟩
  | renew name ttl =>
    obtain rfl : name = key := by simpa [Call.target?] using about
    cases found : live now before with
    | none =>
      rw [perform, atomically_error here (by rw [found])]
      exact ⟨_, .notFound found, stored_self here⟩
    | some r =>
      rw [perform, atomically_ok here (by rw [found])]
      exact ⟨_, .renewed found, fun other => stored_insert _ _ _ _ (deadline_le ..)⟩
  | renewIf name expected ttl =>
    obtain rfl : name = key := by simpa [Call.target?] using about
    by_cases same : valueOf (live now before) = some expected
    · obtain ⟨r, found, rfl⟩ := Option.map_eq_some_iff.1 same
      rw [perform, atomically_ok here (by rw [found, ifSame_same])]
      exact ⟨_, .renewedIf found, fun other => stored_insert _ _ _ _ (deadline_le ..)⟩
    · rw [perform, atomically_error here (ifSame_other same)]
      exact ⟨_, .renewalRefused same, stored_self here⟩
  | delete name =>
    obtain rfl : name = key := by simpa [Call.target?] using about
    rw [perform, atomically_ok here rfl]
    exact ⟨_, .deleted, stored_erase _ _⟩
  | deleteIf name expected =>
    obtain rfl : name = key := by simpa [Call.target?] using about
    by_cases same : valueOf (live now before) = some expected
    · obtain ⟨r, found, rfl⟩ := Option.map_eq_some_iff.1 same
      rw [perform, atomically_ok here (by rw [found, ifSame_same])]
      exact ⟨_, .deletedIf found, stored_erase _ _⟩
    · rw [perform, atomically_error here (ifSame_other same)]
      exact ⟨_, .deletionRefused same, stored_self here⟩

theorem perform_change_self (now : Nat) {call : Call} {table : Table} {key : String}
    {before : Option Record} (about : call.target? = some key)
    (here : stored table key = .ok before) :
    ∃ after, Change now call before (perform now call table).1 after ∧
      stored (perform now call table).2 key = .ok after := by
  obtain ⟨after, change, stores⟩ := perform_change now about here
  exact ⟨after, change, (stores key).trans (if_pos rfl)⟩

theorem stored_perform_of_ne (now : Nat) {call : Call} {table : Table} {target key : String}
    (about : call.target? = some target) (other : key ≠ target) :
    stored (perform now call table).2 key = stored table key := by
  refine stored_congr (get?_perform_of_not_mem now call table ?_)
  simpa [Call.keys_of_target? about] using other

theorem stored_perform_of_target_ne (now : Nat) {call : Call} (table : Table) {key : String}
    (other : call.target? ≠ some key) : stored (perform now call table).2 key = stored table key := by
  cases about : call.target? with
  | none => cases call <;> simp only [Call.target?, reduceCtorEq] at about <;> rfl
  | some target => exact stored_perform_of_ne now about fun same => other (by rw [about, same])

section Bind

variable {now : Nat} {table : Table} {key value : String} {ttl : Duration}

theorem live_bind (early : now < lastInstant) (value : String) (ttl : Duration) :
    live now (some (.bind value now ttl)) =
      if ttl.millis = 0 then none else some (.bind value now ttl) := by
  rw [live_some]
  exact ite_congr (propext (deadline_le_now_iff early ttl)) (fun _ => rfl) fun _ => rfl

theorem get_of_bind (early : now < lastInstant)
    (held : stored table key = .ok (some (.bind value now ttl))) :
    (perform now (.get key) table).1 = .ok (if ttl.millis = 0 then none else some value) := by
  have found : look now table key = .ok (valueOf (live now (some (.bind value now ttl)))) := by
    rw [look, held]
    rfl
  rw [live_bind early] at found
  rw [perform, found]
  split <;> rfl

theorem claim_of_bind (early : now < lastInstant)
    (held : stored table key = .ok (some (.bind value now ttl))) (other : String) (time : Duration) :
    (perform now (.claim key other time) table).1 =
      .ok (if ttl.millis = 0 then ⟨true, other⟩ else ⟨false, value⟩) := by
  have found := live_bind early value ttl
  by_cases none_left : ttl.millis = 0
  next =>
    rw [if_pos none_left] at found ⊢
    rw [perform, atomically_ok held (by rw [found])]
  next =>
    rw [if_neg none_left] at found ⊢
    rw [perform, atomically_ok held (by rw [found])]
    rfl

end Bind

end Embedded

end StickyRouting.Store
