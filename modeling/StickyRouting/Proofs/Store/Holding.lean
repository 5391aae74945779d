import StickyRouting.Proofs.Store.Change

set_option autoImplicit false

namespace StickyRouting.Store

theorem Record.deadline_le_of_deadlineOf? {tree : Json.Tree} {deadline : Nat}
    (read : deadlineOf? tree = some deadline) : deadline ≤ lastInstant := by
  unfold deadlineOf? at read
  split at read
  next => simpa using (Option.filter_eq_some_iff.1 read).2
  next => contradiction

theorem Record.deadline_le_of_decode? {bytes : List UInt8} {record : Record}
    (read : decode? bytes = some record) : record.deadline ≤ lastInstant := by
  obtain ⟨tree, -, made⟩ := Option.bind_eq_some_iff.1 read
  unfold ofTree? at made
  split at made
  next =>
    obtain ⟨value, -, made⟩ := Option.bind_eq_some_iff.1 made
    obtain ⟨deadline, timed, made⟩ := Option.bind_eq_some_iff.1 made
    obtain rfl := Option.some.inj made
    exact deadline_le_of_deadlineOf? timed
  next =>
    split at made
    next =>
      obtain ⟨_, -, made⟩ := Option.bind_eq_some_iff.1 made
      obtain ⟨_, -, made⟩ := Option.bind_eq_some_iff.1 made
      obtain ⟨value, -, made⟩ := Option.bind_eq_some_iff.1 made
      obtain ⟨deadline, timed, made⟩ := Option.bind_eq_some_iff.1 made
      obtain rfl := Option.some.inj made
      exact deadline_le_of_deadlineOf? timed
    next => contradiction
  next => contradiction

namespace Embedded

theorem stored_deadline_le {table : Table} {key : String} {record : Record}
    (here : stored table key = .ok (some record)) : record.deadline ≤ lastInstant := by
  unfold stored at here
  split at here
  next => cases here
  next bytes _ =>
    cases read : Record.decode? bytes with
    | none => simp [decode, read, Except.map] at here
    | some r =>
      simp only [decode, read, Except.map, Except.ok.injEq, Option.some.injEq] at here
      exact here ▸ Record.deadline_le_of_decode? read

def Bound (table : Table) (key value : String) : Prop :=
  ∃ r, stored table key = .ok (some r) ∧ r.value = value

def Holds (now : Nat) (table : Table) (key value : String) : Prop :=
  ∃ r, stored table key = .ok (some r) ∧ now < r.deadline ∧ r.value = value

variable {now : Nat} {table : Table} {key : String}

theorem Holds.bound {value : String} (holds : Holds now table key value) : Bound table key value :=
  let ⟨r, here, _, same⟩ := holds
  ⟨r, here, same⟩

theorem Holds.earlier {before : Nat} {value : String} (holds : Holds now table key value)
    (early : before ≤ now) : Holds before table key value :=
  let ⟨r, here, live, same⟩ := holds
  ⟨r, here, Nat.lt_of_le_of_lt early live, same⟩

theorem Bound.unique {a b : String} (one : Bound table key a) (other : Bound table key b) : a = b := by
  obtain ⟨r, here, rfl⟩ := one
  obtain ⟨r', here', rfl⟩ := other
  rw [here] at here'
  injection here' with same
  injection same with same
  rw [same]

theorem Bound.holds {a b : String} (bound : Bound table key a) (holds : Holds now table key b) :
    Holds now table key a :=
  bound.unique holds.bound ▸ holds

theorem holds_iff_live {before : Option Record} (here : stored table key = .ok before) (value : String) :
    Holds now table key value ↔ ∃ r, live now before = some r ∧ r.value = value := by
  simp only [Holds, here, Except.ok.injEq, live_eq_some_iff, and_assoc]

theorem lt_deadline {ttl : Duration} (lasting : 1 ≤ ttl.millis) (early : now < lastInstant) :
    now < deadline now ttl := by
  unfold deadline
  omega

theorem Holds.perform_read (name : String) {value : String} {ttl : Duration} (lasting : 1 ≤ ttl.millis)
    (holds : Holds now table key value) :
    Holds now (perform now (.getRenewing name ttl) table).2 key value := by
  have about : (Call.getRenewing name ttl).target? = some name := rfl
  by_cases same : key = name
  next =>
    subst same
    obtain ⟨r, here, early, rfl⟩ := holds
    have found : live now (some r) = some r := live_eq_some_iff.2 ⟨rfl, early⟩
    have bounded : now < lastInstant := Nat.lt_of_lt_of_le early (stored_deadline_le here)
    obtain ⟨after, change, left⟩ := perform_change_self now about here
    generalize (perform now (.getRenewing key ttl) table).1 = answer at change
    cases change with
    | touched found' =>
      -- A time of less than a millisecond would end the entry here.
      obtain rfl := Option.some.inj (found.symm.trans found')
      exact ⟨_, left, lt_deadline lasting bounded, rfl⟩
    | missed absent => exact absurd (found.symm.trans absent) nofun
  next => simpa only [Holds, stored_perform_of_ne now about same] using holds

theorem Holds.perform_claim (name other : String) (ttl : Duration) {value : String}
    (holds : Holds now table key value) :
    Holds now (perform now (.claim name other ttl) table).2 key value := by
  have about : (Call.claim name other ttl).target? = some name := rfl
  by_cases same : key = name
  next =>
    subst same
    obtain ⟨r, here, early, rfl⟩ := holds
    have found : live now (some r) = some r := live_eq_some_iff.2 ⟨rfl, early⟩
    obtain ⟨after, change, left⟩ := perform_change_self now about here
    generalize (perform now (.claim key other ttl) table).1 = answer at change
    cases change with
    | claimed absent => exact absurd (found.symm.trans absent) nofun
    | lost => exact ⟨_, left, early, rfl⟩
  next => simpa only [Holds, stored_perform_of_ne now about same] using holds

theorem bound_of_read {ttl : Duration} {value : String}
    (read : (perform now (.getRenewing key ttl) table).1 = .ok (some value)) :
    Bound (perform now (.getRenewing key ttl) table).2 key value := by
  have about : (Call.getRenewing key ttl).target? = some key := rfl
  cases here : stored table key with
  | error e =>
    rw [perform_unreadable about here] at read
    contradiction
  | ok before =>
    obtain ⟨after, change, left⟩ := perform_change_self now about here
    rw [read] at change
    cases change
    exact ⟨_, left, rfl⟩

theorem bound_of_claim {ttl : Duration} {value : String} {claim : Claim}
    (answered : (perform now (.claim key value ttl) table).1 = .ok claim) :
    Bound (perform now (.claim key value ttl) table).2 key claim.value ∧
      (claim.created = true → claim.value = value ∧ ∀ held, ¬ Holds now table key held) ∧
      (claim.created = false → Holds now table key claim.value) := by
  have about : (Call.claim key value ttl).target? = some key := rfl
  cases here : stored table key with
  | error e =>
    rw [perform_unreadable about here] at answered
    contradiction
  | ok before =>
    obtain ⟨after, change, left⟩ := perform_change_self now about here
    rw [answered] at change
    cases change with
    | claimed absent =>
      refine ⟨⟨_, left, rfl⟩, fun _ => ⟨rfl, fun held holds => ?_⟩, nofun⟩
      obtain ⟨r, found, -⟩ := (holds_iff_live here held).1 holds
      simp [absent] at found
    | lost found =>
      obtain ⟨rfl, early⟩ := live_eq_some_iff.1 found
      exact ⟨⟨_, left, rfl⟩, nofun, fun _ => ⟨_, here, early, rfl⟩⟩

theorem claim_of_holds (value : String) (ttl : Duration) {held : String} (holds : Holds now table key held) :
    (perform now (.claim key value ttl) table).1 = .ok ⟨false, held⟩ := by
  have about : (Call.claim key value ttl).target? = some key := rfl
  obtain ⟨r, here, early, rfl⟩ := holds
  have found : live now (some r) = some r := live_eq_some_iff.2 ⟨rfl, early⟩
  rw [perform, atomically_ok here (by rw [found])]

end Embedded

end StickyRouting.Store
