import StickyRouting.Proofs.Store.Claims
import StickyRouting.Proofs.Store.Holding

set_option autoImplicit false

namespace StickyRouting.Store

namespace Embedded

variable {now : Nat} {call : Call} {table other : Table} {key : String} {before : Option Record}
  {e : RouteError}

def Damaged (table : Table) (key : String) : Prop :=
  ∃ bytes, table.get? key = some bytes ∧ Record.decode? bytes = none

theorem stored_of_damaged (damaged : Damaged table key) : stored table key = .error unreadable := by
  obtain ⟨bytes, held, broken⟩ := damaged
  simp only [stored, held, decode, broken]
  rfl

theorem exists_stored_or_damaged (table : Table) (key : String) :
    (∃ before, stored table key = .ok before) ∨ Damaged table key := by
  unfold stored
  cases held : table.get? key with
  | none => exact .inl ⟨none, rfl⟩
  | some bytes =>
    cases read : Record.decode? bytes with
    | none => exact .inr ⟨bytes, held, read⟩
    | some record => exact .inl ⟨some record, by simp only [decode, read]; rfl⟩

theorem not_damaged_of_stored (here : stored table key = .ok before) : ¬ Damaged table key := by
  intro damaged
  rw [stored_of_damaged damaged] at here
  contradiction

section Harmless

theorem atomically_of_error {α : Type} {step : Option Record → Except RouteError (Mutation × α)}
    (failed : (atomically now key table step).1 = .error e) :
    (atomically now key table step).2 = table := by
  -- Nothing is written before the step has succeeded, so that both ways to fail leave the table.
  cases here : stored table key with
  | error cause => simp [atomically, here]
  | ok before =>
    cases does : step (live now before) with
    | error cause => rw [atomically_error here does]
    | ok done =>
      rw [atomically_ok here does] at failed
      contradiction

theorem perform_of_error (failed : (perform now call table).1 = .error e) :
    (perform now call table).2 = table := by
  cases call with
  | get => rfl
  | getAll => rfl
  | _ => exact atomically_of_error failed

theorem purge_of_error (failed : (purge now table).1 = .error e) : (purge now table).2 = table := by
  unfold purge at failed ⊢
  split
  next => rfl
  next read =>
    rw [read] at failed
    contradiction

theorem operate_of_error {operation : Operation} (failed : (operate now operation table).1 = .error e) :
    (operate now operation table).2 = table := by
  cases operation with
  | call => exact perform_of_error failed
  | remaining => rfl
  | entries => rfl
  | purge => exact purge_of_error failed

end Harmless

section Fault

theorem perform_of_damaged (only : call.keys = [key]) (damaged : Damaged table key) :
    (perform now call table).1 = .error unreadable := by
  have broken := stored_of_damaged damaged
  cases call <;> simp only [Call.keys, List.cons.injEq, and_true] at only <;> subst only
  case get => simp [perform, look, broken, Except.map]
  case getAll => simp [perform, look, broken, Except.map, bind, Except.bind]
  all_goals rw [perform_unreadable rfl broken]

theorem change_ne_fault {answer : Except RouteError call.Answer} {after : Option Record}
    (change : Change now call before answer after) (stage : Stage) (detail : String) :
    answer ≠ .error (.fault stage detail) := by
  cases change <;> exact nofun

theorem perform_ne_fault (whole : ∀ key ∈ call.keys, ∃ before, stored table key = .ok before)
    (stage : Stage) (detail : String) : (perform now call table).1 ≠ .error (.fault stage detail) := by
  have looks (key : String) (member : key ∈ call.keys) : ∃ value, look now table key = .ok value := by
    obtain ⟨before, here⟩ := whole key member
    exact ⟨_, by rw [look, here]; rfl⟩
  -- All calls but the two kinds of look are one transaction on one record.
  cases about : call.target? with
  | some key =>
    obtain ⟨before, here⟩ := whole key (by simp [Call.keys_of_target? about])
    obtain ⟨after, change, -⟩ := perform_change now about here
    exact change_ne_fault change stage detail
  | none =>
    cases call <;> simp only [Call.target?, reduceCtorEq] at about
    case get key =>
      obtain ⟨value, seen⟩ := looks key (List.mem_singleton_self _)
      simp [perform, seen]
    case getAll keys =>
      obtain ⟨values, seen⟩ := exists_mapM_ok looks
      have answer : (perform now (.getAll keys) table).1 = .ok values := seen
      simp [answer]

end Fault

end Embedded

/-- The operation is about the key and no other. Listings and purges are about all keys. -/
inductive Operation.IsFor (key : String) : Operation → Prop where
  | call {call : Call} (only : call.keys = [key]) : IsFor key (.call call)
  | remaining : IsFor key (.remaining key)

namespace Embedded

section Single

variable {now : Nat} {operation : Operation} {table other : Table} {key : String}

theorem operate_fault_iff (isFor : operation.IsFor key) :
    (∃ detail, (operate now operation table).1 = .error (.fault .decoding detail)) ↔
      Damaged table key := by
  constructor
  case mpr =>
    intro damaged
    refine ⟨"not a route record", ?_⟩
    cases isFor with
    | call only => exact perform_of_damaged only damaged
    | remaining =>
      rw [operate, remaining, stored_of_damaged damaged]
      rfl
  case mp =>
    rintro ⟨detail, failed⟩
    refine (exists_stored_or_damaged table key).resolve_left ?_
    rintro ⟨before, here⟩
    cases isFor with
    | call only => exact perform_ne_fault (by simp [only, here]) _ _ failed
    | remaining =>
      rw [operate, remaining, here] at failed
      contradiction

theorem get?_operate_of_ne (isFor : operation.IsFor key) {name : String} (ne : name ≠ key) :
    (operate now operation table).2.get? name = table.get? name := by
  cases isFor with
  | call only => exact get?_perform_of_not_mem now _ table (by simpa [only] using ne)
  | remaining => rfl

theorem operate_congr (isFor : operation.IsFor key) (same : table.get? key = other.get? key) :
    (operate now operation table).1 = (operate now operation other).1 ∧
      (operate now operation table).2.get? key = (operate now operation other).2.get? key := by
  cases isFor with
  | call only => exact perform_congr_of_only now (by simp [only]) same
  | remaining => exact ⟨by simp only [operate, remaining, stored_congr same], same⟩

end Single

/-- An operation that fails leaves the whole table as it was. One on a single key fails by a record that
cannot be read exactly if that is the record of its key, and depends on no other. -/
theorem failures_harmless (now : Nat) (operation : Operation) (table : Table) :
    (∀ e, (operate now operation table).1 = .error e → (operate now operation table).2 = table) ∧
    ∀ key, operation.IsFor key →
      ((∃ detail, (operate now operation table).1 = .error (.fault .decoding detail)) ↔
        Damaged table key) ∧
      (∀ name, name ≠ key → (operate now operation table).2.get? name = table.get? name) ∧
      ∀ other : Table, table.get? key = other.get? key →
        (operate now operation table).1 = (operate now operation other).1 ∧
          (operate now operation table).2.get? key = (operate now operation other).2.get? key :=
  ⟨fun _ failed => operate_of_error failed, fun _ isFor =>
    ⟨operate_fault_iff isFor, fun _ ne => get?_operate_of_ne isFor ne,
      fun _ same => operate_congr isFor same⟩⟩

theorem decode?_braces : Record.decode? (Text.Utf8.encode ['{', '}']) = none := by
  rw [Record.decode?, Json.read?, Text.Utf8.decode_encode]
  rfl

def lapsed : Table := KeyMap.insert ∅ "a" (Record.encode ⟨"x", 5⟩)

def mixed : Table := lapsed.insert "b" (Text.Utf8.encode ['{', '}'])

theorem damaged_mixed : Damaged mixed "b" := ⟨_, KeyMap.get?_insert_self .., decode?_braces⟩

theorem failures_harmless_mixed :
    let swept := operate 9 .purge mixed
    let claim : Operation := .call (.claim "a" "y" (.ofMillis 5))
    swept.1 = .error unreadable ∧ swept.2 = mixed ∧ claim.IsFor "a" ∧
      (operate 9 claim mixed).1 = (operate 9 claim lapsed).1 ∧
      (operate 9 claim mixed).2.get? "b" = some (Text.Utf8.encode ['{', '}']) := by
  intro swept claim
  have rows : mixed.entries =
      [("a", Record.encode ⟨"x", 5⟩), ("b", Text.Utf8.encode ['{', '}'])] := rfl
  have lapsed_read : Record.decode? (Record.encode ⟨"x", 5⟩) = some ⟨"x", 5⟩ :=
    Record.decode?_encode _ (by decide)
  have failed : swept.1 = .error unreadable := by
    simp [swept, operate, purge, rows, decode, lapsed_read, decode?_braces, bind, Except.bind,
      Except.map]
  have isFor : claim.IsFor "a" := .call rfl
  obtain ⟨-, aside, alike⟩ := (failures_harmless 9 claim mixed).2 "a" isFor
  refine ⟨failed, (failures_harmless 9 .purge mixed).1 _ failed, isFor, (alike lapsed rfl).1, ?_⟩
  rw [aside "b" (by decide)]
  rfl

section Overwriting

variable {now : Nat} {table : Table} {key value : String} {ttl : Duration} {before : Option Record}

theorem perform_delete_of_stored (here : stored table key = .ok before) :
    perform now (.delete key) table = (.ok (), table.erase key) := by
  rw [perform, atomically_ok here rfl]
  rfl

theorem perform_set_of_stored (here : stored table key = .ok before) :
    perform now (.set key value ttl) table =
      (.ok (), table.insert key (Record.bind value now ttl).encode) := by
  rw [perform, atomically_ok here rfl]
  rfl

/-- A delete and a set succeed on whatever their key holds, live, over or absent, and are seen at once,
if it can be read. Otherwise both fail. No other record is changed. -/
theorem overwrites_unless_damaged (table : Table) (key value : String) {now : Nat} {ttl : Duration}
    (lasting : 1 ≤ ttl.millis) (fits : now + ttl.millis ≤ lastInstant) :
    let deleted := perform now (.delete key) table
    let written := perform now (.set key value ttl) table
    (¬ Damaged table key →
      deleted.1 = .ok () ∧ (∀ later, (perform later (.get key) deleted.2).1 = .ok none) ∧
        written.1 = .ok () ∧ (perform now (.get key) written.2).1 = .ok (some value)) ∧
    (Damaged table key →
      deleted = (.error unreadable, table) ∧ written = (.error unreadable, table)) ∧
    ∀ name, name ≠ key →
      deleted.2.get? name = table.get? name ∧ written.2.get? name = table.get? name := by
  intro deleted written
  refine ⟨fun whole => ?_, fun damaged => ?_, fun name ne => ?_⟩
  next =>
    -- What is read of the old record is not looked at any more: both steps go on in the same way.
    obtain ⟨before, here⟩ := (exists_stored_or_damaged table key).resolve_right whole
    have removes : deleted = (.ok (), table.erase key) := perform_delete_of_stored here
    have writes : written = (.ok (), table.insert key (Record.bind value now ttl).encode) :=
      perform_set_of_stored here
    have gone : stored deleted.2 key = .ok none := by rw [removes, stored_erase, if_pos rfl]
    have held : stored written.2 key = .ok (some (.bind value now ttl)) := by
      rw [writes, stored_insert _ _ _ _ (deadline_le ..), if_pos rfl]
    have found := get_of_bind (by omega) held
    rw [if_neg (by omega)] at found
    exact ⟨by rw [removes], fun later => by rw [perform, look, gone]; rfl, by rw [writes], found⟩
  next =>
    have broken := stored_of_damaged damaged
    exact ⟨perform_unreadable rfl broken, perform_unreadable rfl broken⟩
  next =>
    have apart : name ∉ [key] := by simpa using ne
    exact ⟨get?_perform_of_not_mem now _ table apart, get?_perform_of_not_mem now _ table apart⟩

def foreign : List UInt8 :=
  -- A list of value and deadline is read as a record, too, but the store itself does not write it.
  Text.Utf8.encode ['[', '"', 'x', '"', ',', '5', ']']

theorem decode?_foreign : Record.decode? foreign = some ⟨"x", 5⟩ := by
  rw [foreign, Record.decode?, Json.read?, Text.Utf8.decode_encode]
  rfl

theorem overwrites_unless_damaged_foreign :
    let listed : Table := KeyMap.insert ∅ "a" foreign
    let written := perform 1000 (.set "a" "y" (.ofMillis 1)) listed
    1 ≤ (Duration.ofMillis 1).millis ∧ 1000 + (Duration.ofMillis 1).millis ≤ lastInstant ∧
      ¬ Damaged listed "a" ∧ written.1 = .ok () ∧
      (perform 1000 (.get "a") written.2).1 = .ok (some "y") := by
  intro listed written
  have lasting : 1 ≤ (Duration.ofMillis 1).millis := by decide
  have fits : 1000 + (Duration.ofMillis 1).millis ≤ lastInstant := by decide
  have whole : ¬ Damaged listed "a" := by
    rintro ⟨bytes, held, broken⟩
    rw [KeyMap.get?_insert_self] at held
    obtain rfl := Option.some.inj held
    rw [decode?_foreign] at broken
    contradiction
  obtain ⟨-, -, done, found⟩ := (overwrites_unless_damaged listed "a" "y" lasting fits).1 whole
  exact ⟨lasting, fits, whole, done, found⟩

theorem damaged_not_overwritten :
    1 ≤ (Duration.ofMillis 60_000).millis ∧ 1000 + (Duration.ofMillis 60_000).millis ≤ lastInstant ∧
      (perform 1000 (.delete "b") mixed).1 ≠ .ok () ∧
      (perform 1000 (.set "b" "y" (.ofMillis 60_000)) mixed).1 ≠ .ok () ∧
      (perform 1000 (.get "b") mixed).1 = .error unreadable := by
  have broken : stored mixed "b" = .error unreadable := stored_of_damaged damaged_mixed
  refine ⟨by decide, by decide, ?_, ?_, by rw [perform, look, broken]; rfl⟩
  · rw [perform_unreadable rfl broken]
    simp
  · rw [perform_unreadable rfl broken]
    simp

end Overwriting

section Reachable

variable {now : Nat} {table : Table} {key : String} {bytes : List UInt8}

theorem operate_ne_fault (readable : Readable table) (now : Nat) (operation : Operation) (stage : Stage)
    (detail : String) : (operate now operation table).1 ≠ .error (.fault stage detail) := by
  cases operation with
  | call => exact perform_ne_fault (fun key _ => readable key) stage detail
  | remaining => simp [operate, remaining_of_readable readable]
  | entries => simp [operate, entries_of_readable readable]
  | purge =>
    obtain ⟨⟨count, counted⟩, -⟩ := purge_of_readable readable now
    simp [operate, counted]

theorem decode?_of_readable (readable : Readable table) (held : table.get? key = some bytes) :
    ∃ record, Record.decode? bytes = some record ∧ (records table).get? key = some record := by
  cases read : Record.decode? bytes with
  | none =>
    obtain ⟨before, here⟩ := readable key
    exact absurd ⟨bytes, held, read⟩ (not_damaged_of_stored here)
  | some record => exact ⟨record, rfl, by simp [records, KeyMap.get?_map, held, recordOf, read]⟩

end Reachable

end Embedded

theorem readable_run (history : History) : Embedded.Readable (run Embedded.operate history ∅).2 :=
  fun key => (told_log key history).readable key

/-- Every record reads as the value that was installed last at its key and the deadline that was written
last, so that no operation on the way failed by the store itself. -/
theorem reachable_readable (history : History) :
    let log := (run Embedded.operate history ∅).1
    let table := (run Embedded.operate history ∅).2
    (∀ key bytes, table.get? key = some bytes →
      ∃ record, Record.decode? bytes = some record ∧ record.deadline ≤ lastInstant ∧
        lastInstalled key log = some record.value ∧ lastWritten key log = some record.deadline) ∧
    ∀ event ∈ log, ∀ stage detail, event.answer ≠ .error (.fault stage detail) := by
  intro log table
  constructor
  next =>
    intro key bytes held
    have told := told_log key history
    obtain ⟨record, read, found⟩ := Embedded.decode?_of_readable told.readable held
    have recorded := told.recorded record found
    exact ⟨record, read, Record.deadline_le_of_decode? read, recorded.value, recorded.written⟩
  next =>
    intro event member
    -- The event was answered by the table that the history before it had left.
    obtain ⟨earlier, later, split⟩ := List.append_of_mem member
    obtain ⟨before, now, operation, after, -, -, rfl, -⟩ := run_eq_append split
    exact Embedded.operate_ne_fault (readable_run before) now operation

end StickyRouting.Store
