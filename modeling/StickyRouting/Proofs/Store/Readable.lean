import StickyRouting.Proofs.Store.Change

set_option autoImplicit false

namespace StickyRouting.Store.Embedded

theorem mapM_ok {α β : Type} {f : α → Except RouteError β} {g : α → β} {items : List α}
    (each : ∀ x ∈ items, f x = .ok (g x)) : items.mapM f = .ok (items.map g) := by
  induction items with
  | nil => rfl
  | cons x items ih =>
    rw [List.mapM_cons, each x (List.mem_cons_self ..),
      ih fun y member => each y (List.mem_cons_of_mem _ member)]
    rfl

theorem exists_mapM_ok {α β : Type} {f : α → Except RouteError β} {items : List α}
    (each : ∀ x ∈ items, ∃ y, f x = .ok y) : ∃ ys, items.mapM f = .ok ys := by
  induction items with
  | nil => exact ⟨[], rfl⟩
  | cons x items ih =>
    obtain ⟨y, first⟩ := each x (List.mem_cons_self ..)
    obtain ⟨ys, rest⟩ := ih fun z member => each z (List.mem_cons_of_mem _ member)
    exact ⟨y :: ys, by rw [List.mapM_cons, first, rest]; rfl⟩

theorem ok_of_mapM_ok {α β : Type} {f : α → Except RouteError β} {items : List α} {results : List β}
    (all : items.mapM f = .ok results) : ∀ x ∈ items, ∃ y, f x = .ok y := by
  induction items generalizing results with
  | nil => simp
  | cons x items ih =>
    rw [List.mapM_cons] at all
    cases first : f x with
    | error e => simp [first, bind, Except.bind] at all
    | ok y =>
      cases rest : items.mapM f with
      | error e => simp [first, rest, bind, Except.bind] at all
      | ok ys =>
        intro z member
        rcases List.mem_cons.1 member with rfl | member
        · exact ⟨y, first⟩
        · exact ih rest z member

def recordOf (bytes : List UInt8) : Record := (Record.decode? bytes).getD ⟨"", 0⟩

def records (table : Table) : KeyMap Record := table.map recordOf

def Readable (table : Table) : Prop := ∀ key, ∃ before, stored table key = .ok before

theorem readable_empty : Readable ∅ := fun _ => ⟨none, rfl⟩

theorem decode_of_readable {table : Table} (readable : Readable table)
    {row : String × List UInt8} (member : row ∈ table.entries) :
    decode row.2 = .ok (recordOf row.2) := by
  obtain ⟨before, here⟩ := readable row.1
  rw [stored, (KeyMap.mem_entries_iff table row.1 row.2).1 member] at here
  cases read : Record.decode? row.2 with
  | none => simp [decode, read, Except.map] at here
  | some r => simp [decode, recordOf, read]

theorem stored_of_readable {table : Table} (readable : Readable table) (key : String) :
    stored table key = .ok ((records table).get? key) := by
  rw [stored, records, KeyMap.get?_map]
  cases held : table.get? key with
  | none => rfl
  | some bytes =>
    have read := decode_of_readable readable ((KeyMap.mem_entries_iff table key bytes).2 held)
    simp only [read]
    rfl

theorem readable_insert {table : Table} (readable : Readable table) (key : String) {record : Record}
    (bounded : record.deadline ≤ lastInstant) : Readable (table.insert key record.encode) := by
  intro other
  rw [stored_insert _ _ _ _ bounded]
  split
  next => exact ⟨_, rfl⟩
  next => exact readable other

theorem records_perform {table : Table} (readable : Readable table) (now : Nat) {call : Call}
    {key : String} (about : call.target? = some key) :
    ∃ after, Change now call ((records table).get? key) (perform now call table).1 after ∧
      Readable (perform now call table).2 ∧
      ∀ other, (records (perform now call table).2).get? other =
        if other = key then after else (records table).get? other := by
  obtain ⟨after, change, stores⟩ := perform_change now about (stored_of_readable readable key)
  have still : Readable (perform now call table).2 := by
    intro other
    rw [stores other]
    split
    next => exact ⟨_, rfl⟩
    next => exact readable other
  refine ⟨after, change, still, fun other => ?_⟩
  have found := stores other
  rw [stored_of_readable still, stored_of_readable readable, ← apply_ite] at found
  exact Except.ok.inj found

theorem look_of_readable {table : Table} (readable : Readable table) (now : Nat) (key : String) :
    look now table key = .ok (valueOf (live now ((records table).get? key))) := by
  rw [look, stored_of_readable readable]
  rfl

theorem perform_get_of_readable {table : Table} (readable : Readable table) (now : Nat)
    (key : String) :
    perform now (.get key) table = (.ok (valueOf (live now ((records table).get? key))), table) := by
  rw [perform, look_of_readable readable]

theorem perform_getAll_of_readable {table : Table} (readable : Readable table) (now : Nat)
    (keys : List String) :
    perform now (.getAll keys) table =
      (.ok (keys.map fun key => valueOf (live now ((records table).get? key))), table) := by
  rw [perform, mapM_ok fun key _ => look_of_readable readable now key]

theorem remaining_of_readable {table : Table} (readable : Readable table) (now : Nat)
    (key : String) :
    remaining now table key =
      .ok ((live now ((records table).get? key)).map fun r => .ofMillis (r.deadline - now)) := by
  rw [remaining, stored_of_readable readable]
  rfl

theorem rows_of_readable {table : Table} (readable : Readable table)
    {rows : List (String × List UInt8)} (within : ∀ row ∈ rows, row ∈ table.entries) :
    (rows.mapM fun row => (decode row.2).map fun record => (row.1, record)) =
      .ok (rows.map fun row => (row.1, recordOf row.2)) :=
  mapM_ok fun row member => by rw [decode_of_readable readable (within row member)]; rfl

def listed (now : Nat) (row : String × Record) : Option Entry :=
  if row.2.isExpired now then none
  else some ⟨row.1, row.2.value, .ofMillis (row.2.deadline - now)⟩

theorem entries_of_readable {table : Table} (readable : Readable table) (now : Nat)
    (start : Option String) :
    entries now table start =
      .ok (((records table).entries.filter fun row =>
        (start.getD "").toList.isPrefixOf row.1.toList).filterMap (listed now)) := by
  rw [entries, rows_of_readable readable fun row member => (List.mem_filter.1 member).1]
  simp only [records, KeyMap.map, List.filter_map]
  rfl

theorem get?_eraseAll {α : Type} (rows : List (String × Record)) (map : KeyMap α) (key : String) :
    (rows.foldl (fun map row => map.erase row.1) map).get? key =
      if key ∈ rows.map (·.1) then none else map.get? key := by
  induction rows generalizing map with
  | nil => rfl
  | cons row rows ih =>
    rw [List.foldl_cons, ih, KeyMap.get?_erase]
    by_cases later : key ∈ rows.map (·.1) <;> by_cases here : key = row.1 <;>
      simp [later, here]

theorem purge_of_readable {table : Table} (readable : Readable table) (now : Nat) :
    (∃ count, (purge now table).1 = .ok count) ∧
      ∀ key, stored (purge now table).2 key = .ok (live now ((records table).get? key)) := by
  have rows : (table.entries.mapM fun row => (decode row.2).map fun record => (row.1, record)) =
      .ok (records table).entries := rows_of_readable readable fun _ member => member
  unfold purge
  rw [rows]
  refine ⟨⟨_, rfl⟩, fun key => ?_⟩
  have lapsed_iff : key ∈ ((records table).entries.filter fun row => row.2.isExpired now).map (·.1) ↔
      ∃ r, (records table).get? key = some r ∧ r.deadline ≤ now := by
    simp [List.mem_map, KeyMap.mem_entries_iff, Record.isExpired]
  rw [stored, get?_eraseAll]
  have here := stored_of_readable readable key
  rw [stored] at here
  by_cases lapsed : ∃ r, (records table).get? key = some r ∧ r.deadline ≤ now
  · obtain ⟨r, held, due⟩ := lapsed
    rw [if_pos (lapsed_iff.2 ⟨r, held, due⟩), held, live_some, if_pos due]
  · rw [if_neg fun member => lapsed (lapsed_iff.1 member), here]
    cases held : (records table).get? key with
    | none => rfl
    | some r =>
      have still : ¬ r.deadline ≤ now := fun due => lapsed ⟨r, held, due⟩
      rw [live_some, if_neg still]

theorem purge_or_readable (now : Nat) (table : Table) :
    (purge now table).2 = table ∨ Readable table := by
  unfold purge
  split
  next => exact .inl rfl
  next records all =>
    -- It has read every record, and so can everybody.
    refine .inr fun key => ?_
    unfold stored
    cases held : table.get? key with
    | none => exact ⟨none, rfl⟩
    | some bytes =>
      obtain ⟨row, read⟩ := ok_of_mapM_ok all _ ((KeyMap.mem_entries_iff table key bytes).2 held)
      cases decoded : decode bytes with
      | error e => simp [decoded, Except.map] at read
      | ok r => exact ⟨some r, by simp [decoded, Except.map]⟩

end StickyRouting.Store.Embedded
