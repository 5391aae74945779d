import StickyRouting.Proofs.Server.Scan

set_option autoImplicit false

namespace StickyRouting.Server

variable {now : Nat} {server : Keyspace} {link : Link} {key start : String}
variable {pages : List (Nat × List String)} {row : Store.Entry}

theorem get_textual (link : Link) (textual : link.server.Textual now) (unscripted : link.scripted = [])
    (key : String) :
    (perform now (.get key) link).1 = .ok (link.server.value? now key) := by
  simp only [perform, send_unscripted unscripted, Keyspace.run, Keyspace.asOptional?_live textual, read]

namespace Keyspace

theorem row?_eq_some_iff : server.row? now key = some row ↔
    row.key = key ∧ server.value? now key = some row.value ∧ server.left? now key = some row.ttl := by
  obtain ⟨name, value, ttl⟩ := row
  unfold row?
  cases server.value? now key <;> cases server.left? now key <;> simp [eq_comm]

theorem exists_row_iff (textual : server.Textual now) : (∃ row, server.row? now key = some row) ↔
    ∃ item, server.live? now key = some item ∧ item.deadline.isSome = true := by
  unfold row? value? left?
  cases found : server.live? now key with
  | none => simp
  | some item =>
    obtain ⟨text, written⟩ := textual key item found
    cases ends : item.deadline <;> simp [written, ends]

end Keyspace

theorem mem_listed_iff (scanned : Scanned link.server now (startPattern start) pages)
    (textual : link.server.Textual now) :
    key ∈ ((distinct (pages.flatMap fun page => page.2)).filterMap (link.server.row? now)).map (·.key) ↔
      start.toList <+: key.toList ∧
        ∃ item, link.server.live? now key = some item ∧ item.deadline.isSome = true := by
  rw [← Keyspace.exists_row_iff textual, ← List.isPrefixOf_iff_prefix, ← agrees_startPattern]
  simp only [List.mem_map, List.mem_filterMap, mem_distinct, List.mem_flatMap]
  constructor
  next =>
    rintro ⟨row, ⟨given, ⟨page, member, inside⟩, found⟩, named⟩
    have same := (Keyspace.row?_eq_some_iff.1 found).1
    rw [← named, same]
    exact ⟨scanned.only page member given inside, row, found⟩
  next =>
    rintro ⟨matching, row, found⟩
    obtain ⟨item, there, -⟩ := (Keyspace.exists_row_iff textual).1 ⟨row, found⟩
    have live : (link.server.live? now key).isSome = true := by simp [there]
    exact ⟨row, ⟨key, scanned.all key live matching, found⟩, (Keyspace.row?_eq_some_iff.1 found).1⟩

theorem ascending_listed (server : Keyspace) (now : Nat) (keys : List String) :
    ((distinct keys).filterMap (server.row? now)).Pairwise fun row next =>
      Keyspace.bytes row.key < Keyspace.bytes next.key := by
  apply List.pairwise_filterMap.2
  refine (ascending_distinct keys).imp fun less row found next found' => ?_
  rw [(Keyspace.row?_eq_some_iff.1 found).1, (Keyspace.row?_eq_some_iff.1 found').1]
  exact Text.Utf8.encode_lt_encode less

/-- The live keys that have the start and a deadline are listed, each once and in the order of their
bytes, with the values and times that the server gives for a single key. -/
theorem listing_exact (textual : link.server.Textual now)
    (scanned : Scanned link.server now (startPattern start) pages) :
    let keys := distinct (pages.flatMap fun page => page.2)
    let own : Link := { link with scripted := [] }
    ∃ rows, entries now (some start) { link with scripted := pages.map .ofPage } =
        (.ok rows, ⟨link.server, [], link.sent ++ asked (startPattern start) 0 pages ++ fetches keys⟩) ∧
      rows.Pairwise (fun row next => Keyspace.bytes row.key < Keyspace.bytes next.key) ∧
      (∀ key, key ∈ rows.map (·.key) ↔ start.toList <+: key.toList ∧
        ∃ item, link.server.live? now key = some item ∧ item.deadline.isSome = true) ∧
      ∀ row ∈ rows, (perform now (.get row.key) own).1 = .ok (some row.value) ∧
        (remaining now row.key own).1 = .ok (some row.ttl) := by
  intro keys own
  refine ⟨keys.filterMap (link.server.row? now), entries_pages textual start scanned.closes,
    ascending_listed .., fun key => mem_listed_iff scanned textual, fun row member => ?_⟩
  obtain ⟨key, -, found⟩ := List.mem_filterMap.1 member
  obtain ⟨rfl, value, left⟩ := Keyspace.row?_eq_some_iff.1 found
  have get : (perform now (.get row.key) own).1 = .ok (link.server.value? now row.key) :=
    get_textual own textual rfl row.key
  have ttl : remaining now row.key own = (.ok (link.server.left? now row.key), _) :=
    remaining_unscripted now rfl row.key
  rw [get, ttl, value, left]
  exact ⟨rfl, rfl⟩

theorem listing_exact_starred :
    let server : Keyspace := { items := .ofList [("r_*a", ⟨Keyspace.bytes "x", some 9⟩),
      ("r_*b", ⟨Keyspace.bytes "y", none⟩), ("r_*c", ⟨Keyspace.bytes "z", some 4⟩),
      ("r_ab", ⟨Keyspace.bytes "w", some 9⟩)] }
    let pages := [(7, ["r_*c", "r_*b"]), (3, []), (0, ["r_*a", "r_*d", "r_*b"])]
    server.Textual 3 ∧ Scanned server 3 (startPattern "r_*") pages ∧
      ∃ rows, (entries 3 (some "r_*") { server := server, scripted := pages.map .ofPage }).1 = .ok rows ∧
        "r_*c" ∈ rows.map (·.key) ∧ "r_*b" ∉ rows.map (·.key) ∧ "r_ab" ∉ rows.map (·.key) := by
  intro server pages
  have held : server.items.entries = [("r_*a", ⟨Keyspace.bytes "x", some 9⟩),
      ("r_*b", ⟨Keyspace.bytes "y", none⟩), ("r_*c", ⟨Keyspace.bytes "z", some 4⟩),
      ("r_ab", ⟨Keyspace.bytes "w", some 9⟩)] := by decide +kernel
  have textual : server.Textual 3 := by
    intro key item live
    have member := (KeyMap.mem_entries_iff ..).2 (Option.filter_eq_some_iff.1 live).1
    rw [held] at member
    simp only [List.mem_cons, Prod.mk.injEq, List.not_mem_nil, or_false] at member
    rcases member with ⟨-, rfl⟩ | ⟨-, rfl⟩ | ⟨-, rfl⟩ | ⟨-, rfl⟩ <;> exact ⟨_, rfl⟩
  have scanned : Scanned server 3 (startPattern "r_*") pages := by
    refine ⟨.more _ (by decide) (by decide) (.more _ (by decide) (by decide) (.last _)),
      by decide +kernel, fun key live => ?_⟩
    have covered : ∀ key ∈ server.items.keys, Glob.agrees (startPattern "r_*") key = true →
        ∃ page ∈ pages, key ∈ page.2 := by decide +kernel
    obtain ⟨item, there⟩ := Option.isSome_iff_exists.1 live
    apply covered
    rw [KeyMap.mem_keys_iff, (Option.filter_eq_some_iff.1 there).1]
    rfl
  obtain ⟨rows, listed, -, exactly, -⟩ :=
    @listing_exact 3 { server := server } "r_*" pages textual scanned
  refine ⟨textual, scanned, rows, congrArg Prod.fst listed, ?_⟩
  rw [exactly, exactly, exactly]
  decide +kernel

section Own

def Keyspace.ownPages (server : Keyspace) (now : Nat) (pattern : String) :
    Nat → Nat → List (Nat × List String)
  | 0, _ => []
  | fuel + 1, cursor =>
    let (page, next) := server.pageOf now cursor scanCount
    (next, page.filter (Glob.agrees pattern)) ::
      if next = 0 then [] else server.ownPages now pattern fuel next

def Keyspace.walk (server : Keyspace) (now : Nat) : List String :=
  (server.items.filter fun _ item => server.isLive now item).keys.reverse

variable {pattern : String} {fuel cursor : Nat}

theorem Keyspace.mem_walk : key ∈ server.walk now ↔ (server.live? now key).isSome = true := by
  rw [Keyspace.walk, List.mem_reverse, KeyMap.mem_keys_iff, KeyMap.get?_filter]
  rfl

theorem Keyspace.length_walk_le (server : Keyspace) (now : Nat) :
    (server.walk now).length ≤ server.items.size := by
  simp only [Keyspace.walk, KeyMap.keys, KeyMap.filter, KeyMap.size, List.length_reverse, List.length_map]
  exact List.length_filter_le ..

theorem Keyspace.exists_pageOf (server : Keyspace) (now cursor : Nat) :
    ∃ again size, 1 ≤ size ∧ server.pageOf now cursor scanCount =
      (again ++ ((server.walk now).drop cursor).take size,
        if cursor + size < (server.walk now).length then cursor + size else 0) :=
  ⟨_, _, Nat.le_max_left .., rfl⟩

theorem ownPages_scanned (fits : server.items.size ≤ Text.Numeral.word64)
    (enough : (server.walk now).length < cursor + fuel)
    (inside : cursor = 0 ∨ cursor < (server.walk now).length) :
    Closes (server.ownPages now pattern fuel cursor) ∧
      ∀ key ∈ (server.walk now).drop cursor, Glob.agrees pattern key = true →
        ∃ page ∈ server.ownPages now pattern fuel cursor, key ∈ page.2 := by
  -- The cursor is the number of keys that the walk is past, and each page moves it on by one at least.
  induction fuel generalizing cursor with
  | zero => omega
  | succ fuel ih =>
    have short := server.length_walk_le now
    obtain ⟨again, size, positive, page⟩ := server.exists_pageOf now cursor
    simp only [Keyspace.ownPages, page]
    split
    next more =>
      have goes : cursor + size ≠ 0 := by omega
      obtain ⟨closes, covers⟩ := @ih (cursor + size) (by omega) (.inr more)
      rw [if_neg goes]
      refine ⟨.more _ goes (by omega) closes, fun key member matching => ?_⟩
      rw [← List.take_append_drop size ((server.walk now).drop cursor), List.drop_drop] at member
      rcases List.mem_append.1 member with here | later
      next =>
        refine ⟨_, List.mem_cons_self, List.mem_filter.2 ⟨?_, matching⟩⟩
        exact List.mem_append_right _ here
      next =>
        obtain ⟨page, among, given⟩ := covers key later matching
        exact ⟨page, List.mem_cons_of_mem _ among, given⟩
    next last =>
      rw [if_pos rfl]
      refine ⟨.last _, fun key member matching => ?_⟩
      have whole : ((server.walk now).drop cursor).take size = (server.walk now).drop cursor := by
        apply List.take_of_length_le
        rw [List.length_drop]
        omega
      rw [whole]
      exact ⟨_, List.mem_cons_self, List.mem_filter.2 ⟨List.mem_append_right _ member, matching⟩⟩

theorem ownPages_only (page : Nat × List String)
    (member : page ∈ server.ownPages now pattern fuel cursor) :
    ∀ key ∈ page.2, Glob.agrees pattern key = true := by
  induction fuel generalizing cursor with
  | zero => cases member
  | succ fuel ih =>
    simp only [Keyspace.ownPages, List.mem_cons] at member
    rcases member with rfl | later
    next => exact fun key given => (List.mem_filter.1 given).2
    next =>
      split at later
      next => cases later
      next => exact ih later

theorem scanned_own (fits : server.items.size ≤ Text.Numeral.word64) (pattern : String)
    (enough : server.items.size < fuel) :
    Scanned server now pattern (server.ownPages now pattern fuel 0) := by
  have short := server.length_walk_le now
  obtain ⟨closes, covers⟩ := @ownPages_scanned now server pattern fuel 0 fits (by omega) (.inl rfl)
  exact ⟨closes, ownPages_only, fun key live => covers key (Keyspace.mem_walk.2 live)⟩

theorem Keyspace.run_scan (server : Keyspace) (now : Nat) (pattern : String) (cursor : Nat) :
    server.run now (.scan cursor pattern scanCount) =
      (.ofPage ((server.pageOf now cursor scanCount).2,
        (server.pageOf now cursor scanCount).1.filter (Glob.agrees pattern)), server) := rfl

theorem scanUpTo_own (fits : link.server.items.size ≤ Text.Numeral.word64)
    (unscripted : link.scripted = []) (found : List String) :
    let pages := link.server.ownPages now pattern fuel cursor
    scanUpTo now pattern fuel cursor found link = (.ok (found ++ pages.flatMap fun page => page.2),
      ⟨link.server, [], link.sent ++ asked pattern cursor pages⟩) := by
  induction fuel generalizing cursor found link with
  | zero => simp [scanUpTo, Keyspace.ownPages, asked, ← unscripted]
  | succ fuel ih =>
    have short := link.server.length_walk_le now
    obtain ⟨again, size, -, page⟩ := link.server.exists_pageOf now cursor
    have within : (link.server.pageOf now cursor scanCount).2 ≤ Text.Numeral.word64 := by
      rw [page]
      split <;> omega
    have read : page? (.ofPage ((link.server.pageOf now cursor scanCount).2,
        (link.server.pageOf now cursor scanCount).1.filter (Glob.agrees pattern))) = some (_, _) :=
      page?_ofPage within
    simp only [scanUpTo, send_unscripted unscripted, Keyspace.run_scan, read, Keyspace.ownPages]
    split
    next => simp [asked, unscripted]
    next =>
      let after : Link := ⟨link.server, [], link.sent ++ [(Command.scan cursor pattern scanCount).words]⟩
      have scanned := @ih after (link.server.pageOf now cursor scanCount).2 fits rfl
      simp [unscripted, after, scanned, asked]

theorem entries_own (textual : link.server.Textual now) (unscripted : link.scripted = [])
    (fits : link.server.items.size ≤ Text.Numeral.word64) (start : String) :
    let pages := link.server.ownPages now (startPattern start) (scanLimit link) 0
    Scanned link.server now (startPattern start) pages ∧
      entries now (some start) link =
        entries now (some start) { link with scripted := pages.map .ofPage } := by
  have enough : link.server.items.size < scanLimit link := by
    unfold scanLimit
    omega
  have scanned : Scanned link.server now (startPattern start) _ := scanned_own fits _ enough
  refine ⟨scanned, ?_⟩
  rw [entries_pages textual start scanned.closes]
  simp only [entries, Option.getD_some, scanUpTo_own fits unscripted, List.nil_append,
    fetch_textual textual]

end Own

end StickyRouting.Server
