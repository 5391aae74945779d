import StickyRouting.Proofs.Server.Mirror
import StickyRouting.Proofs.Text.Numeral

set_option autoImplicit false

namespace StickyRouting.Text.Numeral

theorem bounded?_writeNat {n limit : Nat} (within : n ≤ limit) :
    bounded? limit (writeNat n) = some n := by
  simp [bounded?, within]

end StickyRouting.Text.Numeral

namespace StickyRouting.Server

open Store (Record Call)
open Store.Embedded (live valueOf)

def Reply.ofPage (page : Nat × List String) : Reply :=
  .list [.ofText (Text.Numeral.showNat page.1), .list (page.2.map .ofText)]

theorem asText?_ofText (text : String) : (Reply.ofText text).asText? = some text :=
  Text.Utf8.text?_encode text

theorem asCursor?_showNat {n : Nat} (within : n ≤ Text.Numeral.word64) :
    (Reply.ofText (Text.Numeral.showNat n)).asCursor? = some n := by
  rw [Reply.ofText, Reply.asCursor?, Text.Utf8.text?_encode]
  simp [Reply.asCursor?.spelled?, Text.Numeral.showNat, Text.Numeral.bounded?_writeNat within]

theorem asList?_ofText (texts : List String) :
    (Reply.list (texts.map .ofText)).asList? Reply.asText? = some texts := by
  simp only [Reply.asList?, List.mapM_map, Function.comp_def, asText?_ofText]
  exact List.mapM_pure.trans (congrArg some (List.map_id _))

theorem page?_ofPage {page : Nat × List String} (within : page.1 ≤ Text.Numeral.word64) :
    page? (.ofPage page) = some page := by
  simp [page?, Reply.ofPage, Reply.asPair?, asCursor?_showNat within, asList?_ofText]

inductive Closes : List (Nat × List String) → Prop where
  | last (keys : List String) : Closes [(0, keys)]
  | more {cursor : Nat} (keys : List String) {pages : List (Nat × List String)} (goes : cursor ≠ 0)
      (within : cursor ≤ Text.Numeral.word64) (closes : Closes pages) :
      Closes ((cursor, keys) :: pages)

/-- What a scan may reply: keys that match the pattern, in any order and any number of times, and all
of those that are live among them. -/
structure Scanned (server : Keyspace) (now : Nat) (pattern : String)
    (pages : List (Nat × List String)) : Prop where
  closes : Closes pages
  only : ∀ page ∈ pages, ∀ key ∈ page.2, Glob.agrees pattern key = true
  all : ∀ key, (server.live? now key).isSome = true → Glob.agrees pattern key = true →
    ∃ page ∈ pages, key ∈ page.2

def asked (pattern : String) (cursor : Nat) : List (Nat × List String) → List (List String)
  | [] => []
  | (next, _) :: rest => (Command.scan cursor pattern scanCount).words :: asked pattern next rest

theorem scanUpTo_pages (now : Nat) (pattern : String) {pages : List (Nat × List String)}
    (closes : Closes pages) (link : Link) (scripted : link.scripted = pages.map .ofPage) {fuel : Nat}
    (enough : pages.length ≤ fuel) (cursor : Nat) (found : List String) :
    scanUpTo now pattern fuel cursor found link =
      (.ok (found ++ pages.flatMap fun page => page.2),
        ⟨link.server, [], link.sent ++ asked pattern cursor pages⟩) := by
  induction closes generalizing link fuel cursor found with
  | last keys =>
    obtain ⟨fuel, rfl⟩ := Nat.exists_eq_succ_of_ne_zero (Nat.ne_of_gt enough)
    have read : page? (.ofPage (0, keys)) = some (0, keys) := page?_ofPage (Nat.zero_le _)
    simp [scanUpTo, Link.send, scripted, read, asked]
  | @more next keys pages goes within closes ih =>
    obtain ⟨fuel, rfl⟩ := Nat.exists_eq_succ_of_ne_zero (Nat.ne_of_gt (Nat.lt_of_lt_of_le
      (Nat.succ_pos _) enough))
    have read : page? (.ofPage (next, keys)) = some (next, keys) := page?_ofPage within
    let after : Link := ⟨link.server, pages.map .ofPage,
      link.sent ++ [(Command.scan cursor pattern scanCount).words]⟩
    have scanned := ih after rfl (Nat.le_of_succ_le_succ enough) next (found ++ keys)
    simpa [scanUpTo, Link.send, scripted, read, goes, asked, after] using scanned

theorem mem_distinct (keys : List String) (key : String) : key ∈ distinct keys ↔ key ∈ keys := by
  simp [distinct, KeyMap.mem_keys_ofList]

theorem ascending_distinct (keys : List String) : (distinct keys).Pairwise (· < ·) :=
  KeyMap.ascending_keys _

namespace Keyspace

def Textual (server : Keyspace) (now : Nat) : Prop :=
  ∀ key item, server.live? now key = some item → ∃ text, item.value = bytes text

def value? (server : Keyspace) (now : Nat) (key : String) : Option String :=
  (server.live? now key).bind fun item => Text.Utf8.text? item.value

def left? (server : Keyspace) (now : Nat) (key : String) : Option Duration :=
  ((server.live? now key).bind (·.deadline)).map fun deadline => .ofMillis (deadline - now)

def row? (server : Keyspace) (now : Nat) (key : String) : Option Store.Entry :=
  do some ⟨key, ← server.value? now key, ← server.left? now key⟩

variable {now : Nat} {server : Keyspace} {key : String}

theorem asOptional?_live (textual : server.Textual now) :
    (ofValue (server.live? now key)).asOptional? = some (server.value? now key) := by
  unfold value?
  cases found : server.live? now key with
  | none => rfl
  | some item =>
    obtain ⟨text, written⟩ := textual key item found
    simp [ofValue, Reply.asOptional?, Reply.asText?, written]

theorem le_of_live {item : Item} {deadline : Nat} (found : server.live? now key = some item)
    (ends : item.deadline = some deadline) : now ≤ deadline := by
  have live := (Option.filter_eq_some_iff.1 found).2
  rw [isLive, ends] at live
  cases lingers : server.lingers <;> simp [lingers] at live <;> omega

theorem run_pttl (server : Keyspace) (now : Nat) (key : String) :
    ∃ pttl, server.run now (.pttl key) = (.integer pttl, server) ∧
      timeLeft pttl = server.left? now key := by
  rw [run, left?]
  cases found : server.live? now key with
  | none => exact ⟨-2, rfl, rfl⟩
  | some item =>
    cases ends : item.deadline with
    | none => exact ⟨-1, by simp [ends], by simp [timeLeft, ends]⟩
    | some deadline =>
      have ahead := le_of_live found ends
      have positive : ¬ (deadline : Int) - now < 0 := by omega
      have left : ((deadline : Int) - now).toNat = deadline - now := by omega
      exact ⟨deadline - now, by simp [ends], by simp [timeLeft, positive, left, ends]⟩

end Keyspace

def fetches (keys : List String) : List (List String) :=
  keys.flatMap fun key => [(Command.get key).words, (Command.pttl key).words]

theorem fetch_textual {now : Nat} {server : Keyspace} (textual : server.Textual now)
    (keys : List String) (sent : List (List String)) :
    fetch now keys ⟨server, [], sent⟩ =
      (.ok (keys.filterMap (server.row? now)), ⟨server, [], sent ++ fetches keys⟩) := by
  induction keys generalizing sent with
  | nil => simp [fetch, fetches]
  | cons key keys ih =>
    obtain ⟨pttl, replied, left⟩ := server.run_pttl now key
    have got : server.run now (.get key) = (Keyspace.ofValue (server.live? now key), server) := rfl
    simp only [fetch, Link.send, got, replied, Keyspace.asOptional?_live textual, Reply.asInteger?, ih,
      left]
    rw [← Keyspace.row?]
    cases row : server.row? now key <;> simp [row, Except.map, fetches]

theorem entries_pages {now : Nat} {link : Link} (textual : link.server.Textual now) (start : String)
    {pages : List (Nat × List String)} (closes : Closes pages) :
    let keys := distinct (pages.flatMap fun page => page.2)
    entries now (some start) { link with scripted := pages.map .ofPage } =
      (.ok (keys.filterMap (link.server.row? now)), ⟨link.server, [],
        link.sent ++ asked (startPattern start) 0 pages ++ fetches keys⟩) := by
  have enough : pages.length ≤ scanLimit { link with scripted := pages.map .ofPage } := by
    simp only [scanLimit, List.length_map]
    omega
  have read := scanUpTo_pages now (startPattern start) closes { link with scripted := pages.map .ofPage } rfl
    enough 0 []
  simp only [entries, Option.getD_some, read, List.nil_append, fetch_textual textual]

theorem remaining_unscripted (now : Nat) {link : Link} (unscripted : link.scripted = []) (key : String) :
    remaining now key link = (.ok (link.server.left? now key),
      { link with sent := link.sent ++ [(Command.pttl key).words] }) := by
  obtain ⟨pttl, replied, left⟩ := link.server.run_pttl now key
  simp only [remaining, send_unscripted unscripted, replied, ← left]
  rfl

variable {last now : Nat} {link : Link} {map : Store.Ideal.Bindings}

namespace Keyspace.Mirrors

variable {server : Keyspace}

theorem textual (mirrors : server.Mirrors last map) (forward : last ≤ now) : server.Textual now := by
  intro key item found
  rw [mirrors.agrees key now forward, Option.map_eq_some_iff] at found
  obtain ⟨r, -, rfl⟩ := found
  exact ⟨r.value, rfl⟩

theorem left?_eq (mirrors : server.Mirrors last map) (forward : last ≤ now) (key : String) :
    server.left? now key = (live now (map.get? key)).map fun r => .ofMillis (r.deadline - now) := by
  rw [Keyspace.left?, mirrors.agrees key now forward]
  cases live now (map.get? key) <;> rfl

theorem row?_eq (mirrors : server.Mirrors last map) (forward : last ≤ now) (key : String) :
    server.row? now key = (live now (map.get? key)).map fun r => Store.Ideal.entry now (key, r) := by
  rw [Keyspace.row?, mirrors.left?_eq forward, value?, mirrors.agrees key now forward]
  cases live now (map.get? key) <;> simp [itemOf, Store.Ideal.entry]

end Keyspace.Mirrors

theorem remaining_mirrors (mirrors : Mirrors last link map) (forward : last ≤ now) (key : String) :
    (remaining now key link).1 = (Store.Ideal.operate now (.remaining key) map).1 ∧
      Mirrors now (remaining now key link).2 (Store.Ideal.operate now (.remaining key) map).2 := by
  obtain ⟨unscripted, server⟩ := mirrors
  rw [remaining_unscripted now unscripted, server.left?_eq forward]
  simp only [Store.Ideal.operate, Store.Ideal.get?_current]
  exact ⟨trivial, unscripted, server.current forward⟩

theorem listing_of_scanned (server : link.server.Mirrors last map) (forward : last ≤ now)
    {start : String} {pages : List (Nat × List String)}
    (scanned : Scanned link.server now (startPattern start) pages) :
    ((distinct (pages.flatMap fun page => page.2)).filterMap fun key =>
        (live now (map.get? key)).map fun r => Store.Ideal.entry now (key, r)) =
      ((Store.Ideal.current now map).entries.filter fun row =>
        start.toList.isPrefixOf row.1.toList).map (Store.Ideal.entry now) := by
  -- The keys come in any order and any number of times, and some of them have no entry.
  let wanted := (Store.Ideal.current now map).filter fun key _ => start.toList.isPrefixOf key.toList
  have held (key : String) : wanted.get? key =
      (live now (map.get? key)).filter fun _ => start.toList.isPrefixOf key.toList := by
    rw [KeyMap.get?_filter, Store.Ideal.get?_current]
  have all (key : String) (there : (wanted.get? key).isSome = true) :
      key ∈ distinct (pages.flatMap fun page => page.2) := by
    obtain ⟨r, found⟩ := Option.isSome_iff_exists.1 there
    rw [held, Option.filter_eq_some_iff] at found
    have here : (link.server.live? now key).isSome = true := by
      rw [server.agrees key now forward, found.1]
      rfl
    obtain ⟨page, member, inside⟩ := scanned.all key here (by rw [agrees_startPattern, found.2])
    exact (mem_distinct _ key).2 (List.mem_flatMap.2 ⟨page, member, inside⟩)
  calc
    _ = (distinct (pages.flatMap fun page => page.2)).filterMap fun key =>
          ((wanted.get? key).map fun r => (key, r)).map (Store.Ideal.entry now) := by
        refine List.filterMap_congr fun key member => ?_
        obtain ⟨page, given, inside⟩ := List.mem_flatMap.1 ((mem_distinct _ key).1 member)
        rw [held, ← agrees_startPattern, scanned.only page given key inside]
        cases live now (map.get? key) <;> rfl
    _ = wanted.entries.map (Store.Ideal.entry now) := by
        rw [← List.map_filterMap, KeyMap.filterMap_get? wanted (ascending_distinct _) all]

theorem entries_mirrors (mirrors : Mirrors last link map) (forward : last ≤ now) (start : String)
    {pages : List (Nat × List String)}
    (scanned : Scanned link.server now (startPattern start) pages) :
    (entries now (some start) { link with scripted := pages.map .ofPage }).1 =
        (Store.Ideal.operate now (.entries (some start)) map).1 ∧
      Mirrors now (entries now (some start) { link with scripted := pages.map .ofPage }).2
        (Store.Ideal.operate now (.entries (some start)) map).2 := by
  obtain ⟨-, server⟩ := mirrors
  have rows : link.server.row? now = fun key => _ := funext (server.row?_eq forward)
  simp only [entries_pages (server.textual forward) start scanned.closes, rows, Store.Ideal.operate,
    listing_of_scanned server forward scanned]
  exact ⟨rfl, rfl, server.current forward⟩

end StickyRouting.Server
