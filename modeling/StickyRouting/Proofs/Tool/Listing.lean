import StickyRouting.Proofs.Config.Check
import StickyRouting.Proofs.RouteKey
import StickyRouting.Proofs.Server.Scan
import StickyRouting.Proofs.Store.Refinement
import StickyRouting.Tool

set_option autoImplicit false

namespace StickyRouting.Tool

open Store (Entry Ideal.Bindings)
open Store.Embedded (Readable live records)

section Asked

def IsOf (space : String) (partition : Option String) (text : String) : Prop :=
  ∃ key, RouteKey.decode? text = some key ∧ key.space = space ∧ ∀ name ∈ partition, key.partition = name

theorem isAskedFor_iff (space : String) (partition : Option String) (entry : Entry) :
    isAskedFor (some space) partition entry = true ↔ IsOf space partition entry.key := by
  unfold isAskedFor IsOf
  cases RouteKey.decode? entry.key with
  | none => simp
  | some key => cases partition <;> simp

theorem startsWith_iff_plain {space text : String} {partition : Option String}
    (asked : IsOf space partition text) :
    (keyStart space).toList.isPrefixOf text.toList = true ↔ ∀ c ∈ space.toList, RouteKey.Plain c := by
  obtain ⟨key, read, rfl, -⟩ := asked
  obtain ⟨object, -, shape⟩ := RouteKey.exists_spelled read
  have start : (keyStart key.space).toList = ['r', '_'] ++ key.space.toList ++ ['_', '{'] := by
    simp [keyStart]
  rw [List.isPrefixOf_iff_prefix, shape, start]
  exact RouteKey.unescaped_prefix_spelled_iff ..

end Asked

section Listing

variable {now : Nat} {start : String} {backend : Store.Backend} {map : Ideal.Bindings}

inductive Keeps (now : Nat) (start : String) : Store.Backend → Ideal.Bindings → Prop where
  | records {table : Store.Table} (readable : Readable table) :
    Keeps now start (.embedded table) (records table)
  | pages {link : Server.Link} {map : Ideal.Bindings} {last : Nat}
      {pages : List (Nat × List String)} (mirrors : Server.Mirrors last link map)
      (forward : last ≤ now)
      (scanned : Server.Scanned link.server now (Server.startPattern start) pages) :
    Keeps now start (.remote { link with scripted := pages.map .ofPage }) map

theorem entries_of_keeps (keeps : Keeps now start backend map) :
    (Store.Backend.entries now (some start) backend).1 =
      (Store.Ideal.operate now (.entries (some start)) map).1 := by
  cases keeps with
  | records readable =>
    exact Store.entries_related (.of_readable now readable) (Nat.le_refl _) _
  | pages mirrors forward scanned => exact (Server.entries_mirrors mirrors forward start scanned).1

def IsLive (now : Nat) (map : Ideal.Bindings) (entry : Entry) : Prop :=
  ∃ r, live now (map.get? entry.key) = some r ∧ entry = Store.Ideal.entry now (entry.key, r)

theorem mem_listing_iff (entry : Entry) :
    entry ∈ ((Store.Ideal.current now map).entries.filter fun row =>
        start.toList.isPrefixOf row.1.toList).map (Store.Ideal.entry now) ↔
      IsLive now map entry ∧ start.toList.isPrefixOf entry.key.toList = true := by
  have held (key : String) (r : Store.Record) :
      (key, r) ∈ (Store.Ideal.current now map).entries ↔ live now (map.get? key) = some r := by
    rw [KeyMap.mem_entries_iff, Store.Ideal.get?_current]
  rw [List.mem_map]
  constructor
  · rintro ⟨⟨key, r⟩, member, rfl⟩
    obtain ⟨member, starts⟩ := List.mem_filter.1 member
    exact ⟨⟨r, (held key r).1 member, rfl⟩, starts⟩
  · rintro ⟨⟨r, found, shape⟩, starts⟩
    exact ⟨(entry.key, r), List.mem_filter.2 ⟨(held _ r).2 found, starts⟩, shape.symm⟩

end Listing

section Sample

def sampleKey (space : String) : RouteKey := ⟨space, "blue", 7⟩

def sampleTable (space : String) : Store.Table :=
  (Store.Embedded.perform 1000 (.set (sampleKey space).encode "10.0.0.1:9000" (.ofSecs 60)) ∅).2

def sampleSettings (space : String) : String :=
  "[routing]\nnamespace = \"" ++ space ++ "\"\n[store]\nbackend = \"redb\"\npath = \"routes.redb\"\n"

def sampleWorld (space : String) : World where
  now := 1000
  directory := ⟨KeyMap.ofList
    [("affinity.toml", .file (.bytes (Text.Utf8.encode (sampleSettings space).toList))),
      ("routes.redb", .file (.table (sampleTable space)))]⟩

theorem readable_sampleTable (space : String) : Readable (sampleTable space) :=
  (Store.perform_related (.empty 1000) (Nat.le_refl _) _).2.readable

theorem isLive_sampleKey (space : String) :
    IsLive 1000 (records (sampleTable space))
      ⟨(sampleKey space).encode, "10.0.0.1:9000", .ofSecs 60⟩ := by
  have here : Store.Embedded.stored (sampleTable space) (sampleKey space).encode =
      .ok (some (.bind "10.0.0.1:9000" 1000 (.ofSecs 60))) :=
    (Store.Embedded.stored_insert _ _ _ _ (Store.deadline_le ..)).trans (if_pos rfl)
  rw [Store.Embedded.stored_of_readable (readable_sampleTable space)] at here
  have left : Duration.ofSecs 60 = .ofMillis (Store.deadline 1000 (.ofSecs 60) - 1000) := by decide
  exact ⟨_, Store.Embedded.live_eq_some_iff.2 ⟨Except.ok.inj here, by decide⟩,
    congrArg (Entry.mk _ _) left⟩

theorem render_ne_brackets {entries : List Entry} (some_entry : entries ≠ []) :
    render "json" entries ≠ "[]" := by
  intro same
  have letters := congrArg String.toList same
  simp [render, arrayLines, some_entry] at letters

end Sample

section Run

variable {world : World} {path : String} {config : Config} {store : StoreConfig} {opened : Opened}
  {backend : Store.Backend} {map : Ideal.Bindings}

theorem withStore_of_open (loaded : loadConfig world.directory path = .ok config)
    (kept : config.store = some store) (opens : openStore world store = .ok (opened, backend))
    (work : Work) : (withStore world path work).1 = (work config world.now backend).1 := by
  simp only [withStore, loaded, kept, opens]

theorem run_list (loaded : loadConfig world.directory path = .ok config)
    (kept : config.store = some store) (opens : openStore world store = .ok (opened, backend))
    (partition : Option String) (all : Bool) (format : String) :
    (run world ⟨path, .list partition all format⟩).1 =
      (listWork partition all format config world.now backend).1 :=
  withStore_of_open loaded kept opens _

theorem listWork_of_entries {now : Nat} {entries : List Entry}
    (listed : (Store.Backend.entries now (some (keyStart config.space)) backend).1 = .ok entries)
    (partition : Option String) (format : String) :
    (listWork partition false format config now backend).1 =
      .ok ⟨render format (selected (some config.space) partition entries), []⟩ := by
  simp only [listWork, Bool.false_eq_true, if_false, Option.map_some]
  split
  next failed => rw [failed] at listed; contradiction
  next found =>
    rw [found] at listed
    obtain rfl := Except.ok.inj listed
    rfl

/-- A listing shows the live bindings of the namespace if no letter of it is one that keys escape, and
otherwise nothing at all. -/
theorem list_shows (loaded : loadConfig world.directory path = .ok config)
    (kept : config.store = some store) (opens : openStore world store = .ok (opened, backend))
    (keeps : Keeps world.now (keyStart config.space) backend map) (partition : Option String)
    (format : String) :
    ∃ shown : List Entry,
      (run world ⟨path, .list partition false format⟩).1 = .ok ⟨render format shown, []⟩ ∧
      (shown.Pairwise fun a b => Text.Utf8.encode a.key.toList < Text.Utf8.encode b.key.toList) ∧
      ∀ entry, entry ∈ shown ↔ IsLive world.now map entry ∧ IsOf config.space partition entry.key ∧
        ∀ c ∈ config.space.toList, RouteKey.Plain c := by
  let listing := ((Store.Ideal.current world.now map).entries.filter fun row =>
    (keyStart config.space).toList.isPrefixOf row.1.toList).map (Store.Ideal.entry world.now)
  have listed : (Store.Backend.entries world.now (some (keyStart config.space)) backend).1 =
      .ok listing := entries_of_keeps keeps
  refine ⟨selected (some config.space) partition listing, ?_, ?_, fun entry => ?_⟩
  · rw [run_list loaded kept opens, listWork_of_entries listed]
  · exact (Store.Ideal.ascending_entries world.now (some (keyStart config.space)) map).filter _
  · rw [selected, List.mem_filter, mem_listing_iff, isAskedFor_iff]
    constructor
    · rintro ⟨⟨lives, starts⟩, asked⟩
      exact ⟨lives, asked, (startsWith_iff_plain asked).1 starts⟩
    · rintro ⟨lives, asked, plain⟩
      exact ⟨⟨lives, (startsWith_iff_plain asked).2 plain⟩, asked⟩

theorem list_shows_plain_space :
    let config : Config := { space := "game", store := some (.file "routes.redb") }
    let entry : Entry := ⟨(sampleKey "game").encode, "10.0.0.1:9000", .ofSecs 60⟩
    loadConfig (sampleWorld "game").directory "affinity.toml" = .ok config ∧
      openStore (sampleWorld "game") (.file "routes.redb") =
        .ok (.file ⟨.above 0, ["routes.redb"]⟩, .embedded (sampleTable "game")) ∧
      Keeps 1000 (keyStart "game") (.embedded (sampleTable "game")) (records (sampleTable "game")) ∧
      ∃ shown : List Entry,
        (run (sampleWorld "game") ⟨"affinity.toml", .list (some "blue") false "json"⟩).1 =
          .ok ⟨render "json" shown, []⟩ ∧ entry ∈ shown := by
  intro config entry
  have loaded : loadConfig (sampleWorld "game").directory "affinity.toml" = .ok config :=
    eq_ok_of_toOption (by decide +kernel)
  have opens : openStore (sampleWorld "game") (.file "routes.redb") =
      .ok (.file ⟨.above 0, ["routes.redb"]⟩, .embedded (sampleTable "game")) := rfl
  have keeps : Keeps 1000 (keyStart "game") (.embedded (sampleTable "game"))
      (records (sampleTable "game")) := .records (readable_sampleTable "game")
  obtain ⟨shown, listed, -, each⟩ := list_shows loaded rfl opens keeps (some "blue") "json"
  have asked : IsOf "game" (some "blue") entry.key :=
    ⟨_, RouteKey.decode?_encode _, rfl, fun _ same => Option.some.inj same⟩
  have plain : ∀ c ∈ "game".toList, RouteKey.Plain c :=
    (RouteKey.escape_eq_self_iff _).1 (by decide)
  exact ⟨loaded, opens, keeps, shown, listed, (each entry).2 ⟨isLive_sampleKey "game", asked, plain⟩⟩

theorem escaped_space_unlisted :
    let entry : Entry := ⟨(sampleKey "game_room").encode, "10.0.0.1:9000", .ofSecs 60⟩
    let listed := (run (sampleWorld "game_room") ⟨"affinity.toml", .list none false "json"⟩).1
    IsLive 1000 (records (sampleTable "game_room")) entry ∧ IsOf "game_room" none entry.key ∧
      listed = .ok ⟨"[]", []⟩ ∧ ∀ shown, entry ∈ shown → listed ≠ .ok ⟨render "json" shown, []⟩ := by
  intro entry listed
  have asked : IsOf "game_room" none entry.key := ⟨_, RouteKey.decode?_encode _, rfl, nofun⟩
  have nothing : listed = .ok ⟨"[]", []⟩ := eq_ok_of_toOption (by decide +kernel)
  refine ⟨isLive_sampleKey "game_room", asked, nothing, fun shown member same => ?_⟩
  rw [nothing] at same
  have empty : "[]" = render "json" shown := congrArg Done.shown (Except.ok.inj same)
  exact render_ne_brackets (List.ne_nil_of_mem member) empty.symm

end Run

end StickyRouting.Tool
