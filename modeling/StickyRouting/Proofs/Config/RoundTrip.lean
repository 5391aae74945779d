import StickyRouting.Config.Printer
import StickyRouting.Proofs.Config.Check
import StickyRouting.Proofs.Toml.Document

set_option autoImplicit false

namespace StickyRouting.Config

open List (Sublist)
open Toml (Scalar Value Rows Spells Reads)

section Printing

variable {name text : String} {written : List Char} {statements : List Toml.Statement}

def optionalRow (name : String) : Option String → List (List Char × Scalar)
  | none => []
  | some text => [(name.toList, .text text.toList)]

def routingFields (config : Config) : List (List Char × Scalar) :=
  ("namespace".toList, .text config.space.toList) ::
    (optionalRow "default_partition" config.defaultPartition ++ optionalRow "ttl" config.ttl ++
      optionalRow "role" (config.role.map Role.name))

def storeFields : StoreConfig → List (List Char × Scalar)
  | .file path => [("backend".toList, .text "redb".toList), ("path".toList, .text path.toList)]
  | .server url none => [("backend".toList, .text "redis".toList), ("url".toList, .text url.toList)]
  | .server url (some size) =>
    [("backend".toList, .text "redis".toList), ("url".toList, .text url.toList),
      ("pool_size".toList, .integer size.toNat)]

def tables (config : Config) : List Rows :=
  ("routing".toList, config.routingFields) ::
    (config.store.map fun store => ("store".toList, storeFields store)).toList

theorem reads_field (name text : String) (bare : Toml.IsBare name.toList) (reads : Reads written statements) :
    Reads (field name text ++ written) (.pair [name.toList] (.scalar (.text text.toList)) :: statements) :=
  reads.field bare (Toml.spells_writeText text.toList)

theorem reads_optional (name : String) (value : Option String) (bare : Toml.IsBare name.toList)
    (reads : Reads written statements) : Reads (optional name value ++ written)
      ((optionalRow name value).map (fun row => .pair [row.1] (.scalar row.2)) ++ statements) := by
  cases value with
  | none => exact reads
  | some text => exact reads_field name text bare reads

theorem fits_poolSize (size : UInt32) : Text.Numeral.fitsInt64 size.toNat = true := by
  have bound : size.toNat < 2 ^ 32 := size.toNat_lt
  rw [Text.Numeral.fitsInt64, decide_eq_true_eq]
  omega

theorem reads_renderStore (store : StoreConfig) :
    Reads (Toml.writeHeader "store".toList ++ renderStore store)
      (Rows.statements ("store".toList, storeFields store)) := by
  refine Reads.header (by decide) ?_
  cases store with
  | file path =>
    have path := reads_field "path" path (by decide) .nil
    rw [List.append_nil] at path
    exact reads_field "backend" "redb" (by decide) path
  | server url poolSize =>
    rw [renderStore.eq_def]
    dsimp only
    rw [List.append_assoc]
    cases poolSize with
    | none =>
      have url := reads_field "url" url (by decide) .nil
      exact reads_field "backend" "redis" (by decide) url
    | some size =>
      have size := Reads.nil.field (by decide : Toml.IsBare "pool_size".toList)
        (Toml.spells_writeNat (fits_poolSize size))
      rw [List.append_nil] at size
      have url := reads_field "url" url (by decide) size
      exact reads_field "backend" "redis" (by decide) url

theorem reads_routing (config : Config) (reads : Reads written statements) :
    Reads (Toml.writeHeader "routing".toList ++ (field "namespace" config.space ++
        (optional "default_partition" config.defaultPartition ++ (optional "ttl" config.ttl ++
          (optional "role" (config.role.map Role.name) ++ written)))))
      (Rows.statements ("routing".toList, config.routingFields) ++ statements) := by
  have role := reads_optional "role" (config.role.map Role.name) (by decide) reads
  have ttl := reads_optional "ttl" config.ttl (by decide) role
  have fallback := reads_optional "default_partition" config.defaultPartition (by decide) ttl
  have space := reads_field "namespace" config.space (by decide) fallback
  simpa only [Rows.statements, routingFields, List.map_cons, List.map_append, List.append_assoc,
    List.cons_append] using space.header (by decide : Toml.IsBare "routing".toList)

theorem reads_renderChars (config : Config) :
    Reads config.renderChars (config.tables.flatMap Rows.statements) := by
  cases stored : config.store with
  | none =>
    simpa only [renderChars, tables, stored, List.append_assoc, Option.map_none, Option.toList_none,
      List.flatMap_cons, List.flatMap_nil] using config.reads_routing .nil
  | some store =>
    have store := config.reads_routing (reads_renderStore store).blank
    simpa only [renderChars, tables, stored, List.append_assoc, List.cons_append, Option.map_some,
      Option.toList_some, List.flatMap_cons, List.flatMap_nil, List.append_nil] using store

theorem head?_renderChars (config : Config) : config.renderChars.head? = some '[' := rfl

theorem keys_optionalRow (name : String) (value : Option String) :
    Sublist ((optionalRow name value).map (·.1)) [name.toList] := by
  cases value with
  | none => exact List.nil_sublist _
  | some text => exact List.Sublist.refl _

theorem distinct_routingFields (config : Config) : (config.routingFields.map (·.1)).Nodup := by
  have ordered : Sublist (config.routingFields.map (·.1))
      ["namespace".toList, "default_partition".toList, "ttl".toList, "role".toList] := by
    simp only [routingFields, List.map_cons, List.map_append]
    exact (((keys_optionalRow ..).append (keys_optionalRow ..)).append (keys_optionalRow ..)).cons_cons _
  exact ordered.nodup (by decide)

theorem distinct_storeFields (store : StoreConfig) : ((storeFields store).map (·.1)).Nodup := by
  cases store with
  | file path => exact (by decide : ["backend".toList, "path".toList].Nodup)
  | server url poolSize =>
    cases poolSize with
    | none => exact (by decide : ["backend".toList, "url".toList].Nodup)
    | some size => exact (by decide : ["backend".toList, "url".toList, "pool_size".toList].Nodup)

theorem parse?_render (config : Config) :
    Toml.parse? config.render = some (config.tables.map Rows.value) := by
  refine Toml.parse?_of_reads config.reads_renderChars (by simp [head?_renderChars]) ?_ ?_
  · rw [tables]
    cases config.store with
    | none => exact (by decide : ["routing".toList].Nodup)
    | some store => exact (by decide : ["routing".toList, "store".toList].Nodup)
  · intro rows member
    rcases List.mem_cons.1 member with rfl | member
    · exact config.distinct_routingFields
    · obtain ⟨store, -, rfl⟩ := Option.map_eq_some_iff.1 (Option.mem_toList.1 member)
      exact distinct_storeFields store

end Printing

section Reading

theorem parse_roleName (role : Role) : Role.parse role.name = .ok role := by
  cases role <;> rfl

@[simp] theorem textOf_text (text : String) : textOf (.scalar (.text text.toList)) = .ok text := by
  rw [textOf, String.ofList_toList]

theorem roleOf_name (role : Role) : roleOf (.scalar (.text role.name.toList)) = .ok role := by
  simp only [roleOf, textOf_text, bind, Except.bind, parse_roleName]

theorem poolSizeOf_toNat (size : UInt32) : poolSizeOf (.scalar (.integer size.toNat)) = .ok size := by
  have bound : size.toNat ≤ Text.Numeral.word32 := Nat.le_of_lt_succ size.toNat_lt
  simp [poolSizeOf, bound]

abbrev valued (rows : List (List Char × Scalar)) : List (List Char × Value) :=
  rows.map fun row => (row.1, .scalar row.2)

variable (routing : Routing)

theorem readRouting_space (text : String) :
    routing.read ("namespace".toList, .scalar (.text text.toList)) =
      .ok { routing with space := some text } := by
  simp only [Routing.read, String.ofList_toList, textOf_text]
  rfl

theorem readRouting_defaultPartition (text : String) :
    routing.read ("default_partition".toList, .scalar (.text text.toList)) =
      .ok { routing with defaultPartition := some text } := by
  simp only [Routing.read, String.ofList_toList, textOf_text]
  rfl

theorem readRouting_ttl (text : String) :
    routing.read ("ttl".toList, .scalar (.text text.toList)) = .ok { routing with ttl := some text } := by
  simp only [Routing.read, String.ofList_toList, textOf_text]
  rfl

theorem readRouting_role (role : Role) :
    routing.read ("role".toList, .scalar (.text role.name.toList)) =
      .ok { routing with role := some role } := by
  simp only [Routing.read, String.ofList_toList, roleOf_name]
  rfl

theorem foldlM_optionalRow (name : String) (value : Option String) (after : Routing)
    (absent : value = none → after = routing)
    (present : ∀ text, value = some text →
      routing.read (name.toList, .scalar (.text text.toList)) = .ok after) :
    (valued (optionalRow name value)).foldlM Routing.read routing = .ok after := by
  cases value with
  | none => rw [absent rfl]; rfl
  | some text =>
    rw [optionalRow, valued, List.map_singleton, List.foldlM_cons, present text rfl]
    rfl

theorem ofValue_routingFields (config : Config) : Routing.ofValue (.table (valued config.routingFields)) =
    .ok ⟨some config.space, config.defaultPartition, config.ttl, config.role⟩ := by
  have fallback := foldlM_optionalRow ⟨some config.space, none, none, none⟩
    "default_partition" config.defaultPartition ⟨some config.space, config.defaultPartition, none, none⟩
    (fun unset => by rw [unset]) (fun text set => by rw [set, readRouting_defaultPartition])
  have ttl := foldlM_optionalRow ⟨some config.space, config.defaultPartition, none, none⟩
    "ttl" config.ttl ⟨some config.space, config.defaultPartition, config.ttl, none⟩
    (fun unset => by rw [unset]) (fun text set => by rw [set, readRouting_ttl])
  have role := foldlM_optionalRow ⟨some config.space, config.defaultPartition, config.ttl, none⟩
    "role" (config.role.map Role.name) ⟨some config.space, config.defaultPartition, config.ttl, config.role⟩
    (fun unset => by rw [Option.map_eq_none_iff.1 unset])
    (fun text named => by
      obtain ⟨role, set, rfl⟩ := Option.map_eq_some_iff.1 named
      rw [set, readRouting_role])
  -- The fields are read one after the other, each with what the fields before it have set.
  rw [Routing.ofValue, routingFields, valued, List.map_cons, List.foldlM_cons, readRouting_space]
  simp only [List.map_append, List.foldlM_append, bind, Except.bind, fallback, ttl, role]
  rfl

theorem backendOf_redb : backendOf (.scalar (.text "redb".toList)) = .ok .file := by
  simp only [backendOf, textOf_text]
  rfl

theorem backendOf_redis : backendOf (.scalar (.text "redis".toList)) = .ok .server := by
  simp only [backendOf, textOf_text]
  rfl

variable (store : Store)

theorem readStore_backend (backend : Backend) (value : Value) :
    store.read backend ("backend".toList, value) = .ok store := by
  cases backend <;> simp only [Store.read, String.ofList_toList] <;> rfl

theorem readStore_path (path : String) : store.read .file ("path".toList, .scalar (.text path.toList)) =
    .ok { store with path := some path } := by
  simp only [Store.read, String.ofList_toList, textOf_text]
  rfl

theorem readStore_url (url : String) : store.read .server ("url".toList, .scalar (.text url.toList)) =
    .ok { store with url := some url } := by
  simp only [Store.read, String.ofList_toList, textOf_text]
  rfl

theorem readStore_poolSize (size : UInt32) :
    store.read .server ("pool_size".toList, .scalar (.integer size.toNat)) =
      .ok { store with poolSize := some size } := by
  simp only [Store.read, String.ofList_toList, poolSizeOf_toNat]
  rfl

theorem storeOf_table {name : String} {backend : Backend} {fields : List (List Char × Value)}
    {done : StoreConfig} (store : Store) (named : backendOf (.scalar (.text name.toList)) = .ok backend)
    (read : fields.foldlM (Store.read backend) {} = .ok store) (finished : store.finish backend = .ok done) :
    storeOf (.table (("backend".toList, .scalar (.text name.toList)) :: fields)) = .ok done := by
  have found : List.lookup backendField (("backend".toList, .scalar (.text name.toList)) :: fields) =
      some (.scalar (.text name.toList)) := List.lookup_cons_self
  rw [storeOf, found]
  simp only [Option.mapM_some, named, List.foldlM_cons, readStore_backend, Functor.map, Except.map, bind,
    Except.bind, require, read, finished]

theorem storeOf_storeFields (store : StoreConfig) :
    storeOf (.table (valued (storeFields store))) = .ok store := by
  cases store with
  | file path =>
    refine storeOf_table { path := some path } backendOf_redb ?_ rfl
    simp only [List.map_cons, List.map_nil, List.foldlM_cons, readStore_path]
    rfl
  | server url poolSize =>
    cases poolSize with
    | none =>
      refine storeOf_table { url := some url } backendOf_redis ?_ rfl
      simp only [List.map_cons, List.map_nil, List.foldlM_cons, readStore_url]
      rfl
    | some size =>
      refine storeOf_table { url := some url, poolSize := some size } backendOf_redis ?_ rfl
      simp only [List.map_cons, List.map_nil, List.foldlM_cons, readStore_url, bind, Except.bind,
        readStore_poolSize]
      rfl

theorem readParts_routing (parts : Parts) {value : Value} {routing : Routing}
    (read : Routing.ofValue value = .ok routing) :
    parts.read ("routing".toList, value) = .ok { parts with routing := some routing } := by
  simp only [Parts.read, String.ofList_toList, read]
  rfl

theorem readParts_store (parts : Parts) {value : Value} {store : StoreConfig}
    (read : storeOf value = .ok store) :
    parts.read ("store".toList, value) = .ok { parts with store := some store } := by
  simp only [Parts.read, String.ofList_toList, read]
  rfl

theorem foldlM_tables (config : Config) : (config.tables.map Rows.value).foldlM Parts.read {} =
    .ok ⟨some ⟨some config.space, config.defaultPartition, config.ttl, config.role⟩, config.store⟩ := by
  rw [tables, List.map_cons, List.foldlM_cons, Rows.value,
    readParts_routing {} (ofValue_routingFields config)]
  cases stored : config.store with
  | none => rfl
  | some store =>
    simp only [Option.map_some, Option.toList_some, List.map_cons, List.map_nil, List.foldlM_cons, Rows.value,
      readParts_store _ (storeOf_storeFields store), bind, Except.bind]
    rfl

theorem ofDocument_tables (config : Config) : ofDocument (config.tables.map Rows.value) = .ok config := by
  rw [ofDocument, foldlM_tables]
  rfl

theorem parse_render (config : Config) : parse config.render = config.check := by
  rw [parse, parse?_render]
  simp only [ofDocument_tables]

/-- Settings that are written and read again are the same settings, if they pass the checks; if not, the
first check that fails is the error, the namespace before the time and the time before the address. -/
theorem parse_render_exact (config : Config) :
    (parse config.render = .ok config ↔ Text.allBlank config.space = false ∧
      (∀ text, config.ttl = some text → ∃ d, Duration.parse text = .ok d) ∧
      ¬ ∃ url size, config.store = some (.server url size) ∧ Text.allBlank url = true) ∧
    (parse config.render = .error .emptySpace ↔ Text.allBlank config.space = true) ∧
    (∀ cause, parse config.render = .error (.duration cause) ↔ Text.allBlank config.space = false ∧
      ∃ text, config.ttl = some text ∧ Duration.parse text = .error cause) ∧
    (parse config.render = .error .emptyUrl ↔ Text.allBlank config.space = false ∧
      (∀ text, config.ttl = some text → ∃ d, Duration.parse text = .ok d) ∧
      ∃ url size, config.store = some (.server url size) ∧ Text.allBlank url = true) := by
  rw [parse_render, ← any_hasBlankUrl_iff, ← exists_effectiveTtl_iff, check_eq_ok_iff, Bool.not_eq_true]
  refine ⟨and_iff_right rfl, check_eq_emptySpace_iff, fun cause => ?_, check_eq_emptyUrl_iff⟩
  rw [check_eq_duration_iff, effectiveTtl_eq_error_iff]

end Reading

end StickyRouting.Config
