import Mathlib.Algebra.GroupWithZero.Nat
import StickyRouting.Proofs.Balancer.Partition
import StickyRouting.Proofs.Balancer.Setup
import StickyRouting.Proofs.Tool.Listing

set_option autoImplicit false

namespace StickyRouting

namespace Tool

variable {ω τ σ : Type} {world : World} {path : String} {config : Config} {partition : Option String}
  {objectId : Int64}

theorem timed_of_loaded {directory : Directory} (loaded : loadConfig directory path = .ok config) :
    ∃ ttl, config.effectiveTtl = .ok ttl := by
  unfold loadConfig at loaded
  split at loaded
  next => contradiction
  next => exact Config.timed_of_parse (mapError_eq_ok_iff.1 loaded)

theorem withStore_congr (loaded : loadConfig world.directory path = .ok config) {work other : Work}
    (same : ∀ now backend, work config now backend = other config now backend) :
    withStore world path work = withStore world path other := by
  simp only [withStore, loaded, same]

theorem exists_viewOf (loaded : loadConfig world.directory path = .ok config) :
    ∃ view, viewOf config = .ok view ∧ ∀ (partition : Option String) (objectId : Int64),
      keyFor config view partition objectId =
        RouteKey.encode ⟨config.space, partition.getD config.effectivePartition, objectId⟩ := by
  obtain ⟨ttl, timed⟩ := timed_of_loaded loaded
  exact ⟨View.make .master config.space ttl, by rw [viewOf, timed], fun _ _ => rfl⟩

theorem run_get (loaded : loadConfig world.directory path = .ok config) (partition : Option String)
    (objectId : Int64) : run world ⟨path, .get partition objectId⟩ = withStore world path
      (lookUp (RouteKey.encode ⟨config.space, partition.getD config.effectivePartition, objectId⟩)) := by
  obtain ⟨view, seen, keys⟩ := exists_viewOf loaded
  show withStore world path (getWork partition objectId) = _
  refine withStore_congr loaded fun now backend => ?_
  simp only [getWork, seen, keys]

theorem run_delete (loaded : loadConfig world.directory path = .ok config) (partition : Option String)
    (objectId : Int64) (ifValue : Option String) : run world ⟨path, .delete partition objectId ifValue⟩ =
      withStore world path
        (remove (RouteKey.encode ⟨config.space, partition.getD config.effectivePartition, objectId⟩) ifValue
          (deletion (partition.getD config.effectivePartition) objectId)) := by
  obtain ⟨view, seen, keys⟩ := exists_viewOf loaded
  show withStore world path (deleteWork partition objectId ifValue) = _
  refine withStore_congr loaded fun now backend => ?_
  simp only [deleteWork, seen, keys]

theorem getD_eq_partitionOr_iff {md : Metadata} (carries : md.get? Metadata.partitionField = partition)
    (fallback : String) :
    partition.getD fallback = md.partitionOr fallback ↔ (partition = some "" → fallback = "") := by
  subst carries
  unfold Metadata.partitionOr
  split
  next name found =>
    by_cases empty : name = ""
    next => simp [found, empty, eq_comm]
    next => simp [found, empty]
  next absent => simp [absent]

variable [Zero ω] [Add ω] [Sub ω] [LT ω] [DecidableLT ω]

/-- The two keys differ just when the partition is given and empty, and that of the settings is not. -/
theorem tool_addresses_request (loaded : loadConfig world.directory path = .ok config) {md : Metadata}
    (carries : md.get? Metadata.partitionField = partition) (named : md.objectId = .ok objectId) :
    let sought := RouteKey.encode ⟨config.space, partition.getD config.effectivePartition, objectId⟩
    let own := RouteKey.encode ⟨config.space, md.partitionOr config.effectivePartition, objectId⟩
    ∃ balancer : Balancer ω, Balancer.ofConfig config = .ok balancer ∧
      run world ⟨path, .get partition objectId⟩ = withStore world path (lookUp sought) ∧
      (∀ ifValue, run world ⟨path, .delete partition objectId ifValue⟩ =
        withStore world path (remove sought ifValue
          (deletion (partition.getD config.effectivePartition) objectId))) ∧
      (∀ (engine : Store.Engine σ) (now : Nat) (candidates : List (Node ω τ)) (store : σ),
        candidates ≠ [] →
          let log := balancer.calls engine now md candidates store
          log ≠ [] ∧ ∀ event ∈ log, Balancer.Asks now balancer own event) ∧
      (sought = own ↔ (partition = some "" → config.effectivePartition = "")) := by
  intro sought own
  obtain ⟨ttl, timed⟩ := timed_of_loaded loaded
  obtain ⟨balancer, made, -, view, filter⟩ := Balancer.exists_ofConfig (ω := ω) timed
  refine ⟨balancer, made, run_get loaded partition objectId, run_delete loaded partition objectId,
    fun engine now candidates store nonempty => ?_, ?_⟩
  next =>
    have keyed : balancer.keyFor md candidates = .ok own := by
      refine Balancer.keyFor_eq_ok_iff.2 ⟨nonempty, objectId, named, ?_⟩
      rw [view, filter]
      rfl
    exact (Balancer.sound_of_keyFor keyed engine now store).asks
  next =>
    -- Keys tell partitions apart.
    rw [← getD_eq_partitionOr_iff carries]
    exact ⟨fun same => congrArg RouteKey.partition (RouteKey.encode_injective same),
      fun same => by simp only [sought, own, same]⟩

section Sample

open Balancer (called east)

def blueSettings : String :=
  "[routing]\nnamespace = \"room\"\ndefault_partition = \"blue\"\n" ++
    "[store]\nbackend = \"redb\"\npath = \"routes.redb\"\n"

def blueConfig : Config where
  space := "room"
  defaultPartition := some "blue"
  store := some (.file "routes.redb")

def blueWorld : World where
  now := 1000
  directory := ⟨KeyMap.ofList
    [("affinity.toml", .file (.bytes (Text.Utf8.encode blueSettings.toList))),
      ("routes.redb", .file (.table (sampleTable "room")))]⟩

def blueBalancer : Balancer Nat := ⟨.master, .make .master "room" .defaultTtl, ⟨"blue"⟩, .empty, rfl⟩

theorem loadConfig_blueWorld : loadConfig blueWorld.directory "affinity.toml" = .ok blueConfig :=
  eq_ok_of_toOption (by decide +kernel)

theorem ofConfig_blueConfig : Balancer.ofConfig blueConfig = .ok blueBalancer := rfl

theorem withStore_blueWorld (work : Work) : (withStore blueWorld "affinity.toml" work).1 =
    (work blueConfig 1000 (.embedded (sampleTable "room"))).1 :=
  withStore_of_open loadConfig_blueWorld rfl rfl work

theorem tool_addresses_request_blue :
    let key := "r_room_{blue}_{7}"
    loadConfig blueWorld.directory "affinity.toml" = .ok blueConfig ∧
      called.get? Metadata.partitionField = none ∧ called.objectId = .ok 7 ∧
      (run blueWorld ⟨"affinity.toml", .get none 7⟩).1 =
        .ok ⟨key ++ " -> 10.0.0.1:9000 (ttl 60s)", []⟩ ∧
      ∃ balancer : Balancer Nat, Balancer.ofConfig blueConfig = .ok balancer ∧
        ∀ event ∈ balancer.calls Store.Embedded.perform 1000 called [east] (sampleTable "room"),
          Balancer.Asks 1000 balancer key event := by
  intro key
  have absent : called.get? Metadata.partitionField = none := by
    decide +kernel
  have named : called.objectId = .ok 7 := eq_ok_of_toOption (by decide +kernel)
  have sought : RouteKey.encode ⟨blueConfig.space, none.getD blueConfig.effectivePartition, 7⟩ = key := by
    decide +kernel
  have own : RouteKey.encode ⟨blueConfig.space, called.partitionOr blueConfig.effectivePartition, 7⟩ =
      key := by
    decide +kernel
  obtain ⟨balancer, made, gets, -, asks, -⟩ :=
    tool_addresses_request (ω := Nat) (τ := Unit) loadConfig_blueWorld absent named
  have shown : (run blueWorld ⟨"affinity.toml", .get none 7⟩).1 =
      .ok ⟨key ++ " -> 10.0.0.1:9000 (ttl 60s)", []⟩ := by
    rw [gets, sought, withStore_blueWorld]
    exact eq_ok_of_toOption (by decide +kernel)
  rw [own] at asks
  refine ⟨loadConfig_blueWorld, absent, named, shown, balancer, made, ?_⟩
  exact (asks Store.Embedded.perform 1000 [east] (sampleTable "room") (by simp)).2

theorem empty_partition_misaddressed :
    let md := called.set Metadata.partitionField ""
    let told (command : Command) := (run blueWorld ⟨"affinity.toml", command⟩).1
    loadConfig blueWorld.directory "affinity.toml" = .ok blueConfig ∧
      md.get? Metadata.partitionField = some "" ∧ md.objectId = .ok 7 ∧
      told (.get (some "") 7) = .ok ⟨"r_room_{}_{7} is not bound", []⟩ ∧
      told (.delete (some "") 7 none) = .ok ⟨"✓ Deleted r_room_{}_{7}", [deletion "" 7]⟩ ∧
      Balancer.ofConfig blueConfig = .ok blueBalancer ∧
      blueBalancer.keyFor md [east] = .ok "r_room_{blue}_{7}" ∧
      (blueBalancer.pick Store.Embedded.perform 1000 md [east] (sampleTable "room")).1 =
        .ok ⟨east, .sticky⟩ := by
  intro md told
  have carries : md.get? Metadata.partitionField = some "" := by
    decide +kernel
  have named : md.objectId = .ok 7 := eq_ok_of_toOption (by decide +kernel)
  have unbound : told (.get (some "") 7) = .ok ⟨"r_room_{}_{7} is not bound", []⟩ := by
    simp only [told, run_get loadConfig_blueWorld, withStore_blueWorld]
    exact eq_ok_of_toOption (by decide +kernel)
  have deleted : told (.delete (some "") 7 none) =
      .ok ⟨"✓ Deleted r_room_{}_{7}", [deletion "" 7]⟩ := by
    simp only [told, run_delete loadConfig_blueWorld, withStore_blueWorld]
    exact eq_ok_of_toOption (by decide +kernel)
  have keyed : blueBalancer.keyFor md [east] = .ok "r_room_{blue}_{7}" :=
    eq_ok_of_toOption (by decide +kernel)
  have sticks : (blueBalancer.pick Store.Embedded.perform 1000 md [east] (sampleTable "room")).1 =
      .ok ⟨east, .sticky⟩ :=
    eq_ok_of_toOption (by decide +kernel)
  exact ⟨loadConfig_blueWorld, carries, named, unbound, deleted, ofConfig_blueConfig, keyed, sticks⟩

end Sample

end Tool

end StickyRouting
