import StickyRouting.Proofs.Balancer.Course

set_option autoImplicit false

namespace StickyRouting

namespace Metadata

/-- The request is for this partition: the one that it names, if that is not empty, or else the fallback. -/
inductive IsFor (md : Metadata) (fallback : String) : String → Prop where
  | named {partition : String} (named : md.get? partitionField = some partition)
      (nonempty : partition ≠ "") : IsFor md fallback partition
  | unnamed (unnamed : md.get? partitionField = none) : IsFor md fallback fallback
  | empty (empty : md.get? partitionField = some "") : IsFor md fallback fallback

theorem isFor_iff {md : Metadata} {fallback partition : String} :
    md.IsFor fallback partition ↔ md.partitionOr fallback = partition := by
  constructor
  case mp =>
    intro isFor
    cases isFor with
    | named named nonempty => simp [partitionOr, named, nonempty]
    | unnamed unnamed => simp [partitionOr, unnamed]
    | empty empty => simp [partitionOr, empty]
  case mpr =>
    rintro rfl
    cases field : md.get? partitionField with
    | none => simpa [partitionOr, field] using IsFor.unnamed field
    | some name =>
      by_cases blank : name = ""
      case pos => simpa [partitionOr, field, blank] using IsFor.empty (blank ▸ field)
      case neg => simpa [partitionOr, field, blank] using IsFor.named field blank

end Metadata

namespace PartitionFilter

variable {ω τ : Type} {filter : PartitionFilter} {md : Metadata} {partition : String}
  {roster : List (Node ω τ)}

theorem candidates_eq (isFor : md.IsFor filter.fallback partition) (roster : List (Node ω τ)) :
    filter.candidates md roster = roster.filter (·.partition = partition) := by
  rw [candidates, PartitionFilter.partition, Metadata.isFor_iff.1 isFor]

theorem mem_candidates (isFor : md.IsFor filter.fallback partition) {node : Node ω τ} :
    node ∈ filter.candidates md roster ↔ node ∈ roster ∧ node.partition = partition := by
  simp [candidates_eq isFor]

end PartitionFilter

namespace Balancer

variable {ω τ σ : Type} [Zero ω] [Add ω] [Sub ω] [LT ω] [DecidableLT ω] {balancer : Balancer ω}
  {md : Metadata} {partition : String}

theorem mem_of_pick {engine : Store.Engine σ} {now : Nat} {candidates : List (Node ω τ)} {store : σ}
    {node : Node ω τ} {source : Source}
    (picks : (balancer.pick engine now md candidates store).1 = .ok ⟨node, source⟩) :
    node ∈ candidates := by
  cases named : balancer.keyFor md candidates with
  | error e => simp [pick, named] at picks
  | ok key => exact (sound_of_keyFor named engine now store).candidate node source picks

theorem asks_of_mem_calls {engine : Store.Engine σ} {now : Nat} {candidates : List (Node ω τ)} {store : σ}
    {event : Store.Event} (asked : event ∈ balancer.calls engine now md candidates store) :
    ∃ objectId, md.objectId = .ok objectId ∧ Asks now balancer
      (RouteKey.encode ⟨balancer.view.space, balancer.filter.partition md, objectId⟩) event := by
  cases named : balancer.keyFor md candidates with
  | error e => simp [calls_of_refused named] at asked
  | ok key =>
    obtain ⟨-, objectId, object, rfl⟩ := keyFor_eq_ok_iff.1 named
    exact ⟨objectId, object, (sound_of_keyFor named engine now store).asks.2 event asked⟩

/-- A selection for a partition knows of a roster no more than the nodes of that partition. -/
theorem select_within_partition (isFor : md.IsFor balancer.filter.fallback partition)
    (engine : Store.Engine σ) (now : Nat) (roster : List (Node ω τ)) (store : σ) :
    let outcome := (balancer.select engine now md roster store).1
    let log := (balancer.select (Store.recorded engine) now md roster ([], store)).2.2.1
    (∀ other : List (Node ω τ),
        roster.filter (·.partition = partition) = other.filter (·.partition = partition) →
          balancer.select engine now md roster store = balancer.select engine now md other store) ∧
      (∀ node source, outcome = .ok ⟨node, source⟩ → node ∈ roster ∧ node.partition = partition) ∧
      (∀ event ∈ log, ∃ objectId, md.objectId = .ok objectId ∧
        Asks now balancer (RouteKey.encode ⟨balancer.view.space, partition, objectId⟩) event) ∧
      ((∀ node ∈ roster, node.partition ≠ partition) →
        balancer.select engine now md roster store = (.error .noNode, balancer, store)) := by
  intro outcome log
  have fits : balancer.filter.partition md = partition := Metadata.isFor_iff.1 isFor
  refine ⟨fun other same => ?_, fun node source picks => ?_, fun event asked => ?_, fun foreign => ?_⟩
  next =>
    simp only [select, PartitionFilter.candidates_eq isFor, same]
  next => exact (PartitionFilter.mem_candidates isFor).1 (mem_of_pick picks)
  next =>
    obtain ⟨objectId, object, asks⟩ := asks_of_mem_calls asked
    exact ⟨objectId, object, fits ▸ asks⟩
  next =>
    have none : balancer.filter.candidates md roster = [] := by
      simpa [PartitionFilter.candidates_eq isFor] using foreign
    simp [select, pick, keyFor, none]

def north : Node Nat Unit := ⟨"10.0.0.3:9000", 100, "red", ()⟩

theorem select_within_partition_foreign :
    let alone := caller.select contradictory 0 called [east, west] ()
    called.IsFor caller.filter.fallback "blue" ∧
      [north, east, west].filter (·.partition = "blue") = [east, west].filter (·.partition = "blue") ∧
      caller.select contradictory 0 called [north, east, west] () = alone ∧
      alone.1 = .ok ⟨west, .adopted⟩ ∧ west.partition = "blue" ∧
      (∀ node ∈ [north], node.partition ≠ "blue") ∧
      caller.select contradictory 0 called [north] () = (.error .noNode, caller, ()) := by
  intro alone
  have isFor : called.IsFor caller.filter.fallback "blue" := .unnamed rfl
  have same : [north, east, west].filter (·.partition = "blue") =
      [east, west].filter (·.partition = "blue") := by
    decide
  have adopted : alone.1 = .ok ⟨west, .adopted⟩ := by
    decide +kernel
  have foreign : ∀ node ∈ [north], node.partition ≠ "blue" := by
    decide
  obtain ⟨within, -, -, -⟩ := select_within_partition isFor contradictory 0 [north, east, west] ()
  obtain ⟨-, tagged, -, -⟩ := select_within_partition isFor contradictory 0 [east, west] ()
  obtain ⟨-, -, -, none⟩ := select_within_partition isFor contradictory 0 [north] ()
  exact ⟨isFor, same, within _ same, adopted, (tagged west .adopted adopted).2, foreign, none foreign⟩

end Balancer

end StickyRouting
