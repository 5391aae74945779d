import StickyRouting.Metadata
import Mathlib.Data.List.Induction
import Mathlib.Data.List.Nodup

set_option autoImplicit false

namespace StickyRouting.Metadata

def objects (requests : List Metadata) : List Int64 :=
  requests.filterMap fun md => md.objectId.toOption

def seen (requests : List Metadata) : List Int64 := (objects requests).eraseDups

variable {requests done : List Metadata} {md : Metadata} {objectId : Int64}

theorem mem_objects : objectId ∈ objects requests ↔ ∃ md ∈ requests, md.objectId = .ok objectId := by
  rw [objects, List.mem_filterMap]
  refine exists_congr fun md => and_congr_right fun _ => ?_
  cases md.objectId <;> simp [Except.toOption]

theorem mem_seen : objectId ∈ seen requests ↔ objectId ∈ objects requests := List.mem_eraseDups

theorem objects_snoc (named : md.objectId = .ok objectId) :
    objects (done ++ [md]) = objects done ++ [objectId] := by
  simp [objects, named, Except.toOption]

theorem seen_snoc_of_mem (named : md.objectId = .ok objectId) (member : objectId ∈ objects done) :
    seen (done ++ [md]) = seen done := by
  rw [seen, objects_snoc named, List.eraseDups_append]
  simp [List.removeAll, member, seen]

theorem seen_snoc_of_not_mem (named : md.objectId = .ok objectId) (first : objectId ∉ objects done) :
    seen (done ++ [md]) = seen done ++ [objectId] := by
  rw [seen, objects_snoc named, List.eraseDups_append]
  simp [List.removeAll, first, seen, List.eraseDups_cons]

theorem nodup_seen (requests : List Metadata) : (seen requests).Nodup := by
  induction requests using List.reverseRecOn with
  | nil => exact List.nodup_nil
  | append_singleton done md ih =>
    cases named : md.objectId with
    | error e => simpa [seen, objects, named, Except.toOption] using ih
    | ok objectId =>
      by_cases again : objectId ∈ objects done
      case pos => rwa [seen_snoc_of_mem named again]
      case neg =>
        rw [seen_snoc_of_not_mem named again, ← List.concat_eq_append]
        exact ih.concat (mt mem_seen.1 again)

theorem getElem?_seen_of_snoc {n : Nat} {other : Int64} (named : md.objectId = .ok objectId)
    (here : (seen (done ++ [md]))[n]? = some other) (differs : other ≠ objectId) :
    (seen done)[n]? = some other := by
  by_cases again : objectId ∈ objects done
  case pos => rwa [seen_snoc_of_mem named again] at here
  case neg =>
    rw [seen_snoc_of_not_mem named again] at here
    by_cases early : n < (seen done).length
    case pos => rwa [List.getElem?_append_left early] at here
    case neg =>
      rw [List.getElem?_append_right (Nat.le_of_not_lt early)] at here
      exact absurd (List.mem_singleton.1 (List.mem_of_getElem? here)) differs

structure FirstFor (requests earlier : List Metadata) (md : Metadata) (objectId : Int64) : Prop where
  among : earlier ++ [md] <+: requests
  named : md.objectId = .ok objectId
  first : objectId ∉ objects earlier

theorem FirstFor.seen_eq {earlier : List Metadata}
    (first : FirstFor requests earlier md objectId) :
    (seen requests)[(seen earlier).length]? = some objectId := by
  obtain ⟨later, rfl⟩ := first.among
  rw [seen, objects, List.filterMap_append, List.eraseDups_append]
  change (seen (earlier ++ [md]) ++ _)[_]? = _
  rw [seen_snoc_of_not_mem first.named first.first]
  simp

theorem FirstFor.mem {earlier : List Metadata} (first : FirstFor requests earlier md objectId) :
    objectId ∈ objects requests :=
  mem_seen.1 (List.mem_of_getElem? first.seen_eq)

theorem exists_firstFor (member : objectId ∈ objects requests) :
    ∃ earlier md, FirstFor requests earlier md objectId := by
  induction requests using List.reverseRecOn with
  | nil => cases member
  | append_singleton done md ih =>
    by_cases before : objectId ∈ objects done
    case pos =>
      obtain ⟨earlier, first, here⟩ := ih before
      exact ⟨earlier, first, here.among.trans (List.prefix_append ..), here.named, here.first⟩
    case neg =>
      obtain ⟨other, either, named⟩ := mem_objects.1 member
      rcases List.mem_append.1 either with among | last
      · exact absurd (mem_objects.2 ⟨other, among, named⟩) before
      · obtain rfl := List.mem_singleton.1 last
        exact ⟨done, other, List.prefix_rfl, named, before⟩

end StickyRouting.Metadata
