import StickyRouting.Proofs.Balancer.Course
import StickyRouting.Proofs.Metadata
import StickyRouting.Proofs.Picker.Selections
import StickyRouting.Proofs.RouteKey
import StickyRouting.Proofs.Store.Clocked
import Mathlib.Algebra.GroupWithZero.Nat

set_option autoImplicit false

namespace StickyRouting

namespace Node

theorem exists_at? {ω τ : Type} {candidates : List (Node ω τ)} {node : Node ω τ}
    (member : node ∈ candidates) :
    ∃ found, at? candidates node.address = some found ∧ found.address = node.address := by
  have some : (at? candidates node.address).isSome := by
    rw [at?, List.find?_isSome]
    exact ⟨node, member, by simp⟩
  obtain ⟨found, here⟩ := Option.isSome_iff_exists.1 some
  exact ⟨found, here, (mem_of_at? here).2⟩

end Node

namespace Balancer

open Store (Clocked)

variable {ω τ σ : Type} [Zero ω] [Add ω] [Sub ω] [LT ω] [DecidableLT ω] {engine : Store.Engine σ}
  {now : Nat} {balancer : Balancer ω} {md : Metadata} {candidates : List (Node ω τ)} {key : String}
  {store next last : σ}

theorem readings_lt_pick (clock : Nat → Nat) (now : Nat) {store : Clocked}
    (named : balancer.keyFor md candidates = .ok key) :
    store.readings < (balancer.pick (Clocked.perform clock) now md candidates store).2.2.readings := by
  simp only [pick, named]
  split
  next => exact Nat.lt_succ_self _
  next => exact Nat.lt_trans (Nat.lt_succ_self _) (Nat.lt_succ_self _)

theorem readings_le_pick (clock : Nat → Nat) (now : Nat) (balancer : Balancer ω) (md : Metadata)
    (candidates : List (Node ω τ)) (store : Clocked) :
    store.readings ≤ (balancer.pick (Clocked.perform clock) now md candidates store).2.2.readings := by
  cases named : balancer.keyFor md candidates with
  | error e => simp [pick, named]
  | ok key => exact Nat.le_of_lt (readings_lt_pick clock now named)

end Balancer

structure Solo (ω τ : Type) where
  balancer : Balancer ω
  candidates : List (Node ω τ)
  clock : Nat → Nat

namespace Solo

open Store (Clocked Record)
open Store.Embedded (stored)
open Metadata (objects seen FirstFor)

variable {ω τ : Type}

def key (solo : Solo ω τ) (partition : String) (objectId : Int64) : String :=
  solo.balancer.view.key partition objectId

theorem key_injective {solo : Solo ω τ} {partition : String} {a b : Int64}
    (same : solo.key partition a = solo.key partition b) :
    a = b :=
  congrArg RouteKey.objectId (RouteKey.encode_injective same)

variable [Zero ω] [Add ω] [Sub ω] [LT ω] [DecidableLT ω]

def pick (solo : Solo ω τ) (state : Balancer ω × Clocked) (md : Metadata) :
    Balancer.Outcome ω τ × Balancer ω × Clocked :=
  state.1.pick (Clocked.perform solo.clock) 0 md solo.candidates state.2

def state (solo : Solo ω τ) (requests : List Metadata) : Balancer ω × Clocked :=
  requests.foldl (fun state md => (solo.pick state md).2) (solo.balancer, ⟨0, ∅⟩)

def answer (solo : Solo ω τ) (done : List Metadata) (md : Metadata) : Balancer.Outcome ω τ :=
  (solo.pick (solo.state done) md).1

variable {solo : Solo ω τ} {requests done rest : List Metadata} {md : Metadata}
  {partition : String} {since : Nat}

theorem state_snoc (solo : Solo ω τ) (done : List Metadata) (md : Metadata) :
    solo.state (done ++ [md]) = (solo.pick (solo.state done) md).2 :=
  List.foldl_concat ..

theorem readings_le_state (solo : Solo ω τ) (done rest : List Metadata) :
    (solo.state done).2.readings ≤ (solo.state (done ++ rest)).2.readings := by
  induction rest using List.reverseRecOn with
  | nil => rw [List.append_nil]
  | append_singleton rest md ih =>
    rw [← List.append_assoc, state_snoc]
    exact Nat.le_trans ih (Balancer.readings_le_pick ..)

/-- A new master serves requests for objects of one partition. From the first reading of the clock to
the last one less than its time to live goes by. -/
structure Opens (solo : Solo ω τ) (requests : List Metadata) (partition : String)
    (since : Nat) : Prop where
  master : solo.balancer.role = .master
  fresh : solo.balancer.picker = .empty
  nonempty : solo.candidates ≠ []
  addressed : ∀ md ∈ requests, solo.balancer.filter.partition md = partition ∧
    ∃ objectId, md.objectId = .ok objectId
  timely : ∀ n < (solo.state requests).2.readings, since ≤ solo.clock n ∧
    solo.clock n < since + solo.balancer.view.ttl.millis ∧
    solo.clock n + solo.balancer.view.ttl.millis ≤ Store.lastInstant

theorem Opens.part (opens : solo.Opens (done ++ rest) partition since) :
    solo.Opens done partition since where
  master := opens.master
  fresh := opens.fresh
  nonempty := opens.nonempty
  addressed md member := opens.addressed md (List.mem_append_left _ member)
  timely n early := opens.timely n (Nat.lt_of_lt_of_le early (solo.readings_le_state done rest))

abbrev turn (solo : Solo ω τ) (n : Nat) : Option (Node ω τ) :=
  (Picker.empty : Picker ω).chosen solo.candidates n

theorem Opens.exists_turn (opens : solo.Opens requests partition since) (n : Nat) :
    ∃ node ∈ solo.candidates, solo.turn n = some node :=
  Picker.exists_chosen _ opens.nonempty n

structure Served (solo : Solo ω τ) (done : List Metadata) (partition : String)
    (since : Nat) : Prop where
  balancer : (solo.state done).1 = solo.balancer.withPicker
    ((Picker.empty : Picker ω).after solo.candidates (seen done).length)
  bound : ∀ n objectId node, (seen done)[n]? = some objectId → solo.turn n = some node →
    ∃ deadline, since + solo.balancer.view.ttl.millis ≤ deadline ∧
      stored (solo.state done).2.table (solo.key partition objectId) =
        .ok (some ⟨node.address, deadline⟩)
  others : ∀ key, (∀ objectId ∈ objects done, key ≠ solo.key partition objectId) →
    stored (solo.state done).2.table key = .ok none

theorem served_nil (fresh : solo.balancer.picker = .empty) :
    solo.Served [] partition since where
  balancer := by
    rw [seen, objects, List.filterMap_nil, List.eraseDups_nil, List.length_nil, Picker.after_zero,
      ← fresh]
    rfl
  bound n objectId node turn := by simp [seen, objects] at turn
  others key _ := rfl

theorem Opens.keyFor (opens : solo.Opens (done ++ [md]) partition since) {objectId : Int64}
    (named : md.objectId = .ok objectId) (picker : Picker ω) :
    (solo.balancer.withPicker picker).keyFor md solo.candidates =
      .ok (solo.key partition objectId) := by
  obtain ⟨same, -⟩ := opens.addressed md (by simp)
  let key : RouteKey := ⟨solo.balancer.view.space, partition, objectId⟩
  have space : solo.balancer.view.space = key.space := rfl
  exact Balancer.keyFor_of_addressed opens.nonempty space same named

theorem deadline_of_timely {now : Nat} {ttl : Duration} (after : since ≤ now)
    (early : now + ttl.millis ≤ Store.lastInstant) : since + ttl.millis ≤ Store.deadline now ttl := by
  unfold Store.deadline
  omega

section Step

variable (served : solo.Served done partition since)
  (opens : solo.Opens (done ++ [md]) partition since) {objectId : Int64}
  (named : md.objectId = .ok objectId)
include served opens named

theorem Served.readings_lt :
    (solo.state done).2.readings < (solo.state (done ++ [md])).2.readings := by
  rw [state_snoc]
  have keyed := opens.keyFor named ((Picker.empty : Picker ω).after solo.candidates (seen done).length)
  rw [← served.balancer] at keyed
  exact Balancer.readings_lt_pick _ _ keyed

theorem Served.pick_of_first (first : objectId ∉ objects done) {node : Node ω τ}
    (turn : solo.turn (seen done).length = some node) :
    let store := (solo.state done).2
    solo.pick (solo.state done) md =
      (.ok ⟨node, .claimed⟩,
        solo.balancer.withPicker
          ((Picker.empty : Picker ω).after solo.candidates ((seen done).length + 1)),
        ⟨store.readings + 2, store.table.insert (solo.key partition objectId)
          (Record.bind node.address (solo.clock (store.readings + 1))
            solo.balancer.view.ttl).encode⟩) := by
  intro store
  have here : stored store.table (solo.key partition objectId) = .ok none :=
    served.others _ fun other member same => first (key_injective same ▸ member)
  -- The picker has moved on once for each object, so that what it selects now is the turn.
  rw [pick, served.balancer]
  have master : (solo.balancer.withPicker
      ((Picker.empty : Picker ω).after solo.candidates (seen done).length)).role = .master := opens.master
  exact Balancer.pick_of_master master (opens.keyFor named _)
    (Clocked.perform_eq (Store.Embedded.perform_getRenewing_of_none here)) rfl (Prod.ext turn rfl)
    (Clocked.perform_eq (Store.Embedded.perform_claim_of_none here))

theorem Served.pick_of_again {n : Nat} {node : Node ω τ} (again : (seen done)[n]? = some objectId)
    (turn : solo.turn n = some node) :
    let store := (solo.state done).2
    ∃ found, found.address = node.address ∧ solo.pick (solo.state done) md =
      (.ok ⟨found, .sticky⟩, (solo.state done).1,
        ⟨store.readings + 1, store.table.insert (solo.key partition objectId)
          (Record.bind node.address (solo.clock store.readings)
            solo.balancer.view.ttl).encode⟩) := by
  intro store
  obtain ⟨deadline, lasting, here⟩ := served.bound n objectId node again turn
  -- The pick reads the clock itself, so that its reading is one of those that come in time.
  obtain ⟨-, early, -⟩ := opens.timely _ (served.readings_lt opens named)
  obtain ⟨same, member, chosen⟩ := opens.exists_turn n
  obtain rfl := Option.some.inj (chosen.symm.trans turn)
  obtain ⟨found, among, address⟩ := Node.exists_at? member
  have read := Store.Embedded.perform_getRenewing_of_live solo.balancer.view.ttl here
    (Nat.lt_of_lt_of_le early lasting)
  refine ⟨found, address, ?_⟩
  rw [pick, served.balancer]
  exact Balancer.pick_of_bound (opens.keyFor named _) (Clocked.perform_eq read) among

theorem Served.effect : ∃ n node reading,
    reading < (solo.state (done ++ [md])).2.readings ∧
    (seen (done ++ [md]))[n]? = some objectId ∧ solo.turn n = some node ∧
    (solo.state (done ++ [md])).1 = solo.balancer.withPicker
      ((Picker.empty : Picker ω).after solo.candidates (seen (done ++ [md])).length) ∧
    (solo.state (done ++ [md])).2.table =
      (solo.state done).2.table.insert (solo.key partition objectId)
        (Record.bind node.address (solo.clock reading) solo.balancer.view.ttl).encode := by
  rw [state_snoc]
  by_cases again : objectId ∈ objects done
  case pos =>
    obtain ⟨n, here⟩ := List.mem_iff_getElem?.1 (Metadata.mem_seen.2 again)
    obtain ⟨node, -, turn⟩ := opens.exists_turn n
    obtain ⟨found, -, picks⟩ := served.pick_of_again opens named here turn
    rw [Metadata.seen_snoc_of_mem named again, picks]
    exact ⟨n, node, (solo.state done).2.readings, Nat.lt_succ_self _, here, turn,
      served.balancer, rfl⟩
  case neg =>
    obtain ⟨node, -, turn⟩ := opens.exists_turn (seen done).length
    rw [Metadata.seen_snoc_of_not_mem named again, served.pick_of_first opens named again turn,
      List.length_append]
    exact ⟨(seen done).length, node, (solo.state done).2.readings + 1, Nat.lt_succ_self _,
      by simp, turn, rfl, rfl⟩

theorem Served.snoc : solo.Served (done ++ [md]) partition since := by
  obtain ⟨n, node, reading, early, here, turn, balancer, table⟩ := served.effect opens named
  have found (key : String) : stored (solo.state (done ++ [md])).2.table key =
      if key = solo.key partition objectId then
        .ok (some (Record.bind node.address (solo.clock reading) solo.balancer.view.ttl))
      else stored (solo.state done).2.table key := by
    rw [table, Store.Embedded.stored_insert _ _ _ _ (Store.deadline_le ..)]
  refine ⟨balancer, fun m other owner there turn' => ?bound, fun key others => ?others⟩
  case bound =>
    rw [found]
    by_cases same : other = objectId
    case pos =>
      -- No object is seen twice: its only number is that of the binding just written.
      obtain rfl := same
      obtain rfl : m = n := (List.getElem?_inj (List.getElem?_eq_some_iff.1 there).1
        (Metadata.nodup_seen _)).1 (there.trans here.symm)
      obtain rfl := Option.some.inj (turn.symm.trans turn')
      rw [if_pos rfl]
      exact ⟨_, deadline_of_timely (opens.timely _ early).1 (opens.timely _ early).2.2, rfl⟩
    case neg =>
      rw [if_neg (mt key_injective same)]
      exact served.bound m other owner (Metadata.getElem?_seen_of_snoc named there same) turn'
  case others =>
    rw [found, if_neg (others _ (by simp [Metadata.objects_snoc named]))]
    exact served.others key fun other member =>
      others other (by simp [Metadata.objects_snoc named, member])

end Step

theorem Opens.served (opens : solo.Opens requests partition since) :
    solo.Served requests partition since := by
  induction requests using List.reverseRecOn with
  | nil => exact served_nil opens.fresh
  | append_singleton done md ih =>
    obtain ⟨-, objectId, named⟩ := opens.addressed md (by simp)
    exact (ih opens.part).snoc opens named

theorem Opens.answer_of_first {earlier : List Metadata} {objectId : Int64}
    (opens : solo.Opens requests partition since)
    (first : FirstFor requests earlier md objectId) :
    ∃ node, solo.turn (seen earlier).length = some node ∧
      solo.answer earlier md = .ok ⟨node, .claimed⟩ := by
  obtain ⟨later, rfl⟩ := first.among
  obtain ⟨node, -, turn⟩ := opens.exists_turn (seen earlier).length
  have picks := opens.part.part.served.pick_of_first opens.part first.named first.first turn
  exact ⟨node, turn, by rw [answer, picks]⟩

theorem Opens.answer_of_again {earlier : List Metadata} {objectId : Int64}
    (opens : solo.Opens requests partition since) (among : earlier ++ [md] <+: requests)
    (named : md.objectId = .ok objectId) (again : objectId ∈ objects earlier) :
    ∃ before first claimed node, FirstFor earlier before first objectId ∧
      solo.answer before first = .ok ⟨claimed, .claimed⟩ ∧
      solo.answer earlier md = .ok ⟨node, .sticky⟩ ∧ node.address = claimed.address ∧
      (solo.state (earlier ++ [md])).1 = (solo.state earlier).1 := by
  obtain ⟨later, rfl⟩ := among
  obtain ⟨before, first, here⟩ := Metadata.exists_firstFor again
  obtain ⟨claimed, turn, claims⟩ := opens.part.part.answer_of_first here
  obtain ⟨node, address, picks⟩ :=
    opens.part.part.served.pick_of_again opens.part named here.seen_eq turn
  exact ⟨before, first, claimed, node, here, claims, by rw [answer, picks], address,
    by rw [state_snoc, picks]⟩

theorem Opens.look_of_first {earlier : List Metadata} {objectId : Int64} {node : Node ω τ} {now : Nat}
    (opens : solo.Opens requests partition since)
    (first : FirstFor requests earlier md objectId)
    (claims : solo.answer earlier md = .ok ⟨node, .claimed⟩)
    (early : now < since + solo.balancer.view.ttl.millis) :
    Store.Embedded.look now (solo.state requests).2.table (solo.key partition objectId) =
      .ok (some node.address) := by
  obtain ⟨given, turn, same⟩ := opens.answer_of_first first
  obtain rfl : given = node := by
    injection same.symm.trans claims with picked
    exact congrArg (·.node) picked
  obtain ⟨deadline, lasting, here⟩ := opens.served.bound _ objectId given first.seen_eq turn
  exact Store.Embedded.look_of_live here (Nat.lt_of_lt_of_le early lasting)

theorem Opens.look_eq (opens : solo.Opens requests partition since) {now : Nat}
    (early : now < since + solo.balancer.view.ttl.millis) (key : String) :
    ∃ held, Store.Embedded.look now (solo.state requests).2.table key = .ok held ∧
      ∀ address, held = some address ↔ ∃ earlier md objectId node,
        FirstFor requests earlier md objectId ∧ solo.key partition objectId = key ∧
        solo.answer earlier md = .ok ⟨node, .claimed⟩ ∧ node.address = address := by
  by_cases known : ∃ objectId ∈ objects requests, solo.key partition objectId = key
  case pos =>
    obtain ⟨objectId, member, rfl⟩ := known
    obtain ⟨earlier, md, first⟩ := Metadata.exists_firstFor member
    obtain ⟨node, turn, claims⟩ := opens.answer_of_first first
    have held := opens.look_of_first first claims early
    refine ⟨some node.address, held, fun address => ⟨fun same => ?_, ?_⟩⟩
    · exact ⟨earlier, md, objectId, node, first, rfl, claims, Option.some.inj same⟩
    · rintro ⟨earlier', md', other, node', first', same, claims', rfl⟩
      have held' := opens.look_of_first first' claims' early
      rw [same, held] at held'
      exact Except.ok.inj held'
  case neg =>
    have here := opens.served.others key fun objectId member same =>
      known ⟨objectId, member, same.symm⟩
    refine ⟨none, Store.Embedded.look_of_none here, fun address => ⟨nofun, ?_⟩⟩
    rintro ⟨earlier, md, objectId, node, first, same, -, -⟩
    exact absurd ⟨objectId, first.mem, same⟩ known

/-- Requests for new objects get what a new picker selects one after another; those for an object seen
before get its node and leave the picker alone. -/
theorem first_picks_follow_picker (opens : solo.Opens requests partition since) :
    (∀ earlier md objectId, FirstFor requests earlier md objectId →
      ∃ node, (Picker.empty : Picker ω).chosen solo.candidates (seen earlier).length = some node ∧
        solo.answer earlier md = .ok ⟨node, .claimed⟩) ∧
    (∀ earlier md objectId, earlier ++ [md] <+: requests → md.objectId = .ok objectId →
      objectId ∈ objects earlier → ∃ before first claimed node,
        FirstFor earlier before first objectId ∧
        solo.answer before first = .ok ⟨claimed, .claimed⟩ ∧
        solo.answer earlier md = .ok ⟨node, .sticky⟩ ∧ node.address = claimed.address ∧
        (solo.state (earlier ++ [md])).1 = (solo.state earlier).1) ∧
    ∀ now < since + solo.balancer.view.ttl.millis, ∀ key,
      ∃ held, Store.Embedded.look now (solo.state requests).2.table key = .ok held ∧
        ∀ address, held = some address ↔ ∃ earlier md objectId node,
          FirstFor requests earlier md objectId ∧ solo.key partition objectId = key ∧
          solo.answer earlier md = .ok ⟨node, .claimed⟩ ∧ node.address = address :=
  ⟨fun _ _ _ => opens.answer_of_first, fun _ _ _ => opens.answer_of_again,
    fun _ early => opens.look_eq early⟩

def visit (objectId : String) : Metadata := Metadata.empty.set Metadata.objectIdField objectId

def visits : List Metadata := [visit "99", visit "7", visit "99"]

def light : Node Nat Unit := ⟨"10.0.0.1:9000", 1, "blue", ()⟩

def heavy : Node Nat Unit := ⟨"10.0.0.2:9000", 2, "blue", ()⟩

def opening : Solo Nat Unit where
  balancer := ⟨.master, .make .master "hall" (.ofMillis 10), ⟨"blue"⟩, .empty, rfl⟩
  candidates := [light, heavy]
  clock n := 100 + n

theorem opens_visits : opening.Opens visits "blue" 100 where
  master := rfl
  fresh := rfl
  nonempty := nofun
  addressed md member := by
    simp only [visits, List.mem_cons, List.not_mem_nil, or_false] at member
    rcases member with rfl | rfl | rfl
    · exact ⟨rfl, 99, rfl⟩
    · exact ⟨rfl, 7, rfl⟩
    · exact ⟨rfl, 99, rfl⟩
  timely n early := by
    have readings : (opening.state visits).2.readings = 5 := by decide +kernel
    have ttl : opening.balancer.view.ttl.millis = 10 := by decide
    have reach : 114 ≤ Store.lastInstant := by decide
    rw [readings] at early
    rw [ttl]
    simp only [opening]
    omega

theorem first_picks_follow_picker_opening :
    opening.Opens visits "blue" 100 ∧ FirstFor visits [visit "99"] (visit "7") 7 ∧
      opening.answer [visit "99"] (visit "7") = .ok ⟨light, .claimed⟩ ∧
      [visit "99", visit "7"] ++ [visit "99"] <+: visits ∧ 99 ∈ objects [visit "99", visit "7"] ∧
      (∃ node, opening.answer [visit "99", visit "7"] (visit "99") = .ok ⟨node, .sticky⟩) ∧
      109 < 100 + opening.balancer.view.ttl.millis ∧
      Store.Embedded.look 109 (opening.state visits).2.table (opening.key "blue" 7) =
        .ok (some light.address) := by
  have second : FirstFor visits [visit "99"] (visit "7") 7 :=
    ⟨⟨[visit "99"], rfl⟩, rfl, by decide⟩
  have again : 99 ∈ objects [visit "99", visit "7"] := by decide
  have ends : 109 < 100 + opening.balancer.view.ttl.millis := by decide
  obtain ⟨firsts, repeats, table⟩ := first_picks_follow_picker opens_visits
  obtain ⟨node, turn, claimed⟩ := firsts _ _ _ second
  obtain rfl : light = node := Option.some.inj turn
  obtain ⟨-, -, -, node, -, -, sticky, -, -⟩ := repeats _ _ _ List.prefix_rfl rfl again
  obtain ⟨held, looks, binds⟩ := table 109 ends (opening.key "blue" 7)
  obtain rfl := (binds light.address).2 ⟨_, _, 7, light, second, rfl, claimed, rfl⟩
  exact ⟨opens_visits, second, claimed, List.prefix_rfl, again, ⟨node, sticky⟩, ends, looks⟩

end Solo

end StickyRouting
