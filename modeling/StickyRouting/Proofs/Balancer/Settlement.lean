import StickyRouting.Proofs.Balancer.Course
import StickyRouting.Proofs.Store.Clocked
import StickyRouting.Proofs.Store.Holding
import StickyRouting.Proofs.Store.Readable

set_option autoImplicit false

namespace StickyRouting

namespace Store.Embedded

structure Rebound (now : Nat) (key value : String) (ttl : Duration) (table left : Table) : Prop where
  bound : stored left key = .ok (some (.bind value now ttl))
  others : ∀ other, other ≠ key → stored left other = stored table other

theorem rebound_insert {now : Nat} {key : String} {table left : Table} (value : String) (ttl : Duration)
    (same : ∀ other, other ≠ key → stored left other = stored table other) :
    Rebound now key value ttl table (left.insert key (Record.bind value now ttl).encode) where
  bound := by rw [stored_insert _ _ _ _ (deadline_le ..), if_pos rfl]
  others other differs := by
    rw [stored_insert _ _ _ _ (deadline_le ..), if_neg differs, same other differs]

namespace Rebound

variable {now : Nat} {key value : String} {ttl : Duration} {table left : Table}

theorem get (rebound : Rebound now key value ttl table left) (lasting : 1 ≤ ttl.millis)
    (early : now < lastInstant) : (perform now (.get key) left).1 = .ok (some value) :=
  look_of_live rebound.bound (lt_deadline lasting early)

theorem get_eq (rebound : Rebound now key value ttl table left) (lasting : 1 ≤ ttl.millis)
    (early : now < lastInstant) {r : Record} (here : stored table key = .ok (some r))
    (alive : now < r.deadline) (same : r.value = value) (name : String) :
    (perform now (.get name) left).1 = (perform now (.get name) table).1 := by
  by_cases about : name = key
  next =>
    subst about
    rw [rebound.get lasting early]
    exact (same ▸ look_of_live here alive).symm
  next => simp only [perform, look, rebound.others name about]

end Rebound

end Store.Embedded

namespace Balancer

open Store (Table Record lastInstant)
open Store.Embedded (Holds Readable Rebound live perform rebound_insert stored)

variable {ω τ : Type} {now : Nat} {balancer : Balancer ω} {md : Metadata} {candidates : List (Node ω τ)}
  {key : String} {table : Table}

/-- There is nothing to choose: no candidate, no object, or a live entry that names a candidate. -/
def Decided (now : Nat) (balancer : Balancer ω) (md : Metadata) (candidates : List (Node ω τ))
    (table : Table) : Prop :=
  candidates = [] ∨ (∃ cause, md.objectId = .error cause) ∨
    ∃ objectId node, md.objectId = .ok objectId ∧ node ∈ candidates ∧ Holds now table
      (RouteKey.encode ⟨balancer.view.space, balancer.filter.partition md, objectId⟩) node.address

theorem decided_of_refused {e : PickError} (refused : balancer.keyFor md candidates = .error e) :
    Decided now balancer md candidates table := by
  rcases keyFor_eq_error_iff.1 refused with ⟨none, -⟩ | ⟨-, cause, unnamed, -⟩
  · exact .inl none
  · exact .inr (.inl ⟨cause, unnamed⟩)

theorem decided_iff (named : balancer.keyFor md candidates = .ok key) :
    Decided now balancer md candidates table ↔ ∃ node ∈ candidates, Holds now table key node.address := by
  obtain ⟨nonempty, objectId, object, rfl⟩ := keyFor_eq_ok_iff.1 named
  simp [Decided, nonempty, object]

section Settles

variable [Zero ω] [Add ω] [Sub ω] [LT ω] [DecidableLT ω]

inductive Settles (balancer : Balancer ω) (key : String) (candidates : List (Node ω τ)) :
    Option Record → Outcome ω τ → Picker ω → String → Prop where
  | kept {r : Record} {node : Node ω τ} (found : Node.at? candidates r.value = some node) :
      Settles balancer key candidates (some r) (.ok ⟨node, .sticky⟩) balancer.picker r.value
  | refused {r : Record} (absent : Node.at? candidates r.value = none) :
      Settles balancer key candidates (some r) (.error (.outsider key r.value))
        (balancer.picker.select candidates).2 r.value
  | bound {node : Node ω τ} (member : node ∈ candidates)
      (chose : (balancer.picker.select candidates).1 = some node) :
      Settles balancer key candidates none (.ok ⟨node, .claimed⟩)
        (balancer.picker.select candidates).2 node.address

theorem exists_settles (master : balancer.role = .master)
    (named : balancer.keyFor md candidates = .ok key) (lasting : 1 ≤ balancer.view.ttl.millis)
    (early : now < lastInstant) {before : Option Record} (here : stored table key = .ok before) :
    ∃ outcome picker value left,
      balancer.pick perform now md candidates table = (outcome, balancer.withPicker picker, left) ∧
        Settles balancer key candidates (live now before) outcome picker value ∧
        Rebound now key value balancer.view.ttl table left := by
  obtain ⟨node, member, chose⟩ := balancer.picker.exists_select (keyFor_eq_ok_iff.1 named).1
  have selected : balancer.picker.select candidates = (some node, _) := Prod.ext chose rfl
  cases found : live now before with
  | some r =>
    obtain ⟨rfl, alive⟩ := Store.Embedded.live_eq_some_iff.1 found
    have read := Store.Embedded.perform_getRenewing_of_live balancer.view.ttl here alive
    have rebound : Rebound now key r.value balancer.view.ttl table _ :=
      rebound_insert r.value balancer.view.ttl fun _ _ => rfl
    cases among : Node.at? candidates r.value with
    | some node => exact ⟨_, _, _, _, pick_of_bound named read among, .kept among, rebound⟩
    | none =>
      -- The claim comes upon the entry that the read has just renewed.
      have lost := Store.Embedded.perform_claim_of_live node.address balancer.view.ttl rebound.bound
        (Store.Embedded.lt_deadline lasting early)
      have picks := pick_of_master master named read among selected lost
      exact ⟨_, _, _, _, picks, afterClaim_of_absent among ▸ .refused among, rebound⟩
  | none =>
    obtain ⟨left, read, stores⟩ :=
      Store.Embedded.exists_perform_getRenewing_of_lapsed here found balancer.view.ttl
    have claimed : perform now (.claim key node.address balancer.view.ttl) left = _ :=
      Store.Embedded.perform_claim_of_none ((stores key).trans (if_pos rfl))
    exact ⟨_, _, _, _, pick_of_master master named read rfl selected claimed, .bound member chose,
      rebound_insert _ _ fun other differs => (stores other).trans (if_neg differs)⟩

variable {entry : Option Record} {outcome : Outcome ω τ} {picker : Picker ω} {value : String}

theorem Settles.answered {node : Node ω τ} {source : Source}
    (settles : Settles balancer key candidates entry (.ok ⟨node, source⟩) picker value) :
    node ∈ candidates ∧ (source = .sticky ∨ source = .claimed) ∧ node.address = value := by
  cases settles with
  | kept found =>
    obtain ⟨member, same⟩ := Node.mem_of_at? found
    exact ⟨member, .inl rfl, same⟩
  | bound member chose => exact ⟨member, .inr rfl, rfl⟩

theorem Settles.failed {e : PickError}
    (settles : Settles balancer key candidates entry (.error e) picker value) :
    ∃ r, entry = some r ∧ r.value = value := by
  cases settles with
  | refused absent => exact ⟨_, rfl, rfl⟩

theorem Settles.moves (settles : Settles balancer key candidates entry outcome picker value)
    (nonempty : candidates ≠ []) :
    let names := ∃ node ∈ candidates, ∃ r, entry = some r ∧ r.value = node.address
    (picker = balancer.picker ↔ names) ∧ (¬ names → picker = (balancer.picker.select candidates).2) := by
  intro names
  -- A selection may leave every score as it was, but it is counted.
  have advanced : (balancer.picker.select candidates).2 ≠ balancer.picker := by
    intro same
    have ticks := balancer.picker.tick_select nonempty
    rw [same] at ticks
    exact Nat.ne_of_lt (Nat.lt_succ_self _) ticks
  cases settles with
  | kept found =>
    obtain ⟨member, same⟩ := Node.mem_of_at? found
    have here : names := ⟨_, member, _, rfl, same.symm⟩
    exact ⟨iff_of_true rfl here, fun none => absurd here none⟩
  | refused absent =>
    have none : ¬ names := by
      rintro ⟨node, member, r, ⟨⟩, same⟩
      exact Node.at?_eq_none_iff.1 absent node member same.symm
    exact ⟨iff_of_false advanced none, fun _ => rfl⟩
  | bound member chose =>
    have none : ¬ names := by
      rintro ⟨node, member, r, ⟨⟩, same⟩
    exact ⟨iff_of_false advanced none, fun _ => rfl⟩

/-- A pick that fails changes no binding; the picker goes on by one selection just when there is
something to choose. -/
theorem pick_agrees_with_table (readable : Readable table) (master : balancer.role = .master)
    (lasting : 1 ≤ balancer.view.ttl.millis) (fits : now + balancer.view.ttl.millis ≤ lastInstant)
    (md : Metadata) (candidates : List (Node ω τ)) :
    let outcome := (balancer.pick perform now md candidates table).1
    let after := (balancer.pick perform now md candidates table).2.1
    let left := (balancer.pick perform now md candidates table).2.2
    (∀ node source, outcome = .ok ⟨node, source⟩ →
        node ∈ candidates ∧ (source = .sticky ∨ source = .claimed) ∧
        ∃ objectId, md.objectId = .ok objectId ∧
          let key := RouteKey.encode ⟨balancer.view.space, balancer.filter.partition md, objectId⟩
          stored left key = .ok (some ⟨node.address, now + balancer.view.ttl.millis⟩) ∧
            (perform now (.get key) left).1 = .ok (some node.address)) ∧
      (∀ e, outcome = .error e →
        ∀ key, (perform now (.get key) left).1 = (perform now (.get key) table).1) ∧
      ∃ picker, after = balancer.withPicker picker ∧
        (picker = balancer.picker ↔ Decided now balancer md candidates table) ∧
        (¬ Decided now balancer md candidates table →
          picker = (balancer.picker.select candidates).2) := by
  intro outcome after left
  have early : now < lastInstant := by omega
  cases named : balancer.keyFor md candidates with
  | error e =>
    have decided : Decided now balancer md candidates table := decided_of_refused named
    simp only [outcome, after, left, pick, named]
    exact ⟨by simp, fun _ _ _ => trivial, balancer.picker, rfl, iff_of_true rfl decided,
      fun something => absurd decided something⟩
  | ok key =>
    -- The record of the key decides how the pick ends; no other record takes part.
    obtain ⟨before, here⟩ := readable key
    obtain ⟨_, picker, value, _, picks, settles, rebound⟩ :=
      exists_settles master named lasting early here
    obtain ⟨nonempty, objectId, object, spelled⟩ := keyFor_eq_ok_iff.1 named
    have moves := settles.moves nonempty
    simp only [← Store.Embedded.holds_iff_live here, ← decided_iff named] at moves
    simp only [outcome, after, left, picks]
    refine ⟨fun node source answered => ?_, fun e failed => ?_, picker, rfl, moves⟩
    next =>
      subst answered
      obtain ⟨member, which, rfl⟩ := settles.answered
      have ends : Store.deadline now balancer.view.ttl = now + balancer.view.ttl.millis :=
        Nat.min_eq_left fits
      refine ⟨member, which, objectId, object, ?_⟩
      rw [spelled, ← ends]
      exact ⟨rebound.bound, rebound.get lasting early⟩
    next =>
      subst failed
      obtain ⟨r, found, same⟩ := settles.failed
      obtain ⟨rfl, alive⟩ := Store.Embedded.live_eq_some_iff.1 found
      exact rebound.get_eq lasting early here alive same

end Settles

section Lapsed

def passing : Table := KeyMap.insert ∅ "r_room_{blue}_{7}" (Record.encode ⟨"10.0.0.9:9000", 500⟩)

theorem stored_passing : stored passing "r_room_{blue}_{7}" = .ok (some ⟨"10.0.0.9:9000", 500⟩) :=
  (Store.Embedded.stored_insert ∅ _ _ ⟨"10.0.0.9:9000", 500⟩ (by decide)).trans (if_pos rfl)

theorem readable_passing : Readable passing :=
  Store.Embedded.readable_insert Store.Embedded.readable_empty _ (by decide)

theorem pick_agrees_with_table_passing :
    let key := "r_room_{blue}_{7}"
    let early := caller.pick perform 400 called [east, west] passing
    let late := caller.pick perform 1_000 called [east, west] passing
    Readable passing ∧ caller.role = .master ∧ 1 ≤ caller.view.ttl.millis ∧
      400 + caller.view.ttl.millis ≤ lastInstant ∧ 1_000 + caller.view.ttl.millis ≤ lastInstant ∧
      early.1 = .error (.outsider key "10.0.0.9:9000") ∧
      (perform 400 (.get key) early.2.2).1 = .ok (some "10.0.0.9:9000") ∧
      late.1 = .ok ⟨east, .claimed⟩ ∧
      stored late.2.2 key = .ok (some ⟨"10.0.0.1:9000", 6_000⟩) := by
  intro key early late
  have fits : 400 + caller.view.ttl.millis ≤ lastInstant := by decide
  have fits' : 1_000 + caller.view.ttl.millis ≤ lastInstant := by decide
  have refused : early.1 = .error (.outsider key "10.0.0.9:9000") := by decide +kernel
  have claimed : late.1 = .ok ⟨east, .claimed⟩ := by decide +kernel
  obtain ⟨-, fails, -⟩ :=
    pick_agrees_with_table readable_passing rfl (by decide) fits called [east, west]
  obtain ⟨answers, -, -⟩ :=
    pick_agrees_with_table readable_passing rfl (by decide) fits' called [east, west]
  obtain ⟨-, -, objectId, object, bound, -⟩ := answers east .claimed claimed
  obtain rfl : objectId = 7 := Except.ok.inj object.symm
  have kept : (perform 400 (.get key) early.2.2).1 = .ok (some "10.0.0.9:9000") :=
    (fails _ refused key).trans (Store.Embedded.look_of_live stored_passing (by decide))
  exact ⟨readable_passing, rfl, by decide, fits, fits', refused, kept, claimed, bound⟩

end Lapsed

end Balancer

end StickyRouting
