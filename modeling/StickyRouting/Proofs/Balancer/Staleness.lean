import Mathlib.Algebra.GroupWithZero.Nat
import StickyRouting.Proofs.Balancer.Course
import StickyRouting.Proofs.Picker.Selections
import StickyRouting.Proofs.Store.Clocked

/-!
A pick renews the binding before it looks for the node, and a master that does not find it claims in
vain, so that picks that follow each other soon enough keep a stale binding for good.
-/

set_option autoImplicit false

namespace StickyRouting

variable {ω τ : Type}

namespace Stale

open Store (Clocked Record Table lastInstant)
open Store.Embedded (stored)

/-- A pick by a balancer as it stands then, whatever its picker holds. The table is read at one instant;
a master claims at another. -/
structure Pick (ω τ : Type) where
  balancer : Balancer ω
  md : Metadata
  candidates : List (Node ω τ)
  reads : Nat
  claims : Nat

namespace Pick

def due (pick : Pick ω τ) : Nat := pick.reads + pick.balancer.view.ttl.millis

def clock (pick : Pick ω τ) : Nat → Nat
  | 0 => pick.reads
  | _ + 1 => pick.claims

structure Misses (pick : Pick ω τ) (key : RouteKey) (address : String) : Prop where
  space : pick.balancer.view.space = key.space
  partition : pick.balancer.filter.partition pick.md = key.partition
  object : pick.md.objectId = .ok key.objectId
  nonempty : pick.candidates ≠ []
  outside : ∀ node ∈ pick.candidates, node.address ≠ address
  fits : pick.due ≤ lastInstant
  prompt : pick.claims < pick.due

end Pick

def Steady : Nat → List (Pick ω τ) → Prop
  | _, [] => True
  | due, pick :: rest => pick.reads < due ∧ Steady pick.due rest

section Runs

variable [Zero ω] [Add ω] [Sub ω] [LT ω] [DecidableLT ω]

def Pick.serve (pick : Pick ω τ) (table : Table) : Balancer.Outcome ω τ × Table :=
  let (outcome, _, store) :=
    pick.balancer.pick (Clocked.perform pick.clock) pick.reads pick.md pick.candidates ⟨0, table⟩
  (outcome, store.table)

def after (table : Table) (picks : List (Pick ω τ)) : Table :=
  picks.foldl (fun table pick => (pick.serve table).2) table

structure Refreshed (key : RouteKey) (address : String) (pick : Pick ω τ)
    (served : Balancer.Outcome ω τ × Table) : Prop where
  master : pick.balancer.role = .master → served.1 = .error (.outsider key.encode address)
  reader : pick.balancer.role = .reader → ∃ node ∈ pick.candidates, served.1 = .ok ⟨node, .selected⟩
  bound : stored served.2 key.encode = .ok (some ⟨address, pick.due⟩)

variable {table : Table} {key : RouteKey} {address : String} {due : Nat}

theorem Pick.Misses.refreshed {pick : Pick ω τ} (misses : pick.Misses key address)
    (held : stored table key.encode = .ok (some ⟨address, due⟩)) (early : pick.reads < due) :
    Refreshed key address pick (pick.serve table) := by
  have named : pick.balancer.keyFor pick.md pick.candidates = .ok key.encode :=
    Balancer.keyFor_of_addressed misses.nonempty misses.space misses.partition misses.object
  have absent : Node.at? pick.candidates address = none := Node.at?_eq_none_iff.2 misses.outside
  obtain ⟨node, member, selected⟩ := pick.balancer.picker.exists_select misses.nonempty
  have chose : pick.balancer.picker.select pick.candidates = (some node, _) := Prod.ext selected rfl
  let renewed := table.insert key.encode
    (Record.renew ⟨address, due⟩ pick.reads pick.balancer.view.ttl).encode
  have read : Clocked.perform pick.clock pick.reads (.getRenewing key.encode pick.balancer.view.ttl)
      ⟨0, table⟩ = (.ok (some address), ⟨1, renewed⟩) :=
    Clocked.perform_eq (Store.Embedded.perform_getRenewing_of_live _ held early)
  have bound : stored renewed key.encode = .ok (some ⟨address, pick.due⟩) := by
    rw [Store.Embedded.stored_insert _ _ _ _ (Store.deadline_le ..), if_pos rfl]
    congr 2
    exact congrArg _ (Nat.min_eq_left misses.fits)
  -- The claim comes upon the entry that the read has just renewed.
  have lost : Clocked.perform pick.clock pick.reads
      (.claim key.encode node.address pick.balancer.view.ttl) ⟨1, renewed⟩ =
        (.ok ⟨false, address⟩, ⟨2, renewed⟩) :=
    Clocked.perform_eq (Store.Embedded.perform_claim_of_live _ _ bound misses.prompt)
  cases role : pick.balancer.role with
  | reader =>
    rw [Pick.serve, Balancer.pick_of_reader role named read absent chose]
    exact ⟨fun master => (by rw [role] at master; contradiction), fun _ => ⟨node, member, rfl⟩, bound⟩
  | master =>
    rw [Pick.serve, Balancer.pick_of_master role named read absent chose lost,
      Balancer.afterClaim_of_absent absent]
    exact ⟨fun _ => rfl, fun reader => (by rw [role] at reader; contradiction), bound⟩

/-- Every master fails with the address and every reader chooses for itself, and the binding stays,
renewed by the time of whoever picked last. -/
theorem stale_binding_lasts (held : stored table key.encode = .ok (some ⟨address, due⟩))
    {picks : List (Pick ω τ)} (misses : ∀ pick ∈ picks, pick.Misses key address)
    (steady : Steady due picks) {earlier later : List (Pick ω τ)} {pick : Pick ω τ}
    (among : picks = earlier ++ pick :: later) :
    Refreshed key address pick (pick.serve (after table earlier)) := by
  induction earlier generalizing table due picks with
  | nil =>
    subst among
    exact (misses pick (List.mem_cons_self ..)).refreshed held steady.1
  | cons first earlier ih =>
    subst among
    have next := (misses first (List.mem_cons_self ..)).refreshed held steady.1
    exact ih next.bound (fun pick member => misses pick (List.mem_cons_of_mem _ member)) steady.2 rfl

end Runs

def fresh : Node Nat Unit := ⟨"10.0.0.1:9000", 1, "blue", ()⟩

def master : Balancer Nat := ⟨.master, .make .master "room" (.ofMillis 11), ⟨"blue"⟩, .empty, rfl⟩

def reader : Balancer Nat := ⟨.reader, .make .readOnly "room" (.ofMillis 5), ⟨"blue"⟩, .empty, rfl⟩

def request : Metadata := Metadata.empty.set Metadata.objectIdField "99"

def traffic : List (Pick Nat Unit) :=
  [⟨master, request, [fresh], 1000, 1003⟩, ⟨reader, request, [fresh], 1009, 1009⟩,
    ⟨master, request, [fresh], 1013, 1022⟩]

def object : RouteKey := ⟨"room", "blue", 99⟩

def stale : Table := KeyMap.insert ∅ object.encode (Record.encode ⟨"10.0.0.9:9000", 1001⟩)

theorem stale_binding_lasts_traffic :
    let last : Pick Nat Unit := ⟨master, request, [fresh], 1013, 1022⟩
    let served := last.serve (after stale (traffic.take 2))
    stored stale object.encode = .ok (some ⟨"10.0.0.9:9000", 1001⟩) ∧
      (∀ pick ∈ traffic, pick.Misses object "10.0.0.9:9000") ∧ Steady 1001 traffic ∧
      served.1 = .error (.outsider object.encode "10.0.0.9:9000") ∧
      stored served.2 object.encode = .ok (some ⟨"10.0.0.9:9000", 1024⟩) := by
  intro last served
  have held : stored stale object.encode = .ok (some ⟨"10.0.0.9:9000", 1001⟩) :=
    (Store.Embedded.stored_insert ∅ _ _ ⟨"10.0.0.9:9000", 1001⟩ (by decide)).trans (if_pos rfl)
  have misses : ∀ pick ∈ traffic, pick.Misses object "10.0.0.9:9000" := by
    intro pick member
    simp only [traffic, List.mem_cons, List.not_mem_nil, or_false] at member
    rcases member with rfl | rfl | rfl
    all_goals exact ⟨rfl, rfl, rfl, nofun, by decide, by decide, by decide⟩
  have steady : Steady 1001 traffic := ⟨by decide, by decide, by decide, trivial⟩
  have kept : Refreshed object "10.0.0.9:9000" last served :=
    stale_binding_lasts held misses steady rfl
  have ends : last.due = 1024 := by decide
  exact ⟨held, misses, steady, kept.master rfl, ends ▸ kept.bound⟩

end Stale

end StickyRouting
