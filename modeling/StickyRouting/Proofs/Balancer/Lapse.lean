import StickyRouting.Proofs.Balancer.Isolation
import StickyRouting.Proofs.Store.Lapse

set_option autoImplicit false

namespace StickyRouting

open Store (Call Event History Lapses Lives Operation Record Table deadline due run)
open Store.Embedded (operate perform stored)

namespace View

def Request.delay? : Request → Option Duration
  | lapse delay => some delay
  | lapseIf _ delay => some delay
  | _ => none

theorem stored_of_delayed {request : Request} {delay ttl : Duration} {key : String} {now : Nat}
    {table : Table} {answer : (request.callOn key ttl).Answer} (lapsing : request.delay? = some delay)
    (done : (perform now (request.callOn key ttl) table).1 = .ok answer) :
    ∃ r, stored table key = .ok (some r) ∧ now < r.deadline ∧
      stored (perform now (request.callOn key ttl) table).2 key =
        .ok (some ⟨r.value, deadline now delay⟩) := by
  have about : (request.callOn key ttl).target? = some key := by
    cases request with
    | get => contradiction
    | _ => rfl
  cases here : stored table key with
  | error e =>
    rw [Store.Embedded.perform_unreadable about here] at done
    contradiction
  | ok before =>
    obtain ⟨after, change, left⟩ := Store.Embedded.perform_change_self now about here
    rw [done] at change
    -- Both requests are answered with success only if they have found the entry and renewed it.
    cases request with
    | lapse =>
      obtain rfl := Option.some.inj lapsing
      cases change with
      | renewed found =>
        obtain ⟨rfl, early⟩ := Store.Embedded.live_eq_some_iff.1 found
        exact ⟨_, rfl, early, left⟩
    | lapseIf =>
      obtain rfl := Option.some.inj lapsing
      cases change with
      | renewedIf found =>
        obtain ⟨rfl, early⟩ := Store.Embedded.live_eq_some_iff.1 found
        exact ⟨_, rfl, early, left⟩
    | _ => contradiction

end View

namespace Interleaving

variable {ι ω τ : Type}

def Act.call? (act : Act ι ω τ) (state : State ι ω τ) : Option Call :=
  match act with
  | .ask who md candidates =>
    match (state.balancers who).keyFor md candidates with
    | .ok key => some (.getRenewing key (state.balancers who).view.ttl)
    | .error _ => none
  -- A choice goes by what the read has found.
  | .choose _ => none
  | .claim id =>
    match state.picks id with
    -- A claim that is not the next step of its pick is no step at all.
    | some ⟨who, _, _, _, .claiming key proposal⟩ =>
      some (.claim key proposal.address (state.balancers who).view.ttl)
    | _ => none

def Deed.call? (deed : Deed ι ω τ) (state : State ι ω τ) : Option Call :=
  match deed with
  | .ask view partition objectId request => (view.call? partition objectId request).toOption
  | .askAll view partition objectIds => some (view.callAll partition objectIds)
  | .pick act => act.call? state

inductive Work (ι ω τ : Type) where
  | direct (operation : Operation)
  | through (deed : Deed ι ω τ)

def Work.operation? (work : Work ι ω τ) (state : State ι ω τ) : Option Operation :=
  match work with
  | .direct operation => some operation
  | .through deed => (deed.call? state).map .call

section Steps

variable [DecidableEq ι] [Zero ω] [Add ω] [Sub ω] [LT ω] [DecidableLT ω]

def Work.carryOut (n now : Nat) (work : Work ι ω τ) (state : State ι ω τ) : State ι ω τ :=
  match work with
  | .direct operation => { state with table := (operate now operation state.table).2 }
  | .through deed => (deed.carryOut n now state).2

def carryOn : Nat → State ι ω τ → List (Nat × Work ι ω τ) → State ι ω τ
  | _, state, [] => state
  | n, state, (now, work) :: rest => carryOn (n + 1) (work.carryOut n now state) rest

def asked : Nat → State ι ω τ → List (Nat × Work ι ω τ) → History
  | _, _, [] => []
  | n, state, (now, work) :: rest =>
    (work.operation? state).toList.map (now, ·) ++ asked (n + 1) (work.carryOut n now state) rest

variable {n now : Nat} {state : State ι ω τ}

theorem table_step (act : Act ι ω τ) :
    (step n now act state).table =
      (run operate ((act.call? state).toList.map fun call => (now, .call call)) state.table).2 := by
  cases act with
  | ask who md candidates =>
    simp only [step, Act.call?]
    cases (state.balancers who).keyFor md candidates <;> rfl
  | choose id =>
    simp only [step, Act.call?]
    split <;> rfl
  | claim id =>
    simp only [step, Act.call?]
    cases state.picks id with
    | none => rfl
    | some pick =>
      obtain ⟨who, md, candidates, since, stage⟩ := pick
      cases stage <;> rfl

theorem table_carryOut (work : Work ι ω τ) :
    (work.carryOut n now state).table =
      (run operate ((work.operation? state).toList.map (now, ·)) state.table).2 := by
  cases work with
  | direct operation => rfl
  | through deed =>
    cases deed with
    | ask view partition objectId request =>
      simp only [Work.carryOut, Deed.carryOut, Work.operation?, Deed.call?]
      cases view.call? partition objectId request <;> rfl
    | askAll => rfl
    | pick act =>
      simp only [Work.carryOut, Deed.carryOut, Work.operation?, Deed.call?, table_step]
      cases act.call? state <;> rfl

theorem table_carryOn (n : Nat) (state : State ι ω τ) (works : List (Nat × Work ι ω τ)) :
    (carryOn n state works).table = (run operate (asked n state works) state.table).2 := by
  -- The rest goes on from the state and the number that the first step has led to, so both are general.
  induction works generalizing n state with
  | nil => rfl
  | cons first rest ih =>
    obtain ⟨now, work⟩ := first
    rw [carryOn, ih, asked, Store.run_append, table_carryOut]

theorem mem_asked {works : List (Nat × Work ι ω τ)} {instant : Nat} {operation : Operation}
    (member : (instant, operation) ∈ asked n state works) : ∃ work, (instant, work) ∈ works := by
  induction works generalizing n state with
  | nil => contradiction
  | cons first rest ih =>
    obtain ⟨now, work⟩ := first
    rw [asked] at member
    rcases List.mem_append.1 member with member | member
    · obtain ⟨_, -, same⟩ := List.mem_map.1 member
      obtain ⟨rfl, -⟩ := Prod.mk.inj same
      exact ⟨work, List.mem_cons_self ..⟩
    · obtain ⟨work, among⟩ := ih member
      exact ⟨work, List.mem_cons_of_mem _ among⟩

theorem ordered_asked {works : List (Nat × Work ι ω τ)} (ordered : works.Pairwise fun a b => a.1 ≤ b.1)
    (n : Nat) (state : State ι ω τ) : (asked n state works).Ordered := by
  induction works generalizing n state with
  | nil => exact .nil
  | cons first rest ih =>
    obtain ⟨now, work⟩ := first
    obtain ⟨before, tail⟩ := List.pairwise_cons.1 ordered
    rw [asked]
    refine List.pairwise_append.2 ⟨?_, ih tail _ _, ?_⟩
    · cases work.operation? state <;> simp
    · -- What the later steps ask for, they ask for at instants of their own.
      intro a member b later
      obtain ⟨_, -, rfl⟩ := List.mem_map.1 member
      obtain ⟨other, among⟩ := mem_asked later
      exact before _ among

/-- The entry is over from the instant that the last read has set, of clients or for a pick, and after
the delay if there was none. Until then it is there, if nobody has deleted it. -/
theorem lapses_unless_read {view : View} {partition : String} {objectId : Int64}
    {request : View.Request} {delay : Duration} (lapsing : request.delay? = some delay) {call : Call}
    (granted : view.call? partition objectId request = .ok call) {start : Nat} {state : State ι ω τ}
    {answer : call.Answer} (done : (perform start call state.table).1 = .ok answer) (n : Nat)
    (works : List (Nat × Work ι ω τ)) :
    let key := view.key partition objectId
    let left := { state with table := (perform start call state.table).2 }
    let log := (run operate (asked n left works) left.table).1
    let last := due key (deadline start delay) log
    let seen (now : Nat) := (perform now (.get key) (carryOn n left works).table).1
    (∀ event ∈ log, ¬ event.Rewrites key) →
      (∀ now, last ≤ now → seen now = .ok none) ∧
      ((∀ event ∈ log, event.effect ≠ .removes key) → works.Pairwise (fun a b => a.1 ≤ b.1) →
        ∃ value, (perform start (.get key) state.table).1 = .ok (some value) ∧
          ∀ now, start ≤ now → (∀ work ∈ works, start ≤ work.1 ∧ work.1 ≤ now) → now < last →
            seen now = .ok (some value)) := by
  intro key left log last seen calm
  obtain rfl := View.call_of_call? granted
  obtain ⟨r, here, early, after⟩ := View.stored_of_delayed lapsing done
  -- The call has left one record with a known end. A run of steps is a history of the table, and both
  -- what ends then and what is still there before then are invariants of histories.
  have lapses : Lapses key (deadline start delay) left.table :=
    ⟨_, after, fun _ held => (Option.some.inj held) ▸ rfl⟩
  have lives : Lives key r.value (deadline start delay) start left.table := fun _ => after
  have table := table_carryOn n left works
  refine ⟨fun now late => ?_, fun spared ordered => ⟨r.value, ?_, fun now forward within soon => ?_⟩⟩
  next =>
    simp only [seen, table]
    exact (lapses.run calm).get late
  next => exact Store.Embedded.look_of_live here early
  next =>
    simp only [seen, table]
    have upto : ∀ step ∈ asked n left works, start ≤ step.1 ∧ step.1 ≤ now := by
      intro step member
      obtain ⟨work, among⟩ := mem_asked member
      exact within _ among
    exact (lives.run lapses calm spared (ordered_asked ordered n left) forward upto).get soon

end Steps

section Drained

def owner : View := .make .master "room" (.ofMillis 60_000)

def visitor : Balancer Nat :=
  ⟨.reader, .make .readOnly "room" (.ofMillis 5_000), ⟨"blue"⟩, .empty, rfl⟩

def departing : Node Nat Unit := ⟨"10.0.0.9:9000", 1, "blue", ()⟩

def visit : Metadata := Metadata.empty.set Metadata.objectIdField "7"

def draining : Table :=
  KeyMap.insert ∅ (owner.key "blue" 7) (Record.encode ⟨"10.0.0.9:9000", 61_000⟩)

def drained : Call := owner.call "blue" 7 (.lapse (.ofMillis 2_000))

theorem stored_draining : stored draining (owner.key "blue" 7) = .ok (some ⟨"10.0.0.9:9000", 61_000⟩) :=
  (Store.Embedded.stored_insert ∅ _ _ ⟨"10.0.0.9:9000", 61_000⟩ (by decide)).trans (if_pos rfl)

theorem perform_drained :
    (perform 1_000 drained draining).1 = .ok () ∧
      stored (perform 1_000 drained draining).2 (owner.key "blue" 7) =
        .ok (some ⟨"10.0.0.9:9000", 3_000⟩) := by
  have does : perform 1_000 drained draining = _ :=
    Store.Embedded.perform_renew_of_live (.ofMillis 2_000) stored_draining (by decide)
  rw [does]
  exact ⟨rfl, (Store.Embedded.stored_insert _ _ _ _ (Store.deadline_le ..)).trans (if_pos rfl)⟩

def visits : List (Nat × Work Unit Nat Unit) :=
  -- A visit just before the two seconds are over, and a look after them.
  [(2_999, .through (.pick (.ask () visit [departing]))), (2_999, .through (.pick (.choose 0))),
    (3_500, .direct (.call (.get (owner.key "blue" 7))))]

theorem lapses_unless_read_drained :
    let key := owner.key "blue" 7
    let left : State Unit Nat Unit :=
      ⟨(perform 1_000 drained draining).2, fun _ => visitor, fun _ => none⟩
    let log := (run operate (asked 0 left visits) left.table).1
    let seen (now : Nat) := (perform now (.get key) (carryOn 0 left visits).table).1
    (perform 1_000 drained draining).1 = .ok () ∧
      (∀ event ∈ log, ¬ event.Rewrites key) ∧ due key (deadline 1_000 (.ofMillis 2_000)) log = 7_999 ∧
      seen 7_998 = .ok (some "10.0.0.9:9000") ∧ seen 7_999 = .ok none := by
  intro key left log seen
  let opening : State Unit Nat Unit := ⟨draining, fun _ => visitor, fun _ => none⟩
  obtain ⟨done, here⟩ := perform_drained
  have read : perform 2_999 (.getRenewing key (.ofMillis 5_000)) left.table =
      (.ok (some "10.0.0.9:9000"), _) :=
    Store.Embedded.perform_getRenewing_of_live _ here (by decide)
  -- The choice of the reader asks the table for nothing; the last look is answered as it may be.
  obtain ⟨answer, told⟩ : ∃ answer,
      log = [⟨2_999, .call (.getRenewing key (.ofMillis 5_000)), .ok (some "10.0.0.9:9000")⟩,
        ⟨3_500, .call (.get key), answer⟩] := by
    have calls : asked 0 left visits =
        [(2_999, .call (.getRenewing key (.ofMillis 5_000))), (3_500, .call (.get key))] := rfl
    simp only [log, calls, Store.run_cons, operate, read]
    exact ⟨_, rfl⟩
  have calm : ∀ event ∈ log, ¬ event.Rewrites key := by
    simp [told, Event.Rewrites]
  have spared : ∀ event ∈ log, event.effect ≠ .removes key := by
    simp [told, Event.effect]
  have put_off : due key (deadline 1_000 (.ofMillis 2_000)) log = 7_999 := by
    rw [told]
    rfl
  have granted : owner.call? "blue" 7 (.lapse (.ofMillis 2_000)) = .ok drained := rfl
  have opened : (perform 1_000 drained opening.table).1 = .ok () := done
  obtain ⟨gone, stays⟩ := lapses_unless_read rfl granted opened 0 visits calm
  obtain ⟨value, found, lives⟩ := stays spared (by simp [visits])
  have bound : (perform 1_000 (.get key) draining).1 = .ok (some "10.0.0.9:9000") :=
    Store.Embedded.look_of_live stored_draining (by decide)
  obtain rfl : value = "10.0.0.9:9000" := Option.some.inj (Except.ok.inj (found.symm.trans bound))
  have spared_until := lives 7_998 (by decide) (by simp [visits]) (by rw [put_off]; decide)
  exact ⟨done, calm, put_off, spared_until, gone 7_999 put_off.le⟩

/-- A pick of a reader, and a read that renews, keep the entry beyond the two seconds. -/
theorem lapse_put_off :
    let key := owner.key "blue" 7
    let left := (perform 1_000 drained draining).2
    let picked := visitor.pick perform 2_999 visit [departing] left
    let touched := perform 2_999 (owner.call "blue" 7 .touch) left
    (perform 1_000 drained draining).1 = .ok () ∧ deadline 1_000 (.ofMillis 2_000) = 3_000 ∧
      picked.1 = .ok ⟨departing, .sticky⟩ ∧
      (perform 3_000 (.get key) picked.2.2).1 = .ok (some "10.0.0.9:9000") ∧
      touched.1 = .ok (some "10.0.0.9:9000") ∧
      (perform 3_000 (.get key) touched.2).1 = .ok (some "10.0.0.9:9000") := by
  intro key left picked touched
  obtain ⟨done, here⟩ := perform_drained
  have read (ttl : Duration) :
      perform 2_999 (.getRenewing key ttl) left =
        (.ok (some "10.0.0.9:9000"), left.insert key (Record.encode ⟨_, deadline 2_999 ttl⟩)) :=
    Store.Embedded.perform_getRenewing_of_live ttl here (by decide)
  have found (ttl : Duration) (late : 3_000 < deadline 2_999 ttl) :
      (perform 3_000 (.get key) (left.insert key
        (Record.encode ⟨"10.0.0.9:9000", deadline 2_999 ttl⟩))).1 = .ok (some "10.0.0.9:9000") :=
    Store.Embedded.look_of_live
      ((Store.Embedded.stored_insert _ _ _ _ (Store.deadline_le ..)).trans (if_pos rfl)) late
  have pick : picked = (.ok ⟨departing, .sticky⟩, visitor,
      left.insert key (Record.encode ⟨"10.0.0.9:9000", deadline 2_999 (.ofMillis 5_000)⟩)) := by
    have named : visitor.keyFor visit [departing] = .ok key := rfl
    have listed : Node.at? [departing] "10.0.0.9:9000" = some departing := rfl
    have ttl : visitor.view.ttl = .ofMillis 5_000 := rfl
    simp only [picked, Balancer.pick, named, ttl, read, Balancer.afterRead, Option.bind_some, listed]
  have touch : touched = _ := read (.ofMillis 60_000)
  rw [pick, touch]
  exact ⟨done, rfl, rfl, found _ (by decide), rfl, found _ (by decide)⟩

end Drained

end Interleaving

end StickyRouting
