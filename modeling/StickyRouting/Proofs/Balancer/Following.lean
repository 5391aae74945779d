import Mathlib.Algebra.GroupWithZero.Nat
import StickyRouting.Proofs.Balancer.Course
import StickyRouting.Proofs.Store.Renewal

set_option autoImplicit false

namespace StickyRouting

open Store (Table lastInstant)
open Store.Embedded (Holds Readable Renewal perform readable_insert renewal_getRenewing renewal_renewIf)

theorem Capability.satisfies_master {level : Capability} (granted : level.satisfies .master = true) :
    level = .master := by
  cases level with
  | readOnly => contradiction
  | renewal => contradiction
  | master => rfl

namespace View

def Request.renews : Request → String → Bool
  | touch, _ => true
  | renewSelf expected, value => value = expected
  | _, _ => false

def renews (view : View) (partition : String) (objectId : Int64) (request : Request) (key value : String) :
    Bool :=
  view.level.satisfies request.needs && key = view.key partition objectId && request.renews value

def leaves (now : Nat) (view : View) (partition : String) (objectId : Int64) (request : Request)
    (table : Table) : Table :=
  match view.call? partition objectId request with
  | .ok call => (perform now call table).2
  | .error _ => table

theorem renewal_leaves {table : Table} (readable : Readable table) (now : Nat) {view : View}
    (lesser : view.level ≠ .master) (lasting : 1 ≤ view.ttl.millis) (partition : String)
    (objectId : Int64) (request : Request) :
    Renewal now view.ttl (view.renews partition objectId request) table
      (view.leaves now partition objectId request table) := by
  unfold leaves call? renews
  cases granted : view.level.satisfies request.needs with
  | false => exact .refl readable fun _ _ => by simp
  | true =>
    cases request with
    | get => exact .refl readable fun _ _ => by simp [Request.renews]
    | touch => simpa [Request.renews, call, Request.callOn] using renewal_getRenewing readable now _ lasting
    | renewSelf expected =>
      simpa [Request.renews, call, Request.callOn] using renewal_renewIf readable now _ expected lasting
    | _ => exact absurd (Capability.satisfies_master granted) lesser

end View

namespace Balancer

variable {ω τ : Type}

def renews (balancer : Balancer ω) (md : Metadata) (candidates : List (Node ω τ)) (key : String) : Bool :=
  match balancer.keyFor md candidates with
  | .ok name => key = name
  | .error _ => false

variable [Zero ω] [Add ω] [Sub ω] [LT ω] [DecidableLT ω]

theorem store_pick_of_reader {σ : Type} {engine : Store.Engine σ} {now : Nat} {balancer : Balancer ω}
    {md : Metadata} {candidates : List (Node ω τ)} {store : σ} {key : String}
    (reader : balancer.role = .reader) (named : balancer.keyFor md candidates = .ok key) :
    (balancer.pick engine now md candidates store).2.2 =
      (engine now (.getRenewing key balancer.view.ttl) store).2 := by
  obtain ⟨outcome, picker, left, picks, course⟩ := exists_course named engine now store
  have claimless : balancer.role ≠ .master := by simp [reader]
  generalize balancer.calls engine now md candidates store = log at course
  rw [picks]
  -- Whatever the read is answered with, a reader has nothing to claim.
  cases course with
  | unread read => rw [read]
  | sticky read => rw [read]
  | selected _ read => rw [read]
  | unclaimed proposes => exact absurd proposes.master claimless
  | claimed proposes => exact absurd proposes.master claimless
  | adopted proposes => exact absurd proposes.master claimless
  | outsider proposes => exact absurd proposes.master claimless

theorem renewal_pick {table : Table} (readable : Readable table) (now : Nat) {balancer : Balancer ω}
    (reader : balancer.role = .reader) (lasting : 1 ≤ balancer.view.ttl.millis) (md : Metadata)
    (candidates : List (Node ω τ)) :
    Renewal now balancer.view.ttl (fun key _ => balancer.renews md candidates key) table
      (balancer.pick perform now md candidates table).2.2 := by
  unfold renews
  cases named : balancer.keyFor md candidates with
  | error e =>
    simp only [pick, named]
    exact .refl readable fun _ _ => rfl
  | ok key =>
    rw [store_pick_of_reader reader named]
    exact renewal_getRenewing readable now key lasting

end Balancer

namespace Following

variable {ω τ : Type}

/-- What is done through a view, or by a balancer as it stands then, whatever its picker holds. -/
inductive Deed (ω τ : Type) where
  | ask (view : View) (partition : String) (objectId : Int64) (request : View.Request)
  | askAll (view : View) (partition : String) (objectIds : List Int64)
  | pick (balancer : Balancer ω) (md : Metadata) (candidates : List (Node ω τ))
  | select (balancer : Balancer ω) (md : Metadata) (roster : List (Node ω τ))

namespace Deed

def ttl : Deed ω τ → Duration
  | ask view _ _ _ => view.ttl
  | askAll view _ _ => view.ttl
  | pick balancer _ _ => balancer.view.ttl
  | select balancer _ _ => balancer.view.ttl

def Lesser : Deed ω τ → Prop
  | ask view _ _ _ => view.level ≠ .master
  | askAll view _ _ => view.level ≠ .master
  | pick balancer _ _ => balancer.role = .reader
  | select balancer _ _ => balancer.role = .reader

def renews : Deed ω τ → String → String → Bool
  | ask view partition objectId request, key, value => view.renews partition objectId request key value
  | askAll _ _ _, _, _ => false
  | pick balancer md candidates, key, _ => balancer.renews md candidates key
  | select balancer md roster, key, _ => balancer.renews md (balancer.filter.candidates md roster) key

variable [Zero ω] [Add ω] [Sub ω] [LT ω] [DecidableLT ω]

def leaves (now : Nat) (deed : Deed ω τ) (table : Table) : Table :=
  match deed with
  | ask view partition objectId request => view.leaves now partition objectId request table
  | askAll view partition objectIds => (perform now (view.callAll partition objectIds) table).2
  | pick balancer md candidates => (balancer.pick perform now md candidates table).2.2
  | select balancer md roster => (balancer.select perform now md roster table).2.2

theorem Lesser.renewal {deed : Deed ω τ} (lesser : deed.Lesser) (lasting : 1 ≤ deed.ttl.millis)
    {table : Table} (readable : Readable table) (now : Nat) :
    Renewal now deed.ttl deed.renews table (deed.leaves now table) := by
  cases deed with
  | ask view partition objectId request =>
    exact View.renewal_leaves readable now lesser lasting partition objectId request
  | askAll view partition objectIds => exact .refl readable fun _ _ => rfl
  | pick balancer md candidates => exact Balancer.renewal_pick readable now lesser lasting md candidates
  | select balancer md roster => exact Balancer.renewal_pick readable now lesser lasting md _

end Deed

variable [Zero ω] [Add ω] [Sub ω] [LT ω] [DecidableLT ω] {table : Table} {turns : List (Nat × Deed ω τ)}

def after (table : Table) (turns : List (Nat × Deed ω τ)) : Table :=
  turns.foldl (fun table turn => turn.2.leaves turn.1 table) table

def Follow (turns : List (Nat × Deed ω τ)) : Prop :=
  ∀ turn ∈ turns, turn.2.Lesser ∧ 1 ≤ turn.2.ttl.millis

omit [Zero ω] [Add ω] [Sub ω] [LT ω] [DecidableLT ω] in
theorem Follow.tail {turn : Nat × Deed ω τ} (follow : Follow (turn :: turns)) : Follow turns :=
  fun other member => follow other (List.mem_cons_of_mem _ member)

theorem Follow.renewal {turn : Nat × Deed ω τ} (follow : Follow (turn :: turns))
    (readable : Readable table) :
    Renewal turn.1 turn.2.ttl turn.2.renews table (turn.2.leaves turn.1 table) := by
  obtain ⟨lesser, lasting⟩ := follow turn (List.mem_cons_self ..)
  exact lesser.renewal lasting readable turn.1

theorem Follow.renewal_after {earlier later : List (Nat × Deed ω τ)} {turn : Nat × Deed ω τ}
    (follow : Follow (earlier ++ turn :: later)) (readable : Readable table) :
    Readable (after table earlier) ∧
      Renewal turn.1 turn.2.ttl turn.2.renews (after table earlier)
        (turn.2.leaves turn.1 (after table earlier)) := by
  induction earlier generalizing table with
  | nil => exact ⟨readable, follow.renewal readable⟩
  | cons first earlier ih => exact ih follow.tail (follow.renewal readable).readable

theorem holds_of_holds_after (readable : Readable table) (follow : Follow turns)
    (ordered : turns.Pairwise fun a b => a.1 ≤ b.1) {start now : Nat} (forward : start ≤ now)
    (within : ∀ turn ∈ turns, start ≤ turn.1 ∧ turn.1 ≤ now) {key value : String}
    (holds : Holds now (after table turns) key value) : Holds start table key value := by
  -- What a turn leaves live was live before it, and so at every earlier instant.
  induction turns generalizing table start with
  | nil => exact holds.earlier forward
  | cons turn rest ih =>
    obtain ⟨before, upto⟩ := within turn (List.mem_cons_self ..)
    obtain ⟨first, tail⟩ := List.pairwise_cons.1 ordered
    have renewal := follow.renewal readable
    have left := ih renewal.readable follow.tail tail upto
      (fun other member => ⟨first other member, (within other (List.mem_cons_of_mem _ member)).2⟩) holds
    exact ((renewal.holds_iff readable value).1 left).earlier before

/-- Each turn leaves every live entry live and with its value, and makes none. -/
theorem followers_only_renew (readable : Readable table) (follow : Follow turns)
    (ordered : turns.Pairwise fun a b => a.1 ≤ b.1) :
    (∀ earlier now deed later, turns = earlier ++ (now, deed) :: later →
      let before := after table earlier
      Renewal now deed.ttl deed.renews before (deed.leaves now before) ∧
        ∀ key value, Holds now (deed.leaves now before) key value ↔ Holds now before key value) ∧
    ∀ start now, start ≤ now → (∀ turn ∈ turns, start ≤ turn.1 ∧ turn.1 ≤ now) →
      ∀ key value, Holds now (after table turns) key value → Holds start table key value := by
  refine ⟨?_, fun start now forward within key value holds =>
    holds_of_holds_after readable follow ordered forward within holds⟩
  rintro earlier now deed later rfl before
  obtain ⟨still, renewal⟩ := follow.renewal_after readable
  exact ⟨renewal, fun key value => renewal.holds_iff still value⟩

def reader : Balancer Nat :=
  ⟨.reader, (View.make .master "room" (.ofMillis 5)).withLevel .readOnly, ⟨"blue"⟩, .empty, rfl⟩

def unbound : Deed Nat Unit :=
  .pick reader (Metadata.empty.set Metadata.objectIdField "8") [⟨"10.0.0.1:9000", 1, "blue", ()⟩]

def visits : List (Nat × Deed Nat Unit) :=
  [(1000, .ask (.make .readOnly "room" (.ofMillis 20)) "blue" 7 .touch),
    (1005, .ask (.make .renewal "room" (.ofMillis 30)) "blue" 7 (.renewSelf "10.0.0.1:9000")),
    (1019, unbound)]

def bound : Table :=
  KeyMap.insert ∅ (RouteKey.encode ⟨"room", "blue", 7⟩) (Store.Record.encode ⟨"10.0.0.9:9000", 1010⟩)

theorem followers_only_renew_visits :
    Balancer.create .reader (.make .master "room" (.ofMillis 5)) "blue" = .ok reader ∧
      Readable bound ∧ Follow visits ∧ visits.Pairwise (fun a b => a.1 ≤ b.1) ∧
      Renewal 1019 unbound.ttl unbound.renews (after bound (visits.take 2))
        (unbound.leaves 1019 (after bound (visits.take 2))) ∧
      ∀ key value, Holds 1019 (after bound visits) key value → Holds 1000 bound key value := by
  have early : (⟨"10.0.0.9:9000", 1010⟩ : Store.Record).deadline ≤ lastInstant := by decide
  have readable : Readable bound := readable_insert Store.Embedded.readable_empty _ early
  have follow : Follow visits := by
    intro turn member
    simp only [visits, List.mem_cons, List.not_mem_nil, or_false] at member
    rcases member with rfl | rfl | rfl
    · exact ⟨nofun, by decide⟩
    · exact ⟨nofun, by decide⟩
    · exact ⟨rfl, by decide⟩
  have ordered : visits.Pairwise fun a b => a.1 ≤ b.1 := by
    simp [visits]
  obtain ⟨each, whole⟩ := followers_only_renew readable follow ordered
  refine ⟨rfl, readable, follow, ordered, (each (visits.take 2) 1019 unbound [] rfl).1,
    whole 1000 1019 (by decide) ?_⟩
  intro turn member
  simp only [visits, List.mem_cons, List.not_mem_nil, or_false] at member
  rcases member with rfl | rfl | rfl <;> simp

end Following

end StickyRouting
