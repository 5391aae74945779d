import Mathlib.Algebra.GroupWithZero.Nat
import StickyRouting.Proofs.Balancer.Interleaving
import StickyRouting.Proofs.Store.Frame
import StickyRouting.Proofs.View

set_option autoImplicit false

namespace StickyRouting.Interleaving

open Store (Table Call)
open Store.Embedded (perform)

variable {ι ω τ : Type}

inductive Deed (ι ω τ : Type) where
  | ask (view : View) (partition : String) (objectId : Int64) (request : View.Request)
  | askAll (view : View) (partition : String) (objectIds : List Int64)
  | pick (act : Act ι ω τ)

/-- Is the deed for the object? To go on with a pick is for the object that it was begun for. -/
def Deed.IsFor (balancers : ι → Balancer ω) (key : RouteKey) : Deed ι ω τ → Prop
  | .ask view partition objectId _ => ⟨view.space, partition, objectId⟩ = key
  | .askAll view partition objectIds => ∀ objectId ∈ objectIds, ⟨view.space, partition, objectId⟩ = key
  | .pick (.ask who md _) => (balancers who).view.space = key.space ∧
      (balancers who).filter.partition md = key.partition ∧ md.objectId = .ok key.objectId
  | .pick _ => True

inductive Reply (ω τ : Type) where
  | lacks (rights : Capability)
  | answered (call : Call) (answer : Except RouteError call.Answer)
  | stands (stage : Option (Stage ω τ))

def Act.number (n : Nat) : Act ι ω τ → Nat
  | .ask _ _ _ => n
  | .choose id => id
  | .claim id => id

def Stage.key? : Stage ω τ → Option String
  | .asked key _ => some key
  | .claiming key _ => some key
  | .settled _ _ => none

theorem Stage.key?_after {key name : String} {since : Nat} {standing : Balancer.Standing ω τ}
    (under : (Stage.after key since standing).key? = some name) : name = key := by
  cases standing with
  | settled => contradiction
  | claiming => exact (Option.some.inj under).symm

structure State.Devoted (state : State ι ω τ) (balancers : ι → Balancer ω) (key : RouteKey) :
    Prop where
  balancers : ∀ who, ∃ picker, state.balancers who = (balancers who).withPicker picker
  picks : ∀ id pick name, state.picks id = some pick → pick.stage.key? = some name →
    name = key.encode

structure State.Alike (key : RouteKey) (a b : State ι ω τ) : Prop where
  balancers : a.balancers = b.balancers
  picks : a.picks = b.picks
  entry : a.table.get? key.encode = b.table.get? key.encode

namespace State

variable {state other : State ι ω τ} {balancers : ι → Balancer ω} {key : RouteKey}

theorem Devoted.key_of_keyFor (devoted : state.Devoted balancers key) {who : ι} {md : Metadata}
    {candidates : List (Node ω τ)} {name : String}
    (isFor : (Deed.pick (.ask who md candidates)).IsFor balancers key)
    (named : (state.balancers who).keyFor md candidates = .ok name) : name = key.encode := by
  obtain ⟨picker, same⟩ := devoted.balancers who
  obtain ⟨space, partition, object⟩ := isFor
  rw [same, Balancer.keyFor_withPicker] at named
  exact Balancer.encode_of_keyFor named space partition object

theorem Devoted.put {id : Nat} {pick : Pick ι ω τ} (devoted : state.Devoted balancers key)
    (under : ∀ name, pick.stage.key? = some name → name = key.encode) :
    (state.put id pick).Devoted balancers key := by
  refine ⟨devoted.balancers, fun other held name found stage => ?_⟩
  rw [put_picks] at found
  split at found
  next =>
    obtain rfl := Option.some.inj found
    exact under name stage
  next => exact devoted.picks other held name found stage

theorem Devoted.onTable (devoted : state.Devoted balancers key) (table : Table) :
    State.Devoted { state with table := table } balancers key :=
  ⟨devoted.balancers, devoted.picks⟩

theorem Alike.symm (alike : State.Alike key state other) : State.Alike key other state :=
  ⟨alike.balancers.symm, alike.picks.symm, alike.entry.symm⟩

theorem Alike.trans {last : State ι ω τ} (alike : State.Alike key state other)
    (next : State.Alike key other last) : State.Alike key state last :=
  ⟨alike.balancers.trans next.balancers, alike.picks.trans next.picks, alike.entry.trans next.entry⟩

theorem Alike.put (alike : State.Alike key state other) (id : Nat) (pick : Pick ι ω τ) :
    State.Alike key (state.put id pick) (other.put id pick) where
  balancers := alike.balancers
  picks := by rw [State.put, State.put, alike.picks]
  entry := alike.entry

theorem Alike.onBalancers (alike : State.Alike key state other) (balancers : ι → Balancer ω) :
    State.Alike key { state with balancers := balancers } { other with balancers := balancers } :=
  ⟨rfl, alike.picks, alike.entry⟩

theorem Alike.perform (alike : State.Alike key state other) (now : Nat) (call : Call)
    (only : ∀ name ∈ call.keys, name = key.encode) :
    (perform now call state.table).1 = (perform now call other.table).1 ∧
      State.Alike key { state with table := (perform now call state.table).2 }
        { other with table := (perform now call other.table).2 } := by
  obtain ⟨answers, entry⟩ := Store.Embedded.perform_congr_of_only now only alike.entry
  exact ⟨answers, alike.balancers, alike.picks, entry⟩

end State

section Steps

variable [DecidableEq ι] [Zero ω] [Add ω] [Sub ω] [LT ω] [DecidableLT ω]

def Deed.carryOut (n now : Nat) (deed : Deed ι ω τ) (state : State ι ω τ) :
    Reply ω τ × State ι ω τ :=
  match deed with
  | .ask view partition objectId request =>
    match view.call? partition objectId request with
    | .error rights => (.lacks rights, state)
    | .ok call =>
      let (answer, table) := perform now call state.table
      (.answered call answer, { state with table := table })
  | .askAll view partition objectIds =>
    let call := view.callAll partition objectIds
    let (answer, table) := perform now call state.table
    (.answered call answer, { state with table := table })
  | .pick act =>
    let state := step n now act state
    (.stands ((state.picks (act.number n)).map (·.stage)), state)

variable {n now : Nat} {state other : State ι ω τ} {balancers : ι → Balancer ω} {key : RouteKey}

theorem devoted_step {act : Act ι ω τ} (devoted : state.Devoted balancers key)
    (isFor : (Deed.pick act).IsFor balancers key) : (step n now act state).Devoted balancers key := by
  have moves := step_moves n now act state
  generalize step n now act state = after at moves ⊢
  cases moves with
  | idle => exact devoted
  | refused => exact devoted.put nofun
  | asked named =>
    refine (devoted.onTable _).put fun name under => ?_
    obtain rfl := Option.some.inj under
    exact devoted.key_of_keyFor isFor named
  | @chosen _ _ chooser _ candidates _ answer _ balancer held chose =>
    have selects : ∀ who, ∃ picker, Function.update state.balancers chooser balancer who =
        (balancers who).withPicker picker := by
      intro who
      by_cases same : who = chooser
      next =>
        subst same
        obtain ⟨picker, before⟩ := devoted.balancers who
        obtain ⟨-, picker', after⟩ := (state.balancers who).afterRead_chooses candidates answer
        rw [chose, before] at after
        exact ⟨picker', (Function.update_self ..).trans after⟩
      next => simpa [same] using devoted.balancers who
    refine State.Devoted.put ⟨selects, devoted.picks⟩ fun name under => ?_
    rw [Stage.key?_after under]
    exact devoted.picks _ _ _ held rfl
  | claimed => exact (devoted.onTable _).put nofun

theorem get?_step_of_ne {act : Act ι ω τ} (devoted : state.Devoted balancers key)
    (isFor : (Deed.pick act).IsFor balancers key) {name : String} (other : name ≠ key.encode) :
    (step n now act state).table.get? name = state.table.get? name := by
  have aside {call : Call} {answer : Except RouteError call.Answer} {table : Table}
      (does : perform now call state.table = (answer, table)) (absent : name ∉ call.keys) :
      table.get? name = state.table.get? name := by
    have kept := Store.Embedded.get?_perform_of_not_mem now call state.table absent
    rwa [does] at kept
  have moves := step_moves n now act state
  generalize step n now act state = after at moves ⊢
  cases moves with
  | idle => rfl
  | refused => rfl
  | asked named read =>
    obtain rfl := devoted.key_of_keyFor isFor named
    exact aside read (by simpa [Call.keys] using other)
  | chosen => rfl
  | claimed held answered =>
    obtain rfl := devoted.picks _ _ _ held rfl
    exact aside answered (by simpa [Call.keys] using other)

theorem alike_step {act : Act ι ω τ} (alike : State.Alike key state other)
    (devoted : state.Devoted balancers key) (isFor : (Deed.pick act).IsFor balancers key) :
    State.Alike key (step n now act state) (step n now act other) := by
  obtain ⟨table, balancers', picks⟩ := other
  obtain ⟨rfl, rfl, entry⟩ := alike
  have both : State.Alike key state ⟨table, state.balancers, state.picks⟩ := ⟨rfl, rfl, entry⟩
  cases act with
  | ask who md candidates =>
    simp only [step]
    cases named : (state.balancers who).keyFor md candidates with
    | error e => exact both.put ..
    | ok name =>
      obtain rfl := devoted.key_of_keyFor isFor named
      obtain ⟨answers, leaves⟩ := both.perform now
        (.getRenewing key.encode (state.balancers who).view.ttl) (fun _ => List.mem_singleton.1)
      simp only [answers]
      exact leaves.put ..
  | choose id =>
    simp only [step]
    split
    next => exact (both.onBalancers _).put ..
    next => exact both
  | claim id =>
    simp only [step]
    split
    next who md candidates since name proposal held =>
      obtain rfl := devoted.picks _ _ _ held rfl
      obtain ⟨answers, leaves⟩ := both.perform now
        (.claim key.encode proposal.address (state.balancers who).view.ttl)
        (fun _ => List.mem_singleton.1)
      simp only [answers]
      exact leaves.put ..
    next => exact both

variable {deed : Deed ι ω τ}

theorem devoted_carryOut (devoted : state.Devoted balancers key) (isFor : deed.IsFor balancers key) :
    (deed.carryOut n now state).2.Devoted balancers key := by
  cases deed with
  | ask =>
    simp only [Deed.carryOut]
    split
    next => exact devoted
    next => exact devoted.onTable _
  | askAll => exact devoted.onTable _
  | pick => exact devoted_step devoted isFor

theorem get?_carryOut_of_ne (devoted : state.Devoted balancers key)
    (isFor : deed.IsFor balancers key) {name : String} (other : name ≠ key.encode) :
    (deed.carryOut n now state).2.table.get? name = state.table.get? name := by
  cases deed with
  | ask view partition objectId request =>
    obtain rfl : ⟨view.space, partition, objectId⟩ = key := isFor
    simp only [Deed.carryOut]
    split
    next => rfl
    next call asked =>
      obtain rfl := View.call_of_call? asked
      refine Store.Embedded.get?_perform_of_not_mem now _ state.table ?_
      simpa [View.keys_call, View.key] using other
  | askAll => rfl
  | pick => exact get?_step_of_ne devoted isFor other

theorem alike_carryOut (alike : State.Alike key state other) (devoted : state.Devoted balancers key)
    (isFor : deed.IsFor balancers key) :
    (deed.carryOut n now state).1 = (deed.carryOut n now other).1 ∧
      State.Alike key (deed.carryOut n now state).2 (deed.carryOut n now other).2 := by
  cases deed with
  | ask view partition objectId request =>
    obtain rfl : ⟨view.space, partition, objectId⟩ = key := isFor
    simp only [Deed.carryOut]
    split
    next => exact ⟨rfl, alike⟩
    next call asked =>
      obtain rfl := View.call_of_call? asked
      obtain ⟨answers, leaves⟩ := alike.perform now (view.call partition objectId request)
        (by simp [View.keys_call, View.key])
      exact ⟨congrArg (Reply.answered _) answers, leaves⟩
  | askAll view partition objectIds =>
    have only : ∀ name ∈ (view.callAll partition objectIds).keys, name = key.encode := by
      intro name member
      obtain ⟨objectId, among, rfl⟩ := List.mem_map.1 member
      rw [View.key, isFor objectId among]
    obtain ⟨answers, leaves⟩ := alike.perform now _ only
    exact ⟨congrArg (Reply.answered _) answers, leaves⟩
  | pick act =>
    have leaves : State.Alike key (step n now act state) (step n now act other) :=
      alike_step alike devoted isFor
    exact ⟨by simp only [Deed.carryOut, leaves.picks], leaves⟩

end Steps

structure Client (ι ω τ : Type) where
  balancers : ι → Balancer ω
  picks : Nat → Option (Pick ι ω τ)

structure Site (ι ω τ : Type) where
  table : Table
  clients : RouteKey → Client ι ω τ

structure Turn (ι ω τ : Type) where
  subject : RouteKey
  number : Nat
  now : Nat
  deed : Deed ι ω τ

namespace Site

def opened (table : Table) (balancers : RouteKey → ι → Balancer ω) : Site ι ω τ :=
  ⟨table, fun key => ⟨balancers key, fun _ => none⟩⟩

def before (site : Site ι ω τ) (key : RouteKey) : State ι ω τ :=
  ⟨site.table, (site.clients key).balancers, (site.clients key).picks⟩

def Devoted (site : Site ι ω τ) (balancers : RouteKey → ι → Balancer ω) : Prop :=
  ∀ key, (site.before key).Devoted (balancers key) key

theorem devoted_opened (table : Table) (balancers : RouteKey → ι → Balancer ω) :
    (opened table balancers : Site ι ω τ).Devoted balancers :=
  fun key => ⟨fun who => ⟨(balancers key who).picker, rfl⟩, nofun⟩

section Runs

variable [DecidableEq ι] [Zero ω] [Add ω] [Sub ω] [LT ω] [DecidableLT ω]

def take (site : Site ι ω τ) (turn : Turn ι ω τ) : Reply ω τ × Site ι ω τ :=
  let (reply, state) := turn.deed.carryOut turn.number turn.now (site.before turn.subject)
  (reply, ⟨state.table, Function.update site.clients turn.subject ⟨state.balancers, state.picks⟩⟩)

def after (site : Site ι ω τ) (turns : List (Turn ι ω τ)) : Site ι ω τ :=
  turns.foldl (fun site turn => (site.take turn).2) site

def told (key : RouteKey) : Site ι ω τ → List (Turn ι ω τ) → List (Reply ω τ)
  | _, [] => []
  | site, turn :: rest =>
    if turn.subject = key then (site.take turn).1 :: told key (site.take turn).2 rest
    else told key (site.take turn).2 rest

theorem told_cons_self (site : Site ι ω τ) (turn : Turn ι ω τ) (rest : List (Turn ι ω τ)) :
    site.told turn.subject (turn :: rest) =
      (site.take turn).1 :: (site.take turn).2.told turn.subject rest :=
  if_pos rfl

theorem told_cons_of_ne (site : Site ι ω τ) {turn : Turn ι ω τ} (rest : List (Turn ι ω τ))
    {key : RouteKey} (ne : turn.subject ≠ key) :
    site.told key (turn :: rest) = (site.take turn).2.told key rest :=
  if_neg ne

variable {balancers : RouteKey → ι → Balancer ω} {site other : Site ι ω τ} {turn : Turn ι ω τ}
  {turns : List (Turn ι ω τ)} {key : RouteKey}

theorem before_take_self (site : Site ι ω τ) (turn : Turn ι ω τ) :
    (site.take turn).2.before turn.subject =
      (turn.deed.carryOut turn.number turn.now (site.before turn.subject)).2 := by
  simp [take, before]

theorem before_take_of_ne (site : Site ι ω τ) (turn : Turn ι ω τ) (ne : key ≠ turn.subject) :
    (site.take turn).2.before key =
      { site.before key with
        table := (turn.deed.carryOut turn.number turn.now (site.before turn.subject)).2.table } := by
  simp [take, before, ne]

theorem Devoted.take (devoted : site.Devoted balancers)
    (isFor : turn.deed.IsFor (balancers turn.subject) turn.subject) :
    (site.take turn).2.Devoted balancers := by
  intro key
  by_cases same : key = turn.subject
  next =>
    subst same
    rw [before_take_self]
    exact devoted_carryOut (devoted turn.subject) isFor
  next =>
    rw [before_take_of_ne _ _ same]
    exact (devoted key).onTable _

theorem Devoted.alike_take (devoted : site.Devoted balancers)
    (isFor : turn.deed.IsFor (balancers turn.subject) turn.subject) (ne : key ≠ turn.subject) :
    State.Alike key ((site.take turn).2.before key) (site.before key) := by
  rw [before_take_of_ne _ _ ne]
  exact ⟨rfl, rfl,
    get?_carryOut_of_ne (devoted turn.subject) isFor (mt RouteKey.encode_injective ne)⟩

theorem take_alike (alike : State.Alike turn.subject (site.before turn.subject) (other.before turn.subject))
    (devoted : site.Devoted balancers)
    (isFor : turn.deed.IsFor (balancers turn.subject) turn.subject) :
    (site.take turn).1 = (other.take turn).1 ∧
      State.Alike turn.subject ((site.take turn).2.before turn.subject)
        ((other.take turn).2.before turn.subject) := by
  rw [before_take_self, before_take_self]
  exact alike_carryOut alike (devoted turn.subject) isFor

theorem Devoted.after (devoted : site.Devoted balancers)
    (addressed : ∀ turn ∈ turns, turn.deed.IsFor (balancers turn.subject) turn.subject) :
    (site.after turns).Devoted balancers := by
  induction turns generalizing site with
  | nil => exact devoted
  | cons turn rest ih =>
    exact ih (devoted.take (addressed turn (List.mem_cons_self ..)))
      fun turn member => addressed turn (List.mem_cons_of_mem _ member)

theorem after_append (site : Site ι ω τ) (earlier later : List (Turn ι ω τ)) :
    site.after (earlier ++ later) = (site.after earlier).after later :=
  List.foldl_append

variable {first second : RouteKey}

theorem Devoted.entry_after (devoted : site.Devoted balancers)
    (addressed : ∀ turn ∈ turns, turn.deed.IsFor (balancers turn.subject) turn.subject)
    (elsewhere : ∀ turn ∈ turns, turn.subject ≠ key) :
    (site.after turns).table.get? key.encode = site.table.get? key.encode := by
  induction turns generalizing site with
  | nil => rfl
  | cons turn rest ih =>
    have isFor := addressed turn (List.mem_cons_self ..)
    have ne := elsewhere turn (List.mem_cons_self ..)
    have later := ih (devoted.take isFor)
      (fun turn member => addressed turn (List.mem_cons_of_mem _ member))
      (fun turn member => elsewhere turn (List.mem_cons_of_mem _ member))
    exact later.trans (devoted.alike_take isFor ne.symm).entry

theorem Devoted.told_without (devoted : site.Devoted balancers) (devoted' : other.Devoted balancers)
    (alike : State.Alike second (site.before second) (other.before second))
    (addressed : ∀ turn ∈ turns, turn.deed.IsFor (balancers turn.subject) turn.subject)
    (distinct : first ≠ second) :
    site.told second turns = other.told second (turns.filter fun turn => turn.subject ≠ first) := by
  -- One run goes on alone with the first object's turns; for the second's, both take the same.
  induction turns generalizing site other with
  | nil => rfl
  | cons turn rest ih =>
    have isFor := addressed turn (List.mem_cons_self ..)
    have others := fun turn member => addressed turn (List.mem_cons_of_mem _ member)
    by_cases own : turn.subject = second
    next =>
      subst own
      obtain ⟨replies, leaves⟩ := take_alike alike devoted isFor
      rw [List.filter_cons_of_pos (by simpa using distinct.symm), told_cons_self, told_cons_self, replies,
        ih (devoted.take isFor) (devoted'.take isFor) leaves others]
    next =>
      have aside := devoted.alike_take isFor (Ne.symm own)
      rw [told_cons_of_ne _ _ own]
      by_cases gone : turn.subject = first
      next =>
        rw [List.filter_cons_of_neg (by simpa using gone)]
        exact ih (devoted.take isFor) devoted' (aside.trans alike) others
      next =>
        have aside' := devoted'.alike_take isFor (Ne.symm own)
        rw [List.filter_cons_of_pos (by simpa using gone), told_cons_of_ne _ _ own]
        exact ih (devoted.take isFor) (devoted'.take isFor) ((aside.trans alike).trans aside'.symm) others

end Runs

end Site

variable [DecidableEq ι] [Zero ω] [Add ω] [Sub ω] [LT ω] [DecidableLT ω]

/-- The record of another object stays as it is; and if the turns for one object are left out, the
clients of the other are told the same. -/
theorem objects_isolated (table : Table) (balancers : RouteKey → ι → Balancer ω)
    (turns : List (Turn ι ω τ)) {first second : RouteKey} (distinct : first ≠ second)
    (addressed : ∀ turn ∈ turns, turn.deed.IsFor (balancers turn.subject) turn.subject) :
    (∀ earlier stretch, earlier ++ stretch <+: turns → (∀ turn ∈ stretch, turn.subject = first) →
      ((Site.opened table balancers).after (earlier ++ stretch)).table.get? second.encode =
        ((Site.opened table balancers).after earlier).table.get? second.encode) ∧
    (Site.opened table balancers).told second turns =
      (Site.opened table balancers).told second (turns.filter fun turn => turn.subject ≠ first) := by
  have devoted : (Site.opened table balancers : Site ι ω τ).Devoted balancers :=
    Site.devoted_opened table balancers
  refine ⟨fun earlier stretch among theirs => ?_, devoted.told_without devoted ⟨rfl, rfl, rfl⟩ addressed
    distinct⟩
  have within : ∀ turn ∈ earlier ++ stretch, turn.deed.IsFor (balancers turn.subject) turn.subject :=
    fun turn member => addressed turn (among.subset member)
  rw [Site.after_append]
  exact (devoted.after fun turn member => within turn (List.mem_append_left _ member)).entry_after
    (fun turn member => within turn (List.mem_append_right _ member))
    fun turn member => theirs turn member ▸ distinct

def desk (key : RouteKey) (_ : Unit) : Balancer Nat :=
  ⟨.master, .make .master key.space, ⟨key.partition⟩, .empty, rfl⟩

def hall : RouteKey := ⟨"a_b", "c", 1⟩

def yard : RouteKey := ⟨"a", "b_c", 1⟩

def crossing : List (Turn Unit Nat Unit) :=
  let view := View.make .master "a"
  [⟨yard, 0, 5, .ask view "b_c" 1 (.set "10.0.0.1:9000")⟩,
    ⟨hall, 1, 6, .pick (.ask () (Metadata.empty.set Metadata.objectIdField "1")
      [⟨"10.0.0.2:9000", 1, "c", ()⟩])⟩,
    ⟨hall, 2, 7, .pick (.choose 1)⟩,
    ⟨yard, 3, 8, .askAll view "b_c" [1]⟩,
    ⟨hall, 4, 9, .pick (.claim 1)⟩,
    ⟨yard, 5, 10, .ask view "b_c" 1 (.deleteIf "10.0.0.2:9000")⟩]

theorem objects_isolated_crossing :
    hall ≠ yard ∧ (∀ turn ∈ crossing, turn.deed.IsFor (desk turn.subject) turn.subject) ∧
      ((Site.opened ∅ desk).after (crossing.take 3)).table.get? yard.encode =
        some (Store.Record.bind "10.0.0.1:9000" 5 .defaultTtl).encode ∧
      (Site.opened ∅ desk).told yard crossing =
        (Site.opened ∅ desk).told yard (crossing.filter fun turn => turn.subject ≠ hall) ∧
      ((Site.opened ∅ desk).told yard crossing).length = 3 := by
  have distinct : hall ≠ yard := by decide
  have addressed : ∀ turn ∈ crossing, turn.deed.IsFor (desk turn.subject) turn.subject := by
    intro turn member
    simp only [crossing, List.mem_cons, List.not_mem_nil, or_false] at member
    rcases member with rfl | rfl | rfl | rfl | rfl | rfl
    · rfl
    · exact ⟨rfl, rfl, rfl⟩
    · trivial
    · exact fun objectId member => by rw [List.mem_singleton.1 member]; rfl
    · trivial
    · rfl
  obtain ⟨entry, told⟩ := objects_isolated ∅ desk crossing distinct addressed
  have entered : ((Site.opened ∅ desk).after (crossing.take 1)).table.get? yard.encode =
      some (Store.Record.bind "10.0.0.1:9000" 5 .defaultTtl).encode := rfl
  have stretch := entry (crossing.take 1) ((crossing.take 3).drop 1) ⟨crossing.drop 3, rfl⟩
    (by simp [crossing])
  exact ⟨distinct, addressed, stretch.trans entered, told, rfl⟩

end StickyRouting.Interleaving
