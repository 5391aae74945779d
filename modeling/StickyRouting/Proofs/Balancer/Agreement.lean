import StickyRouting.Proofs.Balancer.Interleaving
import Mathlib.Algebra.GroupWithZero.Nat

set_option autoImplicit false

namespace StickyRouting.Interleaving

open Store.Embedded (Bound Holds)

variable {ι ω τ : Type}

def Pick.IsFor (balancers : ι → Balancer ω) (partition : String) (objectId : Int64)
    (pick : Pick ι ω τ) : Prop :=
  (balancers pick.who).filter.partition pick.md = partition ∧ pick.md.objectId = .ok objectId

theorem key_of_isFor {balancers : ι → Balancer ω} {space partition key : String} {objectId : Int64}
    {pick : Pick ι ω τ} (shared : ∀ who, (balancers who).view.space = space)
    (isFor : pick.IsFor balancers partition objectId)
    (named : (balancers pick.who).keyFor pick.md pick.candidates = .ok key) :
    key = RouteKey.encode ⟨space, partition, objectId⟩ :=
  Balancer.encode_of_keyFor named (shared _) isFor.1 isFor.2

theorem keyFor_ne_outsider {balancer : Balancer ω} {md : Metadata} {candidates : List (Node ω τ)}
    {key address : String} : balancer.keyFor md candidates ≠ .error (.outsider key address) := by
  unfold Balancer.keyFor
  split
  next => nofun
  next => split <;> nofun

section Runs

variable [DecidableEq ι] [Zero ω] [Add ω] [Sub ω] [LT ω] [DecidableLT ω]

structure Verdict (schedule : Schedule ι ω τ) (id : Nat) (key : String) (who : ι)
    (candidates : List (Node ω τ)) (outcome : Balancer.Outcome ω τ) (decided : Nat) : Prop where
  bound : ∀ node source, outcome = .ok ⟨node, source⟩ → source ≠ .selected →
    Bound (schedule.table (decided + 1)) key node.address
  claimed : ∀ node, outcome = .ok ⟨node, .claimed⟩ → schedule.act decided = .claim id ∧
    ∀ value, ¬ Holds (schedule.now decided) (schedule.table decided) key value
  outsider : ∀ named address, outcome = .error (.outsider named address) →
    named = key ∧ (schedule.balancers who).role = .master ∧ schedule.act decided = .claim id ∧
      Holds (schedule.now decided) (schedule.table decided) key address ∧
      Node.at? candidates address = none

inductive Justified (schedule : Schedule ι ω τ) (id : Nat) : Pick ι ω τ → Prop where
  | asked {who : ι} {md : Metadata} {candidates : List (Node ω τ)} {since : Nat} {key : String}
      {answer : Except RouteError (Option String)}
      (named : (schedule.balancers who).keyFor md candidates = .ok key)
      (read : ∀ address, answer = .ok (some address) →
        Bound (schedule.table (since + 1)) key address) :
      Justified schedule id ⟨who, md, candidates, since, .asked key answer⟩
  | claiming {who : ι} {md : Metadata} {candidates : List (Node ω τ)} {since : Nat} {key : String}
      {proposal : Node ω τ} (named : (schedule.balancers who).keyFor md candidates = .ok key)
      (master : (schedule.balancers who).role = .master) :
      Justified schedule id ⟨who, md, candidates, since, .claiming key proposal⟩
  | refused {who : ι} {md : Metadata} {candidates : List (Node ω τ)} {since decided : Nat}
      {e : PickError} (refused : (schedule.balancers who).keyFor md candidates = .error e) :
      Justified schedule id ⟨who, md, candidates, since, .settled (.error e) decided⟩
  | decided {who : ι} {md : Metadata} {candidates : List (Node ω τ)} {since decided : Nat}
      {key : String} {outcome : Balancer.Outcome ω τ}
      (named : (schedule.balancers who).keyFor md candidates = .ok key)
      (verdict : Verdict schedule id key who candidates outcome decided) :
      Justified schedule id ⟨who, md, candidates, since, .settled outcome decided⟩

structure Sound (schedule : Schedule ι ω τ) (n : Nat) : Prop where
  balancers : ∀ who, ∃ picker,
    (schedule.state n).balancers who = (schedule.balancers who).withPicker picker
  picks : ∀ id pick, (schedule.state n).picks id = some pick → Justified schedule id pick

theorem sound_zero (schedule : Schedule ι ω τ) : Sound schedule 0 :=
  ⟨fun who => ⟨(schedule.balancers who).picker, rfl⟩, nofun⟩

theorem verdict_of_choice {schedule : Schedule ι ω τ} {id : Nat} {key : String} {who : ι}
    {candidates : List (Node ω τ)} {balancer : Balancer ω} {since : Nat}
    {answer : Except RouteError (Option String)} {outcome : Balancer.Outcome ω τ}
    (chooses : balancer.Chooses answer (.settled outcome))
    (read : ∀ address, answer = .ok (some address) → Bound (schedule.table (since + 1)) key address) :
    Verdict schedule id key who candidates outcome since := by
  cases chooses with
  | sticky =>
    refine ⟨fun node source picked _ => ?_, nofun, nofun⟩
    injection picked with picked
    injection picked with same
    exact same ▸ read _ rfl
  | broken => exact ⟨nofun, nofun, nofun⟩
  | noNode => exact ⟨nofun, nofun, nofun⟩
  | selected =>
    refine ⟨fun node source picked stays => ?_, nofun, nofun⟩
    injection picked with picked
    injection picked with _ selected
    exact absurd selected.symm stays

theorem justified_of_choice {schedule : Schedule ι ω τ} {id : Nat} {key : String} {who : ι}
    {md : Metadata} {candidates : List (Node ω τ)} {balancer : Balancer ω} {since : Nat}
    {answer : Except RouteError (Option String)} {standing : Balancer.Standing ω τ}
    (named : (schedule.balancers who).keyFor md candidates = .ok key)
    (read : ∀ address, answer = .ok (some address) → Bound (schedule.table (since + 1)) key address)
    (role : balancer.role = (schedule.balancers who).role)
    (chooses : balancer.Chooses answer standing) :
    Justified schedule id ⟨who, md, candidates, since, .after key since standing⟩ := by
  cases standing with
  | settled outcome => exact .decided named (verdict_of_choice chooses read)
  | claiming proposal =>
    cases chooses with
    | proposed master => exact .claiming named (role ▸ master)

theorem verdict_of_claim {schedule : Schedule ι ω τ} {n id : Nat} {key : String} {who : ι}
    {candidates : List (Node ω τ)} {proposal : Node ω τ} {ttl : Duration}
    {answer : Except RouteError Store.Claim} {outcome : Balancer.Outcome ω τ}
    (master : (schedule.balancers who).role = .master) (acts : schedule.act n = .claim id)
    (answered : Store.Embedded.perform (schedule.now n) (.claim key proposal.address ttl)
      (schedule.table n) = (answer, schedule.table (n + 1)))
    (concludes : Balancer.Concludes key candidates proposal answer outcome) :
    Verdict schedule id key who candidates outcome n := by
  have spec {claim : Store.Claim} (ok : answer = .ok claim) :=
    Store.Embedded.bound_of_claim ((congrArg Prod.fst answered).trans ok)
  rw [answered] at spec
  cases concludes with
  | broken => exact ⟨nofun, nofun, nofun⟩
  | claimed =>
    obtain ⟨bound, made, -⟩ := spec rfl
    obtain ⟨rfl, absent⟩ := made rfl
    refine ⟨fun node source picked _ => ?_, fun node _ => ⟨acts, absent⟩, nofun⟩
    injection picked with picked
    injection picked with same
    exact same ▸ bound
  | adopted =>
    obtain ⟨bound, -, -⟩ := spec rfl
    refine ⟨fun node source picked _ => ?_, nofun, nofun⟩
    injection picked with picked
    injection picked with same
    exact same ▸ bound
  | outsider absent =>
    obtain ⟨-, -, held⟩ := spec rfl
    refine ⟨nofun, nofun, fun named address refused => ?_⟩
    injection refused with refused
    injection refused with same value
    subst same value
    exact ⟨rfl, master, acts, held rfl, absent⟩

namespace Sound

variable {schedule : Schedule ι ω τ} {n : Nat}

theorem keyFor (sound : Sound schedule n) (who : ι) (md : Metadata) (candidates : List (Node ω τ)) :
    ((schedule.state n).balancers who).keyFor md candidates =
      (schedule.balancers who).keyFor md candidates := by
  obtain ⟨picker, same⟩ := sound.balancers who
  rw [same, Balancer.keyFor_withPicker]

theorem role (sound : Sound schedule n) (who : ι) :
    ((schedule.state n).balancers who).role = (schedule.balancers who).role := by
  obtain ⟨picker, same⟩ := sound.balancers who
  rw [same, Balancer.withPicker_role]

theorem view (sound : Sound schedule n) (who : ι) :
    ((schedule.state n).balancers who).view = (schedule.balancers who).view := by
  obtain ⟨picker, same⟩ := sound.balancers who
  rw [same, Balancer.withPicker_view]

theorem put {state : State ι ω τ} {id other : Nat} {pick held : Pick ι ω τ} (sound : Sound schedule n)
    (found : (state.put id pick).picks other = some held)
    (kept : state.picks = (schedule.state n).picks) (justified : Justified schedule id pick) :
    Justified schedule other held := by
  rw [State.put_picks] at found
  split at found
  next same =>
    obtain rfl := Option.some.inj found
    exact same ▸ justified
  next => exact sound.picks other held (kept ▸ found)

theorem balancers_succ (sound : Sound schedule n) (who : ι) :
    ∃ picker, (schedule.state (n + 1)).balancers who =
      (schedule.balancers who).withPicker picker := by
  have moves := schedule.moves n
  generalize schedule.act n = act, schedule.state (n + 1) = after at moves ⊢
  cases moves with
  | idle => exact sound.balancers who
  | refused => exact sound.balancers who
  | asked => exact sound.balancers who
  | @chosen _ _ chooser _ candidates _ answer _ _ held chose =>
    by_cases same : who = chooser
    next =>
      -- A choice moves the picker of its balancer on and changes nothing else of it.
      subst same
      obtain ⟨picker, before⟩ := sound.balancers who
      obtain ⟨-, picker', after⟩ := ((schedule.state n).balancers who).afterRead_chooses candidates answer
      rw [chose, before] at after
      exact ⟨picker', (Function.update_self ..).trans after⟩
    next => simpa [same] using sound.balancers who
  | claimed => exact sound.balancers who

theorem picks_succ (sound : Sound schedule n) {id : Nat} {pick : Pick ι ω τ}
    (found : (schedule.state (n + 1)).picks id = some pick) : Justified schedule id pick := by
  have moves := schedule.moves n
  generalize acts : schedule.act n = act, reached : schedule.state (n + 1) = after at moves found
  cases moves with
  | idle => exact sound.picks id pick found
  | refused refused =>
    rw [sound.keyFor] at refused
    exact sound.put found rfl (.refused refused)
  | asked named read =>
    -- What is known of the table is told of the table after this step, whatever comes later.
    rw [sound.keyFor] at named
    have left : schedule.table (n + 1) = _ := congrArg State.table reached
    refine sound.put found rfl (.asked named fun address told => ?_)
    rw [left]
    have bound := Store.Embedded.bound_of_read ((congrArg Prod.fst read).trans told)
    rwa [read] at bound
  | @chosen _ _ chooser _ candidates _ answer _ _ held chose =>
    have chooses := (((schedule.state n).balancers chooser).afterRead_chooses candidates answer).1
    rw [chose] at chooses
    refine sound.put found rfl ?_
    cases sound.picks _ _ held with
    | asked named read => exact justified_of_choice named read (sound.role chooser) chooses
  | @claimed _ _ claimer _ candidates key proposal answer table held answered =>
    have left : schedule.table (n + 1) = table := congrArg State.table reached
    refine sound.put found rfl ?_
    cases sound.picks _ _ held with
    | claiming named master =>
      rw [← left] at answered
      exact .decided named (verdict_of_claim master acts answered
        (Balancer.afterClaim_concludes key candidates proposal answer))

theorem succ (sound : Sound schedule n) : Sound schedule (n + 1) :=
  ⟨sound.balancers_succ, fun _ _ found => sound.picks_succ found⟩

end Sound

theorem sound (schedule : Schedule ι ω τ) (n : Nat) : Sound schedule n := by
  induction n with
  | zero => exact sound_zero schedule
  | succ n ih => exact ih.succ

/-- The entry of the key does not lapse after step `i` and until step `j` has come. -/
def Schedule.Lasts (schedule : Schedule ι ω τ) (key : String) (i j : Nat) : Prop :=
  ∀ k, i < k → k ≤ j → ∃ value, Holds (schedule.now k) (schedule.table k) key value

def Schedule.Succeeds (schedule : Schedule ι ω τ) (partition : String) (objectId : Int64) (id : Nat)
    (node : Node ω τ) (source : Source) (decided : Nat) : Prop :=
  ∃ n pick, (schedule.state n).picks id = some pick ∧
    pick.IsFor schedule.balancers partition objectId ∧
    pick.stage = .settled (.ok ⟨node, source⟩) decided ∧ source ≠ .selected

variable {schedule : Schedule ι ω τ} {space : String}

theorem holds_step (lasting : ∀ who, 1 ≤ (schedule.balancers who).view.ttl.millis) {n : Nat}
    {key value : String} (holds : Holds (schedule.now n) (schedule.table n) key value) :
    Holds (schedule.now n) (schedule.table (n + 1)) key value := by
  have moves := schedule.moves n
  generalize schedule.act n = act, reached : schedule.state (n + 1) = after at moves
  have left : schedule.table (n + 1) = _ := congrArg State.table reached
  have lasting' (who : ι) : 1 ≤ ((schedule.state n).balancers who).view.ttl.millis := by
    rw [(sound schedule n).view]
    exact lasting who
  rw [left]
  cases moves with
  | idle => exact holds
  | refused => exact holds
  | @asked who _ _ key' _ _ _ read =>
    have kept := holds.perform_read key' (lasting' who)
    rwa [Schedule.table, read] at kept
  | chosen => exact holds
  | @claimed _ _ who _ _ key' proposal _ _ _ answered =>
    have kept := holds.perform_claim key' proposal.address ((schedule.state n).balancers who).view.ttl
    rwa [Schedule.table, answered] at kept

theorem bound_of_lasts (lasting : ∀ who, 1 ≤ (schedule.balancers who).view.ttl.millis)
    {key address : String} {i j : Nat} (bound : Bound (schedule.table (i + 1)) key address)
    (forward : i ≤ j) (lasts : schedule.Lasts key i j) :
    Bound (schedule.table (j + 1)) key address := by
  induction forward with
  | refl => exact bound
  | step forward ih =>
    have before := ih fun k after upto => lasts k after (Nat.le_succ_of_le upto)
    obtain ⟨value, holds⟩ := lasts _ (Nat.lt_succ_of_le forward) (Nat.le_refl _)
    exact (holds_step lasting (before.holds holds)).bound

theorem Schedule.Succeeds.verdict (shared : ∀ who, (schedule.balancers who).view.space = space)
    {partition : String} {objectId : Int64} {id : Nat} {node : Node ω τ} {source : Source}
    {decided : Nat} (succeeds : schedule.Succeeds partition objectId id node source decided) :
    ∃ who candidates, Verdict schedule id (RouteKey.encode ⟨space, partition, objectId⟩) who candidates
      (.ok ⟨node, source⟩) decided := by
  obtain ⟨n, pick, held, isFor, settled, -⟩ := succeeds
  have justified := (sound schedule n).picks id pick held
  cases justified <;> cases settled
  case decided named verdict =>
    obtain rfl := key_of_isFor shared isFor named
    exact ⟨_, _, verdict⟩

theorem picks_agree_succeed (shared : ∀ who, (schedule.balancers who).view.space = space)
    (lasting : ∀ who, 1 ≤ (schedule.balancers who).view.ttl.millis) {partition : String}
    {objectId : Int64} {id id' i j : Nat} {node node' : Node ω τ} {source source' : Source}
    (one : schedule.Succeeds partition objectId id node source i)
    (other : schedule.Succeeds partition objectId id' node' source' j) (forward : i ≤ j)
    (lasts : schedule.Lasts (RouteKey.encode ⟨space, partition, objectId⟩) i j) :
    node.address = node'.address ∧ (source = .claimed → source' = .claimed → id = id') := by
  obtain ⟨who, candidates, first⟩ := one.verdict shared
  obtain ⟨who', candidates', second⟩ := other.verdict shared
  obtain ⟨_, _, _, _, _, stays⟩ := one
  obtain ⟨_, _, _, _, _, stays'⟩ := other
  refine ⟨?_, ?_⟩
  next =>
    have bound := bound_of_lasts lasting (first.bound _ _ rfl stays) forward lasts
    exact bound.unique (second.bound _ _ rfl stays')
  next =>
    rintro rfl rfl
    obtain ⟨acts, -⟩ := first.claimed _ rfl
    obtain ⟨acts', absent⟩ := second.claimed _ rfl
    -- A later claim would have come upon the entry that the first one made.
    rcases Nat.lt_or_eq_of_le forward with later | rfl
    next =>
      obtain ⟨value, holds⟩ := lasts j later (Nat.le_refl _)
      exact absurd holds (absent value)
    next =>
      injection acts.symm.trans acts'

theorem lost_to_outsider (shared : ∀ who, (schedule.balancers who).view.space = space)
    {partition address named : String} {objectId : Int64} {n id : Nat} {pick : Pick ι ω τ}
    {proposal : Node ω τ} (held : (schedule.state n).picks id = some pick)
    (isFor : pick.IsFor schedule.balancers partition objectId)
    (claiming : pick.stage = .claiming named proposal) (acts : schedule.act n = .claim id)
    (holds : Holds (schedule.now n) (schedule.table n)
      (RouteKey.encode ⟨space, partition, objectId⟩) address)
    (outside : Node.at? pick.candidates address = none) :
    (schedule.state (n + 1)).picks id = some { pick with
      stage := .settled
        (.error (.outsider (RouteKey.encode ⟨space, partition, objectId⟩) address)) n } := by
  have justified := (sound schedule n).picks id pick held
  cases justified <;> cases claiming
  case claiming who _ _ _ _ named =>
    obtain rfl := key_of_isFor shared isFor named
    have lost := Store.Embedded.claim_of_holds proposal.address
      ((schedule.state n).balancers who).view.ttl holds
    rw [Schedule.state, acts, step_claim held (Prod.ext lost rfl), State.put_picks_self]
    simp [Balancer.afterClaim, outside]

theorem outsider_of_settled (shared : ∀ who, (schedule.balancers who).view.space = space)
    {partition address named : String} {objectId : Int64} {n id decided : Nat} {pick : Pick ι ω τ}
    (held : (schedule.state n).picks id = some pick)
    (isFor : pick.IsFor schedule.balancers partition objectId)
    (settled : pick.stage = .settled (.error (.outsider named address)) decided) :
    named = RouteKey.encode ⟨space, partition, objectId⟩ ∧
      (schedule.balancers pick.who).role = .master ∧ schedule.act decided = .claim id ∧
      Holds (schedule.now decided) (schedule.table decided)
        (RouteKey.encode ⟨space, partition, objectId⟩) address ∧
      Node.at? pick.candidates address = none := by
  have justified := (sound schedule n).picks id pick held
  cases justified <;> cases settled
  case refused refused => exact absurd refused keyFor_ne_outsider
  case decided named verdict =>
    obtain rfl := key_of_isFor shared isFor named
    exact verdict.outsider _ _ rfl

/-- Picks for one object between which its entry lasts end with one address, and no two of them have
made it. A claim fails with an outsider just when it is lost to one. -/
theorem picks_agree (schedule : Schedule ι ω τ) (space : String)
    (shared : ∀ who, (schedule.balancers who).view.space = space)
    (lasting : ∀ who, 1 ≤ (schedule.balancers who).view.ttl.millis) :
    (∀ n key value, Holds (schedule.now n) (schedule.table n) key value →
      Holds (schedule.now n) (schedule.table (n + 1)) key value) ∧
    ∀ partition objectId, let key := RouteKey.encode ⟨space, partition, objectId⟩
      (∀ id node source i id' node' source' j,
        schedule.Succeeds partition objectId id node source i →
        schedule.Succeeds partition objectId id' node' source' j → i ≤ j → schedule.Lasts key i j →
        node.address = node'.address ∧ (source = .claimed → source' = .claimed → id = id')) ∧
      (∀ n id pick named proposal address, (schedule.state n).picks id = some pick →
        pick.IsFor schedule.balancers partition objectId → pick.stage = .claiming named proposal →
        schedule.act n = .claim id → Holds (schedule.now n) (schedule.table n) key address →
        Node.at? pick.candidates address = none →
        (schedule.state (n + 1)).picks id =
          some { pick with stage := .settled (.error (.outsider key address)) n }) ∧
      ∀ n id pick named address decided, (schedule.state n).picks id = some pick →
        pick.IsFor schedule.balancers partition objectId →
        pick.stage = .settled (.error (.outsider named address)) decided →
        named = key ∧ (schedule.balancers pick.who).role = .master ∧
          schedule.act decided = .claim id ∧
          Holds (schedule.now decided) (schedule.table decided) key address ∧
          Node.at? pick.candidates address = none := by
  refine ⟨fun n key value holds => holds_step lasting holds, fun partition objectId => ⟨?_, ?_, ?_⟩⟩
  next =>
    intro id node source i id' node' source' j one other forward lasts
    exact picks_agree_succeed shared lasting one other forward lasts
  next =>
    intro n id pick named proposal address held isFor claiming acts holds outside
    exact lost_to_outsider shared held isFor claiming acts holds outside
  next =>
    intro n id pick named address decided held isFor settled
    exact outsider_of_settled shared held isFor settled

end Runs

def east : Node Nat Unit := ⟨"10.0.0.1:9000", 1, "blue", ()⟩

def west : Node Nat Unit := ⟨"10.0.0.2:9000", 1, "blue", ()⟩

def rival : Balancer Nat := ⟨.master, .make .master "room" (.ofMillis 10), ⟨"blue"⟩, .empty, rfl⟩

def request : Metadata := Metadata.empty.set Metadata.objectIdField "99"

def rivals : Schedule Bool Nat Unit where
  opening := ∅
  balancers := fun _ => rival
  now := id
  act
    | 0 => .ask false request [east, west]
    | 1 => .ask true request [west, east]
    | 2 => .choose 0
    | 3 => .choose 1
    | 4 => .claim 0
    | _ => .claim 1

theorem rivals_hold : Holds 5 (rivals.table 5) "r_room_{blue}_{99}" east.address :=
  ⟨⟨east.address, 14⟩, (Store.Embedded.stored_insert ∅ _ _ ⟨east.address, 14⟩ (by decide)).trans
    (if_pos rfl), by decide, rfl⟩

theorem picks_agree_rivals :
    (∀ who, (rivals.balancers who).view.space = "room") ∧
      (∀ who, 1 ≤ (rivals.balancers who).view.ttl.millis) ∧
      rivals.Succeeds "blue" 99 0 east .claimed 4 ∧
      rivals.Lasts (RouteKey.encode ⟨"room", "blue", 99⟩) 4 5 ∧
      ∃ node, rivals.Succeeds "blue" 99 1 node .adopted 5 ∧ east.address = node.address := by
  have shared : ∀ who, (rivals.balancers who).view.space = "room" := fun _ => rfl
  have lasting : ∀ who, 1 ≤ (rivals.balancers who).view.ttl.millis := fun _ =>
    show 1 ≤ rival.view.ttl.millis by decide
  have made : rivals.Succeeds "blue" 99 0 east .claimed 4 :=
    ⟨5, ⟨false, request, [east, west], 0, _⟩, rfl, ⟨rfl, rfl⟩, rfl, nofun⟩
  have lasts : rivals.Lasts (RouteKey.encode ⟨"room", "blue", 99⟩) 4 5 := by
    intro k after upto
    obtain rfl : k = 5 := by omega
    exact ⟨_, rivals_hold⟩
  have adopts : rivals.Succeeds "blue" 99 1 east .adopted 5 := by
    have claiming : (rivals.state 5).picks 1 = some ⟨true, request, [west, east], 1,
      .claiming "r_room_{blue}_{99}" west⟩ := rfl
    have lost := Store.Embedded.claim_of_holds west.address rival.view.ttl rivals_hold
    refine ⟨6, ⟨true, request, [west, east], 1, .settled (.ok ⟨east, .adopted⟩) 5⟩, ?_, ⟨rfl, rfl⟩, rfl,
      nofun⟩
    rw [show (rivals.state 6).picks 1 = (step 5 5 (.claim 1) (rivals.state 5)).picks 1 from rfl,
      step_claim claiming (Prod.ext lost rfl), State.put_picks_self]
    rfl
  exact ⟨shared, lasting, made, lasts, east, adopts,
    (((picks_agree rivals "room" shared lasting).2 "blue" 99).1 0 east .claimed 4 1 east .adopted 5 made
      adopts (by decide) lasts).1⟩

end StickyRouting.Interleaving
