import Mathlib.Algebra.GroupWithZero.Nat
import StickyRouting.Proofs.Balancer.Interleaving
import StickyRouting.Proofs.Picker.Round
import StickyRouting.Proofs.Store.History

set_option autoImplicit false

namespace StickyRouting

namespace Store

variable {σ : Type}

def recorded (engine : Engine σ) : Engine (List Event × σ) := fun now call (log, store) =>
  let (answer, store) := engine now call store
  (answer, log ++ [⟨now, .call call, answer⟩], store)

theorem recorded_eq {engine : Engine σ} {now : Nat} {call : Call} {store left : σ}
    {answer : Except RouteError call.Answer} (does : engine now call store = (answer, left))
    (log : List Event) :
    recorded engine now call (log, store) = (answer, log ++ [⟨now, .call call, answer⟩], left) := by
  simp only [recorded, does]

abbrev Event.read (now : Nat) (key : String) (ttl : Duration)
    (answer : Except RouteError (Option String)) : Event :=
  ⟨now, .call (.getRenewing key ttl), answer⟩

abbrev Event.claim (now : Nat) (key value : String) (ttl : Duration)
    (answer : Except RouteError Claim) : Event :=
  ⟨now, .call (.claim key value ttl), answer⟩

end Store

theorem Node.eq_iff_of_at? {ω τ : Type} {candidates : List (Node ω τ)} {node other : Node ω τ}
    (found : Node.at? candidates node.address = some node) :
    node = other ↔ Node.at? candidates other.address = some other ∧ node.address = other.address := by
  constructor
  case mp =>
    rintro rfl
    exact ⟨found, rfl⟩
  case mpr =>
    rintro ⟨here, same⟩
    rw [same, here] at found
    exact (Option.some.inj found).symm

namespace Balancer

open Store (Event)

variable {ω τ σ : Type}

theorem afterClaim_of_absent {key address : String} {candidates : List (Node ω τ)} {node : Node ω τ}
    (absent : Node.at? candidates address = none) :
    afterClaim key candidates node (.ok ⟨false, address⟩) = .error (.outsider key address) := by
  simp [afterClaim, absent]

section Course

variable [Zero ω] [Add ω] [Sub ω] [LT ω] [DecidableLT ω]

section Picks

variable {engine : Store.Engine σ} {now : Nat} {balancer : Balancer ω} {md : Metadata}
  {candidates : List (Node ω τ)} {key : String} {store next last : σ} {bound : Option String}
  {node : Node ω τ} {picker : Picker ω}

theorem pick_of_unread {cause : RouteError} (named : balancer.keyFor md candidates = .ok key)
    (read : engine now (.getRenewing key balancer.view.ttl) store = (.error cause, next)) :
    balancer.pick engine now md candidates store = (.error (.store cause), balancer, next) := by
  simp [pick, named, read, afterRead]

theorem pick_of_bound {address : String} (named : balancer.keyFor md candidates = .ok key)
    (read : engine now (.getRenewing key balancer.view.ttl) store = (.ok (some address), next))
    (found : Node.at? candidates address = some node) :
    balancer.pick engine now md candidates store = (.ok ⟨node, .sticky⟩, balancer, next) := by
  simp [pick, named, read, afterRead, found]

theorem pick_of_reader (reader : balancer.role = .reader)
    (named : balancer.keyFor md candidates = .ok key)
    (read : engine now (.getRenewing key balancer.view.ttl) store = (.ok bound, next))
    (elsewhere : bound.bind (Node.at? candidates) = none)
    (chose : balancer.picker.select candidates = (some node, picker)) :
    balancer.pick engine now md candidates store =
      (.ok ⟨node, .selected⟩, balancer.withPicker picker, next) := by
  simp [pick, named, read, afterRead, elsewhere, chose, reader]

theorem pick_of_master {answer : Except RouteError Store.Claim} (master : balancer.role = .master)
    (named : balancer.keyFor md candidates = .ok key)
    (read : engine now (.getRenewing key balancer.view.ttl) store = (.ok bound, next))
    (elsewhere : bound.bind (Node.at? candidates) = none)
    (chose : balancer.picker.select candidates = (some node, picker))
    (claim : engine now (.claim key node.address balancer.view.ttl) next = (answer, last)) :
    balancer.pick engine now md candidates store =
      (afterClaim key candidates node answer, balancer.withPicker picker, last) := by
  simp [pick, named, read, afterRead, elsewhere, chose, master, claim]

end Picks

def calls (engine : Store.Engine σ) (now : Nat) (balancer : Balancer ω) (md : Metadata)
    (candidates : List (Node ω τ)) (store : σ) : List Event :=
  (balancer.pick (Store.recorded engine) now md candidates ([], store)).2.2.1

structure Proposes (engine : Store.Engine σ) (now : Nat) (balancer : Balancer ω) (key : String)
    (candidates : List (Node ω τ)) (store : σ) (bound : Option String) (node : Node ω τ)
    (between : σ) : Prop where
  master : balancer.role = .master
  read : engine now (.getRenewing key balancer.view.ttl) store = (.ok bound, between)
  elsewhere : bound.bind (Node.at? candidates) = none
  member : node ∈ candidates
  chose : (balancer.picker.select candidates).1 = some node

inductive Course (engine : Store.Engine σ) (now : Nat) (balancer : Balancer ω) (key : String)
    (candidates : List (Node ω τ)) (store : σ) :
    Outcome ω τ → Picker ω → List Event → σ → Prop where
  | unread {cause : RouteError} {left : σ}
      (read : engine now (.getRenewing key balancer.view.ttl) store = (.error cause, left)) :
      Course engine now balancer key candidates store (.error (.store cause)) balancer.picker
        [.read now key balancer.view.ttl (.error cause)] left
  | sticky {address : String} {node : Node ω τ} {left : σ}
      (read : engine now (.getRenewing key balancer.view.ttl) store = (.ok (some address), left))
      (found : Node.at? candidates address = some node) :
      Course engine now balancer key candidates store (.ok ⟨node, .sticky⟩) balancer.picker
        [.read now key balancer.view.ttl (.ok (some address))] left
  | selected {bound : Option String} {node : Node ω τ} {left : σ} (reader : balancer.role = .reader)
      (read : engine now (.getRenewing key balancer.view.ttl) store = (.ok bound, left))
      (elsewhere : bound.bind (Node.at? candidates) = none) (member : node ∈ candidates)
      (chose : (balancer.picker.select candidates).1 = some node) :
      Course engine now balancer key candidates store (.ok ⟨node, .selected⟩)
        (balancer.picker.select candidates).2 [.read now key balancer.view.ttl (.ok bound)] left
  | unclaimed {bound : Option String} {node : Node ω τ} {cause : RouteError} {between left : σ}
      (proposes : Proposes engine now balancer key candidates store bound node between)
      (claim : engine now (.claim key node.address balancer.view.ttl) between = (.error cause, left)) :
      Course engine now balancer key candidates store (.error (.store cause))
        (balancer.picker.select candidates).2
        [.read now key balancer.view.ttl (.ok bound),
          .claim now key node.address balancer.view.ttl (.error cause)] left
  | claimed {bound : Option String} {node : Node ω τ} {value : String} {between left : σ}
      (proposes : Proposes engine now balancer key candidates store bound node between)
      (claim : engine now (.claim key node.address balancer.view.ttl) between =
        (.ok ⟨true, value⟩, left)) :
      Course engine now balancer key candidates store (.ok ⟨node, .claimed⟩)
        (balancer.picker.select candidates).2
        [.read now key balancer.view.ttl (.ok bound),
          .claim now key node.address balancer.view.ttl (.ok ⟨true, value⟩)] left
  | adopted {bound : Option String} {node winner : Node ω τ} {address : String} {between left : σ}
      (proposes : Proposes engine now balancer key candidates store bound node between)
      (claim : engine now (.claim key node.address balancer.view.ttl) between =
        (.ok ⟨false, address⟩, left))
      (found : Node.at? candidates address = some winner) :
      Course engine now balancer key candidates store (.ok ⟨winner, .adopted⟩)
        (balancer.picker.select candidates).2
        [.read now key balancer.view.ttl (.ok bound),
          .claim now key node.address balancer.view.ttl (.ok ⟨false, address⟩)] left
  | outsider {bound : Option String} {node : Node ω τ} {address : String} {between left : σ}
      (proposes : Proposes engine now balancer key candidates store bound node between)
      (claim : engine now (.claim key node.address balancer.view.ttl) between =
        (.ok ⟨false, address⟩, left))
      (absent : Node.at? candidates address = none) :
      Course engine now balancer key candidates store (.error (.outsider key address))
        (balancer.picker.select candidates).2
        [.read now key balancer.view.ttl (.ok bound),
          .claim now key node.address balancer.view.ttl (.ok ⟨false, address⟩)] left

variable {balancer : Balancer ω} {md : Metadata} {candidates : List (Node ω τ)} {key : String}
  {engine : Store.Engine σ} {now : Nat} {store between left : σ} {outcome : Outcome ω τ}
  {picker : Picker ω} {log : List Event}

theorem calls_of_refused {e : PickError} (refused : balancer.keyFor md candidates = .error e) :
    balancer.calls engine now md candidates store = [] := by
  simp [calls, pick, refused]

theorem Proposes.pick_eq {bound : Option String} {node : Node ω τ} {answer : Except RouteError Store.Claim}
    (proposes : Proposes engine now balancer key candidates store bound node between)
    (named : balancer.keyFor md candidates = .ok key)
    (claim : engine now (.claim key node.address balancer.view.ttl) between = (answer, left)) :
    balancer.pick engine now md candidates store = (afterClaim key candidates node answer,
        balancer.withPicker (balancer.picker.select candidates).2, left) ∧
      balancer.calls engine now md candidates store =
        [.read now key balancer.view.ttl (.ok bound),
          .claim now key node.address balancer.view.ttl answer] := by
  obtain ⟨master, read, elsewhere, -, chose⟩ := proposes
  have selected : balancer.picker.select candidates = (some node, _) := Prod.ext chose rfl
  refine ⟨pick_of_master master named read elsewhere selected claim, ?_⟩
  rw [calls, pick_of_master master named (Store.recorded_eq read []) elsewhere selected
    (Store.recorded_eq claim _)]
  rfl

theorem Proposes.exists_course {bound : Option String} {node : Node ω τ}
    {answer : Except RouteError Store.Claim}
    (proposes : Proposes engine now balancer key candidates store bound node between)
    (claim : engine now (.claim key node.address balancer.view.ttl) between = (answer, left)) :
    Course engine now balancer key candidates store (afterClaim key candidates node answer)
      (balancer.picker.select candidates).2
      [.read now key balancer.view.ttl (.ok bound),
        .claim now key node.address balancer.view.ttl answer] left := by
  match answer with
  | .error cause => exact .unclaimed proposes claim
  | .ok ⟨true, value⟩ => exact .claimed proposes claim
  | .ok ⟨false, address⟩ =>
    cases found : Node.at? candidates address with
    | some winner => simpa [afterClaim, found] using Course.adopted proposes claim found
    | none => exact afterClaim_of_absent found ▸ .outsider proposes claim found

theorem exists_course (named : balancer.keyFor md candidates = .ok key) (engine : Store.Engine σ)
    (now : Nat) (store : σ) :
    ∃ outcome picker left,
      balancer.pick engine now md candidates store = (outcome, balancer.withPicker picker, left) ∧
        Course engine now balancer key candidates store outcome picker
          (balancer.calls engine now md candidates store) left := by
  have nonempty := (keyFor_eq_ok_iff.1 named).1
  rcases read : engine now (.getRenewing key balancer.view.ttl) store with ⟨answer, next⟩
  -- The pick goes its way on the recorded store too, and so asks for what it is told there.
  have told := Store.recorded_eq read []
  cases answer with
  | error cause =>
    rw [calls, pick_of_unread named told]
    exact ⟨_, _, _, pick_of_unread named read, .unread read⟩
  | ok bound =>
    cases found : bound.bind (Node.at? candidates) with
    | some node =>
      obtain ⟨address, rfl, here⟩ := Option.bind_eq_some_iff.1 found
      rw [calls, pick_of_bound named told here]
      exact ⟨_, _, _, pick_of_bound named read here, .sticky read here⟩
    | none =>
      obtain ⟨node, member, chose⟩ := balancer.picker.exists_select nonempty
      have selected : balancer.picker.select candidates = (some node, _) := Prod.ext chose rfl
      cases role : balancer.role with
      | reader =>
        rw [calls, pick_of_reader role named told found selected]
        exact ⟨_, _, _, pick_of_reader role named read found selected,
          .selected role read found member chose⟩
      | master =>
        rcases claim : engine now (.claim key node.address balancer.view.ttl) next with ⟨reply, last⟩
        have proposes : Proposes engine now balancer key candidates store bound node next :=
          ⟨role, read, found, member, chose⟩
        obtain ⟨picks, asks⟩ := proposes.pick_eq named claim
        exact ⟨_, _, _, picks, asks ▸ proposes.exists_course claim⟩

structure Sound (now : Nat) (balancer : Balancer ω) (key : String) (candidates : List (Node ω τ))
    (outcome : Outcome ω τ) (log : List Event) : Prop where
  calls : (∃ answer, log = [.read now key balancer.view.ttl answer]) ∨
    balancer.role = .master ∧ ∃ bound proposal answer, proposal ∈ candidates ∧
      log = [.read now key balancer.view.ttl (.ok bound),
        .claim now key proposal.address balancer.view.ttl answer]
  broken : ∀ cause, outcome = .error (.store cause) ↔
    log = [.read now key balancer.view.ttl (.error cause)] ∨
      ∃ bound value, log = [.read now key balancer.view.ttl (.ok bound),
        .claim now key value balancer.view.ttl (.error cause)]
  outsider : ∀ name address, outcome = .error (.outsider name address) ↔
    name = key ∧ (∀ node ∈ candidates, node.address ≠ address) ∧
      ∃ bound value, log = [.read now key balancer.view.ttl (.ok bound),
        .claim now key value balancer.view.ttl (.ok ⟨false, address⟩)]
  failed : ∀ e, outcome = .error e → (∃ cause, e = .store cause) ∨ ∃ address, e = .outsider key address
  candidate : ∀ node source, outcome = .ok ⟨node, source⟩ → node ∈ candidates
  sticky : ∀ node, outcome = .ok ⟨node, .sticky⟩ ↔ Node.at? candidates node.address = some node ∧
    log = [.read now key balancer.view.ttl (.ok (some node.address))]
  claimed : ∀ node, outcome = .ok ⟨node, .claimed⟩ ↔
    (balancer.picker.select candidates).1 = some node ∧
      ∃ bound value, log = [.read now key balancer.view.ttl (.ok bound),
        .claim now key node.address balancer.view.ttl (.ok ⟨true, value⟩)]
  adopted : ∀ node, outcome = .ok ⟨node, .adopted⟩ ↔
    Node.at? candidates node.address = some node ∧
      ∃ bound value, log = [.read now key balancer.view.ttl (.ok bound),
        .claim now key value balancer.view.ttl (.ok ⟨false, node.address⟩)]
  selected : ∀ node, outcome = .ok ⟨node, .selected⟩ ↔ balancer.role = .reader ∧
    (balancer.picker.select candidates).1 = some node ∧ ∃ bound,
      bound.bind (Node.at? candidates) = none ∧ log = [.read now key balancer.view.ttl (.ok bound)]

inductive Asks (now : Nat) (balancer : Balancer ω) (key : String) : Event → Prop where
  | read (answer : Except RouteError (Option String)) :
      Asks now balancer key (.read now key balancer.view.ttl answer)
  | claim (master : balancer.role = .master) (value : String)
      (answer : Except RouteError Store.Claim) :
      Asks now balancer key (.claim now key value balancer.view.ttl answer)

theorem Sound.asks (sound : Sound now balancer key candidates outcome log) :
    log ≠ [] ∧ ∀ event ∈ log, Asks now balancer key event := by
  rcases sound.calls with ⟨answer, rfl⟩ | ⟨master, bound, proposal, answer, -, rfl⟩
  · simpa using Asks.read answer
  · simpa using ⟨Asks.read (.ok bound), Asks.claim master proposal.address answer⟩

theorem Proposes.calls {bound : Option String} {node : Node ω τ}
    (proposes : Proposes engine now balancer key candidates store bound node between)
    (answer : Except RouteError Store.Claim) :
    balancer.role = .master ∧ ∃ bound' proposal answer', proposal ∈ candidates ∧
      [Event.read now key balancer.view.ttl (.ok bound),
        .claim now key node.address balancer.view.ttl answer] =
        [.read now key balancer.view.ttl (.ok bound'),
          .claim now key proposal.address balancer.view.ttl answer'] :=
  ⟨proposes.master, bound, node, answer, proposes.member, rfl⟩

theorem Course.sound (course : Course engine now balancer key candidates store outcome picker log left) :
    Sound now balancer key candidates outcome log := by
  -- Outcome and calls are known in each case, so that most of what is claimed compares constructors.
  cases course with
  | unread read =>
    constructor
    all_goals simp
  | sticky read found =>
    obtain ⟨member, rfl⟩ := Node.mem_of_at? found
    constructor
    case sticky => simpa using fun _ => Node.eq_iff_of_at? found
    all_goals simp [member, found]
  | selected reader read elsewhere member chose =>
    constructor
    case sticky =>
      -- A sticky pick has the same call, but was told of a candidate.
      simp only [Except.ok.injEq, Picked.mk.injEq, reduceCtorEq, and_false, false_iff]
      rintro node ⟨here, ⟨⟩⟩
      simp [here] at elsewhere
    case selected => simpa [reader, chose] using Option.bind_eq_none_iff.1 elsewhere
    all_goals simp [member, reader]
  | unclaimed proposes claim =>
    constructor
    case calls => exact .inr (proposes.calls _)
    all_goals simp
  | claimed proposes claim =>
    constructor
    case calls => exact .inr (proposes.calls _)
    case claimed => simp [proposes.chose]
    all_goals simp [proposes.member]
  | adopted proposes claim found =>
    obtain ⟨member, rfl⟩ := Node.mem_of_at? found
    constructor
    case calls => exact .inr (proposes.calls _)
    case outsider =>
      -- The call that lost names a candidate, so that no outsider is told of.
      simp only [reduceCtorEq, false_iff]
      rintro name address ⟨-, absent, bound, value, ⟨⟩⟩
      exact absent _ member rfl
    case adopted => simpa using fun _ => Node.eq_iff_of_at? found
    all_goals simp [member]
  | outsider proposes claim absent =>
    have others := Node.at?_eq_none_iff.1 absent
    constructor
    case calls => exact .inr (proposes.calls _)
    case outsider =>
      intro name address
      constructor
      case mp =>
        rintro ⟨⟩
        exact ⟨rfl, others, _, _, rfl⟩
      case mpr =>
        rintro ⟨rfl, -, bound, value, ⟨⟩⟩
        rfl
    case adopted =>
      simp only [reduceCtorEq, false_iff]
      rintro node ⟨here, bound, value, ⟨⟩⟩
      simp [here] at absent
    all_goals simp

theorem sound_of_keyFor (named : balancer.keyFor md candidates = .ok key) (engine : Store.Engine σ)
    (now : Nat) (store : σ) :
    Sound now balancer key candidates (balancer.pick engine now md candidates store).1
      (balancer.calls engine now md candidates store) := by
  obtain ⟨outcome, picker, left, picks, course⟩ := exists_course named engine now store
  rw [picks]
  exact course.sound

/-- Whatever the store answers, a pick makes a read and, for a master, at most a claim after it; it passes
on an error of the store, and answers with the candidate that the last call speaks for. -/
theorem sound_on_any_store (engine : Store.Engine σ) (now : Nat) (balancer : Balancer ω) (md : Metadata)
    (candidates : List (Node ω τ)) (store : σ) :
    let outcome := (balancer.pick engine now md candidates store).1
    let log := balancer.calls engine now md candidates store
    (candidates = [] → outcome = .error .noNode ∧ log = []) ∧
      (∀ cause, candidates ≠ [] → md.objectId = .error cause →
        outcome = .error (.request cause) ∧ log = []) ∧
      ∀ objectId, candidates ≠ [] → md.objectId = .ok objectId →
        Sound now balancer
          (RouteKey.encode ⟨balancer.view.space, balancer.filter.partition md, objectId⟩)
          candidates outcome log := by
  intro outcome log
  refine ⟨?_, fun cause nonempty unnamed => ?_, fun objectId nonempty named => ?_⟩
  next =>
    rintro rfl
    exact ⟨rfl, rfl⟩
  next =>
    have refused : balancer.keyFor md candidates = .error (.request cause) :=
      keyFor_eq_error_iff.2 (.inr ⟨nonempty, cause, unnamed, rfl⟩)
    exact ⟨by simp [outcome, pick, refused], calls_of_refused refused⟩
  next => exact sound_of_keyFor (keyFor_eq_ok_iff.2 ⟨nonempty, objectId, named, rfl⟩) engine now store

end Course

section Contradictory

def east : Node Nat Unit := ⟨"10.0.0.1:9000", 1, "blue", ()⟩

def west : Node Nat Unit := ⟨"10.0.0.2:9000", 1, "blue", ()⟩

def caller : Balancer Nat := ⟨.master, .make .master "room" (.ofMillis 5_000), ⟨"blue"⟩, .empty, rfl⟩

def called : Metadata := Metadata.empty.set Metadata.objectIdField "7"

def contradictory : Store.Engine Unit
  | _, .getRenewing _ _, _ => (.ok (some "10.0.0.9:9000"), ())
  | _, .claim _ _ _, _ => (.ok ⟨false, "10.0.0.2:9000"⟩, ())
  | _, _, _ => (.error (.fault .table "closed"), ())

theorem sound_on_any_store_contradictory :
    let key := "r_room_{blue}_{7}"
    [east, west] ≠ [] ∧ called.objectId = .ok 7 ∧
      caller.calls contradictory 0 called [east, west] () =
        [.read 0 key (.ofMillis 5_000) (.ok (some "10.0.0.9:9000")),
          .claim 0 key "10.0.0.1:9000" (.ofMillis 5_000) (.ok ⟨false, "10.0.0.2:9000"⟩)] ∧
      (caller.pick contradictory 0 called [east, west] ()).1 = .ok ⟨west, .adopted⟩ := by
  intro key
  obtain ⟨-, -, sound⟩ := sound_on_any_store contradictory 0 caller called [east, west] ()
  have adopted := (sound 7 (by simp) rfl).adopted west
  have log : caller.calls contradictory 0 called [east, west] () =
      [.read 0 key (.ofMillis 5_000) (.ok (some "10.0.0.9:9000")),
        .claim 0 key "10.0.0.1:9000" (.ofMillis 5_000) (.ok ⟨false, "10.0.0.2:9000"⟩)] := by
    rfl
  exact ⟨by simp, rfl, log, adopted.2 ⟨rfl, _, _, log⟩⟩

end Contradictory

end Balancer

end StickyRouting
