import StickyRouting.Balancer
import StickyRouting.Proofs.Store.Holding
import Mathlib.Logic.Function.Basic

/-!
Picks of many balancers on one table, interleaved in any order. A pick asks the table for its binding,
chooses by what it was told, and may then claim; between these the others go on.
-/

set_option autoImplicit false

namespace StickyRouting

namespace Balancer

variable {ω τ : Type}

@[simp] theorem withPicker_role (balancer : Balancer ω) (picker : Picker ω) :
    (balancer.withPicker picker).role = balancer.role := rfl

@[simp] theorem withPicker_view (balancer : Balancer ω) (picker : Picker ω) :
    (balancer.withPicker picker).view = balancer.view := rfl

@[simp] theorem keyFor_withPicker (balancer : Balancer ω) (picker : Picker ω) (md : Metadata)
    (candidates : List (Node ω τ)) :
    (balancer.withPicker picker).keyFor md candidates = balancer.keyFor md candidates := rfl

theorem keyFor_eq_ok_iff {balancer : Balancer ω} {md : Metadata} {candidates : List (Node ω τ)}
    {key : String} : balancer.keyFor md candidates = .ok key ↔ candidates ≠ [] ∧ ∃ objectId,
      md.objectId = .ok objectId ∧
        RouteKey.encode ⟨balancer.view.space, balancer.filter.partition md, objectId⟩ = key := by
  unfold keyFor
  cases candidates with
  | nil => simp
  | cons node rest => cases md.objectId <;> simp [View.key]

theorem keyFor_eq_error_iff {balancer : Balancer ω} {md : Metadata} {candidates : List (Node ω τ)}
    {e : PickError} : balancer.keyFor md candidates = .error e ↔
      candidates = [] ∧ e = .noNode ∨
        candidates ≠ [] ∧ ∃ cause, md.objectId = .error cause ∧ e = .request cause := by
  unfold keyFor
  cases candidates with
  | nil => simp [eq_comm]
  | cons node rest => cases md.objectId <;> simp [eq_comm]

theorem encode_of_keyFor {balancer : Balancer ω} {md : Metadata} {candidates : List (Node ω τ)}
    {name : String} {key : RouteKey} (named : balancer.keyFor md candidates = .ok name)
    (space : balancer.view.space = key.space) (partition : balancer.filter.partition md = key.partition)
    (object : md.objectId = .ok key.objectId) : name = key.encode := by
  obtain ⟨-, objectId, object', rfl⟩ := keyFor_eq_ok_iff.1 named
  obtain rfl : objectId = key.objectId := Except.ok.inj (object'.symm.trans object)
  rw [space, partition]

theorem keyFor_of_addressed {balancer : Balancer ω} {md : Metadata} {candidates : List (Node ω τ)}
    {key : RouteKey} (nonempty : candidates ≠ []) (space : balancer.view.space = key.space)
    (partition : balancer.filter.partition md = key.partition) (object : md.objectId = .ok key.objectId) :
    balancer.keyFor md candidates = .ok key.encode :=
  keyFor_eq_ok_iff.2 ⟨nonempty, key.objectId, object, by rw [space, partition]⟩

inductive Chooses (balancer : Balancer ω) :
    Except RouteError (Option String) → Standing ω τ → Prop where
  | broken {cause : RouteError} : Chooses balancer (.error cause) (.settled (.error (.store cause)))
  | sticky {node : Node ω τ} :
      Chooses balancer (.ok (some node.address)) (.settled (.ok ⟨node, .sticky⟩))
  | noNode {answer : Except RouteError (Option String)} :
      Chooses balancer answer (.settled (.error .noNode))
  | selected {answer : Except RouteError (Option String)} {node : Node ω τ} :
      Chooses balancer answer (.settled (.ok ⟨node, .selected⟩))
  | proposed {answer : Except RouteError (Option String)} {node : Node ω τ}
      (master : balancer.role = .master) : Chooses balancer answer (.claiming node)

theorem afterRead_chooses [Zero ω] [Add ω] [Sub ω] [LT ω] [DecidableLT ω] (balancer : Balancer ω)
    (candidates : List (Node ω τ)) (answer : Except RouteError (Option String)) :
    Chooses balancer answer (balancer.afterRead candidates answer).1 ∧
      ∃ picker, (balancer.afterRead candidates answer).2 = balancer.withPicker picker := by
  cases answer with
  | error cause => exact ⟨.broken, balancer.picker, rfl⟩
  | ok address =>
    cases bound : address.bind (Node.at? candidates) with
    | some node =>
      obtain ⟨text, rfl, found⟩ := Option.bind_eq_some_iff.1 bound
      obtain rfl := (Node.mem_of_at? found).2
      simp only [afterRead, bound]
      exact ⟨.sticky, balancer.picker, rfl⟩
    | none =>
      simp only [afterRead, bound]
      split
      next => exact ⟨.noNode, balancer.picker, rfl⟩
      next => exact ⟨.selected, _, rfl⟩
      next master => exact ⟨.proposed master, _, rfl⟩

inductive Concludes (key : String) (candidates : List (Node ω τ)) (proposal : Node ω τ) :
    Except RouteError Store.Claim → Outcome ω τ → Prop where
  | broken {cause : RouteError} :
      Concludes key candidates proposal (.error cause) (.error (.store cause))
  | claimed {value : String} :
      Concludes key candidates proposal (.ok ⟨true, value⟩) (.ok ⟨proposal, .claimed⟩)
  | adopted {node : Node ω τ} :
      Concludes key candidates proposal (.ok ⟨false, node.address⟩) (.ok ⟨node, .adopted⟩)
  | outsider {address : String} (absent : Node.at? candidates address = none) :
      Concludes key candidates proposal (.ok ⟨false, address⟩) (.error (.outsider key address))

theorem afterClaim_concludes (key : String) (candidates : List (Node ω τ)) (proposal : Node ω τ)
    (answer : Except RouteError Store.Claim) :
    Concludes key candidates proposal answer (afterClaim key candidates proposal answer) := by
  match answer with
  | .error cause => exact .broken
  | .ok ⟨true, value⟩ => exact .claimed
  | .ok ⟨false, value⟩ =>
    cases found : Node.at? candidates value with
    | some node =>
      obtain rfl := (Node.mem_of_at? found).2
      simp only [afterClaim, Bool.false_eq_true, if_false, found]
      exact .adopted
    | none =>
      simp only [afterClaim, Bool.false_eq_true, if_false, found]
      exact .outsider found

end Balancer

namespace Interleaving

open Store (Table Claim)

variable {ι ω τ : Type}

/-- Where a pick stands. Its steps on the table are numbered, and a settled pick names the one that
decided it. -/
inductive Stage (ω τ : Type) where
  | asked (key : String) (answer : Except RouteError (Option String))
  | claiming (key : String) (proposal : Node ω τ)
  | settled (outcome : Balancer.Outcome ω τ) (decided : Nat)

def Stage.after (key : String) (since : Nat) : Balancer.Standing ω τ → Stage ω τ
  | .settled outcome => .settled outcome since
  | .claiming proposal => .claiming key proposal

structure Pick (ι ω τ : Type) where
  who : ι
  md : Metadata
  candidates : List (Node ω τ)
  since : Nat
  stage : Stage ω τ

/-- A pick is called by the number of the step that began it. -/
inductive Act (ι ω τ : Type) where
  | ask (who : ι) (md : Metadata) (candidates : List (Node ω τ))
  | choose (id : Nat)
  | claim (id : Nat)

structure State (ι ω τ : Type) where
  table : Table
  balancers : ι → Balancer ω
  picks : Nat → Option (Pick ι ω τ)

def State.put (state : State ι ω τ) (id : Nat) (pick : Pick ι ω τ) : State ι ω τ :=
  { state with picks := Function.update state.picks id (some pick) }

@[simp] theorem State.put_table (state : State ι ω τ) (id : Nat) (pick : Pick ι ω τ) :
    (state.put id pick).table = state.table := rfl

@[simp] theorem State.put_balancers (state : State ι ω τ) (id : Nat) (pick : Pick ι ω τ) :
    (state.put id pick).balancers = state.balancers := rfl

theorem State.put_picks_self (state : State ι ω τ) (id : Nat) (pick : Pick ι ω τ) :
    (state.put id pick).picks id = some pick := by
  simp [put]

theorem State.put_picks (state : State ι ω τ) (id other : Nat) (pick : Pick ι ω τ) :
    (state.put id pick).picks other = if other = id then some pick else state.picks other := by
  simp [put, Function.update_apply]

section Step

variable [DecidableEq ι] [Zero ω] [Add ω] [Sub ω] [LT ω] [DecidableLT ω]

def step (n now : Nat) (act : Act ι ω τ) (state : State ι ω τ) : State ι ω τ :=
  match act with
  | .ask who md candidates =>
    match (state.balancers who).keyFor md candidates with
    | .error e => state.put n ⟨who, md, candidates, n, .settled (.error e) n⟩
    | .ok key =>
      let (answer, table) :=
        Store.Embedded.perform now (.getRenewing key (state.balancers who).view.ttl) state.table
      { state with table := table }.put n ⟨who, md, candidates, n, .asked key answer⟩
  | .choose id =>
    match state.picks id with
    | some ⟨who, md, candidates, since, .asked key answer⟩ =>
      let (standing, balancer) := (state.balancers who).afterRead candidates answer
      { state with balancers := Function.update state.balancers who balancer }.put id
        ⟨who, md, candidates, since, .after key since standing⟩
    | _ => state
  | .claim id =>
    match state.picks id with
    | some ⟨who, md, candidates, since, .claiming key proposal⟩ =>
      let (answer, table) := Store.Embedded.perform now
        (.claim key proposal.address (state.balancers who).view.ttl) state.table
      { state with table := table }.put id
        ⟨who, md, candidates, since, .settled (Balancer.afterClaim key candidates proposal answer) n⟩
    | _ => state

structure Schedule (ι ω τ : Type) where
  opening : Table
  balancers : ι → Balancer ω
  now : Nat → Nat
  act : Nat → Act ι ω τ

def Schedule.state (schedule : Schedule ι ω τ) : Nat → State ι ω τ
  | 0 => ⟨schedule.opening, schedule.balancers, fun _ => none⟩
  | n + 1 => step n (schedule.now n) (schedule.act n) (schedule.state n)

def Schedule.table (schedule : Schedule ι ω τ) (n : Nat) : Table := (schedule.state n).table

section Equations

variable {n now id since : Nat} {state : State ι ω τ} {who : ι} {md : Metadata}
  {candidates : List (Node ω τ)} {key : String} {table : Table}

theorem step_ask {answer : Except RouteError (Option String)}
    (named : (state.balancers who).keyFor md candidates = .ok key)
    (read : Store.Embedded.perform now (.getRenewing key (state.balancers who).view.ttl)
      state.table = (answer, table)) :
    step n now (.ask who md candidates) state =
      { state with table := table }.put n ⟨who, md, candidates, n, .asked key answer⟩ := by
  simp only [step, named, read]

theorem step_choose {answer : Except RouteError (Option String)}
    {standing : Balancer.Standing ω τ} {balancer : Balancer ω}
    (held : state.picks id = some ⟨who, md, candidates, since, .asked key answer⟩)
    (chose : (state.balancers who).afterRead candidates answer = (standing, balancer)) :
    step n now (.choose id) state =
      { state with balancers := Function.update state.balancers who balancer }.put id
        ⟨who, md, candidates, since, .after key since standing⟩ := by
  simp only [step, held, chose]

theorem step_claim {proposal : Node ω τ} {answer : Except RouteError Claim}
    (held : state.picks id = some ⟨who, md, candidates, since, .claiming key proposal⟩)
    (answered : Store.Embedded.perform now
      (.claim key proposal.address (state.balancers who).view.ttl) state.table = (answer, table)) :
    step n now (.claim id) state =
      { state with table := table }.put id ⟨who, md, candidates, since,
        .settled (Balancer.afterClaim key candidates proposal answer) n⟩ := by
  simp only [step, held, answered]

end Equations

inductive Moves (n now : Nat) (state : State ι ω τ) : Act ι ω τ → State ι ω τ → Prop where
  | idle (act : Act ι ω τ) : Moves n now state act state
  | refused {who : ι} {md : Metadata} {candidates : List (Node ω τ)} {e : PickError}
      (refused : (state.balancers who).keyFor md candidates = .error e) :
      Moves n now state (.ask who md candidates)
        (state.put n ⟨who, md, candidates, n, .settled (.error e) n⟩)
  | asked {who : ι} {md : Metadata} {candidates : List (Node ω τ)} {key : String}
      {answer : Except RouteError (Option String)} {table : Table}
      (named : (state.balancers who).keyFor md candidates = .ok key)
      (read : Store.Embedded.perform now (.getRenewing key (state.balancers who).view.ttl)
        state.table = (answer, table)) :
      Moves n now state (.ask who md candidates)
        ({ state with table := table }.put n ⟨who, md, candidates, n, .asked key answer⟩)
  | chosen {id since : Nat} {who : ι} {md : Metadata} {candidates : List (Node ω τ)} {key : String}
      {answer : Except RouteError (Option String)} {standing : Balancer.Standing ω τ}
      {balancer : Balancer ω}
      (held : state.picks id = some ⟨who, md, candidates, since, .asked key answer⟩)
      (chose : (state.balancers who).afterRead candidates answer = (standing, balancer)) :
      Moves n now state (.choose id)
        ({ state with balancers := Function.update state.balancers who balancer }.put id
          ⟨who, md, candidates, since, .after key since standing⟩)
  | claimed {id since : Nat} {who : ι} {md : Metadata} {candidates : List (Node ω τ)} {key : String}
      {proposal : Node ω τ} {answer : Except RouteError Claim} {table : Table}
      (held : state.picks id = some ⟨who, md, candidates, since, .claiming key proposal⟩)
      (answered : Store.Embedded.perform now
        (.claim key proposal.address (state.balancers who).view.ttl) state.table = (answer, table)) :
      Moves n now state (.claim id)
        ({ state with table := table }.put id ⟨who, md, candidates, since,
          .settled (Balancer.afterClaim key candidates proposal answer) n⟩)

theorem step_moves (n now : Nat) (act : Act ι ω τ) (state : State ι ω τ) :
    Moves n now state act (step n now act state) := by
  cases act with
  | ask who md candidates =>
    cases named : (state.balancers who).keyFor md candidates with
    | error e =>
      simp only [step, named]
      exact .refused named
    | ok key =>
      simp only [step, named]
      exact .asked named rfl
  | choose id =>
    simp only [step]
    split
    next held => exact .chosen held rfl
    next => exact .idle _
  | claim id =>
    simp only [step]
    split
    next held => exact .claimed held rfl
    next => exact .idle _

theorem Schedule.moves (schedule : Schedule ι ω τ) (n : Nat) :
    Moves n (schedule.now n) (schedule.state n) (schedule.act n) (schedule.state (n + 1)) :=
  step_moves ..

theorem pick_uninterrupted (state : State ι ω τ) (n now : Nat) (who : ι) (md : Metadata)
    (candidates : List (Node ω τ)) :
    let asked := step n now (.ask who md candidates) state
    let chosen := step (n + 1) now (.choose n) asked
    let claimed := step (n + 2) now (.claim n) chosen
    let (outcome, balancer, table) :=
      (state.balancers who).pick Store.Embedded.perform now md candidates state.table
    claimed.table = table ∧ claimed.balancers = Function.update state.balancers who balancer ∧
      ∃ decided, claimed.picks n = some ⟨who, md, candidates, n, .settled outcome decided⟩ := by
  cases named : (state.balancers who).keyFor md candidates with
  | error e => simp [step, Balancer.pick, named, State.put_picks]
  | ok key =>
    generalize read : Store.Embedded.perform now (.getRenewing key (state.balancers who).view.ttl)
      state.table = reply
    obtain ⟨answer, table⟩ := reply
    generalize chose : (state.balancers who).afterRead candidates answer = next
    obtain ⟨standing, balancer⟩ := next
    cases standing with
    | settled outcome =>
      simp [step, Balancer.pick, named, read, chose, State.put_picks, Stage.after]
    | claiming proposal =>
      obtain ⟨-, picker, kept⟩ := (state.balancers who).afterRead_chooses candidates answer
      rw [chose] at kept
      obtain rfl := kept
      generalize answered : Store.Embedded.perform now
        (.claim key proposal.address (state.balancers who).view.ttl) table = reply
      obtain ⟨claim, table'⟩ := reply
      simp only [Balancer.pick, named, read, chose, Balancer.withPicker_view, answered]
      have asked := State.put_picks_self { state with table := table } n
        (⟨who, md, candidates, n, .asked key answer⟩ : Pick ι ω τ)
      have view : (Function.update state.balancers who ((state.balancers who).withPicker picker)
          who).view = (state.balancers who).view := by simp
      rw [step_ask named read, step_choose asked chose]
      simp only [step, Stage.after, State.put_picks_self, State.put_table, State.put_balancers]
      rw [view, answered]
      exact ⟨rfl, trivial, n + 2, rfl⟩

end Step

section Picks

variable [DecidableEq ι] [Zero ω] [Add ω] [Sub ω] [LT ω] [DecidableLT ω]

theorem Schedule.picks_fresh (schedule : Schedule ι ω τ) {n id : Nat} (later : n ≤ id) :
    (schedule.state n).picks id = none := by
  induction n with
  | zero => rfl
  | succ n ih =>
    have fresh := ih (Nat.le_of_succ_le later)
    have moves := schedule.moves n
    generalize schedule.act n = act, schedule.state (n + 1) = after at moves ⊢
    cases moves with
    | idle => exact fresh
    | refused => simp [State.put_picks, fresh, Nat.ne_of_gt later]
    | asked => simp [State.put_picks, fresh, Nat.ne_of_gt later]
    | @chosen other _ _ _ _ _ _ _ _ held =>
      have ne : id ≠ other := fun same => by simp [← same, fresh] at held
      simp [State.put_picks, fresh, ne]
    | @claimed other _ _ _ _ _ _ _ _ held =>
      have ne : id ≠ other := fun same => by simp [← same, fresh] at held
      simp [State.put_picks, fresh, ne]

theorem Schedule.settled_persists (schedule : Schedule ι ω τ) {n id : Nat} {pick : Pick ι ω τ}
    {outcome : Balancer.Outcome ω τ} {decided : Nat} (held : (schedule.state n).picks id = some pick)
    (settled : pick.stage = .settled outcome decided) :
    (schedule.state (n + 1)).picks id = some pick := by
  have old : id ≠ n := fun same => by simp [schedule.picks_fresh (Nat.le_of_eq same.symm)] at held
  have moves := schedule.moves n
  generalize schedule.act n = act, schedule.state (n + 1) = after at moves ⊢
  cases moves with
  | idle => exact held
  | refused => simp [State.put_picks, held, old]
  | asked => simp [State.put_picks, held, old]
  | @chosen other _ _ _ _ _ _ _ _ held' =>
    have ne : id ≠ other := by
      rintro rfl
      obtain rfl := Option.some.inj (held.symm.trans held')
      contradiction
    simp [State.put_picks, held, ne]
  | @claimed other _ _ _ _ _ _ _ _ held' =>
    have ne : id ≠ other := by
      rintro rfl
      obtain rfl := Option.some.inj (held.symm.trans held')
      contradiction
    simp [State.put_picks, held, ne]

end Picks

end Interleaving

end StickyRouting
