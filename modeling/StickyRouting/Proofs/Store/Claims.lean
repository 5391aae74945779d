import StickyRouting.Proofs.Store.Refinement

set_option autoImplicit false

namespace StickyRouting.Store

open Embedded (live stored Readable Change)

inductive Effect where
  | installs (key value : String) (deadline : Nat)
  | prolongs (key : String) (deadline : Nat)
  | removes (key : String)
  | nothing
  deriving Repr, DecidableEq

namespace Effect

def key? : Effect → Option String
  | installs key _ _ => some key
  | prolongs key _ => some key
  | removes key => some key
  | nothing => none

def installed? (key : String) : Effect → Option String
  | installs k value _ => if k = key then some value else none
  | _ => none

def written? (key : String) : Effect → Option Nat
  | installs k _ deadline => if k = key then some deadline else none
  | prolongs k deadline => if k = key then some deadline else none
  | _ => none

theorem installed?_of_other {key : String} {effect : Effect} (other : effect.key? ≠ some key) :
    effect.installed? key = none := by
  cases effect <;> simp_all [key?, installed?]

theorem written?_of_other {key : String} {effect : Effect} (other : effect.key? ≠ some key) :
    effect.written? key = none := by
  cases effect <;> simp_all [key?, written?]

end Effect

namespace Event

def effect : Event → Effect
  | ⟨now, .call (.set key value ttl), .ok _⟩ => .installs key value (deadline now ttl)
  | ⟨now, .call (.exchange key value ttl), .ok _⟩ => .installs key value (deadline now ttl)
  | ⟨now, .call (.claim key value ttl), .ok ⟨true, _⟩⟩ => .installs key value (deadline now ttl)
  | ⟨now, .call (.getRenewing key ttl), .ok (some _)⟩ => .prolongs key (deadline now ttl)
  | ⟨now, .call (.renew key ttl), .ok _⟩ => .prolongs key (deadline now ttl)
  | ⟨now, .call (.renewIf key _ ttl), .ok _⟩ => .prolongs key (deadline now ttl)
  | ⟨_, .call (.delete key), .ok _⟩ => .removes key
  | ⟨_, .call (.deleteIf key _), .ok _⟩ => .removes key
  | _ => .nothing

theorem aside {event : Event} (key : String) (does : event.effect = .nothing) :
    event.effect.key? ≠ some key := by
  simp [does, Effect.key?]

def WinsClaim (key : String) (event : Event) : Prop :=
  ∃ now value ttl held, event = ⟨now, .call (.claim key value ttl), .ok ⟨true, held⟩⟩

inductive Moves (key : String) (event : Event) : Option Record → Option Record → Prop where
  | installs {before : Option Record} {r : Record}
      (does : event.effect = .installs key r.value r.deadline) : Moves key event before (some r)
  | prolongs {before : Option Record} {r : Record} {deadline : Nat}
      (found : live event.now before = some r) (does : event.effect = .prolongs key deadline) :
      Moves key event before (some ⟨r.value, deadline⟩)
  | removes {before : Option Record} (does : event.effect = .removes key) :
      Moves key event before none
  | keeps {before : Option Record} (other : event.effect.key? ≠ some key) :
      Moves key event before before
  | forgets {before : Option Record} (other : event.effect.key? ≠ some key)
      (absent : live event.now before = none) : Moves key event before none

end Event

def lastEffect (key : String) (log : List Event) : Option Effect :=
  ((log.map Event.effect).filter fun effect => effect.key? = some key).getLast?

def Event.Ends (key : String) (log : List Event) (event : Event) : Prop :=
  event.effect = .removes key ∧
    ∃ deadline, (lastEffect key log).bind (Effect.written? key) = some deadline ∧ event.now < deadline

def lastInstalled (key : String) (log : List Event) : Option String :=
  (log.filterMap fun event => event.effect.installed? key).getLast?

def lastWritten (key : String) (log : List Event) : Option Nat :=
  (log.filterMap fun event => event.effect.written? key).getLast?

section Snoc

variable {key : String} {event : Event}

theorem lastInstalled_snoc (key : String) (log : List Event) (event : Event) :
    lastInstalled key (log ++ [event]) =
      (event.effect.installed? key).or (lastInstalled key log) := by
  cases does : event.effect.installed? key <;> simp [lastInstalled, does]

theorem lastWritten_snoc (key : String) (log : List Event) (event : Event) :
    lastWritten key (log ++ [event]) = (event.effect.written? key).or (lastWritten key log) := by
  cases does : event.effect.written? key <;> simp [lastWritten, does]

theorem lastEffect_snoc (log : List Event) (here : event.effect.key? = some key) :
    lastEffect key (log ++ [event]) = some event.effect := by
  simp [lastEffect, here]

theorem snoc_of_other (log : List Event) (other : event.effect.key? ≠ some key) :
    lastInstalled key (log ++ [event]) = lastInstalled key log ∧
      lastWritten key (log ++ [event]) = lastWritten key log ∧
      lastEffect key (log ++ [event]) = lastEffect key log := by
  rw [lastInstalled_snoc, lastWritten_snoc, Effect.installed?_of_other other,
    Effect.written?_of_other other]
  simp [lastEffect, other]

end Snoc

structure Recorded (key : String) (log : List Event) (r : Record) : Prop where
  value : lastInstalled key log = some r.value
  written : lastWritten key log = some r.deadline
  effect : (lastEffect key log).bind (Effect.written? key) = some r.deadline

def Overdue (key : String) (log : List Event) (now : Nat) : Prop :=
  ∃ deadline, lastWritten key log = some deadline ∧ deadline ≤ now

theorem Event.Moves.recorded {key : String} {event : Event} {before after : Option Record}
    {log : List Event} (moves : event.Moves key before after)
    (recorded : ∀ r, before = some r → Recorded key log r) :
    ∀ r, after = some r → Recorded key (log ++ [event]) r := by
  intro r held
  cases moves with
  | installs does =>
    obtain rfl := Option.some.inj held
    constructor
    · simp [lastInstalled_snoc, does, Effect.installed?]
    · simp [lastWritten_snoc, does, Effect.written?]
    · simp [lastEffect_snoc, does, Effect.key?, Effect.written?]
  | prolongs found does =>
    obtain rfl := Option.some.inj held
    have old := recorded _ (Embedded.live_eq_some_iff.1 found).1
    constructor
    · simpa [lastInstalled_snoc, does, Effect.installed?] using old.value
    · simp [lastWritten_snoc, does, Effect.written?]
    · simp [lastEffect_snoc, does, Effect.key?, Effect.written?]
  | removes => contradiction
  | keeps other =>
    obtain ⟨value, written, effect⟩ := snoc_of_other log other
    have old := recorded r held
    exact ⟨value.trans old.value, written.trans old.written, effect ▸ old.effect⟩
  | forgets => contradiction

theorem Recorded.overdue {key : String} {log : List Event} {now : Nat} {before : Option Record}
    (recorded : ∀ r, before = some r → Recorded key log r)
    (absent : live now before = none) (overdue : before = none → Overdue key log now) :
    Overdue key log now := by
  cases before with
  | none => exact overdue rfl
  | some r => exact ⟨r.deadline, (recorded r rfl).written, Embedded.live_eq_none_iff.1 absent r rfl⟩

theorem Event.Moves.overdue {key : String} {event : Event} {before after : Option Record}
    {log : List Event} (moves : event.Moves key before after)
    (recorded : ∀ r, before = some r → Recorded key log r) (spared : ¬ event.Ends key log)
    (overdue : before = none → Overdue key log event.now) (gone : after = none) :
    Overdue key (log ++ [event]) event.now := by
  have kept (absent : live event.now before = none) (silent : event.effect.written? key = none) :
      Overdue key (log ++ [event]) event.now := by
    rw [Overdue, lastWritten_snoc, silent]
    exact Recorded.overdue recorded absent overdue
  cases moves with
  | installs => contradiction
  | prolongs => contradiction
  | removes does =>
    -- A delete that finds the entry live is one that ends it, so this one came too late.
    refine kept (Embedded.live_eq_none_iff.2 fun r held => ?_) (by rw [does]; rfl)
    exact Nat.le_of_not_lt fun early => spared ⟨does, r.deadline, (recorded r held).effect, early⟩
  | keeps other =>
    subst gone
    exact kept rfl (Effect.written?_of_other other)
  | forgets other absent => exact kept absent (Effect.written?_of_other other)

variable {now last : Nat} {table : Table} {key : String}

theorem change_moves {call : Call} {answer : Except RouteError call.Answer}
    {before after : Option Record} (about : call.target? = some key)
    (change : Change now call before answer after) :
    Event.Moves key ⟨now, .call call, answer⟩ before after := by
  cases change <;> simp only [Call.target?, Option.some.injEq] at about <;> subst about
  case touched found => exact .prolongs found rfl
  case missed absent => exact .forgets (Event.aside _ rfl) absent
  case set => exact .installs rfl
  case claimed => exact .installs rfl
  case lost => exact .keeps (Event.aside _ rfl)
  case exchanged => exact .installs rfl
  case renewed found => exact .prolongs found rfl
  case notFound => exact .keeps (Event.aside _ rfl)
  case renewedIf found => exact .prolongs found rfl
  case renewalRefused => exact .keeps (Event.aside _ rfl)
  case deleted => exact .removes rfl
  case deletedIf => exact .removes rfl
  case deletionRefused => exact .keeps (Event.aside _ rfl)

theorem effect_of_target {call : Call} {answer : Except RouteError call.Answer}
    (other : call.target? ≠ some key) :
    (Event.effect ⟨now, .call call, answer⟩).key? ≠ some key := by
  unfold Event.effect
  split <;> simp_all [Effect.key?, Call.target?]

theorem operate_moves {before : Option Record} (here : stored table key = .ok before) (now : Nat)
    (operation : Operation) :
    ∃ after, stored (Embedded.operate now operation table).2 key = .ok after ∧
      Event.Moves key ⟨now, operation, (Embedded.operate now operation table).1⟩ before after := by
  cases operation with
  | call call =>
    cases about : call.target? with
    | none =>
      -- These only read, each in a transaction that is dropped.
      have same : (Embedded.perform now call table).2 = table := by
        cases call <;> simp only [Call.target?, reduceCtorEq] at about <;> rfl
      refine ⟨_, ?_, .keeps (effect_of_target (by simp [about]))⟩
      simpa only [Embedded.operate, same] using here
    | some target =>
      by_cases same : key = target
      · subst same
        obtain ⟨after, change, left⟩ := Embedded.perform_change_self now about here
        exact ⟨after, left, change_moves about change⟩
      · refine ⟨_, ?_, .keeps (effect_of_target (by simpa [about] using Ne.symm same))⟩
        exact (Embedded.stored_perform_of_ne now about same).trans here
  | remaining => exact ⟨_, here, .keeps (Event.aside _ rfl)⟩
  | entries => exact ⟨_, here, .keeps (Event.aside _ rfl)⟩
  | purge =>
    rcases Embedded.purge_or_readable now table with same | readable
    · exact ⟨_, by rw [Embedded.operate, same, here], .keeps (Event.aside _ rfl)⟩
    · obtain ⟨-, stores⟩ := Embedded.purge_of_readable readable now
      rw [Embedded.stored_of_readable readable] at here
      obtain rfl := Except.ok.inj here
      refine ⟨_, stores key, ?_⟩
      cases found : live now ((Embedded.records table).get? key) with
      | none => exact .forgets (Event.aside _ rfl) found
      | some r =>
        rw [(Embedded.live_eq_some_iff.1 found).1]
        exact .keeps (Event.aside _ rfl)

structure Told (key : String) (log : List Event) (table : Table) : Prop where
  readable : Readable table
  recorded : ∀ r, (Embedded.records table).get? key = some r → Recorded key log r

theorem readable_operate (readable : Readable table) (now : Nat) (operation : Operation) :
    Readable (Embedded.operate now operation table).2 := fun key =>
  (operate_moves (Embedded.stored_of_readable readable key) now operation).imp fun _ h => h.1

theorem records_operate (readable : Readable table) (now : Nat) (operation : Operation) (key : String) :
    Event.Moves key ⟨now, operation, (Embedded.operate now operation table).1⟩
      ((Embedded.records table).get? key)
      ((Embedded.records (Embedded.operate now operation table).2).get? key) := by
  obtain ⟨after, here, moves⟩ :=
    operate_moves (Embedded.stored_of_readable readable key) now operation
  rw [Embedded.stored_of_readable (readable_operate readable now operation)] at here
  exact Except.ok.inj here ▸ moves

theorem told_operate {log : List Event} (told : Told key log table) (now : Nat)
    (operation : Operation) :
    Told key (log ++ [⟨now, operation, (Embedded.operate now operation table).1⟩])
      (Embedded.operate now operation table).2 :=
  ⟨readable_operate told.readable now operation,
    (records_operate told.readable now operation key).recorded told.recorded⟩

theorem told_run {log : List Event} (told : Told key log table) (history : History) :
    Told key (log ++ (run Embedded.operate history table).1) (run Embedded.operate history table).2 := by
  induction history generalizing log table with
  | nil => simpa using told
  | cons step rest ih =>
    obtain ⟨now, operation⟩ := step
    simpa using ih (told_operate told now operation)

theorem overdue_run {log : List Event} (told : Told key log table)
    (overdue : (Embedded.records table).get? key = none → Overdue key log last) {history : History}
    (ordered : history.Ordered) (after : ∀ step ∈ history, last ≤ step.1)
    (spared : ∀ earlier event later, (run Embedded.operate history table).1 = earlier ++ event :: later →
      ¬ event.Ends key (log ++ earlier)) (later : ∀ step ∈ history, step.1 ≤ now) (bound : last ≤ now)
    (gone : (Embedded.records (run Embedded.operate history table).2).get? key = none) :
    Overdue key (log ++ (run Embedded.operate history table).1) now := by
  -- The log grows at its end while the history is taken from its front.
  induction history generalizing log table last with
  | nil =>
    obtain ⟨deadline, written, past⟩ := overdue gone
    exact ⟨deadline, by simpa using written, Nat.le_trans past bound⟩
  | cons step rest ih =>
    obtain ⟨at_, operation⟩ := step
    obtain ⟨first, tail⟩ := List.pairwise_cons.1 ordered
    have moves := records_operate told.readable at_ operation key
    have forward : last ≤ at_ := after _ (List.mem_cons_self ..)
    have kept := spared [] _ _ rfl
    rw [List.append_nil] at kept
    have next := ih (told_operate told at_ operation)
      (moves.overdue told.recorded kept fun absent =>
        (overdue absent).imp fun _ h => ⟨h.1, Nat.le_trans h.2 forward⟩)
      tail first
      (fun earlier event rest log => by simpa using spared (_ :: earlier) event rest (by simp [log]))
      (fun step member => later step (List.mem_cons_of_mem _ member)) (later _ (List.mem_cons_self ..))
      gone
    simpa using next

theorem told_empty (key : String) : Told key [] ∅ := ⟨Embedded.readable_empty, nofun⟩

theorem told_log (key : String) (history : History) :
    Told key (run Embedded.operate history ∅).1 (run Embedded.operate history ∅).2 :=
  told_run (told_empty key) history

theorem won_claim (readable : Readable table) {operation : Operation}
    (wins : Event.WinsClaim key ⟨now, operation, (Embedded.operate now operation table).1⟩) :
    live now ((Embedded.records table).get? key) = none ∧
      ∃ r, (Embedded.records (Embedded.operate now operation table).2).get? key = some r := by
  obtain ⟨at_, value, ttl, held, same⟩ := wins
  injection same with _ asked answered
  subst asked
  have about : (Call.claim key value ttl).target? = some key := rfl
  obtain ⟨after, change, left⟩ :=
    Embedded.perform_change_self now about (Embedded.stored_of_readable readable key)
  have won : (Embedded.perform now (.claim key value ttl) table).1 = .ok ⟨true, held⟩ :=
    eq_of_heq answered
  have made := Embedded.stored_of_readable
    (readable_operate readable now (.call (.claim key value ttl))) key
  rw [Embedded.operate, left] at made
  rw [won] at change
  cases change with
  | claimed absent => exact ⟨absent, _, (Except.ok.inj made).symm⟩

theorem lost_claim (readable : Readable table) {value holder : String} {ttl : Duration}
    (lost : (Embedded.perform now (.claim key value ttl) table).1 = .ok ⟨false, holder⟩) :
    ∃ r, stored table key = .ok (some r) ∧ r.value = holder ∧ now < r.deadline ∧
      stored (Embedded.perform now (.claim key value ttl) table).2 key = .ok (some r) := by
  have about : (Call.claim key value ttl).target? = some key := rfl
  have here := Embedded.stored_of_readable readable key
  obtain ⟨after, change, left⟩ := Embedded.perform_change_self now about here
  rw [lost] at change
  cases change with
  | lost found =>
    obtain ⟨held, early⟩ := Embedded.live_eq_some_iff.1 found
    rw [held] at here left
    exact ⟨_, here, rfl, early, left⟩

/-- Of two won claims the second comes after a delete has ended the entry, or after the deadline that
was written last. A lost claim answers with the value that was installed last and leaves the record as
it is. -/
theorem claims_unique (history : History) (ordered : history.Ordered) (key : String) :
    (∀ before first between second rest,
      (run Embedded.operate history ∅).1 = before ++ first :: between ++ second :: rest →
      first.WinsClaim key → second.WinsClaim key →
      (∃ earlier event later, between = earlier ++ event :: later ∧
        event.Ends key (before ++ first :: earlier)) ∨
      ∃ deadline, lastWritten key (before ++ first :: between) = some deadline ∧
        deadline ≤ second.now) ∧
    ∀ earlier now value ttl later holder,
      history = earlier ++ (now, .call (.claim key value ttl)) :: later →
      let (log, table) := run Embedded.operate earlier ∅
      let (answer, next) := Embedded.perform now (.claim key value ttl) table
      answer = .ok ⟨false, holder⟩ →
      lastInstalled key log = some holder ∧
        ∃ r, stored table key = .ok (some r) ∧ r.value = holder ∧
          lastWritten key log = some r.deadline ∧ now < r.deadline ∧
          stored next key = .ok (some r) := by
  constructor
  next =>
    intro before first between second rest log won again
    obtain ⟨upto, now, operation, after, rfl, sofar, rfl, -⟩ := run_eq_append log
    obtain ⟨start, at_, claim, middle, rfl, opening, rfl, answers⟩ := run_eq_append sofar
    have told := told_log key start
    obtain ⟨-, r, made⟩ := won_claim told.readable won
    -- Either a delete between the two ends the entry, or it is overdue when the second claim comes.
    by_cases spared : ∀ earlier event later, between = earlier ++ event :: later →
        ¬ event.Ends key (before ++ ⟨at_, claim, (Embedded.operate at_ claim
          (run Embedded.operate start ∅).2).1⟩ :: earlier)
    next =>
      right
      have inOrder := List.pairwise_append.1 ordered
      obtain ⟨atFirst, tail⟩ := List.pairwise_cons.1 (List.pairwise_append.1 inOrder.1).2.1
      have reached := told_log key (start ++ (at_, claim) :: middle)
      have begun := told_operate told at_ claim
      have states : (run Embedded.operate (start ++ (at_, claim) :: middle) ∅).2 =
          (run Embedded.operate middle
            (Embedded.operate at_ claim (run Embedded.operate start ∅).2).2).2 := by
        rw [run_append, run_cons]
      rw [sofar] at reached
      rw [opening] at begun
      have overdue : _ → Overdue key _ now := overdue_run begun (by simp [made]) tail atFirst
        (by simpa [answers] using spared)
        (fun step member => inOrder.2.2 step (by simp [member]) _ (List.mem_cons_self ..))
        (inOrder.2.2 (at_, claim) (by simp) _ (List.mem_cons_self ..))
      rw [answers, ← states, List.append_assoc, List.singleton_append] at overdue
      exact Recorded.overdue reached.recorded (won_claim reached.readable again).1 overdue
    next =>
      left
      simpa using spared
  next =>
    intro earlier now value ttl later holder _ lost
    have told := told_log key earlier
    obtain ⟨r, here, same, early, left⟩ := lost_claim told.readable lost
    have held := here
    rw [Embedded.stored_of_readable told.readable] at held
    have recorded := told.recorded r (Except.ok.inj held)
    exact ⟨same ▸ recorded.value, r, here, same, recorded.written, early, left⟩

theorem claims_unique_renewed :
    let history : History := [(0, .call (.claim "a" "x" (.ofMillis 5))),
      (3, .call (.renew "a" (.ofMillis 5))), (4, .call (.claim "a" "y" (.ofMillis 5))),
      (8, .call (.claim "a" "z" (.ofMillis 5)))]
    history.Ordered ∧ ∃ first between second,
      (run Embedded.operate history ∅).1 = [] ++ first :: between ++ second :: [] ∧
      first.WinsClaim "a" ∧ second.WinsClaim "a" ∧
      ((∃ earlier event later, between = earlier ++ event :: later ∧
          event.Ends "a" ([] ++ first :: earlier)) ∨
        ∃ deadline, lastWritten "a" ([] ++ first :: between) = some deadline ∧
          deadline ≤ second.now) := by
  intro history
  have ordered : history.Ordered := by decide
  have log : (run Embedded.operate history ∅).1 =
      [] ++ ⟨0, .call (.claim "a" "x" (.ofMillis 5)), .ok ⟨true, "x"⟩⟩ ::
        [⟨3, .call (.renew "a" (.ofMillis 5)), .ok ()⟩,
          ⟨4, .call (.claim "a" "y" (.ofMillis 5)), .ok ⟨false, "x"⟩⟩] ++
        ⟨8, .call (.claim "a" "z" (.ofMillis 5)), .ok ⟨true, "z"⟩⟩ :: [] := by
    rw [run_eq_ideal ordered (by decide)]
    rfl
  exact ⟨ordered, _, _, _, log, ⟨_, _, _, _, rfl⟩, ⟨_, _, _, _, rfl⟩,
    (claims_unique history ordered "a").1 _ _ _ _ _ log ⟨_, _, _, _, rfl⟩ ⟨_, _, _, _, rfl⟩⟩

end StickyRouting.Store
