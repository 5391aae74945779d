import Mathlib.Data.List.Induction
import StickyRouting.Proofs.Balancer.Setup

set_option autoImplicit false

namespace StickyRouting.Registry

section Places

variable {ω β : Type} {registry : Registry β} {role other : Role} {view : View} {entry held : β}

@[simp] theorem get?_put_self : (registry.put role entry).get? role = some entry := by
  cases role <;> rfl

theorem get?_put_of_ne (different : other ≠ role) :
    (registry.put role entry).get? other = registry.get? other := by
  cases role with
  | master =>
    cases other with
    | master => contradiction
    | reader => rfl
  | reader =>
    cases other with
    | master => rfl
    | reader => contradiction

theorem register_of_free (free : registry.get? role = none) (entry : β) :
    registry.register role entry = .ok (registry.put role entry) := by
  simp [register, isRegistered, free]

theorem register_of_taken (taken : registry.get? role = some held) (entry : β) :
    registry.register role entry = .error ⟨role⟩ := by
  simp [register, isRegistered, taken]

theorem registerView_eq (registry : Registry β) (role : Role) (view : View) (entry : Balancer ω → β) :
    registry.registerView role view entry =
      if registry.isRegistered role then .error (.taken ⟨role⟩)
      else (Balancer.setUp role view).bind fun balancer =>
        ((registry.register role (entry balancer)).mapError .taken).map (balancer, ·) := by
  unfold registerView
  split
  next => rfl
  next free =>
    cases made : (Balancer.setUp role view : Except SetupError (Balancer ω)) with
    | error e => rfl
    | ok balancer => simp [Except.bind, Except.mapError, Except.map, register, free]

theorem registerView_of_taken (taken : registry.get? role = some held) (view : View)
    (entry : Balancer ω → β) : registry.registerView role view entry = .error (.taken ⟨role⟩) := by
  rw [registerView_eq, isRegistered, taken]
  rfl

theorem registerView_of_lacking (free : registry.get? role = none)
    (lacking : view.level.satisfies (Capability.requiredFor role) = false) (entry : Balancer ω → β) :
    registry.registerView role view entry = .error (.ungranted ⟨role, view.level⟩) := by
  rw [registerView_eq, isRegistered, free, Balancer.setUp_of_lacking lacking]
  rfl

theorem exists_registerView (free : registry.get? role = none)
    (granted : view.level.satisfies (Capability.requiredFor role) = true) (entry : Balancer ω → β) :
    ∃ balancer : Balancer ω, balancer.IsNew role view defaultPartition ∧
      registry.registerView role view entry = .ok (balancer, registry.put role (entry balancer)) := by
  obtain ⟨balancer, made, new⟩ := Balancer.exists_setUp (ω := ω) granted defaultPartition
  refine ⟨balancer, new, ?_⟩
  simp [registerView_eq, isRegistered, free, made, register_of_free free, Except.bind, Except.mapError,
    Except.map]

end Places

section Calls

variable {ω : Type}

/-- A balancer as it came with a call; by the number of the call it is told from its likes. -/
structure Instance (ω : Type) where
  number : Nat
  balancer : Balancer ω

inductive Call (ω : Type) where
  | built (balancer : Balancer ω)
  | fresh (role : Role) (view : View)

namespace Call

def role : Call ω → Role
  | built balancer => balancer.role
  | fresh role _ => role

def Granted : Call ω → Prop
  | built _ => True
  | fresh role view => Capability.requiredFor role ≤ view.level

inductive Brings : Call ω → Balancer ω → Prop where
  | built {balancer : Balancer ω} : Brings (.built balancer) balancer
  | fresh {role : Role} {view : View} {balancer : Balancer ω}
      (new : balancer.IsNew role view defaultPartition) : Brings (.fresh role view) balancer

inductive Refused (before : Registry (Instance ω)) : Call ω → SetupError → Prop where
  | taken {call : Call ω} {held : Instance ω} (taken : before.get? call.role = some held) :
      Refused before call (.taken ⟨call.role⟩)
  | ungranted {role : Role} {view : View} (free : before.get? role = none)
      (lacking : ¬ Capability.requiredFor role ≤ view.level) :
      Refused before (.fresh role view) (.ungranted ⟨role, view.level⟩)

end Call

def perform (before : Registry (Instance ω)) (number : Nat) :
    Call ω → Except SetupError (Instance ω) × Registry (Instance ω)
  | .built balancer =>
    match before.register balancer.role ⟨number, balancer⟩ with
    | .error e => (.error (.taken e), before)
    | .ok after => (.ok ⟨number, balancer⟩, after)
  | .fresh role view =>
    match before.registerView role view (Instance.mk number) with
    | .error e => (.error e, before)
    | .ok (balancer, after) => (.ok ⟨number, balancer⟩, after)

def afterCalls (calls : List (Call ω)) : Registry (Instance ω) :=
  calls.zipIdx.foldl (fun registry (call, number) => (registry.perform number call).2) {}

variable {before after : Registry (Instance ω)} {number : Nat} {call : Call ω}
  {answer : Except SetupError (Instance ω)} {role : Role} {made held : Instance ω}
  {earlier : List (Call ω)}

inductive Ends (before : Registry (Instance ω)) (number : Nat) (call : Call ω) :
    Except SetupError (Instance ω) → Registry (Instance ω) → Prop where
  | registered {balancer : Balancer ω} (free : before.get? call.role = none)
      (brings : call.Brings balancer) :
      Ends before number call (.ok ⟨number, balancer⟩) (before.put call.role ⟨number, balancer⟩)
  | refused {e : SetupError} (refused : call.Refused before e) : Ends before number call (.error e) before

theorem ends_perform (before : Registry (Instance ω)) (number : Nat) (call : Call ω) :
    Ends before number call (before.perform number call).1 (before.perform number call).2 := by
  cases call with
  | built balancer =>
    cases held : before.get? balancer.role with
    | none =>
      rw [perform, register_of_free held]
      exact .registered held .built
    | some other =>
      rw [perform, register_of_taken held]
      exact .refused (.taken held)
  | fresh role view =>
    cases held : before.get? role with
    | none =>
      cases granted : view.level.satisfies (Capability.requiredFor role) with
      | true =>
        obtain ⟨balancer, new, registered⟩ := exists_registerView held granted (Instance.mk number)
        rw [perform, registered]
        exact .registered held (.fresh new)
      | false =>
        rw [perform, registerView_of_lacking held granted]
        exact .refused (.ungranted held (of_decide_eq_false granted))
    | some other =>
      rw [perform, registerView_of_taken held]
      exact .refused (.taken held)

theorem Call.Brings.role_eq {balancer : Balancer ω} (brings : call.Brings balancer) :
    balancer.role = call.role := by
  cases brings with
  | built => rfl
  | fresh new => exact new.serves

theorem Call.Brings.granted {balancer : Balancer ω} (brings : call.Brings balancer) : call.Granted := by
  cases brings with
  | built => trivial
  | @fresh role view _ new =>
    have enough : Capability.requiredFor role ≤ view.level := of_decide_eq_true new.granted
    exact enough

theorem Ends.exists_ok_iff (ends : Ends before number call answer after) :
    (∃ made, answer = .ok made) ↔ before.get? call.role = none ∧ call.Granted := by
  cases ends with
  | registered free brings => exact iff_of_true ⟨_, rfl⟩ ⟨free, brings.granted⟩
  | refused refused =>
    refine iff_of_false nofun ?_
    rintro ⟨free, granted⟩
    cases refused with
    | taken held => exact absurd (free.symm.trans held) nofun
    | ungranted free lacking => exact lacking granted

theorem Ends.get?_of_held (ends : Ends before number call answer after)
    (held : before.get? role = some made) : after.get? role = some made := by
  cases ends with
  | registered free brings =>
    have different : role ≠ call.role := by
      rintro rfl
      exact absurd (free.symm.trans held) nofun
    rw [get?_put_of_ne different, held]
  | refused refused => exact held

theorem Ends.get?_of_ok (ends : Ends before number call (.ok made) after) :
    made.number = number ∧ call.Brings made.balancer ∧ after.get? call.role = some made := by
  cases ends with
  | registered free brings => exact ⟨rfl, brings, get?_put_self⟩

theorem Ends.refused_of_error {e : SetupError} (ends : Ends before number call (.error e) after) :
    call.Refused before e ∧ after = before := by
  cases ends with
  | refused refused => exact ⟨refused, rfl⟩

theorem Ends.held_before_or_brought (ends : Ends before number call answer after)
    (found : after.get? role = some held) : before.get? role = some held ∨
      call.role = role ∧ held.number = number ∧ call.Brings held.balancer := by
  cases ends with
  | refused refused => exact .inl found
  | registered free brings =>
    by_cases same : role = call.role
    next =>
      subst same
      rw [get?_put_self] at found
      obtain rfl := Option.some.inj found
      exact .inr ⟨rfl, rfl, brings⟩
    next =>
      rw [get?_put_of_ne same] at found
      exact .inl found

theorem afterCalls_concat (earlier : List (Call ω)) (call : Call ω) :
    afterCalls (earlier ++ [call]) = ((afterCalls earlier).perform earlier.length call).2 := by
  simp [afterCalls, List.zipIdx_append]

theorem get?_afterCalls_append (held : (afterCalls earlier).get? role = some made)
    (later : List (Call ω)) : (afterCalls (earlier ++ later)).get? role = some made := by
  induction later using List.reverseRecOn with
  | nil => simpa using held
  | append_singleton later call ih =>
    rw [← List.append_assoc, afterCalls_concat]
    exact (ends_perform ..).get?_of_held ih

structure Came (calls : List (Call ω)) (role : Role) (held : Instance ω) (call : Call ω) : Prop where
  asked : calls[held.number]? = some call
  role_eq : call.role = role
  brings : call.Brings held.balancer

theorem came_afterCalls (calls : List (Call ω)) {role : Role} {held : Instance ω}
    (found : (afterCalls calls).get? role = some held) : ∃ call, Came calls role held call := by
  -- From the end: the last call brought what the place holds, or it was there before.
  induction calls using List.reverseRecOn with
  | nil => cases role <;> cases found
  | append_singleton earlier call ih =>
    rw [afterCalls_concat] at found
    rcases (ends_perform ..).held_before_or_brought found with known | ⟨serves, number, brings⟩
    next =>
      obtain ⟨asked, among, serves, brings⟩ := ih known
      refine ⟨asked, ?_, serves, brings⟩
      rw [List.getElem?_append_left (List.getElem?_eq_some_iff.1 among).1, among]
    next => exact ⟨call, by simp [number], serves, brings⟩

/-- A call succeeds just when the place of its role is free and the view, if it comes with one, has the
rights. From then on the place holds that very balancer, whatever is called. -/
theorem first_registered_stays (earlier : List (Call ω)) (call : Call ω) :
    let before : Registry (Instance ω) := afterCalls earlier
    let answer := (before.perform earlier.length call).1
    let after := (before.perform earlier.length call).2
    ((∃ made, answer = .ok made) ↔ before.get? call.role = none ∧ call.Granted) ∧
      (∀ made, answer = .ok made → made.number = earlier.length ∧ call.Brings made.balancer ∧
        ∀ later, (afterCalls (earlier ++ call :: later)).get? call.role = some made) ∧
      (∀ e, answer = .error e → call.Refused before e ∧ after = before ∧
        ∃ problem, e.message = "balancer configuration error: " ++ problem) ∧
      ∀ role held, after.get? role = some held → held.balancer.role = role ∧
        held.balancer.view.level = Capability.requiredFor role ∧
        ∃ asked, Came (earlier ++ [call]) role held asked := by
  intro before answer after
  have ends : Ends before earlier.length call answer after := ends_perform ..
  refine ⟨ends.exists_ok_iff, fun made ok => ?kept, fun e failed => ?failed, fun role held found => ?held⟩
  case kept =>
    rw [ok] at ends
    obtain ⟨number, brings, filled⟩ := ends.get?_of_ok
    refine ⟨number, brings, fun later => ?_⟩
    have here : (afterCalls (earlier ++ [call])).get? call.role = some made := by
      rwa [afterCalls_concat]
    have kept := get?_afterCalls_append here later
    rwa [List.append_assoc] at kept
  case failed =>
    rw [failed] at ends
    obtain ⟨refused, same⟩ := ends.refused_of_error
    exact ⟨refused, same, e.exists_problem⟩
  case held =>
    obtain ⟨asked, came⟩ := came_afterCalls (earlier ++ [call]) (by rwa [afterCalls_concat])
    have serves : held.balancer.role = role := came.brings.role_eq.trans came.role_eq
    exact ⟨serves, serves ▸ held.balancer.bound, asked, came⟩

theorem first_registered_stays_rivals :
    let weak : Call Nat := .fresh .master (View.make .renewal "room")
    let first : Call Nat := .fresh .master (View.make .master "room")
    let late : Call Nat := .fresh .master (View.make .master "hall")
    let reader : Call Nat := .built ⟨.reader, View.make .readOnly "room", ⟨"blue"⟩, .empty, rfl⟩
    (afterCalls [weak]).get? .master = none ∧ first.Granted ∧
      ∃ made, ((afterCalls [weak]).perform 1 first).1 = .ok made ∧ made.number = 1 ∧
        (afterCalls [weak, first, reader, late]).get? .master = some made ∧
        ((afterCalls [weak, first, reader]).perform 3 late).1 = .error (.taken ⟨.master⟩) ∧
        ((afterCalls [weak, first, reader]).perform 3 late).2 = afterCalls [weak, first, reader] := by
  intro weak first late reader
  have free : (afterCalls [weak]).get? .master = none := rfl
  have granted : first.Granted := by
    show Capability.master ≤ Capability.master
    decide
  obtain ⟨succeeds, kept, -, -⟩ := first_registered_stays [weak] first
  obtain ⟨made, ok⟩ := succeeds.2 ⟨free, granted⟩
  obtain ⟨number, -, stays⟩ := kept made ok
  have refused : ((afterCalls [weak, first, reader]).perform 3 late).1 = .error (.taken ⟨.master⟩) := rfl
  obtain ⟨-, -, failed, -⟩ := first_registered_stays [weak, first, reader] late
  exact ⟨free, granted, made, ok, number, stays [reader, late], refused, (failed _ refused).2.1⟩

end Calls

end StickyRouting.Registry
