import StickyRouting.Balancer.Setup
import StickyRouting.Store.Medium
import StickyRouting.Store.Rehearsal

set_option autoImplicit false

namespace StickyRouting

abbrev Weight : Type := Float

structure Handle where
  view : View
  via : Option Nat
  deriving DecidableEq

structure Service where
  balancer : Balancer Weight
  via : Option Nat

structure Session where
  now : Nat
  /-- The store's own time, where it does not go by the clock of the session. -/
  wall : Option Nat := none
  backend : Store.Backend
  isOpen : Bool := true
  rehearsals : List Store.Rehearsal := []
  /-- The places by name. A name that is given again leaves the earlier rehearsal to its views. -/
  stages : KeyMap Nat := ∅
  views : KeyMap Handle := ∅
  services : List Service := []
  names : KeyMap Nat := ∅
  registry : Registry Nat := {}

namespace Session

inductive Trouble where
  | route (cause : RouteError)
  | pick (cause : PickError)
  | setup (cause : SetupError)
  | config (cause : ConfigError)
  | lacks (rights : Capability)
  | unknown (name : String)
  deriving Repr, DecidableEq

def instant (session : Session) : Nat := session.wall.getD session.now

def advance (session : Session) (elapsed : Duration) : Session :=
  { session with now := (session.now + elapsed.millis) % UInt64.size }

variable {α : Type}

def withStore (session : Session) (use : Nat → Store.Backend → α × Store.Backend) :
    Except Trouble α × Session :=
  if session.isOpen then
    let (answer, backend) := use session.instant session.backend
    (.ok answer, { session with backend := backend })
  else (.error (.unknown "store"), session)

def withRoutes (session : Session)
    (use : Nat → Store.Backend → Except RouteError α × Store.Backend) :
    Except Trouble α × Session :=
  let (answer, session) := session.withStore use
  (answer.bind (·.mapError .route), session)

def withEngine (session : Session) (via : Option Nat)
    (use : {σ : Type} → Store.Engine σ → Nat → σ → α × σ) : Except Trouble α × Session :=
  match via with
  | none => session.withStore (use Store.Backend.perform)
  | some place =>
    match session.rehearsals[place]? with
    | none => (.error (.unknown "rehearsal"), session)
    | some rehearsal =>
      if session.isOpen then
        let (answer, rehearsal, backend) :=
          use (Store.Rehearsal.perform Store.Backend.perform) session.instant
            (rehearsal, session.backend)
        (.ok answer,
          { session with
            backend := backend
            rehearsals := session.rehearsals.set place rehearsal })
      else (.error (.unknown "store"), session)

def perform (session : Session) (via : Option Nat) (call : Store.Call) :
    Except Trouble call.Answer × Session :=
  let (answer, session) := session.withEngine via fun engine now store => engine now call store
  (answer.bind (·.mapError .route), session)

def stage? (session : Session) (name : String) : Except Trouble Nat :=
  match session.stages.get? name with
  | some place => .ok place
  | none => .error (.unknown name)

def via? (session : Session) : Option String → Except Trouble (Option Nat)
  | none => .ok none
  | some name => (session.stage? name).map some

def rehearse (session : Session) (name : String) (rehearsal : Store.Rehearsal) : Session :=
  { session with
    rehearsals := session.rehearsals ++ [rehearsal]
    stages := session.stages.insert name session.rehearsals.length }

def rehearsed (session : Session) : Bool := !session.rehearsals.isEmpty

def view? (session : Session) (name : String) : Except Trouble Handle :=
  match session.views.get? name with
  | some handle => .ok handle
  | none => .error (.unknown name)

def service? (session : Session) (name : String) : Except Trouble (Nat × Service) :=
  match (session.names.get? name).bind fun n => (session.services[n]?).map (n, ·) with
  | some found => .ok found
  | none => .error (.unknown name)

def enlist (session : Session) (name : String) (service : Service) : Session :=
  { session with
    services := session.services ++ [service]
    names := session.names.insert name session.services.length }

def namesOf (session : Session) (place : Nat) : List String :=
  (session.names.filter fun _ n => n = place).keys

def score (session : Session) (name address : String) : Weight :=
  match session.service? name with
  | .ok (_, service) => service.balancer.picker.score address
  | .error _ => 0

def close (session : Session) : Session :=
  { session with
    isOpen := false
    rehearsals := []
    stages := ∅
    views := ∅
    services := []
    names := ∅
    registry := {} }

end Session

end StickyRouting
