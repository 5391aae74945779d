import StickyRouting.Balancer
import StickyRouting.Config
import StickyRouting.Registry

set_option autoImplicit false

namespace StickyRouting

inductive SetupError where
  | ungranted (cause : Ungranted)
  | taken (cause : RoleTaken)
  | duration (cause : Duration.Invalid)
  deriving Repr, DecidableEq

def SetupError.message : SetupError → String
  | ungranted cause => "balancer configuration error: " ++ cause.problem
  | taken cause => "balancer configuration error: " ++ cause.problem
  | duration cause => "balancer configuration error: " ++ cause.message

variable {ω β : Type}

def Config.view (config : Config) (ttl : Duration) : View :=
  View.make (Capability.requiredFor config.effectiveRole) config.space ttl

namespace Balancer

def setUp (role : Role) (view : View) (fallback : String := defaultPartition) :
    Except SetupError (Balancer ω) :=
  (create role view fallback).mapError .ungranted

def ofConfig (config : Config) : Except SetupError (Balancer ω) :=
  match config.effectiveTtl with
  | .error cause => .error (.duration cause)
  | .ok ttl => setUp config.effectiveRole (config.view ttl) config.effectivePartition

end Balancer

namespace Registry

/-- Set up a balancer and register it under the entry made of it. A role that is taken is noticed
before the view is looked at. -/
def registerView (registry : Registry β) (role : Role) (view : View)
    (entry : Balancer ω → β) : Except SetupError (Balancer ω × Registry β) :=
  if registry.isRegistered role then .error (.taken ⟨role⟩)
  else
    match Balancer.setUp role view with
    | .error e => .error e
    | .ok balancer => .ok (balancer, registry.put role (entry balancer))

end Registry

end StickyRouting
