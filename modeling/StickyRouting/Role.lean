import StickyRouting.Text.Blank

set_option autoImplicit false

namespace StickyRouting

inductive Role where
  | master
  | reader
  deriving Repr, DecidableEq

structure UnknownRole where
  name : String
  deriving Repr, DecidableEq

namespace Role

def name : Role → String
  | master => "master"
  | reader => "reader"

def parse (text : String) : Except UnknownRole Role :=
  match Text.lowerAscii (Text.trimmed text) with
  | "master" => .ok master
  | "reader" => .ok reader
  | other => .error ⟨other⟩

end Role

/-- Rights on a route table; each level has those of the levels before it. -/
inductive Capability where
  | readOnly
  | renewal
  | master
  deriving Repr, DecidableEq

namespace Capability

def level : Capability → Nat
  | readOnly => 0
  | renewal => 1
  | master => 2

instance : LE Capability := ⟨fun a b => a.level ≤ b.level⟩
instance (a b : Capability) : Decidable (a ≤ b) := inferInstanceAs (Decidable (a.level ≤ b.level))
instance : Ord Capability := ⟨fun a b => compare a.level b.level⟩

def requiredFor : Role → Capability
  | .reader => readOnly
  | .master => master

def satisfies (granted required : Capability) : Bool := required ≤ granted

def name : Capability → String
  | readOnly => "read-only"
  | renewal => "renewal"
  | master => "master"

end Capability

def UnknownRole.problem (e : UnknownRole) : String := "unknown balancer role: " ++ e.name

end StickyRouting
