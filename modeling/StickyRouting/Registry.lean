import StickyRouting.Balancer

set_option autoImplicit false

namespace StickyRouting

structure Registry (β : Type) where
  master : Option β := none
  reader : Option β := none
  deriving Repr, DecidableEq

structure RoleTaken where
  role : Role
  deriving Repr, DecidableEq

def RoleTaken.problem (e : RoleTaken) : String := e.role.name ++ " balancer already registered"

namespace Registry

variable {β : Type}

def get? (registry : Registry β) : Role → Option β
  | .master => registry.master
  | .reader => registry.reader

def isRegistered (registry : Registry β) (role : Role) : Bool := (registry.get? role).isSome

def put (registry : Registry β) (role : Role) (entry : β) : Registry β :=
  match role with
  | .master => { registry with master := some entry }
  | .reader => { registry with reader := some entry }

def register (registry : Registry β) (role : Role) (entry : β) :
    Except RoleTaken (Registry β) :=
  if registry.isRegistered role then .error ⟨role⟩ else .ok (registry.put role entry)

end Registry

end StickyRouting
