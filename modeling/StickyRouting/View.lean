import StickyRouting.Role
import StickyRouting.RouteKey
import StickyRouting.Store.Call
import StickyRouting.Duration.Text

set_option autoImplicit false

namespace StickyRouting

structure View where
  level : Capability
  space : String
  ttl : Duration
  lasting : ttl.isZero = false
  deriving DecidableEq

namespace View

/-- A view whose bindings last a day, or as long as is given; no time at all counts as not given. -/
def make (level : Capability) (space : String) (ttl : Duration := .zero) : View where
  level := level
  space := space
  ttl := ttl.orIfZero .defaultTtl
  lasting := ttl.isZero_orIfZero (by decide)

def withLevel (view : View) (level : Capability) : View := { view with level := level }

def withTtl (view : View) (ttl : Duration) : View := make view.level view.space ttl

def key (view : View) (partition : String) (objectId : Int64) : String :=
  RouteKey.encode ⟨view.space, partition, objectId⟩

inductive Request where
  | get
  | touch
  | renewSelf (value : String)
  | set (value : String)
  | claim (value : String)
  | exchange (value : String)
  | delete
  | deleteIf (value : String)
  | lapse (delay : Duration)
  | lapseIf (value : String) (delay : Duration)
  deriving Repr, DecidableEq

def Request.needs : Request → Capability
  | get => .readOnly
  | touch => .readOnly
  | renewSelf _ => .renewal
  | _ => .master

def Request.callOn (request : Request) (key : String) (ttl : Duration) : Store.Call :=
  match request with
  | get => .get key
  | touch => .getRenewing key ttl
  | renewSelf value => .renewIf key value ttl
  | set value => .set key value ttl
  | claim value => .claim key value ttl
  | exchange value => .exchange key value ttl
  | delete => .delete key
  | deleteIf value => .deleteIf key value
  | lapse delay => .renew key delay
  | lapseIf value delay => .renewIf key value delay

def call (view : View) (partition : String) (objectId : Int64) (request : Request) : Store.Call :=
  request.callOn (view.key partition objectId) view.ttl

def call? (view : View) (partition : String) (objectId : Int64) (request : Request) :
    Except Capability Store.Call :=
  if view.level.satisfies request.needs then .ok (view.call partition objectId request)
  else .error request.needs

def callAll (view : View) (partition : String) (objectIds : List Int64) : Store.Call :=
  .getAll (objectIds.map (view.key partition))

def detail (view : View) : String :=
  "ReadOnlyRouteTable \x7b namespace: " ++ Text.quoted view.space ++ ", ttl: " ++
    view.ttl.inUnits ++ ", .. \x7d"

def shown (view : View) : String :=
  let renewing := "RenewalRouteTable \x7b inner: " ++ view.detail ++ " \x7d"
  match view.level with
  | .readOnly => "ReadOnly(" ++ view.detail ++ ")"
  | .renewal => "Renewal(" ++ renewing ++ ")"
  | .master => "Master(MasterRouteTable \x7b inner: " ++ renewing ++ " \x7d)"

end View

end StickyRouting
