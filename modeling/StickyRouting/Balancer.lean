import StickyRouting.PartitionFilter
import StickyRouting.Picker
import StickyRouting.View

/-!
A pick reads the binding of the request's object and renews it; a binding to a candidate decides the
pick. Otherwise a candidate is chosen by weight: a reader answers with it, and a master claims the
binding for it and answers with whatever node the binding then names.
-/

set_option autoImplicit false

namespace StickyRouting

variable {ω τ σ : Type}

/-- A balancer holds its view with exactly the rights of its role. -/
structure Balancer (ω : Type) where
  role : Role
  view : View
  filter : PartitionFilter
  picker : Picker ω
  bound : view.level = Capability.requiredFor role

structure Ungranted where
  role : Role
  granted : Capability
  deriving Repr, DecidableEq

def Ungranted.problem (e : Ungranted) : String :=
  e.role.name ++ " balancer needs a " ++ (Capability.requiredFor e.role).name ++
    " route table, got " ++ e.granted.name

inductive Source where
  | sticky
  | claimed
  /-- Another claim came first and bound the object to it. -/
  | adopted
  /-- A reader chose it; nothing was written. -/
  | selected
  deriving Repr, DecidableEq

structure Picked (ω τ : Type) where
  node : Node ω τ
  source : Source
  deriving Repr, DecidableEq

inductive PickError where
  | noNode
  | request (cause : ObjectIdError)
  | store (cause : RouteError)
  /-- The object is bound to a node outside the candidates. -/
  | outsider (key address : String)
  deriving Repr, DecidableEq

namespace PickError

def isTransient : PickError → Bool
  | store cause => cause.isTransient
  | _ => false

def message : PickError → String
  | noNode => "no node available"
  | request cause => "invalid request: " ++ cause.message
  | store cause => "route table error: " ++ cause.message
  | outsider key address =>
    "route " ++ key ++ " is bound to " ++ address ++ ", which is not a candidate"

end PickError

namespace Balancer

def create (role : Role) (view : View) (fallback : String := defaultPartition) :
    Except Ungranted (Balancer ω) :=
  if view.level.satisfies (Capability.requiredFor role) then
    .ok ⟨role, view.withLevel (Capability.requiredFor role), ⟨fallback⟩, .empty, rfl⟩
  else .error ⟨role, view.level⟩

abbrev Outcome (ω τ : Type) : Type := Except PickError (Picked ω τ)

inductive Standing (ω τ : Type) where
  | settled (outcome : Outcome ω τ)
  | claiming (proposal : Node ω τ)
  deriving Repr

def withPicker (balancer : Balancer ω) (picker : Picker ω) : Balancer ω :=
  { balancer with picker := picker }

/-- The key of the request's object. It is looked for only if there is a candidate. -/
def keyFor (balancer : Balancer ω) (md : Metadata) (candidates : List (Node ω τ)) :
    Except PickError String :=
  if candidates.isEmpty then .error .noNode
  else
    match md.objectId with
    | .error cause => .error (.request cause)
    | .ok objectId => .ok (balancer.view.key (balancer.filter.partition md) objectId)

def afterRead [Zero ω] [Add ω] [Sub ω] [LT ω] [DecidableLT ω] (balancer : Balancer ω)
    (candidates : List (Node ω τ)) (answer : Except RouteError (Option String)) :
    Standing ω τ × Balancer ω :=
  match answer with
  | .error cause => (.settled (.error (.store cause)), balancer)
  | .ok address =>
    -- A binding to a node that is no candidate decides nothing here.
    match address.bind (Node.at? candidates) with
    | some node => (.settled (.ok ⟨node, .sticky⟩), balancer)
    | none =>
      let (chosen, picker) := balancer.picker.select candidates
      match chosen, balancer.role with
      | none, _ => (.settled (.error .noNode), balancer)
      | some node, .reader => (.settled (.ok ⟨node, .selected⟩), balancer.withPicker picker)
      | some node, .master => (.claiming node, balancer.withPicker picker)

def afterClaim (key : String) (candidates : List (Node ω τ)) (proposal : Node ω τ)
    (answer : Except RouteError Store.Claim) : Outcome ω τ :=
  match answer with
  | .error cause => .error (.store cause)
  | .ok claim =>
    -- The binding stands, whoever made it: no other node is an answer.
    if claim.created then .ok ⟨proposal, .claimed⟩
    else
      match Node.at? candidates claim.value with
      | some node => .ok ⟨node, .adopted⟩
      | none => .error (.outsider key claim.value)

/-- Pick among candidates, which are taken to be of the request's partition. -/
def pick [Zero ω] [Add ω] [Sub ω] [LT ω] [DecidableLT ω] (engine : Store.Engine σ) (now : Nat)
    (balancer : Balancer ω) (md : Metadata) (candidates : List (Node ω τ)) (store : σ) :
    Outcome ω τ × Balancer ω × σ :=
  match balancer.keyFor md candidates with
  | .error e => (.error e, balancer, store)
  | .ok key =>
    let (read, store) := engine now (.getRenewing key balancer.view.ttl) store
    match balancer.afterRead candidates read with
    | (.settled outcome, balancer) => (outcome, balancer, store)
    | (.claiming proposal, balancer) =>
      let (claim, store) := engine now (.claim key proposal.address balancer.view.ttl) store
      (afterClaim key candidates proposal claim, balancer, store)

def select [Zero ω] [Add ω] [Sub ω] [LT ω] [DecidableLT ω] (engine : Store.Engine σ) (now : Nat)
    (balancer : Balancer ω) (md : Metadata) (roster : List (Node ω τ)) (store : σ) :
    Outcome ω τ × Balancer ω × σ :=
  balancer.pick engine now md (balancer.filter.candidates md roster) store

def shown (balancer : Balancer ω) : String :=
  let (role, binding) := match balancer.role with
    | .master => ("Master", balancer.view.shown)
    | .reader => ("Reader", "Reader(" ++ balancer.view.detail ++ ")")
  "StickyBalancer \x7b role: " ++ role ++ ", binding: " ++ binding ++
    ", filter: PartitionFilter \x7b default_partition: " ++
    Text.quoted balancer.filter.fallback ++ " \x7d, .. \x7d"

end Balancer

end StickyRouting
