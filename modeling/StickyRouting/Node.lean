import StickyRouting.Decimal.Shortest

set_option autoImplicit false

namespace StickyRouting

structure Node (ω τ : Type) where
  address : String
  weight : ω
  partition : String
  handle : τ
  deriving Repr, DecidableEq

namespace Node

variable {ω τ : Type}

def usableWeight (weight : Float) : Float :=
  if weight.isFinite && 0 < weight then weight else 0

def weighted (address : String) (weight : Float) (partition : String) (handle : τ) :
    Node Float τ :=
  ⟨address, usableWeight weight, partition, handle⟩

def at? (candidates : List (Node ω τ)) (address : String) : Option (Node ω τ) :=
  candidates.find? fun node => node.address = address

def shown (node : Node Float τ) : String :=
  node.address ++ " (weight=" ++ Decimal.showPositional node.weight ++ ", partition=" ++
    node.partition ++ ")"

theorem mem_of_at? {candidates : List (Node ω τ)} {address : String} {node : Node ω τ}
    (h : at? candidates address = some node) : node ∈ candidates ∧ node.address = address :=
  ⟨List.mem_of_find?_eq_some h, by simpa using List.find?_some h⟩

theorem at?_eq_none_iff {candidates : List (Node ω τ)} {address : String} :
    at? candidates address = none ↔ ∀ node ∈ candidates, node.address ≠ address := by
  simp [at?]

end Node

end StickyRouting
