import StickyRouting.KeyMap
import StickyRouting.Node

/-!
Smooth weighted round robin. A selection adds to the score of every node its weight, takes the node
with the greatest score and charges it the weights of all. Scores belong to addresses, and an address
that no selection has seen for a while loses its own.
-/

set_option autoImplicit false

namespace StickyRouting

structure Score (ω : Type) where
  current : ω
  lastSeen : Nat
  deriving Repr, DecidableEq

structure Picker (ω : Type) where
  scores : KeyMap (Score ω)
  tick : Nat

namespace Picker

variable {ω τ : Type}

/-- The selections that an address may sit out; scores are also looked through this often. -/
def idleSelections : Nat := 1024

def empty : Picker ω := ⟨∅, 0⟩

instance : Inhabited (Picker ω) := ⟨empty⟩

def score [Zero ω] (picker : Picker ω) (address : String) : ω :=
  match picker.scores.get? address with
  | some s => s.current
  | none => 0

def tracked (picker : Picker ω) : Nat := picker.scores.size

def reset (picker : Picker ω) : Picker ω := { picker with scores := ∅ }

/-- A selection under way: the scores so far, the weight of the nodes seen, and the leader with the
score that made it one. -/
structure Round (ω τ : Type) where
  scores : KeyMap (Score ω)
  total : ω
  leader : Option (Node ω τ × ω)

def raised [Zero ω] [Add ω] (weight : ω) (tick : Nat) (held : Option (Score ω)) : Score ω :=
  ⟨(match held with | some s => s.current | none => 0) + weight, tick⟩

def Round.lead [LT ω] [DecidableLT ω] (leader : Option (Node ω τ × ω)) (node : Node ω τ)
    (reached : ω) : Option (Node ω τ × ω) :=
  match leader with
  | none => some (node, reached)
  | some (first, best) => if best < reached then some (node, reached) else some (first, best)

def Round.enter [Zero ω] [Add ω] [LT ω] [DecidableLT ω] (tick : Nat) (round : Round ω τ)
    (node : Node ω τ) : Round ω τ :=
  let score := raised node.weight tick (round.scores.get? node.address)
  { scores := round.scores.insert node.address score
    total := round.total + node.weight
    leader := Round.lead round.leader node score.current }

def charge [Sub ω] (total : ω) (scores : KeyMap (Score ω)) (address : String) :
    KeyMap (Score ω) :=
  scores.alter address fun held => held.map fun s => { s with current := s.current - total }

def sweep (tick : Nat) (scores : KeyMap (Score ω)) : KeyMap (Score ω) :=
  -- Between two sweeps an address can sit out nearly twice as many selections.
  if tick % idleSelections = 0 then scores.filter fun _ s => tick - s.lastSeen < idleSelections
  else scores

/-- Choose a node of the roster. Among equals the first is taken; no roster, no choice. -/
def select [Zero ω] [Add ω] [Sub ω] [LT ω] [DecidableLT ω] (picker : Picker ω)
    (roster : List (Node ω τ)) : Option (Node ω τ) × Picker ω :=
  let tick := picker.tick + 1
  let round := roster.foldl (Round.enter tick) ⟨picker.scores, 0, none⟩
  match round.leader with
  | none => (none, picker)
  | some (winner, _) =>
    (some winner, ⟨sweep tick (charge round.total round.scores winner.address), tick⟩)

end Picker

end StickyRouting
