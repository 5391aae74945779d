import StickyRouting.Duration
import StickyRouting.RouteError

/-!
Each call to a store is one atomic step: between what it reads and what it writes no other call takes
place. An entry that is over is no entry.
-/

set_option autoImplicit false

namespace StickyRouting.Store

inductive Call where
  | get (key : String)
  | getRenewing (key : String) (ttl : Duration)
  | getAll (keys : List String)
  | set (key value : String) (ttl : Duration)
  /-- Make an entry where there is none, and tell what the key holds now. -/
  | claim (key value : String) (ttl : Duration)
  /-- Set the value and give back the one before it. -/
  | exchange (key value : String) (ttl : Duration)
  | renew (key : String) (ttl : Duration)
  | renewIf (key expected : String) (ttl : Duration)
  | delete (key : String)
  | deleteIf (key expected : String)
  deriving Repr, DecidableEq

structure Claim where
  created : Bool
  value : String
  deriving Repr, DecidableEq

abbrev Call.Answer : Call → Type
  | .get _ => Option String
  | .getRenewing _ _ => Option String
  | .getAll _ => List (Option String)
  | .claim _ _ _ => Claim
  | .exchange _ _ _ => Option String
  | _ => Unit

abbrev Engine (σ : Type) : Type :=
  Nat → (call : Call) → σ → Except RouteError call.Answer × σ

structure Entry where
  key : String
  value : String
  ttl : Duration
  deriving Repr, DecidableEq

end StickyRouting.Store
