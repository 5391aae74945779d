import StickyRouting.Json.Quoted
import StickyRouting.Json.Tree
import StickyRouting.Duration

/-!
The record of a key holds the address it is bound to and the instant from which the binding is over, as
JSON. Reading takes the two fields in any order among others, or the two values in a list.
-/

set_option autoImplicit false

namespace StickyRouting.Store

/-- The last instant, in milliseconds, that a record can name. -/
def lastInstant : Nat := Text.Numeral.word64

def deadline (now : Nat) (ttl : Duration) : Nat := min (now + ttl.millis) lastInstant

structure Record where
  value : String
  deadline : Nat
  deriving Repr, DecidableEq

namespace Record

def bind (value : String) (now : Nat) (ttl : Duration) : Record := ⟨value, Store.deadline now ttl⟩

def renew (record : Record) (now : Nat) (ttl : Duration) : Record := bind record.value now ttl

def isExpired (record : Record) (now : Nat) : Bool := record.deadline ≤ now

def valueField : List Char := "value".toList

def deadlineField : List Char := "expires_at_ms".toList

def encode (record : Record) : List UInt8 :=
  Text.Utf8.encode <|
    ['{'] ++ Json.quote valueField ++ [':'] ++ Json.quote record.value.toList ++ [','] ++
      Json.quote deadlineField ++ [':'] ++ Text.Numeral.writeNat record.deadline ++ ['}']

def valueOf? : Json.Tree → Option String
  | .text value => value.map String.ofList
  | _ => none

def deadlineOf? : Json.Tree → Option Nat
  | .number spelling => (Text.Numeral.digits? spelling).filter (· ≤ lastInstant)
  | _ => none

def field? (name : List Char) (fields : List (Option (List Char) × Json.Tree)) :
    Option Json.Tree :=
  match fields.filter fun field => field.1 = some name with
  | [(_, value)] => some value
  | _ => none

def ofTree? : Json.Tree → Option Record
  | .list [value, deadline] => do some ⟨← valueOf? value, ← deadlineOf? deadline⟩
  | .object fields =>
    if fields.all fun field => field.1.isSome then do
      let value ← field? valueField fields
      let deadline ← field? deadlineField fields
      some ⟨← valueOf? value, ← deadlineOf? deadline⟩
    else none
  | _ => none

def decode? (bytes : List UInt8) : Option Record := (Json.read? bytes).bind ofTree?

end Record

end StickyRouting.Store
