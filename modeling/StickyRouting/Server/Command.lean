import StickyRouting.Text.Utf8
import StickyRouting.Text.Numeral

set_option autoImplicit false

namespace StickyRouting.Server

inductive Script where
  | claim (value : String) (px : Nat)
  | renewIf (expected : String) (px : Nat)
  | deleteIf (expected : String)
  deriving Repr, DecidableEq

inductive Command where
  | get (key : String)
  | getEx (key : String) (px : Nat)
  | mget (keys : List String)
  | set (key value : String) (px : Nat)
  | setGet (key value : String) (px : Nat)
  | pexpire (key : String) (px : Nat)
  | del (key : String)
  | pttl (key : String)
  | scan (cursor : Nat) (pattern : String) (count : Nat)
  | run (key : String) (script : Script)
  deriving Repr, DecidableEq

open Text.Numeral (showNat)

def Script.arguments : Script → List String
  | claim value px => [value, showNat px]
  | renewIf expected px => [expected, showNat px]
  | deleteIf expected => [expected]

def Command.words : Command → List String
  | get key => ["GET", key]
  | getEx key px => ["GETEX", key, "PX", showNat px]
  | mget keys => "MGET" :: keys
  | set key value px => ["SET", key, value, "PX", showNat px]
  | setGet key value px => ["SET", key, value, "PX", showNat px, "GET"]
  | pexpire key px => ["PEXPIRE", key, showNat px]
  | del key => ["DEL", key]
  | pttl key => ["PTTL", key]
  | scan cursor pattern count =>
    ["SCAN", showNat cursor, "MATCH", pattern, "COUNT", showNat count]
  | run key script => "SCRIPT" :: "1" :: key :: script.arguments

inductive Reply where
  | nil
  | integer (value : Int)
  | bulk (bytes : List UInt8)
  | status (text : String)
  | list (items : List Reply)
  | error (text : String)
  | dropped
  deriving Repr

namespace Reply

def ofText (text : String) : Reply := .bulk (Text.Utf8.encode text.toList)

def asText? : Reply → Option String
  | bulk bytes => Text.Utf8.text? bytes
  | status text => some text
  | integer value => some (Text.Numeral.showInt value)
  | _ => none

def asOptional? : Reply → Option (Option String)
  | nil => some none
  | reply => reply.asText?.map some

def asInteger? : Reply → Option Int
  | integer value => some value
  | bulk bytes => (Text.Utf8.text? bytes).bind spelled?
  | status text => spelled? text
  | _ => none
where
  spelled? (text : String) : Option Int :=
    (Text.Numeral.integer? text.toList).filter Text.Numeral.fitsInt64

def asPair? {α β : Type} (first : Reply → Option α) (second : Reply → Option β) :
    Reply → Option (α × β)
  | list [a, b] => do some (← first a, ← second b)
  | _ => none

def asCursor? : Reply → Option Nat
  | integer value => some (value % UInt64.size).toNat
  | bulk bytes => (Text.Utf8.text? bytes).bind spelled?
  | status text => spelled? text
  | _ => none
where
  spelled? (text : String) : Option Nat := Text.Numeral.bounded? Text.Numeral.word64 text.toList

/-- Several values. One bulk is a list of one, and no reply a list of none. -/
def asList? {α : Type} (item : Reply → Option α) : Reply → Option (List α)
  | list items => items.mapM item
  | nil => some []
  | bulk bytes => (item (.bulk bytes)).map ([·])
  | _ => none

def isError : Reply → Bool
  | error _ => true
  | dropped => true
  | _ => false

end Reply

end StickyRouting.Server
