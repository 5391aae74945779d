import StickyRouting.KeyMap
import StickyRouting.Server.Command
import StickyRouting.Server.Glob

/-!
A server of keys that carries out each command and each script as one atomic step.
-/

set_option autoImplicit false

namespace StickyRouting.Server

structure Item where
  value : List UInt8
  deadline : Option Nat
  deriving Repr, DecidableEq

structure Keyspace where
  items : KeyMap Item := ∅
  /-- Is a key still there at the very instant of its deadline? -/
  lingers : Bool := false
  /-- How many keys a scan walks in one page, where the client has no say in it. -/
  page : Option Nat := none
  /-- Does each page of a scan begin with the last key of the page before? -/
  repeats : Bool := false
  deriving Repr

def lastDeadline : Nat := 0x7FFFFFFFFFFFFFFF

namespace Keyspace

def isLive (server : Keyspace) (now : Nat) (item : Item) : Bool :=
  match item.deadline with
  | none => true
  | some instant => if server.lingers then now ≤ instant else now < instant

def live? (server : Keyspace) (now : Nat) (key : String) : Option Item :=
  (server.items.get? key).filter (server.isLive now)

def put (server : Keyspace) (key : String) (item : Item) : Keyspace :=
  { server with items := server.items.insert key item }

def drop (server : Keyspace) (key : String) : Keyspace :=
  { server with items := server.items.erase key }

def ofValue : Option Item → Reply
  | none => .nil
  | some item => .bulk item.value

def timed (server : Keyspace) (now px : Nat) (go : Nat → Reply × Keyspace) : Reply × Keyspace :=
  if px = 0 ∨ lastDeadline < now + px then (.error "ERR invalid expire time", server)
  else go (now + px)

def bytes (text : String) : List UInt8 := Text.Utf8.encode text.toList

/-- The keys of one page of a scan, in descending order of the keys, and the cursor of the next. -/
def pageOf (server : Keyspace) (now cursor count : Nat) : List String × Nat :=
  let keys := ((server.items.filter fun _ item => server.isLive now item).keys).reverse
  let size := max 1 (server.page.getD count)
  let page := (keys.drop cursor).take size
  let again := if server.repeats && 0 < cursor then (keys.take cursor).getLast?.toList else []
  (again ++ page, if cursor + size < keys.length then cursor + size else 0)

def runScript (server : Keyspace) (now : Nat) (key : String) (script : Script) :
    Reply × Keyspace :=
  let held := server.live? now key
  let refused : Reply × Keyspace := (.list [.integer 0, ofValue held], server)
  match script with
  | .claim value px =>
    if held.isSome then refused
    else server.timed now px fun deadline =>
      (.list [.integer 1, .ofText value], server.put key ⟨bytes value, some deadline⟩)
  | .renewIf expected px =>
    match held with
    | some item =>
      if item.value = bytes expected then
        server.timed now px fun deadline =>
          (.list [.integer 1, .bulk item.value], server.put key ⟨item.value, some deadline⟩)
      else refused
    | none => refused
  | .deleteIf expected =>
    match held with
    | some item =>
      if item.value = bytes expected then (.list [.integer 1, .bulk item.value], server.drop key)
      else refused
    | none => refused

def run (server : Keyspace) (now : Nat) : Command → Reply × Keyspace
  | .get key => (ofValue (server.live? now key), server)
  | .getEx key px =>
    server.timed now px fun deadline =>
      match server.live? now key with
      | none => (.nil, server)
      | some item => (.bulk item.value, server.put key ⟨item.value, some deadline⟩)
  | .mget keys => (.list (keys.map fun key => ofValue (server.live? now key)), server)
  | .set key value px =>
    server.timed now px fun deadline =>
      (.status "OK", server.put key ⟨bytes value, some deadline⟩)
  | .setGet key value px =>
    server.timed now px fun deadline =>
      (ofValue (server.live? now key), server.put key ⟨bytes value, some deadline⟩)
  | .pexpire key px =>
    server.timed now px fun deadline =>
      match server.live? now key with
      | none => (.integer 0, server)
      | some item => (.integer 1, server.put key ⟨item.value, some deadline⟩)
  | .del key =>
    (.integer (if (server.live? now key).isSome then 1 else 0), server.drop key)
  | .pttl key =>
    match server.live? now key with
    | none => (.integer (-2), server)
    | some item =>
      (.integer (match item.deadline with | none => -1 | some d => d - now), server)
  | .scan cursor pattern count =>
    let (page, next) := server.pageOf now cursor count
    let places := Glob.parse (bytes pattern)
    let found := page.filter fun key => Glob.isMatch places (bytes key)
    (.list [.ofText (Text.Numeral.showNat next), .list (found.map .ofText)], server)
  | .run key script => server.runScript now key script

end Keyspace

end StickyRouting.Server
