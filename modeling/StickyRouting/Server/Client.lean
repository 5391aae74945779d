import StickyRouting.Server.Keyspace
import StickyRouting.Store.Call

set_option autoImplicit false

namespace StickyRouting.Server

/-- A connection to a server: the replies that stand in for its own, and the commands sent. -/
structure Link where
  server : Keyspace := {}
  scripted : List Reply := []
  sent : List (List String) := []
  deriving Repr

namespace Link

def send (link : Link) (now : Nat) (command : Command) : Reply × Link :=
  let sent := link.sent ++ [command.words]
  match link.scripted with
  | reply :: rest => (reply, { link with scripted := rest, sent := sent })
  | [] =>
    let (reply, server) := link.server.run now command
    (reply, { link with server := server, sent := sent })

end Link

/-- The time of an entry in milliseconds, as the server takes it: at least one. -/
def px (ttl : Duration) : Nat := max 1 (min ttl.millis lastDeadline)

def timeLeft (pttl : Int) : Option Duration :=
  if pttl < 0 then none else some (.ofMillis pttl.toNat)

def escapeGlob (c : Char) : List Char :=
  if c = '*' ∨ c = '?' ∨ c = '[' ∨ c = ']' ∨ c = '\\' then ['\\', c] else [c]

def startPattern (start : String) : String :=
  String.ofList (start.toList.flatMap escapeGlob ++ ['*'])

def scanCount : Nat := 512

def keyStart : String := "r_"

def unexpected (stage : Stage) : RouteError := .fault stage "unexpected reply"

def read {α : Type} (stage : Stage) (value : Option α) : Except RouteError α :=
  match value with
  | some a => .ok a
  | none => .error (unexpected stage)

def conditional (key expected : String) (reply : Reply) : Except RouteError Unit := do
  let (done, current) ← read .writing (reply.asPair? Reply.asInteger? Reply.asOptional?)
  if done = 1 then .ok () else .error (.valueChanged key expected current)

def perform : Store.Engine Link := fun now call link =>
  match call with
  | .get key =>
    let (reply, link) := link.send now (.get key)
    (read .reading reply.asOptional?, link)
  | .getRenewing key ttl =>
    let (reply, link) := link.send now (.getEx key (px ttl))
    (read .writing reply.asOptional?, link)
  | .getAll keys =>
    if keys.isEmpty then (.ok [], link)
    else
      let (reply, link) := link.send now (.mget keys)
      (read .reading (reply.asList? Reply.asOptional?), link)
  | .set key value ttl =>
    let (reply, link) := link.send now (.set key value (px ttl))
    (if reply.isError then .error (unexpected .writing) else .ok (), link)
  | .claim key value ttl =>
    let (reply, link) := link.send now (.run key (.claim value (px ttl)))
    ((read .writing (reply.asPair? Reply.asInteger? Reply.asText?)).map fun (created, winner) =>
      ⟨created == 1, winner⟩, link)
  | .exchange key value ttl =>
    let (reply, link) := link.send now (.setGet key value (px ttl))
    (read .writing reply.asOptional?, link)
  | .renew key ttl =>
    let (reply, link) := link.send now (.pexpire key (px ttl))
    ((read .writing reply.asInteger?).bind fun updated =>
      if updated = 1 then .ok () else .error (.notFound key), link)
  | .renewIf key expected ttl =>
    let (reply, link) := link.send now (.run key (.renewIf expected (px ttl)))
    (conditional key expected reply, link)
  | .delete key =>
    let (reply, link) := link.send now (.del key)
    ((read .writing reply.asInteger?).map fun _ => (), link)
  | .deleteIf key expected =>
    let (reply, link) := link.send now (.run key (.deleteIf expected))
    (conditional key expected reply, link)

def remaining (now : Nat) (key : String) (link : Link) :
    Except RouteError (Option Duration) × Link :=
  let (reply, link) := link.send now (.pttl key)
  ((read .reading reply.asInteger?).map timeLeft, link)

def page? (reply : Reply) : Option (Nat × List String) :=
  reply.asPair? Reply.asCursor? (Reply.asList? Reply.asText?)

def scanUpTo (now : Nat) (pattern : String) :
    Nat → Nat → List String → Link → Except RouteError (List String) × Link
  | 0, _, found, link => (.ok found, link)
  | fuel + 1, cursor, found, link =>
    let (reply, link) := link.send now (.scan cursor pattern scanCount)
    match page? reply with
    | none => (.error (unexpected .reading), link)
    | some (next, keys) =>
      if next = 0 then (.ok (found ++ keys), link)
      else scanUpTo now pattern fuel next (found ++ keys) link

def scanLimit (link : Link) : Nat := link.scripted.length + link.server.items.size + 1

def distinct (keys : List String) : List String :=
  (KeyMap.ofList (keys.map fun key => (key, ()))).keys

/-- The entries of keys, one after the other. Keys that are gone or have no deadline are left out. -/
def fetch (now : Nat) : List String → Link → Except RouteError (List Store.Entry) × Link
  | [], link => (.ok [], link)
  | key :: rest, link =>
    let (value, link) := link.send now (.get key)
    let (left, link) := link.send now (.pttl key)
    match value.asOptional?, left.asInteger? with
    | some value, some pttl =>
      let (entries, link) := fetch now rest link
      let entry : Option Store.Entry := do some ⟨key, ← value, ← timeLeft pttl⟩
      (entries.map (entry.toList ++ ·), link)
    | _, _ => (.error (unexpected .reading), link)

def entries (now : Nat) (start : Option String) (link : Link) :
    Except RouteError (List Store.Entry) × Link :=
  let pattern := startPattern (start.getD keyStart)
  match scanUpTo now pattern (scanLimit link) 0 [] link with
  | (.error e, link) => (.error e, link)
  | (.ok keys, link) => fetch now (distinct keys) link

end StickyRouting.Server
