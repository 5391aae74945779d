import StickyRouting.Directory
import StickyRouting.Server.Address
import StickyRouting.Store.Backend
import StickyRouting.Tool.Failure

set_option autoImplicit false

namespace StickyRouting.Tool

structure World where
  now : Nat
  directory : Directory
  server : Option (String × Server.Link) := none

inductive Opened where
  | file (place : Place)
  | server (url : String)
  deriving Repr, DecidableEq

def World.keep (world : World) (opened : Opened) (backend : Store.Backend) : World :=
  match opened, backend with
  | .file place, .embedded table =>
    { world with directory := world.directory.put place (.file (.table table)) }
  | .server url, .remote link => { world with server := some (url, link) }
  | _, _ => world

def obstacle (directory : Directory) : Server.Address → String
  | .network host _ =>
    if Server.Authority.isNumeric host then "Network is unreachable (os error 101)"
    else "failed to lookup address information: Temporary failure in name resolution"
  | .socket path =>
    if path.contains 0 then "paths must not contain interior null bytes"
    else if 108 ≤ path.length then "path must be shorter than SUN_LEN"
    else
      match directory.find (Text.Utf8.readable path) with
      | .ok _ => "Connection refused (os error 111)"
      | .error e => e.message

def defaultPoolSize : Nat := 8

/-- A connection is tried at once and after pauses of 400, 800 and 1600 ms; the next pause would outlast
the five seconds that there are. -/
def triesPerConnection : Nat := 4

def openServer (world : World) (url : String) (poolSize : Option UInt32) :
    Except Failure (Opened × Store.Backend) :=
  let refused (attempts : List String) :=
    Except.error (Failure.connecting url (.fault .opening "no server answers") attempts)
  let connections := max 1 ((poolSize.map (·.toNat)).getD defaultPoolSize)
  match Server.Address.parse? url, world.server with
  | none, _ => refused []
  | some address, none =>
    refused (List.replicate (triesPerConnection * connections) (obstacle world.directory address))
  | some _, some (reached, link) =>
    if reached = url then .ok (.server url, .remote link) else refused []

def openStore (world : World) : StoreConfig → Except Failure (Opened × Store.Backend)
  | .file path =>
    match world.directory.openTable path with
    | .error e => .error (.opening path e)
    | .ok (place, table) => .ok (.file place, .embedded table)
  | .server url poolSize => openServer world url poolSize

end StickyRouting.Tool
