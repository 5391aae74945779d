import StickyRouting.Balancer.Setup
import StickyRouting.Config.Printer
import StickyRouting.Tool.Invocation
import StickyRouting.Tool.Listing
import StickyRouting.Tool.World

set_option autoImplicit false

namespace StickyRouting.Tool

def loadConfig (directory : Directory) (path : String) : Except Failure Config :=
  match directory.readText path with
  | .error e => .error (.config path (.unreadable path e.message))
  | .ok text => (Config.parse text).mapError (.config path)

structure Done where
  shown : String
  notices : List Notice := []
  deriving Repr, DecidableEq

abbrev Work : Type := Config → Nat → Store.Backend → Except Failure Done × Store.Backend

def withStore (world : World) (path : String) (work : Work) : Except Failure Done × World :=
  match loadConfig world.directory path with
  | .error e => (.error e, world)
  | .ok config =>
    match config.store with
    | none => (.error .noStore, world)
    | some store =>
      match openStore world store with
      | .error e => (.error e, world)
      | .ok (opened, backend) =>
        let (answer, backend) := work config world.now backend
        (answer, world.keep opened backend)

def viewOf (config : Config) : Except Failure View :=
  match config.effectiveTtl with
  | .error cause => .error (.duration cause)
  | .ok ttl => .ok (View.make .master config.space ttl)

def keyFor (config : Config) (view : View) (partition : Option String) (objectId : Int64) :
    String :=
  view.key (partition.getD config.effectivePartition) objectId

def lookUp (key : String) : Work := fun _ now backend =>
  match Store.Backend.perform now (.get key) backend with
  | (.error e, backend) => (.error (.route e), backend)
  | (.ok none, backend) => (.ok ⟨key ++ " is not bound", []⟩, backend)
  | (.ok (some address), backend) =>
    match Store.Backend.remaining now key backend with
    | (.error e, backend) => (.error (.route e), backend)
    | (.ok left, backend) =>
      let secs := Text.Numeral.showNat (left.getD .zero).secs
      (.ok ⟨key ++ " -> " ++ address ++ " (ttl " ++ secs ++ "s)", []⟩, backend)

def getWork (partition : Option String) (objectId : Int64) : Work := fun config now backend =>
  match viewOf config with
  | .error e => (.error e, backend)
  | .ok view => lookUp (keyFor config view partition objectId) config now backend

def listWork (partition : Option String) (all : Bool) (format : String) : Work :=
  fun config now backend =>
    let space := if all then none else some config.space
    match Store.Backend.entries now (space.map keyStart) backend with
    | (.error e, backend) => (.error (.route e), backend)
    | (.ok entries, backend) =>
      (.ok ⟨render format (selected space partition entries), []⟩, backend)

def deletion (partition : String) (objectId : Int64) : Notice where
  level := .info
  source := "affinityctl::commands::table"
  text := "route deleted partition=" ++ partition ++ " oid=" ++ Text.Numeral.showInt64 objectId

def remove (key : String) (ifValue : Option String) (notice : Notice) : Work := fun _ now backend =>
  let call : Store.Call := match ifValue with
    | some value => .deleteIf key value
    | none => .delete key
  match Store.Backend.perform now call backend with
  | (.error e, backend) => (.error (.route e), backend)
  | (.ok _, backend) => (.ok ⟨"✓ Deleted " ++ key, [notice]⟩, backend)

def deleteWork (partition : Option String) (objectId : Int64) (ifValue : Option String) : Work :=
  fun config now backend =>
    match viewOf config with
    | .error e => (.error e, backend)
    | .ok view =>
      let notice := deletion (partition.getD config.effectivePartition) objectId
      remove (keyFor config view partition objectId) ifValue notice config now backend

def purgeWork : Work := fun _ now backend =>
  match Store.Backend.purge now backend with
  | (.error e, backend) => (.error (.route e), backend)
  | (.ok count, backend) =>
    (.ok ⟨"✓ Purged " ++ Text.Numeral.showNat count ++ " expired route(s)", []⟩, backend)

def storeFor (store : String) : Option String → StoreConfig
  | some url => .server url none
  | none => .file store

def initialise (world : World) (path space store : String) (serverUrl : Option String) :
    Except Failure Done × World :=
  if world.directory.pathExists path then (.error (.alreadyThere path), world)
  else
    let config := Config.scaffold space (storeFor store serverUrl)
    match world.directory.write path (.bytes (Text.Utf8.encode config.renderChars)) with
    | .error e => (.error (.writing e), world)
    | .ok directory => (.ok ⟨"✓ Generated " ++ path, []⟩, { world with directory := directory })

def run (world : World) (invocation : Invocation) : Except Failure Done × World :=
  let path := invocation.config
  match invocation.command with
  | .init space store serverUrl => initialise world path space store serverUrl
  | .key space partition objectId => (.ok ⟨RouteKey.encode ⟨space, partition, objectId⟩, []⟩, world)
  | .decode key format =>
    (((RouteKey.parse key).map fun key => ⟨renderKey format key, []⟩).mapError .route, world)
  | .get partition objectId => withStore world path (getWork partition objectId)
  | .list partition all format => withStore world path (listWork partition all format)
  | .delete partition objectId ifValue =>
    withStore world path (deleteWork partition objectId ifValue)
  | .purge => withStore world path purgeWork

structure Report where
  code : Nat
  log : List String := []
  output : String := ""
  failure : Option Failure := none
  deriving Repr, DecidableEq

def refuse (refusal : Refusal) : Report :=
  match refusal.cause with
  | .usage => { code := 2 }
  | .help => { code := 0 }
  | .version =>
    let shown := match refusal.command with
      | none => name
      | some command => name ++ "-" ++ command
    { code := 0, output := shown ++ " " ++ version ++ "\n" }

def main (world : World) (words : List String) : Report × World :=
  match parse words with
  | .error refusal => (refuse refusal, world)
  | .ok invocation =>
    let logged (notices : List Notice) := notices.map (Notice.line · world.now)
    match run world invocation with
    | (.ok done, world) =>
      ({ code := 0, log := logged done.notices, output := done.shown ++ "\n" }, world)
    | (.error failure, world) =>
      ({ code := 1, log := logged failure.notices, failure := some failure }, world)

def Report.printed (report : Report) : String :=
  String.join (report.log.map (· ++ "\n")) ++ report.output

namespace World

def bind (world : World) (path : String) (rows : List (String × String × Duration)) :
    Except RouteError World := do
  let (place, table) ← world.directory.openTable path
  let table := rows.foldl (fun table (key, value, ttl) =>
    (Store.Embedded.perform world.now (.set key value ttl) table).2) table
  return world.keep (.file place) (.embedded table)

def bindings (world : World) (path : String) : Except RouteError (List Store.Entry) := do
  let (_, table) ← world.directory.openTable path
  Store.Embedded.entries 0 table none

def place (world : World) (path : String) (file : Store.File) : World :=
  match world.directory.write path file with
  | .ok directory => { world with directory := directory }
  | .error _ => world

end World

end StickyRouting.Tool
