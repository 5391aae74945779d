import StickyRouting.Tool.Arguments

set_option autoImplicit false

namespace StickyRouting.Tool

def name : String := "affinityctl"
def version : String := "0.1.0"

inductive Command where
  | init (space store : String) (serverUrl : Option String)
  | key (space partition : String) (objectId : Int64)
  | decode (key format : String)
  | get (partition : Option String) (objectId : Int64)
  | list (partition : Option String) (all : Bool) (format : String)
  | delete (partition : Option String) (objectId : Int64) (ifValue : Option String)
  | purge
  deriving Repr, DecidableEq

structure Invocation where
  config : String
  command : Command
  deriving Repr, DecidableEq

def configSwitch : Switch := ⟨"config", some 'c', true⟩
def partitionSwitch : Switch := ⟨"partition", some 'p', true⟩
def formatSwitch : Switch := ⟨"format", some 'f', true⟩

def shapes : List (String × Shape) :=
  [("init", ⟨[⟨"namespace", some 'n', true⟩, ⟨"store", some 's', true⟩,
      ⟨"redis-url", none, true⟩], []⟩),
    ("key", ⟨[], [.text, .text, .objectId]⟩),
    ("decode", ⟨[formatSwitch], [.text]⟩),
    ("get", ⟨[partitionSwitch], [.objectId]⟩),
    ("list", ⟨[partitionSwitch, ⟨"all", none, false⟩, formatSwitch], []⟩),
    ("del", ⟨[partitionSwitch, ⟨"if-value", none, true⟩], [.objectId]⟩),
    ("purge", ⟨[], []⟩)]

def Shape.withConfig (shape : Shape) : Shape := ⟨configSwitch :: shape.switches, shape.places⟩

def toObjectId? (text : String) : Option Int64 := Text.Numeral.int64? text.toList

def require {α : Type} : Option α → Except Stop α
  | some a => .ok a
  | none => .error .usage

def build (command : String) (given : Given) : Except Stop Command := do
  let format := (given.value? "format").getD "text"
  let partition := given.value? "partition"
  match command, given.places with
  | "init", [] =>
    let space ← require (given.value? "namespace")
    if given.has "store" && given.has "redis-url" then .error .usage
    else return .init space ((given.value? "store").getD "routes.redb") (given.value? "redis-url")
  | "key", [space, partition, object] =>
    return .key space partition (← require (toObjectId? object))
  | "decode", [key] => return .decode key format
  | "get", [object] => return .get partition (← require (toObjectId? object))
  | "list", [] => return .list partition (given.has "all") format
  | "del", [object] =>
    return .delete partition (← require (toObjectId? object)) (given.value? "if-value")
  | "purge", [] => return .purge
  | _, _ => .error .usage

structure Refusal where
  cause : Stop
  command : Option String
  deriving Repr, DecidableEq

def isHelpTopic : List String → Bool
  | [] => true
  | [topic] => topic == "help" || (shapes.lookup topic).isSome
  | _ => false

def parseCommand (before : Given) (command : String) (words : List String) :
    Except Refusal Invocation :=
  match shapes.lookup command with
  | none =>
    .error ⟨if command == "help" && isHelpTopic words then .help else .usage, none⟩
  | some shape =>
    let read : Except Stop Invocation := do
      let (given, pending, _) ← gather shape.withConfig false .nothing {} words
      let given ← pending.settle given
      let config := ((given.value? "config").or (before.value? "config")).getD "affinity.toml"
      return ⟨config, ← build command given⟩
    read.mapError fun cause => ⟨cause, some command⟩

/-- Read a command line. The settings may be named before the command or after it. What is wrong with
the last value before the command is noticed only when the words of the command are read. -/
def parse (words : List String) : Except Refusal Invocation :=
  match gather ⟨[configSwitch], []⟩ true .nothing {} words with
  | .error cause => .error ⟨cause, none⟩
  | .ok (_, _, []) => .error ⟨.usage, none⟩
  | .ok (given, pending, command :: rest) =>
    match pending.settle given with
    | .ok given => parseCommand given command rest
    | .error cause => (parseCommand given command rest).bind fun _ => .error ⟨cause, none⟩

end StickyRouting.Tool
