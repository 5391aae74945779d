import StickyRouting.Duration.Parser
import StickyRouting.PartitionFilter
import StickyRouting.Role

set_option autoImplicit false

namespace StickyRouting

inductive StoreConfig where
  | file (path : String)
  | server (url : String) (poolSize : Option UInt32)
  deriving Repr, DecidableEq

def StoreConfig.hasBlankUrl : StoreConfig → Bool
  | .server url _ => Text.allBlank url
  | .file _ => false

structure Config where
  space : String
  defaultPartition : Option String := none
  ttl : Option String := none
  role : Option Role := none
  store : Option StoreConfig := none
  deriving Repr, DecidableEq

inductive LayoutError where
  | notToml
  | missingField (name : String)
  | unknownBackend (name : String)
  | unknownRole (cause : UnknownRole)
  | wrongType
  | outOfRange
  | wrongLength
  deriving Repr, DecidableEq

inductive ConfigError where
  | layout (cause : LayoutError)
  | emptySpace
  | emptyUrl
  | duration (cause : Duration.Invalid)
  | unreadable (path reason : String)
  | unknownRole (cause : UnknownRole)
  deriving Repr, DecidableEq

def firstLine (text : String) : String := String.ofList (text.toList.takeWhile (· != '\n'))

def LayoutError.problem : LayoutError → String
  | missingField name => "TOML: missing field `" ++ name ++ "`"
  | unknownBackend name =>
    firstLine ("TOML: unknown variant `" ++ name ++ "`, expected `redb` or `redis`")
  | unknownRole cause => firstLine ("TOML: invalid config: " ++ cause.problem)
  | wrongType => "TOML: invalid type"
  | outOfRange => "TOML: invalid value"
  | notToml => "TOML"
  | wrongLength => "TOML"

def ConfigError.message : ConfigError → String
  | layout cause => "invalid config: " ++ cause.problem
  | emptySpace => "invalid config: routing.namespace is empty"
  | emptyUrl => "invalid config: store.url is empty"
  | duration cause => cause.message
  | unreadable path reason => "invalid config: " ++ path ++ ": " ++ reason
  | unknownRole cause => "invalid config: " ++ cause.problem

namespace Config

/-- The time of a binding. None, and no time at all, stand for the default. -/
def effectiveTtl (config : Config) : Except Duration.Invalid Duration :=
  match config.ttl with
  | none => .ok .defaultTtl
  | some text => (Duration.parse text).map (·.orIfZero .defaultTtl)

def effectiveRole (config : Config) : Role := config.role.getD .master

def effectivePartition (config : Config) : String :=
  config.defaultPartition.getD StickyRouting.defaultPartition

def scaffold (space : String) (store : StoreConfig) : Config where
  space := space
  defaultPartition := some StickyRouting.defaultPartition
  ttl := some "24h"
  role := some .master
  store := some store

def check (config : Config) : Except ConfigError Config :=
  if Text.allBlank config.space then .error .emptySpace
  else
    match config.effectiveTtl with
    | .error cause => .error (.duration cause)
    | .ok _ =>
      if config.store.any StoreConfig.hasBlankUrl then .error .emptyUrl else .ok config

end Config

end StickyRouting
