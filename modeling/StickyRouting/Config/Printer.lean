import StickyRouting.Config
import StickyRouting.Toml.Printer

set_option autoImplicit false

namespace StickyRouting.Config

def field (name value : String) : List Char :=
  Toml.writeField name.toList (Toml.writeText value.toList)

def optional (name : String) : Option String → List Char
  | none => []
  | some value => field name value

def renderStore : StoreConfig → List Char
  | .file path => field "backend" "redb" ++ field "path" path
  | .server url poolSize =>
    field "backend" "redis" ++ field "url" url ++
      match poolSize with
      | none => []
      | some size => Toml.writeField "pool_size".toList (Text.Numeral.writeNat size.toNat)

def renderChars (config : Config) : List Char :=
  Toml.writeHeader "routing".toList ++ field "namespace" config.space ++
    optional "default_partition" config.defaultPartition ++ optional "ttl" config.ttl ++
    optional "role" (config.role.map Role.name) ++
    match config.store with
    | none => []
    | some store => '\n' :: Toml.writeHeader "store".toList ++ renderStore store

def render (config : Config) : String := String.ofList config.renderChars

end StickyRouting.Config
