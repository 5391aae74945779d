import StickyRouting.Config
import StickyRouting.Toml.Document

set_option autoImplicit false

namespace StickyRouting.Config

open Toml (Value Scalar)

abbrev Layout (α : Type) : Type := Except LayoutError α

def textOf : Value → Layout String
  | .scalar (.text value) => .ok (String.ofList value)
  | _ => .error .wrongType

def roleOf (value : Value) : Layout Role := do
  match Role.parse (← textOf value) with
  | .ok role => .ok role
  | .error cause => .error (.unknownRole cause)

def poolSizeOf : Value → Layout UInt32
  | .scalar (.integer n) =>
    if 0 ≤ n ∧ n.toNat ≤ Text.Numeral.word32 then .ok (UInt32.ofNat n.toNat)
    else .error .outOfRange
  | _ => .error .wrongType

def require {α : Type} (name : String) : Option α → Layout α
  | some value => .ok value
  | none => .error (.missingField name)

structure Routing where
  space : Option String := none
  defaultPartition : Option String := none
  ttl : Option String := none
  role : Option Role := none
  deriving Repr, DecidableEq

def Routing.read (routing : Routing) (field : List Char × Value) : Layout Routing := do
  match String.ofList field.1 with
  | "namespace" => return { routing with space := some (← textOf field.2) }
  | "default_partition" => return { routing with defaultPartition := some (← textOf field.2) }
  | "ttl" => return { routing with ttl := some (← textOf field.2) }
  | "role" => return { routing with role := some (← roleOf field.2) }
  | _ => return routing

def Routing.finish (routing : Routing) : Layout Routing := do
  let _ ← require "namespace" routing.space
  return routing

def Routing.ofValue : Value → Layout Routing
  | .table fields => do (← fields.foldlM Routing.read {}).finish
  | .scalar (.moment _) => Routing.finish {}
  | .list (space :: fallback :: ttl :: role :: _) => do
    let space ← textOf space
    let fallback ← textOf fallback
    let ttl ← textOf ttl
    let role ← roleOf role
    return ⟨some space, some fallback, some ttl, some role⟩
  | .list items => (items.forM fun item => (textOf item).map fun _ => ()).bind fun _ =>
    .error .wrongLength
  | .scalar _ => .error .wrongType

inductive Backend where
  | file
  | server
  deriving Repr, DecidableEq

def backendOf (value : Value) : Layout Backend := do
  match ← textOf value with
  | "redb" => return .file
  | "redis" => return .server
  | other => .error (.unknownBackend other)

structure Store where
  path : Option String := none
  url : Option String := none
  poolSize : Option UInt32 := none
  deriving Repr, DecidableEq

def Store.read (backend : Backend) (store : Store) (field : List Char × Value) :
    Layout Store := do
  match backend, String.ofList field.1 with
  | .file, "path" => return { store with path := some (← textOf field.2) }
  | .server, "url" => return { store with url := some (← textOf field.2) }
  | .server, "pool_size" => return { store with poolSize := some (← poolSizeOf field.2) }
  | _, _ => return store

def Store.finish (backend : Backend) (store : Store) : Layout StoreConfig := do
  match backend with
  | .file => return .file (← require "path" store.path)
  | .server => return .server (← require "url" store.url) store.poolSize

def backendField : List Char := "backend".toList

def storeOf : Value → Layout StoreConfig
  | .table fields => do
    let backend ← (fields.lookup backendField).mapM backendOf
    let backend ← require "backend" backend
    (← fields.foldlM (Store.read backend) {}).finish backend
  | .scalar (.moment _) => .error (.missingField "backend")
  | .list [] => .error (.missingField "backend")
  | .list (backend :: items) => do
    match ← backendOf backend, items with
    | .file, path :: rest =>
      let path ← textOf path
      if rest.isEmpty then .ok (.file path) else .error .wrongLength
    | .server, url :: poolSize :: rest =>
      let url ← textOf url
      let poolSize ← poolSizeOf poolSize
      if rest.isEmpty then .ok (.server url (some poolSize)) else .error .wrongLength
    | .server, [url] => do
      let _ ← textOf url
      .error .wrongLength
    | _, [] => .error .wrongLength
  | .scalar _ => .error .wrongType

structure Parts where
  routing : Option Routing := none
  store : Option StoreConfig := none
  deriving Repr, DecidableEq

def Parts.read (parts : Parts) (field : List Char × Value) : Layout Parts := do
  match String.ofList field.1 with
  | "routing" => return { parts with routing := some (← Routing.ofValue field.2) }
  | "store" => return { parts with store := some (← storeOf field.2) }
  | _ => return parts

def ofDocument (fields : List (List Char × Value)) : Layout Config := do
  let parts ← fields.foldlM Parts.read {}
  let routing ← require "routing" parts.routing
  let space ← require "namespace" routing.space
  return ⟨space, routing.defaultPartition, routing.ttl, routing.role, parts.store⟩

def parse (text : String) : Except ConfigError Config :=
  match Toml.parse? text with
  | none => .error (.layout .notToml)
  | some fields =>
    match ofDocument fields with
    | .error cause => .error (.layout cause)
    | .ok config => config.check

end StickyRouting.Config
