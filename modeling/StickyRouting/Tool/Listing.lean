import StickyRouting.Json.Quoted
import StickyRouting.RouteKey
import StickyRouting.Store.Call

set_option autoImplicit false

namespace StickyRouting.Tool

open Store (Entry)

def keyStart (space : String) : String := "r_" ++ space ++ "_\x7b"

def isAskedFor (space partition : Option String) (entry : Entry) : Bool :=
  match RouteKey.decode? entry.key with
  | some key => space.all (key.space == ·) && partition.all (key.partition == ·)
  | none => space.isNone && partition.isNone

def selected (space partition : Option String) (entries : List Entry) : List Entry :=
  entries.filter (isAskedFor space partition)

open Text.Numeral (writeNat writeInt showNat)

def padRight (width : Nat) (text : List Char) : List Char := text.rightpad width ' '
def padLeft (width : Nat) (text : List Char) : List Char := text.leftpad width ' '

def line (key value left : List Char) : List Char :=
  padRight 40 key ++ ' ' :: padRight 24 value ++ ' ' :: padLeft 8 left

def lines (entries : List Entry) : List (List Char) :=
  line "KEY".toList "ADDRESS".toList "TTL".toList ::
    entries.map (fun e => line e.key.toList e.value.toList (writeNat e.ttl.secs ++ ['s'])) ++
    [writeNat entries.length ++ " route(s)".toList]

def objectLines (margin : Nat) (fields : List (String × List Char)) : List Char :=
  let indent := List.replicate margin ' '
  let one (field : String × List Char) :=
    indent ++ "  ".toList ++ Json.quote field.1.toList ++ ": ".toList ++ field.2
  '{' :: '\n' :: [',', '\n'].intercalate (fields.map one) ++ '\n' :: indent ++ ['}']

def entryFields (entry : Entry) : List (String × List Char) :=
  [("address", Json.quote entry.value.toList), ("key", Json.quote entry.key.toList),
    ("ttl_secs", writeNat entry.ttl.secs)]

def arrayLines (items : List (List Char)) : List Char :=
  if items.isEmpty then ['[', ']']
  else
    '[' :: '\n' :: [',', '\n'].intercalate (items.map fun item => ' ' :: ' ' :: item) ++
      ['\n', ']']

def render (format : String) (entries : List Entry) : String :=
  String.ofList <|
    if format = "json" then arrayLines (entries.map fun e => objectLines 2 (entryFields e))
    else ['\n'].intercalate (lines entries)

def renderKey (format : String) (key : RouteKey) : String :=
  if format = "json" then
    String.ofList <| objectLines 0
      [("namespace", Json.quote key.space.toList), ("object_id", writeInt key.objectId.toInt),
        ("partition", Json.quote key.partition.toList)]
  else
    "namespace: " ++ key.space ++ "\npartition: " ++ key.partition ++ "\nobject_id: " ++
      Text.Numeral.showInt64 key.objectId

end StickyRouting.Tool
