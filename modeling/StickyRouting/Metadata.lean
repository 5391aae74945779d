import StickyRouting.KeyMap
import StickyRouting.Text.Blank
import StickyRouting.Text.Quoted

set_option autoImplicit false

namespace StickyRouting

inductive ObjectIdError where
  | missing
  | notInteger (text : String)
  deriving Repr, DecidableEq

def ObjectIdError.message : ObjectIdError → String
  | missing => "object id is not in request metadata"
  | notInteger text => "object id is not int64: " ++ Text.quoted text

structure Metadata where
  fields : KeyMap String
  deriving Repr, DecidableEq

namespace Metadata

def objectIdField : String := "x-md-global-oid"
def partitionField : String := "x-md-global-color"

def empty : Metadata := ⟨∅⟩

def set (md : Metadata) (name value : String) : Metadata :=
  ⟨md.fields.insert (Text.lowerAscii name) value⟩

def get? (md : Metadata) (name : String) : Option String :=
  md.fields.get? (Text.lowerAscii name)

def ofList (pairs : List (String × String)) : Metadata :=
  pairs.foldl (fun md pair => md.set pair.1 pair.2) empty

def forObject (partition : String) (objectId : Int64) : Metadata :=
  (empty.set partitionField partition).set objectIdField (Text.Numeral.showInt64 objectId)

def objectId (md : Metadata) : Except ObjectIdError Int64 :=
  match md.get? objectIdField with
  | none => .error .missing
  | some text =>
    match Text.Numeral.int64? (Text.trim text.toList) with
    | some n => .ok n
    | none => .error (.notInteger text)

/-- The partition; an empty one counts as none. -/
def partitionOr (md : Metadata) (fallback : String) : String :=
  match md.get? partitionField with
  | some name => if name = "" then fallback else name
  | none => fallback

end Metadata

end StickyRouting
