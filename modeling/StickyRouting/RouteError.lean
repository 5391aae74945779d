import StickyRouting.Text.Quoted

set_option autoImplicit false

namespace StickyRouting

inductive Stage where
  | opening
  | transaction
  | table
  | reading
  | writing
  | commit
  | encoding
  | decoding
  deriving Repr, DecidableEq

def Stage.problem : Stage → String
  | opening => "failed to open route store"
  | transaction => "transaction error"
  | table => "table error"
  | reading => "read error"
  | writing => "write error"
  | commit => "commit error"
  | encoding => "serialization error"
  | decoding => "deserialization error"

inductive RouteError where
  | fault (stage : Stage) (detail : String)
  | notFound (key : String)
  | valueChanged (key expected : String) (actual : Option String)
  | invalidKey (text : String)
  deriving Repr, DecidableEq

namespace RouteError

/-- Does the error speak of the store, and not of the entry? Then the same call may yet succeed. -/
def isTransient : RouteError → Bool
  | fault .encoding _ => false
  | fault .decoding _ => false
  | fault _ _ => true
  | _ => false

def isValueChanged : RouteError → Bool
  | valueChanged .. => true
  | _ => false

def isNotFound : RouteError → Bool
  | notFound _ => true
  | _ => false

def message : RouteError → String
  | fault stage detail => stage.problem ++ ": " ++ detail
  | notFound key => "route not found: " ++ key
  | valueChanged key expected actual =>
    "route value changed: key=" ++ key ++ " expected=" ++ expected ++ " actual=" ++
      Text.quotedOption actual
  | invalidKey text => "invalid route key: " ++ text

end RouteError

end StickyRouting
