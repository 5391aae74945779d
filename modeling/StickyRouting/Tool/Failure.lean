import StickyRouting.Config.Reader
import StickyRouting.Directory.Path
import StickyRouting.RouteError
import StickyRouting.Tool.Log

set_option autoImplicit false

namespace StickyRouting.Tool

inductive Failure where
  | config (path : String) (cause : ConfigError)
  | noStore
  | opening (path : String) (cause : RouteError)
  | connecting (url : String) (cause : RouteError) (attempts : List String)
  | route (cause : RouteError)
  | alreadyThere (path : String)
  | writing (cause : PathError)
  | duration (cause : Duration.Invalid)
  deriving Repr, DecidableEq

def Failure.messages : Failure → List String
  | config path cause => ["loading " ++ path, cause.message]
  | noStore => ["config has no [store] section"]
  | opening path cause => ["opening route table " ++ path, cause.message]
  | connecting url cause _ => ["connecting to route table " ++ url, cause.message]
  | route cause => [cause.message]
  | alreadyThere path => [path ++ " already exists"]
  | writing cause => [cause.message]
  | duration cause => [cause.message]

def Failure.notices : Failure → List Notice
  | connecting _ _ attempts => attempts.map (⟨.error, "r2d2", ·⟩)
  | _ => []

def indented (text : String) : String :=
  String.ofList (text.toList.flatMap fun c => if c = '\n' then "\n    ".toList else [c])

def Failure.shown (failure : Failure) : List String :=
  failure.messages.take 1 ++ (failure.messages.drop 1).map indented

end StickyRouting.Tool
