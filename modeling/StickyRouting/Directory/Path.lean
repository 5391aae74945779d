/-!
A place is known by the names on the way to it: down from the root, or up from the working directory
and then down.
-/

set_option autoImplicit false

namespace StickyRouting

inductive PathError where
  | missing
  | notDirectory
  | directory
  | nameTooLong
  | endsEarly
  | notText
  deriving Repr, DecidableEq

def PathError.message : PathError → String
  | missing => "No such file or directory (os error 2)"
  | notDirectory => "Not a directory (os error 20)"
  | directory => "Is a directory (os error 21)"
  | nameTooLong => "File name too long (os error 36)"
  | endsEarly => "file name contained an unexpected NUL byte"
  | notText => "stream did not contain valid UTF-8"

structure Path where
  fromRoot : Bool
  parts : List String
  slashed : Bool
  deriving Repr, DecidableEq

def Path.ofText (text : String) : Except PathError Path :=
  let chars := text.toList
  if chars.isEmpty then .error .missing
  else if chars.contains '\x00' then .error .endsEarly
  else if 4096 ≤ text.utf8ByteSize then .error .nameTooLong
  else
    .ok
      { fromRoot := chars.head? == some '/'
        parts := ((chars.splitOn '/').filter (· != [])).map String.ofList
        slashed := chars.getLast? == some '/' }

inductive Origin where
  | root
  | above (steps : Nat)
  deriving Repr, DecidableEq

structure Place where
  origin : Origin
  names : List String
  deriving Repr, DecidableEq

namespace Place

/-- The place as a path without detours. No two places have the same one. -/
def shown : Place → String
  | ⟨.root, names⟩ => "/" ++ "/".intercalate names
  | ⟨.above steps, names⟩ => "/".intercalate (List.replicate steps ".." ++ names)

def up : Place → Place
  | ⟨.root, []⟩ => ⟨.root, []⟩
  | ⟨.above steps, []⟩ => ⟨.above (steps + 1), []⟩
  | ⟨origin, names⟩ => ⟨origin, names.dropLast⟩

def down (place : Place) (name : String) : Place := { place with names := place.names ++ [name] }

def go (place : Place) (part : String) : Place :=
  if part = "." then place else if part = ".." then place.up else place.down part

def trail : Place → List String → List Place
  | _, [] => []
  | place, part :: rest => place.go part :: (place.go part).trail rest

end Place

def Path.start (path : Path) : Place := ⟨if path.fromRoot then .root else .above 0, []⟩

def Path.places (path : Path) : List Place := path.start.trail path.parts

end StickyRouting
