import StickyRouting.Directory.Path
import StickyRouting.Store.File

/-!
Each part of a path but the last has to lead into a folder. A file is read where the path ends at one,
and made where it ends at nothing.
-/

set_option autoImplicit false

namespace StickyRouting

inductive DirectoryEntry where
  | folder
  | file (content : Store.File)
  /-- A device that is empty, whatever is written to it. -/
  | sink
  deriving Repr, DecidableEq

/-- What stands at the places that are known, each by its shown form. -/
structure Directory where
  entries : KeyMap DirectoryEntry := ∅
  deriving Repr

namespace Directory

/-- The working directory, the folders above it and the root are always there. -/
def entry? (directory : Directory) (place : Place) : Option DirectoryEntry :=
  if place.names.isEmpty then some .folder else directory.entries.get? place.shown

def put (directory : Directory) (place : Place) (entry : DirectoryEntry) : Directory :=
  ⟨directory.entries.insert place.shown entry⟩

def next (place : Place) (part : String) : Except PathError Place :=
  if 255 < part.utf8ByteSize then .error .nameTooLong else .ok (place.go part)

def enter (directory : Directory) (place : Place) (part : String) : Except PathError Place := do
  let place ← next place part
  match directory.entry? place with
  | some .folder => return place
  | some _ => throw .notDirectory
  | none => throw .missing

def folderOf (directory : Directory) (path : Path) : Except PathError Place :=
  path.parts.dropLast.foldlM directory.enter path.start

def find (directory : Directory) (text : String) : Except PathError DirectoryEntry := do
  let path ← Path.ofText text
  let folder ← directory.folderOf path
  match path.parts.getLast? with
  | none => return .folder
  | some part =>
    match directory.entry? (← next folder part) with
    | none => throw .missing
    | some .folder => return .folder
    | some entry => if path.slashed then throw .notDirectory else return entry

def siteOf (directory : Directory) (text : String) : Except PathError Place := do
  let path ← Path.ofText text
  let folder ← directory.folderOf path
  match path.parts.getLast? with
  | none => throw .directory
  | some part =>
    if path.slashed then throw .directory
    let place ← next folder part
    if directory.entry? place = some .folder then throw .directory
    return place

def readText (directory : Directory) (path : String) : Except PathError String := do
  match ← directory.find path with
  | .folder => throw .directory
  | .sink => return ""
  | .file (.bytes content) =>
    match Text.Utf8.text? content with
    | some text => return text
    | none => throw .notText
  | .file _ => throw .notText

def pathExists (directory : Directory) (path : String) : Bool :=
  match directory.find path with
  | .ok _ => true
  | .error _ => false

def write (directory : Directory) (path : String) (file : Store.File) :
    Except PathError Directory := do
  let place ← directory.siteOf path
  return if directory.entry? place = some .sink then directory else directory.put place (.file file)

def openTable (directory : Directory) (path : String) : Except RouteError (Place × Store.Table) :=
  match directory.siteOf path with
  | .error e => .error (.fault .opening e.message)
  | .ok place =>
    match directory.entry? place with
    | none => .ok (place, ∅)
    | some (.file file) => file.open?.map (place, ·)
    | some _ => .error (.fault .opening "not a file")

def usual : Directory where
  entries :=
    let folders :=
      ["/bin", "/boot", "/dev", "/etc", "/home", "/lib", "/media", "/mnt", "/opt", "/proc", "/root",
        "/run", "/sbin", "/srv", "/sys", "/tmp", "/usr", "/usr/bin", "/usr/lib", "/usr/local",
        "/usr/share", "/var", "/var/lib", "/var/log", "/var/tmp"]
    (KeyMap.ofList (folders.map (·, .folder))).insert "/dev/null" .sink

end Directory

end StickyRouting
