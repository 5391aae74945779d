import StickyRouting.Store.FileFormat
import StickyRouting.Tool
import Std.Time.DateTime.Timestamp

set_option autoImplicit false

namespace StickyRouting.Tool

def look (place : Place) : IO (Option DirectoryEntry) := do
  try
    if ← (← IO.FS.realPath place.shown).isDir then return some .folder
    let content ← IO.FS.readBinFile place.shown
    return some (.file (Store.FileFormat.read content.toList))
  catch _ => return none

def load (directory : Directory) (text : String) : IO Directory :=
  match Path.ofText text with
  | .error _ => return directory
  | .ok path =>
    path.places.foldlM (fun directory place => do
      match directory.entry? place, ← look place with
      | none, some entry => return directory.put place entry
      | _, _ => return directory) directory

def bytesOf : Store.File → List UInt8
  | .table table => Store.FileFormat.write table
  | .otherTable => []
  | .bytes content => content

def save (before after : Directory) : IO Unit :=
  after.entries.entries.forM fun (path, entry) => do
    match entry with
    | .file file =>
      unless before.entries.get? path == some entry do
        IO.FS.writeBinFile path (bytesOf file).toByteArray
    | _ => return

def tablePath? (directory : Directory) (invocation : Invocation) : Option String :=
  match loadConfig directory invocation.config with
  | .ok config =>
    match config.store with
    | some (.file path) => some path
    | _ => none
  | .error _ => none

def directoryFor (words : List String) : IO Directory :=
  match parse words with
  | .error _ => return {}
  | .ok invocation => do
    let directory ← load Directory.usual invocation.config
    match tablePath? directory invocation with
    | none => return directory
    | some path => load directory path

def printReport (report : Report) : IO Unit := do
  IO.print report.printed
  match (report.failure.map Failure.shown).getD [] with
  | [] => return
  | first :: causes =>
    IO.eprintln ("Error: " ++ first)
    unless causes.isEmpty do
      IO.eprintln "\nCaused by:"
      for cause in causes do
        IO.eprintln ("    " ++ cause)

end StickyRouting.Tool

open StickyRouting.Tool in
def main (words : List String) : IO UInt32 := do
  let now := (← Std.Time.Timestamp.now).toMillisecondsSinceUnixEpoch.toInt.toNat
  let directory ← directoryFor words
  let (report, world) := StickyRouting.Tool.main { now, directory } words
  save directory world.directory
  printReport report
  return UInt32.ofNat report.code
