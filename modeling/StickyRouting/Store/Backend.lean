import StickyRouting.Server.Client
import StickyRouting.Store.Embedded

set_option autoImplicit false

namespace StickyRouting.Store

inductive Backend where
  | embedded (table : Table)
  | remote (link : Server.Link)
  deriving Repr

namespace Backend

def perform : Engine Backend := fun now call backend =>
  match backend with
  | embedded table =>
    let (answer, table) := Embedded.perform now call table
    (answer, .embedded table)
  | remote link =>
    let (answer, link) := Server.perform now call link
    (answer, .remote link)

def remaining (now : Nat) (key : String) (backend : Backend) :
    Except RouteError (Option Duration) × Backend :=
  match backend with
  | embedded table => (Embedded.remaining now table key, backend)
  | remote link =>
    let (answer, link) := Server.remaining now key link
    (answer, .remote link)

def entries (now : Nat) (start : Option String) (backend : Backend) :
    Except RouteError (List Entry) × Backend :=
  match backend with
  | embedded table => (Embedded.entries now table start, backend)
  | remote link =>
    let (answer, link) := Server.entries now start link
    (answer, .remote link)

def purge (now : Nat) (backend : Backend) : Except RouteError Nat × Backend :=
  match backend with
  | embedded table =>
    let (answer, table) := Embedded.purge now table
    (answer, .embedded table)
  | remote _ => (.ok 0, backend)

end Backend

end StickyRouting.Store
