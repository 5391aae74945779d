import StickyRouting.Directory
import StickyRouting.Store.Backend

set_option autoImplicit false

namespace StickyRouting.Store

inductive Medium where
  | memory
  | file (path : String) (content : Option File)
  | server (reached : Option Server.Link)
  deriving Repr

def Medium.start : Medium → Except RouteError Backend
  | memory => .ok (.embedded ∅)
  | file path content => do
    let directory := match content with
      | none => Directory.usual
      | some held => (Directory.usual.write path held).toOption.getD Directory.usual
    let (_, table) ← directory.openTable path
    return .embedded table
  | server (some link) => .ok (.remote link)
  | server none => .error (.fault .opening "no server answers")

end StickyRouting.Store
