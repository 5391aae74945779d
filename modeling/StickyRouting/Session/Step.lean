import StickyRouting.Balancer.Report
import StickyRouting.Config.Reader
import StickyRouting.Session

set_option autoImplicit false

namespace StickyRouting.Session

abbrev Roster : Type := List (Node Weight Nat)

inductive Candidates where
  | given
  | filtered
  deriving Repr, DecidableEq

inductive Step where
  | time
  | setClock (instant : Nat)
  | advance (duration : Duration)
  | call (via : Option String) (call : Store.Call)
  | remaining (key : String)
  | entries (start : Option String)
  | purge
  | close
  | reopen
  | rehearse (name : String) (rehearsal : Store.Rehearsal)
  | calls (name : String)
  | openView (name : String) (view : View) (via : Option String)
  | describeView (name : String)
  | showView (name : String)
  | keyOf (name : String) (partition : String) (objectId : Int64)
  | ask (name : String) (partition : String) (objectId : Int64) (request : View.Request)
  | askAll (name : String) (partition : String) (objectIds : List Int64)
  | balancer (name role view : String) (fallback : Option String)
  | configured (name text : String)
  | unchecked (name : String) (config : Config)
  | describe (name : String)
  | showBalancer (name : String)
  | pick (name : String) (candidates : Candidates) (md : Metadata) (roster : Roster)
  | picks (name : String) (partition : String) (first : Int) (count : Nat) (roster : Roster)
  | picker (name : String) (reset : Bool)
  | registerView (role : Role) (view name : String)
  | registerBuilt (role : String) (view name : String)
  | isRegistered (role : String)
  | registered (role : String)
  | script (replies : List Server.Reply)

inductive Answer where
  | done
  | instant (now : Nat)
  | called (call : Store.Call) (answer : call.Answer)
  | time (left : Option Duration)
  | entries (entries : List Store.Entry)
  | count (n : Nat)
  | flag (value : Bool)
  | text (value : String)
  | view (view : View)
  | balancer (balancer : Balancer Weight)
  | registered (names : List String) (balancer : Balancer Weight)
  | nobody
  | picked (picked : Picked Weight Nat)
  | picks (picks : List (Picked Weight Nat))
  | calls (rehearsal : Store.Rehearsal)

abbrev Outcome : Type := Except Trouble Answer × Session

variable {α : Type}

def reply (answer : α → Answer) (outcome : Except Trouble α × Session) : Outcome :=
  (outcome.1.map answer, outcome.2)

def orTrouble (session : Session) (found : Except Trouble α) (go : α → Outcome) : Outcome :=
  match found with
  | .error e => (.error e, session)
  | .ok a => go a

def service (session : Session) (name : String) (via : Option Nat)
    (made : Except SetupError (Balancer Weight)) : Outcome :=
  session.orTrouble (made.mapError .setup) fun balancer =>
    (.ok (.balancer balancer), session.enlist name ⟨balancer, via⟩)

def parseRole (text : String) : Except Trouble Role :=
  (Role.parse text).mapError fun cause => .config (.unknownRole cause)

def pickOnce (session : Session) (name : String) (candidates : Candidates) (md : Metadata)
    (roster : Roster) : Except Trouble (Picked Weight Nat) × Session :=
  match session.service? name with
  | .error e => (.error e, session)
  | .ok (place, service) =>
    let (outcome, session) := session.withEngine service.via fun engine now store =>
      let (outcome, balancer, store) := match candidates with
        | .given => service.balancer.pick engine now md roster store
        | .filtered => service.balancer.select engine now md roster store
      ((outcome, balancer), store)
    match outcome with
    | .error e => (.error e, session)
    | .ok (outcome, balancer) =>
      (outcome.mapError .pick,
        { session with services := session.services.set place { service with balancer } })

/-- Picks for consecutive objects. The first that fails ends them. -/
def pickMany (name partition : String) (roster : Roster) :
    Nat → Int → Session → Except Trouble (List (Picked Weight Nat)) × Session
  | 0, _, session => (.ok [], session)
  | count + 1, objectId, session =>
    match session.pickOnce name .given (.forObject partition (Int64.ofInt objectId)) roster with
    | (.error e, session) => (.error e, session)
    | (.ok picked, session) =>
      let (rest, session) := pickMany name partition roster count (objectId + 1) session
      (rest.map (picked :: ·), session)

def registerBy (session : Session) (role : Role) (view name : String) : Outcome :=
  session.orTrouble (session.view? view) fun handle =>
    let place := session.services.length
    match session.registry.registerView role handle.view fun _ : Balancer Weight => place with
    | .error e => (.error (.setup e), session)
    | .ok (balancer, registry) =>
      (.ok (.balancer balancer),
        { session.enlist name ⟨balancer, handle.via⟩ with registry := registry })

def registerAfter (session : Session) (role : Role) (view name : String) : Outcome :=
  session.orTrouble (session.view? view) fun handle =>
    session.orTrouble ((Balancer.setUp role handle.view).mapError .setup) fun balancer =>
      match session.registry.register role session.services.length with
      | .error e => (.error (.setup (.taken e)), session)
      | .ok registry =>
        (.ok (.balancer balancer),
          { session.enlist name ⟨balancer, handle.via⟩ with registry := registry })

def closed : RouteError := .fault .opening "the store is open already"

def step (session : Session) : Step → Outcome
  | .time => (.ok (.instant session.now), session)
  | .setClock now => (.ok (.instant now), { session with now := now })
  | .advance duration =>
    let session := session.advance duration
    (.ok (.instant session.now), session)
  | .call via call =>
    session.orTrouble (session.via? via) fun via =>
      reply (.called call) (session.perform via call)
  | .remaining key => reply .time (session.withRoutes fun now => Store.Backend.remaining now key)
  | .entries start =>
    reply .entries (session.withRoutes fun now => Store.Backend.entries now start)
  | .purge => reply .count (session.withRoutes fun now => Store.Backend.purge now)
  | .close => (.ok .done, session.close)
  | .reopen =>
    if session.isOpen then (.error (.route closed), session)
    else (.ok .done, { session with isOpen := true })
  | .rehearse name rehearsal => (.ok .done, session.rehearse name rehearsal)
  | .calls name =>
    session.orTrouble (session.stage? name) fun place =>
      match session.rehearsals[place]? with
      | none => (.error (.unknown name), session)
      | some rehearsal => (.ok (.calls rehearsal), session)
  | .openView name view via =>
    session.orTrouble (session.via? via) fun via =>
      (.ok (.view view), { session with views := session.views.insert name ⟨view, via⟩ })
  | .describeView name =>
    session.orTrouble (session.view? name) fun handle => (.ok (.view handle.view), session)
  | .showView name =>
    session.orTrouble (session.view? name) fun handle =>
      (.ok (.text handle.view.shown), session)
  | .keyOf name partition objectId =>
    session.orTrouble (session.view? name) fun handle =>
      (.ok (.text (handle.view.key partition objectId)), session)
  | .ask name partition objectId request =>
    session.orTrouble (session.view? name) fun handle =>
      match handle.view.call? partition objectId request with
      | .error rights => (.error (.lacks rights), session)
      | .ok call => reply (.called call) (session.perform handle.via call)
  | .askAll name partition objectIds =>
    session.orTrouble (session.view? name) fun handle =>
      let call := handle.view.callAll partition objectIds
      reply (.called call) (session.perform handle.via call)
  | .balancer name role view fallback =>
    session.orTrouble (parseRole role) fun role =>
      session.orTrouble (session.view? view) fun handle =>
        session.service name handle.via
          (Balancer.setUp role handle.view (fallback.getD defaultPartition))
  | .configured name text =>
    session.orTrouble ((Config.parse text).mapError .config) fun config =>
      session.service name none (Balancer.ofConfig config)
  | .unchecked name config => session.service name none (Balancer.ofConfig config)
  | .describe name =>
    session.orTrouble (session.service? name) fun (_, service) =>
      (.ok (.balancer service.balancer), session)
  | .showBalancer name =>
    session.orTrouble (session.service? name) fun (_, service) =>
      (.ok (.text service.balancer.shown), session)
  | .pick name candidates md roster => reply .picked (session.pickOnce name candidates md roster)
  | .picks name partition first count roster =>
    reply .picks (pickMany name partition roster count first session)
  | .picker name reset =>
    session.orTrouble (session.service? name) fun (place, service) =>
      let picker := service.balancer.picker
      let picker := if reset then picker.reset else picker
      let balancer := service.balancer.withPicker picker
      (.ok (.count picker.tracked),
        { session with services := session.services.set place { service with balancer } })
  | .registerView role view name => session.registerBy role view name
  | .registerBuilt role view name =>
    session.orTrouble (parseRole role) fun role => session.registerAfter role view name
  | .isRegistered role =>
    session.orTrouble (parseRole role) fun role =>
      (.ok (.flag (session.registry.isRegistered role)), session)
  | .registered role =>
    session.orTrouble (parseRole role) fun role =>
      match (session.registry.get? role).bind fun n => (session.services[n]?).map (n, ·) with
      | none => (.ok .nobody, session)
      | some (place, service) =>
        (.ok (.registered (session.namesOf place) service.balancer), session)
  | .script replies =>
    match session.backend with
    | .remote link => (.ok .done, { session with backend := .remote { link with scripted := replies } })
    | .embedded _ => (.error (.unknown "server"), session)

def glance (session : Session) : Except Trouble (List Store.Entry) :=
  let backend := match session.backend with
    | .remote link => .remote { link with scripted := [] }
    | backend => backend
  (({ session with backend := backend }).withRoutes fun now => Store.Backend.entries now none).1

def takeSent (session : Session) : List (List String) × Session :=
  match session.backend with
  | .remote link => (link.sent, { session with backend := .remote { link with sent := [] } })
  | .embedded _ => ([], session)

end StickyRouting.Session
