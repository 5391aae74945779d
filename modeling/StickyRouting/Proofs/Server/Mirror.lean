import StickyRouting.Proofs.Server.Glob
import StickyRouting.Proofs.Store.Ideal

set_option autoImplicit false

namespace StickyRouting.Store

def Call.ttl? : Call → Option Duration
  | .getRenewing _ ttl => some ttl
  | .set _ _ ttl => some ttl
  | .claim _ _ ttl => some ttl
  | .exchange _ _ ttl => some ttl
  | .renew _ ttl => some ttl
  | .renewIf _ _ ttl => some ttl
  | _ => none

end StickyRouting.Store

namespace StickyRouting.Server

open Store (Record Call Ideal.Bindings)
open Store.Embedded (live)

@[simp] theorem text?_bytes (text : String) : Text.Utf8.text? (Keyspace.bytes text) = some text :=
  Text.Utf8.text?_encode text

theorem bytes_eq_iff {a b : String} : Keyspace.bytes a = Keyspace.bytes b ↔ a = b := by
  constructor
  · intro same
    have read := congrArg Text.Utf8.text? same
    simpa using read
  · exact congrArg Keyspace.bytes

def itemOf (r : Record) : Item := ⟨Keyspace.bytes r.value, some r.deadline⟩

abbrev Fits (now : Nat) (ttl : Duration) : Prop := 1 ≤ ttl.millis ∧ now + ttl.millis ≤ lastDeadline

theorem px_of_fits {now : Nat} {ttl : Duration} (fits : Fits now ttl) : px ttl = ttl.millis := by
  obtain ⟨some, ends⟩ := fits
  unfold px
  omega

theorem itemOf_bound {now : Nat} {ttl : Duration} (fits : Fits now ttl) (value : String) :
    itemOf (Store.Ideal.bound value now ttl) = ⟨Keyspace.bytes value, some (now + px ttl)⟩ := by
  have wider : lastDeadline ≤ UInt64.size - 1 := by decide
  have unbounded : min (now + ttl.millis) (UInt64.size - 1) = now + ttl.millis :=
    Nat.min_eq_left (Nat.le_trans fits.2 wider)
  rw [px_of_fits fits, itemOf, Store.Ideal.bound, unbounded]

namespace Keyspace

theorem timed_of_fits {now : Nat} {ttl : Duration} (fits : Fits now ttl) (server : Keyspace)
    (go : Nat → Reply × Keyspace) : server.timed now (px ttl) go = go (now + px ttl) := by
  obtain ⟨some, ends⟩ := fits
  rw [timed, if_neg]
  rw [px_of_fits ⟨some, ends⟩]
  omega

theorem live?_put (server : Keyspace) (now : Nat) (key other : String) (item : Item) :
    (server.put key item).live? now other =
      if other = key then (some item).filter (server.isLive now) else server.live? now other := by
  change ((server.items.insert key item).get? other).filter (server.isLive now) = _
  rw [KeyMap.get?_insert]
  split <;> rfl

theorem live?_drop (server : Keyspace) (now : Nat) (key other : String) :
    (server.drop key).live? now other = if other = key then none else server.live? now other := by
  change ((server.items.erase key).get? other).filter (server.isLive now) = _
  rw [KeyMap.get?_erase]
  split <;> rfl

/-- From an instant on, the server has a key just when the map does, and then with the same value. -/
structure Mirrors (last : Nat) (server : Keyspace) (map : Store.Ideal.Bindings) : Prop where
  punctual : server.lingers = false
  agrees : ∀ key later, last ≤ later →
    server.live? later key = (live later (map.get? key)).map itemOf

namespace Mirrors

variable {last now : Nat} {server : Keyspace} {map : Store.Ideal.Bindings}

theorem empty (last : Nat) : Mirrors last {} ∅ := ⟨rfl, fun _ _ _ => rfl⟩

theorem isLive_itemOf (mirrors : Mirrors last server map) (now : Nat) (r : Record) :
    server.isLive now (itemOf r) = !r.isExpired now := by
  simp [isLive, itemOf, mirrors.punctual, Record.isExpired, ← decide_not]

theorem current (mirrors : Mirrors last server map) (forward : last ≤ now) :
    Mirrors now server (Store.Ideal.current now map) := by
  refine ⟨mirrors.punctual, fun key later after => ?_⟩
  rw [mirrors.agrees key later (Nat.le_trans forward after), Store.Ideal.get?_current,
    Store.Embedded.live_live after]

theorem put (mirrors : Mirrors last server map) (forward : last ≤ now) (key : String) (r : Record) :
    Mirrors now (server.put key (itemOf r)) ((Store.Ideal.current now map).insert key r) := by
  refine ⟨mirrors.punctual, fun other later after => ?_⟩
  have old := (mirrors.current forward).agrees other later after
  have own := mirrors.isLive_itemOf later r
  rw [KeyMap.get?_insert, live?_put]
  split
  next => cases due : r.isExpired later <;> simp [live, own, due, Option.filter]
  next => exact old

theorem drop (mirrors : Mirrors last server map) (forward : last ≤ now) (key : String) :
    Mirrors now (server.drop key) ((Store.Ideal.current now map).erase key) := by
  refine ⟨mirrors.punctual, fun other later after => ?_⟩
  have old := (mirrors.current forward).agrees other later after
  rw [KeyMap.get?_erase, live?_drop]
  split
  next => rfl
  next => exact old

end Mirrors

end Keyspace

open Store.Embedded (valueOf)

structure Mirrors (last : Nat) (link : Link) (map : Store.Ideal.Bindings) : Prop where
  unscripted : link.scripted = []
  server : link.server.Mirrors last map

theorem Keyspace.Mirrors.write {last now : Nat} {server : Keyspace} {map : Store.Ideal.Bindings}
    (mirrors : server.Mirrors last map) (forward : last ≤ now) {ttl : Duration} (fits : Fits now ttl)
    (key value : String) :
    Mirrors now (server.put key ⟨bytes value, some (now + px ttl)⟩)
      ((Store.Ideal.current now map).insert key (Store.Ideal.bound value now ttl)) := by
  rw [← itemOf_bound fits]
  exact mirrors.put forward key _

theorem asOptional?_ofValue (held : Option Record) :
    (Keyspace.ofValue (held.map itemOf)).asOptional? = some (valueOf held) := by
  cases held <;> simp [Keyspace.ofValue, itemOf, Reply.asOptional?, Reply.asText?, valueOf]

theorem asText?_value (r : Record) : (Reply.bulk (itemOf r).value).asText? = some r.value :=
  text?_bytes r.value

theorem claimed_reply (value : String) :
    ((read .writing ((Reply.list [.integer 1, .ofText value]).asPair? Reply.asInteger?
      Reply.asText?)).map fun (created, winner) => (⟨created == 1, winner⟩ : Store.Claim)) =
      .ok ⟨true, value⟩ := by
  simp [Reply.asPair?, Reply.asInteger?, Reply.asText?, Reply.ofText, read, Except.map]

theorem lost_reply (r : Record) :
    ((read .writing ((Reply.list [.integer 0, Keyspace.ofValue (some (itemOf r))]).asPair?
      Reply.asInteger? Reply.asText?)).map fun (created, winner) =>
        (⟨created == 1, winner⟩ : Store.Claim)) = .ok ⟨false, r.value⟩ := by
  simp [Reply.asPair?, Reply.asInteger?, Keyspace.ofValue, asText?_value, read, Except.map]

theorem conditional_done (key expected : String) (r : Record) :
    conditional key expected (.list [.integer 1, .bulk (itemOf r).value]) = .ok () := by
  simp [conditional, Reply.asPair?, Reply.asInteger?, Reply.asOptional?, asText?_value, read]
  rfl

theorem conditional_refused (key expected : String) (held : Option Record) :
    conditional key expected (.list [.integer 0, Keyspace.ofValue (held.map itemOf)]) =
      .error (.valueChanged key expected (valueOf held)) := by
  simp [conditional, Reply.asPair?, Reply.asInteger?, asOptional?_ofValue, read]
  rfl

theorem differs_of_value_ne {r : Record} {expected : String} (other : r.value ≠ expected) :
    (itemOf r).value ≠ Keyspace.bytes expected ∧ valueOf (some r) ≠ some expected :=
  ⟨fun same => other (bytes_eq_iff.1 same), fun same => other (Option.some.inj same)⟩

theorem send_unscripted {link : Link} (unscripted : link.scripted = []) (now : Nat)
    (command : Command) :
    link.send now command = ((link.server.run now command).1,
      { link with
        server := (link.server.run now command).2
        sent := link.sent ++ [command.words] }) := by
  simp [Link.send, unscripted]

abbrev CallFits (now : Nat) (call : Call) : Prop := ∀ ttl ∈ call.ttl?, Fits now ttl

theorem perform_mirrors {last now : Nat} {link : Link} {map : Store.Ideal.Bindings}
    (mirrors : Mirrors last link map) (forward : last ≤ now) {call : Call} (fits : CallFits now call) :
    (perform now call link).1 = (Store.Ideal.perform now call map).1 ∧
      Mirrors now (perform now call link).2 (Store.Ideal.perform now call map).2 := by
  obtain ⟨unscripted, server⟩ := mirrors
  have kept := server.current forward
  have held (key : String) := server.agrees key now forward
  have current (key : String) : (Store.Ideal.current now map).get? key = live now (map.get? key) :=
    Store.Ideal.get?_current now map key
  have seen (key : String) : Store.Ideal.value? (Store.Ideal.current now map) key =
      valueOf (live now (map.get? key)) := Store.Ideal.value?_current now map key
  cases call with
  | get key =>
    simp only [perform, send_unscripted unscripted, Keyspace.run, held, asOptional?_ofValue, read,
      Store.Ideal.perform, seen]
    exact ⟨trivial, unscripted, kept⟩
  | getAll keys =>
    by_cases none : keys.isEmpty = true
    next =>
      obtain rfl := List.isEmpty_iff.1 none
      exact ⟨rfl, unscripted, kept⟩
    next =>
      have replies : (keys.map fun key => Keyspace.ofValue (link.server.live? now key)).mapM
          Reply.asOptional? = some (keys.map fun key => valueOf (live now (map.get? key))) := by
        simp only [held, List.mapM_map, Function.comp_def, asOptional?_ofValue]
        exact List.mapM_pure
      have answers : keys.map (Store.Ideal.value? (Store.Ideal.current now map)) =
          keys.map fun key => valueOf (live now (map.get? key)) :=
        List.map_congr_left fun key _ => seen key
      rw [perform, if_neg none]
      simp only [send_unscripted unscripted, Keyspace.run, Reply.asList?, replies, read,
        Store.Ideal.perform, answers]
      exact ⟨trivial, unscripted, kept⟩
  | getRenewing key ttl =>
    replace fits : Fits now ttl := fits ttl rfl
    simp only [perform, send_unscripted unscripted, Keyspace.run, Keyspace.timed_of_fits fits, held,
      Store.Ideal.perform, current]
    cases live now (map.get? key) with
    | none => exact ⟨rfl, unscripted, kept⟩
    | some r =>
      refine ⟨?_, unscripted, server.write forward fits key r.value⟩
      simp [itemOf, Reply.asOptional?, Reply.asText?, read]
  | set key value ttl =>
    replace fits : Fits now ttl := fits ttl rfl
    simp only [perform, send_unscripted unscripted, Keyspace.run, Keyspace.timed_of_fits fits,
      Store.Ideal.perform]
    exact ⟨rfl, unscripted, server.write forward fits key value⟩
  | claim key value ttl =>
    replace fits : Fits now ttl := fits ttl rfl
    simp only [perform, send_unscripted unscripted, Keyspace.run, Keyspace.runScript,
      Keyspace.timed_of_fits fits, held, Store.Ideal.perform, current]
    cases live now (map.get? key) with
    | none => exact ⟨claimed_reply value, unscripted, server.write forward fits key value⟩
    | some r => exact ⟨lost_reply r, unscripted, kept⟩
  | exchange key value ttl =>
    replace fits : Fits now ttl := fits ttl rfl
    simp only [perform, send_unscripted unscripted, Keyspace.run, Keyspace.timed_of_fits fits, held,
      asOptional?_ofValue, read, Store.Ideal.perform, seen]
    exact ⟨trivial, unscripted, server.write forward fits key _⟩
  | renew key ttl =>
    replace fits : Fits now ttl := fits ttl rfl
    simp only [perform, send_unscripted unscripted, Keyspace.run, Keyspace.timed_of_fits fits, held,
      Store.Ideal.perform, current]
    cases live now (map.get? key) with
    | none => exact ⟨rfl, unscripted, kept⟩
    | some r => exact ⟨rfl, unscripted, server.write forward fits key r.value⟩
  | renewIf key expected ttl =>
    replace fits : Fits now ttl := fits ttl rfl
    simp only [perform, send_unscripted unscripted, Keyspace.run, Keyspace.runScript,
      Keyspace.timed_of_fits fits, held, Store.Ideal.perform, seen]
    cases live now (map.get? key) with
    | none => exact ⟨conditional_refused key expected none, unscripted, kept⟩
    | some r =>
      by_cases same : r.value = expected
      next =>
        subst same
        simp only [valueOf, itemOf, Option.map_some, if_true]
        exact ⟨conditional_done key r.value r, unscripted, server.write forward fits key r.value⟩
      next =>
        obtain ⟨refused, other⟩ := differs_of_value_ne same
        simp only [Option.map_some, refused, other, if_false]
        exact ⟨conditional_refused key expected (some r), unscripted, kept⟩
  | delete key =>
    simp only [perform, send_unscripted unscripted, Keyspace.run, Store.Ideal.perform]
    exact ⟨rfl, unscripted, server.drop forward key⟩
  | deleteIf key expected =>
    simp only [perform, send_unscripted unscripted, Keyspace.run, Keyspace.runScript, held,
      Store.Ideal.perform, seen]
    cases live now (map.get? key) with
    | none => exact ⟨conditional_refused key expected none, unscripted, kept⟩
    | some r =>
      by_cases same : r.value = expected
      next =>
        subst same
        simp only [valueOf, itemOf, Option.map_some, if_true]
        exact ⟨conditional_done key r.value r, unscripted, server.drop forward key⟩
      next =>
        obtain ⟨refused, other⟩ := differs_of_value_ne same
        simp only [Option.map_some, refused, other, if_false]
        exact ⟨conditional_refused key expected (some r), unscripted, kept⟩

end StickyRouting.Server
