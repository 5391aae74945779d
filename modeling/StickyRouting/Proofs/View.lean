import StickyRouting.Proofs.RouteKey
import StickyRouting.Proofs.Store.Change
import StickyRouting.View

set_option autoImplicit false

namespace StickyRouting.View

open Store (Call Record lastInstant)
open Store.Embedded (Change claim_of_bind get_of_bind perform perform_change_self perform_unreadable
  stored)

theorem call_of_call? {view : View} {partition : String} {objectId : Int64} {request : Request}
    {call : Call} (asked : view.call? partition objectId request = .ok call) :
    call = view.call partition objectId request := by
  unfold call? at asked
  split at asked
  next => exact (Except.ok.inj asked).symm
  next => contradiction

theorem keys_call (view : View) (partition : String) (objectId : Int64) (request : Request) :
    (view.call partition objectId request).keys = [view.key partition objectId] := by
  cases request <;> rfl

section Binding

def Request.bound? {key : String} {ttl : Duration} :
    (request : Request) → Except RouteError (request.callOn key ttl).Answer → Option String
  | touch => fun answer => answer.toOption.join
  | renewSelf value => fun answer => answer.toOption.map fun _ => value
  | set value => fun answer => answer.toOption.map fun _ => value
  | claim _ => fun answer => answer.toOption.bind fun held => if held.created then some held.value else none
  | exchange value => fun answer => answer.toOption.map fun _ => value
  | _ => fun _ => none

@[simp] theorem Request.bound?_error {key : String} {ttl : Duration} (request : Request)
    (e : RouteError) : request.bound? (.error e : Except _ (request.callOn key ttl).Answer) = none := by
  cases request <;> rfl

theorem eq_bind_of_change {request : Request} {key : String} {ttl : Duration} {now : Nat}
    {before after : Option Record} {answer : Except RouteError (request.callOn key ttl).Answer}
    {value : String} (change : Change now (request.callOn key ttl) before answer after)
    (bound : request.bound? answer = some value) : after = some (.bind value now ttl) := by
  cases request with
  | touch =>
    cases change with
    | touched found =>
      obtain rfl := Option.some.inj bound
      rfl
    | missed absent => cases bound
  | renewSelf expected =>
    cases change with
    | renewedIf found =>
      obtain rfl := Option.some.inj bound
      rfl
    | renewalRefused other => cases bound
  | set value =>
    cases change with
    | set =>
      obtain rfl := Option.some.inj bound
      rfl
  | claim value =>
    cases change with
    | claimed absent =>
      obtain rfl := Option.some.inj bound
      rfl
    | lost found => cases bound
  | exchange value =>
    cases change with
    | exchanged =>
      obtain rfl := Option.some.inj bound
      rfl
  | _ => cases bound

theorem stored_of_bound {request : Request} {key : String} {ttl : Duration} {now : Nat}
    {table : Store.Table} {value : String}
    (bound : request.bound? (perform now (request.callOn key ttl) table).1 = some value) :
    stored (perform now (request.callOn key ttl) table).2 key = .ok (some (.bind value now ttl)) := by
  have about : (request.callOn key ttl).target? = some key := by
    cases request with
    | get => cases bound
    | _ => rfl
  cases here : stored table key with
  | error e =>
    rw [perform_unreadable about here, Request.bound?_error] at bound
    contradiction
  | ok before =>
    obtain ⟨after, change, stores⟩ := perform_change_self now about here
    rw [stores, eq_bind_of_change change bound]

abbrev Brief (ttl : Duration) : Prop := ttl.isZero = false ∧ ttl.millis = 0

theorem millis_withTtl_eq_zero_iff (view : View) (ttl : Duration) :
    (view.withTtl ttl).ttl.millis = 0 ↔ Brief ttl := by
  have some_time : Duration.defaultTtl.millis ≠ 0 := by decide
  cases zero : ttl.isZero <;> simp [withTtl, make, Duration.orIfZero, zero, some_time]

/-- What a request through a view binds or renews is there at the same instant for a lookup and against
another claim, unless the time that the view was given is less than a millisecond. -/
theorem binding_live_unless_brief (view : View) (ttl : Duration) (partition : String)
    (objectId : Int64) (request : Request) {now : Nat} (early : now < lastInstant)
    (table : Store.Table) {value : String}
    (bound : request.bound?
      (perform now ((view.withTtl ttl).call partition objectId request) table).1 = some value) :
    let view := view.withTtl ttl
    let after := (perform now (view.call partition objectId request) table).2
    (perform now (view.call partition objectId .get) after).1 =
        .ok (if Brief ttl then none else some value) ∧
      ∀ other, (perform now (view.call partition objectId (.claim other)) after).1 =
        .ok (if Brief ttl then ⟨true, other⟩ else ⟨false, value⟩) := by
  have held := stored_of_bound bound
  have brief := millis_withTtl_eq_zero_iff view ttl
  simp only [← brief]
  exact ⟨get_of_bind early held, fun other => claim_of_bind early held other _⟩

theorem binding_live_unless_brief_claimed :
    let view := (make .master "room").withTtl ⟨1_500_000⟩
    let made := perform 1000 (view.call "blue" 7 (.claim "a")) ∅
    1000 < lastInstant ∧ (Request.claim "a").bound? made.1 = some "a" ∧
      (perform 1000 (view.call "blue" 7 .get) made.2).1 = .ok (some "a") ∧
      (perform 1000 (view.call "blue" 7 (.claim "b")) made.2).1 = .ok ⟨false, "a"⟩ := by
  intro view made
  have early : 1000 < lastInstant := by decide
  have bound : (Request.claim "a").bound? made.1 = some "a" := rfl
  obtain ⟨found, claimed⟩ := binding_live_unless_brief (make .master "room") ⟨1_500_000⟩ "blue" 7
    (.claim "a") early ∅ bound
  exact ⟨early, bound, found, claimed "b"⟩

theorem brief_binding_taken_over :
    let view := (make .master "room").withTtl ⟨500_000⟩
    let made := perform 1000 (view.call "blue" 7 (.claim "a")) ∅
    made.1 = .ok ⟨true, "a"⟩ ∧
      (perform 1000 (view.call "blue" 7 .get) made.2).1 = .ok none ∧
      (perform 1000 (view.call "blue" 7 (.claim "b")) made.2).1 = .ok ⟨true, "b"⟩ := by
  intro view made
  have bound : (Request.claim "a").bound? made.1 = some "a" := rfl
  have held := stored_of_bound bound
  have brief : view.ttl.millis = 0 := (millis_withTtl_eq_zero_iff _ _).2 (by decide)
  have found := get_of_bind (by decide) held
  have claimed := claim_of_bind (by decide) held "b" view.ttl
  rw [if_pos brief] at found claimed
  exact ⟨rfl, found, claimed⟩

end Binding

end StickyRouting.View
