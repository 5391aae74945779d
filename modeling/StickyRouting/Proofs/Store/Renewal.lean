import StickyRouting.Proofs.Store.Holding
import StickyRouting.Proofs.Store.Readable

set_option autoImplicit false

namespace StickyRouting.Store.Embedded

variable {now : Nat} {ttl : Duration} {renews : String → String → Bool} {table before after : Table}
  {key : String}

/-- Some entries are renewed, by their keys and values, and that is all that is seen to happen to a table
at an instant. What is over may be gone afterwards, but only where a renewal was tried. -/
structure Renewal (now : Nat) (ttl : Duration) (renews : String → String → Bool) (before after : Table) :
    Prop where
  readable : Readable after
  makes_none : ∀ key, before.get? key = none → after.get? key = none
  aside : ∀ key, (∀ value, renews key value = false) → after.get? key = before.get? key
  seen : ∀ key, live now ((records after).get? key) =
    (live now ((records before).get? key)).map fun r => if renews key r.value then r.renew now ttl else r

theorem Renewal.refl (readable : Readable table) (nothing : ∀ key value, renews key value = false) :
    Renewal now ttl renews table table where
  readable := readable
  makes_none _ absent := absent
  aside _ _ := rfl
  seen key := by simp [nothing]

theorem Renewal.holds_iff (readable : Readable before) (renewal : Renewal now ttl renews before after)
    (value : String) : Holds now after key value ↔ Holds now before key value := by
  rw [holds_iff_live (stored_of_readable renewal.readable key), renewal.seen,
    holds_iff_live (stored_of_readable readable key)]
  cases live now ((records before).get? key) with
  | none => simp
  | some r =>
    have same : (if renews key r.value then r.renew now ttl else r).value = r.value := by
      split <;> rfl
    simp [same]

theorem stored_eq_ok_none_iff : stored table key = .ok none ↔ table.get? key = none := by
  unfold stored
  cases table.get? key with
  | none => simp
  | some bytes =>
    simp only [reduceCtorEq, iff_false]
    cases decode bytes <;> exact nofun

theorem renewal_of_change (readable : Readable table) {call : Call} (about : call.target? = some key)
    (apart : ∀ other value, renews other value = true → other = key)
    (tried : ∃ value, renews key value = true)
    (changed : ∀ {answer left}, Change now call ((records table).get? key) answer left →
      ((records table).get? key = none → left = none) ∧
        live now left = (live now ((records table).get? key)).map
          fun r => if renews key r.value then r.renew now ttl else r) :
    Renewal now ttl renews table (perform now call table).2 := by
  obtain ⟨left, change, still, held⟩ := records_perform readable now about
  obtain ⟨made, renewed⟩ := changed change
  have untouched (other : String) (ne : other ≠ key) :
      (perform now call table).2.get? other = table.get? other := by
    refine get?_perform_of_not_mem now call table ?_
    simpa [Call.keys_of_target? about] using ne
  constructor
  case readable => exact still
  case makes_none =>
    intro other absent
    by_cases same : other = key
    next =>
      subst same
      rw [← stored_eq_ok_none_iff, stored_of_readable still, held, if_pos rfl, made]
      rw [← stored_eq_ok_none_iff, stored_of_readable readable] at absent
      exact Except.ok.inj absent
    next => exact (untouched other same).trans absent
  case aside =>
    intro other nothing
    refine untouched other fun same => ?_
    obtain ⟨value, some⟩ := tried
    rw [← same, nothing] at some
    contradiction
  case seen =>
    intro other
    rw [held]
    split
    next same => rw [same, renewed]
    next ne =>
      have nothing (value : String) : renews other value = false :=
        Bool.eq_false_iff.2 fun some => ne (apart other value some)
      simp [nothing]

theorem live_renew {r : Record} (lasting : 1 ≤ ttl.millis) (early : now < lastInstant) :
    live now (some (r.renew now ttl)) = some (r.renew now ttl) :=
  live_eq_some_iff.2 ⟨rfl, lt_deadline lasting early⟩

theorem lt_lastInstant_of_live (readable : Readable table) {r : Record}
    (found : live now ((records table).get? key) = some r) : now < lastInstant := by
  obtain ⟨held, early⟩ := live_eq_some_iff.1 found
  have here : stored table key = .ok (some r) := by rw [stored_of_readable readable, held]
  exact Nat.lt_of_lt_of_le early (stored_deadline_le here)

theorem renewal_getRenewing (readable : Readable table) (now : Nat) (key : String)
    (lasting : 1 ≤ ttl.millis) :
    Renewal now ttl (fun other _ => other = key) table (perform now (.getRenewing key ttl) table).2 := by
  refine renewal_of_change readable rfl (by simp) ⟨"", by simp⟩ fun change => ?_
  cases change with
  | touched found =>
    refine ⟨fun absent => by simp [absent] at found, ?_⟩
    rw [live_renew lasting (lt_lastInstant_of_live readable found), found]
    simp
  | missed absent => exact ⟨fun _ => rfl, by simp [absent]⟩

theorem renewal_renewIf (readable : Readable table) (now : Nat) (key expected : String)
    (lasting : 1 ≤ ttl.millis) :
    Renewal now ttl (fun other value => other = key && value = expected) table
      (perform now (.renewIf key expected ttl) table).2 := by
  refine renewal_of_change readable rfl (by simp) ⟨expected, by simp⟩ fun change => ?_
  cases change with
  | renewedIf found =>
    refine ⟨fun absent => by simp [absent] at found, ?_⟩
    rw [live_renew lasting (lt_lastInstant_of_live readable found), found]
    simp
  | renewalRefused other =>
    -- The record stays, over or not; if it is live, it has another value.
    refine ⟨id, ?_⟩
    cases found : live now ((records table).get? key) with
    | none => rfl
    | some r =>
      have ne : r.value ≠ expected := fun same => other (by rw [found, valueOf, Option.map, same])
      simp [ne]

end StickyRouting.Store.Embedded
