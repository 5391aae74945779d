import StickyRouting.Balancer.Setup
import StickyRouting.Proofs.Config.Check

set_option autoImplicit false

namespace StickyRouting

section Rights

variable {config : Config} {ttl : Duration}

theorem Capability.satisfies_self (level : Capability) : level.satisfies level = true := by
  cases level <;> rfl

theorem Duration.orIfZero_eq (d fallback : Duration) :
    d.orIfZero fallback = if d = .zero then fallback else d := by
  rw [orIfZero]
  by_cases zero : d.isZero = true
  next => rw [if_pos zero, if_pos ((isZero_iff d).1 zero)]
  next => rw [if_neg zero, if_neg (mt (isZero_iff d).2 zero)]

theorem Config.isZero_of_effectiveTtl (timed : config.effectiveTtl = .ok ttl) : ttl.isZero = false := by
  rcases effectiveTtl_eq_ok_iff.1 timed with ⟨-, rfl⟩ | ⟨text, d, -, -, rfl⟩
  · rfl
  · exact d.isZero_orIfZero rfl

theorem Config.ttl_view (timed : config.effectiveTtl = .ok ttl) : (config.view ttl).ttl = ttl := by
  show ttl.orIfZero .defaultTtl = ttl
  simp [Duration.orIfZero, isZero_of_effectiveTtl timed]

end Rights

theorem SetupError.exists_problem (e : SetupError) :
    ∃ problem, e.message = "balancer configuration error: " ++ problem := by
  cases e <;> exact ⟨_, rfl⟩

namespace Balancer

variable {ω : Type} {config : Config} {ttl : Duration} {e : SetupError} {role : Role} {view : View}

structure IsNew (balancer : Balancer ω) (role : Role) (view : View) (fallback : String) : Prop where
  granted : view.level.satisfies (Capability.requiredFor role) = true
  serves : balancer.role = role
  through : balancer.view = view.withLevel (Capability.requiredFor role)
  filter : balancer.filter = ⟨fallback⟩
  picker : balancer.picker = .empty

theorem exists_setUp (granted : view.level.satisfies (Capability.requiredFor role) = true)
    (fallback : String) :
    ∃ balancer : Balancer ω, setUp role view fallback = .ok balancer ∧ balancer.IsNew role view fallback := by
  simp only [setUp, create, granted, if_true]
  exact ⟨_, rfl, granted, rfl, rfl, rfl, rfl⟩

theorem setUp_of_lacking (lacking : view.level.satisfies (Capability.requiredFor role) = false)
    (fallback : String) : (setUp role view fallback : Except SetupError (Balancer ω)) =
      .error (.ungranted ⟨role, view.level⟩) := by
  simp only [setUp, create, lacking]
  rfl

theorem exists_ofConfig (timed : config.effectiveTtl = .ok ttl) :
    ∃ balancer : Balancer ω, ofConfig config = .ok balancer ∧ balancer.role = config.effectiveRole ∧
      balancer.view = config.view ttl ∧ balancer.filter = ⟨config.effectivePartition⟩ := by
  have granted : (config.view ttl).level.satisfies (Capability.requiredFor config.effectiveRole) = true :=
    Capability.satisfies_self _
  obtain ⟨balancer, made, new⟩ := exists_setUp (ω := ω) granted config.effectivePartition
  refine ⟨balancer, ?_, new.serves, new.through, new.filter⟩
  rw [ofConfig, timed]
  exact made

theorem ofConfig_eq_error_iff : (ofConfig config : Except SetupError (Balancer ω)) = .error e ↔
    ∃ cause, config.effectiveTtl = .error cause ∧ e = .duration cause := by
  cases timed : config.effectiveTtl with
  | ok ttl =>
    obtain ⟨balancer, made, -⟩ := exists_ofConfig (ω := ω) timed
    simp [made]
  | error cause => simp [ofConfig, timed, eq_comm]

/-- Settings that load always make a balancer; unchecked ones make none just when their time is no
duration. -/
theorem ofConfig_total :
    (∀ text config, Config.parse text = .ok config → ∃ balancer : Balancer ω, ofConfig config = .ok balancer ∧
      balancer.role = config.role.getD .master ∧ balancer.view.space = config.space ∧
      balancer.filter.fallback = config.defaultPartition.getD "default" ∧
      balancer.view.ttl.isZero = false ∧
      (config.ttl = none → balancer.view.ttl = .ofSecs (24 * 60 * 60)) ∧
      ∀ ttl, config.ttl = some ttl → ∃ d, Duration.parse ttl = .ok d ∧
        balancer.view.ttl = if d = .zero then .ofSecs (24 * 60 * 60) else d) ∧
    ∀ config e, (ofConfig config : Except SetupError (Balancer ω)) = .error e ↔
      ∃ ttl cause, config.ttl = some ttl ∧ Duration.parse ttl = .error cause ∧ e = .duration cause := by
  refine ⟨fun text config parsed => ?_, fun config e => ?_⟩
  next =>
    obtain ⟨ttl, timed⟩ := Config.timed_of_parse parsed
    obtain ⟨balancer, made, role, view, filter⟩ := exists_ofConfig (ω := ω) timed
    refine ⟨balancer, made, role, congrArg View.space view, congrArg PartitionFilter.fallback filter,
      balancer.view.lasting, ?_⟩
    rw [view, Config.ttl_view timed]
    rcases Config.effectiveTtl_eq_ok_iff.1 timed with ⟨unset, rfl⟩ | ⟨written, d, set, read, rfl⟩
    · exact ⟨fun _ => rfl, fun ttl set => absurd (unset.symm.trans set) nofun⟩
    · refine ⟨fun unset => absurd (unset.symm.trans set) nofun, fun ttl same => ?_⟩
      obtain rfl := Option.some.inj (set.symm.trans same)
      exact ⟨d, read, d.orIfZero_eq _⟩
  next =>
    rw [ofConfig_eq_error_iff]
    simp only [Config.effectiveTtl_eq_error_iff]
    constructor
    · rintro ⟨cause, ⟨ttl, set, refused⟩, rfl⟩
      exact ⟨ttl, cause, set, refused, rfl⟩
    · rintro ⟨ttl, cause, set, refused, rfl⟩
      exact ⟨cause, ⟨ttl, set, refused⟩, rfl⟩

theorem ofConfig_total_idle :
    let text := "[routing]\nnamespace = \"room\"\nttl = \"0s\"\nrole = \"reader\"\n"
    let config : Config := { space := "room", ttl := some "0s", role := some .reader }
    Config.parse text = .ok config ∧ ∃ balancer : Balancer Nat, ofConfig config = .ok balancer ∧
      balancer.role = .reader ∧ balancer.filter.fallback = "default" ∧
      balancer.view.ttl = .ofSecs (24 * 60 * 60) := by
  intro text config
  have parsed : Config.parse text = .ok config := eq_ok_of_toOption (by decide +kernel)
  have idle : Duration.parse "0s" = .ok .zero := eq_ok_of_toOption (by decide +kernel)
  obtain ⟨balancer, made, role, -, fallback, -, -, timed⟩ :=
    (ofConfig_total (ω := Nat)).1 text config parsed
  obtain ⟨d, read, ttl⟩ := timed "0s" rfl
  obtain rfl : d = .zero := Except.ok.inj (read.symm.trans idle)
  exact ⟨parsed, balancer, made, role, fallback, ttl⟩

end Balancer

end StickyRouting
