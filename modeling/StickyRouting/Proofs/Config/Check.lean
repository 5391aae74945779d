import Mathlib.Logic.Function.Basic
import StickyRouting.Config.Reader

set_option autoImplicit false

namespace StickyRouting

section Results

variable {ε δ α : Type} {x : Except ε α} {f : ε → δ} {a : α}

theorem eq_ok_of_toOption (found : x.toOption = some a) : x = .ok a := by
  cases x with
  | error e => contradiction
  | ok b => exact congrArg _ (Option.some.inj found)

theorem mapError_eq_ok_iff : x.mapError f = .ok a ↔ x = .ok a := by
  cases x with
  | error e => exact ⟨nofun, nofun⟩
  | ok b => exact ⟨fun same => congrArg _ (Except.ok.inj same), congrArg (Except.mapError f)⟩

theorem mapError_eq_error_iff {e : ε} (injective : f.Injective) :
    x.mapError f = .error (f e) ↔ x = .error e := by
  cases x with
  | error d =>
    exact ⟨fun same => congrArg _ (injective (Except.error.inj same)), congrArg (Except.mapError f)⟩
  | ok b => exact ⟨nofun, nofun⟩

end Results

namespace Config

variable {config checked : Config} {ttl : Duration} {cause : Duration.Invalid}

theorem effectiveTtl_eq_ok_iff : config.effectiveTtl = .ok ttl ↔
    (config.ttl = none ∧ ttl = .defaultTtl) ∨
      ∃ text d, config.ttl = some text ∧ Duration.parse text = .ok d ∧ ttl = d.orIfZero .defaultTtl := by
  unfold effectiveTtl
  split
  next unset => simp [unset, eq_comm]
  next text set => cases read : Duration.parse text <;> simp [set, read, Except.map, eq_comm]

theorem effectiveTtl_eq_error_iff : config.effectiveTtl = .error cause ↔
    ∃ text, config.ttl = some text ∧ Duration.parse text = .error cause := by
  unfold effectiveTtl
  split
  next unset => simp [unset]
  next text set => cases read : Duration.parse text <;> simp [set, read, Except.map]

theorem exists_effectiveTtl_iff : (∃ ttl, config.effectiveTtl = .ok ttl) ↔
    ∀ text, config.ttl = some text → ∃ d, Duration.parse text = .ok d := by
  cases timed : config.effectiveTtl with
  | ok ttl =>
    refine ⟨fun _ text set => ?_, fun _ => ⟨ttl, rfl⟩⟩
    rcases effectiveTtl_eq_ok_iff.1 timed with ⟨unset, -⟩ | ⟨text, d, found, read, -⟩
    · simp [unset] at set
    · obtain rfl := Option.some.inj (found.symm.trans set)
      exact ⟨d, read⟩
  | error cause =>
    obtain ⟨text, set, refused⟩ := effectiveTtl_eq_error_iff.1 timed
    refine ⟨fun ⟨_, same⟩ => (nomatch same), fun accepted => ?_⟩
    obtain ⟨d, read⟩ := accepted text set
    exact absurd (read.symm.trans refused) nofun

theorem any_hasBlankUrl_iff : config.store.any StoreConfig.hasBlankUrl = true ↔
    ∃ url size, config.store = some (.server url size) ∧ Text.allBlank url = true := by
  rcases config.store with _ | ⟨path⟩ | ⟨url, size⟩ <;> simp [StoreConfig.hasBlankUrl]

theorem check_eq_ok_iff : config.check = .ok checked ↔
    checked = config ∧ Text.allBlank config.space = false ∧ (∃ ttl, config.effectiveTtl = .ok ttl) ∧
      config.store.any StoreConfig.hasBlankUrl = false := by
  unfold check
  cases Text.allBlank config.space <;> cases config.effectiveTtl <;>
    cases config.store.any StoreConfig.hasBlankUrl <;> simp [eq_comm]

theorem check_eq_emptySpace_iff :
    config.check = .error .emptySpace ↔ Text.allBlank config.space = true := by
  unfold check
  cases Text.allBlank config.space <;> cases config.effectiveTtl <;>
    cases config.store.any StoreConfig.hasBlankUrl <;> simp

theorem check_eq_duration_iff : config.check = .error (.duration cause) ↔
    Text.allBlank config.space = false ∧ config.effectiveTtl = .error cause := by
  unfold check
  cases Text.allBlank config.space <;> cases config.effectiveTtl <;>
    cases config.store.any StoreConfig.hasBlankUrl <;> simp

theorem check_eq_emptyUrl_iff : config.check = .error .emptyUrl ↔
    Text.allBlank config.space = false ∧ (∃ ttl, config.effectiveTtl = .ok ttl) ∧
      config.store.any StoreConfig.hasBlankUrl = true := by
  unfold check
  cases Text.allBlank config.space <;> cases config.effectiveTtl <;>
    cases config.store.any StoreConfig.hasBlankUrl <;> simp

theorem check_of_parse {text : String} (parsed : parse text = .ok config) : config.check = .ok config := by
  unfold parse at parsed
  split at parsed
  next => contradiction
  next =>
    split at parsed
    next => contradiction
    next read _ =>
      obtain ⟨rfl, -⟩ := check_eq_ok_iff.1 parsed
      exact parsed

theorem timed_of_parse {text : String} (parsed : parse text = .ok config) :
    ∃ ttl, config.effectiveTtl = .ok ttl :=
  (check_eq_ok_iff.1 (check_of_parse parsed)).2.2.1

end Config

end StickyRouting
