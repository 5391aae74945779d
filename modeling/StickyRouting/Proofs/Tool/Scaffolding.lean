import StickyRouting.Proofs.Config.RoundTrip
import StickyRouting.Proofs.Directory
import StickyRouting.Tool

set_option autoImplicit false

namespace StickyRouting

theorem Config.effectiveTtl_scaffold (space : String) (store : StoreConfig) :
    (scaffold space store).effectiveTtl = .ok .defaultTtl := by
  have day : Duration.parse "24h" = .ok .defaultTtl := eq_ok_of_toOption (by decide +kernel)
  exact effectiveTtl_eq_ok_iff.2 (.inr ⟨"24h", .defaultTtl, rfl, day, rfl⟩)

namespace Tool

variable {world after : World} {path space store : String} {serverUrl : Option String} {done : Done}

theorem hasBlankUrl_storeFor : (storeFor store serverUrl).hasBlankUrl = true ↔
    ∃ url, serverUrl = some url ∧ Text.allBlank url = true := by
  cases serverUrl <;> simp [storeFor, StoreConfig.hasBlankUrl]

theorem config_injective (path : String) : (Failure.config path).Injective := fun _ _ same =>
  (Failure.config.inj same).2

theorem loadConfig_init (ran : run world ⟨path, .init space store serverUrl⟩ = (.ok done, after)) :
    loadConfig after.directory path =
      (Config.scaffold space (storeFor store serverUrl)).check.mapError (.config path) := by
  have made : initialise world path space store serverUrl = (.ok done, after) := ran
  unfold initialise at made
  split at made
  next => exact absurd (Prod.mk.inj made).1 nofun
  next fresh =>
    have absent : world.directory.pathExists path = false := Bool.eq_false_iff.2 fresh
    cases written : world.directory.write path
      (.bytes (Text.Utf8.encode (Config.scaffold space (storeFor store serverUrl)).renderChars)) with
    | error e => simp [written] at made
    | ok directory =>
      obtain ⟨-, rfl⟩ : _ ∧ { world with directory } = after := by simpa [written] using made
      have read : directory.readText path = .ok (Config.scaffold space (storeFor store serverUrl)).render :=
        Directory.readText_write absent (by rwa [Config.render, String.toList_ofList])
      simp only [loadConfig, read, Config.parse_render]

/-- The file that was set up loads, as the settings that were written, unless the namespace is blank or the
address of the server is. -/
theorem init_loads_unless_blank
    (ran : run world ⟨path, .init space store serverUrl⟩ = (.ok done, after)) :
    (loadConfig after.directory path = .ok (Config.scaffold space (storeFor store serverUrl)) ↔
      Text.allBlank space = false ∧ ¬ ∃ url, serverUrl = some url ∧ Text.allBlank url = true) ∧
    (loadConfig after.directory path = .error (.config path .emptySpace) ↔ Text.allBlank space = true) ∧
    (loadConfig after.directory path = .error (.config path .emptyUrl) ↔
      Text.allBlank space = false ∧ ∃ url, serverUrl = some url ∧ Text.allBlank url = true) := by
  have address : (Config.scaffold space (storeFor store serverUrl)).store.any StoreConfig.hasBlankUrl = true ↔
      ∃ url, serverUrl = some url ∧ Text.allBlank url = true := hasBlankUrl_storeFor
  -- The time that is written is a duration, so only the other two checks are left.
  have timed : ∃ ttl, (Config.scaffold space (storeFor store serverUrl)).effectiveTtl = .ok ttl :=
    ⟨_, Config.effectiveTtl_scaffold ..⟩
  rw [loadConfig_init ran, ← address, Bool.not_eq_true]
  refine ⟨?_, ?_, ?_⟩
  · simp only [mapError_eq_ok_iff, Config.check_eq_ok_iff, timed, true_and]
    exact Iff.rfl
  · simp only [mapError_eq_error_iff (config_injective path), Config.check_eq_emptySpace_iff]
    exact Iff.rfl
  · simp only [mapError_eq_error_iff (config_injective path), Config.check_eq_emptyUrl_iff, timed, true_and]
    exact Iff.rfl

theorem init_loads_unless_blank_room :
    let world : World := { now := 1000, directory := {} }
    let invocation : Invocation := ⟨"affinity.toml", .init "room" "routes.redb" none⟩
    ∃ after, run world invocation = (.ok ⟨"✓ Generated affinity.toml", []⟩, after) ∧
      loadConfig after.directory "affinity.toml" = .ok (Config.scaffold "room" (.file "routes.redb")) := by
  intro world invocation
  have told : (run world invocation).1 = .ok ⟨"✓ Generated affinity.toml", []⟩ :=
    eq_ok_of_toOption (by decide +kernel)
  have ran : run world invocation = (.ok ⟨"✓ Generated affinity.toml", []⟩, (run world invocation).2) :=
    Prod.ext told rfl
  exact ⟨_, ran, (init_loads_unless_blank ran).1.2 ⟨by decide, nofun⟩⟩

theorem blank_space_unloadable :
    let world : World := { now := 1000, directory := {} }
    let invocation : Invocation := ⟨"affinity.toml", .init " " "routes.redb" none⟩
    world.directory.pathExists "affinity.toml" = false ∧
      ∃ after, run world invocation = (.ok ⟨"✓ Generated affinity.toml", []⟩, after) ∧
        loadConfig after.directory "affinity.toml" = .error (.config "affinity.toml" .emptySpace) := by
  intro world invocation
  have told : (run world invocation).1 = .ok ⟨"✓ Generated affinity.toml", []⟩ :=
    eq_ok_of_toOption (by decide +kernel)
  have ran : run world invocation = (.ok ⟨"✓ Generated affinity.toml", []⟩, (run world invocation).2) :=
    Prod.ext told rfl
  have blank : (Config.scaffold " " (.file "routes.redb")).check = .error .emptySpace :=
    Config.check_eq_emptySpace_iff.2 (by decide)
  refine ⟨by decide, _, ran, ?_⟩
  rw [loadConfig_init ran, mapError_eq_error_iff (config_injective _)]
  exact blank

end Tool

end StickyRouting
