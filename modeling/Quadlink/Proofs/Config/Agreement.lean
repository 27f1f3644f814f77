import Quadlink.Proofs.Client.Tokens
import Quadlink.Proofs.Config.Writing

/-!
# Configurations from three notations

Variables, a JSON file and a TOML file that give the same settings lead to the same configuration or
to the same failure (`CommonSettings.notations_agree`). All of them make the configuration out of
the settings alone, and only if it is valid: so its endpoints can be used, and where its mode
authenticates, a session can log in.
-/

namespace Quadlink

/-! ## Valid configurations -/

theorem Settings.endpointSet_of_config {settings : Settings} {config : RepositoryConfig}
    (h : settings.config = .ok config) : ∃ endpoints, config.endpointSet = .ok endpoints := by
  obtain ⟨mode, -, h⟩ := bind_eq_ok h
  obtain ⟨endpoints, hendpoints, h⟩ := bind_eq_ok h
  cases h
  exact ⟨endpoints, hendpoints⟩

theorem RepositoryConfig.canAuthenticate_of_endpointSet {config : RepositoryConfig}
    {endpoints : EndpointSet} (h : config.endpointSet = .ok endpoints)
    (hmode : config.client.authMode ≠ .none) :
    (Session.ofConfig config.client).canAuthenticate = true := by
  obtain ⟨⟨⟩, hvalid, -⟩ := bind_eq_ok h
  exact (Session.loginCredentials_ofConfig hvalid hmode).2

/-! ## Agreement -/

/-- Settings lead to one configuration, or to one failure, in whichever notation they are given. A
configuration that is returned has endpoints that can be used, and credentials to log in with where
its mode asks for them. -/
theorem CommonSettings.notations_agree (common : CommonSettings) {env : Environment}
    {json toml jsonPath tomlPath : String} (hvariables : env.Gives common)
    (hjson : common.IsJsonText json) (hjsonPath : HasExtension "json" jsonPath)
    (htoml : common.IsTomlText toml) (htomlPath : HasExtension "toml" tomlPath) :
    env.configOfVariables = common.settings.config
      ∧ RepositoryConfig.parse json jsonPath = common.settings.config
      ∧ RepositoryConfig.parse toml tomlPath = common.settings.config
      ∧ ∀ config, common.settings.config = .ok config →
          (∃ endpoints, config.endpointSet = .ok endpoints)
            ∧ (config.client.authMode ≠ .none →
              (Session.ofConfig config.client).canAuthenticate = true) := by
  refine ⟨?_, ?_, ?_, fun config hconfig => ?_⟩
  · rw [Environment.configOfVariables, hvariables.settings_eq]
    rfl
  · rw [RepositoryConfig.parse, hjson.parse hjsonPath]
    rfl
  · rw [RepositoryConfig.parse, htoml.parse htomlPath]
    rfl
  · obtain ⟨endpoints, hendpoints⟩ := Settings.endpointSet_of_config hconfig
    exact ⟨⟨endpoints, hendpoints⟩, RepositoryConfig.canAuthenticate_of_endpointSet hendpoints⟩

/-- Settings with characters that every notation writes in its own way. -/
def awkwardSettings : CommonSettings where
  endpoints := ["http://[::1]:7200/repositories/a", "http://[::1]:7201/repositories/a"]
  username := some "J\u00F6rg"
  password := some "\"\\\n"
  authMode := none
  retryCount := some 3
  readTimeoutMs := some 250
  writeTimeoutMs := none
  isListable_of_mem := by
    intro endpoint hendpoint
    simp only [List.mem_cons, List.not_mem_nil, or_false] at hendpoint
    rcases hendpoint with rfl | rfl <;> exact ⟨by decide, by rfl, by decide⟩
  retryCount_le := by
    rintro _ ⟨⟩
    decide
  readTimeoutMs_le := by
    rintro _ ⟨⟩
    decide
  writeTimeoutMs_le := nofun

/-- All notations give the configuration that logs in for a token. -/
theorem CommonSettings.notations_agree_awkward_settings :
    (awkwardSettings.environment.Gives awkwardSettings
        ∧ awkwardSettings.IsJsonText awkwardSettings.jsonText
        ∧ HasExtension "json" "conf/graphdb.json"
        ∧ awkwardSettings.IsTomlText awkwardSettings.tomlText
        ∧ HasExtension "toml" "graphdb.toml")
      ∧ (awkwardSettings.environment.configOfVariables = awkwardSettings.settings.config
        ∧ RepositoryConfig.parse awkwardSettings.jsonText "conf/graphdb.json"
          = awkwardSettings.settings.config
        ∧ RepositoryConfig.parse awkwardSettings.tomlText "graphdb.toml"
          = awkwardSettings.settings.config
        ∧ ∀ config, awkwardSettings.settings.config = .ok config →
          (∃ endpoints, config.endpointSet = .ok endpoints)
            ∧ (config.client.authMode ≠ .none →
              (Session.ofConfig config.client).canAuthenticate = true))
      ∧ ∃ config, awkwardSettings.settings.config = .ok config
        ∧ config.client.authMode = .token := by
  have hjsonPath : HasExtension "json" "conf/graphdb.json" :=
    ⟨"conf/graphd".toList, 'b', by decide, by decide⟩
  have htomlPath : HasExtension "toml" "graphdb.toml" :=
    ⟨"graphd".toList, 'b', by decide, by decide⟩
  have hvariables := awkwardSettings.gives_variables
  have hjson := awkwardSettings.isJsonText_jsonText
  have htoml := awkwardSettings.isTomlText_tomlText
  exact ⟨⟨hvariables, hjson, hjsonPath, htoml, htomlPath⟩,
    awkwardSettings.notations_agree hvariables hjson hjsonPath htoml htomlPath, _, rfl, rfl⟩

end Quadlink
