import Tenancy.Settings.Config

/-!
# What a configuration is read from

A configuration comes about exactly when each of its settings can be read, and
every setting is read from variables and a file of its own.
-/

namespace Tenancy.Settings

open Upkeep

/-- Where the settings of a configuration come from. -/
structure ReadFrom (environment : Variables) (file : NamespaceFile) (config : Config) : Prop where
  listenAddress :
    Config.readAddress environment "LISTEN_ADDR" "0.0.0.0:8080" = .ok config.listenAddress
  metricsAddress :
    Config.readAddress environment "METRICS_ADDR" "0.0.0.0:9090" = .ok config.metricsAddress
  credentialSpace : Config.readCredentialSpace environment file = .ok config.credentialSpace
  callTimeout : ∃ seconds,
    Config.readNumber environment "CLUSTER_CALL_TIMEOUT_SECS" Config.defaultCallTimeoutSeconds =
      .ok seconds ∧ config.callTimeout = .ofSeconds seconds
  monitorInterval : config.monitorInterval = .ofSeconds Config.monitorSeconds
  podRule : config.podRule =
    { space := (environment "REAPER_NAMESPACE").getD Config.defaultReaperSpace
      labelKey := Config.reaperLabelKey
      labelStart := Config.reaperLabelStart
      maximalHours := Config.podHours environment }
  reaperInterval : ∃ seconds,
    Config.readNumber environment "REAPER_INTERVAL_SECS" Config.defaultReaperSeconds =
      .ok seconds ∧ config.reaperInterval = .ofSeconds seconds
  namespaceMaximalHours :
    Config.readNamespaceHours environment = .ok config.namespaceMaximalHours

theorem bind_eq_ok_iff {Cause First Second : Type} {first : Except Cause First}
    {next : First → Except Cause Second} {result : Second} :
    (first >>= next) = .ok result ↔ ∃ value, first = .ok value ∧ next value = .ok result := by
  cases first <;> simp [bind, Except.bind]

section

variable {environment other : Variables} {file : NamespaceFile} {config : Config}

theorem read_eq_ok_iff :
    Config.read environment file = .ok config ↔ ReadFrom environment file config := by
  simp only [Config.read, bind_eq_ok_iff]
  constructor
  · intro read
    obtain ⟨_, listen, _, metrics, _, credentials, seconds, timeout, pause, interval, _,
      hours, same⟩ := read
    cases same
    exact
      { listenAddress := listen
        metricsAddress := metrics
        credentialSpace := credentials
        callTimeout := ⟨seconds, timeout, rfl⟩
        monitorInterval := rfl
        podRule := rfl
        reaperInterval := ⟨pause, interval, rfl⟩
        namespaceMaximalHours := hours }
  · intro source
    obtain ⟨seconds, timeout, lasting⟩ := source.callTimeout
    obtain ⟨pause, interval, resting⟩ := source.reaperInterval
    refine ⟨_, source.listenAddress, _, source.metricsAddress, _, source.credentialSpace,
      seconds, timeout, pause, interval, _, source.namespaceMaximalHours, ?_⟩
    rw [← source.podRule, ← lasting, ← resting, ← source.monitorInterval]
    rfl

/-- A setting that cannot be read leaves an error. -/
theorem exists_error_of_not_ok (none : ∀ config, Config.read environment file ≠ .ok config) :
    ∃ cause, Config.read environment file = .error cause := by
  cases result : Config.read environment file with
  | ok config => exact absurd result (none config)
  | error cause => exact ⟨cause, rfl⟩

/-- The age of pods has no part in whether a configuration comes about, nor in its
other settings. -/
theorem read_of_agree
    (agree : ∀ name, name ≠ "POD_AGE_THRESHOLD_HOURS" → other name = environment name) :
    Config.read other file = (Config.read environment file).map fun config =>
      { config with podRule := { config.podRule with maximalHours := Config.podHours other } } := by
  have addresses : ∀ name fallback, name ≠ "POD_AGE_THRESHOLD_HOURS" →
      Config.readAddress other name fallback = Config.readAddress environment name fallback := by
    intro name fallback apart
    -- Simplifying the match would evaluate the reader of addresses.
    unfold Config.readAddress
    rw [agree name apart]
  have numbers : ∀ name fallback, name ≠ "POD_AGE_THRESHOLD_HOURS" →
      Config.readNumber other name fallback = Config.readNumber environment name fallback := by
    intro name fallback apart
    simp only [Config.readNumber, agree name apart]
  have credentials : Config.readCredentialSpace other file =
      Config.readCredentialSpace environment file := by
    simp only [Config.readCredentialSpace, agree "POD_NAMESPACE" (by decide)]
  have ages : Config.readNamespaceHours other = Config.readNamespaceHours environment := by
    simp only [Config.readNamespaceHours, agree "ZOMBIE_NS_MAX_AGE_HOURS" (by decide)]
  change _ = _ <$> Config.read environment file
  simp only [Config.read, map_bind, map_pure, addresses "LISTEN_ADDR" _ (by decide),
    addresses "METRICS_ADDR" _ (by decide), credentials,
    numbers "CLUSTER_CALL_TIMEOUT_SECS" _ (by decide), numbers "REAPER_INTERVAL_SECS" _ (by decide),
    agree "REAPER_NAMESPACE" (by decide), ages]

end

end Tenancy.Settings
