import Tenancy.Proofs.Settings.Reading
import Tenancy.Proofs.Text.Numeral
import Tenancy.Proofs.Upkeep.Young

/-!
# Thresholds

The hours that may be configured are just the hours for which there is a limit,
so what is written in a variable is the limit that its reaper keeps to.
-/

namespace Tenancy.Settings

open Cluster Text Upkeep

/-- The value writes a number of hours in the range for ages: a numeral, but for
blank ends. -/
structure WritesHours (value : String) (hours : Int) : Prop where
  numeral : ∃ text, Stripped value text ∧ Denotes text.toList hours
  positive : 1 ≤ hours
  bounded : hours ≤ 2562047788015

/-- A limit of exactly some hours. -/
def IsLimitOf (hours : Int) (limit : AgeLimit) : Prop :=
  limit.nanoseconds = hours * 3600 * 1000000000

/-- The limits of the reapers are what the variables say. -/
structure KeepsThresholds (environment : Variables) (config : Config) : Prop where
  pods : ∀ value hours, environment "POD_AGE_THRESHOLD_HOURS" = some value →
    WritesHours value hours → IsLimitOf hours (.forHours config.podRule.maximalHours)
  podsOtherwise : (∀ value hours, environment "POD_AGE_THRESHOLD_HOURS" = some value →
    ¬WritesHours value hours) → IsLimitOf 12 (.forHours config.podRule.maximalHours)
  namespaces : ∀ value, environment "ZOMBIE_NS_MAX_AGE_HOURS" = some value →
    ∃ hours, config.namespaceMaximalHours = some hours ∧ WritesHours value hours ∧
      IsLimitOf hours (.forHours hours)
  namespacesOtherwise : environment "ZOMBIE_NS_MAX_AGE_HOURS" = none →
    config.namespaceMaximalHours = none

section

variable {environment : Variables} {file : NamespaceFile} {config : Config}
variable {value : String} {hours : Int}

theorem isLimit_iff : IsLimit hours ↔ 1 ≤ hours ∧ hours ≤ 2562047788015 := by
  have known : Number.greatestSigned64 = 9223372036854775807 := rfl
  rw [IsLimit, known]
  omega

theorem isLimitOf_forHours_iff : IsLimitOf hours (.forHours hours) ↔ IsLimit hours := by
  constructor
  · intro exact
    apply Classical.byContradiction
    intro unlimited
    -- The longest limit is no whole number of hours.
    have longest : AgeLimit.longest.nanoseconds = 9223372036854775807000000 := by decide
    rw [IsLimitOf, forHours_of_not_isLimit unlimited, longest] at exact
    omega
  · intro limit
    rw [forHours_of_isLimit limit]
    rfl

theorem readAgeHours_eq_ok_iff : Config.readAgeHours value = .ok hours ↔
    WritesHours value hours := by
  have top : Config.maximalHours = 2562047788015 := by decide
  have least : Number.leastSigned64 = -9223372036854775808 := rfl
  have greatest : Number.greatestSigned64 = 9223372036854775807 := rfl
  rw [Config.readAgeHours, top]
  constructor
  · intro read
    split at read
    next => cases read
    next number numeral =>
      obtain ⟨denoted, _⟩ := readSigned64_eq_ok_iff.1 numeral
      split at read
      next range =>
        cases read
        exact ⟨⟨_, stripped_trim value, denoted⟩, range.1, range.2⟩
      next => cases read
  · intro writes
    obtain ⟨⟨text, stripped, denoted⟩, positive, bounded⟩ := writes
    have numeral : readSigned64 (trim value) = .ok hours := by
      rw [trim_eq_iff.2 stripped]
      exact readSigned64_eq_ok_iff.2 ⟨denoted, by omega, by omega⟩
    simp only [numeral, positive, bounded, and_self, if_true]

/-- Every number of hours in the range can be written. -/
theorem writesHours_decimal (positive : 1 ≤ hours) (bounded : hours ≤ 2562047788015) :
    WritesHours (decimal hours.toNat) hours := by
  have digits := isRow_digits hours.toNat
  have same : ((hours.toNat : Nat) : Int) = hours := Int.toNat_of_nonneg (by omega)
  have denoted := denotes_decimal hours.toNat
  rw [same] at denoted
  exact ⟨⟨_, trim_eq_iff.1 (trim_eq_self digits.trimmed), denoted⟩, positive, bounded⟩

theorem WritesHours.isLimitOf (writes : WritesHours value hours) :
    IsLimitOf hours (.forHours hours) :=
  isLimitOf_forHours_iff.2 (isLimit_iff.2 ⟨writes.positive, writes.bounded⟩)

theorem podHours_of_writes (set : environment "POD_AGE_THRESHOLD_HOURS" = some value)
    (writes : WritesHours value hours) : Config.podHours environment = hours := by
  simp only [Config.podHours, set, readAgeHours_eq_ok_iff.2 writes]

theorem podHours_otherwise (unusable : ∀ value hours,
    environment "POD_AGE_THRESHOLD_HOURS" = some value → ¬WritesHours value hours) :
    Config.podHours environment = 12 := by
  rw [Config.podHours]
  split
  next => rfl
  next value set =>
    split
    next hours read => exact absurd (readAgeHours_eq_ok_iff.1 read) (unusable value hours set)
    next => rfl

theorem readNamespaceHours_of_set (set : environment "ZOMBIE_NS_MAX_AGE_HOURS" = some value)
    {maximal : Option Int} (read : Config.readNamespaceHours environment = .ok maximal) :
    ∃ hours, maximal = some hours ∧ WritesHours value hours := by
  rw [Config.readNamespaceHours, set] at read
  simp only at read
  split at read
  next hours usable =>
    cases read
    exact ⟨hours, rfl, readAgeHours_eq_ok_iff.1 usable⟩
  next => cases read

theorem keepsThresholds_of_read (read : Config.read environment file = .ok config) :
    KeepsThresholds environment config := by
  have source := read_eq_ok_iff.1 read
  have pods : config.podRule.maximalHours = Config.podHours environment := by
    rw [source.podRule]
  refine ⟨?_, ?_, ?_, ?_⟩
  · intro value hours set writes
    rw [pods, podHours_of_writes set writes]
    exact writes.isLimitOf
  · intro unusable
    rw [pods, podHours_otherwise unusable]
    exact isLimitOf_forHours_iff.2 (by decide)
  · intro value set
    obtain ⟨hours, same, writes⟩ := readNamespaceHours_of_set set source.namespaceMaximalHours
    exact ⟨hours, same, writes, writes.isLimitOf⟩
  · intro unset
    have read := source.namespaceMaximalHours
    simp only [Config.readNamespaceHours, unset, Except.ok.injEq] at read
    exact read.symm

theorem exists_error_of_unusable (set : environment "ZOMBIE_NS_MAX_AGE_HOURS" = some value)
    (unusable : ∀ hours, ¬WritesHours value hours) :
    ∃ cause, Config.read environment file = .error cause := by
  apply exists_error_of_not_ok
  intro config read
  obtain ⟨hours, _, writes⟩ :=
    readNamespaceHours_of_set set (read_eq_ok_iff.1 read).namespaceMaximalHours
  exact unusable hours writes

end

/-- The hours that a value can be read as are those for which there is a limit.
Without such a limit nothing is old and a reaper deletes nothing.  A
configuration that comes about gives each reaper the limit that its variable
writes; an unusable age of pods counts as the default, and an unusable age of
workspaces leaves an error.  And whatever the hours, every deletion that a pass
asks for, of any control plane, is of an object that it listed and that is more
than an hour old, so that in a store what is younger stays. -/
theorem limits_agree_with_thresholds :
    (∀ value hours, Config.readAgeHours value = .ok hours ↔ WritesHours value hours) ∧
    (∀ hours, (∃ value, Config.readAgeHours value = .ok hours) ↔
      IsLimitOf hours (.forHours hours)) ∧
    (∀ hours, ¬IsLimitOf hours (.forHours hours) →
      (∀ later earlier : Instant, later.since earlier ≤ (AgeLimit.forHours hours).nanoseconds) ∧
      ∀ (reaper : Reaper) (now : Instant), reaper.hours = hours →
        reaper.pass now = onlyLists reaper.listing) ∧
    (∀ environment file config, Config.read environment file = .ok config →
      KeepsThresholds environment config) ∧
    (∀ (environment other : Variables) (file : NamespaceFile),
      (∀ name, name ≠ "POD_AGE_THRESHOLD_HOURS" → other name = environment name) →
        Config.read other file = (Config.read environment file).map fun config =>
          { config with
            podRule := { config.podRule with maximalHours := Config.podHours other } }) ∧
    (∀ (environment : Variables) (file : NamespaceFile) (value : String),
      environment "ZOMBIE_NS_MAX_AGE_HOURS" = some value →
      (∀ hours, ¬WritesHours value hours) →
        ∃ cause, Config.read environment file = .error cause) ∧
    (∀ (reaper : Reaper) (now : Instant) (State : Type) (plane : Plane State) (start : State),
      ∃ result history finish,
        (recorded plane).run (reaper.pass now) ⟨[], start⟩ = (.ok result, ⟨history, finish⟩) ∧
        ∀ before call answer after, history = before ++ ⟨call, answer⟩ :: after →
          SparesYoung now before call) ∧
    (∀ (store : Store) (hours : Int) (now : Instant), DistinctNames store.contents →
      ∀ held ∈ store.contents.namespaces, ¬IsHourOld now held.metadata →
        held ∈ (sweep hours now store).2.plane.contents.namespaces) ∧
    (∀ (store : Store) (rule : PodRule) (now : Instant), DistinctPods store.contents rule.space →
      ∀ held ∈ store.contents.pods, ¬IsHourOld now held.metadata →
        held ∈ (podSweep rule now store).2.plane.contents.pods) := by
  refine ⟨fun _ _ => readAgeHours_eq_ok_iff, ?_, ?_, fun _ _ _ => keepsThresholds_of_read,
    fun _ _ _ => read_of_agree, fun _ _ _ => exists_error_of_unusable, ?_,
    fun _ _ _ distinct _ => young_namespace_stays distinct,
    fun _ _ _ distinct _ => young_pod_stays distinct⟩
  · intro hours
    rw [isLimitOf_forHours_iff, isLimit_iff]
    constructor
    · intro readable
      obtain ⟨value, read⟩ := readable
      have writes := readAgeHours_eq_ok_iff.1 read
      exact ⟨writes.positive, writes.bounded⟩
    · intro range
      exact ⟨_, readAgeHours_eq_ok_iff.2 (writesHours_decimal range.1 range.2)⟩
  · intro hours inexact
    have unlimited : ¬IsLimit hours := mt isLimitOf_forHours_iff.2 inexact
    refine ⟨?_, ?_⟩
    · rw [forHours_of_not_isLimit unlimited]
      exact Instant.since_le_longest
    · intro reaper now same
      exact onlyLists_of_not_isLimit reaper (same ▸ unlimited)
  · intro reaper now State plane start
    obtain ⟨result, history, finish, ran, asked, _, faultless⟩ :=
      run_recording (ensures_sparesYoung reaper) start
    cases result with
    | error fault => exact (faultless fault rfl).elim
    | ok result => exact ⟨result, history, finish, ran, asked⟩

/-- Signs, leading zeros and blank ends make no difference. -/
theorem limits_of_six_and_twenty_four_hours :
    let environment : Variables := fun name =>
      if name = "POD_NAMESPACE" then some "credentials"
      else if name = "POD_AGE_THRESHOLD_HOURS" then some " +6\n"
      else if name = "ZOMBIE_NS_MAX_AGE_HOURS" then some "024"
      else none
    ∃ config, Config.read environment .missing = .ok config ∧
      IsLimitOf 6 (.forHours config.podRule.maximalHours) ∧
      ∃ hours, config.namespaceMaximalHours = some hours ∧ IsLimitOf hours (.forHours hours) := by
  intro environment
  have succeeds : (Config.read environment .missing).isOk = true := by decide
  cases read : Config.read environment .missing with
  | error cause =>
      rw [read] at succeeds
      cases succeeds
  | ok config =>
      obtain ⟨_, _, _, keeps, _⟩ := limits_agree_with_thresholds
      have kept := keeps environment .missing config read
      have six : Config.readAgeHours " +6\n" = .ok 6 := by rfl
      obtain ⟨hours, same, _, limit⟩ := kept.namespaces "024" rfl
      exact ⟨config, rfl, kept.pods " +6\n" 6 rfl (readAgeHours_eq_ok_iff.1 six), hours, same,
        limit⟩

end Tenancy.Settings
