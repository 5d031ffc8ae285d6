import Tenancy.Upkeep.Age

/-!
# Ages and limits

No two instants are as far apart as the longest limit, so a number of hours that
is no limit makes nothing old.  Time goes on and ages grow, except around leap
seconds, which the difference of two instants places by the time of day alone.
-/

namespace Tenancy

namespace Instant

/-- The order of time.  A leap second follows the second whose number it has. -/
instance : LE Instant where
  le first second := first.seconds < second.seconds ∨
    (first.seconds = second.seconds ∧ first.nanoseconds ≤ second.nanoseconds)

instance (first second : Instant) : Decidable (first ≤ second) :=
  inferInstanceAs (Decidable (first.seconds < second.seconds ∨
    (first.seconds = second.seconds ∧ first.nanoseconds ≤ second.nanoseconds)))

theorem le_iff {first second : Instant} : first ≤ second ↔ first.seconds < second.seconds ∨
    (first.seconds = second.seconds ∧ first.nanoseconds ≤ second.nanoseconds) :=
  Iff.rfl

section

variable {now later created : Instant}

theorem leapCorrection_bounds (later earlier : Instant) :
    -1 ≤ leapCorrection later earlier ∧ leapCorrection later earlier ≤ 1 := by
  unfold leapCorrection
  simp only
  split
  · split <;> decide
  · split
    · split <;> decide
    · decide

theorem leapCorrection_eq_zero (regular : now.inLeapSecond = false)
    (old : created.inLeapSecond = false) : leapCorrection now created = 0 := by
  simp [leapCorrection, regular, old]

/-- The years there are leave no room for the longest limit. -/
theorem since_le_longest (now created : Instant) :
    now.since created ≤ Upkeep.AgeLimit.longest.nanoseconds := by
  have last : latestSecond = 8210266876799 := by decide
  have first : earliestSecond = -8334601228800 := by decide
  have limit : Upkeep.AgeLimit.longest.nanoseconds = 9223372036854775807000000 := by decide
  have notAfter := now.notAfter
  have notBefore := created.notBefore
  have fraction := now.fraction
  have correction := (leapCorrection_bounds now created).2
  rw [limit, since]
  rw [last] at notAfter
  rw [first] at notBefore
  omega

/-- Outside leap seconds ages grow with time. -/
theorem since_mono (forward : now ≤ later) (regular : now.inLeapSecond = false)
    (regularLater : later.inLeapSecond = false) (old : created.inLeapSecond = false) :
    now.since created ≤ later.since created := by
  have short : now.nanoseconds < 1000000000 := by simpa [inLeapSecond] using regular
  rw [since, since, leapCorrection_eq_zero regular old, leapCorrection_eq_zero regularLater old]
  rcases le_iff.1 forward with before | ⟨same, within⟩
  · omega
  · omega

/-- Three seconds make up for whatever leap seconds do. -/
theorem since_mono_of_apart (apart : now.seconds + 3 ≤ later.seconds) :
    now.since created ≤ later.since created := by
  have fraction := now.fraction
  have correction := leapCorrection_bounds now created
  -- A correction of minus one comes with a leap second, whose count of
  -- nanoseconds gives back what the correction takes.
  have placed : 0 ≤ leapCorrection later created * 1000000000 + later.nanoseconds := by
    unfold leapCorrection
    simp only
    split
    · split <;> omega
    · split
      · cases leap : later.inLeapSecond with
        | false => simp
        | true =>
            have long : 1000000000 ≤ later.nanoseconds := by simpa [inLeapSecond] using leap
            simp only [if_true]
            omega
      · omega
  rw [since, since]
  omega

end

end Instant

namespace Upkeep

open Cluster

/-- A positive number of hours for which there is a limit. -/
def IsLimit (hours : Int) : Prop :=
  1 ≤ hours ∧ hours * 3600 * 1000 ≤ Number.greatestSigned64

instance (hours : Int) : Decidable (IsLimit hours) :=
  inferInstanceAs (Decidable (1 ≤ hours ∧ hours * 3600 * 1000 ≤ Number.greatestSigned64))

/-- The nanoseconds of some hours. -/
def hoursLong (hours : Int) : Int := hours * 3600 * 1000000000

theorem forHours_of_isLimit {hours : Int} (limit : IsLimit hours) :
    AgeLimit.forHours hours = ⟨hoursLong hours⟩ := by
  obtain ⟨positive, bounded⟩ := limit
  have known : Number.greatestSigned64 = 9223372036854775807 := rfl
  have above : -Number.greatestSigned64 ≤ hours * 3600 * 1000 := by omega
  rw [AgeLimit.forHours, if_neg (by omega), AgeLimit.ofHours?, AgeLimit.ofSeconds?,
    if_pos ⟨above, bounded⟩]
  rfl

theorem forHours_of_not_isLimit {hours : Int} (unlimited : ¬IsLimit hours) :
    AgeLimit.forHours hours = .longest := by
  rw [AgeLimit.forHours]
  by_cases nonpositive : hours < 1
  · rw [if_pos nonpositive]
  · have excessive : ¬hours * 3600 * 1000 ≤ Number.greatestSigned64 :=
      fun bounded => unlimited ⟨by omega, bounded⟩
    rw [if_neg nonpositive, AgeLimit.ofHours?, AgeLimit.ofSeconds?,
      if_neg fun both => excessive both.2]
    rfl

theorem stale_eq_forHours : AgeLimit.stale = .forHours 48 := by decide

/-- What a limit of some hours comes to: more hours than that since the creation,
if there is such a limit. -/
theorem isOlder_forHours_iff {metadata : Metadata} {hours : Int} {now : Instant} :
    isOlder metadata (.forHours hours) now = true ↔ IsLimit hours ∧
      ∃ created, metadata.created = some created ∧ hoursLong hours < now.since created := by
  rw [isOlder, Option.any_eq_true]
  simp only [decide_eq_true_eq]
  by_cases limit : IsLimit hours
  · simp only [forHours_of_isLimit limit, limit, true_and]
  · rw [forHours_of_not_isLimit limit]
    constructor
    · intro old
      obtain ⟨created, _, exceeded⟩ := old
      exact absurd (Instant.since_le_longest now created) (by omega)
    · intro old
      exact absurd old.1 limit

/-- Between two times an object grows older: they are seconds apart, or leap
seconds have no part in it. -/
inductive Matures (now later : Instant) (metadata : Metadata) : Prop where
  | apart (seconds : now.seconds + 3 ≤ later.seconds)
  | regular (forward : now ≤ later) (regular : now.inLeapSecond = false)
      (regularLater : later.inLeapSecond = false)
      (old : ∀ created, metadata.created = some created → created.inLeapSecond = false)

section

variable {metadata : Metadata} {hours : Int} {now later : Instant}

theorem Matures.isOlder (matures : Matures now later metadata)
    (old : isOlder metadata (.forHours hours) now = true) :
    isOlder metadata (.forHours hours) later = true := by
  obtain ⟨limit, created, known, exceeded⟩ := isOlder_forHours_iff.1 old
  have older : now.since created ≤ later.since created := by
    cases matures with
    | apart seconds => exact Instant.since_mono_of_apart seconds
    | regular forward regular regularLater old =>
        exact Instant.since_mono forward regular regularLater (old created known)
  exact isOlder_forHours_iff.2 ⟨limit, created, known, by omega⟩

/-- What is older than a longer limit is older than a shorter one. -/
theorem isOlder_of_longer {longer : Int} (positive : 1 ≤ hours) (shorter : hours ≤ longer)
    (old : isOlder metadata (.forHours longer) now = true) :
    isOlder metadata (.forHours hours) now = true := by
  obtain ⟨⟨_, bounded⟩, created, known, exceeded⟩ := isOlder_forHours_iff.1 old
  refine isOlder_forHours_iff.2 ⟨⟨positive, by omega⟩, created, known, ?_⟩
  unfold hoursLong at exceeded ⊢
  omega

end

end Upkeep

end Tenancy
