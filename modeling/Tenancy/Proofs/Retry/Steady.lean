import Tenancy.Proofs.Number.Bounds
import Tenancy.Retry.Attempts

/-!
# Pauses that can be counted

A pause is counted in seconds of 64 bits, and drawn out or cut short at random before
that.  A policy is steady when no pause that it can come to is too long for this, or
negative: then the jitter does not matter to what a run does.  Under a factor that is not
negative a policy is steady as long as its delays, half as long again, can be counted.
-/

namespace Tenancy

open Number Binary64

/-- Half as long again, the span still has fewer seconds than there are words of 64 bits,
also after rounding. -/
def Span.Short (span : Span) : Prop := span.seconds < 12297829382473034752

instance (span : Span) : Decidable span.Short := inferInstanceAs (Decidable (_ < _))

/-- The greatest floating-point number below two thirds of `2 ^ 64`. -/
def greatestShort : Nat := 6004799503160661 * 2 ^ 11

theorem Span.unsigned_toDouble (span : Span) : span.toDouble.Unsigned := by
  unfold toDouble
  split
  · exact unsigned_ofRatio _ _
  · rfl

theorem Span.Short.within_toDouble {span : Span} (short : span.Short) :
    span.toDouble.Within greatestShort := by
  have counted : (span.seconds : ℚ) < 12297829382473034752 := by
    exact_mod_cast short
  have incomplete : ((span.nanoseconds % 1000000000 : Nat) : ℚ) < 1000000000 := by
    exact_mod_cast Nat.mod_lt _ (by decide)
  have seconds : (ofNat span.seconds).Within ((6004799503160661 : Nat) * 2 ^ (11 : Int)) := by
    apply within_ofRatio _ (by decide) (by decide)
    exact lt_of_lt_of_eq counted (by norm_num)
  have part : (ofRatio false (span.nanoseconds % 1000000000) 1000000000).Within
      ((4503599627370496 : Nat) * 2 ^ (-52 : Int)) := by
    apply within_ofRatio _ (by decide) (by decide)
    exact lt_of_lt_of_le incomplete (by norm_num)
  have bound : ((greatestShort : Nat) : ℚ) = (6004799503160661 : Nat) * 2 ^ (11 : Int) := by
    norm_num [greatestShort]
  rw [Span.toDouble, bound]
  cases wholes : ofNat span.seconds with
  | notANumber => exact (wholes ▸ seconds).elim
  | infinite negative => exact (wholes ▸ seconds).elim
  | finite negative significand exponent =>
      cases parts : ofRatio false (span.nanoseconds % 1000000000) 1000000000 with
      | notANumber => exact (parts ▸ part).elim
      | infinite partNegative => exact (parts ▸ part).elim
      | finite partNegative partSignificand partExponent =>
          rw [wholes] at seconds
          rw [parts] at part
          apply within_addMagnitudes seconds part (by decide)
          norm_num

/-- Seconds that are not negative and can be counted are those of a span. -/
theorem Span.ofDouble_of_within {seconds : Binary64} {bound : Nat}
    (positive : seconds.isNegative = false) (within : seconds.Within bound)
    (counted : bound ≤ greatestUnsigned64) :
    ∃ span, Span.ofDouble seconds = .ok span ∧ span.nanoseconds ≤ bound * 1000000000 := by
  cases seconds with
  | notANumber => exact within.elim
  | infinite negative => exact within.elim
  | finite negative significand exponent =>
      have bottom := scaled_bottom_pos significand exponent
      have limited : (scaled significand exponent).1 ≤
          bound * (scaled significand exponent).2 := by
        rw [← Nat.cast_le (α := ℚ), Nat.cast_mul, scaled_top]
        exact mul_le_mul_of_nonneg_right within (Nat.cast_nonneg _)
      have below : (scaled significand exponent).1 <
          (greatestUnsigned64 + 1) * (scaled significand exponent).2 := by
        calc _ ≤ bound * (scaled significand exponent).2 := limited
          _ < _ := Nat.mul_lt_mul_of_pos_right (by omega) bottom
      have nearer : 2 * ((scaled significand exponent).1 * 1000000000) <
          (2 * (bound * 1000000000) + 1) * (scaled significand exponent).2 := by
        have times : 2 * (bound * 1000000000) * (scaled significand exponent).2 =
            2000000000 * (bound * (scaled significand exponent).2) := by
          ring
        rw [Nat.add_mul, times]
        omega
      refine ⟨Span.ofScaledSeconds significand exponent, ?_, roundedQuotient_le nearer⟩
      simp only [Span.ofDouble, positive, Bool.false_eq_true, if_false]
      exact if_pos below

namespace Retry

theorem Jitter.unsigned_factor (jitter : Jitter) : jitter.factor.Unsigned := unsigned_ofRatio _ _

theorem Jitter.within_factor (jitter : Jitter) :
    jitter.factor.Within ((6755399441055743 : Nat) * 2 ^ (-52 : Int)) := by
  have steps : ((Nat.pow 2 51 + jitter.steps : Nat) : ℚ) ≤ 6755399441055743 := by
    have bounded : jitter.steps < 4503599627370496 := jitter.bounded
    have power : Nat.pow 2 51 = 2251799813685248 := by decide
    rw [power]
    exact_mod_cast (by omega : 2251799813685248 + jitter.steps ≤ 6755399441055743)
  have denominator : ((Nat.pow 2 52 : Nat) : ℚ) = 4503599627370496 := by
    exact_mod_cast (by decide : Nat.pow 2 52 = 4503599627370496)
  apply within_ofRatio _ (by decide) (by decide)
  rw [denominator]
  exact lt_of_le_of_lt steps (by norm_num)

/-- However a short delay is drawn out, the pause can be counted. -/
theorem jittered_of_short (jitter : Jitter) {delay : Span} (short : delay.Short) :
    ∃ length, jittered jitter delay = .ok length := by
  by_cases none : delay = Span.zero
  · exact ⟨delay, if_pos none⟩
  · have drawn : (jitter.factor.mul delay.toDouble).Within
        ((9007199254740991 : Nat) * 2 ^ (11 : Int)) := by
      apply jitter.within_factor.mul short.within_toDouble (by decide)
      norm_num [greatestShort]
    have bound : ((9007199254740991 : Nat) : ℚ) * 2 ^ (11 : Int) =
        (18446744073709549568 : Nat) := by
      norm_num
    rw [bound] at drawn
    have positive := isNegative_mul_eq_false jitter.unsigned_factor
      delay.unsigned_toDouble.isNegative_eq_false
    obtain ⟨length, counted, _⟩ := Span.ofDouble_of_within positive drawn (by decide)
    exact ⟨length, (if_neg none).trans counted⟩

namespace Policy

theorem nextDelay_of_short {policy : Policy} (positive : policy.factor.isNegative = false)
    (limited : policy.maximalDelay.Short) (delay : Span) :
    ∃ longer, policy.nextDelay delay = .ok longer ∧ longer.Short := by
  have product := isNegative_mul_eq_false delay.unsigned_toDouble positive
  obtain ⟨within, grown⟩ := limited.within_toDouble.least product
    policy.maximalDelay.unsigned_toDouble
  obtain ⟨longer, counted, small⟩ := Span.ofDouble_of_within grown within (by decide)
  refine ⟨longer, counted, ?_⟩
  rw [Span.Short, Span.seconds, Nat.div_lt_iff_lt_mul (by decide)]
  exact Nat.lt_of_le_of_lt small (by decide)

/-- So many pauses can be made, the first of them for a delay: however its jitter falls
each of them can be counted, and so can the delay of the next one. -/
def Sustains (policy : Policy) : Nat → Span → Prop
  | 0, _ => True
  | more + 1, delay =>
      (∀ jitter, ∃ length, jittered jitter delay = .ok length) ∧
        ∃ longer, policy.nextDelay delay = .ok longer ∧ policy.Sustains more longer

/-- No pause that a run can come to is negative or too long to be counted. -/
def Steady (policy : Policy) : Prop := policy.Sustains (policy.attempts - 1) policy.initialDelay

theorem steady_of_short {policy : Policy} (positive : policy.factor.isNegative = false)
    (initial : policy.initialDelay.Short) (limited : policy.maximalDelay.Short) :
    policy.Steady := by
  have sustained (more : Nat) (delay : Span) (short : delay.Short) :
      policy.Sustains more delay := by
    induction more generalizing delay with
    | zero => trivial
    | succ more induction =>
        obtain ⟨longer, grown, longerShort⟩ := policy.nextDelay_of_short positive limited delay
        exact ⟨fun jitter => jittered_of_short jitter short, longer, grown,
          induction longer longerShort⟩
  exact sustained _ _ initial

/-- The number of attempts does not matter to the standard delays. -/
theorem steady_withAttempts (attempts : Nat) : (withAttempts attempts).Steady := by
  have factor : standard.factor.isNegative = false := by decide
  have initial : standard.initialDelay.Short := by decide
  have limited : standard.maximalDelay.Short := by decide
  exact steady_of_short factor initial limited

theorem steady_immediate (attempts : Nat) : (immediate attempts).Steady := by
  have factor : (ofNat 1).isNegative = false := by decide
  have without : Span.zero.Short := by decide
  exact steady_of_short factor without without

/-- The delay that follows a delay, where there is one. -/
def longer (policy : Policy) (delay : Span) : Span :=
  match policy.nextDelay delay with
  | .ok length => length
  | .error _ => delay

end Policy

section

variable {Query : Type} {Answer : Query → Type} {Value Failure : Type}
variable {repeatable : Failure → Bool} {operation : Program Query Answer (Except Failure Value)}

theorem attempt_of_sustained {policy : Policy} (draws : Nat → Jitter) {more : Nat} {delay : Span}
    (sustained : policy.Sustains more delay) :
    attempt repeatable (fun more => policy.rest (draws more)) operation more delay =
      attempt repeatable (fun _ delay => .pause delay (.done (policy.longer delay))) operation more
        delay := by
  induction more generalizing delay with
  | zero => rfl
  | succ more induction =>
      obtain ⟨counted, longer, grown, further⟩ := sustained
      obtain ⟨length, drawn⟩ := counted (draws more)
      have next : policy.longer delay = longer := by simp only [Policy.longer, grown]
      simp only [attempt, Policy.rest, drawn, grown, next, Program.ofExcept, Program.bind,
        induction further]

/-- The jitter does not matter to a run of a steady policy. -/
theorem run_of_steady {policy : Policy} (steady : policy.Steady) (draws : Nat → Jitter) :
    run policy repeatable operation draws =
      attempt repeatable (fun _ delay => .pause delay (.done (policy.longer delay))) operation
        (policy.attempts - 1) policy.initialDelay :=
  attempt_of_sustained draws steady

section

variable {State : Type} {handler : Handler Query Answer State}

theorem run_rest (policy : Policy) (jitter : Jitter) (delay : Span)
    (next : Span → Program Query Answer (Except Failure Value)) (state : State) :
    handler.run ((policy.rest jitter delay).bind next) state =
      match jittered jitter delay, policy.nextDelay delay with
      | .ok _, .ok longer => handler.run (next longer) (handler.pause delay state)
      | .ok _, .error fault => (.error fault, handler.pause delay state)
      | .error fault, _ => (.error fault, state) := by
  cases drawn : jittered jitter delay with
  | error fault => simp only [Policy.rest, drawn, Program.ofExcept, Program.bind, Handler.run]
  | ok length =>
      cases grown : policy.nextDelay delay with
      | error fault =>
          simp only [Policy.rest, drawn, grown, Program.ofExcept, Program.bind, Handler.run]
      | ok longer =>
          simp only [Policy.rest, drawn, grown, Program.ofExcept, Program.bind, Handler.run]

/-- Three attempts, the first two a nanosecond apart.  The factor is infinite, and the
maximal delay is the longest that a count of 64 bits of seconds and a fraction can hold. -/
def Policy.leaping : Policy :=
  ⟨3, ⟨1⟩, ⟨greatestUnsigned64 * 1000000000 + 999999999⟩, .infinite false⟩

/-- The delay after the first one is rounded to `2 ^ 64` seconds. -/
theorem run_rest_leaping (jitter : Jitter)
    (next : Span → Program Query Answer (Except Failure Value)) (state : State) :
    handler.run ((Policy.leaping.rest jitter Policy.leaping.initialDelay).bind next) state =
      (.error .overlongPause, handler.pause Policy.leaping.initialDelay state) := by
  have overlong : Policy.leaping.nextDelay Policy.leaping.initialDelay =
      .error .overlongPause := by
    decide +kernel
  have short : Policy.leaping.initialDelay.Short := by decide
  obtain ⟨length, drawn⟩ := jittered_of_short jitter short
  rw [run_rest, drawn, overlong]

theorem sustains_iff {policy : Policy} (failure : Failure) (more : Nat) (delay : Span)
    (state : State) :
    policy.Sustains more delay ↔ ∀ draws : Nat → Jitter, ∃ outcome finish,
      handler.run (attempt (fun _ => true) (fun more => policy.rest (draws more))
        (.done (.error failure : Except Failure Value)) more delay) state =
          (.ok outcome, finish) := by
  induction more generalizing delay state with
  | zero => exact ⟨fun _ _ => ⟨.error failure, state, rfl⟩, fun _ => trivial⟩
  | succ more induction =>
      simp only [attempt, Program.bind, if_true, run_rest]
      constructor
      · intro sustained draws
        obtain ⟨counted, longer, grown, further⟩ := sustained
        obtain ⟨length, drawn⟩ := counted (draws more)
        simp only [drawn, grown]
        exact (induction longer _).1 further draws
      · intro ends
        have counted (jitter : Jitter) : ∃ length, jittered jitter delay = .ok length := by
          obtain ⟨outcome, finish, ran⟩ := ends fun _ => jitter
          cases drawn : jittered jitter delay with
          | ok length => exact ⟨length, rfl⟩
          | error fault => simp [drawn] at ran
        have grown : ∃ longer, policy.nextDelay delay = .ok longer := by
          obtain ⟨outcome, finish, ran⟩ := ends fun _ => .neutral
          obtain ⟨length, drawn⟩ := counted .neutral
          cases grown : policy.nextDelay delay with
          | ok longer => exact ⟨longer, rfl⟩
          | error fault => simp [drawn, grown] at ran
        obtain ⟨longer, grown⟩ := grown
        refine ⟨counted, longer, grown, (induction longer (handler.pause delay state)).2 ?_⟩
        intro draws
        obtain ⟨length, drawn⟩ := counted (draws more)
        have ended := ends draws
        simpa only [drawn, grown] using ended

/-- A policy is steady exactly when, however the jitter falls, a run of it never ends
with a fault although every attempt fails. -/
theorem steady_iff (handler : Handler Query Answer State) (policy : Policy) (failure : Failure)
    (state : State) :
    policy.Steady ↔ ∀ draws : Nat → Jitter, ∃ outcome finish,
      handler.run (run policy (fun _ => true)
        (.done (.error failure : Except Failure Value)) draws) state = (.ok outcome, finish) :=
  sustains_iff failure _ _ state

end

end

end Retry

end Tenancy
