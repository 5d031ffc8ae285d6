import Mathlib.Data.List.Iterate
import Tenancy.Proofs.Number.Whole
import Tenancy.Proofs.Retry.Law

/-!
# How pauses grow

Without rounding each pause after the first is the initial one times a power of the
factor, and the maximal one if that is shorter.  The first pause is the initial one
even where it is longer than the maximal one.  Pauses of whole seconds, of which
floating point holds every one, are not rounded.
-/

namespace Tenancy

open Number Binary64

theorem Span.isWhole_toDouble {seconds : Nat} (small : seconds < 2 ^ 53) :
    IsWhole seconds (Span.ofSeconds seconds).toDouble := by
  obtain ⟨scale, whole⟩ := isWhole_ofNat small
  have count : (Span.ofSeconds seconds).seconds = seconds := by
    simp [Span.seconds, Span.ofSeconds]
  have noPart : ofRatio false ((Span.ofSeconds seconds).nanoseconds % 1000000000) 1000000000 =
      .finite false 0 0 := by
    simp [Span.ofSeconds, ofRatio]
  have zero : scaled 0 0 = (0, 1) := by decide
  rw [Span.toDouble, count, whole, noPart]
  simp only [addMagnitudes, scaled_down, zero]
  simpa using isWhole_ofRatio small scale

theorem Span.ofScaledSeconds_of_isWhole (seconds scale : Nat) :
    Span.ofScaledSeconds (seconds * 2 ^ scale) (-(scale : Int)) = Span.ofSeconds seconds := by
  rw [Span.ofScaledSeconds, scaled_down]
  change (⟨roundedQuotient (seconds * 2 ^ scale * 1000000000) (2 ^ scale)⟩ : Span) = _
  rw [Nat.mul_right_comm, roundedQuotient_mul_right _ (Nat.two_pow_pos scale)]
  rfl

namespace Backoff

theorem exactNext_ofSeconds (factor limit delay : Nat) :
    exactNext factor (.ofSeconds limit) (.ofSeconds delay) =
      .ofSeconds (min (delay * factor) limit) := by
  rw [exactNext, Span.ofSeconds, Span.ofSeconds, Span.ofSeconds, Nat.mul_right_comm,
    Nat.mul_min_mul_right]

theorem ofDouble_of_isWhole {number : Binary64} {seconds : Nat} (whole : IsWhole seconds number)
    (small : seconds < 2 ^ 53) : Span.ofDouble number = .ok (.ofSeconds seconds) := by
  obtain ⟨scale, rfl⟩ := whole
  have counted : seconds * 2 ^ scale < (greatestUnsigned64 + 1) * 2 ^ scale := by
    apply Nat.mul_lt_mul_of_pos_right _ (Nat.two_pow_pos scale)
    exact Nat.lt_trans small (by decide)
  simp only [Span.ofDouble, isNegative, Bool.false_and, Bool.false_eq_true, if_false, scaled_down,
    counted, if_true, Span.ofScaledSeconds_of_isWhole]

theorem isWhole_least {left right : Binary64} {first second : Nat} (leftWhole : IsWhole first left)
    (rightWhole : IsWhole second right) : IsWhole (min first second) (left.least right) := by
  obtain ⟨leftScale, rfl⟩ := leftWhole
  obtain ⟨rightScale, rfl⟩ := rightWhole
  have compared : (finite false (first * 2 ^ leftScale) (-leftScale)).atMost
      (finite false (second * 2 ^ rightScale) (-rightScale)) = true ↔ first ≤ second := by
    rw [atMost_finite, scaled_down, scaled_down, Nat.mul_right_comm second,
      Nat.mul_le_mul_right_iff (Nat.two_pow_pos rightScale),
      Nat.mul_le_mul_right_iff (Nat.two_pow_pos leftScale)]
  by_cases within : first ≤ second
  · rw [Nat.min_eq_left within]
    exact ⟨leftScale, if_pos (compared.2 within)⟩
  · rw [Nat.min_eq_right (by omega)]
    exact ⟨rightScale, if_neg (within ∘ compared.1)⟩

/-- A whole factor does not round whole seconds. -/
theorem next_ofSeconds {factor limit delay : Nat} (factorSmall : factor < 2 ^ 53)
    (limitSmall : limit < 2 ^ 53) (delaySmall : delay < 2 ^ 53)
    (productSmall : delay * factor < 2 ^ 53) :
    next (ofNat factor) (.ofSeconds limit) (.ofSeconds delay) =
      .ok (exactNext factor (.ofSeconds limit) (.ofSeconds delay)) := by
  have product :=
    (Span.isWhole_toDouble delaySmall).mul (isWhole_ofNat factorSmall) productSmall
  have lesser := isWhole_least product (Span.isWhole_toDouble limitSmall)
  rw [exactNext_ofSeconds]
  exact ofDouble_of_isWhole lesser (Nat.lt_of_le_of_lt (Nat.min_le_left _ _) productSmall)

end Backoff

namespace Retry

section

variable {Query : Type} {Answer : Query → Type} {Value Failure State : Type}

/-- The run of a policy whose pauses grow by a whole factor without rounding. -/
def exactRun (policy : Policy) (factor : Nat) (repeatable : Failure → Bool)
    (operation : Program Query Answer (Except Failure Value)) :
    Program Query Answer (Except Failure Value) :=
  attempt repeatable
    (fun _ delay => .pause delay (.done (Backoff.exactNext factor policy.maximalDelay delay)))
    operation (policy.attempts - 1) policy.initialDelay

/-- Two ways to grow make the same run where they agree on the pauses along it. -/
theorem attempt_congr {repeatable : Failure → Bool}
    {operation : Program Query Answer (Except Failure Value)} {longer other : Span → Span}
    (holds : Span → Prop)
    (agree : ∀ delay, holds delay → longer delay = other delay ∧ holds (other delay))
    (more : Nat) {delay : Span} (start : holds delay) :
    attempt repeatable (fun _ delay => .pause delay (.done (longer delay))) operation more delay =
      attempt repeatable (fun _ delay => .pause delay (.done (other delay))) operation more
        delay := by
  induction more generalizing delay with
  | zero => rfl
  | succ more induction =>
      obtain ⟨same, next⟩ := agree delay start
      simp only [attempt, same, Program.bind, induction next]

/-- A policy of whole seconds and a whole factor does not round. -/
theorem run_eq_exactRun {policy : Policy} {factor initial maximal : Nat}
    (initialSeconds : policy.initialDelay = .ofSeconds initial)
    (maximalSeconds : policy.maximalDelay = .ofSeconds maximal)
    (whole : policy.factor = ofNat factor) (positive : 1 ≤ factor)
    (initialSmall : initial * factor < 2 ^ 53) (maximalSmall : maximal * factor < 2 ^ 53)
    (factorSmall : factor < 2 ^ 53) (repeatable : Failure → Bool)
    (operation : Program Query Answer (Except Failure Value)) (draws : Nat → Jitter) :
    run policy repeatable operation draws = exactRun policy factor repeatable operation := by
  have least (seconds : Nat) : seconds ≤ seconds * factor := Nat.le_mul_of_pos_right _ positive
  have initialFits := Nat.lt_of_le_of_lt (least initial) initialSmall
  have maximalFits := Nat.lt_of_le_of_lt (least maximal) maximalSmall
  have short {seconds : Nat} (small : seconds < 2 ^ 53) : (Span.ofSeconds seconds).Short := by
    rw [Span.Short, Span.seconds, Span.ofSeconds, Nat.mul_div_cancel _ (by decide)]
    exact Nat.lt_trans small (by decide)
  have steady : policy.Steady := by
    apply Policy.steady_of_short
    · rw [whole]
      exact (unsigned_ofRatio factor 1).isNegative_eq_false
    · exact initialSeconds ▸ short initialFits
    · exact maximalSeconds ▸ short maximalFits
  rw [run_of_steady steady]
  -- The pauses along the run are whole seconds, and small enough for the factor.
  refine attempt_congr
    (fun delay => ∃ seconds, delay = .ofSeconds seconds ∧ seconds * factor < 2 ^ 53) ?_ _
    ⟨initial, initialSeconds, initialSmall⟩
  rintro delay ⟨seconds, rfl, small⟩
  have fits := Nat.lt_of_le_of_lt (least seconds) small
  constructor
  · rw [Policy.longer, Policy.nextDelay, whole, maximalSeconds,
      Backoff.next_ofSeconds factorSmall maximalFits fits small]
  · rw [maximalSeconds, Backoff.exactNext_ofSeconds]
    exact ⟨_, rfl, Nat.lt_of_le_of_lt (Nat.mul_le_mul_right _ (Nat.min_le_right _ _)) maximalSmall⟩

/-- The pause after an attempt, the attempts counted from zero. -/
def basePause (policy : Policy) (factor : Nat) : Nat → Span
  | 0 => policy.initialDelay
  | index + 1 =>
      ⟨min (policy.initialDelay.nanoseconds * factor ^ (index + 1)) policy.maximalDelay.nanoseconds⟩

/-- A limit that cuts one pause cuts all later ones. -/
theorem exactNext_basePause {policy : Policy} {factor : Nat} (positive : 1 ≤ factor) (index : Nat) :
    Backoff.exactNext factor policy.maximalDelay (basePause policy factor index) =
      basePause policy factor (index + 1) := by
  cases index with
  | zero => simp [Backoff.exactNext, basePause]
  | succ index =>
      have least : policy.maximalDelay.nanoseconds ≤ policy.maximalDelay.nanoseconds * factor :=
        Nat.le_mul_of_pos_right _ positive
      have grown : policy.initialDelay.nanoseconds * factor ^ (index + 1) * factor =
          policy.initialDelay.nanoseconds * factor ^ (index + 1 + 1) := by
        rw [Nat.mul_assoc, ← Nat.pow_succ]
      simp only [Backoff.exactNext, basePause]
      rw [← Nat.mul_min_mul_right, grown, Nat.min_assoc, Nat.min_eq_right least]

theorem iterate_exactNext {policy : Policy} {factor : Nat} (positive : 1 ≤ factor) (count : Nat) :
    List.iterate (Backoff.exactNext factor policy.maximalDelay) policy.initialDelay count =
      (List.range count).map (basePause policy factor) := by
  have shifted (first : Nat) :
      List.iterate (Backoff.exactNext factor policy.maximalDelay) (basePause policy factor first)
        count = (List.range count).map fun index => basePause policy factor (first + index) := by
    induction count generalizing first with
    | zero => rfl
    | succ count induction =>
        rw [List.iterate, exactNext_basePause positive, induction, List.range_succ_eq_map]
        simp [Function.comp_def, Nat.add_right_comm, ← Nat.add_assoc]
  have whole := shifted 0
  simp only [Nat.zero_add] at whole
  exact whole

variable {policy : Policy} {factor : Nat}

theorem basePause_le_maximal (index : Nat) :
    (basePause policy factor (index + 1)).nanoseconds ≤ policy.maximalDelay.nanoseconds :=
  Nat.min_le_right _ _

theorem basePause_mono (positive : 1 ≤ factor) (index : Nat) :
    (basePause policy factor (index + 1)).nanoseconds ≤
      (basePause policy factor (index + 2)).nanoseconds := by
  have grown : policy.initialDelay.nanoseconds * factor ^ (index + 1) ≤
      policy.initialDelay.nanoseconds * factor ^ (index + 1 + 1) :=
    Nat.mul_le_mul_left _ (Nat.pow_le_pow_right positive (by omega))
  simp only [basePause]
  omega

theorem basePause_of_le (short : policy.initialDelay.nanoseconds ≤ policy.maximalDelay.nanoseconds)
    (index : Nat) :
    basePause policy factor index =
      ⟨min (policy.initialDelay.nanoseconds * factor ^ index) policy.maximalDelay.nanoseconds⟩ := by
  cases index with
  | zero => simp [basePause, Nat.min_eq_left short]
  | succ index => rfl

/-- Without rounding, the pauses of a run are its base pauses: the initial one, and
then the initial one times a power of the factor, or the maximal one if that is
shorter.  From the second on they never get shorter or longer than the maximal one,
and this holds of all when the initial one is no longer than the maximal one. -/
theorem pauses_grow_to_limit (handler : Handler Query Answer State) (policy : Policy)
    (factor : Nat) (repeatable : Failure → Bool)
    (operation : Program Query Answer (Except Failure Value)) (start : State)
    (outcome : Nat → Except Failure Value) (positive : 1 ≤ factor)
    (meets : Meets handler operation
      (fun count => (List.range count).map (basePause policy factor)) start outcome) :
    (∃ count, Attempts (fun index => Settles repeatable (outcome index)) policy.limit count ∧
      handler.run (exactRun policy factor repeatable operation) start =
        (.ok (outcome (count - 1)), play handler operation
          (movesOf ((List.range (count - 1)).map (basePause policy factor))) start)) ∧
      (∀ index, (basePause policy factor (index + 1)).nanoseconds ≤
        (basePause policy factor (index + 2)).nanoseconds) ∧
      (∀ index, (basePause policy factor (index + 1)).nanoseconds ≤
        policy.maximalDelay.nanoseconds) ∧
      (policy.initialDelay.nanoseconds ≤ policy.maximalDelay.nanoseconds → ∀ index,
        basePause policy factor index =
          ⟨min (policy.initialDelay.nanoseconds * factor ^ index)
            policy.maximalDelay.nanoseconds⟩ ∧
        (basePause policy factor index).nanoseconds ≤
          (basePause policy factor (index + 1)).nanoseconds) := by
  refine ⟨?_, basePause_mono positive, basePause_le_maximal, ?_⟩
  · have along : Meets handler operation
        (List.iterate (Backoff.exactNext factor policy.maximalDelay) policy.initialDelay) start
        outcome := by
      intro index
      rw [iterate_exactNext positive]
      exact meets index
    obtain ⟨count, counted, ran⟩ :=
      run_attempt repeatable (policy.attempts - 1) policy.initialDelay start along
    have limit : policy.attempts - 1 + 1 = policy.limit := by
      simp only [Policy.limit]
      omega
    rw [iterate_exactNext positive] at ran
    exact ⟨count, limit ▸ counted, ran⟩
  · intro short index
    refine ⟨basePause_of_le short index, ?_⟩
    cases index with
    | zero =>
        have grown : policy.initialDelay.nanoseconds ≤
            policy.initialDelay.nanoseconds * factor ^ (0 + 1) := by
          simpa using Nat.le_mul_of_pos_right policy.initialDelay.nanoseconds positive
        simp only [basePause]
        omega
    | succ index => exact basePause_mono positive index

end

/-- The pauses of the standard policy: a fifth of a second doubled, up to five seconds. -/
theorem standard_pauses_grow_to_limit :
    let handler : Handler Unit (fun _ => Except String Nat) Unit :=
      .ofAnswer fun _ state => (.error "down", state)
    let outcome (_ : Nat) : Except String Nat := .error "down"
    1 ≤ 2 ∧
      Meets handler (Program.query ())
        (fun count => (List.range count).map (basePause Policy.standard 2)) () outcome ∧
      ∀ index, basePause Policy.standard 2 index = ⟨min (200000000 * 2 ^ index) 5000000000⟩ := by
  intro handler outcome
  have meets : Meets handler (Program.query ())
      (fun count => (List.range count).map (basePause Policy.standard 2)) () outcome := by
    intro index
    rfl
  refine ⟨by decide, meets, ?_⟩
  obtain ⟨_, _, _, short⟩ := pauses_grow_to_limit handler Policy.standard 2 (fun _ => true)
    (Program.query ()) () outcome (by decide) meets
  intro index
  exact (short (by decide) index).1

/-- A first pause of ten seconds is not cut to the maximal one of one second. -/
theorem first_pause_beyond_limit :
    let policy : Policy := ⟨2, .ofSeconds 10, .ofSeconds 1, .ofNat 1⟩
    let handler : Handler Unit (fun _ => Except String Nat) (List Span) :=
      ⟨fun _ pauses => (.error "down", pauses), fun length pauses => pauses ++ [length]⟩
    (handler.run (exactRun policy 1 (fun _ => true) (Program.query ())) []).2 = [.ofSeconds 10] ∧
      (handler.run (run policy (fun _ => true) (Program.query ())) []).2 = [.ofSeconds 10] ∧
      min (policy.initialDelay.nanoseconds * 1 ^ 0) policy.maximalDelay.nanoseconds ≠
        (Span.ofSeconds 10).nanoseconds := by
  intro policy handler
  have exact : (handler.run (exactRun policy 1 (fun _ => true) (Program.query ())) []).2 =
      [.ofSeconds 10] := by
    rfl
  have unrounded : run policy (fun _ => true)
      (Program.query () : Program Unit (fun _ => Except String Nat) (Except String Nat)) =
      exactRun policy 1 (fun _ => true) (Program.query ()) :=
    run_eq_exactRun rfl rfl rfl (by decide) (by decide) (by decide) (by decide) _ _ _
  exact ⟨exact, unrounded ▸ exact, by decide⟩

end Retry

end Tenancy
