import Tenancy.Proofs.Guarantee
import Tenancy.Proofs.Retry.Steady

/-!
# The course of repeated attempts

Which outcomes the attempts of a policy can have, one after the other, and what
a policy ensures of an operation that it repeats.  Under a steady policy every
run of attempts ends with an outcome.
-/

namespace Tenancy

namespace Retry

def Policy.limit (policy : Policy) : Nat := max 1 policy.attempts

/-- Outcomes of successive attempts up to a limit: all but the last are
failures that repeating may mend, and the last is one only at the limit. -/
structure Retried {Failure Value : Type} (repeatable : Failure → Bool) (limit : Nat)
    (outcomes : List (Except Failure Value)) : Prop where
  started : outcomes ≠ []
  bounded : outcomes.length ≤ limit
  mended : ∀ outcome ∈ outcomes.dropLast,
    ∃ failure, outcome = .error failure ∧ repeatable failure = true
  settled : ∀ failure, outcomes.getLast? = some (.error failure) →
    repeatable failure = true → outcomes.length = limit

/-- How many attempts there are when it is known which ones settle the matter: up to
the first of these, and no more than the limit. -/
structure Attempts (settles : Nat → Prop) (limit count : Nat) : Prop where
  started : 0 < count
  bounded : count ≤ limit
  unsettled : ∀ index, index + 1 < count → ¬settles index
  last : count = limit ∨ settles (count - 1)

theorem Attempts.count_eq {settles : Nat → Prop} {limit count index : Nat}
    (counted : Attempts settles limit count) (within : index < limit)
    (unsettled : ∀ earlier, earlier < index → ¬settles earlier) (settled : settles index) :
    count = index + 1 := by
  have started := counted.started
  rcases Nat.lt_trichotomy count (index + 1) with fewer | same | more
  · rcases counted.last with exhausted | earlier
    · omega
    · exact absurd earlier (unsettled _ (by omega))
  · exact same
  · exact absurd settled (counted.unsettled index more)

section

variable {Query : Type} {Answer : Query → Type} {Value Failure State : Type}
variable {setting : Setting Query Answer State} {mayFault : Prop}
variable {goal : Except Failure Value → State → Prop}
variable {repeatable : Failure → Bool} {operation : Program Query Answer (Except Failure Value)}

/-- Rests do not show, and one attempt leads to the goal, or to the invariant for one
attempt fewer. -/
theorem ensures_attempt {rest : Nat → Span → Program Query Answer Span}
    (invariant : Nat → State → Prop)
    (quiet : ∀ (kept : State → Prop) more delay state, kept state →
      (rest more delay).Ensures setting mayFault (fun _ after => kept after) state)
    (once : ∀ more state, invariant more state → operation.Ensures setting mayFault
      (fun outcome after =>
        match outcome with
        | .ok value => goal (.ok value) after
        | .error failure =>
            if more = 0 ∨ repeatable failure = false then goal (.error failure) after
            else invariant (more - 1) after) state)
    (more : Nat) (delay : Span) (state : State) (holds : invariant more state) :
    (attempt repeatable rest operation more delay).Ensures setting mayFault goal state := by
  induction more generalizing delay state with
  | zero =>
      refine (once 0 state holds).mono ?_
      intro outcome after reached
      cases outcome with
      | ok value => exact reached
      | error failure => simpa using reached
  | succ more induction =>
      rw [attempt, Program.ensures_bind]
      refine (once (more + 1) state holds).mono ?_
      intro outcome after reached
      cases outcome with
      | ok value => exact reached
      | error failure =>
          by_cases mendable : repeatable failure = true
          · have remaining : invariant more after := by simpa [mendable] using reached
            simp only [mendable, if_true]
            rw [Program.ensures_bind]
            refine (quiet (invariant more) more delay after remaining).mono ?_
            intro longer rested kept
            exact induction longer rested kept
          · have permanent : repeatable failure = false := by simpa using mendable
            have settled : goal (.error failure) after := by simpa [permanent] using reached
            simp only [permanent]
            exact settled

/-- What a run comes to when one attempt leads to the goal, or to the invariant for one
attempt fewer.  It faults at most where the policy is not steady. -/
theorem ensures_run_counted {policy : Policy} {draws : Nat → Jitter}
    (invariant : Nat → State → Prop) (excused : ¬policy.Steady → mayFault)
    (once : ∀ more state, invariant more state → operation.Ensures setting mayFault
      (fun outcome after =>
        match outcome with
        | .ok value => goal (.ok value) after
        | .error failure =>
            if more = 0 ∨ repeatable failure = false then goal (.error failure) after
            else invariant (more - 1) after) state)
    {state : State} (holds : invariant (policy.attempts - 1) state) :
    (run policy repeatable operation draws).Ensures setting mayFault goal state := by
  by_cases steady : policy.Steady
  · rw [run_of_steady steady]
    refine ensures_attempt invariant ?_ once _ _ _ holds
    intro kept more delay before keeps
    exact keeps
  · refine ensures_attempt invariant ?_ once _ _ _ holds
    intro kept more delay before keeps
    rw [Policy.rest, Program.ensures_bind]
    have faulty : mayFault := excused steady
    cases jittered (draws more) delay with
    | error fault => exact faulty
    | ok length =>
        cases grown : policy.nextDelay delay with
        | error fault => exact faulty
        | ok longer => exact keeps

/-- An operation that keeps an invariant whenever it fails keeps it when it is
repeated. -/
theorem ensures_run {policy : Policy} {draws : Nat → Jitter} (invariant : State → Prop)
    (excused : ¬policy.Steady → mayFault)
    (once : ∀ state, invariant state → operation.Ensures setting mayFault
      (fun outcome after =>
        goal outcome after ∧ ∀ failure, outcome = .error failure → invariant after) state)
    {state : State} (holds : invariant state) :
    (run policy repeatable operation draws).Ensures setting mayFault goal state := by
  refine ensures_run_counted (fun _ => invariant) excused ?_ holds
  intro more before kept
  refine (once before kept).mono ?_
  intro outcome after both
  obtain ⟨reached, keeps⟩ := both
  cases outcome with
  | ok value => exact reached
  | error failure =>
      by_cases final : more = 0 ∨ repeatable failure = false
      · simpa only [if_pos final] using reached
      · simpa only [if_neg final] using keeps failure rfl

/-- What a policy does with an operation of which it is known what each attempt
comes to and in which state it leaves off. -/
theorem ensures_run_foretold {policy : Policy} {draws : Nat → Jitter} {settles : Nat → Prop}
    (states : Nat → State) (comes : Nat → Except Failure Value → Prop)
    (settles_iff : ∀ index outcome, comes index outcome →
      (settles index ↔ ∀ failure, outcome = .error failure → repeatable failure = false))
    (excused : ¬policy.Steady → mayFault)
    (once : ∀ index, operation.Ensures setting mayFault
      (fun outcome after => comes index outcome ∧ after = states (index + 1)) (states index)) :
    (run policy repeatable operation draws).Ensures setting mayFault
      (fun outcome after => ∃ count, Attempts settles policy.limit count ∧
        comes (count - 1) outcome ∧ after = states count) (states 0) := by
  -- The invariant: none of the attempts so far settled the matter, and together
  -- with those that are left they make up the limit.
  refine ensures_run_counted (fun more state => ∃ index, state = states index ∧
    (∀ earlier, earlier < index → ¬settles earlier) ∧ index + more + 1 = policy.limit)
    excused ?_ ?_
  · intro more state holds
    obtain ⟨index, rfl, unsettled, counted⟩ := holds
    refine (once index).mono ?_
    intro outcome after tried
    obtain ⟨came, rfl⟩ := tried
    have settled := settles_iff index outcome came
    have finished (last : more = 0 ∨ settles index) : ∃ count,
        Attempts settles policy.limit count ∧ comes (count - 1) outcome ∧
          states (index + 1) = states count := by
      refine ⟨index + 1, ⟨by omega, by omega, ?_, ?_⟩, came, rfl⟩
      · intro earlier before
        exact unsettled earlier (by omega)
      · exact last.imp (by omega) id
    cases outcome with
    | ok value => exact finished (.inr (settled.2 (by simp)))
    | error failure =>
        have permanent : settles index ↔ repeatable failure = false := by simpa using settled
        by_cases final : more = 0 ∨ repeatable failure = false
        · simp only [if_pos final]
          exact finished (final.imp_right permanent.2)
        · simp only [if_neg final]
          refine ⟨index + 1, rfl, ?_, by omega⟩
          intro earlier before
          rcases Nat.lt_succ_iff_lt_or_eq.1 before with less | rfl
          · exact unsettled earlier less
          · exact fun now => final (.inr (permanent.1 now))
  · refine ⟨0, rfl, by simp, ?_⟩
    simp [Policy.limit]
    omega

end

/-- Failures that repeating may mend, and an attempt that is the last one. -/
theorem retried_append {Failure Value Trial : Type} {repeatable : Failure → Bool}
    {outcome : Trial → Except Failure Value} {failed : List Trial} {trial : Trial}
    {more limit : Nat}
    (mendable : ∀ trial ∈ failed,
      ∃ failure, outcome trial = .error failure ∧ repeatable failure = true)
    (counted : failed.length + more + 1 = limit)
    (last : ∀ failure, outcome trial = .error failure → repeatable failure = true → more = 0) :
    Retried repeatable limit ((failed ++ [trial]).map outcome) := by
  constructor
  · simp
  · simp
    omega
  · intro earlier member
    obtain ⟨before, present, rfl⟩ : ∃ before ∈ failed, outcome before = earlier := by
      simpa using member
    exact mendable before present
  · intro failure final repeats
    have exhausted := last failure (by simpa using final) repeats
    simp
    omega

section

open Cluster

variable {Value Failure Trial : Type}
variable {repeatable : Failure → Bool} {operation : Calls (Except Failure Value)}

/-- What a policy does with an operation whose attempts are known: the history
grows by the exchanges of the attempts, in their order, and the last outcome is
the outcome. -/
theorem ensures_run_recorded {admits : List Exchange → Call → Prop} {mayFault : Prop}
    {policy : Policy} {draws : Nat → Jitter} (exchanges : Trial → List Exchange)
    (outcome : Trial → Except Failure Value) (start : List Exchange)
    (excused : ¬policy.Steady → mayFault)
    (once : ∀ failed : List Trial,
      (∀ trial ∈ failed, ∃ failure, outcome trial = .error failure) →
        operation.Ensures (recording admits) mayFault
          (fun result history => ∃ trial, result = outcome trial ∧
            history = start ++ failed.flatMap exchanges ++ exchanges trial)
          (start ++ failed.flatMap exchanges)) :
    (run policy repeatable operation draws).Ensures (recording admits) mayFault
      (fun result history => ∃ trials : List Trial,
        Retried repeatable policy.limit (trials.map outcome) ∧
          (trials.map outcome).getLast? = some result ∧
          history = start ++ trials.flatMap exchanges)
      start := by
  -- The invariant: so far only failures that repeating may mend, and together
  -- with the attempts that are left they make up the limit.
  refine ensures_run_counted (fun more history => ∃ failed : List Trial,
    (∀ trial ∈ failed, ∃ failure, outcome trial = .error failure ∧ repeatable failure = true) ∧
      history = start ++ failed.flatMap exchanges ∧ failed.length + more + 1 = policy.limit)
    excused ?_ ?_
  · intro more history holds
    obtain ⟨failed, mendable, rfl, counted⟩ := holds
    have erroneous : ∀ trial ∈ failed, ∃ failure, outcome trial = .error failure := by
      intro trial member
      obtain ⟨failure, failing, _⟩ := mendable trial member
      exact ⟨failure, failing⟩
    refine (once failed erroneous).mono ?_
    intro result history tried
    obtain ⟨trial, rfl, rfl⟩ := tried
    have finished : (∀ failure, outcome trial = .error failure → repeatable failure = true →
          more = 0) →
        ∃ trials : List Trial, Retried repeatable policy.limit (trials.map outcome) ∧
          (trials.map outcome).getLast? = some (outcome trial) ∧
          start ++ failed.flatMap exchanges ++ exchanges trial =
            start ++ trials.flatMap exchanges := by
      intro last
      exact ⟨failed ++ [trial], retried_append mendable counted last, by simp, by simp⟩
    cases result : outcome trial with
    | ok value =>
        rw [result] at finished
        exact finished (by simp)
    | error failure =>
        rw [result] at finished
        by_cases final : more = 0 ∨ repeatable failure = false
        · simp only [if_pos final]
          apply finished
          intro other same repeats
          cases same
          simpa [repeats] using final
        · simp only [if_neg final]
          have positive : more ≠ 0 := fun zero => final (.inl zero)
          have repeats : repeatable failure = true := by
            simpa using fun permanent => final (.inr permanent)
          refine ⟨failed ++ [trial], ?_, by simp, ?_⟩
          · intro each member
            rcases List.mem_append.1 member with earlier | now
            · exact mendable each earlier
            · rw [List.mem_singleton.1 now]
              exact ⟨failure, result, repeats⟩
          · simp
            omega
  · refine ⟨[], by simp, by simp, ?_⟩
    simp [Policy.limit]
    omega

end

end Retry

end Tenancy
