import Tenancy.Proofs.Upkeep.Rounds

/-!
# Loops keep their period

A loop that is told to stop at some time starts its cycles at the multiples of its
period until then, whatever they come to, and ends at that time.  Its period is its
interval, but never longer than the longest timer runs.
-/

namespace Tenancy.Upkeep

open Cluster

/-- A loop is told to stop once: its flag is set before it starts or at some time, or
the sending end of its channel is dropped at that time. -/
inductive Shutdown : (time : Nat) → (stopped : Bool) → Signals → Prop where
  | before (signals : Signals) : Shutdown 0 true signals
  | set (time : Nat) : Shutdown time false [(time, .send true)]
  | setThenDropped {time later : Nat} (after : time ≤ later) :
      Shutdown time false [(time, .send true), (later, .drop)]
  | dropped (time : Nat) : Shutdown time false [(time, .drop)]

/-- Times that are the multiples of a period below the time of a stop, and perhaps that
time itself.  Zero is always one of them. -/
structure OnTime (period stop : Nat) (starts : List Nat) : Prop where
  multiples : starts = (List.range starts.length).map fun index => index * period
  first : 0 < starts.length
  complete : ∀ index, index * period < stop → index < starts.length
  within : ∀ index, index < starts.length → index * period ≤ stop

/-- The period of a loop in milliseconds, for an interval in seconds. -/
def periodOf (seconds : Nat) : Nat :=
  min (seconds * 1000) Span.longestTimer.coveringMilliseconds

theorem timerMilliseconds_eq (seconds : Nat) :
    timerMilliseconds (seconds * 1000) = periodOf seconds := by
  simp only [timerMilliseconds, Span.coveringMilliseconds, Span.onTimer, Span.ofMilliseconds,
    Span.longestTimer, Span.ofSeconds, periodOf]
  omega

theorem periodOf_pos {seconds : Nat} (positive : 0 < seconds) : 0 < periodOf seconds := by
  have longest : 0 < Span.longestTimer.coveringMilliseconds := by decide
  unfold periodOf
  omega

/-- The signals of a time, when the first signal is of that time. -/
def together (time : Nat) (signal : Signal) (rest : Signals) : List Signal :=
  signal :: (rest.takeWhile fun next => next.1 == time).map Prod.snd

/-- From a cycle on, cycles start a period apart until the time of the signals that stop
the loop. -/
theorem courseFrom_stopping (timerFirst : Bool) {period horizon now time : Nat} {signal : Signal}
    {rest : Signals} (positive : 0 < period) (stops : wakeupOf (together time signal rest) = .stop)
    (ahead : now ≤ time) (seen : time < horizon) :
    ∃ more, courseFrom timerFirst period horizon now false ((time, signal) :: rest) =
        ⟨(List.range (more + 1)).map fun index => now + index * period, some time⟩ ∧
      (∀ index, now + index * period < time → index ≤ more) ∧ now + more * period ≤ time := by
  generalize left : time - now = measure
  induction measure using Nat.strongRecOn generalizing now with
  | _ measure induction =>
      have deadline : now + max period 1 = now + period := by omega
      have moment : max now time = time := by omega
      rw [courseFrom]
      simp only [Bool.false_eq_true, if_false, deadline, moment]
      by_cases elapses : now + period < time ∨ (now + period = time ∧ timerFirst)
      · have reached : now + period ≤ time := by omega
        obtain ⟨more, course, complete, within⟩ :=
          induction (time - (now + period)) (by omega) reached rfl
        rw [if_pos elapses, if_pos (Nat.lt_of_le_of_lt reached seen), course]
        have shifted (index : Nat) :
            now + (index + 1) * period = now + period + index * period := by
          rw [Nat.succ_mul, Nat.add_comm (index * period), Nat.add_assoc]
        refine ⟨more + 1, ?_, ?_, ?_⟩
        · rw [List.range_succ_eq_map (n := more + 1)]
          simp [Function.comp_def, shifted]
        · intro index early
          cases index with
          | zero => omega
          | succ index =>
              rw [shifted] at early
              have last := complete index early
              omega
        · rw [shifted]
          exact within
      · unfold together at stops
        simp only [if_neg elapses, stops]
        refine ⟨0, by simp, ?_, by omega⟩
        intro index early
        by_contra later
        have least : period ≤ index * period := Nat.le_mul_of_pos_left _ (by omega)
        have passed : ¬now + period < time := fun before => elapses (.inl before)
        omega

/-- A loop that is told to stop keeps its period. -/
theorem course_onTime (timerFirst : Bool) {stopped : Bool} {seconds time horizon : Nat}
    {signals : Signals} (positive : 0 < seconds) (shutdown : Shutdown time stopped signals)
    (seen : time < horizon) :
    ∃ starts, course timerFirst (seconds * 1000) horizon stopped signals = ⟨starts, some time⟩ ∧
      OnTime (periodOf seconds) time starts := by
  have stopping {signal : Signal} {rest : Signals}
      (stops : wakeupOf (together time signal rest) = .stop) :
      ∃ starts, course timerFirst (seconds * 1000) horizon false ((time, signal) :: rest) =
        ⟨starts, some time⟩ ∧ OnTime (periodOf seconds) time starts := by
    obtain ⟨more, course, complete, within⟩ := courseFrom_stopping timerFirst
      (periodOf_pos positive) stops (Nat.zero_le time) seen
    simp only [Nat.zero_add] at course complete within
    refine ⟨(List.range (more + 1)).map fun index => index * periodOf seconds, ?_, by simp, by simp,
      ?_, ?_⟩
    · rw [Upkeep.course, if_neg Bool.false_ne_true, timerMilliseconds_eq]
      exact course
    · intro index early
      simpa using Nat.lt_succ_of_le (complete index early)
    · intro index made
      have bounded : index ≤ more := by simpa [Nat.lt_succ_iff] using made
      exact Nat.le_trans (Nat.mul_le_mul_right _ bounded) within
  cases shutdown with
  | before signals =>
      refine ⟨[0], rfl, by simp, by simp, by simp, ?_⟩
      intro index made
      simp only [List.length_singleton, Nat.lt_one_iff] at made
      simp [made]
  | set => exact stopping rfl
  | dropped => exact stopping rfl
  | @setThenDropped _ later after =>
      apply stopping
      by_cases same : later = time <;> simp [together, same] <;> rfl

/-- A loop that is told to stop starts its cycles at the multiples of its period until
then, the first of them at once in any case, and ends at the time of the stop.  Whichever
loop it is, whatever the clock shows and the cluster answers, these are the times of its
rounds, every round makes its pass, and the outcomes change nothing. -/
theorem loops_keep_period (seconds time horizon : Nat) (timerFirst stopped : Bool)
    (signals : Signals) (positive : 0 < seconds) (shutdown : Shutdown time stopped signals)
    (seen : time < horizon) :
    ∃ starts, OnTime (periodOf seconds) time starts ∧
      course timerFirst (seconds * 1000) horizon stopped signals = ⟨starts, some time⟩ ∧
      ∀ (duty : Duty) (clock : Nat → Instant) (monitor : Fleet.Monitor) (State : Type)
        (plane : Plane State) (state : State), ∃ log history finish,
          (recorded plane).run
              (duty.loop clock timerFirst (seconds * 1000) horizon stopped signals monitor)
              ⟨[], state⟩ = (.ok log, ⟨history, finish⟩) ∧
            LogOf duty ⟨starts, some time⟩ [] log history := by
  obtain ⟨starts, taken, onTime⟩ := course_onTime timerFirst positive shutdown seen
  refine ⟨starts, onTime, taken, ?_⟩
  intro duty clock monitor State plane state
  have looped := @ensures_loop [] duty clock timerFirst (seconds * 1000) horizon stopped signals
    monitor
  obtain ⟨result, history, finish, ran, _, reached, steady⟩ :=
    @run_recording _ _ plane _ _ _ _ _ looped state
  cases result with
  | error fault => exact (steady fault rfl).elim
  | ok log => exact ⟨log, history, finish, ran, taken ▸ reached log rfl⟩

/-- Two and a half seconds have room for three cycles a second apart. -/
theorem loops_keep_period_of_a_second :
    0 < 1 ∧ Shutdown 2500 false [(2500, .send true)] ∧ 2500 < 3000 ∧
      course false 1000 3000 false [(2500, .send true)] = ⟨[0, 1000, 2000], some 2500⟩ := by
  refine ⟨by decide, .set 2500, by decide, ?_⟩
  obtain ⟨starts, onTime, taken, _⟩ := loops_keep_period 1 2500 3000 false false
    [(2500, .send true)] (by decide) (.set 2500) (by decide)
  have period : periodOf 1 = 1000 := by decide
  rw [period] at onTime
  have least := onTime.complete 2 (by decide)
  have most : ¬3 < starts.length := by
    intro more
    have late := onTime.within 3 more
    omega
  have count : starts.length = 3 := by omega
  have times := onTime.multiples
  rw [count] at times
  rw [Nat.one_mul] at taken
  rw [taken, times]
  rfl

/-- The timer of a longer interval ends after thirty years. -/
theorem interval_cut_to_thirty_years :
    ¬OnTime (1000000000000 * 1000) 1000000000000
      (course false (1000000000000 * 1000) 2000000000000 false [(1000000000000, .send true)]).starts
    := by
  intro regular
  have positive : 0 < 1000000000000 := by decide
  obtain ⟨starts, taken, onTime⟩ := course_onTime false positive (.set 1000000000000)
    (by decide : 1000000000000 < 2000000000000)
  rw [taken] at regular
  have second : 1 < starts.length := onTime.complete 1 (by decide)
  exact absurd (regular.within 1 second) (by decide)

end Tenancy.Upkeep
