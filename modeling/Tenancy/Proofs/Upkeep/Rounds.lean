import Mathlib.Data.List.Forall2
import Tenancy.Proofs.Fleet.Scan
import Tenancy.Proofs.Upkeep.Young
import Tenancy.Upkeep.Loop

/-!
# The rounds of a loop

A loop takes rounds: a pass over the cluster, whose outcome is noted and decides
nothing, and then a pause, which ends with the interval or with a signal.  The
rounds of a loop have the course that its interval and its signals give it,
whatever the cluster answers.
-/

namespace Tenancy.Upkeep

open Cluster

/-- The receiving end of the channel of a loop: what it holds, whether the sending
end is gone, and the signals that are still to come. -/
structure Channel where
  flag : Bool
  dropped : Bool
  coming : Signals

/-- The last value among some signals. -/
def lastSent (signals : List Signal) : Option Bool :=
  (signals.filterMap fun
    | .send stop => some stop
    | .drop => none).getLast?

/-- A pause that starts at a time: how it ends, when, and the channel then.  A flag
that is set and a sending end that is gone are seen at once.  After them the
interval and the next signal race. -/
def Channel.await (timerFirst : Bool) (interval now : Nat) (channel : Channel) :
    Wakeup × Nat × Channel :=
  if channel.flag || channel.dropped then (.stop, now, channel)
  else
    let deadline := now + max interval 1
    match channel.coming with
    | [] => (.elapsed, deadline, channel)
    | (time, signal) :: rest =>
        let moment := max now time
        if deadline < moment ∨ (deadline = moment ∧ timerFirst) then (.elapsed, deadline, channel)
        else
          let together := signal :: (rest.takeWhile fun next => next.1 == time).map Prod.snd
          (wakeupOf together, moment, ⟨(lastSent together).getD channel.flag,
            together.contains .drop, rest.dropWhile fun next => next.1 == time⟩)

theorem wakeupOf_ne_elapsed (signals : List Signal) : wakeupOf signals ≠ .elapsed := by
  unfold wakeupOf
  intro elapsed
  simp only at elapsed
  split at elapsed <;> cases elapsed

theorem lastSent_of_nudged {signals : List Signal} (nudged : wakeupOf signals = .nudged) :
    lastSent signals = some false := by
  unfold wakeupOf at nudged
  simp only at nudged
  split at nudged
  next last => exact last
  next => cases nudged
  next => cases nudged

namespace Channel

variable {timerFirst : Bool} {interval now time : Nat} {channel after : Channel}

theorem await_elapsed (awaited : channel.await timerFirst interval now = (.elapsed, time, after)) :
    now < time ∧ after = channel := by
  unfold await at awaited
  split at awaited
  · cases awaited
  · simp only at awaited
    split at awaited
    · cases awaited
      exact ⟨by omega, rfl⟩
    · split at awaited
      · cases awaited
        exact ⟨by omega, rfl⟩
      · exact absurd (congrArg Prod.fst awaited) (wakeupOf_ne_elapsed _)

theorem await_nudged (awaited : channel.await timerFirst interval now = (.nudged, time, after)) :
    now ≤ time ∧ after.flag = false ∧ after.coming.length < channel.coming.length := by
  unfold await at awaited
  split at awaited
  · cases awaited
  · simp only at awaited
    split at awaited
    · cases awaited
    · next first signal rest coming =>
        split at awaited
        · cases awaited
        · obtain ⟨wakeup, later⟩ := Prod.mk.inj awaited
          obtain ⟨rfl, rfl⟩ := Prod.mk.inj later
          have shorter := (List.dropWhile_sublist (l := rest) fun next => next.1 == first).length_le
          refine ⟨Nat.le_max_left _ _, by rw [lastSent_of_nudged wakeup]; rfl, ?_⟩
          rw [coming, List.length_cons]
          exact Nat.lt_succ_of_le shorter

/-- The course of a loop, cycle by cycle. -/
theorem courseFrom_eq (timerFirst : Bool) (interval horizon now : Nat) (dropped : Bool)
    (signals : Signals) :
    courseFrom timerFirst interval horizon now dropped signals =
      match (⟨false, dropped, signals⟩ : Channel).await timerFirst interval now with
      | (.stop, time, _) => ⟨[now], some time⟩
      | (.elapsed, time, after) =>
          if time < horizon then
            let later := courseFrom timerFirst interval horizon time after.dropped after.coming
            ⟨now :: later.starts, later.finish⟩
          else ⟨[now], none⟩
      | (.nudged, time, after) =>
          let later := courseFrom timerFirst interval horizon time after.dropped after.coming
          ⟨now :: later.starts, later.finish⟩ := by
  rw [courseFrom]
  cases dropped with
  | true => rfl
  | false =>
      cases signals with
      | nil => rfl
      | cons first rest =>
          obtain ⟨time, signal⟩ := first
          simp only [await, Bool.or_self, Bool.false_eq_true, if_false]
          by_cases elapses : now + max interval 1 < max now time ∨
              (now + max interval 1 = max now time ∧ timerFirst)
          · simp only [if_pos elapses]
          · simp only [if_neg elapses]
            cases wakeup : wakeupOf
                (signal :: (rest.takeWhile fun next => next.1 == time).map Prod.snd) with
            | elapsed => exact absurd wakeup (wakeupOf_ne_elapsed _)
            | stop => rfl
            | nudged => rfl

end Channel

/-- What keeps a loop: the monitor, or one of the reapers. -/
inductive Duty where
  | watch
  | reap (reaper : Reaper)

/-- What a loop did: its rounds, each with the time and the outcome of its pass, and
when it ended, if it did. -/
structure Log where
  rounds : List (Nat × Except Failure Unit)
  finish : Option Nat

namespace Duty

/-- The listing that a cycle begins with. -/
def listing : Duty → Call
  | .watch => .listNamespaces
  | .reap reaper => reaper.listing

/-- One cycle.  Of its outcome only a failure of the listing shows. -/
def cycle (now : Instant) (monitor : Fleet.Monitor) :
    Duty → Calls (Except Failure Unit × Fleet.Monitor)
  | .watch => (Fleet.scan now monitor).bind fun (outcome, monitor) =>
      .done (outcome.map fun _ => (), monitor)
  | .reap reaper => (reaper.pass now).bind fun outcome => .done (outcome.map fun _ => (), monitor)

/-- The rounds of a loop from a time on, to a time at which nobody looks at it any
more.  The clock tells the instant at which a cycle starts. -/
def rounds (duty : Duty) (clock : Nat → Instant) (timerFirst : Bool) (interval horizon now : Nat)
    (channel : Channel) (monitor : Fleet.Monitor) : Calls Log :=
  (duty.cycle (clock now) monitor).bind fun (outcome, monitor) =>
    match _ : channel.await timerFirst interval now with
    | (.stop, time, _) => .done ⟨[(now, outcome)], some time⟩
    | (.elapsed, time, after) =>
        if time < horizon then
          (duty.rounds clock timerFirst interval horizon time after monitor).bind fun log =>
            .done ⟨(now, outcome) :: log.rounds, log.finish⟩
        else .done ⟨[(now, outcome)], none⟩
    | (.nudged, time, after) =>
        (duty.rounds clock timerFirst interval horizon time after monitor).bind fun log =>
          .done ⟨(now, outcome) :: log.rounds, log.finish⟩
termination_by (horizon - now) + channel.coming.length
decreasing_by
  · rename_i awaited _
    obtain ⟨later, rfl⟩ := Channel.await_elapsed awaited
    omega
  · rename_i awaited
    obtain ⟨later, _, shorter⟩ := Channel.await_nudged awaited
    omega

/-- A round, and what follows when the pause after it is known. -/
theorem rounds_eq (duty : Duty) (clock : Nat → Instant) (timerFirst : Bool)
    (interval horizon now : Nat) (channel : Channel) (monitor : Fleet.Monitor) :
    duty.rounds clock timerFirst interval horizon now channel monitor =
      (duty.cycle (clock now) monitor).bind fun result =>
        match channel.await timerFirst interval now with
        | (.stop, time, _) => .done ⟨[(now, result.1)], some time⟩
        | (.elapsed, time, after) =>
            if time < horizon then
              (duty.rounds clock timerFirst interval horizon time after result.2).bind fun log =>
                .done ⟨(now, result.1) :: log.rounds, log.finish⟩
            else .done ⟨[(now, result.1)], none⟩
        | (.nudged, time, after) =>
            (duty.rounds clock timerFirst interval horizon time after result.2).bind fun log =>
              .done ⟨(now, result.1) :: log.rounds, log.finish⟩ := by
  rw [rounds]
  apply congrArg (Program.bind · (duty.cycle (clock now) monitor))
  funext result
  obtain ⟨outcome, kept⟩ := result
  simp only
  split
  · next awaited => simp only [awaited]
  · next awaited => simp only [awaited]
  · next awaited => simp only [awaited]

/-- The loop from its start, with an interval in milliseconds. -/
def loop (duty : Duty) (clock : Nat → Instant) (timerFirst : Bool) (interval horizon : Nat)
    (stopped : Bool) (signals : Signals) (monitor : Fleet.Monitor) : Calls Log :=
  duty.rounds clock timerFirst (timerMilliseconds interval) horizon 0 ⟨stopped, false, signals⟩
    monitor

end Duty

/-- The exchanges of a cycle: its listing and then other calls.  The outcome of the
cycle is the one of the listing. -/
def CycleOf (duty : Duty) (outcome : Except Failure Unit) (exchanges : List Exchange) : Prop :=
  ∃ answer rest, exchanges = ⟨duty.listing, answer⟩ :: rest ∧
    (∀ exchange ∈ rest, exchange.1 ≠ duty.listing) ∧ outcome = answer.map fun _ => ()

/-- A log has the times of a course, and what was asked are the exchanges of its
cycles one after the other. -/
structure LogOf (duty : Duty) (course : Course) (past : List Exchange) (log : Log)
    (history : List Exchange) : Prop where
  times : log.rounds.map Prod.fst = course.starts
  finish : log.finish = course.finish
  passes : ∃ blocks : List (List Exchange), history = past ++ blocks.flatten ∧
    List.Forall₂ (fun round exchanges => CycleOf duty round.2 exchanges) log.rounds blocks

/-- Any call may be made, and any answer come. -/
def anything : Setting Call Call.Answer (List Exchange) := recording fun _ _ => True

section

variable {now : Instant} {past : List Exchange}

/-- Exchanges without a call. -/
def Lacks (call : Call) (exchanges : List Exchange) : Prop :=
  ∀ exchange ∈ exchanges, exchange.1 ≠ call

theorem ensures_deletions (listing : Call) {delete : String → Calls (Except Failure Unit)}
    (each : ∀ name past, (delete name).Ensures anything False
      (fun _ history => ∃ exchange, history = past ++ [exchange] ∧ exchange.1 ≠ listing) past)
    (names : List String) :
    (deleteAll delete names).Ensures anything False
      (fun _ history => ∃ rest, history = past ++ rest ∧ Lacks listing rest) past := by
  apply ensures_deleteAll
  · intro name _member history sofar
    obtain ⟨rest, rfl, lacks⟩ := sofar
    refine (each name _).mono ?_
    intro answer after made
    obtain ⟨exchange, rfl, other⟩ := made
    refine ⟨rest ++ [exchange], List.append_assoc _ _ _, ?_⟩
    intro each member
    rcases List.mem_append.1 member with early | last
    · exact lacks each early
    · rw [List.mem_singleton.1 last]
      exact other
  · exact ⟨[], by simp, by simp [Lacks]⟩

theorem ensures_pass (reaper : Reaper) :
    (reaper.pass now).Ensures anything False
      (fun outcome history => ∃ exchanges, history = past ++ exchanges ∧
        CycleOf (.reap reaper) (outcome.map fun _ => ()) exchanges) past := by
  cases reaper with
  | namespaces hours =>
      refine ⟨trivial, ?_⟩
      intro answer after same
      subst same
      cases answer with
      | error cause => exact ⟨_, rfl, .error cause, [], rfl, by simp, rfl⟩
      | ok listing =>
          simp only [Program.bind]
          rw [Program.ensures_bind]
          refine (ensures_deletions .listNamespaces ?_ _).mono ?_
          · intro name past
            exact ⟨trivial, fun answer after same => ⟨_, same, by simp⟩⟩
          · intro deleted history made
            obtain ⟨rest, rfl, lacks⟩ := made
            exact ⟨_, List.append_assoc _ _ _, .ok listing, rest, rfl, lacks, rfl⟩
  | pods rule =>
      refine ⟨trivial, ?_⟩
      intro answer after same
      subst same
      cases answer with
      | error cause => exact ⟨_, rfl, .error cause, [], rfl, by simp, rfl⟩
      | ok listing =>
          simp only [Program.bind]
          rw [Program.ensures_bind]
          refine (ensures_deletions (.listPods rule.space (some rule.labelKey)) ?_ _).mono
            ?_
          · intro name past
            exact ⟨trivial, fun answer after same => ⟨_, same, by simp⟩⟩
          · intro deleted history made
            obtain ⟨rest, rfl, lacks⟩ := made
            exact ⟨_, List.append_assoc _ _ _, .ok listing, rest, rfl, lacks, rfl⟩

/-- Every cycle begins with its listing, and its outcome tells only of that. -/
theorem ensures_cycle (duty : Duty) (monitor : Fleet.Monitor) :
    (duty.cycle now monitor).Ensures anything False
      (fun result history => ∃ exchanges, history = past ++ exchanges ∧
        CycleOf duty result.1 exchanges) past := by
  cases duty with
  | watch =>
      rw [Duty.cycle, Program.ensures_bind]
      refine Program.Ensures.mono
        (Fleet.ensures_scan (fun _ => trivial) (fun _ _ => trivial) monitor past) ?_
      intro result history scanned
      obtain ⟨outcome, after⟩ := result
      obtain ⟨exchanges, rfl, scanned⟩ := scanned
      refine ⟨exchanges, rfl, ?_⟩
      cases scanned with
      | skipped failure => exact ⟨.error failure, [], rfl, by simp, rfl⟩
      | done surveyed =>
          refine ⟨.ok _, _, rfl, ?_, rfl⟩
          intro exchange member
          have asked : exchange.1 ∈ _ := List.mem_map_of_mem member
          rw [surveyed.asked] at asked
          obtain ⟨workspace, _, same⟩ := List.mem_map.1 asked
          rw [← same]
          exact Call.noConfusion
  | reap reaper =>
      rw [Duty.cycle, Program.ensures_bind]
      exact (ensures_pass reaper).mono fun _ _ passed => passed

/-- A log that goes on after its first round. -/
theorem LogOf.after {duty : Duty} {later : Course} {history exchanges : List Exchange} {log : Log}
    {time : Nat} {outcome : Except Failure Unit}
    (logged : LogOf duty later (past ++ exchanges) log history)
    (cycled : CycleOf duty outcome exchanges) :
    LogOf duty ⟨time :: later.starts, later.finish⟩ past
      ⟨(time, outcome) :: log.rounds, log.finish⟩ history := by
  obtain ⟨blocks, rfl, passes⟩ := logged.passes
  exact ⟨by simp [logged.times], logged.finish, exchanges :: blocks, by simp, .cons cycled passes⟩

theorem logOf_single {duty : Duty} {time : Nat} {outcome : Except Failure Unit}
    {exchanges : List Exchange} (cycled : CycleOf duty outcome exchanges) (finish : Option Nat) :
    LogOf duty ⟨[time], finish⟩ past ⟨[(time, outcome)], finish⟩ (past ++ exchanges) :=
  ⟨rfl, rfl, [exchanges], by simp, .cons cycled .nil⟩

/-- The rounds take their course, whatever the outcomes of the cycles are. -/
theorem ensures_rounds (duty : Duty) (clock : Nat → Instant) (timerFirst : Bool)
    (interval horizon now : Nat) (channel : Channel) (monitor : Fleet.Monitor)
    (unset : channel.flag = false) :
    (duty.rounds clock timerFirst interval horizon now channel monitor).Ensures anything False
      (LogOf duty
        (courseFrom timerFirst interval horizon now channel.dropped channel.coming) past) past := by
  generalize size : (horizon - now) + channel.coming.length = measure
  induction measure using Nat.strongRecOn generalizing now channel monitor past with
  | _ measure induction =>
      obtain ⟨flag, dropped, coming⟩ := channel
      obtain rfl : flag = false := unset
      simp only at size
      rw [Duty.rounds_eq, Program.ensures_bind, Channel.courseFrom_eq]
      refine (ensures_cycle duty monitor).mono ?_
      intro result history cycled
      obtain ⟨outcome, kept⟩ := result
      obtain ⟨exchanges, rfl, cycled⟩ := cycled
      simp only
      split
      · next time after awaited =>
          exact logOf_single cycled (some time)
      · next time after awaited =>
          obtain ⟨later, rfl⟩ := Channel.await_elapsed awaited
          by_cases seen : time < horizon
          · rw [if_pos seen, if_pos seen, Program.ensures_bind]
            refine (induction _ ?_ time _ kept rfl rfl).mono ?_
            · simp only
              omega
            · intro log history logged
              exact logged.after cycled
          · rw [if_neg seen, if_neg seen]
            exact logOf_single cycled none
      · next time after awaited =>
          obtain ⟨later, still, shorter⟩ := Channel.await_nudged awaited
          rw [Program.ensures_bind]
          refine (induction _ ?_ time after kept still rfl).mono ?_
          · simp only at shorter
            omega
          · intro log history logged
            exact logged.after cycled

/-- A loop takes its course, whatever the outcomes of its cycles are. -/
theorem ensures_loop (duty : Duty) (clock : Nat → Instant) (timerFirst : Bool)
    (interval horizon : Nat) (stopped : Bool) (signals : Signals) (monitor : Fleet.Monitor) :
    (duty.loop clock timerFirst interval horizon stopped signals monitor).Ensures anything False
      (LogOf duty (course timerFirst interval horizon stopped signals) past) past := by
  cases stopped with
  | false =>
      exact ensures_rounds duty clock timerFirst _ horizon 0 ⟨false, false, signals⟩ monitor rfl
  | true =>
      rw [Duty.loop, Duty.rounds, Program.ensures_bind]
      refine (ensures_cycle duty monitor).mono ?_
      intro result history cycled
      obtain ⟨exchanges, rfl, cycled⟩ := cycled
      exact logOf_single cycled (some 0)

end

end Tenancy.Upkeep
