import Tenancy.Cluster.Script

/-!
# What programs guarantee

A setting says what a program may ask in a state and which answers it may get
there.  A program ensures a goal in a setting when every course through it asks
only what the setting admits and ends in the goal.  What a program ensures
carries over to every handler whose answers the setting foresees, whether the
state is that handler's own, a history of calls or what one party can know
among others.
-/

namespace Tenancy

/-- What a program may ask in a state, and the answers that a question may get
there, each with the state that follows. -/
structure Setting (Query : Type) (Answer : Query → Type) (State : Type) where
  admits : State → Query → Prop
  answers : State → (query : Query) → Answer query → State → Prop

namespace Program

variable {Query : Type} {Answer : Query → Type} {Value Other State : Type}
variable {setting : Setting Query Answer State} {mayFault : Prop}

/-- Whatever answers come, the program asks only what the setting admits, ends
in the goal when it ends with a value, and faults only where it may. -/
def Ensures (setting : Setting Query Answer State) (mayFault : Prop)
    (goal : Value → State → Prop) : Program Query Answer Value → State → Prop
  | .done value, state => goal value state
  | .fault _, _ => mayFault
  | .pause _ rest, state => rest.Ensures setting mayFault goal state
  | .ask query rest, state =>
      setting.admits state query ∧
        ∀ answer after, setting.answers state query answer after →
          (rest answer).Ensures setting mayFault goal after

theorem Ensures.mono {goal wider : Value → State → Prop}
    {program : Program Query Answer Value} {state : State}
    (ensured : program.Ensures setting mayFault goal state)
    (covers : ∀ value after, goal value after → wider value after) :
    program.Ensures setting mayFault wider state := by
  induction program generalizing state with
  | done value => exact covers value state ensured
  | fault => exact ensured
  | pause length rest induction => exact induction ensured
  | ask query rest induction =>
      refine ⟨ensured.1, ?_⟩
      intro answer after possible
      exact induction answer (ensured.2 answer after possible)

theorem ensures_bind {goal : Other → State → Prop} {program : Program Query Answer Value}
    {next : Value → Program Query Answer Other} {state : State} :
    (program.bind next).Ensures setting mayFault goal state ↔
      program.Ensures setting mayFault
        (fun value after => (next value).Ensures setting mayFault goal after) state := by
  induction program generalizing state with
  | done value => exact Iff.rfl
  | fault => exact Iff.rfl
  | pause length rest induction => exact induction
  | ask query rest induction =>
      apply and_congr_right
      intro _admitted
      apply forall_congr'
      intro answer
      apply forall_congr'
      intro after
      exact imp_congr_right fun _possible => induction answer

theorem ensures_map {goal : Other → State → Prop} {program : Program Query Answer Value}
    {function : Value → Other} {state : State} :
    (function <$> program).Ensures setting mayFault goal state ↔
      program.Ensures setting mayFault
        (fun value after => goal (function value) after) state := by
  change (program.bind fun value => .done (function value)).Ensures _ _ _ _ ↔ _
  exact ensures_bind

/-- An invariant that every answer keeps may be used to admit the questions,
and holds where the program ends. -/
theorem Ensures.within {admits : State → Query → Prop} {goal : Value → State → Prop}
    {invariant : State → Prop} {program : Program Query Answer Value} {state : State}
    (ensured : program.Ensures setting mayFault goal state) (holds : invariant state)
    (kept : ∀ state query answer after, invariant state →
      setting.answers state query answer after → invariant after)
    (admitted : ∀ state query, invariant state →
      setting.admits state query → admits state query) :
    program.Ensures { setting with admits } mayFault
      (fun value after => goal value after ∧ invariant after) state := by
  induction program generalizing state with
  | done value => exact ⟨ensured, holds⟩
  | fault => exact ensured
  | pause length rest induction => exact induction ensured holds
  | ask query rest induction =>
      refine ⟨admitted state query holds ensured.1, ?_⟩
      intro answer after possible
      exact induction answer (ensured.2 answer after possible)
        (kept state query answer after holds possible)

end Program

namespace Handler

variable {Query : Type} {Answer : Query → Type} {Value State Actual : Type}

/-- A setting foresees a handler when it lets every answer of the handler
happen, as seen through a relation between the handler's states and its own.
Pauses must not show. -/
structure Foreseen (handler : Handler Query Answer Actual)
    (setting : Setting Query Answer State) (shows : Actual → State → Prop) : Prop where
  answer : ∀ actual state query, shows actual state →
    ∃ after, setting.answers state query (handler.answer query actual).1 after ∧
      shows (handler.answer query actual).2 after
  pause : ∀ length actual state, shows actual state → shows (handler.pause length actual) state

/-- What a program ensures in a setting holds of its run by every handler that
the setting foresees. -/
theorem run_of_ensures {handler : Handler Query Answer Actual}
    {setting : Setting Query Answer State} {shows : Actual → State → Prop}
    {mayFault : Prop} {goal : Value → State → Prop}
    (foreseen : handler.Foreseen setting shows)
    {program : Program Query Answer Value} {actual : Actual} {state : State}
    (ensured : program.Ensures setting mayFault goal state) (shown : shows actual state)
    (steady : ¬mayFault) :
    ∃ value finish after, handler.run program actual = (.ok value, finish) ∧
      goal value after ∧ shows finish after := by
  induction program generalizing actual state with
  | done value => exact ⟨value, actual, state, rfl, ensured, shown⟩
  | fault => exact absurd ensured steady
  | pause length rest induction =>
      exact induction ensured (foreseen.pause length actual state shown)
  | ask query rest induction =>
      obtain ⟨after, possible, shownAfter⟩ := foreseen.answer actual state query shown
      exact induction _ (ensured.2 _ after possible) shownAfter

/-- The setting of a handler by itself: it admits every question. -/
def setting (handler : Handler Query Answer State) : Setting Query Answer State where
  admits _ _ := True
  answers state query answer after := handler.answer query state = (answer, after)

theorem foreseen_setting {handler : Handler Query Answer State}
    (still : ∀ length state, handler.pause length state = state) :
    handler.Foreseen handler.setting Eq where
  answer := by
    intro actual state query same
    subst same
    exact ⟨_, rfl, rfl⟩
  pause := by
    intro length actual state same
    subst same
    exact still length actual

theorem foreseen_ofAnswer (answer : (query : Query) → State → Answer query × State) :
    (ofAnswer answer).Foreseen (ofAnswer answer).setting Eq :=
  foreseen_setting fun _ _ => rfl

theorem ensures_tracked {answer : (query : Query) → State → Answer query × State}
    {mayFault : Prop} {goal : Value → State → Prop} {program : Program Query Answer Value}
    {state : State}
    (ensured : program.Ensures (ofAnswer answer).setting mayFault goal state) :
    program.Ensures (ofAnswer answer).setting mayFault
      (fun value finish =>
        goal value finish ∧ (ofAnswer answer).run program state = (.ok value, finish)) state := by
  induction program generalizing state with
  | done value => exact ⟨ensured, rfl⟩
  | fault => exact ensured
  | pause length rest induction => exact induction ensured
  | ask query rest induction =>
      refine ⟨ensured.1, ?_⟩
      intro result after answered
      refine (induction result (ensured.2 result after answered)).mono ?_
      intro value finish both
      obtain ⟨reached, ran⟩ := both
      have answers : answer query state = (result, after) := answered
      have steps : (ofAnswer answer).run (.ask query rest) state =
          (ofAnswer answer).run (rest result) after := by
        simp only [run, ofAnswer, answers]
      exact ⟨reached, steps.trans ran⟩

end Handler

namespace Cluster

/-- The setting in which every answer is possible and the state is the history
of calls and answers. -/
def recording (admits : List Exchange → Call → Prop) :
    Setting Call Call.Answer (List Exchange) where
  admits := admits
  answers history call answer after := after = history ++ [⟨call, answer⟩]

theorem recorded_answered {State : Type} {plane : Plane State} {start after : Recorded State}
    {question : Call} {answer : question.Answer}
    (answered : (recorded plane).setting.answers start question answer after) :
    plane.answer question start.plane = (answer, after.plane) ∧
      after.history = start.history ++ [⟨question, answer⟩] := by
  cases answered
  exact ⟨rfl, rfl⟩

/-- A run adds to the history only calls that were admitted when they were made,
also when it ends with a fault. -/
theorem run_recording {State Value : Type} {plane : Plane State}
    {admits : List Exchange → Call → Prop} {mayFault : Prop}
    {goal : Value → List Exchange → Prop} {program : Calls Value} {past : List Exchange}
    (ensured : program.Ensures (recording admits) mayFault goal past) (start : State) :
    ∃ result later finish,
      (recorded plane).run program ⟨past, start⟩ = (result, ⟨past ++ later, finish⟩) ∧
        (∀ before call answer after, later = before ++ ⟨call, answer⟩ :: after →
          admits (past ++ before) call) ∧
        (∀ value, result = .ok value → goal value (past ++ later)) ∧
        ∀ fault, result = .error fault → mayFault := by
  induction program generalizing past start with
  | done value =>
      refine ⟨.ok value, [], start, by simp [Handler.run], by simp, ?_, by simp⟩
      intro other same
      cases same
      rw [List.append_nil]
      exact ensured
  | fault reason =>
      refine ⟨.error reason, [], start, by simp [Handler.run], by simp, by simp, ?_⟩
      intro fault same
      exact ensured
  | pause length rest induction => exact induction ensured (plane.pause length start)
  | ask query rest induction =>
      obtain ⟨admitted, continues⟩ := ensured
      let answer := (plane.answer query start).1
      let exchange : Exchange := ⟨query, answer⟩
      obtain ⟨result, later, finish, ran, admittedLater, reached, faulted⟩ :=
        induction answer (continues answer (past ++ [exchange]) rfl) (plane.answer query start).2
      have joined : past ++ [exchange] ++ later = past ++ exchange :: later := by simp
      rw [joined] at ran reached
      refine ⟨result, exchange :: later, finish, ran, ?_, reached, faulted⟩
      intro before call reply after split
      cases before with
      | nil =>
          obtain ⟨same, _⟩ := List.cons.inj split
          have asked : query = call := congrArg Sigma.fst same
          rw [List.append_nil, ← asked]
          exact admitted
      | cons first before =>
          obtain ⟨same, rest⟩ := List.cons.inj split
          have shifted := admittedLater before call reply after rest
          rw [← same]
          simpa using shifted

/-- What every admitted call keeps, a run keeps, whether it ends with a value or
with a fault. -/
theorem run_keeps {State Value : Type} {plane : Plane State}
    {admits : List Exchange → Call → Prop} {mayFault : Prop}
    {goal : Value → List Exchange → Prop} {program : Calls Value} {past : List Exchange}
    (invariant : State → Prop)
    (ensured : program.Ensures (recording admits) mayFault goal past)
    (kept : ∀ history call state, admits history call → invariant state →
      invariant (plane.answer call state).2)
    (rested : ∀ length state, invariant state → invariant (plane.pause length state))
    {start : State} (holds : invariant start) : invariant (plane.run program start).2 := by
  induction program generalizing past start with
  | done value => exact holds
  | fault reason => exact holds
  | pause length rest induction => exact induction ensured (rested length start holds)
  | ask query rest induction =>
      obtain ⟨admitted, continues⟩ := ensured
      exact induction _ (continues _ _ rfl) (kept past query start admitted holds)

/-- Keeping a history does not change what a plane answers. -/
theorem foreseen_recorded {State Seen : Type} {plane : Plane State}
    {setting : Setting Call Call.Answer Seen} {shows : State → Seen → Prop}
    (foreseen : plane.Foreseen setting shows) :
    (recorded plane).Foreseen setting fun actual state => shows actual.plane state where
  answer actual state call shown := foreseen.answer actual.plane state call shown
  pause length actual state shown := foreseen.pause length actual.plane state shown

end Cluster

end Tenancy
