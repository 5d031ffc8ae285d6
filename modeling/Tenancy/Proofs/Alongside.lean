import Tenancy.Proofs.Guarantee

/-!
# Runs side by side

Two programs that are run by one handler, each in a state of its own, and keep
in step: they ask the same questions, though the answers may differ, and yield
the same value.  The states they end in are related by a goal.
-/

namespace Tenancy

section

variable {Query : Type} {Answer : Query → Type} {Value Other State : Type}

inductive Alongside (handler : Handler Query Answer State) (goal : Value → State → State → Prop) :
    Program Query Answer Value → State → Program Query Answer Value → State → Prop where
  | done {value : Value} {first second : State} (reached : goal value first second) :
      Alongside handler goal (.done value) first (.done value) second
  | pause {length : Span} {rest other : Program Query Answer Value} {first second : State}
      (next : Alongside handler goal rest (handler.pause length first) other
        (handler.pause length second)) :
      Alongside handler goal (.pause length rest) first (.pause length other) second
  | ask {query : Query} {rest other : Answer query → Program Query Answer Value}
      {first second : State}
      (next : Alongside handler goal
        (rest (handler.answer query first).1) (handler.answer query first).2
        (other (handler.answer query second).1) (handler.answer query second).2) :
      Alongside handler goal (.ask query rest) first (.ask query other) second

variable {handler : Handler Query Answer State} {goal : Other → State → State → Prop}
variable {middle : Value → State → State → Prop}

theorem Alongside.ask_same {query : Query} {next : Answer query → Program Query Answer Other}
    {first second : State} (same : (handler.answer query first).1 = (handler.answer query second).1)
    (continues : ∀ answer, (handler.answer query first).1 = answer →
      Alongside handler goal (next answer) (handler.answer query first).2
        (next answer) (handler.answer query second).2) :
    Alongside handler goal (.ask query next) first (.ask query next) second := by
  apply Alongside.ask
  rw [← same]
  exact continues _ rfl

variable {program other : Program Query Answer Value} {first second : State}

theorem Alongside.bind {next following : Value → Program Query Answer Other}
    (alongside : Alongside handler middle program first other second)
    (continues : ∀ value after later, middle value after later →
      Alongside handler goal (next value) after (following value) later) :
    Alongside handler goal (program.bind next) first (other.bind following) second := by
  induction alongside with
  | done reached => exact continues _ _ _ reached
  | pause _ induction => exact .pause induction
  | ask _ induction => exact .ask induction

theorem Alongside.map {function : Value → Other}
    (alongside : Alongside handler (fun value => goal (function value)) program first other
      second) :
    Alongside handler goal (function <$> program) first (function <$> other) second := by
  change Alongside handler goal (program.bind fun value => .done (function value)) first
    (other.bind fun value => .done (function value)) second
  exact alongside.bind fun value after later reached => .done reached

theorem Alongside.run (alongside : Alongside handler middle program first other second) :
    ∃ value after later, handler.run program first = (.ok value, after) ∧
      handler.run other second = (.ok value, later) ∧ middle value after later := by
  induction alongside with
  | done reached => exact ⟨_, _, _, rfl, rfl, reached⟩
  | pause _ induction => exact induction
  | ask _ induction => exact induction

end

namespace Cluster

/-- The calls of a program's run, with their arguments and in their order. -/
def callsOf {Value State : Type} (plane : Plane State) (program : Calls Value) (start : State) :
    List Call :=
  ((recorded plane).run program ⟨[], start⟩).2.history.map (·.1)

end Cluster

section

open Cluster

variable {Value State : Type} {plane : Plane State} {goal : Value → State → State → Prop}

theorem Alongside.callsOf_eq {program other : Calls Value} {first second : State}
    (alongside : Alongside plane goal program first other second) :
    callsOf plane program first = callsOf plane other second := by
  have extended : ∀ past earlier : List Exchange, past.map (·.1) = earlier.map (·.1) →
      ((recorded plane).run program ⟨past, first⟩).2.history.map (·.1) =
        ((recorded plane).run other ⟨earlier, second⟩).2.history.map (·.1) := by
    induction alongside with
    | done reached =>
        intro past earlier same
        exact same
    | pause _ induction =>
        intro past earlier same
        exact induction past earlier same
    | ask _ induction =>
        intro past earlier same
        apply induction
        simp [same]
  exact extended [] [] rfl

end

end Tenancy
