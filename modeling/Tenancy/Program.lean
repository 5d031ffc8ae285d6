import Tenancy.Time.Span

/-!
# Programs that ask

A program asks questions one at a time, may pause between them, and ends with
a value or with a fault.  What the answers are is left open, so one program
runs against a store in memory, a control plane behind a network, or any
function that answers.
-/

namespace Tenancy

/-- A failed assumption that ends a program without a value. -/
inductive Fault where
  /-- The next pause came out as a negative number of seconds. -/
  | negativePause
  /-- A pause came out as more seconds than can be counted, or as no number. -/
  | overlongPause
deriving DecidableEq, Repr

def Fault.message : Fault → String
  | .negativePause => "cannot convert float seconds to Duration: value is negative"
  | .overlongPause => "cannot convert float seconds to Duration: value is either too big or NaN"

/-- A program whose questions have the answers that `Answer` allows. -/
inductive Program (Query : Type) (Answer : Query → Type) (Value : Type) where
  | done (value : Value)
  | fault (reason : Fault)
  | pause (length : Span) (rest : Program Query Answer Value)
  | ask (query : Query) (rest : Answer query → Program Query Answer Value)

namespace Program

variable {Query : Type} {Answer : Query → Type} {Value Other State : Type}

/-- One program after another. -/
def bind (next : Value → Program Query Answer Other) :
    Program Query Answer Value → Program Query Answer Other
  | .done value => next value
  | .fault reason => .fault reason
  | .pause length rest => .pause length (rest.bind next)
  | .ask query rest => .ask query fun answer => (rest answer).bind next

instance : Monad (Program Query Answer) where
  pure := .done
  bind program next := program.bind next

def query (question : Query) : Program Query Answer (Answer question) :=
  .ask question .done

/-- Goes on with a value, or ends with the fault that is there instead. -/
def ofExcept : Except Fault Value → Program Query Answer Value
  | .ok value => .done value
  | .error reason => .fault reason

theorem bind_done (program : Program Query Answer Value) : program.bind .done = program := by
  induction program with
  | done => rfl
  | fault => rfl
  | pause length rest induction => simp [bind, induction]
  | ask question rest induction => simp [bind, induction]

theorem bind_bind {Third : Type} (program : Program Query Answer Value)
    (second : Value → Program Query Answer Other)
    (third : Other → Program Query Answer Third) :
    (program.bind second).bind third = program.bind fun value => (second value).bind third := by
  induction program with
  | done => rfl
  | fault => rfl
  | pause length rest induction => simp [bind, induction]
  | ask question rest induction => simp [bind, induction]

instance : LawfulMonad (Program Query Answer) :=
  LawfulMonad.mk' (Program Query Answer) bind_done (fun _ _ => rfl)
    (fun program _ _ => bind_bind program _ _)

end Program

/-- What answers the questions of a program, over a state of its own. -/
structure Handler (Query : Type) (Answer : Query → Type) (State : Type) where
  answer : (query : Query) → State → Answer query × State
  pause : Span → State → State

namespace Handler

variable {Query : Type} {Answer : Query → Type} {Value Other State : Type}

/-- A handler for which pauses leave no mark. -/
def ofAnswer (answer : (query : Query) → State → Answer query × State) :
    Handler Query Answer State :=
  ⟨answer, fun _ state => state⟩

def run (handler : Handler Query Answer State) :
    Program Query Answer Value → State → Except Fault Value × State
  | .done value, state => (.ok value, state)
  | .fault reason, state => (.error reason, state)
  | .pause length rest, state => handler.run rest (handler.pause length state)
  | .ask query rest, state =>
      let (answer, state) := handler.answer query state
      handler.run (rest answer) state

theorem run_bind (handler : Handler Query Answer State) (program : Program Query Answer Value)
    (next : Value → Program Query Answer Other) (state : State) :
    handler.run (program.bind next) state =
      match handler.run program state with
      | (.ok value, state) => handler.run (next value) state
      | (.error reason, state) => (.error reason, state) := by
  induction program generalizing state with
  | done => rfl
  | fault => rfl
  | pause length rest induction => exact induction _
  | ask question rest induction => exact induction _ _

theorem run_map (handler : Handler Query Answer State) (function : Value → Other)
    (program : Program Query Answer Value) (state : State) :
    handler.run (function <$> program) state =
      ((handler.run program state).1.map function, (handler.run program state).2) := by
  change handler.run (program.bind fun value => .done (function value)) state = _
  rw [run_bind]
  obtain ⟨result, finish⟩ := handler.run program state
  cases result with
  | ok value => rfl
  | error reason => rfl

end Handler

end Tenancy
