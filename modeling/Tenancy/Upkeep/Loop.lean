import Tenancy.Time.Span

/-!
# Background loops

A loop runs a cycle at once and then one per interval, until it is told to
stop.  It is told through a channel that holds a flag: the loop stops when the
flag is set and when the channel's sending end is dropped.  Any sent value
ends the pause in which it arrives, so a flag that stays unset brings the next
cycle forward.  Time is counted in milliseconds, and a cycle takes none.
-/

namespace Tenancy.Upkeep

inductive Signal where
  | send (stop : Bool)
  | drop
deriving DecidableEq, Repr

/-- Signals at their times, in the order of time. -/
abbrev Signals : Type := List (Nat × Signal)

namespace Signals

/-- Events that each come some time after the one before, as signals.  Nothing
is sent on a channel that was dropped. -/
def ofDelays (start : Nat) : List (Nat × Signal) → Signals
  | [] => []
  | (delay, .send stop) :: rest => (start + delay, .send stop) :: ofDelays (start + delay) rest
  | (delay, .drop) :: _ => [(start + delay, .drop)]

end Signals

/-- How a pause between two cycles ends. -/
inductive Wakeup where
  | elapsed
  | stop
  /-- A value arrived that does not stop the loop. -/
  | nudged
deriving DecidableEq, Repr

/-- What signals of one moment amount to: the last value sent counts, and a
drop without a value is a request to stop. -/
def wakeupOf (signals : List Signal) : Wakeup :=
  let sent := signals.filterMap fun
    | .send stop => some stop
    | .drop => none
  match sent.getLast? with
  | some false => .nudged
  | some true => .stop
  | none => .stop

/-- The course of a loop. -/
structure Course where
  /-- When its cycles start. -/
  starts : List Nat
  /-- When it ended, if it did. -/
  finish : Option Nat
deriving DecidableEq, Repr

/-- The course of a loop from a cycle at `now` to a time at which nobody looks
at it any more.  `dropped` tells whether the channel's sending end is gone, and
`timerFirst` which comes first when the interval ends in the moment of a
signal. -/
def courseFrom (timerFirst : Bool) (interval horizon now : Nat) (dropped : Bool)
    (signals : Signals) : Course :=
  if dropped then ⟨[now], some now⟩
  else
    let deadline := now + max interval 1
    match signals with
    | [] =>
        if deadline < horizon then
          let later := courseFrom timerFirst interval horizon deadline false []
          ⟨now :: later.starts, later.finish⟩
        else ⟨[now], none⟩
    | (time, signal) :: rest =>
        let moment := max now time
        if deadline < moment ∨ (deadline = moment ∧ timerFirst) then
          if deadline < horizon then
            let later :=
              courseFrom timerFirst interval horizon deadline false ((time, signal) :: rest)
            ⟨now :: later.starts, later.finish⟩
          else ⟨[now], none⟩
        else
          let together := signal :: (rest.takeWhile fun next => next.1 == time).map Prod.snd
          match wakeupOf together with
          | .nudged =>
              let later := courseFrom timerFirst interval horizon moment
                (together.contains .drop) (rest.dropWhile fun next => next.1 == time)
              ⟨now :: later.starts, later.finish⟩
          | _ => ⟨[now], some moment⟩
termination_by (horizon - now) + signals.length
decreasing_by
  · simp only [List.length_nil]
    omega
  · simp only [List.length_cons]
    omega
  · have shorter := (List.dropWhile_sublist (l := rest) fun next => next.1 == time).length_le
    simp only [List.length_cons]
    omega

/-- The milliseconds that a timer runs that is set to some. -/
def timerMilliseconds (count : Nat) : Nat :=
  (Span.ofMilliseconds count).onTimer.coveringMilliseconds

/-- The course of a loop that starts at time zero.  A flag that is set before
stops it after its first cycle. -/
def course (timerFirst : Bool) (interval horizon : Nat) (stopped : Bool) (signals : Signals) :
    Course :=
  if stopped then ⟨[0], some 0⟩
  else courseFrom timerFirst (timerMilliseconds interval) horizon 0 false signals

/-- Runs the cycles of a course. -/
def Course.run {State : Type} (course : Course) (cycle : State → State) (state : State) : State :=
  course.starts.foldl (fun state _ => cycle state) state

end Tenancy.Upkeep
