import Tenancy.Program
import Tenancy.Retry.Backoff

/-!
# Repeated attempts

An operation that fails is tried again, with a pause before each further
attempt, until it succeeds, fails in a way that repeating cannot mend, or has
been tried often enough.  The last outcome is the outcome.
-/

namespace Tenancy.Retry

open Number

/-- How often to try and how long to pause. -/
structure Policy where
  /-- Attempts in all.  There is always a first one. -/
  attempts : Nat
  initialDelay : Span
  maximalDelay : Span
  factor : Binary64
deriving DecidableEq, Repr

namespace Policy

/-- Four attempts, a fifth of a second apart at first and then twice as long
each time, up to five seconds. -/
def standard : Policy :=
  ⟨4, Span.ofMilliseconds 200, Span.ofSeconds 5, Binary64.ofNat 2⟩

def withAttempts (attempts : Nat) : Policy := { standard with attempts }

/-- Attempts without waiting in between. -/
def immediate (attempts : Nat) : Policy :=
  ⟨attempts, Span.zero, Span.zero, Binary64.ofNat 1⟩

/-- The delay that follows a delay. -/
def nextDelay (policy : Policy) (delay : Span) : Except Fault Span :=
  Backoff.next policy.factor policy.maximalDelay delay

end Policy

section

variable {Query : Type} {Answer : Query → Type} {Value Failure : Type}

/-- What lies between two attempts: a pause, which is told by its delay, and then
the delay of the next pause. -/
def Policy.rest (policy : Policy) (jitter : Jitter) (delay : Span) :
    Program Query Answer Span :=
  (Program.ofExcept (jittered jitter delay)).bind fun _ =>
    .pause delay (.ofExcept (policy.nextDelay delay))

/-- Tries an operation, and up to `more` further times after failures that
repeating may mend.  A rest comes before each further attempt, and knows how many
there are after that one. -/
def attempt (repeatable : Failure → Bool) (rest : Nat → Span → Program Query Answer Span)
    (operation : Program Query Answer (Except Failure Value)) :
    Nat → Span → Program Query Answer (Except Failure Value)
  | 0, _ => operation
  | more + 1, delay =>
      operation.bind fun
        | .ok value => .done (.ok value)
        | .error failure =>
            if repeatable failure then
              (rest more delay).bind fun longer => attempt repeatable rest operation more longer
            else .done (.error failure)

/-- Tries an operation as often as a policy allows.  The jitter of every pause is
drawn. -/
def run (policy : Policy) (repeatable : Failure → Bool)
    (operation : Program Query Answer (Except Failure Value))
    (draws : Nat → Jitter := fun _ => .neutral) : Program Query Answer (Except Failure Value) :=
  attempt repeatable (fun more => policy.rest (draws more)) operation (policy.attempts - 1)
    policy.initialDelay

end

end Tenancy.Retry
