import Tenancy.Number.Binary64
import Tenancy.Number.Word
import Tenancy.Program

/-!
# Backoff

How the delay between attempts grows: each delay is the one before times a
factor, and never more than a limit.  The pause itself is a delay times a
random factor.  The factors and the products are floating-point numbers of
seconds, rounded back to whole nanoseconds.
-/

namespace Tenancy

open Number

def Span.toDouble (span : Span) : Binary64 :=
  match Binary64.ofNat span.seconds,
      Binary64.ofRatio false (span.nanoseconds % 1000000000) 1000000000 with
  | .finite _ seconds secondsExponent, .finite _ part partExponent =>
      Binary64.addMagnitudes seconds secondsExponent part partExponent
  | _, _ => .infinite false

/-- The span of a whole number of seconds times a power of two, to the nearest
nanosecond. -/
def Span.ofScaledSeconds (significand : Nat) (exponent : Int) : Span :=
  let (top, bottom) := Binary64.scaled significand exponent
  ⟨roundedQuotient (top * 1000000000) bottom⟩

/-- The span of a number of seconds.  The seconds of a span are counted in 64
bits, so there is none for a larger number, and none for a negative one. -/
def Span.ofDouble (seconds : Binary64) : Except Fault Span :=
  if seconds.isNegative then .error .negativePause
  else
    match seconds with
    | .finite _ significand exponent =>
        let (top, bottom) := Binary64.scaled significand exponent
        if top < (greatestUnsigned64 + 1) * bottom then
          .ok (Span.ofScaledSeconds significand exponent)
        else .error .overlongPause
    | _ => .error .overlongPause

namespace Retry

/-- A random factor from one half up to one and a half, without the latter: so
many steps of `2 ^ -52` above one half. -/
structure Jitter where
  steps : Nat
  bounded : steps < Nat.pow 2 52
deriving DecidableEq

namespace Jitter

def factor (jitter : Jitter) : Binary64 :=
  .ofRatio false (Nat.pow 2 51 + jitter.steps) (Nat.pow 2 52)

/-- The factor one. -/
def neutral : Jitter := ⟨Nat.pow 2 51, by decide⟩

end Jitter

/-- How long a pause lasts when a delay is drawn out or cut short at random.
Without a delay nothing is drawn. -/
def jittered (jitter : Jitter) (delay : Span) : Except Fault Span :=
  if delay = Span.zero then .ok delay else Span.ofDouble (jitter.factor.mul delay.toDouble)

end Retry

namespace Backoff

/-- The next delay for a factor and a limit.  A product that is no number counts
as the limit. -/
def next (factor : Binary64) (limit delay : Span) : Except Fault Span :=
  Span.ofDouble ((delay.toDouble.mul factor).least limit.toDouble)

/-- The next delay for a whole factor, without rounding. -/
def exactNext (factor : Nat) (limit delay : Span) : Span :=
  ⟨min (delay.nanoseconds * factor) limit.nanoseconds⟩

end Backoff

end Tenancy
