import Tenancy.Text.Digits

/-!
# Spans of time

Lengths of time, exact to the nanosecond, and their short decimal form.
-/

namespace Tenancy

structure Span where
  nanoseconds : Nat
deriving DecidableEq, Repr

namespace Span

open Text

def zero : Span := ⟨0⟩

def ofMilliseconds (count : Nat) : Span := ⟨count * 1000000⟩
def ofSeconds (count : Nat) : Span := ⟨count * 1000000000⟩

/-- The longest time that a timer runs.  The far future of the clock behind timers is
thirty years of 365 days away, and no timer is set beyond it. -/
def longestTimer : Span := ofSeconds (30 * 365 * 86400)

/-- How long a timer runs that is set to a span. -/
def onTimer (span : Span) : Span := ⟨min span.nanoseconds longestTimer.nanoseconds⟩

def seconds (span : Span) : Nat := span.nanoseconds / 1000000000

/-- The least number of milliseconds that covers a span. -/
def coveringMilliseconds (span : Span) : Nat := (span.nanoseconds + 999999) / 1000000

/-- A fraction of `10 ^ width` parts, with its point and without trailing
zeros; nothing for zero. -/
def fractionText (width part : Nat) : List Char :=
  if part = 0 then []
  else '.' :: ((fixedDigits width part).reverse.dropWhile (· == '0')).reverse

def inUnits (unit : String) (width whole part : Nat) : String :=
  String.ofList (digits whole ++ fractionText width part) ++ unit

/-- The span in the largest unit of which it holds at least one. -/
def render (span : Span) : String :=
  let count := span.nanoseconds
  if 1000000000 ≤ count then inUnits "s" 9 (count / 1000000000) (count % 1000000000)
  else if 1000000 ≤ count then inUnits "ms" 6 (count / 1000000) (count % 1000000)
  else if 1000 ≤ count then inUnits "µs" 3 (count / 1000) (count % 1000)
  else inUnits "ns" 0 count 0

/-- The power of ten nearest to a span of seconds on a logarithmic scale.  A
timer counts whole milliseconds, and a span without length has no such power. -/
def magnitude? (span : Span) : Option Int :=
  let count := span.coveringMilliseconds
  if count = 0 then none else some (((digits (10 * count * count)).length - 1) / 2 - 3 : Int)

end Span

end Tenancy
