import Tenancy.Time.Calendar

/-!
# Instants

Points of time as seconds since the start of 1970 in UTC, with nanoseconds.
A leap second has the number of the second before it, as a rule a minute's last
one, and a nanosecond count of a billion or more.
-/

namespace Tenancy

/-- The first second of the year -262143. -/
def earliestSecond : Int := (Calendar.Date.mk (-262143) 1 1).dayNumber * 86400

/-- The last second of the year 262142. -/
def latestSecond : Int := (Calendar.Date.mk 262142 12 31).dayNumber * 86400 + 86399

structure Instant where
  seconds : Int
  nanoseconds : Nat
  notBefore : earliestSecond ≤ seconds
  notAfter : seconds ≤ latestSecond
  fraction : nanoseconds < 2000000000
deriving DecidableEq

namespace Instant

/-- The instant with these parts, if it is one. -/
def ofParts? (seconds : Int) (nanoseconds : Nat) : Option Instant :=
  if valid : earliestSecond ≤ seconds ∧ seconds ≤ latestSecond ∧ nanoseconds < 2000000000 then
    some ⟨seconds, nanoseconds, valid.1, valid.2.1, valid.2.2⟩
  else none

def epoch : Instant := ⟨0, 0, by decide, by decide, by decide⟩

instance : Inhabited Instant := ⟨epoch⟩

def inLeapSecond (instant : Instant) : Bool := 1000000000 ≤ instant.nanoseconds

/-- The leap second that lies between two times of day, if either has one:
one more when the later time of day follows it, one less when it starts it. -/
def leapCorrection (later earlier : Instant) : Int :=
  let laterOfDay := later.seconds % 86400
  let earlierOfDay := earlier.seconds % 86400
  if earlierOfDay < laterOfDay then (if earlier.inLeapSecond then 1 else 0)
  else if laterOfDay < earlierOfDay then (if later.inLeapSecond then -1 else 0)
  else 0

def since (later earlier : Instant) : Int :=
  (later.seconds - earlier.seconds + leapCorrection later earlier) * 1000000000 +
    ((later.nanoseconds : Int) - earlier.nanoseconds)

end Instant

end Tenancy
