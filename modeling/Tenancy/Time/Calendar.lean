/-!
# The Gregorian calendar

Days are numbered from 1970-01-01.  A year is counted from March, so that the
leap day is its last, and years come in cycles of 400 with the same number of
days each.
-/

namespace Tenancy.Calendar

/-- A day of the proleptic Gregorian calendar. -/
structure Date where
  year : Int
  month : Nat
  day : Nat
deriving DecidableEq, Repr

def isLeapYear (year : Int) : Bool :=
  year % 4 == 0 && (year % 100 != 0 || year % 400 == 0)

def daysInMonth (year : Int) (month : Nat) : Nat :=
  if month = 2 then (if isLeapYear year then 29 else 28)
  else if month = 4 ∨ month = 6 ∨ month = 9 ∨ month = 11 then 30
  else 31

/-- Whether the month and the day exist. -/
def Date.exists (date : Date) : Bool :=
  1 ≤ date.month && date.month ≤ 12 && 1 ≤ date.day &&
    date.day ≤ daysInMonth date.year date.month

/-- The days of a 400-year cycle. -/
def cycleDays : Int := 146097

/-- The days from the start of a cycle to 1970-01-01. -/
def epochOffset : Int := 719468

/-- The day of a cycle on which its year starts, years counted from March. -/
def yearStart (year : Int) : Int := 365 * year + year / 4 - year / 100

/-- The day of a year, counted from March, on which a month starts. -/
def monthStart (month : Int) : Int := (153 * month + 2) / 5

def Date.dayNumber (date : Date) : Int :=
  let marchYear := if date.month ≤ 2 then date.year - 1 else date.year
  let marchMonth : Int := if date.month ≤ 2 then date.month + 9 else date.month - 3
  marchYear / 400 * cycleDays + yearStart (marchYear % 400) +
    monthStart marchMonth + (date.day - 1) - epochOffset

def Date.ofDayNumber (number : Int) : Date :=
  let shifted := number + epochOffset
  let dayOfCycle := shifted % cycleDays
  let marchYear :=
    (dayOfCycle - dayOfCycle / 1460 + dayOfCycle / 36524 - dayOfCycle / 146096) / 365
  let dayOfYear := dayOfCycle - yearStart marchYear
  let marchMonth := (5 * dayOfYear + 2) / 153
  let day := dayOfYear - monthStart marchMonth + 1
  let year := shifted / cycleDays * 400 + marchYear
  if marchMonth < 10 then ⟨year, (marchMonth + 3).toNat, day.toNat⟩
  else ⟨year + 1, (marchMonth - 9).toNat, day.toNat⟩

end Tenancy.Calendar
