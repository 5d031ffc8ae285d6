import Tenancy.Text.Blank
import Tenancy.Text.Digits
import Tenancy.Time.Instant

/-!
# Internet time stamps

The text of an instant by RFC 3339.  Two forms are written, both in UTC with
the letter `Z`: one with the shortest of zero, three, six or nine fraction
digits that is exact, and one without any.  Many are read: any offset from
UTC, a blank instead of the letter `T`, blanks between the parts, years with a
sign and any number of digits.
-/

namespace Tenancy.Rfc3339

open Text Calendar

/-- The year with four digits, and with a sign outside 0 to 9999. -/
def yearText (year : Int) : List Char :=
  if year < 0 then '-' :: paddedDigits 4 year.natAbs
  else if year ≤ 9999 then fixedDigits 4 year.toNat
  else '+' :: paddedDigits 4 year.toNat

def dateText (date : Date) : List Char :=
  yearText date.year ++ ['-'] ++ fixedDigits 2 date.month ++ ['-'] ++ fixedDigits 2 date.day

/-- The time of day.  A leap second is written as second sixty. -/
def timeText (secondOfDay : Nat) (inLeapSecond : Bool) : List Char :=
  let second := secondOfDay % 60 + if inLeapSecond then 1 else 0
  fixedDigits 2 (secondOfDay / 3600) ++ [':'] ++ fixedDigits 2 (secondOfDay / 60 % 60) ++
    [':'] ++ fixedDigits 2 second

/-- The fraction of a second, at millisecond, microsecond or nanosecond width. -/
def fractionText (nanoseconds : Nat) : List Char :=
  if nanoseconds = 0 then []
  else if nanoseconds % 1000000 = 0 then '.' :: fixedDigits 3 (nanoseconds / 1000000)
  else if nanoseconds % 1000 = 0 then '.' :: fixedDigits 6 (nanoseconds / 1000)
  else '.' :: fixedDigits 9 nanoseconds

/-- Date and time of day without the fraction. -/
def wholeSecondText (instant : Instant) : List Char :=
  dateText (Date.ofDayNumber (instant.seconds / 86400)) ++ ['T'] ++
    timeText (instant.seconds % 86400).toNat instant.inLeapSecond

/-- The exact written form of an instant. -/
def write (instant : Instant) : String :=
  String.ofList
    (wholeSecondText instant ++ fractionText (instant.nanoseconds % 1000000000) ++ ['Z'])

/-- The written form of an instant to the second; the rest of it is cut off. -/
def writeSeconds (instant : Instant) : String :=
  String.ofList (wholeSecondText instant ++ ['Z'])

/-- Reads at most `most` digits, and at least one. -/
def readNumber (most : Nat) (input : List Char) : Option (Nat × List Char) :=
  let row := (input.take most).takeWhile isDigit
  if row.isEmpty then none else some (digitsValue 0 row, input.drop row.length)

/-- Reads a number of one or two digits after blanks. -/
def readPart (input : List Char) : Option (Nat × List Char) :=
  readNumber 2 (trimFront input)

/-- Reads a year after blanks: any number of digits after a sign, at most four
without one. -/
def readYear (input : List Char) : Option (Int × List Char) :=
  match trimFront input with
  | '-' :: rest => (readNumber rest.length rest).map fun (year, rest) => (-(year : Int), rest)
  | '+' :: rest => (readNumber rest.length rest).map fun (year, rest) => ((year : Int), rest)
  | rest => (readNumber 4 rest).map fun (year, rest) => ((year : Int), rest)

def readMark (mark : Char) (input : List Char) : Option (List Char) :=
  match trimFront input with
  | character :: rest => if character = mark then some rest else none
  | [] => none

def readDate (input : List Char) : Option (Date × List Char) := do
  let (year, input) ← readYear input
  let (month, input) ← readPart (← readMark '-' input)
  let (day, input) ← readPart (← readMark '-' input)
  return (⟨year, month, day⟩, input)

/-- Reads an optional fraction of a second, as nanoseconds.  Digits after the
ninth are passed over. -/
def readFraction : List Char → Option (Nat × List Char)
  | '.' :: input => do
      let row := (input.take 9).takeWhile isDigit
      if row.isEmpty then none
      else
        let rest := (input.drop row.length).dropWhile isDigit
        return (digitsValue 0 row * Nat.pow 10 (9 - row.length), rest)
  | input => some (0, input)

/-- Reads a time of day as its second and the nanoseconds in that second. -/
def readTime (input : List Char) : Option ((Nat × Nat) × List Char) := do
  let (hour, input) ← readPart input
  let (minute, input) ← readPart (← readMark ':' input)
  let (second, input) ← readPart (← readMark ':' input)
  let (nanoseconds, input) ← readFraction input
  if hour ≤ 23 ∧ minute ≤ 59 ∧ second ≤ 60 then
    if second = 60 then
      return ((hour * 3600 + minute * 60 + 59, 1000000000 + nanoseconds), input)
    else return ((hour * 3600 + minute * 60 + second, nanoseconds), input)
  else none

def readPair : List Char → Option (Nat × List Char)
  | tens :: ones :: rest => do
      return ((← digitValue? tens) * 10 + (← digitValue? ones), rest)
  | _ => none

/-- The hours and minutes of an offset, in seconds. -/
def readOffsetSpan (input : List Char) : Option (Nat × List Char) := do
  let (hours, input) ← readPair input
  let (minutes, input) ← readPair (input.dropWhile fun next => next == ':' || isBlank next)
  if minutes ≤ 59 then return (hours * 3600 + minutes * 60, input) else none

/-- Reads an offset from UTC in seconds: a word for UTC itself, or a sign with
hours and minutes. -/
def readOffset (input : List Char) : Option (Int × List Char) :=
  match trimFront input with
  | 'Z' :: rest => some (0, rest)
  | 'z' :: rest => some (0, rest)
  | '+' :: rest => (readOffsetSpan rest).map fun (span, rest) => ((span : Int), rest)
  | '-' :: rest => (readOffsetSpan rest).map fun (span, rest) => (-(span : Int), rest)
  | '−' :: rest => (readOffsetSpan rest).map fun (span, rest) => (-(span : Int), rest)
  | u :: t :: c :: rest =>
      if u.toLower = 'u' ∧ t.toLower = 't' ∧ c.toLower = 'c' then some (0, rest) else none
  | _ => none

/-- The second that a date and a time of day name, if the date exists and the
second is one that an instant can have. -/
def localSecond? (date : Date) (secondOfDay : Nat) : Option Int :=
  let second := date.dayNumber * 86400 + secondOfDay
  if date.exists ∧ earliestSecond ≤ second ∧ second ≤ latestSecond then some second else none

/-- The instant that a text denotes.  Both the local time and the time in UTC
have to be in range, and the offset is less than a day. -/
def read? (text : String) : Option Instant := do
  let (date, input) ← readDate text.toList
  let input ← match input with
    | 't' :: rest | 'T' :: rest | ' ' :: rest => some rest
    | _ => none
  let ((secondOfDay, nanoseconds), input) ← readTime input
  let (offset, input) ← readOffset input
  if (trimFront input).isEmpty ∧ offset.natAbs < 86400 then
    Instant.ofParts? ((← localSecond? date secondOfDay) - offset) nanoseconds
  else none

end Tenancy.Rfc3339
