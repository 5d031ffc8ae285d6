import Tenancy.Json.Value
import Tenancy.Number.Binary64
import Tenancy.Number.Word
import Tenancy.Text.Digits

/-!
# Numerals

The numbers of JSON as they are written: digits, perhaps a fraction and perhaps
a power of ten.  A numeral stands for a whole number or for a floating-point
number, and is out of range if that would be infinite.
-/

namespace Tenancy.Json

open Number Text

/-- A number as it is written.  Without a point the fraction is empty. -/
structure Numeral where
  negative : Bool
  whole : List Char
  fraction : List Char
  exponent : Option Int
deriving DecidableEq, Repr

def readDigitRow (input : List Char) : Option (List Char × List Char) :=
  let row := input.takeWhile isDigit
  if row.isEmpty then none else some (row, input.dropWhile isDigit)

/-- The whole part of a number: no zero stands in front of other digits. -/
def readWhole : List Char → Option (List Char × List Char)
  | '0' :: rest => if (rest.head?.map isDigit).getD false then none else some (['0'], rest)
  | input => readDigitRow input

/-- The digits after a point, if there is one. -/
def readFraction : List Char → Option (List Char × List Char)
  | '.' :: rest => readDigitRow rest
  | input => some ([], input)

/-- A row of digits, perhaps with a sign in front. -/
def readSigned : List Char → Option (Int × List Char)
  | '-' :: rest => (readDigitRow rest).map fun (row, rest) => (-(digitsValue 0 row : Int), rest)
  | '+' :: rest => (readDigitRow rest).map fun (row, rest) => ((digitsValue 0 row : Int), rest)
  | rest => (readDigitRow rest).map fun (row, rest) => ((digitsValue 0 row : Int), rest)

/-- The power of ten, if there is one. -/
def readExponent : List Char → Option (Option Int × List Char)
  | mark :: rest =>
      if mark = 'e' ∨ mark = 'E' then
        (readSigned rest).map fun (exponent, rest) => (some exponent, rest)
      else some (none, mark :: rest)
  | [] => some (none, [])

def readNumeral (input : List Char) : Option (Numeral × List Char) := do
  let negative := input.head? == some '-'
  let (whole, rest) ← readWhole (if negative then input.drop 1 else input)
  let (fraction, rest) ← readFraction rest
  let (exponent, rest) ← readExponent rest
  return (⟨negative, whole, fraction, exponent⟩, rest)

/-- Continues a number with digits for as long as it fits in 64 bits.  The
digits that are left over follow. -/
def takeUpDigits (significand : Nat) : List Char → Nat × List Char
  | [] => (significand, [])
  | digit :: row =>
      let longer := significand * 10 + (digitValue? digit).getD 0
      if longer ≤ greatestUnsigned64 then takeUpDigits longer row else (significand, digit :: row)

namespace Numeral

/-- The digits that count and the power of ten they are multiplied with.  Whole
digits that do not fit in 64 bits count as zeros, and those of the fraction not
at all. -/
def scientific (numeral : Numeral) : Nat × Int :=
  let (upper, dropped) := takeUpDigits 0 numeral.whole
  let (significand, ignored) := takeUpDigits upper numeral.fraction
  let places : Int := numeral.fraction.length - ignored.length
  (significand, dropped.length - places + numeral.exponent.getD 0)

def scaledUp (value : Binary64) (power : Nat) : Binary64 :=
  if power ≤ 308 then value.mul (.ofNat (Nat.pow 10 power))
  else if value.isZero then value
  else .infinite false

/-- A number divided by a power of ten, in steps of the greatest power there
is. -/
def scaledDown (value : Binary64) (power : Nat) : Binary64 :=
  if power ≤ 308 then value.div (.ofNat (Nat.pow 10 power))
  else if value.isZero then value
  else scaledDown (value.div (.ofNat (Nat.pow 10 308))) (power - 308)
termination_by power

/-- The floating-point number that a numeral stands for.  Its digits and its
power of ten are rounded first, and then their product. -/
def toDouble (numeral : Numeral) : Binary64 :=
  let (significand, power) := numeral.scientific
  let magnitude :=
    if power < 0 then scaledDown (.ofNat significand) power.natAbs
    else scaledUp (.ofNat significand) power.toNat
  if numeral.negative then magnitude.neg else magnitude

/-- The whole number that a numeral without fraction and exponent stands for.
A negative zero is none. -/
def integer? (numeral : Numeral) : Option Int :=
  if numeral.fraction.isEmpty && numeral.exponent.isNone then
    let value := digitsValue 0 numeral.whole
    if numeral.negative then
      if 0 < value ∧ value ≤ leastSigned64.natAbs then some (-(value : Int)) else none
    else if value ≤ greatestUnsigned64 then some value
    else none
  else none

def value (numeral : Numeral) : Json :=
  match numeral.integer?, numeral.toDouble with
  | some whole, _ => .integer whole
  | none, .finite negative significand exponent =>
      .floating (.finite negative significand exponent)
  | none, _ => .unreadable

end Numeral

end Tenancy.Json
