/-!
# Decimal digits

Numbers written in decimal, with as many digits as they need or with a fixed
number of them.
-/

namespace Tenancy.Text

/-- The character of a digit below ten. -/
def digitChar (digit : Nat) : Char := Char.ofNat ('0'.toNat + digit)

def digitValue? (character : Char) : Option Nat :=
  if '0' ≤ character ∧ character ≤ '9' then some (character.toNat - '0'.toNat) else none

def isDigit (character : Char) : Bool := (digitValue? character).isSome

/-- The lowest `width` decimal digits of a number. -/
def fixedDigits : Nat → Nat → List Char
  | 0, _ => []
  | width + 1, value => fixedDigits width (value / 10) ++ [digitChar (value % 10)]

/-- The decimal digits of a number, without leading zeros. -/
def digits (value : Nat) : List Char :=
  if value < 10 then [digitChar value] else digits (value / 10) ++ [digitChar (value % 10)]

/-- The decimal digits of a number, at least `width` of them. -/
def paddedDigits (width value : Nat) : List Char :=
  if value < Nat.pow 10 width then fixedDigits width value else digits value

/-- The number that a row of digits continues. -/
def digitsValue (start : Nat) (row : List Char) : Nat :=
  row.foldl (fun value character => value * 10 + (digitValue? character).getD 0) start

def decimal (value : Nat) : String := String.ofList (digits value)

end Tenancy.Text
