import Tenancy.Number.Word
import Tenancy.Text.Digits

/-!
# Decimal numerals

Reading a bounded integer from its decimal digits, with the reason when the
text is none: a sign may stand in front, digits fill the rest, and the first
fault from the left is the one reported.
-/

namespace Tenancy.Text

/-- Why a text is not the numeral of an integer in range. -/
inductive NumeralError where
  | empty
  | invalidDigit
  | tooLarge
  | tooSmall
deriving DecidableEq, Repr

def NumeralError.message : NumeralError → String
  | .empty => "cannot parse integer from empty string"
  | .invalidDigit => "invalid digit found in string"
  | .tooLarge => "number too large to fit in target type"
  | .tooSmall => "number too small to fit in target type"

/-- Reads digits from the left onto `value`.  A step whose result leaves the
bound ends the reading, so a later bad character goes unseen. -/
def readDigits (negative : Bool) (bound : Nat) : Nat → List Char → Except NumeralError Nat
  | value, [] => .ok value
  | value, character :: rest =>
      match digitValue? character with
      | none => .error .invalidDigit
      | some digit =>
          if value * 10 + digit ≤ bound then readDigits negative bound (value * 10 + digit) rest
          else .error (if negative then .tooSmall else .tooLarge)

/-- The integer between `least` and `greatest` that a text denotes.  A minus
sign is a bad digit where no negative number is in range. -/
def readInteger (least greatest : Int) (text : String) : Except NumeralError Int :=
  match text.toList with
  | [] => .error .empty
  | ['+'] => .error .invalidDigit
  | ['-'] => .error .invalidDigit
  | '+' :: digits => (readDigits false greatest.toNat 0 digits).map Int.ofNat
  | '-' :: digits =>
      if least < 0 then
        (readDigits true (-least).toNat 0 digits).map fun value => -Int.ofNat value
      else .error .invalidDigit
  | digits => (readDigits false greatest.toNat 0 digits).map Int.ofNat

def readUnsigned64 (text : String) : Except NumeralError Nat :=
  (readInteger 0 Number.greatestUnsigned64 text).map Int.toNat

def readSigned64 (text : String) : Except NumeralError Int :=
  readInteger Number.leastSigned64 Number.greatestSigned64 text

end Tenancy.Text
