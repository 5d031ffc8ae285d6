import Tenancy.Number.Rounding

/-!
# Binary floating point, exactly

Floating-point numbers with 53 significant bits as exact multiples of powers
of two.  Every operation is the exact one followed by one rounding to nearest.
-/

namespace Tenancy.Number

/-- A floating-point number.  A finite one is its significand times two to the
power of its exponent. -/
inductive Binary64 where
  | notANumber
  | infinite (negative : Bool)
  | finite (negative : Bool) (significand : Nat) (exponent : Int)
deriving DecidableEq, Repr

namespace Binary64

def zero : Binary64 := .finite false 0 0

/-- Numerator and denominator of a whole number times a power of two. -/
def scaled (value : Nat) (exponent : Int) : Nat × Nat :=
  (value * Nat.pow 2 exponent.toNat, Nat.pow 2 (-exponent).toNat)

/-- The greatest `power` with `2 ^ power` at most the quotient of two positive
numbers. -/
def floorLog2 (numerator denominator : Nat) : Int :=
  let estimate : Int := (Nat.log2 numerator : Int) - Nat.log2 denominator
  let (unit, parts) := scaled 1 estimate
  if denominator * unit ≤ numerator * parts then estimate else estimate - 1

/-- The floating-point number nearest to a quotient. -/
def ofRatio (negative : Bool) (numerator denominator : Nat) : Binary64 :=
  if numerator = 0 then .finite negative 0 0
  else
    let exponent := max (-1074) (floorLog2 numerator denominator - 52)
    let (unit, parts) := scaled 1 exponent
    let significand := roundedQuotient (numerator * parts) (denominator * unit)
    if 971 < exponent ∨ (exponent = 971 ∧ significand = 9007199254740992) then .infinite negative
    else .finite negative significand exponent

def ofNat (value : Nat) : Binary64 := ofRatio false value 1

/-- The sum of two numbers, the second not negative and the first neither. -/
def addMagnitudes (leftSignificand : Nat) (leftExponent : Int) (rightSignificand : Nat)
    (rightExponent : Int) : Binary64 :=
  let (leftTop, leftBottom) := scaled leftSignificand leftExponent
  let (rightTop, rightBottom) := scaled rightSignificand rightExponent
  ofRatio false (leftTop * rightBottom + rightTop * leftBottom) (leftBottom * rightBottom)

/-- The product.  Zero times infinity is no number. -/
def mul : Binary64 → Binary64 → Binary64
  | .notANumber, _ => .notANumber
  | _, .notANumber => .notANumber
  | .infinite left, .infinite right => .infinite (left != right)
  | .infinite left, .finite right significand _ =>
      if significand = 0 then .notANumber else .infinite (left != right)
  | .finite left significand _, .infinite right =>
      if significand = 0 then .notANumber else .infinite (left != right)
  | .finite left leftSignificand leftExponent, .finite right rightSignificand rightExponent =>
      let (top, bottom) :=
        scaled (leftSignificand * rightSignificand) (leftExponent + rightExponent)
      ofRatio (left != right) top bottom

/-- The quotient.  Zero by zero and infinity by infinity are no numbers. -/
def div : Binary64 → Binary64 → Binary64
  | .notANumber, _ => .notANumber
  | _, .notANumber => .notANumber
  | .infinite _, .infinite _ => .notANumber
  | .infinite left, .finite right _ _ => .infinite (left != right)
  | .finite left _ _, .infinite right => .finite (left != right) 0 0
  | .finite left leftSignificand leftExponent, .finite right rightSignificand rightExponent =>
      if rightSignificand = 0 then
        if leftSignificand = 0 then .notANumber else .infinite (left != right)
      else
        let (top, bottom) := scaled leftSignificand (leftExponent - rightExponent)
        ofRatio (left != right) top (bottom * rightSignificand)

def neg : Binary64 → Binary64
  | .notANumber => .notANumber
  | .infinite negative => .infinite !negative
  | .finite negative significand exponent => .finite (!negative) significand exponent

def isZero : Binary64 → Bool
  | .finite _ significand _ => significand == 0
  | _ => false

/-- Whether the first number is at most the second one.  What is no number is not compared. -/
def atMost : Binary64 → Binary64 → Bool
  | .notANumber, _ => false
  | _, .notANumber => false
  | .infinite true, _ => true
  | _, .infinite false => true
  | .infinite false, _ => false
  | _, .infinite true => false
  | .finite left leftSignificand leftExponent, .finite right rightSignificand rightExponent =>
      let (leftTop, leftBottom) := scaled leftSignificand leftExponent
      let (rightTop, rightBottom) := scaled rightSignificand rightExponent
      let signed (negative : Bool) (size : Nat) : Int := if negative then -size else size
      signed left (leftTop * rightBottom) ≤ signed right (rightTop * leftBottom)

/-- The lesser of two numbers, or the one of them that is a number. -/
def least : Binary64 → Binary64 → Binary64
  | .notANumber, right => right
  | left, .notANumber => left
  | left, right => if left.atMost right then left else right

/-- Whether a number is less than zero.  Negative zero is not. -/
def isNegative : Binary64 → Bool
  | .notANumber => false
  | .infinite negative => negative
  | .finite negative significand _ => negative && significand != 0

end Binary64

end Tenancy.Number
