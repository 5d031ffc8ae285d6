import Tenancy.Number.Binary64
import Tenancy.Text.Digits

/-!
# Shortest decimals

Which decimal stands for a floating-point number: among the decimals that round
to it, one with the fewest digits, and of these the nearest.  Of two that are as
near the even one is taken.
-/

namespace Tenancy.Number

/-- A whole number times a power of ten. -/
structure Decimal where
  significand : Nat
  exponent : Int
deriving DecidableEq, Repr

namespace Decimal

def ratio (decimal : Decimal) : Nat × Nat :=
  (decimal.significand * Nat.pow 10 decimal.exponent.toNat, Nat.pow 10 (-decimal.exponent).toNat)

/-- Whether a decimal rounds to the same floating-point number as a quotient. -/
def roundsTo (top bottom : Nat) (decimal : Decimal) : Bool :=
  Binary64.ofRatio false decimal.ratio.1 decimal.ratio.2 == Binary64.ofRatio false top bottom

/-- Of the two decimals of an exponent next to a quotient, the nearest that
rounds to the same floating-point number. -/
def nearby? (top bottom : Nat) (exponent : Int) : Option Decimal :=
  let unit := ratio ⟨1, exponent⟩
  let scaledTop := top * unit.2
  let scaledBottom := bottom * unit.1
  let below := scaledTop / scaledBottom
  match roundsTo top bottom ⟨below, exponent⟩, roundsTo top bottom ⟨below + 1, exponent⟩ with
  | true, true => some ⟨roundedQuotient scaledTop scaledBottom, exponent⟩
  | true, false => some ⟨below, exponent⟩
  | false, true => some ⟨below + 1, exponent⟩
  | false, false => none

/-- The first such decimal from an exponent downwards. -/
def shortestFrom (top bottom : Nat) : (steps : Nat) → (exponent : Int) → Decimal
  | 0, exponent => ⟨top * (ratio ⟨1, exponent⟩).2 / (bottom * (ratio ⟨1, exponent⟩).1), exponent⟩
  | steps + 1, exponent =>
      match nearby? top bottom exponent with
      | some decimal => decimal
      | none => shortestFrom top bottom steps (exponent - 1)

/-- A power of ten above a positive quotient, and at most a hundred times as
great. -/
def exponentAbove (top bottom : Nat) : Int :=
  if bottom ≤ top then (Text.digits (top / bottom)).length
  else 2 - (Text.digits (bottom / top)).length

/-- The shortest decimal for the floating-point number next to a positive
quotient.  It has at most seventeen digits. -/
def shortest (top bottom : Nat) : Decimal :=
  shortestFrom top bottom 20 (exponentAbove top bottom)

end Decimal

/-- The decimal text of the floating-point number nearest to a whole number. -/
def doubleText (value : Int) : String :=
  let magnitude :=
    if value = 0 then "0"
    else Text.decimal (Decimal.shortest (nearestDouble value.natAbs) 1).ratio.1
  if value < 0 then "-" ++ magnitude else magnitude

end Tenancy.Number
