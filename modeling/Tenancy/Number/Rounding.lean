/-!
# Rounding to nearest

Quotients rounded to the nearest whole number, a half to the even neighbour.
-/

namespace Tenancy.Number

/-- The quotient rounded to the nearest whole number, a half to the even one. -/
def roundedQuotient (numerator denominator : Nat) : Nat :=
  let whole := numerator / denominator
  let rest := 2 * (numerator % denominator)
  if rest < denominator ∨ (rest = denominator ∧ whole % 2 = 0) then whole else whole + 1

/-- The whole number of a significand of at most 53 bits and a power of two
that lies nearest. -/
def nearestDouble (value : Nat) : Nat :=
  let unit := Nat.pow 2 (Nat.log2 value + 1 - 53)
  roundedQuotient value unit * unit

end Tenancy.Number
