import Mathlib.Algebra.Order.Ring.Nat
import Tenancy.Number.Binary64

/-!
# Whole numbers in floating point

Floating point holds every whole number of up to 53 bits, whichever quotient it is
rounded from, and products of such numbers are exact as long as they have no more
bits themselves.
-/

namespace Tenancy.Number

theorem roundedQuotient_mul_right (whole : Nat) {parts : Nat} (positive : 0 < parts) :
    roundedQuotient (whole * parts) parts = whole := by
  simp [roundedQuotient, Nat.mul_div_cancel _ positive, positive]

namespace Binary64

/-- The number is this whole number: its significand has the bits that its exponent
takes away. -/
def IsWhole (value : Nat) (number : Binary64) : Prop :=
  ∃ scale : Nat, number = .finite false (value * 2 ^ scale) (-(scale : Int))

theorem scaled_down (significand scale : Nat) :
    scaled significand (-(scale : Int)) = (significand, 2 ^ scale) := by
  simp [scaled]

theorem scaled_up (significand scale : Nat) :
    scaled significand (scale : Int) = (significand * 2 ^ scale, 1) := by
  simp [scaled]

theorem log2_mul_two_pow {value : Nat} (positive : value ≠ 0) (scale : Nat) :
    Nat.log2 (value * 2 ^ scale) = Nat.log2 value + scale := by
  have power : 0 < 2 ^ scale := Nat.two_pow_pos scale
  rw [Nat.log2_eq_iff (Nat.mul_ne_zero positive (by omega))]
  have least : 2 ^ Nat.log2 value ≤ value := Nat.log2_self_le positive
  have greatest : value < 2 ^ (Nat.log2 value + 1) := Nat.lt_log2_self
  constructor
  · rw [Nat.pow_add]
    exact Nat.mul_le_mul_right _ least
  · rw [Nat.add_right_comm, Nat.pow_add]
    exact Nat.mul_lt_mul_of_pos_right greatest power

theorem floorLog2_of_whole {value : Nat} (positive : value ≠ 0) (scale : Nat) :
    floorLog2 (value * 2 ^ scale) (2 ^ scale) = Nat.log2 value := by
  have estimate : ((Nat.log2 (value * 2 ^ scale) : Int) - Nat.log2 (2 ^ scale)) =
      (Nat.log2 value : Int) := by
    rw [log2_mul_two_pow positive, Nat.log2_two_pow]
    omega
  have reached : 2 ^ scale * (1 * 2 ^ Nat.log2 value) ≤ value * 2 ^ scale * 1 := by
    rw [Nat.one_mul, Nat.mul_one, Nat.mul_comm]
    exact Nat.mul_le_mul_right _ (Nat.log2_self_le positive)
  simp only [floorLog2, estimate, scaled_up]
  rw [if_pos reached]

/-- A whole number of up to 53 bits is not rounded. -/
theorem isWhole_ofRatio {value : Nat} (small : value < 2 ^ 53) (scale : Nat) :
    IsWhole value (ofRatio false (value * 2 ^ scale) (2 ^ scale)) := by
  by_cases zero : value = 0
  · subst zero
    exact ⟨0, by simp [ofRatio]⟩
  · have bits : Nat.log2 value < 53 := (Nat.log2_lt zero).2 small
    have filled : value * 2 ^ scale ≠ 0 := Nat.mul_ne_zero zero (Nat.two_pow_pos scale).ne'
    have exponent : max (-1074) ((Nat.log2 value : Int) - 52) =
        -((52 - Nat.log2 value : Nat) : Int) := by omega
    have notLarge : ¬(971 < (-((52 - Nat.log2 value : Nat) : Int)) ∨
        ((-((52 - Nat.log2 value : Nat) : Int)) = 971 ∧
          roundedQuotient (value * 2 ^ scale * 2 ^ (52 - Nat.log2 value)) (2 ^ scale * 1) =
            9007199254740992)) := by
      omega
    refine ⟨52 - Nat.log2 value, ?_⟩
    simp only [ofRatio, filled, if_false, floorLog2_of_whole zero, exponent, scaled_down]
    rw [if_neg notLarge, Nat.mul_one, Nat.mul_right_comm,
      roundedQuotient_mul_right _ (Nat.two_pow_pos scale)]

theorem isWhole_ofNat {value : Nat} (small : value < 2 ^ 53) : IsWhole value (ofNat value) := by
  simpa [ofNat] using isWhole_ofRatio small 0

theorem IsWhole.mul {first second : Nat} {left right : Binary64} (leftWhole : IsWhole first left)
    (rightWhole : IsWhole second right) (small : first * second < 2 ^ 53) :
    IsWhole (first * second) (left.mul right) := by
  obtain ⟨leftScale, rfl⟩ := leftWhole
  obtain ⟨rightScale, rfl⟩ := rightWhole
  have scales : -(leftScale : Int) + -(rightScale : Int) =
      -((leftScale + rightScale : Nat) : Int) := by omega
  have significands : first * 2 ^ leftScale * (second * 2 ^ rightScale) =
      first * second * 2 ^ (leftScale + rightScale) := by
    rw [Nat.pow_add, Nat.mul_mul_mul_comm]
  simp only [Binary64.mul, scales, significands, scaled_down, bne_self_eq_false]
  exact isWhole_ofRatio small _

end Binary64

end Tenancy.Number
