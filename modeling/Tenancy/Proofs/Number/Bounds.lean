import Mathlib.Algebra.Order.Field.Power
import Mathlib.Algebra.Order.Field.Rat
import Mathlib.Tactic.FieldSimp
import Mathlib.Tactic.Linarith
import Mathlib.Tactic.MkIffOfInductiveProp
import Mathlib.Tactic.NormNum
import Mathlib.Tactic.Positivity
import Mathlib.Tactic.Ring
import Tenancy.Number.Binary64

/-!
# Signs and bounds in floating point

Rounding keeps the sign, and it never crosses a floating-point number.  So a quotient
that is nearer to a number than to the next greater one rounds to no more than that
number, and so do sums and products whose exact values are.
-/

namespace Tenancy.Number

theorem roundedQuotient_le {numerator denominator bound : Nat}
    (nearer : 2 * numerator < (2 * bound + 1) * denominator) :
    roundedQuotient numerator denominator ≤ bound := by
  have positive : 0 < denominator := by
    by_contra none
    simp [show denominator = 0 by omega] at nearer
  have whole : denominator * (numerator / denominator) + numerator % denominator = numerator :=
    Nat.div_add_mod _ _
  have quotient : numerator / denominator ≤ bound := by
    rw [← Nat.lt_succ_iff, Nat.div_lt_iff_lt_mul positive]
    rw [Nat.add_mul, Nat.mul_assoc] at nearer
    rw [Nat.succ_mul]
    omega
  simp only [roundedQuotient]
  split
  · exact quotient
  · next notNearer =>
      rcases Nat.lt_or_eq_of_le quotient with less | same
      · exact less
      · rw [same] at whole
        rw [Nat.add_mul, Nat.mul_assoc, Nat.mul_comm bound] at nearer
        omega

namespace Binary64

/-- The number is finite and, but for its sign, at most the bound. -/
def Within (bound : ℚ) : Binary64 → Prop
  | .finite _ significand exponent => (significand : ℚ) * 2 ^ exponent ≤ bound
  | _ => False

/-- The significand has all 53 digits, and the exponent is below the greatest one. -/
@[mk_iff]
structure Full (significand : Nat) (exponent : Int) : Prop where
  normal : 2 ^ 52 ≤ significand
  fits : significand < 2 ^ 53
  least : -1074 ≤ exponent
  greatest : exponent < 971

instance (significand : Nat) (exponent : Int) : Decidable (Full significand exponent) :=
  decidable_of_iff' _ (full_iff significand exponent)

theorem scaled_bottom_pos (value : Nat) (exponent : Int) : 0 < (scaled value exponent).2 :=
  Nat.two_pow_pos _

/-- What the two numbers stand for. -/
theorem scaled_quotient (value : Nat) (exponent : Int) :
    ((scaled value exponent).1 : ℚ) / (scaled value exponent).2 = value * 2 ^ exponent := by
  rcases Int.eq_nat_or_neg exponent with ⟨power, rfl | rfl⟩
  · simp [scaled]
  · simp [scaled, div_eq_mul_inv]

theorem scaled_top (value : Nat) (exponent : Int) :
    ((scaled value exponent).1 : ℚ) = value * 2 ^ exponent * (scaled value exponent).2 := by
  rw [← scaled_quotient]
  have positive : ((scaled value exponent).2 : ℚ) ≠ 0 := by
    exact_mod_cast (scaled_bottom_pos value exponent).ne'
  field_simp

theorem floorLog2_spec {numerator denominator : Nat} (numerous : numerator ≠ 0)
    (nonzero : denominator ≠ 0) :
    (2 : ℚ) ^ floorLog2 numerator denominator * denominator ≤ numerator ∧
      (numerator : ℚ) < 2 ^ (floorLog2 numerator denominator + 1) * denominator := by
  have top : (2 : ℚ) ^ Nat.log2 numerator ≤ numerator := by
    exact_mod_cast Nat.log2_self_le numerous
  have aboveTop : (numerator : ℚ) < 2 ^ (Nat.log2 numerator + 1) := by
    exact_mod_cast Nat.lt_log2_self
  have bottom : (2 : ℚ) ^ Nat.log2 denominator ≤ denominator := by
    exact_mod_cast Nat.log2_self_le nonzero
  have aboveBottom : (denominator : ℚ) < 2 ^ (Nat.log2 denominator + 1) := by
    exact_mod_cast Nat.lt_log2_self
  generalize estimated : (Nat.log2 numerator : Int) - Nat.log2 denominator = estimate
  have unit := scaled_top 1 estimate
  have parts : (0 : ℚ) < (scaled 1 estimate).2 := by
    exact_mod_cast scaled_bottom_pos 1 estimate
  have reaches : denominator * (scaled 1 estimate).1 ≤ numerator * (scaled 1 estimate).2 ↔
      (2 : ℚ) ^ estimate * denominator ≤ numerator := by
    rw [← Nat.cast_le (α := ℚ), Nat.cast_mul, Nat.cast_mul, unit, Nat.cast_one, one_mul,
      mul_left_comm, ← mul_assoc, mul_le_mul_iff_left₀ parts]
  have two : (2 : ℚ) ≠ 0 := by norm_num
  simp only [floorLog2, estimated]
  split
  · next reached =>
      refine ⟨reaches.1 reached, ?_⟩
      calc (numerator : ℚ) < 2 ^ (Nat.log2 numerator + 1) := aboveTop
        _ = 2 ^ (estimate + 1) * 2 ^ Nat.log2 denominator := by
            rw [← zpow_natCast, ← zpow_natCast, ← zpow_add₀ two]
            congr 1
            push_cast
            omega
        _ ≤ 2 ^ (estimate + 1) * denominator := by gcongr
  · next below =>
      rw [reaches, not_le] at below
      refine ⟨?_, by simpa using below⟩
      calc (2 : ℚ) ^ (estimate - 1) * denominator
          ≤ 2 ^ (estimate - 1) * 2 ^ (Nat.log2 denominator + 1) := by gcongr
        _ = 2 ^ Nat.log2 numerator := by
            rw [← zpow_natCast, ← zpow_natCast, ← zpow_add₀ two]
            congr 1
            push_cast
            omega
        _ ≤ numerator := top

section

variable {significand numerator denominator : Nat} {scale : Int}

theorem floorLog2_lt (full : Full significand scale) (numerous : numerator ≠ 0)
    (nonzero : denominator ≠ 0)
    (nearer : (numerator : ℚ) < (significand + 1 / 2) * 2 ^ scale * denominator) :
    floorLog2 numerator denominator < 53 + scale := by
  have two : (2 : ℚ) ≠ 0 := by norm_num
  have positive : (0 : ℚ) < denominator := by exact_mod_cast Nat.pos_of_ne_zero nonzero
  have fits : (significand : ℚ) + 1 ≤ 2 ^ 53 := by exact_mod_cast full.fits
  obtain ⟨lower, _⟩ := floorLog2_spec numerous nonzero
  have powers : (2 : ℚ) ^ floorLog2 numerator denominator * denominator <
      2 ^ (53 + scale) * denominator := by
    calc (2 : ℚ) ^ floorLog2 numerator denominator * denominator ≤ numerator := lower
      _ < (significand + 1 / 2) * 2 ^ scale * denominator := nearer
      _ ≤ 2 ^ 53 * 2 ^ scale * denominator := by
          gcongr
          linarith
      _ = 2 ^ (53 + scale) * denominator := by
          rw [zpow_add₀ two]
          norm_num
  rw [mul_lt_mul_iff_left₀ positive] at powers
  exact (zpow_lt_zpow_iff_right₀ (by norm_num)).1 powers

/-- Only a quotient below the number can have a finer exponent than the number. -/
theorem nearer_of_finer {exponent : Int} {shift : Nat}
    (full : Full significand (exponent + shift)) (numerous : numerator ≠ 0)
    (nonzero : denominator ≠ 0) (finer : floorLog2 numerator denominator ≤ 52 + exponent)
    (nearer : (numerator : ℚ) < (significand + 1 / 2) * 2 ^ (exponent + shift) * denominator) :
    (numerator : ℚ) < (significand * 2 ^ shift + 1 / 2) * 2 ^ exponent * denominator := by
  cases shift with
  | zero => simpa using nearer
  | succ shift =>
      have two : (2 : ℚ) ≠ 0 := by norm_num
      have normal : (2 : ℚ) ^ 52 ≤ significand := by exact_mod_cast full.normal
      have coarser : floorLog2 numerator denominator + 1 ≤ 52 + (exponent + (shift + 1 : Nat)) := by
        omega
      obtain ⟨_, upper⟩ := floorLog2_spec numerous nonzero
      calc (numerator : ℚ) < 2 ^ (floorLog2 numerator denominator + 1) * denominator := upper
        _ ≤ 2 ^ (52 + (exponent + (shift + 1 : Nat))) * denominator :=
            mul_le_mul_of_nonneg_right (zpow_le_zpow_right₀ one_le_two coarser)
              (Nat.cast_nonneg denominator)
        _ = 2 ^ 52 * 2 ^ (shift + 1) * 2 ^ exponent * denominator := by
            have normalPower : (2 : ℚ) ^ (52 : Int) = 2 ^ 52 := by norm_num
            rw [zpow_add₀ two, zpow_add₀ two, zpow_natCast, normalPower]
            ring
        _ ≤ (significand * 2 ^ (shift + 1) + 1 / 2) * 2 ^ exponent * denominator := by
            gcongr
            have scaledUp : (2 : ℚ) ^ 52 * 2 ^ (shift + 1) ≤ significand * 2 ^ (shift + 1) := by
              gcongr
            linarith

/-- A quotient nearer to a number than to the next greater one is rounded to no
more than that number. -/
theorem within_ofRatio (negative : Bool) (full : Full significand scale)
    (nonzero : denominator ≠ 0)
    (nearer : (numerator : ℚ) < (significand + 1 / 2) * 2 ^ scale * denominator) :
    (ofRatio negative numerator denominator).Within (significand * 2 ^ scale) := by
  by_cases zero : numerator = 0
  · simp only [ofRatio, zero, if_true, Within, Nat.cast_zero, zero_mul]
    positivity
  have power := floorLog2_lt full zero nonzero nearer
  have least := full.least
  have greatest := full.greatest
  -- The exponent that the quotient is rounded at is not greater than that of the number.
  generalize chosen : max (-1074) (floorLog2 numerator denominator - 52) = exponent
  obtain ⟨shift, rfl⟩ : ∃ shift : Nat, scale = exponent + shift :=
    ⟨(scale - exponent).toNat, by omega⟩
  have nearest := nearer_of_finer full zero nonzero (by omega) nearer
  have rounded : roundedQuotient (numerator * (scaled 1 exponent).2)
      (denominator * (scaled 1 exponent).1) ≤ significand * 2 ^ shift := by
    apply roundedQuotient_le
    have unit := scaled_top 1 exponent
    have parts : (0 : ℚ) < (scaled 1 exponent).2 := by
      exact_mod_cast scaled_bottom_pos 1 exponent
    rw [← Nat.cast_lt (α := ℚ)]
    push_cast
    rw [unit]
    have times := mul_lt_mul_of_pos_right nearest parts
    push_cast
    linarith
  simp only [ofRatio, zero, if_false, chosen]
  rw [if_neg (by omega)]
  simp only [Within]
  calc _ ≤ ((significand * 2 ^ shift : Nat) : ℚ) * 2 ^ exponent := by gcongr
    _ = significand * 2 ^ (exponent + shift) := by
        rw [zpow_add₀ (by norm_num), zpow_natCast]
        push_cast
        ring

end

theorem within_addMagnitudes {left right : Nat} {leftExponent rightExponent : Int}
    {leftBound rightBound : ℚ} {significand : Nat} {scale : Int}
    (leftWithin : (left : ℚ) * 2 ^ leftExponent ≤ leftBound)
    (rightWithin : (right : ℚ) * 2 ^ rightExponent ≤ rightBound)
    (full : Full significand scale)
    (nearer : leftBound + rightBound < (significand + 1 / 2) * 2 ^ scale) :
    (addMagnitudes left leftExponent right rightExponent).Within (significand * 2 ^ scale) := by
  have leftBottom := scaled_bottom_pos left leftExponent
  have rightBottom := scaled_bottom_pos right rightExponent
  have leftTop := scaled_top left leftExponent
  have rightTop := scaled_top right rightExponent
  have sum : addMagnitudes left leftExponent right rightExponent =
      ofRatio false
        ((scaled left leftExponent).1 * (scaled right rightExponent).2 +
          (scaled right rightExponent).1 * (scaled left leftExponent).2)
        ((scaled left leftExponent).2 * (scaled right rightExponent).2) := rfl
  rw [sum]
  apply within_ofRatio false full (Nat.mul_pos leftBottom rightBottom).ne'
  have positive : (0 : ℚ) < (scaled left leftExponent).2 * (scaled right rightExponent).2 := by
    exact_mod_cast Nat.mul_pos leftBottom rightBottom
  push_cast
  calc _ = (left * 2 ^ leftExponent + right * 2 ^ rightExponent) *
          ((scaled left leftExponent).2 * (scaled right rightExponent).2 : ℚ) := by
        rw [leftTop, rightTop]
        ring
    _ < (significand + 1 / 2) * 2 ^ scale *
          ((scaled left leftExponent).2 * (scaled right rightExponent).2) := by
        apply mul_lt_mul_of_pos_right _ positive
        linarith

theorem Within.mul {left right : Binary64} {leftBound rightBound : ℚ} {significand : Nat}
    {scale : Int} (leftWithin : left.Within leftBound) (rightWithin : right.Within rightBound)
    (full : Full significand scale)
    (nearer : leftBound * rightBound < (significand + 1 / 2) * 2 ^ scale) :
    (left.mul right).Within (significand * 2 ^ scale) := by
  cases left with
  | notANumber => exact leftWithin.elim
  | infinite leftNegative => exact leftWithin.elim
  | finite leftNegative first leftExponent =>
      cases right with
      | notANumber => exact rightWithin.elim
      | infinite rightNegative => exact rightWithin.elim
      | finite rightNegative second rightExponent =>
          have bottom := scaled_bottom_pos (first * second) (leftExponent + rightExponent)
          have product : (finite leftNegative first leftExponent).mul
              (finite rightNegative second rightExponent) =
                ofRatio (leftNegative != rightNegative)
                  (scaled (first * second) (leftExponent + rightExponent)).1
                  (scaled (first * second) (leftExponent + rightExponent)).2 := rfl
          rw [product]
          apply within_ofRatio _ full bottom.ne'
          rw [scaled_top]
          apply mul_lt_mul_of_pos_right _ (by exact_mod_cast bottom)
          calc ((first * second : Nat) : ℚ) * 2 ^ (leftExponent + rightExponent)
              = first * 2 ^ leftExponent * (second * 2 ^ rightExponent) := by
                rw [zpow_add₀ (by norm_num)]
                push_cast
                ring
            _ ≤ leftBound * rightBound :=
                mul_le_mul leftWithin rightWithin (by positivity)
                  (le_trans (by positivity) leftWithin)
            _ < _ := nearer

/-- No minus sign, not even before a zero. -/
def Unsigned : Binary64 → Prop
  | .notANumber => True
  | .infinite negative => negative = false
  | .finite negative _ _ => negative = false

theorem Unsigned.isNegative_eq_false {number : Binary64} (unsigned : number.Unsigned) :
    number.isNegative = false := by
  cases number with
  | notANumber => rfl
  | infinite negative => exact unsigned
  | finite negative significand exponent =>
      have positive : negative = false := unsigned
      simp [isNegative, positive]

theorem unsigned_ofRatio (numerator denominator : Nat) :
    (ofRatio false numerator denominator).Unsigned := by
  unfold ofRatio
  split
  · rfl
  · simp only
    split <;> rfl

theorem isNegative_ofRatio {negative : Bool} {numerator : Nat} (denominator : Nat)
    (cause : negative = false ∨ numerator = 0) :
    (ofRatio negative numerator denominator).isNegative = false := by
  rcases cause with positive | zero
  · subst positive
    exact (unsigned_ofRatio numerator denominator).isNegative_eq_false
  · simp [ofRatio, zero, isNegative]

/-- The product of an unsigned number with one that is not negative is not
negative, also when that one is negative zero. -/
theorem isNegative_mul_eq_false {left right : Binary64} (unsigned : left.Unsigned)
    (steady : right.isNegative = false) : (left.mul right).isNegative = false := by
  cases left with
  | notANumber => rfl
  | infinite leftNegative =>
      have leftPositive : leftNegative = false := unsigned
      cases right with
      | notANumber => rfl
      | infinite rightNegative =>
          have rightPositive : rightNegative = false := steady
          simp [mul, isNegative, leftPositive, rightPositive]
      | finite rightNegative significand exponent =>
          simp only [mul]
          split
          · rfl
          · next nonzero =>
              have rightPositive : rightNegative = false := by
                simpa [isNegative, nonzero] using steady
              simp [isNegative, leftPositive, rightPositive]
  | finite leftNegative leftSignificand leftExponent =>
      have leftPositive : leftNegative = false := unsigned
      cases right with
      | notANumber => rfl
      | infinite rightNegative =>
          have rightPositive : rightNegative = false := steady
          simp only [mul]
          split
          · rfl
          · simp [isNegative, leftPositive, rightPositive]
      | finite rightNegative rightSignificand rightExponent =>
          simp only [mul]
          apply isNegative_ofRatio
          by_cases zero : rightSignificand = 0
          · exact .inr (by simp [scaled, zero])
          · have rightPositive : rightNegative = false := by
              simpa [isNegative, zero] using steady
            exact .inl (by simp [leftPositive, rightPositive])

theorem atMost_finite {left right : Nat} {leftExponent rightExponent : Int} :
    (finite false left leftExponent).atMost (finite false right rightExponent) = true ↔
      (scaled left leftExponent).1 * (scaled right rightExponent).2 ≤
        (scaled right rightExponent).1 * (scaled left leftExponent).2 :=
  decide_eq_true_iff.trans Int.ofNat_le

/-- The lesser of a number that is not negative and one within a bound is within
the bound, also when the first one is infinite or no number. -/
theorem Within.least {left right : Binary64} {bound : ℚ} (steady : left.isNegative = false)
    (unsigned : right.Unsigned) (within : right.Within bound) :
    (left.least right).Within bound ∧ (left.least right).isNegative = false := by
  have second : right.Within bound ∧ right.isNegative = false :=
    ⟨within, unsigned.isNegative_eq_false⟩
  cases right with
  | notANumber => exact within.elim
  | infinite negative => exact within.elim
  | finite rightNegative rightSignificand rightExponent =>
      have rightPositive : rightNegative = false := unsigned
      subst rightPositive
      cases left with
      | notANumber => exact second
      | infinite leftNegative =>
          have leftPositive : leftNegative = false := steady
          subst leftPositive
          exact second
      | finite leftNegative leftSignificand leftExponent =>
          simp only [Binary64.least]
          split
          · next lesser =>
              refine ⟨le_trans ?_ within, steady⟩
              cases leftNegative with
              | true =>
                  have zero : leftSignificand = 0 := by simpa [isNegative] using steady
                  rw [zero, Nat.cast_zero, zero_mul]
                  positivity
              | false =>
                  have crossed := atMost_finite.1 lesser
                  have leftBottom : (0 : ℚ) < (scaled leftSignificand leftExponent).2 := by
                    exact_mod_cast scaled_bottom_pos leftSignificand leftExponent
                  have rightBottom : (0 : ℚ) < (scaled rightSignificand rightExponent).2 := by
                    exact_mod_cast scaled_bottom_pos rightSignificand rightExponent
                  rw [← scaled_quotient, ← scaled_quotient, div_le_div_iff₀ leftBottom rightBottom]
                  exact_mod_cast crossed
          · exact second

end Binary64

end Tenancy.Number
