import Tenancy.Text.Digits

/-!
# Reading decimals back

The digits of a number have it as their value, so no two numbers are written
alike.
-/

namespace Tenancy.Text

theorem digitValue?_digitChar {digit : Nat} (small : digit < 10) :
    digitValue? (digitChar digit) = some digit := by
  have all : ∀ digit < 10, digitValue? (digitChar digit) = some digit := by decide
  exact all digit small

theorem digitsValue_append_digit {digit : Nat} (small : digit < 10) (start : Nat)
    (row : List Char) :
    digitsValue start (row ++ [digitChar digit]) = digitsValue start row * 10 + digit := by
  simp [digitsValue, List.foldl_append, digitValue?_digitChar small]

theorem digitsValue_digits (value : Nat) : digitsValue 0 (digits value) = value := by
  induction value using digits.induct with
  | case1 value small =>
      rw [digits, if_pos small]
      simpa [digitsValue] using digitsValue_append_digit small 0 []
  | case2 value large induction =>
      rw [digits, if_neg large, digitsValue_append_digit (Nat.mod_lt value (by decide)), induction]
      omega

theorem decimal_injective {first second : Nat} (same : decimal first = decimal second) :
    first = second := by
  have rows : digits first = digits second := String.ofList_injective same
  rw [← digitsValue_digits first, rows, digitsValue_digits]

end Tenancy.Text
