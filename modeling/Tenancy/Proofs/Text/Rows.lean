import Tenancy.Proofs.Text.Numeral

/-!
# Rows of digits

A number that fits is the value of its row of digits, with or without zeros in
front, and a row ends where no digit follows.
-/

namespace Tenancy.Text

theorem isDigit_of_mem_fixedDigits (width value : Nat) :
    ∀ character ∈ fixedDigits width value, isDigit character = true := by
  induction width generalizing value with
  | zero => exact fun _ member => nomatch member
  | succ width induction => exact (isRow_append_digit (induction (value / 10)) value).digits

theorem length_fixedDigits (width value : Nat) : (fixedDigits width value).length = width := by
  induction width generalizing value with
  | zero => rfl
  | succ width induction => simp [fixedDigits, induction]

theorem isRow_fixedDigits {width : Nat} (wide : 0 < width) (value : Nat) :
    IsRow (fixedDigits width value) := by
  refine ⟨?_, isDigit_of_mem_fixedDigits width value⟩
  rw [← List.length_pos_iff, length_fixedDigits]
  exact wide

theorem digitsValue_fixedDigits {width value : Nat} (fits : value < Nat.pow 10 width) :
    digitsValue 0 (fixedDigits width value) = value := by
  induction width generalizing value with
  | zero =>
      have zero : value = 0 := Nat.lt_one_iff.1 fits
      rw [zero]
      rfl
  | succ width induction =>
      have shorter : value / 10 < Nat.pow 10 width := Nat.div_lt_of_lt_mul (Nat.mul_comm .. ▸ fits)
      rw [fixedDigits, digitsValue_append_digit (Nat.mod_lt value (by decide)), induction shorter]
      omega

theorem isRow_paddedDigits {width : Nat} (wide : 0 < width) (value : Nat) :
    IsRow (paddedDigits width value) := by
  unfold paddedDigits
  split
  · exact isRow_fixedDigits wide value
  · exact isRow_digits value

theorem digitsValue_paddedDigits (width value : Nat) :
    digitsValue 0 (paddedDigits width value) = value := by
  unfold paddedDigits
  split
  next fits => exact digitsValue_fixedDigits fits
  next => exact digitsValue_digits value

/-- A row of digits ends here. -/
def Ends (rest : List Char) : Prop := ∀ character ∈ rest.head?, isDigit character = false

section

variable {row rest : List Char}

theorem Ends.take (ends : Ends rest) (most : Nat) : Ends (rest.take most) := by
  intro character first
  rw [List.head?_take] at first
  split at first
  · cases first
  · exact ends character first

theorem dropWhile_of_ends (ends : Ends rest) : rest.dropWhile isDigit = rest := by
  cases rest with
  | nil => rfl
  | cons first rest =>
      have other : isDigit first = false := ends first rfl
      simp [other]

theorem takeWhile_row (digits : IsRow row) (ends : Ends rest) :
    (row ++ rest).takeWhile isDigit = row := by
  rw [List.takeWhile_append_of_pos digits.digits]
  cases rest with
  | nil => simp
  | cons first rest =>
      have other : isDigit first = false := ends first rfl
      simp [other]

theorem dropWhile_row (digits : IsRow row) (ends : Ends rest) :
    (row ++ rest).dropWhile isDigit = rest := by
  rw [List.dropWhile_append_of_pos digits.digits, dropWhile_of_ends ends]

theorem trimFront_row (digits : IsRow row) (rest : List Char) :
    trimFront (row ++ rest) = row ++ rest := by
  obtain ⟨first, tail, rfl⟩ := List.exists_cons_of_ne_nil digits.filled
  have visible := isBlank_eq_false_of_isDigit (digits.digits first List.mem_cons_self)
  simp [trimFront, visible]

theorem not_isRow_of_append_eq {tail : List Char} {sign : Char} (signed : isDigit sign = false)
    (shape : row ++ rest = sign :: tail) : ¬IsRow row := by
  intro digits
  obtain ⟨first, others, rfl⟩ := List.exists_cons_of_ne_nil digits.filled
  obtain ⟨rfl, _⟩ := List.cons.inj shape
  exact not_isRow_of_sign signed digits

end

end Tenancy.Text
