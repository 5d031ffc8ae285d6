import Tenancy.Proofs.Text.Blank
import Tenancy.Proofs.Text.Digits
import Tenancy.Text.Numeral

/-!
# Numerals and integers

Which texts are numerals, and of which integer: a sign that may be left out and
then digits, at least one.  The reader accepts the numerals of the integers in
range and no other text.
-/

namespace Tenancy.Text

/-- Digits, and at least one. -/
structure IsRow (row : List Char) : Prop where
  filled : row ≠ []
  digits : ∀ character ∈ row, isDigit character = true

/-- The text is a numeral of the integer. -/
inductive Denotes : List Char → Int → Prop where
  | unsigned {row : List Char} (digits : IsRow row) : Denotes row (digitsValue 0 row)
  | plus {row : List Char} (digits : IsRow row) : Denotes ('+' :: row) (digitsValue 0 row)
  | minus {row : List Char} (digits : IsRow row) : Denotes ('-' :: row) (-(digitsValue 0 row : Int))

theorem digitsValue_cons {character : Char} {digit : Nat}
    (known : digitValue? character = some digit) (start : Nat) (row : List Char) :
    digitsValue start (character :: row) = digitsValue (start * 10 + digit) row := by
  simp [digitsValue, known]

theorem le_digitsValue (start : Nat) (row : List Char) : start ≤ digitsValue start row := by
  induction row generalizing start with
  | nil => exact Nat.le_refl start
  | cons character row induction =>
      have continued := induction (start * 10 + (digitValue? character).getD 0)
      have shown : digitsValue start (character :: row) =
          digitsValue (start * 10 + (digitValue? character).getD 0) row := rfl
      omega

/-- The value only grows, so a reading that stops at the bound stops rightly. -/
theorem readDigits_eq_ok_iff {negative : Bool} {bound start value : Nat} {row : List Char}
    (within : start ≤ bound) :
    readDigits negative bound start row = .ok value ↔
      (∀ character ∈ row, isDigit character = true) ∧ digitsValue start row = value ∧
        value ≤ bound := by
  induction row generalizing start with
  | nil =>
      simp only [readDigits, Except.ok.injEq, List.not_mem_nil, false_imp_iff, implies_true,
        true_and]
      constructor
      · rintro rfl
        exact ⟨rfl, within⟩
      · exact fun both => both.1
  | cons character row induction =>
      rw [readDigits]
      cases known : digitValue? character with
      | none => simp [isDigit, known]
      | some digit =>
          have shown : isDigit character = true := by simp [isDigit, known]
          have grown := le_digitsValue (start * 10 + digit) row
          simp only [digitsValue_cons known, List.forall_mem_cons, shown, true_and]
          by_cases fits : start * 10 + digit ≤ bound
          · simp only [fits, if_true]
            exact induction fits
          · simp only [fits, if_false]
            constructor
            · intro stopped
              cases stopped
            · rintro ⟨_, rfl, small⟩
              omega

theorem not_isRow_nil : ¬IsRow [] := fun row => row.filled rfl

theorem not_isRow_of_sign {sign : Char} {rest : List Char} (signed : isDigit sign = false) :
    ¬IsRow (sign :: rest) := by
  intro row
  have digit := row.digits sign List.mem_cons_self
  rw [signed] at digit
  cases digit

section

variable {rest : List Char} {least greatest value : Int}

theorem denotes_plus_iff :
    Denotes ('+' :: rest) value ↔ IsRow rest ∧ (digitsValue 0 rest : Int) = value := by
  constructor
  · intro denotes
    cases denotes with
    | unsigned digits => exact absurd digits (not_isRow_of_sign (by decide))
    | plus digits => exact ⟨digits, rfl⟩
  · intro row
    obtain ⟨digits, rfl⟩ := row
    exact .plus digits

theorem denotes_minus_iff :
    Denotes ('-' :: rest) value ↔ IsRow rest ∧ -(digitsValue 0 rest : Int) = value := by
  constructor
  · intro denotes
    cases denotes with
    | unsigned digits => exact absurd digits (not_isRow_of_sign (by decide))
    | minus digits => exact ⟨digits, rfl⟩
  · intro row
    obtain ⟨digits, rfl⟩ := row
    exact .minus digits

theorem denotes_unsigned_iff (notPlus : ∀ row, rest ≠ '+' :: row)
    (notMinus : ∀ row, rest ≠ '-' :: row) :
    Denotes rest value ↔ IsRow rest ∧ (digitsValue 0 rest : Int) = value := by
  constructor
  · intro denotes
    cases denotes with
    | unsigned digits => exact ⟨digits, rfl⟩
    | plus digits => exact absurd rfl (notPlus _)
    | minus digits => exact absurd rfl (notMinus _)
  · intro row
    obtain ⟨digits, rfl⟩ := row
    exact .unsigned digits

/-- What is read behind a sign, or without one, when the bound on the digits
stands for the range of the integers. -/
theorem map_readDigits_eq_ok_iff {negative : Bool} {bound : Nat} (filled : rest ≠ [])
    {signed : Nat → Int}
    (inRange : ∀ number, number ≤ bound ↔ least ≤ signed number ∧ signed number ≤ greatest) :
    (readDigits negative bound 0 rest).map signed = .ok value ↔
      (IsRow rest ∧ signed (digitsValue 0 rest) = value) ∧ least ≤ value ∧ value ≤ greatest := by
  constructor
  · intro read
    cases result : readDigits negative bound 0 rest with
    | error fault =>
        rw [result] at read
        cases read
    | ok number =>
        obtain ⟨digits, rfl, small⟩ := (readDigits_eq_ok_iff (Nat.zero_le bound)).1 result
        rw [result] at read
        cases read
        exact ⟨⟨⟨filled, digits⟩, rfl⟩, (inRange _).1 small⟩
  · intro denoted
    obtain ⟨⟨row, rfl⟩, bounds⟩ := denoted
    have read : readDigits negative bound 0 rest = .ok (digitsValue 0 rest) :=
      (readDigits_eq_ok_iff (Nat.zero_le bound)).2 ⟨row.digits, rfl, (inRange _).2 bounds⟩
    rw [read]
    rfl

/-- With negative numbers in range, the reader accepts the numerals of the
integers in range and yields these integers. -/
theorem readInteger_eq_ok_iff (below : least < 0) (above : 0 ≤ greatest) {text : String} :
    readInteger least greatest text = .ok value ↔
      Denotes text.toList value ∧ least ≤ value ∧ value ≤ greatest := by
  have upward : ∀ number : Nat, number ≤ greatest.toNat ↔
      least ≤ Int.ofNat number ∧ Int.ofNat number ≤ greatest := by
    intro number
    simp only [Int.ofNat_eq_natCast]
    omega
  have downward : ∀ number : Nat, number ≤ (-least).toNat ↔
      least ≤ -Int.ofNat number ∧ -Int.ofNat number ≤ greatest := by
    intro number
    simp only [Int.ofNat_eq_natCast]
    omega
  rw [readInteger]
  generalize text.toList = characters
  split
  next => simp [denotes_unsigned_iff, not_isRow_nil]
  next => simp [denotes_plus_iff, not_isRow_nil]
  next => simp [denotes_minus_iff, not_isRow_nil]
  next row lone =>
    have filled : row ≠ [] := fun nothing => lone nothing
    rw [map_readDigits_eq_ok_iff filled upward, denotes_plus_iff]
    rfl
  next row lone =>
    have filled : row ≠ [] := fun nothing => lone nothing
    rw [if_pos below, map_readDigits_eq_ok_iff filled downward, denotes_minus_iff]
    rfl
  next row empty _ _ notPlus notMinus =>
    rw [map_readDigits_eq_ok_iff empty upward, denotes_unsigned_iff notPlus notMinus]
    rfl

end

theorem readSigned64_eq_ok_iff {text : String} {value : Int} :
    readSigned64 text = .ok value ↔ Denotes text.toList value ∧
      Number.leastSigned64 ≤ value ∧ value ≤ Number.greatestSigned64 :=
  readInteger_eq_ok_iff (by decide) (by decide)

theorem isRow_append_digit {row : List Char}
    (digits : ∀ character ∈ row, isDigit character = true) (value : Nat) :
    IsRow (row ++ [digitChar (value % 10)]) := by
  have shown : ∀ digit < 10, isDigit (digitChar digit) = true := by decide
  refine ⟨by simp, ?_⟩
  intro character member
  rcases List.mem_append.1 member with early | last
  · exact digits character early
  · rw [List.mem_singleton.1 last]
    exact shown (value % 10) (Nat.mod_lt value (by decide))

theorem isRow_digits (value : Nat) : IsRow (digits value) := by
  induction value using digits.induct with
  | case1 value small =>
      rw [digits, if_pos small]
      have alone : IsRow ([] ++ [digitChar (value % 10)]) := isRow_append_digit (by simp) value
      rwa [Nat.mod_eq_of_lt small] at alone
  | case2 value large induction =>
      rw [digits, if_neg large]
      exact isRow_append_digit induction.digits value

theorem denotes_decimal (value : Nat) : Denotes (decimal value).toList value := by
  have denoted := Denotes.unsigned (isRow_digits value)
  rw [digitsValue_digits] at denoted
  rw [decimal, String.toList_ofList]
  exact denoted

theorem isBlank_eq_false_of_isDigit {character : Char} (digit : isDigit character = true) :
    isBlank character = false := by
  have within : 48 ≤ character.toNat ∧ character.toNat ≤ 57 := by
    rw [isDigit, digitValue?] at digit
    split at digit
    next range => exact range
    next => cases digit
  rw [Bool.eq_false_iff]
  simp only [isBlank, Bool.or_eq_true, Bool.and_eq_true, decide_eq_true_eq, beq_iff_eq, ne_eq]
  omega

theorem IsRow.trimmed {row : List Char} (digits : IsRow row) : Trimmed (String.ofList row) := by
  refine ⟨?_, ?_⟩
  · intro character first
    rw [String.toList_ofList] at first
    exact isBlank_eq_false_of_isDigit (digits.digits character (List.mem_of_mem_head? first))
  · intro character last
    rw [String.toList_ofList] at last
    exact isBlank_eq_false_of_isDigit (digits.digits character (List.mem_of_getLast? last))

end Tenancy.Text
