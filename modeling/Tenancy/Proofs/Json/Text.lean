import Tenancy.Json.Parser
import Tenancy.Json.Printer
import Tenancy.Proofs.Text.Rows

/-!
# JSON texts read back

The printed text of a value is read as that value, as long as it has no
floating-point numbers and is not nested too deep.  The reader's fuel lasts,
since every step of it takes up at least one character.
-/

namespace Tenancy.Json

open Number Text

theorem hexValue?_hexDigit {value : Nat} (small : value < 16) :
    hexValue? (hexDigit value) = some value := by
  have all : ∀ value < 16, hexValue? (hexDigit value) = some value := by decide
  exact all value small

/-- A control character is written as the unit that it is. -/
theorem readCodePoint_control {character : Char} (control : character.toNat < 0x20)
    (rest : List Char) :
    readCodePoint ('0' :: '0' :: hexDigit (character.toNat / 16) ::
      hexDigit (character.toNat % 16) :: rest) = some (some character, rest) := by
  have zero : hexValue? '0' = some 0 := by decide
  have upper := hexValue?_hexDigit (by omega : character.toNat / 16 < 16)
  have lower := hexValue?_hexDigit (by omega : character.toNat % 16 < 16)
  have unit : character.toNat / 16 * 16 + character.toNat % 16 = character.toNat := by omega
  simp only [readCodePoint, readUnit, zero, upper, lower, Option.bind_eq_bind, Option.bind_some,
    Nat.zero_mul, Nat.zero_add, unit, Option.pure_def]
  rw [if_neg (by omega), if_neg (by omega), Char.ofNat_toNat]

/-- What is written for a character is read as that character. -/
theorem readString_escape (fuel : Nat) (character : Char) (rest : List Char) :
    readString (fuel + 1) (escape character ++ rest) =
      (readString fuel rest).map fun (characters, rest) =>
        (some character :: characters, rest) := by
  unfold escape
  split
  case h_8 =>
    split
    next control =>
      simp only [List.cons_append, List.nil_append, readString, readEscape,
        readCodePoint_control control, Option.bind_eq_bind, Option.bind_some]
      cases readString fuel rest <;> rfl
    next quote backslash _ _ _ _ _ ordinary =>
      rw [List.cons_append, List.nil_append, readString, if_neg ordinary]
      · cases readString fuel rest <;> rfl
      · exact quote
      · exact backslash
  all_goals
    simp only [List.cons_append, List.nil_append, readString, readEscape, Option.bind_eq_bind,
      Option.bind_some]
    cases readString fuel rest <;> rfl

theorem readString_text {fuel : Nat} {row : List Char} (room : row.length < fuel)
    (rest : List Char) :
    readString fuel (row.flatMap escape ++ '"' :: rest) = some (row.map some, rest) := by
  induction row generalizing fuel with
  | nil =>
      obtain ⟨fuel, rfl⟩ := Nat.exists_eq_succ_of_ne_zero (Nat.ne_of_gt room)
      rfl
  | cons character row induction =>
      obtain ⟨fuel, rfl⟩ := Nat.exists_eq_succ_of_ne_zero (by omega : fuel ≠ 0)
      have shorter : row.length < fuel := Nat.lt_of_succ_lt_succ room
      rw [List.flatMap_cons, List.append_assoc, readString_escape, induction shorter]
      rfl

theorem textOf?_map_some (row : List Char) : textOf? (row.map some) = some (String.ofList row) := by
  have whole : (row.map some).mapM id = some row := by
    induction row with
    | nil => rfl
    | cons character row induction => simp [induction]
  rw [textOf?, whole]
  rfl

/-- The text of a value ends here. -/
def Closes (rest : List Char) : Prop :=
  ∀ character ∈ rest.head?, character = ',' ∨ character = ']' ∨ character = '\x7d'

theorem Closes.ends {rest : List Char} (closes : Closes rest) : Ends rest := by
  intro character first
  rcases closes character first with rfl | rfl | rfl <;> decide

theorem readFraction_closes {rest : List Char} (closes : Closes rest) :
    readFraction rest = some ([], rest) := by
  unfold readFraction
  split
  next => exact absurd (closes '.' rfl) (by decide)
  next => rfl

theorem readExponent_closes {rest : List Char} (closes : Closes rest) :
    readExponent rest = some (none, rest) := by
  cases rest with
  | nil => rfl
  | cons mark rest =>
      have other : ¬(mark = 'e' ∨ mark = 'E') := by
        rcases closes mark rfl with rfl | rfl | rfl <;> decide
      rw [readExponent, if_neg other]

/-- Only the number zero has digits that begin with a zero. -/
theorem digits_cons_zero {value : Nat} {tail : List Char} (shape : digits value = '0' :: tail) :
    value = 0 := by
  induction value using digits.induct generalizing tail with
  | case1 value small =>
      rw [digits, if_pos small] at shape
      have first := (List.cons.inj shape).1
      have back := digitValue?_digitChar small
      rw [first] at back
      exact (Option.some.inj back).symm
  | case2 value large induction =>
      rw [digits, if_neg large] at shape
      have filled := (isRow_digits (value / 10)).filled
      obtain ⟨first, others, front⟩ := List.exists_cons_of_ne_nil filled
      rw [front, List.cons_append] at shape
      obtain ⟨rfl, _⟩ := List.cons.inj shape
      have none := induction front
      omega

theorem readDigitRow_row {row rest : List Char} (digits : IsRow row) (ends : Ends rest) :
    readDigitRow (row ++ rest) = some (row, rest) := by
  have filled : row.isEmpty = false := by simpa using digits.filled
  simp only [readDigitRow, takeWhile_row digits ends, dropWhile_row digits ends, filled]
  rfl

theorem readWhole_digits (value : Nat) {rest : List Char} (ends : Ends rest) :
    readWhole (digits value ++ rest) = some (digits value, rest) := by
  by_cases zero : value = 0
  · have alone : digits 0 = ['0'] := by
      rw [digits, if_pos (by decide)]
      rfl
    have nothing : (rest.head?.map isDigit).getD false = false := by
      cases rest with
      | nil => rfl
      | cons first rest => exact ends first rfl
    rw [zero, alone, List.singleton_append, readWhole, nothing]
    rfl
  · unfold readWhole
    split
    next tail shape =>
      obtain ⟨first, others, front⟩ := List.exists_cons_of_ne_nil (isRow_digits value).filled
      rw [front, List.cons_append] at shape
      obtain ⟨rfl, _⟩ := List.cons.inj shape
      exact absurd (digits_cons_zero front) zero
    next => exact readDigitRow_row (isRow_digits value) ends

theorem readNumeral_integerText (value : Int) {rest : List Char} (closes : Closes rest) :
    readNumeral (integerText value ++ rest) =
      some (⟨decide (value < 0), digits value.natAbs, [], none⟩, rest) := by
  unfold integerText
  split
  next negative =>
    simp [readNumeral, readWhole_digits _ closes.ends, readFraction_closes closes,
      readExponent_closes closes, negative]
  next positive =>
    have same : value.toNat = value.natAbs := by omega
    have row := isRow_digits value.natAbs
    have unsigned : ((digits value.natAbs ++ rest).head? == some '-') = false := by
      obtain ⟨first, others, front⟩ := List.exists_cons_of_ne_nil row.filled
      have digit := row.digits first (front ▸ List.mem_cons_self)
      have other : first ≠ '-' := by
        rintro rfl
        exact absurd digit (by decide)
      simp [front, other]
    simp only [same, readNumeral, unsigned, Bool.false_eq_true, if_false, Option.bind_eq_bind,
      Option.bind_some, readWhole_digits _ closes.ends, readFraction_closes closes,
      readExponent_closes closes, positive, decide_false]
    rfl

theorem value_integer {value : Int} (least : leastSigned64 ≤ value)
    (greatest : value ≤ greatestUnsigned64) :
    (Numeral.mk (decide (value < 0)) (digits value.natAbs) [] none).value = .integer value := by
  have whole : (Numeral.mk (decide (value < 0)) (digits value.natAbs) [] none).integer? =
      some value := by
    unfold leastSigned64 at least
    unfold greatestUnsigned64 at greatest
    simp only [Numeral.integer?, digitsValue_digits, leastSigned64, greatestUnsigned64]
    by_cases negative : value < 0
    · have fits : 0 < value.natAbs ∧ value.natAbs ≤ (-9223372036854775808 : Int).natAbs := by omega
      have back : -(value.natAbs : Int) = value := by omega
      simp only [negative, decide_true, if_true, if_pos fits, back]
      rfl
    · have fits : value.natAbs ≤ 18446744073709551615 := by omega
      have back : (value.natAbs : Int) = value := by omega
      simp only [negative, decide_false, Bool.false_eq_true, if_false, if_pos fits, back]
      rfl
  rw [Numeral.value, whole]

/-- Values without floating-point numbers, nested at most so deep. -/
inductive Fits : Nat → Json → Prop where
  | null {depth : Nat} : Fits depth .null
  | boolean {depth : Nat} (value : Bool) : Fits depth (.boolean value)
  | integer {depth : Nat} {value : Int} (least : leastSigned64 ≤ value)
      (greatest : value ≤ greatestUnsigned64) : Fits depth (.integer value)
  | string {depth : Nat} (value : String) : Fits depth (.string value)
  | array {depth : Nat} {items : List Json} (each : ∀ item ∈ items, Fits depth item) :
      Fits (depth + 1) (.array items)
  | object {depth : Nat} {members : List (String × Json)}
      (each : ∀ member ∈ members, Fits depth member.2) : Fits (depth + 1) (.object members)

theorem integerText_head {value : Int} {first : Char} {tail rest : List Char}
    (shape : integerText value ++ rest = first :: tail) : isDigit first = true ∨ first = '-' := by
  have unsigned {number : Nat} (shape : digits number ++ rest = first :: tail) :
      isDigit first = true := by
    cases shown : isDigit first with
    | true => rfl
    | false => exact absurd (isRow_digits number) (not_isRow_of_append_eq shown shape)
  unfold integerText at shape
  split at shape
  · exact .inr (List.cons.inj shape).1.symm
  · exact .inl (unsigned shape)

theorem isSpace_of_numeral {first : Char} (head : isDigit first = true ∨ first = '-') :
    isSpace first = false := by
  rw [Bool.eq_false_iff]
  intro space
  simp only [isSpace, Bool.or_eq_true, beq_iff_eq] at space
  rcases head with digit | rfl
  · rcases space with ((rfl | rfl) | rfl) | rfl <;> exact absurd digit (by decide)
  · exact absurd space (by decide)

/-- What the text of a value begins with: neither a blank nor a closing bracket. -/
theorem exists_first {depth : Nat} {value : Json} (fits : Fits depth value) :
    ∃ first tail, characters value = first :: tail ∧ isSpace first = false ∧ first ≠ ']' := by
  cases fits with
  | null => exact ⟨_, _, by rw [characters], by decide, by decide⟩
  | boolean value => cases value <;> exact ⟨_, _, by rw [characters], by decide, by decide⟩
  | @integer _ value =>
      have filled : integerText value ≠ [] := by
        unfold integerText
        split
        · exact List.cons_ne_nil _ _
        · exact (isRow_digits _).filled
      obtain ⟨first, tail, shape⟩ := List.exists_cons_of_ne_nil filled
      have head : isDigit first = true ∨ first = '-' :=
        integerText_head ((List.append_nil _).trans shape)
      refine ⟨first, tail, by rw [characters, shape], isSpace_of_numeral head, ?_⟩
      rintro rfl
      exact absurd head (by decide)
  | string value => exact ⟨'"', _, by rw [characters, stringText]; rfl, by decide, by decide⟩
  | @array _ items =>
      cases items with
      | nil => exact ⟨_, _, by rw [characters], by decide, by decide⟩
      | cons item items => exact ⟨_, _, by rw [characters]; rfl, by decide, by decide⟩
  | @object _ members =>
      cases members with
      | nil => exact ⟨_, _, by rw [characters], by decide, by decide⟩
      | cons member members => exact ⟨_, _, by rw [characters]; rfl, by decide, by decide⟩

theorem skipSpace_cons {first : Char} (visible : isSpace first = false) (rest : List Char) :
    skipSpace (first :: rest) = first :: rest := by
  simp [skipSpace, visible]

/-- The reader gets a value back from its text, whatever comes after it. -/
def Reads (depth : Nat) (value : Json) : Prop :=
  ∀ fuel rest, (characters value).length < fuel → Closes rest →
    readValue fuel depth (characters value ++ rest) = some (value, rest)

theorem reads_integer (depth : Nat) {value : Int} (least : leastSigned64 ≤ value)
    (greatest : value ≤ greatestUnsigned64) : Reads depth (.integer value) := by
  intro fuel rest room closes
  obtain ⟨fuel, rfl⟩ := Nat.exists_eq_succ_of_ne_zero (by omega : fuel ≠ 0)
  obtain ⟨first, tail, shape, visible, _⟩ := exists_first (.integer least greatest : Fits 0 _)
  rw [characters] at shape ⊢
  have space : skipSpace (integerText value ++ rest) = integerText value ++ rest := by
    rw [shape, List.cons_append, skipSpace_cons visible]
  rw [readValue, space]
  split
  case h_7 =>
    rw [readNumeral_integerText value closes, ← value_integer least greatest]
    rfl
  all_goals
    next other => exact absurd (integerText_head other) (by decide)

theorem closes_itemsText (items : List Json) (rest : List Char) :
    Closes (itemsText items ++ rest) := by
  cases items with
  | nil => exact fun _ first => .inr (.inl (Option.mem_some.1 first).symm)
  | cons item items => exact fun _ first => .inl (Option.mem_some.1 first).symm

theorem closes_membersText (members : List (String × Json)) (rest : List Char) :
    Closes (membersText members ++ rest) := by
  cases members with
  | nil => exact fun _ first => .inr (.inr (Option.mem_some.1 first).symm)
  | cons member members => exact fun _ first => .inl (Option.mem_some.1 first).symm

theorem length_itemsText_cons (item : Json) (items : List Json) :
    (itemsText (item :: items)).length =
      (characters item).length + (itemsText items).length + 1 := by
  simp [itemsText]

/-- Each item has its comma or bracket after it, so the fuel lasts for the next. -/
theorem readItems_text {depth fuel : Nat} {item : Json} {items : List Json}
    (each : ∀ one ∈ item :: items, Reads depth one)
    (room : (characters item).length + (itemsText items).length < fuel) (rest : List Char) :
    readItems fuel depth (characters item ++ (itemsText items ++ rest)) =
      some (item :: items, rest) := by
  induction items generalizing item fuel with
  | nil =>
      obtain ⟨fuel, rfl⟩ := Nat.exists_eq_succ_of_ne_zero (by omega : fuel ≠ 0)
      have closing : (itemsText []).length = 1 := by rw [itemsText]; rfl
      have first := each item List.mem_cons_self fuel _ (by omega) (closes_itemsText [] rest)
      rw [readItems, first, itemsText]
      rfl
  | cons next items induction =>
      obtain ⟨fuel, rfl⟩ := Nat.exists_eq_succ_of_ne_zero (by omega : fuel ≠ 0)
      have length := length_itemsText_cons next items
      have first := each item List.mem_cons_self fuel _ (by omega)
        (closes_itemsText (next :: items) rest)
      have others := induction (fun one member => each one (List.mem_cons_of_mem _ member))
        (by omega : _ < fuel)
      rw [readItems, first, itemsText]
      simp only [Option.bind_eq_bind, Option.bind_some, List.cons_append, List.append_assoc,
        skipSpace_cons (by decide : isSpace ',' = false), others]
      rfl

theorem length_membersText_cons (name : String) (value : Json) (members : List (String × Json)) :
    (membersText ((name, value) :: members)).length =
      (stringText name).length + (characters value).length + (membersText members).length + 2 := by
  simp [membersText]
  omega

theorem le_length_escape (character : Char) : 1 ≤ (escape character).length := by
  unfold escape
  split
  case h_8 => split <;> simp
  all_goals decide

theorem length_le_stringText (name : String) :
    name.toList.length + 2 ≤ (stringText name).length := by
  have shorter : name.toList.length ≤ (name.toList.flatMap escape).length := by
    induction name.toList with
    | nil => exact Nat.le_refl 0
    | cons character row induction =>
        have one := le_length_escape character
        simp only [List.length_cons, List.flatMap_cons, List.length_append]
        omega
  simp only [stringText, List.cons_append, List.length_cons, List.length_append, List.length_nil]
  omega

theorem stringText_append (name : String) (rest : List Char) :
    stringText name ++ rest = '"' :: (name.toList.flatMap escape ++ '"' :: rest) := by
  simp [stringText]

theorem readString_stringText {fuel : Nat} {name : String}
    (room : (stringText name).length ≤ fuel) (rest : List Char) :
    readString fuel (name.toList.flatMap escape ++ '"' :: rest) =
      some (name.toList.map some, rest) := by
  have length := length_le_stringText name
  exact readString_text (by omega) rest

theorem textOf?_toList (text : String) : textOf? (text.toList.map some) = some text := by
  rw [textOf?_map_some, String.ofList_toList]

theorem reads_string (depth : Nat) (value : String) : Reads depth (.string value) := by
  intro fuel rest room closes
  rw [characters] at room ⊢
  obtain ⟨fuel, rfl⟩ := Nat.exists_eq_succ_of_ne_zero (by omega : fuel ≠ 0)
  rw [stringText_append, readValue, skipSpace_cons (by decide)]
  simp only [readString_stringText (Nat.le_of_lt_succ room), Option.bind_eq_bind,
    Option.bind_some, textOf?_toList]
  rfl

theorem readMembers_text {depth fuel : Nat} {name : String} {value : Json}
    {members : List (String × Json)}
    (each : ∀ member ∈ (name, value) :: members, Reads depth member.2)
    (room : (stringText name).length + (characters value).length +
      (membersText members).length + 1 < fuel) (rest : List Char) :
    readMembers fuel depth
        (stringText name ++ ':' :: (characters value ++ (membersText members ++ rest))) =
      some (((name, value) :: members).map fun member => (some member.1, member.2), rest) := by
  induction members generalizing name value fuel with
  | nil =>
      obtain ⟨fuel, rfl⟩ := Nat.exists_eq_succ_of_ne_zero (by omega : fuel ≠ 0)
      have closing : (membersText []).length = 1 := by rw [membersText]; rfl
      have first := each (name, value) List.mem_cons_self fuel _ (by simp only; omega)
        (closes_membersText [] rest)
      rw [stringText_append, readMembers, skipSpace_cons (by decide)]
      simp only [readString_stringText (by omega : (stringText name).length ≤ fuel),
        Option.bind_eq_bind, Option.bind_some, skipSpace_cons (by decide : isSpace ':' = false),
        first, textOf?_toList]
      rw [membersText]
      rfl
  | cons next members induction =>
      obtain ⟨fuel, rfl⟩ := Nat.exists_eq_succ_of_ne_zero (by omega : fuel ≠ 0)
      obtain ⟨nextName, nextValue⟩ := next
      have length := length_membersText_cons nextName nextValue members
      have first := each (name, value) List.mem_cons_self fuel _ (by simp only; omega)
        (closes_membersText ((nextName, nextValue) :: members) rest)
      have others := induction (fun one member => each one (List.mem_cons_of_mem _ member))
        (by omega : _ < fuel)
      rw [stringText_append, readMembers, skipSpace_cons (by decide)]
      simp only [readString_stringText (by omega : (stringText name).length ≤ fuel),
        Option.bind_eq_bind, Option.bind_some, skipSpace_cons (by decide : isSpace ':' = false),
        first, textOf?_toList]
      rw [membersText]
      simp only [List.cons_append, List.append_assoc,
        skipSpace_cons (by decide : isSpace ',' = false), others]
      rfl

theorem reads_array {depth : Nat} {items : List Json} (each : ∀ item ∈ items, Fits depth item)
    (reads : ∀ item ∈ items, Reads depth item) : Reads (depth + 1) (.array items) := by
  intro fuel rest room closes
  obtain ⟨fuel, rfl⟩ := Nat.exists_eq_succ_of_ne_zero (by omega : fuel ≠ 0)
  cases items with
  | nil =>
      rw [characters]
      rfl
  | cons item items =>
      rw [characters] at room ⊢
      simp only [List.cons_append, List.append_assoc, List.length_cons,
        List.length_append] at room ⊢
      have read := readItems_text reads (by omega : _ < fuel) rest
      obtain ⟨first, tail, shape, visible, opening⟩ := exists_first (each item List.mem_cons_self)
      rw [readValue, skipSpace_cons (by decide)]
      simp only [shape, List.cons_append, skipSpace_cons visible]
      rw [shape, List.cons_append] at read
      split
      next closed => exact absurd (List.cons.inj closed).1 opening
      next =>
        simp only [Nat.add_sub_cancel, read, Option.bind_eq_bind, Option.bind_some]
        rfl

theorem mapM_named?_some (members : List (String × Json)) :
    (members.map fun member => (some member.1, member.2)).mapM named? = some members := by
  induction members with
  | nil => rfl
  | cons member members induction => simp [named?, induction]

theorem reads_object {depth : Nat} {members : List (String × Json)}
    (reads : ∀ member ∈ members, Reads depth member.2) : Reads (depth + 1) (.object members) := by
  intro fuel rest room closes
  obtain ⟨fuel, rfl⟩ := Nat.exists_eq_succ_of_ne_zero (by omega : fuel ≠ 0)
  cases members with
  | nil =>
      rw [characters]
      rfl
  | cons member members =>
      obtain ⟨name, value⟩ := member
      rw [characters] at room ⊢
      simp only [List.cons_append, List.append_assoc, List.length_cons,
        List.length_append] at room ⊢
      have read := readMembers_text reads (by omega : _ < fuel) rest
      rw [readValue, skipSpace_cons (by decide)]
      simp only [stringText_append, skipSpace_cons (by decide : isSpace '"' = false)]
      rw [stringText_append] at read
      split
      next other => exact absurd (List.cons.inj other).1 (by decide)
      next =>
        simp only [Nat.add_sub_cancel, read, Option.bind_eq_bind, Option.bind_some,
          mapM_named?_some]
        rfl

theorem reads_of_fits {depth : Nat} {value : Json} (fits : Fits depth value) :
    Reads depth value := by
  induction fits with
  | null =>
      intro fuel rest room closes
      obtain ⟨fuel, rfl⟩ := Nat.exists_eq_succ_of_ne_zero (by omega : fuel ≠ 0)
      rw [characters]
      rfl
  | boolean value =>
      intro fuel rest room closes
      obtain ⟨fuel, rfl⟩ := Nat.exists_eq_succ_of_ne_zero (by omega : fuel ≠ 0)
      cases value <;> rw [characters] <;> rfl
  | integer least greatest => exact reads_integer _ least greatest
  | string value => exact reads_string _ value
  | array each induction => exact reads_array each induction
  | object each induction => exact reads_object induction

/-- The reader gets back what was printed. -/
theorem parse?_render {value : Json} (fits : Fits 127 value) :
    parse? (render value) = some value := by
  have whole := reads_of_fits fits (2 * (characters value).length + 2) [] (by omega)
    (by simp [Closes])
  rw [List.append_nil] at whole
  rw [parse?, render, String.toList_ofList]
  simp only [whole]
  rfl

end Tenancy.Json
