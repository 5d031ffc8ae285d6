import Tenancy.Http.Percent
import Tenancy.Proofs.Text.Utf8

/-!
# Percent decoding

What a segment of a path stands for, told octet by octet: an escape stands for
the octet whose value its two digits give, and every other octet, a stray
percent sign among them, for itself.
-/

namespace Tenancy.Http

/-- A hexadecimal digit, in ASCII, and its value. -/
inductive HexDigit : UInt8 → Nat → Prop where
  | decimal {octet : UInt8} (low : 0x30 ≤ octet) (high : octet ≤ 0x39) :
      HexDigit octet (octet.toNat - 0x30)
  | small {octet : UInt8} (low : 0x61 ≤ octet) (high : octet ≤ 0x66) :
      HexDigit octet (octet.toNat - 0x61 + 10)
  | capital {octet : UInt8} (low : 0x41 ≤ octet) (high : octet ≤ 0x46) :
      HexDigit octet (octet.toNat - 0x41 + 10)

/-- Octets that start with a percent sign and two hexadecimal digits. -/
inductive Escape : List UInt8 → Prop where
  | mk {high low : UInt8} {first second : Nat} {rest : List UInt8}
      (left : HexDigit high first) (right : HexDigit low second) :
      Escape (0x25 :: high :: low :: rest)

/-- What octets stand for. -/
inductive Decodes : List UInt8 → List UInt8 → Prop where
  | nil : Decodes [] []
  | escape {high low : UInt8} {first second : Nat} {rest decoded : List UInt8}
      (left : HexDigit high first) (right : HexDigit low second) (later : Decodes rest decoded) :
      Decodes (0x25 :: high :: low :: rest) (UInt8.ofNat (first * 16 + second) :: decoded)
  | literal {octet : UInt8} {rest decoded : List UInt8} (plain : ¬Escape (octet :: rest))
      (later : Decodes rest decoded) : Decodes (octet :: rest) (octet :: decoded)

theorem hexOctet?_eq (octet : UInt8) : hexOctet? octet =
    if 0x30 ≤ octet ∧ octet ≤ 0x39 then some (octet.toNat - 0x30)
    else if 0x61 ≤ octet ∧ octet ≤ 0x66 then some (octet.toNat - 0x61 + 10)
    else if 0x41 ≤ octet ∧ octet ≤ 0x46 then some (octet.toNat - 0x41 + 10)
    else none := by
  have bounded := octet.toNat_lt
  have code : (Char.ofNat octet.toNat).val.toNat = octet.toNat := Text.toNat_ofNat (by omega)
  simp only [hexOctet?, Json.hexValue?, Char.le_def, UInt32.le_iff_toNat_le,
    UInt8.le_iff_toNat_le, code, Char.toNat]
  rfl

theorem hexOctet?_eq_some_iff {octet : UInt8} {value : Nat} :
    hexOctet? octet = some value ↔ HexDigit octet value := by
  rw [hexOctet?_eq]
  constructor
  · intro found
    split at found
    next range =>
      cases found
      exact .decimal range.1 range.2
    next =>
      split at found
      next range =>
        cases found
        exact .small range.1 range.2
      next =>
        split at found
        next range =>
          cases found
          exact .capital range.1 range.2
        next => cases found
  · intro digit
    cases digit with
    | decimal low high => rw [if_pos ⟨low, high⟩]
    | small low high =>
        have above : 0x61 ≤ octet.toNat := low
        rw [if_neg, if_pos ⟨low, high⟩]
        intro decimal
        have below : octet.toNat ≤ 0x39 := decimal.2
        omega
    | capital low high =>
        have above : 0x41 ≤ octet.toNat := low
        have below : octet.toNat ≤ 0x46 := high
        rw [if_neg, if_neg, if_pos ⟨low, high⟩]
        · intro small
          have far : 0x61 ≤ octet.toNat := small.1
          omega
        · intro decimal
          have near : octet.toNat ≤ 0x39 := decimal.2
          omega

theorem decodes_decodeOctets (octets : List UInt8) : Decodes octets (decodeOctets octets) := by
  fun_induction decodeOctets octets with
  | case1 => exact .nil
  | case2 high low rest first second foundLow foundHigh induction =>
      exact .escape (hexOctet?_eq_some_iff.1 foundHigh) (hexOctet?_eq_some_iff.1 foundLow) induction
  | case3 high low rest stray induction =>
      refine .literal ?_ induction
      intro escape
      cases escape with
      | mk left right =>
          exact stray _ _ (hexOctet?_eq_some_iff.2 left) (hexOctet?_eq_some_iff.2 right)
  | case4 octet high low rest other induction =>
      refine .literal ?_ induction
      intro escape
      cases escape
      exact other rfl
  | case5 octet rest short induction =>
      refine .literal ?_ induction
      intro escape
      cases escape
      exact short _ _ _ rfl

/-- Octets stand for one thing only. -/
theorem Decodes.unique {octets first second : List UInt8} (left : Decodes octets first)
    (right : Decodes octets second) : first = second := by
  induction left generalizing second with
  | nil =>
      cases right
      rfl
  | escape highDigit lowDigit later induction =>
      cases right with
      | escape highAgain lowAgain laterAgain =>
          have high := hexOctet?_eq_some_iff.2 highDigit
          have low := hexOctet?_eq_some_iff.2 lowDigit
          rw [hexOctet?_eq_some_iff.2 highAgain] at high
          rw [hexOctet?_eq_some_iff.2 lowAgain] at low
          cases high
          cases low
          rw [induction laterAgain]
      | literal plain laterAgain => exact absurd (.mk highDigit lowDigit) plain
  | literal plain later induction =>
      cases right with
      | escape highAgain lowAgain laterAgain => exact absurd (.mk highAgain lowAgain) plain
      | literal plainAgain laterAgain => rw [induction laterAgain]

theorem ofOctets?_eq_some_iff {row : List UInt8} {text : String} :
    ofOctets? row = some text ↔ row = octets text := by
  rw [ofOctets?, Text.fromUTF8?_eq_some_iff]
  constructor
  · intro same
    rw [octets, ← same]
  · intro same
    apply ByteArray.ext
    rw [same, octets]

/-- A segment has a name exactly when what it stands for is the name in UTF-8. -/
theorem decodePercent?_eq_some_iff {segment name : String} :
    decodePercent? segment = some name ↔ Decodes (octets segment) (octets name) := by
  rw [decodePercent?, ofOctets?_eq_some_iff]
  constructor
  · intro same
    exact same ▸ decodes_decodeOctets (octets segment)
  · intro decodes
    exact (decodes_decodeOctets (octets segment)).unique decodes

/-- A stray percent sign stays. -/
example : decodePercent? "zombie%2da%2" = some "zombie-a%2" := by decide

example : decodePercent? "%ff" = none := by decide

end Tenancy.Http
