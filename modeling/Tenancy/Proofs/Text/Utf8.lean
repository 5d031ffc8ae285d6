/-!
# UTF-8

Octets that are the encoding of a text, and texts that are written in ASCII.
-/

namespace Tenancy.Text

theorem bytes_of_fromUTF8? {bytes : ByteArray} {text : String}
    (read : String.fromUTF8? bytes = some text) : bytes = text.toUTF8 := by
  unfold String.fromUTF8? at read
  split at read
  · cases read
    rfl
  · cases read

theorem fromUTF8?_toUTF8 (text : String) : String.fromUTF8? text.toUTF8 = some text := by
  have valid : text.toUTF8.IsValidUTF8 := text.isValidUTF8
  unfold String.fromUTF8?
  rw [dif_pos valid]
  rfl

theorem fromUTF8?_eq_some_iff {bytes : ByteArray} {text : String} :
    String.fromUTF8? bytes = some text ↔ bytes = text.toUTF8 := by
  constructor
  · exact bytes_of_fromUTF8?
  · intro same
    rw [same, fromUTF8?_toUTF8]

theorem toNat_ofNat {code : Nat} (below : code < 0xd800) : (Char.ofNat code).val.toNat = code := by
  have valid : code.isValidChar := .inl below
  rw [Char.ofNat, dif_pos valid]
  rfl

theorem utf8EncodeChar_ofNat {octet : UInt8} (ascii : octet < 0x80) :
    String.utf8EncodeChar (Char.ofNat octet.toNat) = [octet] := by
  have small : octet.toNat < 128 := by simpa [UInt8.lt_iff_toNat_lt] using ascii
  simp only [String.utf8EncodeChar, toNat_ofNat (by omega : octet.toNat < 0xd800)]
  rw [if_pos (by omega)]
  simp

/-- ASCII is UTF-8. -/
theorem fromUTF8?_of_ascii {bytes : ByteArray}
    (ascii : ∀ octet ∈ bytes.data.toList, octet < 0x80) :
    ∃ text : String, String.fromUTF8? bytes = some text := by
  let characters := bytes.data.toList.map fun octet => Char.ofNat octet.toNat
  have encoded : characters.flatMap String.utf8EncodeChar = bytes.data.toList := by
    simp only [characters]
    generalize bytes.data.toList = row at ascii
    induction row with
    | nil => rfl
    | cons octet rest induction =>
        have first := utf8EncodeChar_ofNat (ascii octet List.mem_cons_self)
        have others := induction fun other member => ascii other (List.mem_cons_of_mem octet member)
        rw [List.map_cons, List.flatMap_cons, first, others]
        rfl
  have valid : bytes.IsValidUTF8 := by
    refine ⟨characters, ?_⟩
    rw [List.utf8Encode, encoded]
    apply ByteArray.ext
    simp
  unfold String.fromUTF8?
  rw [dif_pos valid]
  exact ⟨_, rfl⟩

end Tenancy.Text
