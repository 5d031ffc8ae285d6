import Tenancy.Fleet.Gauges

/-!
# Reading gauges back

A figure is read as it was set, as long as floating point keeps it, and it is
gone once its workspace was forgotten.
-/

namespace Tenancy.Number

theorem signedWord_of_le {value : Nat} (small : (value : Int) ≤ greatestSigned64) :
    signedWord value = value := by
  simp only [greatestSigned64] at small
  apply Int.bmod_eq_of_le
  · simp only [greatestUnsigned64]
    omega
  · simp only [greatestUnsigned64]
    omega

theorem roundedQuotient_one (value : Nat) : roundedQuotient value 1 = value := by
  simp [roundedQuotient, Nat.mod_one]

theorem nearestDouble_of_lt {value : Nat} (small : value < Nat.pow 2 53) :
    nearestDouble value = value := by
  have narrow : Nat.log2 value + 1 - 53 = 0 := by
    by_cases zero : value = 0
    · subst zero
      decide
    · have bits := (Nat.log2_lt zero).2 small
      omega
  simp [nearestDouble, narrow, roundedQuotient_one]

end Tenancy.Number

namespace Tenancy.Fleet

open Number

theorem throughDouble_of_lt {count : Nat} (small : count < Nat.pow 2 53) :
    throughDouble (signedWord count) = count := by
  have inRange : (count : Int) ≤ greatestSigned64 := by
    have power : Nat.pow 2 53 = 9007199254740992 := by decide
    simp only [greatestSigned64]
    omega
  have notNegative : ¬(count : Int) < 0 := by omega
  rw [signedWord_of_le inRange, throughDouble, if_neg notNegative, Int.natAbs_natCast,
    nearestDouble_of_lt small]
  exact Int.min_eq_left inRange

theorem find?_forget (gauges : Gauges) (gone : List String) (name : String) :
    (gone.foldl Gauges.forget gauges).podCounts.find? name =
        (if name ∈ gone then none else gauges.podCounts.find? name) ∧
      (gone.foldl Gauges.forget gauges).staleFlags.find? name =
        (if name ∈ gone then none else gauges.staleFlags.find? name) := by
  induction gone generalizing gauges with
  | nil => exact ⟨rfl, rfl⟩
  | cons first rest induction =>
      obtain ⟨counts, flags⟩ := induction (gauges.forget first)
      rw [List.foldl_cons, counts, flags]
      by_cases later : name ∈ rest
      · simp [later]
      · by_cases same : name = first
        · simp [Gauges.forget, same]
        · simp [Gauges.forget, same, later]

theorem namespaceCount_setNamespaceCount (gauges : Gauges) (count : Nat) :
    (gauges.setNamespaceCount count).namespaceCount = signedWord count := by
  simp only [Gauges.setNamespaceCount]

-- Gauges are taken apart, since their counts must not be compared by evaluation.
theorem podCounts_setNamespaceCount (gauges : Gauges) (count : Nat) :
    (gauges.setNamespaceCount count).podCounts = gauges.podCounts := by
  cases gauges
  rfl

theorem staleFlags_setNamespaceCount (gauges : Gauges) (count : Nat) :
    (gauges.setNamespaceCount count).staleFlags = gauges.staleFlags := by
  cases gauges
  rfl

theorem namespaceCount_forget (gauges : Gauges) (gone : List String) :
    (gone.foldl Gauges.forget gauges).namespaceCount = gauges.namespaceCount := by
  induction gone generalizing gauges with
  | nil => rfl
  | cons first rest induction => exact induction (gauges.forget first)

end Tenancy.Fleet
