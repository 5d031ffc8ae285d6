import Tenancy.Http.Target

/-!
# Targets read back

A target whose characters may all stand in it is read from its text as it is.  So
the path that is requested by a plain text is the text up to the query.
-/

namespace Tenancy.Http

/-- All characters may stand where they are. -/
structure Target.Plain (reach : Reach) (target : Target) : Prop where
  path : ∀ character ∈ target.path.toList, isPathCode reach character.toNat = true
  query : ∀ query, target.query = some query →
    ∀ character ∈ query.toList, isQueryCode reach character.toNat = true

section

variable {reach : Reach} {mark : Char} {row rest : List Char}

/-- A row of other characters ends at the mark, or with the text. -/
theorem takeWhile_until (free : ∀ character ∈ row, character ≠ mark)
    (stops : ∀ character ∈ rest.head?, character = mark) :
    (row ++ rest).takeWhile (· != mark) = row := by
  rw [List.takeWhile_append_of_pos (by simpa using free)]
  cases rest with
  | nil => simp
  | cons first tail => simp [stops first rfl]

theorem dropWhile_until (free : ∀ character ∈ row, character ≠ mark)
    (stops : ∀ character ∈ rest.head?, character = mark) :
    (row ++ rest).dropWhile (· != mark) = rest := by
  rw [List.dropWhile_append_of_pos (by simpa using free)]
  cases rest with
  | nil => rfl
  | cons first tail => simp [stops first rfl]

theorem takeWhile_all (free : ∀ character ∈ row, character ≠ mark) :
    row.takeWhile (· != mark) = row := by
  have all : (row ++ []).takeWhile (· != mark) = row := takeWhile_until free (by simp)
  rwa [List.append_nil] at all

theorem free_of_codes {isCode : Nat → Bool}
    (codes : ∀ character ∈ row, isCode character.toNat = true)
    (outside : isCode mark.toNat = false) : ∀ character ∈ row, character ≠ mark := by
  rintro character member rfl
  rw [codes character member] at outside
  cases outside

namespace Target

variable {target : Target}

/-- What follows the path in the text of a target. -/
def tail (target : Target) : List Char :=
  match target.query with
  | none => []
  | some query => '?' :: query.toList

theorem toList_text (target : Target) :
    target.text.toList = target.path.toList ++ target.tail := by
  obtain ⟨path, query⟩ := target
  cases query <;> simp [text, tail]

theorem ofCharacters?_text (plain : target.Plain reach) :
    ofCharacters? reach target.text.toList = some target := by
  obtain ⟨path, query⟩ := target
  obtain ⟨pathCodes, queryCodes⟩ := plain
  have question : ∀ character ∈ path.toList, character ≠ '?' :=
    free_of_codes pathCodes (by cases reach <;> decide)
  have number : ∀ character ∈ path.toList ++ tail ⟨path, query⟩, character ≠ '#' := by
    intro character member
    rcases List.mem_append.1 member with before | after
    · exact free_of_codes pathCodes (by cases reach <;> decide) character before
    · cases query with
      | none => cases after
      | some query =>
          rcases List.mem_cons.1 after with rfl | later
          · decide
          · exact free_of_codes (queryCodes query rfl) (by cases reach <;> decide) character later
  have stops : ∀ character ∈ (tail ⟨path, query⟩).head?, character = '?' := by
    cases query <;> simp [tail]
  rw [ofCharacters?, toList_text]
  simp only [takeWhile_all number, takeWhile_until question stops, dropWhile_until question stops]
  cases query with
  | none => simpa [tail] using pathCodes
  | some query => simpa [tail] using ⟨pathCodes, queryCodes query rfl⟩

/-- A client that asks for a plain path, with a query or without, asks for that path. -/
theorem requestedPath?_text (plain : target.Plain .unicode)
    (rooted : target.path.toList.head? = some '/')
    (short : target.text.utf8ByteSize ≤ mostBytes) :
    requestedPath? target.text = some target.path := by
  have read := ofCharacters?_text plain
  have slash : target.text.toList.head? = some '/' := by
    rw [toList_text, List.head?_append, rooted]
    rfl
  obtain ⟨rest, characters⟩ := List.head?_eq_some_iff.1 slash
  rw [requestedPath?, if_neg (Nat.not_lt.2 short)]
  rw [characters] at read ⊢
  simp [read]

example : requestedPath? "/v1/ns?limit=5" = some "/v1/ns" := by decide

end Target

end

end Tenancy.Http
