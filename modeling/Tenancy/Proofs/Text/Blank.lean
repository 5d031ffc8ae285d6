import Tenancy.Text.Blank

/-!
# Blank ends

What is left of a text without its blank ends: the one part of it that has none
itself, with nothing but blank characters around it.
-/

namespace Tenancy.Text

/-- Neither end is blank. -/
structure Trimmed (text : String) : Prop where
  front : ∀ character ∈ text.toList.head?, isBlank character = false
  back : ∀ character ∈ text.toList.getLast?, isBlank character = false

def AllBlank (characters : List Char) : Prop :=
  ∀ character ∈ characters, isBlank character = true

/-- The second text is the first one without its blank ends. -/
structure Stripped (text rest : String) : Prop where
  trimmed : Trimmed rest
  around : ∃ front back, text.toList = front ++ rest.toList ++ back ∧
    AllBlank front ∧ AllBlank back

theorem trimFront_append {front : List Char} (blank : AllBlank front) (rest : List Char) :
    trimFront (front ++ rest) = trimFront rest :=
  List.dropWhile_append_of_pos blank

theorem trimFront_eq_self {characters : List Char}
    (plain : ∀ character ∈ characters.head?, isBlank character = false) :
    trimFront characters = characters := by
  cases characters with
  | nil => rfl
  | cons first rest =>
      have visible : isBlank first = false := plain first rfl
      simp [trimFront, visible]

theorem exists_trimFront (characters : List Char) :
    ∃ front, characters = front ++ trimFront characters ∧ AllBlank front := by
  refine ⟨characters.takeWhile isBlank, List.takeWhile_append_dropWhile.symm, ?_⟩
  exact List.all_eq_true.1 List.all_takeWhile

theorem head?_trimFront (characters : List Char) :
    ∀ character ∈ (trimFront characters).head?, isBlank character = false := by
  intro character first
  have plain := List.head?_dropWhile_not isBlank characters
  rw [trimFront, Option.mem_def] at first
  rw [first] at plain
  simpa using plain

theorem AllBlank.reverse {characters : List Char} (blank : AllBlank characters) :
    AllBlank characters.reverse :=
  fun character member => blank character (List.mem_reverse.1 member)

theorem toList_trim (text : String) : (trim text).toList = trimBoth text.toList :=
  String.toList_ofList

/-- Around a text without blank ends all blank characters go. -/
theorem trimBoth_append {front middle back : List Char} (before : AllBlank front)
    (after : AllBlank back) (first : ∀ character ∈ middle.head?, isBlank character = false)
    (last : ∀ character ∈ middle.getLast?, isBlank character = false) :
    trimBoth (front ++ middle ++ back) = middle := by
  have reversed : ∀ character ∈ middle.reverse.head?, isBlank character = false := by
    rwa [List.head?_reverse]
  cases middle with
  | nil =>
      have nothing : trimFront (front ++ [] ++ back) = [] := by
        rw [List.append_assoc, trimFront_append before, List.nil_append, ← List.append_nil back,
          trimFront_append after]
        rfl
      rw [trimBoth, nothing]
      rfl
  | cons character rest =>
      have kept : trimFront (character :: rest ++ back) = character :: rest ++ back :=
        trimFront_eq_self first
      rw [trimBoth, List.append_assoc, trimFront_append before, kept, List.reverse_append,
        trimFront_append after.reverse, trimFront_eq_self reversed, List.reverse_reverse]

theorem stripped_trim (text : String) : Stripped text (trim text) := by
  obtain ⟨front, cutFront, before⟩ := exists_trimFront text.toList
  obtain ⟨back, cutBack, after⟩ := exists_trimFront (trimFront text.toList).reverse
  have middle : trimFront text.toList = trimBoth text.toList ++ back.reverse := by
    rw [trimBoth, ← List.reverse_append, ← cutBack, List.reverse_reverse]
  refine ⟨⟨?_, ?_⟩, front, back.reverse, ?_, before, after.reverse⟩
  · rw [toList_trim]
    intro character first
    apply head?_trimFront text.toList
    rw [middle, List.head?_append, Option.mem_def.1 first]
    rfl
  · rw [toList_trim, trimBoth, List.getLast?_reverse]
    exact head?_trimFront _
  · rw [toList_trim, List.append_assoc, ← middle]
    exact cutFront

/-- There is only one way to strip a text. -/
theorem trim_eq_iff {text rest : String} : trim text = rest ↔ Stripped text rest := by
  constructor
  · intro same
    exact same ▸ stripped_trim text
  · intro stripped
    obtain ⟨⟨first, last⟩, front, back, around, before, after⟩ := stripped
    rw [trim, around, trimBoth_append before after first last, String.ofList_toList]

theorem trim_eq_self {text : String} (trimmed : Trimmed text) : trim text = text :=
  trim_eq_iff.2 ⟨trimmed, [], [], by simp, by simp [AllBlank], by simp [AllBlank]⟩

theorem trim_eq_empty_iff {text : String} : trim text = "" ↔ AllBlank text.toList := by
  rw [trim_eq_iff]
  constructor
  · intro stripped
    obtain ⟨_, front, back, around, before, after⟩ := stripped
    rw [around]
    intro character member
    simp only [String.toList_empty, List.append_nil, List.mem_append] at member
    exact member.elim (before character) (after character)
  · intro blank
    exact ⟨⟨by simp, by simp⟩, text.toList, [], by simp, blank, by simp [AllBlank]⟩

end Tenancy.Text
