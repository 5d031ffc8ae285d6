/-!
# Dictionaries

Finite maps keyed by text.  The entries stand in strictly ascending key order,
so two dictionaries with the same entries are equal and a listing is always
in key order.
-/

namespace Tenancy

/-- A finite map from texts to values. -/
structure Dictionary (Value : Type) where
  entries : List (String × Value)
  ascending : entries.Pairwise fun first second => first.1 < second.1

namespace Dictionary

variable {Value : Type}

theorem ext_entries {left right : Dictionary Value} (same : left.entries = right.entries) :
    left = right := by
  cases left
  cases right
  cases same
  rfl

instance instDecidableEqOfDecidableEq [DecidableEq Value] : DecidableEq (Dictionary Value) :=
  fun left right =>
  if same : left.entries = right.entries then isTrue (ext_entries same)
  else isFalse fun equal => same (equal ▸ rfl)

/-- Bytes are compared by their contents. -/
instance : DecidableEq (Dictionary ByteArray) :=
  @instDecidableEqOfDecidableEq ByteArray ByteArray.instDecidableEq

def empty : Dictionary Value := ⟨[], .nil⟩

instance : Inhabited (Dictionary Value) := ⟨empty⟩

def find? (dictionary : Dictionary Value) (key : String) : Option Value :=
  dictionary.entries.lookup key

@[simp]
theorem find?_empty (key : String) : (empty : Dictionary Value).find? key = none := rfl

/-- Puts an entry at its place among ascending ones. -/
def place (key : String) (value : Value) : List (String × Value) → List (String × Value)
  | [] => [(key, value)]
  | (other, held) :: rest =>
      if key < other then (key, value) :: (other, held) :: rest
      else if other < key then (other, held) :: place key value rest
      else (key, value) :: rest

theorem fst_mem_place {key : String} {value : Value} {entries : List (String × Value)}
    {entry : String × Value} (member : entry ∈ place key value entries) :
    entry = (key, value) ∨ entry ∈ entries := by
  induction entries with
  | nil => simpa [place] using member
  | cons head rest induction =>
      obtain ⟨other, held⟩ := head
      simp only [place] at member
      split at member
      · simpa using member
      · split at member
        · rcases List.mem_cons.1 member with same | later
          · exact .inr (same ▸ List.mem_cons_self)
          · rcases induction later with new | old
            · exact .inl new
            · exact .inr (List.mem_cons_of_mem _ old)
        · rcases List.mem_cons.1 member with same | later
          · exact .inl same
          · exact .inr (List.mem_cons_of_mem _ later)

theorem eq_of_not_lt {left right : String} (notBelow : ¬left < right) (notAbove : ¬right < left) :
    left = right :=
  String.le_antisymm (String.not_lt.1 notAbove) (String.not_lt.1 notBelow)

theorem place_ascending (key : String) (value : Value) {entries : List (String × Value)}
    (ascending : entries.Pairwise fun first second => first.1 < second.1) :
    (place key value entries).Pairwise fun first second => first.1 < second.1 := by
  induction entries with
  | nil => simp [place]
  | cons head rest induction =>
      obtain ⟨other, held⟩ := head
      obtain ⟨above, restAscending⟩ := List.pairwise_cons.1 ascending
      simp only [place]
      split
      next below =>
        refine List.pairwise_cons.2 ⟨fun entry member => ?_, ascending⟩
        rcases List.mem_cons.1 member with same | later
        · exact same ▸ below
        · exact String.lt_trans below (above entry later)
      next notBelow =>
        split
        next otherBelow =>
          refine List.pairwise_cons.2 ⟨fun entry member => ?_, induction restAscending⟩
          rcases fst_mem_place member with new | old
          · exact new ▸ otherBelow
          · exact above entry old
        next notAbove =>
          have same : key = other := eq_of_not_lt notBelow notAbove
          exact List.pairwise_cons.2 ⟨fun entry member => same ▸ above entry member, restAscending⟩

theorem lookup_cons_entry (held other : String) (value : Value)
    (entries : List (String × Value)) :
    ((held, value) :: entries).lookup other =
      if other = held then some value else entries.lookup other := by
  by_cases same : other = held
  · simp [same]
  · rw [List.lookup_cons, beq_false_of_ne same, if_neg same]

theorem lookup_place (key other : String) (value : Value) (entries : List (String × Value)) :
    (place key value entries).lookup other =
      if other = key then some value else entries.lookup other := by
  induction entries with
  | nil => exact lookup_cons_entry key other value []
  | cons head rest induction =>
      obtain ⟨held, current⟩ := head
      simp only [place]
      split
      next => exact lookup_cons_entry key other value ((held, current) :: rest)
      next notBelow =>
        split
        next heldBelow =>
          have different : held ≠ key := fun same => String.lt_irrefl key (same ▸ heldBelow)
          rw [lookup_cons_entry, lookup_cons_entry, induction]
          by_cases found : other = held
          · rw [if_pos found, if_pos found, if_neg (found ▸ different)]
          · rw [if_neg found, if_neg found]
        next notAbove =>
          have same : key = held := eq_of_not_lt notBelow notAbove
          subst same
          rw [lookup_cons_entry, lookup_cons_entry]
          by_cases found : other = key <;> simp [found]

/-- Stores a value under a key, in place of the one held before. -/
def insert (dictionary : Dictionary Value) (key : String) (value : Value) : Dictionary Value :=
  ⟨place key value dictionary.entries, place_ascending key value dictionary.ascending⟩

@[simp]
theorem find?_insert (dictionary : Dictionary Value) (key other : String) (value : Value) :
    (dictionary.insert key value).find? other =
      if other = key then some value else dictionary.find? other :=
  lookup_place key other value dictionary.entries

def erase (dictionary : Dictionary Value) (key : String) : Dictionary Value :=
  ⟨dictionary.entries.filter fun entry => entry.1 != key, dictionary.ascending.filter _⟩

theorem lookup_filter_ne (key other : String) (entries : List (String × Value)) :
    (entries.filter fun entry => entry.1 != key).lookup other =
      if other = key then none else entries.lookup other := by
  induction entries with
  | nil => simp
  | cons head rest induction =>
      obtain ⟨held, current⟩ := head
      rw [List.filter_cons, lookup_cons_entry]
      by_cases dropped : held = key
      · rw [if_neg (by simp [dropped]), induction]
        subst dropped
        by_cases found : other = held <;> simp [found]
      · rw [if_pos (by simp [dropped]), lookup_cons_entry, induction]
        by_cases found : other = held
        · rw [if_pos found, if_pos found, if_neg (found ▸ dropped)]
        · rw [if_neg found, if_neg found]

@[simp]
theorem find?_erase (dictionary : Dictionary Value) (key other : String) :
    (dictionary.erase key).find? other = if other = key then none else dictionary.find? other :=
  lookup_filter_ne key other dictionary.entries

/-- Of several entries with one key the last counts. -/
def ofList (entries : List (String × Value)) : Dictionary Value :=
  entries.foldl (fun dictionary entry => dictionary.insert entry.1 entry.2) empty

def singleton (key : String) (value : Value) : Dictionary Value :=
  ⟨[(key, value)], List.pairwise_singleton _ _⟩

end Dictionary

end Tenancy
