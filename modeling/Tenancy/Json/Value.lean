import Tenancy.Number.Binary64

/-!
# JSON values

Objects keep their members in the order of the text.  Whole numbers that fit
in 64 bits are told apart from all other numbers, which are floating-point
numbers.  A text can be well formed and still say something that cannot be held, such as
half of a surrogate pair; a reader that passes over such a value does not mind.
-/

namespace Tenancy

inductive Json where
  | null
  | boolean (value : Bool)
  | integer (value : Int)
  | floating (value : Number.Binary64)
  | string (value : String)
  | array (items : List Json)
  | object (members : List (String × Json))
  /-- A well-formed value that cannot be held. -/
  | unreadable
deriving Inhabited

namespace Json

/-- An object that leaves out the members without a value. -/
def objectOf (members : List (String × Option Json)) : Json :=
  .object (members.filterMap fun member => member.2.map fun value => (member.1, value))

def ofOption : Option Json → Json
  | none => .null
  | some value => value

def isNull : Json → Bool
  | .null => true
  | _ => false

def asString? : Json → Option String
  | .string value => some value
  | _ => none

/-- A text, or none for null. -/
def asOptionalString? : Json → Option (Option String)
  | .null => some none
  | .string value => some (some value)
  | _ => none

def asArray? : Json → Option (List Json)
  | .array items => some items
  | _ => none

mutual

/-- Whether a value can be held with everything in it. -/
def isReadable : Json → Bool
  | .unreadable => false
  | .array items => areReadable items
  | .object members => areReadableMembers members
  | _ => true

def areReadable : List Json → Bool
  | [] => true
  | item :: items => isReadable item && areReadable items

/-- Whether the values of all members of an object can be held. -/
def areReadableMembers : List (String × Json) → Bool
  | [] => true
  | (_, value) :: members => isReadable value && areReadableMembers members

end

/-- All members of a name, in order. -/
def membersNamed (name : String) (members : List (String × Json)) : List Json :=
  (members.filter fun member => member.1 == name).map Prod.snd

/-- The values of a record's fields, read from an object or from an array.
A field of an object is there at most once, and other members are passed
over; an array holds at least the first `least` fields, in their order and
with nothing after them.  A field that is missing is none. -/
def fieldsFrom? (least : Nat) (names : List String) : Json → Option (List (Option Json))
  | .object members =>
      names.mapM fun name =>
        match membersNamed name members with
        | [] => some none
        | [value] => some (some value)
        | _ => none
  | .array items =>
      if least ≤ items.length ∧ items.length ≤ names.length then
        some (items.map some ++ List.replicate (names.length - items.length) none)
      else none
  | _ => none

/-- The fields of a record that an array gives in full. -/
def recordFields? (names : List String) : Json → Option (List (Option Json)) :=
  fieldsFrom? names.length names

/-- The fields of a record of which an array may leave out the last ones. -/
def leadingFields? (names : List String) : Json → Option (List (Option Json)) :=
  fieldsFrom? 0 names

end Json

end Tenancy
