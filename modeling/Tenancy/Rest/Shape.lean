import Tenancy.Json.Value
import Tenancy.Number.Word
import Tenancy.Time.Rfc3339

/-!
# Shapes

What a value of an object may look like, as data.  A record names its fields:
each of them may be missing or null, may be there more than once and has its
own shape every time; members that the record does not name are passed over.
-/

namespace Tenancy.Rest

open Number

inductive Shape where
  | text
  | flag
  | integer32
  | integer64
  | time
  /-- A whole number of 32 bits or a text. -/
  | integerOrText
  /-- Any value that can be held. -/
  | readable
  | list (item : Shape)
  | dictionary (value : Shape)
  | record (fields : List (String × Shape))

/-- Whether a value is a whole number in a range. -/
def isIntegerIn (least greatest : Int) : Json → Bool
  | .integer value => least ≤ value && value ≤ greatest
  | _ => false

namespace Shape

/-- Fields of one shape. -/
def each (shape : Shape) (names : List String) : List (String × Shape) :=
  names.map fun name => (name, shape)

def texts (names : List String) : Shape := .record (text.each names)

mutual

def admits : Shape → Json → Bool
  | .text, value => value.asString?.isSome
  | .flag, .boolean _ => true
  | .integer32, value => isIntegerIn leastSigned32 greatestSigned32 value
  | .integer64, value => isIntegerIn leastSigned64 greatestSigned64 value
  | .time, value => (value.asString?.bind Rfc3339.read?).isSome
  | .integerOrText, value =>
      value.asString?.isSome || isIntegerIn leastSigned32 greatestSigned32 value
  | .readable, value => value.isReadable
  | .list item, .array items => items.all fun value => admits item value
  | .dictionary value, .object members => members.all fun member => admits value member.2
  | .record fields, .object members => admitsFields fields members
  | _, _ => false

/-- Whether all members that the fields name have their shapes, or are null. -/
def admitsFields : List (String × Shape) → List (String × Json) → Bool
  | [], _ => true
  | (name, shape) :: fields, members =>
      ((Json.membersNamed name members).all fun value => value.isNull || admits shape value) &&
        admitsFields fields members

end

end Shape

end Tenancy.Rest
