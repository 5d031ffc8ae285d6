import Tenancy.Json.Numeral
import Tenancy.Json.Value
import Tenancy.Text.Digits

/-!
# Reading JSON

Reads the one value of a text.  Strings hold no raw control characters, and
numbers are written as the grammar has them.  What cannot be held is read as
such: strings with half of a surrogate pair, objects with such a name, numbers
out of range, and arrays and objects that are nested more than 127 deep.
-/

namespace Tenancy.Json

open Text

def isSpace (character : Char) : Bool :=
  character == ' ' || character == '\n' || character == '\t' || character == '\r'

def skipSpace (input : List Char) : List Char := input.dropWhile isSpace

def hexValue? (character : Char) : Option Nat :=
  if '0' ≤ character ∧ character ≤ '9' then some (character.toNat - '0'.toNat)
  else if 'a' ≤ character ∧ character ≤ 'f' then some (character.toNat - 'a'.toNat + 10)
  else if 'A' ≤ character ∧ character ≤ 'F' then some (character.toNat - 'A'.toNat + 10)
  else none

def readUnit : List Char → Option (Nat × List Char)
  | first :: second :: third :: fourth :: rest => do
      let unit :=
        (((← hexValue? first) * 16 + (← hexValue? second)) * 16 + (← hexValue? third)) * 16 +
          (← hexValue? fourth)
      return (unit, rest)
  | _ => none

/-- The low half of a surrogate pair, written as an escape. -/
def readLowHalf : List Char → Option (Nat × List Char)
  | '\\' :: 'u' :: input => do
      let (unit, rest) ← readUnit input
      if 0xdc00 ≤ unit ∧ unit ≤ 0xdfff then return (unit, rest) else none
  | _ => none

/-- The character after the letter of a numeric escape: one unit, or a high and
a low half of a surrogate pair.  Half of a pair alone is no character. -/
def readCodePoint (input : List Char) : Option (Option Char × List Char) := do
  let (unit, input) ← readUnit input
  if 0xd800 ≤ unit ∧ unit ≤ 0xdbff then
    match readLowHalf input with
    | some (low, rest) =>
        return (some (Char.ofNat (0x10000 + (unit - 0xd800) * 0x400 + (low - 0xdc00))), rest)
    | none => return (none, input)
  else if 0xdc00 ≤ unit ∧ unit ≤ 0xdfff then return (none, input)
  else return (some (Char.ofNat unit), input)

/-- The character that an escape after a backslash stands for. -/
def readEscape : List Char → Option (Option Char × List Char)
  | '"' :: rest => some (some '"', rest)
  | '\\' :: rest => some (some '\\', rest)
  | '/' :: rest => some (some '/', rest)
  | 'b' :: rest => some (some '\x08', rest)
  | 'f' :: rest => some (some '\x0c', rest)
  | 'n' :: rest => some (some '\n', rest)
  | 'r' :: rest => some (some '\r', rest)
  | 't' :: rest => some (some '\t', rest)
  | 'u' :: rest => readCodePoint rest
  | _ => none

/-- The rest of a string after its opening quote, halves of surrogate pairs
marked. -/
def readString : Nat → List Char → Option (List (Option Char) × List Char)
  | 0, _ => none
  | fuel + 1, input =>
      match input with
      | '"' :: rest => some ([], rest)
      | '\\' :: rest => do
          let (character, rest) ← readEscape rest
          let (characters, rest) ← readString fuel rest
          return (character :: characters, rest)
      | character :: rest =>
          if character.toNat < 0x20 then none
          else do
            let (characters, rest) ← readString fuel rest
            return (some character :: characters, rest)
      | [] => none

/-- The text that a string denotes, if it has no half of a surrogate pair. -/
def textOf? (characters : List (Option Char)) : Option String :=
  (characters.mapM id).map String.ofList

/-- An array or object where arrays and objects can be held `depth` deep. -/
def nested (depth : Nat) (value : Json) : Json := if depth = 0 then .unreadable else value

/-- A member whose name can be held. -/
def named? (member : Option String × Json) : Option (String × Json) :=
  member.1.map fun name => (name, member.2)

mutual

/-- Reads a value where arrays and objects can be held `depth` deep. -/
def readValue : (fuel depth : Nat) → List Char → Option (Json × List Char)
  | 0, _, _ => none
  | fuel + 1, depth, input =>
      match skipSpace input with
      | 'n' :: 'u' :: 'l' :: 'l' :: rest => some (.null, rest)
      | 't' :: 'r' :: 'u' :: 'e' :: rest => some (.boolean true, rest)
      | 'f' :: 'a' :: 'l' :: 's' :: 'e' :: rest => some (.boolean false, rest)
      | '"' :: rest => do
          let (characters, rest) ← readString fuel rest
          return (((textOf? characters).map Json.string).getD .unreadable, rest)
      | '[' :: rest =>
          match skipSpace rest with
          | ']' :: rest => some (nested depth (.array []), rest)
          | rest => do
              let (items, rest) ← readItems fuel (depth - 1) rest
              return (nested depth (.array items), rest)
      | '\x7b' :: rest =>
          match skipSpace rest with
          | '\x7d' :: rest => some (nested depth (.object []), rest)
          | rest => do
              let (members, rest) ← readMembers fuel (depth - 1) rest
              return (nested depth (((members.mapM named?).map Json.object).getD .unreadable), rest)
      | rest => (readNumeral rest).map fun (numeral, rest) => (numeral.value, rest)

/-- The items of an array, with the closing bracket. -/
def readItems : (fuel depth : Nat) → List Char → Option (List Json × List Char)
  | 0, _, _ => none
  | fuel + 1, depth, input => do
      let (item, rest) ← readValue fuel depth input
      match skipSpace rest with
      | ',' :: rest => do
          let (items, rest) ← readItems fuel depth rest
          return (item :: items, rest)
      | ']' :: rest => return ([item], rest)
      | _ => none

/-- The members of an object, with the closing bracket. -/
def readMembers :
    (fuel depth : Nat) → List Char → Option (List (Option String × Json) × List Char)
  | 0, _, _ => none
  | fuel + 1, depth, input =>
      match skipSpace input with
      | '"' :: rest => do
          let (name, rest) ← readString fuel rest
          match skipSpace rest with
          | ':' :: rest => do
              let (value, rest) ← readValue fuel depth rest
              let member := (textOf? name, value)
              match skipSpace rest with
              | ',' :: rest => do
                  let (members, rest) ← readMembers fuel depth rest
                  return (member :: members, rest)
              | '\x7d' :: rest => return ([member], rest)
              | _ => none
          | _ => none
      | _ => none

end

/-- The value that a text denotes. -/
def parse? (text : String) : Option Json :=
  let input := text.toList
  match readValue (2 * input.length + 2) 127 input with
  | some (value, rest) => if (skipSpace rest).isEmpty then some value else none
  | none => none

end Tenancy.Json
