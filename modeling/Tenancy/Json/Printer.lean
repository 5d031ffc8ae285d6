import Tenancy.Json.Value
import Tenancy.Number.Shortest
import Tenancy.Text.Quoted

/-!
# Printing JSON

The text of a value without any blanks.  Only the quote, the backslash and the
control characters below the space are escaped.  A floating-point number is
written with the fewest digits and always with a point or an exponent.
-/

namespace Tenancy.Json

open Number Text

/-- What stands for one character inside a string. -/
def escape (character : Char) : List Char :=
  match character with
  | '"' => ['\\', '"']
  | '\\' => ['\\', '\\']
  | '\n' => ['\\', 'n']
  | '\r' => ['\\', 'r']
  | '\t' => ['\\', 't']
  | '\x08' => ['\\', 'b']
  | '\x0c' => ['\\', 'f']
  | _ =>
      if character.toNat < 0x20 then
        ['\\', 'u', '0', '0', hexDigit (character.toNat / 16), hexDigit (character.toNat % 16)]
      else [character]

def stringText (value : String) : List Char :=
  '"' :: value.toList.flatMap escape ++ ['"']

def integerText (value : Int) : List Char :=
  if value < 0 then '-' :: digits value.natAbs else digits value.toNat

/-- A row of digits with a point after the first, times a power of ten. -/
def scientificText (row : List Char) (power : Int) : List Char :=
  let point := if row.length ≤ 1 then [] else ['.']
  row.take 1 ++ point ++ row.drop 1 ++ ['e', if power < 0 then '-' else '+'] ++
    paddedDigits 2 power.natAbs

/-- A decimal.  It is written by position if its first digit stands at most
five places after the point and at most sixteen in front of it. -/
def decimalText (decimal : Decimal) : List Char :=
  let row := digits decimal.significand
  let lead : Int := decimal.exponent + row.length - 1
  if lead < -5 ∨ 15 < lead then scientificText row lead
  else if lead < 0 then ['0', '.'] ++ List.replicate (lead.natAbs - 1) '0' ++ row
  else
    let whole := lead.toNat + 1
    if row.length ≤ whole then row ++ List.replicate (whole - row.length) '0' ++ ['.', '0']
    else row.take whole ++ ['.'] ++ row.drop whole

/-- A floating-point number.  One that is not finite is written as null. -/
def floatingText : Binary64 → List Char
  | .finite negative significand exponent =>
      let (top, bottom) := Binary64.scaled significand exponent
      let sign := if negative then ['-'] else []
      sign ++ if significand = 0 then ['0', '.', '0'] else decimalText (.shortest top bottom)
  | _ => ['n', 'u', 'l', 'l']

mutual

/-- The text of a value.  One that cannot be held is written as null. -/
def characters : Json → List Char
  | .null => ['n', 'u', 'l', 'l']
  | .unreadable => ['n', 'u', 'l', 'l']
  | .boolean true => ['t', 'r', 'u', 'e']
  | .boolean false => ['f', 'a', 'l', 's', 'e']
  | .integer value => integerText value
  | .floating value => floatingText value
  | .string value => stringText value
  | .array [] => ['[', ']']
  | .array (item :: items) => '[' :: characters item ++ itemsText items
  | .object [] => ['\x7b', '\x7d']
  | .object ((name, value) :: members) =>
      '\x7b' :: stringText name ++ ':' :: characters value ++ membersText members

/-- The items of an array after its first one, and the closing bracket. -/
def itemsText : List Json → List Char
  | [] => [']']
  | item :: items => ',' :: characters item ++ itemsText items

/-- The members of an object after its first one, and the closing bracket. -/
def membersText : List (String × Json) → List Char
  | [] => ['\x7d']
  | (name, value) :: members =>
      ',' :: stringText name ++ ':' :: characters value ++ membersText members

end

def render (value : Json) : String := String.ofList (characters value)

end Tenancy.Json
