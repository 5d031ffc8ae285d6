import Tenancy.Text.Printable

/-!
# Quoted text

A text between double quotes, on one line and with nothing invisible in it:
the quote, the backslash and the common control characters have two-character
escapes, and every other character that is not printable is written by its
code point.
-/

namespace Tenancy.Text

/-- The lower-case hexadecimal digit of a number below sixteen. -/
def hexDigit (value : Nat) : Char :=
  Char.ofNat (if value < 10 then '0'.toNat + value else 'a'.toNat + (value - 10))

def hexDigits (value : Nat) : List Char :=
  if value < 16 then [hexDigit value]
  else hexDigits (value / 16) ++ [hexDigit (value % 16)]

/-- What stands for one character inside quotes. -/
def escapeQuoted : Char → List Char
  | '\x00' => ['\\', '0']
  | '\t' => ['\\', 't']
  | '\r' => ['\\', 'r']
  | '\n' => ['\\', 'n']
  | '"' => ['\\', '"']
  | '\\' => ['\\', '\\']
  | character =>
      if isPrintable character then [character]
      else ['\\', 'u', '\x7b'] ++ hexDigits character.toNat ++ ['\x7d']

def quoted (text : String) : String :=
  String.ofList ('"' :: text.toList.flatMap escapeQuoted ++ ['"'])

end Tenancy.Text
