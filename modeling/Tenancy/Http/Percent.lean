import Tenancy.Json.Parser
import Tenancy.Text.Quoted

/-!
# Percent encoding

Octets written as a percent sign and two hexadecimal digits: decoding the
segments of a path, and encoding the values of a query the way forms do.
-/

namespace Tenancy.Http

def octets (text : String) : List UInt8 := text.toUTF8.data.toList

def ofOctets? (octets : List UInt8) : Option String := String.fromUTF8? ⟨octets.toArray⟩

/-- The value of an octet that is a hexadecimal digit. -/
def hexOctet? (octet : UInt8) : Option Nat := Json.hexValue? (Char.ofNat octet.toNat)

/-- Decodes every percent sign that two hexadecimal digits follow.  Any other
percent sign stands for itself. -/
def decodeOctets : List UInt8 → List UInt8
  | [] => []
  | octet :: high :: low :: rest =>
      if octet = 0x25 then
        match hexOctet? high, hexOctet? low with
        | some high, some low => UInt8.ofNat (high * 16 + low) :: decodeOctets rest
        | _, _ => octet :: decodeOctets (high :: low :: rest)
      else octet :: decodeOctets (high :: low :: rest)
  | octet :: rest => octet :: decodeOctets rest

/-- The decoded text of a path segment, if it is UTF-8. -/
def decodePercent? (text : String) : Option String := ofOctets? (decodeOctets (octets text))

/-- What stands for one octet in the value of a form. -/
def encodeFormOctet (octet : UInt8) : List Char :=
  let character := Char.ofNat octet.toNat
  if character = ' ' then ['+']
  else if character.isAlphanum ∨ character = '*' ∨ character = '.' ∨ character = '_' ∨
      character = '-' then [character]
  else
    ['%', (Text.hexDigit (octet.toNat / 16)).toUpper, (Text.hexDigit (octet.toNat % 16)).toUpper]

def encodeForm (text : String) : String := String.ofList ((octets text).flatMap encodeFormOctet)

end Tenancy.Http
