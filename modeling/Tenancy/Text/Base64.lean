/-!
# Base 64

Octets written with sixty-four characters, six bits each, in groups of four
characters.  Equals signs fill up the last group, and the bits that it does
not use are zero.
-/

namespace Tenancy.Text.Base64

def alphabet : List Char :=
  "ABCDEFGHIJKLMNOPQRSTUVWXYZabcdefghijklmnopqrstuvwxyz0123456789+/".toList

def symbol (bits : Nat) : Char := alphabet.getD bits 'A'

def bits? (character : Char) : Option Nat := alphabet.idxOf? character

def encodeOctets : List UInt8 → List Char
  | [] => []
  | [first] =>
      let word := first.toNat * 16
      [symbol (word / 64), symbol (word % 64), '=', '=']
  | [first, second] =>
      let word := (first.toNat * 256 + second.toNat) * 4
      [symbol (word / 4096), symbol (word / 64 % 64), symbol (word % 64), '=']
  | first :: second :: third :: rest =>
      let word := (first.toNat * 256 + second.toNat) * 256 + third.toNat
      symbol (word / 262144) :: symbol (word / 4096 % 64) :: symbol (word / 64 % 64) ::
        symbol (word % 64) :: encodeOctets rest

/-- The octets of the last group, when it is not full. -/
def decodeLast? (first second third : Char) : Option (List UInt8) := do
  let first ← bits? first
  let second ← bits? second
  if third = '=' then
    let word := first * 64 + second
    if word % 16 = 0 then return [UInt8.ofNat (word / 16)] else none
  else
    let word := (first * 64 + second) * 64 + (← bits? third)
    if word % 4 = 0 then return [UInt8.ofNat (word / 1024), UInt8.ofNat (word / 4 % 256)] else none

def decodeOctets? : List Char → Option (List UInt8)
  | [] => some []
  | first :: second :: third :: fourth :: rest =>
      if fourth = '=' then
        if rest.isEmpty then decodeLast? first second third else none
      else do
        let word :=
          (((← bits? first) * 64 + (← bits? second)) * 64 + (← bits? third)) * 64 + (← bits? fourth)
        let octets ← decodeOctets? rest
        return UInt8.ofNat (word / 65536) :: UInt8.ofNat (word / 256 % 256) ::
          UInt8.ofNat (word % 256) :: octets
  | _ => none

def encode (bytes : ByteArray) : String := String.ofList (encodeOctets bytes.data.toList)

/-- The bytes that a text stands for. -/
def decode? (text : String) : Option ByteArray :=
  (decodeOctets? text.toList).map fun octets => ⟨octets.toArray⟩

end Tenancy.Text.Base64
