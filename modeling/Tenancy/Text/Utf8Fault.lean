import Tenancy.Text.Digits

/-!
# Faults in UTF-8

Where bytes stop being UTF-8, and in which way.
-/

namespace Tenancy.Text

inductive Utf8Fault where
  /-- So many bytes, from an index on, begin no character. -/
  | invalid (length index : Nat)
  /-- The bytes end inside a character that begins at an index. -/
  | incomplete (index : Nat)
deriving DecidableEq, Repr

def Utf8Fault.message : Utf8Fault → String
  | .invalid length index =>
      "invalid utf-8 sequence of " ++ decimal length ++ " bytes from index " ++ decimal index
  | .incomplete index => "incomplete utf-8 byte sequence from index " ++ decimal index

/-- The ranges of the bytes after the first byte of a character; none when no
character begins so. -/
def continuationRanges? (first : UInt8) : Option (List (UInt8 × UInt8)) :=
  if first < 0x80 then some []
  else if 0xc2 ≤ first ∧ first ≤ 0xdf then some [(0x80, 0xbf)]
  else if first = 0xe0 then some [(0xa0, 0xbf), (0x80, 0xbf)]
  else if first = 0xed then some [(0x80, 0x9f), (0x80, 0xbf)]
  else if 0xe1 ≤ first ∧ first ≤ 0xef then some [(0x80, 0xbf), (0x80, 0xbf)]
  else if first = 0xf0 then some [(0x90, 0xbf), (0x80, 0xbf), (0x80, 0xbf)]
  else if 0xf1 ≤ first ∧ first ≤ 0xf3 then some [(0x80, 0xbf), (0x80, 0xbf), (0x80, 0xbf)]
  else if first = 0xf4 then some [(0x80, 0x8f), (0x80, 0xbf), (0x80, 0xbf)]
  else none

/-- Looks through bytes, with what the character that began at `start` still
needs. -/
def utf8FaultFrom (start index : Nat) : List (UInt8 × UInt8) → List UInt8 → Option Utf8Fault
  | [], [] => none
  | _ :: _, [] => some (.incomplete start)
  | [], byte :: rest =>
      match continuationRanges? byte with
      | none => some (.invalid 1 index)
      | some ranges => utf8FaultFrom index (index + 1) ranges rest
  | (least, greatest) :: ranges, byte :: rest =>
      if least ≤ byte ∧ byte ≤ greatest then utf8FaultFrom start (index + 1) ranges rest
      else some (.invalid (index - start) start)

/-- The first fault in some bytes. -/
def utf8Fault? (bytes : ByteArray) : Option Utf8Fault := utf8FaultFrom 0 0 [] bytes.data.toList

end Tenancy.Text
