import Tenancy.Json.Parser
import Tenancy.Net.SocketAddress
import Tenancy.Number.Word

/-!
# Reading socket addresses

The texts that denote an address with a port.  A number in a version 4 address
has no leading zeros, a port may have them, and a version 6 address stands in
brackets, may leave out one run of groups and may end in a version 4 address.
-/

namespace Tenancy.Net

open Text

def readMark (mark : Char) : List Char → Option (List Char)
  | character :: rest => if character = mark then some rest else none
  | [] => none

/-- Reads a whole row of decimal digits as a number up to a bound. -/
def readBounded (bound : Nat) (input : List Char) : Option (Nat × List Char) :=
  let row := input.takeWhile isDigit
  let value := digitsValue 0 row
  if row.isEmpty ∨ bound < value then none else some (value, input.dropWhile isDigit)

def readOctet (input : List Char) : Option (Nat × List Char) :=
  let row := input.takeWhile isDigit
  if 3 < row.length ∨ (row.head? = some '0' ∧ 1 < row.length) then none else readBounded 255 input

def readOctets (input : List Char) : Option (List Nat × List Char) := do
  let (first, input) ← readOctet input
  let (second, input) ← readOctet (← readMark '.' input)
  let (third, input) ← readOctet (← readMark '.' input)
  let (fourth, input) ← readOctet (← readMark '.' input)
  return ([first, second, third, fourth], input)

def isHexDigit (character : Char) : Bool := (Json.hexValue? character).isSome

def readGroup (input : List Char) : Option (Nat × List Char) :=
  let row := input.takeWhile isHexDigit
  if row.isEmpty ∨ 4 < row.length then none
  else
    some (row.foldl (fun value digit => value * 16 + (Json.hexValue? digit).getD 0) 0,
      input.dropWhile isHexDigit)

/-- Groups that were read, and whether the last two are a version 4 address. -/
structure GroupRow where
  groups : List Nat := []
  endsInOctets : Bool := false

/-- Reads groups with colons between them, at most `limit`.  `first` tells
whether no group comes before. -/
def readGroups (first : Bool) : Nat → List Char → GroupRow × List Char
  | 0, input => ({}, input)
  | limit + 1, input =>
      match if first then some input else readMark ':' input with
      | none => ({}, input)
      | some start =>
          match if limit = 0 then none else readOctets start with
          | some ([a, b, c, d], rest) => (⟨[a * 256 + b, c * 256 + d], true⟩, rest)
          | _ =>
              match readGroup start with
              | none => ({}, input)
              | some (group, rest) =>
                  let (row, rest) := readGroups false limit rest
                  (⟨group :: row.groups, row.endsInOctets⟩, rest)

/-- A version 6 address: eight groups, or fewer on the two sides of a pair of
colons. -/
def readAddress (input : List Char) : Option (List Nat × List Char) := do
  let (head, rest) := readGroups true 8 input
  if head.groups.length = 8 then return (head.groups, rest)
  else if head.endsInOctets then none
  else
    let rest ← readMark ':' (← readMark ':' rest)
    let (tail, rest) := readGroups true (7 - head.groups.length) rest
    let zeros := List.replicate (8 - head.groups.length - tail.groups.length) 0
    return (head.groups ++ zeros ++ tail.groups, rest)

def readPort (input : List Char) : Option (Nat × List Char) := do
  readBounded 65535 (← readMark ':' input)

def readV4 (input : List Char) : Option (SocketAddress × List Char) := do
  let (octets, input) ← readOctets input
  let (port, input) ← readPort input
  return (.v4 octets port, input)

/-- A percent sign and a number, or nothing. -/
def readScope (input : List Char) : Nat × List Char :=
  match (readMark '%' input).bind (readBounded Number.greatestUnsigned32) with
  | some (scope, rest) => (scope, rest)
  | none => (0, input)

def readV6 (input : List Char) : Option (SocketAddress × List Char) := do
  let (groups, input) ← readAddress (← readMark '[' input)
  let (scope, input) := readScope input
  let (port, input) ← readPort (← readMark ']' input)
  return (.v6 groups scope port, input)

/-- The address that a text denotes. -/
def SocketAddress.read? (text : String) : Option SocketAddress :=
  match (readV4 text.toList).or (readV6 text.toList) with
  | some (address, []) => some address
  | _ => none

def invalidSocketAddress : String := "invalid socket address syntax"

end Tenancy.Net
