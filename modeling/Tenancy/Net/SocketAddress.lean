import Tenancy.Text.Digits
import Tenancy.Text.Quoted

/-!
# Socket addresses

An address of the Internet protocol with a port, in either version, and its
shortest text: a version 6 address has its longest run of zero groups left out.
-/

namespace Tenancy.Net

open Text

inductive SocketAddress where
  | v4 (octets : List Nat) (port : Nat)
  /-- A scope of zero is none. -/
  | v6 (groups : List Nat) (scope port : Nat)
deriving DecidableEq, Repr

def joined (separator : Char) : List (List Char) → List Char
  | [] => []
  | [only] => only
  | first :: rest => first ++ separator :: joined separator rest

def octetsText (octets : List Nat) : List Char := joined '.' (octets.map digits)

def groupsText (groups : List Nat) : List Char := joined ':' (groups.map hexDigits)

/-- How many zeros a list starts with. -/
def leadingZeros (groups : List Nat) : Nat := (groups.takeWhile (· == 0)).length

/-- Start and length of the longest run of zeros, the first one of several.
`start` is the place of the first group. -/
def longestZeroRun : Nat → List Nat → Nat × Nat
  | start, [] => (start, 0)
  | start, group :: rest =>
      let here := leadingZeros (group :: rest)
      let later := longestZeroRun (start + 1) rest
      if later.2 ≤ here then (start, here) else later

/-- The text of the groups of a version 6 address.  One that stands for a
version 4 address ends in that address. -/
def addressText (groups : List Nat) : List Char :=
  match groups with
  | [0, 0, 0, 0, 0, 0xffff, high, low] =>
      "::ffff:".toList ++ octetsText [high / 256, high % 256, low / 256, low % 256]
  | _ =>
      let (start, length) := longestZeroRun 0 groups
      if 1 < length then
        groupsText (groups.take start) ++ [':', ':'] ++ groupsText (groups.drop (start + length))
      else groupsText groups

def SocketAddress.render : SocketAddress → String
  | .v4 octets port => String.ofList (octetsText octets ++ ':' :: digits port)
  | .v6 groups scope port =>
      let scopeText := if scope = 0 then [] else '%' :: digits scope
      String.ofList ('[' :: addressText groups ++ scopeText ++ [']', ':'] ++ digits port)

end Tenancy.Net
