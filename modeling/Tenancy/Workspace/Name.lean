/-!
# Workspace names

Workspaces are the namespaces whose names start with a fixed word.  A new name
ends in thirty-two characters that a draw decides.
-/

namespace Tenancy.Workspace

/-- How the name of every workspace starts. -/
def nameStart : String := "zombie-"

/-- Whether a name is inside the naming convention. -/
def isName (name : String) : Bool := nameStart.toList.isPrefixOf name.toList

/-- The characters of the drawn part of a name. -/
def nameAlphabet : List Char := "abcdefghijklmnopqrstuvwxyz0123456789".toList

/-- The characters of a drawn token. -/
def tokenAlphabet : List Char :=
  "ABCDEFGHIJKLMNOPQRSTUVWXYZabcdefghijklmnopqrstuvwxyz0123456789".toList

/-- A number written in an alphabet, its lowest digits only. -/
def drawn (alphabet : List Char) : Nat → Nat → List Char
  | 0, _ => []
  | count + 1, draw =>
      drawn alphabet count (draw / alphabet.length) ++
        [alphabet.getD (draw % alphabet.length) 'a']

/-- The name that a draw decides. -/
def nameOfDraw (draw : Nat) : String :=
  nameStart ++ String.ofList (drawn nameAlphabet 32 draw)

def tokenOfDraw (draw : Nat) : String := String.ofList (drawn tokenAlphabet 48 draw)

/-- Whether a name has the shape of a drawn one. -/
def isDrawnName (name : String) : Bool :=
  let rest := name.toList.drop nameStart.length
  isName name && rest.length == 32 && rest.all nameAlphabet.contains

end Tenancy.Workspace
