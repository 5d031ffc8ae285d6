/-!
# Blank characters

The characters with the Unicode property `White_Space`, and texts without
blank ends.
-/

namespace Tenancy.Text

/-- The property `White_Space`. -/
def isBlank (character : Char) : Bool :=
  let code := character.toNat
  (0x9 ≤ code && code ≤ 0xd) || code == 0x20 || code == 0x85 || code == 0xa0 ||
    code == 0x1680 || (0x2000 ≤ code && code ≤ 0x200a) || code == 0x2028 ||
    code == 0x2029 || code == 0x202f || code == 0x205f || code == 0x3000

def trimFront (characters : List Char) : List Char :=
  characters.dropWhile isBlank

def trimBoth (characters : List Char) : List Char :=
  (trimFront (trimFront characters).reverse).reverse

def trim (text : String) : String :=
  String.ofList (trimBoth text.toList)

end Tenancy.Text
