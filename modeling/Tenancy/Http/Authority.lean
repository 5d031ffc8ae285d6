/-!
# Authorities

The part of an absolute target that names whom to ask: perhaps a user with an
at sign, a host, perhaps a colon and a port.  A host in square brackets is an
address and may hold colons; a percent sign stands only in such a host or in
the name of a user.
-/

namespace Tenancy.Http

/-- What has been seen of an authority, as far as it bears on what may follow. -/
structure Authority where
  /-- The colons since the last user or bracketed host. -/
  colons : Nat := 0
  opened : Bool := false
  closed : Bool := false
  /-- Whether there is a percent sign since the last user or bracketed host. -/
  percent : Bool := false
deriving DecidableEq, Repr

namespace Authority

/-- The characters that stand anywhere in an authority. -/
def isPlain (character : Char) : Bool :=
  character.isAlphanum || "-._~!$&'()*+,;=".toList.contains character

/-- An address has at most eight colons. -/
def mostColons : Nat := 8

/-- Takes one more character, if it may stand there. -/
def extend? (authority : Authority) (character : Char) : Option Authority :=
  match character with
  | ':' =>
      if authority.colons < mostColons then
        some { authority with colons := authority.colons + 1 }
      else none
  | '[' =>
      if authority.percent || authority.opened then none else some { authority with opened := true }
  | ']' =>
      if authority.opened && !authority.closed then
        some { authority with colons := 0, closed := true, percent := false }
      else none
  | '@' => some { authority with colons := 0, percent := false }
  | '%' => some { authority with percent := true }
  | _ => if isPlain character then some authority else none

def isComplete (authority : Authority) : Bool :=
  authority.opened == authority.closed && authority.colons ≤ 1 && !authority.percent

/-- Whether characters form an authority.  Nothing at all does, too. -/
def isAuthority (characters : List Char) : Bool :=
  ((characters.foldlM extend? {}).map isComplete).getD false && characters.getLast? != some '@'

def isEnd (character : Char) : Bool :=
  character == '/' || character == '?' || character == '#'

end Authority

end Tenancy.Http
