import Tenancy.Http.Authority

/-!
# Request targets

Which texts may name what a request is for.  A target is a path, which a
question mark may follow with a query; a number sign and what follows it are
cut off.  What a client asks for may have a scheme and an authority in front.
-/

namespace Tenancy.Http

/-- The characters beyond ASCII are allowed in some targets and not in others. -/
inductive Reach where
  | ascii
  | unicode
deriving DecidableEq, Repr

def isPathCode (reach : Reach) (code : Nat) : Bool :=
  code == 0x21 || code == 0x22 || (0x24 ≤ code && code ≤ 0x3b) || code == 0x3d ||
    (0x40 ≤ code && code ≤ 0x5f) || (0x61 ≤ code && code ≤ 0x7e) ||
    (reach == .unicode && 0x80 ≤ code)

def isQueryCode (reach : Reach) (code : Nat) : Bool :=
  code == 0x21 || (0x24 ≤ code && code ≤ 0x3b) || code == 0x3d ||
    (0x3f ≤ code && code ≤ 0x7e) || (reach == .unicode && 0x80 ≤ code)

structure Target where
  path : String
  query : Option String
deriving DecidableEq, Repr

inductive TargetFault where
  | tooLong
  | invalidCharacter
deriving DecidableEq, Repr

def TargetFault.message : TargetFault → String
  | .tooLong => "uri too long"
  | .invalidCharacter => "invalid uri character"

namespace Target

def mostBytes : Nat := 65534

/-- The path and the query of a text, if all its characters may stand there. -/
def ofCharacters? (reach : Reach) (characters : List Char) : Option Target :=
  let kept := characters.takeWhile (· != '#')
  let path := kept.takeWhile (· != '?')
  let rest := kept.dropWhile (· != '?')
  if path.all (fun character => isPathCode reach character.toNat) &&
      (rest.drop 1).all fun character => isQueryCode reach character.toNat then
    some ⟨String.ofList path, if rest.isEmpty then none else some (String.ofList (rest.drop 1))⟩
  else none

def read (reach : Reach) (text : String) : Except TargetFault Target :=
  if mostBytes < text.utf8ByteSize then .error .tooLong
  else
    match ofCharacters? reach text.toList with
    | some target => .ok target
    | none => .error .invalidCharacter

def text (target : Target) : String :=
  match target.query with
  | none => target.path
  | some query => target.path ++ "?" ++ query

/-! ## What a client asks for -/

def isSchemeCharacter (character : Char) : Bool :=
  character.isAlphanum || "+-.~".toList.contains character

def mostSchemeCharacters : Nat := 64

/-- The length of the scheme in front of a text, if there is one with
something after its mark. -/
def schemeLength? (characters : List Char) : Option Nat :=
  let scheme := characters.takeWhile isSchemeCharacter
  match characters.drop scheme.length with
  | ':' :: '/' :: '/' :: rest =>
      if scheme.isEmpty && rest.isEmpty then none else some scheme.length
  | _ => none

/-- The path after a scheme and its mark.  There has to be an authority, and a
path that is empty counts as the root. -/
def pathAfterScheme? (characters : List Char) : Option String := do
  let authority := characters.takeWhile fun character => !Authority.isEnd character
  if authority.isEmpty || !Authority.isAuthority authority then none
  else
    let target ← ofCharacters? .unicode (characters.drop authority.length)
    return if target.path.isEmpty then "/" else target.path

/-- The path of what a client asks for.  Without a slash in front it is a whole
server or an authority, which have no path of their own, or has a scheme. -/
def requestedPath? (text : String) : Option String :=
  if mostBytes < text.utf8ByteSize then none
  else
    match text.toList with
    | [] => none
    | ['*'] => some "*"
    | '/' :: rest => (ofCharacters? .unicode ('/' :: rest)).map Target.path
    | characters =>
        match schemeLength? characters with
        | none => if Authority.isAuthority characters then some "" else none
        | some length =>
            if mostSchemeCharacters < length then none
            else pathAfterScheme? (characters.drop (length + 3))

end Target

end Tenancy.Http
