import Tenancy.Http.Target
import Tenancy.Json.Printer

/-!
# Requests and responses

What a client sends, as far as the service looks at it, and what it gets.
-/

namespace Tenancy.Http

structure Request where
  method : String
  path : String
  /-- Names and values in the order sent. -/
  headers : List (String × ByteArray)

structure Response where
  status : Nat
  contentType : Option String := none
  /-- The methods that the path allows, where the one used is not among them. -/
  allow : Option String := none
  body : String := ""
deriving DecidableEq, Repr

namespace Response

def ofJson (status : Nat) (value : Json) : Response :=
  { status, contentType := some "application/json", body := value.render }

def ofMessage (status : Nat) (message : String) : Response :=
  ofJson status (.object [("message", .string message)])

def notFound : Response := { status := 404 }

def methodNotAllowed (allow : String) : Response := { status := 405, allow := some allow }

def badName : Response :=
  { status := 400
    contentType := some "text/plain; charset=utf-8"
    body := "Invalid URL: Invalid UTF-8 in \x60name\x60" }

def withoutBody (response : Response) : Response := { response with body := "" }

end Response

/-- Whether a character may stand in a method or in the name of a header. -/
def isTokenCharacter (character : Char) : Bool :=
  character.isAlphanum || "!#$%&'*+-.^_|~\x60".toList.contains character

def isToken (text : String) : Bool := !text.isEmpty && text.toList.all isTokenCharacter

/-- Whether an octet may stand in the value of a header. -/
def isHeaderOctet (octet : UInt8) : Bool := (0x20 ≤ octet && octet != 0x7f) || octet == 0x09

/-- Whether an octet is readable in the value of a header. -/
def isVisibleOctet (octet : UInt8) : Bool := (0x20 ≤ octet && octet < 0x7f) || octet == 0x09

namespace Request

/-- Whether the parts of a request can be sent at all. -/
def isSendable (request : Request) : Bool :=
  isToken request.method && (Target.requestedPath? request.path).isSome &&
    request.headers.all fun header =>
      isToken header.1 && header.2.data.toList.all isHeaderOctet

/-- The value of the first header of a name, which is written in small letters. -/
def header? (request : Request) (name : String) : Option ByteArray :=
  (request.headers.find? fun header => header.1.toLower == name).map Prod.snd

/-- The token that a request presents: the whole value of its first
authorization header, if it is readable. -/
def credential? (request : Request) : Option String :=
  (request.header? "authorization").bind fun value =>
    if value.data.toList.all isVisibleOctet then String.fromUTF8? value else none

end Request

end Tenancy.Http
