import Tenancy.Cluster.Store

/-!
# Owner credentials

An owner is a secret in the service's own namespace: its name is the owner's
identity, an annotation gives its role and a datum its token.
-/

namespace Tenancy.Access

open Cluster

def roleAnnotation : String := "parity.io/role"

def userRole : String := "user"

structure Credential where
  name : String
  role : Option String
  token : Option String
deriving DecidableEq, Repr

namespace Credential

/-- The credential that a secret holds.  Token bytes that are no text count as
no token. -/
def ofSecret (secret : Secret) : Credential where
  name := secret.metadata.name.getD ""
  role := secret.metadata.annotation? roleAnnotation
  token := (secret.datum? tokenKey).bind String.fromUTF8?

def isEligible (credential : Credential) : Bool :=
  credential.role == some userRole && credential.token.isSome

/-- Whether a credential authorizes requests that present this token. -/
def accepts (credential : Credential) (presented : String) : Bool :=
  credential.isEligible && credential.token == some presented

end Credential

end Tenancy.Access
