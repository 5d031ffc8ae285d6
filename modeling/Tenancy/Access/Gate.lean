import Tenancy.Access.Credential

/-!
# The gate

A request is granted when exactly one credential of the service namespace
accepts its token.  No token and the empty token are denied without a look at
the credentials.
-/

namespace Tenancy.Access

open Cluster

inductive Decision where
  | granted (owner : String)
  | denied
deriving DecidableEq, Repr

namespace Decision

/-- What stands in place of an owner when there is none. -/
def noOwner : String := "NO_OWNER"

def isGranted : Decision → Bool
  | .granted _ => true
  | .denied => false

def owner : Decision → String
  | .granted owner => owner
  | .denied => noOwner

/-- The decision for a token that is not empty. -/
def ofCredentials (presented : String) (credentials : List Credential) : Decision :=
  match credentials.filter (·.accepts presented) with
  | [credential] => .granted credential.name
  | _ => .denied

end Decision

/-- The credentials of a namespace could not be read. -/
structure ReadFailure where
  space : String
  cause : Failure
deriving DecidableEq, Repr

def ReadFailure.message (failure : ReadFailure) : String :=
  "failed to read owner credentials in namespace " ++ failure.space ++ ": " ++
    failure.cause.message

/-- Decides a request by the credentials of a namespace. -/
def authorize (space : String) (presented : Option String) :
    Calls (Except ReadFailure Decision) :=
  match presented with
  | none => .done (.ok .denied)
  | some token =>
      if token = "" then .done (.ok .denied)
      else
        (call (.listSecrets space)).bind fun
          | .error cause => .done (.error ⟨space, cause⟩)
          | .ok secrets => .done (.ok (.ofCredentials token (secrets.map .ofSecret)))

end Tenancy.Access
