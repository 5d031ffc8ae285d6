import Tenancy.Access.Gate
import Tenancy.Provisioning.Saga
import Tenancy.Workspace.Wire

/-!
# Lifecycle of workspaces

Owners create, look up, list and delete their workspaces.  Every request is
authorized before anything else happens.  A workspace that is missing, outside
the naming convention or somebody else's is not found, all in the same words.
-/

namespace Tenancy.Lifecycle

open Cluster Access Workspace

inductive Refusal where
  | unauthorized
  | notFound
  | internal (message : String)
deriving DecidableEq, Repr

namespace Refusal

def message : Refusal → String
  | .unauthorized => "Not Authorized"
  | .notFound => "Not found"
  | .internal message => message

def statusCode : Refusal → Nat
  | .unauthorized => 401
  | .notFound => 404
  | .internal _ => 500

def ofReadFailure (failure : ReadFailure) : Refusal := .internal failure.message

end Refusal

/-- What the service is set up with: where the credentials are, and how
patient provisioning is. -/
structure Service where
  credentialSpace : String
  plan : Provisioning.Plan

/-- What an owner asks for.  A creation carries the name drawn for it. -/
inductive Request where
  | create (drawnName : String)
  | get (name : String)
  | list
  | delete (name : String)
deriving DecidableEq, Repr

inductive Reply where
  | created (descriptor : Descriptor)
  | status (status : Status)
  | roster (roster : Roster)
  | deleted (message : String)
deriving DecidableEq

/-- Goes on with the owner that the credential stands for. -/
def withOwner {Value : Type} (service : Service) (credential : Option String)
    (next : String → Calls (Except Refusal Value)) : Calls (Except Refusal Value) :=
  (authorize service.credentialSpace credential).bind fun
    | .error failure => .done (.error (.ofReadFailure failure))
    | .ok .denied => .done (.error .unauthorized)
    | .ok (.granted owner) => next owner

/-- Looks a workspace up for an owner. -/
def findOwned (owner name : String) : Calls (Except Refusal Namespace) :=
  if isName name then
    (call (.getNamespace name)).bind fun
      | .error _ => .done (.error .notFound)
      | .ok held =>
          if isOwnedBy owner held then .done (.ok held) else .done (.error .notFound)
  else .done (.error .notFound)

def create (service : Service) (credential : Option String) (drawnName : String)
    (draws : Provisioning.Draws := .neutral) : Calls (Except Refusal Descriptor) :=
  withOwner service credential fun owner =>
    (Provisioning.run service.plan drawnName owner draws).bind fun
      | .ok token => .done (.ok (.ofCreated drawnName token))
      | .error failure => .done (.error (.internal failure.message))

/-- The state of one of the caller's workspaces. -/
def get (service : Service) (credential : Option String) (name : String) :
    Calls (Except Refusal Status) :=
  withOwner service credential fun owner =>
    (findOwned owner name).bind fun
      | .ok held => .done (.ok (.ofNamespace held))
      | .error refusal => .done (.error refusal)

/-- The names of an owner's workspaces in a listing. -/
def namesOwnedBy (owner : String) (listing : List Namespace) : List String :=
  (listing.filter fun object => isWorkspace object && isOwnedBy owner object).filterMap
    fun object => object.metadata.name

/-- The names of the caller's workspaces, in the order of the listing. -/
def list (service : Service) (credential : Option String) : Calls (Except Refusal Roster) :=
  withOwner service credential fun owner =>
    (call .listNamespaces).bind fun
      | .ok listing => .done (.ok ⟨namesOwnedBy owner listing⟩)
      | .error cause => .done (.error (.internal cause.message))

/-- Deletes one of the caller's workspaces and all that is in it. -/
def delete (service : Service) (credential : Option String) (name : String) :
    Calls (Except Refusal String) :=
  withOwner service credential fun owner =>
    (findOwned owner name).bind fun
      | .error refusal => .done (.error refusal)
      | .ok _ =>
          (call (.deleteNamespace name)).bind fun
            | .ok () => .done (.ok ("Namespace " ++ name ++ " deleted"))
            | .error cause => .done (.error (.internal cause.message))

def perform (service : Service) (credential : Option String) (request : Request)
    (draws : Provisioning.Draws := .neutral) : Calls (Except Refusal Reply) :=
  match request with
  | .create drawnName => (·.map Reply.created) <$> create service credential drawnName draws
  | .get name => (·.map Reply.status) <$> get service credential name
  | .list => (·.map Reply.roster) <$> list service credential
  | .delete name => (·.map Reply.deleted) <$> delete service credential name

end Tenancy.Lifecycle
