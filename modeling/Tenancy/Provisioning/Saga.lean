import Tenancy.Access.Credential
import Tenancy.Provisioning.Failure
import Tenancy.Retry.Attempts
import Tenancy.Workspace.Ownership

/-!
# Provisioning

A workspace is a namespace with a service account, a secret for the account's
token and a binding of the account to the cluster's administrator role.  The
parts are created one after the other, each with retries, and then the token
is awaited.  A part that exists already counts as created, so an attempt after
a lost answer does no harm.  When a step after the first one fails, the
namespace is deleted, and all that is in it with it.
-/

namespace Tenancy.Provisioning

open Cluster

structure Plan where
  /-- For each creation and for the deletion of a rollback. -/
  step : Retry.Policy
  /-- For reading the token. -/
  token : Retry.Policy
deriving DecidableEq, Repr

def Plan.standard : Plan := ⟨.withAttempts 4, .withAttempts 10⟩

/-- The jitter of every pause that a provisioning may make. -/
structure Draws where
  /-- For the step after a step that was reached. -/
  within : Step → Nat → Retry.Jitter
  /-- For the deletion of a rollback. -/
  rollback : Nat → Retry.Jitter

def Draws.neutral : Draws := ⟨fun _ _ => .neutral, fun _ => .neutral⟩

def accountName : String := "admin"
def tokenSecretName : String := "admin-token"
def bindingName : String := "admin"
def roleName : String := "cluster-admin"

/-- The annotation that names the account of a token secret. -/
def accountAnnotation : String := "kubernetes.io/service-account.name"

inductive StepFailure where
  | cluster (cause : Cluster.Failure)
  | tokenMissing (secret : String)
  /-- The namespace exists and has another owner. -/
  | nameTaken (space : String)
deriving DecidableEq, Repr

namespace StepFailure

def message : StepFailure → String
  | .cluster cause => cause.message
  | .tokenMissing secret => "token secret " ++ secret ++ " has no token yet"
  | .nameTaken space => "namespace " ++ space ++ " already exists and belongs to another owner"

def isRepeatable : StepFailure → Bool
  | .cluster cause => cause.isTransient
  | .tokenMissing _ => true
  | .nameTaken _ => false

end StepFailure

def accountFor (space : String) : ServiceAccount where
  metadata := { name := some accountName, space := some space }

/-- The secret that asks for the account's token. -/
def tokenSecretFor (space : String) : Secret where
  metadata :=
    { name := some tokenSecretName
      space := some space
      annotations := some (.singleton accountAnnotation accountName) }
  kind := some accountTokenKind

/-- The binding of the account to the administrator role. -/
def bindingFor (space : String) : RoleBinding where
  metadata := { name := some bindingName, space := some space }
  roleRef := ⟨"rbac.authorization.k8s.io", "ClusterRole", roleName⟩
  subjects := some [⟨none, "ServiceAccount", accountName, some space⟩]

/-- The outcome of a creation for which an existing object is as good. -/
def existsNow {Value : Type} : Except Cluster.Failure Value → Except StepFailure Unit
  | .ok _ => .ok ()
  | .error cause => if cause.isAlreadyExists then .ok () else .error (.cluster cause)

/-- One attempt to create the namespace.  A namespace that exists already has
to be the owner's. -/
def tryCreateNamespace (space owner : String) : Calls (Except StepFailure Unit) :=
  (call (.createNamespace (Workspace.namespaceFor space owner))).bind fun
    | .ok _ => .done (.ok ())
    | .error cause =>
        if cause.isAlreadyExists then
          (call (.getNamespace space)).bind fun
            | .ok held =>
                if Workspace.isOwnedBy owner held then .done (.ok ())
                else .done (.error (.nameTaken space))
            | .error cause => .done (.error (.cluster cause))
        else .done (.error (.cluster cause))

def tryCreateAccount (space : String) : Calls (Except StepFailure Unit) :=
  (call (.createServiceAccount space (accountFor space))).bind fun answer =>
    .done (existsNow answer)

def tryCreateTokenSecret (space : String) : Calls (Except StepFailure Unit) :=
  (call (.createSecret space (tokenSecretFor space))).bind fun answer =>
    .done (existsNow answer)

def tryCreateBinding (space : String) : Calls (Except StepFailure Unit) :=
  (call (.createRoleBinding space (bindingFor space))).bind fun answer =>
    .done (existsNow answer)

/-- The token in a secret: text that is not empty. -/
def tokenIn? (secret : Secret) : Option String :=
  ((secret.datum? tokenKey).bind String.fromUTF8?).filter fun token => token != ""

def tryReadToken (space : String) : Calls (Except StepFailure String) :=
  (call (.getSecret space tokenSecretName)).bind fun
    | .error cause => .done (.error (.cluster cause))
    | .ok secret =>
        match tokenIn? secret with
        | some token => .done (.ok token)
        | none => .done (.error (.tokenMissing tokenSecretName))

/-- One attempt to delete the namespace.  One that is gone counts as deleted. -/
def tryDelete (space : String) : Calls (Except Cluster.Failure Unit) :=
  (call (.deleteNamespace space)).bind fun
    | .ok () => .done (.ok ())
    | .error cause => if cause.isNotFound then .done (.ok ()) else .done (.error cause)

/-- Ends a provisioning that failed.  Before the first step is done there is
nothing to delete. -/
def rollBack (plan : Plan) (space : String) (draws : Draws) (reached : Step)
    (failure : StepFailure) : Calls (Except Failure String) :=
  if reached = .started then .done (.error ⟨space, reached, failure.message, .notNeeded⟩)
  else
    (Retry.run plan.step Cluster.Failure.isTransient (tryDelete space) draws.rollback).bind fun
      | .ok () => .done (.error ⟨space, reached, failure.message, .completed⟩)
      | .error cause => .done (.error ⟨space, reached, failure.message, .failed cause.message⟩)

/-- One step with its retries, and what follows when it succeeds. -/
def step {Value : Type} (plan : Plan) (policy : Retry.Policy) (space : String) (draws : Draws)
    (reached : Step) (attempt : Calls (Except StepFailure Value))
    (next : Value → Calls (Except Failure String)) : Calls (Except Failure String) :=
  (Retry.run policy StepFailure.isRepeatable attempt (draws.within reached)).bind fun
    | .ok value => next value
    | .error failure => rollBack plan space draws reached failure

/-- Provisions a workspace and yields its token. -/
def run (plan : Plan) (space owner : String) (draws : Draws := .neutral) :
    Calls (Except Failure String) :=
  step plan plan.step space draws .started (tryCreateNamespace space owner) fun _ =>
  step plan plan.step space draws .namespaceCreated (tryCreateAccount space) fun _ =>
  step plan plan.step space draws .serviceAccountCreated (tryCreateTokenSecret space) fun _ =>
  step plan plan.step space draws .tokenSecretCreated (tryCreateBinding space) fun _ =>
  step plan plan.token space draws .roleBindingCreated (tryReadToken space) fun token =>
  .done (.ok token)

end Tenancy.Provisioning
