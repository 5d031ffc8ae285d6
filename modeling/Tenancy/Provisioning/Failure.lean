/-!
# Failed provisioning

How far the provisioning of a workspace came, why it stopped there, and what
became of the parts that existed by then.
-/

namespace Tenancy.Provisioning

/-- The last step that is done. -/
inductive Step where
  | started
  | namespaceCreated
  | serviceAccountCreated
  | tokenSecretCreated
  | roleBindingCreated
  | ready
  | rolledBack
deriving DecidableEq, Repr

namespace Step

def name : Step → String
  | .started => "Started"
  | .namespaceCreated => "NamespaceCreated"
  | .serviceAccountCreated => "ServiceAccountCreated"
  | .tokenSecretCreated => "TokenSecretCreated"
  | .roleBindingCreated => "RoleBindingCreated"
  | .ready => "Ready"
  | .rolledBack => "RolledBack"

def all : List Step :=
  [.started, .namespaceCreated, .serviceAccountCreated, .tokenSecretCreated,
    .roleBindingCreated, .ready, .rolledBack]

end Step

/-- What became of the parts of a workspace that could not be finished. -/
inductive Rollback where
  | notNeeded
  | completed
  | failed (reason : String)
deriving DecidableEq, Repr

def Rollback.message : Rollback → String
  | .notNeeded => "nothing to roll back"
  | .completed => "namespace rolled back"
  | .failed reason => "rollback failed: " ++ reason

/-- A workspace that could not be provisioned. -/
structure Failure where
  space : String
  reached : Step
  reason : String
  rollback : Rollback
deriving DecidableEq, Repr

def Failure.message (failure : Failure) : String :=
  "provisioning of " ++ failure.space ++ " failed after " ++ failure.reached.name ++ ": " ++
    failure.reason ++ " (" ++ failure.rollback.message ++ ")"

end Tenancy.Provisioning
