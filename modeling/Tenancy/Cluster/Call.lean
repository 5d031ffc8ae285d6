import Tenancy.Cluster.Failure
import Tenancy.Cluster.Object
import Tenancy.Program

/-!
# Cluster calls

The part of the control plane that the service uses, as questions with typed
answers.
-/

namespace Tenancy.Cluster

inductive Operation where
  | listNamespaces
  | getNamespace
  | createNamespace
  | deleteNamespace
  | listPods
  | deletePod
  | listSecrets
  | getSecret
  | createSecret
  | createServiceAccount
  | createRoleBinding
deriving DecidableEq, Repr

namespace Operation

def name : Operation → String
  | .listNamespaces => "list_namespaces"
  | .getNamespace => "get_namespace"
  | .createNamespace => "create_namespace"
  | .deleteNamespace => "delete_namespace"
  | .listPods => "list_pods"
  | .deletePod => "delete_pod"
  | .listSecrets => "list_secrets"
  | .getSecret => "get_secret"
  | .createSecret => "create_secret"
  | .createServiceAccount => "create_service_account"
  | .createRoleBinding => "create_role_binding"

def all : List Operation :=
  [.listNamespaces, .getNamespace, .createNamespace, .deleteNamespace, .listPods, .deletePod,
    .listSecrets, .getSecret, .createSecret, .createServiceAccount, .createRoleBinding]

def ofName? (name : String) : Option Operation :=
  all.find? fun operation => operation.name == name

/-- What a call yields when it succeeds. -/
@[reducible] def Result : Operation → Type
  | .listNamespaces => List Namespace
  | .getNamespace => Namespace
  | .createNamespace => Namespace
  | .deleteNamespace => Unit
  | .listPods => List Pod
  | .deletePod => Unit
  | .listSecrets => List Secret
  | .getSecret => Secret
  | .createSecret => Secret
  | .createServiceAccount => ServiceAccount
  | .createRoleBinding => RoleBinding

end Operation

/-- One call with its arguments.  `space` is the namespace a call works in. -/
inductive Call where
  | listNamespaces
  | getNamespace (name : String)
  | createNamespace (namespaceObject : Namespace)
  | deleteNamespace (name : String)
  /-- A selector is a label key that the listed pods carry. -/
  | listPods (space : String) (selector : Option String)
  | deletePod (space name : String)
  | listSecrets (space : String)
  | getSecret (space name : String)
  | createSecret (space : String) (secret : Secret)
  | createServiceAccount (space : String) (account : ServiceAccount)
  | createRoleBinding (space : String) (binding : RoleBinding)
deriving DecidableEq

namespace Call

@[reducible] def operation : Call → Operation
  | .listNamespaces => .listNamespaces
  | .getNamespace _ => .getNamespace
  | .createNamespace _ => .createNamespace
  | .deleteNamespace _ => .deleteNamespace
  | .listPods _ _ => .listPods
  | .deletePod _ _ => .deletePod
  | .listSecrets _ => .listSecrets
  | .getSecret _ _ => .getSecret
  | .createSecret _ _ => .createSecret
  | .createServiceAccount _ _ => .createServiceAccount
  | .createRoleBinding _ _ => .createRoleBinding

@[reducible] def Answer (call : Call) : Type := Except Failure call.operation.Result

/-- The names that a call mentions, in order; none stands for one that is
left out. -/
def arguments : Call → List (Option String)
  | .listNamespaces => []
  | .getNamespace name => [some name]
  | .createNamespace object => [object.metadata.name]
  | .deleteNamespace name => [some name]
  | .listPods space selector => [some space, selector]
  | .deletePod space name => [some space, some name]
  | .listSecrets space => [some space]
  | .getSecret space name => [some space, some name]
  | .createSecret space secret => [some space, secret.metadata.name]
  | .createServiceAccount space account => [some space, account.metadata.name]
  | .createRoleBinding space binding => [some space, binding.metadata.name]

end Call

/-- A program whose questions are cluster calls. -/
abbrev Calls (Value : Type) : Type := Program Call Call.Answer Value

/-- What answers cluster calls. -/
abbrev Plane (State : Type) : Type := Handler Call Call.Answer State

def call (call : Call) : Calls call.Answer := Program.query call

end Tenancy.Cluster
