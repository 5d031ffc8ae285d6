import Tenancy.Cluster.Call
import Tenancy.Text.Digits

/-!
# The store

A control plane kept in memory: objects in the order of their creation, a
counter that numbers every version, and, per kind of call, how often it was
made and how many of the next calls are to fail.  The counters are words, and
go on from zero after their greatest number.  Deleting a namespace deletes
what lives in it.
-/

namespace Tenancy.Cluster

/-- What the store cannot make up by itself: the identity, the time and the
token that belong to a version. -/
structure Stamp where
  uid : String
  moment : Instant
  token : String
deriving Inhabited

/-- Secrets of this kind are given a token when they are created. -/
def accountTokenKind : String := "kubernetes.io/service-account-token"

def tokenKey : String := "token"

structure Store where
  /-- How many versions were given out. -/
  stamps : Nat := 0
  namespaces : List Namespace := []
  pods : List Pod := []
  secrets : List Secret := []
  accounts : List ServiceAccount := []
  bindings : List RoleBinding := []
  /-- How many of the next calls of a kind fail. -/
  pendingFailures : Operation → Nat := fun _ => 0
  /-- How often calls of a kind were made. -/
  tally : Operation → UInt32 := fun _ => 0
  /-- Whether secrets that ask for a token get one. -/
  issuesTokens : Bool := true
  /-- The stamps, counted from one. -/
  stampOf : Nat → Stamp
deriving Inhabited

/-- A function with one value replaced. -/
def replaceAt {Value : Type} (function : Operation → Value) (operation : Operation)
    (value : Value) : Operation → Value :=
  fun other => if other = operation then value else function other

namespace Operation

/-- The name of a kind of call in the message of an injected failure. -/
def title : Operation → String
  | .listNamespaces => "ListNamespaces"
  | .getNamespace => "GetNamespace"
  | .createNamespace => "CreateNamespace"
  | .deleteNamespace => "DeleteNamespace"
  | .listPods => "ListPods"
  | .deletePod => "DeletePod"
  | .listSecrets => "ListSecrets"
  | .getSecret => "GetSecret"
  | .createSecret => "CreateSecret"
  | .createServiceAccount => "CreateServiceAccount"
  | .createRoleBinding => "CreateRoleBinding"

end Operation

namespace Failure

/-- The failure that a store is told to answer with. -/
def injected (operation : Operation) : Failure :=
  .refused (some 500) ("injected failure for " ++ operation.title)

def nameRequired : Failure := .refused (some 422) "metadata.name is required"

/-- The resource has no object of that name. -/
def absent (resource name : String) : Failure :=
  .notFound (resource ++ " \"" ++ name ++ "\" not found")

/-- The resource has an object of that name. -/
def present (resource name : String) : Failure :=
  .alreadyExists (resource ++ " \"" ++ name ++ "\" already exists")

end Failure

namespace Store

/-- The number of the latest version.  It has 64 bits and starts over when they are
used up. -/
def version (store : Store) : UInt64 := .ofNat store.stamps

def nextVersion (store : Store) : UInt64 := store.version + 1

def nextStamp (store : Store) : Stamp := store.stampOf (store.stamps + 1)

def nextVersionText (store : Store) : String := Text.decimal store.nextVersion.toNat

def calls (store : Store) (operation : Operation) : Nat := (store.tally operation).toNat

/-- Metadata as the store keeps it after a creation. -/
def stamped (store : Store) (metadata : Metadata) : Metadata :=
  { metadata with
    uid := some store.nextStamp.uid
    version := some store.nextVersionText
    created := some store.nextStamp.moment }

/-- Metadata of an object created inside a namespace. -/
def stampedIn (store : Store) (space : String) (metadata : Metadata) : Metadata :=
  { store.stamped metadata with space := some space }

def hasNamespace (store : Store) (name : String) : Bool :=
  store.namespaces.any fun held => held.metadata.isNamed name

/-- Whether metadata belongs to the object of that name in a namespace. -/
def isAt (space name : String) (metadata : Metadata) : Bool :=
  metadata.isIn space && metadata.isNamed name

/-- Stores a namespace as it is given, with a new version and, if it has none,
a new identity. -/
def insertNamespace (store : Store) (object : Namespace) : Store :=
  let uid := object.metadata.uid.getD store.nextStamp.uid
  let metadata :=
    { object.metadata with uid := some uid, version := some store.nextVersionText }
  { store with
    stamps := store.stamps + 1
    namespaces := store.namespaces ++ [{ object with metadata := metadata }] }

/-- Stores a pod as it is given, with a new version. -/
def insertPod (store : Store) (pod : Pod) : Store :=
  let metadata := { pod.metadata with version := some store.nextVersionText }
  { store with
    stamps := store.stamps + 1
    pods := store.pods ++ [{ pod with metadata := metadata }] }

/-- Stores a secret as it is given, with a new version. -/
def insertSecret (store : Store) (secret : Secret) : Store :=
  let metadata := { secret.metadata with version := some store.nextVersionText }
  { store with
    stamps := store.stamps + 1
    secrets := store.secrets ++ [{ secret with metadata := metadata }] }

/-- Makes the next calls of a kind fail, in place of what was set before. -/
def failNext (store : Store) (operation : Operation) (times : Nat) : Store :=
  { store with pendingFailures := replaceAt store.pendingFailures operation times }

def accountsIn (store : Store) (space : String) : List ServiceAccount :=
  store.accounts.filter fun held => held.metadata.isIn space

def bindingsIn (store : Store) (space : String) : List RoleBinding :=
  store.bindings.filter fun held => held.metadata.isIn space

/-- The store without a namespace and without what lives in it. -/
def withoutNamespace (store : Store) (name : String) : Store :=
  { store with
    namespaces := store.namespaces.filter fun held => !held.metadata.isNamed name
    pods := store.pods.filter fun held => !held.metadata.isIn name
    secrets := store.secrets.filter fun held => !held.metadata.isIn name
    accounts := store.accounts.filter fun held => !held.metadata.isIn name
    bindings := store.bindings.filter fun held => !held.metadata.isIn name }

/-- Whether an object may be created in a namespace: it has a name, the
namespace exists, and the name is free among the objects held there. -/
def vacancy (store : Store) (resource space : String) (metadata : Metadata)
    (held : List Metadata) : Except Failure Unit :=
  match metadata.name with
  | none => .error .nameRequired
  | some name =>
      if store.hasNamespace space then
        if held.any (isAt space name) then .error (.present resource name) else .ok ()
      else .error (.absent "namespaces" space)

/-- A secret as the store keeps it after a creation. -/
def createdSecret (store : Store) (space : String) (secret : Secret) : Secret :=
  let metadata := store.stampedIn space secret.metadata
  if store.issuesTokens ∧ secret.kind = some accountTokenKind then
    { secret with
      metadata
      data := some ((secret.data.getD .empty).insert tokenKey store.nextStamp.token.toUTF8) }
  else { secret with metadata }

/-- What a call yields and leaves behind. -/
def respond (store : Store) : (call : Call) → call.Answer × Store
  | .listNamespaces => (.ok store.namespaces, store)
  | .getNamespace name =>
      match store.namespaces.find? fun held => held.metadata.isNamed name with
      | some held => (.ok held, store)
      | none => (.error (.absent "namespaces" name), store)
  | .createNamespace object =>
      match object.metadata.name with
      | none => (.error .nameRequired, store)
      | some name =>
          if store.hasNamespace name then (.error (.present "namespaces" name), store)
          else
            let created : Namespace := ⟨store.stamped object.metadata, some "Active"⟩
            (.ok created,
              { store with
                stamps := store.stamps + 1
                namespaces := store.namespaces ++ [created] })
  | .deleteNamespace name =>
      if store.hasNamespace name then (.ok (), store.withoutNamespace name)
      else (.error (.absent "namespaces" name), store)
  | .listPods space selector =>
      (.ok (store.pods.filter fun held =>
        held.metadata.isIn space &&
          selector.all fun key => (held.metadata.label? key).isSome), store)
  | .deletePod space name =>
      if store.pods.any fun held => isAt space name held.metadata then
        (.ok (),
          { store with pods := store.pods.filter fun held => !isAt space name held.metadata })
      else (.error (.absent "pods" name), store)
  | .listSecrets space =>
      (.ok (store.secrets.filter fun held => held.metadata.isIn space), store)
  | .getSecret space name =>
      match store.secrets.find? fun held => isAt space name held.metadata with
      | some held => (.ok held, store)
      | none => (.error (.absent "secrets" name), store)
  | .createSecret space secret =>
      match store.vacancy "secrets" space secret.metadata (store.secrets.map (·.metadata)) with
      | .error failure => (.error failure, store)
      | .ok () =>
          let created := store.createdSecret space secret
          (.ok created,
            { store with stamps := store.stamps + 1, secrets := store.secrets ++ [created] })
  | .createServiceAccount space account =>
      match store.vacancy "serviceaccounts" space account.metadata
          (store.accounts.map (·.metadata)) with
      | .error failure => (.error failure, store)
      | .ok () =>
          let created : ServiceAccount := ⟨store.stampedIn space account.metadata⟩
          (.ok created,
            { store with stamps := store.stamps + 1, accounts := store.accounts ++ [created] })
  | .createRoleBinding space binding =>
      match store.vacancy "rolebindings.rbac.authorization.k8s.io" space binding.metadata
          (store.bindings.map (·.metadata)) with
      | .error failure => (.error failure, store)
      | .ok () =>
          let created := { binding with metadata := store.stampedIn space binding.metadata }
          (.ok created,
            { store with stamps := store.stamps + 1, bindings := store.bindings ++ [created] })

def counted (store : Store) (operation : Operation) : Store :=
  { store with tally := replaceAt store.tally operation (store.tally operation + 1) }

/-- Answers a call: it is counted, and a pending failure answers in place of
the store. -/
def answer (call : Call) (store : Store) : call.Answer × Store :=
  let store := store.counted call.operation
  match store.pendingFailures call.operation with
  | 0 => store.respond call
  | remaining + 1 => (.error (.injected call.operation), store.failNext call.operation remaining)

def plane : Plane Store := .ofAnswer answer

end Store

end Tenancy.Cluster
