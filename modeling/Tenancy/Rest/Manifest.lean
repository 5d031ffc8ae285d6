import Tenancy.Cluster.Object
import Tenancy.Json.Value
import Tenancy.Text.Base64
import Tenancy.Time.Rfc3339

/-!
# Manifests

Cluster objects as the JSON that a control plane is sent.  Fields without a
value are left out, and times are sent to the second.
-/

namespace Tenancy.Rest

open Cluster

def textMap (entries : Dictionary String) : Json :=
  .object (entries.entries.map fun entry => (entry.1, .string entry.2))

def metadataJson (metadata : Metadata) : Json :=
  .objectOf
    [("annotations", metadata.annotations.map textMap),
      ("creationTimestamp",
        metadata.created.map fun created => .string (Rfc3339.writeSeconds created)),
      ("labels", metadata.labels.map textMap),
      ("name", metadata.name.map .string),
      ("namespace", metadata.space.map .string),
      ("resourceVersion", metadata.version.map .string),
      ("uid", metadata.uid.map .string)]

/-- An object of a kind, with what it has beside its metadata. -/
def manifest (apiVersion kind : String) (metadata : Metadata)
    (more : List (String × Option Json)) : Json :=
  .objectOf
    ([("apiVersion", some (.string apiVersion)), ("kind", some (.string kind)),
      ("metadata", some (metadataJson metadata))] ++ more)

def rolesVersion : String := "rbac.authorization.k8s.io/v1"

def namespaceJson (object : Namespace) : Json :=
  manifest "v1" "Namespace" object.metadata
    [("status", object.phase.map fun phase => .object [("phase", .string phase)])]

def secretJson (secret : Secret) : Json :=
  manifest "v1" "Secret" secret.metadata
    [("data", secret.data.map fun data =>
        .object (data.entries.map fun entry => (entry.1, .string (Text.Base64.encode entry.2)))),
      ("type", secret.kind.map .string)]

def serviceAccountJson (account : ServiceAccount) : Json :=
  manifest "v1" "ServiceAccount" account.metadata []

def roleRefJson (role : RoleRef) : Json :=
  .object [("apiGroup", .string role.apiGroup), ("kind", .string role.kind),
    ("name", .string role.name)]

def subjectJson (subject : Subject) : Json :=
  .objectOf
    [("apiGroup", subject.apiGroup.map .string), ("kind", some (.string subject.kind)),
      ("name", some (.string subject.name)), ("namespace", subject.space.map .string)]

def roleBindingJson (binding : RoleBinding) : Json :=
  manifest rolesVersion "RoleBinding" binding.metadata
    [("roleRef", some (roleRefJson binding.roleRef)),
      ("subjects", binding.subjects.map fun subjects => .array (subjects.map subjectJson))]

end Tenancy.Rest
