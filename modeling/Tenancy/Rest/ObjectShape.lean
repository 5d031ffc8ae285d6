import Tenancy.Rest.Shape

/-!
# What objects have in common

The shapes of metadata, of references from one object to another and of what
selects objects.
-/

namespace Tenancy.Rest.Shape

/-- The object that another one belongs to. -/
def ownerReference : Shape :=
  .record (text.each ["apiVersion", "kind", "name", "uid"] ++
    flag.each ["blockOwnerDeletion", "controller"])

/-- Who manages which fields of an object. -/
def managedFields : Shape :=
  .record (text.each ["apiVersion", "fieldsType", "manager", "operation", "subresource"] ++
    [("fieldsV1", readable), ("time", time)])

def metadata : Shape :=
  .record (text.each ["generateName", "name", "namespace", "resourceVersion", "selfLink", "uid"] ++
    integer64.each ["deletionGracePeriodSeconds", "generation"] ++
    time.each ["creationTimestamp", "deletionTimestamp"] ++
    (dictionary text).each ["annotations", "labels"] ++
    [("finalizers", list text), ("managedFields", list managedFields),
      ("ownerReferences", list ownerReference)])

/-- What a listing says about itself. -/
def listMetadata : Shape :=
  .record (text.each ["continue", "resourceVersion", "selfLink"] ++
    [("remainingItemCount", integer64)])

/-- A mention of another object. -/
def objectReference : Shape :=
  texts ["apiVersion", "fieldPath", "kind", "name", "namespace", "resourceVersion", "uid"]

/-- A mention of an object in the same namespace. -/
def localReference : Shape := texts ["name"]

/-- A key with an operator and the values it is compared with. -/
def requirement : Shape := .record (text.each ["key", "operator"] ++ [("values", list text)])

def labelSelector : Shape :=
  .record [("matchExpressions", list requirement), ("matchLabels", dictionary text)]

def namespaceCondition : Shape :=
  .record (text.each ["message", "reason", "status", "type"] ++ [("lastTransitionTime", time)])

def namespaceStatus : Shape :=
  .record [("conditions", list namespaceCondition), ("phase", text)]

def namespaceSpec : Shape := .record [("finalizers", list text)]

end Tenancy.Rest.Shape
