import Tenancy.Dictionary
import Tenancy.Time.Instant

/-!
# Cluster objects

The objects that the control plane keeps: namespaces and what lives inside
them.  Only the fields that the service sets or reads are kept.
-/

namespace Tenancy.Cluster

/-- What every object carries.  `space` is the namespace it lives in. -/
structure Metadata where
  name : Option String := none
  space : Option String := none
  annotations : Option (Dictionary String) := none
  labels : Option (Dictionary String) := none
  created : Option Instant := none
  uid : Option String := none
  version : Option String := none
deriving DecidableEq, Inhabited

namespace Metadata

def annotation? (metadata : Metadata) (key : String) : Option String :=
  metadata.annotations.bind (·.find? key)

def label? (metadata : Metadata) (key : String) : Option String :=
  metadata.labels.bind (·.find? key)

def isIn (metadata : Metadata) (space : String) : Bool := metadata.space == some space

def isNamed (metadata : Metadata) (name : String) : Bool := metadata.name == some name

end Metadata

structure Namespace where
  metadata : Metadata := {}
  phase : Option String := none
deriving DecidableEq, Inhabited

structure Pod where
  metadata : Metadata := {}
deriving DecidableEq, Inhabited

structure Secret where
  metadata : Metadata := {}
  data : Option (Dictionary ByteArray) := none
  kind : Option String := none
deriving DecidableEq, Inhabited

namespace Secret

def datum? (secret : Secret) (key : String) : Option ByteArray :=
  secret.data.bind (·.find? key)

end Secret

structure ServiceAccount where
  metadata : Metadata := {}
deriving DecidableEq, Inhabited

structure RoleRef where
  apiGroup : String := ""
  kind : String := ""
  name : String := ""
deriving DecidableEq, Inhabited

structure Subject where
  apiGroup : Option String := none
  kind : String := ""
  name : String := ""
  space : Option String := none
deriving DecidableEq, Inhabited

structure RoleBinding where
  metadata : Metadata := {}
  roleRef : RoleRef := {}
  subjects : Option (List Subject) := none
deriving DecidableEq, Inhabited

end Tenancy.Cluster
