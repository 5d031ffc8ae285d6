import Tenancy.Cluster.Object
import Tenancy.Workspace.Name

/-!
# Ownership of workspaces

A workspace is a namespace inside the naming convention.  The owner it belongs
to is written in an annotation.
-/

namespace Tenancy.Workspace

open Cluster

/-- The annotation that names the owner. -/
def ownerAnnotation : String := "parity.io/owner"

/-- Whether a namespace is a workspace, whoever owns it. -/
def isWorkspace (object : Namespace) : Bool := object.metadata.name.any isName

def owner? (object : Namespace) : Option String := object.metadata.annotation? ownerAnnotation

def isOwnedBy (owner : String) (object : Namespace) : Bool := owner? object == some owner

/-- The namespace to create for a new workspace. -/
def namespaceFor (name owner : String) : Namespace where
  metadata := { name := some name, annotations := some (.singleton ownerAnnotation owner) }

end Tenancy.Workspace
