import Tenancy.Cluster.Object
import Tenancy.Json.Value
import Tenancy.Time.Rfc3339

/-!
# What callers are told about workspaces

The records that the service answers with, and their JSON objects.
-/

namespace Tenancy.Workspace

open Cluster

/-- What the caller gets for a new workspace, once. -/
structure Descriptor where
  name : String
  token : String
  message : String
deriving DecidableEq, Repr

namespace Descriptor

def ofCreated (name token : String) : Descriptor :=
  ⟨name, token, "Successfully created namespace " ++ name⟩

def toJson (descriptor : Descriptor) : Json :=
  .object [("namespace", .string descriptor.name), ("token", .string descriptor.token),
    ("message", .string descriptor.message)]

def ofJson? (value : Json) : Option Descriptor := do
  match ← value.recordFields? ["namespace", "token", "message"] with
  | [some name, some token, some message] =>
      return ⟨← name.asString?, ← token.asString?, ← message.asString?⟩
  | _ => none

end Descriptor

structure Status where
  name : String
  phase : Option String
  created : Option Instant
  uid : Option String
  version : Option String
deriving DecidableEq

namespace Status

def ofNamespace (object : Namespace) : Status :=
  ⟨object.metadata.name.getD "", object.phase, object.metadata.created, object.metadata.uid,
    object.metadata.version⟩

def toJson (status : Status) : Json :=
  .object [("namespace", .string status.name), ("status", .ofOption (status.phase.map .string)),
    ("creationTime", .ofOption (status.created.map fun created => .string (Rfc3339.write created))),
    ("uid", .ofOption (status.uid.map .string)),
    ("resourceVersion", .ofOption (status.version.map .string))]

/-- A text that may be null or missing. -/
def optionalText? (field : Option Json) : Option (Option String) :=
  (field.getD .null).asOptionalString?

/-- A time that may be null or missing. -/
def optionalTime? (field : Option Json) : Option (Option Instant) := do
  match ← optionalText? field with
  | none => return none
  | some text => return some (← Rfc3339.read? text)

def ofJson? (value : Json) : Option Status := do
  match ← value.recordFields? ["namespace", "status", "creationTime", "uid", "resourceVersion"] with
  | [some name, phase, created, uid, version] =>
      return ⟨← name.asString?, ← optionalText? phase, ← optionalTime? created,
        ← optionalText? uid, ← optionalText? version⟩
  | _ => none

end Status

/-- The names of a caller's workspaces. -/
structure Roster where
  names : List String
deriving DecidableEq, Repr

namespace Roster

def toJson (roster : Roster) : Json :=
  .object [("namespaces", .array (roster.names.map .string))]

def ofJson? (value : Json) : Option Roster := do
  match ← value.recordFields? ["namespaces"] with
  | [some names] => return ⟨← (← names.asArray?).mapM Json.asString?⟩
  | _ => none

end Roster

end Tenancy.Workspace
