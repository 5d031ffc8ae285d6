import Tenancy.Rest.Manifest
import Tenancy.Rest.PodShape

/-!
# Reading objects

Cluster objects read from the JSON of a control plane.  Unknown fields are
passed over, null and missing fields are none, and of a field that is there
twice the last counts.  A field that is there with a value of another type
makes the whole object unreadable.
-/

namespace Tenancy.Rest

open Cluster

/-- A way to read a value. -/
abbrev Reader (Value : Type) : Type := Json → Option Value

namespace Reader

def text : Reader String := Json.asString?

def integer (least greatest : Int) : Reader Int
  | .integer value => if least ≤ value ∧ value ≤ greatest then some value else none
  | _ => none

def time : Reader Instant := fun value => value.asString?.bind Rfc3339.read?

/-- A value of a shape; the value itself is not kept. -/
def shaped (shape : Shape) : Reader Unit := fun value =>
  if shape.admits value then some () else none

/-- Bytes in Base64.  Null stands for no bytes. -/
def bytes : Reader ByteArray
  | .null => some .empty
  | value => value.asString?.bind Text.Base64.decode?

def optional {Value : Type} (reader : Reader Value) : Reader (Option Value)
  | .null => some none
  | value => (reader value).map some

def list {Value : Type} (reader : Reader Value) : Reader (List Value)
  | .array items => items.mapM reader
  | _ => none

def dictionary {Value : Type} (reader : Reader Value) : Reader (Dictionary Value)
  | .object members => do
      let entries ← members.mapM fun member => do return (member.1, ← reader member.2)
      return .ofList entries
  | _ => none

/-- The value of a field that may be missing or null.  All occurrences have to
be readable. -/
def field {Value : Type} (members : List (String × Json)) (name : String)
    (reader : Reader Value) : Option (Option Value) := do
  let values ← (Json.membersNamed name members).mapM (optional reader)
  return values.getLast?.join

/-- A field that is there has a shape; the value itself is not kept. -/
def check (members : List (String × Json)) (name : String) (shape : Shape) : Option Unit :=
  (field members name (shaped shape)).map fun _ => ()

def members : Reader (List (String × Json))
  | .object members => some members
  | _ => none

end Reader

open Reader

def readMetadata : Reader Metadata := fun value => do
  shaped .metadata value
  let fields ← members value
  return {
    name := ← field fields "name" text
    space := ← field fields "namespace" text
    annotations := ← field fields "annotations" (dictionary text)
    labels := ← field fields "labels" (dictionary text)
    created := ← field fields "creationTimestamp" time
    uid := ← field fields "uid" text
    version := ← field fields "resourceVersion" text }

/-- Type and version, where they are given, are the expected ones. -/
def checkType (fields : List (String × Json)) (apiVersion kind : String) : Option Unit := do
  let versions ← (Json.membersNamed "apiVersion" fields).mapM text
  let kinds ← (Json.membersNamed "kind" fields).mapM text
  if versions.all (· == apiVersion) && kinds.all (· == kind) then some () else none

/-- The members and the metadata of an object of a kind. -/
def readHead (apiVersion kind : String) (value : Json) :
    Option (List (String × Json) × Metadata) := do
  let fields ← members value
  checkType fields apiVersion kind
  return (fields, (← field fields "metadata" readMetadata).getD {})

def readPhase : Reader (Option String) := fun value => do
  shaped .namespaceStatus value
  field (← members value) "phase" text

def readNamespace : Reader Namespace := fun value => do
  let (fields, metadata) ← readHead "v1" "Namespace" value
  check fields "spec" .namespaceSpec
  return { metadata, phase := (← field fields "status" readPhase).join }

/-- A pod.  What it runs and how it fares has to be well shaped and is not
kept. -/
def readPod : Reader Pod := fun value => do
  let (fields, metadata) ← readHead "v1" "Pod" value
  check fields "spec" .podSpec
  check fields "status" .podStatus
  return { metadata }

def readSecret : Reader Secret := fun value => do
  let (fields, metadata) ← readHead "v1" "Secret" value
  check fields "immutable" .flag
  check fields "stringData" (.dictionary .text)
  return {
    metadata
    data := ← field fields "data" (dictionary bytes)
    kind := ← field fields "type" text }

def readServiceAccount : Reader ServiceAccount := fun value => do
  let (fields, metadata) ← readHead "v1" "ServiceAccount" value
  check fields "automountServiceAccountToken" .flag
  check fields "imagePullSecrets" (.list .localReference)
  check fields "secrets" (.list .objectReference)
  return { metadata }

def readRoleRef : Reader RoleRef := fun value => do
  let fields ← members value
  return {
    apiGroup := (← field fields "apiGroup" text).getD ""
    kind := (← field fields "kind" text).getD ""
    name := (← field fields "name" text).getD "" }

def readSubject : Reader Subject := fun value => do
  let fields ← members value
  return {
    apiGroup := ← field fields "apiGroup" text
    kind := (← field fields "kind" text).getD ""
    name := (← field fields "name" text).getD ""
    space := ← field fields "namespace" text }

def readRoleBinding : Reader RoleBinding := fun value => do
  let (fields, metadata) ← readHead rolesVersion "RoleBinding" value
  return {
    metadata
    roleRef := (← field fields "roleRef" readRoleRef).getD {}
    subjects := ← field fields "subjects" (list readSubject) }

/-- The items of a listing.  There have to be fields for them and for what it
says about itself; null stands for no items. -/
def readListing {Value : Type} (reader : Reader Value) : Reader (List Value) := fun value => do
  match ← value.recordFields? ["metadata", "items"] with
  | [some metadata, some items] =>
      shaped .listMetadata metadata
      return (← optional (list reader) items).getD []
  | _ => none

end Tenancy.Rest
