import Tenancy.Cluster.Call
import Tenancy.Upkeep.Age
import Tenancy.Workspace.Ownership

/-!
# Reapers

Two passes that delete what has become too old: workspaces, whoever owns them,
and the pods that runners left behind.  A deletion that fails does not stop a
pass and is not reported as done.
-/

namespace Tenancy.Upkeep

open Cluster Workspace

/-- Makes one deletion after the other and yields the names whose deletion
succeeded. -/
def deleteAll (delete : String → Calls (Except Failure Unit)) :
    List String → Calls (List String)
  | [] => .done []
  | name :: rest =>
      (delete name).bind fun answer =>
        (deleteAll delete rest).bind fun deleted =>
          .done (match answer with
            | .ok () => name :: deleted
            | .error _ => deleted)

/-- The names of the workspaces in a listing that are older than a limit. -/
def oldWorkspaces (limit : AgeLimit) (now : Instant) (listing : List Namespace) : List String :=
  (listing.filter fun object => isWorkspace object && isOlder object.metadata limit now).filterMap
    fun object => object.metadata.name

/-- Deletes the workspaces that are older than a number of hours. -/
def reapNamespaces (hours : Int) (now : Instant) : Calls (Except Failure (List String)) :=
  (call .listNamespaces).bind fun
    | .error failure => .done (.error failure)
    | .ok listing =>
        (deleteAll (fun name => call (.deleteNamespace name))
          (oldWorkspaces (.forHours hours) now listing)).bind fun deleted => .done (.ok deleted)

/-- Which pods are to be reaped. -/
structure PodRule where
  space : String
  /-- The label that marks a pod. -/
  labelKey : String
  /-- How the value of the label starts. -/
  labelStart : String
  maximalHours : Int
deriving DecidableEq, Repr

namespace PodRule

/-- Whether a pod is marked as a runner's. -/
def marks (rule : PodRule) (pod : Pod) : Bool :=
  (pod.metadata.label? rule.labelKey).any fun value =>
    rule.labelStart.toList.isPrefixOf value.toList

/-- The names of the marked pods in a listing that are too old. -/
def oldPods (rule : PodRule) (now : Instant) (listing : List Pod) : List String :=
  (listing.filter fun pod =>
    rule.marks pod && isOlder pod.metadata (.forHours rule.maximalHours) now).filterMap
    fun pod => pod.metadata.name

end PodRule

/-- Deletes the pods that a rule marks and finds too old. -/
def reapPods (rule : PodRule) (now : Instant) : Calls (Except Failure (List String)) :=
  (call (.listPods rule.space (some rule.labelKey))).bind fun
    | .error failure => .done (.error failure)
    | .ok listing =>
        (deleteAll (fun name => call (.deletePod rule.space name))
          (rule.oldPods now listing)).bind fun deleted => .done (.ok deleted)

end Tenancy.Upkeep
