import Tenancy.Cluster.Call
import Tenancy.Fleet.Gauges
import Tenancy.Upkeep.Age
import Tenancy.Workspace.Ownership

/-!
# The fleet monitor

A scan lists the namespaces, publishes for every workspace whether it is stale
and how many pods it has, and drops the figures of workspaces that were there
at the scan before and are gone.  When the namespaces cannot be listed, nothing
changes; when the pods of a workspace cannot, its count stays as it was.
-/

namespace Tenancy.Fleet

open Cluster Upkeep Workspace

/-- What a monitor keeps between scans. -/
structure Monitor where
  /-- The workspaces of the latest scan. -/
  published : List String := []
  gauges : Gauges := {}
deriving DecidableEq, Inhabited

structure Snapshot where
  total : Nat := 0
  stale : List String := []
deriving DecidableEq, Repr

def workspacesIn (listing : List Namespace) : List (String × Metadata) :=
  (listing.filter isWorkspace).filterMap fun object =>
    object.metadata.name.map fun name => (name, object.metadata)

/-- Counts and judges the workspaces one after the other, and asks for the pods
of each. -/
def survey (now : Instant) : List (String × Metadata) → Snapshot → Gauges →
    Calls (Snapshot × Gauges)
  | [], snapshot, gauges => .done (snapshot, gauges)
  | (name, metadata) :: rest, snapshot, gauges =>
      let stale := isOlder metadata .stale now
      let snapshot : Snapshot :=
        ⟨snapshot.total + 1, if stale then snapshot.stale ++ [name] else snapshot.stale⟩
      let gauges := gauges.setStale name stale
      (call (.listPods name none)).bind fun
        | .ok pods => survey now rest snapshot (gauges.setPodCount name pods.length)
        | .error _ => survey now rest snapshot gauges

def scan (now : Instant) (monitor : Monitor) : Calls (Except Failure Snapshot × Monitor) :=
  (call .listNamespaces).bind fun
    | .error failure => .done (.error failure, monitor)
    | .ok listing =>
        let workspaces := workspacesIn listing
        let names := workspaces.map Prod.fst
        (survey now workspaces {} monitor.gauges).bind fun (snapshot, gauges) =>
          let gone := monitor.published.filter fun name => !names.contains name
          let gauges := gone.foldl Gauges.forget (gauges.setNamespaceCount snapshot.total)
          .done (.ok snapshot, ⟨names, gauges⟩)

end Tenancy.Fleet
