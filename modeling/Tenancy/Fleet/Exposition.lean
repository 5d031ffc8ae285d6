import Tenancy.Fleet.Gauges
import Tenancy.Number.Shortest

/-!
# Exposition of the gauges

The text that a scrape gets: one family after the other by name, each with
what it means, its type and its series by label value.  A family without
series is left out.
-/

namespace Tenancy.Fleet

open Number

def expositionType : String := "text/plain; version=0.0.4"

/-- A label value with the backslash, the quote and the line feed escaped. -/
def escapeLabel (value : String) : String :=
  String.ofList (value.toList.flatMap fun character =>
    match character with
    | '\\' => ['\\', '\\']
    | '"' => ['\\', '"']
    | '\n' => ['\\', 'n']
    | other => [other])

/-- A gauge family: its name, what it means, and each series as the text of
its labels and its figure. -/
structure Family where
  name : String
  meaning : String
  series : List (String × Int)

namespace Family

def lines (family : Family) : List String :=
  if family.series.isEmpty then []
  else
    ["# HELP " ++ family.name ++ " " ++ family.meaning,
      "# TYPE " ++ family.name ++ " gauge"] ++
    family.series.map fun series => family.name ++ series.1 ++ " " ++ doubleText series.2

/-- The series of a dictionary from workspaces to figures. -/
def labelled (figures : Dictionary Int) : List (String × Int) :=
  figures.entries.map fun entry =>
    ("\x7bnamespace=\"" ++ escapeLabel entry.1 ++ "\"\x7d", entry.2)

end Family

namespace Gauges

def families (gauges : Gauges) : List Family :=
  [⟨"zombie_namespace_count", "Number of namespaces with names starting with 'zombie-'",
      [("", gauges.namespaceCount)]⟩,
    ⟨"zombie_namespace_old",
      "Indicates if a namespace with a name starting with 'zombie-' is older than 2 days",
      Family.labelled gauges.staleFlags⟩,
    ⟨"zombie_namespace_pods_count",
      "Number of pods in namespaces with names starting with 'zombie-'",
      Family.labelled gauges.podCounts⟩]

def exposition (gauges : Gauges) : String :=
  String.join ((gauges.families.flatMap Family.lines).map (· ++ "\n"))

end Gauges

/-- What can go wrong with the published figures. -/
inductive MetricsFailure where
  | encoding (reason : String)
  /-- A family was refused, for a reason of its own. -/
  | registration (reason : String)
  | duplicate
deriving DecidableEq, Repr

def MetricsFailure.message : MetricsFailure → String
  | .encoding reason => "failed to encode metrics: " ++ reason
  | .registration reason => "failed to register metric: Error: " ++ reason
  | .duplicate =>
      "failed to register metric: Duplicate metrics collector registration attempted"

end Tenancy.Fleet
