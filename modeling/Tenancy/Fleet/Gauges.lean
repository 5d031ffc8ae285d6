import Tenancy.Dictionary
import Tenancy.Number.Rounding
import Tenancy.Number.Word

/-!
# Gauges

The figures that are published about the workspaces: how many there are, how
many pods each has and whether it is stale.  Counts are kept in signed words
of 64 bits, and the figure of one workspace is read back as a floating-point
number would give it.
-/

namespace Tenancy.Fleet

open Number

/-- A signed word after a conversion to floating point and back. -/
def throughDouble (word : Int) : Int :=
  if word < 0 then max (-(nearestDouble word.natAbs : Int)) leastSigned64
  else min (nearestDouble word.natAbs : Int) greatestSigned64

/-- The published figures.  A workspace has a figure once it was given one. -/
structure Gauges where
  namespaceCount : Int := 0
  podCounts : Dictionary Int := .empty
  staleFlags : Dictionary Int := .empty
deriving DecidableEq, Inhabited

namespace Gauges

def setNamespaceCount (gauges : Gauges) (count : Nat) : Gauges :=
  { gauges with namespaceCount := signedWord count }

def setPodCount (gauges : Gauges) (workspace : String) (count : Nat) : Gauges :=
  { gauges with podCounts := gauges.podCounts.insert workspace (signedWord count) }

def setStale (gauges : Gauges) (workspace : String) (stale : Bool) : Gauges :=
  { gauges with staleFlags := gauges.staleFlags.insert workspace (if stale then 1 else 0) }

def forget (gauges : Gauges) (workspace : String) : Gauges :=
  { gauges with
    podCounts := gauges.podCounts.erase workspace
    staleFlags := gauges.staleFlags.erase workspace }

def podCount? (gauges : Gauges) (workspace : String) : Option Int :=
  (gauges.podCounts.find? workspace).map throughDouble

def staleFlag? (gauges : Gauges) (workspace : String) : Option Int :=
  (gauges.staleFlags.find? workspace).map throughDouble

end Gauges

end Tenancy.Fleet
