import Tenancy.Cluster.Object
import Tenancy.Number.Word

/-!
# Ages

When an object counts as old.  A limit is a signed length of time, counted in
milliseconds of 64 bits at most, and an age has to exceed it.
-/

namespace Tenancy.Upkeep

open Cluster

/-- A limit for ages, in nanoseconds. -/
structure AgeLimit where
  nanoseconds : Int
deriving DecidableEq, Repr

namespace AgeLimit

/-- The longest limit there is.  No two instants are that far apart. -/
def longest : AgeLimit := ⟨Number.greatestSigned64 * 1000000⟩

/-- A limit of whole seconds, if there is such a limit. -/
def ofSeconds? (seconds : Int) : Option AgeLimit :=
  if -Number.greatestSigned64 ≤ seconds * 1000 ∧ seconds * 1000 ≤ Number.greatestSigned64 then
    some ⟨seconds * 1000000000⟩
  else none

/-- A limit of whole hours, if there is such a limit. -/
def ofHours? (hours : Int) : Option AgeLimit := ofSeconds? (hours * 3600)

/-- The limit for a number of hours.  Where the number is not positive or no
limit is that long, it is the longest limit, which nothing exceeds. -/
def forHours (hours : Int) : AgeLimit :=
  if hours < 1 then longest else (ofHours? hours).getD longest

/-- The limit above which a workspace is stale. -/
def stale : AgeLimit := ⟨48 * 3600 * 1000000000⟩

end AgeLimit

/-- Whether an object was created longer before `now` than the limit.  An
object without a time of creation is never old. -/
def isOlder (metadata : Metadata) (limit : AgeLimit) (now : Instant) : Bool :=
  metadata.created.any fun created => limit.nanoseconds < now.since created

end Tenancy.Upkeep
