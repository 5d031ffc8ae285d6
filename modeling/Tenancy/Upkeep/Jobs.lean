/-!
# Background jobs

The jobs that run beside the service, joined in the order in which they were
started.
-/

namespace Tenancy.Upkeep

inductive JobOutcome where
  | finished
  | panicked
deriving DecidableEq, Repr

/-- The jobs that were started, with the outcome that each comes to. -/
structure Jobs where
  started : List (String × JobOutcome) := []

namespace Jobs

def spawn (jobs : Jobs) (name : String) (outcome : JobOutcome) : Jobs :=
  ⟨jobs.started ++ [(name, outcome)]⟩

def size (jobs : Jobs) : Nat := jobs.started.length

def isEmpty (jobs : Jobs) : Bool := jobs.started.isEmpty

/-- Waits for all jobs and yields the names of those that panicked. -/
def join (jobs : Jobs) : List String :=
  (jobs.started.filter fun job => job.2 == .panicked).map Prod.fst

end Jobs

end Tenancy.Upkeep
