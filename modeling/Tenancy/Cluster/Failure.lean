import Tenancy.Time.Span

/-!
# Failures of cluster calls

What can go wrong with a call to the control plane, what is said about it, and
which failures the same call may not meet again.
-/

namespace Tenancy.Cluster

inductive Failure where
  | notFound (message : String)
  | alreadyExists (message : String)
  /-- No answer came in time. -/
  | timeout (operation : String) (after : Span)
  /-- Any other refusal, with the code of the control plane if it sent one. -/
  | refused (code : Option Nat) (message : String)
deriving DecidableEq, Repr

namespace Failure

def message : Failure → String
  | .notFound message => "not found: " ++ message
  | .alreadyExists message => "already exists: " ++ message
  | .timeout operation after => operation ++ " timed out after " ++ after.render
  | .refused _ message => "cluster API error: " ++ message

def isNotFound : Failure → Bool
  | .notFound _ => true
  | _ => false

def isAlreadyExists : Failure → Bool
  | .alreadyExists _ => true
  | _ => false

/-- Whether the same call could succeed when it is made again: after a missing
answer, a broken connection, throttling and faults of the server. -/
def isTransient : Failure → Bool
  | .timeout _ _ => true
  | .refused none _ => true
  | .refused (some code) _ => code == 429 || 500 ≤ code
  | .notFound _ => false
  | .alreadyExists _ => false

/-- The failure that a control plane means by the status it answers with. -/
def ofStatus (code : Nat) (reason message : String) : Failure :=
  if code = 404 then .notFound message
  else if code = 409 ∧ reason = "AlreadyExists" then .alreadyExists message
  else .refused (some code) message

end Failure

end Tenancy.Cluster
