import Tenancy.Cluster.Call

/-!
# Scripted and recorded planes

Two planes in front of another one.  The first follows a script that makes
calls fail before or after they take effect, or answers them itself.  The
second keeps the history of calls and answers.
-/

namespace Tenancy.Cluster

/-- What happens to one call of a kind. -/
inductive Action (operation : Operation) where
  | pass
  /-- The call fails without reaching the plane. -/
  | fail (failure : Failure)
  /-- The call takes effect, but its answer is lost. -/
  | lose (failure : Failure)
  /-- The call is answered without reaching the plane. -/
  | answer (result : operation.Result)

/-- The actions for the next calls of each kind.  Further calls pass. -/
abbrev Script : Type := (operation : Operation) → List (Action operation)

namespace Script

def empty : Script := fun _ => []

def set (script : Script) (operation : Operation) (actions : List (Action operation)) : Script :=
  fun other => if same : operation = other then same ▸ actions else script other

def append (script : Script) (operation : Operation) (actions : List (Action operation)) :
    Script :=
  script.set operation (script operation ++ actions)

end Script

/-- A plane's state together with what is left of a script. -/
structure Scripted (State : Type) where
  script : Script
  plane : State

/-- A plane that follows a script. -/
def scripted {State : Type} (plane : Plane State) : Plane (Scripted State) where
  pause length state := { state with plane := plane.pause length state.plane }
  answer call state :=
    let forward (script : Script) : call.Answer × Scripted State :=
      let (answer, after) := plane.answer call state.plane
      (answer, ⟨script, after⟩)
    match state.script call.operation with
    | [] => forward state.script
    | action :: rest =>
        let script := state.script.set call.operation rest
        match action with
        | .pass => forward script
        | .fail failure => (.error failure, { state with script })
        | .lose failure => (.error failure, (forward script).2)
        | .answer result => (.ok result, { state with script })

abbrev Exchange : Type := (call : Call) × call.Answer

/-- A plane's state together with the exchanges so far. -/
structure Recorded (State : Type) where
  history : List Exchange
  plane : State

/-- A plane that keeps its history. -/
def recorded {State : Type} (plane : Plane State) : Plane (Recorded State) where
  pause length state := { state with plane := plane.pause length state.plane }
  answer call state :=
    let (answer, after) := plane.answer call state.plane
    (answer, ⟨state.history ++ [⟨call, answer⟩], after⟩)

end Tenancy.Cluster
