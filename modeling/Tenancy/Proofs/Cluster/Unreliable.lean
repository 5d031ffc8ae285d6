import Tenancy.Proofs.Cluster.Contents
import Tenancy.Proofs.Guarantee

/-!
# Unreliable planes

A plane in front of a store is unreliable when a call may fail on its way to
the store, and when the answer to a call that took effect may be lost on its
way back.  Both look the same to the program: a failure that the same call may
not meet again.  A script of such failures makes an unreliable plane, and every
failure uses up one action of the script.
-/

namespace Tenancy.Cluster

theorem Failure.isAlreadyExists_of_isTransient {failure : Failure}
    (transient : failure.isTransient = true) : failure.isAlreadyExists = false := by
  cases failure with
  | alreadyExists message => cases transient
  | _ => rfl

theorem Failure.isNotFound_of_isTransient {failure : Failure}
    (transient : failure.isTransient = true) : failure.isNotFound = false := by
  cases failure with
  | notFound message => cases transient
  | _ => rfl

/-- What an unreliable plane does with a call: what it answers, and what becomes
of the store and of the history of calls that reached it. -/
inductive Relayed (before : Recorded Store) (call : Call) :
    call.Answer → Recorded Store → Prop where
  | passed {answer : call.Answer} {after : Store}
      (answered : Store.answer call before.plane = (answer, after)) :
      Relayed before call answer ⟨before.history ++ [⟨call, answer⟩], after⟩
  | dropped {failure : Failure} (transient : failure.isTransient = true) :
      Relayed before call (.error failure) before
  | lost {failure : Failure} {answer : call.Answer} {after : Store}
      (transient : failure.isTransient = true)
      (answered : Store.answer call before.plane = (answer, after)) :
      Relayed before call (.error failure) ⟨before.history ++ [⟨call, answer⟩], after⟩

section

variable {before after : Recorded Store} {call : Call} {answer : call.Answer}

/-- What every answer of the store keeps, an unreliable plane keeps. -/
theorem Relayed.keeps (invariant : Recorded Store → Prop)
    (relayed : Relayed before call answer after) (holds : invariant before)
    (kept : ∀ reply store, Store.answer call before.plane = (reply, store) →
      invariant ⟨before.history ++ [⟨call, reply⟩], store⟩) : invariant after := by
  cases relayed with
  | passed answered => exact kept _ _ answered
  | dropped transient => exact holds
  | lost transient answered => exact kept _ _ answered

theorem Relayed.answered_or_transient (relayed : Relayed before call answer after) :
    Store.answer call before.plane = (answer, after.plane) ∨
      ∃ failure, answer = .error failure ∧ failure.isTransient = true := by
  cases relayed with
  | passed answered => exact .inl answered
  | dropped transient => exact .inr ⟨_, rfl, transient⟩
  | lost transient answered => exact .inr ⟨_, rfl, transient⟩

end

/-- The setting in which every call of a store may fail or lose its answer. -/
def unreliable : Setting Call Call.Answer (Recorded Store) where
  admits _ _ := True
  answers := Relayed

namespace Action

variable {operation : Operation}

/-- The call passes, or fails in a way that repeating may mend. -/
def IsMendable : Action operation → Prop
  | .pass => True
  | .fail failure => failure.isTransient = true
  | .lose failure => failure.isTransient = true
  | .answer _ => False

instance (action : Action operation) : Decidable action.IsMendable :=
  match action with
  | .pass => isTrue trivial
  | .fail failure => inferInstanceAs (Decidable (failure.isTransient = true))
  | .lose failure => inferInstanceAs (Decidable (failure.isTransient = true))
  | .answer _ => isFalse id

def isFault : Action operation → Bool
  | .pass => false
  | _ => true

end Action

namespace Script

def IsMendable (script : Script) : Prop :=
  ∀ operation, ∀ action ∈ script operation, action.IsMendable

theorem isMendable_of_all {script : Script}
    (all : ∀ operation ∈ Operation.all, ∀ action ∈ script operation, action.IsMendable) :
    script.IsMendable := by
  intro operation
  apply all
  cases operation <;> decide

/-- How many of the calls of a kind do not pass. -/
def faults (script : Script) (operation : Operation) : Nat :=
  (script operation).countP Action.isFault

theorem set_self (script : Script) (operation : Operation) (actions : List (Action operation)) :
    script.set operation actions operation = actions := by
  simp [set]

theorem set_other {script : Script} {operation other : Operation}
    (actions : List (Action operation)) (apart : operation ≠ other) :
    script.set operation actions other = script other := by
  simp [set, apart]

/-- A script without its first action of a kind. -/
theorem IsMendable.set {script : Script} {operation : Operation} {action : Action operation}
    {rest : List (Action operation)} (mendable : script.IsMendable)
    (next : script operation = action :: rest) : (script.set operation rest).IsMendable := by
  intro other held member
  by_cases same : operation = other
  · subst same
    rw [set_self] at member
    exact mendable operation held (next ▸ List.mem_cons_of_mem action member)
  · rw [set_other rest same] at member
    exact mendable other held member

theorem faults_set {script : Script} {operation : Operation} {action : Action operation}
    {rest : List (Action operation)} (next : script operation = action :: rest)
    (other : Operation) :
    (script.set operation rest).faults other +
        (if operation = other ∧ action.isFault = true then 1 else 0) =
      script.faults other := by
  by_cases same : operation = other
  · subst same
    rw [faults, faults, set_self, next, List.countP_cons]
    simp
  · rw [faults, faults, set_other rest same]
    simp [same]

end Script

/-- What a call leaves of a script of failures.  A call that fails on its account
uses one of them up. -/
structure Spent (before : Script) (operation : Operation) (failed : Prop) (after : Script) :
    Prop where
  mendable : after.IsMendable
  faults : ∀ other, after.faults other ≤ before.faults other
  used : failed → after.faults operation < before.faults operation

theorem Spent.nothing {script : Script} (operation : Operation) (mendable : script.IsMendable) :
    Spent script operation False script :=
  ⟨mendable, fun _ => Nat.le_refl _, False.elim⟩

theorem Spent.next {script : Script} {operation : Operation} {action : Action operation}
    {rest : List (Action operation)} {failed : Prop} (mendable : script.IsMendable)
    (next : script operation = action :: rest) (faulty : failed → action.isFault = true) :
    Spent script operation failed (script.set operation rest) := by
  refine ⟨mendable.set next, ?_, ?_⟩
  · intro other
    have counted := Script.faults_set next other
    omega
  · intro holds
    have counted := Script.faults_set next operation
    simp only [faulty holds, and_self, if_true] at counted
    omega

/-- Whatever a script does with a call, the plane behind it answers or is left
alone. -/
theorem scripted_reaches {State : Type} (plane : Plane State) (call : Call)
    (before : Scripted State) :
    ((scripted plane).answer call before).2.plane = before.plane ∨
      ((scripted plane).answer call before).2.plane = (plane.answer call before.plane).2 := by
  simp only [scripted]
  split
  next => exact .inr rfl
  next action rest _ =>
    cases action with
    | pass => exact .inr rfl
    | fail failure => exact .inl rfl
    | lose failure => exact .inr rfl
    | answer result => exact .inl rfl

/-- A call through a script of failures passes, or it fails before it reaches
the plane or after it took effect there. -/
theorem scripted_cases {State : Type} {plane : Plane State} {call : Call}
    {before after : Scripted State} {answer : call.Answer}
    (mendable : before.script.IsMendable)
    (answered : (scripted plane).answer call before = (answer, after)) :
    (plane.answer call before.plane = (answer, after.plane) ∧
        Spent before.script call.operation False after.script) ∨
      ∃ failure, answer = .error failure ∧ failure.isTransient = true ∧
        (after.plane = before.plane ∨ after.plane = (plane.answer call before.plane).2) ∧
        Spent before.script call.operation True after.script := by
  simp only [scripted] at answered
  split at answered
  next next =>
    cases answered
    exact .inl ⟨rfl, .nothing _ mendable⟩
  next action rest next =>
    have shaped : action.IsMendable := mendable _ action (next ▸ List.mem_cons_self)
    cases action with
    | pass =>
        cases answered
        exact .inl ⟨rfl, .next mendable next False.elim⟩
    | fail failure =>
        cases answered
        exact .inr ⟨failure, rfl, shaped, .inl rfl, .next mendable next fun _ => rfl⟩
    | lose failure =>
        cases answered
        exact .inr ⟨failure, rfl, shaped, .inr rfl, .next mendable next fun _ => rfl⟩
    | answer result => exact shaped.elim

/-- A store behind a script of failures, with the calls that reach it on record,
is an unreliable one. -/
theorem scripted_foreseen :
    (scripted (recorded Store.plane)).Foreseen unreliable fun actual state =>
      actual.plane = state ∧ actual.script.IsMendable where
  answer := by
    intro actual state call shown
    obtain ⟨rfl, mendable⟩ := shown
    generalize answered : (scripted (recorded Store.plane)).answer call actual = result
    obtain ⟨answer, script, after⟩ := result
    rcases scripted_cases mendable answered with
      ⟨passed, spent⟩ | ⟨failure, rfl, transient, same | same, spent⟩
    · cases passed
      exact ⟨_, .passed rfl, rfl, spent.mendable⟩
    · exact ⟨_, .dropped transient, same, spent.mendable⟩
    · exact ⟨_, .lost transient rfl, same, spent.mendable⟩
  pause := by
    intro length actual state shown
    exact shown

end Tenancy.Cluster
