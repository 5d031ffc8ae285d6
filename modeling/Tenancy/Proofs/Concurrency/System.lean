import Tenancy.Cluster.Script
import Tenancy.Fleet.Monitor
import Tenancy.Proofs.Cluster.Footprint
import Tenancy.Proofs.Lifecycle.Requests
import Tenancy.Proofs.Provisioning.Course
import Tenancy.Upkeep.Reaper

/-!
# Parties that share a store

Requests, monitor scans and reaper passes work on one store at the same time.
Every call of a party is one step, and the steps of the parties come in any
order, with failures set up in between.
-/

namespace Tenancy.Concurrency

open Cluster Access Lifecycle Provisioning

inductive Task where
  | request (credential : Option String) (asked : Request)
  | scan (now : Instant) (monitor : Fleet.Monitor)
  | reap (hours : Int) (now : Instant)

inductive Outcome where
  | replied (reply : Except Refusal Reply)
  | scanned (result : Except Cluster.Failure Fleet.Snapshot × Fleet.Monitor)
  | reaped (result : Except Cluster.Failure (List String))
deriving DecidableEq

namespace Task

def program (service : Service) : Task → Calls Outcome
  | .request credential asked => Outcome.replied <$> perform service credential asked
  | .scan now monitor => Outcome.scanned <$> Fleet.scan now monitor
  | .reap hours now => Outcome.reaped <$> Upkeep.reapNamespaces hours now

def drawn? : Task → Option String
  | .request _ asked => asked.drawn?
  | .scan _ _ => none
  | .reap _ _ => none

end Task

/-- A task on its way: the calls it has made, and what is left to do. -/
structure Party where
  task : Task
  history : List Exchange
  rest : Calls Outcome

def Party.asked (party : Party) (exchange : Exchange) (rest : Calls Outcome) : Party :=
  ⟨party.task, party.history ++ [exchange], rest⟩

def Party.rested (party : Party) (rest : Calls Outcome) : Party :=
  ⟨party.task, party.history, rest⟩

/-- One step of a party.  One that has ended stays as it is. -/
def Party.step (party : Party) (store : Store) : Party × Store :=
  match party.rest with
  | .done _ => (party, store)
  | .fault _ => (party, store)
  | .pause _ rest => (party.rested rest, store)
  | .ask call next =>
      let (answer, after) := Store.answer call store
      (party.asked ⟨call, answer⟩ (next answer), after)

def Party.outcome? (party : Party) : Option Outcome :=
  match party.rest with
  | .done outcome => some outcome
  | _ => none

/-- The call that a party makes next, if its next step is a call. -/
def Party.asking? (party : Party) : Option Call :=
  match party.rest with
  | .ask call _ => some call
  | _ => none

/-- Any number of parties and the store that they share. -/
structure System (Identity : Type) where
  store : Store
  parties : Identity → Party

inductive Move (Identity : Type) where
  | step (identity : Identity)
  | failNext (operation : Operation) (times : Nat)

namespace System

variable {Identity : Type}

/-- All tasks before their first step. -/
def start (service : Service) (store : Store) (tasks : Identity → Task) : System Identity where
  store := store
  parties identity := ⟨tasks identity, [], (tasks identity).program service⟩

/-- A system in which one party has changed, and the store. -/
def put [DecidableEq Identity] (system : System Identity) (identity : Identity) (party : Party)
    (store : Store) : System Identity where
  store := store
  parties other := if other = identity then party else system.parties other

def move [DecidableEq Identity] (system : System Identity) : Move Identity → System Identity
  | .step identity =>
      let (party, store) := (system.parties identity).step system.store
      system.put identity party store
  | .failNext operation times => { system with store := system.store.failNext operation times }

def run [DecidableEq Identity] (system : System Identity) (moves : List (Move Identity)) :
    System Identity :=
  moves.foldl move system

def Finished (system : System Identity) : Prop :=
  ∀ identity, ∃ outcome, (system.parties identity).rest = .done outcome

theorem finished_iff {system : System Identity} :
    system.Finished ↔ ∀ identity, (system.parties identity).outcome?.isSome = true := by
  refine forall_congr' fun identity => ?_
  unfold Party.outcome?
  cases (system.parties identity).rest <;> simp

@[simp]
theorem parties_put_self [DecidableEq Identity] (system : System Identity) (identity : Identity)
    (party : Party) (store : Store) : (system.put identity party store).parties identity = party :=
  if_pos rfl

theorem parties_put_other [DecidableEq Identity] (system : System Identity)
    {identity other : Identity} (party : Party) (store : Store) (apart : other ≠ identity) :
    (system.put identity party store).parties other = system.parties other :=
  if_neg apart

/-- A party that is left alone does what a run of its task does. -/
theorem run_alone [DecidableEq Identity] {system : System Identity} {identity : Identity}
    {outcome : Outcome} {finish : Store}
    (ran : Store.plane.run (system.parties identity).rest system.store = (.ok outcome, finish)) :
    ∃ count, let after := system.run (List.replicate count (.step identity))
      (after.parties identity).rest = .done outcome ∧ after.store = finish := by
  generalize left : (system.parties identity).rest = rest at ran
  induction rest generalizing system with
  | done value =>
      cases ran
      exact ⟨0, left, rfl⟩
  | fault reason => cases ran
  | pause length rest induction =>
      have moved : system.move (.step identity) =
          system.put identity ((system.parties identity).rested rest) system.store := by
        simp only [move, Party.step, left]
      have resumed : ((system.move (.step identity)).parties identity).rest = rest := by
        rw [moved, parties_put_self]
        rfl
      have same : (system.move (.step identity)).store = system.store := by
        rw [moved]
        rfl
      have continues : Store.plane.run rest (system.move (.step identity)).store =
          (.ok outcome, finish) := by
        rw [same]
        exact ran
      obtain ⟨count, ended⟩ := induction resumed continues
      exact ⟨count + 1, ended⟩
  | ask call next induction =>
      have moved : system.move (.step identity) =
          system.put identity ((system.parties identity).asked
            ⟨call, (Store.answer call system.store).1⟩ (next (Store.answer call system.store).1))
            (Store.answer call system.store).2 := by
        simp only [move, Party.step, left]
      have resumed : ((system.move (.step identity)).parties identity).rest =
          next (Store.answer call system.store).1 := by
        rw [moved, parties_put_self]
        rfl
      have same : (system.move (.step identity)).store = (Store.answer call system.store).2 := by
        rw [moved]
        rfl
      have continues : Store.plane.run (next (Store.answer call system.store).1)
          (system.move (.step identity)).store = (.ok outcome, finish) := by
        rw [same]
        exact ran
      obtain ⟨count, ended⟩ := induction _ resumed continues
      exact ⟨count + 1, ended⟩

end System

/-- A request has read the credentials, and its own stands for an owner. -/
def Authorized (service : Service) (credential : Option String) (owner : String)
    (history : List Exchange) : Prop :=
  ∃ token secrets later, credential = some token ∧ token ≠ "" ∧
    history = ⟨.listSecrets service.credentialSpace, .ok secrets⟩ :: later ∧
    Decision.ofCredentials token (secrets.map .ofSecret) = .granted owner

/-- No request deletes a namespace that is not annotated with the owner for
whom the request goes on. -/
def DeletesOwn {Identity : Type} [DecidableEq Identity] (service : Service)
    (system : System Identity) : Prop :=
  ∀ identity credential request name next,
    (system.parties identity).task = .request credential request →
    (system.parties identity).rest = .ask (.deleteNamespace name) next →
      ∃ owner, Authorized service credential owner (system.parties identity).history ∧
        ∀ held ∈ system.store.namespaces,
          held ∉ (system.move (.step identity)).store.namespaces →
            Workspace.owner? held = some owner

/-- All parts of a workspace, with the token that its owner was given. -/
structure Complete (name token : String) (contents : Contents) : Prop where
  account : ∃ held ∈ contents.accounts, Store.isAt name accountName held.metadata = true
  secret : ∃ held ∈ contents.secrets, Store.isAt name tokenSecretName held.metadata = true ∧
    tokenIn? held = some token
  binding : ∃ held ∈ contents.bindings, Store.isAt name bindingName held.metadata = true

/-- The creation behind a namespace: it succeeded and the workspace is complete,
or its provisioning reports a rollback that failed. -/
inductive Accounted (service : Service) (contents : Contents) (name : String) (party : Party) :
    Prop where
  | complete {token : String}
      (replied : party.rest = .done (.replied (.ok (.created (.ofCreated name token)))))
      (whole : Complete name token contents)
  | stranded {owner reason : String} {reading : Exchange} {failure : Provisioning.Failure}
      (replied : party.rest = .done (.replied (.error (.internal failure.message))))
      (yielded : Course.Ends service.plan name owner [reading] (.error failure) party.history)
      (stuck : failure.rollback = .failed reason)

/-- The names that tasks have drawn: nothing has them, and no two are the same. -/
structure FreshDraws {Identity : Type} (tasks : Identity → Task) (contents : Contents) : Prop where
  vacant : ∀ identity name, (tasks identity).drawn? = some name → contents.Vacant name
  distinct : ∀ identity other name, (tasks identity).drawn? = some name →
    (tasks other).drawn? = some name → identity = other

end Tenancy.Concurrency
