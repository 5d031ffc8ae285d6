import Tenancy.Proofs.Concurrency.System
import Tenancy.Proofs.Fleet.Scan
import Tenancy.Proofs.Provisioning.Protocol
import Tenancy.Proofs.Upkeep.Reaping

/-!
# Conduct of a task

What each task may ask after the calls it has made, whatever was answered, and
what a creation has done by its end.
-/

namespace Tenancy.Concurrency

open Cluster Access Lifecycle Provisioning

/-- What a request may ask for its owner. -/
def RequestMayAsk (owner : String) (history : List Exchange) : Request → Call → Prop
  | .create name, call => MayAsk name owner history call
  | .get name, call => call = .getNamespace name
  | .list, call => call = .listNamespaces
  | .delete name, call => call = .getNamespace name ∨
      call = .deleteNamespace name ∧ ∃ held,
        (⟨.getNamespace name, .ok held⟩ : Exchange) ∈ history ∧
          Workspace.owner? held = some owner

def TaskMayAsk (service : Service) : Task → List Exchange → Call → Prop
  | .request credential asked, history, call =>
      call = .listSecrets service.credentialSpace ∨
        ∃ owner, Authorized service credential owner history ∧
          RequestMayAsk owner history asked call
  | .scan _ _, _, call => call = .listNamespaces ∨ ∃ name, call = .listPods name none
  | .reap _ _, _, call => call = .listNamespaces ∨ ∃ name, call = .deleteNamespace name

/-- A creation ends without a provisioning, or with what its provisioning
yields. -/
def Concludes (service : Service) : Task → Outcome → List Exchange → Prop
  | .request _ (.create name), outcome, history =>
      Uncreated history ∨ ∃ owner reading result,
        Course.Ends service.plan name owner [reading] result history ∧
          Uncreated [reading] ∧ outcome = .replied (replyTo name result)
  | _, _, _ => True

/-- What a party still does is what its task may do after its history. -/
def Conforms (service : Service) (party : Party) : Prop :=
  party.rest.Ensures (recording (TaskMayAsk service party.task)) service.plan.Unsteady
    (Concludes service party.task) party.history

theorem Authorized.append {service : Service} {credential : Option String} {owner : String}
    {history : List Exchange} (authorized : Authorized service credential owner history)
    (more : List Exchange) : Authorized service credential owner (history ++ more) := by
  obtain ⟨token, secrets, later, presented, nonempty, rfl, decision⟩ := authorized
  exact ⟨token, secrets, later ++ more, presented, nonempty, rfl, decision⟩

theorem Authorized.unique {service : Service} {credential : Option String}
    {owner other : String} {history : List Exchange}
    (first : Authorized service credential owner history)
    (second : Authorized service credential other history) : owner = other := by
  obtain ⟨token, secrets, later, rfl, _, rfl, decision⟩ := first
  obtain ⟨same, listed, rest, presented, _, history, decided⟩ := second
  cases presented
  cases history
  rw [decision] at decided
  cases decided
  rfl

section

variable {service : Service} {credential : Option String} {asked : Request}

theorem ensures_request {Value : Type} {next : String → Calls (Except Refusal Value)}
    {goal : Except Refusal Value → List Exchange → Prop} {mayFault : Prop}
    (refused : ∀ refusal history, Uncreated history → goal (.error refusal) history)
    (granted : ∀ owner reading, Authorized service credential owner [reading] →
      Uncreated [reading] →
        (next owner).Ensures (recording (TaskMayAsk service (.request credential asked)))
          mayFault goal [reading]) :
    (withOwner service credential next).Ensures
      (recording (TaskMayAsk service (.request credential asked))) mayFault goal [] := by
  apply ensures_withOwner
  · intro _
    exact refused _ _ uncreated_nil
  · exact .inl rfl
  · intro cause after same
    subst same
    exact refused _ _ uncreated_reading
  · intro token secrets after presented nonempty same
    subst same
    constructor
    · intro _
      exact refused _ _ uncreated_reading
    · intro owner decision
      exact granted owner _ ⟨token, secrets, [], presented, nonempty, rfl, decision⟩
        uncreated_reading

theorem ensures_provisioning {name owner : String} {reading : Exchange}
    (authorized : Authorized service credential owner [reading]) (uncreated : Uncreated [reading]) :
    (Provisioning.run service.plan name owner).Ensures
      (recording (TaskMayAsk service (.request credential (.create name)))) service.plan.Unsteady
      (Course.Ends service.plan name owner [reading]) [reading] := by
  have ensured : (Provisioning.run service.plan name owner).Ensures
      (recording (MayAsk name owner)) service.plan.Unsteady
      (Course.Ends service.plan name owner [reading]) [reading] := ensures_run uncreated
  have kept : ∀ history call answer after, Authorized service credential owner history →
      (recording (MayAsk name owner)).answers history call answer after →
        Authorized service credential owner after := by
    intro history call answer after known same
    subst same
    exact known.append _
  have admitted : ∀ history call, Authorized service credential owner history →
      MayAsk name owner history call →
        TaskMayAsk service (.request credential (.create name)) history call := by
    intro history call known asks
    exact .inr ⟨owner, known, asks⟩
  exact (ensured.within authorized kept admitted).mono fun result after reached => reached.1

theorem conforms_create {name : String} :
    ((Task.request credential (.create name)).program service).Ensures
      (recording (TaskMayAsk service (.request credential (.create name)))) service.plan.Unsteady
      (Concludes service (.request credential (.create name))) [] := by
  rw [Task.program, perform, Program.ensures_map, Program.ensures_map]
  apply ensures_request
  · intro refusal history uncreated
    exact .inl uncreated
  · intro owner reading authorized uncreated
    rw [Program.ensures_bind]
    refine (ensures_provisioning authorized uncreated).mono ?_
    intro result after ends
    cases result with
    | ok token => exact .inr ⟨owner, reading, .ok token, ends, uncreated, rfl⟩
    | error failure => exact .inr ⟨owner, reading, .error failure, ends, uncreated, rfl⟩

theorem conforms_get {name : String} {mayFault : Prop} :
    ((Task.request credential (.get name)).program service).Ensures
      (recording (TaskMayAsk service (.request credential (.get name)))) mayFault
      (Concludes service (.request credential (.get name))) [] := by
  rw [Task.program, perform, Program.ensures_map, Program.ensures_map]
  apply ensures_request
  · intro refusal history uncreated
    trivial
  · intro owner reading authorized uncreated
    rw [Program.ensures_bind]
    apply ensures_findOwned
    · intro _
      trivial
    · exact .inr ⟨owner, authorized, rfl⟩
    · intro answer after answered _
      trivial
    · intro held after shaped answered owned
      trivial

theorem conforms_list {mayFault : Prop} :
    ((Task.request credential .list).program service).Ensures
      (recording (TaskMayAsk service (.request credential .list))) mayFault
      (Concludes service (.request credential .list)) [] := by
  rw [Task.program, perform, Program.ensures_map, Program.ensures_map]
  apply ensures_request
  · intro refusal history uncreated
    trivial
  · intro owner reading authorized uncreated
    refine ⟨.inr ⟨owner, authorized, rfl⟩, ?_⟩
    intro answer after answered
    cases answer <;> trivial

theorem conforms_delete {name : String} {mayFault : Prop} :
    ((Task.request credential (.delete name)).program service).Ensures
      (recording (TaskMayAsk service (.request credential (.delete name)))) mayFault
      (Concludes service (.request credential (.delete name))) [] := by
  rw [Task.program, perform, Program.ensures_map, Program.ensures_map]
  apply ensures_request
  · intro refusal history uncreated
    trivial
  · intro owner reading authorized uncreated
    rw [Program.ensures_bind]
    apply ensures_findOwned
    · intro _
      trivial
    · exact .inr ⟨owner, authorized, .inl rfl⟩
    · intro answer after answered _
      trivial
    · intro held after shaped same owned
      subst same
      have seen : (⟨.getNamespace name, .ok held⟩ : Exchange) ∈
          [reading] ++ [⟨.getNamespace name, .ok held⟩] :=
        List.mem_append_right _ (List.mem_singleton.2 rfl)
      refine ⟨.inr ⟨owner, authorized.append _, .inr ⟨rfl, held, seen, owned⟩⟩, ?_⟩
      intro answer after answered
      cases answer <;> trivial

end

theorem conforms_scan {service : Service} {now : Instant} {monitor : Fleet.Monitor}
    {mayFault : Prop} :
    ((Task.scan now monitor).program service).Ensures
      (recording (TaskMayAsk service (.scan now monitor))) mayFault
      (Concludes service (.scan now monitor)) [] := by
  rw [Task.program, Program.ensures_map]
  exact Fleet.ensures_asks monitor []

theorem conforms_reap {service : Service} {hours : Int} {now : Instant} {mayFault : Prop} :
    ((Task.reap hours now).program service).Ensures
      (recording (TaskMayAsk service (.reap hours now))) mayFault
      (Concludes service (.reap hours now)) [] := by
  rw [Task.program, Program.ensures_map]
  refine ⟨.inl rfl, ?_⟩
  intro answer after answered
  cases answer with
  | error cause => trivial
  | ok listing =>
      simp only [Program.bind]
      rw [Program.ensures_bind]
      refine (Upkeep.ensures_deleteAll (fun _ => True) ?_ trivial).mono ?_
      · intro name _ history _
        exact ⟨.inr ⟨name, rfl⟩, fun _ _ _ => trivial⟩
      · intro deleted finish _
        trivial

theorem conforms_start (service : Service) (task : Task) :
    Conforms service ⟨task, [], task.program service⟩ := by
  cases task with
  | request credential asked =>
      cases asked with
      | create name => exact conforms_create
      | get name => exact conforms_get
      | list => exact conforms_list
      | delete name => exact conforms_delete
  | scan now monitor => exact conforms_scan
  | reap hours now => exact conforms_reap

end Tenancy.Concurrency
