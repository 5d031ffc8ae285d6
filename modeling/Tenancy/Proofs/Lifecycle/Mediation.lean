import Tenancy.Proofs.Access.Matching
import Tenancy.Proofs.Lifecycle.Requests
import Tenancy.Proofs.Provisioning.Protocol

/-!
# Mediation

Which calls a request makes and how it is answered, against any control plane.
The credentials are read first, and nothing else is asked unless exactly one
secret accepts the token.  From then on every call is one that the request
needs, and every answer is for the owner that this secret names.
-/

namespace Tenancy.Lifecycle

open Cluster Access Workspace

/-- What a deletion is answered with. -/
def deletionReply (name : String) : Except Failure Unit → Except Refusal Reply
  | .ok () => .ok (.deleted ("Namespace " ++ name ++ " deleted"))
  | .error cause => .error (.internal cause.message)

/-- All calls are about one name, and only this owner gets a namespace. -/
def OnlyFor (name owner : String) (exchanges : List Exchange) : Prop :=
  ∀ exchange ∈ exchanges, exchange.1.arguments.head? = some (some name) ∧
    ∀ object, exchange.1 = .createNamespace object →
      object.metadata.name = some name ∧ owner? object = some owner

/-- How a request goes on for its owner: what it is answered, and the calls. -/
inductive Performed (service : Service) (owner : String) :
    Request → Except Refusal Reply → List Exchange → Prop where
  | listed {listing : List Namespace} {roster : Roster}
      (owned : ∀ name, name ∈ roster.names ↔ ∃ held ∈ listing,
        held.metadata.name = some name ∧ isName name = true ∧ owner? held = some owner) :
      Performed service owner .list (.ok (.roster roster)) [⟨.listNamespaces, .ok listing⟩]
  | unlisted {cause : Failure} :
      Performed service owner .list (.error (.internal cause.message))
        [⟨.listNamespaces, .error cause⟩]
  /-- No namespace of this name is a workspace. -/
  | outside {request : Request} {name : String}
      (asked : request = .get name ∨ request = .delete name) (unshaped : isName name = false) :
      Performed service owner request (.error .notFound) []
  | missed {request : Request} {name : String} {answer : Except Failure Namespace}
      (asked : request = .get name ∨ request = .delete name) (shaped : isName name = true)
      (foreign : ∀ held, answer = .ok held → owner? held ≠ some owner) :
      Performed service owner request (.error .notFound) [⟨.getNamespace name, answer⟩]
  | found {name : String} {held : Namespace} (shaped : isName name = true)
      (owned : owner? held = some owner) :
      Performed service owner (.get name) (.ok (.status (.ofNamespace held)))
        [⟨.getNamespace name, .ok held⟩]
  | deleted {name : String} {held : Namespace} (answer : Except Failure Unit)
      (shaped : isName name = true) (owned : owner? held = some owner) :
      Performed service owner (.delete name) (deletionReply name answer)
        [⟨.getNamespace name, .ok held⟩, ⟨.deleteNamespace name, answer⟩]
  | created {name : String} {result : Except Provisioning.Failure String}
      {course : Provisioning.Course} (follows : course.Follows service.plan name owner)
      (yields : course.Yields name owner result)
      (own : OnlyFor name owner (course.exchanges name owner)) :
      Performed service owner (.create name) (replyTo name result) (course.exchanges name owner)

/-- What a request is answered, and all the calls it makes. -/
inductive Mediated (service : Service) (credential : Option String) (request : Request) :
    Except Fault (Except Refusal Reply) → List Exchange → Prop where
  | silent (nothing : credential = none ∨ credential = some "") :
      Mediated service credential request (.ok (.error .unauthorized)) []
  | unread {token : String} {cause : Failure} (presented : credential = some token)
      (nonempty : token ≠ "") :
      Mediated service credential request
        (.ok (.error (.ofReadFailure ⟨service.credentialSpace, cause⟩)))
        [⟨.listSecrets service.credentialSpace, .error cause⟩]
  | denied {token : String} {secrets : List Secret} (presented : credential = some token)
      (nonempty : token ≠ "") (ambiguous : (accepted token secrets).length ≠ 1) :
      Mediated service credential request (.ok (.error .unauthorized))
        [⟨.listSecrets service.credentialSpace, .ok secrets⟩]
  | granted {token : String} {secrets : List Secret} {secret : Secret}
      {reply : Except Refusal Reply} {later : List Exchange} (presented : credential = some token)
      (nonempty : token ≠ "") (only : accepted token secrets = [secret])
      (performed : Performed service (secret.metadata.name.getD "") request reply later) :
      Mediated service credential request (.ok reply)
        (⟨.listSecrets service.credentialSpace, .ok secrets⟩ :: later)
  /-- A pause came out negative or too long while a workspace was provisioned. -/
  | interrupted {token name : String} {secrets : List Secret} {secret : Secret} {fault : Fault}
      {later : List Exchange} (presented : credential = some token) (nonempty : token ≠ "")
      (only : accepted token secrets = [secret]) (asked : request = .create name)
      (unsteady : service.plan.Unsteady)
      (admitted : ∀ before call answer after, later = before ++ ⟨call, answer⟩ :: after →
        Provisioning.MayAsk name (secret.metadata.name.getD "")
          (⟨.listSecrets service.credentialSpace, .ok secrets⟩ :: before) call) :
      Mediated service credential request (.error fault)
        (⟨.listSecrets service.credentialSpace, .ok secrets⟩ :: later)

theorem ofCredentials_eq (token : String) (secrets : List Secret) :
    Decision.ofCredentials token (secrets.map .ofSecret) =
      match accepted token secrets with
      | [secret] => .granted (secret.metadata.name.getD "")
      | _ => .denied := by
  rw [Decision.ofCredentials, filter_accepts]
  rcases accepted token secrets with _ | ⟨secret, _ | ⟨other, rest⟩⟩ <;> rfl

theorem mem_namesOwnedBy {owner name : String} {listing : List Namespace} :
    name ∈ namesOwnedBy owner listing ↔ ∃ held ∈ listing,
      held.metadata.name = some name ∧ isName name = true ∧ owner? held = some owner := by
  simp only [namesOwnedBy, List.mem_filterMap, List.mem_filter, isWorkspace, isOwnedBy,
    Bool.and_eq_true, Option.any_eq_true, beq_iff_eq]
  constructor
  · intro listed
    obtain ⟨held, ⟨member, ⟨other, known, shaped⟩, owned⟩, named⟩ := listed
    rw [known] at named
    cases named
    exact ⟨held, member, known, shaped, owned⟩
  · intro listed
    obtain ⟨held, member, named, shaped, owned⟩ := listed
    exact ⟨held, ⟨member, ⟨name, named, shaped⟩, owned⟩, named⟩

theorem onlyFor_course {name owner : String} (course : Provisioning.Course) :
    OnlyFor name owner (course.exchanges name owner) := by
  intro exchange member
  refine ⟨Provisioning.Course.address_of_mem member, ?_⟩
  intro object creates
  obtain ⟨asked, answer⟩ := exchange
  cases creates
  rw [Provisioning.Course.object_of_mem member]
  exact ⟨rfl, rfl⟩

section

variable {State : Type} {service : Service} {credential : Option String}

/-- What holds of a request that is turned down at the gate, and of how it goes
on behind it, holds of the request. -/
theorem run_withOwner {Value : Type} {next : String → Calls (Except Refusal Value)}
    {goal : Except Fault (Except Refusal Value) → List Exchange → Prop} (plane : Plane State)
    (start : State)
    (silent : credential = none ∨ credential = some "" → goal (.ok (.error .unauthorized)) [])
    (unread : ∀ token cause, credential = some token → token ≠ "" →
      goal (.ok (.error (.ofReadFailure ⟨service.credentialSpace, cause⟩)))
        [⟨.listSecrets service.credentialSpace, .error cause⟩])
    (denied : ∀ token secrets, credential = some token → token ≠ "" →
      (accepted token secrets).length ≠ 1 →
        goal (.ok (.error .unauthorized)) [⟨.listSecrets service.credentialSpace, .ok secrets⟩])
    (granted : ∀ token secrets secret after, credential = some token → token ≠ "" →
      accepted token secrets = [secret] → ∃ result history finish,
        (recorded plane).run (next (secret.metadata.name.getD ""))
            ⟨[⟨.listSecrets service.credentialSpace, .ok secrets⟩], after⟩ =
          (result, ⟨history, finish⟩) ∧ goal result history) :
    ∃ result history finish,
      (recorded plane).run (withOwner service credential next) ⟨[], start⟩ =
        (result, ⟨history, finish⟩) ∧ goal result history := by
  unfold withOwner
  cases credential with
  | none => exact ⟨_, _, _, rfl, silent (.inl rfl)⟩
  | some token =>
      by_cases empty : token = ""
      · rw [authorize, if_pos empty]
        exact ⟨_, _, _, rfl, silent (.inr (congrArg some empty))⟩
      · rw [authorize, if_neg empty]
        rcases answered : plane.answer (.listSecrets service.credentialSpace) start with
          ⟨answer, after⟩
        have asks : ∀ rest : (Call.listSecrets service.credentialSpace).Answer →
            Calls (Except Refusal Value),
            (recorded plane).run (.ask (.listSecrets service.credentialSpace) rest) ⟨[], start⟩ =
              (recorded plane).run (rest answer)
                ⟨[⟨.listSecrets service.credentialSpace, answer⟩], after⟩ := by
          intro rest
          simp only [Handler.run, recorded, answered]
          rfl
        simp only [call, Program.query, Program.bind, asks]
        cases answer with
        | error cause => exact ⟨_, _, _, rfl, unread token cause rfl empty⟩
        | ok secrets =>
            simp only [Program.bind, ofCredentials_eq]
            rcases judged : accepted token secrets with _ | ⟨secret, _ | ⟨other, rest⟩⟩
            · exact ⟨_, _, _, rfl, denied token secrets rfl empty (by simp [judged])⟩
            · exact granted token secrets secret after rfl empty judged
            · exact ⟨_, _, _, rfl, denied token secrets rfl empty (by simp [judged])⟩

variable {request : Request}

/-- A request is mediated when, for every owner and after any reading of the
credentials, it is performed or interrupted as it may be. -/
theorem mediated_of_performed {Value : Type} {wrap : Value → Reply}
    {next : String → Calls (Except Refusal Value)} (admits : String → List Exchange → Call → Prop)
    (mayFault : Prop) (plane : Plane State) (start : State)
    (performed : ∀ owner secrets, (next owner).Ensures (recording (admits owner)) mayFault
      (fun reply history => ∃ later,
        history = ⟨.listSecrets service.credentialSpace, .ok secrets⟩ :: later ∧
          Performed service owner request (reply.map wrap) later)
      [⟨.listSecrets service.credentialSpace, .ok secrets⟩])
    (interrupted : ∀ token secrets secret fault later, credential = some token → token ≠ "" →
      accepted token secrets = [secret] → mayFault →
      (∀ before call answer after, later = before ++ ⟨call, answer⟩ :: after →
        admits (secret.metadata.name.getD "")
          (⟨.listSecrets service.credentialSpace, .ok secrets⟩ :: before) call) →
        Mediated service credential request (.error fault)
          (⟨.listSecrets service.credentialSpace, .ok secrets⟩ :: later)) :
    ∃ result history finish,
      (recorded plane).run ((·.map wrap) <$> withOwner service credential next) ⟨[], start⟩ =
          (result, ⟨history, finish⟩) ∧
        Mediated service credential request result history := by
  have gated : ∃ result history finish,
      (recorded plane).run (withOwner service credential next) ⟨[], start⟩ =
          (result, ⟨history, finish⟩) ∧
        Mediated service credential request (result.map (·.map wrap)) history := by
    apply run_withOwner plane start
    · intro nothing
      exact .silent nothing
    · intro token cause presented nonempty
      exact .unread presented nonempty
    · intro token secrets presented nonempty ambiguous
      exact .denied presented nonempty ambiguous
    · intro token secrets secret after presented nonempty only
      obtain ⟨result, later, finish, ran, admitted, reached, faulted⟩ :=
        run_recording (performed (secret.metadata.name.getD "") secrets) after
      refine ⟨result, _, finish, ran, ?_⟩
      cases result with
      | ok reply =>
          obtain ⟨calls, continued, done⟩ := reached reply rfl
          rw [continued]
          exact .granted presented nonempty only done
      | error fault =>
          exact interrupted token secrets secret fault later presented nonempty only
            (faulted fault rfl) admitted
  obtain ⟨result, history, finish, ran, mediated⟩ := gated
  refine ⟨_, history, finish, ?_, mediated⟩
  rw [Handler.run_map, ran]

variable {owner name : String} {reading : Exchange} {mayFault : Prop}

theorem performed_findOwned {goal : Except Refusal Namespace → List Exchange → Prop}
    (outside : isName name = false → goal (.error .notFound) [reading])
    (missed : ∀ answer, isName name = true →
      (∀ held, answer = .ok held → owner? held ≠ some owner) →
        goal (.error .notFound) [reading, ⟨.getNamespace name, answer⟩])
    (found : ∀ held, isName name = true → owner? held = some owner →
      goal (.ok held) [reading, ⟨.getNamespace name, .ok held⟩]) :
    (findOwned owner name).Ensures (recording fun _ _ => True) mayFault goal [reading] := by
  cases shaped : isName name with
  | false =>
      rw [findOwned, shaped]
      exact outside shaped
  | true =>
      rw [findOwned_eq shaped]
      refine ⟨trivial, ?_⟩
      intro answer after same
      subst same
      change goal (lookupOutcome owner answer) [reading, ⟨.getNamespace name, answer⟩]
      cases answer with
      | error cause =>
          apply missed _ shaped
          intro held impossible
          cases impossible
      | ok held =>
          by_cases owned : owner? held = some owner
          · have outcome : lookupOutcome owner (.ok held) = .ok held := by
              simp [lookupOutcome, isOwnedBy, owned]
            rw [outcome]
            exact found held shaped owned
          · have outcome : lookupOutcome owner (.ok held) = .error .notFound := by
              simp [lookupOutcome, isOwnedBy, owned]
            rw [outcome]
            apply missed _ shaped
            intro other same
            cases same
            exact owned

end

/-- Whatever a control plane answers, a request asks for the credentials first
and goes on only for the owner of the one secret that accepts its token, with
the calls that it needs and no others. -/
theorem requests_are_mediated {State : Type} (plane : Plane State) (start : State)
    (service : Service) (credential : Option String) (request : Request)
    (draws : Provisioning.Draws) :
    ∃ result history finish,
      (recorded plane).run (perform service credential request draws) ⟨[], start⟩ =
          (result, ⟨history, finish⟩) ∧
        Mediated service credential request result history := by
  cases request with
  | create name =>
      apply mediated_of_performed (Provisioning.MayAsk name) service.plan.Unsteady plane start
      · intro owner secrets
        rw [Program.ensures_bind]
        refine (Provisioning.ensures_run Provisioning.uncreated_reading).mono ?_
        intro result history ends
        obtain ⟨course, follows, yields, rfl⟩ := ends
        cases result with
        | ok token => exact ⟨_, rfl, .created follows yields (onlyFor_course course)⟩
        | error failure => exact ⟨_, rfl, .created follows yields (onlyFor_course course)⟩
      · intro token secrets secret fault later presented nonempty only unsteady admitted
        exact .interrupted presented nonempty only rfl unsteady admitted
  | get name =>
      apply mediated_of_performed (fun _ _ _ => True) False plane start
      · intro owner secrets
        rw [Program.ensures_bind]
        apply performed_findOwned
        · intro unshaped
          exact ⟨[], rfl, .outside (.inl rfl) unshaped⟩
        · intro answer shaped foreign
          exact ⟨_, rfl, .missed (.inl rfl) shaped foreign⟩
        · intro held shaped owned
          exact ⟨_, rfl, .found shaped owned⟩
      · intro token secrets secret fault later _ _ _ impossible
        exact impossible.elim
  | list =>
      rw [perform, list_eq]
      apply mediated_of_performed (fun _ _ _ => True) False plane start
      · intro owner secrets
        refine ⟨trivial, ?_⟩
        intro answer after same
        subst same
        cases answer with
        | ok listing =>
            exact ⟨_, rfl, .listed fun name => mem_namesOwnedBy⟩
        | error cause => exact ⟨_, rfl, .unlisted⟩
      · intro token secrets secret fault later _ _ _ impossible
        exact impossible.elim
  | delete name =>
      apply mediated_of_performed (fun _ _ _ => True) False plane start
      · intro owner secrets
        rw [Program.ensures_bind]
        apply performed_findOwned
        · intro unshaped
          exact ⟨[], rfl, .outside (.inr rfl) unshaped⟩
        · intro answer shaped foreign
          exact ⟨_, rfl, .missed (.inr rfl) shaped foreign⟩
        · intro held shaped owned
          refine ⟨trivial, ?_⟩
          intro answer after same
          subst same
          rcases answer with cause | ⟨⟩
          · exact ⟨_, rfl, .deleted (.error cause) shaped owned⟩
          · exact ⟨_, rfl, .deleted (.ok ()) shaped owned⟩
      · intro token secrets secret fault later _ _ _ impossible
        exact impossible.elim

end Tenancy.Lifecycle
