import Tenancy.Lifecycle
import Tenancy.Proofs.Guarantee

/-!
# Parts of requests

What the common parts of requests ensure in any setting: reading the
credentials, and looking a workspace up.
-/

namespace Tenancy.Lifecycle

open Cluster Access Workspace

def Request.drawn? : Request → Option String
  | .create name => some name
  | _ => none

/-- What the outcome of a provisioning is answered with. -/
def replyTo (name : String) : Except Provisioning.Failure String → Except Refusal Reply
  | .ok token => .ok (.created (.ofCreated name token))
  | .error failure => .error (.internal failure.message)

/-- What the answer to a reading amounts to when an owner looks a workspace up. -/
def lookupOutcome (owner : String) : Except Failure Namespace → Except Refusal Namespace
  | .ok held => if isOwnedBy owner held then .ok held else .error .notFound
  | .error _ => .error .notFound

theorem findOwned_eq {owner name : String} (shaped : isName name = true) :
    findOwned owner name =
      (call (.getNamespace name)).bind fun answer => .done (lookupOutcome owner answer) := by
  rw [findOwned, if_pos shaped]
  congr 1
  funext answer
  cases answer with
  | error cause => rfl
  | ok held =>
      simp only [lookupOutcome]
      split <;> rfl

/-- What the answer to a listing amounts to for an owner. -/
def listOutcome (owner : String) : Except Failure (List Namespace) → Except Refusal Roster
  | .ok listing => .ok ⟨namesOwnedBy owner listing⟩
  | .error cause => .error (.internal cause.message)

theorem list_eq {service : Service} {credential : Option String} : list service credential =
    withOwner service credential fun owner =>
      (call .listNamespaces).bind fun answer => .done (listOutcome owner answer) := by
  unfold list
  congr 1
  funext owner
  congr 1
  funext answer
  cases answer <;> rfl

section

variable {State : Type} {setting : Setting Call Call.Answer State} {mayFault : Prop}
variable {service : Service} {credential : Option String} {state : State}

theorem ensures_withOwner {Value : Type} {next : String → Calls (Except Refusal Value)}
    {goal : Except Refusal Value → State → Prop}
    (silent : credential = none ∨ credential = some "" → goal (.error .unauthorized) state)
    (admitted : setting.admits state (.listSecrets service.credentialSpace))
    (unread : ∀ cause after,
      setting.answers state (.listSecrets service.credentialSpace) (.error cause) after →
        goal (.error (.ofReadFailure ⟨service.credentialSpace, cause⟩)) after)
    (read : ∀ token secrets after, credential = some token → token ≠ "" →
      setting.answers state (.listSecrets service.credentialSpace) (.ok secrets) after →
        (Decision.ofCredentials token (secrets.map .ofSecret) = .denied →
            goal (.error .unauthorized) after) ∧
          ∀ owner, Decision.ofCredentials token (secrets.map .ofSecret) = .granted owner →
            (next owner).Ensures setting mayFault goal after) :
    (withOwner service credential next).Ensures setting mayFault goal state := by
  unfold withOwner
  cases credential with
  | none => exact silent (.inl rfl)
  | some token =>
      by_cases empty : token = ""
      · rw [authorize, if_pos empty]
        exact silent (.inr (congrArg some empty))
      · rw [authorize, if_neg empty]
        refine ⟨admitted, ?_⟩
        intro answer after answered
        cases answer with
        | error cause => exact unread cause after answered
        | ok secrets =>
            obtain ⟨denied, granted⟩ := read token secrets after rfl empty answered
            cases decision : Decision.ofCredentials token (secrets.map .ofSecret) with
            | granted owner =>
                simp only [Program.bind, decision]
                exact granted owner decision
            | denied =>
                simp only [Program.bind, decision]
                exact denied decision

theorem ensures_findOwned {owner name : String} {goal : Except Refusal Namespace → State → Prop}
    (outside : isName name = false → goal (.error .notFound) state)
    (admitted : setting.admits state (.getNamespace name))
    (missing : ∀ answer after, setting.answers state (.getNamespace name) answer after →
      (∀ held, answer = .ok held → owner? held ≠ some owner) → goal (.error .notFound) after)
    (found : ∀ held after, isName name = true →
      setting.answers state (.getNamespace name) (.ok held) after →
        owner? held = some owner → goal (.ok held) after) :
    (findOwned owner name).Ensures setting mayFault goal state := by
  unfold findOwned
  by_cases shaped : isName name = true
  · rw [if_pos shaped]
    refine ⟨admitted, ?_⟩
    intro answer after answered
    cases answer with
    | error cause =>
        refine missing _ after answered ?_
        intro held impossible
        cases impossible
    | ok held =>
        by_cases owned : isOwnedBy owner held = true
        · simp only [Program.bind, owned, if_true]
          exact found held after shaped answered (by simpa [isOwnedBy] using owned)
        · simp only [Program.bind, owned]
          refine missing _ after answered ?_
          rintro other ⟨⟩
          simpa [isOwnedBy] using owned
  · rw [if_neg shaped]
    exact outside (by simpa using shaped)

end

end Tenancy.Lifecycle
