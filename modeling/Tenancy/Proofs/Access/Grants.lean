import Tenancy.Access.Gate
import Tenancy.Proofs.Cluster.Calm
import Tenancy.Proofs.Lifecycle.Mediation
import Tenancy.Proofs.Lifecycle.Registry

/-!
# Grants

What the gate decides in a store.  Nothing matters but the secrets of the
service namespace that give a role and a token, and whether they can be read.
-/

namespace Tenancy.Access

open Cluster Lifecycle

/-- The secrets of a namespace by which an owner can be known. -/
def credentialsIn (space : String) (contents : Contents) : List Secret :=
  contents.secrets.filter fun held =>
    held.metadata.isIn space && (Credential.ofSecret held).isEligible

/-- The gate lets an owner in who presents this token. -/
def Grants (space : String) (store : Store) (presented : Option String) (owner : String) : Prop :=
  (Store.plane.run (authorize space presented) store).1 = .ok (.ok (.granted owner))

/-- What the gate says when it reads these credentials, or fails to. -/
def verdict (space : String) (presented : Option String)
    (reading : Except Failure (List Secret)) : Except ReadFailure Decision :=
  match presented with
  | none => .ok .denied
  | some token =>
      if token = "" then .ok .denied
      else
        match reading with
        | .error cause => .error ⟨space, cause⟩
        | .ok secrets => .ok (.ofCredentials token (secrets.map .ofSecret))

/-- What comes of a listing of the secrets in a namespace. -/
def readSecrets (store : Store) (space : String) : Except Failure (List Secret) :=
  if store.pendingFailures .listSecrets = 0 then
    .ok (store.contents.secrets.filter fun held => held.metadata.isIn space)
  else .error (.injected .listSecrets)

theorem answer_listSecrets (space : String) (store : Store) :
    (Store.answer (.listSecrets space) store).1 = readSecrets store space := by
  unfold readSecrets
  by_cases free : store.pendingFailures .listSecrets = 0
  · rw [Store.answer_unhindered free, if_pos free]
    rfl
  · rw [(Store.answer_injected free).1, if_neg free]

/-- The gate asks a control plane for the credentials at most, and decides by its answer. -/
theorem run_authorize_by {State : Type} (plane : Plane State) (start : State) (space : String)
    (presented : Option String) :
    (plane.run (authorize space presented) start).1 =
      .ok (verdict space presented (plane.answer (.listSecrets space) start).1) := by
  cases presented with
  | none => rfl
  | some token =>
      by_cases empty : token = ""
      · simp only [authorize, verdict, if_pos empty]
        rfl
      · simp only [authorize, verdict, if_neg empty]
        rcases answered : plane.answer (.listSecrets space) start with ⟨cause | secrets, after⟩ <;>
          simp only [call, Program.query, Program.bind, Handler.run, answered]

theorem run_authorize (space : String) (presented : Option String) (store : Store) :
    (Store.plane.run (authorize space presented) store).1 =
      .ok (verdict space presented (readSecrets store space)) := by
  rw [run_authorize_by, ← answer_listSecrets]
  rfl

/-- A secret that matches a token is one by which an owner can be known. -/
theorem accepted_credentialsIn (token space : String) (contents : Contents) :
    accepted token (contents.secrets.filter fun held => held.metadata.isIn space) =
      accepted token (credentialsIn space contents) := by
  simp only [accepted, credentialsIn, List.filter_filter]
  apply List.filter_congr
  intro held _
  by_cases matched : Matches token held
  · have accepts := accepts_iff.2 matched
    have eligible : (Credential.ofSecret held).isEligible = true := by
      simp only [Credential.accepts, Bool.and_eq_true] at accepts
      exact accepts.1
    simp [matched, eligible]
  · simp [matched]

section

variable {service : Service} {owner : String} {presented : Option String}

/-- The gate lets in whom the credentials stand for, if nothing keeps it from
reading them. -/
theorem grants_iff {store : Store} :
    Grants service.credentialSpace store presented owner ↔
      store.pendingFailures .listSecrets = 0 ∧
        ownerOf? service presented store.contents = some owner := by
  rw [Grants, run_authorize, Except.ok.injEq]
  cases presented with
  | none => simp [verdict, ownerOf?]
  | some token =>
      by_cases empty : token = ""
      · simp [verdict, ownerOf?, empty]
      · simp only [verdict, ownerOf?, if_neg empty, readSecrets]
        by_cases free : store.pendingFailures .listSecrets = 0
        · simp only [free, if_true, true_and, Except.ok.injEq, Store.contents]
          generalize Decision.ofCredentials token _ = decision
          cases decision <;> simp [grantedTo?]
        · simp [free]

theorem ownerOf?_eq {token : String} (nonempty : token ≠ "") (contents : Contents) :
    ownerOf? service (some token) contents =
      match accepted token (credentialsIn service.credentialSpace contents) with
      | [secret] => some (secret.metadata.name.getD "")
      | _ => none := by
  simp only [ownerOf?, if_neg nonempty, ofCredentials_eq, accepted_credentialsIn]
  rcases accepted token (credentialsIn service.credentialSpace contents) with
    _ | ⟨secret, _ | ⟨other, rest⟩⟩ <;> rfl

theorem ownerOf?_of_bare {contents : Contents}
    (bare : credentialsIn service.credentialSpace contents = []) :
    ownerOf? service presented contents = none := by
  cases presented with
  | none => rfl
  | some token =>
      by_cases empty : token = ""
      · exact if_pos empty
      · rw [ownerOf?_eq empty, bare]
        rfl

theorem ownerOf?_of_same {first second : Contents}
    (same : credentialsIn service.credentialSpace first =
      credentialsIn service.credentialSpace second) :
    ownerOf? service presented first = ownerOf? service presented second := by
  cases presented with
  | none => rfl
  | some token =>
      by_cases empty : token = ""
      · exact (if_pos empty).trans (if_pos empty).symm
      · rw [ownerOf?_eq empty, ownerOf?_eq empty, same]

end

end Tenancy.Access
