import Tenancy.Proofs.Cluster.Answers
import Tenancy.Proofs.Provisioning.Protocol
import Tenancy.Proofs.Text.Utf8

/-!
# All or nothing

A provisioning in a store that has nothing under the name of the workspace.
At every moment the store holds what it held before and the parts up to the
step that was reached, and the deletion of the namespace takes all of them
back.
-/

namespace Tenancy.Provisioning

open Cluster Retry

/-- How many parts of a workspace there are by a step. -/
def Step.parts : Step → Nat
  | .started => 0
  | .namespaceCreated => 1
  | .serviceAccountCreated => 2
  | .tokenSecretCreated => 3
  | .roleBindingCreated => 4
  | .ready => 4
  | .rolledBack => 0

structure IsNamespaceOf (space owner : String) (held : Namespace) : Prop where
  name : held.metadata.name = some space
  owner : Workspace.owner? held = some owner

def IsAccountOf (space : String) (held : ServiceAccount) : Prop :=
  Store.isAt space accountName held.metadata = true

/-- The token secret of a workspace.  It holds a token exactly when the store
issues tokens. -/
structure IsTokenSecretOf (space : String) (issues : Bool) (held : Secret) : Prop where
  place : Store.isAt space tokenSecretName held.metadata = true
  kind : held.kind = some accountTokenKind
  token : issues = true → ∃ token : String, held.datum? tokenKey = some token.toUTF8
  tokenless : issues = false → held.datum? tokenKey = none

structure IsBindingOf (space : String) (held : RoleBinding) : Prop where
  place : Store.isAt space bindingName held.metadata = true
  role : held.roleRef = ⟨"rbac.authorization.k8s.io", "ClusterRole", roleName⟩
  subjects : held.subjects = some [⟨none, "ServiceAccount", accountName, some space⟩]

/-- One object that fits where one is expected, and none elsewhere. -/
structure Single {Object : Type} (expected : Prop) (fits : Object → Prop)
    (objects : List Object) : Prop where
  present : expected → ∃ object, objects = [object] ∧ fits object
  absent : ¬expected → objects = []

/-- Exactly the parts that a workspace has by a step. -/
structure PartsBy (reached : Step) (space owner : String) (issues : Bool)
    (objects : Contents) : Prop where
  namespaces : Single (1 ≤ reached.parts) (IsNamespaceOf space owner) objects.namespaces
  pods : objects.pods = []
  accounts : Single (2 ≤ reached.parts) (IsAccountOf space) objects.accounts
  secrets : Single (3 ≤ reached.parts) (IsTokenSecretOf space issues) objects.secrets
  bindings : Single (4 ≤ reached.parts) (IsBindingOf space) objects.bindings

/-- How a provisioning leaves the objects: with a token there is the whole
workspace, after a rollback that failed there are the namespace and the other
parts by the step that was reached, and otherwise there is nothing new. -/
def Settled (space owner : String) (issues : Bool) (before : Contents) :
    Except Failure String → Contents → Prop
  | .ok token, after => ∃ objects secret, after = before ++ objects ∧
      PartsBy .ready space owner issues objects ∧ objects.secrets = [secret] ∧
        secret.datum? tokenKey = some token.toUTF8
  | .error failure, after =>
      match failure.rollback with
      | .notNeeded => after = before
      | .completed => after = before
      | .failed _ => 1 ≤ failure.reached.parts ∧ ∃ objects, after = before ++ objects ∧
          PartsBy failure.reached space owner issues objects

/-- The store holds what was there before, and the parts by a step. -/
structure Holding (space owner : String) (issues : Bool) (before : Contents) (reached : Step)
    (store : Store) : Prop where
  issuing : store.issuesTokens = issues
  parts : ∃ objects, store.contents = before ++ objects ∧
    PartsBy reached space owner issues objects

/-- One thing holds after a success, and another after a failure. -/
def Leaves {Failure Value : Type} (succeeds : Value → Store → Prop) (fails : Store → Prop) :
    Except Failure Value → Store → Prop
  | .ok value, after => succeeds value after
  | .error _, after => fails after

theorem Single.of_iff {Object : Type} {expected other : Prop} {fits : Object → Prop}
    {objects : List Object} (single : Single expected fits objects) (same : expected ↔ other) :
    Single other fits objects :=
  ⟨fun reaches => single.present (same.2 reaches),
    fun misses => single.absent fun reaches => misses (same.1 reaches)⟩

theorem Single.append {Object : Type} {expected other : Prop} {fits : Object → Prop}
    {objects : List Object} {object : Object} (single : Single expected fits objects)
    (missing : ¬expected) (reaches : other) (fitting : fits object) :
    Single other fits (objects ++ [object]) := by
  rw [single.absent missing]
  exact ⟨fun _ => ⟨object, rfl, fitting⟩, fun misses => absurd reaches misses⟩

theorem Single.all {Object : Type} {expected : Prop} {fits good : Object → Prop}
    {objects : List Object} (single : Single expected fits objects)
    (covers : ∀ object, fits object → good object) : ∀ object ∈ objects, good object := by
  intro object member
  by_cases reaches : expected
  · obtain ⟨only, same, fitting⟩ := single.present reaches
    rw [same, List.mem_singleton] at member
    exact member ▸ covers only fitting
  · rw [single.absent reaches] at member
    cases member

theorem PartsBy.within {reached : Step} {space owner : String} {issues : Bool}
    {objects : Contents} (parts : PartsBy reached space owner issues objects) :
    objects.Within space := by
  constructor
  · exact parts.namespaces.all fun held fits => by simp [Metadata.isNamed, fits.name]
  · simp [parts.pods]
  · exact parts.secrets.all fun held fits => Store.isIn_of_isAt fits.place
  · exact parts.accounts.all fun held fits => Store.isIn_of_isAt fits
  · exact parts.bindings.all fun held fits => Store.isIn_of_isAt fits.place

section

variable {plan : Plan} {draws : Draws} {space owner : String} {issues : Bool} {before : Contents}
variable {reached : Step} {store after : Store}

theorem Holding.issuing_after {question : Call} {answer : question.Answer}
    (holding : Holding space owner issues before reached store)
    (answered : Store.answer question store = (answer, after)) : after.issuesTokens = issues := by
  have issued : (Store.answer question store).2.issuesTokens = store.issuesTokens :=
    Store.issuesTokens_answer
  rw [answered] at issued
  exact issued.trans holding.issuing

theorem Holding.of_unchanged {question : Call} {answer : question.Answer}
    (holding : Holding space owner issues before reached store)
    (answered : Store.answer question store = (answer, after))
    (unchanged : after.contents = store.contents) :
    Holding space owner issues before reached after := by
  obtain ⟨objects, same, parts⟩ := holding.parts
  exact ⟨holding.issuing_after answered, objects, unchanged.trans same, parts⟩

theorem Holding.of_error {question : Call} {failure : Cluster.Failure}
    (holding : Holding space owner issues before reached store)
    (answered : Store.answer question store = (.error failure, after)) :
    Holding space owner issues before reached after :=
  holding.of_unchanged answered (Store.contents_of_error answered)

theorem holding_started (issuing : store.issuesTokens = issues)
    (untouched : store.contents = before) :
    Holding space owner issues before .started store := by
  refine ⟨issuing, {}, untouched.trans (Contents.append_empty before).symm, ?_⟩
  constructor <;> simp [Step.parts]
  all_goals exact ⟨fun reaches => absurd reaches (by decide), fun _ => rfl⟩

theorem Holding.untouched (holding : Holding space owner issues before reached store)
    (none : reached.parts = 0) : store.contents = before := by
  obtain ⟨objects, same, parts⟩ := holding.parts
  have empty : objects = {} := by
    apply Contents.ext
    · exact parts.namespaces.absent (by omega)
    · exact parts.pods
    · exact parts.secrets.absent (by omega)
    · exact parts.accounts.absent (by omega)
    · exact parts.bindings.absent (by omega)
  rw [same, empty, Contents.append_empty]

theorem Holding.has (holding : Holding space owner issues before reached store)
    (begun : 1 ≤ reached.parts) : store.contents.Has space := by
  obtain ⟨objects, same, parts⟩ := holding.parts
  obtain ⟨held, only, fits⟩ := parts.namespaces.present begun
  refine ⟨held, ?_, by simp [Metadata.isNamed, fits.name]⟩
  rw [same]
  simp [only]

theorem Holding.taken_back (vacant : before.Vacant space)
    (holding : Holding space owner issues before reached store)
    (answered : Store.answer (.deleteNamespace space) store = (.ok (), after)) :
    after.contents = before := by
  obtain ⟨objects, same, parts⟩ := holding.parts
  rw [(Store.deleteNamespace_ok answered).2, same]
  exact Contents.without_of_vacant_append vacant parts.within

/-- The deletion of a rollback takes away the namespace with all that is in it, or
fails and changes no object. -/
theorem ensures_deletion (has : store.contents.Has space) :
    (Retry.run plan.step Cluster.Failure.isTransient (tryDelete space) draws.rollback).Ensures
      Store.plane.setting plan.Unsteady
      (Leaves (fun _ finish => finish.contents = store.contents.without space)
        fun finish => finish.contents = store.contents) store := by
  let goal : Except Cluster.Failure Unit → Store → Prop :=
    Leaves (fun _ finish => finish.contents = store.contents.without space)
      fun finish => finish.contents = store.contents
  rw [tryDelete_eq]
  refine Retry.ensures_run (fun state => state.contents = store.contents) .inl ?_ rfl
  intro state same
  refine ⟨trivial, ?_⟩
  intro answer after answered
  rcases answer with failure | ⟨⟩
  · have unchanged : after.contents = store.contents :=
      (Store.contents_of_error answered).trans same
    have present : failure.isNotFound = false := by
      cases missing : failure.isNotFound with
      | false => rfl
      | true => exact absurd (same ▸ has) (Store.deleteNamespace_missing answered missing)
    have stays : deleteOutcome (.error failure) = .error failure := by
      simp [deleteOutcome, present]
    refine ⟨?_, fun _ _ => unchanged⟩
    change goal (deleteOutcome (.error failure)) after
    rw [stays]
    exact unchanged
  · refine ⟨?_, ?_⟩
    · exact (Store.deleteNamespace_ok answered).2.trans (congrArg (·.without space) same)
    · intro failure failed
      cases failed

theorem ensures_rollBack_settled (vacant : before.Vacant space) (begun : 1 ≤ reached.parts)
    (cause : StepFailure) (holding : Holding space owner issues before reached store) :
    (rollBack plan space draws reached cause).Ensures Store.plane.setting plan.Unsteady
      (fun outcome finish => Settled space owner issues before outcome finish.contents) store := by
  have notStarted : reached ≠ .started := by
    intro same
    subst same
    exact absurd begun (by decide)
  rw [rollBack, if_neg notStarted, Program.ensures_bind]
  refine (ensures_deletion (holding.has begun)).mono ?_
  intro result finish reaches
  obtain ⟨objects, same, parts⟩ := holding.parts
  rcases result with failure | ⟨⟩
  · exact ⟨begun, objects, reaches.trans same, parts⟩
  · have back : finish.contents = store.contents.without space := reaches
    rw [same, Contents.without_of_vacant_append vacant parts.within] at back
    exact back

/-- A stage that creates a part inside the namespace: the part is not there
yet, and with it the next step is reached. -/
theorem ensures_creationStage (reached later : Step) {question : Call}
    {next : Unit → Calls (Except Failure String)} (vacant : before.Vacant space)
    (begun : 1 ≤ reached.parts)
    (grows : ∀ state created after, Holding space owner issues before reached state →
      Store.answer question state = (.ok created, after) →
        Holding space owner issues before later after)
    (free : ∀ state failure after, Holding space owner issues before reached state →
      Store.answer question state = (.error failure, after) → failure.isAlreadyExists = false)
    (rest : ∀ state, Holding space owner issues before later state →
      (next ()).Ensures Store.plane.setting plan.Unsteady
        (fun outcome finish => Settled space owner issues before outcome finish.contents) state)
    (holding : Holding space owner issues before reached store) :
    (step plan plan.step space draws reached
        ((call question).bind fun answer => .done (existsNow answer)) next).Ensures
      Store.plane.setting plan.Unsteady
      (fun outcome finish => Settled space owner issues before outcome finish.contents) store := by
  let goal : Except StepFailure Unit → Store → Prop :=
    Leaves (fun _ => Holding space owner issues before later)
      (Holding space owner issues before reached)
  have created : (Retry.run plan.step StepFailure.isRepeatable
      ((call question).bind fun answer => .done (existsNow answer)) (draws.within reached)).Ensures
      Store.plane.setting plan.Unsteady goal store := by
    refine Retry.ensures_run (Holding space owner issues before reached) .inl ?_ holding
    intro state holds
    refine ⟨trivial, ?_⟩
    intro answer after answered
    cases answer with
    | ok created =>
        refine ⟨grows state created after holds answered, ?_⟩
        intro failure failed
        cases failed
    | error failure =>
        have unchanged : Holding space owner issues before reached after := holds.of_error answered
        have stays : existsNow (.error failure : question.Answer) = .error (.cluster failure) := by
          simp [existsNow, free state failure after holds answered]
        refine ⟨?_, fun _ _ => unchanged⟩
        rw [stays]
        exact unchanged
  rw [step, Program.ensures_bind]
  refine created.mono ?_
  intro result after reaches
  rcases result with failure | ⟨⟩
  · exact ensures_rollBack_settled vacant begun failure reaches
  · exact rest after reaches

theorem Holding.add_namespace {created : Namespace}
    (holding : Holding space owner issues before .started store)
    (answered : Store.answer (.createNamespace (Workspace.namespaceFor space owner)) store =
      (.ok created, after)) :
    Holding space owner issues before .namespaceCreated after := by
  obtain ⟨objects, same, parts⟩ := holding.parts
  obtain ⟨name, stamps, named, free, rfl, added⟩ := Store.createNamespace_ok answered
  refine ⟨holding.issuing_after answered, _,
    by rw [added, same, Contents.append_assoc], ?_, ?_, ?_, ?_, ?_⟩
  · exact parts.namespaces.append (by decide) (by decide) ⟨rfl, rfl⟩
  · simp [parts.pods]
  · simpa using parts.accounts.of_iff (by decide)
  · simpa using parts.secrets.of_iff (by decide)
  · simpa using parts.bindings.of_iff (by decide)

theorem Holding.add_account {created : ServiceAccount}
    (holding : Holding space owner issues before .namespaceCreated store)
    (answered : Store.answer (.createServiceAccount space (accountFor space)) store =
      (.ok created, after)) :
    Holding space owner issues before .serviceAccountCreated after := by
  obtain ⟨objects, same, parts⟩ := holding.parts
  obtain ⟨stamps, has, rfl, added⟩ := Store.createServiceAccount_ok answered
  refine ⟨holding.issuing_after answered, _,
    by rw [added, same, Contents.append_assoc], ?_, ?_, ?_, ?_, ?_⟩
  · simpa using parts.namespaces.of_iff (by decide)
  · simp [parts.pods]
  · exact parts.accounts.append (by decide) (by decide) (Store.isAt_stampedIn rfl)
  · simpa using parts.secrets.of_iff (by decide)
  · simpa using parts.bindings.of_iff (by decide)

theorem datum?_createdSecret {stamps : Store} (issuing : stamps.issuesTokens = true) :
    (stamps.createdSecret space (tokenSecretFor space)).datum? tokenKey =
      some stamps.nextStamp.token.toUTF8 := by
  have created : stamps.createdSecret space (tokenSecretFor space) =
      { tokenSecretFor space with
        metadata := stamps.stampedIn space (tokenSecretFor space).metadata
        data := some (Dictionary.empty.insert tokenKey stamps.nextStamp.token.toUTF8) } := by
    simp [Store.createdSecret, issuing, tokenSecretFor]
  rw [created]
  simp [Secret.datum?]

theorem isTokenSecretOf_createdSecret (stamps : Store) :
    IsTokenSecretOf space stamps.issuesTokens
      (stamps.createdSecret space (tokenSecretFor space)) := by
  have metadata : (stamps.createdSecret space (tokenSecretFor space)).metadata =
      stamps.stampedIn space (tokenSecretFor space).metadata := by
    unfold Store.createdSecret
    split <;> rfl
  constructor
  · rw [metadata]
    exact Store.isAt_stampedIn rfl
  · unfold Store.createdSecret
    split <;> rfl
  · intro issuing
    exact ⟨stamps.nextStamp.token, datum?_createdSecret issuing⟩
  · intro tokenless
    simp [Store.createdSecret, tokenless, Secret.datum?, tokenSecretFor]

theorem Holding.add_secret {created : Secret}
    (holding : Holding space owner issues before .serviceAccountCreated store)
    (answered : Store.answer (.createSecret space (tokenSecretFor space)) store =
      (.ok created, after)) :
    Holding space owner issues before .tokenSecretCreated after := by
  obtain ⟨objects, same, parts⟩ := holding.parts
  obtain ⟨stamps, has, issued, rfl, added⟩ := Store.createSecret_ok answered
  have fitting : IsTokenSecretOf space issues
      (stamps.createdSecret space (tokenSecretFor space)) := by
    rw [← holding.issuing, ← issued]
    exact isTokenSecretOf_createdSecret stamps
  refine ⟨holding.issuing_after answered, _,
    by rw [added, same, Contents.append_assoc], ?_, ?_, ?_, ?_, ?_⟩
  · simpa using parts.namespaces.of_iff (by decide)
  · simp [parts.pods]
  · simpa using parts.accounts.of_iff (by decide)
  · exact parts.secrets.append (by decide) (by decide) fitting
  · simpa using parts.bindings.of_iff (by decide)

theorem Holding.add_binding {created : RoleBinding}
    (holding : Holding space owner issues before .tokenSecretCreated store)
    (answered : Store.answer (.createRoleBinding space (bindingFor space)) store =
      (.ok created, after)) :
    Holding space owner issues before .roleBindingCreated after := by
  obtain ⟨objects, same, parts⟩ := holding.parts
  obtain ⟨stamps, has, rfl, added⟩ := Store.createRoleBinding_ok answered
  refine ⟨holding.issuing_after answered, _,
    by rw [added, same, Contents.append_assoc], ?_, ?_, ?_, ?_, ?_⟩
  · simpa using parts.namespaces.of_iff (by decide)
  · simp [parts.pods]
  · simpa using parts.accounts.of_iff (by decide)
  · simpa using parts.secrets.of_iff (by decide)
  · exact parts.bindings.append (by decide) (by decide) ⟨Store.isAt_stampedIn rfl, rfl, rfl⟩

theorem not_isAt_of_missing {Object : Type} {metadataOf : Object → Metadata} {expected : Prop}
    {fits : Object → Prop} {held added : List Object} {name : String} {object : Object}
    (vacant : ∀ other ∈ held, (metadataOf other).isIn space = false)
    (single : Single expected fits added) (missing : ¬expected)
    (member : object ∈ held ++ added) : Store.isAt space name (metadataOf object) = false := by
  rw [single.absent missing, List.append_nil] at member
  simp [Store.isAt, vacant object member]

theorem Holding.account_free {failure : Cluster.Failure} (vacant : before.Vacant space)
    (holding : Holding space owner issues before .namespaceCreated store)
    (answered : Store.answer (.createServiceAccount space (accountFor space)) store =
      (.error failure, after)) : failure.isAlreadyExists = false := by
  apply Bool.eq_false_iff.2
  intro taken
  obtain ⟨objects, same, parts⟩ := holding.parts
  obtain ⟨name, named, held, member, fits⟩ := Store.createServiceAccount_taken answered taken
  rw [same] at member
  rw [not_isAt_of_missing vacant.accounts parts.accounts (by decide) member] at fits
  cases fits

theorem Holding.secret_free {failure : Cluster.Failure} (vacant : before.Vacant space)
    (holding : Holding space owner issues before .serviceAccountCreated store)
    (answered : Store.answer (.createSecret space (tokenSecretFor space)) store =
      (.error failure, after)) : failure.isAlreadyExists = false := by
  apply Bool.eq_false_iff.2
  intro taken
  obtain ⟨objects, same, parts⟩ := holding.parts
  obtain ⟨name, named, held, member, fits⟩ := Store.createSecret_taken answered taken
  rw [same] at member
  rw [not_isAt_of_missing vacant.secrets parts.secrets (by decide) member] at fits
  cases fits

theorem Holding.binding_free {failure : Cluster.Failure} (vacant : before.Vacant space)
    (holding : Holding space owner issues before .tokenSecretCreated store)
    (answered : Store.answer (.createRoleBinding space (bindingFor space)) store =
      (.error failure, after)) : failure.isAlreadyExists = false := by
  apply Bool.eq_false_iff.2
  intro taken
  obtain ⟨objects, same, parts⟩ := holding.parts
  obtain ⟨name, named, held, member, fits⟩ := Store.createRoleBinding_taken answered taken
  rw [same] at member
  rw [not_isAt_of_missing vacant.bindings parts.bindings (by decide) member] at fits
  cases fits

theorem Holding.namespace_free {failure : Cluster.Failure} (vacant : before.Vacant space)
    (holding : Holding space owner issues before .started store)
    (answered : Store.answer (.createNamespace (Workspace.namespaceFor space owner)) store =
      (.error failure, after)) : failure.isAlreadyExists = false := by
  apply Bool.eq_false_iff.2
  intro taken
  obtain ⟨objects, same, parts⟩ := holding.parts
  obtain ⟨name, named, held, member, fits⟩ := Store.createNamespace_taken answered taken
  cases named
  rw [same, Contents.namespaces_append, parts.namespaces.absent (by decide),
    List.append_nil] at member
  rw [vacant.namespaces held member] at fits
  cases fits

theorem datum_of_tokenIn? {secret : Secret} {token : String}
    (found : tokenIn? secret = some token) :
    secret.datum? tokenKey = some token.toUTF8 := by
  obtain ⟨read, _⟩ := Option.filter_eq_some_iff.1 found
  obtain ⟨bytes, datum, text⟩ := Option.bind_eq_some_iff.1 read
  rw [datum, Text.bytes_of_fromUTF8? text]

theorem Holding.secret_read {secret : Secret} (vacant : before.Vacant space)
    (holding : Holding space owner issues before .roleBindingCreated store)
    (answered : Store.answer (.getSecret space tokenSecretName) store = (.ok secret, after)) :
    ∃ objects, after.contents = before ++ objects ∧
      PartsBy .roleBindingCreated space owner issues objects ∧ objects.secrets = [secret] := by
  obtain ⟨objects, same, parts⟩ := holding.parts
  obtain ⟨only, listed, fits⟩ := parts.secrets.present (by decide)
  obtain ⟨found, unchanged⟩ := Store.getSecret_ok answered
  have nowhere : before.secrets.find?
      (fun held => Store.isAt space tokenSecretName held.metadata) = none := by
    apply List.find?_eq_none.2
    intro held member
    simp [Store.isAt, vacant.secrets held member]
  rw [same, Contents.secrets_append, List.find?_append, nowhere, listed] at found
  simp only [List.find?_cons, fits.place, Option.none_or, Option.some.injEq] at found
  exact ⟨objects, unchanged.trans same, parts, found ▸ listed⟩

theorem Holding.read_again {answer : Except Cluster.Failure Secret}
    (holding : Holding space owner issues before reached store)
    (answered : Store.answer (.getSecret space tokenSecretName) store = (answer, after)) :
    Holding space owner issues before reached after := by
  cases answer with
  | error failure => exact holding.of_error answered
  | ok secret => exact holding.of_unchanged answered (Store.getSecret_ok answered).2

theorem Holding.token_read {answer : Except Cluster.Failure Secret} {token : String}
    (vacant : before.Vacant space)
    (holding : Holding space owner issues before .roleBindingCreated store)
    (answered : Store.answer (.getSecret space tokenSecretName) store = (answer, after))
    (read : readOutcome answer = .ok token) :
    Settled space owner issues before (.ok token) after.contents := by
  obtain ⟨secret, rfl, found⟩ := tokenIn?_of_readOutcome read
  obtain ⟨objects, same, parts, listed⟩ := holding.secret_read vacant answered
  have whole : PartsBy .ready space owner issues objects :=
    ⟨parts.namespaces, parts.pods, parts.accounts, parts.secrets, parts.bindings⟩
  exact ⟨objects, secret, same, whole, listed, datum_of_tokenIn? found⟩

/-- Reading the token changes nothing and completes the workspace. -/
theorem ensures_readingStage_settled (vacant : before.Vacant space)
    (holding : Holding space owner issues before .roleBindingCreated store) :
    (step plan plan.token space draws .roleBindingCreated (tryReadToken space)
        fun token => .done (.ok token)).Ensures Store.plane.setting plan.Unsteady
      (fun outcome finish => Settled space owner issues before outcome finish.contents) store := by
  let goal : Except StepFailure String → Store → Prop :=
    Leaves (fun token after => Settled space owner issues before (.ok token) after.contents)
      (Holding space owner issues before .roleBindingCreated)
  have read : (Retry.run plan.token StepFailure.isRepeatable
      ((call (.getSecret space tokenSecretName)).bind fun answer => .done (readOutcome answer))
      (draws.within .roleBindingCreated)).Ensures Store.plane.setting plan.Unsteady goal store := by
    refine Retry.ensures_run (Holding space owner issues before .roleBindingCreated) .inr ?_ holding
    intro state holds
    refine ⟨trivial, ?_⟩
    intro answer after answered
    have unchanged : Holding space owner issues before .roleBindingCreated after :=
      holds.read_again answered
    refine ⟨?_, fun _ _ => unchanged⟩
    cases outcome : readOutcome answer with
    | ok token => exact holds.token_read vacant answered outcome
    | error failure => exact unchanged
  rw [tryReadToken_eq, step, Program.ensures_bind]
  refine read.mono ?_
  intro result after reaches
  cases result with
  | ok token => exact reaches
  | error failure => exact ensures_rollBack_settled vacant (by decide) failure reaches

/-- One attempt to create the namespace where there is none: it exists
afterwards, or nothing has changed. -/
theorem ensures_tryCreateNamespace_settled {mayFault : Prop} (vacant : before.Vacant space)
    (holding : Holding space owner issues before .started store) :
    (tryCreateNamespace space owner).Ensures Store.plane.setting mayFault
      (fun result after =>
        Leaves (fun _ => Holding space owner issues before .namespaceCreated)
            (Holding space owner issues before .started) result after ∧
        ∀ failure, result = .error failure → Holding space owner issues before .started after)
      store := by
  refine ⟨trivial, ?_⟩
  intro answer after answered
  cases answer with
  | ok created =>
      refine ⟨holding.add_namespace answered, ?_⟩
      intro failure failed
      cases failed
  | error failure =>
      have unchanged : Holding space owner issues before .started after := holding.of_error answered
      simp only [Program.bind, holding.namespace_free vacant answered, Bool.false_eq_true, if_false]
      exact ⟨unchanged, fun _ _ => unchanged⟩

theorem ensures_run_settled (vacant : store.contents.Vacant space) :
    (run plan space owner draws).Ensures Store.plane.setting plan.Unsteady
      (fun outcome finish =>
        Settled space owner store.issuesTokens store.contents outcome finish.contents) store := by
  have holding : Holding space owner store.issuesTokens store.contents .started store :=
    holding_started rfl rfl
  unfold run
  rw [step, Program.ensures_bind]
  refine (Retry.ensures_run (Holding space owner store.issuesTokens store.contents .started) .inl
    (fun state holds => ensures_tryCreateNamespace_settled vacant holds) holding).mono ?_
  intro result after reaches
  rcases result with failure | ⟨⟩
  · exact reaches.untouched rfl
  · refine ensures_creationStage .namespaceCreated .serviceAccountCreated vacant (by decide)
      ?_ ?_ ?_ reaches
    · intro state created after holds answered
      exact holds.add_account answered
    · intro state failure after holds answered
      exact holds.account_free vacant answered
    · intro state reaches
      refine ensures_creationStage .serviceAccountCreated .tokenSecretCreated vacant (by decide)
        ?_ ?_ ?_ reaches
      · intro state created after holds answered
        exact holds.add_secret answered
      · intro state failure after holds answered
        exact holds.secret_free vacant answered
      · intro state reaches
        refine ensures_creationStage .tokenSecretCreated .roleBindingCreated vacant (by decide)
          ?_ ?_ ?_ reaches
        · intro state created after holds answered
          exact holds.add_binding answered
        · intro state failure after holds answered
          exact holds.binding_free vacant answered
        · intro state reaches
          exact ensures_readingStage_settled vacant reaches

end

/-- Without a token controller no provisioning ends with a token. -/
theorem Settled.not_ok {space owner token : String} {before after : Contents} :
    ¬Settled space owner false before (.ok token) after := by
  intro settled
  obtain ⟨objects, secret, _, parts, listed, datum⟩ := settled
  obtain ⟨only, same, fits⟩ := parts.secrets.present (by decide)
  rw [listed, List.singleton_inj] at same
  rw [same, fits.tokenless rfl] at datum
  cases datum

/-- A provisioning under a name that nothing in the store has is all or
nothing, whatever failures are pending and however often the steps are tried:
it ends with a token and the whole workspace, with a failure and the objects as
they were, or with a rollback that failed and the parts by the step that was
reached. -/
theorem provisioning_all_or_nothing (store : Store) (plan : Plan) (space owner : String)
    (draws : Draws) (vacant : store.contents.Vacant space) (steady : ¬plan.Unsteady) :
    ∃ outcome finish, Store.plane.run (run plan space owner draws) store = (.ok outcome, finish) ∧
      Settled space owner store.issuesTokens store.contents outcome finish.contents ∧
      (store.issuesTokens = false → ∀ token, outcome ≠ .ok token) := by
  have ensured : (run plan space owner draws).Ensures Store.plane.setting plan.Unsteady
      (fun outcome finish =>
        Settled space owner store.issuesTokens store.contents outcome finish.contents) store :=
    ensures_run_settled vacant
  obtain ⟨outcome, finish, _, ran, settled, rfl⟩ :=
    Handler.run_of_ensures (Handler.foreseen_ofAnswer Store.answer) ensured rfl steady
  refine ⟨outcome, finish, ran, settled, ?_⟩
  intro tokenless token same
  subst same
  rw [tokenless] at settled
  exact settled.not_ok

/-- A store with another workspace, in which every kind of call fails twice. -/
theorem provisioning_all_or_nothing_beside :
    let store : Store :=
      { namespaces := [Workspace.namespaceFor "zombie-b" "bob"]
        pendingFailures := fun _ => 2
        stampOf := fun _ => default }
    store.contents.Vacant "zombie-a" ∧ ¬Plan.standard.Unsteady ∧
      ∃ outcome finish,
        Store.plane.run (run Plan.standard "zombie-a" "alice") store = (.ok outcome, finish) ∧
        Settled "zombie-a" "alice" store.issuesTokens store.contents outcome finish.contents ∧
        (store.issuesTokens = false → ∀ token, outcome ≠ .ok token) := by
  intro store
  have vacant : store.contents.Vacant "zombie-a" := by
    constructor
    · intro held member
      rw [List.mem_singleton.1 member]
      decide
    all_goals
      intro held member
      cases member
  exact ⟨vacant, Plan.steady_standard,
    provisioning_all_or_nothing store Plan.standard "zombie-a" "alice" .neutral vacant
      Plan.steady_standard⟩

end Tenancy.Provisioning
