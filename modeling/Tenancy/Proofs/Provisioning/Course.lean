import Tenancy.Proofs.Retry
import Tenancy.Provisioning.Saga

/-!
# Courses of a provisioning

A course tells how the attempts of a provisioning were answered, stage by
stage.  It fixes the calls that are made and their order, and `Follows` says
which courses there are: every stage is retried as its policy has it, none
starts before the one ahead of it succeeded, and the namespace is deleted when
a stage after the first one failed.
-/

namespace Tenancy.Provisioning

open Cluster Retry

/-- How one attempt to create the namespace is answered. -/
inductive Creation where
  | created (object : Namespace)
  /-- There is such a namespace already, so it is read. -/
  | conflicted (message : String) (reading : Except Cluster.Failure Namespace)
  | refused (cause : Cluster.Failure) (other : cause.isAlreadyExists = false)

namespace Creation

variable (space owner : String)

/-- The calls of the attempt with their answers. -/
def exchanges : Creation → List Exchange
  | .created object => [⟨.createNamespace (Workspace.namespaceFor space owner), .ok object⟩]
  | .conflicted message reading =>
      [⟨.createNamespace (Workspace.namespaceFor space owner), .error (.alreadyExists message)⟩,
        ⟨.getNamespace space, reading⟩]
  | .refused cause _ =>
      [⟨.createNamespace (Workspace.namespaceFor space owner), .error cause⟩]

def outcome : Creation → Except StepFailure Unit
  | .created _ => .ok ()
  | .conflicted _ (.ok held) =>
      if Workspace.isOwnedBy owner held then .ok () else .error (.nameTaken space)
  | .conflicted _ (.error cause) => .error (.cluster cause)
  | .refused cause _ => .error (.cluster cause)

end Creation

def Uncreated (history : List Exchange) : Prop :=
  ∀ object created, (⟨.createNamespace object, .ok created⟩ : Exchange) ∉ history

theorem uncreated_nil : Uncreated [] := by
  intro object created member
  cases member

theorem uncreated_reading {space : String} {answer : (Call.listSecrets space).Answer} :
    Uncreated [⟨.listSecrets space, answer⟩] := by
  intro object created member
  cases List.mem_singleton.1 member

theorem uncreated_append_error {history : List Exchange} {question : Call}
    {failure : Cluster.Failure} (uncreated : Uncreated history) :
    Uncreated (history ++ [⟨question, .error failure⟩]) := by
  intro object created member
  rcases List.mem_append.1 member with before | now
  · exact uncreated object created before
  · cases List.mem_singleton.1 now

theorem not_uncreated_append {history later : List Exchange} (created : ¬Uncreated history) :
    ¬Uncreated (history ++ later) := by
  intro uncreated
  apply created
  intro object held member
  exact uncreated object held (List.mem_append_left _ member)

/-- Some call made the namespace the owner's, or showed that it is. -/
def Acquired (space owner : String) (history : List Exchange) : Prop :=
  (∃ object created, (⟨.createNamespace object, .ok created⟩ : Exchange) ∈ history) ∨
    ∃ held, (⟨.getNamespace space, .ok held⟩ : Exchange) ∈ history ∧
      Workspace.owner? held = some owner

theorem Acquired.mono {space owner : String} {history longer : List Exchange}
    (acquired : Acquired space owner history) (covers : ∀ exchange ∈ history, exchange ∈ longer) :
    Acquired space owner longer := by
  rcases acquired with ⟨object, created, member⟩ | ⟨held, member, owned⟩
  · exact .inl ⟨object, created, covers _ member⟩
  · exact .inr ⟨held, covers _ member, owned⟩

theorem Acquired.append {space owner : String} {history : List Exchange}
    (acquired : Acquired space owner history) (later : List Exchange) :
    Acquired space owner (history ++ later) :=
  acquired.mono fun _ member => List.mem_append_left later member

namespace Creation

variable {space owner : String} {creation : Creation}

theorem acquired_of_outcome {nothing : Unit}
    (outcome : creation.outcome space owner = .ok nothing) :
    Acquired space owner (creation.exchanges space owner) := by
  cases creation with
  | created object => exact .inl ⟨_, object, List.mem_singleton.2 rfl⟩
  | conflicted message reading =>
      cases reading with
      | error cause => cases outcome
      | ok held =>
          have owned : Workspace.isOwnedBy owner held = true := by
            cases found : Workspace.isOwnedBy owner held with
            | true => rfl
            | false => simp [Creation.outcome, found] at outcome
          refine .inr ⟨held, ?_, by simpa [Workspace.isOwnedBy] using owned⟩
          exact List.mem_cons_of_mem _ (List.mem_singleton.2 rfl)
  | refused cause other => cases outcome

theorem delete_not_mem {name : String} {answer : (Call.deleteNamespace name).Answer} :
    (⟨.deleteNamespace name, answer⟩ : Exchange) ∉ creation.exchanges space owner := by
  cases creation <;> simp [Creation.exchanges]

end Creation

/-- What one reading of the token secret amounts to. -/
def readOutcome : Except Cluster.Failure Secret → Except StepFailure String
  | .error cause => .error (.cluster cause)
  | .ok secret =>
      match tokenIn? secret with
      | some token => .ok token
      | none => .error (.tokenMissing tokenSecretName)

theorem tokenIn?_of_readOutcome {answer : Except Cluster.Failure Secret} {token : String}
    (read : readOutcome answer = .ok token) :
    ∃ secret, answer = .ok secret ∧ tokenIn? secret = some token := by
  cases answer with
  | error cause => cases read
  | ok secret =>
      refine ⟨secret, rfl, ?_⟩
      cases found : tokenIn? secret with
      | none => simp [readOutcome, found] at read
      | some other => simpa [readOutcome, found] using read

/-- What one deletion amounts to.  A namespace that is gone counts as deleted. -/
def deleteOutcome : Except Cluster.Failure Unit → Except Cluster.Failure Unit
  | .ok () => .ok ()
  | .error cause => if cause.isNotFound then .ok () else .error cause

theorem existsNow_eq_ok {Value : Type} {failure : Cluster.Failure}
    (existing : existsNow (.error failure : Except Cluster.Failure Value) = .ok ()) :
    failure.isAlreadyExists = true := by
  cases taken : failure.isAlreadyExists with
  | true => rfl
  | false => simp [existsNow, taken] at existing

theorem isNotFound_of_deleteOutcome {failure : Cluster.Failure}
    (deleted : deleteOutcome (.error failure) = .ok ()) : failure.isNotFound = true := by
  cases missing : failure.isNotFound with
  | true => rfl
  | false => simp [deleteOutcome, missing] at deleted

/-- How the attempts of every stage were answered.  A stage that was not
reached has none. -/
structure Course where
  creations : List Creation
  accounts : List (Except Cluster.Failure ServiceAccount) := []
  secrets : List (Except Cluster.Failure Secret) := []
  bindings : List (Except Cluster.Failure RoleBinding) := []
  readings : List (Except Cluster.Failure Secret) := []
  deletions : List (Except Cluster.Failure Unit) := []

/-- The last of some outcomes is a success. -/
def Succeeds {Failure Value : Type} (outcomes : List (Except Failure Value)) : Prop :=
  ∃ value, outcomes.getLast? = some (.ok value)

theorem not_succeeds_nil {Failure Value : Type} :
    ¬Succeeds ([] : List (Except Failure Value)) := by
  intro succeeds
  obtain ⟨value, last⟩ := succeeds
  simp at last

theorem not_succeeds_of_error {Failure Value : Type} {outcomes : List (Except Failure Value)}
    {failure : Failure} (last : outcomes.getLast? = some (.error failure)) :
    ¬Succeeds outcomes := by
  intro succeeds
  obtain ⟨value, same⟩ := succeeds
  rw [last] at same
  cases same

theorem failed_of_not_succeeds {Failure Value : Type} {repeatable : Failure → Bool} {limit : Nat}
    {outcomes : List (Except Failure Value)} (retried : Retried repeatable limit outcomes)
    (failed : ¬Succeeds outcomes) :
    ∀ outcome ∈ outcomes, ∃ failure, outcome = .error failure := by
  intro outcome member
  cases outcome with
  | error failure => exact ⟨failure, rfl⟩
  | ok value =>
      have split : outcomes.dropLast ++ [outcomes.getLast retried.started] = outcomes :=
        List.dropLast_concat_getLast retried.started
      rw [← split] at member
      rcases List.mem_append.1 member with earlier | last
      · obtain ⟨failure, erroneous, _⟩ := retried.mended _ earlier
        exact ⟨failure, erroneous⟩
      · apply absurd _ failed
        refine ⟨value, ?_⟩
        rw [List.mem_singleton.1 last]
        exact List.getLast?_eq_some_getLast retried.started

structure Done {Failure Value : Type} (repeatable : Failure → Bool) (limit : Nat)
    (outcomes : List (Except Failure Value)) : Prop where
  retried : Retried repeatable limit outcomes
  succeeds : Succeeds outcomes

/-- A stage is retried if it is reached, and left out otherwise. -/
structure Stage {Failure Value : Type} (reached : Prop) (repeatable : Failure → Bool)
    (limit : Nat) (outcomes : List (Except Failure Value)) : Prop where
  retried : reached → Retried repeatable limit outcomes
  skipped : ¬reached → outcomes = []

theorem Stage.taken {Failure Value : Type} {reached : Prop} {repeatable : Failure → Bool}
    {limit : Nat} {outcomes : List (Except Failure Value)} (holds : reached)
    (retried : Retried repeatable limit outcomes) : Stage reached repeatable limit outcomes :=
  ⟨fun _ => retried, fun missed => absurd holds missed⟩

theorem Stage.missed {Failure Value : Type} {reached : Prop} {repeatable : Failure → Bool}
    {limit : Nat} (missed : ¬reached) :
    Stage reached repeatable limit ([] : List (Except Failure Value)) :=
  ⟨fun holds => absurd holds missed, fun _ => rfl⟩

theorem Stage.reached_of_succeeds {Failure Value : Type} {reached : Prop}
    {repeatable : Failure → Bool} {limit : Nat} {outcomes : List (Except Failure Value)}
    (stage : Stage reached repeatable limit outcomes) (succeeds : Succeeds outcomes) :
    reached := by
  apply Classical.byContradiction
  intro missed
  rw [stage.skipped missed] at succeeds
  exact not_succeeds_nil succeeds

namespace Course

variable (plan : Plan) (space owner : String) (course : Course)

/-- The calls of a course with their answers, in their order. -/
def exchanges : List Exchange :=
  course.creations.flatMap (Creation.exchanges space owner) ++
    course.accounts.map (fun answer => ⟨.createServiceAccount space (accountFor space), answer⟩) ++
    course.secrets.map (fun answer => ⟨.createSecret space (tokenSecretFor space), answer⟩) ++
    course.bindings.map (fun answer => ⟨.createRoleBinding space (bindingFor space), answer⟩) ++
    course.readings.map (fun answer => ⟨.getSecret space tokenSecretName, answer⟩) ++
    course.deletions.map (fun answer => ⟨.deleteNamespace space, answer⟩)

def creationOutcomes : List (Except StepFailure Unit) :=
  course.creations.map (Creation.outcome space owner)

def accountOutcomes : List (Except StepFailure Unit) := course.accounts.map existsNow

def secretOutcomes : List (Except StepFailure Unit) := course.secrets.map existsNow

def bindingOutcomes : List (Except StepFailure Unit) := course.bindings.map existsNow

def readingOutcomes : List (Except StepFailure String) := course.readings.map readOutcome

def deletionOutcomes : List (Except Cluster.Failure Unit) := course.deletions.map deleteOutcome

structure Follows : Prop where
  creation : Retried StepFailure.isRepeatable plan.step.limit (course.creationOutcomes space owner)
  account : Stage (Succeeds (course.creationOutcomes space owner)) StepFailure.isRepeatable
    plan.step.limit course.accountOutcomes
  secret : Stage (Succeeds course.accountOutcomes) StepFailure.isRepeatable
    plan.step.limit course.secretOutcomes
  binding : Stage (Succeeds course.secretOutcomes) StepFailure.isRepeatable
    plan.step.limit course.bindingOutcomes
  reading : Stage (Succeeds course.bindingOutcomes) StepFailure.isRepeatable
    plan.token.limit course.readingOutcomes
  deletion : Stage
    (Succeeds (course.creationOutcomes space owner) ∧ ¬Succeeds course.readingOutcomes)
    Cluster.Failure.isTransient plan.step.limit course.deletionOutcomes

/-- A stage failed for good: the steps before it are done, and this is why. -/
def StoppedAfter : Step → StepFailure → Prop
  | .started, failure => (course.creationOutcomes space owner).getLast? = some (.error failure)
  | .namespaceCreated, failure => course.accountOutcomes.getLast? = some (.error failure)
  | .serviceAccountCreated, failure => course.secretOutcomes.getLast? = some (.error failure)
  | .tokenSecretCreated, failure => course.bindingOutcomes.getLast? = some (.error failure)
  | .roleBindingCreated, failure => course.readingOutcomes.getLast? = some (.error failure)
  | .ready, _ => False
  | .rolledBack, _ => False

/-- What the deletions of a course amount to. -/
def rollback : Rollback :=
  match course.deletionOutcomes.getLast? with
  | none => .notNeeded
  | some (.ok ()) => .completed
  | some (.error cause) => .failed cause.message

/-- What a provisioning yields after a course. -/
def Yields : Except Failure String → Prop
  | .ok token => course.readingOutcomes.getLast? = some (.ok token)
  | .error failure =>
      failure.space = space ∧ failure.rollback = course.rollback ∧
        ∃ cause, course.StoppedAfter space owner failure.reached cause ∧
          failure.reason = cause.message

/-- All five stages succeeded, the last one with this token. -/
structure Completes (token : String) : Prop where
  creation : Succeeds (course.creationOutcomes space owner)
  account : Succeeds course.accountOutcomes
  secret : Succeeds course.secretOutcomes
  binding : Succeeds course.bindingOutcomes
  reading : course.readingOutcomes.getLast? = some (.ok token)

/-- A history was continued by the calls of a course, with this result. -/
def Ends (history : List Exchange) (result : Except Failure String)
    (after : List Exchange) : Prop :=
  ∃ course : Course, course.Follows plan space owner ∧ course.Yields space owner result ∧
    after = history ++ course.exchanges space owner

variable {plan : Plan} {space owner : String} {course : Course}

theorem address_of_mem {exchange : Exchange} (member : exchange ∈ course.exchanges space owner) :
    exchange.1.arguments.head? = some (some space) := by
  simp only [exchanges, List.mem_append, List.mem_flatMap, List.mem_map] at member
  obtain (((((⟨creation, _, listed⟩ | ⟨_, _, rfl⟩) | ⟨_, _, rfl⟩) | ⟨_, _, rfl⟩) | ⟨_, _, rfl⟩) |
    ⟨_, _, rfl⟩) := member
  · cases creation with
    | created object =>
        rw [List.mem_singleton.1 listed]
        rfl
    | conflicted message reading =>
        rcases List.mem_cons.1 listed with rfl | second
        · rfl
        · rw [List.mem_singleton.1 second]
          rfl
    | refused cause other =>
        rw [List.mem_singleton.1 listed]
        rfl
  all_goals rfl

theorem object_of_mem {object : Namespace} {answer : (Call.createNamespace object).Answer}
    (member : (⟨.createNamespace object, answer⟩ : Exchange) ∈ course.exchanges space owner) :
    object = Workspace.namespaceFor space owner := by
  obtain ⟨creation, _, listed⟩ : ∃ creation ∈ course.creations,
      (⟨.createNamespace object, answer⟩ : Exchange) ∈ creation.exchanges space owner := by
    simpa [exchanges] using member
  cases creation with
  | created other =>
      cases List.mem_singleton.1 listed
      rfl
  | conflicted message reading =>
      rcases List.mem_cons.1 listed with first | second
      · cases first
        rfl
      · cases List.mem_singleton.1 second
  | refused cause other =>
      cases List.mem_singleton.1 listed
      rfl

theorem acquired_of_succeeds (succeeds : Succeeds (course.creationOutcomes space owner)) :
    Acquired space owner (course.creations.flatMap (Creation.exchanges space owner)) := by
  obtain ⟨nothing, last⟩ := succeeds
  obtain ⟨creation, member, outcome⟩ : ∃ creation ∈ course.creations,
      creation.outcome space owner = .ok nothing := by
    simpa [creationOutcomes] using List.mem_of_getLast? last
  exact (Creation.acquired_of_outcome outcome).mono fun exchange listed =>
    List.mem_flatMap.2 ⟨creation, member, listed⟩

theorem Follows.completes (follows : course.Follows plan space owner) {token : String}
    (last : course.readingOutcomes.getLast? = some (.ok token)) :
    course.Completes space owner token := by
  have reading : Succeeds course.readingOutcomes := ⟨token, last⟩
  have binding := follows.reading.reached_of_succeeds reading
  have secret := follows.binding.reached_of_succeeds binding
  have account := follows.secret.reached_of_succeeds secret
  exact ⟨follows.account.reached_of_succeeds account, account, secret, binding, last⟩

/-- A token is yielded exactly when all stages succeeded. -/
theorem Follows.yields_token_iff (follows : course.Follows plan space owner)
    {result : Except Failure String} (yields : course.Yields space owner result)
    (token : String) : result = .ok token ↔ course.Completes space owner token := by
  constructor
  · intro same
    subst same
    exact follows.completes yields
  · intro completes
    cases result with
    | ok other =>
        have last : some (Except.ok other) = some (Except.ok token) :=
          Eq.trans (Eq.symm yields) completes.reading
        cases last
        rfl
    | error failure =>
        obtain ⟨_, _, cause, stopped, _⟩ := yields
        cases reached : failure.reached <;> rw [reached] at stopped
        · exact absurd completes.creation (not_succeeds_of_error stopped)
        · exact absurd completes.account (not_succeeds_of_error stopped)
        · exact absurd completes.secret (not_succeeds_of_error stopped)
        · exact absurd completes.binding (not_succeeds_of_error stopped)
        · exact absurd ⟨token, completes.reading⟩ (not_succeeds_of_error stopped)
        · exact stopped.elim
        · exact stopped.elim

theorem mem_of_succeeds {Answer Failure Value : Type} {outcome : Answer → Except Failure Value}
    {answers : List Answer} (succeeds : Succeeds (answers.map outcome)) :
    ∃ answer ∈ answers, ∃ value, outcome answer = .ok value := by
  obtain ⟨value, last⟩ := succeeds
  obtain ⟨answer, member, same⟩ := List.mem_map.1 (List.mem_of_getLast? last)
  exact ⟨answer, member, value, same⟩

/-- What a completed course has seen of the parts of the workspace. -/
theorem Completes.seen {token : String} (completes : course.Completes space owner token) :
    (∃ answer, existsNow answer = .ok () ∧
      (⟨.createServiceAccount space (accountFor space), answer⟩ : Exchange) ∈
        course.exchanges space owner) ∧
    (∃ answer, existsNow answer = .ok () ∧
      (⟨.createRoleBinding space (bindingFor space), answer⟩ : Exchange) ∈
        course.exchanges space owner) ∧
    ∃ secret, tokenIn? secret = some token ∧
      (⟨.getSecret space tokenSecretName, .ok secret⟩ : Exchange) ∈
        course.exchanges space owner := by
  refine ⟨?_, ?_, ?_⟩
  · obtain ⟨answer, member, nothing, existing⟩ := mem_of_succeeds completes.account
    exact ⟨answer, existing, by simp [exchanges, member]⟩
  · obtain ⟨answer, member, nothing, existing⟩ := mem_of_succeeds completes.binding
    exact ⟨answer, existing, by simp [exchanges, member]⟩
  · obtain ⟨answer, member, read⟩ := List.mem_map.1 (List.mem_of_getLast? completes.reading)
    obtain ⟨secret, rfl, found⟩ := tokenIn?_of_readOutcome read
    exact ⟨secret, found, by simp [exchanges, member]⟩

theorem Follows.uncreated (follows : course.Follows plan space owner)
    (failed : ¬Succeeds (course.creationOutcomes space owner)) :
    Uncreated (course.exchanges space owner) := by
  intro object created member
  have member : ∃ creation ∈ course.creations,
      (⟨.createNamespace object, .ok created⟩ : Exchange) ∈ creation.exchanges space owner := by
    simpa [exchanges] using member
  obtain ⟨creation, present, listed⟩ := member
  have outcome : creation.outcome space owner = .ok () := by
    cases creation with
    | created other => rfl
    | conflicted message reading => simp [Creation.exchanges] at listed
    | refused cause other => simp [Creation.exchanges] at listed
  have tried : creation.outcome space owner ∈ course.creationOutcomes space owner :=
    List.mem_map_of_mem present
  obtain ⟨failure, erroneous⟩ := failed_of_not_succeeds follows.creation failed _ tried
  rw [outcome] at erroneous
  cases erroneous

/-- A failure that is reported: nothing was created, the namespace was found
deleted, or the rollback failed. -/
theorem Follows.failure_cases (follows : course.Follows plan space owner) {failure : Failure}
    (yields : course.Yields space owner (.error failure)) :
    Uncreated (course.exchanges space owner) ∨
      (∃ answer, (⟨.deleteNamespace space, answer⟩ : Exchange) ∈ course.exchanges space owner ∧
        deleteOutcome answer = .ok ()) ∨
      ∃ reason, failure.rollback = .failed reason := by
  by_cases created : Succeeds (course.creationOutcomes space owner)
  · have unread : ¬Succeeds course.readingOutcomes := by
      intro succeeds
      obtain ⟨token, last⟩ := succeeds
      have impossible := (follows.yields_token_iff yields token).2 (follows.completes last)
      cases impossible
    have deleted := follows.deletion.retried ⟨created, unread⟩
    right
    cases last : course.deletionOutcomes.getLast? with
    | none => exact absurd (List.getLast?_eq_none_iff.1 last) deleted.started
    | some outcome =>
        rcases outcome with cause | ⟨⟩
        · right
          refine ⟨cause.message, ?_⟩
          rw [yields.2.1]
          simp only [rollback, last]
        · left
          obtain ⟨answer, member, outcome⟩ : ∃ answer ∈ course.deletions,
              deleteOutcome answer = .ok () := by
            simpa [deletionOutcomes] using List.mem_of_getLast? last
          refine ⟨answer, ?_, outcome⟩
          exact List.mem_append_right _ (List.mem_map_of_mem member)
  · exact .inl (follows.uncreated created)

theorem Follows.keeps_of_token (follows : course.Follows plan space owner) {token : String}
    (yields : course.Yields space owner (.ok token)) :
    ∀ exchange ∈ course.exchanges space owner, exchange.1.operation ≠ .deleteNamespace := by
  have none : course.deletions = [] := by
    have skipped := follows.deletion.skipped fun both => both.2 ⟨token, yields⟩
    simpa [deletionOutcomes] using skipped
  intro exchange member deletes
  obtain ⟨question, answer⟩ := exchange
  cases question with
  | deleteNamespace name => simp [exchanges, none, Creation.delete_not_mem] at member
  | _ => cases deletes

theorem Follows.uncreated_of_notNeeded (follows : course.Follows plan space owner)
    {failure : Failure} (yields : course.Yields space owner (.error failure))
    (spared : failure.rollback = .notNeeded) : Uncreated (course.exchanges space owner) := by
  have amounts : course.rollback = .notNeeded := yields.2.1.symm.trans spared
  rcases follows.failure_cases yields with uncreated | ⟨answer, member, _⟩ | ⟨reason, failed⟩
  · exact uncreated
  · have untried : course.deletionOutcomes.getLast? = none := by
      simp only [rollback] at amounts
      split at amounts
      next untried => exact untried
      next => cases amounts
      next => cases amounts
    have none : course.deletions = [] := by simpa [deletionOutcomes] using untried
    simp [exchanges, none, Creation.delete_not_mem] at member
  · rw [spared] at failed
    cases failed

end Course

end Tenancy.Provisioning
