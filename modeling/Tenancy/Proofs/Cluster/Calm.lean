import Tenancy.Proofs.Cluster.Answers

/-!
# Calm stores

A store in which no failure is pending stays like that, and answers every call
from its objects: what exists is read, what is missing is created, and what
exists already is reported as such.
-/

namespace Tenancy.Cluster.Store

/-- No call is to fail. -/
def Calm (store : Store) : Prop := ∀ operation, store.pendingFailures operation = 0

variable {store after : Store} {space name : String}

theorem Calm.answer_eq {call : Call} (calm : store.Calm) :
    answer call store = (store.counted call.operation).respond call :=
  answer_unhindered (calm call.operation)

theorem pendingFailures_respond (call : Call) (store : Store) :
    (store.respond call).2.pendingFailures = store.pendingFailures := by
  cases call <;> simp only [respond] <;> split <;> first | rfl | (split <;> rfl)

/-- A call uses up one pending failure of its kind, if there is one. -/
theorem pendingFailures_answer (call : Call) (store : Store) :
    (answer call store).2.pendingFailures =
      replaceAt store.pendingFailures call.operation
        (store.pendingFailures call.operation - 1) := by
  cases pending : store.pendingFailures call.operation with
  | zero =>
      rw [answer_unhindered pending, pendingFailures_respond]
      funext operation
      by_cases same : operation = call.operation
      · simp [replaceAt, same, counted, pending]
      · simp [replaceAt, same, counted]
  | succ remaining =>
      have counted : (store.counted call.operation).pendingFailures call.operation =
          remaining + 1 := pending
      simp only [answer, counted]
      rfl

theorem pendingFailures_answer_other {call : Call} {operation : Operation}
    (apart : operation ≠ call.operation) (store : Store) :
    (answer call store).2.pendingFailures operation = store.pendingFailures operation := by
  rw [pendingFailures_answer, replaceAt, if_neg apart]

theorem Calm.kept {call : Call} {reply : call.Answer} (calm : store.Calm)
    (answered : answer call store = (reply, after)) : after.Calm := by
  have kept := pendingFailures_respond call (store.counted call.operation)
  rw [← calm.answer_eq, answered] at kept
  intro operation
  rw [kept]
  exact calm operation

theorem stampOf_respond (call : Call) (store : Store) :
    (store.respond call).2.stampOf = store.stampOf := by
  cases call <;> simp only [respond] <;> split <;> first | rfl | (split <;> rfl)

theorem Calm.stampOf_answer {call : Call} {reply : call.Answer} (calm : store.Calm)
    (answered : answer call store = (reply, after)) : after.stampOf = store.stampOf := by
  have kept := stampOf_respond call (store.counted call.operation)
  rw [← calm.answer_eq, answered] at kept
  exact kept

theorem vacancy_error {resource : String} {metadata : Metadata} {held : List Metadata}
    {failure : Failure} (refused : store.vacancy resource space metadata held = .error failure)
    (has : store.contents.Has space) (named : metadata.name = some name) :
    failure.isAlreadyExists = true := by
  have present : store.hasNamespace space = true := hasNamespace_iff.2 has
  simp only [vacancy, named, present, if_true] at refused
  split at refused <;> cases refused
  rfl

section

variable (calm : store.Calm)

include calm

theorem Calm.createNamespace {object : Namespace} {failure : Failure}
    (answered : answer (.createNamespace object) store = (.error failure, after))
    (named : object.metadata.name = some name) :
    failure.isAlreadyExists = true := by
  rw [calm.answer_eq] at answered
  simp only [respond, named] at answered
  split at answered <;> cases answered
  rfl

theorem Calm.getNamespace (has : store.contents.Has name) :
    ∃ held after, answer (.getNamespace name) store = (.ok held, after) :=
  getNamespace_found (calm .getNamespace) has

theorem Calm.getSecret {held : Secret} (member : held ∈ store.contents.secrets)
    (place : isAt space name held.metadata = true) :
    ∃ found after, answer (.getSecret space name) store = (.ok found, after) := by
  rw [calm.answer_eq]
  simp only [respond]
  split
  next other _ => exact ⟨other, _, rfl⟩
  next missing =>
    have elsewhere := List.find?_eq_none.1 missing held member
    exact absurd place elsewhere

theorem Calm.createServiceAccount {account : ServiceAccount} {failure : Failure}
    (answered : answer (.createServiceAccount space account) store = (.error failure, after))
    (has : store.contents.Has space) (named : account.metadata.name = some name) :
    failure.isAlreadyExists = true := by
  rw [calm.answer_eq] at answered
  simp only [respond] at answered
  split at answered
  next refused =>
    cases answered
    exact vacancy_error refused has named
  next => cases answered

theorem Calm.createSecret {secret : Secret} {failure : Failure}
    (answered : answer (.createSecret space secret) store = (.error failure, after))
    (has : store.contents.Has space) (named : secret.metadata.name = some name) :
    failure.isAlreadyExists = true := by
  rw [calm.answer_eq] at answered
  simp only [respond] at answered
  split at answered
  next refused =>
    cases answered
    exact vacancy_error refused has named
  next => cases answered

theorem Calm.createSecret_ok {secret created : Secret}
    (answered : answer (.createSecret space secret) store = (.ok created, after)) :
    ∃ stamps : Store, stamps.stampOf = store.stampOf ∧
      stamps.issuesTokens = store.issuesTokens ∧ created = stamps.createdSecret space secret ∧
      after.contents = store.contents ++ ({ secrets := [created] } : Contents) := by
  rw [calm.answer_eq] at answered
  simp only [respond] at answered
  split at answered
  next => cases answered
  next free =>
    cases answered
    refine ⟨store.counted .createSecret, rfl, rfl, rfl, ?_⟩
    apply Contents.ext <;> simp [contents, counted]

theorem Calm.createRoleBinding {binding : RoleBinding} {failure : Failure}
    (answered : answer (.createRoleBinding space binding) store = (.error failure, after))
    (has : store.contents.Has space) (named : binding.metadata.name = some name) :
    failure.isAlreadyExists = true := by
  rw [calm.answer_eq] at answered
  simp only [respond] at answered
  split at answered
  next refused =>
    cases answered
    exact vacancy_error refused has named
  next => cases answered

end

end Tenancy.Cluster.Store
