import Tenancy.Proofs.Provisioning.AllOrNothing

/-!
# Repeated creations

A creation that took effect is made again when its answer got lost, so a part
of a workspace may be there before the step that adds it is done.  Made again,
the creation adds nothing, and it is done once it is answered that the part
exists.
-/

namespace Tenancy.Provisioning

open Cluster

/-- A call adds the part by which a step differs from the one before: where the
part is missing it is added, and where it is not the call is refused. -/
structure Adds (space owner : String) (issues : Bool) (before : Contents) (question : Call)
    (reached later : Step) : Prop where
  grows : ∀ {store created after}, Holding space owner issues before reached store →
    Store.answer question store = (.ok created, after) →
      Holding space owner issues before later after
  free : ∀ {store failure after}, Holding space owner issues before reached store →
    Store.answer question store = (.error failure, after) → failure.isAlreadyExists = false
  once : ∀ {store created after}, Holding space owner issues before later store →
    Store.answer question store ≠ (.ok created, after)

/-- The parts by a step are there, and perhaps already those by a later one. -/
def Between (space owner : String) (issues : Bool) (before : Contents) (reached later : Step)
    (store : Store) : Prop :=
  Holding space owner issues before reached store ∨ Holding space owner issues before later store

section

variable {space owner : String} {issues : Bool} {before : Contents} {question : Call}
variable {reached later : Step} {store after : Store} {answer : question.Answer}

theorem Adds.between (adds : Adds space owner issues before question reached later)
    (between : Between space owner issues before reached later store)
    (answered : Store.answer question store = (answer, after)) :
    Between space owner issues before reached later after := by
  rcases between with missing | present
  · cases answer with
    | ok created => exact .inr (adds.grows missing answered)
    | error failure => exact .inl (missing.of_error answered)
  · cases answer with
    | ok created => exact absurd answered (adds.once present)
    | error failure => exact .inr (present.of_error answered)

/-- Whether a creation succeeds or is answered that its part exists: the part
is there. -/
theorem Adds.done (adds : Adds space owner issues before question reached later)
    (between : Between space owner issues before reached later store)
    (answered : Store.answer question store = (answer, after))
    (existing : ∀ failure, answer = .error failure → failure.isAlreadyExists = true) :
    Holding space owner issues before later after := by
  rcases between with missing | present
  · cases answer with
    | ok created => exact adds.grows missing answered
    | error failure =>
        have free := adds.free missing answered
        rw [existing failure rfl] at free
        cases free
  · cases answer with
    | ok created => exact absurd answered (adds.once present)
    | error failure => exact present.of_error answered

theorem Between.has (between : Between space owner issues before reached later store)
    (begun : 1 ≤ reached.parts) (forward : reached.parts ≤ later.parts) :
    store.contents.Has space := by
  rcases between with missing | present
  · exact missing.has begun
  · exact present.has (Nat.le_trans begun forward)

theorem Between.issuing (between : Between space owner issues before reached later store) :
    store.issuesTokens = issues := by
  rcases between with missing | present
  · exact missing.issuing
  · exact present.issuing

variable (vacant : before.Vacant space)

include vacant

theorem adds_namespace : Adds space owner issues before
    (.createNamespace (Workspace.namespaceFor space owner)) .started .namespaceCreated where
  grows missing answered := missing.add_namespace answered
  free missing answered := missing.namespace_free vacant answered
  once := by
    intro store created after present answered
    obtain ⟨name, stamps, named, free, _⟩ := Store.createNamespace_ok answered
    cases named
    exact free (present.has (by decide))

theorem adds_account : Adds space owner issues before
    (.createServiceAccount space (accountFor space)) .namespaceCreated .serviceAccountCreated where
  grows missing answered := missing.add_account answered
  free missing answered := missing.account_free vacant answered
  once := by
    intro store created after present answered
    obtain ⟨objects, same, parts⟩ := present.parts
    obtain ⟨held, only, place⟩ := parts.accounts.present (by decide)
    have listed : held ∈ store.contents.accounts := by simp [same, only]
    have elsewhere := Store.createServiceAccount_free answered rfl held listed
    exact absurd place (by simp [IsAccountOf, elsewhere])

theorem adds_secret : Adds space owner issues before
    (.createSecret space (tokenSecretFor space)) .serviceAccountCreated .tokenSecretCreated where
  grows missing answered := missing.add_secret answered
  free missing answered := missing.secret_free vacant answered
  once := by
    intro store created after present answered
    obtain ⟨objects, same, parts⟩ := present.parts
    obtain ⟨held, only, fits⟩ := parts.secrets.present (by decide)
    have listed : held ∈ store.contents.secrets := by simp [same, only]
    have elsewhere := Store.createSecret_free answered rfl held listed
    exact absurd fits.place (by simp [elsewhere])

theorem adds_binding : Adds space owner issues before
    (.createRoleBinding space (bindingFor space)) .tokenSecretCreated .roleBindingCreated where
  grows missing answered := missing.add_binding answered
  free missing answered := missing.binding_free vacant answered
  once := by
    intro store created after present answered
    obtain ⟨objects, same, parts⟩ := present.parts
    obtain ⟨held, only, fits⟩ := parts.bindings.present (by decide)
    have listed : held ∈ store.contents.bindings := by simp [same, only]
    have elsewhere := Store.createRoleBinding_free answered rfl held listed
    exact absurd fits.place (by simp [elsewhere])

/-- Where the namespace can be told to exist, it is the workspace's. -/
theorem Between.created
    (between : Between space owner issues before .started .namespaceCreated store)
    (has : store.contents.Has space) :
    Holding space owner issues before .namespaceCreated store := by
  rcases between with missing | present
  · obtain ⟨objects, same, parts⟩ := missing.parts
    obtain ⟨held, member, named⟩ := has
    rw [same, Contents.namespaces_append, parts.namespaces.absent (by decide),
      List.append_nil] at member
    rw [vacant.namespaces held member] at named
    cases named
  · exact present

end

end Tenancy.Provisioning
