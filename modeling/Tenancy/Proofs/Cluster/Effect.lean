import Tenancy.Proofs.Cluster.Answers

/-!
# Effects of calls

All that a call can do to a store.  It leaves everything as it is, it makes one
object, under the next version and in a place that was free, or it takes
objects away.
-/

namespace Tenancy.Cluster

def Metadata.HasVersion (metadata : Metadata) (number : Nat) : Prop :=
  metadata.version = some (Text.decimal number)

/-- The objects without the pods of that name in a namespace. -/
def Contents.withoutPod (contents : Contents) (space name : String) : Contents :=
  { contents with pods := contents.pods.filter fun held => !Store.isAt space name held.metadata }

/-- An object that was made as it was asked for, in a namespace in which no
other object of its kind has its name. -/
structure Placed (before : Contents) (stamps : Nat) (space : String)
    (asked held : Metadata) (others : List Metadata) : Prop where
  has : before.Has space
  free : ∃ name, Store.isAt space name held = true ∧
    ∀ other ∈ others, Store.isAt space name other = false
  annotations : held.annotations = asked.annotations
  numbered : held.HasVersion (UInt64.ofNat stamps + 1).toNat

/-- What a call makes of some objects and of the number of stamps given out. -/
inductive Effect (before : Contents) (stamps : Nat) : Call → Contents → Nat → Prop where
  | unchanged {call : Call} : Effect before stamps call before stamps
  | madeNamespace {object : Namespace} {name : String} {store : Store}
      (named : object.metadata.name = some name) (free : ¬before.Has name)
      (current : store.stamps = stamps) :
      Effect before stamps (.createNamespace object)
        (before ++ { namespaces := [⟨store.stamped object.metadata, some "Active"⟩] })
        (stamps + 1)
  | madeSecret {space : String} {secret held : Secret}
      (placed : Placed before stamps space secret.metadata held.metadata
        (before.secrets.map (·.metadata))) :
      Effect before stamps (.createSecret space secret) (before ++ { secrets := [held] })
        (stamps + 1)
  | madeAccount {space : String} {account held : ServiceAccount}
      (placed : Placed before stamps space account.metadata held.metadata
        (before.accounts.map (·.metadata))) :
      Effect before stamps (.createServiceAccount space account)
        (before ++ { accounts := [held] }) (stamps + 1)
  | madeBinding {space : String} {binding held : RoleBinding}
      (placed : Placed before stamps space binding.metadata held.metadata
        (before.bindings.map (·.metadata))) :
      Effect before stamps (.createRoleBinding space binding)
        (before ++ { bindings := [held] }) (stamps + 1)
  | deletedNamespace {name : String} :
      Effect before stamps (.deleteNamespace name) (before.without name) stamps
  | deletedPod {space name : String} :
      Effect before stamps (.deletePod space name)
        (before.withoutPod space name) stamps

namespace Store

variable {store : Store} {space resource : String}

theorem placed_of_vacancy {asked : Metadata} {others : List Metadata}
    (vacant : store.vacancy resource space asked others = .ok ()) :
    Placed store.contents store.stamps space asked (store.stampedIn space asked) others := by
  rcases store.vacancy_cases resource space asked others with
    ⟨failure, refused, _⟩ | ⟨name, _, _, _, refused⟩ | ⟨name, named, has, free, _⟩
  · rw [refused] at vacant
    cases vacant
  · rw [refused] at vacant
    cases vacant
  · exact ⟨has, ⟨name, isAt_stampedIn named, free⟩, rfl, rfl⟩

theorem metadata_createdSecret (secret : Secret) :
    (store.createdSecret space secret).metadata = store.stampedIn space secret.metadata := by
  unfold createdSecret
  split <;> rfl

section

variable (store) (stamps : Nat)

theorem contents_grown_namespaces (held : Namespace) :
    { store with stamps, namespaces := store.namespaces ++ [held] }.contents =
      store.contents ++ { namespaces := [held] } := by
  apply Contents.ext <;> simp [contents]

theorem contents_grown_secrets (held : Secret) :
    { store with stamps, secrets := store.secrets ++ [held] }.contents =
      store.contents ++ { secrets := [held] } := by
  apply Contents.ext <;> simp [contents]

theorem contents_grown_accounts (held : ServiceAccount) :
    { store with stamps, accounts := store.accounts ++ [held] }.contents =
      store.contents ++ { accounts := [held] } := by
  apply Contents.ext <;> simp [contents]

theorem contents_grown_bindings (held : RoleBinding) :
    { store with stamps, bindings := store.bindings ++ [held] }.contents =
      store.contents ++ { bindings := [held] } := by
  apply Contents.ext <;> simp [contents]

end

theorem effect_of_respond (call : Call) (store : Store) :
    Effect store.contents store.stamps call (store.respond call).2.contents
      (store.respond call).2.stamps := by
  cases call with
  | listNamespaces => exact .unchanged
  | listPods space selector => exact .unchanged
  | listSecrets space => exact .unchanged
  | getNamespace name =>
      simp only [respond]
      split <;> exact .unchanged
  | getSecret space name =>
      simp only [respond]
      split <;> exact .unchanged
  | deletePod space name =>
      simp only [respond]
      split
      · exact .deletedPod
      · exact .unchanged
  | deleteNamespace name =>
      simp only [respond]
      split
      · exact .deletedNamespace
      · exact .unchanged
  | createNamespace object =>
      simp only [respond]
      split
      next => exact .unchanged
      next name named =>
        split
        next => exact .unchanged
        next missing =>
          have free : ¬store.contents.Has name := fun has => missing (hasNamespace_iff.2 has)
          rw [contents_grown_namespaces]
          exact .madeNamespace named free rfl
  | createSecret space secret =>
      simp only [respond]
      split
      next => exact .unchanged
      next vacant =>
        have placed := placed_of_vacancy vacant
        rw [← metadata_createdSecret] at placed
        rw [contents_grown_secrets]
        exact .madeSecret placed
  | createServiceAccount space account =>
      simp only [respond]
      split
      next => exact .unchanged
      next vacant =>
        rw [contents_grown_accounts]
        exact .madeAccount (placed_of_vacancy vacant)
  | createRoleBinding space binding =>
      simp only [respond]
      split
      next => exact .unchanged
      next vacant =>
        rw [contents_grown_bindings]
        exact .madeBinding (placed_of_vacancy vacant)

theorem answer_hindered {call : Call} (hindered : store.pendingFailures call.operation ≠ 0) :
    answer call store = (.error (.injected call.operation),
      (store.counted call.operation).failNext call.operation
        (store.pendingFailures call.operation - 1)) := by
  obtain ⟨remaining, pending⟩ := Nat.exists_eq_succ_of_ne_zero hindered
  have counted : (store.counted call.operation).pendingFailures call.operation =
      remaining + 1 := pending
  simp only [answer, counted, pending]
  rfl

/-- A pending failure has no effect, and without one the store responds. -/
theorem effect_of_answer (call : Call) (store : Store) :
    Effect store.contents store.stamps call (answer call store).2.contents
      (answer call store).2.stamps := by
  by_cases free : store.pendingFailures call.operation = 0
  · rw [answer_unhindered free]
    exact effect_of_respond call (store.counted call.operation)
  · rw [answer_hindered free]
    exact .unchanged

theorem effect_of_answered {call : Call} {reply : call.Answer} {after : Store}
    (answered : answer call store = (reply, after)) :
    Effect store.contents store.stamps call after.contents after.stamps := by
  have effect := effect_of_answer call store
  rwa [answered] at effect

/-- The deletion of a pod that is there, unless a failure is pending. -/
theorem deletePod_answer {name : String}
    (has : ∃ held ∈ store.contents.pods, isAt space name held.metadata = true) :
    (answer (.deletePod space name) store).1 =
      if store.pendingFailures .deletePod = 0 then .ok () else .error (.injected .deletePod) := by
  have present : (store.counted .deletePod).pods.any fun held => isAt space name held.metadata :=
    List.any_eq_true.2 has
  by_cases free : store.pendingFailures .deletePod = 0
  · rw [if_pos free, answer_unhindered free]
    simp only [respond, present, if_true]
  · rw [if_neg free]
    exact (answer_injected free).1

theorem deletePod_ok {name : String} {after : Store}
    (answered : answer (.deletePod space name) store = (.ok (), after)) :
    after.contents = store.contents.withoutPod space name := by
  obtain ⟨ready, same, responded⟩ := answer_ok answered
  simp only [respond] at responded
  split at responded <;> cases responded
  rw [← same.contents]
  rfl

/-- A call that fails changes no object and gives out no version. -/
theorem unchanged_of_error {call : Call} {failure : Failure} {after : Store}
    (answered : answer call store = (.error failure, after)) :
    after.contents = store.contents ∧ after.stamps = store.stamps := by
  refine ⟨contents_of_error answered, ?_⟩
  by_cases free : store.pendingFailures call.operation = 0
  · rw [answer_unhindered free] at answered
    rw [respond_of_error answered]
    rfl
  · rw [answer_hindered free] at answered
    cases answered
    rfl

end Store

end Tenancy.Cluster
