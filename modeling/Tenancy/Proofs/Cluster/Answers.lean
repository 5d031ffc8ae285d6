import Tenancy.Proofs.Cluster.Contents

/-!
# What answers tell about a store

For every kind of call, what a success and the failures that matter say about
the objects before and after it.
-/

namespace Tenancy.Cluster

/-- The calls that change no object. -/
def Call.reads : Call → Bool
  | .listNamespaces | .getNamespace _ | .listPods _ _ | .listSecrets _ | .getSecret _ _ => true
  | _ => false

namespace Store

variable {store after : Store} {space name : String}

section

variable {call : Call}

theorem respond_of_error {failure : Failure}
    (responded : store.respond call = (.error failure, after)) :
    after = store := by
  cases call with
  | listNamespaces => simp [respond] at responded
  | listPods space selector => simp [respond] at responded
  | listSecrets space => simp [respond] at responded
  | getNamespace name =>
      simp only [respond] at responded
      split at responded <;> cases responded
      rfl
  | getSecret space name =>
      simp only [respond] at responded
      split at responded <;> cases responded
      rfl
  | deletePod space name =>
      simp only [respond] at responded
      split at responded <;> cases responded
      rfl
  | deleteNamespace name =>
      simp only [respond] at responded
      split at responded <;> cases responded
      rfl
  | createNamespace object =>
      simp only [respond] at responded
      split at responded
      · cases responded
        rfl
      · split at responded <;> cases responded
        rfl
  | createSecret space secret =>
      simp only [respond] at responded
      split at responded <;> cases responded
      rfl
  | createServiceAccount space account =>
      simp only [respond] at responded
      split at responded <;> cases responded
      rfl
  | createRoleBinding space binding =>
      simp only [respond] at responded
      split at responded <;> cases responded
      rfl

theorem answer_ok {result : call.operation.Result}
    (answered : answer call store = (.ok result, after)) :
    ∃ ready, store.Ready ready ∧ ready.respond call = (.ok result, after) := by
  obtain ⟨ready, same, injected | responded⟩ := answer_cases call store
  · rw [injected] at answered
    cases answered
  · exact ⟨ready, same, responded.symm.trans answered⟩

/-- A failure that no failure was pending for comes from a store with the same
objects. -/
theorem answer_error {failure : Failure} (answered : answer call store = (.error failure, after))
    (earned : failure ≠ .injected call.operation) :
    ∃ ready, store.Ready ready ∧ ready.respond call = (.error failure, after) := by
  obtain ⟨ready, same, injected | responded⟩ := answer_cases call store
  · rw [injected] at answered
    cases answered
    exact absurd rfl earned
  · exact ⟨ready, same, responded.symm.trans answered⟩

/-- A call that fails changes no object. -/
theorem contents_of_error {failure : Failure}
    (answered : answer call store = (.error failure, after)) :
    after.contents = store.contents := by
  obtain ⟨ready, same, injected | responded⟩ := answer_cases call store
  · rw [injected] at answered
    cases answered
    exact same.contents
  · rw [respond_of_error (responded.symm.trans answered)]
    exact same.contents

theorem contents_of_reading (reads : call.reads = true) :
    (answer call store).2.contents = store.contents := by
  obtain ⟨ready, same, injected | responded⟩ := answer_cases call store
  · rw [injected]
    exact same.contents
  · rw [responded, ← same.contents]
    cases call with
    | listNamespaces => rfl
    | listPods space selector => rfl
    | listSecrets space => rfl
    | getNamespace name =>
        simp only [respond]
        split <;> rfl
    | getSecret space name =>
        simp only [respond]
        split <;> rfl
    | _ => cases reads

theorem issuesTokens_answer : (answer call store).2.issuesTokens = store.issuesTokens := by
  obtain ⟨ready, same, injected | responded⟩ := answer_cases call store
  · rw [injected]
    exact same.issuesTokens
  · rw [responded, ← same.issuesTokens]
    cases call <;> simp only [respond] <;> split <;> first | rfl | (split <;> rfl)

end

theorem ne_injected_of_isAlreadyExists {failure : Failure} {operation : Operation}
    (taken : failure.isAlreadyExists = true) : failure ≠ .injected operation := by
  intro same
  subst same
  cases taken

theorem ne_injected_of_isNotFound {failure : Failure} {operation : Operation}
    (missing : failure.isNotFound = true) : failure ≠ .injected operation := by
  intro same
  subst same
  cases missing

theorem listNamespaces_ok {listing : List Namespace}
    (answered : answer .listNamespaces store = (.ok listing, after)) :
    listing = store.contents.namespaces ∧ after.contents = store.contents := by
  obtain ⟨ready, same, responded⟩ := answer_ok answered
  cases responded
  exact ⟨congrArg Contents.namespaces same.contents, same.contents⟩

theorem getNamespace_first {held : Namespace}
    (answered : answer (.getNamespace name) store = (.ok held, after)) :
    store.contents.namespaces.find? (fun other => other.metadata.isNamed name) = some held ∧
      after.contents = store.contents := by
  obtain ⟨ready, same, responded⟩ := answer_ok answered
  simp only [respond] at responded
  split at responded
  next found =>
    cases responded
    rw [← same.contents]
    exact ⟨found, rfl⟩
  next => cases responded

theorem getNamespace_ok {held : Namespace}
    (answered : answer (.getNamespace name) store = (.ok held, after)) :
    held ∈ store.contents.namespaces ∧ held.metadata.name = some name ∧
      after.contents = store.contents := by
  obtain ⟨found, unchanged⟩ := getNamespace_first answered
  have named := List.find?_some found
  exact ⟨List.mem_of_find?_eq_some found, by simpa [Metadata.isNamed] using named, unchanged⟩

theorem createNamespace_ok {object created : Namespace}
    (answered : answer (.createNamespace object) store = (.ok created, after)) :
    ∃ name stamps, object.metadata.name = some name ∧ ¬store.contents.Has name ∧
      created = ⟨stamped stamps object.metadata, some "Active"⟩ ∧
      after.contents = store.contents ++ ({ namespaces := [created] } : Contents) := by
  obtain ⟨ready, same, responded⟩ := answer_ok answered
  simp only [respond] at responded
  split at responded
  next => cases responded
  next name named =>
    split at responded
    next => cases responded
    next free =>
      cases responded
      refine ⟨name, ready, named, ?_, rfl, ?_⟩
      · rw [← same.contents, ← hasNamespace_iff]
        exact free
      · rw [← same.contents]
        apply Contents.ext <;> simp [contents]

theorem createNamespace_taken {object : Namespace} {failure : Failure}
    (answered : answer (.createNamespace object) store = (.error failure, after))
    (taken : failure.isAlreadyExists = true) :
    ∃ name, object.metadata.name = some name ∧ store.contents.Has name := by
  obtain ⟨ready, same, responded⟩ := answer_error answered (ne_injected_of_isAlreadyExists taken)
  simp only [respond] at responded
  split at responded
  next =>
    cases responded
    cases taken
  next name named =>
    split at responded
    next held =>
      refine ⟨name, named, ?_⟩
      rw [← same.contents, ← hasNamespace_iff]
      exact held
    next => cases responded

theorem deleteNamespace_ok (answered : answer (.deleteNamespace name) store = (.ok (), after)) :
    store.contents.Has name ∧ after.contents = store.contents.without name := by
  obtain ⟨ready, same, responded⟩ := answer_ok answered
  simp only [respond] at responded
  split at responded
  next held =>
    cases responded
    rw [← same.contents, ← hasNamespace_iff]
    exact ⟨held, rfl⟩
  next => cases responded

theorem deleteNamespace_missing {failure : Failure}
    (answered : answer (.deleteNamespace name) store = (.error failure, after))
    (missing : failure.isNotFound = true) : ¬store.contents.Has name := by
  obtain ⟨ready, same, responded⟩ := answer_error answered (ne_injected_of_isNotFound missing)
  simp only [respond] at responded
  split at responded
  next => cases responded
  next absent =>
    rw [← same.contents, ← hasNamespace_iff]
    exact absent

theorem listSecrets_ok {listing : List Secret}
    (answered : answer (.listSecrets space) store = (.ok listing, after)) :
    listing = store.contents.secrets.filter (fun held => held.metadata.isIn space) ∧
      after.contents = store.contents := by
  obtain ⟨ready, same, responded⟩ := answer_ok answered
  cases responded
  rw [← same.contents]
  exact ⟨rfl, rfl⟩

theorem getSecret_ok {held : Secret}
    (answered : answer (.getSecret space name) store = (.ok held, after)) :
    store.contents.secrets.find? (fun other => isAt space name other.metadata) = some held ∧
      after.contents = store.contents := by
  obtain ⟨ready, same, responded⟩ := answer_ok answered
  simp only [respond] at responded
  split at responded
  next found =>
    cases responded
    rw [← same.contents]
    exact ⟨found, rfl⟩
  next => cases responded

theorem has_of_vacancy {resource : String} {metadata : Metadata} {held : List Metadata}
    (free : store.vacancy resource space metadata held = .ok ()) : store.contents.Has space := by
  rcases store.vacancy_cases resource space metadata held with
    ⟨failure, refused, _⟩ | ⟨name, _, _, _, refused⟩ | ⟨name, _, has, _, _⟩
  · rw [refused] at free
    cases free
  · rw [refused] at free
    cases free
  · exact has

theorem free_of_vacancy {Object : Type} {metadataOf : Object → Metadata} {objects : List Object}
    {resource : String} {metadata : Metadata} (named : metadata.name = some name)
    (free : store.vacancy resource space metadata (objects.map metadataOf) = .ok ()) :
    ∀ object ∈ objects, isAt space name (metadataOf object) = false := by
  intro object member
  rcases store.vacancy_cases resource space metadata (objects.map metadataOf) with
    ⟨failure, refused, _⟩ | ⟨other, _, _, _, refused⟩ | ⟨other, same, _, missing, _⟩
  · rw [refused] at free
    cases free
  · rw [refused] at free
    cases free
  · rw [named] at same
    cases same
    exact missing _ (List.mem_map_of_mem member)

theorem taken_of_vacancy {Object : Type} {metadataOf : Object → Metadata} {objects : List Object}
    {resource : String} {metadata : Metadata} {failure : Failure}
    (refused : store.vacancy resource space metadata (objects.map metadataOf) = .error failure)
    (taken : failure.isAlreadyExists = true) :
    ∃ name, metadata.name = some name ∧
      ∃ object ∈ objects, isAt space name (metadataOf object) = true := by
  rcases store.vacancy_cases resource space metadata (objects.map metadataOf) with
    ⟨other, same, free⟩ | ⟨name, named, _, ⟨other, listed, fits⟩, _⟩ | ⟨name, _, _, _, admitted⟩
  · rw [refused] at same
    cases same
    rw [free] at taken
    cases taken
  · obtain ⟨object, member, rfl⟩ := List.mem_map.1 listed
    exact ⟨name, named, object, member, fits⟩
  · rw [refused] at admitted
    cases admitted

theorem createServiceAccount_ok {account created : ServiceAccount}
    (answered : answer (.createServiceAccount space account) store = (.ok created, after)) :
    ∃ stamps, store.contents.Has space ∧ created = ⟨stampedIn stamps space account.metadata⟩ ∧
      after.contents = store.contents ++ ({ accounts := [created] } : Contents) := by
  obtain ⟨ready, same, responded⟩ := answer_ok answered
  simp only [respond] at responded
  split at responded
  next => cases responded
  next free =>
    cases responded
    rw [← same.contents]
    refine ⟨ready, has_of_vacancy free, rfl, ?_⟩
    apply Contents.ext <;> simp [contents]

theorem createServiceAccount_free {account created : ServiceAccount}
    (answered : answer (.createServiceAccount space account) store = (.ok created, after))
    (named : account.metadata.name = some name) :
    ∀ held ∈ store.contents.accounts, isAt space name held.metadata = false := by
  obtain ⟨ready, same, responded⟩ := answer_ok answered
  simp only [respond] at responded
  split at responded
  next => cases responded
  next free =>
    rw [← same.contents]
    exact free_of_vacancy named free

theorem createServiceAccount_taken {account : ServiceAccount} {failure : Failure}
    (answered : answer (.createServiceAccount space account) store = (.error failure, after))
    (taken : failure.isAlreadyExists = true) :
    ∃ name, account.metadata.name = some name ∧
      ∃ held ∈ store.contents.accounts, isAt space name held.metadata = true := by
  obtain ⟨ready, same, responded⟩ := answer_error answered (ne_injected_of_isAlreadyExists taken)
  simp only [respond] at responded
  split at responded
  next refused =>
    cases responded
    rw [← same.contents]
    exact taken_of_vacancy refused taken
  next => cases responded

theorem createSecret_ok {secret created : Secret}
    (answered : answer (.createSecret space secret) store = (.ok created, after)) :
    ∃ stamps : Store, store.contents.Has space ∧ stamps.issuesTokens = store.issuesTokens ∧
      created = stamps.createdSecret space secret ∧
      after.contents = store.contents ++ ({ secrets := [created] } : Contents) := by
  obtain ⟨ready, same, responded⟩ := answer_ok answered
  simp only [respond] at responded
  split at responded
  next => cases responded
  next free =>
    cases responded
    rw [← same.contents]
    refine ⟨ready, has_of_vacancy free, same.issuesTokens, rfl, ?_⟩
    apply Contents.ext <;> simp [contents]

theorem createSecret_free {secret created : Secret}
    (answered : answer (.createSecret space secret) store = (.ok created, after))
    (named : secret.metadata.name = some name) :
    ∀ held ∈ store.contents.secrets, isAt space name held.metadata = false := by
  obtain ⟨ready, same, responded⟩ := answer_ok answered
  simp only [respond] at responded
  split at responded
  next => cases responded
  next free =>
    rw [← same.contents]
    exact free_of_vacancy named free

theorem createSecret_taken {secret : Secret} {failure : Failure}
    (answered : answer (.createSecret space secret) store = (.error failure, after))
    (taken : failure.isAlreadyExists = true) :
    ∃ name, secret.metadata.name = some name ∧
      ∃ held ∈ store.contents.secrets, isAt space name held.metadata = true := by
  obtain ⟨ready, same, responded⟩ := answer_error answered (ne_injected_of_isAlreadyExists taken)
  simp only [respond] at responded
  split at responded
  next refused =>
    cases responded
    rw [← same.contents]
    exact taken_of_vacancy refused taken
  next => cases responded

theorem createRoleBinding_ok {binding created : RoleBinding}
    (answered : answer (.createRoleBinding space binding) store = (.ok created, after)) :
    ∃ stamps, store.contents.Has space ∧
      created = { binding with metadata := stampedIn stamps space binding.metadata } ∧
      after.contents = store.contents ++ ({ bindings := [created] } : Contents) := by
  obtain ⟨ready, same, responded⟩ := answer_ok answered
  simp only [respond] at responded
  split at responded
  next => cases responded
  next free =>
    cases responded
    rw [← same.contents]
    refine ⟨ready, has_of_vacancy free, rfl, ?_⟩
    apply Contents.ext <;> simp [contents]

theorem createRoleBinding_free {binding created : RoleBinding}
    (answered : answer (.createRoleBinding space binding) store = (.ok created, after))
    (named : binding.metadata.name = some name) :
    ∀ held ∈ store.contents.bindings, isAt space name held.metadata = false := by
  obtain ⟨ready, same, responded⟩ := answer_ok answered
  simp only [respond] at responded
  split at responded
  next => cases responded
  next free =>
    rw [← same.contents]
    exact free_of_vacancy named free

theorem createRoleBinding_taken {binding : RoleBinding} {failure : Failure}
    (answered : answer (.createRoleBinding space binding) store = (.error failure, after))
    (taken : failure.isAlreadyExists = true) :
    ∃ name, binding.metadata.name = some name ∧
      ∃ held ∈ store.contents.bindings, isAt space name held.metadata = true := by
  obtain ⟨ready, same, responded⟩ := answer_error answered (ne_injected_of_isAlreadyExists taken)
  simp only [respond] at responded
  split at responded
  next refused =>
    cases responded
    rw [← same.contents]
    exact taken_of_vacancy refused taken
  next => cases responded

theorem getNamespace_found (free : store.pendingFailures .getNamespace = 0)
    (has : store.contents.Has name) :
    ∃ held after, answer (.getNamespace name) store = (.ok held, after) := by
  obtain ⟨held, member, named⟩ := has
  rw [answer_unhindered free]
  simp only [respond]
  split
  next other _ => exact ⟨other, _, rfl⟩
  next missing =>
    have unnamed := List.find?_eq_none.1 missing held member
    exact absurd named unnamed

theorem listNamespaces_answer (store : Store) : (answer .listNamespaces store).1 =
    if store.pendingFailures .listNamespaces = 0 then .ok store.contents.namespaces
    else .error (.injected .listNamespaces) := by
  by_cases free : store.pendingFailures .listNamespaces = 0
  · rw [if_pos free, answer_unhindered free]
    rfl
  · rw [if_neg free]
    exact (answer_injected free).1

theorem listSecrets_answer (store : Store) (space : String) :
    (answer (.listSecrets space) store).1 =
      if store.pendingFailures .listSecrets = 0 then
        .ok (store.contents.secrets.filter fun held => held.metadata.isIn space)
      else .error (.injected .listSecrets) := by
  by_cases free : store.pendingFailures .listSecrets = 0
  · rw [if_pos free, answer_unhindered free]
    rfl
  · rw [if_neg free]
    exact (answer_injected free).1

theorem listPods_answer (store : Store) (space : String) (selector : Option String) :
    (answer (.listPods space selector) store).1 =
      if store.pendingFailures .listPods = 0 then
        .ok (store.contents.pods.filter fun held =>
          held.metadata.isIn space &&
            selector.all fun key => (held.metadata.label? key).isSome)
      else .error (.injected .listPods) := by
  by_cases free : store.pendingFailures .listPods = 0
  · rw [if_pos free, answer_unhindered free]
    rfl
  · rw [if_neg free]
    exact (answer_injected free).1

theorem deleteNamespace_answer (has : store.contents.Has name) :
    (answer (.deleteNamespace name) store).1 =
      if store.pendingFailures .deleteNamespace = 0 then .ok ()
      else .error (.injected .deleteNamespace) := by
  have present : (store.counted .deleteNamespace).hasNamespace name = true := hasNamespace_iff.2 has
  by_cases free : store.pendingFailures .deleteNamespace = 0
  · rw [if_pos free, answer_unhindered free]
    simp only [respond, present, if_true]
  · rw [if_neg free]
    exact (answer_injected free).1

end Store

end Tenancy.Cluster
