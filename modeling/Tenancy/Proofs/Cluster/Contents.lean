import Tenancy.Cluster.Store

/-!
# The contents of a store

The objects that a store keeps, apart from its counters, and what every kind
of call does to them.  A call that fails changes no object.  One that succeeds
was answered by a store with the same objects, in which no failure was pending.
-/

namespace Tenancy.Cluster

/-- Objects of every kind, in the order of their creation. -/
@[ext]
structure Contents where
  namespaces : List Namespace := []
  pods : List Pod := []
  secrets : List Secret := []
  accounts : List ServiceAccount := []
  bindings : List RoleBinding := []

namespace Contents

instance : Append Contents where
  append first second :=
    ⟨first.namespaces ++ second.namespaces, first.pods ++ second.pods,
      first.secrets ++ second.secrets, first.accounts ++ second.accounts,
      first.bindings ++ second.bindings⟩

section

variable (first second third : Contents)

@[simp]
theorem namespaces_append : (first ++ second).namespaces = first.namespaces ++ second.namespaces :=
  rfl

@[simp]
theorem pods_append : (first ++ second).pods = first.pods ++ second.pods := rfl

@[simp]
theorem secrets_append : (first ++ second).secrets = first.secrets ++ second.secrets := rfl

@[simp]
theorem accounts_append : (first ++ second).accounts = first.accounts ++ second.accounts := rfl

@[simp]
theorem bindings_append : (first ++ second).bindings = first.bindings ++ second.bindings := rfl

theorem append_assoc : first ++ second ++ third = first ++ (second ++ third) := by
  apply Contents.ext <;> simp

theorem append_empty : first ++ ({} : Contents) = first := by
  apply Contents.ext <;> simp

end

/-- The objects without a namespace and without what lives in it. -/
def without (contents : Contents) (space : String) : Contents where
  namespaces := contents.namespaces.filter fun held => !held.metadata.isNamed space
  pods := contents.pods.filter fun held => !held.metadata.isIn space
  secrets := contents.secrets.filter fun held => !held.metadata.isIn space
  accounts := contents.accounts.filter fun held => !held.metadata.isIn space
  bindings := contents.bindings.filter fun held => !held.metadata.isIn space

theorem without_append (first second : Contents) (space : String) :
    (first ++ second).without space = first.without space ++ second.without space := by
  apply Contents.ext <;> simp [without]

/-- The objects without some namespaces and without what lives in them. -/
def withoutAll (contents : Contents) (spaces : List String) : Contents where
  namespaces := contents.namespaces.filter fun held => !spaces.any held.metadata.isNamed
  pods := contents.pods.filter fun held => !spaces.any held.metadata.isIn
  secrets := contents.secrets.filter fun held => !spaces.any held.metadata.isIn
  accounts := contents.accounts.filter fun held => !spaces.any held.metadata.isIn
  bindings := contents.bindings.filter fun held => !spaces.any held.metadata.isIn

section

variable {contents : Contents} {first second : List String}

theorem withoutAll_nil : contents.withoutAll [] = contents := by
  apply Contents.ext <;> simp [withoutAll]

theorem withoutAll_cons (name : String) (rest : List String) :
    contents.withoutAll (name :: rest) = (contents.without name).withoutAll rest := by
  apply Contents.ext <;> simp [withoutAll, without, List.filter_filter, Bool.and_comm]

theorem withoutAll_withoutAll :
    (contents.withoutAll first).withoutAll second = contents.withoutAll (first ++ second) := by
  apply Contents.ext <;> simp [withoutAll, List.filter_filter, Bool.and_comm]

/-- The order of the namespaces does not matter. -/
theorem withoutAll_congr (same : ∀ name, name ∈ first ↔ name ∈ second) :
    contents.withoutAll first = contents.withoutAll second := by
  have equal (judge : String → Bool) : first.any judge = second.any judge := by
    rw [Bool.eq_iff_iff, List.any_eq_true, List.any_eq_true]
    simp only [same]
  apply Contents.ext <;> simp only [withoutAll, equal]

end

def Has (contents : Contents) (space : String) : Prop :=
  ∃ held ∈ contents.namespaces, held.metadata.isNamed space = true

/-- No namespace has this name, and nothing lives in one of this name. -/
structure Vacant (contents : Contents) (space : String) : Prop where
  namespaces : ∀ held ∈ contents.namespaces, held.metadata.isNamed space = false
  pods : ∀ held ∈ contents.pods, held.metadata.isIn space = false
  secrets : ∀ held ∈ contents.secrets, held.metadata.isIn space = false
  accounts : ∀ held ∈ contents.accounts, held.metadata.isIn space = false
  bindings : ∀ held ∈ contents.bindings, held.metadata.isIn space = false

/-- Only namespaces of this name, and what lives in them. -/
structure Within (contents : Contents) (space : String) : Prop where
  namespaces : ∀ held ∈ contents.namespaces, held.metadata.isNamed space = true
  pods : ∀ held ∈ contents.pods, held.metadata.isIn space = true
  secrets : ∀ held ∈ contents.secrets, held.metadata.isIn space = true
  accounts : ∀ held ∈ contents.accounts, held.metadata.isIn space = true
  bindings : ∀ held ∈ contents.bindings, held.metadata.isIn space = true

theorem vacant_empty (space : String) : ({} : Contents).Vacant space := by
  constructor <;> intro held member <;> cases member

theorem within_empty (space : String) : ({} : Contents).Within space := by
  constructor <;> intro held member <;> cases member

theorem Within.append {first second : Contents} {space : String} (left : first.Within space)
    (right : second.Within space) : (first ++ second).Within space := by
  constructor <;> intro held member <;> rcases List.mem_append.1 member with old | new
  · exact left.namespaces held old
  · exact right.namespaces held new
  · exact left.pods held old
  · exact right.pods held new
  · exact left.secrets held old
  · exact right.secrets held new
  · exact left.accounts held old
  · exact right.accounts held new
  · exact left.bindings held old
  · exact right.bindings held new

theorem Vacant.not_has {contents : Contents} {space : String} (vacant : contents.Vacant space) :
    ¬contents.Has space := by
  intro has
  obtain ⟨held, member, named⟩ := has
  rw [vacant.namespaces held member] at named
  cases named

theorem Vacant.without {contents : Contents} {space : String} (vacant : contents.Vacant space) :
    contents.without space = contents := by
  apply Contents.ext <;> apply List.filter_eq_self.2 <;> intro held member
  · simp [vacant.namespaces held member]
  · simp [vacant.pods held member]
  · simp [vacant.secrets held member]
  · simp [vacant.accounts held member]
  · simp [vacant.bindings held member]

theorem Within.without {contents : Contents} {space : String} (within : contents.Within space) :
    contents.without space = {} := by
  apply Contents.ext <;> apply List.filter_eq_nil_iff.2 <;> intro held member
  · simp [within.namespaces held member]
  · simp [within.pods held member]
  · simp [within.secrets held member]
  · simp [within.accounts held member]
  · simp [within.bindings held member]

/-- Deleting a namespace takes back what was added for it. -/
theorem without_of_vacant_append {before added : Contents} {space : String}
    (vacant : before.Vacant space) (within : added.Within space) :
    (before ++ added).without space = before := by
  rw [without_append, vacant.without, within.without, append_empty]

end Contents

namespace Store

def contents (store : Store) : Contents :=
  ⟨store.namespaces, store.pods, store.secrets, store.accounts, store.bindings⟩

theorem hasNamespace_iff {store : Store} {space : String} :
    store.hasNamespace space = true ↔ store.contents.Has space := by
  simp [hasNamespace, Contents.Has, contents]

theorem isIn_of_isAt {space name : String} {metadata : Metadata}
    (place : isAt space name metadata = true) : metadata.isIn space = true := by
  simp only [isAt, Bool.and_eq_true] at place
  exact place.1

theorem isAt_stampedIn {stamps : Store} {space name : String} {metadata : Metadata}
    (named : metadata.name = some name) :
    isAt space name (stamps.stampedIn space metadata) = true := by
  simp [isAt, stampedIn, stamped, Metadata.isIn, Metadata.isNamed, named]

/-- A store that answers like another one once no failure is pending. -/
structure Ready (store ready : Store) : Prop where
  contents : ready.contents = store.contents
  issuesTokens : ready.issuesTokens = store.issuesTokens

/-- A pending failure answers a call, or a store with the same objects does. -/
theorem answer_cases (call : Call) (store : Store) :
    ∃ ready, store.Ready ready ∧
      (answer call store = (.error (.injected call.operation), ready) ∨
        answer call store = ready.respond call) := by
  let counted := store.counted call.operation
  cases pending : counted.pendingFailures call.operation with
  | zero =>
      refine ⟨counted, ⟨rfl, rfl⟩, .inr ?_⟩
      simp only [answer, counted, pending]
  | succ remaining =>
      refine ⟨counted.failNext call.operation remaining, ⟨rfl, rfl⟩, .inl ?_⟩
      simp only [answer, counted, pending]

theorem answer_unhindered {call : Call} {store : Store}
    (free : store.pendingFailures call.operation = 0) :
    answer call store = (store.counted call.operation).respond call := by
  have pending : (store.counted call.operation).pendingFailures call.operation = 0 := free
  simp only [answer, pending]

theorem answer_injected {call : Call} {store : Store}
    (hindered : store.pendingFailures call.operation ≠ 0) :
    (answer call store).1 = .error (.injected call.operation) ∧
      (answer call store).2.contents = store.contents := by
  obtain ⟨remaining, pending⟩ := Nat.exists_eq_succ_of_ne_zero hindered
  have counted : (store.counted call.operation).pendingFailures call.operation =
      remaining + 1 := pending
  rw [answer, counted]
  exact ⟨rfl, rfl⟩

/-- What keeps an object from being created in a namespace. -/
theorem vacancy_cases (store : Store) (resource space : String) (metadata : Metadata)
    (held : List Metadata) :
    (∃ failure, store.vacancy resource space metadata held = .error failure ∧
        failure.isAlreadyExists = false) ∨
      (∃ name, metadata.name = some name ∧ store.contents.Has space ∧
        (∃ other ∈ held, isAt space name other = true) ∧
        store.vacancy resource space metadata held = .error (.present resource name)) ∨
      ∃ name, metadata.name = some name ∧ store.contents.Has space ∧
        (∀ other ∈ held, isAt space name other = false) ∧
        store.vacancy resource space metadata held = .ok () := by
  unfold vacancy
  cases metadata.name with
  | none => exact .inl ⟨_, rfl, rfl⟩
  | some name =>
      by_cases present : store.hasNamespace space = true
      · have has : store.contents.Has space := hasNamespace_iff.1 present
        by_cases taken : held.any (isAt space name) = true
        · refine .inr (.inl ⟨name, rfl, has, List.any_eq_true.1 taken, ?_⟩)
          simp only [present, taken, if_true]
        · refine .inr (.inr ⟨name, rfl, has, ?_, ?_⟩)
          · simpa using taken
          · simp only [present, taken, if_true]
            rfl
      · refine .inl ⟨.absent "namespaces" space, ?_, rfl⟩
        simp only [present]
        rfl

end Store

end Tenancy.Cluster
