import Tenancy.Cluster.Script
import Tenancy.Proofs.Cluster.Effect

/-!
# Footprints

How far a call, or a whole request, can reach: it adds objects under one name
only, or takes a namespace away.  Whatever is under other names stays as it is.
-/

namespace Tenancy.Cluster

/-- No two namespaces have the same name. -/
def DistinctNames (contents : Contents) : Prop :=
  (contents.namespaces.filterMap (·.metadata.name)).Nodup

theorem DistinctNames.without {contents : Contents} (distinct : DistinctNames contents)
    (space : String) : DistinctNames (contents.without space) :=
  distinct.sublist (List.filter_sublist.filterMap _)

theorem DistinctNames.withoutAll {contents : Contents} (distinct : DistinctNames contents)
    (spaces : List String) : DistinctNames (contents.withoutAll spaces) :=
  distinct.sublist (List.filter_sublist.filterMap _)

/-- Where keys are distinct, a key belongs to one object only. -/
theorem eq_of_nodup_filterMap {Object Key : Type} {keyOf : Object → Option Key}
    {objects : List Object} {first second : Object} {key : Key}
    (distinct : (objects.filterMap keyOf).Nodup) (firstMember : first ∈ objects)
    (secondMember : second ∈ objects) (firstKeyed : keyOf first = some key)
    (secondKeyed : keyOf second = some key) : first = second := by
  induction objects with
  | nil => cases firstMember
  | cons head rest induction =>
      have apart : ∀ other ∈ rest, keyOf head = some key → keyOf other ≠ some key := by
        intro other later headKeyed otherKeyed
        simp only [List.filterMap_cons, headKeyed] at distinct
        exact (List.nodup_cons.1 distinct).1 (List.mem_filterMap.2 ⟨other, later, otherKeyed⟩)
      have restDistinct : (rest.filterMap keyOf).Nodup :=
        distinct.sublist ((List.sublist_cons_self head rest).filterMap _)
      rcases List.mem_cons.1 firstMember with rfl | firstLater
      · rcases List.mem_cons.1 secondMember with rfl | secondLater
        · rfl
        · exact absurd secondKeyed (apart second secondLater firstKeyed)
      · rcases List.mem_cons.1 secondMember with rfl | secondLater
        · exact absurd firstKeyed (apart first firstLater secondKeyed)
        · exact induction restDistinct firstLater secondLater

theorem DistinctNames.eq_of_name {contents : Contents} {first second : Namespace} {name : String}
    (distinct : DistinctNames contents) (firstMember : first ∈ contents.namespaces)
    (secondMember : second ∈ contents.namespaces) (firstNamed : first.metadata.name = some name)
    (secondNamed : second.metadata.name = some name) : first = second :=
  eq_of_nodup_filterMap distinct firstMember secondMember firstNamed secondNamed

theorem DistinctNames.append {contents added : Contents} {space : String}
    (distinct : DistinctNames contents) (free : ¬contents.Has space)
    (within : added.Within space) (few : added.namespaces.length ≤ 1) :
    DistinctNames (contents ++ added) := by
  unfold DistinctNames
  rw [Contents.namespaces_append, List.filterMap_append]
  apply List.nodup_append.2
  refine ⟨distinct, ?_, ?_⟩
  · match listed : added.namespaces with
    | [] => simp
    | [only] =>
        rw [List.filterMap_cons]
        cases only.metadata.name <;> simp
    | _ :: _ :: _ => simp [listed] at few
  · intro name old other new same
    subst same
    obtain ⟨held, member, known⟩ := List.mem_filterMap.1 old
    obtain ⟨fresh, listed, named⟩ := List.mem_filterMap.1 new
    have inside := within.namespaces fresh listed
    simp only [Metadata.isNamed, named] at inside
    refine free ⟨held, member, ?_⟩
    simp only [Metadata.isNamed, known, inside]

/-- What may become of some objects when only objects under the drawn name are
added. -/
inductive Footprint (contents : Contents) (drawn : Option String) : Contents → Prop where
  | same : Footprint contents drawn contents
  | grown {name : String} {added : Contents} (named : drawn = some name)
      (within : added.Within name) (few : added.namespaces.length ≤ 1) :
      Footprint contents drawn (contents ++ added)
  | shrunk (name : String) : Footprint contents drawn (contents.without name)

theorem isIn_of_isIn {metadata : Metadata} {space other : String} (apart : other ≠ space)
    (inside : metadata.isIn space = true) : metadata.isIn other = false := by
  have known : metadata.space = some space := by simpa [Metadata.isIn] using inside
  simp [Metadata.isIn, known, Ne.symm apart]

theorem isNamed_of_isNamed {metadata : Metadata} {name other : String} (apart : other ≠ name)
    (named : metadata.isNamed name = true) : metadata.isNamed other = false := by
  have known : metadata.name = some name := by simpa [Metadata.isNamed] using named
  simp [Metadata.isNamed, known, Ne.symm apart]

section

variable {contents after : Contents} {drawn : Option String} {other : String}

theorem Footprint.distinct (footprint : Footprint contents drawn after)
    (distinct : DistinctNames contents)
    (vacant : ∀ name, drawn = some name → contents.Vacant name) : DistinctNames after := by
  cases footprint with
  | same => exact distinct
  | grown named within few => exact distinct.append (vacant _ named).not_has within few
  | shrunk name => exact distinct.without name

theorem Footprint.vacant (footprint : Footprint contents drawn after)
    (vacant : contents.Vacant other) (apart : drawn ≠ some other) : after.Vacant other := by
  cases footprint with
  | same => exact vacant
  | @grown name added named within few =>
      have different : other ≠ name := fun equal => apart (equal ▸ named)
      constructor <;> intro held member <;> rcases List.mem_append.1 member with old | new
      · exact vacant.namespaces held old
      · exact isNamed_of_isNamed different (within.namespaces held new)
      · exact vacant.pods held old
      · exact isIn_of_isIn different (within.pods held new)
      · exact vacant.secrets held old
      · exact isIn_of_isIn different (within.secrets held new)
      · exact vacant.accounts held old
      · exact isIn_of_isIn different (within.accounts held new)
      · exact vacant.bindings held old
      · exact isIn_of_isIn different (within.bindings held new)
  | shrunk name =>
      constructor <;> intro held member <;> have old := (List.mem_filter.1 member).1
      · exact vacant.namespaces held old
      · exact vacant.pods held old
      · exact vacant.secrets held old
      · exact vacant.accounts held old
      · exact vacant.bindings held old

/-- What is under a name stays: the namespace does not come into being, and
while it is there nothing is lost from it. -/
structure Undisturbed (name : String) (before after : Contents) : Prop where
  has : after.Has name → before.Has name
  secrets : after.Has name → ∀ held ∈ before.secrets, held.metadata.isIn name = true →
    held ∈ after.secrets
  accounts : after.Has name → ∀ held ∈ before.accounts, held.metadata.isIn name = true →
    held ∈ after.accounts
  bindings : after.Has name → ∀ held ∈ before.bindings, held.metadata.isIn name = true →
    held ∈ after.bindings

theorem Undisturbed.refl {name : String} {contents : Contents} :
    Undisturbed name contents contents :=
  ⟨id, fun _ _ member _ => member, fun _ _ member _ => member, fun _ _ member _ => member⟩

theorem undisturbed_append {name : String} {before added : Contents}
    (unnamed : ∀ held ∈ added.namespaces, held.metadata.isNamed name = false) :
    Undisturbed name before (before ++ added) := by
  refine ⟨?_, ?_, ?_, ?_⟩
  · intro has
    obtain ⟨held, member, named⟩ := has
    rcases List.mem_append.1 member with old | new
    · exact ⟨held, old, named⟩
    · rw [unnamed held new] at named
      cases named
  · intro _ held member _
    exact List.mem_append_left _ member
  · intro _ held member _
    exact List.mem_append_left _ member
  · intro _ held member _
    exact List.mem_append_left _ member

theorem not_has_without {contents : Contents} {name : String} :
    ¬(contents.without name).Has name := by
  intro has
  obtain ⟨held, member, named⟩ := has
  have kept := (List.mem_filter.1 member).2
  rw [named] at kept
  cases kept

theorem Footprint.undisturbed (footprint : Footprint contents drawn after)
    (apart : drawn ≠ some other) : Undisturbed other contents after := by
  cases footprint with
  | same => exact .refl
  | @grown name added named within few =>
      have different : other ≠ name := fun equal => apart (equal ▸ named)
      apply undisturbed_append
      intro held member
      exact isNamed_of_isNamed different (within.namespaces held member)
  | shrunk name =>
      by_cases same : other = name
      · subst same
        constructor <;> intro has <;> exact absurd has not_has_without
      · have kept : ∀ metadata : Metadata, metadata.isIn other = true →
            (!metadata.isIn name) = true := by
          intro metadata inside
          rw [isIn_of_isIn (Ne.symm same) inside]
          rfl
        refine ⟨?_, ?_, ?_, ?_⟩
        · intro has
          obtain ⟨held, member, named⟩ := has
          exact ⟨held, (List.mem_filter.1 member).1, named⟩
        · intro _ held member inside
          exact List.mem_filter.2 ⟨member, kept held.metadata inside⟩
        · intro _ held member inside
          exact List.mem_filter.2 ⟨member, kept held.metadata inside⟩
        · intro _ held member inside
          exact List.mem_filter.2 ⟨member, kept held.metadata inside⟩

end

/-- The name under which a call may add something. -/
def Call.target? : Call → Option String
  | .createNamespace object => object.metadata.name
  | .createSecret space _ => some space
  | .createServiceAccount space _ => some space
  | .createRoleBinding space _ => some space
  | _ => none

section

variable {space : String}

theorem within_namespace {held : Namespace} (named : held.metadata.isNamed space = true) :
    ({ namespaces := [held] } : Contents).Within space := by
  constructor <;> intro other member
  · rw [List.mem_singleton.1 member]
    exact named
  all_goals cases member

theorem within_secret {held : Secret} (inside : held.metadata.isIn space = true) :
    ({ secrets := [held] } : Contents).Within space := by
  constructor <;> intro other member
  · cases member
  · cases member
  · rw [List.mem_singleton.1 member]
    exact inside
  all_goals cases member

theorem within_account {held : ServiceAccount} (inside : held.metadata.isIn space = true) :
    ({ accounts := [held] } : Contents).Within space := by
  constructor <;> intro other member
  · cases member
  · cases member
  · cases member
  · rw [List.mem_singleton.1 member]
    exact inside
  · cases member

theorem within_binding {held : RoleBinding} (inside : held.metadata.isIn space = true) :
    ({ bindings := [held] } : Contents).Within space := by
  constructor <;> intro other member
  · cases member
  · cases member
  · cases member
  · cases member
  · rw [List.mem_singleton.1 member]
    exact inside

end

theorem Placed.isIn {contents : Contents} {version : Nat} {asked held : Metadata}
    {others : List Metadata} {space : String}
    (placed : Placed contents version space asked held others) : held.isIn space = true := by
  obtain ⟨name, atPlace, _⟩ := placed.free
  exact Store.isIn_of_isAt atPlace

section

variable {contents after : Contents} {version number : Nat} {call : Call}

/-- A call adds something under its target only, or takes a namespace away. -/
theorem footprint_of_effect (effect : Effect contents version call after number)
    (spares : call.operation ≠ .deletePod) : Footprint contents call.target? after := by
  cases effect with
  | unchanged => exact .same
  | @madeNamespace object name stamps named free current =>
      have isNamed : (stamps.stamped object.metadata).isNamed name = true := by
        simp [Metadata.isNamed, Store.stamped, named]
      exact .grown named (within_namespace isNamed) (Nat.le_refl 1)
  | madeSecret placed => exact .grown rfl (within_secret placed.isIn) (Nat.zero_le 1)
  | madeAccount placed => exact .grown rfl (within_account placed.isIn) (Nat.zero_le 1)
  | madeBinding placed => exact .grown rfl (within_binding placed.isIn) (Nat.zero_le 1)
  | deletedNamespace => exact .shrunk _
  | deletedPod => exact absurd rfl spares

/-- The namespaces after a call were there before, or are the one it made. -/
theorem mem_namespaces_of_effect {held : Namespace}
    (effect : Effect contents version call after number) (member : held ∈ after.namespaces) :
    held ∈ contents.namespaces ∨ ∃ object stamps, call = .createNamespace object ∧
      held = ⟨Store.stamped stamps object.metadata, some "Active"⟩ := by
  cases effect with
  | unchanged => exact .inl member
  | @madeNamespace object name stamps named free current =>
      rcases List.mem_append.1 member with old | new
      · exact .inl old
      · exact .inr ⟨object, stamps, rfl, List.mem_singleton.1 new⟩
  | madeSecret placed => exact .inl (by simpa using member)
  | madeAccount placed => exact .inl (by simpa using member)
  | madeBinding placed => exact .inl (by simpa using member)
  | deletedNamespace => exact .inl (List.mem_filter.1 member).1
  | deletedPod => exact .inl member

end

end Tenancy.Cluster
