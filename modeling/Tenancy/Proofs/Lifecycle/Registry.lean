import Tenancy.Lifecycle
import Tenancy.Proofs.Cluster.Footprint

/-!
# The registry of workspaces

What owners know of a store: the names of the workspaces with their owners, in
the order of their creation.
-/

namespace Tenancy.Lifecycle

open Cluster Access Workspace

/-- Names of workspaces, each with the owner it is annotated with. -/
abbrev Registry : Type := List (String × Option String)

/-- The entry of a namespace, if it is a workspace. -/
def entryOf? (held : Namespace) : Option (String × Option String) :=
  match held.metadata.name with
  | none => none
  | some name => if isName name then some (name, owner? held) else none

def registryOf (namespaces : List Namespace) : Registry := namespaces.filterMap entryOf?

def registry (contents : Contents) : Registry := registryOf contents.namespaces

def grantedTo? : Decision → Option String
  | .granted owner => some owner
  | .denied => none

/-- The owner that a credential stands for, by the secrets of the service. -/
def ownerOf? (service : Service) (credential : Option String) (contents : Contents) :
    Option String :=
  match credential with
  | none => none
  | some token =>
      if token = "" then none
      else
        grantedTo? (Decision.ofCredentials token
          ((contents.secrets.filter fun held => held.metadata.isIn service.credentialSpace).map
            .ofSecret))

theorem entryOf?_eq_some {held : Namespace} {name : String} {owner : Option String} :
    entryOf? held = some (name, owner) ↔
      held.metadata.name = some name ∧ isName name = true ∧ owner? held = owner := by
  unfold entryOf?
  cases held.metadata.name with
  | none => simp
  | some other =>
      by_cases shaped : isName other = true
      · simp only [shaped, if_true, Option.some.injEq, Prod.mk.injEq]
        constructor
        · intro both
          obtain ⟨rfl, same⟩ := both
          exact ⟨rfl, shaped, same⟩
        · intro all
          obtain ⟨rfl, _, same⟩ := all
          exact ⟨rfl, same⟩
      · simp only [shaped, Bool.false_eq_true, if_false, Option.some.injEq]
        constructor
        · intro impossible
          cases impossible
        · intro all
          obtain ⟨rfl, named, _⟩ := all
          exact absurd named shaped

theorem isName_nameOfDraw (draw : Nat) : isName (nameOfDraw draw) = true := by
  apply List.isPrefixOf_iff_prefix.2
  rw [nameOfDraw, String.toList_append]
  exact List.prefix_append _ _

theorem mem_registry_iff {contents : Contents} {name : String} {owner : Option String} :
    (name, owner) ∈ registry contents ↔ ∃ held ∈ contents.namespaces,
      held.metadata.name = some name ∧ isName name = true ∧ owner? held = owner := by
  simp only [registry, registryOf, List.mem_filterMap, entryOf?_eq_some]

theorem mem_registry {contents : Contents} {held : Namespace} {name : String}
    {owner : Option String} (member : held ∈ contents.namespaces)
    (named : held.metadata.name = some name) (shaped : isName name = true)
    (owned : owner? held = owner) : (name, owner) ∈ registry contents :=
  mem_registry_iff.2 ⟨held, member, named, shaped, owned⟩

theorem registry_append (first second : Contents) :
    registry (first ++ second) = registry first ++ registry second :=
  List.filterMap_append

theorem registryOf_filter_named (namespaces : List Namespace) (space : String) :
    registryOf (namespaces.filter fun held => !held.metadata.isNamed space) =
      (registryOf namespaces).filter fun entry => !(entry.1 == space) := by
  induction namespaces with
  | nil => rfl
  | cons held rest induction =>
      unfold registryOf at induction ⊢
      cases found : entryOf? held with
      | none =>
          by_cases named : held.metadata.isNamed space = true
          · simpa [List.filter_cons, List.filterMap_cons, named, found] using induction
          · simpa [List.filter_cons, List.filterMap_cons, named, found] using induction
      | some entry =>
          obtain ⟨name, owner⟩ := entry
          obtain ⟨known, _, _⟩ := entryOf?_eq_some.1 found
          have agrees : held.metadata.isNamed space = (name == space) := by
            simp [Metadata.isNamed, known]
          cases same : name == space <;>
            simp [agrees, found, same, induction]

theorem registry_without (contents : Contents) (space : String) :
    registry (contents.without space) =
      (registry contents).filter fun entry => !(entry.1 == space) :=
  registryOf_filter_named contents.namespaces space

theorem map_fst_registryOf (namespaces : List Namespace) :
    ((registryOf namespaces).map Prod.fst).Sublist
      (namespaces.filterMap (·.metadata.name)) := by
  induction namespaces with
  | nil => exact .slnil
  | cons held rest induction =>
      unfold registryOf at induction ⊢
      cases found : entryOf? held with
      | none =>
          rw [List.filterMap_cons_none found]
          cases known : held.metadata.name with
          | none => simpa [List.filterMap_cons, known] using induction
          | some name =>
              simp only [List.filterMap_cons, known]
              exact induction.cons name
      | some entry =>
          obtain ⟨name, owner⟩ := entry
          obtain ⟨known, _, _⟩ := entryOf?_eq_some.1 found
          simp only [List.filterMap_cons, found, known, List.map_cons]
          exact induction.cons_cons name

theorem nodup_registry {contents : Contents} (distinct : DistinctNames contents) :
    ((registry contents).map Prod.fst).Nodup :=
  distinct.sublist (map_fst_registryOf contents.namespaces)

theorem filter_eq_erase {entries : Registry} {name : String} {owner : Option String}
    (distinct : (entries.map Prod.fst).Nodup) (member : (name, owner) ∈ entries) :
    (entries.filter fun entry => !(entry.1 == name)) = entries.erase (name, owner) := by
  induction entries with
  | nil => cases member
  | cons head rest induction =>
      obtain ⟨apart, restDistinct⟩ := List.nodup_cons.1 distinct
      by_cases same : head = (name, owner)
      · subst same
        have kept : (rest.filter fun entry => !(entry.1 == name)) = rest := by
          apply List.filter_eq_self.2
          intro entry later
          have listed : entry.1 ∈ rest.map Prod.fst := List.mem_map_of_mem later
          have different : entry.1 ≠ name := fun equal => apart (equal ▸ listed)
          simpa using different
        simp [kept]
      · have later : (name, owner) ∈ rest := by
          rcases List.mem_cons.1 member with here | later
          · exact absurd here.symm same
          · exact later
        have listed : name ∈ rest.map Prod.fst := List.mem_map.2 ⟨_, later, rfl⟩
        have different : head.1 ≠ name := fun equal => apart (equal ▸ listed)
        rw [List.erase_cons_tail (by simpa using same), ← induction restDistinct later]
        simp [different]

theorem registry_without_eq_erase {contents : Contents} {name : String} {owner : Option String}
    (distinct : DistinctNames contents) (member : (name, owner) ∈ registry contents) :
    registry (contents.without name) = (registry contents).erase (name, owner) := by
  rw [registry_without]
  exact filter_eq_erase (nodup_registry distinct) member

/-- The names that a listing shows to an owner are the ones in the registry. -/
theorem namesOwnedBy_eq (owner : String) (namespaces : List Namespace) :
    namesOwnedBy owner namespaces =
      ((registryOf namespaces).filter fun entry => entry.2 == some owner).map Prod.fst := by
  induction namespaces with
  | nil => rfl
  | cons held rest induction =>
      unfold namesOwnedBy registryOf at induction ⊢
      cases known : held.metadata.name with
      | none =>
          have missing : entryOf? held = none := by simp [entryOf?, known]
          simpa [List.filter_cons, List.filterMap_cons, isWorkspace, known, missing] using induction
      | some name =>
          by_cases shaped : isName name = true
          · have found : entryOf? held = some (name, owner? held) :=
              entryOf?_eq_some.2 ⟨known, shaped, rfl⟩
            have judged : isWorkspace held = true := by simp [isWorkspace, known, shaped]
            have compared : isOwnedBy owner held = (owner? held == some owner) := rfl
            cases owned : owner? held == some owner <;>
              simp [judged, compared, owned, known, found, induction]
          · have missing : entryOf? held = none := by simp [entryOf?, known, shaped]
            simpa [List.filter_cons, List.filterMap_cons, isWorkspace, known, shaped, missing]
              using induction

end Tenancy.Lifecycle
