import Tenancy.Proofs.Cluster.Footprint

/-!
# Pods by name

Pods are taken away by name.  Where no two pods of a namespace have the same
name, this takes away just the pods that were meant.
-/

namespace Tenancy.Cluster

def podNames (pods : List Pod) : List String := pods.filterMap fun pod => pod.metadata.name

/-- No two pods of a namespace have the same name. -/
def DistinctPods (contents : Contents) (space : String) : Prop :=
  (podNames (contents.pods.filter fun held => held.metadata.isIn space)).Nodup

namespace Contents

/-- The objects without some pods. -/
def withoutPods (contents : Contents) (gone : List Pod) : Contents :=
  { contents with pods := contents.pods.filter fun held => !gone.contains held }

/-- The objects without the pods of some names in a namespace. -/
def withoutPodsNamed (contents : Contents) (space : String) (names : List String) : Contents :=
  { contents with
    pods := contents.pods.filter fun held =>
      !names.any fun name => Store.isAt space name held.metadata }

section

variable {contents : Contents} {space : String}

theorem withoutPods_nil : contents.withoutPods [] = contents := by
  apply Contents.ext <;> simp [withoutPods]

theorem withoutPods_withoutPods {first second : List Pod} :
    (contents.withoutPods first).withoutPods second = contents.withoutPods (first ++ second) := by
  apply Contents.ext <;> simp [withoutPods, List.filter_filter, Bool.and_comm]

/-- The order of the pods does not matter. -/
theorem withoutPods_congr {first second : List Pod} (same : ∀ pod, pod ∈ first ↔ pod ∈ second) :
    contents.withoutPods first = contents.withoutPods second := by
  have equal (pod : Pod) : first.contains pod = second.contains pod := by
    rw [Bool.eq_iff_iff, List.contains_iff_mem, List.contains_iff_mem, same]
  apply Contents.ext <;> simp only [withoutPods, equal]

theorem withoutPodsNamed_nil : contents.withoutPodsNamed space [] = contents := by
  apply Contents.ext <;> simp [withoutPodsNamed]

theorem withoutPodsNamed_concat (names : List String) (name : String) :
    (contents.withoutPodsNamed space names).withoutPod space name =
      contents.withoutPodsNamed space (names ++ [name]) := by
  apply Contents.ext <;> simp [withoutPodsNamed, withoutPod, List.filter_filter, Bool.and_comm]

end

end Contents

section

variable {contents : Contents} {space name : String}

theorem DistinctPods.withoutPods (distinct : DistinctPods contents space) (gone : List Pod) :
    DistinctPods (contents.withoutPods gone) space := by
  refine distinct.sublist ((List.Sublist.filter _ ?_).filterMap _)
  exact List.filter_sublist

theorem DistinctPods.eq_of_name (distinct : DistinctPods contents space) {first second : Pod}
    (firstMember : first ∈ contents.pods) (secondMember : second ∈ contents.pods)
    (firstPlace : Store.isAt space name first.metadata = true)
    (secondPlace : Store.isAt space name second.metadata = true) : first = second := by
  simp only [Store.isAt, Metadata.isNamed, Bool.and_eq_true, beq_iff_eq] at firstPlace secondPlace
  exact eq_of_nodup_filterMap distinct (List.mem_filter.2 ⟨firstMember, firstPlace.1⟩)
    (List.mem_filter.2 ⟨secondMember, secondPlace.1⟩) firstPlace.2 secondPlace.2

/-- Taking away by name takes away the pods of these names, if they are told apart
by name. -/
theorem DistinctPods.withoutPodsNamed_eq (distinct : DistinctPods contents space)
    {gone : List Pod} (held : ∀ pod ∈ gone, pod ∈ contents.pods ∧
      pod.metadata.isIn space = true ∧ ∃ name, pod.metadata.name = some name) :
    contents.withoutPodsNamed space (podNames gone) = contents.withoutPods gone := by
  have chosen : ∀ pod ∈ contents.pods,
      (podNames gone).any (fun name => Store.isAt space name pod.metadata) = gone.contains pod := by
    intro pod member
    rw [Bool.eq_iff_iff, List.any_eq_true, List.contains_iff_mem]
    constructor
    · intro named
      obtain ⟨name, listed, place⟩ := named
      obtain ⟨other, otherGone, otherNamed⟩ := List.mem_filterMap.1 listed
      obtain ⟨otherMember, inside, _⟩ := held other otherGone
      have otherPlace : Store.isAt space name other.metadata = true := by
        simp [Store.isAt, Metadata.isNamed, inside, otherNamed]
      exact distinct.eq_of_name member otherMember place otherPlace ▸ otherGone
    · intro podGone
      obtain ⟨_, inside, name, named⟩ := held pod podGone
      refine ⟨name, List.mem_filterMap.2 ⟨pod, podGone, named⟩, ?_⟩
      simp [Store.isAt, Metadata.isNamed, inside, named]
  unfold Contents.withoutPodsNamed Contents.withoutPods
  congr 1
  apply List.filter_congr
  intro pod member
  rw [chosen pod member]

end

end Tenancy.Cluster
