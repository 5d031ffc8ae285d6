import Tenancy.Proofs.Upkeep.PodSweep
import Tenancy.Proofs.Upkeep.Sweep

/-!
# Young objects

Whatever number of hours a reaper is given, what it deletes is more than an hour
old.  With a number of hours for which there is no limit it deletes nothing.
-/

namespace Tenancy.Upkeep

open Cluster Workspace

/-- The reapers that there are, with what each is told. -/
inductive Reaper where
  | namespaces (hours : Int)
  | pods (rule : PodRule)

namespace Reaper

def hours : Reaper → Int
  | .namespaces hours => hours
  | .pods rule => rule.maximalHours

/-- One pass. -/
def pass (now : Instant) : Reaper → Calls (Except Failure (List String))
  | .namespaces hours => reapNamespaces hours now
  | .pods rule => reapPods rule now

/-- The listing that a pass begins with. -/
def listing : Reaper → Call
  | .namespaces _ => .listNamespaces
  | .pods rule => .listPods rule.space (some rule.labelKey)

end Reaper

/-- Created more than an hour before. -/
def IsHourOld (now : Instant) (metadata : Metadata) : Prop :=
  ∃ created, metadata.created = some created ∧ hoursLong 1 < now.since created

/-- A call that changes no object, or the deletion of an object that was listed and
is more than an hour old. -/
inductive SparesYoung (now : Instant) (history : List Exchange) : Call → Prop where
  | reading {call : Call} (reads : call.reads = true) : SparesYoung now history call
  | namespace {listing : List Namespace} {held : Namespace} {name : String}
      (listed : (⟨.listNamespaces, .ok listing⟩ : Exchange) ∈ history) (member : held ∈ listing)
      (named : held.metadata.name = some name) (old : IsHourOld now held.metadata) :
      SparesYoung now history (.deleteNamespace name)
  | pod {space name : String} {selector : Option String} {listing : List Pod} {held : Pod}
      (listed : (⟨.listPods space selector, .ok listing⟩ : Exchange) ∈ history)
      (member : held ∈ listing) (named : held.metadata.name = some name)
      (old : IsHourOld now held.metadata) :
      SparesYoung now history (.deletePod space name)

/-- A pass that asks for a listing and deletes nothing. -/
def onlyLists (listing : Call) : Calls (Except Failure (List String)) :=
  (call listing).bind fun answer => .done (answer.map fun _ => [])

section

variable {hours : Int} {now : Instant} {metadata : Metadata} {rule : PodRule}

theorem isHourOld_of_isOlder (old : isOlder metadata (.forHours hours) now = true) :
    IsHourOld now metadata := by
  obtain ⟨⟨positive, _⟩, created, known, exceeded⟩ := isOlder_forHours_iff.1 old
  refine ⟨created, known, ?_⟩
  unfold hoursLong at exceeded ⊢
  omega

theorem PodRule.mem_oldPods {listing : List Pod} {name : String}
    (member : name ∈ rule.oldPods now listing) :
    ∃ held ∈ listing, held.metadata.name = some name ∧
      isOlder held.metadata (.forHours rule.maximalHours) now = true := by
  obtain ⟨held, chosen, named⟩ := List.mem_filterMap.1 member
  obtain ⟨listed, judged⟩ := List.mem_filter.1 chosen
  rw [Bool.and_eq_true] at judged
  exact ⟨held, listed, named, judged.2⟩

theorem onlyLists_of_not_isLimit (reaper : Reaper) (unlimited : ¬IsLimit reaper.hours) :
    reaper.pass now = onlyLists reaper.listing := by
  cases reaper with
  | namespaces hours =>
      have idle (listing : List Namespace) : oldWorkspaces (.forHours hours) now listing = [] :=
        oldWorkspaces_forHours.trans (overdue_eq_nil unlimited)
      apply congrArg (Program.bind · (call .listNamespaces))
      funext answer
      cases answer with
      | error cause => rfl
      | ok listing => simp only [idle, deleteAll]; rfl
  | pods rule =>
      have idle (listing : List Pod) : rule.oldPods now listing = [] := by
        rw [List.eq_nil_iff_forall_not_mem]
        intro name member
        obtain ⟨held, _, _, old⟩ := PodRule.mem_oldPods member
        exact unlimited (isOlder_forHours_iff.1 old).1
      apply congrArg (Program.bind · (call (.listPods rule.space (some rule.labelKey))))
      funext answer
      cases answer with
      | error cause => rfl
      | ok listing => simp only [idle, deleteAll]; rfl

/-- Every course of a pass spares what is young. -/
theorem ensures_sparesYoung (reaper : Reaper) :
    (reaper.pass now).Ensures (recording (SparesYoung now)) False (fun _ _ => True) [] := by
  cases reaper with
  | namespaces hours =>
      refine ⟨.reading rfl, ?_⟩
      intro answer history noted
      cases answer with
      | error cause => trivial
      | ok listing =>
          have listed : (⟨.listNamespaces, .ok listing⟩ : Exchange) ∈ history :=
            noted ▸ List.mem_cons_self
          simp only [Program.bind]
          rw [Program.ensures_bind]
          refine (ensures_deleteAll ((⟨.listNamespaces, .ok listing⟩ : Exchange) ∈ ·) ?_
            listed).mono fun _ _ _ => trivial
          intro name chosen history listed
          obtain ⟨held, member, named, _, old⟩ := mem_oldWorkspaces chosen
          refine ⟨.namespace listed member named (isHourOld_of_isOlder old), ?_⟩
          intro answer after noted
          exact noted ▸ List.mem_append_left _ listed
  | pods rule =>
      refine ⟨.reading rfl, ?_⟩
      intro answer history noted
      cases answer with
      | error cause => trivial
      | ok listing =>
          have listed :
              (⟨.listPods rule.space (some rule.labelKey), .ok listing⟩ : Exchange) ∈ history :=
            noted ▸ List.mem_cons_self
          simp only [Program.bind]
          rw [Program.ensures_bind]
          refine (ensures_deleteAll
            ((⟨.listPods rule.space (some rule.labelKey), .ok listing⟩ : Exchange) ∈ ·) ?_
            listed).mono fun _ _ _ => trivial
          intro name chosen history listed
          obtain ⟨held, member, named, old⟩ := PodRule.mem_oldPods chosen
          refine ⟨.pod listed member named (isHourOld_of_isOlder old), ?_⟩
          intro answer after noted
          exact noted ▸ List.mem_append_left _ listed

variable {store : Store}

theorem young_namespace_stays {held : Namespace} (distinct : DistinctNames store.contents)
    (member : held ∈ store.contents.namespaces) (young : ¬IsHourOld now held.metadata) :
    held ∈ (sweep hours now store).2.plane.contents.namespaces := by
  obtain ⟨result, finish, ran, passed⟩ : ∃ result finish,
      sweep hours now store = (.ok result, finish) ∧ Exact hours now store result finish :=
    sweep_exact distinct
  rw [ran]
  by_cases listed : store.pendingFailures .listNamespaces = 0
  · rw [(passed.listed listed).2.2]
    refine List.mem_filter.2 ⟨member, ?_⟩
    rw [Bool.not_eq_true', List.any_eq_false]
    intro name due named
    obtain ⟨other, chosen, otherNamed⟩ := List.mem_filterMap.1 (List.mem_of_mem_drop due)
    obtain ⟨otherMember, isDue⟩ := List.mem_filter.1 chosen
    have heldNamed : held.metadata.name = some name := beq_iff_eq.1 named
    have same : other = held := distinct.eq_of_name otherMember member otherNamed heldNamed
    exact young (isHourOld_of_isOlder (same ▸ (isOverdue_iff.1 isDue).2))
  · rw [(passed.unlisted listed).2.2]
    exact member

theorem young_pod_stays {held : Pod} (distinct : DistinctPods store.contents rule.space)
    (member : held ∈ store.contents.pods) (young : ¬IsHourOld now held.metadata) :
    held ∈ (podSweep rule now store).2.plane.contents.pods := by
  obtain ⟨result, finish, ran, passed⟩ : ∃ result finish,
      podSweep rule now store = (.ok result, finish) ∧ PodsExact rule now store result finish :=
    podSweep_exact distinct
  rw [ran]
  by_cases listed : store.pendingFailures .listPods = 0
  · rw [(passed.listed listed).2.2]
    refine List.mem_filter.2 ⟨member, ?_⟩
    rw [Bool.not_eq_true', Bool.eq_false_iff, Ne, List.contains_iff_mem]
    intro due
    have isDue := (PodRule.mem_due.1 (List.mem_of_mem_drop due)).2
    exact young (isHourOld_of_isOlder (PodRule.isDue_iff.1 isDue).2.2.2)
  · rw [(passed.unlisted listed).2.2]
    exact member

end

end Tenancy.Upkeep
