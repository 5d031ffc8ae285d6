import Tenancy.Proofs.Cluster.Pods
import Tenancy.Proofs.Upkeep.Age
import Tenancy.Proofs.Upkeep.Reaping

/-!
# A sweep of pods

One pass of the pod reaper over a store, exactly: the calls that it makes, the
names that it reports and the pods that it takes away.  Pods are deleted by
name and chosen by label and age, so it matters that no two of them in the
namespace have the same name.
-/

namespace Tenancy.Upkeep

open Cluster

/-- A pod that the rule has to go: it has a name and lives in the rule's namespace,
the value of its label starts as the rule says, and it was created more than
that many hours ago. -/
def PodRule.isDue (rule : PodRule) (now : Instant) (pod : Pod) : Bool :=
  pod.metadata.isIn rule.space && pod.metadata.name.isSome &&
    (pod.metadata.label? rule.labelKey).any (fun value =>
      rule.labelStart.toList.isPrefixOf value.toList) &&
    IsLimit rule.maximalHours &&
    pod.metadata.created.any fun created => hoursLong rule.maximalHours < now.since created

/-- The pods that have to go, in the order of the listing. -/
def PodRule.due (rule : PodRule) (now : Instant) (pods : List Pod) : List Pod :=
  pods.filter (rule.isDue now)

section

variable {rule : PodRule} {now : Instant} {pod : Pod} {pods : List Pod} {contents : Contents}

theorem PodRule.isDue_iff : rule.isDue now pod = true ↔
    pod.metadata.isIn rule.space = true ∧ (∃ name, pod.metadata.name = some name) ∧
      rule.marks pod = true ∧ isOlder pod.metadata (.forHours rule.maximalHours) now = true := by
  simp only [isDue, marks, Bool.and_eq_true, decide_eq_true_eq, isOlder_forHours_iff,
    Option.any_eq_true, Option.isSome_iff_exists, and_assoc]

theorem PodRule.mem_due : pod ∈ rule.due now pods ↔ pod ∈ pods ∧ rule.isDue now pod = true :=
  List.mem_filter

/-- What the control plane selects and what the reaper selects of it. -/
theorem PodRule.oldPods_listed :
    rule.oldPods now (pods.filter fun held => held.metadata.isIn rule.space &&
      (some rule.labelKey).all fun key => (held.metadata.label? key).isSome) =
      podNames (rule.due now pods) := by
  rw [oldPods, podNames, due, List.filter_filter, List.filterMap_filter, List.filterMap_filter]
  congr 1
  funext pod
  cases named : pod.metadata.name with
  | none => simp
  | some name =>
      have same : ((rule.marks pod && isOlder pod.metadata (.forHours rule.maximalHours) now) &&
          (pod.metadata.isIn rule.space &&
            (some rule.labelKey).all fun key => (pod.metadata.label? key).isSome)) =
          rule.isDue now pod := by
        rw [Bool.eq_iff_iff, PodRule.isDue_iff]
        cases labelled : pod.metadata.label? rule.labelKey <;>
          simp [PodRule.marks, labelled, named, and_comm]
      rw [same]

theorem PodRule.due_eq_nil (unlimited : ¬IsLimit rule.maximalHours) : rule.due now pods = [] := by
  apply List.filter_eq_nil_iff.2
  intro pod _
  simp [isDue, unlimited]

theorem podNames_due_drop (count : Nat) :
    podNames ((rule.due now pods).drop count) = (podNames (rule.due now pods)).drop count := by
  have named : ∀ pod ∈ rule.due now pods, ∃ name, pod.metadata.name = some name :=
    fun pod member => (PodRule.isDue_iff.1 (PodRule.mem_due.1 member).2).2.1
  generalize rule.due now pods = due at named
  induction due generalizing count with
  | nil => simp [podNames]
  | cons pod rest induction =>
      obtain ⟨name, known⟩ := named pod List.mem_cons_self
      cases count with
      | zero => rfl
      | succ count =>
          have continued := induction count fun other member => named other (.tail pod member)
          simpa [podNames, known] using continued

end

/-- How deletions of pods by name stand: what is left to delete is there, and the
calls so far are those of the others. -/
structure PodDeletions (space : String) (names : List String) (start : Recorded Store)
    (rest : List String) (failing : Nat) (gone : List String) (state : Recorded Store) : Prop where
  failing : state.plane.pendingFailures .deletePod = failing
  contents : state.plane.contents = start.plane.contents.withoutPodsNamed space gone
  calls : state.history.map Sigma.fst ++ rest.map (.deletePod space) =
    start.history.map Sigma.fst ++ names.map (.deletePod space)
  distinct : rest.Nodup
  present : ∀ name ∈ rest, ∃ held ∈ state.plane.contents.pods,
    Store.isAt space name held.metadata = true

/-- Other pods are still there when one is gone. -/
theorem PodDeletions.remaining {space name other : String} {contents : Contents}
    (apart : other ≠ name)
    (present : ∃ held ∈ contents.pods, Store.isAt space other held.metadata = true) :
    ∃ held ∈ (contents.withoutPod space name).pods,
      Store.isAt space other held.metadata = true := by
  obtain ⟨held, member, place⟩ := present
  refine ⟨held, List.mem_filter.2 ⟨member, ?_⟩, place⟩
  simp only [Store.isAt, Metadata.isNamed, Bool.and_eq_true, beq_iff_eq] at place
  simp [Store.isAt, Metadata.isNamed, place.2, apart]

theorem PodDeletions.once {space name : String} {names rest gone : List String}
    {start state : Recorded Store} {failing : Nat}
    (stands : PodDeletions space names start (name :: rest) failing gone state) :
    (call (.deletePod space name)).Ensures (recorded Store.plane).setting False
      (fun answer after =>
        match failing with
        | 0 => answer = .ok () ∧ PodDeletions space names start rest 0 (gone ++ [name]) after
        | fewer + 1 => (∃ cause, answer = .error cause) ∧
            PodDeletions space names start rest fewer gone after) state := by
  refine ⟨trivial, ?_⟩
  intro answer after answered
  obtain ⟨asked, noted⟩ := recorded_answered answered
  have settled : Store.answer (.deletePod space name) state.plane = (answer, after.plane) := asked
  have replied := Store.deletePod_answer (stands.present name List.mem_cons_self)
  have spent := congrFun (Store.pendingFailures_answer (.deletePod space name) state.plane)
    .deletePod
  rw [settled, stands.failing] at replied
  rw [settled] at spent
  have fewer : after.plane.pendingFailures .deletePod = failing - 1 := by
    rw [← stands.failing]
    exact spent.trans (if_pos rfl)
  have calls : after.history.map Sigma.fst ++ rest.map (.deletePod space) =
      start.history.map Sigma.fst ++ names.map (.deletePod space) := by
    rw [← stands.calls, noted]
    simp
  obtain ⟨fresh, distinct⟩ := List.nodup_cons.1 stands.distinct
  have apart : ∀ other ∈ rest, other ≠ name := fun other member same => fresh (same ▸ member)
  cases failing with
  | zero =>
      have granted : answer = .ok () := replied.trans (if_pos rfl)
      subst granted
      have removed := Store.deletePod_ok settled
      refine ⟨rfl, fewer, ?_, calls, distinct, ?_⟩
      · rw [removed, stands.contents, Contents.withoutPodsNamed_concat]
      · intro other member
        rw [removed]
        exact PodDeletions.remaining (apart other member) (stands.present other (.tail name member))
  | succ failing =>
      have refused : answer = .error (.injected .deletePod) :=
        replied.trans (if_neg (Nat.succ_ne_zero failing))
      subst refused
      have unchanged := Store.contents_of_error settled
      refine ⟨⟨_, rfl⟩, fewer, unchanged.trans stands.contents, calls, distinct, ?_⟩
      intro other member
      rw [unchanged]
      exact stands.present other (.tail name member)

/-- One pass of the pod reaper. -/
def podSweep (rule : PodRule) (now : Instant) (store : Store) :
    Except Fault (Except Failure (List String)) × Recorded Store :=
  (recorded Store.plane).run (reapPods rule now) ⟨[], store⟩

/-- What a pass reports, asks and leaves, by the failures that are pending. -/
structure PodsExact (rule : PodRule) (now : Instant) (store : Store)
    (result : Except Failure (List String)) (finish : Recorded Store) : Prop where
  unlisted : store.pendingFailures .listPods ≠ 0 →
    result = .error (.injected .listPods) ∧
      finish.history.map Sigma.fst = [.listPods rule.space (some rule.labelKey)] ∧
      finish.plane.contents = store.contents
  listed : store.pendingFailures .listPods = 0 →
    let due := rule.due now store.contents.pods
    let failing := store.pendingFailures .deletePod
    result = .ok (podNames (due.drop failing)) ∧
      finish.history.map Sigma.fst =
        .listPods rule.space (some rule.labelKey) :: (podNames due).map (.deletePod rule.space) ∧
      finish.plane.contents = store.contents.withoutPods (due.drop failing)

section

variable {rule : PodRule} {now : Instant} {store : Store}

theorem PodRule.nodup_due (distinct : DistinctPods store.contents rule.space) :
    (podNames (rule.due now store.contents.pods)).Nodup := by
  have within : rule.due now store.contents.pods =
      (store.contents.pods.filter fun held => held.metadata.isIn rule.space).filter
        (rule.isDue now) := by
    rw [due, List.filter_filter]
    apply List.filter_congr
    intro pod _
    cases chosen : rule.isDue now pod with
    | false => rfl
    | true => rw [(isDue_iff.1 chosen).1]; rfl
  rw [within]
  exact distinct.sublist (List.filter_sublist.filterMap _)

theorem ensures_reapPods_exact (distinct : DistinctPods store.contents rule.space) :
    (reapPods rule now).Ensures (recorded Store.plane).setting False
      (PodsExact rule now store) ⟨[], store⟩ := by
  refine ⟨trivial, ?_⟩
  intro answer after answered
  obtain ⟨asked, noted⟩ := recorded_answered answered
  have settled : Store.answer (.listPods rule.space (some rule.labelKey)) store =
      (answer, after.plane) := asked
  have replied := Store.listPods_answer store rule.space (some rule.labelKey)
  rw [settled] at replied
  by_cases free : store.pendingFailures .listPods = 0
  · have listed := replied.trans (if_pos free)
    subst listed
    have unchanged : after.plane.contents = store.contents := by
      have same : (Store.answer (.listPods rule.space (some rule.labelKey)) store).2.contents =
          store.contents := Store.contents_of_reading rfl
      rwa [settled] at same
    have failing : after.plane.pendingFailures .deletePod = store.pendingFailures .deletePod :=
      failures_answered settled (by simp)
    simp only [Program.bind]
    rw [Program.ensures_bind, PodRule.oldPods_listed]
    let due := rule.due now store.contents.pods
    have stands : PodDeletions rule.space (podNames due) after (podNames due)
        (store.pendingFailures .deletePod) [] after := by
      refine ⟨failing, Contents.withoutPodsNamed_nil.symm, rfl, PodRule.nodup_due distinct, ?_⟩
      intro name member
      obtain ⟨pod, chosen, named⟩ := List.mem_filterMap.1 member
      obtain ⟨held, isDue⟩ := PodRule.mem_due.1 chosen
      refine ⟨pod, unchanged ▸ held, ?_⟩
      simp [Store.isAt, Metadata.isNamed, (PodRule.isDue_iff.1 isDue).1, named]
    refine (ensures_deleteAll_failing _ (fun _ _ _ _ _ => PodDeletions.once) stands).mono ?_
    intro deleted finish swept
    obtain ⟨reported, _, finished⟩ := swept
    rw [← podNames_due_drop] at reported
    refine ⟨fun hindered => absurd free hindered, fun _ => ⟨?_, ?_, ?_⟩⟩
    · rw [reported]
    · have calls := finished.calls
      rw [noted] at calls
      simpa using calls
    · have held : ∀ pod ∈ due.drop (store.pendingFailures .deletePod),
          pod ∈ store.contents.pods ∧ pod.metadata.isIn rule.space = true ∧
            ∃ name, pod.metadata.name = some name := by
        intro pod member
        obtain ⟨member, isDue⟩ := PodRule.mem_due.1 (List.mem_of_mem_drop member)
        have chosen := PodRule.isDue_iff.1 isDue
        exact ⟨member, chosen.1, chosen.2.1⟩
      rw [finished.contents, unchanged, reported, List.nil_append,
        distinct.withoutPodsNamed_eq held]
  · have refused := replied.trans (if_neg free)
    subst refused
    have unchanged : after.plane.contents = store.contents := Store.contents_of_error settled
    refine ⟨fun _ => ⟨rfl, ?_, unchanged⟩, fun listed => absurd listed free⟩
    rw [noted]
    rfl

theorem podSweep_exact (distinct : DistinctPods store.contents rule.space) :
    ∃ result finish, podSweep rule now store = (.ok result, finish) ∧
      PodsExact rule now store result finish := by
  have foreseen : (recorded Store.plane).Foreseen (recorded Store.plane).setting Eq :=
    Handler.foreseen_setting fun _ _ => rfl
  obtain ⟨result, finish, _, ran, passed, rfl⟩ :=
    Handler.run_of_ensures foreseen (ensures_reapPods_exact distinct) rfl id
  exact ⟨result, finish, ran, passed⟩

theorem PodRule.due_withoutPods (contents : Contents) (gone : List Pod) :
    rule.due now (contents.withoutPods gone).pods =
      (rule.due now contents.pods).filter fun pod => !gone.contains pod := by
  simp only [due, Contents.withoutPods, List.filter_filter, Bool.and_comm]

theorem PodRule.nodup_due_pods (distinct : DistinctPods store.contents rule.space) :
    (rule.due now store.contents.pods).Nodup := by
  have names : (podNames (rule.due now store.contents.pods)).Nodup := nodup_due distinct
  refine (List.pairwise_filterMap.1 names).imp_of_mem ?_
  intro first second member _ differ same
  obtain ⟨name, named⟩ := (isDue_iff.1 (mem_due.1 member).2).2.1
  exact differ name named name (same ▸ named) rfl

/-- The pass after another one, once no failure is pending. -/
theorem PodsExact.next {result : Except Failure (List String)} {finish : Recorded Store}
    (passed : PodsExact rule now store result finish)
    (distinct : DistinctPods store.contents rule.space)
    (listed : store.pendingFailures .listPods = 0) {second : Store}
    (same : second.contents = finish.plane.contents)
    (listable : second.pendingFailures .listPods = 0)
    (deletable : second.pendingFailures .deletePod = 0) :
    let due := rule.due now store.contents.pods
    ∃ secondFinish,
      podSweep rule now second =
        (.ok (.ok (podNames (due.take (store.pendingFailures .deletePod)))), secondFinish) ∧
      secondFinish.plane.contents = store.contents.withoutPods due := by
  intro due
  let failing := store.pendingFailures .deletePod
  have left : second.contents = store.contents.withoutPods (due.drop failing) :=
    same.trans (passed.listed listed).2.2
  have remaining : rule.due now second.contents.pods = due.take failing := by
    rw [left, PodRule.due_withoutPods]
    exact filter_drop_eq_take (PodRule.nodup_due_pods distinct) failing
  have distinctStill : DistinctPods second.contents rule.space := left ▸ distinct.withoutPods _
  obtain ⟨again, secondFinish, ran, passedAgain⟩ := podSweep_exact distinctStill
  obtain ⟨reported, _, contents⟩ := passedAgain.listed listable
  rw [remaining, deletable, List.drop_zero] at reported contents
  rw [reported] at ran
  refine ⟨secondFinish, ran, ?_⟩
  rw [contents, left, Contents.withoutPods_withoutPods]
  apply Contents.withoutPods_congr
  intro pod
  rw [List.mem_append, or_comm, ← List.mem_append, List.take_append_drop]

/-- A pass finds nothing where everything due is gone. -/
theorem podSweep_of_nothing_due (distinct : DistinctPods store.contents rule.space)
    (listable : store.pendingFailures .listPods = 0)
    (nothing : rule.due now store.contents.pods = []) :
    ∃ finish, podSweep rule now store = (.ok (.ok []), finish) ∧
      finish.plane.contents = store.contents := by
  obtain ⟨result, finish, ran, passed⟩ := podSweep_exact distinct
  obtain ⟨reported, _, contents⟩ := passed.listed listable
  rw [nothing, List.drop_nil] at reported contents
  exact ⟨finish, reported ▸ ran, contents.trans Contents.withoutPods_nil⟩

theorem PodRule.due_withoutPods_due {contents : Contents} :
    rule.due now (contents.withoutPods (rule.due now contents.pods)).pods = [] := by
  rw [due_withoutPods, List.filter_eq_nil_iff]
  intro pod member
  simpa using member

end

section

variable {rule wider : PodRule} {now later : Instant}

/-- Fewer pods are due where everything that is due is due elsewhere as well. -/
theorem PodRule.due_sublist {pods : List Pod}
    (covers : ∀ pod ∈ pods, rule.isDue now pod = true → wider.isDue later pod = true) :
    (rule.due now pods).Sublist (wider.due later pods) := by
  have chosen : rule.due now pods = (wider.due later pods).filter (rule.isDue now) := by
    rw [due, due, List.filter_filter]
    apply List.filter_congr
    intro pod member
    cases here : rule.isDue now pod with
    | false => rfl
    | true => rw [covers pod member here]; rfl
  rw [chosen]
  exact List.filter_sublist

theorem PodRule.isDue_of_matures {pod : Pod} (matures : Matures now later pod.metadata)
    (isDue : rule.isDue now pod = true) : rule.isDue later pod = true := by
  obtain ⟨inside, named, marked, old⟩ := isDue_iff.1 isDue
  exact isDue_iff.2 ⟨inside, named, marked, matures.isOlder old⟩

theorem PodRule.isDue_of_longer {pod : Pod} {longer : Int} (positive : 1 ≤ rule.maximalHours)
    (shorter : rule.maximalHours ≤ longer)
    (isDue : PodRule.isDue { rule with maximalHours := longer } now pod = true) :
    rule.isDue now pod = true := by
  obtain ⟨inside, named, marked, old⟩ := isDue_iff.1 isDue
  exact isDue_iff.2 ⟨inside, named, marked, isOlder_of_longer positive shorter old⟩

end

/-- A pass of the pod reaper, over any store in which the pods of its namespace are
told apart by name, and what follows it.  When the listing fails, no object
changes.  Otherwise the pods that are due are deleted in the order of the
listing, except as many of the first ones as deletions were to fail.  A pass
without failures takes the rest and leaves nothing to the next.  What is due
stays so unless leap seconds interfere, and a longer limit makes fewer pods
due. -/
theorem pods_swept_exactly (store : Store) (rule : PodRule) (now : Instant)
    (distinct : DistinctPods store.contents rule.space) :
    let due := rule.due now store.contents.pods
    let failing := store.pendingFailures .deletePod
    ∃ result finish, podSweep rule now store = (.ok result, finish) ∧
      PodsExact rule now store result finish ∧
      (¬IsLimit rule.maximalHours → due = []) ∧
      (store.pendingFailures .listPods = 0 →
        ∀ second : Store, second.contents = finish.plane.contents →
          second.pendingFailures .listPods = 0 →
          second.pendingFailures .deletePod = 0 →
            ∃ secondFinish,
              podSweep rule now second = (.ok (.ok (podNames (due.take failing))), secondFinish) ∧
              secondFinish.plane.contents = store.contents.withoutPods due ∧
              ∀ third : Store, third.contents = secondFinish.plane.contents →
                third.pendingFailures .listPods = 0 →
                  ∃ thirdFinish, podSweep rule now third = (.ok (.ok []), thirdFinish) ∧
                    thirdFinish.plane.contents = third.contents) ∧
      (∀ later, (∀ held ∈ store.contents.pods, Matures now later held.metadata) →
        due.Sublist (rule.due later store.contents.pods)) ∧
      (∀ later, ∀ held ∈ due, Matures now later held.metadata →
        held ∈ rule.due later store.contents.pods) ∧
      (∀ longer, 1 ≤ rule.maximalHours → rule.maximalHours ≤ longer →
        (PodRule.due { rule with maximalHours := longer } now store.contents.pods).Sublist
          due) := by
  intro due failing
  obtain ⟨result, finish, ran, passed⟩ := podSweep_exact distinct
  refine ⟨result, finish, ran, passed, PodRule.due_eq_nil, ?_, ?_, ?_, ?_⟩
  · intro listed second same listable deletable
    obtain ⟨secondFinish, ranNext, contents⟩ :=
      passed.next distinct listed same listable deletable
    refine ⟨secondFinish, ranNext, contents, ?_⟩
    intro third sameAgain listableAgain
    have left : third.contents = store.contents.withoutPods due := sameAgain.trans contents
    have nothing : rule.due now third.contents.pods = [] := by
      rw [left]
      exact PodRule.due_withoutPods_due
    exact podSweep_of_nothing_due (left ▸ distinct.withoutPods due) listableAgain nothing
  · intro later matures
    apply PodRule.due_sublist
    intro pod member isDue
    exact PodRule.isDue_of_matures (matures pod member) isDue
  · intro later pod chosen matures
    obtain ⟨member, isDue⟩ := PodRule.mem_due.1 chosen
    exact PodRule.mem_due.2 ⟨member, PodRule.isDue_of_matures matures isDue⟩
  · intro longer positive shorter
    apply PodRule.due_sublist
    intro pod _ isDue
    exact PodRule.isDue_of_longer positive shorter isDue

/-- Two pods are due, and the first deletion fails.  A pod of the same name in another
namespace stays. -/
theorem pods_swept_exactly_after_failure :
    let rule : PodRule := ⟨"gitlab", "pod", "runner-", 12⟩
    let podIn (space name : String) : Pod :=
      { metadata :=
          { name := some name
            space := some space
            labels := some (.singleton "pod" "runner-1")
            created := some .epoch } }
    let store : Store :=
      { pods := [podIn "gitlab" "a", podIn "ci" "b", podIn "gitlab" "b", {}]
        pendingFailures := replaceAt (fun _ => 0) .deletePod 1
        stampOf := fun _ => default }
    let now : Instant := ⟨43201, 0, by decide, by decide, by decide⟩
    DistinctPods store.contents rule.space ∧ ∃ finish,
      podSweep rule now store = (.ok (.ok ["b"]), finish) ∧
      finish.plane.contents.pods = [podIn "gitlab" "a", podIn "ci" "b", {}] := by
  intro rule podIn store now
  have distinct : DistinctPods store.contents rule.space := by
    change ["a", "b"].Nodup
    decide
  obtain ⟨result, finish, ran, passed, _⟩ := pods_swept_exactly store rule now distinct
  obtain ⟨reported, _, contents⟩ := passed.listed rfl
  have due : rule.due now store.contents.pods = [podIn "gitlab" "a", podIn "gitlab" "b"] := by
    decide
  rw [due] at reported contents
  refine ⟨distinct, finish, reported ▸ ran, ?_⟩
  rw [contents]
  decide

/-- A leap second makes a later pass find fewer pods due, when it is the time of the
first pass, the time of the creation or the time of the later pass. -/
theorem fewer_pods_due_after_leap_second :
    let ruleFor (hours : Int) : PodRule := ⟨"gitlab", "pod", "runner-", hours⟩
    let madeAt (created : Instant) : Pod :=
      { metadata :=
          { name := some "a"
            space := some "gitlab"
            labels := some (.singleton "pod" "runner-1")
            created := some created } }
    (let created : Instant := ⟨36000, 0, by decide, by decide, by decide⟩
      let now : Instant := ⟨39599, 1500000000, by decide, by decide, by decide⟩
      let later : Instant := ⟨39600, 0, by decide, by decide, by decide⟩
      now ≤ later ∧ (ruleFor 1).due now [madeAt created] = [madeAt created] ∧
        (ruleFor 1).due later [madeAt created] = []) ∧
    (let created : Instant := ⟨39599, 1500000000, by decide, by decide, by decide⟩
      let now : Instant := ⟨86399, 900000000, by decide, by decide, by decide⟩
      let later : Instant := ⟨86400, 0, by decide, by decide, by decide⟩
      now ≤ later ∧ (ruleFor 13).due now [madeAt created] = [madeAt created] ∧
        (ruleFor 13).due later [madeAt created] = []) ∧
    (let created : Instant := ⟨43259, 0, by decide, by decide, by decide⟩
      let now : Instant := ⟨86459, 900000000, by decide, by decide, by decide⟩
      let later : Instant := ⟨86459, 1000000000, by decide, by decide, by decide⟩
      now ≤ later ∧ (ruleFor 12).due now [madeAt created] = [madeAt created] ∧
        (ruleFor 12).due later [madeAt created] = []) := by
  decide

end Tenancy.Upkeep
