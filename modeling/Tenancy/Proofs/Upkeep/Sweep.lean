import Tenancy.Proofs.Cluster.WellFormed
import Tenancy.Proofs.Upkeep.Age
import Tenancy.Proofs.Upkeep.Reaping

/-!
# A sweep

One pass of the namespace reaper over a store, exactly: the calls that it makes,
the names that it reports and the objects that it leaves.  Deletions fail from
the front, as many as there are failures pending, and what they leave over goes
with the next pass.
-/

namespace Tenancy.Upkeep

open Cluster Workspace

/-- A workspace that was created more than that many hours ago. -/
def isOverdue (hours : Int) (now : Instant) (held : Namespace) : Bool :=
  isWorkspace held && IsLimit hours &&
    held.metadata.created.any fun created => hoursLong hours < now.since created

/-- The names of the overdue workspaces, in the order of the listing. -/
def overdue (hours : Int) (now : Instant) (listing : List Namespace) : List String :=
  (listing.filter (isOverdue hours now)).filterMap fun held => held.metadata.name

section

variable {hours : Int} {now : Instant} {held : Namespace} {listing : List Namespace}
variable {name : String}

theorem isOverdue_iff : isOverdue hours now held = true ↔
    isWorkspace held = true ∧ isOlder held.metadata (.forHours hours) now = true := by
  simp only [isOverdue, Bool.and_eq_true, decide_eq_true_eq, isOlder_forHours_iff,
    Option.any_eq_true, and_assoc]

theorem oldWorkspaces_forHours :
    oldWorkspaces (.forHours hours) now listing = overdue hours now listing := by
  rw [oldWorkspaces, overdue]
  congr 1
  apply List.filter_congr
  intro held _
  rw [Bool.eq_iff_iff, Bool.and_eq_true, isOverdue_iff]

theorem overdue_eq_nil (unlimited : ¬IsLimit hours) : overdue hours now listing = [] := by
  have none : listing.filter (isOverdue hours now) = [] := by
    apply List.filter_eq_nil_iff.2
    intro held _
    simp [isOverdue, unlimited]
  rw [overdue, none, List.filterMap_nil]

theorem nodup_overdue (distinct : (listing.filterMap (·.metadata.name)).Nodup) :
    (overdue hours now listing).Nodup :=
  distinct.sublist (List.filter_sublist.filterMap _)

theorem mem_overdue (member : name ∈ overdue hours now listing) :
    ∃ held ∈ listing, held.metadata.isNamed name = true := by
  obtain ⟨held, chosen, named⟩ := List.mem_filterMap.1 member
  exact ⟨held, (List.mem_filter.1 chosen).1, by simp [Metadata.isNamed, named]⟩

/-- What is not deleted stays overdue. -/
theorem overdue_withoutAll (contents : Contents) (names : List String) :
    overdue hours now (contents.withoutAll names).namespaces =
      (overdue hours now contents.namespaces).filter fun name => !names.contains name := by
  rw [overdue, overdue, Contents.withoutAll]
  simp only
  induction contents.namespaces with
  | nil => rfl
  | cons held rest induction =>
      by_cases due : isOverdue hours now held = true
      · obtain ⟨name, named, _⟩ := Fleet.name_of_isWorkspace (isOverdue_iff.1 due).1
        have judged : names.any held.metadata.isNamed = names.contains name := by
          rw [List.contains_eq_any_beq]
          congr 1
          funext other
          simp [Metadata.isNamed, named]
        cases gone : names.contains name <;>
          simp only [List.filter_cons, List.filterMap_cons, judged, gone, due, named, induction,
            Bool.not_false, Bool.not_true, Bool.false_eq_true, if_true, if_false]
      · have stays : isOverdue hours now held = false := by simpa using due
        cases gone : names.any held.metadata.isNamed <;>
          simp only [List.filter_cons, gone, stays, induction, Bool.not_false, Bool.not_true,
            Bool.false_eq_true, if_true, if_false]

end

/-- What the deletion of a namespace that is there comes to. -/
inductive Deletion (name : String) (before after : Store) : Except Failure Unit → Prop where
  | done (free : before.pendingFailures .deleteNamespace = 0)
      (spent : after.pendingFailures .deleteNamespace = 0)
      (contents : after.contents = before.contents.without name) :
      Deletion name before after (.ok ())
  | refused {fewer : Nat} (pending : before.pendingFailures .deleteNamespace = fewer + 1)
      (spent : after.pendingFailures .deleteNamespace = fewer)
      (contents : after.contents = before.contents) :
      Deletion name before after (.error (.injected .deleteNamespace))

theorem deletion_of_answered {name : String} {before after : Store} {answer : Except Failure Unit}
    (has : before.contents.Has name)
    (answered : Store.answer (.deleteNamespace name) before = (answer, after)) :
    Deletion name before after answer := by
  have replied := Store.deleteNamespace_answer has
  have spent := congrFun (Store.pendingFailures_answer (.deleteNamespace name) before)
    .deleteNamespace
  rw [answered] at replied spent
  have spent : after.pendingFailures .deleteNamespace =
      before.pendingFailures .deleteNamespace - 1 := spent.trans (if_pos rfl)
  cases pending : before.pendingFailures .deleteNamespace with
  | zero =>
      have granted : answer = .ok () := replied.trans (if_pos pending)
      subst granted
      exact .done pending (by omega) (Store.deleteNamespace_ok answered).2
  | succ fewer =>
      have refused : answer = .error (.injected .deleteNamespace) :=
        replied.trans (if_neg (by omega))
      subst refused
      exact .refused pending (by omega) (Store.contents_of_error answered)

/-- What deletions of some namespaces, one after the other, come to. -/
structure Swept (names : List String) (before : Recorded Store) (deleted : List String)
    (after : Recorded Store) : Prop where
  reported : deleted = names.drop (before.plane.pendingFailures .deleteNamespace)
  calls : after.history.map Sigma.fst =
    before.history.map Sigma.fst ++ names.map Call.deleteNamespace
  contents : after.plane.contents = before.plane.contents.withoutAll deleted

/-- How deletions of namespaces stand: what is left to delete is there, and the calls
so far are those of the others. -/
structure Deletions (names : List String) (start : Recorded Store) (rest : List String)
    (failing : Nat) (gone : List String) (state : Recorded Store) : Prop where
  failing : state.plane.pendingFailures .deleteNamespace = failing
  contents : state.plane.contents = start.plane.contents.withoutAll gone
  calls : state.history.map Sigma.fst ++ rest.map .deleteNamespace =
    start.history.map Sigma.fst ++ names.map .deleteNamespace
  distinct : rest.Nodup
  present : ∀ name ∈ rest, state.plane.contents.Has name

theorem Deletions.once {name : String} {names rest gone : List String}
    {start state : Recorded Store} {failing : Nat}
    (stands : Deletions names start (name :: rest) failing gone state) :
    (call (.deleteNamespace name)).Ensures (recorded Store.plane).setting False
      (fun answer after =>
        match failing with
        | 0 => answer = .ok () ∧ Deletions names start rest 0 (gone ++ [name]) after
        | fewer + 1 => (∃ cause, answer = .error cause) ∧
            Deletions names start rest fewer gone after) state := by
  refine ⟨trivial, ?_⟩
  intro answer after answered
  obtain ⟨asked, noted⟩ := recorded_answered answered
  obtain ⟨pending, earlier, calls, nodup, present⟩ := stands
  obtain ⟨fresh, distinct⟩ := List.nodup_cons.1 nodup
  have calls : after.history.map Sigma.fst ++ rest.map .deleteNamespace =
      start.history.map Sigma.fst ++ names.map .deleteNamespace := by
    rw [← calls, noted]
    simp
  cases deletion_of_answered (present name List.mem_cons_self) asked with
  | done free spent removed =>
      obtain rfl : failing = 0 := pending.symm.trans free
      refine ⟨rfl, spent, ?_, calls, distinct, ?_⟩
      · rw [removed, earlier, ← Contents.withoutAll_withoutAll, Contents.withoutAll_cons,
          Contents.withoutAll_nil]
      · -- Names are distinct, so the rest is still there when the first is gone.
        intro other member
        have apart : other ≠ name := fun same => fresh (same ▸ member)
        exact removed ▸ Contents.Has.without (present other (.tail name member)) apart
  | refused due spent unchanged =>
      obtain rfl := pending.symm.trans due
      refine ⟨⟨_, rfl⟩, spent, unchanged.trans earlier, calls, distinct, ?_⟩
      intro other member
      exact unchanged ▸ present other (.tail name member)

/-- The failures that are pending meet the first deletions. -/
theorem ensures_deleteAll_exact {names : List String} (distinct : names.Nodup)
    (start : Recorded Store) (present : ∀ name ∈ names, start.plane.contents.Has name) :
    (deleteAll (fun name => call (.deleteNamespace name)) names).Ensures
      (recorded Store.plane).setting False (Swept names start) start := by
  have stands : Deletions names start names (start.plane.pendingFailures .deleteNamespace) []
      start := ⟨rfl, Contents.withoutAll_nil.symm, rfl, distinct, present⟩
  refine (ensures_deleteAll_failing _ (fun _ _ _ _ _ => Deletions.once) stands).mono ?_
  intro deleted finish swept
  obtain ⟨reported, _, finished⟩ := swept
  exact ⟨reported, by simpa using finished.calls, finished.contents⟩

/-- One pass of the reaper. -/
def sweep (hours : Int) (now : Instant) (store : Store) :
    Except Fault (Except Failure (List String)) × Recorded Store :=
  (recorded Store.plane).run (reapNamespaces hours now) ⟨[], store⟩

/-- What a pass reports, asks and leaves, by the failures that are pending. -/
structure Exact (hours : Int) (now : Instant) (store : Store)
    (result : Except Failure (List String)) (finish : Recorded Store) : Prop where
  unlisted : store.pendingFailures .listNamespaces ≠ 0 →
    result = .error (.injected .listNamespaces) ∧
      finish.history.map Sigma.fst = [.listNamespaces] ∧
      finish.plane.contents = store.contents
  listed : store.pendingFailures .listNamespaces = 0 →
    let due := overdue hours now store.contents.namespaces
    let failing := store.pendingFailures .deleteNamespace
    result = .ok (due.drop failing) ∧
      finish.history.map Sigma.fst = .listNamespaces :: due.map .deleteNamespace ∧
      finish.plane.contents = store.contents.withoutAll (due.drop failing)

section

variable {hours : Int} {now : Instant} {store : Store}

theorem ensures_reapNamespaces_exact (distinct : DistinctNames store.contents) :
    (reapNamespaces hours now).Ensures (recorded Store.plane).setting False
      (Exact hours now store) ⟨[], store⟩ := by
  refine ⟨trivial, ?_⟩
  intro answer after answered
  obtain ⟨asked, noted⟩ := recorded_answered answered
  have settled : Store.answer .listNamespaces store = (answer, after.plane) := asked
  have replied : answer = if store.pendingFailures .listNamespaces = 0
      then .ok store.contents.namespaces else .error (.injected .listNamespaces) :=
    (congrArg Prod.fst settled).symm.trans (Store.listNamespaces_answer store)
  by_cases free : store.pendingFailures .listNamespaces = 0
  · rw [if_pos free] at replied
    subst replied
    have unchanged : after.plane.contents = store.contents := (Store.listNamespaces_ok settled).2
    have failing : after.plane.pendingFailures .deleteNamespace =
        store.pendingFailures .deleteNamespace := failures_answered settled (by decide)
    have present : ∀ name ∈ overdue hours now store.contents.namespaces,
        after.plane.contents.Has name := by
      intro name member
      rw [unchanged]
      exact mem_overdue member
    simp only [Program.bind]
    rw [Program.ensures_bind, oldWorkspaces_forHours]
    refine (ensures_deleteAll_exact (nodup_overdue distinct) after present).mono ?_
    intro deleted finish swept
    have reported := swept.reported
    rw [failing] at reported
    refine ⟨fun hindered => absurd free hindered, fun _ => ⟨?_, ?_, ?_⟩⟩
    · rw [reported]
    · rw [swept.calls, noted]
      rfl
    · rw [swept.contents, unchanged, reported]
  · rw [if_neg free] at replied
    subst replied
    have unchanged : after.plane.contents = store.contents := Store.contents_of_error settled
    refine ⟨fun _ => ⟨rfl, ?_, unchanged⟩, fun listed => absurd listed free⟩
    rw [noted]
    rfl

theorem sweep_exact (distinct : DistinctNames store.contents) :
    ∃ result finish, sweep hours now store = (.ok result, finish) ∧
      Exact hours now store result finish := by
  have foreseen : (recorded Store.plane).Foreseen (recorded Store.plane).setting Eq :=
    Handler.foreseen_setting fun _ _ => rfl
  obtain ⟨result, finish, _, ran, passed, rfl⟩ :=
    Handler.run_of_ensures foreseen (ensures_reapNamespaces_exact distinct) rfl id
  exact ⟨result, finish, ran, passed⟩

/-- The pass after another one, once no failure is pending. -/
theorem Exact.next {result : Except Failure (List String)} {finish : Recorded Store}
    (passed : Exact hours now store result finish) (distinct : DistinctNames store.contents)
    (listed : store.pendingFailures .listNamespaces = 0) {second : Store}
    (same : second.contents = finish.plane.contents)
    (listable : second.pendingFailures .listNamespaces = 0)
    (deletable : second.pendingFailures .deleteNamespace = 0) :
    let due := overdue hours now store.contents.namespaces
    ∃ secondFinish,
      sweep hours now second =
        (.ok (.ok (due.take (store.pendingFailures .deleteNamespace))), secondFinish) ∧
      secondFinish.plane.contents = store.contents.withoutAll due := by
  intro due
  let failing := store.pendingFailures .deleteNamespace
  have left : second.contents = store.contents.withoutAll (due.drop failing) :=
    same.trans (passed.listed listed).2.2
  have remaining : overdue hours now second.contents.namespaces = due.take failing := by
    rw [left, overdue_withoutAll]
    exact filter_drop_eq_take (nodup_overdue distinct) failing
  have distinctStill : DistinctNames second.contents := left ▸ distinct.withoutAll _
  obtain ⟨again, secondFinish, ran, passedAgain⟩ := sweep_exact distinctStill
  obtain ⟨reported, _, contents⟩ := passedAgain.listed listable
  rw [remaining, deletable, List.drop_zero] at reported contents
  rw [reported] at ran
  refine ⟨secondFinish, ran, ?_⟩
  rw [contents, left, Contents.withoutAll_withoutAll]
  apply Contents.withoutAll_congr
  intro name
  rw [List.mem_append, or_comm, ← List.mem_append, List.take_append_drop]

/-- A pass finds nothing where everything overdue is gone. -/
theorem sweep_of_nothing_overdue (distinct : DistinctNames store.contents)
    (listable : store.pendingFailures .listNamespaces = 0)
    (nothing : overdue hours now store.contents.namespaces = []) :
    ∃ finish, sweep hours now store = (.ok (.ok []), finish) ∧
      finish.plane.contents = store.contents := by
  obtain ⟨result, finish, ran, passed⟩ := sweep_exact distinct
  obtain ⟨reported, _, contents⟩ := passed.listed listable
  rw [nothing, List.drop_nil] at reported contents
  exact ⟨finish, reported ▸ ran, contents.trans Contents.withoutAll_nil⟩

theorem overdue_withoutAll_overdue {contents : Contents} :
    overdue hours now
      (contents.withoutAll (overdue hours now contents.namespaces)).namespaces = [] := by
  rw [overdue_withoutAll, List.filter_eq_nil_iff]
  intro name member
  simpa using member

/-- A survey reports the stale ones among the workspaces, whatever is answered
about their pods. -/
theorem ensures_survey_stale {State : Type} {plane : Plane State} {mayFault : Prop}
    (workspaces : List (String × Metadata)) (snapshot : Fleet.Snapshot) (gauges : Fleet.Gauges)
    (state : State) :
    (Fleet.survey now workspaces snapshot gauges).Ensures plane.setting mayFault
      (fun outcome _ => outcome.1.stale = snapshot.stale ++
        (workspaces.filter fun workspace => isOlder workspace.2 .stale now).map Prod.fst)
      state := by
  induction workspaces generalizing snapshot gauges state with
  | nil => exact (List.append_nil _).symm
  | cons workspace rest induction =>
      obtain ⟨name, metadata⟩ := workspace
      rw [Fleet.survey_cons]
      refine ⟨trivial, ?_⟩
      intro answer after answered
      refine (induction _ _ after).mono ?_
      intro outcome finish reached
      rw [reached, Fleet.Snapshot.judged, List.filter_cons]
      cases isOlder metadata .stale now <;> simp

/-- A scan reports the workspaces that are overdue after the limit for stale
ones. -/
theorem scan_stale (listable : store.pendingFailures .listNamespaces = 0)
    (monitor : Fleet.Monitor) :
    ∃ snapshot next finish,
      Store.plane.run (Fleet.scan now monitor) store = (.ok (.ok snapshot, next), finish) ∧
      snapshot.stale = overdue 48 now store.contents.namespaces := by
  have ensured : (Fleet.scan now monitor).Ensures Store.plane.setting False
      (fun outcome _ => ∃ snapshot, outcome.1 = .ok snapshot ∧
        snapshot.stale = overdue 48 now store.contents.namespaces) store := by
    refine ⟨trivial, ?_⟩
    intro answer after answered
    have settled : Store.answer .listNamespaces store = (answer, after) := answered
    have replied : answer = .ok store.contents.namespaces :=
      (congrArg Prod.fst settled).symm.trans
        ((Store.listNamespaces_answer store).trans (if_pos listable))
    subst replied
    simp only [Program.bind]
    rw [Program.ensures_bind]
    refine (ensures_survey_stale _ _ _ after).mono ?_
    intro outcome finish reached
    refine ⟨outcome.1, rfl, ?_⟩
    rw [reached, Fleet.stale_workspacesIn, stale_eq_forHours, oldWorkspaces_forHours]
    rfl
  obtain ⟨⟨result, next⟩, finish, _, ran, reached, rfl⟩ :=
    Handler.run_of_ensures (Handler.foreseen_ofAnswer Store.answer) ensured rfl id
  obtain ⟨snapshot, reported, stale⟩ := reached
  exact ⟨snapshot, next, finish, reported ▸ ran, stale⟩

end

section

variable {hours : Int} {now later : Instant}

theorem Matures.isOverdue {held : Namespace} (matures : Matures now later held.metadata)
    (due : isOverdue hours now held = true) : isOverdue hours later held = true := by
  obtain ⟨shaped, old⟩ := isOverdue_iff.1 due
  exact isOverdue_iff.2 ⟨shaped, matures.isOlder old⟩

theorem overdue_sublist {listing : List Namespace}
    (matures : ∀ held ∈ listing, Matures now later held.metadata) :
    (overdue hours now listing).Sublist (overdue hours later listing) := by
  have chosen : listing.filter (isOverdue hours now) =
      (listing.filter (isOverdue hours later)).filter (isOverdue hours now) := by
    rw [List.filter_filter]
    apply List.filter_congr
    intro held member
    cases due : isOverdue hours now held with
    | false => rfl
    | true => rw [(matures held member).isOverdue due]; rfl
  rw [overdue, chosen]
  exact List.filter_sublist.filterMap _

end

/-- A pass of the namespace reaper, over any store with distinct names of namespaces,
and what follows it.  When the listing fails, no object changes.  Otherwise the
overdue workspaces are deleted in the order of the listing, except as many of
the first ones as deletions were to fail.  A pass without failures takes the
rest and leaves nothing to the next.  What is overdue stays so unless leap
seconds interfere, and with the limit of the monitor it is what the monitor
reports as stale. -/
theorem sweeps_exactly (store : Store) (hours : Int) (now : Instant)
    (distinct : DistinctNames store.contents) :
    let due := overdue hours now store.contents.namespaces
    let failing := store.pendingFailures .deleteNamespace
    ∃ result finish, sweep hours now store = (.ok result, finish) ∧
      Exact hours now store result finish ∧
      (¬IsLimit hours → due = []) ∧
      (store.pendingFailures .listNamespaces = 0 →
        ∀ second : Store, second.contents = finish.plane.contents →
          second.pendingFailures .listNamespaces = 0 →
          second.pendingFailures .deleteNamespace = 0 →
            ∃ secondFinish,
              sweep hours now second = (.ok (.ok (due.take failing)), secondFinish) ∧
              secondFinish.plane.contents = store.contents.withoutAll due ∧
              ∀ third : Store, third.contents = secondFinish.plane.contents →
                third.pendingFailures .listNamespaces = 0 →
                  ∃ thirdFinish, sweep hours now third = (.ok (.ok []), thirdFinish) ∧
                    thirdFinish.plane.contents = third.contents) ∧
      (∀ later, (∀ held ∈ store.contents.namespaces, Matures now later held.metadata) →
        due.Sublist (overdue hours later store.contents.namespaces)) ∧
      (∀ later, ∀ held ∈ store.contents.namespaces, Matures now later held.metadata →
        isOverdue hours now held = true → isOverdue hours later held = true) ∧
      (hours = 48 → store.pendingFailures .listNamespaces = 0 → failing = 0 →
        ∀ monitor, ∃ snapshot next after,
          Store.plane.run (Fleet.scan now monitor) store = (.ok (.ok snapshot, next), after) ∧
          result = .ok snapshot.stale) := by
  intro due failing
  obtain ⟨result, finish, ran, passed⟩ := sweep_exact distinct
  refine ⟨result, finish, ran, passed, overdue_eq_nil, ?_, fun _ => overdue_sublist,
    fun _ _ _ matures => matures.isOverdue, ?_⟩
  · intro listed second same listable deletable
    obtain ⟨secondFinish, ranNext, contents⟩ :=
      passed.next distinct listed same listable deletable
    refine ⟨secondFinish, ranNext, contents, ?_⟩
    intro third sameAgain listableAgain
    have left : third.contents = store.contents.withoutAll due := sameAgain.trans contents
    have nothing : overdue hours now third.contents.namespaces = [] := by
      rw [left]
      exact overdue_withoutAll_overdue
    exact sweep_of_nothing_overdue (left ▸ distinct.withoutAll due) listableAgain nothing
  · intro limit listed free monitor
    obtain ⟨snapshot, next, after, scanned, stale⟩ := scan_stale listed monitor
    refine ⟨snapshot, next, after, scanned, ?_⟩
    subst limit
    have reported : result = .ok (due.drop failing) := (passed.listed listed).1
    rw [reported, free, stale]
    rfl

/-- Two workspaces are overdue, and the first deletion fails. -/
theorem sweeps_exactly_after_failure :
    let named (name : String) : Namespace :=
      { metadata := { name := some name, created := some .epoch } }
    let store : Store :=
      { namespaces := [named "zombie-a", named "zombie-b", named "default"]
        pendingFailures := replaceAt (fun _ => 0) .deleteNamespace 1
        stampOf := fun _ => default }
    let now : Instant := ⟨172801, 0, by decide, by decide, by decide⟩
    DistinctNames store.contents ∧ ∃ finish,
      sweep 48 now store = (.ok (.ok ["zombie-b"]), finish) ∧
      finish.plane.contents.namespaces = [named "zombie-a", named "default"] := by
  intro named store now
  have distinct : DistinctNames store.contents := by
    change ["zombie-a", "zombie-b", "default"].Nodup
    decide
  obtain ⟨result, finish, ran, passed, _⟩ := sweeps_exactly store 48 now distinct
  obtain ⟨reported, _, contents⟩ := passed.listed rfl
  have due : overdue 48 now store.contents.namespaces = ["zombie-a", "zombie-b"] := by decide
  rw [due] at reported contents
  refine ⟨distinct, finish, reported ▸ ran, ?_⟩
  rw [contents]
  rfl

/-- A leap second makes a later pass find less overdue, when it is the time of the
first pass, the time of the creation or the time of the later pass. -/
theorem less_overdue_after_leap_second :
    let madeAt (created : Instant) : Namespace :=
      { metadata := { name := some "zombie-a", created := some created } }
    (let created : Instant := ⟨36000, 0, by decide, by decide, by decide⟩
      let now : Instant := ⟨39599, 1500000000, by decide, by decide, by decide⟩
      let later : Instant := ⟨39600, 0, by decide, by decide, by decide⟩
      now ≤ later ∧ overdue 1 now [madeAt created] = ["zombie-a"] ∧
        overdue 1 later [madeAt created] = []) ∧
    (let created : Instant := ⟨39599, 1500000000, by decide, by decide, by decide⟩
      let now : Instant := ⟨86399, 900000000, by decide, by decide, by decide⟩
      let later : Instant := ⟨86400, 0, by decide, by decide, by decide⟩
      now ≤ later ∧ overdue 13 now [madeAt created] = ["zombie-a"] ∧
        overdue 13 later [madeAt created] = []) ∧
    (let created : Instant := ⟨43259, 0, by decide, by decide, by decide⟩
      let now : Instant := ⟨86459, 900000000, by decide, by decide, by decide⟩
      let later : Instant := ⟨86459, 1000000000, by decide, by decide, by decide⟩
      now ≤ later ∧ overdue 12 now [madeAt created] = ["zombie-a"] ∧
        overdue 12 later [madeAt created] = []) := by
  decide

end Tenancy.Upkeep
