import Tenancy.Proofs.Cluster.Calm
import Tenancy.Proofs.Fleet.Scan
import Tenancy.Upkeep.Reaper

/-!
# Background passes over a store

What scans and reaper passes leave of a store: all of it, without the
namespaces that were reported as deleted and what was in them.  Only workspaces
that were too old at the time of a pass are among these.
-/

namespace Tenancy.Upkeep

open Cluster Workspace

/-- Deletions that were tried took away what they reported and nothing else, and
calls of other kinds fail as they would have. -/
structure Reaped (names : List String) (before : Store) (deleted : List String)
    (after : Store) : Prop where
  reported : deleted.Sublist names
  contents : after.contents = deleted.foldl Contents.without before.contents
  failures : ∀ operation, operation ≠ .listNamespaces → operation ≠ .deleteNamespace →
    after.pendingFailures operation = before.pendingFailures operation

theorem failures_answered {call : Call} {store after : Store} {answer : call.Answer}
    (answered : Store.answer call store = (answer, after)) {operation : Operation}
    (apart : operation ≠ call.operation) :
    after.pendingFailures operation = store.pendingFailures operation := by
  have pending := congrFun (Store.pendingFailures_answer call store) operation
  rw [answered] at pending
  exact pending.trans (if_neg apart)

/-- What every deletion of some names keeps, all of them together keep. -/
theorem ensures_deleteAll {State : Type} {setting : Setting Call Call.Answer State}
    {mayFault : Prop} {delete : String → Calls (Except Failure Unit)} {names : List String}
    {state : State} (invariant : State → Prop)
    (each : ∀ name ∈ names, ∀ state, invariant state →
      (delete name).Ensures setting mayFault (fun _ after => invariant after) state)
    (holds : invariant state) :
    (deleteAll delete names).Ensures setting mayFault (fun _ after => invariant after) state := by
  induction names generalizing state with
  | nil => exact holds
  | cons name rest induction =>
      rw [deleteAll, Program.ensures_bind]
      refine (each name List.mem_cons_self state holds).mono ?_
      intro answer after kept
      rw [Program.ensures_bind]
      exact induction (fun other member => each other (.tail name member)) kept

/-- Deletions of which a number fail: the failures meet the first ones.  `standing`
says how things stand while some names are left, some failures are pending and
some names are deleted. -/
theorem ensures_deleteAll_failing {State : Type} {setting : Setting Call Call.Answer State}
    {mayFault : Prop} {delete : String → Calls (Except Failure Unit)}
    (standing : List String → Nat → List String → State → Prop)
    (once : ∀ name rest failing gone state, standing (name :: rest) failing gone state →
      (delete name).Ensures setting mayFault
        (fun answer after =>
          match failing with
          | 0 => answer = .ok () ∧ standing rest 0 (gone ++ [name]) after
          | fewer + 1 => (∃ cause, answer = .error cause) ∧ standing rest fewer gone after) state)
    {names : List String} {failing : Nat} {gone : List String} {state : State}
    (stands : standing names failing gone state) :
    (deleteAll delete names).Ensures setting mayFault
      (fun deleted after => deleted = names.drop failing ∧
        ∃ left, standing [] left (gone ++ deleted) after) state := by
  induction names generalizing failing gone state with
  | nil => exact ⟨List.drop_nil.symm, failing, by rwa [List.append_nil]⟩
  | cons name rest induction =>
      rw [deleteAll, Program.ensures_bind]
      refine (once name rest failing gone state stands).mono ?_
      intro answer after tried
      rw [Program.ensures_bind]
      cases failing with
      | zero =>
          obtain ⟨rfl, stands⟩ := tried
          refine (induction stands).mono ?_
          intro deleted finish reached
          obtain ⟨rfl, left, finished⟩ := reached
          exact ⟨rfl, left, by simpa using finished⟩
      | succ fewer =>
          obtain ⟨⟨cause, rfl⟩, stands⟩ := tried
          refine (induction stands).mono ?_
          intro deleted finish reached
          obtain ⟨rfl, left, finished⟩ := reached
          exact ⟨rfl, left, finished⟩

/-- Without its tail a list without repetitions is its head. -/
theorem filter_drop_eq_take {Object : Type} [BEq Object] [LawfulBEq Object] {objects : List Object}
    (distinct : objects.Nodup) (count : Nat) :
    objects.filter (fun object => !(objects.drop count).contains object) = objects.take count := by
  have split : objects = objects.take count ++ objects.drop count :=
    (List.take_append_drop count objects).symm
  have apart : ∀ object ∈ objects.take count, object ∉ objects.drop count := by
    rw [split] at distinct
    intro object early late
    exact (List.nodup_append.1 distinct).2.2 object early object late rfl
  generalize objects.take count = early at split apart
  generalize objects.drop count = late at split apart
  subst split
  rw [List.filter_append, List.filter_eq_self.2, List.filter_eq_nil_iff.2, List.append_nil]
  · intro object member
    simpa using member
  · intro object member
    simpa using apart object member

theorem ensures_deleteNamespaces (names : List String) (store : Store) :
    (deleteAll (fun name => call (.deleteNamespace name)) names).Ensures Store.plane.setting False
      (Reaped names store) store := by
  induction names generalizing store with
  | nil => exact ⟨.slnil, rfl, fun _ _ _ => rfl⟩
  | cons name rest induction =>
      refine ⟨trivial, ?_⟩
      intro answer after answered
      simp only [Program.bind]
      rw [Program.ensures_bind]
      refine (induction after).mono ?_
      intro deleted finish reaped
      have failures : ∀ operation, operation ≠ .listNamespaces → operation ≠ .deleteNamespace →
          finish.pendingFailures operation = store.pendingFailures operation := by
        intro operation listing deleting
        exact (reaped.failures operation listing deleting).trans
          (failures_answered answered deleting)
      rcases answer with cause | ⟨⟩
      · refine ⟨reaped.reported.cons name, ?_, failures⟩
        rw [reaped.contents, Store.contents_of_error answered]
      · refine ⟨reaped.reported.cons_cons name, ?_, failures⟩
        rw [reaped.contents, (Store.deleteNamespace_ok answered).2, List.foldl_cons]

/-- What a pass of a reaper reports as deleted. -/
def reportedBy : Except Failure (List String) → List String
  | .ok deleted => deleted
  | .error _ => []

theorem ensures_reapNamespaces (hours : Int) (now : Instant) (store : Store) :
    (reapNamespaces hours now).Ensures Store.plane.setting False
      (fun result after => Reaped (oldWorkspaces (.forHours hours) now store.contents.namespaces)
        store (reportedBy result) after) store := by
  refine ⟨trivial, ?_⟩
  intro answer after answered
  have failures : ∀ operation, operation ≠ .listNamespaces →
      after.pendingFailures operation = store.pendingFailures operation :=
    fun operation listing => failures_answered answered listing
  cases answer with
  | error failure =>
      exact ⟨List.nil_sublist _, Store.contents_of_error answered,
        fun operation listing _ => failures operation listing⟩
  | ok listing =>
      obtain ⟨rfl, same⟩ := Store.listNamespaces_ok answered
      simp only [Program.bind]
      rw [Program.ensures_bind]
      refine (ensures_deleteNamespaces _ after).mono ?_
      intro deleted finish reaped
      refine ⟨reaped.reported, ?_, ?_⟩
      · rw [reaped.contents, same]
        rfl
      · intro operation listing deleting
        exact (reaped.failures operation listing deleting).trans (failures operation listing)

theorem mem_oldWorkspaces {limit : AgeLimit} {now : Instant} {listing : List Namespace}
    {name : String} (member : name ∈ oldWorkspaces limit now listing) :
    ∃ held ∈ listing, held.metadata.name = some name ∧ isName name = true ∧
      isOlder held.metadata limit now = true := by
  obtain ⟨held, chosen, named⟩ := List.mem_filterMap.1 member
  obtain ⟨listed, judged⟩ := List.mem_filter.1 chosen
  rw [Bool.and_eq_true] at judged
  have shaped : isName name = true := by simpa [isWorkspace, named] using judged.1
  exact ⟨held, listed, named, shaped, judged.2⟩

/-- One pass of a job that runs beside the service. -/
inductive Pass where
  | scan (now : Instant) (monitor : Fleet.Monitor)
  | reap (hours : Int) (now : Instant)

/-- Where some passes have come to: what they reported as deleted, and the store. -/
structure Progress where
  deleted : List String
  store : Store

def Pass.perform (progress : Progress) : Pass → Progress
  | .scan now monitor =>
      { progress with store := (Store.plane.run (Fleet.scan now monitor) progress.store).2 }
  | .reap hours now =>
      match Store.plane.run (reapNamespaces hours now) progress.store with
      | (.ok result, after) => ⟨progress.deleted ++ reportedBy result, after⟩
      | (.error _, after) => { progress with store := after }

/-- Passes of background jobs, one after the other. -/
def upkeep (store : Store) (passes : List Pass) : Progress :=
  passes.foldl Pass.perform ⟨[], store⟩

/-- A workspace that was too old for one of the passes. -/
def Outlived (passes : List Pass) (contents : Contents) (name : String) : Prop :=
  ∃ hours now, .reap hours now ∈ passes ∧
    ∃ held ∈ contents.namespaces, held.metadata.name = some name ∧ isName name = true ∧
      isOlder held.metadata (.forHours hours) now = true

/-- What some of the passes have made of a store. -/
structure Kept (passes : List Pass) (before : Store) (progress : Progress) : Prop where
  contents : progress.store.contents = progress.deleted.foldl Contents.without before.contents
  failures : progress.store.pendingFailures .listSecrets = before.pendingFailures .listSecrets
  outlived : ∀ name ∈ progress.deleted, Outlived passes before.contents name

theorem run_scan_keeps (now : Instant) (monitor : Fleet.Monitor) (store : Store) :
    let after := (Store.plane.run (Fleet.scan now monitor) store).2
    after.contents = store.contents ∧
      after.pendingFailures .listSecrets = store.pendingFailures .listSecrets := by
  have ensured : (Fleet.scan now monitor).Ensures (recording fun _ => Fleet.Asks) False
      (fun _ _ => True) [] := Fleet.ensures_asks monitor []
  apply run_keeps (fun state : Store => state.contents = store.contents ∧
    state.pendingFailures .listSecrets = store.pendingFailures .listSecrets) ensured
  · intro history call state asks same
    have apart : Operation.listSecrets ≠ call.operation := by
      rcases asks with rfl | ⟨name, rfl⟩ <;> simp
    have answered : Store.answer call state =
        ((Store.answer call state).1, (Store.answer call state).2) := rfl
    exact ⟨(Store.contents_of_reading asks.reads).trans same.1,
      (failures_answered answered apart).trans same.2⟩
  · intro length state same
    exact same
  · exact ⟨rfl, rfl⟩

theorem namespaces_foldl_without {names : List String} {contents : Contents} {held : Namespace}
    (member : held ∈ (names.foldl Contents.without contents).namespaces) :
    held ∈ contents.namespaces := by
  induction names generalizing contents with
  | nil => exact member
  | cons name rest induction => exact (List.mem_filter.1 (induction member)).1

section

variable {passes : List Pass} {store : Store} {progress : Progress}

theorem Kept.perform (kept : Kept passes store progress) {pass : Pass} (planned : pass ∈ passes) :
    Kept passes store (pass.perform progress) := by
  cases pass with
  | scan now monitor =>
      obtain ⟨contents, failures⟩ := run_scan_keeps now monitor progress.store
      exact ⟨contents.trans kept.contents, failures.trans kept.failures, kept.outlived⟩
  | reap hours now =>
      obtain ⟨result, after, state, ran, reaped, rfl⟩ :=
        Handler.run_of_ensures (Handler.foreseen_ofAnswer Store.answer)
          (ensures_reapNamespaces hours now progress.store) rfl id
      have performed : Pass.perform progress (.reap hours now) =
          ⟨progress.deleted ++ reportedBy result, after⟩ := by
        have ends : Store.plane.run (reapNamespaces hours now) progress.store =
            (.ok result, after) := ran
        simp only [Pass.perform, ends]
      rw [performed]
      refine ⟨?_, ?_, ?_⟩
      · rw [reaped.contents, kept.contents, List.foldl_append]
      · exact (reaped.failures .listSecrets (by decide) (by decide)).trans kept.failures
      · intro name member
        rcases List.mem_append.1 member with earlier | here
        · exact kept.outlived name earlier
        · obtain ⟨held, listed, named, shaped, old⟩ :=
            mem_oldWorkspaces (reaped.reported.subset here)
          rw [kept.contents] at listed
          exact ⟨hours, now, planned, held, namespaces_foldl_without listed, named, shaped, old⟩

theorem kept_upkeep (store : Store) (passes : List Pass) :
    Kept passes store (upkeep store passes) := by
  have along : ∀ (rest : List Pass) (progress : Progress), (∀ pass ∈ rest, pass ∈ passes) →
      Kept passes store progress → Kept passes store (rest.foldl Pass.perform progress) := by
    intro rest
    induction rest with
    | nil => exact fun _ _ => id
    | cons pass rest induction =>
        intro progress planned kept
        exact induction _ (fun other member => planned other (List.mem_cons_of_mem pass member))
          (kept.perform (planned pass List.mem_cons_self))
  exact along passes ⟨[], store⟩ (fun _ => id) ⟨rfl, rfl, by simp⟩

end

end Tenancy.Upkeep
