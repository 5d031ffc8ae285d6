import Tenancy.Proofs.Cluster.WellFormed
import Tenancy.Proofs.Provisioning.AllOrNothing

/-!
# A name that is taken

A provisioning in a store that has a namespace of the name already.  The
namespace of another owner is left alone with all that is in it.  One of the
same owner counts as created, even when no earlier attempt can have created it,
and so a rollback deletes it.
-/

namespace Tenancy.Provisioning

open Cluster Retry

/-- The first namespace of this name, which is the one that is read, is the
owner's. -/
def Owned (space owner : String) (objects : Contents) : Prop :=
  ∃ held, objects.namespaces.find? (fun other => other.metadata.isNamed space) = some held ∧
    Workspace.isOwnedBy owner held = true

/-- Service accounts, secrets and bindings of a workspace. -/
structure Furniture (space : String) (objects : Contents) : Prop where
  within : objects.Within space
  namespaces : objects.namespaces = []
  pods : objects.pods = []

/-- All that was there is there, and the workspace may have more in it. -/
def Kept (space : String) (before after : Contents) : Prop :=
  ∃ added, after = before ++ added ∧ Furniture space added

/-- How a provisioning ends, and what it leaves, where the name is taken. -/
inductive Ends (space owner : String) (before : Contents) :
    Except Failure String → Contents → Prop where
  | refused {reason : String} :
      Ends space owner before (.error ⟨space, .started, reason, .notNeeded⟩) before
  | provisioned {token : String} {after : Contents} (owned : Owned space owner before)
      (kept : Kept space before after) : Ends space owner before (.ok token) after
  | deleted {reached : Step} {reason : String} (owned : Owned space owner before)
      (begun : reached ≠ .started) :
      Ends space owner before (.error ⟨space, reached, reason, .completed⟩) (before.without space)
  | undeleted {reached : Step} {reason cause : String} {after : Contents}
      (owned : Owned space owner before) (begun : reached ≠ .started)
      (kept : Kept space before after) :
      Ends space owner before (.error ⟨space, reached, reason, .failed cause⟩) after

/-- A call that creates one of the parts inside the namespace. -/
inductive Furnishes (space : String) : Call → Prop where
  | account (account : ServiceAccount) : Furnishes space (.createServiceAccount space account)
  | secret (secret : Secret) : Furnishes space (.createSecret space secret)
  | binding (binding : RoleBinding) : Furnishes space (.createRoleBinding space binding)

theorem Furniture.append {space : String} {first second : Contents}
    (left : Furniture space first) (right : Furniture space second) :
    Furniture space (first ++ second) := by
  refine ⟨left.within.append right.within, ?_, ?_⟩
  · simp [left.namespaces, right.namespaces]
  · simp [left.pods, right.pods]

section

variable {plan : Plan} {draws : Draws} {space owner : String} {before after : Contents}

theorem Kept.refl : Kept space before before :=
  ⟨{}, (Contents.append_empty before).symm, Contents.within_empty space, rfl, rfl⟩

theorem Kept.grow (kept : Kept space before after) {added : Contents}
    (furniture : Furniture space added) : Kept space before (after ++ added) := by
  obtain ⟨earlier, rfl, first⟩ := kept
  exact ⟨earlier ++ added, Contents.append_assoc .., first.append furniture⟩

theorem Kept.has (kept : Kept space before after) (taken : before.Has space) :
    after.Has space := by
  obtain ⟨added, rfl, _⟩ := kept
  exact taken.append added

theorem Kept.without (kept : Kept space before after) :
    after.without space = before.without space := by
  obtain ⟨added, rfl, furniture⟩ := kept
  rw [Contents.without_append, furniture.within.without, Contents.append_empty]

/-- Whether or not it succeeds, such a call takes nothing away. -/
theorem Kept.answered {question : Call} {reply : question.Answer} {store finish : Store}
    (kept : Kept space before store.contents) (furnishes : Furnishes space question)
    (answered : Store.answer question store = (reply, finish)) :
    Kept space before finish.contents := by
  have effect := Store.effect_of_answered answered
  generalize finish.contents = left at effect ⊢
  generalize finish.stamps = number at effect
  cases furnishes with
  | account account =>
      cases effect with
      | unchanged => exact kept
      | madeAccount placed => exact kept.grow ⟨within_account placed.isIn, rfl, rfl⟩
  | secret secret =>
      cases effect with
      | unchanged => exact kept
      | madeSecret placed => exact kept.grow ⟨within_secret placed.isIn, rfl, rfl⟩
  | binding binding =>
      cases effect with
      | unchanged => exact kept
      | madeBinding placed => exact kept.grow ⟨within_binding placed.isIn, rfl, rfl⟩

/-- The provisioning has gone past the namespace, so from here on a rollback
deletes it. -/
theorem ensures_rollBack_ends {reached : Step} {store : Store} (taken : before.Has space)
    (owned : Owned space owner before) (begun : reached ≠ .started) (cause : StepFailure)
    (kept : Kept space before store.contents) :
    (rollBack plan space draws reached cause).Ensures Store.plane.setting plan.Unsteady
      (fun outcome finish => Ends space owner before outcome finish.contents) store := by
  rw [rollBack, if_neg begun, Program.ensures_bind]
  refine (ensures_deletion (kept.has taken)).mono ?_
  intro result finish reaches
  rcases result with failure | ⟨⟩
  · have unchanged : finish.contents = store.contents := reaches
    exact .undeleted owned begun (unchanged ▸ kept)
  · have deleted : finish.contents = store.contents.without space := reaches
    rw [kept.without] at deleted
    change Ends space owner before _ finish.contents
    rw [deleted]
    exact .deleted owned begun

/-- One stage after the namespace: its attempts take nothing away. -/
theorem ensures_stage_ends {Value : Type} {policy : Policy} {reached : Step}
    {attempt : Calls (Except StepFailure Value)} {next : Value → Calls (Except Failure String)}
    {store : Store} (taken : before.Has space) (owned : Owned space owner before)
    (begun : reached ≠ .started) (excused : ¬policy.Steady → plan.Unsteady)
    (once : ∀ state, Kept space before state.contents →
      attempt.Ensures Store.plane.setting plan.Unsteady
        (fun _ finish => Kept space before finish.contents) state)
    (rest : ∀ value state, Kept space before state.contents →
      (next value).Ensures Store.plane.setting plan.Unsteady
        (fun outcome finish => Ends space owner before outcome finish.contents) state)
    (kept : Kept space before store.contents) :
    (step plan policy space draws reached attempt next).Ensures Store.plane.setting plan.Unsteady
      (fun outcome finish => Ends space owner before outcome finish.contents) store := by
  have tried : (Retry.run policy StepFailure.isRepeatable attempt (draws.within reached)).Ensures
      Store.plane.setting plan.Unsteady (fun _ finish => Kept space before finish.contents)
      store := by
    refine Retry.ensures_run (fun state => Kept space before state.contents) excused ?_ kept
    intro state holds
    refine (once state holds).mono ?_
    intro result finish keeps
    exact ⟨keeps, fun _ _ => keeps⟩
  rw [step, Program.ensures_bind]
  refine tried.mono ?_
  intro result finish keeps
  cases result with
  | ok value => exact rest value finish keeps
  | error failure => exact ensures_rollBack_ends taken owned begun failure keeps

theorem ensures_furnishing {question : Call} {mayFault : Prop}
    (furnishes : Furnishes space question) (state : Store)
    (kept : Kept space before state.contents) :
    ((call question).bind fun answer => .done (existsNow answer)).Ensures Store.plane.setting
      mayFault (fun _ finish => Kept space before finish.contents) state :=
  ⟨trivial, fun _ _ answered => kept.answered furnishes answered⟩

theorem ensures_tryReadToken_kept {mayFault : Prop} (state : Store)
    (kept : Kept space before state.contents) :
    (tryReadToken space).Ensures Store.plane.setting mayFault
      (fun _ finish => Kept space before finish.contents) state := by
  rw [tryReadToken_eq]
  refine ⟨trivial, ?_⟩
  intro answer finish answered
  have read : (Store.answer (.getSecret space tokenSecretName) state).2 = finish :=
    congrArg Prod.snd answered
  have unchanged : (Store.answer (.getSecret space tokenSecretName) state).2.contents =
      state.contents := Store.contents_of_reading rfl
  rw [read] at unchanged
  change Kept space before finish.contents
  rw [unchanged]
  exact kept

/-- One attempt to create a namespace that there is: it changes nothing, and it
succeeds only when the namespace is the owner's. -/
theorem ensures_tryCreateNamespace_taken {mayFault : Prop} {store : Store}
    (taken : before.Has space) (same : store.contents = before) :
    (tryCreateNamespace space owner).Ensures Store.plane.setting mayFault
      (fun result finish =>
        finish.contents = before ∧ (result = .ok () → Owned space owner before)) store := by
  refine ⟨trivial, ?_⟩
  intro answer state answered
  cases answer with
  | ok created =>
      obtain ⟨name, _, named, free, _⟩ := Store.createNamespace_ok answered
      cases named
      exact absurd (same ▸ taken) free
  | error failure =>
      have unchanged : state.contents = before := (Store.contents_of_error answered).trans same
      by_cases present : failure.isAlreadyExists = true
      · simp only [Program.bind, present, if_true]
        refine ⟨trivial, ?_⟩
        intro reading finish read
        cases reading with
        | error cause =>
            exact ⟨(Store.contents_of_error read).trans unchanged, fun done => by cases done⟩
        | ok held =>
            obtain ⟨first, still⟩ := Store.getNamespace_first read
            rw [unchanged] at first still
            by_cases owned : Workspace.isOwnedBy owner held = true
            · simp only [Program.bind, owned, if_true]
              exact ⟨still, fun _ => ⟨held, first, owned⟩⟩
            · simp only [Program.bind, owned]
              exact ⟨still, fun done => by cases done⟩
      · simp only [Program.bind, present]
        exact ⟨unchanged, fun done => by cases done⟩

theorem ensures_run_ends {store : Store} (taken : store.contents.Has space) :
    (run plan space owner draws).Ensures Store.plane.setting plan.Unsteady
      (fun outcome finish => Ends space owner store.contents outcome finish.contents) store := by
  unfold run
  rw [step, Program.ensures_bind]
  refine (Retry.ensures_run (fun state => state.contents = store.contents) .inl
    (fun state same => (ensures_tryCreateNamespace_taken taken same).mono fun result finish both =>
      ⟨both, fun _ _ => both.1⟩) rfl).mono ?_
  intro result state reaches
  obtain ⟨same, adopted⟩ := reaches
  rcases result with failure | ⟨⟩
  · change Ends space owner store.contents _ state.contents
    rw [same]
    exact .refused
  · have owned : Owned space owner store.contents := adopted rfl
    have kept : Kept space store.contents state.contents := same ▸ .refl
    refine ensures_stage_ends taken owned (by decide) .inl
      (ensures_furnishing (.account _)) ?_ kept
    intro _ state kept
    refine ensures_stage_ends taken owned (by decide) .inl
      (ensures_furnishing (.secret _)) ?_ kept
    intro _ state kept
    refine ensures_stage_ends taken owned (by decide) .inl
      (ensures_furnishing (.binding _)) ?_ kept
    intro _ state kept
    refine ensures_stage_ends taken owned (by decide) .inr ensures_tryReadToken_kept ?_ kept
    intro token state kept
    exact .provisioned owned kept

/-- The namespace is there afterwards unless a rollback has completed. -/
theorem Ends.has_iff {outcome : Except Failure String}
    (ends : Ends space owner before outcome after) (taken : before.Has space) :
    after.Has space ↔ ∀ failure, outcome = .error failure → failure.rollback ≠ .completed := by
  cases ends with
  | refused => simp [taken]
  | provisioned owned kept => simp [kept.has taken]
  | deleted owned begun => simp [not_has_without]
  | undeleted owned begun kept => simp [kept.has taken]

theorem Ends.kept {outcome : Except Failure String} (ends : Ends space owner before outcome after)
    (spared : ∀ failure, outcome = .error failure → failure.rollback ≠ .completed) :
    Kept space before after := by
  cases ends with
  | refused => exact .refl
  | provisioned owned kept => exact kept
  | deleted owned begun => exact absurd rfl (spared _ rfl)
  | undeleted owned begun kept => exact kept

theorem Ends.foreign {outcome : Except Failure String}
    (ends : Ends space owner before outcome after) (foreign : ¬Owned space owner before) :
    (∃ reason, outcome = .error ⟨space, .started, reason, .notNeeded⟩) ∧ after = before := by
  cases ends with
  | refused => exact ⟨⟨_, rfl⟩, rfl⟩
  | provisioned owned kept => exact absurd owned foreign
  | deleted owned begun => exact absurd owned foreign
  | undeleted owned begun kept => exact absurd owned foreign

end

/-- A provisioning under the name of a namespace that exists, whatever failures
are pending and however often the steps are tried.  When the namespace is not
the owner's, no object changes.  When it is, all objects stay unless a rollback
completes, and a completed one has deleted the namespace with all that was in
it. -/
theorem provisioning_where_taken (store : Store) (plan : Plan) (space owner : String)
    (draws : Draws) (taken : store.contents.Has space) (steady : ¬plan.Unsteady) :
    ∃ outcome finish, Store.plane.run (run plan space owner draws) store = (.ok outcome, finish) ∧
      Ends space owner store.contents outcome finish.contents ∧
      (¬Owned space owner store.contents →
        (∃ reason, outcome = .error ⟨space, .started, reason, .notNeeded⟩) ∧
          finish.contents = store.contents) ∧
      ((∀ failure, outcome = .error failure → failure.rollback ≠ .completed) →
        Kept space store.contents finish.contents) ∧
      (finish.contents.Has space ↔
        ∀ failure, outcome = .error failure → failure.rollback ≠ .completed) := by
  have ensured : (run plan space owner draws).Ensures Store.plane.setting plan.Unsteady
      (fun outcome finish => Ends space owner store.contents outcome finish.contents) store :=
    ensures_run_ends taken
  obtain ⟨outcome, finish, _, ran, ends, rfl⟩ :=
    Handler.run_of_ensures (Handler.foreseen_ofAnswer Store.answer) ensured rfl steady
  exact ⟨outcome, finish, ran, ends, ends.foreign, ends.kept, ends.has_iff taken⟩

/-- The namespace of another owner, who asks for the same name. -/
theorem provisioning_where_taken_by_other :
    let store : Store :=
      { namespaces := [Workspace.namespaceFor "zombie-a" "bob"], stampOf := fun _ => default }
    store.contents.Has "zombie-a" ∧ ¬Plan.standard.Unsteady ∧
      ∃ outcome finish,
        Store.plane.run (run Plan.standard "zombie-a" "alice") store = (.ok outcome, finish) ∧
        Ends "zombie-a" "alice" store.contents outcome finish.contents ∧
        (¬Owned "zombie-a" "alice" store.contents →
          (∃ reason, outcome = .error ⟨"zombie-a", .started, reason, .notNeeded⟩) ∧
            finish.contents = store.contents) ∧
        ((∀ failure, outcome = .error failure → failure.rollback ≠ .completed) →
          Kept "zombie-a" store.contents finish.contents) ∧
        (finish.contents.Has "zombie-a" ↔
          ∀ failure, outcome = .error failure → failure.rollback ≠ .completed) := by
  intro store
  have taken : store.contents.Has "zombie-a" := ⟨_, List.mem_singleton.2 rfl, by decide⟩
  exact ⟨taken, Plan.steady_standard,
    provisioning_where_taken store Plan.standard "zombie-a" "alice" .neutral taken
      Plan.steady_standard⟩

/-- A workspace that was there before the provisioning is deleted with what was
in it: it is the owner's, and the first later step fails. -/
theorem own_workspace_deleted :
    let pod : Pod := { metadata := { name := some "web", space := some "zombie-a" } }
    let store : Store :=
      { namespaces := [Workspace.namespaceFor "zombie-a" "alice"]
        pods := [pod]
        pendingFailures := replaceAt (fun _ => 0) .createServiceAccount 1
        stampOf := fun _ => default }
    store.contents.Has "zombie-a" ∧ pod ∈ store.contents.pods ∧
      ∃ failure finish,
        Store.plane.run (run ⟨.withAttempts 1, .withAttempts 1⟩ "zombie-a" "alice") store =
          (.ok (.error failure), finish) ∧
        failure.rollback = .completed ∧ ¬finish.contents.Has "zombie-a" ∧
          finish.contents.pods = [] := by
  intro pod store
  have taken : store.contents.Has "zombie-a" := ⟨_, List.mem_singleton.2 rfl, by decide⟩
  refine ⟨taken, List.mem_singleton.2 rfl, _, _, rfl, rfl, ?_, rfl⟩
  intro has
  obtain ⟨held, member, _⟩ := has
  cases member

end Tenancy.Provisioning
