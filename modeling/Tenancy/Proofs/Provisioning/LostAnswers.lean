import Tenancy.Proofs.Cluster.Unreliable
import Tenancy.Proofs.Provisioning.Repeated

/-!
# Lost answers

What a provisioning leaves in a store behind an unreliable plane.  A rollback
that completed took everything back, whatever got lost.  The first step is
different: when no creation of the namespace was answered, there is no rollback,
although the store may have made the namespace.
-/

namespace Tenancy.Provisioning

open Cluster Retry

section

variable {plan : Plan} {draws : Draws} {space owner : String} {issues : Bool} {before : Contents}
variable {reached later : Step} {question : Call} {answer : question.Answer}
variable {state after : Recorded Store}

theorem Adds.relayed (adds : Adds space owner issues before question reached later)
    (between : Between space owner issues before reached later state.plane)
    (relayed : Relayed state question answer after) :
    Between space owner issues before reached later after.plane ∧
      ((∀ failure, answer = .error failure → failure.isAlreadyExists = true) →
        Holding space owner issues before later after.plane) := by
  refine ⟨relayed.keeps (fun state => Between space owner issues before reached later state.plane)
    between fun reply store answered => adds.between between answered, ?_⟩
  intro existing
  rcases relayed.answered_or_transient with answered | ⟨failure, same, transient⟩
  · exact adds.done between answered existing
  · have taken := existing failure same
    rw [Failure.isAlreadyExists_of_isTransient transient] at taken
    cases taken

/-- The store holds what was there before, and the parts by some step. -/
def HoldingSome (space owner : String) (issues : Bool) (before : Contents) (store : Store) :
    Prop :=
  ∃ reached, Holding space owner issues before reached store

theorem Between.holdingSome {store : Store}
    (between : Between space owner issues before reached later store) :
    HoldingSome space owner issues before store := by
  rcases between with missing | present
  · exact ⟨reached, missing⟩
  · exact ⟨later, present⟩

theorem HoldingSome.deleted {store finish : Store} {answer : (Call.deleteNamespace space).Answer}
    (vacant : before.Vacant space) (holding : HoldingSome space owner issues before store)
    (answered : Store.answer (.deleteNamespace space) store = (answer, finish)) :
    HoldingSome space owner issues before finish ∧
      (deleteOutcome answer = .ok () → finish.contents = before) := by
  obtain ⟨reached, holds⟩ := holding
  rcases answer with failure | ⟨⟩
  · have unchanged : Holding space owner issues before reached finish := holds.of_error answered
    refine ⟨⟨reached, unchanged⟩, ?_⟩
    intro deleted
    have missing := Store.deleteNamespace_missing answered (isNotFound_of_deleteOutcome deleted)
    apply unchanged.untouched
    apply Nat.eq_zero_of_not_pos
    intro begun
    exact missing (holds.has begun)
  · have back : finish.contents = before := holds.taken_back vacant answered
    exact ⟨⟨.started, holding_started (holds.issuing_after answered) back⟩, fun _ => back⟩

theorem HoldingSome.relayed {answer : (Call.deleteNamespace space).Answer}
    (vacant : before.Vacant space) (holding : HoldingSome space owner issues before state.plane)
    (relayed : Relayed state (.deleteNamespace space) answer after) :
    HoldingSome space owner issues before after.plane ∧
      (deleteOutcome answer = .ok () → after.plane.contents = before) := by
  refine ⟨relayed.keeps (fun state => HoldingSome space owner issues before state.plane)
    holding fun reply store answered => (holding.deleted vacant answered).1, ?_⟩
  intro deleted
  rcases relayed.answered_or_transient with answered | ⟨failure, rfl, transient⟩
  · exact (holding.deleted vacant answered).2 deleted
  · have missing := isNotFound_of_deleteOutcome deleted
    rw [Failure.isNotFound_of_isTransient transient] at missing
    cases missing

/-- How a provisioning leaves a store that calls and answers may not reach, and
its history.  Where no rollback was needed, a namespace that the store made is
left behind. -/
def Remains (space owner : String) (issues : Bool) (before : Contents) :
    Except Failure String → Recorded Store → Prop
  | .ok token, finish => Settled space owner issues before (.ok token) finish.plane.contents
  | .error failure, finish =>
      match failure.rollback with
      | .notNeeded =>
          (Uncreated finish.history ∧ finish.plane.contents = before) ∨
            ¬Uncreated finish.history ∧ ∃ held, IsNamespaceOf space owner held ∧
              finish.plane.contents = before ++ ({ namespaces := [held] } : Contents)
      | .completed => finish.plane.contents = before
      | .failed _ => ∃ reached objects, finish.plane.contents = before ++ objects ∧
          PartsBy reached space owner issues objects

theorem ensures_rollBack_remains (vacant : before.Vacant space) (begun : reached ≠ .started)
    (cause : StepFailure) (holding : HoldingSome space owner issues before state.plane) :
    (rollBack plan space draws reached cause).Ensures unreliable plan.Unsteady
      (Remains space owner issues before) state := by
  rw [rollBack, if_neg begun, tryDelete_eq, Program.ensures_bind]
  let goal (result : Except Cluster.Failure Unit) (finish : Recorded Store) : Prop :=
    Leaves (fun _ store => store.contents = before) (HoldingSome space owner issues before)
      result finish.plane
  have deleted : (Retry.run plan.step Cluster.Failure.isTransient
      ((call (.deleteNamespace space)).bind fun answer => .done (deleteOutcome answer))
      draws.rollback).Ensures unreliable plan.Unsteady goal state := by
    refine Retry.ensures_run (fun current => HoldingSome space owner issues before current.plane)
      .inl ?_ holding
    intro current holds
    refine ⟨trivial, ?_⟩
    intro answer finish relayed
    obtain ⟨still, back⟩ := HoldingSome.relayed vacant holds relayed
    refine ⟨?_, fun _ _ => still⟩
    rcases outcome : deleteOutcome answer with failure | ⟨⟩
    · exact still
    · exact back outcome
  refine deleted.mono ?_
  intro result finish reaches
  rcases result with failure | ⟨⟩
  · obtain ⟨by_then, holds⟩ := reaches
    exact ⟨by_then, holds.parts⟩
  · exact reaches

theorem ensures_creationStage_remains {next : Unit → Calls (Except Failure String)}
    (vacant : before.Vacant space) (begun : reached ≠ .started)
    (adds : Adds space owner issues before question reached later)
    (rest : ∀ current : Recorded Store, Holding space owner issues before later current.plane →
      (next ()).Ensures unreliable plan.Unsteady (Remains space owner issues before) current)
    (holding : Holding space owner issues before reached state.plane) :
    (step plan plan.step space draws reached
        ((call question).bind fun answer => .done (existsNow answer)) next).Ensures
      unreliable plan.Unsteady (Remains space owner issues before) state := by
  let goal (result : Except StepFailure Unit) (finish : Recorded Store) : Prop :=
    Leaves (fun _ => Holding space owner issues before later)
      (Between space owner issues before reached later) result finish.plane
  have between : Between space owner issues before reached later state.plane := .inl holding
  have created : (Retry.run plan.step StepFailure.isRepeatable
      ((call question).bind fun answer => .done (existsNow answer))
      (draws.within reached)).Ensures unreliable plan.Unsteady goal state := by
    refine Retry.ensures_run
      (fun current => Between space owner issues before reached later current.plane) .inl ?_ between
    intro current holds
    refine ⟨trivial, ?_⟩
    intro answer finish relayed
    obtain ⟨still, done⟩ := adds.relayed holds relayed
    refine ⟨?_, fun _ _ => still⟩
    rcases outcome : existsNow answer with failure | ⟨⟩
    · exact still
    · apply done
      intro failure same
      subst same
      exact existsNow_eq_ok outcome
  rw [step, Program.ensures_bind]
  refine created.mono ?_
  intro result finish reaches
  rcases result with failure | ⟨⟩
  · exact ensures_rollBack_remains vacant begun failure reaches.holdingSome
  · exact rest finish reaches

theorem ensures_readingStage_remains (vacant : before.Vacant space)
    (holding : Holding space owner issues before .roleBindingCreated state.plane) :
    (step plan plan.token space draws .roleBindingCreated (tryReadToken space)
        fun token => .done (.ok token)).Ensures unreliable plan.Unsteady
      (Remains space owner issues before) state := by
  let goal (result : Except StepFailure String) (finish : Recorded Store) : Prop :=
    Leaves (fun token store => Settled space owner issues before (.ok token) store.contents)
      (Holding space owner issues before .roleBindingCreated) result finish.plane
  have read : (Retry.run plan.token StepFailure.isRepeatable
      ((call (.getSecret space tokenSecretName)).bind fun answer => .done (readOutcome answer))
      (draws.within .roleBindingCreated)).Ensures unreliable plan.Unsteady goal state := by
    refine Retry.ensures_run
      (fun current => Holding space owner issues before .roleBindingCreated current.plane) .inr ?_
      holding
    intro current holds
    refine ⟨trivial, ?_⟩
    intro answer finish relayed
    have still : Holding space owner issues before .roleBindingCreated finish.plane :=
      relayed.keeps (fun state => Holding space owner issues before .roleBindingCreated state.plane)
        holds fun reply store answered => holds.read_again answered
    refine ⟨?_, fun _ _ => still⟩
    cases outcome : readOutcome answer with
    | error failure => exact still
    | ok token =>
        rcases relayed.answered_or_transient with answered | ⟨failure, rfl, transient⟩
        · exact holds.token_read vacant answered outcome
        · cases outcome
  rw [tryReadToken_eq, step, Program.ensures_bind]
  refine read.mono ?_
  intro result finish reaches
  cases result with
  | ok token => exact reaches
  | error failure =>
      exact ensures_rollBack_remains vacant (by decide) failure ⟨.roleBindingCreated, reaches⟩

/-- The first stage under way: the store has made the namespace, or it has not. -/
inductive Opening (space owner : String) (issues : Bool) (before : Contents)
    (state : Recorded Store) : Prop where
  | missing (uncreated : Uncreated state.history)
      (holding : Holding space owner issues before .started state.plane)
  | present (created : ¬Uncreated state.history)
      (holding : Holding space owner issues before .namespaceCreated state.plane)

theorem Opening.between (opening : Opening space owner issues before state) :
    Between space owner issues before .started .namespaceCreated state.plane := by
  cases opening with
  | missing uncreated holding => exact .inl holding
  | present created holding => exact .inr holding

theorem Opening.answered_creation {store : Store}
    {answer : (Call.createNamespace (Workspace.namespaceFor space owner)).Answer}
    (vacant : before.Vacant space) (opening : Opening space owner issues before state)
    (answered : Store.answer (.createNamespace (Workspace.namespaceFor space owner)) state.plane =
      (answer, store)) :
    Opening space owner issues before ⟨state.history ++
      [⟨.createNamespace (Workspace.namespaceFor space owner), answer⟩], store⟩ := by
  cases opening with
  | missing uncreated holding =>
      cases answer with
      | ok held =>
          refine .present ?_ (holding.add_namespace answered)
          intro uncreatedThen
          exact uncreatedThen _ held (List.mem_append_right _ (List.mem_singleton.2 rfl))
      | error failure =>
          exact .missing (uncreated_append_error uncreated) (holding.of_error answered)
  | present created holding =>
      cases answer with
      | ok held => exact absurd answered ((adds_namespace vacant).once holding)
      | error failure =>
          exact .present (not_uncreated_append created) (holding.of_error answered)

theorem Opening.answered_reading {answer : (Call.getNamespace space).Answer} {store : Store}
    (opening : Opening space owner issues before state)
    (answered : Store.answer (.getNamespace space) state.plane = (answer, store)) :
    Opening space owner issues before
      ⟨state.history ++ [⟨.getNamespace space, answer⟩], store⟩ := by
  have unchanged : store.contents = state.plane.contents := by
    cases answer with
    | ok held => exact (Store.getNamespace_ok answered).2.2
    | error failure => exact Store.contents_of_error answered
  cases opening with
  | missing uncreated holding =>
      refine .missing ?_ (holding.of_unchanged answered unchanged)
      intro object held member
      rcases List.mem_append.1 member with earlier | now
      · exact uncreated object held earlier
      · cases List.mem_singleton.1 now
  | present created holding =>
      exact .present (not_uncreated_append created) (holding.of_unchanged answered unchanged)

theorem Opening.relayed_reading {answer : (Call.getNamespace space).Answer} {held : Namespace}
    (vacant : before.Vacant space) (opening : Opening space owner issues before state)
    (relayed : Relayed state (.getNamespace space) answer after) (found : answer = .ok held) :
    Holding space owner issues before .namespaceCreated after.plane := by
  subst found
  rcases relayed.answered_or_transient with answered | ⟨failure, impossible, _⟩
  · obtain ⟨member, named, unchanged⟩ := Store.getNamespace_ok answered
    have has : state.plane.contents.Has space := ⟨held, member, by simp [Metadata.isNamed, named]⟩
    exact (opening.between.created vacant has).of_unchanged answered unchanged
  · cases impossible

theorem ensures_tryCreateNamespace_opening {mayFault : Prop} (vacant : before.Vacant space)
    (opening : Opening space owner issues before state) :
    (tryCreateNamespace space owner).Ensures unreliable mayFault
      (fun result finish => Opening space owner issues before finish ∧
        (result = .ok () → Holding space owner issues before .namespaceCreated finish.plane))
      state := by
  refine ⟨trivial, ?_⟩
  intro answer finish relayed
  have openingThen : Opening space owner issues before finish :=
    relayed.keeps (Opening space owner issues before) opening fun reply store answered =>
      opening.answered_creation vacant answered
  have made := ((adds_namespace vacant).relayed opening.between relayed).2
  cases answer with
  | ok held =>
      refine ⟨openingThen, fun _ => made ?_⟩
      intro failure impossible
      cases impossible
  | error failure =>
      cases taken : failure.isAlreadyExists with
      | false =>
          simp only [Program.bind, taken, Bool.false_eq_true, if_false]
          exact ⟨openingThen, fun impossible => by cases impossible⟩
      | true =>
          simp only [Program.bind, taken, if_true]
          refine ⟨trivial, ?_⟩
          intro reading last relayedReading
          have openingLast : Opening space owner issues before last :=
            relayedReading.keeps (Opening space owner issues before) openingThen
              fun reply store answered => openingThen.answered_reading answered
          cases reading with
          | error cause => exact ⟨openingLast, fun impossible => by cases impossible⟩
          | ok held =>
              have holding := openingThen.relayed_reading vacant relayedReading rfl
              by_cases owned : Workspace.isOwnedBy owner held = true
              · simp only [Program.bind, owned, if_true]
                exact ⟨openingLast, fun _ => holding⟩
              · simp only [Program.bind, owned]
                exact ⟨openingLast, fun _ => holding⟩

theorem Opening.remains {cause : String} (opening : Opening space owner issues before state) :
    Remains space owner issues before (.error ⟨space, .started, cause, .notNeeded⟩) state := by
  cases opening with
  | missing uncreated holding => exact .inl ⟨uncreated, holding.untouched rfl⟩
  | present created holding =>
      right
      obtain ⟨objects, same, parts⟩ := holding.parts
      obtain ⟨held, only, fits⟩ := parts.namespaces.present (by decide)
      refine ⟨created, held, fits, ?_⟩
      rw [same]
      congr 1
      apply Contents.ext
      · exact only
      · exact parts.pods
      · exact parts.secrets.absent (by decide)
      · exact parts.accounts.absent (by decide)
      · exact parts.bindings.absent (by decide)

theorem ensures_run_remains {store : Store} (vacant : store.contents.Vacant space) :
    (run plan space owner draws).Ensures unreliable plan.Unsteady
      (Remains space owner store.issuesTokens store.contents) ⟨[], store⟩ := by
  have opening : Opening space owner store.issuesTokens store.contents ⟨[], store⟩ :=
    .missing uncreated_nil (holding_started rfl rfl)
  unfold run
  rw [step, Program.ensures_bind]
  refine (Retry.ensures_run (Opening space owner store.issuesTokens store.contents) .inl
    (fun current holds =>
    (ensures_tryCreateNamespace_opening vacant holds).mono fun result finish both =>
      ⟨both, fun _ _ => both.1⟩) opening).mono ?_
  intro result finish reaches
  obtain ⟨openingThen, made⟩ := reaches
  rcases result with failure | ⟨⟩
  · exact openingThen.remains
  · refine ensures_creationStage_remains vacant (by decide) (adds_account vacant) ?_ (made rfl)
    intro current holds
    refine ensures_creationStage_remains vacant (by decide) (adds_secret vacant) ?_ holds
    intro current holds
    refine ensures_creationStage_remains vacant (by decide) (adds_binding vacant) ?_ holds
    intro current holds
    exact ensures_readingStage_remains vacant holds

end

/-- Behind any unreliable plane, under a name that nothing in the store has, a
provisioning that rolled back leaves the objects as they were.  One that had
nothing to roll back was told of no creation, and it leaves the objects as they
were exactly when the store did not make the namespace either. -/
theorem provisioning_with_lost_answers {State : Type} (plane : Plane State)
    {shows : State → Recorded Store → Prop} (foreseen : plane.Foreseen unreliable shows)
    (start : State) (store : Store) (shown : shows start ⟨[], store⟩) (plan : Plan)
    (space owner : String) (draws : Draws) (vacant : store.contents.Vacant space)
    (steady : ¬plan.Unsteady) :
    ∃ outcome seen finish after,
      (recorded plane).run (run plan space owner draws) ⟨[], start⟩ =
          (.ok outcome, ⟨seen, finish⟩) ∧
        shows finish after ∧ Remains space owner store.issuesTokens store.contents outcome after ∧
        ∀ failure, outcome = .error failure → failure.rollback = .notNeeded → Uncreated seen := by
  have shownStart : shows (⟨[], start⟩ : Recorded State).plane ⟨[], store⟩ := shown
  obtain ⟨outcome, ⟨seen, finish⟩, after, ran, remains, shownAfter⟩ :=
    Handler.run_of_ensures (foreseen_recorded foreseen) (ensures_run_remains vacant) shownStart
      steady
  refine ⟨outcome, seen, finish, after, ran, shownAfter, remains, ?_⟩
  intro failure failed spared
  subst failed
  -- What was answered to the calls is told by the course of the same run.
  obtain ⟨course, follows, yields, rfl⟩ := course_of_run ran
  exact follows.uncreated_of_notNeeded yields spared

/-- The answer to the creation of the namespace gets lost, and so does the call
that would show that it exists. -/
theorem provisioning_with_lost_answers_twice :
    let store : Store := { stampOf := fun _ => default }
    let plan : Plan := ⟨.withAttempts 2, .withAttempts 2⟩
    let script : Script :=
      (Script.empty.set .createNamespace [.lose (.timeout "create_namespace" Span.zero)]).set
        .getNamespace [.fail (.timeout "get_namespace" Span.zero)]
    script.IsMendable ∧ store.contents.Vacant "zombie-a" ∧ ¬plan.Unsteady ∧
      ∃ outcome seen finish after,
        (recorded (scripted (recorded Store.plane))).run (run plan "zombie-a" "alice")
            ⟨[], ⟨script, ⟨[], store⟩⟩⟩ = (.ok outcome, ⟨seen, finish⟩) ∧
          (finish.plane = after ∧ finish.script.IsMendable) ∧
          Remains "zombie-a" "alice" store.issuesTokens store.contents outcome after ∧
          ∀ failure, outcome = .error failure → failure.rollback = .notNeeded →
            Uncreated seen := by
  intro store plan script
  have mendable : script.IsMendable := Script.isMendable_of_all (by decide)
  have vacant : store.contents.Vacant "zombie-a" := Contents.vacant_empty "zombie-a"
  have steady : ¬plan.Unsteady := Plan.steady_withAttempts 2 2
  exact ⟨mendable, vacant, steady,
    provisioning_with_lost_answers (scripted (recorded Store.plane)) scripted_foreseen
      ⟨script, ⟨[], store⟩⟩ store ⟨rfl, mendable⟩ plan "zombie-a" "alice" .neutral vacant steady⟩

/-- A rollback that is not needed does not mean that nothing was created: when
the answer to the only creation gets lost, the namespace is left behind. -/
theorem lost_creation_left_behind :
    let store : Store := { stampOf := fun _ => default }
    let script : Script := Script.empty.set .createNamespace
      [.lose (.timeout "create_namespace" (Span.ofSeconds 10))]
    script.IsMendable ∧ store.contents.Vacant "zombie-a" ∧
      ∃ failure finish,
        (scripted Store.plane).run
            (run ⟨.withAttempts 1, .withAttempts 1⟩ "zombie-a" "alice") ⟨script, store⟩ =
          (.ok (.error failure), finish) ∧
        failure.rollback = .notNeeded ∧ finish.plane.contents.Has "zombie-a" := by
  intro store script
  have mendable : script.IsMendable := Script.isMendable_of_all (by decide)
  have vacant : store.contents.Vacant "zombie-a" := Contents.vacant_empty "zombie-a"
  refine ⟨mendable, vacant, _, _, rfl, rfl, ?_⟩
  exact ⟨_, List.mem_singleton.2 rfl, by decide⟩

end Tenancy.Provisioning
