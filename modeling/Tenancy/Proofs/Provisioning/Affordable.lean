import Tenancy.Proofs.Cluster.Calm
import Tenancy.Proofs.Cluster.Unreliable
import Tenancy.Proofs.Provisioning.Repeated

/-!
# Affordable failures

A script that makes calls fail or lose their answers is affordable for a plan
when every stage has an attempt left after all failures that it may meet.  Then
a provisioning in a calm store ends with the whole workspace: each failure
costs one attempt, and a call that gets through is answered as if nothing had
failed before.
-/

namespace Tenancy

theorem Workspace.tokenOfDraw_ne_empty (draw : Nat) : Workspace.tokenOfDraw draw ≠ "" := by
  simp [Workspace.tokenOfDraw, Workspace.drawn]

namespace Cluster

/-- The token of every version is a drawn one. -/
def Store.DrawsTokens (store : Store) : Prop :=
  ∀ version, ∃ draw, (store.stampOf version).token = Workspace.tokenOfDraw draw

/-- A calm store that draws its tokens, and what is left of a script of failures. -/
structure Underway (script : Script) (state : Scripted Store) : Prop where
  calm : state.plane.Calm
  draws : state.plane.DrawsTokens
  mendable : state.script.IsMendable
  faults : ∀ operation, state.script.faults operation ≤ script.faults operation

section

variable {script : Script} {state after : Scripted Store} {question : Call}
variable {answer : question.Answer}

theorem Underway.answered {reply : question.Answer} (underway : Underway script state)
    (answered : Store.answer question state.plane = (reply, after.plane)) {failed : Prop}
    (spent : Spent state.script question.operation failed after.script) :
    Underway script after := by
  constructor
  · exact underway.calm.kept answered
  · unfold Store.DrawsTokens
    rw [underway.calm.stampOf_answer answered]
    exact underway.draws
  · exact spent.mendable
  · intro operation
    exact Nat.le_trans (spent.faults operation) (underway.faults operation)

/-- A call passes, or it fails, whether it took effect or not, and then a failure
of the script is spent. -/
theorem Underway.cases (holds : Store → Prop) (underway : Underway script state)
    (before : holds state.plane)
    (kept : ∀ reply store, Store.answer question state.plane = (reply, store) → holds store)
    (answered : (scripted Store.plane).answer question state = (answer, after)) :
    Underway script after ∧ holds after.plane ∧
      ((Store.answer question state.plane = (answer, after.plane) ∧
          Spent state.script question.operation False after.script) ∨
        ∃ failure, answer = .error failure ∧ failure.isTransient = true ∧
          Spent state.script question.operation True after.script) := by
  rcases scripted_cases underway.mendable answered with
    ⟨passed, spent⟩ | ⟨failure, failed, transient, dropped | lost, spent⟩
  · have answeredBy : Store.answer question state.plane = (answer, after.plane) := passed
    exact ⟨underway.answered answeredBy spent, kept _ _ answeredBy, .inl ⟨answeredBy, spent⟩⟩
  · refine ⟨⟨?_, ?_, spent.mendable, ?_⟩, ?_, .inr ⟨failure, failed, transient, spent⟩⟩
    · rw [dropped]
      exact underway.calm
    · rw [dropped]
      exact underway.draws
    · intro operation
      exact Nat.le_trans (spent.faults operation) (underway.faults operation)
    · rw [dropped]
      exact before
  · have answeredBy : Store.answer question state.plane =
        ((Store.answer question state.plane).1, after.plane) := by
      rw [lost]
      rfl
    exact ⟨underway.answered answeredBy spent, kept _ _ answeredBy,
      .inr ⟨failure, failed, transient, spent⟩⟩

end

end Cluster

namespace Provisioning

open Cluster Retry

theorem tokenIn?_of_drawn {secret : Secret} {draw : Nat}
    (held : secret.datum? tokenKey = some (Workspace.tokenOfDraw draw).toUTF8) :
    tokenIn? secret = some (Workspace.tokenOfDraw draw) := by
  have read : (secret.datum? tokenKey).bind String.fromUTF8? =
      some (Workspace.tokenOfDraw draw) := by
    rw [held, Option.bind_some, Text.fromUTF8?_toUTF8]
  rw [tokenIn?, read]
  simp [Workspace.tokenOfDraw_ne_empty]

/-- Every stage can be tried once more than its calls fail. -/
structure Affords (plan : Plan) (script : Script) : Prop where
  namespaces : script.faults .createNamespace + script.faults .getNamespace < plan.step.limit
  accounts : script.faults .createServiceAccount < plan.step.limit
  secrets : script.faults .createSecret < plan.step.limit
  bindings : script.faults .createRoleBinding < plan.step.limit
  readings : script.faults .getSecret < plan.token.limit

section

variable {plan : Plan} {policy : Policy} {jitter : Draws} {jitters : Nat → Jitter}
variable {space owner : String} {issues : Bool}
variable {before : Contents} {script : Script} {state : Scripted Store} {mayFault : Prop}

/-- A failure on the way is not the last one while attempts are left. -/
theorem not_finished_of_isTransient {failure : Cluster.Failure} {more : Nat}
    (transient : failure.isTransient = true) (left : 0 < more) :
    ¬(more = 0 ∨ StepFailure.isRepeatable (.cluster failure) = false) := by
  simp [Nat.ne_of_gt left, StepFailure.isRepeatable, transient]

/-- One call that is repeated.  A failure on its way leaves an attempt for the
next one, and the first answer of the store is a success. -/
theorem ensures_answered_calmly {Value : Type} {question : Call}
    {outcome : question.Answer → Except StepFailure Value} (holds : Store → Prop)
    (goal : Value → Store → Prop) (excused : ¬policy.Steady → mayFault)
    (affordable : script.faults question.operation < policy.limit)
    (failing : ∀ failure, failure.isTransient = true →
      outcome (.error failure) = .error (.cluster failure))
    (kept : ∀ store reply after, store.Calm → store.DrawsTokens → holds store →
      Store.answer question store = (reply, after) → holds after)
    (passing : ∀ store reply after, store.Calm → store.DrawsTokens → holds store →
      Store.answer question store = (reply, after) →
        ∃ value, outcome reply = .ok value ∧ goal value after)
    (underway : Underway script state) (start : holds state.plane) :
    (Retry.run policy StepFailure.isRepeatable
        ((call question).bind fun answer => .done (outcome answer)) jitters).Ensures
      (scripted Store.plane).setting mayFault
      (fun result after => ∃ value, result = .ok value ∧ goal value after.plane ∧
        Underway script after) state := by
  -- The invariant: not more failures than further attempts.
  refine ensures_run_counted (fun more current => Underway script current ∧
    holds current.plane ∧ current.script.faults question.operation ≤ more) excused ?_ ?_
  · intro more current invariant
    obtain ⟨underwayNow, holdsNow, enough⟩ := invariant
    refine ⟨trivial, ?_⟩
    intro answer after answered
    have keeps : ∀ reply store, Store.answer question current.plane = (reply, store) →
        holds store := by
      intro reply store answered
      exact kept _ _ _ underwayNow.calm underwayNow.draws holdsNow answered
    obtain ⟨underwayThen, holdsThen, ⟨passed, _⟩ | ⟨failure, rfl, transient, spent⟩⟩ :=
      underwayNow.cases holds holdsNow keeps answered
    · obtain ⟨value, succeeds, reached⟩ :=
        passing _ _ _ underwayNow.calm underwayNow.draws holdsNow passed
      simp only [Program.bind, succeeds]
      exact ⟨value, rfl, reached, underwayThen⟩
    · have used := spent.used trivial
      have unfinished := not_finished_of_isTransient transient (by omega : 0 < more)
      simp only [Program.bind, failing failure transient, Program.Ensures, if_neg unfinished]
      exact ⟨underwayThen, holdsThen, by omega⟩
  · refine ⟨underway, start, ?_⟩
    have initially := underway.faults question.operation
    simp only [Policy.limit] at affordable
    omega

/-- A step that succeeds goes on with what follows. -/
theorem ensures_step {Value : Type} {reached : Step} {attempt : Calls (Except StepFailure Value)}
    {next : Value → Calls (Except Failure String)} {State : Type}
    {setting : Setting Call Call.Answer State} {goal : Except Failure String → State → Prop}
    {start : State}
    (tried : (Retry.run policy StepFailure.isRepeatable attempt (jitter.within reached)).Ensures
      setting mayFault (fun result after => ∃ value, result = .ok value ∧
        (next value).Ensures setting mayFault goal after) start) :
    (step plan policy space jitter reached attempt next).Ensures setting mayFault goal start := by
  rw [step, Program.ensures_bind]
  refine tried.mono ?_
  intro result after continues
  obtain ⟨value, rfl, rest⟩ := continues
  exact rest

/-- The token secret of a workspace, where it is there, holds a drawn token. -/
def HoldsDrawn (space : String) (contents : Contents) : Prop :=
  ∀ held ∈ contents.secrets, Store.isAt space tokenSecretName held.metadata = true →
    ∃ draw, held.datum? tokenKey = some (Workspace.tokenOfDraw draw).toUTF8

theorem HoldsDrawn.add_secret {store after : Store} {created : Secret}
    (drawn : HoldsDrawn space store.contents) (calm : store.Calm) (draws : store.DrawsTokens)
    (issuing : store.issuesTokens = true)
    (answered : Store.answer (.createSecret space (tokenSecretFor space)) store =
      (.ok created, after)) : HoldsDrawn space after.contents := by
  obtain ⟨stamps, drawing, issues, rfl, added⟩ := calm.createSecret_ok answered
  intro held member place
  rw [added, Contents.secrets_append] at member
  rcases List.mem_append.1 member with earlier | own
  · exact drawn held earlier place
  · obtain ⟨draw, token⟩ := draws (stamps.stamps + 1)
    refine ⟨draw, ?_⟩
    rw [List.mem_singleton.1 own, datum?_createdSecret (issues.trans issuing), ← token, ← drawing]
    rfl

theorem Holding.owned {store : Store} {held : Namespace} (vacant : before.Vacant space)
    (holding : Holding space owner issues before .namespaceCreated store)
    (member : held ∈ store.contents.namespaces) (named : held.metadata.name = some space) :
    Workspace.isOwnedBy owner held = true := by
  obtain ⟨objects, same, parts⟩ := holding.parts
  obtain ⟨only, listed, fits⟩ := parts.namespaces.present (by decide)
  rw [same, Contents.namespaces_append, listed] at member
  rcases List.mem_append.1 member with earlier | own
  · have free := vacant.namespaces held earlier
    simp [Metadata.isNamed, named] at free
  · rw [List.mem_singleton.1 own]
    simp [Workspace.isOwnedBy, fits.owner]

/-- One attempt to create the namespace: it is there in the end, or one of the
two calls failed on its way. -/
theorem ensures_tryCreateNamespace_calmly (vacant : before.Vacant space)
    (underway : Underway script state)
    (between : Between space owner issues before .started .namespaceCreated state.plane) :
    (tryCreateNamespace space owner).Ensures (scripted Store.plane).setting mayFault
      (fun result after => Underway script after ∧
        Between space owner issues before .started .namespaceCreated after.plane ∧
        (result = .ok () ∧ Holding space owner issues before .namespaceCreated after.plane ∨
          ∃ cause, result = .error (.cluster cause) ∧ cause.isTransient = true ∧
            after.script.faults .createNamespace + after.script.faults .getNamespace <
              state.script.faults .createNamespace + state.script.faults .getNamespace))
      state := by
  refine ⟨trivial, ?_⟩
  intro answer after answered
  obtain ⟨underwayThen, betweenThen, ⟨passed, spent⟩ | ⟨failure, rfl, transient, spent⟩⟩ :=
    underway.cases (Between space owner issues before .started .namespaceCreated) between
      (fun reply store answered => (adds_namespace vacant).between between answered) answered
  · have existing : ∀ failure, answer = .error failure → failure.isAlreadyExists = true := by
      intro failure same
      subst same
      exact underway.calm.createNamespace passed rfl
    have holding : Holding space owner issues before .namespaceCreated after.plane :=
      (adds_namespace vacant).done between passed existing
    cases answer with
    | ok created => exact ⟨underwayThen, betweenThen, .inl ⟨rfl, holding⟩⟩
    | error failure =>
        simp only [Program.bind, existing failure rfl, if_true]
        refine ⟨trivial, ?_⟩
        intro reading last read
        have unchanged : ∀ reply store,
            Store.answer (.getNamespace space) after.plane = (reply, store) →
              Holding space owner issues before .namespaceCreated store := by
          intro reply store answeredRead
          cases reply with
          | ok held =>
              exact holding.of_unchanged answeredRead (Store.getNamespace_ok answeredRead).2.2
          | error cause => exact holding.of_error answeredRead
        obtain ⟨underwayLast, holdingLast, ⟨found, _⟩ | ⟨cause, rfl, lost, used⟩⟩ :=
          underwayThen.cases (Holding space owner issues before .namespaceCreated) holding
            unchanged read
        · obtain ⟨held, store, answeredRead⟩ :=
            underwayThen.calm.getNamespace (holding.has (by decide))
          cases answeredRead.symm.trans found
          obtain ⟨member, named, _⟩ := Store.getNamespace_ok found
          simp only [Program.bind, holding.owned vacant member named, if_true]
          exact ⟨underwayLast, .inr holdingLast, .inl ⟨rfl, holdingLast⟩⟩
        · refine ⟨underwayLast, .inr holdingLast, .inr ⟨cause, rfl, lost, ?_⟩⟩
          have creationsThen := spent.faults .createNamespace
          have creationsLast := used.faults .createNamespace
          have readingsThen := spent.faults .getNamespace
          have readingsLast : last.script.faults .getNamespace <
              after.script.faults .getNamespace := used.used trivial
          omega
  · simp only [Program.bind, Failure.isAlreadyExists_of_isTransient transient, Bool.false_eq_true,
      if_false]
    refine ⟨underwayThen, betweenThen, .inr ⟨failure, rfl, transient, ?_⟩⟩
    have creations : after.script.faults .createNamespace <
        state.script.faults .createNamespace := spent.used trivial
    have readings := spent.faults .getNamespace
    omega

theorem ensures_creating_calmly (vacant : before.Vacant space)
    (affordable : script.faults .createNamespace + script.faults .getNamespace < plan.step.limit)
    (underway : Underway script state)
    (holding : Holding space owner issues before .started state.plane) :
    (Retry.run plan.step StepFailure.isRepeatable (tryCreateNamespace space owner) jitters).Ensures
      (scripted Store.plane).setting plan.Unsteady
      (fun result after => ∃ value, result = .ok value ∧
        Holding space owner issues before .namespaceCreated after.plane ∧ Underway script after)
      state := by
  -- Both calls of an attempt draw on the same attempts.
  refine ensures_run_counted (fun more current => Underway script current ∧
    Between space owner issues before .started .namespaceCreated current.plane ∧
    current.script.faults .createNamespace + current.script.faults .getNamespace ≤ more)
    .inl ?_ ?_
  · intro more current invariant
    obtain ⟨underwayNow, between, enough⟩ := invariant
    refine (ensures_tryCreateNamespace_calmly vacant underwayNow between).mono ?_
    intro result after reached
    obtain ⟨underwayThen, betweenThen, ⟨rfl, holdingThen⟩ | ⟨cause, rfl, transient, used⟩⟩ :=
      reached
    · exact ⟨(), rfl, holdingThen, underwayThen⟩
    · have unfinished := not_finished_of_isTransient transient (by omega : 0 < more)
      simp only [if_neg unfinished]
      exact ⟨underwayThen, betweenThen, by omega⟩
  · refine ⟨underway, .inl holding, ?_⟩
    have creations := underway.faults .createNamespace
    have readings := underway.faults .getNamespace
    simp only [Policy.limit] at affordable
    omega

/-- A stage that creates a part inside the namespace. -/
theorem ensures_creationStage_calmly {reached later : Step} {question : Call}
    (adds : Adds space owner true before question reached later) (begun : 1 ≤ reached.parts)
    (forward : reached.parts ≤ later.parts)
    (affordable : script.faults question.operation < plan.step.limit)
    (existing : ∀ store failure after, store.Calm → store.contents.Has space →
      Store.answer question store = (.error failure, after) → failure.isAlreadyExists = true)
    (draws : ∀ store created after, store.Calm → store.DrawsTokens →
      store.issuesTokens = true → HoldsDrawn space store.contents →
      Store.answer question store = (.ok created, after) → HoldsDrawn space after.contents)
    (underway : Underway script state)
    (holding : Holding space owner true before reached state.plane)
    (drawn : HoldsDrawn space state.plane.contents) :
    (Retry.run plan.step StepFailure.isRepeatable
        ((call question).bind fun answer => .done (existsNow answer)) jitters).Ensures
      (scripted Store.plane).setting plan.Unsteady
      (fun result after => ∃ value, result = .ok value ∧
        (Holding space owner true before later after.plane ∧
          HoldsDrawn space after.plane.contents) ∧ Underway script after) state := by
  let holds (store : Store) : Prop :=
    Between space owner true before reached later store ∧ HoldsDrawn space store.contents
  have kept : ∀ store reply after, store.Calm → store.DrawsTokens → holds store →
      Store.answer question store = (reply, after) → holds after := by
    intro store reply after calm drawing holding answered
    refine ⟨adds.between holding.1 answered, ?_⟩
    cases reply with
    | ok created => exact draws _ _ _ calm drawing holding.1.issuing holding.2 answered
    | error failure =>
        rw [Store.contents_of_error answered]
        exact holding.2
  apply ensures_answered_calmly holds
    (fun _ store => Holding space owner true before later store ∧ HoldsDrawn space store.contents)
    .inl affordable
  · intro failure transient
    simp [existsNow, Failure.isAlreadyExists_of_isTransient transient]
  · exact kept
  · intro store reply after calm drawing holding answered
    have refused : ∀ failure, reply = .error failure → failure.isAlreadyExists = true := by
      intro failure same
      subst same
      exact existing _ _ _ calm (holding.1.has begun forward) answered
    have done : existsNow reply = .ok () := by
      cases reply with
      | ok created => rfl
      | error failure => simp [existsNow, refused failure rfl]
    refine ⟨(), done, adds.done holding.1 answered refused, ?_⟩
    exact (kept _ _ _ calm drawing holding answered).2
  · exact underway
  · exact ⟨.inl holding, drawn⟩

theorem ensures_reading_calmly (vacant : before.Vacant space)
    (affordable : script.faults .getSecret < plan.token.limit) (underway : Underway script state)
    (holding : Holding space owner true before .roleBindingCreated state.plane)
    (drawn : HoldsDrawn space state.plane.contents) :
    (Retry.run plan.token StepFailure.isRepeatable (tryReadToken space) jitters).Ensures
      (scripted Store.plane).setting plan.Unsteady
      (fun result after => ∃ token, result = .ok token ∧
        Settled space owner true before (.ok token) after.plane.contents ∧
          Underway script after) state := by
  let holds (store : Store) : Prop :=
    Holding space owner true before .roleBindingCreated store ∧ HoldsDrawn space store.contents
  rw [tryReadToken_eq]
  apply ensures_answered_calmly holds
    (fun token store => Settled space owner true before (.ok token) store.contents) .inr affordable
  · intro failure transient
    rfl
  · intro store reply after calm drawing holdingNow answered
    refine ⟨holdingNow.1.read_again answered, ?_⟩
    cases reply with
    | ok secret =>
        rw [(Store.getSecret_ok answered).2]
        exact holdingNow.2
    | error failure =>
        rw [Store.contents_of_error answered]
        exact holdingNow.2
  · intro store reply after calm drawing holdingNow answered
    obtain ⟨objects, same, parts⟩ := holdingNow.1.parts
    obtain ⟨held, only, fits⟩ := parts.secrets.present (by decide)
    have listed : held ∈ store.contents.secrets := by simp [same, only]
    obtain ⟨secret, other, found⟩ := calm.getSecret listed fits.place
    cases found.symm.trans answered
    obtain ⟨first, _⟩ := Store.getSecret_ok answered
    have member := List.mem_of_find?_eq_some first
    have place := List.find?_some first
    obtain ⟨draw, datum⟩ := holdingNow.2 secret member place
    have read : readOutcome (.ok secret) = .ok (Workspace.tokenOfDraw draw) := by
      simp only [readOutcome, tokenIn?_of_drawn datum]
    exact ⟨_, read, holdingNow.1.token_read vacant answered read⟩
  · exact underway
  · exact ⟨holding, drawn⟩

theorem ensures_run_calmly (vacant : before.Vacant space) (affords : Affords plan script)
    (underway : Underway script state)
    (holding : Holding space owner true before .started state.plane) :
    (run plan space owner jitter).Ensures (scripted Store.plane).setting plan.Unsteady
      (fun outcome after => ∃ token, outcome = .ok token ∧
        Settled space owner true before (.ok token) after.plane.contents) state := by
  unfold run
  apply ensures_step
  refine (ensures_creating_calmly vacant affords.namespaces underway holding).mono ?_
  intro result state created
  obtain ⟨⟨⟩, rfl, holding, underway⟩ := created
  have drawn : HoldsDrawn space state.plane.contents := by
    intro held member place
    obtain ⟨objects, same, parts⟩ := holding.parts
    rw [same] at member
    rw [not_isAt_of_missing vacant.secrets parts.secrets (by decide) member] at place
    cases place
  refine ⟨(), rfl, ?_⟩
  apply ensures_step
  refine (ensures_creationStage_calmly (adds_account vacant) (by decide) (by decide)
    affords.accounts ?_ ?_ underway holding drawn).mono ?_
  · intro store failure after calm has answered
    exact calm.createServiceAccount answered has rfl
  · intro store created after calm drawing issuing drawn answered
    obtain ⟨stamps, _, _, added⟩ := Store.createServiceAccount_ok answered
    rw [added]
    simpa [HoldsDrawn] using drawn
  intro result state created
  obtain ⟨⟨⟩, rfl, ⟨holding, drawn⟩, underway⟩ := created
  refine ⟨(), rfl, ?_⟩
  apply ensures_step
  refine (ensures_creationStage_calmly (adds_secret vacant) (by decide) (by decide)
    affords.secrets ?_ ?_ underway holding drawn).mono ?_
  · intro store failure after calm has answered
    exact calm.createSecret answered has rfl
  · intro store created after calm drawing issuing drawn answered
    exact drawn.add_secret calm drawing issuing answered
  intro result state created
  obtain ⟨⟨⟩, rfl, ⟨holding, drawn⟩, underway⟩ := created
  refine ⟨(), rfl, ?_⟩
  apply ensures_step
  refine (ensures_creationStage_calmly (adds_binding vacant) (by decide) (by decide)
    affords.bindings ?_ ?_ underway holding drawn).mono ?_
  · intro store failure after calm has answered
    exact calm.createRoleBinding answered has rfl
  · intro store created after calm drawing issuing drawn answered
    obtain ⟨stamps, _, _, added⟩ := Store.createRoleBinding_ok answered
    rw [added]
    simpa [HoldsDrawn] using drawn
  intro result state created
  obtain ⟨⟨⟩, rfl, ⟨holding, drawn⟩, underway⟩ := created
  refine ⟨(), rfl, ?_⟩
  apply ensures_step
  refine (ensures_reading_calmly vacant affords.readings underway holding drawn).mono ?_
  intro result state read
  obtain ⟨token, rfl, settled, _⟩ := read
  exact ⟨token, rfl, token, rfl, settled⟩

end

/-- In a calm store a provisioning that can afford the failures on its way ends
with a token and the whole workspace, each part once, and never deletes. -/
theorem provisioning_within_budget (store : Store) (script : Script) (plan : Plan)
    (space owner : String) (jitter : Draws) (vacant : store.contents.Vacant space)
    (issues : store.issuesTokens = true) (draws : store.DrawsTokens) (calm : store.Calm)
    (mendable : script.IsMendable) (affords : Affords plan script) (steady : ¬plan.Unsteady) :
    ∃ token history finish,
      (recorded (scripted Store.plane)).run (run plan space owner jitter) ⟨[], ⟨script, store⟩⟩ =
          (.ok (.ok token), ⟨history, finish⟩) ∧
        (∀ exchange ∈ history, exchange.1.operation ≠ .deleteNamespace) ∧
        Settled space owner true store.contents (.ok token) finish.plane.contents := by
  have underway : Underway script ⟨script, store⟩ :=
    ⟨calm, draws, mendable, fun _ => Nat.le_refl _⟩
  have holding : Holding space owner true store.contents .started store :=
    holding_started issues rfl
  have start : (⟨[], ⟨script, store⟩⟩ : Recorded (Scripted Store)).plane = ⟨script, store⟩ := rfl
  obtain ⟨_, ⟨history, finish⟩, _, ran, ⟨token, rfl, settled⟩, rfl⟩ :=
    Handler.run_of_ensures (foreseen_recorded (Handler.foreseen_setting fun _ _ => rfl))
      (ensures_run_calmly vacant affords underway holding) start steady
  refine ⟨token, history, finish, ran, ?_, settled⟩
  obtain ⟨course, follows, yields, rfl⟩ := course_of_run ran
  exact follows.keeps_of_token yields

/-- Beside another workspace, with a failure or two of every kind. -/
theorem provisioning_within_budget_beside :
    let store : Store :=
      { namespaces := [Workspace.namespaceFor "zombie-b" "bob"]
        stampOf := fun version => ⟨"", default, Workspace.tokenOfDraw version⟩ }
    let script : Script := fun operation =>
      match operation with
      | .createNamespace => [.lose (.timeout "create_namespace" Span.zero)]
      | .getNamespace => [.fail (.refused none "connection reset")]
      | .createSecret => [.pass, .lose (.refused (some 500) "too late")]
      | .createRoleBinding => [.fail (.refused (some 429) "slow down")]
      | .getSecret => [.lose (.timeout "get_secret" Span.zero)]
      | _ => []
    let plan : Plan := ⟨.withAttempts 3, .withAttempts 2⟩
    (store.contents.Vacant "zombie-a" ∧ store.issuesTokens = true ∧ store.DrawsTokens ∧
        store.Calm ∧ script.IsMendable ∧ Affords plan script ∧ ¬plan.Unsteady) ∧
      ∃ token history finish,
        (recorded (scripted Store.plane)).run (run plan "zombie-a" "alice")
            ⟨[], ⟨script, store⟩⟩ = (.ok (.ok token), ⟨history, finish⟩) ∧
          (∀ exchange ∈ history, exchange.1.operation ≠ .deleteNamespace) ∧
          Settled "zombie-a" "alice" true store.contents (.ok token) finish.plane.contents := by
  intro store script plan
  have vacant : store.contents.Vacant "zombie-a" := by
    constructor
    · intro held member
      rw [List.mem_singleton.1 member]
      decide
    all_goals
      intro held member
      cases member
  have draws : store.DrawsTokens := fun version => ⟨version, rfl⟩
  have calm : store.Calm := fun _ => rfl
  have mendable : script.IsMendable := Script.isMendable_of_all (by decide)
  have affords : Affords plan script := by
    constructor <;> decide
  have steady : ¬plan.Unsteady := Plan.steady_withAttempts 3 2
  exact ⟨⟨vacant, rfl, draws, calm, mendable, affords, steady⟩,
    provisioning_within_budget store script plan "zombie-a" "alice" .neutral vacant rfl draws calm
      mendable affords steady⟩

end Provisioning

end Tenancy
