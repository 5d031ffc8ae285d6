import Tenancy.Proofs.Provisioning.Course

/-!
# The protocol of provisioning

Whatever a control plane answers, a provisioning makes the calls of a course
and yields what the course amounts to.  The guarantees come stage by stage,
from the last one to the first.
-/

namespace Tenancy.Provisioning

open Cluster Retry

def Conflicted (history : List Exchange) : Prop :=
  ∃ object message,
    (⟨.createNamespace object, .error (.alreadyExists message)⟩ : Exchange) ∈ history

/-- What a provisioning may ask after a history: only calls for its own
workspace, no second namespace after one that was created, and nothing else
before the namespace was acquired. -/
def MayAsk (space owner : String) (history : List Exchange) : Call → Prop
  | .createNamespace object => object = Workspace.namespaceFor space owner ∧ Uncreated history
  | .getNamespace name => name = space ∧ Conflicted history
  | .createServiceAccount name account =>
      name = space ∧ account = accountFor space ∧ Acquired space owner history
  | .createSecret name secret =>
      name = space ∧ secret = tokenSecretFor space ∧ Acquired space owner history
  | .createRoleBinding name binding =>
      name = space ∧ binding = bindingFor space ∧ Acquired space owner history
  | .getSecret name secret =>
      name = space ∧ secret = tokenSecretName ∧ Acquired space owner history
  | .deleteNamespace name => name = space ∧ Acquired space owner history
  | _ => False

/-- A pause that could come out negative, or too long to be counted. -/
def Plan.Unsteady (plan : Plan) : Prop := ¬plan.step.Steady ∨ ¬plan.token.Steady

theorem MayAsk.address {space owner : String} {history : List Exchange} {call : Call}
    (admitted : MayAsk space owner history call) : call.arguments.head? = some (some space) := by
  cases call with
  | createNamespace object => rw [admitted.1]; rfl
  | getNamespace name => rw [admitted.1]; rfl
  | createServiceAccount name account => rw [admitted.1]; rfl
  | createSecret name secret => rw [admitted.1]; rfl
  | createRoleBinding name binding => rw [admitted.1]; rfl
  | getSecret name secret => rw [admitted.1]; rfl
  | deleteNamespace name => rw [admitted.1]; rfl
  | _ => exact admitted.elim

section

variable {plan : Plan} {space owner : String} {history : List Exchange} {draws : Draws}

theorem ensures_tryCreateNamespace (uncreated : Uncreated history) {mayFault : Prop} :
    (tryCreateNamespace space owner).Ensures (recording (MayAsk space owner)) mayFault
      (fun result after => ∃ creation : Creation, result = creation.outcome space owner ∧
        after = history ++ creation.exchanges space owner)
      history := by
  refine ⟨⟨rfl, uncreated⟩, ?_⟩
  intro answer after same
  subst same
  cases answer with
  | ok object => exact ⟨.created object, rfl, rfl⟩
  | error cause =>
      cases cause with
      | alreadyExists message =>
          refine ⟨⟨rfl, _, message, List.mem_append_right _ (List.mem_singleton.2 rfl)⟩, ?_⟩
          intro reading after same
          subst same
          cases reading with
          | error cause => exact ⟨.conflicted message (.error cause), rfl, by
              simp [Creation.exchanges]⟩
          | ok held =>
              have outcome : Creation.outcome space owner (.conflicted message (.ok held)) =
                  if Workspace.isOwnedBy owner held then .ok () else .error (.nameTaken space) :=
                rfl
              by_cases owned : Workspace.isOwnedBy owner held = true
              · simp only [Program.bind, owned, if_true]
                exact ⟨.conflicted message (.ok held), by simp [outcome, owned], by
                  simp [Creation.exchanges]⟩
              · simp only [Program.bind, owned]
                exact ⟨.conflicted message (.ok held), by simp [outcome, owned], by
                  simp [Creation.exchanges]⟩
      | notFound message => exact ⟨.refused (.notFound message) rfl, rfl, rfl⟩
      | timeout operation length => exact ⟨.refused (.timeout operation length) rfl, rfl, rfl⟩
      | refused code message => exact ⟨.refused (.refused code message) rfl, rfl, rfl⟩

theorem ensures_creating (uncreated : Uncreated history) {jitters : Nat → Jitter} :
    (Retry.run plan.step StepFailure.isRepeatable (tryCreateNamespace space owner) jitters).Ensures
      (recording (MayAsk space owner)) plan.Unsteady
      (fun result after => ∃ creations : List Creation,
        Retried StepFailure.isRepeatable plan.step.limit
            (creations.map (Creation.outcome space owner)) ∧
          (creations.map (Creation.outcome space owner)).getLast? = some result ∧
          after = history ++ creations.flatMap (Creation.exchanges space owner))
      history := by
  apply ensures_run_recorded
  · exact .inl
  · intro failed failing
    apply ensures_tryCreateNamespace
    intro object created member
    rcases List.mem_append.1 member with before | during
    · exact uncreated object created before
    · obtain ⟨creation, present, listed⟩ := List.mem_flatMap.1 during
      obtain ⟨failure, failed⟩ := failing creation present
      -- An attempt that created the namespace did not fail.
      cases creation with
      | created other => cases failed
      | conflicted message reading => simp [Creation.exchanges] at listed
      | refused cause other => simp [Creation.exchanges] at listed

theorem ensures_answered {Value Failure : Type} {policy : Policy} {jitters : Nat → Jitter}
    {mayFault : Prop}
    {repeatable : Failure → Bool} {question : Call}
    {outcome : question.Answer → Except Failure Value}
    (excused : ¬policy.Steady → mayFault)
    (admitted : ∀ later, MayAsk space owner (history ++ later) question) :
    (Retry.run policy repeatable
        ((call question).bind fun answer => .done (outcome answer)) jitters).Ensures
      (recording (MayAsk space owner)) mayFault
      (fun result after => ∃ answers : List question.Answer,
        Retried repeatable policy.limit (answers.map outcome) ∧
          (answers.map outcome).getLast? = some result ∧
          after = history ++ answers.map fun answer => ⟨question, answer⟩)
      history := by
  refine (ensures_run_recorded (fun answer => [(⟨question, answer⟩ : Exchange)]) outcome history
    excused ?_).mono ?_
  · intro failed failing
    refine ⟨admitted _, ?_⟩
    intro answer after same
    subst same
    exact ⟨answer, rfl, rfl⟩
  · intro result after recorded
    obtain ⟨answers, retried, last, rfl⟩ := recorded
    exact ⟨answers, retried, last, by rw [List.map_eq_flatMap]⟩

theorem tryReadToken_eq : tryReadToken space =
    (call (.getSecret space tokenSecretName)).bind fun answer => .done (readOutcome answer) := by
  unfold tryReadToken
  congr 1
  funext answer
  cases answer with
  | error cause => rfl
  | ok secret =>
      simp only [readOutcome]
      cases tokenIn? secret <;> rfl

theorem tryDelete_eq : tryDelete space =
    (call (.deleteNamespace space)).bind fun answer => .done (deleteOutcome answer) := by
  unfold tryDelete
  congr 1
  funext answer
  cases answer with
  | ok nothing => rfl
  | error cause =>
      simp only [deleteOutcome]
      cases cause.isNotFound <;> rfl

theorem ensures_rollBack (course : Course) {reached : Step} {cause : StepFailure}
    (acquired : Acquired space owner (history ++ course.exchanges space owner))
    (begun : reached ≠ .started) (stopped : course.StoppedAfter space owner reached cause)
    (undeleted : course.deletions = [])
    (follows : ∀ deletions : List (Except Cluster.Failure Unit),
      Retried Cluster.Failure.isTransient plan.step.limit (deletions.map deleteOutcome) →
        ({ course with deletions } : Course).Follows plan space owner) :
    (rollBack plan space draws reached cause).Ensures (recording (MayAsk space owner)) plan.Unsteady
      (Course.Ends plan space owner history) (history ++ course.exchanges space owner) := by
  rw [rollBack, if_neg begun, tryDelete_eq, Program.ensures_bind]
  refine (ensures_answered .inl ?_).mono ?_
  · intro later
    exact ⟨rfl, acquired.append later⟩
  · intro result after recorded
    obtain ⟨deletions, retried, last, rfl⟩ := recorded
    let whole : Course := { course with deletions }
    have stoppedWhole : whole.StoppedAfter space owner reached cause := by
      cases reached <;> exact stopped
    have continued : history ++ course.exchanges space owner ++
          deletions.map (fun answer => (⟨.deleteNamespace space, answer⟩ : Exchange)) =
        history ++ whole.exchanges space owner := by
      simp [Course.exchanges, whole, undeleted]
    rcases result with failure | ⟨⟩
    · have amounts : whole.rollback = .failed failure.message := by
        simp only [Course.rollback, Course.deletionOutcomes, whole, last]
      exact ⟨whole, follows deletions retried, ⟨rfl, amounts.symm, cause, stoppedWhole, rfl⟩,
        continued⟩
    · have amounts : whole.rollback = .completed := by
        simp only [Course.rollback, Course.deletionOutcomes, whole, last]
      exact ⟨whole, follows deletions retried, ⟨rfl, amounts.symm, cause, stoppedWhole, rfl⟩,
        continued⟩

/-- A stage of one call that is repeated: `put` enters its answers into the
course. -/
theorem ensures_stage {Value : Type} {policy : Policy} {reached : Step} (question : Call)
    {outcome : question.Answer → Except StepFailure Value}
    {next : Value → Calls (Except Failure String)}
    (course : Course) (put : List question.Answer → Course)
    (acquired : Acquired space owner (history ++ course.exchanges space owner))
    (begun : reached ≠ .started) (excused : ¬policy.Steady → plan.Unsteady)
    (admitted : ∀ past, Acquired space owner past → MayAsk space owner past question)
    (continued : ∀ answers, (put answers).exchanges space owner =
      course.exchanges space owner ++ answers.map fun answer => ⟨question, answer⟩)
    (undeleted : ∀ answers, (put answers).deletions = [])
    (stopped : ∀ answers failure, (answers.map outcome).getLast? = some (.error failure) →
      (put answers).StoppedAfter space owner reached failure)
    (follows : ∀ answers failure (deletions : List (Except Cluster.Failure Unit)),
      Retried StepFailure.isRepeatable policy.limit (answers.map outcome) →
      (answers.map outcome).getLast? = some (.error failure) →
      Retried Cluster.Failure.isTransient plan.step.limit (deletions.map deleteOutcome) →
        ({ put answers with deletions } : Course).Follows plan space owner)
    (later : ∀ answers value,
      Retried StepFailure.isRepeatable policy.limit (answers.map outcome) →
      (answers.map outcome).getLast? = some (.ok value) →
        (next value).Ensures (recording (MayAsk space owner)) plan.Unsteady
          (Course.Ends plan space owner history) (history ++ (put answers).exchanges space owner)) :
    (step plan policy space draws reached
        ((call question).bind fun answer => .done (outcome answer)) next).Ensures
      (recording (MayAsk space owner)) plan.Unsteady (Course.Ends plan space owner history)
      (history ++ course.exchanges space owner) := by
  rw [step, Program.ensures_bind]
  refine (ensures_answered excused fun later => admitted _ (acquired.append later)).mono ?_
  intro result after recorded
  obtain ⟨answers, retried, last, rfl⟩ := recorded
  have acquiredThen : Acquired space owner (history ++ (put answers).exchanges space owner) := by
    rw [continued answers, ← List.append_assoc]
    exact acquired.append _
  rw [List.append_assoc, ← continued answers]
  cases result with
  | ok value => exact later answers value retried last
  | error failure =>
      apply ensures_rollBack (put answers) acquiredThen begun (stopped answers failure last)
        (undeleted answers)
      intro deletions deleted
      exact follows answers failure deletions retried last deleted

variable {creations : List Creation} {accounts : List (Except Cluster.Failure ServiceAccount)}
variable {secrets : List (Except Cluster.Failure Secret)}
variable {bindings : List (Except Cluster.Failure RoleBinding)}

theorem acquired_of_done {readings : List (Except Cluster.Failure Secret)}
    (creation : Done StepFailure.isRepeatable plan.step.limit
      (creations.map (Creation.outcome space owner))) :
    Acquired space owner (history ++
      Course.exchanges space owner ⟨creations, accounts, secrets, bindings, readings, []⟩) := by
  let course : Course := ⟨creations, accounts, secrets, bindings, readings, []⟩
  have acquired :
      Acquired space owner (course.creations.flatMap (Creation.exchanges space owner)) :=
    Course.acquired_of_succeeds creation.succeeds
  apply acquired.mono
  intro exchange member
  apply List.mem_append_right
  simp only [Course.exchanges, List.append_assoc]
  exact List.mem_append_left _ member

theorem ensures_readingStage
    (creation : Done StepFailure.isRepeatable plan.step.limit
      (creations.map (Creation.outcome space owner)))
    (account : Done StepFailure.isRepeatable plan.step.limit (accounts.map existsNow))
    (secret : Done StepFailure.isRepeatable plan.step.limit (secrets.map existsNow))
    (binding : Done StepFailure.isRepeatable plan.step.limit (bindings.map existsNow)) :
    (step plan plan.token space draws .roleBindingCreated (tryReadToken space)
        fun token => .done (.ok token)).Ensures (recording (MayAsk space owner)) plan.Unsteady
      (Course.Ends plan space owner history)
      (history ++
        Course.exchanges space owner ⟨creations, accounts, secrets, bindings, [], []⟩) := by
  rw [tryReadToken_eq]
  apply ensures_stage (.getSecret space tokenSecretName) _
    (fun readings => ⟨creations, accounts, secrets, bindings, readings, []⟩)
    (acquired_of_done creation) (by decide) .inr
  · intro past acquired
    exact ⟨rfl, rfl, acquired⟩
  · intro readings
    simp [Course.exchanges]
  · intro readings
    rfl
  · intro readings failure last
    exact last
  · intro readings failure deletions retried last deleted
    refine ⟨creation.retried, ?_, ?_, ?_, ?_, ?_⟩
    · exact .taken creation.succeeds account.retried
    · exact .taken account.succeeds secret.retried
    · exact .taken secret.succeeds binding.retried
    · exact .taken binding.succeeds retried
    · exact .taken ⟨creation.succeeds, not_succeeds_of_error last⟩ deleted
  · intro readings token retried last
    refine ⟨⟨creations, accounts, secrets, bindings, readings, []⟩,
      ⟨creation.retried, ?_, ?_, ?_, ?_, ?_⟩, last, rfl⟩
    · exact .taken creation.succeeds account.retried
    · exact .taken account.succeeds secret.retried
    · exact .taken secret.succeeds binding.retried
    · exact .taken binding.succeeds retried
    · exact .missed fun both => both.2 ⟨token, last⟩

theorem ensures_bindingStage
    (creation : Done StepFailure.isRepeatable plan.step.limit
      (creations.map (Creation.outcome space owner)))
    (account : Done StepFailure.isRepeatable plan.step.limit (accounts.map existsNow))
    (secret : Done StepFailure.isRepeatable plan.step.limit (secrets.map existsNow)) :
    (step plan plan.step space draws .tokenSecretCreated (tryCreateBinding space) fun _ =>
        step plan plan.token space draws .roleBindingCreated (tryReadToken space)
          fun token => .done (.ok token)).Ensures (recording (MayAsk space owner)) plan.Unsteady
      (Course.Ends plan space owner history)
      (history ++ Course.exchanges space owner ⟨creations, accounts, secrets, [], [], []⟩) := by
  apply ensures_stage (.createRoleBinding space (bindingFor space)) _
    (fun bindings => ⟨creations, accounts, secrets, bindings, [], []⟩)
    (acquired_of_done creation) (by decide) .inl
  · intro past acquired
    exact ⟨rfl, rfl, acquired⟩
  · intro bindings
    simp [Course.exchanges]
  · intro bindings
    rfl
  · intro bindings failure last
    exact last
  · intro bindings failure deletions retried last deleted
    refine ⟨creation.retried, ?_, ?_, ?_, ?_, ?_⟩
    · exact .taken creation.succeeds account.retried
    · exact .taken account.succeeds secret.retried
    · exact .taken secret.succeeds retried
    · exact .missed (not_succeeds_of_error last)
    · exact .taken ⟨creation.succeeds, not_succeeds_nil⟩ deleted
  · intro bindings nothing retried last
    exact ensures_readingStage creation account secret ⟨retried, nothing, last⟩

theorem ensures_secretStage
    (creation : Done StepFailure.isRepeatable plan.step.limit
      (creations.map (Creation.outcome space owner)))
    (account : Done StepFailure.isRepeatable plan.step.limit (accounts.map existsNow)) :
    (step plan plan.step space draws .serviceAccountCreated (tryCreateTokenSecret space) fun _ =>
        step plan plan.step space draws .tokenSecretCreated (tryCreateBinding space) fun _ =>
        step plan plan.token space draws .roleBindingCreated (tryReadToken space)
          fun token => .done (.ok token)).Ensures (recording (MayAsk space owner)) plan.Unsteady
      (Course.Ends plan space owner history)
      (history ++ Course.exchanges space owner ⟨creations, accounts, [], [], [], []⟩) := by
  apply ensures_stage (.createSecret space (tokenSecretFor space)) _
    (fun secrets => ⟨creations, accounts, secrets, [], [], []⟩)
    (acquired_of_done creation) (by decide) .inl
  · intro past acquired
    exact ⟨rfl, rfl, acquired⟩
  · intro secrets
    simp [Course.exchanges]
  · intro secrets
    rfl
  · intro secrets failure last
    exact last
  · intro secrets failure deletions retried last deleted
    refine ⟨creation.retried, ?_, ?_, ?_, ?_, ?_⟩
    · exact .taken creation.succeeds account.retried
    · exact .taken account.succeeds retried
    · exact .missed (not_succeeds_of_error last)
    · exact .missed not_succeeds_nil
    · exact .taken ⟨creation.succeeds, not_succeeds_nil⟩ deleted
  · intro secrets nothing retried last
    exact ensures_bindingStage creation account ⟨retried, nothing, last⟩

theorem ensures_accountStage
    (creation : Done StepFailure.isRepeatable plan.step.limit
      (creations.map (Creation.outcome space owner))) :
    (step plan plan.step space draws .namespaceCreated (tryCreateAccount space) fun _ =>
        step plan plan.step space draws .serviceAccountCreated (tryCreateTokenSecret space) fun _ =>
        step plan plan.step space draws .tokenSecretCreated (tryCreateBinding space) fun _ =>
        step plan plan.token space draws .roleBindingCreated (tryReadToken space)
          fun token => .done (.ok token)).Ensures (recording (MayAsk space owner)) plan.Unsteady
      (Course.Ends plan space owner history)
      (history ++ Course.exchanges space owner ⟨creations, [], [], [], [], []⟩) := by
  apply ensures_stage (.createServiceAccount space (accountFor space)) _
    (fun accounts => ⟨creations, accounts, [], [], [], []⟩)
    (acquired_of_done creation) (by decide) .inl
  · intro past acquired
    exact ⟨rfl, rfl, acquired⟩
  · intro accounts
    simp [Course.exchanges]
  · intro accounts
    rfl
  · intro accounts failure last
    exact last
  · intro accounts failure deletions retried last deleted
    refine ⟨creation.retried, ?_, ?_, ?_, ?_, ?_⟩
    · exact .taken creation.succeeds retried
    · exact .missed (not_succeeds_of_error last)
    · exact .missed not_succeeds_nil
    · exact .missed not_succeeds_nil
    · exact .taken ⟨creation.succeeds, not_succeeds_nil⟩ deleted
  · intro accounts nothing retried last
    exact ensures_secretStage creation ⟨retried, nothing, last⟩

/-- Whatever is answered, a provisioning takes one of the courses and yields
what that course amounts to. -/
theorem ensures_run (uncreated : Uncreated history) :
    (run plan space owner draws).Ensures (recording (MayAsk space owner)) plan.Unsteady
      (Course.Ends plan space owner history) history := by
  unfold run
  rw [step, Program.ensures_bind]
  refine (ensures_creating uncreated).mono ?_
  intro result after recorded
  obtain ⟨creations, retried, last, rfl⟩ := recorded
  let course : Course := ⟨creations, [], [], [], [], []⟩
  have continued : history ++ creations.flatMap (Creation.exchanges space owner) =
      history ++ course.exchanges space owner := by
    simp [Course.exchanges, course]
  rw [continued]
  cases result with
  | ok nothing => exact ensures_accountStage ⟨retried, nothing, last⟩
  | error failure =>
      refine ⟨course, ⟨retried, ?_, ?_, ?_, ?_, ?_⟩, ⟨rfl, rfl, failure, last, rfl⟩, rfl⟩
      · exact .missed (not_succeeds_of_error last)
      · exact .missed not_succeeds_nil
      · exact .missed not_succeeds_nil
      · exact .missed not_succeeds_nil
      · exact .missed fun both => not_succeeds_of_error last both.1

end

theorem Plan.steady_withAttempts (step token : Nat) :
    ¬(⟨.withAttempts step, .withAttempts token⟩ : Plan).Unsteady := by
  intro unsteady
  rcases unsteady with unsteady | unsteady
  · exact unsteady (Policy.steady_withAttempts step)
  · exact unsteady (Policy.steady_withAttempts token)

theorem Plan.steady_standard : ¬Plan.standard.Unsteady := Plan.steady_withAttempts 4 10

/-- The jitter does not matter to a provisioning of a steady plan. -/
theorem run_of_steady {plan : Plan} (steady : ¬plan.Unsteady) (space owner : String)
    (draws : Draws) : run plan space owner draws = run plan space owner := by
  obtain ⟨stepSteady, tokenSteady⟩ : plan.step.Steady ∧ plan.token.Steady := by
    simpa [Plan.Unsteady] using steady
  simp only [run, step, rollBack, Retry.run_of_steady stepSteady, Retry.run_of_steady tokenSteady]

/-- The calls of a provisioning that ran are those of a course that yields its
outcome. -/
theorem course_of_run {State : Type} {plane : Plane State} {start finish : State} {plan : Plan}
    {space owner : String} {draws : Draws} {outcome : Except Failure String}
    {seen : List Exchange}
    (ran : (recorded plane).run (run plan space owner draws) ⟨[], start⟩ =
      (.ok outcome, ⟨seen, finish⟩)) :
    ∃ course : Course, course.Follows plan space owner ∧ course.Yields space owner outcome ∧
      seen = course.exchanges space owner := by
  obtain ⟨result, later, after, ranAgain, _, reached, _⟩ :=
    run_recording (ensures_run uncreated_nil) start
  cases ran.symm.trans ranAgain
  obtain ⟨course, follows, yields, made⟩ := reached outcome rfl
  exact ⟨course, follows, yields, made⟩

/-- Against any control plane, whatever it answers and when and however the jitter of its
pauses falls, a provisioning makes calls for its own workspace only and deletes the
namespace only after it acquired it.  When it ends with an outcome its calls are those of
a course, and the outcome is what the course amounts to.  It ends with one unless a pause
comes out negative or too long to be counted, which a steady plan rules out.  A plane may
keep all calls so far as its state and answer from them. -/
theorem provisioning_follows_course {State : Type} (plane : Plane State) (start : State)
    (plan : Plan) (space owner : String) (draws : Draws) :
    ∃ (result : Except Fault (Except Failure String)) (seen : List Exchange) (finish : State),
      (recorded plane).run (run plan space owner draws) ⟨[], start⟩ = (result, ⟨seen, finish⟩) ∧
        (¬plan.Unsteady → ∃ outcome, result = .ok outcome) ∧
        (∀ outcome, result = .ok outcome → ∃ course : Course,
          seen = course.exchanges space owner ∧ course.Follows plan space owner ∧
            course.Yields space owner outcome ∧
            ∀ token, outcome = .ok token ↔ course.Completes space owner token) ∧
        (∀ exchange ∈ seen, exchange.1.arguments.head? = some (some space)) ∧
        ∀ before after name (answer : (Call.deleteNamespace name).Answer),
          seen = before ++ ⟨.deleteNamespace name, answer⟩ :: after →
            Acquired space owner before := by
  obtain ⟨result, seen, finish, ran, admitted, reached, faulted⟩ :=
    run_recording (ensures_run uncreated_nil) start
  refine ⟨result, seen, finish, ran, ?_, ?_, ?_, ?_⟩
  · intro steady
    cases result with
    | ok outcome => exact ⟨outcome, rfl⟩
    | error fault => exact absurd (faulted fault rfl) steady
  · intro outcome ended
    obtain ⟨course, follows, yields, made⟩ := reached outcome ended
    exact ⟨course, made, follows, yields, follows.yields_token_iff yields⟩
  · intro exchange member
    obtain ⟨before, after, split⟩ := List.append_of_mem member
    exact (admitted before exchange.1 exchange.2 after split).address
  · intro before after name answer split
    exact (admitted before _ answer after split).2

/-- A control plane that creates and deletes all it is asked to, and issues no tokens. -/
def tokenless : Plane Unit :=
  .ofAnswer fun call _ =>
    match call with
    | .createNamespace object => (.ok object, ())
    | .createServiceAccount _ account => (.ok account, ())
    | .createSecret _ secret => (.ok secret, ())
    | .createRoleBinding _ binding => (.ok binding, ())
    | .getSecret space _ => (.ok (tokenSecretFor space), ())
    | .deleteNamespace _ => (.ok (), ())
    | call => (.error (.timeout call.operation.name Span.zero), ())

/-- All parts are created and the token never comes, so the namespace is deleted again. -/
theorem provisioning_follows_course_tokenless :
    ∃ (seen : List Exchange) (course : Course),
      (recorded tokenless).run (run ⟨.immediate 1, .immediate 2⟩ "zombie-a" "alice") ⟨[], ()⟩ =
          (.ok (.error ⟨"zombie-a", .roleBindingCreated,
            "token secret admin-token has no token yet", .completed⟩), ⟨seen, ()⟩) ∧
        seen.map (·.1.operation) = [.createNamespace, .createServiceAccount, .createSecret,
          .createRoleBinding, .getSecret, .getSecret, .deleteNamespace] ∧
        seen = course.exchanges "zombie-a" "alice" ∧
        course.Follows ⟨.immediate 1, .immediate 2⟩ "zombie-a" "alice" ∧
        ∀ before after name (answer : (Call.deleteNamespace name).Answer),
          seen = before ++ ⟨.deleteNamespace name, answer⟩ :: after →
            Acquired "zombie-a" "alice" before := by
  obtain ⟨result, seen, finish, ran, _, follows, _, acquired⟩ :=
    provisioning_follows_course tokenless () ⟨.immediate 1, .immediate 2⟩ "zombie-a" "alice"
      .neutral
  have ended : ((recorded tokenless).run (run ⟨.immediate 1, .immediate 2⟩ "zombie-a" "alice")
      ⟨[], ()⟩).1 = .ok (.error ⟨"zombie-a", .roleBindingCreated,
        "token secret admin-token has no token yet", .completed⟩) := by
    decide
  have called : ((recorded tokenless).run (run ⟨.immediate 1, .immediate 2⟩ "zombie-a" "alice")
      ⟨[], ()⟩).2.history.map (·.1.operation) = [.createNamespace, .createServiceAccount,
        .createSecret, .createRoleBinding, .getSecret, .getSecret, .deleteNamespace] := by
    decide
  rw [ran] at ended called
  obtain rfl : result = _ := ended
  obtain ⟨course, made, followed, _⟩ := follows _ rfl
  exact ⟨seen, course, ran, called, made, followed, acquired⟩

/-- A pause that cannot be counted ends a provisioning in the middle of a stage, although no
factor is negative: one of three attempts is made, and the namespace is not deleted again. -/
theorem overlong_pause_ends_provisioning :
    let plan : Plan := ⟨.leaping, .leaping⟩
    let plane : Plane Unit := .ofAnswer fun call _ =>
      match call with
      | .createNamespace object => (.ok object, ())
      | call => (.error (.timeout call.operation.name Span.zero), ())
    plan.step.factor.isNegative = false ∧ plan.token.factor.isNegative = false ∧
      ∀ draws, (recorded plane).run (run plan "zombie-a" "alice" draws) ⟨[], ()⟩ =
        (.error .overlongPause,
          ⟨[⟨.createNamespace (Workspace.namespaceFor "zombie-a" "alice"),
              .ok (Workspace.namespaceFor "zombie-a" "alice")⟩,
            ⟨.createServiceAccount "zombie-a" (accountFor "zombie-a"),
              .error (.timeout "create_service_account" Span.zero)⟩], ()⟩) := by
  intro plan plane
  refine ⟨rfl, rfl, ?_⟩
  intro draws
  let first : Exchange := ⟨.createNamespace (Workspace.namespaceFor "zombie-a" "alice"),
    .ok (Workspace.namespaceFor "zombie-a" "alice")⟩
  let second : Exchange := ⟨.createServiceAccount "zombie-a" (accountFor "zombie-a"),
    .error (.timeout "create_service_account" Span.zero)⟩
  have created : (recorded plane).run (Retry.run plan.step StepFailure.isRepeatable
      (tryCreateNamespace "zombie-a" "alice") (draws.within .started)) ⟨[], ()⟩ =
        (.ok (.ok ()), ⟨[first], ()⟩) := rfl
  have refused : (recorded plane).run (Retry.run plan.step StepFailure.isRepeatable
      (tryCreateAccount "zombie-a") (draws.within .namespaceCreated)) ⟨[first], ()⟩ =
        (.error .overlongPause, ⟨[first, second], ()⟩) :=
    run_rest_leaping (draws.within .namespaceCreated 1) _ _
  rw [run, step, Handler.run_bind, created]
  simp only [step, Handler.run_bind, refused]
  rfl

end Tenancy.Provisioning
