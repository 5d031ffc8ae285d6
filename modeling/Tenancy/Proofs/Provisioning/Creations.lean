import Tenancy.Proofs.Provisioning.Protocol
import Tenancy.Proofs.Rest.Reports

/-!
# Creations over a connection

How often the creation of each part of a workspace is asked for, and what comes
of it, by what comes back from the requests.  The retries, the failures that
answers become and the rule that an existing object is as good are taken
together here.
-/

namespace Tenancy.Provisioning

open Cluster Rest

/-- The parts that are created in the namespace of a workspace. -/
inductive Part where
  | account
  | tokenSecret
  | binding

namespace Part

def call (space : String) : Part → Call
  | .account => .createServiceAccount space (accountFor space)
  | .tokenSecret => .createSecret space (tokenSecretFor space)
  | .binding => .createRoleBinding space (bindingFor space)

/-- The step that is done when the part's turn comes. -/
def reached : Part → Step
  | .account => .namespaceCreated
  | .tokenSecret => .serviceAccountCreated
  | .binding => .tokenSecretCreated

def attempt (space : String) : Part → Calls (Except StepFailure Unit)
  | .account => tryCreateAccount space
  | .tokenSecret => tryCreateTokenSecret space
  | .binding => tryCreateBinding space

/-- The creation of a part, with its retries. -/
def creation (plan : Plan) (space : String) (draws : Draws) (part : Part) :
    Calls (Except StepFailure Unit) :=
  Retry.run plan.step StepFailure.isRepeatable (part.attempt space) (draws.within part.reached)

end Part

/-- A provisioning from the token on. -/
def awaitToken (plan : Plan) (space : String) (draws : Draws) : Calls (Except Failure String) :=
  step plan plan.token space draws .roleBindingCreated (tryReadToken space) fun token =>
  .done (.ok token)

/-- A provisioning after the creation of a part. -/
def Part.rest (plan : Plan) (space : String) (draws : Draws) : Part → Calls (Except Failure String)
  | .account =>
      step plan plan.step space draws .serviceAccountCreated (tryCreateTokenSecret space) fun _ =>
      step plan plan.step space draws .tokenSecretCreated (tryCreateBinding space) fun _ =>
      awaitToken plan space draws
  | .tokenSecret =>
      step plan plan.step space draws .tokenSecretCreated (tryCreateBinding space) fun _ =>
      awaitToken plan space draws
  | .binding => awaitToken plan space draws

/-- A provisioning from the creation of a part on. -/
def Part.onward (plan : Plan) (space : String) (draws : Draws) (part : Part) :
    Calls (Except Failure String) :=
  step plan plan.step space draws part.reached (part.attempt space) fun _ =>
    part.rest plan space draws

/-- A provisioning that starts with a connection comes to the creation of a part with
another one. -/
inductive Begins (plan : Plan) (draws : Draws) (timeout : Span) (space owner : String)
    (start : Connection) : Part → Connection → Prop where
  | account {before : Connection}
      (created : (Rest.plane timeout).run
        (Retry.run plan.step StepFailure.isRepeatable (tryCreateNamespace space owner)
          (draws.within .started)) start = (.ok (.ok ()), before)) :
      Begins plan draws timeout space owner start .account before
  | tokenSecret {before after : Connection}
      (begins : Begins plan draws timeout space owner start .account before)
      (created : (Rest.plane timeout).run (Part.account.creation plan space draws) before =
        (.ok (.ok ()), after)) :
      Begins plan draws timeout space owner start .tokenSecret after
  | binding {before after : Connection}
      (begins : Begins plan draws timeout space owner start .tokenSecret before)
      (created : (Rest.plane timeout).run (Part.tokenSecret.creation plan space draws) before =
        (.ok (.ok ()), after)) :
      Begins plan draws timeout space owner start .binding after

/-- The object that was asked for is there. -/
def Creates : Report → Prop
  | .success => True
  | .refused status => status.code = 409 ∧ status.reason = "AlreadyExists"
  | .failed _ => False
  | .unanswered => False

/-- What an attempt comes to, by what comes back from its request. -/
inductive Comes (operation : Operation) (timeout : Span) (report : Report) :
    Except StepFailure Unit → Prop where
  | created (creates : Creates report) (final : report.IsFinal) :
      Comes operation timeout report (.ok ())
  | missed {cause : Cluster.Failure} (misses : ¬Creates report)
      (kept : cause.message = report.complaint operation timeout)
      (final : cause.isTransient = false ↔ report.IsFinal) :
      Comes operation timeout report (.error (.cluster cause))

theorem comes_existsNow {Value : Type} {operation : Operation} {timeout : Span} {report : Report}
    {answer : Except Cluster.Failure Value}
    (answers : report.Answers operation timeout answer) :
    Comes operation timeout report (existsNow answer) := by
  cases answers with
  | success value => exact .created trivial trivial
  | failed reason =>
      refine .missed id rfl ?_
      simp [Report.IsFinal, plainFailure, Cluster.Failure.isTransient]
  | unanswered =>
      refine .missed id rfl ?_
      simp [Report.IsFinal, Cluster.Failure.isTransient]
  | refused status =>
      by_cases missing : status.code = 404
      · have failure : status.failure = .notFound status.message := by
          simp [ErrorStatus.failure, Cluster.Failure.ofStatus, missing]
        rw [failure]
        refine .missed ?_ ?_ ?_
        · intro creates
          have conflict : status.code = 409 := creates.1
          omega
        · exact (if_pos missing).symm
        · simp [Report.IsFinal, missing, Cluster.Failure.isTransient]
      · by_cases taken : status.code = 409 ∧ status.reason = "AlreadyExists"
        · have failure : status.failure = .alreadyExists status.message := by
            simp [ErrorStatus.failure, Cluster.Failure.ofStatus, taken]
          rw [failure]
          refine .created taken ?_
          simp [Report.IsFinal, taken.1]
        · have failure : status.failure = .refused (some status.code) status.message := by
            simp only [ErrorStatus.failure, Cluster.Failure.ofStatus, missing, taken, if_false]
          rw [failure]
          refine .missed taken ?_ ?_
          · exact (if_neg missing).symm
          · simp [Report.IsFinal, Cluster.Failure.isTransient]

section

variable {plan : Plan} {draws : Draws} {timeout : Span} {space owner : String} {part : Part}
variable {before start : Connection}

/-- One attempt uses the connection once. -/
theorem ensures_partAttempt (index : Nat) :
    (part.attempt space).Ensures (Rest.plane timeout).setting False
      (fun outcome after =>
        Comes (part.call space).operation timeout (before.report timeout (part.call space) index)
          outcome ∧
        after = before.after (sent? timeout (part.call space)) (index + 1))
      (before.after (sent? timeout (part.call space)) index) := by
  obtain ⟨answer, made, answers⟩ := makeCall_after before timeout (part.call space) index
  have comes := comes_existsNow answers
  cases part <;>
  · refine ⟨trivial, ?_⟩
    intro result after answered
    cases made.symm.trans answered
    exact ⟨comes, rfl⟩

theorem Comes.isFinal_iff {operation : Operation} {report : Report}
    {outcome : Except StepFailure Unit} (comes : Comes operation timeout report outcome) :
    report.IsFinal ↔ ∀ failure, outcome = .error failure → failure.isRepeatable = false := by
  cases comes with
  | created creates final => simp [final]
  | missed misses kept final => simp [StepFailure.isRepeatable, final]

/-- The creation of a part ends with the last of its attempts, and every attempt
uses the connection once. -/
theorem run_creation (steady : plan.step.Steady) (part : Part)
    (before : Connection) :
    ∃ count outcome,
      (Rest.plane timeout).run (part.creation plan space draws) before =
        (.ok outcome, before.after (sent? timeout (part.call space)) count) ∧
      Retry.Attempts (fun index => (before.report timeout (part.call space) index).IsFinal)
        plan.step.limit count ∧
      Comes (part.call space).operation timeout
        (before.report timeout (part.call space) (count - 1)) outcome := by
  have excused : ¬plan.step.Steady → False := fun unsteady => unsteady steady
  have ensured : (part.creation plan space draws).Ensures (Rest.plane timeout).setting False _
      (before.after (sent? timeout (part.call space)) 0) :=
    Retry.ensures_run_foretold (before.after (sent? timeout (part.call space)) ·)
      (fun index => Comes (part.call space).operation timeout
        (before.report timeout (part.call space) index))
      (fun _ _ => Comes.isFinal_iff) excused ensures_partAttempt
  rw [Connection.after_zero] at ensured
  obtain ⟨outcome, _, _, ran, reached, rfl⟩ :=
    Handler.run_of_ensures (Handler.foreseen_ofAnswer (makeCall timeout)) ensured rfl id
  obtain ⟨count, counted, comes, rfl⟩ := reached
  exact ⟨count, outcome, ran, counted, comes⟩

/-- A provisioning whose creation of a part failed ends with the failure. -/
theorem run_rollBack (steady : plan.step.Steady) {reached : Step}
    (begun : reached ≠ .started) (failure : StepFailure) (state : Connection) :
    ∃ rollback finish, (Rest.plane timeout).run (rollBack plan space draws reached failure) state =
      (.ok (.error ⟨space, reached, failure.message, rollback⟩), finish) := by
  have excused : ¬plan.step.Steady → False := fun unsteady => unsteady steady
  have retried : (Retry.run plan.step Cluster.Failure.isTransient (tryDelete space)
      draws.rollback).Ensures (Rest.plane timeout).setting False (fun _ _ => True) state := by
    refine Retry.ensures_run (fun _ => True) excused ?_ trivial
    intro state _
    rw [tryDelete_eq]
    exact ⟨trivial, fun _ _ _ => ⟨trivial, fun _ _ => trivial⟩⟩
  have ensured : (rollBack plan space draws reached failure).Ensures
      (Rest.plane timeout).setting False
      (fun result _ => ∃ rollback, result = .error ⟨space, reached, failure.message, rollback⟩)
      state := by
    rw [rollBack, if_neg begun, Program.ensures_bind]
    refine retried.mono ?_
    intro outcome finish _
    cases outcome with
    | ok nothing => exact ⟨_, rfl⟩
    | error cause => exact ⟨_, rfl⟩
  obtain ⟨result, finish, _, ran, ended, rfl⟩ :=
    Handler.run_of_ensures (Handler.foreseen_ofAnswer (makeCall timeout)) ensured rfl id
  obtain ⟨rollback, rfl⟩ := ended
  exact ⟨rollback, finish, ran⟩

section

variable {Value : Type} {policy : Retry.Policy} {reached : Step}
variable {attempt : Calls (Except StepFailure Value)} {after : Connection}
variable {next : Value → Calls (Except Failure String)}

theorem run_step_ok {value : Value}
    (ran : (Rest.plane timeout).run
      (Retry.run policy StepFailure.isRepeatable attempt (draws.within reached)) before =
        (.ok (.ok value), after)) :
    (Rest.plane timeout).run (step plan policy space draws reached attempt next) before =
      (Rest.plane timeout).run (next value) after := by
  rw [step, Handler.run_bind, ran]

theorem run_step_error {failure : StepFailure}
    (ran : (Rest.plane timeout).run
      (Retry.run policy StepFailure.isRepeatable attempt (draws.within reached)) before =
        (.ok (.error failure), after)) :
    (Rest.plane timeout).run (step plan policy space draws reached attempt next) before =
      (Rest.plane timeout).run (rollBack plan space draws reached failure) after := by
  rw [step, Handler.run_bind, ran]

end

/-- What comes before the creation of a part does not matter to what follows. -/
theorem Begins.run_eq (begins : Begins plan draws timeout space owner start part before) :
    (Rest.plane timeout).run (run plan space owner draws) start =
      (Rest.plane timeout).run (part.onward plan space draws) before := by
  induction begins with
  | account created => exact run_step_ok created
  | tokenSecret begins created induction => exact induction.trans (run_step_ok created)
  | binding begins created induction => exact induction.trans (run_step_ok created)

end

/-- The creation of a part over a connection.  It is asked for until something final
comes back, and no more often than the plan has it; if the call can be sent, as
many requests are sent.  It succeeds just when the last thing that comes back
is the object or the report that there is such an object.  Otherwise what came
back last is the reason, in the words of the control plane, with which the
provisioning ends. -/
theorem creations_follow_reports (plan : Plan) (draws : Draws) (timeout : Span) (space : String)
    (part : Part) (before : Connection) (steady : plan.step.Steady) :
    let call := part.call space
    let report := before.report timeout call
    ∃ count outcome,
      Retry.Attempts (fun index => (report index).IsFinal) plan.step.limit count ∧
      (Rest.plane timeout).run (part.creation plan space draws) before =
        (.ok outcome, before.after (sent? timeout call) count) ∧
      (outcome = .ok () ↔ Creates (report (count - 1))) ∧
      (∀ failure, outcome = .error failure →
        failure.message = (report (count - 1)).complaint call.operation timeout) ∧
      ∀ owner start, Begins plan draws timeout space owner start part before →
        (Creates (report (count - 1)) →
          (Rest.plane timeout).run (run plan space owner draws) start =
            (Rest.plane timeout).run (part.rest plan space draws)
              (before.after (sent? timeout call) count)) ∧
        (¬Creates (report (count - 1)) → ∃ rollback finish,
          (Rest.plane timeout).run (run plan space owner draws) start =
            (.ok (.error
              { space
                reached := part.reached
                reason := (report (count - 1)).complaint call.operation timeout
                rollback }), finish)) := by
  intro call report
  obtain ⟨count, outcome, ran, counted, comes⟩ := run_creation steady part before
  refine ⟨count, outcome, counted, ran, ?_⟩
  have begun : part.reached ≠ .started := by cases part <;> decide
  cases comes with
  | created creates final =>
      refine ⟨⟨fun _ => creates, fun _ => rfl⟩, by simp, ?_⟩
      intro owner start begins
      exact ⟨fun _ => begins.run_eq.trans (run_step_ok ran), fun misses => absurd creates misses⟩
  | missed misses kept final =>
      refine ⟨⟨by simp, fun creates => absurd creates misses⟩, ?_, ?_⟩
      · intro failure same
        cases same
        exact kept
      · intro owner start begins
        refine ⟨fun creates => absurd creates misses, fun _ => ?_⟩
        obtain ⟨rollback, finish, ended⟩ := run_rollBack steady begun _ _
        refine ⟨rollback, finish, ?_⟩
        rw [begins.run_eq, Part.onward, run_step_error ran, ended]
        exact kept ▸ rfl

/-- Of three attempts after silence, two are made when a refusal comes back next, and the
refusal is the reason.  Three are made when the control plane is too busy at first and then
creates the account. -/
theorem creations_follow_reports_answered :
    let plan : Plan := ⟨.immediate 3, .immediate 1⟩
    let refusing : Connection := { replies := [.silent, .answered 403 "no".toUTF8 .zero] }
    let creating : Connection :=
      { replies := [.silent, .answered 503 "busy".toUTF8 .zero,
          .answered 201 "\x7b\"metadata\":\x7b\"name\":\"admin\"\x7d\x7d".toUTF8 .zero] }
    plan.step.Steady ∧
      (∃ failure after,
        (Rest.plane (.ofSeconds 1)).run (Part.account.creation plan "zombie-a" .neutral) refusing =
          (.ok (.error failure), after) ∧
        failure.message = "cluster API error: \"no\"" ∧ after.requests.length = 2) ∧
      ∃ after,
        (Rest.plane (.ofSeconds 1)).run (Part.account.creation plan "zombie-a" .neutral) creating =
          (.ok (.ok ()), after) ∧
        after.requests.length = 3 := by
  intro plan refusing creating
  let call := Part.account.call "zombie-a"
  have steady : plan.step.Steady := Retry.Policy.steady_immediate 3
  have sends : (sent? (.ofSeconds 1) call).isSome = true := by decide
  obtain ⟨request, sent⟩ := Option.isSome_iff_exists.1 sends
  refine ⟨steady, ?_, ?_⟩
  · have silent : refusing.report (.ofSeconds 1) call 0 = .unanswered := by decide
    have refused : refusing.report (.ofSeconds 1) call 1 =
        .refused ⟨403, "Failed to parse error data", "\"no\""⟩ := by decide
    obtain ⟨count, outcome, counted, ran, creates_iff, said, _⟩ :=
      creations_follow_reports plan .neutral (.ofSeconds 1) "zombie-a" .account refusing steady
    have unsettled (earlier : Nat) (before : earlier < 1) :
        ¬(refusing.report (.ofSeconds 1) call earlier).IsFinal := by
      obtain rfl : earlier = 0 := by omega
      rw [silent]
      exact id
    have final : (refusing.report (.ofSeconds 1) call 1).IsFinal := by
      rw [refused]
      exact ⟨by decide, by decide⟩
    obtain rfl : count = 1 + 1 := counted.count_eq (by decide) unsettled final
    cases outcome with
    | ok done =>
        have creates : Creates (refusing.report (.ofSeconds 1) call 1) := creates_iff.1 rfl
        rw [refused] at creates
        exact absurd creates.1 (by decide)
    | error failure =>
        refine ⟨failure, _, ran, ?_, ?_⟩
        · have reason := said failure rfl
          rw [refused] at reason
          exact reason
        · rw [sent]
          rfl
  · have silent : creating.report (.ofSeconds 1) call 0 = .unanswered := by decide
    have busy : creating.report (.ofSeconds 1) call 1 =
        .refused ⟨503, "Failed to parse error data", "\"busy\""⟩ := by decide
    have created : creating.report (.ofSeconds 1) call 2 = .success := by decide +kernel
    obtain ⟨count, outcome, counted, ran, creates_iff, _⟩ :=
      creations_follow_reports plan .neutral (.ofSeconds 1) "zombie-a" .account creating steady
    -- From here on it does not matter what the reports were read from.
    generalize creating.report (.ofSeconds 1) (Part.account.call "zombie-a") = reports
      at silent busy created counted creates_iff
    have unsettled (earlier : Nat) (before : earlier < 2) : ¬(reports earlier).IsFinal := by
      obtain rfl | rfl : earlier = 0 ∨ earlier = 1 := by omega
      · rw [silent]
        exact id
      · rw [busy]
        exact fun final => absurd final.2 (by decide)
    have final : (reports 2).IsFinal := by
      rw [created]
      exact True.intro
    obtain rfl : count = 2 + 1 := counted.count_eq (by decide) unsettled final
    have succeeded : outcome = .ok () := by
      rw [creates_iff, Nat.add_sub_cancel, created]
      exact True.intro
    rw [succeeded] at ran
    refine ⟨_, ran, ?_⟩
    rw [sent]
    rfl

end Tenancy.Provisioning
