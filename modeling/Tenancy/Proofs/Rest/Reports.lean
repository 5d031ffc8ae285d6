import Tenancy.Rest.Client

/-!
# What comes back from a request

Every request for a call comes to one of four ends, and each end has its answer.
When one call is made again and again over a connection, its requests are alike
and take up the replies in their order.
-/

namespace Tenancy.Rest

open Cluster Http

/-- What comes back from a request. -/
inductive Report where
  | success
  /-- An error status of the control plane. -/
  | refused (status : ErrorStatus)
  /-- The request did not get through, or what came back could not be read. -/
  | failed (reason : String)
  /-- Nothing came back in time. -/
  | unanswered
deriving DecidableEq

def Reply.report {Value : Type} (timeout : Span) (reader : Reader Value) : Reply → Report
  | .silent => .unanswered
  | .broken reason delay =>
      if isLate timeout delay then .unanswered else .failed ("ServiceError: " ++ reason)
  | .answered status body delay =>
      if isLate timeout delay then .unanswered
      else
        match String.fromUTF8? body with
        | none =>
            .failed ("UTF-8 Error: " ++ ((Text.utf8Fault? body).map Text.Utf8Fault.message).getD "")
        | some text =>
            if 400 ≤ status ∧ status ≤ 599 then .refused (.ofBody status text)
            else if ((Json.parse? text).bind reader).isSome then .success
            else .failed "Error deserializing response"

namespace Report

/-- The answers that a report stands for. -/
inductive Answers {Value : Type} (operation : Operation) (timeout : Span) :
    Report → Except Failure Value → Prop where
  | success (value : Value) : Answers operation timeout .success (.ok value)
  | refused (status : ErrorStatus) :
      Answers operation timeout (.refused status) (.error status.failure)
  | failed (reason : String) :
      Answers operation timeout (.failed reason) (.error (plainFailure reason))
  | unanswered : Answers operation timeout .unanswered (.error (.timeout operation.name timeout))

/-- Making the same call again would not lead to anything else. -/
def IsFinal : Report → Prop
  | .success => True
  | .refused status => status.code ≠ 429 ∧ status.code < 500
  | .failed _ => False
  | .unanswered => False

/-- What is said about a report that is no success. -/
def complaint (operation : Operation) (timeout : Span) : Report → String
  | .success => ""
  | .refused status =>
      if status.code = 404 then "not found: " ++ status.message
      else "cluster API error: " ++ status.message
  | .failed reason => "cluster API error: " ++ reason
  | .unanswered => operation.name ++ " timed out after " ++ timeout.render

end Report

theorem Reply.answers_report {Value : Type} (operation : Operation) (timeout : Span)
    (reader : Reader Value) (reply : Reply) :
    (reply.report timeout reader).Answers operation timeout
      (reply.answer operation timeout reader) := by
  cases reply with
  | silent => exact .unanswered
  | broken reason delay =>
      rw [report, answer]
      split
      next => exact .unanswered
      next => exact .failed _
  | answered status body delay =>
      rw [report, answer, readAnswer]
      split
      next => exact .unanswered
      next =>
        cases String.fromUTF8? body with
        | none => exact .failed _
        | some text =>
            by_cases reported : 400 ≤ status ∧ status ≤ 599
            · simp only [reported, and_self, if_true]
              exact .refused _
            · simp only [reported, if_false]
              cases (Json.parse? text).bind reader with
              | none => exact .failed _
              | some value => exact .success value

/-- The request that a call sends, if it sends one. -/
def sent? (timeout : Span) (call : Call) : Option Request :=
  if timeout.nanoseconds = 0 then none else (Request.ofCall call).prepare.toOption

namespace Connection

/-- A connection after some requests of one kind.  Each took up a reply. -/
def after (before : Connection) (request : Option Request) (count : Nat) : Connection :=
  match request with
  | none => before
  | some request => ⟨before.replies.drop count, before.requests ++ List.replicate count request⟩

/-- What comes back when a call is made over a connection for the first time, for the
second time, and so on. -/
def report (before : Connection) (timeout : Span) (call : Call) (index : Nat) : Report :=
  match (Request.ofCall call).prepare with
  | .error fault => .failed ("Failed to build request: failed to build request: " ++ fault.message)
  | .ok _ =>
      if timeout.nanoseconds = 0 then .unanswered
      else (before.replies.getD index noReply).report timeout (readerFor call.operation)

theorem after_zero (before : Connection) (request : Option Request) :
    before.after request 0 = before := by
  cases request <;> simp [after]

end Connection

theorem makeCall_after (before : Connection) (timeout : Span) (call : Call) (index : Nat) :
    ∃ answer,
      makeCall timeout call (before.after (sent? timeout call) index) =
        (answer, before.after (sent? timeout call) (index + 1)) ∧
      (before.report timeout call index).Answers call.operation timeout answer := by
  cases prepared : (Request.ofCall call).prepare with
  | error fault =>
      have nothing : sent? timeout call = none := by simp [sent?, prepared, Except.toOption]
      refine ⟨.error (invalidTarget fault), ?_, ?_⟩
      · simp only [makeCall, prepared, nothing, Connection.after]
      · simp only [Connection.report, prepared]
        exact .failed _
  | ok request =>
      by_cases instant : timeout.nanoseconds = 0
      · have nothing : sent? timeout call = none := by simp [sent?, instant]
        refine ⟨.error (.timeout call.operation.name timeout), ?_, ?_⟩
        · simp only [makeCall, prepared, nothing, Connection.after, instant, if_true]
        · simp only [Connection.report, prepared, instant, if_true]
          exact .unanswered
      · have sends : sent? timeout call = some request := by
          simp [sent?, prepared, instant, Except.toOption]
        let reply := before.replies.getD index noReply
        have next : (before.replies.drop index).headD noReply = reply := by
          simp [reply, List.headD_eq_head?_getD, List.head?_drop, List.getD_eq_getElem?_getD]
        refine ⟨reply.answer call.operation timeout (readerFor call.operation), ?_, ?_⟩
        · simp only [makeCall, prepared, sends, Connection.after, instant, if_false, next,
            List.drop_drop, List.append_assoc, List.replicate_succ']
        · simp only [Connection.report, prepared, instant, if_false]
          exact reply.answers_report call.operation timeout _

end Tenancy.Rest
