import Tenancy.Cluster.Call
import Tenancy.Http.Percent
import Tenancy.Http.Target
import Tenancy.Json.Parser
import Tenancy.Json.Printer
import Tenancy.Number.Word
import Tenancy.Rest.Decoding
import Tenancy.Text.Utf8Fault

/-!
# The client

A control plane reached over HTTP: every call becomes one request, and its
reply becomes the answer.  A reply that comes too late, that cannot be read or
that reports an error becomes a failure.
-/

namespace Tenancy.Rest

open Cluster Http

structure Request where
  method : String
  target : String
  contentType : Option String
  body : String
deriving DecidableEq, Repr

inductive Reply where
  /-- A status with a body, after some time. -/
  | answered (status : Nat) (body : ByteArray) (delay : Span)
  | silent
  /-- The connection failed, after some time. -/
  | broken (reason : String) (delay : Span)

/-! ## Requests -/

def namespacesPath : String := "/api/v1/namespaces"

/-- The path of the objects of a kind in a namespace. -/
def pathIn (space kind : String) : String := namespacesPath ++ "/" ++ space ++ "/" ++ kind

def bindingsPath (space : String) : String :=
  "/apis/rbac.authorization.k8s.io/v1/namespaces/" ++ space ++ "/rolebindings"

namespace Request

def list (path : String) : Request := ⟨"GET", path ++ "?", none, ""⟩

/-- Lists only the objects that a label selector selects. -/
def select (path selector : String) : Request :=
  ⟨"GET", path ++ "?&labelSelector=" ++ encodeForm selector, none, ""⟩

def get (path name : String) : Request := ⟨"GET", path ++ "/" ++ name, none, ""⟩

def create (path : String) (object : Json) : Request :=
  ⟨"POST", path ++ "?", some "application/json", object.render⟩

def delete (path name : String) : Request :=
  ⟨"DELETE", path ++ "/" ++ name ++ "?", some "application/json", (Json.object []).render⟩

/-- The request for a call, before its target is checked. -/
def ofCall : Call → Request
  | .listNamespaces => list namespacesPath
  | .getNamespace name => get namespacesPath name
  | .createNamespace object => create namespacesPath (namespaceJson object)
  | .deleteNamespace name => delete namespacesPath name
  | .listPods space none => list (pathIn space "pods")
  | .listPods space (some selector) => select (pathIn space "pods") selector
  | .deletePod space name => delete (pathIn space "pods") name
  | .listSecrets space => list (pathIn space "secrets")
  | .getSecret space name => get (pathIn space "secrets") name
  | .createSecret space secret => create (pathIn space "secrets") (secretJson secret)
  | .createServiceAccount space account =>
      create (pathIn space "serviceaccounts") (serviceAccountJson account)
  | .createRoleBinding space binding => create (bindingsPath space) (roleBindingJson binding)

/-- The request as it is sent, with the target that its text names. -/
def prepare (request : Request) : Except TargetFault Request :=
  (Target.read .ascii request.target).map fun target => { request with target := target.text }

end Request

/-! ## Replies -/

/-- A failure without a code. -/
def plainFailure (message : String) : Failure := .refused none message

def invalidTarget (fault : TargetFault) : Failure :=
  plainFailure ("Failed to build request: failed to build request: " ++ fault.message)

def unreadable : Failure := plainFailure "Error deserializing response"

/-- An error status in the body of a reply. -/
structure ErrorStatus where
  code : Nat
  reason : String
  message : String
deriving DecidableEq, Repr

namespace ErrorStatus

/-- A text, empty where the field is missing. -/
def textOr (field : Option Json) : Option String :=
  match field with
  | none => some ""
  | some value => value.asString?

def ofJson? (value : Json) : Option ErrorStatus := do
  match ← value.recordFields? ["status", "message", "reason", "code"] with
  | [some status, message, reason, some code] =>
      let _ ← status.asString?
      return ⟨(← Reader.integer 0 65535 code).toNat, ← textOr reason, ← textOr message⟩
  | _ => none

/-- The error that a body reports with an error code.  A body of another form
is the message. -/
def ofBody (status : Nat) (body : String) : ErrorStatus :=
  ((Json.parse? body).bind ofJson?).getD
    ⟨status, "Failed to parse error data", Text.quoted body⟩

def failure (error : ErrorStatus) : Failure := .ofStatus error.code error.reason error.message

end ErrorStatus

def readCause : Reader Unit := fun value => do
  match ← value.leadingFields? ["reason", "message", "field"] with
  | [reason, message, place] =>
      let _ ← ErrorStatus.textOr reason
      let _ ← ErrorStatus.textOr message
      let _ ← ErrorStatus.textOr place
  | _ => none

def readDetails : Reader Unit := fun value => do
  match ← value.leadingFields? ["name", "group", "kind", "uid", "causes", "retryAfterSeconds"] with
  | [name, group, kind, uid, causes, pause] =>
      let _ ← ErrorStatus.textOr name
      let _ ← ErrorStatus.textOr group
      let _ ← ErrorStatus.textOr kind
      let _ ← ErrorStatus.textOr uid
      let _ ← Reader.list readCause (causes.getD (.array []))
      let _ ← Reader.integer 0 Number.greatestUnsigned32 (pause.getD (.integer 0))
  | _ => none

def isSummaryWord (word : String) : Bool := word == "Success" || word == "Failure"

/-- A summary is one of two words, or an object with one of them as the name of
its only member, which is null. -/
def readSummary : Reader Unit
  | .string word => if isSummaryWord word then some () else none
  | .object [(word, .null)] => if isSummaryWord word then some () else none
  | _ => none

/-- The status that a deletion may be answered with. -/
def readStatus : Reader Unit := fun value => do
  match ← value.recordFields? ["status", "code", "message", "reason", "details"] with
  | [summary, code, message, reason, details] =>
      let _ ← Reader.optional readSummary (summary.getD .null)
      let _ ← Reader.integer 0 65535 (code.getD (.integer 0))
      let _ ← ErrorStatus.textOr message
      let _ ← ErrorStatus.textOr reason
      let _ ← Reader.optional readDetails (details.getD .null)
  | _ => none

/-- The answer to a deletion: a status, or the object that is being deleted.
Everything in it can be held. -/
def readDeletion {Value : Type} (reader : Reader Value) : Reader Unit := fun value =>
  let kind := (Reader.members value).bind fun fields => (Json.membersNamed "kind" fields).getLast?
  if !value.isReadable then none
  else if (kind.bind Json.asString?) = some "Status" then readStatus value
  else (reader value).map fun _ => ()

/-- How the result of a call is read. -/
def readerFor : (operation : Operation) → Reader operation.Result
  | .listNamespaces => readListing readNamespace
  | .getNamespace => readNamespace
  | .createNamespace => readNamespace
  | .deleteNamespace => readDeletion readNamespace
  | .listPods => readListing readPod
  | .deletePod => readDeletion readPod
  | .listSecrets => readListing readSecret
  | .getSecret => readSecret
  | .createSecret => readSecret
  | .createServiceAccount => readServiceAccount
  | .createRoleBinding => readRoleBinding

/-- The answer that a reply in time amounts to. -/
def readAnswer {Value : Type} (reader : Reader Value) (status : Nat) (body : ByteArray) :
    Except Failure Value :=
  match String.fromUTF8? body with
  | none =>
      .error (plainFailure
        ("UTF-8 Error: " ++ ((Text.utf8Fault? body).map Text.Utf8Fault.message).getD ""))
  | some text =>
      if 400 ≤ status ∧ status ≤ 599 then .error (ErrorStatus.ofBody status text).failure
      else
        match (Json.parse? text).bind reader with
        | some value => .ok value
        | none => .error unreadable

/-- Whether the timer for a reply runs out before the reply is there. -/
def isLate (timeout delay : Span) : Bool := timeout.onTimer.nanoseconds < delay.onTimer.nanoseconds

/-- The answer that a reply amounts to. -/
def Reply.answer {Value : Type} (operation : Operation) (timeout : Span) (reader : Reader Value) :
    Reply → Except Failure Value
  | .silent => .error (.timeout operation.name timeout)
  | .broken reason delay =>
      if isLate timeout delay then .error (.timeout operation.name timeout)
      else .error (plainFailure ("ServiceError: " ++ reason))
  | .answered status body delay =>
      if isLate timeout delay then .error (.timeout operation.name timeout)
      else readAnswer reader status body

/-! ## The plane -/

/-- The replies to come and the requests sent. -/
structure Connection where
  replies : List Reply
  requests : List Request := []

/-- The reply when there is none left. -/
def noReply : Reply := .broken "no response left" .zero

/-- Makes a call over a connection.  Without any time to wait nothing is sent. -/
def makeCall (timeout : Span) (call : Call) (connection : Connection) :
    call.Answer × Connection :=
  match (Request.ofCall call).prepare with
  | .error fault => (.error (invalidTarget fault), connection)
  | .ok request =>
    if timeout.nanoseconds = 0 then (.error (.timeout call.operation.name timeout), connection)
    else
      let reply := connection.replies.headD noReply
      (reply.answer call.operation timeout (readerFor call.operation),
        ⟨connection.replies.drop 1, connection.requests ++ [request]⟩)

def plane (timeout : Span) : Plane Connection := .ofAnswer (makeCall timeout)

end Tenancy.Rest
