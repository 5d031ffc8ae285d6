import Tenancy.Fleet.Exposition
import Tenancy.Http.Message
import Tenancy.Http.Percent
import Tenancy.Lifecycle

/-!
# Routing

Which request leads to which operation, and how its outcome is answered.  A
path is compared as it is written; only the name of a workspace is decoded.
-/

namespace Tenancy.Http

open Cluster Lifecycle

inductive Route where
  | health
  | workspaces
  /-- One workspace, by its segment of the path. -/
  | workspace (segment : String)
deriving DecidableEq, Repr

namespace Route

def workspaceStart : List Char := "/v1/ns/".toList

def ofPath? (path : String) : Option Route :=
  if path = "/healthz" then some .health
  else if path = "/v1/ns" then some .workspaces
  else
    let segment := path.toList.drop workspaceStart.length
    if workspaceStart.isPrefixOf path.toList && !segment.isEmpty && !segment.contains '/' then
      some (.workspace (String.ofList segment))
    else none

end Route

inductive Endpoint where
  /-- The answer needs no operation. -/
  | immediate (response : Response)
  | lifecycle (request : Lifecycle.Request)
deriving DecidableEq

namespace Endpoint

def onSegment (segment : String) (operation : String → Lifecycle.Request) : Endpoint :=
  match decodePercent? segment with
  | some name => .lifecycle (operation name)
  | none => .immediate .badName

def ofRoute (drawnName method : String) : Route → Endpoint
  | .health =>
      if method = "GET" ∨ method = "HEAD" then .immediate (.ofMessage 200 "Ok")
      else .immediate (.methodNotAllowed "GET,HEAD")
  | .workspaces =>
      if method = "GET" ∨ method = "HEAD" then .lifecycle .list
      else if method = "POST" then .lifecycle (.create drawnName)
      else .immediate (.methodNotAllowed "GET,HEAD,POST")
  | .workspace segment =>
      if method = "GET" ∨ method = "HEAD" then onSegment segment .get
      else if method = "DELETE" then onSegment segment .delete
      else .immediate (.methodNotAllowed "GET,HEAD,DELETE")

/-- The endpoint of a request.  Without a route it is not found. -/
def ofRequest (drawnName : String) (request : Request) : Endpoint :=
  match (Target.requestedPath? request.path).bind Route.ofPath? with
  | some route => ofRoute drawnName request.method route
  | none => .immediate .notFound

end Endpoint

/-- The response to a performed request. -/
def renderReply : Except Refusal Reply → Response
  | .ok (.created descriptor) => .ofJson 200 descriptor.toJson
  | .ok (.status status) => .ofJson 200 status.toJson
  | .ok (.roster roster) => .ofJson 200 roster.toJson
  | .ok (.deleted message) => .ofMessage 200 message
  | .error refusal => .ofMessage refusal.statusCode refusal.message

/-- The response to a request, with nothing in its body where only the head
was asked for. -/
def finish (method : String) (response : Response) : Response :=
  if method = "HEAD" then response.withoutBody else response

/-- Answers a request to the workspace interface.  A creation uses the drawn
name. -/
def respond (service : Service) (drawnName : String) (request : Request) : Calls Response :=
  match Endpoint.ofRequest drawnName request with
  | .immediate response => .done (finish request.method response)
  | .lifecycle operation =>
      (perform service request.credential? operation).bind fun outcome =>
        .done (finish request.method (renderReply outcome))

/-- Answers a request to the metrics interface. -/
def respondMetrics (gauges : Fleet.Gauges) (request : Request) : Response :=
  if Target.requestedPath? request.path = some "/metrics" then
    if request.method = "GET" ∨ request.method = "HEAD" then
      finish request.method
        { status := 200, contentType := some Fleet.expositionType, body := gauges.exposition }
    else .methodNotAllowed "GET,HEAD"
  else .notFound

end Tenancy.Http
