import Tenancy.Http.Router
import Tenancy.Proofs.Cluster.Answers
import Tenancy.Proofs.Http.Percent
import Tenancy.Proofs.Lifecycle.Requests

/-!
# The front

What comes of a request that is sent over HTTP.  On a route of the workspaces it
is the operation that it asks for, with the credential that its headers present,
and the response renders the outcome.  No other request makes a call.
-/

namespace Tenancy.Http

open Cluster Lifecycle

/-- What headers present as the credential: the value of the first authorization
header, if all of it is visible. -/
inductive Presents : List (String × ByteArray) → Option String → Prop where
  | absent {headers : List (String × ByteArray)}
      (others : ∀ header ∈ headers, header.1.toLower ≠ "authorization") : Presents headers none
  | visible {before after : List (String × ByteArray)} {name token : String}
      (first : ∀ header ∈ before, header.1.toLower ≠ "authorization")
      (named : name.toLower = "authorization")
      (shown : ∀ octet ∈ octets token, isVisibleOctet octet = true) :
      Presents (before ++ (name, token.toUTF8) :: after) (some token)
  | hidden {before after : List (String × ByteArray)} {name : String} {value : ByteArray}
      {octet : UInt8} (first : ∀ header ∈ before, header.1.toLower ≠ "authorization")
      (named : name.toLower = "authorization") (member : octet ∈ value.data.toList)
      (hidden : isVisibleOctet octet = false) : Presents (before ++ (name, value) :: after) none

/-- One segment of a path. -/
structure IsSegment (segment : String) : Prop where
  nonempty : segment ≠ ""
  whole : '/' ∉ segment.toList

/-- The methods that only look. -/
def Looks (method : String) : Prop := method = "GET" ∨ method = "HEAD"

/-- What a method asks of all workspaces. -/
inductive AsksAll (drawnName method : String) : Lifecycle.Request → Prop where
  | list (looks : Looks method) : AsksAll drawnName method .list
  | create (posts : method = "POST") : AsksAll drawnName method (.create drawnName)

/-- What a method asks of one workspace, by its name. -/
inductive AsksOne (method : String) : (String → Lifecycle.Request) → Prop where
  | get (looks : Looks method) : AsksOne method .get
  | delete (deletes : method = "DELETE") : AsksOne method .delete

/-- A path leads to one workspace, by a segment. -/
structure LeadsTo (request : Request) (segment : String) : Prop where
  path : Target.requestedPath? request.path = some ("/v1/ns/" ++ segment)
  segment : IsSegment segment

/-- The operation that a request asks for. -/
inductive Asks (drawnName : String) (request : Request) : Lifecycle.Request → Prop where
  | all {operation : Lifecycle.Request}
      (path : Target.requestedPath? request.path = some "/v1/ns")
      (asked : AsksAll drawnName request.method operation) : Asks drawnName request operation
  | one {segment name : String} {operation : String → Lifecycle.Request}
      (leads : LeadsTo request segment) (asked : AsksOne request.method operation)
      (decodes : Decodes (octets segment) (octets name)) :
      Asks drawnName request (operation name)

/-- A request for one workspace, by a segment that is no name in UTF-8. -/
structure Unnamed (request : Request) (segment : String) : Prop where
  leads : LeadsTo request segment
  asked : ∃ operation, AsksOne request.method operation
  nameless : ∀ name, ¬Decodes (octets segment) (octets name)

/-- The requests that may change something. -/
inductive Changes (request : Request) : Prop where
  | creation (posts : request.method = "POST")
      (path : Target.requestedPath? request.path = some "/v1/ns")
  | deletion {segment : String} (deletes : request.method = "DELETE")
      (leads : LeadsTo request segment)

/-- The status and the document for an outcome. -/
inductive Answered : Except Refusal Reply → Nat → Json → Prop where
  | created (descriptor : Workspace.Descriptor) :
      Answered (.ok (.created descriptor)) 200 descriptor.toJson
  | status (status : Workspace.Status) : Answered (.ok (.status status)) 200 status.toJson
  | roster (roster : Workspace.Roster) : Answered (.ok (.roster roster)) 200 roster.toJson
  | deleted (message : String) :
      Answered (.ok (.deleted message)) 200 (.object [("message", .string message)])
  | unauthorized :
      Answered (.error .unauthorized) 401 (.object [("message", .string "Not Authorized")])
  | notFound : Answered (.error .notFound) 404 (.object [("message", .string "Not found")])
  | internal (message : String) :
      Answered (.error (.internal message)) 500 (.object [("message", .string message)])

/-- A response to a method that renders an outcome. -/
def Renders (method : String) (outcome : Except Refusal Reply) (response : Response) : Prop :=
  ∃ status document, Answered outcome status document ∧
    response = ⟨status, some "application/json", none,
      if method = "HEAD" then "" else document.render⟩

section

variable {request : Request} {drawnName : String}

theorem lt_of_isVisibleOctet {octet : UInt8} (visible : isVisibleOctet octet = true) :
    octet < 0x80 := by
  simp only [isVisibleOctet, Bool.or_eq_true, Bool.and_eq_true, decide_eq_true_eq,
    beq_iff_eq] at visible
  rcases visible with ⟨_, below⟩ | rfl
  · exact UInt8.lt_trans below (by decide)
  · decide

theorem header?_of_first {before after : List (String × ByteArray)} {name : String}
    {value : ByteArray} (first : ∀ header ∈ before, header.1.toLower ≠ "authorization")
    (named : name.toLower = "authorization")
    (headers : request.headers = before ++ (name, value) :: after) :
    request.header? "authorization" = some value := by
  have none : before.find? (fun header => header.1.toLower == "authorization") = none := by
    apply List.find?_eq_none.2
    intro header member
    simpa using first header member
  simp [Request.header?, headers, List.find?_append, none, named]

theorem presents_credential? (request : Request) :
    Presents request.headers request.credential? := by
  unfold Request.credential? Request.header?
  cases found : request.headers.find? fun header => header.1.toLower == "authorization" with
  | none =>
      apply Presents.absent
      intro header member
      simpa using List.find?_eq_none.1 found header member
  | some header =>
      obtain ⟨name, value⟩ := header
      obtain ⟨named, before, after, headers, others⟩ := List.find?_eq_some_iff_append.1 found
      have first : ∀ header ∈ before, header.1.toLower ≠ "authorization" := by
        intro header member
        simpa using others header member
      have named : name.toLower = "authorization" := by simpa using named
      rw [headers]
      simp only [Option.map_some, Option.bind_some]
      cases shown : value.data.toList.all isVisibleOctet with
      | true =>
          have all := List.all_eq_true.1 shown
          obtain ⟨token, read⟩ := Text.fromUTF8?_of_ascii fun octet member =>
            lt_of_isVisibleOctet (all octet member)
          have encoded : value = token.toUTF8 := Text.bytes_of_fromUTF8? read
          rw [if_pos rfl, read, encoded]
          exact .visible first named fun octet member => all octet (encoded ▸ member)
      | false =>
          obtain ⟨octet, member, hidden⟩ := List.all_eq_false.1 shown
          exact .hidden first named member (by simpa using hidden)

/-- Headers present one credential, if any. -/
theorem presents_iff {credential : Option String} :
    Presents request.headers credential ↔ credential = request.credential? := by
  constructor
  · intro presents
    generalize same : request.headers = headers at presents
    unfold Request.credential?
    cases presents with
    | absent others =>
        have none : request.header? "authorization" = none := by
          rw [Request.header?, same, List.find?_eq_none.2, Option.map_none]
          intro header member
          simpa using others header member
        rw [none, Option.bind_none]
    | @visible before after name token first named shown =>
        have all : token.toUTF8.data.toList.all isVisibleOctet = true := List.all_eq_true.2 shown
        rw [header?_of_first first named same, Option.bind_some, if_pos all,
          Text.fromUTF8?_toUTF8]
    | hidden first named member hidden =>
        rw [header?_of_first first named same, Option.bind_some, if_neg]
        intro all
        rw [List.all_eq_true.1 all _ member] at hidden
        cases hidden
  · intro same
    exact same ▸ presents_credential? request

theorem ofPath?_segment {segment : String} (whole : IsSegment segment) :
    Route.ofPath? ("/v1/ns/" ++ segment) = some (.workspace segment) := by
  have characters : ("/v1/ns/" ++ segment).toList = Route.workspaceStart ++ segment.toList :=
    String.toList_append
  have different (other : String)
      (apart : other.toList.take Route.workspaceStart.length ≠ Route.workspaceStart) :
      "/v1/ns/" ++ segment ≠ other := by
    intro same
    rw [← same, characters, List.take_left] at apart
    exact apart rfl
  have nonempty : segment.toList ≠ [] := by
    intro empty
    exact whole.nonempty (String.toList_eq_nil_iff.1 empty)
  unfold Route.ofPath?
  rw [if_neg (different "/healthz" (by decide)), if_neg (different "/v1/ns" (by decide))]
  simp [characters, whole.whole, nonempty, List.isPrefixOf_iff_prefix]

/-- The paths that lead somewhere. -/
theorem ofPath?_cases (path : String) :
    Route.ofPath? path = none ∨ Route.ofPath? path = some .health ∨
      (path = "/v1/ns" ∧ Route.ofPath? path = some .workspaces) ∨
      ∃ segment, path = "/v1/ns/" ++ segment ∧ IsSegment segment ∧
        Route.ofPath? path = some (.workspace segment) := by
  by_cases health : path = "/healthz"
  · exact .inr (.inl (if_pos health))
  by_cases all : path = "/v1/ns"
  · exact .inr (.inr (.inl ⟨all, (if_neg health).trans (if_pos all)⟩))
  by_cases one : ∃ segment, path = "/v1/ns/" ++ segment ∧ IsSegment segment
  · obtain ⟨segment, rfl, whole⟩ := one
    exact .inr (.inr (.inr ⟨segment, rfl, whole, ofPath?_segment whole⟩))
  · left
    rw [Route.ofPath?, if_neg health, if_neg all]
    apply if_neg
    intro judged
    simp only [Bool.and_eq_true, Bool.not_eq_true', List.isPrefixOf_iff_prefix] at judged
    obtain ⟨⟨⟨rest, split⟩, nonempty⟩, whole⟩ := judged
    rw [← split, List.drop_left] at nonempty whole
    refine one ⟨String.ofList rest, ?_, ?_, ?_⟩
    · apply String.toList_injective
      simp only [← split, String.toList_append, String.toList_ofList]
      rfl
    · intro empty
      rw [String.ofList_eq_empty_iff.1 empty] at nonempty
      cases nonempty
    · rw [String.toList_ofList]
      simpa using whole

variable {operation : Lifecycle.Request}

/-- A request for one workspace goes on with its segment. -/
theorem ofRequest_of_leads {segment : String} {asked : String → Lifecycle.Request}
    (leads : LeadsTo request segment) (asks : AsksOne request.method asked) :
    Endpoint.ofRequest drawnName request = Endpoint.onSegment segment asked := by
  unfold Endpoint.ofRequest
  simp only [leads.path, Option.bind_some, ofPath?_segment leads.segment]
  cases asks with
  | get looks => exact if_pos looks
  | delete deletes =>
      rw [deletes]
      rfl

theorem ofRequest_of_asks (asks : Asks drawnName request operation) :
    Endpoint.ofRequest drawnName request = .lifecycle operation := by
  cases asks with
  | all path asked =>
      have routed : Route.ofPath? "/v1/ns" = some .workspaces := rfl
      unfold Endpoint.ofRequest
      simp only [path, Option.bind_some, routed]
      cases asked with
      | list looks => exact if_pos looks
      | create posts =>
          rw [posts]
          rfl
  | one leads asked decodes =>
      rw [ofRequest_of_leads leads asked, Endpoint.onSegment, decodePercent?_eq_some_iff.2 decodes]

theorem ofRequest_of_unnamed {segment : String} (unnamed : Unnamed request segment) :
    Endpoint.ofRequest drawnName request = .immediate .badName := by
  obtain ⟨asks, asked⟩ := unnamed.asked
  have nameless : decodePercent? segment = none := by
    cases found : decodePercent? segment with
    | none => rfl
    | some name => exact absurd (decodePercent?_eq_some_iff.1 found) (unnamed.nameless name)
  rw [ofRequest_of_leads unnamed.leads asked, Endpoint.onSegment, nameless]

theorem asks_of_onSegment {segment : String} {asked : String → Lifecycle.Request}
    (leads : LeadsTo request segment) (asks : AsksOne request.method asked)
    (reached : Endpoint.onSegment segment asked = .lifecycle operation) :
    Asks drawnName request operation := by
  unfold Endpoint.onSegment at reached
  cases named : decodePercent? segment with
  | none =>
      rw [named] at reached
      cases reached
  | some name =>
      rw [named] at reached
      cases reached
      exact .one leads asks (decodePercent?_eq_some_iff.1 named)

/-- Only what is asked for leads to an operation. -/
theorem asks_of_ofRequest (reached : Endpoint.ofRequest drawnName request = .lifecycle operation) :
    Asks drawnName request operation := by
  unfold Endpoint.ofRequest at reached
  cases found : Target.requestedPath? request.path with
  | none =>
      rw [found] at reached
      cases reached
  | some path =>
      rw [found, Option.bind_some] at reached
      obtain none | health | ⟨rfl, all⟩ | ⟨segment, rfl, whole, one⟩ := ofPath?_cases path
      · rw [none] at reached
        cases reached
      · rw [health] at reached
        simp only [Endpoint.ofRoute] at reached
        split at reached <;> cases reached
      · rw [all] at reached
        simp only [Endpoint.ofRoute] at reached
        split at reached
        next looks =>
          cases reached
          exact .all found (.list looks)
        next =>
          split at reached
          next posts =>
            cases reached
            exact .all found (.create posts)
          next => cases reached
      · rw [one] at reached
        simp only [Endpoint.ofRoute] at reached
        split at reached
        next looks => exact asks_of_onSegment ⟨found, whole⟩ (.get looks) reached
        next =>
          split at reached
          next deletes => exact asks_of_onSegment ⟨found, whole⟩ (.delete deletes) reached
          next => cases reached

theorem renders_renderReply (method : String) (outcome : Except Refusal Reply) :
    Renders method outcome (finish method (renderReply outcome)) := by
  have shape (status : Nat) (document : Json) (answered : Answered outcome status document)
      (same : renderReply outcome = .ofJson status document) :
      Renders method outcome (finish method (renderReply outcome)) := by
    refine ⟨status, document, answered, ?_⟩
    rw [same, finish]
    split <;> rfl
  cases outcome with
  | error refusal =>
      cases refusal with
      | unauthorized => exact shape _ _ .unauthorized rfl
      | notFound => exact shape _ _ .notFound rfl
      | internal message => exact shape _ _ (.internal message) rfl
  | ok reply =>
      cases reply with
      | created descriptor => exact shape _ _ (.created descriptor) rfl
      | status status => exact shape _ _ (.status status) rfl
      | roster roster => exact shape _ _ (.roster roster) rfl
      | deleted message => exact shape _ _ (.deleted message) rfl

variable {State : Type} {service : Service}

theorem run_respond_ok {plane : Plane State} {start after : State}
    {outcome : Except Refusal Reply} (asks : Asks drawnName request operation)
    (ran : plane.run (perform service request.credential? operation) start =
      (.ok outcome, after)) :
    plane.run (respond service drawnName request) start =
      (.ok (Http.finish request.method (renderReply outcome)), after) := by
  unfold respond
  simp only [ofRequest_of_asks asks, Handler.run_bind, ran]
  rfl

theorem run_respond_error {plane : Plane State} {start after : State} {fault : Fault}
    (asks : Asks drawnName request operation)
    (ran : plane.run (perform service request.credential? operation) start =
      (.error fault, after)) :
    plane.run (respond service drawnName request) start = (.error fault, after) := by
  unfold respond
  simp only [ofRequest_of_asks asks, Handler.run_bind, ran]

theorem run_respond_of_immediate (plane : Plane State) (start : State) {response : Response}
    (immediate : Endpoint.ofRequest drawnName request = .immediate response) :
    plane.run (respond service drawnName request) start =
      (.ok (Http.finish request.method response), start) := by
  unfold respond
  rw [immediate]
  rfl

theorem withOwner_of_silent {Value : Type} {credential : Option String}
    {next : String → Calls (Except Refusal Value)}
    (silent : credential = none ∨ credential = some "") :
    withOwner service credential next = .done (.error .unauthorized) := by
  rcases silent with rfl | rfl <;> rfl

/-- Without a credential nothing is asked. -/
theorem perform_of_silent {credential : Option String}
    (silent : credential = none ∨ credential = some "") :
    perform service credential operation = .done (.error .unauthorized) := by
  cases operation <;>
    simp only [perform, create, Lifecycle.get, list, delete, withOwner_of_silent silent] <;> rfl

/-- A list and a lookup only read. -/
theorem ensures_reads {credential : Option String}
    (looks : operation = .list ∨ ∃ name, operation = .get name) {history : List Exchange} :
    (perform service credential operation).Ensures (recording fun _ call => call.reads = true) False
      (fun _ _ => True) history := by
  rcases looks with rfl | ⟨name, rfl⟩
  · rw [perform, list_eq, Program.ensures_map]
    apply ensures_withOwner (fun _ => trivial) rfl fun _ _ _ => trivial
    intro token secrets after _ _ _
    refine ⟨fun _ => trivial, ?_⟩
    intro owner _
    exact ⟨rfl, fun _ _ _ => trivial⟩
  · rw [perform, Lifecycle.get, Program.ensures_map]
    apply ensures_withOwner (fun _ => trivial) rfl fun _ _ _ => trivial
    intro token secrets after _ _ _
    refine ⟨fun _ => trivial, ?_⟩
    intro owner _
    rw [Program.ensures_bind]
    exact ensures_findOwned (fun _ => trivial) rfl (fun _ _ _ _ => trivial) fun _ _ _ _ _ => trivial

theorem contents_of_looks {credential : Option String}
    (looks : operation = .list ∨ ∃ name, operation = .get name) (store : Store) :
    (Store.plane.run (perform service credential operation) store).2.contents =
      store.contents := by
  have ensured : (perform service credential operation).Ensures
      (recording fun _ call => call.reads = true) False (fun _ _ => True) [] := ensures_reads looks
  apply run_keeps (fun state : Store => state.contents = store.contents) ensured
  · intro history call state reads same
    exact (Store.contents_of_reading reads).trans same
  · intro length state same
    exact same
  · rfl

theorem looks_of_asks (asks : Asks drawnName request operation) (unchanging : ¬Changes request) :
    operation = .list ∨ ∃ name, operation = .get name := by
  cases asks with
  | all path asked =>
      cases asked with
      | list looks => exact .inl rfl
      | create posts => exact absurd (.creation posts path) unchanging
  | one leads asked decodes =>
      cases asked with
      | get looks => exact .inr ⟨_, rfl⟩
      | delete deletes => exact absurd (.deletion deletes leads) unchanging

/-- What asks for no operation is answered without a call, and a segment that is
no name with status 400. -/
theorem run_respond_idle (plane : Plane State) (start : State)
    (idle : ∀ operation, ¬Asks drawnName request operation) :
    ∃ response, plane.run (respond service drawnName request) start = (.ok response, start) ∧
      ∀ segment, Unnamed request segment → response.status = 400 := by
  cases endpoint : Endpoint.ofRequest drawnName request with
  | lifecycle operation => exact absurd (asks_of_ofRequest endpoint) (idle operation)
  | immediate response =>
      refine ⟨_, run_respond_of_immediate plane start endpoint, ?_⟩
      intro segment unnamed
      rw [ofRequest_of_unnamed unnamed] at endpoint
      cases endpoint
      rw [Http.finish]
      split <;> rfl

theorem contents_respond (store : Store) (unchanging : ¬Changes request) :
    (Store.plane.run (respond service drawnName request) store).2.contents = store.contents := by
  cases endpoint : Endpoint.ofRequest drawnName request with
  | immediate response => rw [run_respond_of_immediate Store.plane store endpoint]
  | lifecycle operation =>
      have asks := asks_of_ofRequest endpoint
      have kept : (Store.plane.run
          (perform service request.credential? operation) store).2.contents = store.contents :=
        contents_of_looks (looks_of_asks asks unchanging) store
      rcases ran : Store.plane.run (perform service request.credential? operation) store with
        ⟨result, after⟩
      rw [ran] at kept
      cases result with
      | ok outcome => rw [run_respond_ok asks ran, kept]
      | error fault => rw [run_respond_error asks ran, kept]

end

/-- The front adds nothing and opens nothing, whatever plane answers.  The response
to a request that asks for an operation renders what becomes of the operation,
with the same calls; one without a credential is refused before any call.  All
other requests are answered without a call.  In a store, only requests that may
change something do. -/
theorem front_adds_nothing {State : Type} (plane : Plane State) (start : State)
    (service : Service) (drawnName : String) (request : Request) :
    let front := (recorded plane).run (respond service drawnName request) ⟨[], start⟩
    ∃ credential, (∀ other, Presents request.headers other ↔ other = credential) ∧
      (∀ operation, Asks drawnName request operation →
        let performed := (recorded plane).run (perform service credential operation) ⟨[], start⟩
        (∀ outcome after, performed = (.ok outcome, after) →
          ∃ response, Renders request.method outcome response ∧ front = (.ok response, after)) ∧
        (∀ fault after, performed = (.error fault, after) → front = (.error fault, after)) ∧
        (credential = none ∨ credential = some "" →
          ∃ response, Renders request.method (.error .unauthorized) response ∧
            front = (.ok response, ⟨[], start⟩))) ∧
      ((∀ operation, ¬Asks drawnName request operation) →
        ∃ response, front = (.ok response, ⟨[], start⟩) ∧
          ∀ segment, Unnamed request segment → response.status = 400) ∧
      ∀ store : Store, ¬Changes request →
        (Store.plane.run (respond service drawnName request) store).2.contents =
          store.contents := by
  intro front
  refine ⟨request.credential?, fun _ => presents_iff, ?_, run_respond_idle _ _, contents_respond⟩
  intro operation asks performed
  refine ⟨?_, ?_, ?_⟩
  · intro outcome after ran
    exact ⟨_, renders_renderReply request.method outcome, run_respond_ok asks ran⟩
  · intro fault after ran
    exact run_respond_error asks ran
  · intro silent
    have refused : performed = (.ok (.error .unauthorized), ⟨[], start⟩) := by
      simp only [performed, perform_of_silent silent]
      rfl
    exact ⟨_, renders_renderReply request.method (.error .unauthorized),
      run_respond_ok asks refused⟩

end Tenancy.Http
