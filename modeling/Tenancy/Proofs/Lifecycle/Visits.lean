import Tenancy.Proofs.Cluster.Calm
import Tenancy.Proofs.Lifecycle.Registry
import Tenancy.Proofs.Lifecycle.Requests
import Tenancy.Proofs.Provisioning.AllOrNothing

/-!
# Visits

Owners' requests to one store, one after the other, with failures set up in
between.  Each request is answered by the registry it finds and changes the
registry as its answer says.
-/

namespace Tenancy.Lifecycle

open Cluster Access Workspace

/-- What happens to a store from outside. -/
inductive Event where
  | failNext (operation : Operation) (times : Nat)
  | request (credential : Option String) (request : Request)

structure Visit where
  before : Store
  credential : Option String
  request : Request
  result : Except Fault (Except Refusal Reply)
  after : Store

/-- The visits among some events, and the store after all of them. -/
def serve (service : Service) : Store → List Event → List Visit × Store
  | store, [] => ([], store)
  | store, .failNext operation times :: rest => serve service (store.failNext operation times) rest
  | store, .request credential request :: rest =>
      let (result, after) := Store.plane.run (perform service credential request) store
      let (visits, finish) := serve service after rest
      (⟨store, credential, request, result, after⟩ :: visits, finish)

/-- Once the credentials are read, provisioning fails in this way. -/
def Reports (service : Service) (owner name : String) (before : Store)
    (failure : Provisioning.Failure) (after : Store) : Prop :=
  Store.plane.run (Provisioning.run service.plan name owner)
      (Store.answer (.listSecrets service.credentialSpace) before).2 =
    (.ok (.error failure), after)

/-- The credentials cannot be read, and the refusal says so. -/
structure Unread (service : Service) (before : Store) (refusal : Refusal) : Prop where
  pending : 0 < before.pendingFailures .listSecrets
  told : refusal = .ofReadFailure ⟨service.credentialSpace, .injected .listSecrets⟩

/-- Why a request of an owner is refused before anything is changed, and in which
words. -/
inductive Refused (service : Service) (owner : String) (before : Store) :
    Request → Refusal → Prop where
  | unread {request : Request} {refusal : Refusal} (cause : Unread service before refusal) :
      Refused service owner before request refusal
  /-- The workspace is not the owner's, or it could not be looked up. -/
  | missing {request : Request} {name : String}
      (asks : request = .get name ∨ request = .delete name)
      (unknown : (name, some owner) ∉ registry before.contents ∨
        0 < before.pendingFailures .getNamespace) :
      Refused service owner before request .notFound
  | unlisted (pending : 0 < before.pendingFailures .listNamespaces) :
      Refused service owner before .list
        (.internal (Cluster.Failure.injected .listNamespaces).message)
  | undeleted {name : String} (known : (name, some owner) ∈ registry before.contents)
      (pending : 0 < before.pendingFailures .deleteNamespace) :
      Refused service owner before (.delete name)
        (.internal (Cluster.Failure.injected .deleteNamespace).message)

/-- How a request of an owner may be answered, and what becomes of the
registry then. -/
inductive Served (service : Service) (owner : String) (before after : Store) :
    Request → Except Refusal Reply → Prop where
  | created {name : String} {descriptor : Descriptor} (named : descriptor.name = name)
      (grown : registry after.contents =
        registry before.contents ++ [(descriptor.name, some owner)]) :
      Served service owner before after (.create name) (.ok (.created descriptor))
  | undone {name : String} {failure : Provisioning.Failure}
      (reported : Reports service owner name before failure after)
      (clean : ∀ reason, failure.rollback ≠ .failed reason)
      (same : registry after.contents = registry before.contents) :
      Served service owner before after (.create name) (.error (.internal failure.message))
  | stranded {name : String} {failure : Provisioning.Failure} {reason : String}
      (reported : Reports service owner name before failure after)
      (stuck : failure.rollback = .failed reason)
      (grown : registry after.contents = registry before.contents ++ [(name, some owner)]) :
      Served service owner before after (.create name) (.error (.internal failure.message))
  | found {name : String} {status : Status} (named : status.name = name)
      (known : (name, some owner) ∈ registry before.contents)
      (same : registry after.contents = registry before.contents) :
      Served service owner before after (.get name) (.ok (.status status))
  | listed {roster : Roster}
      (owned : roster.names =
        ((registry before.contents).filter fun entry => entry.2 == some owner).map Prod.fst)
      (same : registry after.contents = registry before.contents) :
      Served service owner before after .list (.ok (.roster roster))
  | deleted {name : String} (known : (name, some owner) ∈ registry before.contents)
      (shrunk : registry after.contents = (registry before.contents).erase (name, some owner)) :
      Served service owner before after (.delete name)
        (.ok (.deleted ("Namespace " ++ name ++ " deleted")))
  | refused {request : Request} {refusal : Refusal}
      (cause : Refused service owner before request refusal)
      (same : registry after.contents = registry before.contents) :
      Served service owner before after request (.error refusal)

/-- A request is answered as the registry has it; one whose credential stands
for nobody is not authorized and changes nothing. -/
def Answered (service : Service) (before : Store) (credential : Option String)
    (request : Request) (reply : Except Refusal Reply) (after : Store) : Prop :=
  match ownerOf? service credential before.contents with
  | none =>
      (∃ refusal, reply = .error refusal ∧
        (refusal = .unauthorized ∨ Unread service before refusal)) ∧
      registry after.contents = registry before.contents
  | some owner => Served service owner before after request reply

/-- Visits that begin with a registry, each with the one that the visit before
left, and end with another. -/
inductive Kept (service : Service) : Registry → List Visit → Registry → Prop where
  | nil {entries : Registry} : Kept service entries [] entries
  | cons {visit : Visit} {rest : List Visit} {finish : Registry} {reply : Except Refusal Reply}
      (total : visit.result = .ok reply)
      (answered : Answered service visit.before visit.credential visit.request reply visit.after)
      (kept : Kept service (registry visit.after.contents) rest finish) :
      Kept service (registry visit.before.contents) (visit :: rest) finish

/-- The names that the creations among some events have drawn. -/
def drawnNames : List Event → List String
  | .request _ (.create name) :: rest => name :: drawnNames rest
  | _ :: rest => drawnNames rest
  | [] => []

/-- Names for workspaces that nothing in a store has, each drawn once. -/
structure Fresh (contents : Contents) (names : List String) : Prop where
  distinct : names.Nodup
  shaped : ∀ name ∈ names, isName name = true
  vacant : ∀ name ∈ names, contents.Vacant name

section

variable {service : Service} {credential : Option String} {store : Store} {mayFault : Prop}

theorem ownerOf?_of_listed {token : String} {secrets : List Secret} {after : Store}
    (nonempty : token ≠ "")
    (answered : Store.answer (.listSecrets service.credentialSpace) store = (.ok secrets, after)) :
    ownerOf? service (some token) store.contents =
      grantedTo? (Decision.ofCredentials token (secrets.map .ofSecret)) := by
  rw [(Store.listSecrets_ok answered).1]
  exact if_neg nonempty

/-- The store after the credentials were read. -/
structure Opened (service : Service) (store after : Store) : Prop where
  read : after = (Store.answer (.listSecrets service.credentialSpace) store).2
  contents : after.contents = store.contents
  pending : ∀ operation, operation ≠ .listSecrets →
    after.pendingFailures operation = store.pendingFailures operation

theorem unread_of_error {cause : Failure} {after : Store}
    (answered : Store.answer (.listSecrets service.credentialSpace) store = (.error cause, after)) :
    Unread service store (.ofReadFailure ⟨service.credentialSpace, cause⟩) := by
  have told := Store.listSecrets_answer store service.credentialSpace
  rw [answered] at told
  split at told
  next => cases told
  next hindered =>
    cases told
    exact ⟨Nat.pos_of_ne_zero hindered, rfl⟩

/-- A request goes on in the store after the credentials were read, for the
owner that the credential stands for, or is refused there. -/
theorem ensures_authorized {Value : Type} {next : String → Calls (Except Refusal Value)}
    {goal : Except Refusal Value → Store → Prop}
    (denied : ∀ refusal after, after.contents = store.contents →
      (ownerOf? service credential store.contents = none ∧ refusal = .unauthorized ∨
        Unread service store refusal) → goal (.error refusal) after)
    (granted : ∀ owner after, ownerOf? service credential store.contents = some owner →
      Opened service store after →
        (next owner).Ensures Store.plane.setting mayFault goal after) :
    (withOwner service credential next).Ensures Store.plane.setting mayFault goal store := by
  apply ensures_withOwner
  · intro silent
    refine denied .unauthorized store rfl (.inl ⟨?_, rfl⟩)
    rcases silent with rfl | rfl
    · rfl
    · rfl
  · trivial
  · intro cause after answered
    exact denied _ after (Store.contents_of_error answered) (.inr (unread_of_error answered))
  · intro token secrets after presented nonempty answered
    subst presented
    have read : Store.answer (.listSecrets service.credentialSpace) store =
        (.ok secrets, after) := answered
    have finish : after = (Store.answer (.listSecrets service.credentialSpace) store).2 :=
      (congrArg Prod.snd read).symm
    have same : after.contents = store.contents := (Store.listSecrets_ok read).2
    have pending : ∀ operation, operation ≠ .listSecrets →
        after.pendingFailures operation = store.pendingFailures operation := by
      intro operation apart
      rw [finish]
      exact Store.pendingFailures_answer_other apart store
    have resolved : ownerOf? service (some token) store.contents =
        grantedTo? (Decision.ofCredentials token (secrets.map .ofSecret)) :=
      ownerOf?_of_listed nonempty read
    constructor
    · intro decision
      rw [decision] at resolved
      exact denied .unauthorized after same (.inl ⟨resolved, rfl⟩)
    · intro owner decision
      rw [decision] at resolved
      exact granted owner after resolved ⟨finish, same, pending⟩

/-- A workspace that is found is in the store, and its owner's.  One that is not
found is not, unless a failure was pending. -/
theorem ensures_looked_up {owner name : String} (distinct : DistinctNames store.contents)
    {goal : Except Refusal Namespace → Store → Prop}
    (missing : ∀ after, after.contents = store.contents →
      ((name, some owner) ∉ registry store.contents ∨
        0 < store.pendingFailures .getNamespace) → goal (.error .notFound) after)
    (found : ∀ held after, after.contents = store.contents →
      after.pendingFailures .deleteNamespace = store.pendingFailures .deleteNamespace →
      (name, some owner) ∈ registry store.contents → held.metadata.name = some name →
        goal (.ok held) after) :
    (findOwned owner name).Ensures Store.plane.setting mayFault goal store := by
  apply ensures_findOwned
  · intro outside
    refine missing store rfl (.inl ?_)
    intro known
    obtain ⟨_, _, _, shaped, _⟩ := mem_registry_iff.1 known
    rw [outside] at shaped
    cases shaped
  · trivial
  · intro answer after answered foreign
    have looked : Store.answer (.getNamespace name) store = (answer, after) := answered
    by_cases free : store.pendingFailures .getNamespace = 0
    · cases answer with
      | error cause =>
          refine missing after (Store.contents_of_error looked) (.inl ?_)
          intro known
          obtain ⟨held, member, named, _⟩ := mem_registry_iff.1 known
          have has : store.contents.Has name := ⟨held, member, by simp [Metadata.isNamed, named]⟩
          obtain ⟨other, finish, found⟩ := Store.getNamespace_found free has
          rw [looked] at found
          cases found
      | ok held =>
          obtain ⟨member, named, same⟩ := Store.getNamespace_ok looked
          refine missing after same (.inl ?_)
          intro known
          obtain ⟨other, listed, alsoNamed, _, owned⟩ := mem_registry_iff.1 known
          have one := distinct.eq_of_name member listed named alsoNamed
          exact foreign held rfl (one ▸ owned)
    · have hindered : store.pendingFailures (Call.getNamespace name).operation ≠ 0 := free
      have same : after.contents = store.contents := by
        have kept := (Store.answer_injected hindered).2
        rwa [looked] at kept
      exact missing after same (.inr (Nat.pos_of_ne_zero free))
  · intro held after shaped answered owned
    have looked : Store.answer (.getNamespace name) store = (.ok held, after) := answered
    obtain ⟨member, named, same⟩ := Store.getNamespace_ok looked
    have pending : after.pendingFailures .deleteNamespace =
        store.pendingFailures .deleteNamespace := by
      have apart : Operation.deleteNamespace ≠ (Call.getNamespace name).operation := by simp
      have kept := Store.pendingFailures_answer_other apart store
      rwa [looked] at kept
    exact found held after same pending (mem_registry member named shaped owned) named

theorem answered_of_served {request : Request} {reply : Except Refusal Reply} {after : Store}
    {owner : String} (resolved : ownerOf? service credential store.contents = some owner)
    (served : Served service owner store after request reply) :
    Answered service store credential request reply after := by
  unfold Answered
  rw [resolved]
  exact served

theorem answered_of_refused {request : Request} {refusal : Refusal} {after : Store}
    {owner : String} (resolved : ownerOf? service credential store.contents = some owner)
    (cause : Refused service owner store request refusal)
    (same : after.contents = store.contents) :
    Answered service store credential request (.error refusal) after ∧
      Footprint store.contents request.drawn? after.contents :=
  ⟨answered_of_served resolved (.refused cause (congrArg registry same)), same ▸ .same⟩

theorem answered_of_denied {request : Request} {refusal : Refusal} {after : Store}
    (same : after.contents = store.contents)
    (cause : ownerOf? service credential store.contents = none ∧ refusal = .unauthorized ∨
      Unread service store refusal) :
    Answered service store credential request (.error refusal) after ∧
      Footprint store.contents request.drawn? after.contents := by
  cases resolved : ownerOf? service credential store.contents with
  | none =>
      refine ⟨?_, same ▸ .same⟩
      unfold Answered
      rw [resolved]
      exact ⟨⟨refusal, rfl, cause.imp_left And.right⟩, congrArg registry same⟩
  | some owner =>
      rw [resolved] at cause
      rcases cause with ⟨impossible, _⟩ | unread
      · cases impossible
      · exact answered_of_refused resolved (.unread unread) same

theorem ensures_get {name : String} (distinct : DistinctNames store.contents) :
    (perform service credential (.get name)).Ensures Store.plane.setting mayFault
      (fun reply after => Answered service store credential (.get name) reply after ∧
        Footprint store.contents none after.contents) store := by
  rw [perform, Program.ensures_map]
  apply ensures_authorized
  · intro refusal after same cause
    exact answered_of_denied same cause
  · intro owner granted resolved opened
    have same := opened.contents
    rw [Program.ensures_bind]
    apply ensures_looked_up (same ▸ distinct)
    · intro after unchanged unknown
      rw [same, opened.pending .getNamespace (by decide)] at unknown
      exact answered_of_refused resolved (.missing (.inl rfl) unknown) (unchanged.trans same)
    · intro held after unchanged _ known named
      rw [same] at known
      refine ⟨answered_of_served resolved (.found ?_ known ?_), ?_⟩
      · simp [Status.ofNamespace, named]
      · rw [unchanged, same]
      · rw [unchanged, same]
        exact .same

theorem ensures_list :
    (perform service credential .list).Ensures Store.plane.setting mayFault
      (fun reply after => Answered service store credential .list reply after ∧
        Footprint store.contents none after.contents) store := by
  rw [perform, Program.ensures_map]
  apply ensures_authorized
  · intro refusal after same cause
    exact answered_of_denied same cause
  · intro owner granted resolved opened
    have same := opened.contents
    refine ⟨trivial, ?_⟩
    intro answer after answered
    have replied : Store.answer .listNamespaces granted = (answer, after) := answered
    have told := Store.listNamespaces_answer granted
    rw [replied, opened.pending .listNamespaces (by decide)] at told
    cases answer with
    | error cause =>
        have unchanged := Store.contents_of_error answered
        split at told
        next => cases told
        next hindered =>
          cases told
          exact answered_of_refused resolved (.unlisted (Nat.pos_of_ne_zero hindered))
            (unchanged.trans same)
    | ok listing =>
        obtain ⟨listed, unchanged⟩ := Store.listNamespaces_ok answered
        refine ⟨answered_of_served resolved (.listed ?_ ?_), ?_⟩
        · rw [listed, same]
          exact namesOwnedBy_eq owner _
        · rw [unchanged, same]
        · rw [unchanged, same]
          exact .same

theorem ensures_delete {name : String} (distinct : DistinctNames store.contents) :
    (perform service credential (.delete name)).Ensures Store.plane.setting mayFault
      (fun reply after => Answered service store credential (.delete name) reply after ∧
        Footprint store.contents none after.contents) store := by
  rw [perform, Program.ensures_map]
  apply ensures_authorized
  · intro refusal after same cause
    exact answered_of_denied same cause
  · intro owner granted resolved opened
    have same := opened.contents
    rw [Program.ensures_bind]
    apply ensures_looked_up (same ▸ distinct)
    · intro after unchanged unknown
      rw [same, opened.pending .getNamespace (by decide)] at unknown
      exact answered_of_refused resolved (.missing (.inr rfl) unknown) (unchanged.trans same)
    · intro held looked unchanged pending known _
      have has : looked.contents.Has name := by
        obtain ⟨held, member, named, _⟩ := mem_registry_iff.1 (unchanged ▸ known)
        exact ⟨held, member, by simp [Metadata.isNamed, named]⟩
      have told := Store.deleteNamespace_answer has
      rw [pending, opened.pending .deleteNamespace (by decide)] at told
      rw [same] at known unchanged
      refine ⟨trivial, ?_⟩
      intro answer after answered
      have replied : Store.answer (.deleteNamespace name) looked = (answer, after) := answered
      rw [replied] at told
      rcases answer with cause | ⟨⟩
      · have kept := Store.contents_of_error answered
        split at told
        next => cases told
        next hindered =>
          cases told
          exact answered_of_refused resolved (.undeleted known (Nat.pos_of_ne_zero hindered))
            (kept.trans unchanged)
      · obtain ⟨_, removed⟩ := Store.deleteNamespace_ok answered
        refine ⟨answered_of_served resolved (.deleted known ?_), ?_⟩
        · rw [removed, unchanged]
          exact registry_without_eq_erase distinct known
        · rw [removed, unchanged]
          exact .shrunk name

theorem registry_of_parts {reached : Provisioning.Step} {name owner : String} {issues : Bool}
    {objects : Contents} (parts : Provisioning.PartsBy reached name owner issues objects)
    (begun : 1 ≤ reached.parts) (shaped : isName name = true) :
    registry objects = [(name, some owner)] := by
  obtain ⟨held, only, fits⟩ := parts.namespaces.present begun
  have found : entryOf? held = some (name, some owner) :=
    entryOf?_eq_some.2 ⟨fits.name, shaped, fits.owner⟩
  simp [registry, registryOf, only, found]

theorem footprint_of_parts {reached : Provisioning.Step} {name owner : String} {issues : Bool}
    {contents objects : Contents}
    (parts : Provisioning.PartsBy reached name owner issues objects) :
    Footprint contents (some name) (contents ++ objects) := by
  apply Footprint.grown rfl parts.within
  by_cases begun : 1 ≤ reached.parts
  · obtain ⟨held, only, _⟩ := parts.namespaces.present begun
    simp [only]
  · simp [parts.namespaces.absent begun]

theorem served_of_settled {owner name : String} {issues : Bool} {after : Store}
    {outcome : Except Provisioning.Failure String} (shaped : isName name = true)
    (ran : Store.plane.run (Provisioning.run service.plan name owner)
      (Store.answer (.listSecrets service.credentialSpace) store).2 = (.ok outcome, after))
    (settled : Provisioning.Settled name owner issues store.contents outcome after.contents) :
    Served service owner store after (.create name) (replyTo name outcome) ∧
      Footprint store.contents (some name) after.contents := by
  cases outcome with
  | ok token =>
      obtain ⟨objects, secret, grown, parts, _, _⟩ := settled
      refine ⟨.created rfl ?_, grown ▸ footprint_of_parts parts⟩
      rw [grown, registry_append, registry_of_parts parts (by decide) shaped]
      rfl
  | error failure =>
      have reported : Reports service owner name store failure after := ran
      unfold Provisioning.Settled at settled
      cases rollback : failure.rollback with
      | notNeeded =>
          simp only [rollback] at settled
          refine ⟨.undone reported ?_ (congrArg registry settled), settled ▸ .same⟩
          simp [rollback]
      | completed =>
          simp only [rollback] at settled
          refine ⟨.undone reported ?_ (congrArg registry settled), settled ▸ .same⟩
          simp [rollback]
      | failed reason =>
          simp only [rollback] at settled
          obtain ⟨begun, objects, grown, parts⟩ := settled
          refine ⟨.stranded reported rollback ?_, grown ▸ footprint_of_parts parts⟩
          rw [grown, registry_append, registry_of_parts parts begun shaped]

theorem ensures_create {name : String} (vacant : store.contents.Vacant name)
    (shaped : isName name = true) :
    (perform service credential (.create name)).Ensures Store.plane.setting
      service.plan.Unsteady
      (fun reply after => Answered service store credential (.create name) reply after ∧
        Footprint store.contents (some name) after.contents) store := by
  rw [perform, Program.ensures_map]
  apply ensures_authorized
  · intro refusal after same cause
    exact answered_of_denied same cause
  · intro owner granted resolved opened
    have same := opened.contents
    rw [Program.ensures_bind]
    have vacantThen : granted.contents.Vacant name := same ▸ vacant
    refine (Handler.ensures_tracked (Provisioning.ensures_run_settled vacantThen)).mono ?_
    intro outcome after both
    obtain ⟨settled, ran⟩ := both
    rw [same] at settled
    have ranThen : Store.plane.run (Provisioning.run service.plan name owner)
        (Store.answer (.listSecrets service.credentialSpace) store).2 = (.ok outcome, after) :=
      opened.read ▸ ran
    obtain ⟨served, footprint⟩ := served_of_settled shaped ranThen settled
    cases outcome with
    | ok token => exact ⟨answered_of_served resolved served, footprint⟩
    | error failure => exact ⟨answered_of_served resolved served, footprint⟩

/-- Every request ends, is answered by the registry and stays within its
footprint. -/
theorem run_perform (credential : Option String) (request : Request)
    (distinct : DistinctNames store.contents)
    (drawn : ∀ name, request.drawn? = some name →
      store.contents.Vacant name ∧ isName name = true)
    (steady : ¬service.plan.Unsteady) :
    ∃ reply after, Store.plane.run (perform service credential request) store =
        (.ok reply, after) ∧
      Answered service store credential request reply after ∧
      Footprint store.contents request.drawn? after.contents := by
  have ensured : (perform service credential request).Ensures Store.plane.setting
      service.plan.Unsteady
      (fun reply after => Answered service store credential request reply after ∧
        Footprint store.contents request.drawn? after.contents) store := by
    cases request with
    | create name =>
        obtain ⟨vacant, shaped⟩ := drawn name rfl
        exact ensures_create vacant shaped
    | get name => exact ensures_get distinct
    | list => exact ensures_list
    | delete name => exact ensures_delete distinct
  obtain ⟨reply, after, _, ran, reached, rfl⟩ :=
    Handler.run_of_ensures (Handler.foreseen_ofAnswer Store.answer) ensured rfl steady
  exact ⟨reply, after, ran, reached⟩

theorem drawnNames_request (request : Request) (rest : List Event) :
    drawnNames (.request credential request :: rest) =
      request.drawn?.toList ++ drawnNames rest := by
  cases request <;> rfl

theorem Fresh.after_request {request : Request} {rest : List Event} {contents : Contents}
    (fresh : Fresh store.contents (drawnNames (.request credential request :: rest)))
    (footprint : Footprint store.contents request.drawn? contents) :
    Fresh contents (drawnNames rest) := by
  obtain ⟨distinct, shaped, vacant⟩ := fresh
  rw [drawnNames_request] at distinct shaped vacant
  obtain ⟨_, distinctRest, apart⟩ := List.nodup_append.1 distinct
  refine ⟨distinctRest, ?_, ?_⟩
  · intro name later
    exact shaped name (List.mem_append_right _ later)
  · intro name later
    apply footprint.vacant (vacant name (List.mem_append_right _ later))
    intro drawn
    exact apart name (by simp [drawn]) name later rfl

end

theorem serve_request {service : Service} {credential : Option String} {request : Request}
    {store after : Store} {result : Except Fault (Except Refusal Reply)} (rest : List Event)
    (ran : Store.plane.run (perform service credential request) store = (result, after)) :
    serve service store (.request credential request :: rest) =
      (⟨store, credential, request, result, after⟩ :: (serve service after rest).1,
        (serve service after rest).2) := by
  simp only [serve, ran]

/-- Whatever owners ask of a store and whatever failures are set up in between,
every request ends, is answered by the registry that it finds and leaves the
registry that its answer tells. -/
theorem serve_keeps_registry (service : Service) (store : Store) (events : List Event)
    (distinct : DistinctNames store.contents)
    (fresh : Fresh store.contents (drawnNames events)) (steady : ¬service.plan.Unsteady) :
    Kept service (registry store.contents) (serve service store events).1
      (registry (serve service store events).2.contents) := by
  induction events generalizing store with
  | nil => exact .nil
  | cons event rest induction =>
      cases event with
      | failNext operation times =>
          exact induction (store.failNext operation times) distinct fresh
      | request credential request =>
          have drawn : ∀ name, request.drawn? = some name →
              store.contents.Vacant name ∧ isName name = true := by
            intro name named
            have member : name ∈ drawnNames (.request credential request :: rest) := by
              simp [drawnNames_request, named]
            exact ⟨fresh.vacant name member, fresh.shaped name member⟩
          obtain ⟨reply, after, ran, answered, footprint⟩ :=
            run_perform credential request distinct drawn steady
          have distinctAfter : DistinctNames after.contents :=
            footprint.distinct distinct fun name named => (drawn name named).1
          let visit : Visit := ⟨store, credential, request, .ok reply, after⟩
          have kept : Kept service (registry visit.after.contents) (serve service after rest).1
              (registry (serve service after rest).2.contents) :=
            induction after distinctAfter (fresh.after_request footprint)
          have visited : serve service store (.request credential request :: rest) =
              (visit :: (serve service after rest).1, (serve service after rest).2) := by
            simp only [serve, ran, visit]
          rw [visited]
          exact kept.cons rfl answered

/-- Alice draws a name in a store with a workspace of Bob's, and the deletion
that she asks for next fails. -/
theorem serve_keeps_registry_beside :
    let service : Service := ⟨"owners", Provisioning.Plan.standard⟩
    let alice : Secret :=
      { metadata :=
          { name := some "alice"
            space := some "owners"
            annotations := some (.singleton roleAnnotation userRole) }
        data := some (.singleton tokenKey "wonder".toUTF8) }
    let store : Store :=
      { namespaces := [namespaceFor "zombie-b" "bob"]
        secrets := [alice]
        stampOf := fun _ => default }
    let events : List Event :=
      [.request (some "wonder") (.create (nameOfDraw 0)), .failNext .deleteNamespace 1,
        .request (some "wonder") (.delete (nameOfDraw 0)), .request none .list]
    DistinctNames store.contents ∧ Fresh store.contents (drawnNames events) ∧
      ¬service.plan.Unsteady ∧
        Kept service (registry store.contents) (serve service store events).1
          (registry (serve service store events).2.contents) := by
  intro service alice store events
  have distinct : DistinctNames store.contents :=
    List.nodup_cons.2 ⟨List.not_mem_nil, List.nodup_nil⟩
  have vacant : store.contents.Vacant (nameOfDraw 0) := by
    constructor
    · intro held member
      rw [List.mem_singleton.1 member]
      decide
    · intro held member
      cases member
    · intro held member
      rw [List.mem_singleton.1 member]
      decide
    all_goals
      intro held member
      cases member
  have fresh : Fresh store.contents (drawnNames events) := by
    refine ⟨List.nodup_cons.2 ⟨List.not_mem_nil, List.nodup_nil⟩, ?_, ?_⟩
    · intro name drawn
      rw [List.mem_singleton.1 drawn]
      exact isName_nameOfDraw 0
    · intro name drawn
      rw [List.mem_singleton.1 drawn]
      exact vacant
  have steady : ¬service.plan.Unsteady := Provisioning.Plan.steady_standard
  exact ⟨distinct, fresh, steady, serve_keeps_registry service store events distinct fresh steady⟩

end Tenancy.Lifecycle
