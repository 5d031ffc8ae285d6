import Tenancy.Proofs.Alongside
import Tenancy.Proofs.Cluster.Calm
import Tenancy.Proofs.Lifecycle.Visits

/-!
# Isolation of owners

Two stores are alike to an owner when they agree on the secrets of the service,
on the failures to come and on the owner's own workspaces.  Requests that look
up, list and delete cannot tell such stores apart, whatever else is in them,
and they leave everything else as it is.
-/

namespace Tenancy.Lifecycle

open Cluster Access Workspace

/-- The workspaces of an owner, in the order of their creation. -/
def workspacesOf (owner : String) (contents : Contents) : List Namespace :=
  contents.namespaces.filter fun held => isWorkspace held && isOwnedBy owner held

/-- The objects that live in a namespace. -/
def objectsIn (contents : Contents) (space : String) : Contents where
  pods := contents.pods.filter fun held => held.metadata.isIn space
  secrets := contents.secrets.filter fun held => held.metadata.isIn space
  accounts := contents.accounts.filter fun held => held.metadata.isIn space
  bindings := contents.bindings.filter fun held => held.metadata.isIn space

structure Alike (service : Service) (owner : String) (first second : Store) : Prop where
  distinct : DistinctNames first.contents
  distinctOther : DistinctNames second.contents
  credentials : (objectsIn first.contents service.credentialSpace).secrets =
    (objectsIn second.contents service.credentialSpace).secrets
  failures : first.pendingFailures = second.pendingFailures
  workspaces : workspacesOf owner first.contents = workspacesOf owner second.contents

/-- What an owner's request does to the objects at most. -/
inductive Confined (owner : String) (before : Contents) : Contents → Prop where
  | same : Confined owner before before
  | deleted {held : Namespace} {name : String} (member : held ∈ before.namespaces)
      (named : held.metadata.name = some name) (owned : isOwnedBy owner held = true) :
      Confined owner before (before.without name)

/-- The namespaces that are not an owner's are the same, and so is all that
lives in them. -/
structure Unharmed (owner : String) (before after : Contents) : Prop where
  namespaces : (after.namespaces.filter fun held => !isOwnedBy owner held) =
    before.namespaces.filter fun held => !isOwnedBy owner held
  inside : ∀ held ∈ before.namespaces, isOwnedBy owner held = false →
    ∀ space, held.metadata.name = some space → objectsIn after space = objectsIn before space

section

variable {service : Service} {owner name : String} {before after later : Contents}
variable {credential : Option String}

theorem Unharmed.refl : Unharmed owner before before := ⟨rfl, fun _ _ _ _ _ => rfl⟩

theorem Unharmed.trans (first : Unharmed owner before after)
    (second : Unharmed owner after later) : Unharmed owner before later := by
  refine ⟨second.namespaces.trans first.namespaces, ?_⟩
  intro held member foreign space named
  have kept : held ∈ after.namespaces := by
    have listed : held ∈ after.namespaces.filter fun held => !isOwnedBy owner held := by
      rw [first.namespaces]
      exact List.mem_filter.2 ⟨member, by simp [foreign]⟩
    exact (List.mem_filter.1 listed).1
  exact (second.inside held kept foreign space named).trans
    (first.inside held member foreign space named)

theorem objectsIn_without {space : String} (apart : space ≠ name) :
    objectsIn (before.without name) space = objectsIn before space := by
  have kept : ∀ metadata : Metadata,
      (metadata.isIn space && !metadata.isIn name) = metadata.isIn space := by
    intro metadata
    cases within : metadata.isIn space with
    | false => rfl
    | true => simp [isIn_of_isIn (Ne.symm apart) within]
  apply Contents.ext <;> simp [objectsIn, Contents.without, List.filter_filter, kept]

theorem Confined.unharmed (distinct : DistinctNames before)
    (confined : Confined owner before after) : Unharmed owner before after := by
  cases confined with
  | same => exact .refl
  | @deleted held name member named owned =>
      have apart : ∀ other ∈ before.namespaces, isOwnedBy owner other = false →
          other.metadata.name ≠ some name := by
        intro other listed foreign same
        have equal := distinct.eq_of_name member listed named same
        rw [← equal, owned] at foreign
        cases foreign
      constructor
      · simp only [Contents.without, List.filter_filter]
        apply List.filter_congr
        intro other listed
        cases foreign : isOwnedBy owner other with
        | true => rfl
        | false => simp [Metadata.isNamed, apart other listed foreign]
      · intro other listed foreign space called
        apply objectsIn_without
        intro same
        exact apart other listed foreign (same ▸ called)

theorem ownerOf?_congr
    (same : (objectsIn before service.credentialSpace).secrets =
      (objectsIn after service.credentialSpace).secrets) :
    ownerOf? service credential before = ownerOf? service credential after := by
  have filtered : before.secrets.filter (fun held => held.metadata.isIn service.credentialSpace) =
      after.secrets.filter (fun held => held.metadata.isIn service.credentialSpace) := same
  simp only [ownerOf?, filtered]

theorem ownerOf?_of_no_secrets (bare : (objectsIn before service.credentialSpace).secrets = []) :
    ownerOf? service credential before = none := by
  have filtered : before.secrets.filter
      (fun held => held.metadata.isIn service.credentialSpace) = [] := bare
  cases credential with
  | none => rfl
  | some token => simp [ownerOf?, filtered, Decision.ofCredentials, grantedTo?]

/-- A deletion takes no credential away, or all of them. -/
theorem Confined.resolved {other : String} (confined : Confined owner before after)
    (resolved : ownerOf? service credential after = some other) :
    ownerOf? service credential before = some other := by
  cases confined with
  | same => exact resolved
  | @deleted held name member named owned =>
      by_cases same : service.credentialSpace = name
      · have bare : (objectsIn (before.without name) service.credentialSpace).secrets = [] := by
          simp [objectsIn, Contents.without, same]
        rw [ownerOf?_of_no_secrets bare] at resolved
        cases resolved
      · rw [← resolved]
        exact (ownerOf?_congr (congrArg Contents.secrets (objectsIn_without same))).symm

end

/-- The workspace of an owner that has a name. -/
def lookup (owner name : String) (contents : Contents) : Option Namespace :=
  (workspacesOf owner contents).find? fun held => held.metadata.isNamed name

theorem lookup_eq_some_iff {owner name : String} {contents : Contents} {held : Namespace}
    (distinct : DistinctNames contents) (shaped : isName name = true) :
    lookup owner name contents = some held ↔
      held ∈ contents.namespaces ∧ held.metadata.name = some name ∧
        isOwnedBy owner held = true := by
  have listed : ∀ {other : Namespace}, lookup owner name contents = some other →
      other ∈ contents.namespaces ∧ other.metadata.name = some name ∧
        isOwnedBy owner other = true := by
    intro other found
    obtain ⟨member, fits⟩ := List.mem_filter.1 (List.mem_of_find?_eq_some found)
    have named := List.find?_some found
    simp only [Bool.and_eq_true] at fits
    exact ⟨member, by simpa [Metadata.isNamed] using named, fits.2⟩
  constructor
  · exact listed
  · intro all
    obtain ⟨member, named, owned⟩ := all
    cases found : lookup owner name contents with
    | none =>
        have workspace : held ∈ workspacesOf owner contents :=
          List.mem_filter.2 ⟨member, by simp [isWorkspace, named, shaped, owned]⟩
        have unnamed := List.find?_eq_none.1 found held workspace
        simp [Metadata.isNamed, named] at unnamed
    | some other =>
        obtain ⟨otherMember, otherNamed, _⟩ := listed found
        rw [distinct.eq_of_name member otherMember named otherNamed]

/-- A name that belongs to somebody else is looked up like one that is missing. -/
theorem lookupOutcome_answer {owner name : String} {store : Store}
    (distinct : DistinctNames store.contents) (shaped : isName name = true) :
    lookupOutcome owner (Store.answer (.getNamespace name) store).1 =
      if store.pendingFailures .getNamespace = 0 then
        (lookup owner name store.contents).elim (.error .notFound) .ok
      else .error .notFound := by
  by_cases free : store.pendingFailures .getNamespace = 0
  · have known : ∀ {held : Namespace}, lookup owner name store.contents = some held ↔
        held ∈ store.contents.namespaces ∧ held.metadata.name = some name ∧
          isOwnedBy owner held = true := lookup_eq_some_iff distinct shaped
    rw [if_pos free]
    cases reply : Store.answer (.getNamespace name) store with
    | mk answer after =>
        cases answer with
        | ok held =>
            obtain ⟨member, named, _⟩ := Store.getNamespace_ok reply
            cases owned : isOwnedBy owner held with
            | true =>
                rw [known.2 ⟨member, named, owned⟩]
                simp [lookupOutcome, owned]
            | false =>
                cases looked : lookup owner name store.contents with
                | none => simp [lookupOutcome, owned]
                | some other =>
                    obtain ⟨otherMember, otherNamed, otherOwned⟩ := known.1 looked
                    have same := distinct.eq_of_name otherMember member otherNamed named
                    rw [same, owned] at otherOwned
                    cases otherOwned
        | error cause =>
            cases looked : lookup owner name store.contents with
            | none => rfl
            | some other =>
                obtain ⟨member, named, _⟩ := known.1 looked
                have has : store.contents.Has name :=
                  ⟨other, member, by simp [Metadata.isNamed, named]⟩
                obtain ⟨held, last, found⟩ := Store.getNamespace_found free has
                rw [reply] at found
                cases found
  · rw [if_neg free, (Store.answer_injected free).1]
    rfl

section

variable {service : Service} {owner name : String} {credential : Option String}
variable {first second : Store}

theorem Alike.asked {question : Call} (alike : Alike service owner first second)
    (same : (Store.answer question first).2.contents = first.contents)
    (sameOther : (Store.answer question second).2.contents = second.contents) :
    Alike service owner (Store.answer question first).2 (Store.answer question second).2 := by
  constructor
  · rw [same]
    exact alike.distinct
  · rw [sameOther]
    exact alike.distinctOther
  · rw [same, sameOther]
    exact alike.credentials
  · rw [Store.pendingFailures_answer, Store.pendingFailures_answer, alike.failures]
  · rw [same, sameOther]
    exact alike.workspaces

theorem Alike.read {question : Call} (alike : Alike service owner first second)
    (reads : question.reads = true) :
    Alike service owner (Store.answer question first).2 (Store.answer question second).2 :=
  alike.asked (Store.contents_of_reading reads) (Store.contents_of_reading reads)

theorem credentials_without {before after : Contents} {space : String}
    (same : (objectsIn before space).secrets = (objectsIn after space).secrets) (name : String) :
    (objectsIn (before.without name) space).secrets =
      (objectsIn (after.without name) space).secrets := by
  have swapped : ∀ contents : Contents, (objectsIn (contents.without name) space).secrets =
      (objectsIn contents space).secrets.filter fun held => !held.metadata.isIn name := by
    intro contents
    simp only [objectsIn, Contents.without, List.filter_filter]
    apply List.filter_congr
    intro held member
    exact Bool.and_comm _ _
  rw [swapped, swapped, same]

theorem workspacesOf_without {before after : Contents}
    (same : workspacesOf owner before = workspacesOf owner after) (name : String) :
    workspacesOf owner (before.without name) = workspacesOf owner (after.without name) := by
  have swapped : ∀ contents : Contents, workspacesOf owner (contents.without name) =
      (workspacesOf owner contents).filter fun held => !held.metadata.isNamed name := by
    intro contents
    simp only [workspacesOf, Contents.without, List.filter_filter]
    apply List.filter_congr
    intro held member
    exact Bool.and_comm _ _
  rw [swapped, swapped, same]

theorem Alike.listSecrets_answer (alike : Alike service owner first second) :
    (Store.answer (.listSecrets service.credentialSpace) first).1 =
      (Store.answer (.listSecrets service.credentialSpace) second).1 := by
  by_cases free : first.pendingFailures .listSecrets = 0
  · have freeOther : second.pendingFailures .listSecrets = 0 := alike.failures ▸ free
    rw [Store.answer_unhindered free, Store.answer_unhindered freeOther]
    exact congrArg Except.ok alike.credentials
  · have hindered : second.pendingFailures .listSecrets ≠ 0 := alike.failures ▸ free
    rw [(Store.answer_injected free).1, (Store.answer_injected hindered).1]

/-- A request has been served in two stores that were alike. -/
structure InStep (service : Service) (owner : String) (first second after later : Store) :
    Prop where
  alike : Alike service owner after later
  confined : Confined owner first.contents after.contents
  confinedOther : Confined owner second.contents later.contents

theorem InStep.unchanged {after later : Store} (alike : Alike service owner after later)
    (same : after.contents = first.contents) (sameOther : later.contents = second.contents) :
    InStep service owner first second after later :=
  ⟨alike, same ▸ .same, sameOther ▸ .same⟩

theorem InStep.after {between betweenOther after later : Store}
    (inStep : InStep service owner between betweenOther after later)
    (same : between.contents = first.contents)
    (sameOther : betweenOther.contents = second.contents) :
    InStep service owner first second after later :=
  ⟨inStep.alike, same ▸ inStep.confined, sameOther ▸ inStep.confinedOther⟩

theorem Alike.delete {held : Namespace} (alike : Alike service owner first second)
    (shaped : isName name = true) (found : lookup owner name first.contents = some held) :
    (Store.answer (.deleteNamespace name) first).1 =
        (Store.answer (.deleteNamespace name) second).1 ∧
      InStep service owner first second (Store.answer (.deleteNamespace name) first).2
        (Store.answer (.deleteNamespace name) second).2 := by
  have foundOther : lookup owner name second.contents = some held := by
    rw [← found, lookup, lookup, alike.workspaces]
  obtain ⟨member, named, owned⟩ := (lookup_eq_some_iff alike.distinct shaped).1 found
  obtain ⟨memberOther, _, _⟩ := (lookup_eq_some_iff alike.distinctOther shaped).1 foundOther
  have has : first.contents.Has name := ⟨held, member, by simp [Metadata.isNamed, named]⟩
  have hasOther : second.contents.Has name :=
    ⟨held, memberOther, by simp [Metadata.isNamed, named]⟩
  have answers : (Store.answer (.deleteNamespace name) first).1 =
      (Store.answer (.deleteNamespace name) second).1 := by
    rw [Store.deleteNamespace_answer has, Store.deleteNamespace_answer hasOther, alike.failures]
  refine ⟨answers, ?_⟩
  rcases answered : (Store.answer (.deleteNamespace name) first).1 with cause | ⟨⟩
  · have same := Store.contents_of_error (Prod.ext answered rfl)
    have sameOther := Store.contents_of_error (Prod.ext (answers.symm.trans answered) rfl)
    exact .unchanged (alike.asked same sameOther) same sameOther
  · obtain ⟨_, removed⟩ := Store.deleteNamespace_ok (Prod.ext answered rfl)
    obtain ⟨_, removedOther⟩ :=
      Store.deleteNamespace_ok (Prod.ext (answers.symm.trans answered) rfl)
    refine ⟨⟨?_, ?_, ?_, ?_, ?_⟩, ?_, ?_⟩
    · rw [removed]
      exact alike.distinct.without name
    · rw [removedOther]
      exact alike.distinctOther.without name
    · rw [removed, removedOther]
      exact credentials_without alike.credentials name
    · rw [Store.pendingFailures_answer, Store.pendingFailures_answer, alike.failures]
    · rw [removed, removedOther]
      exact workspacesOf_without alike.workspaces name
    · rw [removed]
      exact .deleted member named owned
    · rw [removedOther]
      exact .deleted memberOther named owned

theorem alongside_withOwner {Value : Type} {next : String → Calls (Except Refusal Value)}
    {goal : Except Refusal Value → Store → Store → Prop} (alike : Alike service owner first second)
    (own : ∀ other, ownerOf? service credential first.contents = some other → other = owner)
    (refused : ∀ refusal after later, InStep service owner first second after later →
      goal (.error refusal) after later)
    (granted : ∀ after later, Alike service owner after later →
      after.contents = first.contents → later.contents = second.contents →
        Alongside Store.plane goal (next owner) after (next owner) later) :
    Alongside Store.plane goal (withOwner service credential next) first
      (withOwner service credential next) second := by
  have here : InStep service owner first second first second := .unchanged alike rfl rfl
  unfold withOwner
  cases credential with
  | none => exact .done (refused _ _ _ here)
  | some token =>
      by_cases empty : token = ""
      · rw [authorize, if_pos empty]
        exact .done (refused _ _ _ here)
      · rw [authorize, if_neg empty]
        let question : Call := .listSecrets service.credentialSpace
        have same : (Store.answer question first).2.contents = first.contents :=
          Store.contents_of_reading rfl
        have sameOther : (Store.answer question second).2.contents = second.contents :=
          Store.contents_of_reading rfl
        have alikeThen : Alike service owner (Store.answer question first).2
            (Store.answer question second).2 := alike.read rfl
        have there := InStep.unchanged alikeThen same sameOther
        apply Alongside.ask_same alike.listSecrets_answer
        intro answer answered
        cases answer with
        | error cause => exact .done (refused _ _ _ there)
        | ok secrets =>
            cases decision : Decision.ofCredentials token (secrets.map .ofSecret) with
            | denied =>
                simp only [Program.bind, decision]
                exact .done (refused _ _ _ there)
            | granted other =>
                have read : Store.answer question first =
                    (.ok secrets, (Store.answer question first).2) := Prod.ext answered rfl
                have resolved : ownerOf? service (some token) first.contents = some other := by
                  rw [ownerOf?_of_listed empty read, decision]
                  rfl
                simp only [Program.bind, decision]
                rw [own other resolved]
                exact granted _ _ alikeThen same sameOther

theorem alongside_findOwned {goal : Except Refusal Namespace → Store → Store → Prop}
    (alike : Alike service owner first second)
    (missing : ∀ after later, Alike service owner after later →
      after.contents = first.contents → later.contents = second.contents →
        goal (.error .notFound) after later)
    (found : ∀ held after later, Alike service owner after later →
      after.contents = first.contents → later.contents = second.contents →
      isName name = true → lookup owner name first.contents = some held →
        goal (.ok held) after later) :
    Alongside Store.plane goal (findOwned owner name) first (findOwned owner name) second := by
  by_cases shaped : isName name = true
  · let question : Call := .getNamespace name
    have same : (Store.answer question first).2.contents = first.contents :=
      Store.contents_of_reading rfl
    have sameOther : (Store.answer question second).2.contents = second.contents :=
      Store.contents_of_reading rfl
    have alikeThen : Alike service owner (Store.answer question first).2
        (Store.answer question second).2 := alike.read rfl
    have outcomes : lookupOutcome owner (Store.answer question second).1 =
        lookupOutcome owner (Store.answer question first).1 := by
      rw [lookupOutcome_answer alike.distinct shaped,
        lookupOutcome_answer alike.distinctOther shaped, alike.failures, lookup, lookup,
        alike.workspaces]
    rw [findOwned_eq shaped]
    apply Alongside.ask
    change Alongside _ _ (.done (lookupOutcome owner (Store.answer question first).1)) _
      (.done (lookupOutcome owner (Store.answer question second).1)) _
    rw [outcomes, lookupOutcome_answer alike.distinct shaped]
    apply Alongside.done
    split
    next =>
      cases looked : lookup owner name first.contents with
      | none => exact missing _ _ alikeThen same sameOther
      | some held => exact found held _ _ alikeThen same sameOther shaped looked
    next => exact missing _ _ alikeThen same sameOther
  · rw [findOwned, if_neg shaped]
    exact .done (missing _ _ alike rfl rfl)

theorem Alike.listOutcome_answer (alike : Alike service owner first second) :
    listOutcome owner (Store.answer .listNamespaces first).1 =
      listOutcome owner (Store.answer .listNamespaces second).1 := by
  by_cases free : first.pendingFailures .listNamespaces = 0
  · have freeOther : second.pendingFailures .listNamespaces = 0 := alike.failures ▸ free
    have names : namesOwnedBy owner first.namespaces = namesOwnedBy owner second.namespaces :=
      congrArg (List.filterMap fun object : Namespace => object.metadata.name) alike.workspaces
    rw [Store.answer_unhindered free, Store.answer_unhindered freeOther]
    change Except.ok (⟨namesOwnedBy owner first.namespaces⟩ : Roster) =
      .ok ⟨namesOwnedBy owner second.namespaces⟩
    rw [names]
  · have hindered : second.pendingFailures .listNamespaces ≠ 0 := alike.failures ▸ free
    rw [(Store.answer_injected free).1, (Store.answer_injected hindered).1]

theorem alongside_perform (alike : Alike service owner first second)
    (own : ∀ other, ownerOf? service credential first.contents = some other → other = owner)
    (request : Request) (lasting : request.drawn? = none) :
    Alongside Store.plane (fun _ after later => InStep service owner first second after later)
      (perform service credential request) first (perform service credential request) second := by
  cases request with
  | create name => cases lasting
  | get name =>
      apply Alongside.map
      apply alongside_withOwner alike own
      · intro refusal after later inStep
        exact inStep
      · intro after later alikeThen same sameOther
        have looked : Alongside Store.plane
            (fun _ last final => InStep service owner first second last final)
            (findOwned owner name) after (findOwned owner name) later := by
          apply alongside_findOwned alikeThen
          · intro last final alikeLast sameLast sameFinal
            exact .unchanged alikeLast (sameLast.trans same) (sameFinal.trans sameOther)
          · intro held last final alikeLast sameLast sameFinal _ _
            exact .unchanged alikeLast (sameLast.trans same) (sameFinal.trans sameOther)
        apply looked.bind
        intro result last final inStep
        cases result with
        | ok held => exact .done inStep
        | error refusal => exact .done inStep
  | list =>
      apply Alongside.map
      rw [list_eq]
      apply alongside_withOwner alike own
      · intro refusal after later inStep
        exact inStep
      · intro after later alikeThen same sameOther
        apply Alongside.ask
        change Alongside _ _ (.done (listOutcome owner (Store.answer .listNamespaces after).1)) _
          (.done (listOutcome owner (Store.answer .listNamespaces later).1)) _
        rw [alikeThen.listOutcome_answer]
        refine .done (.unchanged (alikeThen.read rfl) ?_ ?_)
        · exact (Store.contents_of_reading rfl).trans same
        · exact (Store.contents_of_reading rfl).trans sameOther
  | delete name =>
      apply Alongside.map
      apply alongside_withOwner alike own
      · intro refusal after later inStep
        exact inStep
      · intro after later alikeThen same sameOther
        have looked : Alongside Store.plane
            (fun result last final => Alike service owner last final ∧
              last.contents = first.contents ∧ final.contents = second.contents ∧
              ∀ held, result = .ok held → isName name = true ∧
                lookup owner name last.contents = some held)
            (findOwned owner name) after (findOwned owner name) later := by
          apply alongside_findOwned alikeThen
          · intro last final alikeLast sameLast sameFinal
            refine ⟨alikeLast, sameLast.trans same, sameFinal.trans sameOther, ?_⟩
            intro held impossible
            cases impossible
          · intro held last final alikeLast sameLast sameFinal shaped found
            refine ⟨alikeLast, sameLast.trans same, sameFinal.trans sameOther, ?_⟩
            intro other known
            cases known
            exact ⟨shaped, sameLast ▸ found⟩
        apply looked.bind
        intro result last final known
        obtain ⟨alikeLast, sameLast, sameFinal, owned⟩ := known
        cases result with
        | error refusal => exact .done (.unchanged alikeLast sameLast sameFinal)
        | ok held =>
            obtain ⟨shaped, found⟩ := owned held rfl
            obtain ⟨answers, inStep⟩ := alikeLast.delete shaped found
            have reached := inStep.after sameLast sameFinal
            apply Alongside.ask_same answers
            intro answer _
            rcases answer with cause | ⟨⟩
            · exact .done reached
            · exact .done reached

variable {store : Store} {mayFault : Prop}

/-- Once its credential is read, a request goes on for its owner. -/
theorem ensures_granted {Value : Type} {next : String → Calls (Except Refusal Value)}
    {goal : Except Refusal Value → Store → Prop}
    (resolved : ownerOf? service credential store.contents = some owner)
    (readable : store.pendingFailures .listSecrets = 0)
    (granted : ∀ after, after.contents = store.contents →
      (next owner).Ensures Store.plane.setting mayFault goal after) :
    (withOwner service credential next).Ensures Store.plane.setting mayFault goal store := by
  apply ensures_withOwner
  · intro silent
    rcases silent with rfl | rfl
    · cases resolved
    · cases resolved
  · trivial
  · intro cause after answered
    have answeredBy : Store.answer (.listSecrets service.credentialSpace) store =
        (.error cause, after) := answered
    rw [Store.answer_unhindered readable] at answeredBy
    cases answeredBy
  · intro token secrets after presented nonempty answered
    subst presented
    rw [ownerOf?_of_listed nonempty answered] at resolved
    constructor
    · intro denied
      rw [denied] at resolved
      cases resolved
    · intro other decision
      rw [decision] at resolved
      cases resolved
      exact granted after (Store.listSecrets_ok answered).2

theorem ensures_missing (missing : ∀ held ∈ workspacesOf owner store.contents,
      held.metadata.name ≠ some name) :
    (findOwned owner name).Ensures Store.plane.setting mayFault
      (fun outcome _ => outcome = .error .notFound) store := by
  apply ensures_findOwned
  · intro _
    rfl
  · trivial
  · intro answer after answered _
    rfl
  · intro held after shaped answered owned
    obtain ⟨member, named, _⟩ := Store.getNamespace_ok answered
    have workspace : held ∈ workspacesOf owner store.contents :=
      List.mem_filter.2 ⟨member, by simp [isWorkspace, named, shaped, isOwnedBy, owned]⟩
    exact absurd named (missing held workspace)

/-- A request that goes on from a lookup ends where there is nothing to find. -/
theorem ensures_turned_down {Value : Type}
    {following : Except Refusal Namespace → Calls (Except Refusal Value)}
    (early : ∀ refusal, following (.error refusal) = .done (.error refusal))
    (resolved : ownerOf? service credential store.contents = some owner)
    (readable : store.pendingFailures .listSecrets = 0)
    (missing : ∀ held ∈ workspacesOf owner store.contents, held.metadata.name ≠ some name) :
    (withOwner service credential fun owner => (findOwned owner name).bind following).Ensures
      Store.plane.setting mayFault (fun result _ => result = .error .notFound) store := by
  apply ensures_granted resolved readable
  intro after same
  rw [Program.ensures_bind]
  refine (ensures_missing (same ▸ missing)).mono ?_
  intro outcome last absent
  rw [absent, early]
  rfl

theorem ensures_not_found {request : Request}
    (asked : request = .get name ∨ request = .delete name)
    (resolved : ownerOf? service credential store.contents = some owner)
    (readable : store.pendingFailures .listSecrets = 0)
    (missing : ∀ held ∈ workspacesOf owner store.contents, held.metadata.name ≠ some name) :
    (perform service credential request).Ensures Store.plane.setting mayFault
      (fun reply _ => reply = .error .notFound) store := by
  rcases asked with rfl | rfl
  · rw [perform, Program.ensures_map, get]
    refine (ensures_turned_down ?_ resolved readable missing).mono ?_
    · intro refusal
      rfl
    · intro result last refused
      rw [refused]
      rfl
  · rw [perform, Program.ensures_map, delete]
    refine (ensures_turned_down ?_ resolved readable missing).mono ?_
    · intro refusal
      rfl
    · intro result last refused
      rw [refused]
      rfl

end

/-- A failure that is set up, or a request that stands for nobody but the owner
and creates nothing. -/
def Event.IsOf (service : Service) (owner : String) (contents : Contents) : Event → Prop
  | .failNext _ _ => True
  | .request credential asked => asked.drawn? = none ∧
      ∀ other, ownerOf? service credential contents = some other → other = owner

theorem Event.IsOf.after {service : Service} {owner : String} {before after : Contents}
    {event : Event} (own : event.IsOf service owner before)
    (confined : Confined owner before after) : event.IsOf service owner after := by
  cases event with
  | failNext operation times => trivial
  | request credential asked =>
      obtain ⟨lasting, known⟩ := own
      exact ⟨lasting, fun other resolved => known other (confined.resolved resolved)⟩

/-- What can be seen of a visit: the answer and the calls. -/
def Visit.seen (service : Service) (visit : Visit) :
    Except Fault (Except Refusal Reply) × List Call :=
  (visit.result,
    callsOf Store.plane (perform service visit.credential visit.request) visit.before)

/-- The owner's credential can be read, and none of the owner's workspaces has
the name that is asked for. -/
structure Visit.Misses (service : Service) (owner : String) (visit : Visit) : Prop where
  resolved : ownerOf? service visit.credential visit.before.contents = some owner
  readable : visit.before.pendingFailures .listSecrets = 0
  missing : ∃ name, (visit.request = .get name ∨ visit.request = .delete name) ∧
    ∀ held ∈ workspacesOf owner visit.before.contents, held.metadata.name ≠ some name

structure Visit.Replied (service : Service) (owner : String) (visit : Visit) : Prop where
  total : ∃ reply, visit.result = .ok reply
  notFound : visit.Misses service owner → visit.result = .ok (.error .notFound)

theorem replied_of_run {service : Service} {owner : String} {credential : Option String}
    {request : Request} {store after : Store} {reply : Except Refusal Reply}
    (ran : Store.plane.run (perform service credential request) store = (.ok reply, after)) :
    Visit.Replied service owner ⟨store, credential, request, .ok reply, after⟩ := by
  refine ⟨⟨reply, rfl⟩, ?_⟩
  intro misses
  obtain ⟨name, asked, missing⟩ := misses.missing
  have ensured : (perform service credential request).Ensures Store.plane.setting False
      (fun reply _ => reply = .error .notFound) store :=
    ensures_not_found asked misses.resolved misses.readable missing
  obtain ⟨_, _, _, ranAgain, rfl, _⟩ :=
    Handler.run_of_ensures (Handler.foreseen_ofAnswer Store.answer) ensured rfl id
  cases ran.symm.trans ranAgain
  rfl

/-- Two stores that are alike to an owner give the same answers to the owner's
requests and get the same calls.  Whatever is not the owner's to find is not
found, in the same words, and is left as it is. -/
theorem owners_do_not_interfere (service : Service) (owner : String) (first second : Store)
    (events : List Event) (alike : Alike service owner first second)
    (own : ∀ event ∈ events, event.IsOf service owner first.contents) :
    (serve service first events).1.map (Visit.seen service) =
        (serve service second events).1.map (Visit.seen service) ∧
      (∀ visit ∈ (serve service first events).1 ++ (serve service second events).1,
        visit.Replied service owner) ∧
      Unharmed owner first.contents (serve service first events).2.contents ∧
      Unharmed owner second.contents (serve service second events).2.contents := by
  induction events generalizing first second with
  | nil => exact ⟨rfl, by simp [serve], .refl, .refl⟩
  | cons event rest induction =>
      have ownRest : ∀ event ∈ rest, event.IsOf service owner first.contents :=
        fun event member => own event (List.mem_cons_of_mem _ member)
      cases event with
      | failNext operation times =>
          have alikeThen : Alike service owner (first.failNext operation times)
              (second.failNext operation times) := by
            refine ⟨alike.distinct, alike.distinctOther, alike.credentials, ?_, alike.workspaces⟩
            simp only [Store.failNext, alike.failures]
          exact induction _ _ alikeThen ownRest
      | request credential request =>
          obtain ⟨lasting, known⟩ := own _ List.mem_cons_self
          have alongside := alongside_perform alike known request lasting
          obtain ⟨reply, after, later, ran, ranOther, inStep⟩ := alongside.run
          obtain ⟨seen, replied, unharmed, unharmedOther⟩ := induction after later inStep.alike
            fun event member => (ownRest event member).after inStep.confined
          rw [serve_request rest ran, serve_request rest ranOther]
          refine ⟨?_, ?_, ?_, ?_⟩
          · simp only [List.map_cons, Visit.seen, alongside.callsOf_eq]
            exact congrArg _ seen
          · intro visit member
            rcases List.mem_append.1 member with here | there
            · rcases List.mem_cons.1 here with rfl | further
              · exact replied_of_run ran
              · exact replied visit (List.mem_append_left _ further)
            · rcases List.mem_cons.1 there with rfl | further
              · exact replied_of_run ranOther
              · exact replied visit (List.mem_append_right _ further)
          · exact (inStep.confined.unharmed alike.distinct).trans unharmed
          · exact (inStep.confinedOther.unharmed alike.distinctOther).trans unharmedOther

/-- Bob's workspace is in one store only, and in the other one its name belongs
to nobody. -/
theorem owners_do_not_interfere_beside :
    let service : Service := ⟨"owners", Provisioning.Plan.standard⟩
    let alice : Secret :=
      { metadata :=
          { name := some "alice"
            space := some "owners"
            annotations := some (.singleton roleAnnotation userRole) }
        data := some (.singleton tokenKey "wonder".toUTF8) }
    let first : Store :=
      { namespaces := [namespaceFor "zombie-b" "bob", namespaceFor "zombie-a" "alice"]
        secrets := [alice, Provisioning.tokenSecretFor "zombie-b"]
        stampOf := fun _ => default }
    let second : Store :=
      { namespaces := [namespaceFor "zombie-a" "alice", { metadata := { name := some "zombie-b" } }]
        secrets := [alice]
        stampOf := fun _ => default }
    let events : List Event :=
      [.request (some "wonder") .list, .failNext .deleteNamespace 1,
        .request (some "wonder") (.delete "zombie-a"),
        .request (some "wonder") (.delete "zombie-a"), .request (some "wonder") (.get "zombie-b")]
    Alike service "alice" first second ∧
      (∀ event ∈ events, event.IsOf service "alice" first.contents) ∧
      (serve service first events).1.map (Visit.seen service) =
          (serve service second events).1.map (Visit.seen service) ∧
        (∀ visit ∈ (serve service first events).1 ++ (serve service second events).1,
          visit.Replied service "alice") ∧
        Unharmed "alice" first.contents (serve service first events).2.contents ∧
        Unharmed "alice" second.contents (serve service second events).2.contents := by
  intro service alice first second events
  have alike : Alike service "alice" first second := by
    refine ⟨?_, ?_, ?_, rfl, ?_⟩
    · unfold DistinctNames
      decide
    · unfold DistinctNames
      decide
    · decide
    · decide
  have resolved : ownerOf? service (some "wonder") first.contents = some "alice" := by decide
  have hers : ∀ asked : Request, asked.drawn? = none →
      (Event.request (some "wonder") asked).IsOf service "alice" first.contents := by
    intro asked lasting
    refine ⟨lasting, ?_⟩
    intro other known
    rw [resolved] at known
    cases known
    rfl
  have own : ∀ event ∈ events, event.IsOf service "alice" first.contents := by
    intro event member
    rcases List.mem_cons.1 member with rfl | member
    · exact hers _ rfl
    rcases List.mem_cons.1 member with rfl | member
    · trivial
    rcases List.mem_cons.1 member with rfl | member
    · exact hers _ rfl
    rcases List.mem_cons.1 member with rfl | member
    · exact hers _ rfl
    rw [List.mem_singleton.1 member]
    exact hers _ rfl
  exact ⟨alike, own, owners_do_not_interfere service "alice" first second events alike own⟩

/-- A missing name is not always not found: the credentials may not be readable,
and an owner whose own workspace holds them may have deleted it. -/
theorem missing_name_not_always_not_found :
    let aliceIn : String → Secret := fun space =>
      { metadata :=
          { name := some "alice"
            space := some space
            annotations := some (.singleton roleAnnotation userRole) }
        data := some (.singleton tokenKey "T1".toUTF8) }
    let unreadable : Store :=
      { secrets := [aliceIn "owners"]
        pendingFailures := replaceAt (fun _ => 0) .listSecrets 1
        stampOf := fun _ => default }
    let losing : Store :=
      { namespaces := [namespaceFor "zombie-ns-system" "alice"]
        secrets := [aliceIn "zombie-ns-system"]
        stampOf := fun _ => default }
    let service : Service := ⟨"owners", Provisioning.Plan.standard⟩
    let housed : Service := ⟨"zombie-ns-system", Provisioning.Plan.standard⟩
    let lookUp : Event := .request (some "T1") (.get "zombie-missing")
    (ownerOf? service (some "T1") unreadable.contents = some "alice" ∧
        unreadable.contents.namespaces = [] ∧
        (serve service unreadable [lookUp]).1.map Visit.result =
          [.ok (.error (.ofReadFailure ⟨"owners", .injected .listSecrets⟩))]) ∧
      ownerOf? housed (some "T1") losing.contents = some "alice" ∧
        (serve housed losing [.request (some "T1") (.delete "zombie-ns-system"), lookUp]).1.map
            Visit.result =
          [.ok (.ok (.deleted "Namespace zombie-ns-system deleted")),
            .ok (.error .unauthorized)] := by
  intro aliceIn unreadable losing service housed lookUp
  have gone : (serve housed losing
      [.request (some "T1") (.delete "zombie-ns-system"), lookUp]).1.map Visit.result =
        [.ok (.ok (.deleted "Namespace zombie-ns-system deleted")), .ok (.error .unauthorized)] :=
    rfl
  exact ⟨⟨by decide, rfl, rfl⟩, by decide, gone⟩

end Tenancy.Lifecycle
