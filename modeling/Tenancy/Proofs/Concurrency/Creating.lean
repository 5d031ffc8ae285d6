import Tenancy.Proofs.Concurrency.Conduct

/-!
# What a creation knows of the store

Between two of its calls a creation knows little of a store that others use
too: nobody else adds anything under the name it has drawn, and as long as the
namespace is there, the parts that it saw are there.
-/

namespace Tenancy.Concurrency

open Cluster Access Lifecycle Provisioning

/-- What a call of a creation and its answer tell of the store from then on. -/
def Tells (name : String) (contents : Contents) : Exchange → Prop
  | ⟨.createNamespace _, answer⟩ =>
      ∀ failure, answer = .error failure → failure.isAlreadyExists = false
  | ⟨.getNamespace _, _⟩ => False
  | ⟨.createServiceAccount _ _, answer⟩ => existsNow answer = .ok () → contents.Has name →
      ∃ held ∈ contents.accounts, Store.isAt name accountName held.metadata = true
  | ⟨.createRoleBinding _ _, answer⟩ => existsNow answer = .ok () → contents.Has name →
      ∃ held ∈ contents.bindings, Store.isAt name bindingName held.metadata = true
  | ⟨.getSecret _ _, answer⟩ => ∀ held, answer = .ok held → contents.Has name →
      held ∈ contents.secrets ∧ Store.isAt name tokenSecretName held.metadata = true
  | ⟨.deleteNamespace _, answer⟩ => deleteOutcome answer = .ok () → ¬contents.Has name
  | _ => True

/-- The calls that come before a namespace is created. -/
def Early (exchange : Exchange) : Prop :=
  exchange.1.operation = .createNamespace ∨ exchange.1.operation = .listSecrets

structure Creating (name : String) (history : List Exchange) (contents : Contents) : Prop where
  vacant : Uncreated history → contents.Vacant name
  early : Uncreated history → ∀ exchange ∈ history, Early exchange
  told : ∀ exchange ∈ history, Tells name contents exchange

section

variable {name : String} {history : List Exchange} {contents after : Contents}

theorem Tells.of_early {exchange : Exchange} (early : Early exchange)
    (tells : Tells name contents exchange) : Tells name after exchange := by
  obtain ⟨call, answer⟩ := exchange
  cases call with
  | createNamespace object => exact tells
  | listSecrets space => trivial
  | _ => rcases early with impossible | impossible <;> cases impossible

theorem Tells.undisturbed {exchange : Exchange} (tells : Tells name contents exchange)
    (undisturbed : Undisturbed name contents after) : Tells name after exchange := by
  obtain ⟨call, answer⟩ := exchange
  cases call with
  | createNamespace object => exact tells
  | getNamespace space => exact tells
  | createServiceAccount space account =>
      intro existing has
      obtain ⟨held, member, place⟩ := tells existing (undisturbed.has has)
      exact ⟨held, undisturbed.accounts has held member (Store.isIn_of_isAt place), place⟩
  | createRoleBinding space binding =>
      intro existing has
      obtain ⟨held, member, place⟩ := tells existing (undisturbed.has has)
      exact ⟨held, undisturbed.bindings has held member (Store.isIn_of_isAt place), place⟩
  | getSecret space secret =>
      intro held answered has
      obtain ⟨member, place⟩ := tells held answered (undisturbed.has has)
      exact ⟨undisturbed.secrets has held member (Store.isIn_of_isAt place), place⟩
  | deleteNamespace space =>
      intro deleted has
      exact tells deleted (undisturbed.has has)
  | _ => trivial

theorem Creating.start (vacant : contents.Vacant name) : Creating name [] contents := by
  refine ⟨fun _ => vacant, ?_, ?_⟩
  · intro _ exchange member
    cases member
  · intro exchange member
    cases member

theorem Creating.undisturbed (creating : Creating name history contents)
    (undisturbed : Undisturbed name contents after)
    (vacant : contents.Vacant name → after.Vacant name) : Creating name history after := by
  refine ⟨fun uncreated => vacant (creating.vacant uncreated), creating.early, ?_⟩
  intro exchange member
  exact (creating.told exchange member).undisturbed undisturbed

/-- A creation that may go on has created the namespace itself. -/
theorem Creating.created {owner : String} (creating : Creating name history contents)
    (acquired : Acquired name owner history) : ¬Uncreated history := by
  intro uncreated
  rcases acquired with ⟨object, created, member⟩ | ⟨held, member, _⟩
  · exact uncreated object created member
  · exact creating.told _ member

theorem Creating.not_conflicted (creating : Creating name history contents) :
    ¬Conflicted history := by
  intro conflicted
  obtain ⟨object, message, member⟩ := conflicted
  have differs := creating.told _ member _ rfl
  cases differs

theorem Creating.go_on {exchange : Exchange} (creating : Creating name history contents)
    (created : ¬Uncreated history) (undisturbed : Undisturbed name contents after)
    (tells : Tells name after exchange) : Creating name (history ++ [exchange]) after := by
  have createdThen : ¬Uncreated (history ++ [exchange]) := not_uncreated_append created
  refine ⟨fun uncreated => absurd uncreated createdThen,
    fun uncreated => absurd uncreated createdThen, ?_⟩
  intro other member
  rcases List.mem_append.1 member with before | now
  · exact (creating.told other before).undisturbed undisturbed
  · rw [List.mem_singleton.1 now]
    exact tells

theorem Creating.stay {exchange : Exchange} (creating : Creating name history contents)
    (early : Early exchange) (tells : Tells name contents exchange) :
    Creating name (history ++ [exchange]) contents := by
  have uncreatedBefore : Uncreated (history ++ [exchange]) → Uncreated history := by
    intro uncreated object held member
    exact uncreated object held (List.mem_append_left _ member)
  refine ⟨fun uncreated => creating.vacant (uncreatedBefore uncreated), ?_, ?_⟩
  · intro uncreated other member
    rcases List.mem_append.1 member with before | now
    · exact creating.early (uncreatedBefore uncreated) other before
    · rw [List.mem_singleton.1 now]
      exact early
  · intro other member
    rcases List.mem_append.1 member with before | now
    · exact creating.told other before
    · rw [List.mem_singleton.1 now]
      exact tells

variable {owner : String} {store finish : Store}

theorem Creating.create_namespace
    {answer : (Call.createNamespace (Workspace.namespaceFor name owner)).Answer}
    (creating : Creating name history store.contents) (uncreated : Uncreated history)
    (answered : Store.answer (.createNamespace (Workspace.namespaceFor name owner)) store =
      (answer, finish)) :
    Creating name (history ++ [⟨.createNamespace (Workspace.namespaceFor name owner), answer⟩])
      finish.contents := by
  cases answer with
  | error failure =>
      have free : failure.isAlreadyExists = false := by
        apply Bool.eq_false_iff.2
        intro taken
        obtain ⟨other, named, has⟩ := Store.createNamespace_taken answered taken
        cases named
        exact (creating.vacant uncreated).not_has has
      rw [Store.contents_of_error answered]
      apply creating.stay (.inl rfl)
      intro other same
      cases same
      exact free
  | ok created =>
      have createdNow : ¬Uncreated (history ++
          [⟨.createNamespace (Workspace.namespaceFor name owner), .ok created⟩]) := fun none =>
        none _ created (List.mem_append_right _ (List.mem_singleton.2 rfl))
      refine ⟨fun none => absurd none createdNow, fun none => absurd none createdNow, ?_⟩
      intro exchange member
      rcases List.mem_append.1 member with before | now
      · exact (creating.told exchange before).of_early (creating.early uncreated exchange before)
      · rw [List.mem_singleton.1 now]
        intro failure failed
        cases failed

theorem Creating.create_account
    {answer : (Call.createServiceAccount name (accountFor name)).Answer}
    (creating : Creating name history store.contents) (created : ¬Uncreated history)
    (answered : Store.answer (.createServiceAccount name (accountFor name)) store =
      (answer, finish)) :
    Creating name (history ++ [⟨.createServiceAccount name (accountFor name), answer⟩])
      finish.contents := by
  cases answer with
  | error failure =>
      rw [Store.contents_of_error answered]
      apply creating.go_on created .refl
      intro existing has
      obtain ⟨other, named, held, member, place⟩ :=
        Store.createServiceAccount_taken answered (existsNow_eq_ok existing)
      cases named
      exact ⟨held, member, place⟩
  | ok account =>
      obtain ⟨stamps, has, rfl, added⟩ := Store.createServiceAccount_ok answered
      rw [added]
      apply creating.go_on created
      · apply undisturbed_append
        intro held member
        cases member
      · intro _ _
        exact ⟨_, List.mem_append_right _ (List.mem_singleton.2 rfl), Store.isAt_stampedIn rfl⟩

theorem Creating.create_secret {answer : (Call.createSecret name (tokenSecretFor name)).Answer}
    (creating : Creating name history store.contents) (created : ¬Uncreated history)
    (answered : Store.answer (.createSecret name (tokenSecretFor name)) store =
      (answer, finish)) :
    Creating name (history ++ [⟨.createSecret name (tokenSecretFor name), answer⟩])
      finish.contents := by
  cases answer with
  | error failure =>
      rw [Store.contents_of_error answered]
      exact creating.go_on created .refl trivial
  | ok secret =>
      obtain ⟨stamps, has, _, rfl, added⟩ := Store.createSecret_ok answered
      rw [added]
      refine creating.go_on created (undisturbed_append ?_) trivial
      intro held member
      cases member

theorem Creating.create_binding {answer : (Call.createRoleBinding name (bindingFor name)).Answer}
    (creating : Creating name history store.contents) (created : ¬Uncreated history)
    (answered : Store.answer (.createRoleBinding name (bindingFor name)) store =
      (answer, finish)) :
    Creating name (history ++ [⟨.createRoleBinding name (bindingFor name), answer⟩])
      finish.contents := by
  cases answer with
  | error failure =>
      rw [Store.contents_of_error answered]
      apply creating.go_on created .refl
      intro existing has
      obtain ⟨other, named, held, member, place⟩ :=
        Store.createRoleBinding_taken answered (existsNow_eq_ok existing)
      cases named
      exact ⟨held, member, place⟩
  | ok binding =>
      obtain ⟨stamps, has, rfl, added⟩ := Store.createRoleBinding_ok answered
      rw [added]
      apply creating.go_on created
      · apply undisturbed_append
        intro held member
        cases member
      · intro _ _
        exact ⟨_, List.mem_append_right _ (List.mem_singleton.2 rfl), Store.isAt_stampedIn rfl⟩

theorem Creating.read_secret {answer : (Call.getSecret name tokenSecretName).Answer}
    (creating : Creating name history store.contents) (created : ¬Uncreated history)
    (answered : Store.answer (.getSecret name tokenSecretName) store = (answer, finish)) :
    Creating name (history ++ [⟨.getSecret name tokenSecretName, answer⟩]) finish.contents := by
  cases answer with
  | error failure =>
      rw [Store.contents_of_error answered]
      apply creating.go_on created .refl
      intro held impossible
      cases impossible
  | ok secret =>
      obtain ⟨found, same⟩ := Store.getSecret_ok answered
      rw [same]
      apply creating.go_on created .refl
      intro held answered _
      cases answered
      have place := List.find?_some found
      exact ⟨List.mem_of_find?_eq_some found, place⟩

theorem Creating.delete_namespace {answer : (Call.deleteNamespace name).Answer}
    (creating : Creating name history store.contents) (created : ¬Uncreated history)
    (answered : Store.answer (.deleteNamespace name) store = (answer, finish)) :
    Creating name (history ++ [⟨.deleteNamespace name, answer⟩]) finish.contents := by
  rcases answer with failure | ⟨⟩
  · rw [Store.contents_of_error answered]
    apply creating.go_on created .refl
    intro deleted
    exact Store.deleteNamespace_missing answered (isNotFound_of_deleteOutcome deleted)
  · have gone : ¬finish.contents.Has name := by
      rw [(Store.deleteNamespace_ok answered).2]
      exact not_has_without
    apply creating.go_on created
    · constructor <;> intro has <;> exact absurd has gone
    · intro _
      exact gone

theorem Creating.step {service : Service} {credential : Option String} {call : Call}
    {answer : call.Answer} (creating : Creating name history store.contents)
    (asks : TaskMayAsk service (.request credential (.create name)) history call)
    (answered : Store.answer call store = (answer, finish)) :
    Creating name (history ++ [⟨call, answer⟩]) finish.contents := by
  rcases asks with rfl | ⟨owner, _, asks⟩
  · have same : finish.contents = store.contents := by
      cases answer with
      | error failure => exact Store.contents_of_error answered
      | ok secrets => exact (Store.listSecrets_ok answered).2
    rw [same]
    exact creating.stay (.inr rfl) trivial
  · cases call with
    | createNamespace object =>
        obtain ⟨rfl, uncreated⟩ := asks
        exact creating.create_namespace uncreated answered
    | getNamespace space => exact absurd asks.2 creating.not_conflicted
    | createServiceAccount space account =>
        obtain ⟨rfl, rfl, acquired⟩ := asks
        exact creating.create_account (creating.created acquired) answered
    | createSecret space secret =>
        obtain ⟨rfl, rfl, acquired⟩ := asks
        exact creating.create_secret (creating.created acquired) answered
    | createRoleBinding space binding =>
        obtain ⟨rfl, rfl, acquired⟩ := asks
        exact creating.create_binding (creating.created acquired) answered
    | getSecret space secret =>
        obtain ⟨rfl, rfl, acquired⟩ := asks
        exact creating.read_secret (creating.created acquired) answered
    | deleteNamespace space =>
        obtain ⟨rfl, acquired⟩ := asks
        exact creating.delete_namespace (creating.created acquired) answered
    | _ => exact asks.elim

/-- A creation that has ended accounts for its namespace while that is there. -/
theorem Creating.accounted {service : Service} {credential : Option String} {party : Party}
    {outcome : Outcome} (creating : Creating name party.history contents)
    (task : party.task = .request credential (.create name))
    (ended : party.rest = .done outcome)
    (concludes : Concludes service party.task outcome party.history)
    (has : contents.Has name) : Accounted service contents name party := by
  rw [task] at concludes
  rcases concludes with uncreated | ⟨owner, reading, result, ends, before, rfl⟩
  · exact absurd has (creating.vacant uncreated).not_has
  · obtain ⟨course, follows, yields, history⟩ := ends
    have told : ∀ exchange ∈ course.exchanges name owner, Tells name contents exchange := by
      intro exchange member
      exact creating.told exchange (history ▸ List.mem_append_right _ member)
    cases result with
    | ok token =>
        obtain ⟨⟨account, accountExists, accountMember⟩, ⟨binding, bindingExists, bindingMember⟩,
          secret, token, secretMember⟩ := (follows.completes yields).seen
        obtain ⟨kept, place⟩ := told _ secretMember secret rfl has
        exact .complete ended ⟨told _ accountMember accountExists has, ⟨secret, kept, place, token⟩,
          told _ bindingMember bindingExists has⟩
    | error failure =>
        rcases follows.failure_cases yields with
          uncreated | ⟨answer, member, deleted⟩ | ⟨reason, stuck⟩
        · have never : Uncreated party.history := by
            rw [history]
            intro object created member
            rcases List.mem_append.1 member with first | later
            · exact before object created first
            · exact uncreated object created later
          exact absurd has (creating.vacant never).not_has
        · exact absurd has (told _ member deleted)
        · exact .stranded ended ⟨course, follows, yields, history⟩ stuck

end

end Tenancy.Concurrency
