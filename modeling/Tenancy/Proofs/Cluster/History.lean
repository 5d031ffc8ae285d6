import Tenancy.Proofs.Cluster.Calm
import Tenancy.Proofs.Cluster.WellFormed

/-!
# Histories of a store

A store that begins empty and is made to answer calls and to fail some of them.
Whatever the calls were, its objects are well formed, a call that fails leaves no
trace among them, and calls fail on demand exactly as often as demanded.  The
versions of the objects are in order unless so many objects were made that the
versions started over.
-/

namespace Tenancy.Cluster

/-- What can be done to a store from outside. -/
inductive Command where
  | call (call : Call)
  | failNext (operation : Operation) (times : Nat)

/-- Calls of this kind make an object. -/
def Operation.creates : Operation → Bool
  | .createNamespace | .createSecret | .createServiceAccount | .createRoleBinding => true
  | _ => false

def Exchange.isCreation (exchange : Exchange) : Bool :=
  exchange.1.operation.creates && exchange.2.isOk

/-- The call was answered with the failure that a store is told to give. -/
def Exchange.IsInjected (exchange : Exchange) : Prop :=
  exchange.2 = .error (.injected exchange.1.operation)

namespace Store

/-- The exchanges that commands lead to, and the store after them. -/
def obey (store : Store) : List Command → List Exchange × Store
  | [] => ([], store)
  | .call call :: rest =>
      let (reply, after) := answer call store
      let (exchanges, finish) := after.obey rest
      (⟨call, reply⟩ :: exchanges, finish)
  | .failNext operation times :: rest => (store.failNext operation times).obey rest

/-- What it means that the next calls of a kind are to fail so many times. -/
structure FailsNext (store : Store) (operation : Operation) (times : Nat) : Prop where
  /-- Until the number is set again, these calls of that kind fail, and no others. -/
  own : ∀ later, (∀ count, .failNext operation count ∉ later) → ∀ index exchange,
    (((store.failNext operation times).obey later).1.filter
      (·.1.operation = operation))[index]? = some exchange →
    (exchange.IsInjected ↔ index < times)
  /-- Calls of other kinds are answered as without them. -/
  others : ∀ call : Call, call.operation ≠ operation →
    answer call (store.failNext operation times) =
      ((answer call store).1, (answer call store).2.failNext operation times)

theorem not_injected_of_vacancy {store : Store} {resource space : String} {asked : Metadata}
    {held : List Metadata} {failure : Failure} {operation : Operation}
    (refused : store.vacancy resource space asked held = .error failure) :
    failure ≠ .injected operation := by
  rintro rfl
  unfold vacancy at refused
  split at refused
  · simp [Failure.injected, Failure.nameRequired] at refused
  · split at refused
    · split at refused <;> cases refused
    · cases refused

/-- What a store says by itself is never the failure that it may be told to give. -/
theorem respond_not_injected (call : Call) (store : Store) :
    (store.respond call).1 ≠ .error (.injected call.operation) := by
  cases call with
  | listNamespaces => simp [respond]
  | listPods space selector => simp [respond]
  | listSecrets space => simp [respond]
  | getNamespace name =>
      simp only [respond]
      split <;> simp [Failure.absent, Failure.injected]
  | getSecret space name =>
      simp only [respond]
      split <;> simp [Failure.absent, Failure.injected]
  | deletePod space name =>
      simp only [respond]
      split <;> simp [Failure.absent, Failure.injected]
  | deleteNamespace name =>
      simp only [respond]
      split <;> simp [Failure.absent, Failure.injected]
  | createNamespace object =>
      simp only [respond]
      split
      · simp [Failure.nameRequired, Failure.injected]
      · split <;> simp [Failure.present, Failure.injected]
  | createSecret space secret =>
      simp only [respond]
      split
      next refused => simpa using not_injected_of_vacancy refused
      next => simp
  | createServiceAccount space account =>
      simp only [respond]
      split
      next refused => simpa using not_injected_of_vacancy refused
      next => simp
  | createRoleBinding space binding =>
      simp only [respond]
      split
      next refused => simpa using not_injected_of_vacancy refused
      next => simp

theorem injected_iff (call : Call) (store : Store) :
    (answer call store).1 = .error (.injected call.operation) ↔
      0 < store.pendingFailures call.operation := by
  by_cases free : store.pendingFailures call.operation = 0
  · rw [answer_unhindered free]
    simpa [free] using respond_not_injected call (store.counted call.operation)
  · rw [answer_hindered free]
    simpa using Nat.pos_of_ne_zero free

/-- As many of the coming calls of a kind fail as are pending. -/
theorem injected_of_pending {operation : Operation} {later : List Command}
    (untouched : ∀ count, .failNext operation count ∉ later) (store : Store) (index : Nat)
    {exchange : Exchange}
    (listed : ((store.obey later).1.filter (·.1.operation = operation))[index]? =
      some exchange) :
    exchange.IsInjected ↔ index < store.pendingFailures operation := by
  induction later generalizing store index with
  | nil => simp [obey] at listed
  | cons command rest induction =>
      have restUntouched : ∀ count, .failNext operation count ∉ rest :=
        fun count member => untouched count (List.mem_cons_of_mem command member)
      cases command with
      | failNext other times =>
          have apart : operation ≠ other := by
            rintro rfl
            exact untouched times List.mem_cons_self
          have same : (store.failNext other times).pendingFailures operation =
              store.pendingFailures operation := if_neg apart
          rw [← same]
          exact induction restUntouched _ index listed
      | call call =>
          have pending := congrFun (pendingFailures_answer call store) operation
          by_cases own : call.operation = operation
          · subst own
            simp only [obey, List.filter_cons, decide_true, if_true] at listed
            cases index with
            | zero =>
                cases listed
                exact injected_iff call store
            | succ index =>
                rw [induction restUntouched _ index listed, pending, replaceAt, if_pos rfl]
                omega
          · simp only [obey, List.filter_cons, own, decide_false] at listed
            rw [induction restUntouched _ index listed, pending, replaceAt,
              if_neg (Ne.symm own)]

section

variable (store : Store) (operation : Operation) (times : Nat)

@[simp]
theorem namespaces_failNext : (store.failNext operation times).namespaces = store.namespaces := rfl

@[simp]
theorem pods_failNext : (store.failNext operation times).pods = store.pods := rfl

@[simp]
theorem secrets_failNext : (store.failNext operation times).secrets = store.secrets := rfl

@[simp]
theorem accounts_failNext : (store.failNext operation times).accounts = store.accounts := rfl

@[simp]
theorem bindings_failNext : (store.failNext operation times).bindings = store.bindings := rfl

@[simp]
theorem hasNamespace_failNext (name : String) :
    (store.failNext operation times).hasNamespace name = store.hasNamespace name := rfl

@[simp]
theorem vacancy_failNext (resource space : String) (asked : Metadata) (held : List Metadata) :
    (store.failNext operation times).vacancy resource space asked held =
      store.vacancy resource space asked held := rfl

/-- What a store says by itself does not depend on what is to fail. -/
theorem respond_failNext (call : Call) :
    (store.failNext operation times).respond call =
      ((store.respond call).1, (store.respond call).2.failNext operation times) := by
  cases call with
  | listNamespaces => rfl
  | listPods space selector => rfl
  | listSecrets space => rfl
  | getNamespace name =>
      cases found : store.namespaces.find? fun held => held.metadata.isNamed name <;>
        simp [respond, found]
  | getSecret space name =>
      cases found : store.secrets.find? fun held => isAt space name held.metadata <;>
        simp [respond, found]
  | deletePod space name =>
      by_cases present : store.pods.any (fun held => isAt space name held.metadata) = true <;>
        simp only [respond, pods_failNext, present] <;> rfl
  | deleteNamespace name =>
      by_cases present : store.hasNamespace name = true <;>
        simp only [respond, hasNamespace_failNext, present] <;> rfl
  | createNamespace object =>
      cases named : object.metadata.name with
      | none => simp only [respond, named]
      | some name =>
          by_cases present : store.hasNamespace name = true <;>
            simp only [respond, hasNamespace_failNext, named, present] <;> rfl
  | createSecret space secret =>
      cases vacant : store.vacancy "secrets" space secret.metadata
          (store.secrets.map (·.metadata)) with
      | error failure => simp only [respond, vacancy_failNext, secrets_failNext, vacant]
      | ok done =>
          simp only [respond, vacancy_failNext, secrets_failNext, vacant]
          rfl
  | createServiceAccount space account =>
      cases vacant : store.vacancy "serviceaccounts" space account.metadata
          (store.accounts.map (·.metadata)) with
      | error failure => simp only [respond, vacancy_failNext, accounts_failNext, vacant]
      | ok done =>
          simp only [respond, vacancy_failNext, accounts_failNext, vacant]
          rfl
  | createRoleBinding space binding =>
      cases vacant : store.vacancy "rolebindings.rbac.authorization.k8s.io" space
          binding.metadata (store.bindings.map (·.metadata)) with
      | error failure => simp only [respond, vacancy_failNext, bindings_failNext, vacant]
      | ok done =>
          simp only [respond, vacancy_failNext, bindings_failNext, vacant]
          rfl

end

theorem replaceAt_comm {Value : Type} (function : Operation → Value) {first second : Operation}
    (apart : first ≠ second) (here there : Value) :
    replaceAt (replaceAt function first here) second there =
      replaceAt (replaceAt function second there) first here := by
  funext operation
  by_cases isFirst : operation = first
  · simp [replaceAt, isFirst, apart]
  · simp [replaceAt, isFirst]

theorem answer_failNext {store : Store} {operation : Operation} {call : Call}
    (apart : call.operation ≠ operation) (times : Nat) :
    answer call (store.failNext operation times) =
      ((answer call store).1, (answer call store).2.failNext operation times) := by
  have same : (store.failNext operation times).pendingFailures call.operation =
      store.pendingFailures call.operation := if_neg apart
  by_cases free : store.pendingFailures call.operation = 0
  · rw [answer_unhindered free, answer_unhindered (same.trans free)]
    exact respond_failNext (store.counted call.operation) operation times call
  · have hindered : (store.failNext operation times).pendingFailures call.operation ≠ 0 :=
      fun none => free (same.symm.trans none)
    rw [answer_hindered free, answer_hindered hindered, same]
    have swapped := replaceAt_comm store.pendingFailures (Ne.symm apart) times
      (store.pendingFailures call.operation - 1)
    simp only [counted, failNext, swapped]

theorem failsNext (store : Store) (operation : Operation) (times : Nat) :
    store.FailsNext operation times where
  own := by
    intro later untouched index exchange listed
    have counted := injected_of_pending untouched (store.failNext operation times) index listed
    simpa [failNext, replaceAt] using counted
  others _ apart := answer_failNext apart times

theorem wellFormed_obey (store : Store) (wellFormed : WellFormed store.contents)
    (commands : List Command) : WellFormed (store.obey commands).2.contents := by
  induction commands generalizing store with
  | nil => exact wellFormed
  | cons command rest induction =>
      cases command with
      | call call => exact induction _ (wellFormed.kept (effect_of_answer call store))
      | failNext operation times => exact induction _ wellFormed

theorem wellFormed_empty : WellFormed {} where
  named := by simp
  distinct := by simp [DistinctNames]
  secrets := ⟨by simp, by simp⟩
  accounts := ⟨by simp, by simp⟩
  bindings := ⟨by simp, by simp⟩

theorem numbered_empty : Numbered ({} : Contents).kinds 0 :=
  ⟨by simp [Contents.kinds], by simp [Contents.kinds], by simp [Contents.kinds]⟩

/-- A stamp is given out for every object that is made, and for nothing else. -/
theorem stamps_respond (call : Call) (store : Store) :
    (store.respond call).2.stamps =
      store.stamps + (Exchange.isCreation ⟨call, (store.respond call).1⟩).toNat := by
  cases call with
  | listNamespaces => rfl
  | listPods space selector => rfl
  | listSecrets space => rfl
  | getNamespace name =>
      simp only [respond]
      split <;> rfl
  | getSecret space name =>
      simp only [respond]
      split <;> rfl
  | deletePod space name =>
      simp only [respond]
      split <;> rfl
  | deleteNamespace name =>
      simp only [respond]
      split <;> rfl
  | createNamespace object =>
      simp only [respond]
      split
      · rfl
      · split <;> rfl
  | createSecret space secret =>
      simp only [respond]
      split <;> rfl
  | createServiceAccount space account =>
      simp only [respond]
      split <;> rfl
  | createRoleBinding space binding =>
      simp only [respond]
      split <;> rfl

theorem stamps_answer (call : Call) (store : Store) :
    (answer call store).2.stamps =
      store.stamps + (Exchange.isCreation ⟨call, (answer call store).1⟩).toNat := by
  by_cases free : store.pendingFailures call.operation = 0
  · rw [answer_unhindered free]
    exact stamps_respond call (store.counted call.operation)
  · rw [answer_hindered free]
    simp [Exchange.isCreation, Except.isOk, Except.toBool, failNext, counted]

theorem stamps_obey (store : Store) (commands : List Command) :
    (store.obey commands).2.stamps =
      store.stamps + (store.obey commands).1.countP Exchange.isCreation := by
  induction commands generalizing store with
  | nil => rfl
  | cons command rest induction =>
      cases command with
      | call call =>
          simp only [obey, List.countP_cons, induction, stamps_answer call store]
          cases Exchange.isCreation ⟨call, (answer call store).1⟩ with
          | false => simp
          | true => simp only [Bool.toNat_true, if_true]; omega
      | failNext operation times => exact induction _

theorem numbered_obey (store : Store) (numbered : Numbered store.contents.kinds store.stamps)
    (commands : List Command) (fits : (store.obey commands).2.stamps < UInt64.size) :
    Numbered (store.obey commands).2.contents.kinds (store.obey commands).2.stamps := by
  induction commands generalizing store with
  | nil => exact numbered
  | cons command rest induction =>
      cases command with
      | call call =>
          have grown := stamps_obey (answer call store).2 rest
          have reached : (answer call store).2.stamps < UInt64.size := by
            refine Nat.lt_of_le_of_lt ?_ fits
            simp only [obey, grown]
            exact Nat.le_add_right _ _
          exact induction _ (numbered.kept (effect_of_answer call store) reached) fits
      | failNext operation times => exact induction _ numbered fits

/-- What holds of a store after any commands, if it began without objects. -/
theorem history_sound (issuesTokens : Bool) (stampOf : Nat → Stamp) (commands : List Command) :
    let (exchanges, store) := obey { issuesTokens, stampOf } commands
    WellFormed store.contents ∧
      (exchanges.countP Exchange.isCreation < UInt64.size →
        Numbered store.contents.kinds store.version.toNat) ∧
      (∀ call failure after, answer call store = (.error failure, after) →
        after.contents = store.contents ∧ after.version = store.version) ∧
      ∀ operation times, store.FailsNext operation times := by
  have stamps := stamps_obey { issuesTokens, stampOf } commands
  have wellFormed := wellFormed_obey { issuesTokens, stampOf } wellFormed_empty commands
  have numbered := numbered_obey { issuesTokens, stampOf } numbered_empty commands
  generalize obey { issuesTokens, stampOf } commands = run at stamps wellFormed numbered ⊢
  obtain ⟨exchanges, store⟩ := run
  refine ⟨wellFormed, ?_, ?_, failsNext store⟩
  · intro few
    have fits : store.stamps < UInt64.size := by
      rw [stamps, Nat.zero_add]
      exact few
    rw [version, toNat_version fits]
    exact numbered fits
  · intro call failure after answered
    obtain ⟨contents, same⟩ := unchanged_of_error answered
    exact ⟨contents, congrArg UInt64.ofNat same⟩

theorem obey_append (store : Store) (first second : List Command) :
    (store.obey (first ++ second)).2 = ((store.obey first).2.obey second).2 := by
  induction first generalizing store with
  | nil => rfl
  | cons command rest induction =>
      cases command with
      | call call => exact induction (answer call store).2
      | failNext operation times => exact induction (store.failNext operation times)

def creation : Command := .call (.createNamespace ⟨{ name := some "zombie-a" }, none⟩)

/-- The same namespace is made and deleted again and again. -/
def churn : Nat → List Command
  | 0 => []
  | rounds + 1 => creation :: .call (.deleteNamespace "zombie-a") :: churn rounds

/-- A store that is left empty, but not as it was. -/
theorem obey_churn (stampOf : Nat → Stamp) (rounds stamps : Nat) (tally : Operation → UInt32) :
    ∃ counted, (obey { stamps, tally, stampOf } (churn rounds)).2 =
      { stamps := stamps + rounds, tally := counted, stampOf } := by
  induction rounds generalizing stamps tally with
  | zero => exact ⟨tally, rfl⟩
  | succ rounds induction =>
      obtain ⟨counted, reached⟩ := induction (stamps + 1)
        (replaceAt (replaceAt tally .createNamespace (tally .createNamespace + 1))
          .deleteNamespace (tally .deleteNamespace + 1))
      have sum : stamps + (rounds + 1) = stamps + 1 + rounds := by omega
      refine ⟨counted, ?_⟩
      rw [sum, ← reached]
      rfl

/-- What is made after `rounds` rounds has the version after that number. -/
theorem numbered_churn (stampOf : Nat → Stamp) (rounds : Nat) :
    ∃ held ∈ (obey { stampOf } (churn rounds ++ [creation])).2.namespaces,
      held.metadata.HasVersion (UInt64.ofNat rounds + 1).toNat := by
  obtain ⟨counted, reached⟩ := obey_churn stampOf rounds 0 fun _ => 0
  rw [obey_append, reached, Nat.zero_add]
  exact ⟨_, List.mem_singleton_self _, rfl⟩

theorem not_numbered_churn (stampOf : Nat → Stamp) {rounds : Nat} (all : rounds + 1 = UInt64.size) :
    let store := (obey { stampOf } (churn rounds ++ [creation])).2
    (∃ held ∈ store.namespaces, held.metadata.HasVersion 0) ∧
      ¬Numbered store.contents.kinds store.version.toNat := by
  have last := numbered_churn stampOf rounds
  have zero : (UInt64.ofNat rounds + 1).toNat = 0 := by
    rw [← UInt64.ofNat_one, ← UInt64.ofNat_add, all]
    decide
  rw [zero] at last
  refine ⟨last, ?_⟩
  intro numbered
  obtain ⟨held, member, unnumbered⟩ := last
  obtain ⟨number, positive, _, known⟩ :=
    numbered.bounded _ List.mem_cons_self held.metadata (List.mem_map_of_mem member)
  have same : number = 0 := Text.decimal_injective (Option.some.inj (known.symm.trans unnumbered))
  omega

/-- The object that is made after so many others is numbered zero. -/
theorem version_starts_over :
    let store := (obey { stampOf := fun _ => default } (churn (UInt64.size - 1) ++ [creation])).2
    (∃ held ∈ store.namespaces, held.metadata.HasVersion 0) ∧
      ¬Numbered store.contents.kinds store.version.toNat :=
  not_numbered_churn _ (by decide)

end Store

end Tenancy.Cluster
