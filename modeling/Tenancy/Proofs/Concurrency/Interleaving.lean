import Tenancy.Proofs.Concurrency.Creating

/-!
# Interleavings

An invariant of all parties and the store together, kept by every step of every
party.  Every namespace has one origin: it was there before, or it was made by
the creation that has drawn its name, for the owner whom that creation is
authorized for.
-/

namespace Tenancy.Concurrency

open Cluster Access Lifecycle Provisioning

/-- What one step of a party does, when the party conforms. -/
inductive Stepped (service : Service) (party : Party) (store : Store) : Party → Store → Prop where
  | idle {rest : Calls Outcome} (conforms : Conforms service (party.rested rest)) :
      Stepped service party store (party.rested rest) store
  | asked {call : Call} {answer : call.Answer} {next : Calls Outcome} {finish : Store}
      (asks : TaskMayAsk service party.task party.history call)
      (answered : Store.answer call store = (answer, finish))
      (conforms : Conforms service (party.asked ⟨call, answer⟩ next)) :
      Stepped service party store (party.asked ⟨call, answer⟩ next) finish

theorem Conforms.step {service : Service} {party : Party} (conforms : Conforms service party)
    (store : Store) : Stepped service party store (party.step store).1 (party.step store).2 := by
  obtain ⟨task, history, rest⟩ := party
  cases rest with
  | done outcome => exact .idle conforms
  | fault reason => exact .idle conforms
  | pause length rest => exact .idle conforms
  | ask call next =>
      obtain ⟨asks, continues⟩ := conforms
      exact .asked asks rfl (continues _ _ rfl)

section

variable {service : Service} {task : Task} {history : List Exchange} {call : Call}

theorem adds_nothing
    (bare : call = .listNamespaces ∨ (∃ space, call = .listSecrets space) ∨
      (∃ name, call = .listPods name none) ∨ (∃ name, call = .getNamespace name) ∨
        ∃ name, call = .deleteNamespace name) :
    call.target? = none ∧ call.operation ≠ .deletePod ∧ call.operation ≠ .createNamespace := by
  rcases bare with rfl | ⟨name, rfl⟩ | ⟨name, rfl⟩ | ⟨name, rfl⟩ | ⟨name, rfl⟩ <;>
    exact ⟨rfl, by simp, by simp⟩

/-- A call adds nothing and deletes no pod, or a creation makes it. -/
theorem call_cases (asks : TaskMayAsk service task history call) :
    (call.target? = none ∧ call.operation ≠ .deletePod ∧ call.operation ≠ .createNamespace) ∨
      ∃ credential name owner, task = .request credential (.create name) ∧
        Authorized service credential owner history ∧ MayAsk name owner history call := by
  cases task with
  | scan now monitor =>
      left
      apply adds_nothing
      rcases asks with rfl | ⟨space, rfl⟩ <;> simp
  | reap hours now =>
      left
      apply adds_nothing
      rcases asks with rfl | ⟨space, rfl⟩ <;> simp
  | request credential asked =>
      rcases asks with rfl | ⟨owner, authorized, asks⟩
      · left
        apply adds_nothing
        simp
      · cases asked with
        | create name => exact .inr ⟨credential, name, owner, rfl, authorized, asks⟩
        | get name =>
            left
            apply adds_nothing
            cases asks
            simp
        | list =>
            left
            apply adds_nothing
            cases asks
            simp
        | delete name =>
            left
            apply adds_nothing
            rcases asks with rfl | ⟨rfl, _⟩ <;> simp

theorem drawn_of_target {name : String} (asks : TaskMayAsk service task history call)
    (targets : call.target? = some name) : task.drawn? = some name := by
  rcases call_cases asks with ⟨none, _⟩ | ⟨credential, drawn, owner, rfl, _, asks⟩
  · rw [none] at targets
    cases targets
  · cases call with
    | createNamespace object =>
        obtain ⟨rfl, _⟩ := asks
        exact targets
    | createServiceAccount space account =>
        obtain ⟨rfl, _⟩ := asks
        exact targets
    | createSecret space secret =>
        obtain ⟨rfl, _⟩ := asks
        exact targets
    | createRoleBinding space binding =>
        obtain ⟨rfl, _⟩ := asks
        exact targets
    | _ => cases targets

theorem spares_pods (asks : TaskMayAsk service task history call) :
    call.operation ≠ .deletePod := by
  rcases call_cases asks with ⟨_, spares, _⟩ | ⟨credential, drawn, owner, rfl, _, asks⟩
  · exact spares
  · cases call with
    | deletePod space name => exact asks.elim
    | _ => simp

/-- A namespace is made only by a creation, under its name and for the owner it
is authorized for. -/
theorem namespace_asked {object : Namespace}
    (asks : TaskMayAsk service task history (.createNamespace object)) :
    ∃ credential name owner, task = .request credential (.create name) ∧
      Authorized service credential owner history ∧
      object = Workspace.namespaceFor name owner := by
  rcases call_cases asks with ⟨_, _, other⟩ | ⟨credential, name, owner, rfl, authorized, asks⟩
  · exact absurd rfl other
  · exact ⟨credential, name, owner, rfl, authorized, asks.1⟩

end

section

variable {Identity : Type}

/-- Where a namespace comes from. -/
inductive Origin (service : Service) (initial : Contents) (system : System Identity)
    (held : Namespace) : Prop where
  | initial (member : held ∈ initial.namespaces)
  | made {identity : Identity} {credential : Option String} {name owner : String}
      (task : (system.parties identity).task = .request credential (.create name))
      (authorized : Authorized service credential owner (system.parties identity).history)
      (named : held.metadata.name = some name)
      (owned : Workspace.owner? held = some owner)

/-- The invariant of a system that began with these tasks and objects. -/
structure Sound (service : Service) (tasks : Identity → Task) (initial : Contents)
    (system : System Identity) : Prop where
  task : ∀ identity, (system.parties identity).task = tasks identity
  conforms : ∀ identity, Conforms service (system.parties identity)
  creating : ∀ identity name, (tasks identity).drawn? = some name →
    Creating name (system.parties identity).history system.store.contents
  origin : ∀ held ∈ system.store.contents.namespaces, Origin service initial system held
  seen : ∀ identity name held,
    (⟨.getNamespace name, .ok held⟩ : Exchange) ∈ (system.parties identity).history →
      held.metadata.name = some name ∧ Origin service initial system held

variable {service : Service} {tasks : Identity → Task} {initial : Contents}
variable {system : System Identity}

theorem sound_start {store : Store} (fresh : FreshDraws tasks store.contents) :
    Sound service tasks store.contents (System.start service store tasks) := by
  refine ⟨fun _ => rfl, fun identity => conforms_start service (tasks identity), ?_, ?_, ?_⟩
  · intro identity name drawn
    exact .start (fresh.vacant identity name drawn)
  · intro held member
    exact .initial member
  · intro identity name held member
    cases member

theorem Origin.mono {later : System Identity} {held : Namespace}
    (origin : Origin service initial system held)
    (task : ∀ identity, (later.parties identity).task = (system.parties identity).task)
    (history : ∀ identity, ∃ more,
      (later.parties identity).history = (system.parties identity).history ++ more) :
    Origin service initial later held := by
  cases origin with
  | initial member => exact .initial member
  | @made identity credential name owner same authorized named owned =>
      obtain ⟨more, continued⟩ := history identity
      exact .made ((task identity).trans same) (continued ▸ authorized.append more) named owned

/-- A drawn name belongs to one creation and its owner. -/
theorem Sound.owner_of_drawn {identity : Identity} {credential : Option String}
    {name owner : String} {held : Namespace} (sound : Sound service tasks initial system)
    (fresh : FreshDraws tasks initial)
    (task : (system.parties identity).task = .request credential (.create name))
    (authorized : Authorized service credential owner (system.parties identity).history)
    (origin : Origin service initial system held) (named : held.metadata.name = some name) :
    Workspace.owner? held = some owner := by
  have drawn : (tasks identity).drawn? = some name := by
    rw [← sound.task identity, task]
    rfl
  cases origin with
  | initial member =>
      have unnamed := (fresh.vacant identity name drawn).namespaces held member
      simp [Metadata.isNamed, named] at unnamed
  | @made other otherCredential otherName otherOwner otherTask otherAuthorized otherNamed owned =>
      have sameName : otherName = name := by
        rw [otherNamed] at named
        exact Option.some.inj named
      subst sameName
      have otherDrawn : (tasks other).drawn? = some otherName := by
        rw [← sound.task other, otherTask]
        rfl
      have sameParty : other = identity := fresh.distinct other identity otherName otherDrawn drawn
      subst sameParty
      have sameTask := otherTask.symm.trans task
      cases sameTask
      rw [owned, authorized.unique otherAuthorized]

/-- A name has one owner for the whole run. -/
theorem Sound.one_owner {first second : Namespace} {name : String}
    (sound : Sound service tasks initial system) (fresh : FreshDraws tasks initial)
    (distinct : DistinctNames initial) (firstOrigin : Origin service initial system first)
    (secondOrigin : Origin service initial system second)
    (firstNamed : first.metadata.name = some name)
    (secondNamed : second.metadata.name = some name) :
    Workspace.owner? first = Workspace.owner? second := by
  cases secondOrigin with
  | made task authorized named owned =>
      rw [secondNamed] at named
      cases named
      rw [owned]
      exact sound.owner_of_drawn fresh task authorized firstOrigin firstNamed
  | initial secondMember =>
      cases firstOrigin with
      | made task authorized named owned =>
          rw [firstNamed] at named
          cases named
          rw [owned]
          have same :=
            sound.owner_of_drawn fresh task authorized (.initial secondMember) secondNamed
          exact same.symm
      | initial firstMember =>
          rw [distinct.eq_of_name firstMember secondMember firstNamed secondNamed]

/-- What a creation knows after a call of its own. -/
theorem Sound.creating_asked {identity : Identity} {call : Call} {answer : call.Answer}
    {finish : Store} {name : String} (sound : Sound service tasks initial system)
    (asks : TaskMayAsk service (system.parties identity).task
      (system.parties identity).history call)
    (answered : Store.answer call system.store = (answer, finish))
    (drawn : (tasks identity).drawn? = some name) :
    Creating name ((system.parties identity).history ++ [⟨call, answer⟩]) finish.contents := by
  have creating := sound.creating identity name drawn
  rw [sound.task identity] at asks
  cases kind : tasks identity with
  | request credential asked =>
      rw [kind] at asks drawn
      cases asked with
      | create own =>
          cases drawn
          exact creating.step asks answered
      | _ => cases drawn
  | _ =>
      rw [kind] at drawn
      cases drawn

variable [DecidableEq Identity]

/-- What is left to show when one party has gone on. -/
theorem Sound.put {identity : Identity} {party : Party} {store : Store} {more : List Exchange}
    (sound : Sound service tasks initial system)
    (task : party.task = (system.parties identity).task)
    (history : party.history = (system.parties identity).history ++ more)
    (conforms : Conforms service party)
    (own : ∀ name, (tasks identity).drawn? = some name →
      Creating name party.history store.contents)
    (others : ∀ other name, other ≠ identity → (tasks other).drawn? = some name →
      Undisturbed name system.store.contents store.contents ∧
        (system.store.contents.Vacant name → store.contents.Vacant name))
    (arrivals : ∀ held ∈ store.contents.namespaces, held ∈ system.store.contents.namespaces ∨
      Origin service initial (system.put identity party store) held)
    (sightings : ∀ name held, (⟨.getNamespace name, .ok held⟩ : Exchange) ∈ more →
      held.metadata.name = some name ∧ held ∈ system.store.contents.namespaces) :
    Sound service tasks initial (system.put identity party store) := by
  have tasked : ∀ other, ((system.put identity party store).parties other).task =
      (system.parties other).task := by
    intro other
    by_cases same : other = identity
    · rw [same, System.parties_put_self, task]
    · rw [system.parties_put_other party store same]
  have continued : ∀ other, ∃ rest, ((system.put identity party store).parties other).history =
      (system.parties other).history ++ rest := by
    intro other
    by_cases same : other = identity
    · rw [same, System.parties_put_self]
      exact ⟨more, history⟩
    · rw [system.parties_put_other party store same]
      exact ⟨[], (List.append_nil _).symm⟩
  have origins : ∀ held, Origin service initial system held →
      Origin service initial (system.put identity party store) held :=
    fun held origin => origin.mono tasked continued
  refine ⟨fun other => (tasked other).trans (sound.task other), ?_, ?_, ?_, ?_⟩
  · intro other
    by_cases same : other = identity
    · rw [same, System.parties_put_self]
      exact conforms
    · rw [system.parties_put_other party store same]
      exact sound.conforms other
  · intro other name drawn
    by_cases same : other = identity
    · subst same
      rw [System.parties_put_self]
      exact own name drawn
    · rw [system.parties_put_other party store same]
      obtain ⟨undisturbed, vacant⟩ := others other name same drawn
      exact (sound.creating other name drawn).undisturbed undisturbed vacant
  · intro held member
    rcases arrivals held member with old | new
    · exact origins held (sound.origin held old)
    · exact new
  · intro other name held member
    by_cases same : other = identity
    · rw [same, System.parties_put_self, history] at member
      rcases List.mem_append.1 member with before | now
      · obtain ⟨named, origin⟩ := sound.seen identity name held before
        exact ⟨named, origins held origin⟩
      · obtain ⟨named, present⟩ := sightings name held now
        exact ⟨named, origins held (sound.origin held present)⟩
    · rw [system.parties_put_other party store same] at member
      obtain ⟨named, origin⟩ := sound.seen other name held member
      exact ⟨named, origins held origin⟩

theorem Sound.asked {identity : Identity} {call : Call} {answer : call.Answer}
    {next : Calls Outcome} {finish : Store} (sound : Sound service tasks initial system)
    (fresh : FreshDraws tasks initial)
    (asks : TaskMayAsk service (system.parties identity).task
      (system.parties identity).history call)
    (answered : Store.answer call system.store = (answer, finish))
    (conforms : Conforms service ((system.parties identity).asked ⟨call, answer⟩ next)) :
    Sound service tasks initial
      (system.put identity ((system.parties identity).asked ⟨call, answer⟩ next) finish) := by
  have task : ((system.parties identity).asked ⟨call, answer⟩ next).task =
      (system.parties identity).task := rfl
  have history : ((system.parties identity).asked ⟨call, answer⟩ next).history =
      (system.parties identity).history ++ [⟨call, answer⟩] := rfl
  apply sound.put task history conforms
  · intro name drawn
    exact sound.creating_asked asks answered drawn
  · intro other name apart drawn
    have footprint : Footprint system.store.contents call.target? finish.contents :=
      footprint_of_effect (Store.effect_of_answered answered) (spares_pods asks)
    have elsewhere : call.target? ≠ some name := by
      intro targets
      have drawnHere := drawn_of_target asks targets
      rw [sound.task identity] at drawnHere
      exact apart (fresh.distinct other identity name drawn drawnHere)
    exact ⟨footprint.undisturbed elsewhere, fun vacant => footprint.vacant vacant elsewhere⟩
  · intro held member
    rcases mem_namespaces_of_effect (Store.effect_of_answered answered) member with
      old | ⟨object, stamps, rfl, rfl⟩
    · exact .inl old
    · obtain ⟨credential, name, owner, created, authorized, rfl⟩ := namespace_asked asks
      right
      apply Origin.made
      · rw [System.parties_put_self, task]
        exact created
      · rw [System.parties_put_self, history]
        exact authorized.append _
      · rfl
      · rfl
  · intro name held member
    cases List.mem_singleton.1 member
    obtain ⟨present, named, _⟩ := Store.getNamespace_ok answered
    exact ⟨named, present⟩

theorem Sound.idle {identity : Identity} {rest : Calls Outcome}
    (sound : Sound service tasks initial system)
    (conforms : Conforms service ((system.parties identity).rested rest)) :
    Sound service tasks initial
      (system.put identity ((system.parties identity).rested rest) system.store) := by
  have task : ((system.parties identity).rested rest).task =
      (system.parties identity).task := rfl
  have history : ((system.parties identity).rested rest).history =
      (system.parties identity).history ++ [] := (List.append_nil _).symm
  apply sound.put task history conforms
  · intro name drawn
    exact sound.creating identity name drawn
  · intro other name apart drawn
    exact ⟨.refl, id⟩
  · intro held member
    exact .inl member
  · intro name held member
    cases member

theorem Sound.move (sound : Sound service tasks initial system)
    (fresh : FreshDraws tasks initial) (move : Move Identity) :
    Sound service tasks initial (system.move move) := by
  cases move with
  | failNext operation times =>
      refine ⟨sound.task, sound.conforms, sound.creating, ?_, ?_⟩
      · intro held member
        exact (sound.origin held member).mono (fun _ => rfl) fun _ => ⟨[], (List.append_nil _).symm⟩
      · intro identity name held member
        obtain ⟨named, origin⟩ := sound.seen identity name held member
        exact ⟨named, origin.mono (fun _ => rfl) fun _ => ⟨[], (List.append_nil _).symm⟩⟩
  | step identity =>
      have stepped := (sound.conforms identity).step system.store
      simp only [System.move]
      generalize (system.parties identity).step system.store = outcome at stepped
      obtain ⟨party, store⟩ := outcome
      cases stepped with
      | idle conforms => exact sound.idle conforms
      | asked asks answered conforms => exact sound.asked fresh asks answered conforms

theorem Sound.run (sound : Sound service tasks initial system)
    (fresh : FreshDraws tasks initial) (moves : List (Move Identity)) :
    Sound service tasks initial (system.run moves) := by
  induction moves generalizing system with
  | nil => exact sound
  | cons move rest induction => exact induction (sound.move fresh move)

theorem named_of_removed {name : String} {store finish : Store} {held : Namespace}
    {answer : (Call.deleteNamespace name).Answer}
    (answered : Store.answer (.deleteNamespace name) store = (answer, finish))
    (member : held ∈ store.contents.namespaces) (removed : held ∉ finish.contents.namespaces) :
    held.metadata.name = some name := by
  rcases answer with failure | ⟨⟩
  · rw [Store.contents_of_error answered] at removed
    exact absurd member removed
  · rw [(Store.deleteNamespace_ok answered).2] at removed
    apply Classical.byContradiction
    intro different
    apply removed
    apply List.mem_filter.2
    refine ⟨member, ?_⟩
    simpa [Metadata.isNamed] using different

theorem Sound.deletesOwn (sound : Sound service tasks initial system)
    (fresh : FreshDraws tasks initial) (distinct : DistinctNames initial) :
    DeletesOwn service system := by
  intro identity credential asked name next task asking
  have conforms := sound.conforms identity
  unfold Conforms at conforms
  rw [asking, task] at conforms
  rcases conforms.1 with impossible | ⟨owner, authorized, asks⟩
  · cases impossible
  · refine ⟨owner, authorized, ?_⟩
    intro held member removed
    have finish : (system.move (.step identity)).store =
        (Store.answer (.deleteNamespace name) system.store).2 := by
      simp only [System.move, Party.step, asking, System.put]
    rw [finish] at removed
    have named : held.metadata.name = some name := named_of_removed rfl member removed
    have origin := sound.origin held member
    cases asked with
    | create drawn =>
        obtain ⟨rfl, _⟩ := asks
        exact sound.owner_of_drawn fresh task authorized origin named
    | delete wanted =>
        rcases asks with impossible | ⟨same, seen, known, owned⟩
        · cases impossible
        · cases same
          obtain ⟨seenNamed, seenOrigin⟩ := sound.seen identity name seen known
          rw [← owned]
          exact sound.one_owner fresh distinct origin seenOrigin named seenNamed
    | get wanted => cases asks
    | list => cases asks

end

/-- In every interleaving of requests, scans and reaper passes on one store, a
request deletes only what belongs to the owner it is authorized for, and when
all are done, every namespace that was not there before is accounted for by the
creation that has drawn its name. -/
theorem interleavings_safe {Identity : Type} [DecidableEq Identity] (service : Service)
    (store : Store) (tasks : Identity → Task) (moves : List (Move Identity))
    (distinct : DistinctNames store.contents) (fresh : FreshDraws tasks store.contents) :
    let system := (System.start service store tasks).run moves
    DeletesOwn service system ∧
      (system.Finished → ∀ held ∈ system.store.namespaces, held ∉ store.namespaces →
        ∃ identity credential name,
          (system.parties identity).task = .request credential (.create name) ∧
          held.metadata.name = some name ∧
          Accounted service system.store.contents name (system.parties identity)) := by
  intro system
  have sound : Sound service tasks store.contents system := (sound_start fresh).run fresh moves
  refine ⟨sound.deletesOwn fresh distinct, ?_⟩
  intro finished held member new
  cases sound.origin held member with
  | initial old => exact absurd old new
  | @made identity credential name owner task authorized named owned =>
      refine ⟨identity, credential, name, task, named, ?_⟩
      have drawn : (tasks identity).drawn? = some name := by
        rw [← sound.task identity, task]
        rfl
      obtain ⟨outcome, ended⟩ := finished identity
      have conforms := sound.conforms identity
      unfold Conforms at conforms
      rw [ended] at conforms
      have has : system.store.contents.Has name :=
        ⟨held, member, by simp [Metadata.isNamed, named]⟩
      exact (sound.creating identity name drawn).accounted task ended conforms has

/-- The secret of an owner with this token. -/
def credentialOf (owner token : String) : Secret where
  metadata :=
    { name := some owner
      space := some "owners"
      annotations := some (.singleton roleAnnotation userRole) }
  data := some (.singleton tokenKey token.toUTF8)

/-- Alice and Bob are owners, and Bob has a workspace. -/
def sharedStore : Store where
  namespaces := [Workspace.namespaceFor "zombie-b" "bob"]
  secrets := [credentialOf "alice" "wonder", credentialOf "bob" "build"]
  stampOf := fun _ => ⟨"", default, "castle"⟩

/-- Alice creates a workspace while Bob deletes his own, and a reaper and a
monitor come by. -/
def sharedTasks : Fin 4 → Task
  | 0 => .request (some "wonder") (.create "zombie-a")
  | 1 => .request (some "build") (.delete "zombie-b")
  | 2 => .reap 12 default
  | 3 => .scan default {}

def sharedService : Service := ⟨"owners", Plan.standard⟩

def sharedSystem (moves : List (Move (Fin 4))) : System (Fin 4) :=
  (System.start sharedService sharedStore sharedTasks).run moves

/-- Alice's namespace is made, and Bob has seen that his workspace is his own. -/
def earlyMoves : List (Move (Fin 4)) :=
  [.step 1, .step 3, .step 0, .step 0, .failNext .listPods 1, .step 1]

/-- The moves after these, until all are done. -/
def lateMoves : List (Move (Fin 4)) :=
  [.step 2, .step 1, .step 0, .step 3, .step 0, .step 0, .step 0]

theorem freshDraws_shared : FreshDraws sharedTasks sharedStore.contents := by
  have drawn : ∀ identity name, (sharedTasks identity).drawn? = some name →
      identity = 0 ∧ name = "zombie-a" := by
    intro identity name drawn
    match identity with
    | 0 =>
        cases drawn
        exact ⟨rfl, rfl⟩
    | 1 => cases drawn
    | 2 => cases drawn
    | 3 => cases drawn
  have vacant : sharedStore.contents.Vacant "zombie-a" := by
    constructor <;> decide
  constructor
  · intro identity name draws
    rw [(drawn identity name draws).2]
    exact vacant
  · intro identity other name draws alsoDraws
    rw [(drawn identity name draws).1, (drawn other name alsoDraws).1]

/-- Bob is about to delete his workspace when Alice's is there but not complete, and
deletes nothing else.  In the end his is gone and hers is complete. -/
theorem interleavings_safe_create_and_delete :
    let halfway := sharedSystem earlyMoves
    let system := sharedSystem (earlyMoves ++ lateMoves)
    DistinctNames sharedStore.contents ∧ FreshDraws sharedTasks sharedStore.contents ∧
      (halfway.parties 1).asking? = some (.deleteNamespace "zombie-b") ∧
      DeletesOwn sharedService halfway ∧
      system.Finished ∧
      (system.parties 0).outcome? =
        some (.replied (.ok (.created (.ofCreated "zombie-a" "castle")))) ∧
      (system.parties 1).outcome? =
        some (.replied (.ok (.deleted "Namespace zombie-b deleted"))) ∧
      system.store.namespaces.map (·.metadata.name) = [some "zombie-a"] ∧
      ∀ held ∈ system.store.namespaces, held ∉ sharedStore.namespaces →
        ∃ identity credential name,
          (system.parties identity).task = .request credential (.create name) ∧
          held.metadata.name = some name ∧
          Accounted sharedService system.store.contents name (system.parties identity) := by
  have distinct : DistinctNames sharedStore.contents :=
    List.nodup_cons.2 ⟨List.not_mem_nil, List.nodup_nil⟩
  have deleting : ((sharedSystem earlyMoves).parties 1).asking? =
      some (.deleteNamespace "zombie-b") := by decide +kernel
  have finished : (sharedSystem (earlyMoves ++ lateMoves)).Finished :=
    System.finished_iff.2 (by decide +kernel)
  have created : ((sharedSystem (earlyMoves ++ lateMoves)).parties 0).outcome? =
      some (.replied (.ok (.created (.ofCreated "zombie-a" "castle")))) := by decide +kernel
  have deleted : ((sharedSystem (earlyMoves ++ lateMoves)).parties 1).outcome? =
      some (.replied (.ok (.deleted "Namespace zombie-b deleted"))) := by decide +kernel
  have left : (sharedSystem (earlyMoves ++ lateMoves)).store.namespaces.map (·.metadata.name) =
      [some "zombie-a"] := by decide +kernel
  have early := interleavings_safe sharedService sharedStore sharedTasks earlyMoves distinct
    freshDraws_shared
  have late := interleavings_safe sharedService sharedStore sharedTasks (earlyMoves ++ lateMoves)
    distinct freshDraws_shared
  exact ⟨distinct, freshDraws_shared, deleting, early.1, finished, created, deleted, left,
    late.2 finished⟩

end Tenancy.Concurrency
