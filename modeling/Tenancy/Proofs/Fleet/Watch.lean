import Tenancy.Proofs.Upkeep.Sweep

/-!
# Watching the fleet

A monitor that begins with no figures and scans any number of times, whatever
it is answered.  After every scan the gauges show what the answers so far amount
to: the flags belong to the latest listing, and the count of a workspace is the
latest one since it was last missing from a listing.
-/

namespace Tenancy.Fleet

open Cluster Number Upkeep Workspace

/-- One scan of a watch. -/
structure Round where
  now : Instant
  exchanges : List Exchange
  result : Except Failure Snapshot
  after : Monitor

/-- Scans at some times, one after the other. -/
def watch {State : Type} (plane : Plane State) :
    List Instant → Monitor → State → List Round × State
  | [], _, state => ([], state)
  | now :: rest, before, state =>
      match (recorded plane).run (scan now before) ⟨[], state⟩ with
      | (.error _, finish) => ([], finish.plane)
      | (.ok (result, after), finish) =>
          let (rounds, last) := watch plane rest after finish.plane
          (⟨now, finish.history, result, after⟩ :: rounds, last)

namespace Round

/-- The namespaces could not be listed. -/
def Failed (round : Round) : Prop :=
  ∃ failure, round.exchanges = [⟨.listNamespaces, .error failure⟩]

/-- A workspace is in the listing of the round. -/
def Lists (round : Round) (name : String) : Prop :=
  ∃ listing exchanges, round.exchanges = ⟨.listNamespaces, .ok listing⟩ :: exchanges ∧
    ∃ held ∈ listing, isWorkspace held = true ∧ held.metadata.name = some name

/-- The numbers of pods that the round found in a workspace. -/
def counts (round : Round) (name : String) : List Nat :=
  round.exchanges.filterMap (podsFound? name)

end Round

/-- The monitor after some rounds. -/
def latest (rounds : List Round) : Monitor := (rounds.getLast?.map Round.after).getD {}

/-- The latest number of pods that was found in a workspace, if since then every
round has listed the workspace or failed. -/
def LatestCount (rounds : List Round) (name : String) (count : Nat) : Prop :=
  ∃ earlier round later, rounds = earlier ++ round :: later ∧
    (round.counts name).getLast? = some count ∧
    (∀ other ∈ later, other.counts name = []) ∧
    ∀ other ∈ round :: later, other.Failed ∨ other.Lists name

/-- What a listing and the counts so far amount to. -/
structure Figures (rounds : List Round) (now : Instant) (listing : List Namespace)
    (snapshot : Snapshot) (gauges : Gauges) : Prop where
  total : snapshot.total = listing.countP isWorkspace
  stale : snapshot.stale = overdue 48 now listing
  namespaceCount : gauges.namespaceCount = signedWord (listing.countP isWorkspace)
  inRange : (listing.countP isWorkspace : Int) ≤ greatestSigned64 →
    gauges.namespaceCount = listing.countP isWorkspace
  /-- The flag is that of the last workspace of the name. -/
  staleFlag : ∀ name, gauges.staleFlag? name =
    ((listing.filter fun held => isWorkspace held && held.metadata.isNamed name).getLast?).map
      fun held => if isOverdue 48 now held then 1 else 0
  counted : ∀ name, (gauges.podCount? name).isSome = true ↔ ∃ count, LatestCount rounds name count
  podCount : ∀ name count, LatestCount rounds name count → count < Nat.pow 2 53 →
    gauges.podCount? name = some (count : Int)

/-- What a round reports and publishes, after the rounds before it. -/
inductive Reported (earlier : List Round) (round : Round) : Prop where
  | skipped {failure : Failure} (asked : round.exchanges = [⟨.listNamespaces, .error failure⟩])
      (result : round.result = .error failure) (unchanged : round.after = latest earlier)
  | done {listing : List Namespace} {exchanges : List Exchange} {snapshot : Snapshot}
      (asked : round.exchanges = ⟨.listNamespaces, .ok listing⟩ :: exchanges)
      (askedPods : exchanges.map Sigma.fst =
        (workspacesIn listing).map fun workspace => .listPods workspace.1 none)
      (result : round.result = .ok snapshot)
      (figures : Figures (earlier ++ [round]) round.now listing snapshot round.after.gauges)

/-- A monitor keeps figures for the workspaces it published, and the counts
among them are the latest ones. -/
structure Abreast (rounds : List Round) (monitor : Monitor) : Prop where
  current : latest rounds = monitor
  podCounts : ∀ name ∉ monitor.published, monitor.gauges.podCounts.find? name = none
  staleFlags : ∀ name ∉ monitor.published, monitor.gauges.staleFlags.find? name = none
  counted : ∀ name value, monitor.gauges.podCounts.find? name = some value ↔
    ∃ count, LatestCount rounds name count ∧ signedWord count = value

theorem latestCount_concat {rounds : List Round} {round : Round} {name : String} {count : Nat} :
    LatestCount (rounds ++ [round]) name count ↔ (round.Failed ∨ round.Lists name) ∧
      ((round.counts name).getLast? = some count ∨
        round.counts name = [] ∧ LatestCount rounds name count) := by
  constructor
  · rintro ⟨earlier, found, later, split, last, none, unbroken⟩
    rcases List.eq_nil_or_concat later with rfl | ⟨init, final, rfl⟩
    · obtain ⟨_, same⟩ := List.append_inj' split rfl
      cases same
      exact ⟨unbroken round List.mem_cons_self, .inl last⟩
    · rw [List.concat_eq_append] at split none unbroken
      rw [← List.cons_append] at unbroken
      rw [← List.cons_append, ← List.append_assoc] at split
      obtain ⟨same, only⟩ := List.append_inj' split rfl
      cases only
      refine ⟨unbroken round (by simp), .inr ⟨none round (by simp), ?_⟩⟩
      refine ⟨earlier, found, init, same, last, ?_, ?_⟩
      · intro other member
        exact none other (List.mem_append_left _ member)
      · intro other member
        exact unbroken other (List.mem_append_left _ member)
  · rintro ⟨unbroken, last | ⟨none, earlier, found, later, rfl, last, noneLater, unbrokenLater⟩⟩
    · refine ⟨rounds, round, [], rfl, last, by simp, ?_⟩
      intro other member
      rw [List.mem_singleton.1 member]
      exact unbroken
    · refine ⟨earlier, found, later ++ [round], by simp, last, ?_, ?_⟩
      · intro other member
        rcases List.mem_append.1 member with before | here
        · exact noneLater other before
        · rw [List.mem_singleton.1 here]
          exact none
      · intro other member
        rw [← List.cons_append] at member
        rcases List.mem_append.1 member with before | here
        · exact unbrokenLater other before
        · rw [List.mem_singleton.1 here]
          exact unbroken

theorem abreast_start : Abreast [] {} where
  current := rfl
  podCounts _ _ := rfl
  staleFlags _ _ := rfl
  counted name value := by
    constructor
    · intro known
      cases known
    · rintro ⟨count, ⟨earlier, round, later, split, _⟩, _⟩
      cases earlier <;> cases split

section

variable {now : Instant} {before after : Monitor} {listing : List Namespace} {name : String}
variable {exchanges : List Exchange} {snapshot : Snapshot} {figures : Gauges}
variable {workspaces : List (String × Metadata)}

/-- No pods are found in a workspace that is not among the surveyed ones. -/
theorem no_pods_found
    (asked : exchanges.map Sigma.fst = workspaces.map fun workspace => .listPods workspace.1 none)
    (absent : name ∉ workspaces.map Prod.fst) : exchanges.filterMap (podsFound? name) = [] := by
  apply List.filterMap_eq_nil_iff.2
  intro exchange member
  have question : exchange.1 ∈ exchanges.map Sigma.fst := List.mem_map_of_mem member
  rw [asked] at question
  obtain ⟨workspace, listed, same⟩ := List.mem_map.1 question
  have apart : workspace.1 ≠ name := fun equal => absent (equal ▸ List.mem_map_of_mem listed)
  obtain ⟨call, answer⟩ := exchange
  cases same
  cases answer with
  | error failure => rfl
  | ok pods => simp [podsFound?, apart]

theorem no_flags (absent : name ∉ workspaces.map Prod.fst) :
    workspaces.filterMap (flagOf? now name) = [] := by
  apply List.filterMap_eq_nil_iff.2
  intro workspace member
  have apart : workspace.1 ≠ name := fun equal => absent (equal ▸ List.mem_map_of_mem member)
  simp [flagOf?, apart]

variable {earlier : List Round} (abreast : Abreast earlier before)
variable (surveyed : Surveyed now workspaces {} before.gauges exchanges snapshot figures)
variable (published : after.published = workspaces.map Prod.fst)

include abreast surveyed published

/-- After a scan, exactly the workspaces of the listing have their latest counts. -/
theorem Abreast.podCounts_done
    (podCounts : after.gauges.podCounts.find? name =
      if name ∈ before.published ∧ name ∉ after.published then none
      else figures.podCounts.find? name) :
    after.gauges.podCounts.find? name =
      if name ∈ after.published then
        ((exchanges.filterMap (podsFound? name)).getLast?.map signedWord).or
          (before.gauges.podCounts.find? name)
      else none := by
  rw [podCounts, surveyed.podCounts]
  by_cases listed : name ∈ after.published
  · simp [listed]
  · by_cases known : name ∈ before.published
    · simp [known, listed]
    · rw [abreast.podCounts name known, no_pods_found surveyed.asked (published ▸ listed)]
      simp

/-- After a scan, the flags are those of the workspaces of the listing. -/
theorem Abreast.staleFlags_done
    (staleFlags : after.gauges.staleFlags.find? name =
      if name ∈ before.published ∧ name ∉ after.published then none
      else figures.staleFlags.find? name) :
    after.gauges.staleFlags.find? name = (workspaces.filterMap (flagOf? now name)).getLast? := by
  rw [staleFlags, surveyed.staleFlags]
  by_cases listed : name ∈ after.published
  · obtain ⟨workspace, member, same⟩ := List.mem_map.1 (published ▸ listed)
    have flagged : flagOf now workspace.2 ∈ workspaces.filterMap (flagOf? now name) :=
      List.mem_filterMap.2 ⟨workspace, member, if_pos same⟩
    have last := List.getLast?_eq_some_getLast (List.ne_nil_of_mem flagged)
    rw [if_neg fun gone => gone.2 listed, last]
    rfl
  · rw [no_flags (published ▸ listed)]
    by_cases known : name ∈ before.published
    · simp [known, listed]
    · simp [abreast.staleFlags name known]

end

/-- The flag that is published for a workspace says whether it is overdue. -/
theorem throughDouble_flagOf (now : Instant) {held : Namespace} (judged : isWorkspace held = true) :
    throughDouble (flagOf now held.metadata) = if isOverdue 48 now held then 1 else 0 := by
  have same : isOverdue 48 now held = isOlder held.metadata .stale now := by
    rw [Bool.eq_iff_iff, isOverdue_iff, stale_eq_forHours]
    exact and_iff_right judged
  rw [flagOf, same]
  split <;> decide

section

variable {earlier : List Round} {round : Round} {name : String} {count : Nat}

theorem latestCount_skipped {failure : Failure}
    (asked : round.exchanges = [⟨.listNamespaces, .error failure⟩]) :
    LatestCount (earlier ++ [round]) name count ↔ LatestCount earlier name count := by
  have failed : round.Failed := ⟨failure, asked⟩
  have none : round.counts name = [] := by
    rw [Round.counts, asked]
    rfl
  simp [latestCount_concat, failed, none]

theorem latestCount_done {listing : List Namespace} {exchanges : List Exchange}
    (asked : round.exchanges = ⟨.listNamespaces, .ok listing⟩ :: exchanges) :
    LatestCount (earlier ++ [round]) name count ↔
      name ∈ (workspacesIn listing).map Prod.fst ∧
        ((exchanges.filterMap (podsFound? name)).getLast? = some count ∨
          exchanges.filterMap (podsFound? name) = [] ∧ LatestCount earlier name count) := by
  have counts : round.counts name = exchanges.filterMap (podsFound? name) := by
    rw [Round.counts, asked]
    rfl
  have unbroken : round.Failed ∨ round.Lists name ↔
      name ∈ (workspacesIn listing).map Prod.fst := by
    rw [mem_workspacesIn]
    constructor
    · rintro (⟨failure, failed⟩ | ⟨other, rest, listed, found⟩)
      · rw [asked] at failed
        cases failed
      · rw [asked] at listed
        cases listed
        exact found
    · intro found
      exact .inr ⟨listing, exchanges, asked, found⟩
  rw [latestCount_concat, unbroken, counts]

end

/-- What a monitor keeps holds after a scan, with the round of this scan. -/
theorem Abreast.kept {now : Instant} {before after : Monitor} {exchanges : List Exchange}
    {result : Except Failure Snapshot} {earlier : List Round} (abreast : Abreast earlier before)
    (scanned : Scanned now before exchanges result after) :
    Abreast (earlier ++ [⟨now, exchanges, result, after⟩]) after := by
  cases scanned with
  | skipped failure =>
      refine ⟨by simp [latest], abreast.podCounts, abreast.staleFlags, ?_⟩
      intro name value
      refine (abreast.counted name value).trans ?_
      exact exists_congr fun count => and_congr_left fun _ => Iff.symm (latestCount_skipped rfl)
  | @done listing exchanges snapshot figures after surveyed published _ podCounts staleFlags =>
      refine ⟨by simp [latest], ?_, ?_, ?_⟩
      · intro name absent
        rw [abreast.podCounts_done surveyed published (podCounts name), if_neg absent]
      · intro name absent
        rw [abreast.staleFlags_done surveyed published (staleFlags name),
          no_flags (published ▸ absent)]
        rfl
      · intro name value
        rw [abreast.podCounts_done surveyed published (podCounts name), published]
        refine Iff.trans ?_
          (exists_congr fun count => and_congr_left fun _ => Iff.symm (latestCount_done rfl))
        by_cases listed : name ∈ (workspacesIn listing).map Prod.fst
        · simp only [listed, if_true, true_and]
          cases last : (exchanges.filterMap (podsFound? name)).getLast? with
          | none =>
              rw [List.getLast?_eq_none_iff.1 last]
              simp [abreast.counted]
          | some count =>
              have found : exchanges.filterMap (podsFound? name) ≠ [] := by
                rintro none
                simp [none] at last
              simp [found]
        · simp [listed]

/-- What a monitor reports after a scan, when its counts are the latest ones then. -/
theorem Abreast.reported {now : Instant} {before after : Monitor} {exchanges : List Exchange}
    {result : Except Failure Snapshot} {earlier : List Round} (abreast : Abreast earlier before)
    (scanned : Scanned now before exchanges result after) :
    Reported earlier ⟨now, exchanges, result, after⟩ := by
  have kept := abreast.kept scanned
  cases scanned with
  | skipped failure => exact .skipped rfl rfl abreast.current.symm
  | @done listing exchanges snapshot figures after surveyed published namespaceCount podCounts
      staleFlags =>
      have total : snapshot.total = listing.countP isWorkspace := by
        rw [surveyed.total, ← length_workspacesIn]
        exact Nat.zero_add _
      refine .done rfl surveyed.asked rfl ⟨total, ?_, ?_, ?_, ?_, ?_, ?_⟩
      · rw [surveyed.stale, stale_workspacesIn, stale_eq_forHours, oldWorkspaces_forHours]
        rfl
      · rw [namespaceCount, total]
      · intro inRange
        rw [namespaceCount, total, signedWord_of_le inRange]
      · intro name
        rw [Gauges.staleFlag?, abreast.staleFlags_done surveyed published (staleFlags name),
          flags_workspacesIn, List.getLast?_map, Option.map_map]
        apply Option.map_congr
        intro held last
        have listed := List.mem_of_getLast? last
        have judged := (List.mem_filter.1 listed).2
        rw [Bool.and_eq_true] at judged
        exact throughDouble_flagOf now judged.1
      · intro name
        simp only [Gauges.podCount?, Option.isSome_map, Option.isSome_iff_exists, kept.counted]
        constructor
        · rintro ⟨value, count, latest, _⟩
          exact ⟨count, latest⟩
        · rintro ⟨count, latest⟩
          exact ⟨_, count, latest, rfl⟩
      · intro name count latest small
        have known := (kept.counted name _).2 ⟨count, latest, rfl⟩
        rw [Gauges.podCount?, known, Option.map_some, throughDouble_of_lt small]

section

variable {State : Type} (plane : Plane State)

theorem run_scan (now : Instant) (before : Monitor) (state : State) :
    ∃ result after exchanges finish,
      (recorded plane).run (scan now before) ⟨[], state⟩ =
          (.ok (result, after), ⟨exchanges, finish⟩) ∧
        Scanned now before exchanges result after := by
  have ensured : (scan now before).Ensures (recording fun _ _ => True) False
      (fun outcome history => ∃ exchanges, history = [] ++ exchanges ∧
        Scanned now before exchanges outcome.1 outcome.2) [] :=
    ensures_scan (fun _ => trivial) (fun _ _ => trivial) before []
  obtain ⟨outcome, exchanges, finish, ran, _, reached, faulted⟩ := run_recording ensured state
  cases outcome with
  | error fault => exact (faulted fault rfl).elim
  | ok outcome =>
      obtain ⟨result, after⟩ := outcome
      obtain ⟨asked, same, scanned⟩ := reached _ rfl
      cases List.append_cancel_left same
      exact ⟨result, after, exchanges, finish, ran, scanned⟩

theorem watch_reports (times : List Instant) {earlier : List Round} {before : Monitor}
    (abreast : Abreast earlier before) (state : State) :
    (watch plane times before state).1.map (·.now) = times ∧
      ∀ past round later, (watch plane times before state).1 = past ++ round :: later →
        Reported (earlier ++ past) round := by
  induction times generalizing earlier before state with
  | nil =>
      refine ⟨rfl, ?_⟩
      intro past round later split
      cases past <;> cases split
  | cons now rest induction =>
      obtain ⟨result, after, exchanges, finish, ran, scanned⟩ := run_scan plane now before state
      obtain ⟨times, reports⟩ := induction (abreast.kept scanned) finish
      simp only [watch, ran]
      refine ⟨by rw [List.map_cons, times], ?_⟩
      intro past round later split
      cases past with
      | nil =>
          cases split
          rw [List.append_nil]
          exact abreast.reported scanned
      | cons first past =>
          obtain ⟨same, continued⟩ := List.cons.inj split
          rw [← same]
          simpa using reports past round later continued

end

theorem contents_scan (now : Instant) (before : Monitor) (start : Recorded Store) :
    ((recorded Store.plane).run (scan now before) start).2.plane.contents =
      start.plane.contents := by
  have ensured : (scan now before).Ensures (recording fun _ => Asks) False
      (fun _ _ => True) [] := ensures_asks before []
  apply run_keeps (fun state : Recorded Store => state.plane.contents = start.plane.contents)
    ensured
  · intro history call state asks same
    exact (Store.contents_of_reading asks.reads).trans same
  · intro length state same
    exact same
  · rfl

/-- Scans change no object. -/
theorem contents_watch (times : List Instant) (before : Monitor) (store : Store) :
    (watch Store.plane times before store).2.contents = store.contents := by
  induction times generalizing before store with
  | nil => rfl
  | cons now rest induction =>
      obtain ⟨result, after, exchanges, finish, ran, _⟩ := run_scan Store.plane now before store
      have kept := contents_scan now before ⟨[], store⟩
      rw [ran] at kept
      simp only [watch, ran]
      exact (induction after finish).trans kept

/-- What a monitor reports that starts with nothing, for any answers that it gets
and any number of scans, none of which changes an object. -/
theorem monitor_reports {State : Type} (plane : Plane State) (start : State)
    (times : List Instant) :
    (watch plane times {} start).1.map (·.now) = times ∧
      (∀ earlier round later, (watch plane times {} start).1 = earlier ++ round :: later →
        Reported earlier round) ∧
      ∀ store, (watch Store.plane times {} store).2.contents = store.contents := by
  obtain ⟨happened, reports⟩ := watch_reports plane times abreast_start start
  exact ⟨happened, by simpa using reports, contents_watch times {}⟩

end Tenancy.Fleet
