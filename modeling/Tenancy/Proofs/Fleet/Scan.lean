import Tenancy.Fleet.Monitor
import Tenancy.Proofs.Cluster.Answers
import Tenancy.Proofs.Fleet.Gauges
import Tenancy.Proofs.Guarantee
import Tenancy.Upkeep.Reaper

/-!
# A scan

What one scan makes of the answers that it gets: which pods it asks for, what
it reports, and which figures it leaves in the gauges of the monitor.
-/

namespace Tenancy.Fleet

open Cluster Number Upkeep Workspace

/-- The only questions of a scan. -/
def Asks (call : Call) : Prop := call = .listNamespaces ∨ ∃ name, call = .listPods name none

theorem Asks.reads {call : Call} (asks : Asks call) : call.reads = true := by
  rcases asks with rfl | ⟨name, rfl⟩ <;> rfl

/-- How many pods an exchange found in a workspace, if it is about its pods. -/
def podsFound? (name : String) : Exchange → Option Nat
  | ⟨.listPods space none, .ok pods⟩ => if space = name then some pods.length else none
  | _ => none

/-- The flag of a workspace for whether it is stale. -/
def flagOf (now : Instant) (metadata : Metadata) : Int :=
  if isOlder metadata .stale now then 1 else 0

def flagOf? (now : Instant) (name : String) (workspace : String × Metadata) : Option Int :=
  if workspace.1 = name then some (flagOf now workspace.2) else none

theorem name_of_isWorkspace {held : Namespace} (judged : isWorkspace held = true) :
    ∃ name, held.metadata.name = some name ∧ isName name = true := by
  simpa [isWorkspace, Option.any_eq_true] using judged

section

variable {held : Namespace} {listing rest : List Namespace} {name : String}

theorem workspacesIn_cons (judged : isWorkspace held = true)
    (named : held.metadata.name = some name) :
    workspacesIn (held :: rest) = (name, held.metadata) :: workspacesIn rest := by
  simp [workspacesIn, judged, named]

theorem workspacesIn_cons_of_not (judged : isWorkspace held = false) :
    workspacesIn (held :: rest) = workspacesIn rest := by
  simp [workspacesIn, judged]

theorem length_workspacesIn : (workspacesIn listing).length = listing.countP isWorkspace := by
  induction listing with
  | nil => rfl
  | cons held rest induction =>
      cases judged : isWorkspace held with
      | false => simp [workspacesIn_cons_of_not judged, judged, induction]
      | true =>
          obtain ⟨name, named, _⟩ := name_of_isWorkspace judged
          simp [workspacesIn_cons judged named, judged, induction]

theorem mem_workspacesIn : name ∈ (workspacesIn listing).map Prod.fst ↔
    ∃ held ∈ listing, isWorkspace held = true ∧ held.metadata.name = some name := by
  induction listing with
  | nil => simp [workspacesIn]
  | cons held rest induction =>
      cases judged : isWorkspace held with
      | false => simp [workspacesIn_cons_of_not judged, judged, induction]
      | true =>
          obtain ⟨other, named, _⟩ := name_of_isWorkspace judged
          simp [workspacesIn_cons judged named, judged, named, induction, @eq_comm _ name other]

theorem stale_workspacesIn (now : Instant) :
    ((workspacesIn listing).filter fun workspace => isOlder workspace.2 .stale now).map Prod.fst =
      oldWorkspaces .stale now listing := by
  induction listing with
  | nil => rfl
  | cons held rest induction =>
      unfold oldWorkspaces at induction ⊢
      cases judged : isWorkspace held with
      | false => simp [workspacesIn_cons_of_not judged, judged, induction]
      | true =>
          obtain ⟨name, named, _⟩ := name_of_isWorkspace judged
          cases old : isOlder held.metadata .stale now <;>
            simp [workspacesIn_cons judged named, judged, named, old, induction]

theorem flags_workspacesIn (now : Instant) (name : String) :
    (workspacesIn listing).filterMap (flagOf? now name) =
      (listing.filter fun held => isWorkspace held && held.metadata.isNamed name).map
        fun held => flagOf now held.metadata := by
  induction listing with
  | nil => rfl
  | cons held rest induction =>
      cases judged : isWorkspace held with
      | false => simp [workspacesIn_cons_of_not judged, judged, induction]
      | true =>
          obtain ⟨other, named, _⟩ := name_of_isWorkspace judged
          by_cases same : other = name <;>
            simp [workspacesIn_cons judged named, judged, named, same, flagOf?, Metadata.isNamed,
              induction]

end

/-- A figure found later takes the place of the ones found before. -/
theorem getLast?_filterMap_cons {Item Figure : Type} (figure? : Item → Option Figure)
    (first : Item) (rest : List Item) :
    ((first :: rest).filterMap figure?).getLast? =
      (rest.filterMap figure?).getLast?.or (figure? first) := by
  cases found : figure? first with
  | none => simp [found]
  | some figure =>
      cases last : (rest.filterMap figure?).getLast? <;>
        simp [found, List.getLast?_cons, last]

/-- What a survey of some workspaces makes of a snapshot and of gauges. -/
structure Surveyed (now : Instant) (workspaces : List (String × Metadata)) (before : Snapshot)
    (gauges : Gauges) (exchanges : List Exchange) (after : Snapshot) (figures : Gauges) :
    Prop where
  asked : exchanges.map Sigma.fst = workspaces.map fun workspace => .listPods workspace.1 none
  total : after.total = before.total + workspaces.length
  stale : after.stale = before.stale ++
    (workspaces.filter fun workspace => isOlder workspace.2 .stale now).map Prod.fst
  namespaceCount : figures.namespaceCount = gauges.namespaceCount
  podCounts : ∀ name, figures.podCounts.find? name =
    ((exchanges.filterMap (podsFound? name)).getLast?.map signedWord).or
      (gauges.podCounts.find? name)
  staleFlags : ∀ name, figures.staleFlags.find? name =
    (workspaces.filterMap (flagOf? now name)).getLast?.or (gauges.staleFlags.find? name)

section

variable {now : Instant} {name : String} {metadata : Metadata}

/-- A snapshot after one more workspace. -/
def Snapshot.judged (snapshot : Snapshot) (now : Instant) (name : String) (metadata : Metadata) :
    Snapshot :=
  ⟨snapshot.total + 1,
    if isOlder metadata .stale now then snapshot.stale ++ [name] else snapshot.stale⟩

/-- Gauges after one more workspace whose pods were asked for. -/
def Gauges.noted (gauges : Gauges) (now : Instant) (name : String) (metadata : Metadata)
    (answer : Except Failure (List Pod)) : Gauges :=
  match answer with
  | .ok pods => (gauges.setStale name (isOlder metadata .stale now)).setPodCount name pods.length
  | .error _ => gauges.setStale name (isOlder metadata .stale now)

theorem survey_cons (rest : List (String × Metadata)) (snapshot : Snapshot) (gauges : Gauges) :
    survey now ((name, metadata) :: rest) snapshot gauges =
      (call (.listPods name none)).bind fun answer =>
        survey now rest (snapshot.judged now name metadata)
          (gauges.noted now name metadata answer) := by
  rw [survey]
  congr 1
  funext answer
  cases answer <;> rfl

theorem podCounts_noted (gauges : Gauges) (answer : Except Failure (List Pod)) (other : String) :
    (gauges.noted now name metadata answer).podCounts.find? other =
      ((podsFound? other ⟨.listPods name none, answer⟩).map signedWord).or
        (gauges.podCounts.find? other) := by
  cases answer with
  | error failure => rfl
  | ok pods =>
      by_cases same : name = other
      · simp [Gauges.noted, Gauges.setPodCount, podsFound?, same]
      · simp [Gauges.noted, Gauges.setPodCount, Gauges.setStale, podsFound?, same, Ne.symm same]

theorem staleFlags_noted (gauges : Gauges) (answer : Except Failure (List Pod)) (other : String) :
    (gauges.noted now name metadata answer).staleFlags.find? other =
      (flagOf? now other (name, metadata)).or (gauges.staleFlags.find? other) := by
  have same : (gauges.noted now name metadata answer).staleFlags =
      (gauges.setStale name (isOlder metadata .stale now)).staleFlags := by
    cases answer <;> rfl
  rw [same]
  by_cases same : name = other
  · simp [Gauges.setStale, flagOf?, flagOf, same]
  · simp [Gauges.setStale, flagOf?, same, Ne.symm same]

theorem Surveyed.cons {rest : List (String × Metadata)} {snapshot after : Snapshot}
    {gauges figures : Gauges} {answer : Except Failure (List Pod)} {exchanges : List Exchange}
    (surveyed : Surveyed now rest (snapshot.judged now name metadata)
      (gauges.noted now name metadata answer) exchanges after figures) :
    Surveyed now ((name, metadata) :: rest) snapshot gauges
      (⟨.listPods name none, answer⟩ :: exchanges) after figures where
  asked := by simp [surveyed.asked]
  total := by
    simp only [surveyed.total, Snapshot.judged, List.length_cons]
    omega
  stale := by
    rw [surveyed.stale, Snapshot.judged, List.filter_cons]
    cases isOlder metadata .stale now <;> simp
  namespaceCount := by
    rw [surveyed.namespaceCount]
    cases answer <;> rfl
  podCounts := by
    intro other
    rw [surveyed.podCounts, podCounts_noted, getLast?_filterMap_cons]
    cases (exchanges.filterMap (podsFound? other)).getLast? <;> rfl
  staleFlags := by
    intro other
    rw [surveyed.staleFlags, staleFlags_noted, getLast?_filterMap_cons, Option.or_assoc]

theorem gone_iff {published names : List String} {name : String} :
    name ∈ published.filter (fun name => !names.contains name) ↔
      name ∈ published ∧ name ∉ names := by
  simp

end

/-- What comes of a scan, by the answers it gets. -/
inductive Scanned (now : Instant) (before : Monitor) :
    List Exchange → Except Failure Snapshot → Monitor → Prop where
  | skipped (failure : Failure) :
      Scanned now before [⟨.listNamespaces, .error failure⟩] (.error failure) before
  | done {listing : List Namespace} {exchanges : List Exchange} {snapshot : Snapshot}
      {figures : Gauges} {after : Monitor}
      (surveyed : Surveyed now (workspacesIn listing) {} before.gauges exchanges snapshot figures)
      (published : after.published = (workspacesIn listing).map Prod.fst)
      (namespaceCount : after.gauges.namespaceCount = signedWord snapshot.total)
      (podCounts : ∀ name, after.gauges.podCounts.find? name =
        if name ∈ before.published ∧ name ∉ after.published then none
        else figures.podCounts.find? name)
      (staleFlags : ∀ name, after.gauges.staleFlags.find? name =
        if name ∈ before.published ∧ name ∉ after.published then none
        else figures.staleFlags.find? name) :
      Scanned now before (⟨.listNamespaces, .ok listing⟩ :: exchanges) (.ok snapshot) after

section

variable {admits : List Exchange → Call → Prop} {mayFault : Prop} {now : Instant}

theorem ensures_survey (mayList : ∀ history name, admits history (.listPods name none))
    (workspaces : List (String × Metadata)) (snapshot : Snapshot) (gauges : Gauges)
    (past : List Exchange) :
    (survey now workspaces snapshot gauges).Ensures (recording admits) mayFault
      (fun result history => ∃ exchanges, history = past ++ exchanges ∧
        Surveyed now workspaces snapshot gauges exchanges result.1 result.2) past := by
  induction workspaces generalizing snapshot gauges past with
  | nil =>
      exact ⟨[], by simp, ⟨rfl, by simp, by simp, rfl, by simp, by simp⟩⟩
  | cons workspace rest induction =>
      obtain ⟨name, metadata⟩ := workspace
      rw [survey_cons]
      refine ⟨mayList past name, ?_⟩
      intro answer after same
      subst same
      refine (induction _ _ _).mono ?_
      intro result history reached
      obtain ⟨exchanges, rfl, surveyed⟩ := reached
      exact ⟨⟨.listPods name none, answer⟩ :: exchanges, by simp, surveyed.cons⟩

theorem ensures_scan (mayListAll : ∀ history, admits history .listNamespaces)
    (mayList : ∀ history name, admits history (.listPods name none)) (monitor : Monitor)
    (past : List Exchange) :
    (scan now monitor).Ensures (recording admits) mayFault
      (fun outcome history => ∃ exchanges, history = past ++ exchanges ∧
        Scanned now monitor exchanges outcome.1 outcome.2) past := by
  refine ⟨mayListAll past, ?_⟩
  intro answer after same
  subst same
  cases answer with
  | error failure => exact ⟨_, rfl, .skipped failure⟩
  | ok listing =>
      simp only [Program.bind]
      rw [Program.ensures_bind]
      refine (ensures_survey mayList _ _ _ _).mono ?_
      intro result history reached
      obtain ⟨exchanges, rfl, surveyed⟩ := reached
      refine ⟨⟨.listNamespaces, .ok listing⟩ :: exchanges, by simp, .done surveyed rfl ?_ ?_ ?_⟩
      · rw [namespaceCount_forget, namespaceCount_setNamespaceCount]
      · intro name
        rw [(find?_forget _ _ name).1, podCounts_setNamespaceCount]
        simp only [gone_iff]
      · intro name
        rw [(find?_forget _ _ name).2, staleFlags_setNamespaceCount]
        simp only [gone_iff]

theorem ensures_asks (monitor : Monitor) (past : List Exchange) :
    (scan now monitor).Ensures (recording fun _ => Asks) mayFault (fun _ _ => True) past := by
  refine Program.Ensures.mono (ensures_scan ?_ ?_ monitor past) ?_
  · intro history
    exact .inl rfl
  · intro history name
    exact .inr ⟨name, rfl⟩
  · intro outcome history _
    trivial

end

end Tenancy.Fleet
