import Tenancy.Proofs.Access.Grants
import Tenancy.Proofs.Cluster.Effect
import Tenancy.Proofs.Cluster.Unreliable
import Tenancy.Proofs.Concurrency.Conduct

/-!
# No new owners

Nothing that the service does makes anybody an owner.  The secrets it creates
give no role, wherever they end up, and a deletion takes all the credentials of
a namespace together.  So whoever is let in after any activities, however they
fail, would have been let in before them.
-/

namespace Tenancy.Access

open Cluster Concurrency Lifecycle

/-- No secret that the call creates gives a role. -/
def GivesNoRole : Call → Prop
  | .createSecret _ secret => secret.metadata.annotation? roleAnnotation = none
  | _ => True

/-- No credential has come in, and those of a namespace are all there or all gone. -/
structure Unescalated (space : String) (before after : Contents) : Prop where
  known : ∀ held ∈ after.secrets, (Credential.ofSecret held).isEligible = true →
    held ∈ before.secrets
  allOrNone : credentialsIn space after = credentialsIn space before ∨
    credentialsIn space after = []

section

variable {space : String} {before after later : Contents}

theorem Unescalated.of_secrets (same : after.secrets = before.secrets) :
    Unescalated space before after where
  known held member _ := same ▸ member
  allOrNone := .inl (by rw [credentialsIn, credentialsIn, same])

theorem Unescalated.trans (first : Unescalated space before after)
    (second : Unescalated space after later) : Unescalated space before later where
  known held member eligible := first.known held (second.known held member eligible) eligible
  allOrNone := by
    rcases second.allOrNone with same | none
    · rw [same]
      exact first.allOrNone
    · exact .inr none

theorem not_eligible_of_no_role {secret : Secret}
    (roleless : secret.metadata.annotation? roleAnnotation = none) :
    (Credential.ofSecret secret).isEligible = false := by
  simp [Credential.isEligible, Credential.ofSecret, roleless]

theorem unescalated_grown {added : Secret}
    (idle : (Credential.ofSecret added).isEligible = false) :
    Unescalated space before (before ++ { secrets := [added] }) where
  known := by
    intro held member eligible
    rcases List.mem_append.1 member with old | new
    · exact old
    · rw [List.mem_singleton.1 new, idle] at eligible
      cases eligible
  allOrNone := by
    refine .inl ?_
    simp [credentialsIn, idle]

/-- The credentials of a namespace go with it, and with no other one. -/
theorem unescalated_without (removed : String) :
    Unescalated space before (before.without removed) where
  known held member _ := (List.mem_filter.1 member).1
  allOrNone := by
    by_cases same : space = removed
    · refine .inr (List.filter_eq_nil_iff.2 ?_)
      intro held member
      have outside := (List.mem_filter.1 member).2
      simp_all
    · refine .inl ?_
      simp only [credentialsIn, Contents.without, List.filter_filter]
      apply List.filter_congr
      intro held _
      cases inside : held.metadata.isIn space with
      | false => simp
      | true => simp [isIn_of_isIn (Ne.symm same) inside]

theorem unescalated_of_effect {call : Call} {version number : Nat}
    (harmless : GivesNoRole call) (effect : Effect before version call after number) :
    Unescalated space before after := by
  cases effect with
  | unchanged => exact .of_secrets rfl
  | madeNamespace named free current => exact .of_secrets (List.append_nil _)
  | @madeSecret place secret held placed =>
      have same : held.metadata.annotation? roleAnnotation =
          secret.metadata.annotation? roleAnnotation := by
        simp only [Metadata.annotation?, placed.annotations]
      exact unescalated_grown (not_eligible_of_no_role (same.trans harmless))
  | madeAccount placed => exact .of_secrets (List.append_nil _)
  | madeBinding placed => exact .of_secrets (List.append_nil _)
  | deletedNamespace => exact unescalated_without _
  | deletedPod => exact .of_secrets rfl

theorem Unescalated.resolved {service : Service} {presented : Option String} {owner : String}
    (unescalated : Unescalated service.credentialSpace before after)
    (resolved : ownerOf? service presented after = some owner) :
    ownerOf? service presented before = some owner := by
  rcases unescalated.allOrNone with same | bare
  · rw [← ownerOf?_of_same same]
    exact resolved
  · rw [ownerOf?_of_bare bare] at resolved
    cases resolved

end

/-- What the service may be doing, and what may happen to the cluster meanwhile. -/
inductive Activity where
  /-- The next calls of a kind are to fail. -/
  | failNext (operation : Operation) (times : Nat)
  /-- The coming calls meet with what a script says. -/
  | interfere (script : Script)
  | work (task : Task)
  | provision (plan : Provisioning.Plan) (name owner : String) (draws : Provisioning.Draws)
  | reapPods (rule : Upkeep.PodRule) (now : Instant)

/-- What an activity leaves behind, whether or not it comes to its end. -/
def Activity.perform (service : Service) (state : Scripted Store) : Activity → Scripted Store
  | .failNext operation times => { state with plane := state.plane.failNext operation times }
  | .interfere script => { state with script }
  | .work task => ((scripted Store.plane).run (task.program service) state).2
  | .provision plan name owner draws =>
      ((scripted Store.plane).run (Provisioning.run plan name owner draws) state).2
  | .reapPods rule now => ((scripted Store.plane).run (Upkeep.reapPods rule now) state).2

/-- The store after activities that happened one after the other. -/
def happen (service : Service) (store : Store) (activities : List Activity) : Store :=
  (activities.foldl (Activity.perform service) ⟨.empty, store⟩).plane

theorem givesNoRole_of_mayAsk {name owner : String} {history : List Exchange} {call : Call}
    (asks : Provisioning.MayAsk name owner history call) : GivesNoRole call := by
  cases call with
  | createSecret space secret =>
      obtain ⟨_, rfl, _⟩ := asks
      rfl
  | _ => trivial

theorem givesNoRole_of_taskMayAsk {service : Service} {task : Task} {history : List Exchange}
    {call : Call} (asks : TaskMayAsk service task history call) : GivesNoRole call := by
  cases task with
  | request credential asked =>
      rcases asks with rfl | ⟨owner, _, asks⟩
      · trivial
      · cases asked with
        | create name => exact givesNoRole_of_mayAsk asks
        | get name => cases asks; trivial
        | list => cases asks; trivial
        | delete name => rcases asks with rfl | ⟨rfl, _⟩ <;> trivial
  | scan now monitor => rcases asks with rfl | ⟨name, rfl⟩ <;> trivial
  | reap hours now => rcases asks with rfl | ⟨name, rfl⟩ <;> trivial

theorem ensures_reapPods {rule : Upkeep.PodRule} {now : Instant} (history : List Exchange) :
    (Upkeep.reapPods rule now).Ensures (recording fun _ => GivesNoRole) False
      (fun _ _ => True) history := by
  refine ⟨trivial, ?_⟩
  intro answer after answered
  cases answer with
  | error cause => trivial
  | ok listing =>
      simp only [Program.bind]
      rw [Program.ensures_bind]
      refine (Upkeep.ensures_deleteAll (fun _ => True) ?_ trivial).mono ?_
      · intro name _ history _
        exact ⟨trivial, fun _ _ _ => trivial⟩
      · intro deleted finish _
        trivial

section

variable {service : Service} {space : String} {before : Contents} {state : Scripted Store}

/-- A run that creates no secret with a role escalates nothing. -/
theorem unescalated_run {Value : Type} {admits : List Exchange → Call → Prop}
    {mayFault : Prop} {goal : Value → List Exchange → Prop} {program : Calls Value}
    {past : List Exchange} (ensured : program.Ensures (recording admits) mayFault goal past)
    (harmless : ∀ history call, admits history call → GivesNoRole call)
    (unescalated : Unescalated space before state.plane.contents) :
    Unescalated space before ((scripted Store.plane).run program state).2.plane.contents := by
  apply run_keeps (fun state : Scripted Store => Unescalated space before state.plane.contents)
    ensured
  · intro history call state admitted holds
    rcases scripted_reaches Store.plane call state with same | answered
    · rw [same]
      exact holds
    · rw [answered]
      exact holds.trans
        (unescalated_of_effect (harmless history call admitted)
          (Store.effect_of_answer call state.plane))
  · intro length state holds
    exact holds
  · exact unescalated

/-- No activity escalates anything. -/
theorem unescalated_perform (activity : Activity)
    (unescalated : Unescalated space before state.plane.contents) :
    Unescalated space before (activity.perform service state).plane.contents := by
  cases activity with
  | failNext operation times => exact unescalated
  | interfere script => exact unescalated
  | work task =>
      exact unescalated_run (conforms_start service task)
        (fun _ _ => givesNoRole_of_taskMayAsk) unescalated
  | provision plan name owner draws =>
      exact unescalated_run (Provisioning.ensures_run Provisioning.uncreated_nil)
        (fun _ _ => givesNoRole_of_mayAsk) unescalated
  | reapPods rule now =>
      exact unescalated_run (ensures_reapPods []) (fun _ _ => id) unescalated

theorem unescalated_happen (store : Store) (activities : List Activity) :
    Unescalated space store.contents (happen service store activities).contents := by
  have along : ∀ state : Scripted Store, Unescalated space store.contents state.plane.contents →
      Unescalated space store.contents
        (activities.foldl (Activity.perform service) state).plane.contents := by
    induction activities with
    | nil => exact fun _ => id
    | cons activity rest induction =>
        intro state holds
        exact induction _ (unescalated_perform activity holds)
  exact along _ (.of_secrets rfl)

end

/-- Whoever is let in after any activities would have been let in before them, had
nothing kept the gate from reading the credentials.  No credential comes in, and
a token that several of them accept never becomes good. -/
theorem no_escalation (service : Service) (store : Store) (activities : List Activity) :
    let space := service.credentialSpace
    let after := happen service store activities
    (∀ presented owner, Grants space after presented owner →
        Grants space { store with pendingFailures := fun _ => 0 } presented owner) ∧
      (∀ held ∈ after.secrets, (Credential.ofSecret held).isEligible = true →
        held ∈ store.secrets) ∧
      ∀ token, 2 ≤ (accepted token (credentialsIn space store.contents)).length →
        ∀ owner, ¬Grants space after (some token) owner := by
  intro space after
  have unescalated : Unescalated space store.contents after.contents :=
    unescalated_happen store activities
  have resolved : ∀ presented owner, Grants space after presented owner →
      ownerOf? service presented store.contents = some owner :=
    fun presented owner granted => unescalated.resolved (grants_iff.1 granted).2
  refine ⟨?_, unescalated.known, ?_⟩
  · intro presented owner granted
    exact grants_iff.2 ⟨rfl, resolved presented owner granted⟩
  · intro token several owner granted
    have known := resolved (some token) owner granted
    by_cases empty : token = ""
    · rw [ownerOf?, if_pos empty] at known
      cases known
    · rw [ownerOf?_eq empty] at known
      split at known
      next only => simp [space, only] at several
      next => cases known

end Tenancy.Access
