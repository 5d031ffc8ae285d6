import Tenancy.Proofs.Access.Grants
import Tenancy.Proofs.Lifecycle.Isolation
import Tenancy.Proofs.Upkeep.Reaping

/-!
# The gate beside background jobs

Scans and reaper passes leave the credentials of a namespace alone, and what the
gate decides by them, unless they delete the namespace itself.  A reaper does
that to any namespace inside the naming convention that is old enough, also to
the one in which the service keeps its credentials.
-/

namespace Tenancy.Access

open Cluster Lifecycle Upkeep Workspace

theorem objectsIn_without_self (contents : Contents) (space : String) :
    objectsIn (contents.without space) space = {} := by
  apply Contents.ext <;> simp [objectsIn, Contents.without]

/-- Deleted namespaces have lost all that was in them, and no other one has. -/
theorem objectsIn_foldl_without (names : List String) (contents : Contents) (space : String) :
    objectsIn (names.foldl Contents.without contents) space =
      if space ∈ names then {} else objectsIn contents space := by
  induction names generalizing contents with
  | nil => simp
  | cons name rest induction =>
      rw [List.foldl_cons, induction]
      by_cases same : space = name
      · subst same
        simp [objectsIn_without_self]
      · simp [same, objectsIn_without same]

theorem run_authorize_congr {space : String} {first second : Store}
    (secrets : (objectsIn first.contents space).secrets = (objectsIn second.contents space).secrets)
    (failures : first.pendingFailures .listSecrets = second.pendingFailures .listSecrets)
    (presented : Option String) :
    (Store.plane.run (authorize space presented) first).1 =
      (Store.plane.run (authorize space presented) second).1 := by
  have read : readSecrets first space = readSecrets second space := by
    have listed : first.contents.secrets.filter (fun held => held.metadata.isIn space) =
        second.contents.secrets.filter fun held => held.metadata.isIn space := secrets
    rw [readSecrets, readSecrets, failures, listed]
  rw [run_authorize, run_authorize, read]

/-- After any passes of background jobs, a namespace that they did not delete is as
it was, for the gate as well.  One that they deleted is empty and lets nobody
in; it was inside the naming convention, and too old for one of the passes. -/
theorem background_jobs_and_the_gate (store : Store) (passes : List Pass) (space : String) :
    let progress := upkeep store passes
    (space ∉ progress.deleted →
        objectsIn progress.store.contents space = objectsIn store.contents space ∧
          ∀ presented, (Store.plane.run (authorize space presented) progress.store).1 =
            (Store.plane.run (authorize space presented) store).1) ∧
      (space ∈ progress.deleted →
        objectsIn progress.store.contents space = {} ∧
          (∀ presented owner, ¬Grants space progress.store presented owner) ∧
          Outlived passes store.contents space) := by
  intro progress
  have kept := kept_upkeep store passes
  have objects : objectsIn progress.store.contents space =
      if space ∈ progress.deleted then {} else objectsIn store.contents space := by
    rw [kept.contents, objectsIn_foldl_without]
  constructor
  · intro spared
    rw [if_neg spared] at objects
    exact ⟨objects, run_authorize_congr (congrArg Contents.secrets objects) kept.failures⟩
  · intro deleted
    rw [if_pos deleted] at objects
    refine ⟨objects, ?_, kept.outlived space deleted⟩
    intro presented owner granted
    let service : Service := ⟨space, .standard⟩
    have granted : Grants service.credentialSpace progress.store presented owner := granted
    have resolved := (grants_iff.1 granted).2
    rw [ownerOf?_of_no_secrets (congrArg Contents.secrets objects)] at resolved
    cases resolved

/-- A reaper takes the credentials away that the service keeps in a namespace
inside the naming convention. -/
theorem reaper_takes_credentials :
    let alice : Secret :=
      { metadata :=
          { name := some "alice"
            space := some "zombie-ns-system"
            annotations := some (.singleton roleAnnotation userRole) }
        data := some (.singleton tokenKey "T1".toUTF8) }
    let store : Store :=
      { namespaces :=
          [{ metadata := { name := some "zombie-ns-system", created := some .epoch } }]
        secrets := [alice]
        stampOf := fun _ => default }
    let nextDay : Instant := ⟨86400, 0, by decide, by decide, by decide⟩
    let after := (upkeep store [.reap 1 nextDay]).store
    Grants "zombie-ns-system" store (some "T1") "alice" ∧
      (objectsIn after.contents "zombie-ns-system").secrets = [] ∧
        (Store.plane.run (authorize "zombie-ns-system" (some "T1")) after).1 =
          .ok (.ok .denied) := by
  intro alice store nextDay after
  exact ⟨rfl, rfl, rfl⟩

end Tenancy.Access
