import Tenancy.Http.Router
import Tenancy.Proofs.Access.BackgroundJobs
import Tenancy.Proofs.Access.OnlyMatch
import Tenancy.Proofs.Access.Privilege
import Tenancy.Proofs.Cluster.History
import Tenancy.Proofs.Concurrency.Interleaving
import Tenancy.Proofs.Fleet.Watch
import Tenancy.Proofs.Http.Front
import Tenancy.Proofs.Lifecycle.Isolation
import Tenancy.Proofs.Lifecycle.Mediation
import Tenancy.Proofs.Provisioning.Affordable
import Tenancy.Proofs.Provisioning.LostAnswers
import Tenancy.Proofs.Provisioning.Occupied
import Tenancy.Proofs.Upkeep.Sweep
import Tenancy.Rest.Client
import Tenancy.Settings.Config
import Tenancy.Upkeep.Jobs
import Tenancy.Upkeep.Loop
import Tenancy.Proofs.Text.Blank
import Tenancy.Proofs.Text.Numeral
import Tenancy.Proofs.Cluster.Pods
import Tenancy.Proofs.Upkeep.PodSweep
import Tenancy.Proofs.Settings.Reading
import Tenancy.Proofs.Upkeep.Young
import Tenancy.Proofs.Settings.Thresholds
import Tenancy.Proofs.Settings.CredentialSpace
import Tenancy.Proofs.Provisioning.Creations
import Tenancy.Proofs.Number.Whole
import Tenancy.Proofs.Retry.Law
import Tenancy.Proofs.Retry.Growth
import Tenancy.Proofs.Upkeep.Rounds
import Tenancy.Proofs.Upkeep.Period
import Tenancy.Proofs.Text.Rows
import Tenancy.Proofs.Time.Calendar
import Tenancy.Proofs.Time.Rfc3339
import Tenancy.Proofs.Json.Text
import Tenancy.Proofs.Workspace.Wire
import Tenancy.Proofs.Http.Target
