import Adwf.Orchestrator.Exclusive
import Adwf.Orchestrator.JournalFiles
import Adwf.Orchestrator.Serialized
import Adwf.LeaseStore.Concurrent
import Adwf.Supervisor.LowTrust
import Adwf.Supervisor.Delivery
import Adwf.Supervisor.Wedged
import Adwf.RemoteSaga.Agreement
import Adwf.RuntimeLedger.CrashSafety
import Adwf.RuntimeLedger.Projection
import Adwf.ManagedSurface.AdoptionRecovery
import Adwf.ManagedSurface.DetachRecovery
import Adwf.Program.Interleaving
import Adwf.LeaseRegistry.MainDrift
import Adwf.NextAction.Law
import Adwf.Resume.Soundness
import Adwf.Trust.OrderFree
import Adwf.Trust.Globs
import Adwf.Trust.SwitchedOff
import Adwf.OrchNext.Atomic
import Adwf.Workspaces.Liveness
import Adwf.Incidents.Runs
import Adwf.ProviderRequests.Exactness
import Adwf.Contracts.Soundness
import Adwf.Healing.Confinement
import Adwf.Reconciliation.Consistency
import Adwf.Gate.Published
import Adwf.Orchestrator.Recovery
import Adwf.Policy.Monotone
import Adwf.Supervisor.WriteSurface
import Adwf.RemoteSaga.Recurrence
import Adwf.OrchNext.Creation
import Adwf.OrchNext.CreationLaw
import Adwf.RuntimeLedger.Restart
import Adwf.Controller.Evaluators
import Adwf.Controller.Justified
import Adwf.Cost.Amounts
import Adwf.Controller.ReviewOrder
import Adwf.Installation.Travel
import Adwf.Roadmap.CriticalPath
import Adwf.Governance.Effect
import Adwf.Controller.HumanApproval
import Adwf.Policy.TrustedContext
import Adwf.Skills.VendorIntake
import Adwf.OwnerDecisions.Latest
import Adwf.Provider.Truncation
import Adwf.Traceability.Revisions
import Adwf.Integrity.Generation
import Adwf.CreativeAdapters.Adapters
import Adwf.LeaseRegistry.Overlap
import Adwf.ProviderRequests.Ancestry
import Adwf.Trust.Boundary
import Adwf.LiveEvidence.Relation
import Adwf.ProjectExecution.Session
import Adwf.OwnerIntent.Backlog
import Adwf.Supervisor.Inbox
