import Adwf.JsonText.Value
import Adwf.Value.Ranked
import Adwf.Value.Text

/-!
# The facts a reconciliation reads

The answers of the provider, the records that are parsed out of them, and the
snapshot that is rebuilt.
-/

namespace Adwf.Reconciliation

open JsonText

/-- The states that `STATE_LABELS` names, and `DONE` for closed issues. -/
inductive ItemState where
  | ready | inProgress | review | verification | blocked | hold | specified | recovery | done
  deriving DecidableEq

def ItemState.name : ItemState → String
  | .ready => "READY"
  | .inProgress => "IN_PROGRESS"
  | .review => "REVIEW"
  | .verification => "VERIFICATION"
  | .blocked => "BLOCKED"
  | .hold => "HOLD"
  | .specified => "SPECIFIED"
  | .recovery => "RECOVERY"
  | .done => "DONE"

/-- `STATE_LABELS`. -/
def stateLabels : List (String × ItemState) :=
  [("roadmap:ready", .ready), ("roadmap:in-progress", .inProgress), ("roadmap:review", .review),
    ("roadmap:verification", .verification), ("roadmap:blocked", .blocked),
    ("roadmap:hold", .hold), ("roadmap:needs-spec", .specified),
    ("roadmap:needs-split", .specified), ("roadmap:stale", .specified),
    ("recovery:active", .recovery)]

/-- `OCCUPYING`. -/
def occupying : List String :=
  ["ACTIVE", "STALLED", "RETRY_WAIT", "RETRY_READY", "RECOVERY"]

/-! ## What the provider answers -/

structure Issue where
  number : Int
  title : String := ""
  body : String := ""
  state : String := "open"
  labels : List String := []
  updatedAt : Option String := none
  deriving DecidableEq

structure Pull where
  number : Int
  body : String := ""
  headRef : Option String := none
  headSha : Option String := none
  deriving DecidableEq

structure Run where
  id : Int
  runStartedAt : Option String := none
  startedAt : Option String := none
  updatedAt : Option String := none
  createdAt : Option String := none
  conclusion : Option String := none
  runAttempt : Int := 1
  deriving DecidableEq

/-- The answer of the cost guard. -/
structure Cost where
  result : Option String := none
  classification : Option String := none
  reasonCodes : List String := []
  provider : Option String := none
  usage : Members := []

/-- A record of the workspace registry. -/
structure RuntimeWorkspace where
  status : String
  workspaceId : Option String := none
  workerId : Option String := none
  leaseId : Option String := none
  heartbeatAt : Option String := none
  expiresAt : Option String := none
  retryCount : Int := 0
  nextRetryAt : Option String := none
  deriving DecidableEq

/-- The settings of `config` that are read, with their defaults. -/
structure Config where
  providerMode : Option String := none
  maxAutonomousRisk : String := "R1"
  stallTimeoutMinutes : Int := 45
  reconcileTtlMinutes : Int := 60
  projectEnabled : Bool := false

/-! ## What is parsed out of the answers -/

/-- The answer of `parse_issue_marker`. -/
structure Marker where
  valid : Bool := false
  roadmapId : Option String := none
  writerId : Option String := none
  leaseId : Option String := none
  workspaceId : Option String := none
  state : Option String := none
  heartbeatAt : Option String := none
  expiresAt : Option String := none
  deriving DecidableEq

/-- The item that `parse_issue_form` returns. -/
structure Form where
  roadmapId : String
  title : String
  priority : String
  risk : String
  type : String
  goal : String
  acceptanceCriteria : List String := []
  verificationPlan : List String := []
  conflictDomains : List String := []
  dependencies : List String := []
  dependenciesResolved : Bool
  humanRequired : Bool
  autonomyAllowed : Bool
  productImpact : Bool
  roadmapOrder : Int
  deriving DecidableEq

/-- The answer of `issue_quality`. -/
structure Quality where
  status : String
  findings : List String := []
  deriving DecidableEq

/-- The answer of `parse_pr_contract`. -/
structure PullContract where
  valid : Bool := false
  issueNumber : Option Int := none
  roadmapId : Option String := none
  writerLease : Option String := none
  deriving DecidableEq

/-- The answer of `validate_roadmap_graph`. -/
structure GraphReport where
  status : String
  errors : List String := []
  deriving DecidableEq

structure WorkItem where
  roadmapId : String
  number : Int
  title : String
  state : ItemState
  priority : String
  risk : String
  type : String
  goal : String
  conflictDomains : List String
  dependencies : List String
  dependenciesResolved : Bool
  humanRequired : Bool
  autonomyAllowed : Bool
  productImpact : Bool
  roadmapOrder : Int
  criticalPathScore : Nat
  readySince : Option String
  writerId : Option String
  leaseId : Option String
  workspaceId : Option String
  heartbeatAt : Option String
  expiresAt : Option String
  updatedAt : Option String
  deriving DecidableEq

/-! ## The snapshot -/

inductive MainHealth where
  | pass | fail
  deriving DecidableEq

inductive MergeTrain where
  | idle | blocked
  deriving DecidableEq

inductive AdwfHealth where
  | verified | broken
  deriving DecidableEq

inductive RoadmapHealth where
  | healthy | critical | notVerified
  deriving DecidableEq

inductive Status where
  | active | recovery
  deriving DecidableEq

/-- `output["queue"]`. -/
structure QueueCounts where
  ready : Nat
  inProgress : Nat
  review : Nat
  blocked : Nat
  humanRequired : Nat
  deriving DecidableEq

/-- `output["active"]`. -/
structure Active where
  roadmapId : Option String := none
  issue : Option Int := none
  pr : Option Int := none
  branch : Option String := none
  writer : Option String := none
  leaseId : Option String := none
  state : Option ItemState := none
  deriving DecidableEq

/-- `output["workspace"]`. -/
structure Workspace where
  status : String := "NOT_CONFIGURED"
  workspaceId : Option String := none
  heartbeatAt : Option String := none
  expiresAt : Option String := none
  retryCount : Int := 0
  nextRetryAt : Option String := none
  deriving DecidableEq

/-- `output["orchestration"]`. -/
structure Orchestration where
  writersActive : Nat
  reviewersActive : Nat
  leasesActive : Nat
  conflicts : Nat
  mergeTrain : MergeTrain
  deriving DecidableEq

/-- `output["snapshot"]`. -/
structure Provenance where
  observedAt : String
  validUntil : String
  sourceMainSha : String
  evidenceDigest : String
  deriving DecidableEq

/-- What `_digest` is taken of. -/
structure EvidenceSource where
  provider : String
  mainSha : String
  issues : List WorkItem
  pulls : List (Int × Option String)
  runIds : List Int
  deriving DecidableEq

/-- The project state, as far as a reconciliation reads or writes it. -/
structure Snapshot where
  providerMode : String
  mainHead : String
  mainHealth : MainHealth
  queue : QueueCounts
  workItems : List WorkItem
  active : Active
  workspace : Workspace
  orchestration : Orchestration
  ciMetrics : Value
  costUsage : Members
  projection : String
  provenance : Provenance
  adwfHealth : AdwfHealth
  roadmapHealth : RoadmapHealth
  productHealth : Option String
  status : Status
  blockers : List String
  ownerDecisions : List String
  lastReconciledAt : Option String
  lastVerifiedAt : Option String
  progress : Value

/-- The parsers and computations of other modules, and the clock's texts. -/
structure Tools where
  parseIssueForm : String → Int → String → ItemState → String → Form × List String
  issueQuality : Form → Quality
  parseIssueMarker : String → Marker
  parsePullContract : String → PullContract
  parseTime : String → Option Int
  lower : String → String
  validateRoadmapGraph : List WorkItem → GraphReport
  criticalPathScores : List WorkItem → List String → List (String × Nat)
  normalizedRuns : List Run → String → Value
  deriveVerifiedProgress : List WorkItem → Snapshot → Int → Value
  iso : Int → String
  digest : EvidenceSource → String

/-- The arguments of `reconcile_snapshot`. -/
structure Inputs where
  previous : Snapshot
  config : Config
  provider : String
  mainSha : String
  issues : List Issue
  pulls : List Pull
  runs : List Run
  cost : Cost
  workspaces : List RuntimeWorkspace
  now : Int

end Adwf.Reconciliation
