import Mathlib
import Adwf.Value.Ranked
import Adwf.LeaseRegistry.Operations

/-!
# Resuming, acquiring or yielding

The projection of a durable run (`autonomous_execution_state`), the part of a
session checkpoint that is compared with it, and `decide_resume` over both and
the facts read from the provider.
-/

namespace Adwf.Resume

open Adwf.Fallible Ranked LeaseRegistry

/-! ## The execution state -/

/-- `EXECUTION_STATES`. -/
inductive ExecutionStatus where
  | running | waitingCi | suspended | humanRequired | recovery | complete
  deriving DecidableEq, Repr

def ExecutionStatus.name : ExecutionStatus → String
  | running => "RUNNING"
  | waitingCi => "WAITING_CI"
  | suspended => "SUSPENDED"
  | humanRequired => "HUMAN_REQUIRED"
  | recovery => "RECOVERY"
  | complete => "COMPLETE"

/-- `LEASE_STATES`. -/
inductive LeaseState where
  | active | suspended | released | expired | none
  deriving DecidableEq, Repr

def LeaseState.name : LeaseState → String
  | active => "ACTIVE"
  | suspended => "SUSPENDED"
  | released => "RELEASED"
  | expired => "EXPIRED"
  | none => "NONE"

/-- `BOUNDARY_TYPES`. -/
inductive Boundary where
  | none | waitingExternal | humanRequired | unavailableCapability | authorityExhausted
  | roadmapEnd | executorLimit
  deriving DecidableEq, Repr

def Boundary.name : Boundary → String
  | none => "NONE"
  | waitingExternal => "WAITING_EXTERNAL"
  | humanRequired => "HUMAN_REQUIRED"
  | unavailableCapability => "UNAVAILABLE_CAPABILITY"
  | authorityExhausted => "AUTHORITY_EXHAUSTED"
  | roadmapEnd => "ROADMAP_END"
  | executorLimit => "EXECUTOR_LIMIT"

/-- `provider_observation`. -/
structure Observation where
  mainSha : String
  headSha : Option String
  prNumber : Option Int
  branch : Option String
  deriving DecidableEq

/-- The projection of a run. -/
structure ExecutionState where
  repository : String
  roadmapId : String
  issueId : String
  leaseId : Option String
  leaseState : LeaseState
  conflictDomains : List String
  observation : Observation
  executionState : ExecutionStatus
  boundaryType : Boundary
  blockers : List String
  lastVerifiedTransition : String
  evidenceRefs : List String
  nextPermittedAction : String
  revision : Int
  integrityDigest : String
  deriving DecidableEq

def ofNumber : Option Int → Json
  | none => .null
  | some number => .num number

/-- The members `_integrity_payload` covers. -/
def ExecutionState.unsigned (state : ExecutionState) : Fields :=
  [("$schema", .str ".adwf/schemas/autonomous-execution-state.schema.json"),
    ("blockers", .arr (state.blockers.map .str)),
    ("boundary_type", .str state.boundaryType.name),
    ("conflict_domains", .arr (state.conflictDomains.map .str)),
    ("evidence_refs", .arr (state.evidenceRefs.map .str)),
    ("execution_state", .str state.executionState.name),
    ("last_verified_transition", .str state.lastVerifiedTransition),
    ("next_permitted_action", .str state.nextPermittedAction),
    ("project_identity", .obj [("repository", .str state.repository)]),
    ("provider_observation", .obj [("branch", Json.ofText state.observation.branch),
        ("head_sha", Json.ofText state.observation.headSha),
        ("main_sha", .str state.observation.mainSha),
        ("pr_number", ofNumber state.observation.prNumber)]),
    ("revision", .num state.revision),
    ("schema_version", .num 1),
    ("work_identity",
      .obj [("issue_id", .str state.issueId), ("roadmap_id", .str state.roadmapId)]),
    ("writer",
      .obj [("lease_id", Json.ofText state.leaseId), ("lease_state", .str state.leaseState.name)])]

/-- The whole object. -/
def ExecutionState.toJson (state : ExecutionState) : Json :=
  .obj (state.unsigned ++ [("integrity_digest", .str state.integrityDigest)])

/-- `FORBIDDEN_MARKERS`. -/
def forbiddenMarkers : List String :=
  ["chain-of-thought", "chain of thought", "private reasoning", "private_reasoning",
    "authorization: bearer", "api_key", "access_token", "refresh_token", "client_secret"]

/-- The built-ins of these modules: those on JSON values, and the lower-case
text of a dumped value. -/
structure Builtins extends Runtime where
  dumpLower : Json → String

/-- `_contains_forbidden`. -/
def containsForbidden (builtins : Builtins) (value : Json) : Bool :=
  forbiddenMarkers.any fun marker =>
    Text.hasInfix marker.toList (builtins.dumpLower value).toList

/-- The loop of `_normalize_domains` over the domains not yet seen. -/
def normalizeDomainsFrom (seen : List String) : List String → Except String (List String)
  | [] => return seen
  | domain :: rest => do
      require (Text.strip domain ≠ "" ∧ domain.length ≤ 240) "CONFLICT_DOMAIN_INVALID"
      require (Text.strip domain ∉ seen) "CONFLICT_DOMAIN_DUPLICATE"
      normalizeDomainsFrom (seen ++ [Text.strip domain]) rest

/-- `_normalize_domains`. -/
def normalizeDomains (domains : List String) : Except String (List String) := do
  require (domains ≠ []) "CONFLICT_DOMAINS_REQUIRED"
  let normalized ← normalizeDomainsFrom [] domains
  return sortedBy id normalized

/-- `_valid_sha` of a member that may be `None`. -/
def isOptionalSha : Option String → Bool
  | none => true
  | some sha => Text.isSha40 sha

/-- `validate_state`. -/
def validateState (builtins : Builtins) (state : ExecutionState) : List String :=
  (if state.repository.toList.contains '/' then [] else ["PROJECT_IDENTITY"]) ++
  (if state.roadmapId ≠ "" ∧ state.issueId ≠ "" then [] else ["WORK_IDENTITY"]) ++
  (match state.leaseState with
    | .none => if state.leaseId = none then [] else ["LEASE_NONE_WITH_ID"]
    | .active | .suspended =>
        if isUuid (state.leaseId.getD "") then [] else ["LEASE_ID"]
    | .released | .expired => []) ++
  (match normalizeDomains state.conflictDomains with
    | .ok normalized => if normalized = state.conflictDomains then [] else ["CONFLICT_DOMAIN_ORDER"]
    | .error code => [code]) ++
  (if Text.isSha40 state.observation.mainSha then [] else ["MAIN_SHA"]) ++
  (if isOptionalSha state.observation.headSha then [] else ["HEAD_SHA"]) ++
  (if state.observation.prNumber.any (· < 1) then ["PR_NUMBER"] else []) ++
  (if state.executionState = .running ∧ state.boundaryType ≠ .none then
    ["RUNNING_BOUNDARY_CONFLICT"] else []) ++
  (if state.executionState = .waitingCi ∧ state.boundaryType ≠ .waitingExternal then
    ["WAITING_CI_BOUNDARY"] else []) ++
  (if state.executionState = .humanRequired ∧ state.boundaryType ≠ .humanRequired then
    ["HUMAN_REQUIRED_BOUNDARY"] else []) ++
  (if state.executionState = .complete ∧
      state.nextPermittedAction ∉ ["RECONCILE_NEXT", "NONE"] then ["COMPLETE_NEXT_ACTION"] else []) ++
  (if state.blockers.all (·.length ≤ 240) then [] else ["BLOCKERS"]) ++
  (if state.evidenceRefs.all (·.length ≤ 500) then [] else ["EVIDENCE_REFS"]) ++
  (if state.lastVerifiedTransition = "" then ["LAST_VERIFIED_TRANSITION"] else []) ++
  (if state.nextPermittedAction = "" then ["NEXT_PERMITTED_ACTION"] else []) ++
  (if state.revision < 0 then ["REVISION"] else []) ++
  (if containsForbidden builtins state.toJson then ["FORBIDDEN_CONTENT"] else []) ++
  (if state.integrityDigest = builtins.digest (.obj state.unsigned) then [] else ["INTEGRITY_DIGEST"])

/-- The text of the `ValueError` for a rejected state. -/
def stateInvalid (findings : List String) : String :=
  "AUTONOMOUS_EXECUTION_STATE_INVALID:" ++ ",".intercalate findings

/-- `build_state` of everything but the digest and the order of the domains. -/
def buildState (builtins : Builtins) (draft : ExecutionState) : Except String ExecutionState := do
  let domains ← normalizeDomains draft.conflictDomains
  let state : ExecutionState := { draft with conflictDomains := domains }
  let signed := { state with integrityDigest := builtins.digest (.obj state.unsigned) }
  require (validateState builtins signed = []) (stateInvalid (validateState builtins signed))
  return signed

/-- `reconcile_provider_observation`: whether the observation is stale. -/
def reconcileProviderObservation (builtins : Builtins) (state : ExecutionState)
    (fresh : Observation) : Except String Bool := do
  require (validateState builtins state = []) (stateInvalid (validateState builtins state))
  return state.observation ≠ fresh

/-- A session checkpoint: the members that resuming reads, and the whole document. -/
structure Checkpoint where
  projectIdentity : String
  roadmapId : String
  issueId : Option String
  leaseIdentity : Option String
  observed : Observation
  boundaryType : String
  document : Json
  deriving DecidableEq

/-- `validate_checkpoint`. -/
abbrev CheckpointCheck := Checkpoint → List String

/-- The text of the `ValueError` for a rejected checkpoint. -/
def checkpointInvalid (findings : List String) : String :=
  "SESSION_CONTINUITY_INVALID:" ++ ",".intercalate findings

/-- `reconcile_checkpoint`: whether the checkpoint is stale. -/
def reconcileCheckpoint (validateCheckpoint : CheckpointCheck) (checkpoint : Checkpoint)
    (mainSha : String) (headSha : Option String) : Except String Bool := do
  require (validateCheckpoint checkpoint = []) (checkpointInvalid (validateCheckpoint checkpoint))
  require (Text.isSha40 mainSha = true) "SESSION_CONTINUITY_ACTUAL_MAIN_SHA_INVALID"
  require (isOptionalSha headSha = true) "SESSION_CONTINUITY_ACTUAL_HEAD_SHA_INVALID"
  return checkpoint.observed.mainSha ≠ mainSha ||
    (checkpoint.observed.headSha ≠ none && checkpoint.observed.headSha ≠ headSha)

/-! ## The decision -/

/-- The decisions other than `RESUME_EXISTING`. -/
inductive Held where
  | reconcile | acquireNew | yield | block
  deriving DecidableEq, Repr

/-- `DECISIONS`. -/
inductive Decision where
  | resumeExisting
  | held (decision : Held)
  deriving DecidableEq, Repr

structure Answer where
  decision : Decision
  reason : String
  leaseId : Option String := none
  findings : List String := []
  deriving DecidableEq

/-- How `decide_resume` ends early: with an answer that does not resume, or with
the text of an exception. -/
inductive Stop where
  | answer (decision : Held) (reason : String) (leaseId : Option String) (findings : List String)
  | raised (text : String)
  deriving DecidableEq

/-- The arguments of `decide_resume`. -/
structure Context where
  repository : String
  mainSha : String
  headSha : Option String
  prNumber : Option Int
  branch : String
  roadmapId : String
  issueId : String
  expectedBaseSha : String
  currentWorkerId : String
  policyMaxParallelWriters : Int
  leaseRegistry : Registry
  executionState : Option ExecutionState := none
  checkpoint : Option Checkpoint := none
  workTerminal : Bool := false
  nextWorkAuthorized : Bool := false
  externalStatus : Option String := none
  humanBoundaryActive : Bool := false
  sessionAcceleratorPresent : Bool := false
  now : Int

/-- `_valid_provider_facts`. -/
def validProviderFacts (context : Context) : List String :=
  (if isRepository context.repository then [] else ["PROVIDER_REPOSITORY_INVALID"]) ++
  (if Text.isSha40 context.mainSha then [] else ["PROVIDER_MAIN_SHA_INVALID"]) ++
  (if isOptionalSha context.headSha then [] else ["PROVIDER_HEAD_SHA_INVALID"]) ++
  (if context.prNumber.any (· < 1) then ["PROVIDER_PR_NUMBER_INVALID"] else []) ++
  (if Text.strip context.branch = "" then ["PROVIDER_BRANCH_INVALID"] else []) ++
  (if isRoadmapId context.roadmapId then [] else ["PROVIDER_ROADMAP_ID_INVALID"]) ++
  (if isIssueId context.issueId then [] else ["PROVIDER_ISSUE_ID_INVALID"]) ++
  (if Text.isSha40 context.expectedBaseSha then [] else ["PROVIDER_BASE_SHA_INVALID"]) ++
  (if Text.strip context.currentWorkerId = "" then ["PROVIDER_WORKER_ID_INVALID"] else [])

/-- What is observed now. -/
def Context.fresh (context : Context) : Observation where
  mainSha := context.mainSha
  headSha := context.headSha
  prNumber := context.prNumber
  branch := some context.branch

/-- Stop with an answer unless the condition holds. -/
def stopUnless (condition : Prop) [Decidable condition] (decision : Held) (reason : String)
    (leaseId : Option String := none) (findings : List String := []) : Except Stop Unit :=
  require condition (.answer decision reason leaseId findings)

/-- A computation that raises. -/
def attempt {α : Type} (result : Except String α) : Except Stop α :=
  result.mapError Stop.raised

/-- The members of the work identity in which a lease differs. -/
def identityMismatch (lease : Lease) (context : Context) : List String :=
  (if lease.roadmapId ≠ context.roadmapId then ["ROADMAP_ID"] else []) ++
  (if lease.issueId ≠ context.issueId then ["ISSUE_ID"] else []) ++
  (if lease.branch ≠ context.branch then ["BRANCH"] else []) ++
  (if lease.baseSha ≠ context.expectedBaseSha then ["BASE_SHA"] else [])

variable (builtins : Builtins) (validateCheckpoint : CheckpointCheck)

/-- The checks of `decide_resume` before it looks at a lease. -/
def checkFacts (context : Context) : Except Stop Unit := do
  stopUnless (validProviderFacts context = []) .block "PROVIDER_FACTS_INVALID" none
    (validProviderFacts context)
  stopUnless (context.policyMaxParallelWriters = 1) .block "STAGE1_REQUIRES_SINGLETON_WRITER_CEILING"
  let registryFindings := validateLeaseRegistry builtins.toRuntime context.leaseRegistry
  stopUnless (registryFindings = []) .block "LEASE_REGISTRY_INVALID" none registryFindings
  stopUnless (context.leaseRegistry.repository = context.repository) .block
    "LEASE_REGISTRY_REPOSITORY_MISMATCH"
  stopUnless (context.leaseRegistry.maxParallelWriters = context.policyMaxParallelWriters) .block
    "LEASE_REGISTRY_POLICY_CEILING_MISMATCH"
  let stateFindings := context.executionState.elim [] (validateState builtins)
  stopUnless (stateFindings = []) .block "EXECUTION_STATE_INVALID" none stateFindings
  let checkpointFindings := context.checkpoint.elim [] validateCheckpoint
  stopUnless (checkpointFindings = []) .block "SESSION_CHECKPOINT_INVALID" none checkpointFindings
  stopUnless ((activeLeases context.leaseRegistry.leases).length ≤ 1) .block
    "MULTIPLE_ACTIVE_LEASES_UNSUPPORTED_STAGE1"
  stopUnless (context.workTerminal = false) .reconcile "WORK_TERMINAL_RECONCILE_NEXT"

/-- The one ACTIVE lease, or the answer when there is none. -/
def soleLease (context : Context) : Except Stop Lease :=
  match activeLeases context.leaseRegistry.leases with
  | lease :: _ => .ok lease
  | [] => do
      stopUnless (context.executionState = none ∧ context.checkpoint = none) .reconcile
        "RESUME_CONTEXT_WITHOUT_ACTIVE_LEASE"
      stopUnless (context.nextWorkAuthorized = true) .block "NEXT_WORK_NOT_AUTHORIZED"
      .error (.answer .acquireNew "NO_ACTIVE_LEASE_AND_NEXT_WORK_AUTHORIZED" none [])

/-- The checks of the lease against the work. -/
def checkLease (context : Context) (lease : Lease) : Except Stop Unit := do
  stopUnless (context.leaseRegistry.observedMainSha = context.mainSha) .reconcile
    "ACTIVE_LEASE_REGISTRY_MAIN_STALE" lease.leaseId
  stopUnless (freshnessErrors lease context.now = []) .reconcile "ACTIVE_LEASE_STALE_OR_EXPIRED"
    lease.leaseId (freshnessErrors lease context.now)
  stopUnless (identityMismatch lease context = []) .block "LEASE_WORK_IDENTITY_MISMATCH"
    lease.leaseId (identityMismatch lease context)
  stopUnless (lease.workerId = context.currentWorkerId) .reconcile "LEASE_OWNER_HANDOFF_REQUIRED"
    lease.leaseId

/-- `execution_state`, or the answer when it is missing. -/
def requireState (context : Context) (lease : Lease) : Except Stop ExecutionState :=
  match context.executionState with
  | some state => .ok state
  | none => .error (.answer .reconcile "ACTIVE_LEASE_WITHOUT_EXECUTION_STATE" lease.leaseId [])

/-- The checks of the execution state against the lease and the provider. -/
def checkState (context : Context) (lease : Lease) (state : ExecutionState) :
    Except Stop Unit := do
  stopUnless (state.repository = context.repository) .block "EXECUTION_PROJECT_IDENTITY_MISMATCH"
    lease.leaseId
  stopUnless (state.roadmapId = context.roadmapId ∧ state.issueId = context.issueId) .block
    "EXECUTION_WORK_IDENTITY_MISMATCH" lease.leaseId
  stopUnless (state.leaseId = some lease.leaseId) .block "EXECUTION_LEASE_IDENTITY_MISMATCH"
    lease.leaseId
  stopUnless (state.leaseState = .active ∨ state.leaseState = .suspended) .reconcile
    "EXECUTION_LEASE_STATE_NOT_RESUMABLE" lease.leaseId
  let stale ← attempt (reconcileProviderObservation builtins state context.fresh)
  stopUnless (stale = false) .reconcile "EXECUTION_PROVIDER_OBSERVATION_STALE" lease.leaseId

/-- The checks of a checkpoint against the lease and the provider. -/
def checkCheckpoint (context : Context) (lease : Lease) (checkpoint : Checkpoint) :
    Except Stop Unit := do
  stopUnless (checkpoint.projectIdentity = context.repository) .block
    "CHECKPOINT_PROJECT_IDENTITY_MISMATCH" lease.leaseId
  stopUnless (checkpoint.roadmapId = context.roadmapId ∧
      checkpoint.issueId.getD "None" = context.issueId) .block
    "CHECKPOINT_WORK_IDENTITY_MISMATCH" lease.leaseId
  stopUnless (checkpoint.leaseIdentity = none ∨ checkpoint.leaseIdentity = some lease.leaseId) .block
    "CHECKPOINT_LEASE_IDENTITY_MISMATCH" lease.leaseId
  stopUnless (checkpoint.observed.prNumber = context.prNumber ∧
      checkpoint.observed.branch = some context.branch) .reconcile
    "CHECKPOINT_PROVIDER_OBSERVATION_STALE" lease.leaseId
  let stale ← attempt
    (reconcileCheckpoint validateCheckpoint checkpoint context.mainSha context.headSha)
  stopUnless (stale = false) .reconcile "CHECKPOINT_PROVIDER_OBSERVATION_STALE" lease.leaseId

/-- `_BLOCKING_BOUNDARIES`. -/
def Boundary.isBlocking : Boundary → Bool
  | unavailableCapability | authorityExhausted | roadmapEnd => true
  | none | waitingExternal | humanRequired | executorLimit => false

/-- `_PENDING_EXTERNAL`. -/
def pendingExternal : List String :=
  ["queued", "in_progress", "pending", "waiting", "requested"]

/-- The checks of what the state and the checkpoint wait for. -/
def checkBoundary (context : Context) (lease : Lease) (state : ExecutionState) :
    Except Stop Unit := do
  stopUnless (state.executionState ≠ .complete) .reconcile "EXECUTION_COMPLETE_RECONCILE_NEXT"
    lease.leaseId
  stopUnless (state.executionState ≠ .recovery) .reconcile "EXECUTION_RECOVERY_REQUIRED" lease.leaseId
  stopUnless (context.humanBoundaryActive = false ∧ state.executionState ≠ .humanRequired) .block
    "HUMAN_BOUNDARY_ACTIVE" lease.leaseId
  stopUnless (state.executionState = .suspended → state.boundaryType.isBlocking = false) .block
    "SUSPENDED_BOUNDARY_BLOCKS_RESUME" lease.leaseId [state.boundaryType.name]
  stopUnless (state.executionState = .suspended → state.boundaryType ≠ .none) .reconcile
    "SUSPENDED_BOUNDARY_AMBIGUOUS" lease.leaseId
  let waiting := state.executionState = .waitingCi ∨ state.boundaryType = .waitingExternal ∨
    context.checkpoint.any (·.boundaryType = "EXTERNAL_WAIT") = true
  stopUnless (waiting → context.externalStatus ≠ none) .reconcile "EXTERNAL_WAIT_STATUS_REQUIRED"
    lease.leaseId
  stopUnless (waiting →
      (Text.strip (context.externalStatus.getD "")).toLower ∉ pendingExternal) .yield
    "EXTERNAL_WAIT_IN_PROGRESS" lease.leaseId

/-- The checks of `decide_resume`: the lease id when all of them pass. -/
def resumeChecks (context : Context) : Except Stop String := do
  checkFacts builtins validateCheckpoint context
  let lease ← soleLease context
  checkLease context lease
  let state ← requireState context lease
  checkState builtins context lease state
  context.checkpoint.elim (.ok ()) (checkCheckpoint validateCheckpoint context lease)
  checkBoundary context lease state
  return lease.leaseId

/-- `decide_resume`. -/
def decideResume (context : Context) : Except String Answer :=
  match resumeChecks builtins validateCheckpoint context with
  | .ok leaseId =>
      .ok
        { decision := .resumeExisting, reason := "ACTIVE_LEASE_AND_PROVIDER_FACTS_MATCH"
          leaseId := some leaseId }
  | .error (.answer decision reason leaseId findings) =>
      .ok { decision := .held decision, reason, leaseId, findings := sortedBy id findings.dedup }
  | .error (.raised text) => .error text

end Adwf.Resume
