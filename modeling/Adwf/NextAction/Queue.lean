import Mathlib
import Adwf.Policy.Permission
import Adwf.Value.Json
import Adwf.Value.Ranked
import Adwf.Value.Text

/-!
# The queue and the facts of a decision

The records `authorize_next_action` reads, with absent members as `none`, and
the checks it makes of them before it looks at any branch.
-/

namespace Adwf.NextAction

open Ranked

/-- An item of `queue["issues"]`. -/
structure Issue where
  id : String
  type : Option String := none
  state : Option String := none
  priority : Option String := none
  roadmapOrder : Option Int := none
  criticalPathScore : Option Int := none
  risk : Option String := none
  readySince : Option String := none
  dependenciesResolved : Option Bool := none
  humanRequired : Option Bool := none
  autonomyAllowed : Option Bool := none
  conflictDomains : List String := []
  leaseId : Option String := none
  heartbeatAt : Option Timestamp := none
  expiresAt : Option Timestamp := none
  workspaceStatus : Option String := none
  workspaceId : Option String := none
  workerId : Option String := none
  number : Json := .null
  roadmapId : Option String := none
  goal : Option String := none
  title : Option String := none
  productImpact : Json := .null
  deriving DecidableEq

/-- An item of `queue["leases"]`. -/
structure Lease where
  leaseId : Option String := none
  status : Option String := none
  issueId : Option String := none
  conflictDomains : List String := []
  heartbeatAt : Option Timestamp := none
  expiresAt : Option Timestamp := none
  workspaceStatus : Option String := none
  workspaceId : Option String := none
  workerId : Option String := none
  deriving DecidableEq

structure Queue where
  issues : List Issue := []
  leases : List Lease := []
  deriving DecidableEq

/-! ## The order of issues -/

/-- `PRIORITY_RANK`. -/
def priorityRank : List (String × Nat) :=
  [("P0", 0), ("P1", 1), ("P2", 2), ("P3", 3)]

/-- `table.get(value, 99)`. -/
def rankOr99 (table : List (String × Nat)) (value : Option String) : Nat :=
  (value.bind fun name => table.lookup name).getD 99

/-- The tuples `_sort_key` builds, compared member by member. -/
abbrev SortKey :=
  Nat ×ₗ Nat ×ₗ Int ×ₗ Int ×ₗ Nat ×ₗ String ×ₗ String

/-- `_sort_key`. -/
def sortKey (issue : Issue) : SortKey :=
  toLex (if issue.type = some "recovery" then 0 else 1, toLex (rankOr99 priorityRank issue.priority,
      toLex (issue.roadmapOrder.getD 999999, toLex (-issue.criticalPathScore.getD 0,
          toLex (rankOr99 Policy.riskRank issue.risk,
            toLex (issue.readySince.getD "9999", issue.id))))))

/-! ## Leases -/

/-- `list(dict.fromkeys(items))`. -/
def unique (items : List String) : List String :=
  items.reverse.dedup.reverse

/-- `lease.get("status", "ACTIVE") == "ACTIVE"`. -/
def Lease.isDeclared (lease : Lease) : Bool :=
  lease.status.getD "ACTIVE" = "ACTIVE"

/-- `parse_time(str(lease[name]))`; a missing member raises like a bad text. -/
def instant (mem : Option Timestamp) : Option Int :=
  mem.bind Timestamp.parse

/-- `lease_active`. -/
def leaseActive (now : Int) (lease : Lease) : Bool :=
  match instant lease.expiresAt with
  | some expires => expires > now && lease.isDeclared
  | none => false

/-- `active_leases`. -/
def activeLeases (now : Int) (leases : List Lease) : List Lease :=
  leases.filter (leaseActive now)

/-- `conflict_domains`. -/
def conflictDomains (now : Int) (issue : Issue) (leases : List Lease) : List String :=
  sortedBy id ((activeLeases now leases).flatMap fun lease =>
    issue.conflictDomains.filter lease.conflictDomains.contains).dedup

/-- `DEFAULT_HEARTBEAT_TIMEOUT_MINUTES`. -/
def defaultHeartbeatTimeoutMinutes : Int :=
  45

/-- `lease_freshness_errors`. -/
def leaseFreshnessErrors (lease : Lease) (now timeoutMinutes : Int) : List String :=
  unique
    ((if lease.isDeclared then [] else ["LEASE_NOT_ACTIVE"]) ++
    (match instant lease.expiresAt with
      | some expires => if expires ≤ now then ["LEASE_EXPIRED"] else []
      | none => ["LEASE_EXPIRY_INVALID"]) ++
    (match instant lease.heartbeatAt with
      | some heartbeat =>
          if heartbeat > now then ["LEASE_HEARTBEAT_IN_FUTURE"]
          else if now - heartbeat > max 1 timeoutMinutes * minute then ["LEASE_HEARTBEAT_STALE"]
          else []
      | none => ["LEASE_HEARTBEAT_INVALID"]))

/-- `_effective_lease`. -/
def effectiveLease (lease : Lease) (issue : Issue) : Lease :=
  { lease with
    heartbeatAt := lease.heartbeatAt.or issue.heartbeatAt
    expiresAt := lease.expiresAt.or issue.expiresAt
    workspaceStatus := lease.workspaceStatus.or issue.workspaceStatus
    workspaceId := lease.workspaceId.or issue.workspaceId
    workerId := lease.workerId.or issue.workerId }

/-- `str(issue["id"]) == str(lease["issue_id"])`; a missing member prints as `None`. -/
def Lease.names (lease : Lease) (issue : Issue) : Bool :=
  issue.id = lease.issueId.getD "None"

/-- The leases of the queue declared ACTIVE. -/
def Queue.declared (queue : Queue) : List Lease :=
  queue.leases.filter Lease.isDeclared

/-- `ids` has an empty member or a repeated one. -/
def badIds (ids : List String) : Bool :=
  ids.any (· = "") || !decide ids.Nodup

/-- `_queue_contract_errors`. -/
def queueContractErrors (queue : Queue) : List String :=
  (if badIds (queue.issues.map Issue.id) then ["QUEUE_ISSUE_IDS_INVALID_OR_DUPLICATE"] else []) ++
  (if badIds (queue.leases.map fun lease => lease.leaseId.getD "") then
    ["QUEUE_LEASE_IDS_INVALID_OR_DUPLICATE"] else [])

/-! ## The policy context -/

/-- A policy context; `unknown` are the names `DecisionContext` does not have. -/
structure PolicyContext where
  action : Option String := none
  autonomy : Option String := none
  risk : Option String := none
  maxAutonomousRisk : Option String := none
  workType : Option String := none
  health : Option (List (String × String)) := none
  gates : Option (List (String × String)) := none
  requiredGates : Option (List String) := none
  exactSha : Option Bool := none
  evidenceFresh : Option Bool := none
  humanApproved : Option Bool := none
  destructive : Option Bool := none
  trustChange : Option Bool := none
  writerConflict : Option Bool := none
  providerAllowed : Option Bool := none
  providerPotentiallyPaid : Option Bool := none
  projectedCost : Option Rat := none
  expectedPolicyHash : Option String := none
  providerFactsFresh : Option Bool := none
  ownerAcceptanceExact : Option Bool := none
  unknown : List String := []
  deriving DecidableEq

/-- `DecisionContext.from_dict`. -/
def PolicyContext.toDecision (context : PolicyContext) : Except String Policy.DecisionContext :=
  if context.unknown ≠ [] then
    .error ("UNKNOWN_DECISION_CONTEXT_FIELDS:" ++
      ",".intercalate (sortedBy id context.unknown.dedup))
  else
    match context.action with
    | none => .error "missing 1 required positional argument: 'action'"
    | some action =>
        .ok
          { action
            autonomy := context.autonomy.getD "A1"
            risk := context.risk.getD "R0"
            maxAutonomousRisk := context.maxAutonomousRisk.getD "R1"
            workType := context.workType.getD "feature"
            health := context.health.getD []
            gates := context.gates.getD []
            requiredGates := context.requiredGates.getD []
            exactSha := context.exactSha.getD false
            evidenceFresh := context.evidenceFresh.getD false
            humanApproved := context.humanApproved.getD false
            destructive := context.destructive.getD false
            trustChange := context.trustChange.getD false
            writerConflict := context.writerConflict.getD false
            providerAllowed := context.providerAllowed.getD true
            providerPotentiallyPaid := context.providerPotentiallyPaid.getD false
            projectedCost := context.projectedCost.getD 0
            expectedPolicyHash := context.expectedPolicyHash
            providerFactsFresh := context.providerFactsFresh.getD true
            ownerAcceptanceExact := context.ownerAcceptanceExact.getD false }

/-- `health.get(name) in SAFE_HEALTH`. -/
def healthSafe (health : List (String × String)) (name : String) : Bool :=
  match health.lookup name with
  | some value => Policy.safeHealth.contains value
  | none => false

/-- `_common_safety_findings`. -/
def commonSafetyFindings (context : PolicyContext) (requireControl : Bool) : List String :=
  match context.health with
  | none => ["HEALTH_CONTEXT_INVALID"]
  | some health =>
      (["package_integrity", "config_health"].filter fun name => !healthSafe health name).map
        ("HEALTH_NOT_SAFE:" ++ ·) ++
      (if requireControl && !healthSafe health "control_plane_health" then
        ["HEALTH_NOT_SAFE:control_plane_health"] else []) ++
      (if context.providerAllowed = some true then [] else ["PROVIDER_NOT_ALLOWED"]) ++
      (if context.providerPotentiallyPaid = some false then []
        else ["PROVIDER_COST_CLASS_UNKNOWN_OR_PAID"]) ++
      (match context.projectedCost with
        | none => ["PROJECTED_COST_INVALID"]
        | some cost => if cost ≠ 0 then ["PROJECTED_COST_NOT_ZERO"] else []) ++
      (if context.writerConflict = some true then ["WRITER_CONFLICT"] else [])

end Adwf.NextAction

/-!
## The next action

`authorize_next_action` in the order of its branches: the contract of the
queue, the one declared lease, issues left without a lease, unfinished work,
and the first claimable issue.
-/

namespace Adwf.NextAction

open Policy Ranked

variable (issue : Issue) (context : PolicyContext)
variable (queue : Queue)

/-- `ACTIVE_ISSUE_STATES`. -/
def activeIssueStates : List String :=
  ["CLAIMED", "IN_PROGRESS", "REVIEW"]

/-- `LEASED_ISSUE_STATES`. -/
def leasedIssueStates : List String :=
  activeIssueStates ++ ["VERIFICATION", "RECOVERY"]

/-- `issue.get("state") in states`. -/
def Issue.isIn (states : List String) : Bool :=
  match issue.state with
  | some state => states.contains state
  | none => false

/-- `state == "RECOVERY" or issue.get("type") == "recovery"`. -/
def Issue.isRecovery : Bool :=
  issue.state = some "RECOVERY" || issue.type = some "recovery"

/-- What `_permission_for` is asked: the action, the work type and whether the
health of the control plane counts. -/
structure Asked where
  action : String
  workType : String
  requireControl : Bool
  deriving DecidableEq

/-- The context an action is asked in. -/
def PolicyContext.asking (issue : Issue) (action workType : String) :
    PolicyContext :=
  { context with
    action := some action, risk := some (issue.risk.getD "UNKNOWN"), workType := some workType }

/-- `evaluate_permission(DecisionContext.from_dict(context), policy_ir)`. -/
def permission (policyIR : Option PolicyIR) : Except String Decision :=
  context.toDecision.map fun facts => evaluatePermission facts policyIR

/-- `_permission_for`. -/
def permissionFor (issue : Issue) (asked : Asked)
    (policyIR : Option PolicyIR) : Verdict × List String :=
  match commonSafetyFindings context asked.requireControl with
  | finding :: findings => (.block, finding :: findings)
  | [] =>
    match permission (context.asking issue asked.action asked.workType) policyIR with
    | .error text => (.block, ["POLICY_CONTEXT_INVALID:" ++ text])
    | .ok decision => (decision.result, decision.reasonCodes)

/-- The work type of an issue: `issue.get("type", "feature")`. -/
def Issue.workType : String :=
  issue.type.getD "feature"

/-- An issue `choose_next` may pick. -/
def claimable (policyIR : Option PolicyIR) (clock : Int)
    (leases : List Lease) (issue : Issue) : Bool :=
  issue.state = some "READY" && issue.dependenciesResolved = some true &&
    issue.readySince.getD "" ≠ "" && issue.humanRequired = some false &&
    issue.autonomyAllowed = some true && (conflictDomains clock issue leases).isEmpty &&
    match permission (context.asking issue "claim" issue.workType) policyIR with
    | .ok decision => decision.result = .allow
    | .error _ => false

/-- `choose_next`; it reads the clock itself. -/
def chooseNext (context : PolicyContext) (policyIR : Option PolicyIR)
    (clock : Int) : Option Issue :=
  if queueContractErrors queue ≠ [] ∨ commonSafetyFindings context true ≠ [] then none
  else
    firstBy sortKey
      (queue.issues.filter (claimable context policyIR clock (activeLeases clock queue.leases)))

/-- The actions of the answers. -/
inductive Action where
  | blocked
  | reconcile
  | continueExisting
  | continueReviewOrRecovery
  | claimOneReady
  | roadmapCompleteOrEmpty
  deriving DecidableEq, Repr

/-- The actions that hand out work. -/
def Action.isWork : Action → Bool
  | .continueExisting | .continueReviewOrRecovery | .claimOneReady => true
  | .blocked | .reconcile | .roadmapCompleteOrEmpty => false

structure Outcome where
  result : Verdict
  action : Action
  reason : String
  reasonCodes : List String
  issue : Option Issue
  deriving DecidableEq

/-- `_outcome` with the result `BLOCK`, the reason being its own code. -/
def reconcile (reason : String) (issue : Option Issue) (reasonCodes : List String := [reason]) :
    Outcome where
  result := .block
  action := .reconcile
  reason := reason
  reasonCodes := unique reasonCodes
  issue := issue

/-- `_outcome` of a refused permission. -/
def blocked (reason : String) (issue : Option Issue) (result : Verdict)
    (reasonCodes : List String) : Outcome where
  result := result
  action := .blocked
  reason := reason
  reasonCodes := unique reasonCodes
  issue := issue

/-- `_outcome` of an authorised action. -/
def granted (action : Action) (reason : String) (issue : Option Issue) : Outcome where
  result := .allow
  action := action
  reason := reason
  reasonCodes := []
  issue := issue

/-- The answer for an issue once its permission is known. -/
def decideOn (verdict : Verdict × List String) (action : Action) (reason refusal : String)
    (issue : Issue) : Outcome :=
  if verdict.1 ≠ .allow then blocked refusal (some issue) verdict.1 verdict.2
  else granted action reason (some issue)

/-- What is asked for work under a lease. -/
def askedToContinue : Asked :=
  let verifying := issue.isIn ["REVIEW", "VERIFICATION"]
  { action := if verifying then "test" else "edit"
    workType :=
      if issue.isRecovery then "recovery" else if verifying then "verification" else issue.workType
    requireControl := !issue.isRecovery }

/-- What is asked for unfinished work without a lease. -/
def askedToFinish : Asked where
  action := if issue.isRecovery then "edit" else "inspect"
  workType := if issue.isRecovery then "recovery" else "verification"
  requireControl := !issue.isRecovery

/-- What is asked for a new claim. -/
def askedToClaim : Asked where
  action := "claim"
  workType := issue.workType
  requireControl := true

/-- `str(value or "")` of an optional text. -/
def orEmpty (value : Option String) : String :=
  value.getD ""

/-- The checks of the one declared lease against the issue it names. -/
def leaseConflict (lease : Lease) (issue : Issue) (now timeoutMinutes : Int) : Option Outcome :=
  let effective := effectiveLease lease issue
  if orEmpty issue.leaseId ≠ orEmpty lease.leaseId then
    some (reconcile "LEASE_IDENTITY_SPLIT_BRAIN" issue)
  else if Text.strip (orEmpty effective.workspaceId) = "" then
    some (reconcile "WORKSPACE_IDENTITY_NOT_VERIFIED" issue)
  else if orEmpty issue.workspaceId ≠ orEmpty effective.workspaceId then
    some (reconcile "WORKSPACE_IDENTITY_SPLIT_BRAIN" issue)
  else if leaseFreshnessErrors effective now timeoutMinutes ≠ [] then
    some (reconcile "EXPIRED_OR_INVALID_ACTIVE_LEASE" issue
      (leaseFreshnessErrors effective now timeoutMinutes))
  else if effective.workspaceStatus ≠ some "ACTIVE" then
    some (reconcile "WORKSPACE_NOT_ACTIVE" issue)
  else none

/-- The branch of one declared lease. -/
def continueLease (context : PolicyContext) (policyIR : Option PolicyIR)
    (now timeoutMinutes : Int) (lease : Lease) : Outcome :=
  match queue.issues.filter lease.names with
  | [issue] =>
      if !issue.isIn leasedIssueStates then reconcile "LEASE_STATE_SPLIT_BRAIN" none
      else
        match leaseConflict lease issue now timeoutMinutes with
        | some conflict => conflict
        | none =>
            decideOn (permissionFor context issue (askedToContinue issue) policyIR)
              .continueExisting "ONE_ACTIVE_WRITER" "EXISTING_WORK_NOT_AUTHORIZED" issue
  | _ => reconcile "LEASE_STATE_SPLIT_BRAIN" none

/-- The branch without unfinished work. -/
def claimNext (context : PolicyContext) (policyIR : Option PolicyIR)
    (clock : Int) : Outcome :=
  if commonSafetyFindings context true ≠ [] then
    blocked "SAFETY_PREFLIGHT_BLOCKED" none .block (commonSafetyFindings context true)
  else
    match chooseNext queue context policyIR clock with
    | some issue =>
        decideOn (permissionFor context issue (askedToClaim issue) policyIR)
          .claimOneReady "DETERMINISTIC_ROADMAP_ORDER" "CLAIM_NOT_AUTHORIZED" issue
    | none =>
        if queue.issues.any fun issue => issue.state = some "READY" then
          blocked "READY_ITEMS_NOT_CLAIMABLE" none .block ["READY_ITEMS_NOT_CLAIMABLE"]
        else granted .roadmapCompleteOrEmpty "NO_ACTIVE_OR_READY_ITEM" none

/-- The branch without a declared lease. -/
def withoutLease (context : PolicyContext) (policyIR : Option PolicyIR)
    (clock : Int) : Outcome :=
  match firstBy sortKey (queue.issues.filter fun issue => issue.isIn activeIssueStates) with
  | some issue => reconcile "ACTIVE_ISSUE_WITHOUT_LEASE" (some issue)
  | none =>
    match firstBy sortKey
        (queue.issues.filter fun issue => issue.isIn ["REVIEW", "VERIFICATION", "RECOVERY"]) with
    | some issue =>
        decideOn (permissionFor context issue (askedToFinish issue) policyIR)
          .continueReviewOrRecovery "UNFINISHED_HIGHER_PRIORITY_FLOW"
          "REVIEW_OR_RECOVERY_NOT_AUTHORIZED" issue
    | none => claimNext queue context policyIR clock

/-- `authorize_next_action` at `now`; `clock` is what `choose_next` reads. -/
def authorizeNextAction (context : PolicyContext) (policyIR : Option PolicyIR)
    (now clock : Int) (timeoutMinutes : Int := defaultHeartbeatTimeoutMinutes) : Outcome :=
  if queueContractErrors queue ≠ [] then
    blocked "QUEUE_CONTRACT_INVALID" none .block (queueContractErrors queue)
  else
    match queue.declared with
    | [] => withoutLease queue context policyIR clock
    | [lease] => continueLease queue context policyIR now timeoutMinutes lease
    | _ => reconcile "MULTIPLE_ACTIVE_WRITERS" none

end Adwf.NextAction
