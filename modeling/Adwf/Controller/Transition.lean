import Adwf.Controller.Provenance
import Adwf.RemoteSaga.Transition

/-!
# Markers and contracts

What `issue_contract` reads in the bodies of issues and pull requests, over its regular
expressions.
-/

namespace Adwf.Controller

open Trust (reasonIf)

/-- The groups of an `ISSUE_MARKER`. -/
structure Marker where
  roadmapId : String
  writerId : String
  leaseId : String
  workspaceId : String
  state : String
  heartbeatAt : String
  expiresAt : String
  deriving DecidableEq

/-- A contract without errors. -/
structure Contract where
  roadmapId : String
  issueNumber : Int
  writerLease : String
  risk : String
  deriving DecidableEq

/-- The fields of a contract with a regular expression each. -/
inductive ContractField where
  | roadmapId | issueNumber | writerLease | risk
  deriving DecidableEq, Repr

def ContractField.name : ContractField → String
  | .roadmapId => "roadmap_id"
  | .issueNumber => "issue_number"
  | .writerLease => "writer_lease"
  | .risk => "risk"

/-- The regular expressions: their matches, whether they match, and the text with the first
match replaced.  The number of an issue is digits. -/
structure Patterns where
  markers : String → List Marker
  isRoadmapId : String → Bool
  replaceMarker : String → String → Except String String
  count : String → String → Nat
  fields : ContractField → String → List String
  number : String → Int
  isPlaceholder : String → Bool
  isTicked : String → String → Bool
  driftsHigh : String → Bool

/-- The states a marker may have. -/
def markerStates : List String :=
  ["CLAIMED", "IN_PROGRESS", "REVIEW", "VERIFICATION", "RECOVERY", "DONE"]

/-- `REQUIRED_SECTIONS`. -/
def requiredSections : List String :=
  ["## Контракт", "## Что изменено и зачем", "## Scope", "## Проверки", "## Risk / rollback",
    "## Trust boundary"]

/-- The attestations of a pull request. -/
def requiredAttestations : List String :=
  ["Tests выполнены либо \x60N/A\x60 обоснован", "Documentation Impact проверен",
    "PR не ослабляет ADWF/CI/security/autonomy/permissions"]

section Reading

variable (patterns : Patterns)

/-- `parse_issue_marker`: the marker or the errors. -/
def parseIssueMarker (body : String) : Except (List String) Marker :=
  match patterns.markers body with
  | [marker] =>
      let errors := reasonIf (patterns.isRoadmapId marker.roadmapId = false)
          "ISSUE_MARKER_ROADMAP_ID_INVALID" ++
        reasonIf (marker.state ∉ markerStates) "ISSUE_MARKER_STATE_INVALID"
      if errors = [] then .ok { marker with leaseId := marker.leaseId.toLower } else .error errors
  | found => .error ["ISSUE_MARKER_COUNT:" ++ toString found.length]

/-- The marker as a text with another state. -/
def Marker.text (marker : Marker) (state : String) : String :=
  "<!-- ADWF-CONTRACT Roadmap-ID: " ++ marker.roadmapId ++ " Writer: " ++ marker.writerId ++
    " Writer-Lease: " ++ marker.leaseId ++ " Workspace: " ++ marker.workspaceId ++ " State: " ++
    state ++ " Heartbeat: " ++ marker.heartbeatAt ++ " Expires: " ++ marker.expiresAt ++ " -->"

/-- `replace_issue_marker_state`. -/
def replaceIssueMarkerState (body state : String) : Except String String :=
  match parseIssueMarker patterns body with
  | .error errors => .error ("ISSUE_MARKER_INVALID:" ++ ",".intercalate errors)
  | .ok marker => patterns.replaceMarker body (marker.text state)

/-- The errors of one field. -/
def fieldErrors (body : String) (field : ContractField) : List String :=
  let found := (patterns.fields field body).length
  reasonIf (found ≠ 1) ("FIELD_COUNT:" ++ field.name ++ ":" ++ toString found)

/-- The only match of a field. -/
def fieldValue (body : String) (field : ContractField) : String :=
  (patterns.fields field body).headD ""

/-- `parse_pr_contract`: the contract or the errors. -/
def parsePrContract (body : String) : Except (List String) Contract :=
  let errors :=
    (requiredSections.flatMap fun title =>
      reasonIf (patterns.count body title ≠ 1) ("SECTION_COUNT:" ++ title)) ++
    [.roadmapId, .issueNumber, .writerLease, .risk].flatMap (fieldErrors patterns body) ++
    reasonIf (patterns.isPlaceholder body = true) "ROADMAP_ID_PLACEHOLDER"
  if errors = [] then
    .ok {
      roadmapId := fieldValue patterns body .roadmapId
      issueNumber := patterns.number (fieldValue patterns body .issueNumber)
      writerLease := fieldValue patterns body .writerLease
      risk := fieldValue patterns body .risk }
  else .error errors

/-- `pr_attestations`: its errors. -/
def prAttestations (body : String) : List String :=
  (requiredAttestations.flatMap fun text =>
    reasonIf (patterns.isTicked body text = false) ("PR_ATTESTATION_MISSING:" ++ text)) ++
    reasonIf (patterns.driftsHigh body = true) "PR_SCOPE_DRIFT_HIGH"

end Reading

end Adwf.Controller

/-!
## The transitions of the controller

`main` of `orchestrate_event` establishes facts about a pull request and its issue, picks
a target and hands it to `set_label`, which plans the transition of the issue.
-/

namespace Adwf.Controller

open Fallible
open Trust (Classification TrustResult)
open RemoteSaga (Saga)

/-! ## The state machine -/

/-- A machine of states. -/
structure Machine where
  states : List String
  transitions : List (String × List String)
  preconditions : List (String × List String)

/-- `.adwf/state-machine.json`. -/
def stateMachine : Machine where
  states :=
    ["BACKLOG", "SPECIFIED", "READY", "CLAIMED", "IN_PROGRESS", "REVIEW", "VERIFICATION",
     "DONE", "BLOCKED", "HOLD", "HUMAN_REQUIRED", "RECOVERY", "CANCELLED"]
  transitions :=
    [("BACKLOG", ["SPECIFIED", "HOLD", "CANCELLED"]),
      ("SPECIFIED", ["READY", "BLOCKED", "HUMAN_REQUIRED", "HOLD", "CANCELLED"]),
      ("READY", ["CLAIMED", "BLOCKED", "HOLD", "HUMAN_REQUIRED", "CANCELLED"]),
      ("CLAIMED", ["IN_PROGRESS", "READY", "BLOCKED", "RECOVERY"]),
      ("IN_PROGRESS", ["REVIEW", "BLOCKED", "HUMAN_REQUIRED", "RECOVERY"]),
      ("REVIEW", ["IN_PROGRESS", "VERIFICATION", "BLOCKED", "RECOVERY"]),
      ("VERIFICATION", ["DONE", "IN_PROGRESS", "BLOCKED", "RECOVERY"]),
      ("DONE", ["SPECIFIED"]),
      ("BLOCKED", ["SPECIFIED", "READY", "HUMAN_REQUIRED", "HOLD", "CANCELLED", "RECOVERY"]),
      ("HOLD", ["BACKLOG", "SPECIFIED", "READY", "CANCELLED"]),
      ("HUMAN_REQUIRED", ["SPECIFIED", "READY", "BLOCKED", "HOLD", "CANCELLED"]),
      ("RECOVERY", ["IN_PROGRESS", "REVIEW", "VERIFICATION", "DONE", "BLOCKED"]),
      ("CANCELLED", [])]
  preconditions :=
    [("SPECIFIED->READY", ["spec_valid", "dependencies_resolved", "risk_classified",
        "conflict_domain_known", "acceptance_present", "product_health_allows",
        "not_human_required"]),
      ("READY->CLAIMED", ["one_roadmap_id_one_issue", "lease_absent", "no_other_active_writer",
        "conflict_domain_free", "permission_allows", "issue_fresh"]),
      ("CLAIMED->IN_PROGRESS", ["lease_active", "lease_owner_exact", "branch_exact"]),
      ("IN_PROGRESS->REVIEW", ["scope_gate_pass", "tests_executed_or_na", "docs_impact_assessed",
        "lease_active"]),
      ("REVIEW->VERIFICATION", ["review_pass_exact_sha", "ci_pass_exact_sha", "evidence_fresh"]),
      ("VERIFICATION->DONE", ["acceptance_pass", "runtime_evidence_if_required",
        "product_health_allows", "roadmap_issue_pr_one_to_one", "evidence_fresh"]),
      ("RECOVERY->DONE", ["root_cause_recorded", "regression_test_pass",
        "runtime_evidence_if_required"])]

structure TransitionDecision where
  isAllowed : Bool
  fromState : String
  toState : String
  reasonCodes : List String
  missingPreconditions : List String := []
  deriving DecidableEq

/-- `evaluate_transition`; `predicates` are the names that are true. -/
def evaluateTransition (current toState : String) (machine : Machine) (predicates : List String)
    (expectedState : Option String) : TransitionDecision :=
  let blocked := fun code => ⟨false, current, toState, [code], []⟩
  if current ∉ machine.states ∨ toState ∉ machine.states then blocked "UNKNOWN_STATE"
  else if expectedState.any fun expected => current ≠ expected then
    blocked "EXPECTED_STATE_MISMATCH"
  else if toState ∉ (machine.transitions.lookup current).getD [] then
    blocked "TRANSITION_NOT_ALLOWED"
  else
    let required := (machine.preconditions.lookup (current ++ "->" ++ toState)).getD []
    let missing := required.filter fun name => name ∉ predicates
    if missing = [] then ⟨true, current, toState, [], []⟩
    else ⟨false, current, toState, ["PRECONDITION_NOT_TRUE"], missing⟩

/-! ## What is read -/

/-- The event of the workflow. -/
structure WorkflowEvent where
  conclusion : Option String := none
  headSha : Option String := none
  pullRequests : List Int := []

structure PullRequest where
  headSha : Option String := none
  mergeCommitSha : Option String := none
  state : Option String := none
  merged : Bool := false
  draft : Option Bool := none
  author : Option String := none
  body : Option String := none

structure Issue where
  number : Option Int := none
  updatedAt : Json := .null
  body : Option String := none
  labels : List String := []

/-- What `.adwf/config.json` sets, with the defaults of the code. -/
structure Settings where
  trustedReviewerLogins : List String := []
  reviewTtlHours : Int := 168
  requiredCheckNames : List String := ["fast-feedback"]
  trustedCheckAppSlugs : List String := ["github-actions"]
  checkTtlHours : Int := 24
  stallTimeoutMinutes : Int := 45

/-- The times at which the lease, the checks and the reviews are judged. -/
structure Moments where
  lease : Int
  checks : Int
  trustReview : Int
  review : Int

/-- A run of the controller: its arguments, its files and the answers of the provider.  A value
that is not a list is `none`. -/
structure Inputs where
  event : WorkflowEvent
  apply : Bool
  repo : String
  hasToken : Bool
  pull : Except String PullRequest
  classification : Except String Classification
  issue : Except String Issue
  checks : Except String (Option (List Check))
  reviews : Except String (Option (List Review))
  settings : Settings
  policyHash : Except String String
  moments : Moments

/-- The parts of the code that other modules bring. -/
structure Surroundings where
  patterns : Patterns
  clockwork : Clockwork
  rt : Runtime
  sha256 : String → String

/-! ## `set_label` -/

/-- `TARGET_STATE`. -/
def targetState : List (String × String) :=
  [("roadmap:review", "REVIEW"), ("roadmap:verification", "VERIFICATION"),
    ("recovery:active", "RECOVERY")]

/-- The labels of `ROADMAP_LABELS` on an issue. -/
def roadmapLabels (issue : Issue) : List String :=
  issue.labels.filter (· ∈ RemoteSaga.machineLabelNames)

/-- The labels a transition may start from. -/
def sourceLabels : List String :=
  ["roadmap:in-progress", "roadmap:review", "roadmap:verification", "recovery:active"]

/-- The labels a transition to the target may start from. -/
def sourcesOf : List (String × List String) :=
  [("roadmap:review", ["roadmap:in-progress", "roadmap:review"]),
    ("roadmap:verification", ["roadmap:in-progress", "roadmap:review", "roadmap:verification"]),
    ("recovery:active", ["roadmap:in-progress", "roadmap:review", "recovery:active"])]

/-- `str(issue.get("body") or "")`. -/
def Issue.text (issue : Issue) : String :=
  issue.body.getD ""

section SetLabel

variable (env : Surroundings)

/-- The arguments of `make_transition_plan`. -/
def planRequest (inputs : Inputs) (issue : Issue) (marker : Marker) (label target toState : String)
    (desiredBody policyHash : String) : RemoteSaga.PlanRequest where
  repo := inputs.repo
  issueNumber := issue.number
  issueUpdatedAt := issue.updatedAt
  issue := ⟨issue.text, issue.labels.toFinset⟩
  leaseId := marker.leaseId
  fromLabel := label
  targetLabel := target
  fromState := marker.state
  toState := toState
  desiredBody := desiredBody
  policyHash := policyHash

/-- The plan that `set_label` hands to `run_transition`. -/
def planTransition (inputs : Inputs) (issue : Issue) (marker : Marker)
    (label target toState : String) : Except String Saga := do
  let desiredBody ← replaceIssueMarkerState env.patterns issue.text toState
  let policyHash ← inputs.policyHash
  RemoteSaga.makeTransitionPlan env.rt env.sha256
    (planRequest inputs issue marker label target toState desiredBody policyHash)

/-- The transition from the label to another one. -/
def changeLabel (inputs : Inputs) (issue : Issue) (marker : Marker)
    (label target toState : String) (predicates : List String) :
    Except String (Option Saga) := do
  let transition := evaluateTransition marker.state toState stateMachine predicates
    (some marker.state)
  require (transition.isAllowed = true) ("STATE_ENGINE_BLOCK:" ++
    ",".intercalate (transition.reasonCodes ++ transition.missingPreconditions))
  if inputs.apply = false then return none
  else some <$> planTransition env inputs issue marker label target toState

/-- `set_label` up to `run_transition`: the transition it applies, if any. -/
def setLabel (inputs : Inputs) (issue : Issue) (target : String) (predicates : List String) :
    Except String (Option Saga) :=
  match roadmapLabels issue with
  | [label] => do
      require (label ∈ sourceLabels) ("ISSUE_STATE_NOT_SAFE:" ++ label)
      require (label ∈ (sourcesOf.lookup target).getD []) "TRANSITION_NOT_ALLOWED"
      match parseIssueMarker env.patterns issue.text with
      | .error errors => .error ("ISSUE_MARKER_INVALID:" ++ ",".intercalate errors)
      | .ok marker =>
          match targetState.lookup target with
          | none => .error "TARGET_STATE_UNKNOWN"
          | some toState =>
              if label = target then do
                require (marker.state = toState) "LABEL_MARKER_SPLIT_BRAIN"
                return none
              else changeLabel env inputs issue marker label target toState predicates
  | labels => .error ("ISSUE_STATE_NOT_SAFE:" ++ ",".intercalate labels)

end SetLabel

/-! ## `main` -/

/-- `workflow_sha_valid`. -/
def workflowShaValid (pr : PullRequest) (runSha : Option String) : Bool :=
  let head := pr.headSha.getD ""
  let run := runSha.getD ""
  if pr.state ≠ some "closed" then head ≠ "" ∧ run = head
  else run ≠ "" ∧ (run = head ∨ run = pr.mergeCommitSha.getD "")

/-- `_exact_sha` of the head. -/
def exactHead (pr : PullRequest) : Except String String := do
  let sha := (pr.headSha.getD "").toLower
  require (Text.isSha40 sha = true) "PR_HEAD_SHA_INVALID"
  return sha

/-- `result.get("human_required")` is true. -/
def humanRequired (classification : Classification) : Bool :=
  (classification.details.map (·.humanRequired)).getD false

/-- What is known once the checks before the first mutation have passed. -/
structure Facts where
  pr : PullRequest
  head : String
  classification : Classification
  contract : Contract
  issue : Issue
  marker : Marker

section Main

variable (env : Surroundings) (inputs : Inputs)

/-- `lease_times_valid`. -/
def leaseTimesValid (marker : Marker) : Bool :=
  match env.clockwork.parseTime marker.heartbeatAt, env.clockwork.parseTime marker.expiresAt with
  | some heartbeat, some expires =>
      heartbeat ≤ inputs.moments.lease ∧ inputs.moments.lease < expires ∧
        inputs.moments.lease - heartbeat ≤ inputs.settings.stallTimeoutMinutes * 60 * 1000000
  | _, _ => false

/-- The errors of the reviews of the head. -/
def reviewErrors (facts : Facts) (reviews : List Review) (now : Int) : List String :=
  validateReviewProvenance env.clockwork reviews facts.head (facts.pr.author.getD "")
    inputs.settings.trustedReviewerLogins now inputs.settings.reviewTtlHours

/-- The checks of the head have valid provenance; a hundred or more are inconclusive. -/
def checksValid (facts : Facts) (checks : Option (List Check)) : Bool :=
  match checks with
  | none => false
  | some checks =>
      checks.length < 100 ∧
        validateCheckProvenance env.clockwork checks facts.head
          inputs.settings.requiredCheckNames inputs.settings.trustedCheckAppSlugs
          inputs.moments.checks inputs.settings.checkTtlHours = []

/-- The reviews of the head are valid, those beyond the first page being unread. -/
def reviewValid (facts : Facts) (reviews : Option (List Review)) : Bool :=
  let conclusive :=
    match reviews with
    | some reviews => if reviews.length < 100 then reviews else []
    | none => []
  reviewErrors env inputs facts conclusive inputs.moments.review = []

/-- The run concerns one pull request whose checks succeeded. -/
def begin : Except String (Option PullRequest) :=
  if inputs.event.conclusion ≠ some "success" then return none
  else do
    require (inputs.repo ≠ "" ∧ (inputs.apply = true → inputs.hasToken = true))
      "GITHUB_REPOSITORY/GITHUB_TOKEN missing"
    require (inputs.event.pullRequests.length = 1)
      "Expected exactly one pull request in workflow_run"
    let pr ← inputs.pull
    require (workflowShaValid pr inputs.event.headSha = true) "STALE_WORKFLOW_SHA"
    return some pr

/-- The classification of the diff, the contract and the issue of a pull request. -/
def gather (pr : PullRequest) : Except String Facts := do
  let head ← exactHead pr
  let classification ← inputs.classification
  require (classification.result ≠ .block)
    ("TRUST_DIFF_BLOCKED:" ++ ",".intercalate classification.reasonCodes)
  match parsePrContract env.patterns (pr.body.getD "") with
  | .error errors => .error ("INVALID_PR_CONTRACT:" ++ ",".intercalate errors)
  | .ok contract => do
      let issue ← inputs.issue
      match parseIssueMarker env.patterns issue.text with
      | .error errors => .error ("ISSUE_LEASE_MARKER_INVALID:" ++ ",".intercalate errors)
      | .ok marker => do
          require (marker.roadmapId = contract.roadmapId ∧
            marker.leaseId = contract.writerLease.toLower) "ISSUE_PR_CONTRACT_MISMATCH"
          require (marker.state ∈ ["IN_PROGRESS", "REVIEW"]) "ISSUE_MARKER_STATE_NOT_ACTIVE"
          return { pr, head, classification, contract, issue, marker }

/-- A diff that needs a human has a trusted review of the head. -/
def humanAllows (facts : Facts) : Except String Bool :=
  if humanRequired facts.classification = false then return true
  else do
    require (facts.contract.risk = "R4" ∧ Text.startsWith facts.contract.roadmapId "GOV-")
      "TRUST_CHANGE_REQUIRES_R4_GOV"
    let reviews ← inputs.reviews
    match reviews with
    | none => .error "TRUST_REVIEW_SET_INCONCLUSIVE"
    | some reviews => do
        require (reviews.length < 100) "TRUST_REVIEW_SET_INCONCLUSIVE"
        return reviewErrors env inputs facts reviews inputs.moments.trustReview = []

/-- A target label with the predicates that are true. -/
structure Target where
  label : String
  predicates : List String := []

/-- The target of an issue whose pull request cannot go on. -/
def recovery : Target :=
  ⟨"recovery:active", []⟩

/-- The target of a merged pull request with valid checks. -/
def mergedTarget (facts : Facts) (reviews : Option (List Review)) : Target :=
  if reviewValid env inputs facts reviews = false ∨ facts.marker.state ≠ "REVIEW" then
    recovery
  else ⟨"roadmap:verification", ["review_pass_exact_sha", "ci_pass_exact_sha", "evidence_fresh"]⟩

/-- The target once the checks have been read. -/
def checkedTarget (facts : Facts) (checks : Option (List Check)) : Except String (Option Target) :=
  if checksValid env inputs facts checks = false then return some recovery
  else if facts.pr.merged = true then do
    let reviews ← inputs.reviews
    return some (mergedTarget env inputs facts reviews)
  else do
    let errors := prAttestations env.patterns (facts.pr.body.getD "")
    require (errors = []) ("PR_ATTESTATIONS_INVALID:" ++ ",".intercalate errors)
    return some ⟨"roadmap:review",
      ["scope_gate_pass", "tests_executed_or_na", "docs_impact_assessed", "lease_active"]⟩

/-- The target that `main` picks. -/
def pickTarget (facts : Facts) : Except String (Option Target) :=
  if leaseTimesValid env inputs facts.marker = false then return some recovery
  else if facts.pr.state = some "closed" ∧ facts.pr.merged = false then return some recovery
  else if facts.pr.draft.getD true = true ∧ facts.pr.merged = false then return none
  else do
    let checks ← inputs.checks
    checkedTarget env inputs facts checks

/-- `main`: the transition it applies, if any. -/
def main : Except String (Option Saga) := do
  let begun ← begin inputs
  match begun with
  | none => return none
  | some pr => do
      let facts ← gather env inputs pr
      let allowed ← humanAllows env inputs facts
      if allowed = false then return none
      else do
        let picked ← pickTarget env inputs facts
        match picked with
        | none => return none
        | some target =>
            setLabel env inputs facts.issue target.label target.predicates

end Main

end Adwf.Controller
