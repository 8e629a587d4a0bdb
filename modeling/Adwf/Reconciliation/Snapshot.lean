import Adwf.Reconciliation.Facts

/-!
# Building the snapshot

`reconcile_snapshot` in the order of its checks.  Each of them appends to one
list of errors, and the members of the snapshot are derived from what that
list holds at the time.
-/

namespace Adwf.Reconciliation

open JsonText

/-- `if error: errors.append(text)`. -/
def errorIf (condition : Bool) (text : String) : List String :=
  if condition then [text] else []

/-- A member that is neither missing nor empty. -/
def present (mem : Option String) : Bool :=
  mem.getD "" ≠ ""

/-- `str(member)`, a missing member being `None`. -/
def textOf (mem : Option String) : String :=
  mem.getD "None"

/-- `left or right`. -/
def orElse (left right : Option String) : Option String :=
  if present left then left else right

/-- What has been collected so far. -/
structure Ledger where
  errors : List String := []
  workItems : List WorkItem := []
  deferredDone : List (Issue × Marker) := []

/-- `errors.extend(more)`. -/
def Ledger.extend (ledger : Ledger) (more : List String) : Ledger :=
  { ledger with errors := ledger.errors ++ more }

/-- `errors.append(error)`. -/
def Ledger.fail (ledger : Ledger) (error : String) : Ledger :=
  ledger.extend [error]

/-- `work_items.append(item)`; `roadmap_seen` counts the items by their id. -/
def Ledger.append (ledger : Ledger) (item : WorkItem) : Ledger :=
  { ledger with workItems := ledger.workItems ++ [item] }

/-! ## Issues -/

section Issues

variable (tools : Tools) (config : Config) (now : Int)

/-- The states in which an issue must not be one to split. -/
def ItemState.isSized (state : ItemState) : Bool :=
  state = .ready || state = .inProgress || state = .review || state = .verification

/-- The states whose issues carry a marker. -/
def ItemState.isMarked (state : ItemState) : Bool :=
  state = .inProgress || state = .review || state = .verification || state = .recovery ||
    state = .done

/-- The states whose issues hold a lease. -/
def ItemState.isLeased (state : ItemState) : Bool :=
  state = .inProgress || state = .review

/-- The heartbeat and the expiry of a lease against the clock, in microseconds. -/
def leaseErrors (issue : Issue) (marker : Marker) : List String :=
  match marker.heartbeatAt.bind tools.parseTime, marker.expiresAt.bind tools.parseTime with
  | some heartbeat, some expires =>
      errorIf (heartbeat > now || expires ≤ now ||
          now - heartbeat > config.stallTimeoutMinutes * 60 * 1000000)
        ("ACTIVE_ISSUE_LEASE_STALE:" ++ toString issue.number)
  | _, _ => ["ACTIVE_ISSUE_LEASE_TIME_INVALID:" ++ toString issue.number]

/-- The check of the lease, which only two states hold. -/
def leaseFindings (issue : Issue) (state : ItemState) (marker : Marker) : List String :=
  if state.isLeased then leaseErrors tools config now issue marker else []

/-- The record that `append_issue` adds. -/
def workItem (issue : Issue) (state : ItemState) (marker : Marker) (parsed : Form)
    (terminalDependency : Bool) : WorkItem where
  roadmapId := parsed.roadmapId
  number := issue.number
  title := parsed.title
  state := state
  priority := parsed.priority
  risk := parsed.risk
  type := parsed.type
  goal := parsed.goal
  conflictDomains := parsed.conflictDomains
  dependencies := if terminalDependency then [] else parsed.dependencies
  dependenciesResolved := if terminalDependency then true else parsed.dependenciesResolved
  humanRequired := parsed.humanRequired
  autonomyAllowed := parsed.autonomyAllowed
  productImpact := parsed.productImpact
  roadmapOrder := parsed.roadmapOrder
  criticalPathScore := 0
  readySince := if state = .ready then issue.updatedAt else none
  writerId := marker.writerId
  leaseId := marker.leaseId
  workspaceId := marker.workspaceId
  heartbeatAt := marker.heartbeatAt
  expiresAt := marker.expiresAt
  updatedAt := issue.updatedAt

/-- `parse_issue_form` of an issue. -/
def parsedForm (issue : Issue) (state : ItemState) : Form × List String :=
  tools.parseIssueForm issue.body issue.number issue.title state config.maxAutonomousRisk

/-- `append_issue`. -/
def appendIssue (ledger : Ledger) (issue : Issue) (state : ItemState) (marker : Marker)
    (terminalDependency : Bool) : Ledger :=
  let parsed := (parsedForm tools config issue state).1
  let parseErrors := (parsedForm tools config issue state).2
  let quality := tools.issueQuality parsed
  if parseErrors ≠ [] ∨ quality.status = "FAIL" then
    ledger.fail ("ISSUE_CONTRACT_INVALID:" ++ toString issue.number ++ ":" ++
      ",".intercalate ((parseErrors ++ quality.findings).take 5))
  else if quality.status = "NEEDS_SPLIT" ∧ state.isSized then
    ledger.fail ("ISSUE_NEEDS_SPLIT:" ++ toString issue.number)
  else if state.isMarked ∧ marker.valid = false then
    ledger.fail ("ACTIVE_ISSUE_MARKER_INVALID:" ++ toString issue.number)
  else if state.isMarked ∧
      (marker.roadmapId ≠ some parsed.roadmapId ∨ marker.state ≠ some state.name) then
    ledger.fail ("ISSUE_MARKER_SPLIT_BRAIN:" ++ toString issue.number)
  else
    (ledger.extend (leaseFindings tools config now issue state marker)).append
      (workItem issue state marker parsed terminalDependency)

/-- The states that the labels of an issue name. -/
def machineStates (issue : Issue) : List ItemState :=
  issue.labels.filterMap fun label => stateLabels.lookup label

/-- The marker of a closed issue is a `DONE` record. -/
def Marker.IsDone (marker : Marker) : Prop :=
  marker.valid = true ∧ marker.state = some ItemState.done.name

instance (marker : Marker) : Decidable marker.IsDone :=
  inferInstanceAs (Decidable (_ ∧ _))

/-- A closed issue: history, and evidence only with a `DONE` marker. -/
def readClosed (ledger : Ledger) (issue : Issue) (marker : Marker) : Ledger :=
  if marker.IsDone then
    if present marker.roadmapId then
      { ledger with deferredDone := ledger.deferredDone ++ [(issue, marker)] }
    else ledger
  else if machineStates issue ≠ [] then
    ledger.fail ("CLOSED_ACTIVE_ISSUE_WITHOUT_DONE_EVIDENCE:" ++ toString issue.number)
  else ledger

/-- One round of the loop over the issues. -/
def readIssue (ledger : Ledger) (issue : Issue) : Ledger :=
  let marker := tools.parseIssueMarker issue.body
  if issue.state = "closed" then readClosed ledger issue marker
  else
    match machineStates issue with
    | [] => ledger
    | state :: others =>
        if others.all (· = state) then
          appendIssue tools config now ledger issue state marker false
        else ledger.fail ("ISSUE_CONTRACT_INVALID:" ++ toString issue.number)

/-- `required_done`, sorted: the dependencies of live items that no item is. -/
def requiredDone (items : List WorkItem) : List String :=
  Ranked.sortedBy id (((items.filter fun item => item.state ≠ .done).flatMap
    WorkItem.dependencies).filter fun dependency =>
      dependency ∉ items.map WorkItem.roadmapId).dedup

/-- `deferred_done.get(roadmap_id, [])`. -/
def candidates (deferredDone : List (Issue × Marker)) (roadmapId : String) : List (Issue × Marker) :=
  deferredDone.filter fun entry => entry.2.roadmapId = some roadmapId

/-- One round of the loop over `required_done`. -/
def readDone (ledger : Ledger) (roadmapId : String) : Ledger :=
  match candidates ledger.deferredDone roadmapId with
  | [] => ledger
  | [(issue, marker)] => appendIssue tools config now ledger issue .done marker true
  | _ => ledger.fail ("ROADMAP_ID_NOT_ONE_TO_ONE:" ++ roadmapId)

end Issues

/-! ## Work items -/

/-- The ids that more than one item has, sorted. -/
def duplicates (items : List WorkItem) : List String :=
  Ranked.sortedBy id ((items.map WorkItem.roadmapId).dedup.filter fun roadmapId =>
    (items.map WorkItem.roadmapId).count roadmapId ≠ 1)

def duplicateErrors (items : List WorkItem) : List String :=
  errorIf (duplicates items ≠ []) ("ROADMAP_ID_NOT_ONE_TO_ONE:" ++ ",".intercalate (duplicates items))

/-- `state_by_roadmap.get(roadmap_id)`; a later item overwrites an earlier one. -/
def stateOf (items : List WorkItem) (roadmapId : String) : Option ItemState :=
  (items.reverse.find? fun item => item.roadmapId = roadmapId).map WorkItem.state

/-- `actual_resolved`. -/
def actualResolved (graph : GraphReport) (items : List WorkItem) (item : WorkItem) : Bool :=
  graph.status = "PASS" && item.dependencies.all fun dependency =>
    stateOf items dependency = some .done

def dependencyErrors (graph : GraphReport) (items : List WorkItem) : List String :=
  items.flatMap fun item =>
    errorIf (item.dependenciesResolved ≠ actualResolved graph items item)
      ("DEPENDENCY_STATUS_MISMATCH:" ++ item.roadmapId)

/-- `scores`. -/
def scores (tools : Tools) (graph : GraphReport) (items : List WorkItem) : List (String × Nat) :=
  let verifiedDone := (items.map WorkItem.roadmapId).dedup.filter fun roadmapId =>
    stateOf items roadmapId = some .done
  if graph.status = "PASS" then tools.criticalPathScores items verifiedDone else []

/-- An item with the dependency status and the score that the graph gives it. -/
def resolvedItem (tools : Tools) (graph : GraphReport) (items : List WorkItem) (item : WorkItem) :
    WorkItem :=
  { item with
    dependenciesResolved := actualResolved graph items item
    criticalPathScore := ((scores tools graph items).lookup item.roadmapId).getD 0 }

def resolvedItems (tools : Tools) (graph : GraphReport) (items : List WorkItem) : List WorkItem :=
  items.map (resolvedItem tools graph items)

def countOf (state : ItemState) (items : List WorkItem) : Nat :=
  items.countP fun item => item.state = state

/-- The items that are worked on. -/
def activeItems (items : List WorkItem) : List WorkItem :=
  items.filter fun item =>
    item.state = .inProgress || item.state = .review || item.state = .verification ||
      item.state = .recovery

/-! ## The active item, its pull request and its workspace -/

/-- The pull requests whose contract names the item and its lease. -/
def matchingPulls (tools : Tools) (pulls : List Pull) (item : WorkItem) : List Pull :=
  pulls.filter fun pull =>
    let contract := tools.parsePullContract pull.body
    contract.valid && contract.issueNumber = some item.number &&
      contract.roadmapId = some item.roadmapId &&
      tools.lower (contract.writerLease.getD "") = tools.lower (textOf item.leaseId)

/-- `active` of an item without its pull request. -/
def activeItem (item : WorkItem) : Active where
  roadmapId := some item.roadmapId
  issue := some item.number
  state := some item.state
  writer := item.writerId
  leaseId := item.leaseId

/-- `active` with the one pull request that matches, and the errors if there are more. -/
def withPull (tools : Tools) (active : Active) : List Pull → Active × List String
  | [] => (active, [])
  | [pull] =>
      ({ active with
          pr := some pull.number
          branch := pull.headRef
          leaseId := (tools.parsePullContract pull.body).writerLease }, [])
  | _ => (active, ["MULTIPLE_PRS_FOR_ACTIVE_ISSUE"])

/-- `active` before the workspaces are read, and the errors of its pull requests. -/
def activeOf (tools : Tools) (pulls : List Pull) : List WorkItem → Active × List String
  | [item] => withPull tools (activeItem item) (matchingPulls tools pulls item)
  | _ => ({}, [])

/-- `projected_status` of an active item. -/
def projectedStatus : ItemState → String
  | .inProgress | .review => "ACTIVE"
  | .verification => "COMPLETED"
  | _ => "RECOVERY"

/-- The workspace that the one active item declares. -/
def declaredWorkspace : List WorkItem → Workspace
  | [item] =>
      if present item.workspaceId then
        { status := projectedStatus item.state
          workspaceId := item.workspaceId
          heartbeatAt := item.heartbeatAt
          expiresAt := item.expiresAt }
      else {}
  | _ => {}

/-- The records of the registry that occupy a workspace. -/
def runtimeWorkspaces (workspaces : List RuntimeWorkspace) : List RuntimeWorkspace :=
  workspaces.filter fun workspace => occupying.contains workspace.status

/-- The errors of the one occupied workspace against the active item. -/
def splitBrainErrors (active : Active) (items : List WorkItem) (workspace : RuntimeWorkspace) :
    List String :=
  errorIf (present active.writer && active.writer ≠ workspace.workerId)
      "WORKSPACE_WRITER_SPLIT_BRAIN" ++
    errorIf (present active.leaseId && active.leaseId ≠ workspace.leaseId)
      "WORKSPACE_LEASE_SPLIT_BRAIN" ++
    errorIf (items.head?.any fun item => item.workspaceId ≠ workspace.workspaceId)
      "WORKSPACE_ID_SPLIT_BRAIN"

/-- The active item and the workspace after the registry is read. -/
def workspaceOf (active : Active) (items : List WorkItem) (rt : List RuntimeWorkspace) :
    Active × Workspace × List String :=
  match rt with
  | [] => (active, declaredWorkspace items, [])
  | [workspace] =>
      ({ active with
          writer := orElse workspace.workerId active.writer
          leaseId := orElse workspace.leaseId active.leaseId },
        { status := workspace.status
          workspaceId := workspace.workspaceId
          heartbeatAt := workspace.heartbeatAt
          expiresAt := workspace.expiresAt
          retryCount := workspace.retryCount
          nextRetryAt := workspace.nextRetryAt },
        splitBrainErrors active items workspace)
  | _ => (active, declaredWorkspace items, ["MULTIPLE_RUNTIME_WORKSPACES"])

/-- `part in text`. -/
def within (part text : String) : Bool :=
  Text.hasInfix part.toList text.toList

/-- `_cost_status`. -/
def costStatus (cost : Cost) : String :=
  if cost.result = some "ALLOW" then "ALLOW_ZERO_COST"
  else if cost.classification = some "PAID" ∨ cost.classification = some "POTENTIALLY_PAID" ∨
      "MONETARY_BUDGET_EXCEEDED" ∈ cost.reasonCodes then "BLOCK_PAID"
  else if cost.reasonCodes.any fun reason => within "QUOTA" reason || within "STORAGE" reason then
    "BLOCK_QUOTA"
  else if cost.reasonCodes.any fun reason => within "STALE" reason then "STALE"
  else "BLOCK_UNKNOWN"

/-- `usage` after both updates. -/
def costUsage (usage : Members) (cost : Cost) (observedAt : String) : Members :=
  let text (mem : Option String) : Value := (mem.map Value.str).getD .null
  cost.usage.foldl (fun fields entry => Value.put entry.1 entry.2 fields)
    (Value.put "observed_at" (.str observedAt)
      (Value.put "capability" (text cost.provider)
        (Value.put "status" (.str (costStatus cost)) usage)))

/-! ## The snapshot -/

section Whole

variable (tools : Tools) (inputs : Inputs)

/-- The checks before any issue is read. -/
def entryErrors : List String :=
  errorIf (!Text.isSha40 inputs.mainSha) "MAIN_SHA_NOT_EXACT" ++
    errorIf (some inputs.provider ≠ inputs.config.providerMode) "CANONICAL_PROVIDER_MISMATCH"

/-- The loop over the issues. -/
def readIssues : Ledger :=
  inputs.issues.foldl (readIssue tools inputs.config inputs.now) { errors := entryErrors inputs }

/-- The loop over the issues and the one over `required_done`. -/
def readAll : Ledger :=
  let live := readIssues tools inputs
  (requiredDone live.workItems).foldl (readDone tools inputs.config inputs.now) live

/-- `graph`. -/
def graph : GraphReport :=
  tools.validateRoadmapGraph (readAll tools inputs).workItems

/-- `work_items` after the dependencies are resolved. -/
def items : List WorkItem :=
  resolvedItems tools (graph tools inputs) (readAll tools inputs).workItems

/-- `active` before the workspaces are read, and the errors of its pull requests. -/
def opened : Active × List String :=
  activeOf tools inputs.pulls (activeItems (items tools inputs))

/-- `active` and `workspace`, and the errors of the registry. -/
def occupied : Active × Workspace × List String :=
  workspaceOf (opened tools inputs).1 (activeItems (items tools inputs))
    (runtimeWorkspaces inputs.workspaces)

/-- `errors` when `main`, `queue` and `orchestration` are derived. -/
def found : List String :=
  (readAll tools inputs).errors ++ duplicateErrors (readAll tools inputs).workItems ++
    (graph tools inputs).errors.map ("ROADMAP_GRAPH:" ++ ·) ++
    dependencyErrors (graph tools inputs) (readAll tools inputs).workItems ++
    errorIf (1 < (activeItems (items tools inputs)).length) "MULTIPLE_ACTIVE_ITEMS" ++
    (opened tools inputs).2 ++ (occupied tools inputs).2.2

/-- The error of the cost guard. -/
def costErrors (cost : Cost) : List String :=
  errorIf (cost.result ≠ some "ALLOW")
    ("COST_GUARD_BLOCKED:" ++ ",".intercalate cost.reasonCodes)

/-- The errors of all checks, the cost guard included. -/
def allErrors : List String :=
  found tools inputs ++ costErrors inputs.cost

/-- `project_projection["status"]`. -/
def projectionStatus (active : Active) : String :=
  if inputs.provider = "github" ∧ inputs.config.projectEnabled ∧ active.issue.isSome then
    "NOT_VERIFIED"
  else "N/A"

/-- `output` before its progress is derived. -/
def output : Snapshot :=
  let items := items tools inputs
  let active := (occupied tools inputs).1
  let leases := items.filter fun item => present item.leaseId && item.state.isLeased
  let observedAt := tools.iso inputs.now
  { inputs.previous with
    providerMode := inputs.provider
    mainHead := inputs.mainSha
    -- The error of the cost guard is not in the list yet, here and in `orchestration`.
    mainHealth := if found tools inputs = [] then .pass else .fail
    queue :=
      { ready := countOf .ready items
        inProgress := countOf .inProgress items
        review := countOf .review items + countOf .verification items
        blocked := countOf .blocked items
        humanRequired := 0 }
    workItems := items
    active := active
    workspace := (occupied tools inputs).2.1
    orchestration :=
      { writersActive := if countOf .inProgress items = 0 then 0 else 1
        reviewersActive := countOf .review items
        leasesActive := if runtimeWorkspaces inputs.workspaces = [] ∧ leases = [] then 0 else 1
        conflicts := (found tools inputs).length
        mergeTrain := if found tools inputs = [] then .idle else .blocked }
    ciMetrics := tools.normalizedRuns inputs.runs observedAt
    costUsage := costUsage inputs.previous.costUsage inputs.cost observedAt
    projection := projectionStatus inputs active
    provenance :=
      { observedAt := observedAt
        validUntil := tools.iso (inputs.now + inputs.config.reconcileTtlMinutes * 60 * 1000000)
        sourceMainSha := inputs.mainSha
        evidenceDigest := tools.digest
          { provider := inputs.provider
            mainSha := inputs.mainSha
            issues := items
            pulls := inputs.pulls.map fun pull => (pull.number, pull.headSha)
            runIds := inputs.runs.map Run.id } }
    adwfHealth := if allErrors tools inputs = [] then .verified else .broken
    roadmapHealth :=
      if items ≠ [] ∧ allErrors tools inputs = [] then .healthy
      else if allErrors tools inputs ≠ [] then .critical
      else .notVerified
    status := if allErrors tools inputs = [] then .active else .recovery
    blockers := (allErrors tools inputs).map ("Reconciliation: " ++ ·) ++
      errorIf (inputs.previous.productHealth ≠ some "VERIFIED" &&
          inputs.previous.productHealth ≠ some "HEALTHY")
        "Product Health не подтверждён: разрешены только Recovery/Verification."
    ownerDecisions := errorIf (inputs.cost.result ≠ some "ALLOW")
      "Не подтверждён нулевой расход: автоматические provider jobs остановлены."
    lastReconciledAt := some observedAt
    lastVerifiedAt := if allErrors tools inputs = [] then some observedAt else none }

/-- `reconcile_snapshot`. -/
def reconcileSnapshot : Snapshot :=
  let output := output tools inputs
  { output with progress := tools.deriveVerifiedProgress output.workItems output inputs.now }

end Whole

end Adwf.Reconciliation
