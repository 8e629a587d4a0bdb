import Adwf.Program.Core
import Adwf.Orchestrator.Journal
import Adwf.LeaseRegistry.Document

/-!
# Phase executors

Every phase has one executor.  An executor calls the provider and returns a step
result, or a wait when something outside the run has to happen first.  All
phases after CLAIM pass a guard on the live writer lease before their executor.
-/

namespace Adwf.Supervisor

open Adwf.Orchestrator Adwf.LeaseRegistry

variable (state : Journal)
variable (key : String) (sha256 : String → String)

/-! ## Results -/

/-- `ExecutorWait`. -/
structure Wait where
  status : String
  reason : String
  capability : String
  details : Fields := []
  deriving DecidableEq

/-- What an executor returns. -/
inductive Produced where
  | wait (wait : Wait)
  | result (fields : Fields)
  deriving DecidableEq

/-- The arguments of `_result` with their defaults. -/
structure ResultArguments where
  outcome : String := "PASS"
  subjectSha : Json
  previewDigest : Json
  evidenceRefs : List Json := []
  reasonCodes : List String := []
  metadata : Fields := []

/-- `_result`. -/
def resultFields (arguments : ResultArguments) : Fields :=
  [("cost_usd", .num 0), ("evidence_refs", .arr arguments.evidenceRefs),
    ("idempotency_key", .str key), ("metadata", .obj arguments.metadata),
    ("outcome", .str arguments.outcome), ("phase", .str state.phase.name),
    ("preview_digest", arguments.previewDigest),
    ("reason_codes", .arr (arguments.reasonCodes.map .str)),
    ("subject_sha", arguments.subjectSha)]

/-- `_result(state, key, "FAIL", …)`. -/
def failFields (key code : String) (metadata : Fields) : Fields :=
  resultFields state key
    { outcome := "FAIL", subjectSha := state.subjectSha, previewDigest := state.previewDigest
      reasonCodes := [code], metadata }

/-- `_result(state, key, …)` for the subject and preview of the run. -/
def passFields (metadata : Fields) : Fields :=
  resultFields state key
    { subjectSha := state.subjectSha, previewDigest := state.previewDigest, metadata }

/-- `_result(state, key, subject_sha=sha, …)`. -/
def subjectFields (sha : String) (evidenceRefs : List Json)
    (metadata : Fields) : Fields :=
  resultFields state key
    { subjectSha := .str sha, previewDigest := state.previewDigest, evidenceRefs, metadata }

/-! ## Provider calls -/

/-- `_github`: the repository of the client, or the reason there is none. -/
structure Connection where
  client : Option String
  details : Fields := []

/-- A pull request as the executors read it. -/
structure Pull where
  number : Int
  headSha : String
  isOpen : Bool
  url : Json := .null
  deriving DecidableEq

structure CheckRun where
  name : String
  headSha : String
  status : String
  conclusion : String
  appSlug : String
  appId : Option Int
  deriving DecidableEq

structure Review where
  state : String
  commitId : String

/-- An issue after a call: its number as a text, its state and its address. -/
structure Issue where
  number : String
  state : String
  url : Json := .null
  deriving DecidableEq

structure MergeReply where
  merged : Bool
  sha : Json
  message : Json := .null

/-- The members of the work memory an executor reads or extends. -/
structure WorkMemory where
  taskRu : String
  revision : Int
  issues : List Json := []
  pullRequests : List Json := []
  branches : List Fields := []

/-- The arguments of `GitHubLeaseStore.acquire`, but for its clock and UUID. -/
structure LeaseClaim where
  expectedMainSha : String
  policyMaxParallelWriters : Int
  issueId : String
  roadmapId : String
  workerId : String
  baseSha : String
  branch : String
  resources : List Resource
  ttlMinutes : Int

/-- The arguments of `GitHubLeaseStore.heartbeat`, but for its clock. -/
structure LeaseRenewal where
  expectedMainSha : String
  policyMaxParallelWriters : Int
  leaseId : String
  workerId : String
  ttlMinutes : Int

/-- The arguments of `GitHubLeaseStore.release`, but for its clock. -/
structure LeaseReturn where
  expectedMainSha : String
  policyMaxParallelWriters : Int
  leaseId : String
  workerId : String
  providerReconciliationRef : String

/-- What an executor asks of its surroundings: the GitHub client, the lease store,
the files of the runtime and the delivery adapters. -/
inductive ExecutorCall where
  | connection
  | orchestration
  | clock
  | defaultBranch
  | branchSha (name : String)
  | createIssue (title body : String)
  | issue (number : String)
  | closeIssue (number : String)
  | githubReconcile (mainSha : String)
  | memory
  | saveMemory (memory : WorkMemory) (expectedRevision : Int)
  | readLeases (expectedMainSha : String) (policyMaxParallelWriters : Int)
  | acquireLease (claim : LeaseClaim)
  | heartbeatLease (renewal : LeaseRenewal)
  | releaseLease (giveBack : LeaseReturn)
  | pulls
  | createPull (title body head base : String)
  | pullReviews (number : Int)
  | checkRuns (sha : String)
  | mergePull (number : Int) (sha : String)
  | evidenceRefs
  | previewAttestation
  | gitHead
  | delivery
  | promoteReference (sha : String)
  | observeReference (sha : String)
  | deliveryCommand (kind : String)
  | runCommand (kind command sha : String)

/-- What a call returns when it does not raise. -/
def ExecutorValue : ExecutorCall → Type
  | .connection => Connection
  | .orchestration => Fields
  | .clock => Int
  | .defaultBranch => String
  | .branchSha _ => String
  | .createIssue _ _ => Issue
  | .issue _ => Issue
  | .closeIssue _ => Issue
  | .githubReconcile _ => Bool × String
  | .memory => Option WorkMemory
  | .saveMemory _ _ => Unit
  | .readLeases _ _ => Registry × Option String
  | .acquireLease _ => Registry × Lease × String
  | .heartbeatLease _ => Registry × String
  | .releaseLease _ => Registry × String
  | .pulls => List Pull
  | .createPull _ _ _ _ => Pull
  | .pullReviews _ => List Review
  | .checkRuns _ => List CheckRun
  | .mergePull _ _ => MergeReply
  | .evidenceRefs => List Json
  | .previewAttestation => Option Fields
  | .gitHead => String
  | .delivery => Fields
  | .promoteReference _ => Fields
  | .observeReference _ => Fields
  | .deliveryCommand _ => String
  | .runCommand _ _ _ => Fields

/-- An executor; an error is the text of its exception. -/
abbrev Executor (α : Type) :=
  Program ExecutorCall (fun call => Except String (ExecutorValue call)) String α

/-- A call of the GitHub client, the lease store or the runtime files. -/
def ExecutorCall.invoke (call : ExecutorCall) : Executor (ExecutorValue call) :=
  Program.invoke call

/-- `ExecutorWait` as the end of an executor. -/
def waiting (status reason capability : String) (details : Fields := []) : Executor Produced :=
  .done (.wait { status, reason, capability, details })

/-- What a `try` block returned, its exception handed on as a value. -/
def attempt {α : Type} (body : Executor α) : Executor (Except String α) :=
  (body.bind fun value => .done (.ok value)).handle fun error => .done (.error error)

/-- `str(exc)[:300]`. -/
def contractError (text : String) : Fields :=
  [("contract_error", .str (String.ofList (text.toList.take 300)))]

/-- `_github` and the wait without a client. -/
def connected (capability : String) (next : String → Executor Produced) : Executor Produced := do
  let connection : Connection ← ExecutorCall.connection.invoke
  match connection.client with
  | none => waiting "HUMAN_REQUIRED" "GITHUB_CONNECTION_REQUIRED" capability connection.details
  | some repository => next repository

/-! ## RECONCILE and AUTHORIZE -/

/-- `str.isdigit`, on the ASCII digits. -/
def isDigits (text : String) : Bool :=
  Text.nonemptyOf Text.isDigit text.toList

/-- `memory.get("task_ru") or default`. -/
def taskOr (memory : Option WorkMemory) (default : String) : String :=
  match memory with
  | some memory => if memory.taskRu = "" then default else memory.taskRu
  | none => default

def issueReference (issue : Issue) : Json :=
  .obj [("number", .str issue.number), ("url", issue.url)]

/-- The creation of the issue in `reconcile_executor`. -/
def createWorkIssue : Executor String := do
  let memory : Option WorkMemory ← ExecutorCall.memory.invoke
  let task := Text.strip (taskOr memory "Задача владельца")
  let issue : Issue ← (ExecutorCall.createIssue
    ("[ADWF] " ++ String.ofList (task.toList.take 90))
    ("ADWF Owner Intent\n\nBrief: `" ++ state.roadmapId ++ "`\nRun: `" ++ state.runId ++ "`\n\n" ++
      task ++ "\n")).invoke
  match memory with
  | some memory =>
      if issue.number = "" then return ""
      else
        (ExecutorCall.saveMemory
          { memory with issues := memory.issues ++ [issueReference issue] } memory.revision).invoke
        return issue.number
  | none => return issue.number

/-- The rest of `reconcile_executor` once the issue is known. -/
def reconcileMain (key repository default mainSha issueId : String) :
    Executor Produced := do
  let reconciled : Bool × String ← (ExecutorCall.githubReconcile mainSha).invoke
  if reconciled.1 then
    return .result (subjectFields state key mainSha []
      [("default_branch", .str default), ("issue_id", .str issueId),
        ("repository", .str repository)])
  else
    waiting "NOT_VERIFIED" "GITHUB_RECONCILIATION_FAILED" "reconcile" [("stderr", .str reconciled.2)]

/-- `reconcile_executor`. -/
def reconcileExecutor : Executor Produced :=
  connected "reconcile" fun repository => do
    let default : String ← ExecutorCall.defaultBranch.invoke
    let mainSha : String ← (ExecutorCall.branchSha default).invoke
    if Text.isSha40 mainSha then
      let issueId := if state.issueId = "" then "PENDING" else state.issueId
      if issueId = "PENDING" then do
        let created ← createWorkIssue state
        if created = "" then
          waiting "NOT_VERIFIED" "ISSUE_CREATE_READBACK_MISSING" "reconcile"
        else reconcileMain state key repository default mainSha created
      else if isDigits issueId then do
        let issue ← attempt (ExecutorCall.issue issueId).invoke
        match (issue : Except String Issue) with
        | .error error =>
            waiting "NOT_VERIFIED" "WORK_ITEM_PROVIDER_READBACK_FAILED" "reconcile"
              (contractError error ++ [("issue_id", .str issueId)])
        | .ok issue =>
            if issue.state = "open" then
              reconcileMain state key repository default mainSha issueId
            else
              waiting "NOT_VERIFIED" "WORK_ITEM_PROVIDER_TERMINAL" "reconcile"
                [("issue_id", .str issueId), ("issue_state", .str issue.state)]
      else reconcileMain state key repository default mainSha issueId
    else waiting "NOT_VERIFIED" "DEFAULT_BRANCH_SHA_NOT_VERIFIED" "reconcile"

/-- `authorize_executor`. -/
def authorizeExecutor : Executor Produced :=
  return .result (passFields state key [("authorization_source", .str "TRUSTED_CONTEXT_COMPILER")])

/-! ## The writer lease -/

/-- The policy members of the lease, after their checks. -/
structure LeasePolicy where
  maxParallelWriters : Int
  leaseTtlMinutes : Int
  heartbeatMinutes : Int
  deriving DecidableEq

/-- An integer member between two bounds. -/
def boundedInt (value : Json) (low high : Int) : Option Int :=
  match value with
  | .num number =>
      if number.den = 1 ∧ low ≤ number.num ∧ number.num ≤ high then some number.num else none
  | _ => none

/-- `_orchestration_policy`. -/
def orchestrationPolicy (orchestration : Fields) : Except String LeasePolicy :=
  if Json.get orchestration "max_parallel_writers" = .num 1 then
    match boundedInt (Json.get orchestration "lease_ttl_minutes") 1 240,
      boundedInt (Json.get orchestration "heartbeat_minutes") 1 120 with
    | none, _ => .error "LEASE_TTL_POLICY_INVALID"
    | some _, none => .error "LEASE_HEARTBEAT_POLICY_INVALID"
    | some ttl, some heartbeat => .ok ⟨1, ttl, heartbeat⟩
  else .error "STAGE1_WRITER_CEILING_NOT_SINGLETON"

/-- `_orchestration_policy` and the wait on its error. -/
def withPolicy (capability : String) (next : LeasePolicy → Executor Produced) :
    Executor Produced := do
  let orchestration : Fields ← ExecutorCall.orchestration.invoke
  match orchestrationPolicy orchestration with
  | .error error => waiting "NOT_VERIFIED" error capability
  | .ok policy => next policy

/-- `_current_main`. -/
def currentMain : Executor String := do
  let default : String ← ExecutorCall.defaultBranch.invoke
  let sha : String ← (ExecutorCall.branchSha default).invoke
  Program.check (Text.isSha40 sha = true) "DEFAULT_BRANCH_SHA_NOT_VERIFIED"
  return sha

/-- `_writer_id`. -/
def writerId : Except String String :=
  if state.runId = "" then .error "WRITER_RUN_ID_REQUIRED" else .ok ("adwf-runtime:" ++ state.runId)

/-- A run of characters outside `[a-z0-9-]` becomes one dash. -/
def dashed : List Char → List Char
  | [] => []
  | char :: rest =>
      let kept := ('a' ≤ char && char ≤ 'z') || Text.isDigit char || char = '-'
      if kept then char :: dashed rest
      else
        match rest with
        | next :: _ =>
            if ('a' ≤ next && next ≤ 'z') || Text.isDigit next || next = '-' then
              '-' :: dashed rest
            else dashed rest
        | [] => ['-']

/-- `str.strip("-")`. -/
def stripDashes (chars : List Char) : List Char :=
  ((chars.dropWhile (· = '-')).reverse.dropWhile (· = '-')).reverse

/-- `_writer_branch`. -/
def writerBranch (state : Journal) : String :=
  let lowered := state.roadmapId.toList.map fun char =>
    if char = '_' then '-' else char.toLower
  let roadmap := stripDashes (dashed lowered)
  let named := if roadmap = [] then "work".toList else roadmap
  "adwf/" ++ String.ofList (named.take 120) ++ "-" ++
    String.ofList ((sha256 state.runId).toList.take 12)

/-- `_stage1_resources`. -/
def stage1Resources : List Resource :=
  [⟨.provider, "global", true, true⟩]

/-- `_same_lease`. -/
def sameLease (worker branch : String) (lease : Lease) : Bool :=
  lease.status = .active && lease.issueId = state.issueId && lease.roadmapId = state.roadmapId &&
    lease.workerId = worker && lease.branch = branch && lease.resources = stage1Resources

/-- `_lease_fresh`. -/
def leaseFresh (lease : Lease) (heartbeatMinutes now : Int) : Bool :=
  match lease.heartbeatAt.parse, lease.expiresAt.parse with
  | some heartbeat, some expires =>
      decide (expires > now) && decide (heartbeat ≤ now) &&
        decide (now - heartbeat ≤ heartbeatMinutes * minute)
  | _, _ => false

/-- A delivery revision, when the phase runs on it. -/
def postMerge : Option String :=
  match state.phase with
  | .promote | .observe | .done | .cleanup | .recovery =>
      match state.deliverySha with
      | .str sha => if Text.isSha40 sha then some sha else none
      | _ => none
  | _ => none

/-- The heartbeat of the guard, once half the configured interval has elapsed. -/
def guardHeartbeat (policy : LeasePolicy) (mainSha worker : String) (lease : Lease) (age : Int) :
    Executor (Option Wait) :=
  if age ≥ max minute (policy.heartbeatMinutes * minute / 2) then do
    let renewed ← attempt (ExecutorCall.heartbeatLease
      { expectedMainSha := mainSha, policyMaxParallelWriters := 1, leaseId := lease.leaseId
        workerId := worker, ttlMinutes := policy.leaseTtlMinutes }).invoke
    match renewed with
    | .error error =>
        return some ⟨"NOT_VERIFIED", "LEASE_HEARTBEAT_FAILED", "claim", contractError error⟩
    | .ok _ => return none
  else return none

/-- The decision of the guard on the one matching lease. -/
def guardLease (policy : LeasePolicy) (mainSha worker : String)
    (registry : Registry) (lease : Lease) : Executor (Option Wait) := do
  let now : Int ← ExecutorCall.clock.invoke
  if leaseFresh lease policy.heartbeatMinutes now then
    match postMerge state with
    | some delivery =>
        if mainSha = delivery then return none
        else
          return some ⟨"NOT_VERIFIED", "DELIVERY_MAIN_RECONCILIATION_REQUIRED", "claim",
            [("current_main", .str mainSha), ("delivery_sha", .str delivery)]⟩
    | none =>
        if registry.observedMainSha = mainSha ∧ lease.baseSha = mainSha then do
          let later : Int ← ExecutorCall.clock.invoke
          guardHeartbeat policy mainSha worker lease (later - lease.heartbeatAt.parse.getD later)
        else
          return some ⟨"NOT_VERIFIED", "LEASE_MAIN_RECONCILIATION_REQUIRED", "claim",
            [("current_main", .str mainSha), ("lease_base", .str lease.baseSha),
              ("registry_main", .str registry.observedMainSha)]⟩
  else
    return some ⟨"NOT_VERIFIED", "LEASE_RECONCILIATION_REQUIRED", "claim",
      [("lease_id", .str lease.leaseId)]⟩

/-- The main branch and the registry, as the guard reads them. -/
def readMainAndLeases (policy : LeasePolicy) : Executor (String × Registry) := do
  let mainSha ← currentMain
  let read : Registry × Option String ←
    (ExecutorCall.readLeases mainSha policy.maxParallelWriters).invoke
  return (mainSha, read.1)

/-- `_require_live_writer_authority`. -/
def requireLiveWriterAuthority : Executor (Option Wait) := do
  let connection : Connection ← ExecutorCall.connection.invoke
  if connection.client = none then
    return some ⟨"HUMAN_REQUIRED", "GITHUB_CONNECTION_REQUIRED", "claim", connection.details⟩
  else do
    let orchestration : Fields ← ExecutorCall.orchestration.invoke
    match orchestrationPolicy orchestration with
    | .error error => return some ⟨"NOT_VERIFIED", error, "claim", []⟩
    | .ok policy =>
        match ← attempt (readMainAndLeases policy) with
        | .error error =>
            return some ⟨"NOT_VERIFIED", "LEASE_PROVIDER_READBACK_FAILED", "claim",
              contractError error⟩
        | .ok (mainSha, registry) => do
            let worker ← Program.ofExcept (writerId state)
            match registry.leases.filter (sameLease state worker (state.workBranch.getD "")) with
            | [lease] => guardLease state policy mainSha worker registry lease
            | matched =>
                return some ⟨"NOT_VERIFIED", "LIVE_PROVIDER_LEASE_REQUIRED", "claim",
                  [("matches", .num matched.length), ("registry_revision", .num registry.revision)]⟩

/-- The metadata of a claimed lease. -/
def claimFields (key branch : String) (lease : Lease) (anchor : Option String)
    (registryRevision : Int) (resumedExisting : Bool) : Fields :=
  passFields state key
    [("branch", .str branch), ("lease_anchor", Json.ofText anchor),
      ("lease_id", .str lease.leaseId), ("lease_model", .str "PROVIDER_DURABLE_CAS"),
      ("lease_registry_revision", .num registryRevision),
      ("resumed_existing", .bool resumedExisting)]

/-- The `try` block of `claim_executor`. -/
def claimLease (key baseSha worker branch : String) (policy : LeasePolicy) :
    Executor Produced := do
  let mainSha ← currentMain
  if mainSha = baseSha then do
    let read : Registry × Option String ← (ExecutorCall.readLeases mainSha 1).invoke
    let active := activeLeases read.1.leases
    let compatible := active.filter fun lease =>
      sameLease state worker branch lease && lease.baseSha = baseSha
    match active, compatible with
    | [], _ => do
        let acquired : Registry × Lease × String ← (ExecutorCall.acquireLease
          { expectedMainSha := mainSha, policyMaxParallelWriters := 1, issueId := state.issueId
            roadmapId := state.roadmapId, workerId := worker, baseSha, branch
            resources := stage1Resources, ttlMinutes := policy.leaseTtlMinutes }).invoke
        return .result (claimFields state key branch acquired.2.1 (some acquired.2.2)
          acquired.1.revision false)
    | [_], [lease] => do
        let now : Int ← ExecutorCall.clock.invoke
        if leaseFresh lease policy.heartbeatMinutes now then
          return .result (claimFields state key branch lease read.2 read.1.revision true)
        else
          waiting "NOT_VERIFIED" "ACTIVE_PROVIDER_LEASE_INCOMPATIBLE" "claim"
            [("active", .num 1), ("compatible", .num 1),
              ("registry_revision", .num read.1.revision)]
    | _, _ =>
        waiting "NOT_VERIFIED" "ACTIVE_PROVIDER_LEASE_INCOMPATIBLE" "claim"
          [("active", .num active.length), ("compatible", .num compatible.length),
            ("registry_revision", .num read.1.revision)]
  else
    waiting "NOT_VERIFIED" "LEASE_BASE_MAIN_DRIFT" "claim"
      [("actual", .str mainSha), ("expected", .str baseSha)]

/-- `str(state.get("subject_sha") or "")`, on a journal that holds a text or `None`. -/
def subjectText : String :=
  state.subjectSha.asText.getD ""

/-- `claim_executor`. -/
def claimExecutor (state : Journal) (key : String) :
    Executor Produced :=
  connected "claim" fun _ =>
    withPolicy "claim" fun policy =>
      if isDigits state.issueId then
        if Text.isSha40 (subjectText state) then do
          let worker ← Program.ofExcept (writerId state)
          let claimed ← attempt (claimLease state key (subjectText state) worker
            (writerBranch sha256 state) policy)
          match claimed with
          | .ok produced => return produced
          | .error error =>
              waiting "NOT_VERIFIED" "LEASE_PROVIDER_ACQUIRE_FAILED" "claim" (contractError error)
        else waiting "NOT_VERIFIED" "LEASE_BASE_SHA_REQUIRED" "claim"
      else waiting "NOT_VERIFIED" "LEASE_ISSUE_ID_REQUIRED" "claim"

/-- `workspace_executor`. -/
def workspaceExecutor : Executor Produced :=
  return .result (passFields state key
    [("trust", .str "LOW"), ("workspace_mode", .str "REPLACEABLE_AGENT_DISPOSABLE_WORKSPACE")])

/-! ## OPEN_PR, CI and REVIEW -/

/-- The open pull requests of a revision. -/
def exactHeadPulls (sha : String) (pulls : List Pull) : List Pull :=
  pulls.filter fun pull => pull.headSha = sha && pull.isOpen

/-- The last branch the work memory records for a revision. -/
def rememberedBranch (memory : Option WorkMemory) (sha : String) : Option String :=
  memory.bind fun memory =>
    memory.branches.reverse.findSome? fun branch =>
      if Json.get branch "sha" = .str sha then
        (Json.get branch "name").asText.filter (· ≠ "")
      else none

/-- The branch a pull request is opened from. -/
def pullBranch (memory : Option WorkMemory) (sha : String) : Option String :=
  match state.workBranch with
  | some branch => if branch = "" then rememberedBranch memory sha else some branch
  | none => rememberedBranch memory sha

/-- A pull request the work memory already lists, by its number. -/
def listsPull (number : Int) : Json → Bool
  | .obj fields => Json.get fields "number" = .num number
  | value => value = .num number

/-- The end of `open_pr_executor`. -/
def recordPull (key sha : String) (memory : Option WorkMemory) (pull : Pull) :
    Executor Produced :=
  let recorded := .result (subjectFields state key sha []
    [("pull_request_number", .num pull.number), ("pull_request_url", pull.url)])
  match memory with
  | some memory => do
      let reference := .obj [("head_sha", .str sha), ("number", .num pull.number),
        ("url", pull.url)]
      let listed := if memory.pullRequests.any (listsPull pull.number) then memory.pullRequests
        else memory.pullRequests ++ [reference]
      (ExecutorCall.saveMemory { memory with pullRequests := listed } memory.revision).invoke
      return recorded
  | none => return recorded

/-- `open_pr_executor`. -/
def openPrExecutor : Executor Produced :=
  let sha := subjectText state
  if Text.isSha40 sha then
    connected "open_pr" fun _ => do
      let pulls : List Pull ← ExecutorCall.pulls.invoke
      let memory : Option WorkMemory ← ExecutorCall.memory.invoke
      match exactHeadPulls sha pulls with
      | pull :: _ => recordPull state key sha memory pull
      | [] =>
          match pullBranch state memory sha with
          | none =>
              waiting "WAITING_AGENT" "AGENT_BRANCH_REFERENCE_REQUIRED" "open_pr"
                [("subject_sha", .str sha)]
          | some branch => do
              let base : String ← ExecutorCall.defaultBranch.invoke
              let pull : Pull ← (ExecutorCall.createPull
                ("[ADWF] " ++ String.ofList ((taskOr memory "ADWF change").toList.take 90))
                ("Automated ADWF run `" ++ state.runId ++ "` for brief `" ++ state.roadmapId ++ "`.")
                branch base).invoke
              recordPull state key sha memory pull
  else waiting "WAITING_AGENT" "AGENT_COMMIT_SHA_REQUIRED" "open_pr"

/-- The checks CI and MERGE require, sorted. -/
def requiredChecks : List String :=
  ["adwf/governance-gate", "adwf/trusted-gate", "fast-feedback"]

/-- A required check that GitHub Actions completed with success on the revision. -/
def isAttested (sha : String) (check : CheckRun) : Bool :=
  requiredChecks.contains check.name && check.headSha = sha && check.status = "completed" &&
    check.conclusion = "success" && check.appSlug = "github-actions" && check.appId.isSome

/-- The required checks without an attested run, and the apps that ran the others. -/
def attestation (sha : String) (checks : List CheckRun) : List String × List Int :=
  let attested := checks.filter (isAttested sha)
  (requiredChecks.filter fun name => !(attested.map CheckRun.name).contains name,
    (attested.filterMap CheckRun.appId).dedup)

def sortedInts (numbers : List Int) : Json :=
  .arr ((numbers.insertionSort (· ≤ ·)).map fun number => .num number)

/-- `ci_executor`. -/
def ciExecutor : Executor Produced :=
  connected "test" fun _ => do
    let sha := subjectText state
    let checks : List CheckRun ← (ExecutorCall.checkRuns sha).invoke
    match attestation sha checks with
    | ([], [appId]) => do
        let refs : List Json ← ExecutorCall.evidenceRefs.invoke
        if refs = [] then
          waiting "NOT_VERIFIED" "CI_EVIDENCE_REFS_REQUIRED" "test"
            [("required_checks", .arr (requiredChecks.map .str))]
        else
          return .result (subjectFields state key sha refs
            [("check_app_id", .num appId), ("required_checks", .arr (requiredChecks.map .str))])
    | (missing, appIds) =>
        waiting "WAITING_CI" "PROVIDER_ATTESTED_REQUIRED_CHECKS_PENDING" "test"
          [("check_app_ids", sortedInts appIds), ("missing", .arr (missing.map .str))]

/-- The reviews of the run's pull request; a failed read counts as none. -/
def readReviews : Executor (List Review) :=
  match state.pullRequestNumber with
  | none => return []
  | some number =>
      if number = 0 then return []
      else (ExecutorCall.pullReviews number).invoke.handle fun _ => .done []

/-- `review_executor`. -/
def reviewExecutor : Executor Produced :=
  connected "review" fun _ => do
    let sha := subjectText state
    let refs : List Json ← ExecutorCall.evidenceRefs.invoke
    let reviews ← readReviews state
    let approved := reviews.filter fun review =>
      review.state.toUpper = "APPROVED" && review.commitId = sha
    let reason := if refs = [] then .str "REVIEW_COVERED_BY_TRUSTED_DETERMINISTIC_GATES" else .null
    return .result (subjectFields state key sha refs
      [("exact_head_reviews", .num approved.length), ("not_applicable_reason", reason),
        ("optional_ai_review_required", .bool false)])

/-! ## PREVIEW and OWNER_ACCEPTANCE -/

/-- A member that is an object, and an empty one in place of anything else. -/
def objectOf : Json → Fields
  | .obj fields => fields
  | _ => []

/-- `source_attestation`: absent it reads as empty, and another value has no `get`. -/
def sourceAttestation (value : Fields) : Except String Fields :=
  match value.lookup "source_attestation" with
  | none => .ok []
  | some (.obj fields) => .ok fields
  | some _ => .error "AttributeError"

def isInt : Json → Bool
  | .num number => number.den = 1
  | .bool _ => true
  | _ => false

/-- The provider ran the preview job of the revision. -/
def isProviderExact (sha : String) (value : Fields) : Bool :=
  let attested := objectOf (Json.get value "provider_attestation")
  Json.get attested "provider" = .str "github" &&
    Json.get attested "provider_readback" = .bool true &&
    Json.get attested "head_sha" = .str sha && isInt (Json.get attested "workflow_run_id") &&
    isInt (Json.get attested "job_id")

/-- The preview evidence: its own list, else that of the provider readback. -/
def previewRefs (value : Fields) : Executor (List Json) := do
  let own ← Program.ofExcept (Json.toList (Json.get value "evidence_refs"))
  if own = [] then ExecutorCall.evidenceRefs.invoke else return own

/-- The part of `preview_executor` after the attestation is read. -/
def previewAttested (value : Fields) : Executor Produced := do
  let sha := subjectText state
  let source ← Program.ofExcept (sourceAttestation value)
  if Json.get value "head_sha" = .str sha ∧ Json.get source "verified" = .bool true then do
    let head ← (ExecutorCall.gitHead.invoke).handle fun _ => .done ""
    let head : String := head
    if (head = sha ∧ Json.get source "mode" = .str "LOCAL_EXACT_GIT_HEAD") ∨
        isProviderExact sha value = true then
      match Json.get value "preview_digest" with
      | .str digest =>
          if Text.isSha256 digest then do
            let refs ← previewRefs value
            return .result (resultFields state key
              { subjectSha := .str sha, previewDigest := .str digest, evidenceRefs := refs
                metadata := [("attestation_id", Json.get value "attestation_id")] })
          else waiting "NOT_VERIFIED" "PREVIEW_DIGEST_INVALID" "verify"
      | _ => waiting "NOT_VERIFIED" "PREVIEW_DIGEST_INVALID" "verify"
    else waiting "NOT_VERIFIED" "PREVIEW_TRUSTED_PROVENANCE_REQUIRED" "verify"
  else waiting "NOT_VERIFIED" "PREVIEW_EXACT_REVISION_NOT_ATTESTED" "verify"

/-- `preview_executor`. -/
def previewExecutor : Executor Produced := do
  let attested : Option Fields ← ExecutorCall.previewAttestation.invoke
  match attested with
  | none =>
      waiting "WAITING_PREVIEW" "EXACT_REVISION_PREVIEW_ATTESTATION_REQUIRED" "verify"
        [("subject_sha", .str (subjectText state))]
  | some value => previewAttested state key value

/-- `owner_executor`. -/
def ownerExecutor : Executor Produced :=
  waiting "WAITING_OWNER" "PROVIDER_ATTESTED_OWNER_DECISION_REQUIRED" "owner_accept"
    [("preview_digest", state.previewDigest), ("subject_sha", state.subjectSha)]

/-- The merge of one pull request and its readback. -/
def mergeExact (key sha : String) (pull : Pull) : Executor Produced := do
  let merged : MergeReply ← (ExecutorCall.mergePull pull.number sha).invoke
  if merged.merged then do
    let refs : List Json ← ExecutorCall.evidenceRefs.invoke
    return .result (subjectFields state key sha refs
      [("merge_sha", merged.sha), ("pull_request_number", .num pull.number)])
  else
    waiting "NOT_VERIFIED" "MERGE_READBACK_NOT_CONFIRMED" "merge" [("message", merged.message)]

/-- `merge_executor`. -/
def mergeExecutor : Executor Produced :=
  connected "merge" fun _ => do
    let sha := subjectText state
    let pulls : List Pull ← ExecutorCall.pulls.invoke
    match exactHeadPulls sha pulls with
    | [pull] => do
        let checks : List CheckRun ← (ExecutorCall.checkRuns sha).invoke
        match attestation sha checks with
        | ([], [_]) => mergeExact state key sha pull
        | (missing, appIds) =>
            waiting "NOT_VERIFIED" "ALL_PROVIDER_ATTESTED_REQUIRED_GATES_REQUIRED" "merge"
              [("check_app_ids", sortedInts appIds), ("missing", .arr (missing.map .str))]
    | matched =>
        waiting "NOT_VERIFIED" "SINGLE_EXACT_HEAD_PR_REQUIRED" "merge"
          [("matches", .num matched.length)]

/-! ## PROMOTE, OBSERVE and DONE -/

/-- A text member, and a default in place of a falsy one. -/
def textMember (fields : Fields) (name default : String) : String :=
  match Json.get fields name with
  | .str text => if text = "" then default else text
  | _ => default

/-- What the promotion and the observation by an adapter differ in. -/
structure Delivery where
  kind : String
  capability : String
  adapterMember : String
  requiredMember : String
  commandRequired : String
  commandFailed : String
  attestationRequired : String
  adapterRequired : String
  notRequired : String
  progress : String × Json

/-- The COMMAND adapter of a delivery phase. -/
def deliverByCommand (delivery : Delivery) (state : Journal) (key sha : String) :
    Executor Produced := do
  let command : String ← (ExecutorCall.deliveryCommand delivery.kind).invoke
  if Text.strip command = "" then
    waiting "HUMAN_REQUIRED" delivery.commandRequired delivery.capability
  else do
    let out : Fields ← (ExecutorCall.runCommand delivery.kind (Text.strip command) sha).invoke
    if Json.get out "status" = .str "FAIL" then
      return .result (failFields state key delivery.commandFailed out)
    else if Json.get out "status" = .str "PASS" then do
      let refs ← Program.ofExcept (Json.toList (Json.get out "evidence_refs"))
      return .result (subjectFields state key sha refs
        [("adapter", .str "COMMAND"), ("artifact_digest", Json.get out "artifact_digest"),
          delivery.progress, ("provider_readback", .bool true),
          ("readback_id", Json.get out "readback_id")])
    else
      waiting "NOT_VERIFIED" (textMember out "reason" delivery.attestationRequired)
        delivery.capability

/-- The phases without an adapter. -/
def deliverNothing (delivery : Delivery) (config : Fields) (state : Journal) (key sha : String) :
    Executor Produced :=
  if Json.get config delivery.requiredMember = .bool true then
    waiting "HUMAN_REQUIRED" delivery.adapterRequired delivery.capability
  else
    return .result (subjectFields state key sha []
      [("not_applicable_reason", .str delivery.notRequired)])

def promotion : Delivery where
  kind := "promotion"
  capability := "promote"
  adapterMember := "promotion_adapter"
  requiredMember := "deployment_required"
  commandRequired := "DEPLOYMENT_COMMAND_REQUIRED"
  commandFailed := "PROMOTION_COMMAND_FAILED"
  attestationRequired := "PROMOTION_ATTESTATION_REQUIRED"
  adapterRequired := "DEPLOYMENT_ADAPTER_REQUIRED"
  notRequired := "DEPLOYMENT_EXPLICITLY_NOT_REQUIRED"
  progress := ("promotion", .str "COMPLETED")

def observation : Delivery where
  kind := "observation"
  capability := "observe"
  adapterMember := "observation_adapter"
  requiredMember := "observation_required"
  commandRequired := "OBSERVATION_COMMAND_REQUIRED"
  commandFailed := "OBSERVATION_FAILED"
  attestationRequired := "OBSERVATION_ATTESTATION_REQUIRED"
  adapterRequired := "OBSERVATION_ADAPTER_REQUIRED"
  notRequired := "OBSERVATION_EXPLICITLY_NOT_REQUIRED"
  progress := ("observation", .str "PASS")

/-- `promote_executor`. -/
def promoteExecutor : Executor Produced := do
  let config : Fields ← ExecutorCall.delivery.invoke
  let sha := subjectText state
  let adapter := textMember config promotion.adapterMember "NONE"
  if adapter = "REFERENCE_LOCAL" then do
    let out : Fields ← (ExecutorCall.promoteReference sha).invoke
    return .result (subjectFields state key sha []
      [("adapter", .str "REFERENCE_LOCAL"), ("artifact_digest", Json.get out "artifact_digest"),
        ("not_applicable_reason", .str "REFERENCE_LOCAL_NON_PRODUCTION_DELIVERY"),
        ("production_verified", .bool false), ("promotion", .str "COMPLETED")])
  else if adapter = "COMMAND" then deliverByCommand promotion state key sha
  else deliverNothing promotion config state key sha

/-- `observe_executor`. -/
def observeExecutor : Executor Produced := do
  let config : Fields ← ExecutorCall.delivery.invoke
  let sha := subjectText state
  let adapter := textMember config observation.adapterMember "NONE"
  if adapter = "REFERENCE_LOCAL" then do
    let out : Fields ← (ExecutorCall.observeReference sha).invoke
    if Json.get out "status" = .str "PASS" then
      return .result (subjectFields state key sha []
        [("adapter", .str "REFERENCE_LOCAL"), ("artifact_digest", Json.get out "artifact_digest"),
          ("not_applicable_reason", .str "REFERENCE_LOCAL_NON_PRODUCTION_OBSERVATION"),
          ("observation", .str "PASS"), ("production_verified", .bool false)])
    else return .result (failFields state key (textMember out "reason" "OBSERVATION_FAILED") out)
  else if adapter = "COMMAND" then deliverByCommand observation state key sha
  else deliverNothing observation config state key sha

/-- `done_executor`. -/
def doneExecutor : Executor Produced := do
  let refs : List Json ← ExecutorCall.evidenceRefs.invoke
  let reason := if refs = [] then .str "NO_EXTERNAL_CLOSE_EVIDENCE_REQUIRED" else .null
  return .result (resultFields state key
    { subjectSha := state.subjectSha, previewDigest := state.previewDigest, evidenceRefs := refs
      metadata :=
        [("issue_close_deferred_to_cleanup", .bool true), ("not_applicable_reason", reason)] })

/-! ## CLEANUP and NEXT -/

/-- The metadata of a finished cleanup. -/
def cleanupFields (key mainSha : String) (lease : Lease)
    (released : Registry × String) (issueClosed : Bool) : Fields :=
  passFields state key
    [("cleanup", .str "RUNTIME_PROJECTIONS_RETAINED_AUDIT_LOG_IMMUTABLE"),
      ("issue_closed", .bool issueClosed), ("lease_id", .str lease.leaseId),
      ("lease_registry_revision", .num released.1.revision),
      ("lease_release_anchor", .str released.2),
      ("provider_reconciliation_ref", .str ("github:commit:" ++ mainSha))]

/-- The closing of the issue in `cleanup_executor`. -/
def closeWorkIssue (key mainSha : String) (lease : Lease)
    (released : Registry × String) : Executor Produced :=
  if isDigits state.issueId then do
    let closed : Issue ← (ExecutorCall.closeIssue state.issueId).invoke
    if closed.state = "closed" then
      return .result (cleanupFields state key mainSha lease released true)
    else waiting "NOT_VERIFIED" "ISSUE_CLOSE_READBACK_NOT_CONFIRMED" "cleanup"
  else return .result (cleanupFields state key mainSha lease released false)

/-- The release of the lease, its readback and what follows. -/
def releaseAndClose (key mainSha worker : String) (lease : Lease) :
    Executor Produced := do
  let released : Registry × String ← (ExecutorCall.releaseLease
    { expectedMainSha := mainSha, policyMaxParallelWriters := 1, leaseId := lease.leaseId
      workerId := worker, providerReconciliationRef := "github:commit:" ++ mainSha }).invoke
  let reread : Registry × Option String ← (ExecutorCall.readLeases mainSha 1).invoke
  if reread.1.leases.any fun other =>
      other.status = .active && other.leaseId = lease.leaseId then
    waiting "NOT_VERIFIED" "LEASE_RELEASE_READBACK_ACTIVE" "cleanup"
  else closeWorkIssue state key mainSha lease released

/-- `str(state.get("delivery_sha") or "")`, on a journal that holds a text or `None`. -/
def deliveryText : String :=
  state.deliverySha.asText.getD ""

/-- The `try` block of `cleanup_executor`. -/
def cleanupLease : Executor Produced := do
  let mainSha ← currentMain
  if Text.isSha40 (deliveryText state) ∧ mainSha = deliveryText state then do
    let read : Registry × Option String ← (ExecutorCall.readLeases mainSha 1).invoke
    let worker ← Program.ofExcept (writerId state)
    match read.1.leases.filter (sameLease state worker (state.workBranch.getD "")) with
    | [lease] => releaseAndClose state key mainSha worker lease
    | matched =>
        waiting "NOT_VERIFIED" "CLEANUP_ACTIVE_LEASE_REQUIRED" "cleanup"
          [("matches", .num matched.length)]
  else
    waiting "NOT_VERIFIED" "CLEANUP_DELIVERY_MAIN_REQUIRED" "cleanup"
      [("current_main", .str mainSha), ("delivery_sha", .str (deliveryText state))]

/-- `cleanup_executor`. -/
def cleanupExecutor : Executor Produced :=
  connected "cleanup" fun _ =>
    withPolicy "cleanup" fun _ => do
      match ← attempt (cleanupLease state key) with
      | .ok produced => return produced
      | .error error =>
          waiting "NOT_VERIFIED" "LEASE_PROVIDER_RELEASE_FAILED" "cleanup" (contractError error)

/-- `next_executor`. -/
def nextExecutor : Executor Produced :=
  return .result (resultFields state key
    { outcome := "ROADMAP_COMPLETE", subjectSha := state.subjectSha
      previewDigest := state.previewDigest
      metadata := [("queue_handled_by_owner_intent_service", .bool true)] })

/-- The phases that pass the guard first. -/
def needsWriterLease : Phase → Bool
  | .reconcile | .authorize | .claim | .next | .unknown _ => false
  | _ => true

/-- The phases whose executor is `creative_executor`. -/
def isCreative : Phase → Bool
  | .execute | .recovery => true
  | _ => false

/-- `REGISTRY` outside the creative phases. -/
def phaseExecutor (state : Journal) (key : String) :
    Executor Produced :=
  match state.phase with
  | .reconcile => reconcileExecutor state key
  | .authorize => authorizeExecutor state key
  | .claim => claimExecutor sha256 state key
  | .workspace => workspaceExecutor state key
  | .openPr => openPrExecutor state key
  | .ci => ciExecutor state key
  | .review => reviewExecutor state key
  | .preview => previewExecutor state key
  | .ownerAcceptance => ownerExecutor state
  | .merge => mergeExecutor state key
  | .promote => promoteExecutor state key
  | .observe => observeExecutor state key
  | .done => doneExecutor state key
  | .cleanup => cleanupExecutor state key
  | .next => nextExecutor state key
  | .execute | .recovery | .unknown _ => .fail ("PHASE_EXECUTOR_MISSING:" ++ state.phase.name)

end Adwf.Supervisor
