import Adwf.LeaseRegistry.Document
import Adwf.NextAction.Queue
import Adwf.Orchestrator.Documents

/-!
# Work memory

The one work memory file of a repository: the value `new_work_memory` builds,
what `validate_work_memory` finds in a stored document, and `WorkMemoryStore`.
-/

namespace Adwf.OrchNext

open Adwf.Fallible Orchestrator

/-! ## The value -/

/-- The members of a work memory that the code sets. -/
structure WorkMemory where
  briefId : String
  runId : Option String
  status : String := "NEW"
  taskRu : String
  constraints : List String := []
  issues : List Json := []
  productBrief : Json := .obj []
  nextActionRu : String := "Подготовить первый безопасный шаг."
  createdAt : Int
  updatedAt : Int
  revision : Int := 0
  memoryDigest : String := ""

namespace WorkMemory

/-- The members before `memory_digest`, in the order of their keys. -/
def head (memory : WorkMemory) : Fields :=
  [("blockers", .arr []), ("brief_id", .str memory.briefId), ("completed", .arr []),
    ("constraints", .arr (memory.constraints.map .str)), ("created_at", .num memory.createdAt),
    ("decisions", .arr [])]

/-- The members after `memory_digest`. -/
def tail (memory : WorkMemory) : Fields :=
  [("next_action_ru", .str memory.nextActionRu), ("open_questions", .arr []),
    ("product_brief", memory.productBrief),
    ("references", .obj [("commits", .arr []), ("issues", .arr memory.issues),
      ("previews", .arr []), ("pull_requests", .arr [])]),
    ("revision", .num memory.revision), ("run_id", Json.ofText memory.runId),
    ("schema_version", .num 1), ("session_handoffs", .arr []), ("status", .str memory.status),
    ("task_ru", .str memory.taskRu), ("updated_at", .num memory.updatedAt),
    ("verification", .arr [])]

/-- The stored document. -/
def toJson (memory : WorkMemory) : Json :=
  .obj (memory.head ++ ("memory_digest", .str memory.memoryDigest) :: memory.tail)

/-- The value with its digest recomputed. -/
def signed (rt : Runtime) (memory : WorkMemory) : WorkMemory :=
  { memory with memoryDigest := rt.digest (.obj (memory.head ++ memory.tail)) }

end WorkMemory

def newWorkMemory (rt : Runtime) (briefId taskRu : String) (runId : Option String)
    (now : Int) : Except String WorkMemory := do
  let task := Text.strip taskRu
  require (5 ≤ task.toList.length) "WORK_MEMORY_TASK_TOO_SHORT"
  return WorkMemory.signed rt
    { briefId, runId, taskRu := task, createdAt := now, updatedAt := now }

/-- `ALLOWED_STATUS`. -/
def allowedStatus : List String :=
  ["NEW", "ACTIVE", "WAITING_CI", "WAITING_OWNER", "RECOVERY", "BLOCKED", "DONE"]

/-- The members that have to be lists, with their findings. -/
def listMembers : List (String × String) :=
  [("decisions", "WORK_MEMORY_DECISIONS"), ("constraints", "WORK_MEMORY_CONSTRAINTS"),
    ("completed", "WORK_MEMORY_COMPLETED"), ("verification", "WORK_MEMORY_VERIFICATION"),
    ("blockers", "WORK_MEMORY_BLOCKERS"), ("open_questions", "WORK_MEMORY_OPEN_QUESTIONS"),
    ("session_handoffs", "WORK_MEMORY_SESSION_HANDOFFS")]

/-- `isinstance(value, list)`. -/
def isList : Json → Bool
  | .arr _ => true
  | _ => false

/-- `str(value or "").strip()`. -/
def strippedText (rt : Runtime) (value : Json) : String :=
  Text.strip (if value.truthy then rt.text value else "")

def validateWorkMemory (rt : Runtime) : Json → Except String (List String)
  | .obj value => do
      let listed ← Document.inSet allowedStatus (Json.get value "status")
      return (if Document.isNumber 1 (Json.get value "schema_version") then []
          else ["WORK_MEMORY_SCHEMA"]) ++
        (if listed then [] else ["WORK_MEMORY_STATUS"]) ++
        (if strippedText rt (Json.get value "brief_id") = "" then ["WORK_MEMORY_BRIEF"]
          else []) ++
        (if (strippedText rt (Json.get value "task_ru")).toList.length < 5 then
          ["WORK_MEMORY_TASK"] else []) ++
        ((listMembers.filter fun mem => !isList (Json.get value mem.1)).map Prod.snd) ++
        (if Json.get value "memory_digest" =
            .str (rt.digest (.obj (value.filter fun field => field.1 ≠ "memory_digest"))) then []
          else ["WORK_MEMORY_DIGEST"])
  | _ => .error "AttributeError"

/-- What is at the path of the work memory. -/
inductive MemoryFile where
  | absent
  /-- Something that is no regular file. -/
  | occupied
  /-- A file that the strict loader rejects. -/
  | unreadable
  | document (value : Json)
  deriving DecidableEq

namespace MemoryFile

/-- `WorkMemoryStore.load`. -/
def load (rt : Runtime) : MemoryFile → Except String (Option Json)
  | absent => return none
  | occupied => return none
  | unreadable => .error "ValueError"
  | document value => do
      let errors ← validateWorkMemory rt value
      require (errors = []) ("WORK_MEMORY_INVALID:" ++ ",".intercalate errors)
      return some value

/-- `WorkMemoryStore.save` without an expected revision. -/
def save (rt : Runtime) (file : MemoryFile) (value : WorkMemory) (savedAt : Int) :
    Except String (MemoryFile × WorkMemory) := do
  let current ← file.load rt
  let revision ← Document.revision rt (current.getD .null)
  let payload := WorkMemory.signed rt
    { value with revision := revision + 1, updatedAt := savedAt }
  require (file ≠ occupied) "IsADirectoryError"
  return (.document payload.toJson, payload)

end MemoryFile

end Adwf.OrchNext

/-!
## The next run

`bootstrap_next_run`: the checks of the fresh provider facts, the selection of
one successor, and the two writes that start it.
-/

namespace Adwf.OrchNext

open Adwf.Fallible Orchestrator

variable (rt : Runtime)
variable (facts : Facts)

/-- The members of a project state that are read; `none` is an absent member. -/
structure ProjectState where
  mainHead : Option String
  status : Option String
  adwfHealth : Option String
  sourceMainSha : Option String
  observedAt : Option Timestamp
  validUntil : Option Timestamp
  evidenceDigest : Json
  /-- `none` when `work_items` is no list of dictionaries. -/
  workItems : Option (List NextAction.Issue)

/-- An assurance snapshot, with what `validate_assurance_snapshot` finds in it for an expected
SHA and policy hash. -/
structure AssuranceSnapshot where
  errors : String → String → List String
  health : List (String × String)
  refsResolved : Option Bool
  costStatus : Option String
  projectedCostUsd : Option Json

structure ProviderReadback where
  subjectSha : Option String
  factsReadbackVerified : Option Bool
  repositoryVisibility : Option String
  largerRunner : Option Bool

/-- A verified policy IR with the members the bootstrap reads. -/
structure EffectivePolicy extends Policy.PolicyIR where
  activeAutonomy : Option String
  maxAutonomousRisk : Option String
  maxParallelWriters : Option Int

/-- The arguments of `bootstrap_next_run`, with what the call reads of its surroundings. -/
structure Facts where
  projectState : ProjectState
  leaseRegistry : LeaseRegistry.Registry
  assuranceSnapshot : AssuranceSnapshot
  providerReadback : ProviderReadback
  /-- What the first `load_effective_policy` returns or raises. -/
  effectivePolicy : Except String EffectivePolicy
  /-- What `new_run` loads. -/
  reloadedPolicy : Option Policy.PolicyIR
  now : Int
  /-- What `choose_next` reads. -/
  clock : Int
  uuid : String
  runCreatedAt : Int
  runSavedAt : Int
  memoryCreatedAt : Int
  memorySavedAt : Int

/-- `_SAFE_HEALTH`. -/
def safeHealth : List String :=
  ["HEALTHY", "VERIFIED"]

/-- `_parse_time`; an absent member prints as `None`. -/
def parseTime (mem : Option Timestamp) (error : String) : Except String Int :=
  match mem.bind Timestamp.parse with
  | some instant => .ok instant
  | none => .error error

/-- `_validate_fresh_inputs`. -/
def validateFreshInputs :
    Except String (String × EffectivePolicy) := do
  let state := facts.projectState
  let snapshot := facts.assuranceSnapshot
  let readback := facts.providerReadback
  let registry := facts.leaseRegistry
  let mainSha := state.mainHead.getD ""
  require (Text.isSha40 mainSha = true ∧ state.sourceMainSha.getD "" = mainSha)
    "ORCH_NEXT_MAIN_BINDING_INVALID"
  require (state.status = some "ACTIVE" ∧ ∃ health ∈ state.adwfHealth, health ∈ safeHealth)
    "ORCH_NEXT_RECONCILIATION_NOT_HEALTHY"
  let observed ← parseTime state.observedAt "ORCH_NEXT_SNAPSHOT_TIME_INVALID"
  let validUntil ← parseTime state.validUntil "ORCH_NEXT_SNAPSHOT_TIME_INVALID"
  require (observed ≤ facts.now ∧ facts.now < validUntil) "ORCH_NEXT_SNAPSHOT_STALE"
  let policy ← facts.effectivePolicy
  let assuranceErrors := snapshot.errors mainSha policy.policyHash
  require (assuranceErrors = []) ("ORCH_NEXT_ASSURANCE_INVALID:" ++ ",".intercalate assuranceErrors)
  require (readback.subjectSha = some mainSha ∧ readback.factsReadbackVerified = some true)
    "ORCH_NEXT_PROVIDER_READBACK_INVALID"
  require (readback.repositoryVisibility = some "PUBLIC" ∧ readback.largerRunner ≠ some true)
    "ORCH_NEXT_PROVIDER_PROFILE_INVALID"
  require (snapshot.costStatus = some "VERIFIED_ZERO") "ORCH_NEXT_COST_NOT_VERIFIED_ZERO"
  let cost ← rt.float (snapshot.projectedCostUsd.getD (.num (-1)))
  require (cost = 0) "ORCH_NEXT_COST_NOT_ZERO"
  let leaseErrors := LeaseRegistry.validateLeaseRegistry rt registry
  require (leaseErrors = []) ("ORCH_NEXT_LEASE_REGISTRY_INVALID:" ++ ",".intercalate leaseErrors)
  require (registry.observedMainSha = mainSha ∨ LeaseRegistry.activeLeases registry.leases = [])
    "ORCH_NEXT_LEASE_MAIN_DRIFT"
  require (policy.maxParallelWriters = some registry.maxParallelWriters)
    "ORCH_NEXT_LEASE_POLICY_DRIFT"
  return (mainSha, policy)

/-! ## The selection -/

/-- A lease of the registry as an item of a queue. -/
def queueLease (lease : LeaseRegistry.Lease) : NextAction.Lease where
  leaseId := some lease.leaseId
  status := some lease.status.name
  issueId := some lease.issueId
  heartbeatAt := some lease.heartbeatAt
  expiresAt := some lease.expiresAt
  workerId := some lease.workerId

def selectorQueue (state : ProjectState) (registry : LeaseRegistry.Registry) :
    Except String NextAction.Queue :=
  match state.workItems with
  | none => .error "ORCH_NEXT_WORK_ITEMS_INVALID"
  | some issues => .ok ⟨issues, (LeaseRegistry.activeLeases registry.leases).map queueLease⟩

/-- `_policy_context`. -/
def policyContext (policy : EffectivePolicy) (snapshot : AssuranceSnapshot) :
    NextAction.PolicyContext where
  action := some "claim"
  autonomy := policy.activeAutonomy
  risk := some "R0"
  maxAutonomousRisk := policy.maxAutonomousRisk
  health := some snapshot.health
  providerAllowed := some true
  providerPotentiallyPaid := some false
  projectedCost := some 0
  writerConflict := some false
  exactSha := some true
  evidenceFresh := some (snapshot.refsResolved = some true)
  providerFactsFresh := some true

/-- An `issue["number"]` that is an `int` of at least one. -/
def issueNumber : Json → Option Int
  | .num number => if number.den = 1 ∧ 1 ≤ number then some number.num else none
  | _ => none

/-- `str(issue.get("roadmap_id") or issue.get("id") or "")`. -/
def roadmapIdOf (issue : NextAction.Issue) : String :=
  match issue.roadmapId with
  | some roadmapId => if roadmapId = "" then issue.id else roadmapId
  | none => issue.id

/-- `first or second` of optional texts. -/
def firstText (first second : Option String) : Option String :=
  match first with
  | some text => if text = "" then second else some text
  | none => second

/-- `str(issue.get("goal") or issue.get("title") or f"Roadmap {roadmap_id}").strip()`. -/
def taskOf (issue : NextAction.Issue) : String :=
  let named := firstText issue.goal (firstText issue.title none)
  Text.strip (named.getD ("Roadmap " ++ roadmapIdOf issue))

/-! ## The answers -/

/-- What `bootstrap_next_run` returns. -/
inductive Response where
  /-- `BLOCK` without a decision. -/
  | block (reason : String)
  /-- `ACTIVE_RUN_EXISTS`. -/
  | activeRunExists (runId : Json)
  /-- `WRITER_BUSY`, with the lease when there is one. -/
  | writerBusy (leaseId : Option String)
  /-- `NO_ROADMAP_WORK` or `BLOCK` after a decision. -/
  | notClaimed (status reason : String) (decision : NextAction.Action) (reasonCodes : List String)
  /-- `RUN_CREATED`. -/
  | runCreated (runId roadmapId issueId mainSha : String) (leaseRegistryRevision : Int)
  deriving DecidableEq

/-- The run that is to be created. -/
structure Successor where
  issue : NextAction.Issue
  number : Int
  mainSha : String
  request : RunRequest

/-- The answer while a run is active. -/
def activeResponse : List Json → Response
  | [run] =>
      if Document.status run = .str "BROKEN" then .block "MULTIPLE_OR_BROKEN_ACTIVE_RUNS"
      else
        match run with
        | .obj members => .activeRunExists (Json.get members "run_id")
        | _ => .activeRunExists .null
  | _ => .block "MULTIPLE_OR_BROKEN_ACTIVE_RUNS"

/-- `_digest(provenance)`. -/
def provenanceDigest (mainSha roadmapId : String)
    (number : Int) (policy : EffectivePolicy) : String :=
  rt.digest (.obj [("issue_number", .num number),
    ("lease_registry_revision", .num facts.leaseRegistry.revision), ("main_sha", .str mainSha),
    ("policy_hash", .str policy.policyHash), ("roadmap_id", .str roadmapId),
    ("snapshot_digest", facts.projectState.evidenceDigest)])

/-- The arguments of `new_run` for the selected issue. -/
def successor (mainSha : String) (policy : EffectivePolicy)
    (issue : NextAction.Issue) (number : Int) : Successor where
  issue := issue
  number := number
  mainSha := mainSha
  request :=
    { roadmapId := roadmapIdOf issue
      issueId := toString number
      risk := (firstText issue.risk none).getD "R1"
      workType := (firstText issue.type none).getD "feature"
      productImpact := issue.productImpact.truthy
      ownerRequestDigest := provenanceDigest rt facts mainSha (roadmapIdOf issue) number policy
      maxElapsedMinutes := 1440
      effectivePolicy := facts.reloadedPolicy
      uuid := facts.uuid
      createdAt := facts.runCreatedAt
      savedAt := facts.runSavedAt }

/-- The answer to a decision, or the run it asks for. -/
def followDecision (mainSha : String)
    (policy : EffectivePolicy) (decision : NextAction.Outcome) : Response ⊕ Successor :=
  if decision.action ≠ .claimOneReady then
    let status := if decision.action = .roadmapCompleteOrEmpty then "NO_ROADMAP_WORK" else "BLOCK"
    .inl (.notClaimed status decision.reason decision.action decision.reasonCodes)
  else
    match decision.issue with
    | none => .inl (.block "ORCH_NEXT_ISSUE_NUMBER_INVALID")
    | some issue =>
        match issueNumber issue.number with
        | none => .inl (.block "ORCH_NEXT_ISSUE_NUMBER_INVALID")
        | some number => .inr (successor rt facts mainSha policy issue number)

/-- The part of `bootstrap_next_run` before `new_run`, on no active run. -/
def selectSuccessor : Except String (Response ⊕ Successor) :=
  match validateFreshInputs rt facts with
  | .error text => .ok (.inl (.block (String.ofList (text.toList.take 240))))
  | .ok (mainSha, policy) =>
      match LeaseRegistry.activeLeases facts.leaseRegistry.leases with
      | [lease] => .ok (.inl (.writerBusy (some lease.leaseId)))
      | _ :: _ :: _ => .ok (.inl (.writerBusy none))
      | [] => do
          let queue ← selectorQueue facts.projectState facts.leaseRegistry
          let decision := NextAction.authorizeNextAction queue
            (policyContext policy facts.assuranceSnapshot) (some policy.toPolicyIR) facts.now
            facts.clock
          return followDecision rt facts mainSha policy decision

/-- The part of `bootstrap_next_run` before `new_run`. -/
def prepare (journals : FileDirectory) :
    Except String (Response ⊕ Successor) := do
  let active ← journals.listActive rt
  if active = [] then selectSuccessor rt facts
  else return .inl (activeResponse active)

/-- The two stores of a repository. -/
structure Stores where
  journals : FileDirectory
  memory : MemoryFile

/-- The work memory of a new run as it is handed to `save`. -/
def successorMemory (next : Successor) (runId : String) :
    Except String WorkMemory := do
  let memory ← newWorkMemory rt next.request.roadmapId (taskOf next.issue) (some runId)
    facts.memoryCreatedAt
  return { memory with
    status := "ACTIVE"
    constraints := ["FREE_ONLY monetary budget $0.",
      "Fail closed on stale provider facts, policy drift, or writer conflict.",
      "Exact bootstrap main SHA: " ++ next.mainSha ++ "."]
    issues := [.num next.number]
    nextActionRu :=
      "Продолжить durable run через fresh provider reconciliation и Execution Node." }

/-- The work memory of a new run, saved. -/
def saveSuccessorMemory (memory : MemoryFile)
    (next : Successor) (runId : String) : Except String MemoryFile := do
  let value ← successorMemory rt facts next runId
  let saved ← memory.save rt value facts.memorySavedAt
  return saved.1

/-- The part of `bootstrap_next_run` from `new_run` on: the stores it leaves and its answer. -/
def startSuccessor (stores : Stores) (next : Successor) :
    Stores × Except String Response :=
  match stores.journals.newRun rt next.request with
  | .error error => (stores, .error error)
  | .ok (journals, run) =>
      match saveSuccessorMemory rt facts stores.memory next run.runId with
      | .error error => (⟨journals, stores.memory⟩, .error error)
      | .ok memory =>
          (⟨journals, memory⟩, .ok (.runCreated run.runId next.request.roadmapId
            next.request.issueId next.mainSha facts.leaseRegistry.revision))

def bootstrapNextRun (stores : Stores) :
    Stores × Except String Response :=
  match prepare rt facts stores.journals with
  | .error error => (stores, .error error)
  | .ok (.inl response) => (stores, .ok response)
  | .ok (.inr next) => startSuccessor rt facts stores next

end Adwf.OrchNext
