import Adwf.Orchestrator.Exclusive

/-!
# Journal files as parsed documents

A `Journal` has members of the right kind.  The files of the directory may hold
any document, so `list_active`, `save` and `new_run` are stated once more on
parsed JSON, with the errors Python raises on a member of another kind.  On
documents written by the code the two models agree (`newRun_encode`).
-/

namespace Adwf.Orchestrator

open Adwf.Fallible

variable (rt : Runtime)
variable (directory : FileDirectory)

/-- A file of the directory: the document its text parses to, or text the
strict loader rejects. -/
inductive JournalFile where
  | document (value : Json)
  | unreadable

/-- The files of the directory by run id. -/
abbrev FileDirectory := List (String × JournalFile)

namespace Phase

/-- `PHASES`. -/
def all : List Phase :=
  [reconcile, authorize, claim, workspace, execute, openPr, ci, review, preview, ownerAcceptance,
    merge, promote, observe, done, cleanup, next, recovery]

end Phase

namespace Status

def name : Status → String
  | running => "RUNNING"
  | retryWait => "RETRY_WAIT"
  | recovery => "RECOVERY"
  | humanRequired => "HUMAN_REQUIRED"
  | block => "BLOCK"
  | blocked => "BLOCKED"
  | complete => "COMPLETE"
  | other name => name

/-- The statuses with a name of their own. -/
def all : List Status :=
  [running, retryWait, recovery, humanRequired, block, blocked, complete]

end Status

/-! ## Documents of journals -/

/-- An event of the file, its members sorted by key. -/
def Event.toJson (event : Event) : Json :=
  .obj [("cost_usd", .num event.costUsd), ("decision", decisionJson event.decision),
    ("event_hash", .str event.eventHash),
    ("event_id", .str event.eventId),
    ("evidence_refs", .arr event.evidenceRefs),
    ("idempotency_key", .str event.idempotencyKey),
    ("metadata", .obj event.metadata),
    ("occurred_at", event.occurredAt.toJson),
    ("outcome", .str event.outcome.name),
    ("phase", .str event.phase.name),
    ("previous_event_hash", Json.ofText event.previousEventHash),
    ("reason_codes", .arr event.reasonCodes),
    ("sequence", .num event.sequence),
    ("subject_sha", event.subjectSha)]

/-- The members of the document `save` writes. -/
def Journal.members (value : Journal) : Fields :=
  [("$schema", .str ".adwf/schemas/orchestration-run.schema.json"),
    ("attempts", .obj (value.attempts.map fun entry => (entry.1.name, .num entry.2))),
    ("blockers", .arr value.blockers),
    ("created_at", value.createdAt.toJson),
    ("cycle", .num value.cycle),
    ("deadline_at", value.deadlineAt.toJson),
    ("delivery_sha", value.deliverySha),
    ("event_head", Json.ofText value.eventHead),
    ("events", .arr (value.events.map Event.toJson)),
    ("issue_id", .str value.issueId),
    ("last_failed_phase", Json.ofText (value.lastFailedPhase.map Phase.name)),
    ("max_attempts", .num value.maxAttempts),
    ("max_cycles", .num value.maxCycles),
    ("monetary_budget_usd", .num value.monetaryBudgetUsd),
    ("owner_acceptance_sha", value.ownerAcceptanceSha),
    ("owner_request_digest", .str value.ownerRequestDigest),
    ("phase", .str value.phase.name),
    ("policy_hash", .str value.policyHash),
    ("preview_attestation_id", Json.ofText value.previewAttestationId),
    ("preview_digest", value.previewDigest),
    ("product_impact", .bool value.productImpact),
    ("pull_request_number", match value.pullRequestNumber with
      | none => .null
      | some number => .num number),
    ("revision", .num value.revision),
    ("risk", .str value.risk),
    ("roadmap_id", .str value.roadmapId),
    ("run_id", .str value.runId),
    ("schema_version", .num value.schemaVersion),
    ("status", .str value.status.name),
    ("subject_sha", value.subjectSha),
    ("updated_at", value.updatedAt.toJson),
    ("work_branch", Json.ofText value.workBranch),
    ("work_type", .str value.workType)]

def Journal.toJson (value : Journal) : Json :=
  .obj value.members

/-! ## `validate_journal` on a document -/

namespace Document

/-- `dict.get(key, default)`. -/
def getOr (fields : Fields) (key : String) (default : Json) : Json :=
  (fields.lookup key).getD default

/-- Equality with a number; Python counts `True` as 1. -/
def isNumber (number : Rat) : Json → Bool
  | .num value => value = number
  | .bool value => (if value then 1 else 0) = number
  | _ => false

/-- Membership in a set of texts; a list or a dictionary has no hash. -/
def inSet (names : List String) : Json → Except String Bool
  | .str name => .ok (names.contains name)
  | .arr _ | .obj _ => .error "TypeError"
  | _ => .ok false

/-- Integers from here on do not fit a `float`. -/
def floatLimit : Rat :=
  ((Nat.pow 2 1024 - Nat.pow 2 970 : Nat) : Rat)

/-- `float(value)` of the budget member. -/
def budget : Json → Except String Rat
  | .num value =>
      if floatLimit ≤ value ∨ value ≤ -floatLimit then .error "OverflowError" else .ok value
  | .arr _ | .obj _ => .error "TypeError"
  | value => rt.float value

def phaseNames : List String :=
  Phase.all.map Phase.name

/-- `DELIVERY_STATE_PHASES`. -/
def deliveryStates : List String :=
  ["PROMOTE", "OBSERVE", "DONE", "CLEANUP", "NEXT"]

/-- `ACTIVE_STATUSES`. -/
def activeStatuses : List String :=
  ["RUNNING", "RETRY_WAIT", "RECOVERY", "HUMAN_REQUIRED"]

/-- The statuses on which `advance_run` returns at once. -/
def terminalStatuses : List String :=
  ["COMPLETE", "BLOCKED"]

/-- `_event_hash`. -/
def eventHash (event : Fields) : Json :=
  .str (rt.digest (.obj (event.filter fun field => field.1 ≠ "event_hash")))

/-- The event loop of `validate_journal`. -/
def validateEvents (rt : Runtime) (index : Nat) (previous : Json) :
    List Json → Except String (List String × Json)
  | [] => .ok ([], previous)
  | .obj event :: rest => do
      let stored := Json.get event "event_hash"
      let later ← validateEvents rt (index + 1) stored rest
      return ((if isNumber (index + 1) (Json.get event "sequence") then []
          else ["EVENT_SEQUENCE:" ++ toString index]) ++
        (if Json.get event "previous_event_hash" ≠ previous then
          ["EVENT_CHAIN:" ++ toString index] else []) ++
        (if stored ≠ eventHash rt event then ["EVENT_HASH:" ++ toString index] else []) ++
        later.1, later.2)
  | _ :: _ => .error "AttributeError"

/-- The findings of `validate_journal` after the event loop. -/
def validateDelivery (value : Fields) (delivered : Bool) : List String :=
  let deliverySha := Json.get value "delivery_sha"
  (if deliverySha ≠ .null && !isSha deliverySha then ["DELIVERY_SHA"] else []) ++
  (if delivered then
    if !isSha deliverySha then ["DELIVERY_SHA_REQUIRED"]
    else if Json.get value "subject_sha" ≠ deliverySha then ["DELIVERY_SUBJECT_MISMATCH"]
    else []
  else [])

/-- `validate_journal`: the findings, or the error of a member of another kind. -/
def validate : Json → Except String (List String)
  | .obj value => do
      let phase := Json.get value "phase"
      let amount ← budget rt (getOr value "monetary_budget_usd" (.num (-1)))
      let findings :=
        (if isNumber 1 (Json.get value "schema_version") then [] else ["SCHEMA_VERSION"]) ++
        (if !phase.textSatisfies (fun name => phaseNames.contains name) &&
            Json.get value "status" ≠ .str "COMPLETE" then ["PHASE"] else []) ++
        (if amount ≠ 0 then ["MONETARY_BUDGET"] else [])
      match Json.get value "events" with
      | .arr events => do
          let chain ← validateEvents rt 0 .null events
          let delivered ← inSet deliveryStates phase
          return findings ++ chain.1 ++
            (if Json.get value "event_head" ≠ chain.2 then ["EVENT_HEAD"] else []) ++
            validateDelivery value delivered
      | _ => return findings ++ ["EVENTS"]
  | _ => .error "AttributeError"

/-- `value.get("status")`. -/
def status : Json → Json
  | .obj value => Json.get value "status"
  | _ => .null

/-- `int((current or {}).get("revision", -1))`. -/
def revision (rt : Runtime) (current : Json) : Except String Int :=
  if current.truthy then
    match current with
    | .obj value =>
        match value.lookup "revision" with
        | none => .ok (-1)
        | some (.num number) => .ok (if 0 ≤ number then number.floor else number.ceil)
        | some (.bool flag) => .ok (if flag then 1 else 0)
        | some (.str text) => rt.int (.str text)
        | some _ => .error "TypeError"
    | _ => .error "AttributeError"
  else .ok (-1)

end Document

/-! ## The directory -/

namespace FileDirectory

/-- `os.replace` onto the file of `runId`. -/
def write (runId : String) (file : JournalFile) : FileDirectory :=
  (runId, file) :: directory.filter fun entry => entry.1 ≠ runId

/-- What `list_active` reports of one file.  A `ValueError` makes the file a broken
run, any other error leaves the function. -/
def activeEntry : String × JournalFile → Except String (Option Json)
  | (runId, .unreadable) =>
      .ok (some (.obj [("run_id", .str runId), ("status", .str "BROKEN")]))
  | (runId, .document value) =>
      match Document.validate rt value with
      | .error error =>
          if error = "ValueError" then
            .ok (some (.obj [("run_id", .str runId), ("status", .str "BROKEN")]))
          else .error error
      | .ok (_ :: _) => .ok none
      | .ok [] => do
          let active ← Document.inSet Document.activeStatuses (Document.status value)
          return if active then some value else none

/-- `list_active`. -/
def listActive (rt : Runtime) : FileDirectory → Except String (List Json)
  | [] => .ok []
  | entry :: rest => do
      let first ← activeEntry rt entry
      let others ← listActive rt rest
      return first.toList ++ others

/-- The revision of the file a save replaces, `-1` when there is none. -/
def currentRevision (runId : String) :
    Except String Int :=
  match directory.lookup runId with
  | none => .ok (-1)
  | some .unreadable => .error "JSONDecodeError"
  | some (.document current) => Document.revision rt current

/-- `OrchestrationJournal.save`. -/
def save (value : Journal)
    (expectedRevision : Option Int) (savedAt : Int) : Except String (FileDirectory × Journal) := do
  require (Directory.isRunId value.runId = true) "RUN_ID_INVALID"
  let actual ← directory.currentRevision rt value.runId
  require (expectedRevision = none ∨ expectedRevision = some actual)
    "ORCHESTRATION_REVISION_CONFLICT"
  let payload := { value with revision := actual + 1, updatedAt := .at savedAt }
  return (directory.write value.runId (.document payload.toJson), payload)

/-- `new_run`. -/
def newRun (request : RunRequest) :
    Except String (FileDirectory × Journal) := do
  let active ← directory.listActive rt
  require (active.isEmpty = true) "ACTIVE_OR_BROKEN_ORCHESTRATION_EXISTS"
  match request.effectivePolicy with
  | none => .error "POLICY_IR_INVALID"
  | some policy => directory.save rt (request.journal policy.policyHash) none request.savedAt

end FileDirectory

end Adwf.Orchestrator
