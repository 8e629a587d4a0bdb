import Adwf.Orchestrator.Step

/-!
# The journal directory of one root

`.adwf-runtime/orchestration` holds one file for each run.  `newRun` opens a run
when `listActive` finds none; `advance` loads one file, steps it and saves it.
-/

namespace Adwf.Orchestrator

open Adwf.Policy Adwf.Fallible

variable (directory : Directory) (rt : Runtime)

/-- A file of the directory: a journal, or text the strict loader rejects. -/
inductive StoredFile where
  | journal (value : Journal)
  | unreadable

/-- The files of the directory by run id. -/
abbrev Directory := List (String × StoredFile)

/-- An entry of `list_active`. -/
inductive ActiveRun where
  | run (value : Journal)
  | broken (runId : String)

namespace Directory

/-- `os.replace` onto the file of `runId`. -/
def write (runId : String) (file : StoredFile) : Directory :=
  (runId, file) :: directory.filter fun entry => entry.1 ≠ runId

@[simp]
theorem lookup_write (runId : String) (file : StoredFile) :
    (directory.write runId file).lookup runId = some file := by
  simp [write]

/-- What `list_active` reports of one file. -/
def activeEntry : String × StoredFile → Option ActiveRun
  | (_, .journal value) =>
      if validateJournal rt value = [] ∧ value.status.isActive = true then
        some (.run value)
      else none
  | (runId, .unreadable) => some (.broken runId)

/-- `list_active`. -/
def listActive (directory : Directory) : List ActiveRun :=
  directory.filterMap (activeEntry rt)

/-- `_run_id` on a given id. -/
def isRunId (text : String) : Bool :=
  match text.toList with
  | [] => false
  | first :: rest =>
      Text.isAlphanumeric first && 7 ≤ rest.length && rest.length ≤ 96 &&
        rest.all fun char => Text.isAlphanumeric char || ['_', '.', '-'].contains char

/-- The revision of the file a save replaces, `-1` when there is none. -/
def currentRevision (runId : String) : Except String Int :=
  match directory.lookup runId with
  | none => .ok (-1)
  | some (.journal value) => .ok value.revision
  | some .unreadable => .error "JSONDecodeError"

/-- `OrchestrationJournal.save`. -/
def save (value : Journal) (expectedRevision : Option Int)
    (savedAt : Int) : Except String (Directory × Journal) := do
  require (isRunId value.runId = true) "RUN_ID_INVALID"
  let actual ← currentRevision directory value.runId
  require (expectedRevision = none ∨ expectedRevision = some actual)
    "ORCHESTRATION_REVISION_CONFLICT"
  let payload := { value with revision := actual + 1, updatedAt := .at savedAt }
  return (directory.write value.runId (.journal payload), payload)

/-- `OrchestrationJournal.load`. -/
def load (directory : Directory) (runId : String) :
    Except String Journal := do
  require (isRunId runId = true) "RUN_ID_INVALID"
  match directory.lookup runId with
  | none => .error "ORCHESTRATION_RUN_NOT_FOUND"
  | some .unreadable => .error "JSONDecodeError"
  | some (.journal value) =>
      if validateJournal rt value = [] then .ok value
      else
        .error ("ORCHESTRATION_JOURNAL_INVALID:" ++
          ",".intercalate (validateJournal rt value))

end Directory

/-- The arguments of `new_run`, with what the call reads of its surroundings. -/
structure RunRequest where
  roadmapId : String
  issueId : String
  risk : String
  workType : String
  productImpact : Bool
  ownerRequestDigest : String
  runId : Option String := none
  maxAttempts : Int := 3
  maxCycles : Int := 100
  maxElapsedMinutes : Int := 1440
  effectivePolicy : Option PolicyIR
  uuid : String
  createdAt : Int
  savedAt : Int

namespace RunRequest

/-- `value or str(uuid.uuid4())`. -/
def chosenRunId (request : RunRequest) : String :=
  match request.runId with
  | some runId => if runId = "" then request.uuid else runId
  | none => request.uuid

/-- The journal `new_run` hands to `save`. -/
def journal (request : RunRequest) (policyHash : String) : Journal where
  runId := request.chosenRunId
  roadmapId := request.roadmapId
  issueId := request.issueId
  risk := request.risk
  workType := request.workType
  productImpact := request.productImpact
  ownerRequestDigest := request.ownerRequestDigest
  phase := .reconcile
  status := .running
  cycle := 0
  subjectSha := .null
  previewDigest := .null
  ownerAcceptanceSha := .null
  deliverySha := .null
  pullRequestNumber := none
  previewAttestationId := none
  workBranch := none
  policyHash := policyHash
  attempts := []
  maxAttempts := max 0 (min request.maxAttempts 10)
  maxCycles := max 1 (min request.maxCycles 1000)
  deadlineAt := .at (request.createdAt + max 1 (min request.maxElapsedMinutes 10080) * minute)
  lastFailedPhase := none
  blockers := []
  monetaryBudgetUsd := 0
  events := []
  eventHead := none
  revision := 0
  createdAt := .at request.createdAt
  updatedAt := .at request.createdAt

end RunRequest

/-- `new_run`. -/
def newRun (directory : Directory) (request : RunRequest) :
    Except String (Directory × Journal) := do
  require ((directory.listActive rt).isEmpty = true) "ACTIVE_OR_BROKEN_ORCHESTRATION_EXISTS"
  match request.effectivePolicy with
  | none => .error "POLICY_IR_INVALID"
  | some policy => directory.save (request.journal policy.policyHash) none request.savedAt

/-- `advance_run`. -/
def advance (directory : Directory) (runId : String) (call : StepCall) :
    Except String (Directory × Journal) := do
  let state ← directory.load rt runId
  match ← advanceState rt state call with
  | .unchanged => return (directory, state)
  | .save next => directory.save next (some state.revision) call.savedAt

/-- A journal as `newRun` stores it: the fresh journal of some request, over any
older terminal file of its run id. -/
def Opened (request : RunRequest) (start : Journal) : Prop :=
  ∃ directory after, newRun rt directory request = .ok (after, start)

theorem save_eq_ok {directory after : Directory} {value payload : Journal}
    {expectedRevision : Option Int} {savedAt : Int}
    (ran : directory.save value expectedRevision savedAt = .ok (after, payload)) :
    ∃ actual, directory.currentRevision value.runId = .ok actual ∧
      (expectedRevision = none ∨ expectedRevision = some actual) ∧
      payload = { value with revision := actual + 1, updatedAt := .at savedAt } ∧
      after = directory.write value.runId (.journal payload) := by
  simp only [Directory.save, bind_ok_iff, require_eq_ok_iff, exists_const] at ran
  obtain ⟨_, actual, current, expected, pair_eq⟩ := ran
  cases pair_eq
  exact ⟨actual, current, expected, rfl, rfl⟩

theorem lookup_of_load {rt : Runtime} {directory : Directory} {runId : String}
    {value : Journal} (loaded : directory.load rt runId = .ok value) :
    directory.lookup runId = some (.journal value) := by
  simp only [Directory.load, bind_ok_iff, require_eq_ok_iff, exists_const] at loaded
  rcases loaded with ⟨_, found⟩
  split at found
  · cases found
  · cases found
  · rename_i stored held
    split_ifs at found
    cases found
    exact held

theorem newRun_eq_ok {rt : Runtime} {directory after : Directory} {request : RunRequest}
    {start : Journal} (ran : newRun rt directory request = .ok (after, start)) :
    directory.listActive rt = [] ∧ ∃ policy revision, request.effectivePolicy = some policy ∧
      start = { request.journal policy.policyHash with
        revision := revision, updatedAt := .at request.savedAt } ∧
      after = directory.write request.chosenRunId (.journal start) := by
  simp only [newRun, bind_ok_iff, require_eq_ok_iff, exists_const] at ran
  obtain ⟨inactive, stored⟩ := ran
  refine ⟨by simpa using inactive, ?_⟩
  cases loaded : request.effectivePolicy with
  | none => simp [loaded] at stored
  | some policy =>
      simp only [loaded] at stored
      obtain ⟨actual, _, _, payload_eq, after_eq⟩ := save_eq_ok stored
      exact ⟨policy, actual + 1, rfl, payload_eq, after_eq⟩

end Adwf.Orchestrator
