import Mathlib.Data.Finset.Erase
import Mathlib.Data.Finset.Filter
import Mathlib.Data.Finset.Insert
import Adwf.Program.Core
import Adwf.Value.Fallible
import Adwf.Value.Json
import Adwf.Value.Text

/-!
# The remote saga

An issue moves from one machine label to another and gets a new body in three
writes.  A journal records how far a saga came, and every write carries the ETag
of the read it rests on.  `runTransition` performs or resumes the move,
`compensateTransition` takes it back.
-/

namespace Adwf.RemoteSaga

open Adwf.Fallible

/-! ## Plans -/

/-- `MACHINE_LABELS`. -/
def machineLabelNames : List String :=
  ["roadmap:ready", "roadmap:in-progress", "roadmap:review", "roadmap:verification",
    "roadmap:blocked", "roadmap:hold", "roadmap:needs-spec", "roadmap:needs-split",
    "roadmap:stale", "recovery:active"]

/-- An issue: its body, empty when it has none, and the names of its labels. -/
structure Issue where
  body : String
  labels : Finset String
  deriving DecidableEq

/-- The members of a plan that no run changes. -/
structure Plan where
  sagaId : String
  idempotencyKey : String
  repo : String
  issueNumber : Int
  leaseId : String
  fromLabel : String
  targetLabel : String
  fromState : String
  toState : String
  originalBody : String
  originalBodySha256 : String
  desiredBody : String
  desiredBodySha256 : String
  policyHash : String
  deriving DecidableEq

inductive SagaStatus where
  | planned | dryRun | applying | committed | recoveryRequired | compensated
  deriving DecidableEq, Repr

inductive StepStatus where
  | pending | pass
  deriving DecidableEq, Repr

/-- `steps`, by `STEP_NAMES`. -/
structure Steps where
  addTargetLabel : StepStatus := .pending
  patchMarkerBody : StepStatus := .pending
  removeOldLabel : StepStatus := .pending
  verifyPostcondition : StepStatus := .pending
  deriving DecidableEq

def Steps.allPass : Steps :=
  ⟨.pass, .pass, .pass, .pass⟩

/-- A saga as its journal file holds it. -/
structure Saga where
  plan : Plan
  status : SagaStatus
  steps : Steps := {}
  attempts : Int := 0
  lastError : Option String := none
  deriving DecidableEq

/-- The arguments of `make_transition_plan`. -/
structure PlanRequest where
  repo : String
  issueNumber : Option Int
  issueUpdatedAt : Json
  issue : Issue
  leaseId : String
  fromLabel : String
  targetLabel : String
  fromState : String
  toState : String
  desiredBody : String
  policyHash : String

/-- `transition_key`. -/
def transitionKey (rt : Runtime) (request : PlanRequest) (issueNumber : Int) : String :=
  rt.digest (.obj [("from_state", .str request.fromState),
    ("issue_number", .num issueNumber), ("lease_id", .str request.leaseId),
    ("policy_hash", .str request.policyHash), ("repo", .str request.repo),
    ("to_state", .str request.toState)])

/-- `make_transition_plan`. -/
def makeTransitionPlan (rt : Runtime) (sha256 : String → String) (request : PlanRequest) :
    Except String Saga := do
  require (request.repo ≠ "" ∧ '/' ∈ request.repo.toList) "REPOSITORY_INVALID"
  match request.issueNumber with
  | none => .error "ISSUE_NUMBER_INVALID"
  | some issueNumber =>
      require (request.fromLabel ∈ machineLabelNames ∧ request.targetLabel ∈ machineLabelNames ∧
        request.fromLabel ≠ request.targetLabel) "STATE_LABEL_INVALID"
      require (request.issueUpdatedAt.truthy = true) "ISSUE_PROVIDER_REVISION_MISSING"
      require (request.fromLabel ∈ request.issue.labels ∧ request.targetLabel ∉ request.issue.labels)
        "ISSUE_EXPECTED_LABEL_MISMATCH"
      require (request.desiredBody ≠ "" ∧ request.issue.body ≠ request.desiredBody)
        "DESIRED_BODY_INVALID"
      require (request.policyHash.length = 64) "POLICY_HASH_INVALID"
      let key := transitionKey rt request issueNumber
      return {
        plan :=
          { sagaId := key, idempotencyKey := key, repo := request.repo, issueNumber
            leaseId := request.leaseId, fromLabel := request.fromLabel
            targetLabel := request.targetLabel, fromState := request.fromState
            toState := request.toState, originalBody := request.issue.body
            originalBodySha256 := sha256 request.issue.body, desiredBody := request.desiredBody
            desiredBodySha256 := sha256 request.desiredBody, policyHash := request.policyHash }
        status := .planned }

/-- What `makeTransitionPlan` establishes of a plan. -/
structure Plan.WellFormed (sha256 : String → String) (plan : Plan) : Prop where
  fromMachine : plan.fromLabel ∈ machineLabelNames
  targetMachine : plan.targetLabel ∈ machineLabelNames
  different : plan.fromLabel ≠ plan.targetLabel
  bodies : plan.originalBody ≠ plan.desiredBody
  originalDigest : plan.originalBodySha256 = sha256 plan.originalBody
  desiredDigest : plan.desiredBodySha256 = sha256 plan.desiredBody

theorem makeTransitionPlan_wellFormed {rt : Runtime} {sha256 : String → String}
    {request : PlanRequest} {saga : Saga} (made : makeTransitionPlan rt sha256 request = .ok saga) :
    saga.plan.WellFormed sha256 ∧ saga.status = .planned := by
  unfold makeTransitionPlan at made
  cases number : request.issueNumber with
  | none => simp [number, bind_ok_iff] at made
  | some issueNumber =>
      simp only [number, bind_ok_iff, require_eq_ok_iff, exists_const] at made
      obtain ⟨_, ⟨fromMachine, targetMachine, different⟩, _, _, ⟨_, bodies⟩, _, made⟩ := made
      cases made
      exact ⟨⟨fromMachine, targetMachine, different, bodies, rfl, rfl⟩, rfl⟩

/-- `_machine_labels`. -/
def machineLabels (issue : Issue) : Finset String :=
  issue.labels.filter (· ∈ machineLabelNames)

inductive RemoteState where
  | conflict | committed | resumable
  deriving DecidableEq, Repr

/-- `_classify_remote`. -/
def classifyRemote (sha256 : String → String) (plan : Plan) (issue : Issue) : RemoteState :=
  let labels := machineLabels issue
  let bodySha := sha256 issue.body
  if ¬labels ⊆ {plan.fromLabel, plan.targetLabel} then .conflict
  else if bodySha ≠ plan.originalBodySha256 ∧ bodySha ≠ plan.desiredBodySha256 then .conflict
  else if labels = {plan.targetLabel} ∧ bodySha = plan.desiredBodySha256 then .committed
  else if labels.Nonempty then .resumable
  else .conflict

/-! ## Calls -/

/-- An answer of the provider to a read.  ETags are revision numbers. -/
structure Response where
  issue : Issue
  etag : Nat
  deriving DecidableEq

/-- Which read of an execution it is; the provider does not see it. -/
inductive ReadStage where
  | first | afterAdd | afterPatch | verify
  deriving DecidableEq, Repr

inductive SagaCall where
  | load
  | save (saga : Saga)
  | getIssue (stage : ReadStage)
  | addLabel (label : String) (etag : Nat)
  | patchBody (body : String) (etag : Nat)
  | removeLabel (label : String) (etag : Nat)

def SagaValue : SagaCall → Type
  | .load => Option Saga
  | .save _ => Saga
  | .getIssue _ => Response
  | .addLabel _ _ => Unit
  | .patchBody _ _ => Unit
  | .removeLabel _ _ => Unit

/-- A call returns or raises. -/
abbrev SagaAnswer (call : SagaCall) : Type :=
  Except String (SagaValue call)

/-- A raised exception, its class included in the text, and the saga as it stood
when the exception left a `try` block. -/
structure Failure where
  text : String
  saga : Option Saga := none

abbrev SagaProgram (α : Type) :=
  Program SagaCall SagaAnswer Failure α

/-- A call made while `saga` is the current plan. -/
def SagaCall.during (call : SagaCall) (saga : Option Saga) : SagaProgram (SagaValue call) :=
  .ask call fun answer =>
    match answer with
    | .ok value => .done value
    | .error text => .fail ⟨text, saga⟩

/-- `raise SagaError(text)` while `saga` is the current plan. -/
def sagaError {α : Type} (text : String) (saga : Option Saga := none) : SagaProgram α :=
  .fail ⟨"SagaError:" ++ text, saga⟩

/-- `journal.save`, its exception raised while `current` is the plan. -/
def saveSaga (saga : Saga) (current : Option Saga) : SagaProgram Saga :=
  (SagaCall.save saga).during current

/-- `_get_issue`, its exception raised while `current` is the plan. -/
def readIssue (stage : ReadStage) (current : Option Saga) : SagaProgram Response :=
  (SagaCall.getIssue stage).during current

/-- A DELETE of a label while `current` is the plan. -/
def removeLabel (label : String) (etag : Nat) (current : Option Saga) : SagaProgram Unit :=
  (SagaCall.removeLabel label etag).during current

/-- `_record_error`. -/
def recordError (saga : Saga) (text : String) : SagaProgram Saga :=
  saveSaga { saga with status := .recoveryRequired, lastError := some text } none

/-- A `try` block whose handler records the exception and raises again. -/
def recording (saga : Saga) (body : SagaProgram Saga) : SagaProgram Saga :=
  body.handle fun failure => do
    let _ ← recordError (failure.saga.getD saga) failure.text
    .fail { failure with saga := none }

section Programs

variable (sha256 : String → String)

/-! ## `run_transition` -/

/-- The members a stored saga must share with the given plan. -/
def samePlan (stored given : Plan) : Prop :=
  stored.idempotencyKey = given.idempotencyKey ∧ stored.repo = given.repo ∧
    stored.issueNumber = given.issueNumber ∧ stored.leaseId = given.leaseId ∧
    stored.fromLabel = given.fromLabel ∧ stored.targetLabel = given.targetLabel ∧
    stored.fromState = given.fromState ∧ stored.toState = given.toState ∧
    stored.originalBodySha256 = given.originalBodySha256 ∧
    stored.desiredBodySha256 = given.desiredBodySha256 ∧ stored.policyHash = given.policyHash

instance (stored given : Plan) : Decidable (samePlan stored given) :=
  inferInstanceAs (Decidable (_ ∧ _))

/-- `plan["steps"]["ADD_TARGET_LABEL"] = "PASS"`. -/
def Saga.addPassed (saga : Saga) : Saga :=
  { saga with steps := { saga.steps with addTargetLabel := .pass } }

/-- `plan["steps"]["PATCH_MARKER_BODY"] = "PASS"`. -/
def Saga.patchPassed (saga : Saga) : Saga :=
  { saga with steps := { saga.steps with patchMarkerBody := .pass } }

/-- `plan["steps"]["REMOVE_OLD_LABEL"] = "PASS"`. -/
def Saga.removePassed (saga : Saga) : Saga :=
  { saga with steps := { saga.steps with removeOldLabel := .pass } }

/-- A read after a write, refused when it shows a conflict. -/
def rereadSettled (saga : Saga) (stage : ReadStage) (conflict : String) :
    SagaProgram Response := do
  let current ← readIssue stage (some saga)
  if classifyRemote sha256 saga.plan current.issue = .conflict then sagaError conflict (some saga)
  else return current

/-- The first step of the `try` block: the target label. -/
def addTargetLabel (saga : Saga) (first : Response) : SagaProgram (Saga × Response) := do
  if saga.plan.targetLabel ∈ machineLabels first.issue then return (saga.addPassed, first)
  else do
    (SagaCall.addLabel saga.plan.targetLabel first.etag).during (some saga)
    let saved ← saveSaga saga.addPassed (some saga.addPassed)
    let current ← rereadSettled sha256 saved .afterAdd "REMOTE_STATE_CONFLICT_AFTER_ADD"
    return (saved, current)

/-- The second step: the body. -/
def patchMarkerBody (saga : Saga) (current : Response) : SagaProgram (Saga × Response) := do
  if sha256 current.issue.body = saga.plan.desiredBodySha256 then return (saga.patchPassed, current)
  else if sha256 current.issue.body ≠ saga.plan.originalBodySha256 then
    sagaError "CONCURRENT_BODY_EDIT" (some saga)
  else do
    (SagaCall.patchBody saga.plan.desiredBody current.etag).during (some saga)
    let saved ← saveSaga saga.patchPassed (some saga.patchPassed)
    let patched ← rereadSettled sha256 saved .afterPatch "REMOTE_STATE_CONFLICT_AFTER_PATCH"
    return (saved, patched)

/-- The third step: the old label. -/
def removeOldLabel (saga : Saga) (current : Response) : SagaProgram Saga := do
  if saga.plan.fromLabel ∈ machineLabels current.issue then do
    removeLabel saga.plan.fromLabel current.etag (some saga)
    saveSaga saga.removePassed (some saga.removePassed)
  else return saga.removePassed

/-- The last step: the read that commits. -/
def verifyPostcondition (saga : Saga) : SagaProgram Saga := do
  let verified ← readIssue .verify (some saga)
  if classifyRemote sha256 saga.plan verified.issue = .committed then
    let committed := { saga with
      steps := { saga.steps with verifyPostcondition := .pass }, status := .committed
      lastError := none }
    saveSaga committed (some committed)
  else sagaError "POSTCONDITION_FAILED" (some saga)

/-- The `try` block of `run_transition`. -/
def applyTransition (saga : Saga) (first : Response) : SagaProgram Saga := do
  let (added, labelled) ← addTargetLabel sha256 saga first
  let (patched, current) ← patchMarkerBody sha256 added labelled
  let removed ← removeOldLabel patched current
  verifyPostcondition sha256 removed

/-- The journalled saga a transition works on. -/
def enterTransition (given : Saga) : SagaProgram Saga := do
  let stored : Option Saga ← SagaCall.load.during none
  match stored with
  | some stored =>
      if samePlan stored.plan given.plan then return stored else sagaError "SAGA_PLAN_CONFLICT"
  | none => saveSaga given none

/-- `run_transition`. -/
def runTransition (given : Saga) (apply : Bool) : SagaProgram Saga := do
  let saga ← enterTransition given
  if saga.status = .committed then return saga
  else do
    let first ← readIssue .first none
    match classifyRemote sha256 saga.plan first.issue with
    | .committed =>
        saveSaga { saga with status := .committed, steps := .allPass } none
    | .conflict => recordError saga "SagaError:REMOTE_STATE_CONFLICT"
    | .resumable =>
        if apply then do
          let applying ← saveSaga { saga with
            status := .applying, attempts := saga.attempts + 1, lastError := none } none
          recording applying (applyTransition sha256 applying first)
        else saveSaga { saga with status := .dryRun } none

/-! ## `compensate_transition` -/

/-- The first write: the original body. -/
def restoreBody (saga : Saga) (first : Response) : SagaProgram Response := do
  if sha256 first.issue.body = saga.plan.desiredBodySha256 then do
    (SagaCall.patchBody saga.plan.originalBody first.etag).during (some saga)
    readIssue .afterPatch (some saga)
  else return first

/-- The second write: the old label. -/
def restoreLabel (saga : Saga) (current : Response) : SagaProgram Response := do
  if saga.plan.fromLabel ∈ machineLabels current.issue then return current
  else do
    (SagaCall.addLabel saga.plan.fromLabel current.etag).during (some saga)
    readIssue .afterAdd (some saga)

/-- The third write: the target label goes. -/
def dropTargetLabel (saga : Saga) (current : Response) : SagaProgram Unit := do
  if saga.plan.targetLabel ∈ machineLabels current.issue then
    removeLabel saga.plan.targetLabel current.etag (some saga)
  else return ()

/-- The issue as it was before the saga. -/
def isCompensated (plan : Plan) (issue : Issue) : Prop :=
  machineLabels issue = {plan.fromLabel} ∧ sha256 issue.body = plan.originalBodySha256

instance (plan : Plan) (issue : Issue) : Decidable (isCompensated sha256 plan issue) :=
  inferInstanceAs (Decidable (_ ∧ _))

/-- The read that ends a compensation. -/
def verifyCompensation (saga : Saga) : SagaProgram Saga := do
  let verified ← readIssue .verify (some saga)
  if isCompensated sha256 saga.plan verified.issue then
    let compensated := { saga with status := .compensated, lastError := none }
    saveSaga compensated (some compensated)
  else sagaError "COMPENSATION_POSTCONDITION_FAILED" (some saga)

/-- The `try` block of `compensate_transition`. -/
def applyCompensation (saga : Saga) (first : Response) : SagaProgram Saga := do
  let restored ← restoreBody sha256 saga first
  let labelled ← restoreLabel saga restored
  dropTargetLabel saga labelled
  verifyCompensation sha256 saga

/-- `compensate_transition`. -/
def compensateTransition : SagaProgram Saga := do
  let stored : Option Saga ← SagaCall.load.during none
  match stored with
  | none => sagaError "SAGA_NOT_FOUND"
  | some saga => do
      let first ← readIssue .first none
      if classifyRemote sha256 saga.plan first.issue = .conflict then
        recordError saga "SagaError:COMPENSATION_REMOTE_CONFLICT"
      else recording saga (applyCompensation sha256 saga first)

/-- One execution on a saga. -/
inductive Execution where
  | transition (apply : Bool)
  | compensation

/-- The program of an execution of the saga of `given`. -/
def Execution.program (given : Saga) : Execution → SagaProgram Saga
  | .transition apply => runTransition sha256 given apply
  | .compensation => compensateTransition sha256

end Programs

end Adwf.RemoteSaga
