import Adwf.Value.Fallible
import Adwf.Orchestrator.Journal

/-!
# One step of a run

`advanceState` takes a loaded journal and one step result.  It checks the
result, lets the effective policy decide, appends the event and applies the
outcome.  `advanceState_save_cases` lists everything a saved journal can be.
-/

namespace Adwf.Orchestrator

open Adwf.Policy Adwf.Fallible

/-! ## Step results -/

/-- The members `_normalize_result` accepts. -/
def stepResultFields : List String :=
  ["phase", "outcome", "idempotency_key", "subject_sha", "preview_digest", "evidence_refs",
    "reason_codes", "transient", "cost_usd", "metadata"]

/-- A checked step result. -/
structure StepResult where
  phase : Phase
  outcome : Outcome
  idempotencyKey : String
  subjectSha : Json
  previewDigest : Json
  evidenceRefs : List Json
  reasonCodes : List Json
  transient : Bool
  costUsd : Rat
  metadata : Fields
  deriving DecidableEq

/-- `sorted(set(result) - allowed)`. -/
def unknownFields (result : Fields) : List String :=
  (result.map Prod.fst).filter fun name => !stepResultFields.contains name

/-- `normalized["outcome"] not in OUTCOMES`; an object or a list is unhashable. -/
def readOutcome : Json → Except String Outcome
  | .arr _ | .obj _ => .error "TypeError"
  | value =>
      match Outcome.ofJson value with
      | some outcome => .ok outcome
      | none => .error "STEP_OUTCOME_INVALID"

def readIdempotencyKey : Json → Except String String
  | .str key => if key.length < 8 then .error "STEP_IDEMPOTENCY_KEY_INVALID" else .ok key
  | _ => .error "STEP_IDEMPOTENCY_KEY_INVALID"

/-- `result["subject_sha"] or state.get("subject_sha")`. -/
def effectiveSha (state : Journal) (given : Json) : Json :=
  if given.truthy then given else state.subjectSha

/-- The subject a normalized result carries: the effective revision in a SHA
phase, the given value in any other. -/
def resultSha (state : Journal) (given : Json) : Json :=
  if state.phase.needsSha then effectiveSha state given else given

/-- The checks of `_normalize_result` after the subject is fixed. -/
def checkResult (state : Journal) (result : StepResult) : Except String Unit := do
  require (result.phase = .merge → result.outcome = .pass →
    Json.get result.metadata "merge_sha" ≠ .null) "MERGE_SHA_REQUIRED"
  require (result.phase = .merge → result.outcome = .pass →
    isSha (Json.get result.metadata "merge_sha") = true) "MERGE_SHA_INVALID"
  require (result.phase.isDeliveryResult = true → isSha state.deliverySha = true)
    "DELIVERY_SHA_REQUIRED"
  require (result.phase.isDeliveryResult = true → result.subjectSha = state.deliverySha)
    "DELIVERY_SUBJECT_SHA_MISMATCH"
  require (result.outcome = .pass → result.phase.needsEvidence = true →
    result.evidenceRefs ≠ [] ∨
      (Json.get result.metadata "not_applicable_reason").truthy = true) "EVIDENCE_REQUIRED"
  require (result.outcome = .retry → result.transient = true)
    "RETRY_REQUIRES_TRANSIENT_CLASSIFICATION"
  require (result.outcome = .roadmapComplete ∨ result.outcome = .nextReady →
    result.phase = .next) "NEXT_OUTCOME_WRONG_PHASE"
  require (result.outcome = .changesRequested → result.phase = .ownerAcceptance)
    "CHANGES_REQUESTED_WRONG_PHASE"
  require (result.phase = .preview → result.outcome = .pass → state.productImpact = true →
    result.previewDigest.textSatisfies Text.isSha256 = true) "PREVIEW_DIGEST_REQUIRED"
  require (result.phase = .ownerAcceptance → result.outcome = .pass →
    Json.get result.metadata "owner_acceptance_exact" = .bool true) "OWNER_ACCEPTANCE_NOT_EXACT"
  require (result.phase = .ownerAcceptance → result.outcome = .pass →
    Json.get result.metadata "accepted_preview_digest" = state.previewDigest)
    "OWNER_ACCEPTANCE_PREVIEW_MISMATCH"

/-- `_normalize_result`. -/
def normalizeResult (rt : Runtime) (state : Journal) (result : Fields) :
    Except String StepResult := do
  require (unknownFields result = [])
    ("UNKNOWN_STEP_RESULT_FIELDS:" ++ ",".intercalate (unknownFields result))
  let evidenceRefs ← (Json.get result "evidence_refs").toList
  let reasonCodes ← (Json.get result "reason_codes").toList
  let costUsd ← rt.float ((result.lookup "cost_usd").getD (.num 0))
  let metadata ← (Json.get result "metadata").toDict
  require (Json.get result "phase" = .str state.phase.name ∧ state.phase.isKnown = true)
    "STEP_PHASE_MISMATCH"
  let outcome ← readOutcome (Json.get result "outcome")
  let idempotencyKey ← readIdempotencyKey (Json.get result "idempotency_key")
  require (costUsd = 0) "NON_ZERO_COST"
  let subjectSha := resultSha state (Json.get result "subject_sha")
  require (state.phase.needsSha = true → isSha subjectSha = true) "EXACT_SHA_REQUIRED"
  let normalized : StepResult :=
    { phase := state.phase, outcome, idempotencyKey, subjectSha
      previewDigest := Json.get result "preview_digest", evidenceRefs, reasonCodes
      transient := decide (Json.get result "transient" = .bool true), costUsd, metadata }
  checkResult state normalized
  return normalized

/-- What a passed `checkResult` says of the result. -/
structure Checked (state : Journal) (result : StepResult) : Prop where
  mergeSha : result.phase = .merge → result.outcome = .pass →
    isSha (Json.get result.metadata "merge_sha") = true
  deliverySha : result.phase.isDeliveryResult = true → isSha state.deliverySha = true
  deliverySubject : result.phase.isDeliveryResult = true → result.subjectSha = state.deliverySha
  nextOutcome : result.outcome = .roadmapComplete ∨ result.outcome = .nextReady →
    result.phase = .next
  changesRequested : result.outcome = .changesRequested → result.phase = .ownerAcceptance
  previewDigest : result.phase = .preview → result.outcome = .pass →
    state.productImpact = true → result.previewDigest.textSatisfies Text.isSha256 = true
  acceptedPreview : result.phase = .ownerAcceptance → result.outcome = .pass →
    Json.get result.metadata "accepted_preview_digest" = state.previewDigest

variable {state next : Journal} {result : StepResult} {rt : Runtime} {call : StepCall}

theorem checked_of_checkResult
    (passed : checkResult state result = .ok ()) : Checked state result := by
  simp only [checkResult, bind_ok_iff, require_eq_ok_iff, exists_const] at passed
  obtain ⟨_, merge, delivery, subject, _, _, next, changes, preview, _, accepted⟩ := passed
  exact ⟨merge, delivery, subject, next, changes, preview, accepted⟩

/-- What `normalizeResult` returns: the phase is the journal's and known, the
subject is fixed by `resultSha`, and the checks passed. -/
structure Normalized (state : Journal) (result : Fields) (normalized : StepResult) : Prop
    extends Checked state normalized where
  phase : normalized.phase = state.phase
  known : state.phase.isKnown = true
  outcome : readOutcome (Json.get result "outcome") = .ok normalized.outcome
  subject : normalized.subjectSha = resultSha state (Json.get result "subject_sha")
  subjectSha : state.phase.needsSha = true → isSha normalized.subjectSha = true
  free : normalized.costUsd = 0

theorem normalized_of_eq_ok {result : Fields}
    {normalized : StepResult} (ran : normalizeResult rt state result = .ok normalized) :
    Normalized state result normalized := by
  simp only [normalizeResult, bind_ok_iff, require_eq_ok_iff, exists_const] at ran
  obtain ⟨_, evidenceRefs, _, reasonCodes, _, costUsd, _, metadata, _, ⟨_, known⟩, outcome,
    outcomeRead, key, _, free, sha, ⟨⟩, checks, result_eq⟩ := ran
  cases result_eq
  exact { checked_of_checkResult checks with
    phase := rfl, known := known, outcome := outcomeRead, subject := rfl, subjectSha := sha
    free := free }

/-! ## The policy decision of a step -/

/-- A legacy `control_context`: the members `DecisionContext` does not know and
the facts it states. -/
structure SuppliedContext where
  unknownFields : List String := []
  facts : DecisionContext

/-- `_control_context`. -/
def controlContext (state : Journal) (result : StepResult) (supplied : SuppliedContext) :
    Except String DecisionContext :=
  if supplied.unknownFields ≠ [] then
    .error ("UNKNOWN_DECISION_CONTEXT_FIELDS:" ++ ",".intercalate supplied.unknownFields)
  else
    let accepting := state.phase = .ownerAcceptance
    .ok { supplied.facts with
      action := state.phase.action, risk := state.risk, workType := state.workType
      expectedPolicyHash := some state.policyHash, projectedCost := result.costUsd
      humanApproved :=
        if accepting then decide (result.outcome = .pass) else supplied.facts.humanApproved
      ownerAcceptanceExact :=
        if accepting then
          decide (Json.get result.metadata "owner_acceptance_exact" = .bool true)
        else supplied.facts.ownerAcceptanceExact }

/-- The work type a trusted context must state. -/
def operationalWorkType (state : Journal) : String :=
  match state.phase with
  | .recovery => "recovery"
  | .ci | .review | .preview | .observe => "verification"
  | _ => state.workType

/-- The checks of a compiler-produced context. -/
def bindTrustedContext (state : Journal) (result : StepResult) (context : DecisionContext) :
    Except String DecisionContext := do
  require (context.action = state.phase.action ∧ context.risk = state.risk ∧
    context.workType = operationalWorkType state) "TRUSTED_CONTEXT_RUN_BINDING_MISMATCH"
  require (context.expectedPolicyHash = some state.policyHash) "TRUSTED_CONTEXT_POLICY_MISMATCH"
  require (context.projectedCost = result.costUsd) "TRUSTED_CONTEXT_COST_MISMATCH"
  return context

/-- The arguments of one `advance_run` call, with what the call reads of its
surroundings: the policy document, three clock readings and the event's UUID. -/
structure StepCall where
  stepResult : Fields
  controlContext : Option SuppliedContext := none
  trustedContext : Option DecisionContext := none
  effectivePolicy : Option PolicyIR
  now : Int
  occurredAt : Int
  savedAt : Int
  eventId : String

def decisionContext (state : Journal) (result : StepResult) (call : StepCall) :
    Except String DecisionContext :=
  match call.trustedContext, call.controlContext with
  | some context, _ => bindTrustedContext state result context
  | none, some supplied => controlContext state result supplied
  | none, none => .error "TRUSTED_OR_LEGACY_CONTEXT_REQUIRED"

/-! ## Recording and applying a step -/

/-- The event `_append_event` builds. -/
def newEvent (rt : Runtime) (state : Journal) (result : StepResult) (decision : Decision)
    (call : StepCall) : Event :=
  let body : EventBody :=
    { sequence := state.events.length + 1, eventId := call.eventId
      idempotencyKey := result.idempotencyKey, phase := state.phase, outcome := result.outcome
      subjectSha := result.subjectSha, evidenceRefs := result.evidenceRefs
      reasonCodes := result.reasonCodes, decision := decision, costUsd := result.costUsd
      metadata := result.metadata, occurredAt := .at call.occurredAt
      previousEventHash := state.eventHead }
  { body with eventHash := eventHash rt body }

/-- `_append_event`. -/
def appendEvent (state : Journal) (event : Event) : Journal :=
  { state with events := state.events ++ [event], eventHead := some event.eventHash }

/-- The subject of the result becomes the subject of the run; another revision
withdraws the preview and the acceptance. -/
def bindSubject (state : Journal) (result : StepResult) : Journal :=
  if result.subjectSha.truthy then
    if state.subjectSha.truthy && state.subjectSha ≠ result.subjectSha then
      { state with
        subjectSha := result.subjectSha, previewDigest := .null, ownerAcceptanceSha := .null
        previewAttestationId := none }
    else { state with subjectSha := result.subjectSha }
  else state

/-- `state["work_branch"] = branch` after its check. -/
def bindBranch (state : Journal) (branch : String) : Except String Journal :=
  if Text.startsWith branch "adwf/" && branch.length ≤ 180 then
    .ok { state with workBranch := some branch }
  else .error "WORK_BRANCH_INVALID"

/-- The metadata a phase hands to the run. -/
def noteMetadata (rt : Runtime) (state : Journal) (metadata : Fields) :
    Except String Journal :=
  match state.phase with
  | .reconcile =>
      let issueId := Json.get metadata "issue_id"
      if issueId = .null then .ok state else .ok { state with issueId := rt.text issueId }
  | .claim | .execute | .recovery =>
      let branch := Json.get metadata "branch"
      if branch.truthy then bindBranch state (rt.text branch) else .ok state
  | .openPr =>
      let number := Json.get metadata "pull_request_number"
      if number = .null then .ok state
      else (rt.int number).map fun value => { state with pullRequestNumber := some value }
  | .preview =>
      let attestationId := Json.get metadata "attestation_id"
      if attestationId.truthy then
        .ok { state with previewAttestationId := some (rt.text attestationId) }
      else .ok state
  | _ => .ok state

/-- The revision bindings of a passed MERGE, PREVIEW or OWNER_ACCEPTANCE. -/
def bindPassed (rt : Runtime) (state : Journal) (result : StepResult) : Journal :=
  if result.outcome = .pass then
    match state.phase with
    | .merge =>
        let mergeSha := .str (rt.text (Json.get result.metadata "merge_sha"))
        { state with deliverySha := mergeSha, subjectSha := mergeSha }
    | .preview => { state with previewDigest := result.previewDigest }
    | .ownerAcceptance => { state with ownerAcceptanceSha := state.subjectSha }
    | _ => state
  else state

/-- `state["attempts"].get(phase, 0) + 1`. -/
def attempt (state : Journal) : Int :=
  (state.attempts.lookup state.phase).getD 0 + 1

/-- `state["attempts"][phase] = used`. -/
def setAttempts (attempts : List (Phase × Int)) (phase : Phase) (used : Int) :
    List (Phase × Int) :=
  (phase, used) :: attempts.filter fun entry => entry.1 ≠ phase

/-- The phase after a passed step. -/
def passedPhase (state : Journal) : Phase :=
  match state.phase with
  | .review => if state.productImpact then .preview else .merge
  | .recovery => state.lastFailedPhase.getD .reconcile
  | phase => phase.following

/-- `reason_codes or [fallback]`. -/
def blockersOr (reasonCodes : List Json) (fallback : String) : List Json :=
  if reasonCodes.isEmpty then [.str fallback] else reasonCodes

/-- The outcome branch at the end of `advance_run`. -/
def applyOutcome (state : Journal) (result : StepResult) : Journal :=
  match result.outcome with
  | .pass =>
      { state with
        phase := passedPhase state
        lastFailedPhase := if state.phase = .recovery then none else state.lastFailedPhase
        status := .running, blockers := [] }
  | .fail =>
      if state.phase = .recovery then
        { state with
          status := .blocked, blockers := blockersOr result.reasonCodes "RECOVERY_FAILED" }
      else
        { state with
          lastFailedPhase := some state.phase, phase := .recovery, status := .recovery }
  | .retry =>
      let attempts := setAttempts state.attempts state.phase (attempt state)
      if attempt state > state.maxAttempts then
        { state with
          attempts, lastFailedPhase := some state.phase, phase := .recovery, status := .recovery
          blockers := [.str "RETRY_BUDGET_EXHAUSTED"] }
      else { state with attempts, status := .retryWait }
  | .changesRequested =>
      { state with
        phase := .execute, status := .running, previewDigest := .null
        ownerAcceptanceSha := .null }
  | .humanRequired =>
      { state with
        status := .humanRequired
        blockers := blockersOr result.reasonCodes "HUMAN_DECISION_REQUIRED" }
  | .block =>
      { state with
        status := .blocked, blockers := blockersOr result.reasonCodes "STEP_BLOCKED" }
  | .roadmapComplete => { state with phase := .next, status := .complete }
  | .nextReady =>
      if state.cycle + 1 ≥ state.maxCycles then
        { state with
          cycle := state.cycle + 1, status := .blocked
          blockers := [.str "MAX_CYCLES_REACHED"] }
      else
        { state with
          cycle := state.cycle + 1, phase := .reconcile, status := .running
          subjectSha := .null, previewDigest := .null, ownerAcceptanceSha := .null
          deliverySha := .null, pullRequestNumber := none, previewAttestationId := none
          workBranch := none, attempts := [] }

/-- Everything an allowed step does to the journal after its event. -/
def applyResult (rt : Runtime) (state : Journal) (result : StepResult) :
    Except String Journal :=
  (noteMetadata rt (bindSubject state result) result.metadata).map fun noted =>
    applyOutcome (bindPassed rt noted result) result

/-! ## The step -/

/-- `state["status"] = decision.result`, written as it stands. -/
def verdictStatus : Verdict → Status
  | .allow => .other "ALLOW"
  | .block => .block
  | .humanRequired => .humanRequired

/-- The blocker of an exhausted or unreadable deadline. -/
def overdue (state : Journal) (now : Int) : Option String :=
  match state.deadlineAt.parse with
  | some deadline => if now > deadline then some "ORCHESTRATION_TIME_BUDGET_EXHAUSTED" else none
  | none => some "ORCHESTRATION_DEADLINE_INVALID"

/-- The event already recorded under the idempotency key of a step result. -/
def duplicateOf (state : Journal) (stepResult : Fields) : Option Event :=
  state.events.find? fun event =>
    .str event.idempotencyKey = Json.get stepResult "idempotency_key"

/-- How `advance_run` ends without an exception. -/
inductive Advance where
  | unchanged
  | save (state : Journal)

/-- The checked step result and what the effective policy says of it. -/
def decideStep (rt : Runtime) (state : Journal) (call : StepCall) :
    Except String (StepResult × Decision) := do
  let result ← normalizeResult rt state call.stepResult
  let context ← decisionContext state result call
  return (result, evaluateWithEffectivePolicy call.effectivePolicy context)

/-- The part of `advance_run` that records and applies a decided step. -/
def takeStep (rt : Runtime) (state : Journal) (call : StepCall) : Except String Journal := do
  let (result, decision) ← decideStep rt state call
  require (decision.policyHash ≠ some state.policyHash → decision.result ≠ .allow)
    "ORCHESTRATION_POLICY_DRIFT"
  let recorded := appendEvent state (newEvent rt state result decision call)
  if decision.result = .allow then applyResult rt recorded result
  else
    return { recorded with
      status := verdictStatus decision.result, blockers := decision.reasonCodes.map .str }

/-- `advance_run` on the loaded journal, up to `journal.save`. -/
def advanceState (rt : Runtime) (state : Journal) (call : StepCall) :
    Except String Advance :=
  if state.status.isTerminal then .ok .unchanged
  else
    match overdue state call.now with
    | some blocker => .ok (.save { state with status := .blocked, blockers := [.str blocker] })
    | none =>
        match duplicateOf state call.stepResult with
        | some event =>
            if .str event.phase.name = Json.get call.stepResult "phase" ∧
                .str event.outcome.name = Json.get call.stepResult "outcome" then .ok .unchanged
            else .error "STEP_IDEMPOTENCY_CONFLICT"
        | none => (takeStep rt state call).map .save

/-- The journal file `journal.save` writes over the journal it was loaded from. -/
def Journal.saved (state : Journal) (savedAt : Int) : Journal :=
  { state with revision := state.revision + 1, updatedAt := .at savedAt }

/-- `advance_run` on a journal file: an invalid journal is not loaded. -/
def advanceRun (rt : Runtime) (file : Journal) (call : StepCall) : Except String Advance :=
  if validateJournal rt file = [] then advanceState rt file call
  else
    .error ("ORCHESTRATION_JOURNAL_INVALID:" ++ ",".intercalate (validateJournal rt file))

/-- The journal file after the call, however the call ends. -/
def advanceFile (rt : Runtime) (file : Journal) (call : StepCall) : Journal :=
  match advanceRun rt file call with
  | .ok (.save next) => next.saved call.savedAt
  | _ => file

/-! ## What a saved journal can be -/

/-- The result withdraws the preview and the acceptance: it brings another
revision than the one the run is bound to. -/
def withdraws (state : Journal) (result : StepResult) : Bool :=
  result.subjectSha.truthy && state.subjectSha.truthy && state.subjectSha ≠ result.subjectSha

theorem bindSubject_eq (state : Journal) (result : StepResult) :
    bindSubject state result =
      { state with
        subjectSha := effectiveSha state result.subjectSha
        previewDigest := if withdraws state result then .null else state.previewDigest
        ownerAcceptanceSha := if withdraws state result then .null else state.ownerAcceptanceSha
        previewAttestationId :=
          if withdraws state result then none else state.previewAttestationId } := by
  unfold bindSubject withdraws effectiveSha
  by_cases given : result.subjectSha.truthy = true
  · simp only [given, if_true, Bool.true_and]
    split_ifs <;> rfl
  · simp [given]

/-- The journals that differ from `state` in the members a step's metadata may
set: the issue, the branch, the pull request and the preview attestation. -/
def Noted (state noted : Journal) : Prop :=
  ∃ issueId workBranch pullRequestNumber previewAttestationId,
    noted = { state with issueId, workBranch, pullRequestNumber, previewAttestationId }

theorem Noted.refl (state : Journal) : Noted state state :=
  ⟨_, _, _, _, rfl⟩

theorem noted_of_bindBranch {noted : Journal} {branch : String}
    (ran : bindBranch state branch = .ok noted) : Noted state noted := by
  unfold bindBranch at ran
  split_ifs at ran
  cases ran
  exact ⟨_, _, _, _, rfl⟩

/-- Metadata changes nothing else. -/
theorem noted_of_noteMetadata {noted : Journal} {metadata : Fields}
    (ran : noteMetadata rt state metadata = .ok noted) : Noted state noted := by
  have branched : ∀ branch : Json,
      (if branch.truthy then bindBranch state (rt.text branch) else .ok state) =
        .ok noted → Noted state noted := by
    intro branch bound
    split_ifs at bound
    · exact noted_of_bindBranch bound
    · cases bound
      exact Noted.refl state
  dsimp only [noteMetadata] at ran
  split at ran
  · split_ifs at ran <;> cases ran <;> exact ⟨_, _, _, _, rfl⟩
  · exact branched _ ran
  · exact branched _ ran
  · exact branched _ ran
  · split_ifs at ran
    · cases ran
      exact Noted.refl state
    · cases number : rt.int (Json.get metadata "pull_request_number") with
      | error code => simp [number, Except.map] at ran
      | ok value =>
          simp only [number, Except.map, Except.ok.injEq] at ran
          exact ⟨_, _, _, _, ran.symm⟩
  · split_ifs at ran <;> cases ran <;> exact ⟨_, _, _, _, rfl⟩
  · cases ran
    exact Noted.refl state

/-- The delivery revision a passed MERGE states. -/
def mergedSha (rt : Runtime) (result : StepResult) : Json :=
  .str (rt.text (Json.get result.metadata "merge_sha"))

/-- The journal an allowed step hands to its outcome branch: `base` is the
journal with its event and the metadata of the step. -/
def boundJournal (rt : Runtime) (base : Journal) (result : StepResult) : Journal :=
  { base with
    subjectSha :=
      if base.phase = .merge ∧ result.outcome = .pass then mergedSha rt result
      else effectiveSha base result.subjectSha
    previewDigest :=
      if base.phase = .preview ∧ result.outcome = .pass then result.previewDigest
      else if withdraws base result then .null else base.previewDigest
    ownerAcceptanceSha :=
      if base.phase = .ownerAcceptance ∧ result.outcome = .pass then
        effectiveSha base result.subjectSha
      else if withdraws base result then .null else base.ownerAcceptanceSha
    deliverySha :=
      if base.phase = .merge ∧ result.outcome = .pass then mergedSha rt result
      else base.deliverySha }

theorem applyResult_eq_ok
    (ran : applyResult rt state result = .ok next) :
    ∃ issueId workBranch pullRequestNumber previewAttestationId,
      next = applyOutcome (boundJournal rt
        { state with issueId, workBranch, pullRequestNumber, previewAttestationId } result)
        result := by
  unfold applyResult at ran
  cases noting : noteMetadata rt (bindSubject state result) result.metadata with
  | error code => simp [noting, Except.map] at ran
  | ok noted =>
      simp only [noting, Except.map, Except.ok.injEq] at ran
      obtain ⟨issueId, workBranch, number, attestation, noted_eq⟩ := noted_of_noteMetadata noting
      refine ⟨issueId, workBranch, number, attestation, ?_⟩
      rw [← ran, noted_eq, bindSubject_eq]
      congr 1
      unfold bindPassed boundJournal
      by_cases passed : result.outcome = .pass
      · cases phase : state.phase <;> simp [passed, effectiveSha, withdraws, mergedSha]
      · simp [passed, effectiveSha, withdraws]

theorem normalized_of_decideStep {decision : Decision}
    (decided : decideStep rt state call = .ok (result, decision)) :
    Normalized state call.stepResult result := by
  simp only [decideStep, bind_ok_iff] at decided
  obtain ⟨normalized, ran, context, _, pair_eq⟩ := decided
  cases pair_eq
  exact normalized_of_eq_ok ran

/-- Everything a saved journal can be: the run out of time, a step the policy
refuses, or the outcome of an allowed step. -/
inductive Saved (rt : Runtime) (state : Journal) (call : StepCall) : Journal → Prop
  | overdue (blocker : String) :
      overdue state call.now = some blocker →
      Saved rt state call { state with status := .blocked, blockers := [.str blocker] }
  | refused (result : StepResult) (decision : Decision) :
      overdue state call.now = none → decideStep rt state call = .ok (result, decision) →
      decision.result ≠ .allow →
      Saved rt state call
        { appendEvent state (newEvent rt state result decision call) with
          status := verdictStatus decision.result
          blockers := decision.reasonCodes.map .str }
  | applied (result : StepResult) (decision : Decision) (issueId : String)
      (workBranch : Option String) (pullRequestNumber : Option Int)
      (previewAttestationId : Option String) :
      overdue state call.now = none → decideStep rt state call = .ok (result, decision) →
      decision.result = .allow →
      Saved rt state call
        (applyOutcome (boundJournal rt
          { appendEvent state (newEvent rt state result decision call) with
            issueId, workBranch, pullRequestNumber, previewAttestationId } result) result)

theorem saved_of_takeStep (inTime : Orchestrator.overdue state call.now = none)
    (ran : takeStep rt state call = .ok next) : Saved rt state call next := by
  simp only [takeStep, bind_ok_iff, require_eq_ok_iff, exists_const] at ran
  obtain ⟨⟨result, decision⟩, decided, _, applied⟩ := ran
  split_ifs at applied with allowed
  · obtain ⟨issueId, workBranch, number, attestation, rfl⟩ := applyResult_eq_ok applied
    exact Saved.applied result decision issueId workBranch number attestation inTime decided
      allowed
  · cases applied
    exact Saved.refused result decision inTime decided allowed

/-- A call that reaches `journal.save` found the run open. -/
theorem saved_of_advanceState (ran : advanceState rt state call = .ok (.save next)) :
    state.status.isTerminal = false ∧ Saved rt state call next := by
  unfold advanceState at ran
  by_cases terminal : state.status.isTerminal = true
  · rw [if_pos terminal] at ran
    cases ran
  rw [if_neg terminal] at ran
  refine ⟨by simpa using terminal, ?_⟩
  split at ran
  · rename_i blocker late
    cases ran
    exact Saved.overdue blocker late
  · rename_i inTime
    split at ran
    · split_ifs at ran
      cases ran
    · cases taken : takeStep rt state call with
      | error code => simp [taken, Except.map] at ran
      | ok after =>
          simp only [taken, Except.map, Except.ok.injEq, Advance.save.injEq] at ran
          exact ran ▸ saved_of_takeStep inTime taken

theorem duplicateOf_eq_none (inTime : overdue state call.now = none)
    (ran : advanceState rt state call = .ok (.save next)) :
    duplicateOf state call.stepResult = none := by
  rw [advanceState, inTime] at ran
  cases duplicate : duplicateOf state call.stepResult with
  | none => rfl
  | some event =>
      simp only [duplicate] at ran
      split_ifs at ran <;> cases ran

theorem advanceFile_cases (rt : Runtime) (file : Journal) (call : StepCall) :
    advanceFile rt file call = file ∨ ∃ next, advanceFile rt file call = next.saved call.savedAt ∧
        file.status.isTerminal = false ∧ Saved rt file call next := by
  unfold advanceFile advanceRun
  split_ifs with accepted
  · split
    · rename_i next ran
      obtain ⟨running, saved⟩ := saved_of_advanceState ran
      exact Or.inr ⟨next, rfl, running, saved⟩
    · exact Or.inl rfl
  · exact Or.inl rfl

end Adwf.Orchestrator
