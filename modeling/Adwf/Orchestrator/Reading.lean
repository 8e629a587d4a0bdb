import Adwf.Orchestrator.Step

/-!
# What a step reads of a journal

`advance_run` looks at the recorded events only to count them and to find an
idempotency key, and it never looks at the blockers.  A step over a journal is a
step over the rest of it, with its event added and its blockers replaced or kept.
-/

namespace Adwf.Orchestrator

open Adwf.Policy Adwf.Fallible

/-- The journal with other events, blockers and time of its last save. -/
def Journal.withUnread (state : Journal) (events : List Event) (eventHead : Option String)
    (blockers : List Json) (updatedAt : Timestamp) : Journal :=
  { state with events, eventHead, blockers, updatedAt }

/-- What `advance_run` reads of a recorded event. -/
def Event.seen (event : Event) : String × String × Outcome :=
  (event.idempotencyKey, event.phase.name, event.outcome)

/-- The blockers an outcome leaves where the journal has `blockers`. -/
def blockersAfter (state : Journal) (result : StepResult) (blockers : List Json) : List Json :=
  match result.outcome with
  | .pass => []
  | .fail =>
      if state.phase = .recovery then blockersOr result.reasonCodes "RECOVERY_FAILED"
      else blockers
  | .retry =>
      if attempt state > state.maxAttempts then [.str "RETRY_BUDGET_EXHAUSTED"] else blockers
  | .humanRequired => blockersOr result.reasonCodes "HUMAN_DECISION_REQUIRED"
  | .block => blockersOr result.reasonCodes "STEP_BLOCKED"
  | .nextReady =>
      if state.cycle + 1 ≥ state.maxCycles then [.str "MAX_CYCLES_REACHED"] else blockers
  | .changesRequested | .roadmapComplete => blockers

theorem blockersAfter_cases (state : Journal) (result : StepResult) :
    (∃ replaced, ∀ blockers, blockersAfter state result blockers = replaced) ∨
      ∀ blockers, blockersAfter state result blockers = blockers := by
  unfold blockersAfter
  cases result.outcome with
  | pass => exact .inl ⟨_, fun _ => rfl⟩
  | humanRequired => exact .inl ⟨_, fun _ => rfl⟩
  | block => exact .inl ⟨_, fun _ => rfl⟩
  | changesRequested => exact .inr fun _ => rfl
  | roadmapComplete => exact .inr fun _ => rfl
  | _ =>
      dsimp only
      split_ifs
      · exact .inl ⟨_, fun _ => rfl⟩
      · exact .inr fun _ => rfl

section Parts

variable (rt : Runtime) (state : Journal) (result : StepResult) (events : List Event)
  (eventHead : Option String) (blockers : List Json) (updatedAt : Timestamp)

theorem bindSubject_withUnread :
    bindSubject (state.withUnread events eventHead blockers updatedAt) result =
      (bindSubject state result).withUnread events eventHead blockers updatedAt := by
  unfold bindSubject Journal.withUnread
  dsimp only
  split_ifs <;> rfl

theorem noteMetadata_withUnread (metadata : Fields) :
    noteMetadata rt (state.withUnread events eventHead blockers updatedAt) metadata =
      (noteMetadata rt state metadata).map (·.withUnread events eventHead blockers updatedAt) := by
  have branched : ∀ branch : Json, (if branch.truthy then
        bindBranch (state.withUnread events eventHead blockers updatedAt) (rt.text branch)
      else .ok (state.withUnread events eventHead blockers updatedAt)) =
      (if branch.truthy then bindBranch state (rt.text branch) else .ok state).map
        (·.withUnread events eventHead blockers updatedAt) := by
    intro branch
    unfold bindBranch
    split_ifs <;> rfl
  unfold noteMetadata
  rw [show (state.withUnread events eventHead blockers updatedAt).phase = state.phase from rfl]
  cases state.phase with
  | claim => exact branched _
  | execute => exact branched _
  | recovery => exact branched _
  | openPr =>
      dsimp only
      split_ifs
      · rfl
      · cases rt.int (Json.get metadata "pull_request_number") <;> rfl
  | _ =>
      dsimp only
      try split_ifs
      all_goals rfl

theorem bindPassed_withUnread :
    bindPassed rt (state.withUnread events eventHead blockers updatedAt) result =
      (bindPassed rt state result).withUnread events eventHead blockers updatedAt := by
  unfold bindPassed
  rw [show (state.withUnread events eventHead blockers updatedAt).phase = state.phase from rfl]
  split_ifs
  · cases state.phase <;> rfl
  · rfl

theorem applyOutcome_withUnread :
    applyOutcome (state.withUnread events eventHead blockers updatedAt) result =
      (applyOutcome state result).withUnread events eventHead
        (blockersAfter state result blockers) updatedAt := by
  have sameAttempt : attempt (state.withUnread events eventHead blockers updatedAt) =
      attempt state := rfl
  have samePhase : passedPhase (state.withUnread events eventHead blockers updatedAt) =
      passedPhase state := rfl
  unfold applyOutcome blockersAfter
  rw [sameAttempt, samePhase]
  unfold Journal.withUnread
  cases result.outcome with
  | pass => rfl
  | humanRequired => rfl
  | block => rfl
  | changesRequested => rfl
  | roadmapComplete => rfl
  | _ =>
      dsimp only
      split_ifs <;> rfl

end Parts

/-! ## The step -/

/-- What a step decides without the events and the blockers: the result, the decision, the
journal after it and what becomes of the blockers. -/
structure StepCore where
  result : StepResult
  decision : Decision
  state : Journal
  blockers : List Json → List Json

/-- A recorded step without its event. -/
def stepCore (rt : Runtime) (state : Journal) (call : StepCall) : Except String StepCore := do
  let (result, decision) ← decideStep rt state call
  require (decision.policyHash ≠ some state.policyHash → decision.result ≠ .allow)
    "ORCHESTRATION_POLICY_DRIFT"
  if decision.result = .allow then do
    let noted ← noteMetadata rt (bindSubject state result) result.metadata
    let passed := bindPassed rt noted result
    return ⟨result, decision, applyOutcome passed result, blockersAfter passed result⟩
  else
    return ⟨result, decision, { state with status := verdictStatus decision.result },
      fun _ => decision.reasonCodes.map .str⟩

theorem takeStep_withUnread (rt : Runtime) (state : Journal) (events : List Event)
    (eventHead : Option String) (blockers : List Json) (updatedAt : Timestamp) (call : StepCall) :
    takeStep rt (state.withUnread events eventHead blockers updatedAt) call =
      (stepCore rt state call).map fun core =>
        let event := newEvent rt (state.withUnread events eventHead blockers updatedAt)
          core.result core.decision call
        core.state.withUnread (events ++ [event]) (some event.eventHash) (core.blockers blockers)
          updatedAt := by
  have decided : decideStep rt (state.withUnread events eventHead blockers updatedAt) call =
      decideStep rt state call := rfl
  unfold takeStep stepCore
  rw [decided]
  cases decideStep rt state call with
  | error error => rfl
  | ok pair =>
      obtain ⟨result, decision⟩ := pair
      simp only [ok_bind]
      rw [show (state.withUnread events eventHead blockers updatedAt).policyHash =
        state.policyHash from rfl]
      by_cases drift : decision.policyHash ≠ some state.policyHash → decision.result ≠ .allow
      · rw [require_bind_of drift, require_bind_of drift]
        split_ifs
        · set event := newEvent rt (state.withUnread events eventHead blockers updatedAt)
            result decision call with event_eq
          have recorded : appendEvent (state.withUnread events eventHead blockers updatedAt) event =
              state.withUnread (events ++ [event]) (some event.eventHash) blockers updatedAt := rfl
          rw [applyResult, recorded, bindSubject_withUnread, noteMetadata_withUnread]
          cases noteMetadata rt (bindSubject state result) result.metadata with
          | error error => rfl
          | ok noted =>
              simp only [Except.map, ok_bind, bindPassed_withUnread, applyOutcome_withUnread]
              rfl
        · rfl
      · rw [require_bind_of_not drift, require_bind_of_not drift]
        rfl

theorem blockers_of_stepCore {rt : Runtime} {state : Journal} {call : StepCall}
    {core : StepCore} (stepped : stepCore rt state call = .ok core) :
    (∃ replaced, ∀ blockers, core.blockers blockers = replaced) ∨
      ∀ blockers, core.blockers blockers = blockers := by
  simp only [stepCore, bind_ok_iff, require_eq_ok_iff, exists_const] at stepped
  obtain ⟨⟨result, decision⟩, _, _, stepped⟩ := stepped
  split_ifs at stepped
  · obtain ⟨noted, _, ⟨⟩⟩ := bind_ok_iff.mp stepped
    exact blockersAfter_cases _ _
  · cases stepped
    exact .inl ⟨_, fun _ => rfl⟩

/-- The recorded event of a key. -/
def findSeen (recorded : List (String × String × Outcome)) (stepResult : Fields) :
    Option (String × String × Outcome) :=
  recorded.find? fun event => .str event.1 = Json.get stepResult "idempotency_key"

theorem duplicateOf_seen (state : Journal) (stepResult : Fields) :
    (duplicateOf state stepResult).map Event.seen =
      findSeen (state.events.map Event.seen) stepResult := by
  unfold duplicateOf findSeen
  rw [List.find?_map]
  rfl

/-- How a call without an exception ends. -/
inductive Ending where
  | unchanged
  | late (blocker : String)
  | recorded (core : StepCore)

/-- A call without the events and the blockers. -/
def advanceCore (rt : Runtime) (state : Journal)
    (recorded : List (String × String × Outcome)) (call : StepCall) : Except String Ending :=
  if state.status.isTerminal then .ok .unchanged
  else
    match overdue state call.now with
    | some blocker => .ok (.late blocker)
    | none =>
        match findSeen recorded call.stepResult with
        | some (_, phase, outcome) =>
            if .str phase = Json.get call.stepResult "phase" ∧
                .str outcome.name = Json.get call.stepResult "outcome" then .ok .unchanged
            else .error "STEP_IDEMPOTENCY_CONFLICT"
        | none => (stepCore rt state call).map .recorded

theorem stepCore_of_recorded {rt : Runtime} {state : Journal}
    {recorded : List (String × String × Outcome)} {call : StepCall} {core : StepCore}
    (ended : advanceCore rt state recorded call = .ok (.recorded core)) :
    stepCore rt state call = .ok core := by
  unfold advanceCore at ended
  split_ifs at ended
  · cases ended
  · split at ended
    · cases ended
    · split at ended
      · split_ifs at ended
        cases ended
      · cases stepped : stepCore rt state call with
        | error error =>
            rw [stepped] at ended
            cases ended
        | ok other =>
            rw [stepped] at ended
            cases ended
            rfl

/-- What an ending makes of a journal. -/
def Ending.apply (rt : Runtime) (state : Journal) (events : List Event)
    (eventHead : Option String) (blockers : List Json) (updatedAt : Timestamp) (call : StepCall) :
    Ending → Advance
  | .unchanged => .unchanged
  | .late blocker =>
      .save ({ state with status := .blocked }.withUnread events eventHead [.str blocker] updatedAt)
  | .recorded core =>
      let event := newEvent rt (state.withUnread events eventHead blockers updatedAt)
        core.result core.decision call
      .save (core.state.withUnread (events ++ [event]) (some event.eventHash)
        (core.blockers blockers) updatedAt)

theorem advanceState_withUnread (rt : Runtime) (state : Journal) (events : List Event)
    (eventHead : Option String) (blockers : List Json) (updatedAt : Timestamp) (call : StepCall) :
    advanceState rt (state.withUnread events eventHead blockers updatedAt) call =
      (advanceCore rt state (events.map Event.seen) call).map
        (Ending.apply rt state events eventHead blockers updatedAt call) := by
  have late : overdue (state.withUnread events eventHead blockers updatedAt) call.now =
      overdue state call.now := rfl
  have sameStatus : (state.withUnread events eventHead blockers updatedAt).status = state.status :=
    rfl
  have found := duplicateOf_seen (state.withUnread events eventHead blockers updatedAt)
    call.stepResult
  unfold advanceState advanceCore
  rw [sameStatus, late, takeStep_withUnread]
  split_ifs with terminal
  · rfl
  · cases overdue state call.now with
    | some blocker => rfl
    | none =>
        dsimp only
        rw [show (state.withUnread events eventHead blockers updatedAt).events = events from rfl]
          at found
        rw [← found]
        cases duplicateOf (state.withUnread events eventHead blockers updatedAt)
            call.stepResult with
        | some event =>
            simp only [Option.map_some, Event.seen]
            split_ifs <;> rfl
        | none =>
            cases stepCore rt state call with
            | error error => rfl
            | ok core => rfl

end Adwf.Orchestrator
