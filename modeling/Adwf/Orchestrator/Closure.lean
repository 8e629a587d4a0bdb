import Adwf.Orchestrator.Directory
import Adwf.Run.Guarded

/-!
# Saved journals load again

A step keeps a journal well formed except where it moves the subject of the run
away from the delivery revision: `KeepsBinding` names the steps that do not.
-/

namespace Adwf.Orchestrator

open Adwf.Policy Adwf.Run

/-! ## The condition on a step -/

/-- The phase a passed RECOVERY returns to. -/
def returnPhase (state : Journal) : Phase :=
  state.lastFailedPhase.getD .reconcile

/-- The outcome takes a run out of CLEANUP and NEXT: a failure, an exhausted
retry, or a next cycle within the budget. -/
def leavesDelivery (state : Journal) : Except String Outcome → Bool
  | .ok .fail => true
  | .ok .retry => attempt state > state.maxAttempts
  | .ok .nextReady => state.cycle + 1 < state.maxCycles
  | _ => false

/-- The steps that keep the delivery binding.  In CLEANUP and NEXT the step
leaves the delivery phases or brings no other subject; a passed RECOVERY returns
to a known phase, and to a delivery phase only with the delivery revision as
its subject. -/
def KeepsBinding (state : Journal) (stepResult : Fields) : Prop :=
  let given := Json.get stepResult "subject_sha"
  let outcome := readOutcome (Json.get stepResult "outcome")
  match state.phase with
  | .cleanup | .next =>
      leavesDelivery state outcome = true ∨ (given.truthy = true → given = state.deliverySha)
  | .recovery =>
      outcome = .ok .pass → (returnPhase state).isKnown = true ∧
        DeliveryBound (returnPhase state) (effectiveSha state given) state.deliverySha
  | _ => True

instance (state : Journal) (stepResult : Fields) : Decidable (KeepsBinding state stepResult) := by
  unfold KeepsBinding DeliveryBound
  cases state.phase <;> infer_instance

/-- The policy allows the step and the run is in time. -/
def Authorized (rt : Runtime) (state : Journal) (call : StepCall) : Prop :=
  overdue state call.now = none ∧
    ∃ result decision, decideStep rt state call = .ok (result, decision) ∧
      decision.result = .allow

/-! ## What the outcome branch keeps -/

/-- The phase after the outcome branch. -/
def phaseAfter (state : Journal) : Outcome → Phase
  | .pass => passedPhase state
  | .fail => .recovery
  | .retry => if attempt state > state.maxAttempts then .recovery else state.phase
  | .changesRequested => .execute
  | .humanRequired | .block => state.phase
  | .roadmapComplete => .next
  | .nextReady => if state.cycle + 1 ≥ state.maxCycles then state.phase else .reconcile

theorem applyOutcome_phase (state : Journal) (result : StepResult) :
    (applyOutcome state result).phase = phaseAfter state result.outcome := by
  unfold applyOutcome phaseAfter
  cases result.outcome with
  | fail => by_cases recovering : state.phase = .recovery <;> simp [recovering]
  | retry => dsimp only; split_ifs <;> rfl
  | nextReady => dsimp only; split_ifs <;> rfl
  | _ => rfl

/-- The members the outcome branch leaves alone. -/
structure OutcomeFrame (before after : Journal) : Prop where
  schemaVersion : after.schemaVersion = before.schemaVersion
  runId : after.runId = before.runId
  productImpact : after.productImpact = before.productImpact
  budget : after.monetaryBudgetUsd = before.monetaryBudgetUsd
  events : after.events = before.events
  eventHead : after.eventHead = before.eventHead

theorem applyOutcome_frame (state : Journal) (result : StepResult) :
    OutcomeFrame state (applyOutcome state result) := by
  unfold applyOutcome
  cases result.outcome with
  | fail | retry | nextReady =>
      dsimp only
      split_ifs <;> exact ⟨rfl, rfl, rfl, rfl, rfl, rfl⟩
  | _ => exact ⟨rfl, rfl, rfl, rfl, rfl, rfl⟩

/-- Only a next cycle changes the subject or the delivery revision, and it
clears both. -/
theorem applyOutcome_shas (state : Journal) (result : StepResult) :
    ((applyOutcome state result).subjectSha = state.subjectSha ∧
        (applyOutcome state result).deliverySha = state.deliverySha) ∨
      (phaseAfter state result.outcome = .reconcile ∧
        (applyOutcome state result).deliverySha = .null) := by
  unfold applyOutcome phaseAfter
  cases result.outcome with
  | fail => dsimp only; split_ifs <;> simp
  | retry => dsimp only; split_ifs <;> simp
  | nextReady => dsimp only; split_ifs <;> simp
  | _ => simp

theorem applyOutcome_deliveryBound_iff (state : Journal) (result : StepResult) :
    DeliveryBound (applyOutcome state result).phase (applyOutcome state result).subjectSha
        (applyOutcome state result).deliverySha ↔
      DeliveryBound (phaseAfter state result.outcome) state.subjectSha state.deliverySha := by
  rw [applyOutcome_phase]
  rcases applyOutcome_shas state result with ⟨subject, delivery⟩ | ⟨reconciling, _⟩
  · rw [subject, delivery]
  · simp [reconciling, DeliveryBound, Phase.isDeliveryState]

variable {state : Journal} {result : StepResult} {rt : Runtime} {stepResult : Fields}
variable {call : StepCall}

theorem applyOutcome_complete (complete : (applyOutcome state result).status = .complete) :
    (applyOutcome state result).phase = .next := by
  unfold applyOutcome at complete ⊢
  cases outcome : result.outcome with
  | roadmapComplete => rfl
  | fail | retry | nextReady =>
      simp only [outcome] at complete
      split_ifs at complete
  | _ => simp [outcome] at complete

/-! ## Well-formedness of a saved journal -/

theorem wellFormed_saved_iff {savedAt : Int} :
    WellFormed rt (state.saved savedAt) ↔ WellFormed rt state :=
  ⟨fun ⟨schema, phase, budget, chain, sha, delivery⟩ =>
      ⟨schema, phase, budget, chain, sha, delivery⟩,
    fun ⟨schema, phase, budget, chain, sha, delivery⟩ =>
      ⟨schema, phase, budget, chain, sha, delivery⟩⟩

theorem chain_appendEvent (result : StepResult) (decision : Decision) (call : StepCall)
    (chain : Chain rt 0 none state.events state.eventHead) :
    Chain rt 0 none (state.events ++ [newEvent rt state result decision call])
      (some (newEvent rt state result decision call).eventHash) :=
  chain.append (by simp [newEvent]) rfl rfl

theorem known_of_wellFormed
    (wellFormed : WellFormed rt state) (running : state.status.isTerminal = false) :
    state.phase.isKnown = true := by
  rcases wellFormed.phase with known | complete
  · exact known
  · rw [complete] at running
    cases running

theorem phaseAfter_boundJournal (rt : Runtime) (state : Journal) (events : List Event)
    (eventHead : Option String) (issueId : String) (workBranch : Option String)
    (pullRequestNumber : Option Int) (previewAttestationId : Option String)
    (result : StepResult) (outcome : Outcome) : phaseAfter (boundJournal rt { state with
          events, eventHead, issueId, workBranch, pullRequestNumber, previewAttestationId }
        result) outcome = phaseAfter state outcome := by
  cases outcome <;> rfl

theorem phaseAfter_early (normalized : Normalized state stepResult result)
    (early : state.phase ∈ [.reconcile, .authorize, .claim, .workspace, .execute, .openPr, .ci,
      .review, .preview, .ownerAcceptance]) : (phaseAfter state result.outcome).isKnown = true ∧
      (phaseAfter state result.outcome).isDeliveryState = false := by
  have nextOnly := normalized.nextOutcome
  rw [normalized.phase] at nextOnly
  simp only [List.mem_cons, List.not_mem_nil, or_false] at early
  rcases early with phase | phase | phase | phase | phase | phase | phase | phase | phase | phase
  all_goals
    rw [phase] at nextOnly
    cases outcome : result.outcome <;>
      simp_all [phaseAfter, passedPhase, Phase.following, Phase.isKnown, Phase.isDeliveryState] <;>
      split_ifs <;> simp

theorem phaseAfter_known
    (normalized : Normalized state stepResult result) (notRecovery : state.phase ≠ .recovery) :
    (phaseAfter state result.outcome).isKnown = true := by
  have known := normalized.known
  cases outcome : result.outcome with
  | pass =>
      simp only [phaseAfter, passedPhase]
      cases phase : state.phase with
      | unknown name => simp [phase, Phase.isKnown] at known
      | recovery => exact absurd phase notRecovery
      | review => cases state.productImpact <;> rfl
      | _ => rfl
  | retry =>
      simp only [phaseAfter]
      split_ifs
      · rfl
      · exact known
  | nextReady =>
      simp only [phaseAfter]
      split_ifs
      · exact known
      · rfl
  | humanRequired | block => exact known
  | _ => rfl

theorem phaseAfter_delivery_iff (normalized : Normalized state stepResult result)
    (phase : state.phase = .cleanup ∨ state.phase = .next) :
    (phaseAfter state result.outcome).isDeliveryState = true ↔
      leavesDelivery state (.ok result.outcome) = false := by
  have changesOnly := normalized.changesRequested
  rw [normalized.phase] at changesOnly
  cases outcome : result.outcome with
  | pass =>
      rcases phase with phase | phase <;>
        simp [phaseAfter, passedPhase, phase, Phase.following, Phase.isDeliveryState, leavesDelivery]
  | changesRequested =>
      rcases phase with phase | phase <;> simp [outcome, phase] at changesOnly
  | retry =>
      by_cases exhausted : attempt state > state.maxAttempts <;>
        rcases phase with phase | phase <;>
        simp [phaseAfter, exhausted, phase, Phase.isDeliveryState, leavesDelivery]
  | nextReady =>
      by_cases exhausted : state.cycle + 1 ≥ state.maxCycles <;>
        rcases phase with phase | phase <;>
        simp [phaseAfter, phase, Phase.isDeliveryState, leavesDelivery, exhausted]
  | _ =>
      rcases phase with phase | phase <;>
        simp [phaseAfter, phase, Phase.isDeliveryState, leavesDelivery]

/-- The subject an allowed step leaves to the outcome branch. -/
def subjectAfter (rt : Runtime) (state : Journal) (result : StepResult) : Json :=
  if state.phase = .merge ∧ result.outcome = .pass then mergedSha rt result
  else effectiveSha state result.subjectSha

/-- The delivery revision an allowed step leaves to the outcome branch. -/
def deliveryAfter (rt : Runtime) (state : Journal) (result : StepResult) : Json :=
  if state.phase = .merge ∧ result.outcome = .pass then mergedSha rt result
  else state.deliverySha

theorem mergedSha_isSha (rt : Runtime) (normalized : Normalized state stepResult result)
    (merging : state.phase = .merge) (passed : result.outcome = .pass) :
    isSha (mergedSha rt result) = true := by
  have sha := normalized.mergeSha (normalized.phase.trans merging) passed
  obtain ⟨text, merge_eq, hex⟩ := Json.textSatisfies_iff.mp sha
  rw [mergedSha, merge_eq]
  exact hex

theorem deliveryBound_of_outside {phase : Phase} {subject delivery : Json}
    (outside : phase.isDeliveryState = false) : DeliveryBound phase subject delivery := by
  intro inside
  rw [outside] at inside
  cases inside

theorem phaseAfter_recovery
    (normalized : Normalized state stepResult result) (phase : state.phase = .recovery)
    (failed : result.outcome ≠ .pass) : (phaseAfter state result.outcome).isKnown = true ∧
      (phaseAfter state result.outcome).isDeliveryState = false := by
  have nextOnly := normalized.nextOutcome
  rw [normalized.phase, phase] at nextOnly
  cases outcome : result.outcome with
  | pass => exact absurd outcome failed
  | retry => simp [phaseAfter, phase, Phase.isKnown, Phase.isDeliveryState]
  | roadmapComplete | nextReady => simp [outcome] at nextOnly
  | _ => simp [phaseAfter, phase, Phase.isKnown, Phase.isDeliveryState]

theorem merge_bound (normalized : Normalized state stepResult result)
    (phase : state.phase = .merge) :
    DeliveryBound (phaseAfter state result.outcome) (subjectAfter rt state result)
      (deliveryAfter rt state result) := by
  have nextOnly := normalized.nextOutcome
  rw [normalized.phase, phase] at nextOnly
  cases outcome : result.outcome with
  | pass =>
      have hex := mergedSha_isSha rt normalized phase outcome
      intro _
      simp [subjectAfter, deliveryAfter, phase, outcome, hex]
  | retry =>
      apply deliveryBound_of_outside
      simp only [phaseAfter, phase]
      split_ifs <;> rfl
  | roadmapComplete | nextReady => simp [outcome] at nextOnly
  | _ => exact deliveryBound_of_outside (by simp [phaseAfter, phase, Phase.isDeliveryState])

theorem binding_iff (rt : Runtime) (wellFormed : WellFormed rt state)
    (normalized : Normalized state stepResult result) :
    ((phaseAfter state result.outcome).isKnown = true ∧
        DeliveryBound (phaseAfter state result.outcome) (subjectAfter rt state result)
          (deliveryAfter rt state result)) ↔ KeepsBinding state stepResult := by
  have given : state.phase.needsSha = false →
      result.subjectSha = Json.get stepResult "subject_sha" := by
    intro noSha
    rw [normalized.subject, resultSha, noSha, if_neg (by decide)]
  cases phase : state.phase with
  | unknown name =>
      have known := normalized.known
      simp [phase, Phase.isKnown] at known
  | merge =>
      have known := phaseAfter_known normalized (by simp [phase])
      exact iff_of_true ⟨known, merge_bound normalized phase⟩ (by simp [KeepsBinding, phase])
  | promote | observe | done =>
      have known := phaseAfter_known normalized (by simp [phase])
      refine iff_of_true ⟨known, ?_⟩ (by simp [KeepsBinding, phase])
      intro _
      have deliveryPhase : result.phase.isDeliveryResult = true := by
        rw [normalized.phase, phase]
        rfl
      have hex := normalized.deliverySha deliveryPhase
      have subject := normalized.deliverySubject deliveryPhase
      have truthy := truthy_of_isSha hex
      simp [subjectAfter, deliveryAfter, phase, hex, effectiveSha, truthy, subject]
  | cleanup | next =>
      have known := phaseAfter_known normalized (by simp [phase])
      obtain ⟨hex, bound⟩ := wellFormed.delivery (by simp [phase, Phase.isDeliveryState])
      have stays := phaseAfter_delivery_iff normalized (by simp [phase])
      have given_eq := given (by simp [phase, Phase.needsSha])
      simp only [KeepsBinding, phase, normalized.outcome, ← given_eq, known, true_and]
      simp only [DeliveryBound, subjectAfter, deliveryAfter, phase, effectiveSha, stays]
      cases leaves : leavesDelivery state (.ok result.outcome) with
      | true => simp
      | false =>
          by_cases truthy : result.subjectSha.truthy = true <;> simp [truthy, bound, hex]
  | recovery =>
      have given_eq := given (by simp [phase, Phase.needsSha])
      simp only [KeepsBinding, phase, normalized.outcome, ← given_eq, Except.ok.injEq]
      by_cases passed : result.outcome = .pass
      · simp [passed, phaseAfter, passedPhase, phase, subjectAfter, deliveryAfter, returnPhase]
      · obtain ⟨known, outside⟩ := phaseAfter_recovery normalized phase passed
        exact iff_of_true ⟨known, deliveryBound_of_outside outside⟩ (absurd · passed)
  | _ =>
      obtain ⟨known, outside⟩ := phaseAfter_early normalized (by simp [phase])
      exact iff_of_true ⟨known, deliveryBound_of_outside outside⟩ (by simp [KeepsBinding, phase])

theorem deliveryAfter_isSha (rt : Runtime) (wellFormed : WellFormed rt state)
    (normalized : Normalized state stepResult result) : deliveryAfter rt state result = .null ∨
      isSha (deliveryAfter rt state result) = true := by
  unfold deliveryAfter
  split_ifs with merged
  · exact Or.inr (mergedSha_isSha rt normalized merged.1 merged.2)
  · exact wellFormed.deliverySha

theorem applied_wellFormed_iff {decision : Decision} (issueId : String)
    (workBranch : Option String) (pullRequestNumber : Option Int)
    (previewAttestationId : Option String) (wellFormed : WellFormed rt state)
    (normalized : Normalized state call.stepResult result) :
    WellFormed rt (applyOutcome (boundJournal rt
        { appendEvent state (newEvent rt state result decision call) with
          issueId, workBranch, pullRequestNumber, previewAttestationId } result) result) ↔
      KeepsBinding state call.stepResult := by
  rw [← binding_iff rt wellFormed normalized]
  set bound := boundJournal rt
    { appendEvent state (newEvent rt state result decision call) with
      issueId, workBranch, pullRequestNumber, previewAttestationId } result with bound_eq
  have phase : phaseAfter bound result.outcome = phaseAfter state result.outcome :=
    phaseAfter_boundJournal ..
  have frame := applyOutcome_frame bound result
  have binding := applyOutcome_deliveryBound_iff bound result
  rw [phase] at binding
  constructor
  · intro stored
    refine ⟨?_, binding.mp stored.delivery⟩
    rcases stored.phase with known | complete
    · rwa [applyOutcome_phase, phase] at known
    · have rests := applyOutcome_complete complete
      rw [applyOutcome_phase, phase] at rests
      rw [rests]
      rfl
  · rintro ⟨known, delivery⟩
    refine ⟨frame.schemaVersion.trans wellFormed.schemaVersion, Or.inl ?_,
      frame.budget.trans wellFormed.budget, ?_, ?_, binding.mpr delivery⟩
    · rwa [applyOutcome_phase, phase]
    · rw [frame.events, frame.eventHead]
      exact chain_appendEvent result decision call wellFormed.chain
    · have sha := deliveryAfter_isSha rt wellFormed normalized
      rcases applyOutcome_shas bound result with ⟨_, same⟩ | ⟨_, cleared⟩
      · rw [same]
        exact sha
      · exact Or.inl cleared

/-- A step that is late or refused saves a well-formed journal. -/
theorem wellFormed_status
    (wellFormed : WellFormed rt state) (running : state.status.isTerminal = false)
    {events : List Event} {eventHead : Option String} (status : Status) (blockers : List Json)
    (chain : Chain rt 0 none events eventHead) :
    WellFormed rt { state with events, eventHead, status, blockers } := by
  have known := known_of_wellFormed wellFormed running
  exact ⟨wellFormed.schemaVersion, Or.inl known, wellFormed.budget, chain, wellFormed.deliverySha,
    wellFormed.delivery⟩

theorem saved_wellFormed_iff {next : Journal} (wellFormed : WellFormed rt state)
    (ran : advanceState rt state call = .ok (.save next)) :
    WellFormed rt next ↔ (Authorized rt state call → KeepsBinding state call.stepResult) := by
  obtain ⟨running, saved⟩ := saved_of_advanceState ran
  cases saved with
  | overdue blocker late =>
      refine iff_of_true (wellFormed_status wellFormed running _ _ wellFormed.chain) ?_
      rintro ⟨inTime, _⟩
      rw [late] at inTime
      cases inTime
  | refused result decision inTime decided refused =>
      refine iff_of_true (wellFormed_status wellFormed running _ _
        (chain_appendEvent result decision call wellFormed.chain)) ?_
      rintro ⟨_, other, verdict, again, allowed⟩
      rw [decided] at again
      cases again
      exact absurd allowed refused
  | applied result decision issueId workBranch number attestation inTime decided allowed =>
      rw [applied_wellFormed_iff issueId workBranch number attestation wellFormed
        (normalized_of_decideStep decided)]
      exact ⟨fun keeps _ => keeps, fun keeps => keeps ⟨inTime, result, decision, decided, allowed⟩⟩

theorem advanceFile_wellFormed {file : Journal} (wellFormed : WellFormed rt file)
    (keeps : Authorized rt file call → KeepsBinding file call.stepResult) :
    WellFormed rt (advanceFile rt file call) := by
  unfold advanceFile advanceRun
  rw [if_pos ((validateJournal_eq_nil_iff rt file).mpr wellFormed)]
  split
  · rename_i next ran
    exact wellFormed_saved_iff.mpr ((saved_wellFormed_iff wellFormed ran).mpr keeps)
  · exact wellFormed

theorem opened_wellFormed {request : RunRequest} {start : Journal}
    (opened : Opened rt request start) : WellFormed rt start := by
  obtain ⟨directory, after, ran⟩ := opened
  obtain ⟨_, policy, revision, _, rfl, _⟩ := newRun_eq_ok ran
  exact ⟨rfl, Or.inl rfl, rfl, Chain.nil _ _, Or.inl rfl, deliveryBound_of_outside rfl⟩

/-- A runtime for fixed runs: the digest of an event is its number, and no
text parses as a number. -/
def plainRuntime : Runtime where
  digest value :=
    match value with
    | .obj fields =>
        match Json.get fields "sequence" with
        | .num sequence => toString sequence.num
        | _ => ""
    | _ => ""
  floatOf _ := none
  intOf _ := none
  textOf _ := ""

/-- An effective policy with the built-in rules. -/
def plainPolicy : PolicyIR where
  policyHash := "aaaaaaaaaaaaaaaaaaaaaaaaaaaaaaaaaaaaaaaaaaaaaaaaaaaaaaaaaaaaaaaa"
  rules := builtinRules

/-- A control context in which every health check is safe. -/
def healthyContext : SuppliedContext where
  facts :=
    { action := "", autonomy := "A3", exactSha := true, evidenceFresh := true
      health := ["package_integrity", "config_health", "control_plane_health",
        "product_health"].map fun name => (name, "HEALTHY") }

/-- A call with evidence under its own idempotency key. -/
def plainCall (key : String) (phase : Phase) (outcome : Outcome) (subjectSha previewDigest : Json)
    (metadata : Fields) : StepCall where
  stepResult :=
    [("evidence_refs", .arr [.str "evidence"]), ("idempotency_key", .str ("step-key-" ++ key)),
      ("metadata", .obj metadata), ("outcome", .str outcome.name), ("phase", .str phase.name),
      ("preview_digest", previewDigest), ("subject_sha", subjectSha)]
  controlContext := some healthyContext
  effectivePolicy := some plainPolicy
  now := 0
  occurredAt := 0
  savedAt := 0
  eventId := key

/-- A passed step that brings no revision. -/
def passCall (phase : Phase) : StepCall :=
  plainCall phase.name phase .pass .null .null []

def plainRequest : RunRequest where
  roadmapId := "ROADMAP"
  issueId := "1"
  risk := "R0"
  workType := "feature"
  productImpact := true
  ownerRequestDigest := ""
  effectivePolicy := some plainPolicy
  uuid := "run-0001"
  createdAt := 0
  savedAt := 0

/-- The journal `newRun` stores for `plainRequest`. -/
def plainStart : Journal :=
  { plainRequest.journal plainPolicy.policyHash with revision := 0, updatedAt := .at 0 }

theorem plainStart_opened : Opened plainRuntime plainRequest plainStart :=
  ⟨[], _, rfl⟩

def headRevision : String :=
  "0000000000000000000000000000000000000000"

def otherRevision : String :=
  "1111111111111111111111111111111111111111"

def plainPreview : String :=
  "bbbbbbbbbbbbbbbbbbbbbbbbbbbbbbbbbbbbbbbbbbbbbbbbbbbbbbbbbbbbbbbb"

/-- The passed steps that bring a run to OWNER_ACCEPTANCE. -/
def stepsToAcceptance : List StepCall :=
  [passCall .reconcile, passCall .authorize, passCall .claim, passCall .workspace,
    passCall .execute, plainCall "OPEN_PR" .openPr .pass (.str headRevision) .null [],
    passCall .ci, passCall .review,
    plainCall "PREVIEW" .preview .pass .null (.str plainPreview) []]

/-- The owner accepts the previewed revision. -/
def acceptCall (subjectSha : Json) : StepCall :=
  plainCall "OWNER_ACCEPTANCE" .ownerAcceptance .pass subjectSha .null
    [("accepted_preview_digest", .str plainPreview), ("owner_acceptance_exact", .bool true)]

def mergeCall (subjectSha : Json) : StepCall :=
  plainCall "MERGE" .merge .pass subjectSha .null [("merge_sha", .str headRevision)]

/-- The passed steps that bring a run to CLEANUP. -/
def stepsToCleanup : List StepCall :=
  stepsToAcceptance ++ [acceptCall .null, mergeCall .null, passCall .promote, passCall .observe,
    passCall .done]

end Adwf.Orchestrator
