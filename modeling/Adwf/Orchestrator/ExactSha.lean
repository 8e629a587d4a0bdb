import Adwf.Orchestrator.Closure

/-!
# The exact-SHA chain

A run with product impact previews a revision, the owner accepts it, and MERGE
merges it.  `ExactBindings` is what every reachable journal says of the
revisions it is bound to, whatever the steps bring; `merges_exact` adds the
condition on a MERGE step under which the merged revision is the accepted and
previewed one.
-/

namespace Adwf.Orchestrator

open Adwf.Policy Adwf.Run

/-! ## Accepted passes -/

/-- The event records a passed step of `phase` that the policy allowed. -/
def isAcceptedPass (phase : Phase) (event : Event) : Bool :=
  event.phase = phase && event.outcome = .pass && event.decision.result = .allow

/-- The subject of the most recent accepted pass of `phase`. -/
def lastPassSha (phase : Phase) (events : List Event) : Option Json :=
  (events.reverse.find? (isAcceptedPass phase)).map (·.subjectSha)

theorem lastPassSha_append (phase : Phase) (events : List Event) (event : Event) :
    lastPassSha phase (events ++ [event]) =
      if isAcceptedPass phase event then some event.subjectSha else lastPassSha phase events := by
  unfold lastPassSha
  rw [List.reverse_append, List.reverse_singleton, List.singleton_append, List.find?_cons]
  cases isAcceptedPass phase event <;> simp

/-! ## The bindings of a run -/

/-- The phase a run is in, or returns to from RECOVERY. -/
def stage (state : Journal) : Phase :=
  match state.phase with
  | .recovery => returnPhase state
  | phase => phase

/-- What the events say of the revisions while a run is at `stage`: up to MERGE
a preview digest belongs to the subject, and in MERGE an acceptance does. -/
structure ExactAt (stage : Phase) (events : List Event)
    (subjectSha previewDigest ownerAcceptanceSha : Json) : Prop where
  previewed : stage = .ownerAcceptance ∨ stage = .merge → previewDigest ≠ .null →
    isSha subjectSha = true ∧ lastPassSha .preview events = some subjectSha
  accepted : stage = .merge → ownerAcceptanceSha ≠ .null →
    isSha subjectSha = true ∧ ownerAcceptanceSha = subjectSha ∧
      lastPassSha .ownerAcceptance events = some subjectSha

/-- The bindings of a journal with product impact. -/
structure ExactBindings (state : Journal) : Prop where
  productImpact : state.productImpact = true
  exactAt : ExactAt (stage state) state.events state.subjectSha state.previewDigest
    state.ownerAcceptanceSha

namespace ExactAt

theorem of_outside {stage : Phase} {events : List Event}
    {subjectSha previewDigest ownerAcceptanceSha : Json} (notAccepting : stage ≠ .ownerAcceptance)
    (notMerging : stage ≠ .merge) :
    ExactAt stage events subjectSha previewDigest ownerAcceptanceSha where
  previewed at_stage := (at_stage.elim notAccepting notMerging).elim
  accepted merging := (notMerging merging).elim

theorem append {stage : Phase} {events : List Event}
    {subjectSha previewDigest ownerAcceptanceSha : Json} {event : Event}
    (exactAt : ExactAt stage events subjectSha previewDigest ownerAcceptanceSha)
    (notPreview : isAcceptedPass .preview event = false)
    (notAcceptance : isAcceptedPass .ownerAcceptance event = false) :
    ExactAt stage (events ++ [event]) subjectSha previewDigest ownerAcceptanceSha where
  previewed at_stage present := by
    rw [lastPassSha_append, notPreview]
    exact exactAt.previewed at_stage present
  accepted merging present := by
    rw [lastPassSha_append, notAcceptance]
    exact exactAt.accepted merging present

end ExactAt

theorem effectiveSha_of_not_withdraws {state : Journal} {result : StepResult}
    (subject : isSha state.subjectSha = true) (kept : withdraws state result = false) :
    effectiveSha state result.subjectSha = state.subjectSha := by
  have truthy := truthy_of_isSha subject
  unfold effectiveSha
  split_ifs with given
  · simp only [withdraws, given, truthy, Bool.true_and, decide_eq_false_iff_not,
      Decidable.not_not] at kept
    exact kept.symm
  · rfl

theorem ExactAt.withdrawn {at_stage : Phase} {state : Journal} (result : StepResult)
    (exactAt : ExactAt at_stage state.events state.subjectSha state.previewDigest
      state.ownerAcceptanceSha) :
    ExactAt at_stage state.events (effectiveSha state result.subjectSha)
      (if withdraws state result then .null else state.previewDigest)
      (if withdraws state result then .null else state.ownerAcceptanceSha) := by
  cases moved : withdraws state result with
  | true => exact ⟨fun _ present => absurd rfl present, fun _ present => absurd rfl present⟩
  | false =>
      constructor
      · intro reached present
        obtain ⟨subject, previewed⟩ := exactAt.previewed reached present
        rw [effectiveSha_of_not_withdraws subject moved]
        exact ⟨subject, previewed⟩
      · intro merging present
        obtain ⟨subject, acceptance, accepted⟩ := exactAt.accepted merging present
        rw [effectiveSha_of_not_withdraws subject moved]
        exact ⟨subject, acceptance, accepted⟩

/-! ## What one step keeps -/

theorem stage_failed {state : Journal} (running : state.phase ≠ .recovery) :
    stage state = state.phase := by
  unfold stage
  cases phase : state.phase with
  | recovery => exact absurd phase running
  | _ => rfl

theorem exactAt_not_passed {state : Journal} {result : StepResult} (failed : result.outcome ≠ .pass)
    (nextOnly : result.outcome = .roadmapComplete ∨ result.outcome = .nextReady →
      state.phase = .next)
    (exactAt : ExactAt (stage state) state.events state.subjectSha state.previewDigest
      state.ownerAcceptanceSha) :
    ExactAt (stage (applyOutcome state result)) (applyOutcome state result).events
      (applyOutcome state result).subjectSha (applyOutcome state result).previewDigest
      (applyOutcome state result).ownerAcceptanceSha := by
  unfold applyOutcome
  cases outcome : result.outcome with
  | pass => exact absurd outcome failed
  | fail =>
      by_cases recovering : state.phase = .recovery
      · simpa [recovering, stage, returnPhase] using exactAt
      · simpa [recovering, stage, returnPhase, stage_failed recovering] using exactAt
  | retry =>
      dsimp only
      split_ifs
      · by_cases recovering : state.phase = .recovery
        · exact ExactAt.of_outside (by simp [stage, returnPhase, recovering])
            (by simp [stage, returnPhase, recovering])
        · simpa [stage, returnPhase, stage_failed recovering] using exactAt
      · exact exactAt
  | changesRequested => exact ExactAt.of_outside (by simp [stage]) (by simp [stage])
  | humanRequired | block => exact exactAt
  | roadmapComplete => exact ExactAt.of_outside (by simp [stage]) (by simp [stage])
  | nextReady =>
      have phase := nextOnly (Or.inr outcome)
      dsimp only
      split_ifs <;>
        exact ExactAt.of_outside (by simp [stage, phase]) (by simp [stage, phase])

theorem stage_passed {state : Journal} {result : StepResult} (passed : result.outcome = .pass)
    (known : state.phase.isKnown = true) (impact : state.productImpact = true)
    (notPreview : state.phase ≠ .preview) (notAcceptance : state.phase ≠ .ownerAcceptance) :
    (state.phase = .recovery ∧ stage (applyOutcome state result) = stage state) ∨
      (stage (applyOutcome state result) ≠ .ownerAcceptance ∧
        stage (applyOutcome state result) ≠ .merge) := by
  unfold applyOutcome
  simp only [passed]
  cases phase : state.phase with
  | preview => exact absurd phase notPreview
  | ownerAcceptance => exact absurd phase notAcceptance
  | unknown name => simp [phase, Phase.isKnown] at known
  | recovery =>
      by_cases again : returnPhase state = .recovery
      · simp_all [stage, passedPhase, returnPhase]
      · refine Or.inl ⟨rfl, ?_⟩
        simp only [stage, passedPhase, phase]
        rw [← returnPhase]
        split
        · rename_i same
          exact absurd same again
        · rfl
  | _ => simp [stage, passedPhase, phase, impact, Phase.following]

theorem isAcceptedPass_newEvent (rt : Runtime) {state : Journal} (result : StepResult)
    (decision : Decision) (call : StepCall) {phase : Phase}
    (other : state.phase ≠ phase ∨ result.outcome ≠ .pass) :
    isAcceptedPass phase (newEvent rt state result decision call) = false := by
  rcases other with other | failed
  · simp [isAcceptedPass, newEvent, other]
  · simp [isAcceptedPass, newEvent, failed]

theorem isAcceptedPass_newEvent_self (rt : Runtime) (state : Journal) {result : StepResult}
    {decision : Decision} (call : StepCall) (passed : result.outcome = .pass)
    (allowed : decision.result = .allow) :
    isAcceptedPass state.phase (newEvent rt state result decision call) = true := by
  simp [isAcceptedPass, newEvent, passed, allowed]

/-- The journal `bound` holds the event of an allowed step and the revisions the
step binds; its outcome branch is still to come. -/
structure Binds (state : Journal) (event : Event) (result : StepResult) (bound : Journal) :
    Prop where
  phase : bound.phase = state.phase
  lastFailedPhase : bound.lastFailedPhase = state.lastFailedPhase
  productImpact : bound.productImpact = state.productImpact
  events : bound.events = state.events ++ [event]
  subjectSha : ¬(state.phase = .merge ∧ result.outcome = .pass) →
    bound.subjectSha = effectiveSha state result.subjectSha
  previewDigest : bound.previewDigest =
    if state.phase = .preview ∧ result.outcome = .pass then result.previewDigest
    else if withdraws state result then .null else state.previewDigest
  ownerAcceptanceSha : bound.ownerAcceptanceSha =
    if state.phase = .ownerAcceptance ∧ result.outcome = .pass then
      effectiveSha state result.subjectSha
    else if withdraws state result then .null else state.ownerAcceptanceSha

theorem binds_boundJournal (rt : Runtime) (state : Journal) (event : Event)
    (result : StepResult) (issueId : String) (workBranch : Option String)
    (pullRequestNumber : Option Int) (previewAttestationId : Option String) :
    Binds state event result (boundJournal rt { appendEvent state event with
        issueId, workBranch, pullRequestNumber, previewAttestationId } result) where
  phase := rfl
  lastFailedPhase := rfl
  productImpact := rfl
  events := rfl
  subjectSha := fun notMerged => if_neg notMerged
  previewDigest := rfl
  ownerAcceptanceSha := rfl

namespace Binds

variable {state bound : Journal} {event : Event} {result : StepResult}

theorem stage_eq (binds : Binds state event result bound) : stage bound = stage state := by
  simp only [stage, returnPhase, binds.phase, binds.lastFailedPhase]

theorem exactAt (binds : Binds state event result bound) (bindings : ExactBindings state)
    (notPreview : isAcceptedPass .preview event = false)
    (notAcceptance : isAcceptedPass .ownerAcceptance event = false)
    (plain : result.outcome ≠ .pass ∨ state.phase = .recovery) :
    ExactAt (stage bound) bound.events bound.subjectSha bound.previewDigest
      bound.ownerAcceptanceSha := by
  have other : ∀ phase, phase ≠ .recovery → ¬(state.phase = phase ∧ result.outcome = .pass) := by
    rintro phase notRecovery ⟨same, passed⟩
    rcases plain with failed | recovering
    · exact failed passed
    · exact notRecovery (same.symm.trans recovering)
  rw [binds.stage_eq, binds.events, binds.subjectSha (other _ (by decide)), binds.previewDigest,
    binds.ownerAcceptanceSha, if_neg (other _ (by decide)), if_neg (other _ (by decide))]
  exact (bindings.exactAt.withdrawn result).append notPreview notAcceptance

end Binds

section AllowedStep

variable {rt : Runtime} {state bound : Journal} {call : StepCall} {result : StepResult}
variable {decision : Decision}

theorem exactBindings_preview
    (binds : Binds state (newEvent rt state result decision call) result bound)
    (bindings : ExactBindings state) (normalized : Normalized state call.stepResult result)
    (allowed : decision.result = .allow) (passed : result.outcome = .pass)
    (previewing : state.phase = .preview) : ExactBindings (applyOutcome bound result) := by
  have sha := normalized.subjectSha (by rw [previewing]; rfl)
  have pass := isAcceptedPass_newEvent_self rt state call passed allowed
  rw [previewing] at pass
  have subject : bound.subjectSha = result.subjectSha := by
    rw [binds.subjectSha (by simp [previewing]), effectiveSha, if_pos (truthy_of_isSha sha)]
  refine ⟨(applyOutcome_frame bound result).productImpact.trans
    (binds.productImpact.trans bindings.productImpact), ?_⟩
  simp only [applyOutcome, passed, passedPhase, stage, binds.phase, previewing, Phase.following,
    binds.events, subject]
  refine ⟨fun _ _ => ⟨sha, ?_⟩, fun merging => by cases merging⟩
  rw [lastPassSha_append, pass, if_pos rfl]
  rfl

theorem exactBindings_acceptance
    (binds : Binds state (newEvent rt state result decision call) result bound)
    (bindings : ExactBindings state) (normalized : Normalized state call.stepResult result)
    (allowed : decision.result = .allow) (passed : result.outcome = .pass)
    (accepting : state.phase = .ownerAcceptance) : ExactBindings (applyOutcome bound result) := by
  have sha := normalized.subjectSha (by rw [accepting]; rfl)
  have pass := isAcceptedPass_newEvent_self rt state call passed allowed
  rw [accepting] at pass
  have effective : effectiveSha state result.subjectSha = result.subjectSha := by
    rw [effectiveSha, if_pos (truthy_of_isSha sha)]
  have notPreview : isAcceptedPass .preview (newEvent rt state result decision call) = false :=
    isAcceptedPass_newEvent rt result decision call (Or.inl (by rw [accepting]; decide))
  have withdrawn := (bindings.exactAt.withdrawn result).previewed
    (Or.inl (by simp [stage, accepting]))
  refine ⟨(applyOutcome_frame bound result).productImpact.trans
    (binds.productImpact.trans bindings.productImpact), ?_⟩
  simp only [applyOutcome, passed, passedPhase, stage, binds.phase, accepting, Phase.following,
    binds.events, binds.subjectSha (by simp [accepting]), binds.previewDigest,
    binds.ownerAcceptanceSha, reduceCtorEq, false_and, if_false, and_self, if_true]
  constructor
  · intro _ present
    rw [lastPassSha_append, notPreview]
    exact withdrawn present
  · intro _ _
    rw [lastPassSha_append, pass, if_pos rfl, effective]
    exact ⟨sha, rfl, rfl⟩

theorem exactBindings_applied
    (binds : Binds state (newEvent rt state result decision call) result bound)
    (bindings : ExactBindings state) (normalized : Normalized state call.stepResult result)
    (allowed : decision.result = .allow) : ExactBindings (applyOutcome bound result) := by
  have nextOnly := normalized.nextOutcome
  rw [normalized.phase, ← binds.phase] at nextOnly
  have impact := binds.productImpact.trans bindings.productImpact
  by_cases passed : result.outcome = .pass
  · by_cases previewing : state.phase = .preview
    · exact exactBindings_preview binds bindings normalized allowed passed previewing
    by_cases accepting : state.phase = .ownerAcceptance
    · exact exactBindings_acceptance binds bindings normalized allowed passed accepting
    refine ⟨(applyOutcome_frame bound result).productImpact.trans impact, ?_⟩
    have notPreview := isAcceptedPass_newEvent rt result decision call
      (Or.inl previewing)
    have notAcceptance := isAcceptedPass_newEvent rt result decision call
      (Or.inl accepting)
    rw [← binds.phase] at previewing accepting
    have known := normalized.known
    rw [← binds.phase] at known
    rcases stage_passed passed known impact previewing accepting with
      ⟨recovering, same⟩ | ⟨notAccepting, notMerging⟩
    · rw [same]
      rw [binds.phase] at recovering
      have kept := binds.exactAt bindings notPreview notAcceptance (Or.inr recovering)
      simpa only [applyOutcome, passed] using kept
    · exact ExactAt.of_outside notAccepting notMerging
  · have notPass : ∀ phase, isAcceptedPass phase (newEvent rt state result decision call) =
        false := fun phase => isAcceptedPass_newEvent rt result decision call (Or.inr passed)
    exact ⟨(applyOutcome_frame bound result).productImpact.trans impact,
      exactAt_not_passed passed nextOnly
        (binds.exactAt bindings (notPass _) (notPass _) (Or.inl passed))⟩

end AllowedStep

theorem exactBindings_advanceFile {rt : Runtime} {file : Journal} (call : StepCall)
    (bindings : ExactBindings file) : ExactBindings (advanceFile rt file call) := by
  rcases advanceFile_cases rt file call with same | ⟨next, stored, running, saved⟩
  · rw [same]
    exact bindings
  · rw [stored]
    suffices ExactBindings next from ⟨this.productImpact, this.exactAt⟩
    cases saved with
    | overdue blocker late => exact ⟨bindings.productImpact, bindings.exactAt⟩
    | refused result decision inTime decided refused =>
        have notPass : ∀ phase, isAcceptedPass phase (newEvent rt file result decision call) =
            false := fun phase => by simp [isAcceptedPass, newEvent, refused]
        exact ⟨bindings.productImpact, bindings.exactAt.append (notPass _) (notPass _)⟩
    | applied result decision issueId workBranch number attestation inTime decided allowed =>
        exact exactBindings_applied (binds_boundJournal ..) bindings
          (normalized_of_decideStep decided) allowed

theorem exactBindings_opened {rt : Runtime} {request : RunRequest} {start : Journal}
    (opened : Opened rt request start) (impact : request.productImpact = true) :
    ExactBindings start := by
  obtain ⟨directory, after, ran⟩ := opened
  obtain ⟨_, policy, revision, _, rfl, _⟩ := newRun_eq_ok ran
  exact ⟨impact, ExactAt.of_outside (by simp [stage, RunRequest.journal])
    (by simp [stage, RunRequest.journal])⟩

/-! ## MERGE -/

/-- The condition on a MERGE step: a passed one is taken while the preview and
the acceptance of the run stand, and brings no other revision. -/
def MergesAccepted (file : Journal) (call : StepCall) : Prop :=
  let given := Json.get call.stepResult "subject_sha"
  file.phase = .merge → readOutcome (Json.get call.stepResult "outcome") = .ok .pass →
    file.previewDigest ≠ .null ∧ file.ownerAcceptanceSha ≠ .null ∧
      (given.truthy = true → given = file.subjectSha)

/-- The events `after` holds beyond those of `before`. -/
def newEvents (before after : Journal) : List Event :=
  after.events.drop before.events.length

/-- A call that records an accepted MERGE merges the revision the owner
accepted, which is the revision last previewed. -/
def MergesExact (rt : Runtime) (file : Journal) (call : StepCall) : Prop :=
  ∀ event ∈ newEvents file (advanceFile rt file call), isAcceptedPass .merge event = true →
    file.ownerAcceptanceSha = event.subjectSha ∧
      (advanceFile rt file call).ownerAcceptanceSha = event.subjectSha ∧
      lastPassSha .ownerAcceptance file.events = some event.subjectSha ∧
      lastPassSha .preview file.events = some event.subjectSha

instance (file : Journal) (call : StepCall) : Decidable (MergesAccepted file call) := by
  unfold MergesAccepted
  infer_instance

instance (rt : Runtime) (file : Journal) (call : StepCall) :
    Decidable (MergesExact rt file call) := by
  unfold MergesExact
  infer_instance

theorem newEvents_append (before after : Journal) (events : List Event)
    (appended : after.events = before.events ++ events) : newEvents before after = events := by
  rw [newEvents, appended, List.drop_left]

theorem mergeSubject_eq {file : Journal} {stepResult : Fields} {result : StepResult}
    (normalized : Normalized file stepResult result) (merging : file.phase = .merge)
    (same : (Json.get stepResult "subject_sha").truthy = true →
      Json.get stepResult "subject_sha" = file.subjectSha) :
    result.subjectSha = file.subjectSha := by
  rw [normalized.subject, resultSha, merging, Phase.needsSha, if_pos rfl, effectiveSha]
  split_ifs with given
  · exact same given
  · rfl

theorem mergesExact_of_accepted {rt : Runtime} {file : Journal} {call : StepCall}
    (bindings : ExactBindings file) (accepted : MergesAccepted file call) :
    MergesExact rt file call := by
  intro event appended pass
  rcases advanceFile_cases rt file call with same | ⟨next, stored, running, saved⟩
  · simp [same, newEvents] at appended
  rw [stored] at appended ⊢
  simp only [isAcceptedPass, Bool.and_eq_true, decide_eq_true_eq] at pass
  obtain ⟨⟨merging, passed⟩, allowed⟩ := pass
  cases saved with
  | overdue blocker late => simp [Journal.saved, newEvents] at appended
  | refused result decision inTime decided refused =>
      rw [newEvents_append file _ [newEvent rt file result decision call] rfl,
        List.mem_singleton] at appended
      subst appended
      exact absurd allowed refused
  | applied result decision issueId workBranch number attestation inTime decided permitted =>
      have normalized := normalized_of_decideStep decided
      have binds := binds_boundJournal rt file (newEvent rt file result decision call)
        result issueId workBranch number attestation
      revert binds appended
      generalize boundJournal rt _ result = bound
      intro appended binds
      have events : ((applyOutcome bound result).saved call.savedAt).events =
          file.events ++ [newEvent rt file result decision call] :=
        (applyOutcome_frame bound result).events.trans binds.events
      rw [newEvents_append file _ _ events, List.mem_singleton] at appended
      subst appended
      change file.phase = .merge at merging
      change result.outcome = .pass at passed
      have stage_eq : stage file = .merge := by simp [stage, merging]
      obtain ⟨previewStands, acceptanceStands, sameRevision⟩ :=
        accepted merging (normalized.outcome.trans (congrArg _ passed))
      obtain ⟨_, previewed⟩ := bindings.exactAt.previewed (Or.inr stage_eq) previewStands
      obtain ⟨_, acceptance, lastAccepted⟩ := bindings.exactAt.accepted stage_eq acceptanceStands
      have subject := mergeSubject_eq normalized merging sameRevision
      have event_eq : (newEvent rt file result decision call).subjectSha = file.subjectSha :=
        subject
      have kept : withdraws file result = false := by simp [withdraws, subject]
      have after : (applyOutcome bound result).ownerAcceptanceSha = file.ownerAcceptanceSha := by
        simp [applyOutcome, passed, binds.ownerAcceptanceSha, merging, kept]
      rw [event_eq]
      exact ⟨acceptance, after.trans acceptance, lastAccepted, previewed⟩

/-- The exact-SHA chain: in a run with product impact whose MERGE steps meet the
condition, every accepted MERGE merges the accepted and previewed revision,
whatever the other steps bring. -/
theorem merges_exact (rt : Runtime) (request : RunRequest) (start : Journal)
    (calls : List StepCall) (opened : Opened rt request start)
    (impact : request.productImpact = true)
    (accepted : Along (advanceFile rt) MergesAccepted start calls) :
    Along (advanceFile rt) (MergesExact rt) start calls := by
  have bindings : Always (advanceFile rt) ExactBindings start calls :=
    always_of_invariant (fun _ => exactBindings_advanceFile) (exactBindings_opened opened impact) _
  exact accepted.mono (fun _ _ => mergesExact_of_accepted) bindings

/-- The run of passed steps that bring no other revision meets the condition up
to its MERGE. -/
theorem merges_exact_stepsToCleanup :
    Along (advanceFile plainRuntime) (MergesExact plainRuntime) plainStart stepsToCleanup :=
  merges_exact plainRuntime plainRequest plainStart stepsToCleanup plainStart_opened rfl
    (by decide +kernel)

/-- A MERGE step may bring a revision that was neither previewed nor accepted,
and it is accepted. -/
theorem not_merges_exact :
    ¬ ∀ (rt : Runtime) (request : RunRequest) (start : Journal) (calls : List StepCall),
      Opened rt request start → request.productImpact = true →
      Along (advanceFile rt) (MergesExact rt) start calls := by
  intro exact
  have last := (exact plainRuntime plainRequest plainStart
    (stepsToAcceptance ++ [acceptCall .null] ++ [mergeCall (.str otherRevision)])
    plainStart_opened rfl).last
  revert last
  decide +kernel

end Adwf.Orchestrator
