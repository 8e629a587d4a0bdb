import Adwf.Orchestrator.Closure

/-!
# Back to the phase that failed

RECOVERY remembers the phase that failed and a pass returns to it.  Only a
RETRY that exhausts its attempts in RECOVERY itself overwrites the memory.
-/

namespace Adwf.Orchestrator

open Adwf.Policy Adwf.Run

/-! ## The phase that failed -/

/-- The outcome of a step that is allowed and in time. -/
def allowedOutcome (rt : Runtime) (file : Journal) (call : StepCall) : Option Outcome :=
  match overdue file call.now, decideStep rt file call with
  | none, .ok (result, decision) =>
      if decision.result = .allow then some result.outcome else none
  | _, _ => none

/-- A failure, or a RETRY past the last attempt. -/
def failsOver (state : Journal) : Outcome → Bool
  | .fail => true
  | .retry => attempt state > state.maxAttempts
  | _ => false

/-- The call saves a failure or an exhausted RETRY of a phase other than RECOVERY. -/
def entersRecovery (rt : Runtime) (file : Journal) (call : StepCall) : Bool :=
  match advanceRun rt file call with
  | .ok (.save _) =>
      file.phase ≠ .recovery && (allowedOutcome rt file call).any (failsOver file)
  | _ => false

/-- A journal with the phase that most recently led into RECOVERY. -/
structure Tracked where
  file : Journal
  failed : Option Phase

def Tracked.advance (rt : Runtime) (tracked : Tracked) (call : StepCall) : Tracked where
  file := advanceFile rt tracked.file call
  failed :=
    if entersRecovery rt tracked.file call then some tracked.file.phase else tracked.failed

/-- In RECOVERY the journal names the phase that failed, and a pass returns to it. -/
def ReturnsToFailed (rt : Runtime) (tracked : Tracked) : Prop :=
  tracked.file.phase = .recovery → ∃ phase, phase ≠ .recovery ∧ tracked.failed = some phase ∧
    tracked.file.lastFailedPhase = some phase ∧
    ∀ call next, advanceRun rt tracked.file call = .ok (.save next) →
      allowedOutcome rt tracked.file call = some .pass →
      next.phase = phase ∧ next.status = .running

/-- The step is a RETRY in RECOVERY past its last attempt. -/
def ExhaustsRecovery (rt : Runtime) (file : Journal) (call : StepCall) : Prop :=
  file.phase = .recovery ∧ allowedOutcome rt file call = some .retry ∧
    attempt file > file.maxAttempts

instance (rt : Runtime) (file : Journal) (call : StepCall) :
    Decidable (ExhaustsRecovery rt file call) :=
  inferInstanceAs (Decidable (_ ∧ _ ∧ _))

/-! ## What one step does to it -/

/-- In RECOVERY the journal names the phase that failed. -/
def RemembersFailed (tracked : Tracked) : Prop :=
  tracked.file.phase = .recovery → ∃ phase, phase ≠ .recovery ∧ tracked.failed = some phase ∧
    tracked.file.lastFailedPhase = some phase

theorem allowedOutcome_eq {rt : Runtime} {file : Journal} {call : StepCall}
    {result : StepResult} {decision : Decision} (inTime : overdue file call.now = none)
    (decided : decideStep rt file call = .ok (result, decision)) : allowedOutcome rt file call =
      if decision.result = .allow then some result.outcome else none := by
  rw [allowedOutcome, inTime, decided]

theorem entersRecovery_eq {rt : Runtime} {file next : Journal} {call : StepCall}
    (ran : advanceRun rt file call = .ok (.save next)) : entersRecovery rt file call =
      (file.phase ≠ .recovery && (allowedOutcome rt file call).any (failsOver file)) := by
  rw [entersRecovery, ran]

theorem saved_of_advanceRun {rt : Runtime} {file next : Journal} {call : StepCall}
    (ran : advanceRun rt file call = .ok (.save next)) : Saved rt file call next := by
  unfold advanceRun at ran
  split_ifs at ran
  exact (saved_of_advanceState ran).2

theorem phaseAfter_eq_recovery_iff {state : Journal} {stepResult : Fields} {result : StepResult}
    (normalized : Normalized state stepResult result) (outside : state.phase ≠ .recovery) :
    phaseAfter state result.outcome = .recovery ↔ failsOver state result.outcome = true := by
  have known := normalized.known
  cases outcome : result.outcome with
  | pass =>
      simp only [phaseAfter, passedPhase, failsOver]
      cases phase : state.phase with
      | unknown name => simp [phase, Phase.isKnown] at known
      | recovery => exact absurd phase outside
      | review => cases state.productImpact <;> simp
      | _ => simp [Phase.following]
  | retry => by_cases exhausted : attempt state > state.maxAttempts <;>
      simp [phaseAfter, failsOver, exhausted, outside]
  | nextReady => by_cases last : state.cycle + 1 ≥ state.maxCycles <;>
      simp [phaseAfter, failsOver, last, outside]
  | humanRequired | block => simp [phaseAfter, failsOver, outside]
  | _ => simp [phaseAfter, failsOver]

theorem applyOutcome_lastFailedPhase (state : Journal) (result : StepResult) :
    (applyOutcome state result).lastFailedPhase = match result.outcome with
      | .pass => if state.phase = .recovery then none else state.lastFailedPhase
      | .fail => if state.phase = .recovery then state.lastFailedPhase else some state.phase
      | .retry =>
          if attempt state > state.maxAttempts then some state.phase else state.lastFailedPhase
      | _ => state.lastFailedPhase := by
  unfold applyOutcome
  cases result.outcome with
  | fail => by_cases recovering : state.phase = .recovery <;> simp [recovering]
  | retry => dsimp only; split_ifs <;> rfl
  | nextReady => dsimp only; split_ifs <;> rfl
  | _ => rfl

theorem applyOutcome_status_pass {state : Journal} {result : StepResult}
    (passed : result.outcome = .pass) : (applyOutcome state result).status = .running := by
  rw [applyOutcome, passed]

section Step

variable {rt : Runtime} {tracked : Tracked} {call : StepCall}

theorem advance_eq_self (unsaved : ∀ next, advanceRun rt tracked.file call ≠ .ok (.save next)) :
    tracked.advance rt call = tracked := by
  have file : advanceFile rt tracked.file call = tracked.file := by
    unfold advanceFile
    split
    · rename_i next ran
      exact absurd ran (unsaved next)
    · rfl
  have failed : entersRecovery rt tracked.file call = false := by
    unfold entersRecovery
    split
    · rename_i next ran
      exact absurd ran (unsaved next)
    · rfl
  simp [Tracked.advance, file, failed]

theorem advance_file {next : Journal} (ran : advanceRun rt tracked.file call = .ok (.save next)) :
    (tracked.advance rt call).file = next.saved call.savedAt := by
  rw [Tracked.advance, advanceFile, ran]

theorem applied_fields {base : Journal} {result : StepResult} {decision : Decision}
    {issueId : String} {workBranch : Option String} {pullRequestNumber : Option Int}
    {previewAttestationId : Option String} (bound : Journal) (isBound : bound = boundJournal rt
      { appendEvent base (newEvent rt base result decision call) with
        issueId, workBranch, pullRequestNumber, previewAttestationId } result) :
    (applyOutcome bound result).phase = phaseAfter base result.outcome ∧
      bound.phase = base.phase ∧ bound.lastFailedPhase = base.lastFailedPhase ∧
      (attempt bound > bound.maxAttempts ↔ attempt base > base.maxAttempts) := by
  subst isBound
  refine ⟨?_, rfl, rfl, Iff.rfl⟩
  rw [applyOutcome_phase]
  exact phaseAfter_boundJournal rt base _ _ issueId workBranch pullRequestNumber
    previewAttestationId result result.outcome

theorem remembersFailed_advance (remembers : RemembersFailed tracked)
    (keeps : ¬ExhaustsRecovery rt tracked.file call) :
    RemembersFailed (tracked.advance rt call) := by
  by_cases saves : ∃ next, advanceRun rt tracked.file call = .ok (.save next)
  · obtain ⟨next, ran⟩ := saves
    have file := advance_file ran
    have entered := entersRecovery_eq ran
    have unentered (phase : next.phase = tracked.file.phase)
        (last : next.lastFailedPhase = tracked.file.lastFailedPhase)
        (stays : entersRecovery rt tracked.file call = false) :
        RemembersFailed (tracked.advance rt call) := by
      intro recovering
      rw [file] at recovering ⊢
      obtain ⟨failedPhase, other, known, stored⟩ := remembers (phase ▸ recovering)
      exact ⟨failedPhase, other, by simp [Tracked.advance, stays, known], last.trans stored⟩
    cases saved_of_advanceRun ran with
    | overdue blocker late =>
        apply unentered rfl rfl
        rw [entered, allowedOutcome, late]
        simp
    | refused result decision inTime decided refused =>
        apply unentered rfl rfl
        rw [entered, allowedOutcome_eq inTime decided, if_neg refused]
        simp
    | applied result decision issueId workBranch number attestation inTime decided allowed =>
        have outcome := allowedOutcome_eq inTime decided
        rw [if_pos allowed] at outcome
        rw [outcome, Option.any_some] at entered
        obtain ⟨phase, samePhase, sameLast, sameAttempt⟩ :=
          @applied_fields rt call tracked.file result decision issueId workBranch number
            attestation _ rfl
        have normalized := normalized_of_decideStep decided
        have last := applyOutcome_lastFailedPhase (boundJournal rt
          { appendEvent tracked.file (newEvent rt tracked.file result decision call) with
            issueId, workBranch
            pullRequestNumber := number, previewAttestationId := attestation } result) result
        rw [samePhase, sameLast, if_congr sameAttempt rfl rfl] at last
        intro recovering
        rw [file] at recovering ⊢
        have recovers : phaseAfter tracked.file result.outcome = .recovery :=
          phase.symm.trans recovering
        by_cases inside : tracked.file.phase = .recovery
        · -- RECOVERY goes on: the step is no pass, and no exhausted RETRY.
          obtain ⟨failedPhase, other, known, stored⟩ := remembers inside
          refine ⟨failedPhase, other, ?_, ?_⟩
          · simp [Tracked.advance, entered, inside, known]
          · have exhausted : result.outcome = .retry →
                ¬attempt tracked.file > tracked.file.maxAttempts :=
              fun retried failing => keeps ⟨inside, retried ▸ outcome, failing⟩
            refine last.trans ?_
            cases given : result.outcome with
            | pass =>
                rw [given, phaseAfter, passedPhase, inside] at recovers
                rw [stored] at recovers
                exact absurd recovers other
            | retry => simpa [exhausted given] using stored
            | fail => simpa [inside] using stored
            | _ => exact stored
        · have failing := (phaseAfter_eq_recovery_iff normalized inside).mp recovers
          refine ⟨tracked.file.phase, inside, ?_, ?_⟩
          · simp [Tracked.advance, entered, inside, failing]
          · refine last.trans ?_
            cases given : result.outcome with
            | fail => simp [inside]
            | retry =>
                rw [given, failsOver, decide_eq_true_eq] at failing
                simp [failing]
            | _ => simp [given, failsOver] at failing
  · rw [advance_eq_self fun next ran => saves ⟨next, ran⟩]
    exact remembers

theorem returns_of_pass {next : Journal} {failedPhase : Phase}
    (inside : tracked.file.phase = .recovery)
    (stored : tracked.file.lastFailedPhase = some failedPhase)
    (ran : advanceRun rt tracked.file call = .ok (.save next))
    (passes : allowedOutcome rt tracked.file call = some .pass) :
    next.phase = failedPhase ∧ next.status = .running := by
  cases saved_of_advanceRun ran with
  | overdue blocker late =>
      rw [allowedOutcome, late] at passes
      simp at passes
  | refused result decision inTime decided refused =>
      rw [allowedOutcome_eq inTime decided, if_neg refused] at passes
      cases passes
  | applied result decision issueId workBranch number attestation inTime decided allowed =>
      rw [allowedOutcome_eq inTime decided, if_pos allowed] at passes
      have passed : result.outcome = .pass := Option.some.inj passes
      obtain ⟨phase, _, _, _⟩ :=
        @applied_fields rt call tracked.file result decision issueId workBranch number
          attestation _ rfl
      refine ⟨phase.trans ?_, applyOutcome_status_pass passed⟩
      rw [passed, phaseAfter, passedPhase, inside]
      simp [stored]

end Step

/-- In every run without an exhausted RETRY in RECOVERY, every RECOVERY remembers the phase that
failed and returns to it. -/
theorem recovery_returns {rt : Runtime} {request : RunRequest} {start : Journal}
    {calls : List StepCall} (opened : Opened rt request start) (keeps : Along (Tracked.advance rt)
      (fun tracked call => ¬ExhaustsRecovery rt tracked.file call) ⟨start, none⟩ calls) :
    Always (Tracked.advance rt) (ReturnsToFailed rt) ⟨start, none⟩ calls := by
  have initial : RemembersFailed ⟨start, none⟩ := by
    obtain ⟨directory, after, ran⟩ := opened
    obtain ⟨_, policy, revision, _, rfl, _⟩ := newRun_eq_ok ran
    intro recovering
    cases recovering
  have remembered := always_of_guarded
    (fun _ _ remembers kept => remembersFailed_advance remembers kept) initial keeps
  refine remembered.imp fun tracked remembers inside => ?_
  obtain ⟨phase, other, known, stored⟩ := remembers inside
  exact ⟨phase, other, known, stored, fun _ _ ran passes =>
    returns_of_pass inside stored ran passes⟩

/-- A RETRY that is classified as transient. -/
def retryCall (key : String) (phase : Phase) : StepCall :=
  let call := plainCall key phase .retry .null .null []
  { call with stepResult := ("transient", .bool true) :: call.stepResult }

/-- A failed AUTHORIZE and two retries of its recovery. -/
def stepsInRecovery : List StepCall :=
  [passCall .reconcile, plainCall "AUTHORIZE" .authorize .fail .null .null [],
    retryCall "FIRST" .recovery, retryCall "SECOND" .recovery]

/-- A recovery that was not exhausted passes back to AUTHORIZE. -/
theorem recovery_returns_to_authorize : ReturnsToFailed plainRuntime
      (final (Tracked.advance plainRuntime) ⟨plainStart, none⟩ stepsInRecovery) := by
  have keeps : Along (Tracked.advance plainRuntime)
      (fun tracked call => ¬ExhaustsRecovery plainRuntime tracked.file call)
      ⟨plainStart, none⟩ stepsInRecovery := by
    decide +kernel
  exact (recovery_returns plainStart_opened keeps).final

/-- After two more retries RECOVERY remembers itself. -/
theorem recovery_forgets :
    ¬∀ (rt : Runtime) (request : RunRequest) (start : Journal) (calls : List StepCall),
      Opened rt request start →
      Always (Tracked.advance rt) (ReturnsToFailed rt) ⟨start, none⟩ calls := by
  intro always
  have returns := (always plainRuntime plainRequest plainStart
    (stepsInRecovery ++ [retryCall "THIRD" .recovery, retryCall "FOURTH" .recovery])
    plainStart_opened).final
  obtain ⟨phase, other, _, stored, _⟩ := returns (by decide +kernel)
  have forgotten : (final (Tracked.advance plainRuntime) ⟨plainStart, none⟩
      (stepsInRecovery ++ [retryCall "THIRD" .recovery, retryCall "FOURTH" .recovery])
      ).file.lastFailedPhase = some .recovery := by
    decide +kernel
  rw [forgotten] at stored
  exact other (Option.some.inj stored).symm

end Adwf.Orchestrator
