import Adwf.RemoteSaga.Edited

/-!
# No execution writes to an issue it does not know

A transition classifies the issue after every write, so each of its writes meets
an issue of its saga, whatever people do.  A compensation classifies it only once.
-/

namespace Adwf.RemoteSaga

open Adwf.Program

universe u

variable (remote : Remote Unit)

/-- No other body has the digest of one of the two bodies of the plan. -/
structure Plan.Identified (sha256 : String → String) (plan : Plan) : Prop where
  original : ∀ body, sha256 body = plan.originalBodySha256 → body = plan.originalBody
  desired : ∀ body, sha256 body = plan.desiredBodySha256 → body = plan.desiredBody

section Classify

variable {sha256 : String → String} {plan : Plan} {issue : Issue}

theorem safeIssue_of_classifyRemote (identified : plan.Identified sha256)
    (known : classifyRemote sha256 plan issue ≠ .conflict) : SafeIssue plan issue := by
  simp only [classifyRemote] at known
  split_ifs at known with labels unknownBody committed resumable
  · exact absurd rfl known
  · refine ⟨.inr (identified.desired _ committed.2), labels, ?_⟩
    rw [committed.1]
    exact Finset.singleton_nonempty _
  · refine ⟨?_, labels, resumable⟩
    by_cases original : sha256 issue.body = plan.originalBodySha256
    · exact .inl (identified.original _ original)
    · have desired : sha256 issue.body = plan.desiredBodySha256 :=
        not_not.mp (not_and.mp unknownBody original)
      exact .inr (identified.desired _ desired)
  · exact absurd rfl known
  · exact absurd rfl known

theorem isCommitted_of_classifyRemote (identified : plan.Identified sha256)
    (known : classifyRemote sha256 plan issue = .committed) : IsCommitted plan issue := by
  simp only [classifyRemote] at known
  split_ifs at known with foreign unknownBody committed resumable
  exact ⟨identified.desired _ committed.2, committed.1⟩

end Classify

section Executions

variable {Client : Type u} [DecidableEq Client] {sha256 : String → String} {plan : Plan}
variable {settled : ReadStage → Issue → Prop} {client : Client}

/-! ## Transitions -/

section Transition

variable (identified : plan.Identified sha256)

/-- A part of a transition of the plan keeps the law. -/
abbrev TransitionKeeps (plan : Plan) (settled : ReadStage → Issue → Prop) (client : Client)
    {α : Type} (before : Remote Client → Prop) (program : SagaProgram α)
    (returns : Remote Client → α → Prop) : Prop :=
  Keeps plan (transitionWrites plan) settled client before program returns

/-- What remains of an open saga of the plan. -/
def IsOpen (plan : Plan) (saga : Saga) : Prop :=
  saga.plan = plan ∧ saga.status ≠ .committed

/-- A saga in progress and a read of an issue the plan knows. -/
structure InProgress (sha256 : String → String) (plan : Plan) (client : Client)
    (known : Saga × Response) (remote : Remote Client) : Prop where
  read : LastRead client known.2 remote
  isOpen : IsOpen plan known.1
  noConflict : classifyRemote sha256 plan known.2.issue ≠ .conflict

theorem stable_inProgress (known : Saga × Response) :
    Stable (editedWorld Client plan (transitionWrites plan) settled) client
      (InProgress sha256 plan client known) := by
  rintro remote later moved _ holds
  exact { holds with read := holds.read.move moved }

omit [DecidableEq Client] in
theorem lastRead_saved {response : Response} (saga : Saga) {remote : Remote Client}
    (known : LastRead client response remote) :
    LastRead client response (remote.saved client saga) :=
  ⟨known.read, known.older, known.current⟩

variable {saga : Saga} {allowed : SagaCall → Prop}

theorem IsOpen.ofPlan (isOpen : IsOpen plan saga) : OfPlan plan (some saga) := by
  rintro current ⟨⟩
  exact isOpen.1

theorem keeps_saveOpen {current : Option Saga}
    (isOpen : IsOpen plan saga) (ofPlan : OfPlan plan current) :
    Keeps plan allowed settled client (fun _ => True) (saveSaga saga current) fun _ value =>
      True ∧ value = saga := by
  apply keeps_save stable_true ofPlan
  · exact fun _ _ => trivial
  · exact isOpen.1
  · exact fun _ _ committed => absurd committed isOpen.2

theorem rereadSettled_keeps (isOpen : IsOpen plan saga) (stage : ReadStage) (conflict : String) :
    TransitionKeeps plan settled client (fun _ => True)
      (rereadSettled sha256 saga stage conflict) fun remote response =>
        InProgress sha256 plan client (saga, response) remote := by
  unfold rereadSettled
  apply keeps_read stable_true isOpen.ofPlan
  intro response _
  rw [isOpen.1]
  split_ifs with isConflict
  · exact keeps_fail (stable_lastRead response) isOpen.ofPlan
  · apply keeps_return (stable_lastRead response)
    exact fun remote read => ⟨read, isOpen, isConflict⟩

theorem keeps_inProgress {α : Type} {response : Response}
    {program : SagaProgram α} {returns : Remote Client → α → Prop}
    (keeps : IsOpen plan saga → classifyRemote sha256 plan response.issue ≠ .conflict →
      TransitionKeeps plan settled client (LastRead client response) program returns) :
    TransitionKeeps plan settled client (InProgress sha256 plan client (saga, response)) program
      returns :=
  ⟨fun remote law holds =>
    (keeps holds.isOpen holds.noConflict).safe remote law holds.read⟩

include identified

theorem addTargetLabel_keeps (saga : Saga) (first : Response) :
    TransitionKeeps plan settled client (InProgress sha256 plan client (saga, first))
      (addTargetLabel sha256 saga first) fun remote known =>
        InProgress sha256 plan client known remote := by
  apply keeps_inProgress
  intro isOpen noConflict
  have passed : IsOpen plan saga.addPassed := isOpen
  unfold addTargetLabel
  split_ifs with present
  · apply keeps_return (stable_lastRead first)
    exact fun remote read => ⟨read, passed, noConflict⟩
  · apply keeps_write_bind rfl
    · exact congrArg Plan.targetLabel isOpen.1
    · exact safeIssue_of_classifyRemote identified noConflict
    · exact isOpen.ofPlan
    · intro _
      apply keeps_save_bind (keeps_saveOpen passed passed.ofPlan)
      apply keeps_bind (rereadSettled_keeps passed _ _)
      intro current
      exact keeps_return (stable_inProgress _) fun _ holds => holds

theorem patchMarkerBody_keeps (saga : Saga) (current : Response) :
    TransitionKeeps plan settled client (InProgress sha256 plan client (saga, current))
      (patchMarkerBody sha256 saga current) fun remote known =>
        InProgress sha256 plan client known remote := by
  apply keeps_inProgress
  intro isOpen noConflict
  have passed : IsOpen plan saga.patchPassed := isOpen
  unfold patchMarkerBody
  split_ifs with patched foreign
  · apply keeps_return (stable_lastRead current)
    exact fun remote read => ⟨read, passed, noConflict⟩
  · exact keeps_fail (stable_lastRead current) isOpen.ofPlan
  · apply keeps_write_bind rfl
    · exact congrArg Plan.desiredBody isOpen.1
    · exact safeIssue_of_classifyRemote identified noConflict
    · exact isOpen.ofPlan
    · intro _
      apply keeps_save_bind (keeps_saveOpen passed passed.ofPlan)
      apply keeps_bind (rereadSettled_keeps passed _ _)
      intro reread
      exact keeps_return (stable_inProgress _) fun _ holds => holds

theorem removeOldLabel_keeps (saga : Saga) (current : Response) :
    TransitionKeeps plan settled client (InProgress sha256 plan client (saga, current))
      (removeOldLabel saga current) fun _ removed => True ∧ IsOpen plan removed := by
  apply keeps_inProgress
  intro isOpen noConflict
  have passed : IsOpen plan saga.removePassed := isOpen
  unfold removeOldLabel
  split_ifs with present
  · apply keeps_bind
    · apply keeps_write rfl
      · exact congrArg Plan.fromLabel isOpen.1
      · exact safeIssue_of_classifyRemote identified noConflict
      · exact isOpen.ofPlan
    · intro _
      apply (keeps_saveOpen passed passed.ofPlan).strengthen
      · rintro _ value _ ⟨_, rfl⟩
        exact ⟨trivial, passed⟩
      · exact fun _ _ _ raised => raised
  · exact keeps_return (stable_lastRead current) fun _ _ => ⟨trivial, passed⟩

theorem verifyPostcondition_keeps (isOpen : IsOpen plan saga) :
    TransitionKeeps plan settled client (fun _ => True) (verifyPostcondition sha256 saga)
      fun _ _ => True := by
  unfold verifyPostcondition
  apply keeps_read stable_true isOpen.ofPlan
  intro verified _
  split_ifs with isCommitted
  · rw [isOpen.1] at isCommitted
    apply (keeps_save (stable_lastRead verified) _ _ _ _).strengthen
    · exact fun _ _ _ _ => trivial
    · exact fun _ _ _ raised => raised
    · rintro current ⟨⟩
      exact isOpen.1
    · exact fun _ known => lastRead_saved _ known
    · exact isOpen.1
    · intro remote known _
      exact ⟨verified, known.read, isCommitted_of_classifyRemote identified isCommitted⟩
  · exact keeps_fail (stable_lastRead verified) isOpen.ofPlan

omit identified in
theorem keeps_recordError {text : String} (samePlan : saga.plan = plan) :
    Keeps plan allowed settled client (fun _ => True) (recordError saga text) fun _ recorded =>
      recorded.status = .recoveryRequired := by
  have recorded : IsOpen plan
      { saga with status := .recoveryRequired, lastError := some text } := ⟨samePlan, by simp⟩
  apply (keeps_saveOpen recorded ofPlan_none).strengthen
  · rintro _ value _ ⟨_, rfl⟩
    rfl
  · exact fun _ _ _ raised => raised

omit identified in
/-- A `try` block that keeps the law, with the record its handler makes. -/
theorem recording_keeps {before : Remote Client → Prop} {body : SagaProgram Saga}
    {returns : Remote Client → Saga → Prop} (samePlan : saga.plan = plan)
    (bodyKeeps : Keeps plan allowed settled client before body returns) :
    Keeps plan allowed settled client before (recording saga body) returns := by
  apply Triple.handle bodyKeeps
  intro failure
  constructor
  intro remote law ofPlan
  have recorded : (failure.saga.getD saga).plan = plan := by
    cases carried : failure.saga with
    | none => exact samePlan
    | some current => exact ofPlan current carried
  apply (keeps_bind (keeps_recordError recorded) _).safe remote law trivial
  intro value
  apply Triple.fail
  · exact fun _ _ _ _ known => known
  · exact fun _ _ _ => ofPlan_none

theorem applyTransition_keeps (saga : Saga) (first : Response) :
    TransitionKeeps plan settled client (InProgress sha256 plan client (saga, first))
      (applyTransition sha256 saga first) fun _ _ => True := by
  unfold applyTransition
  apply keeps_bind (addTargetLabel_keeps identified saga first)
  rintro ⟨added, labelled⟩
  apply keeps_bind (patchMarkerBody_keeps identified added labelled)
  rintro ⟨patched, current⟩
  apply keeps_bind (removeOldLabel_keeps identified patched current)
  intro removed
  apply Triple.assume
  intro isOpen
  exact verifyPostcondition_keeps identified isOpen

omit identified in
theorem enterTransition_keeps {given : Saga} (isOpen : IsOpen plan given) :
    TransitionKeeps plan settled client (fun _ => True) (enterTransition given)
      fun _ saga => True ∧ saga.plan = plan := by
  unfold enterTransition
  apply keeps_load
  intro stored ofPlan
  cases stored with
  | none =>
      apply (keeps_saveOpen isOpen ofPlan_none).strengthen
      · rintro _ value _ ⟨_, rfl⟩
        exact ⟨trivial, isOpen.1⟩
      · exact fun _ _ _ raised => raised
  | some saga =>
      dsimp only
      split_ifs with same
      · exact keeps_return stable_true fun _ _ => ⟨trivial, ofPlan saga rfl⟩
      · exact keeps_fail stable_true ofPlan_none

theorem runTransition_keeps {given : Saga} (isOpen : IsOpen plan given) (apply_ : Bool) :
    TransitionKeeps plan settled client (fun _ => True) (runTransition sha256 given apply_)
      fun _ _ => True := by
  unfold runTransition
  apply keeps_bind (enterTransition_keeps isOpen)
  intro saga
  apply Triple.assume
  intro samePlan
  by_cases committed : saga.status = .committed
  · rw [if_pos committed]
    exact keeps_return stable_true fun _ _ => trivial
  · rw [if_neg committed]
    apply keeps_read stable_true ofPlan_none
    intro first _
    cases classified : classifyRemote sha256 saga.plan first.issue with
    | conflict =>
        apply ((keeps_recordError samePlan).weaken fun _ _ _ => trivial).strengthen
        · exact fun _ _ _ _ => trivial
        · exact fun _ _ _ raised => raised
    | committed =>
        rw [samePlan] at classified
        apply (keeps_save (stable_lastRead first) ofPlan_none _ _ _).strengthen
        · exact fun _ _ _ _ => trivial
        · exact fun _ _ _ raised => raised
        · exact fun _ known => lastRead_saved _ known
        · exact samePlan
        · intro remote known _
          exact ⟨first, known.read, isCommitted_of_classifyRemote identified classified⟩
    | resumable =>
        have noConflict : classifyRemote sha256 plan first.issue ≠ .conflict := by
          simp [← samePlan, classified]
        have read_kept : ∀ (remote : Remote Client) (later : Saga),
            LastRead client first remote → LastRead client first (remote.saved client later) :=
          fun _ later => lastRead_saved later
        dsimp only
        split_ifs with applies
        · apply keeps_save_bind
          · apply keeps_save (stable_lastRead first) ofPlan_none
            · exact fun remote => read_kept remote _
            · exact samePlan
            · rintro _ _ ⟨⟩
          · apply recording_keeps
            · exact samePlan
            · apply (applyTransition_keeps identified _ first).weaken
              exact fun _ _ read => ⟨read, ⟨samePlan, by simp⟩, noConflict⟩
        · apply (keeps_save (stable_lastRead first) ofPlan_none _ _ _).strengthen
          · exact fun _ _ _ _ => trivial
          · exact fun _ _ _ raised => raised
          · exact fun remote => read_kept remote _
          · exact samePlan
          · rintro _ _ ⟨⟩

end Transition

/-! ## Compensations -/

section Compensation

/-- The read after a write is no conflict, or the compensation has no further write
to send on it. -/
def SettledReread (sha256 : String → String) (plan : Plan) : ReadStage → Issue → Prop
  | .afterPatch, issue => classifyRemote sha256 plan issue ≠ .conflict ∨
      plan.fromLabel ∈ machineLabels issue ∧ plan.targetLabel ∉ machineLabels issue
  | .afterAdd, issue => classifyRemote sha256 plan issue ≠ .conflict ∨
      plan.targetLabel ∉ machineLabels issue
  | _, _ => True

/-- A part of a compensation of the plan keeps the law. -/
abbrev CompensationKeeps (sha256 : String → String) (plan : Plan) (client : Client) {α : Type}
    (before : Remote Client → Prop) (program : SagaProgram α)
    (returns : Remote Client → α → Prop) : Prop :=
  Keeps plan (compensationWrites plan) (SettledReread sha256 plan) client before program returns

variable (identified : plan.Identified sha256)

include identified

variable {saga : Saga}

theorem restoreBody_keeps {first : Response} (samePlan : saga.plan = plan)
    (known : classifyRemote sha256 plan first.issue ≠ .conflict) :
    CompensationKeeps sha256 plan client (LastRead client first)
      (restoreBody sha256 saga first) fun remote response =>
        LastRead client response remote ∧ SettledReread sha256 plan .afterPatch response.issue := by
  have ofPlan : OfPlan plan (some saga) := by
    rintro current ⟨⟩
    exact samePlan
  unfold restoreBody
  split_ifs with desired
  · apply keeps_write_bind rfl
    · exact congrArg Plan.originalBody samePlan
    · exact safeIssue_of_classifyRemote identified known
    · exact ofPlan
    · intro _
      exact keeps_getIssue stable_true ofPlan
  · apply keeps_return (stable_lastRead first)
    exact fun remote read => ⟨read, .inl known⟩

theorem restoreLabel_keeps {current : Response} (samePlan : saga.plan = plan)
    (known : SettledReread sha256 plan .afterPatch current.issue) :
    CompensationKeeps sha256 plan client (LastRead client current)
      (restoreLabel saga current) fun remote response =>
        LastRead client response remote ∧ SettledReread sha256 plan .afterAdd response.issue := by
  have ofPlan : OfPlan plan (some saga) := by
    rintro current ⟨⟩
    exact samePlan
  unfold restoreLabel
  rw [samePlan]
  split_ifs with present
  · apply keeps_return (stable_lastRead current)
    exact fun remote read => ⟨read, known.imp_right And.right⟩
  · have noConflict : classifyRemote sha256 plan current.issue ≠ .conflict :=
      known.resolve_right fun settled => present settled.1
    apply keeps_write_bind rfl
    · exact rfl
    · exact safeIssue_of_classifyRemote identified noConflict
    · exact ofPlan
    · intro _
      exact keeps_getIssue stable_true ofPlan

theorem dropTargetLabel_keeps {current : Response} (samePlan : saga.plan = plan)
    (known : SettledReread sha256 plan .afterAdd current.issue) :
    CompensationKeeps sha256 plan client (LastRead client current)
      (dropTargetLabel saga current) fun _ _ => True := by
  have ofPlan : OfPlan plan (some saga) := by
    rintro current ⟨⟩
    exact samePlan
  unfold dropTargetLabel
  rw [samePlan]
  split_ifs with present
  · have noConflict : classifyRemote sha256 plan current.issue ≠ .conflict :=
      known.resolve_right fun absent => absent present
    apply keeps_write rfl
    · exact rfl
    · exact safeIssue_of_classifyRemote identified noConflict
    · exact ofPlan
  · exact keeps_return (stable_lastRead current) fun _ _ => trivial

/-- The last read of an execution shows the issue as it was before the saga. -/
def ReadCompensated (plan : Plan) (client : Client) (remote : Remote Client) : Prop :=
  ∃ response, remote.lastRead client = some response ∧
    response.issue.body = plan.originalBody ∧ machineLabels response.issue = {plan.fromLabel}

/-- COMPENSATED is returned after a read of the original issue. -/
def ReturnsCompensated (plan : Plan) (client : Client) (remote : Remote Client) (saga : Saga) :
    Prop :=
  saga.status = .compensated → ReadCompensated plan client remote

theorem verifyCompensation_keeps (samePlan : saga.plan = plan) :
    CompensationKeeps sha256 plan client (fun _ => True) (verifyCompensation sha256 saga)
      (ReturnsCompensated plan client) := by
  have ofPlan : OfPlan plan (some saga) := by
    rintro current ⟨⟩
    exact samePlan
  unfold verifyCompensation
  apply keeps_read stable_true ofPlan
  intro verified _
  rw [samePlan]
  split_ifs with restored
  · apply (keeps_save (stable_lastRead verified) _ _ _ _).strengthen
    · rintro remote value _ ⟨read, rfl⟩ _
      exact ⟨verified, read.read, identified.original _ restored.2, restored.1⟩
    · exact fun _ _ _ raised => raised
    · rintro current ⟨⟩
      rfl
    · exact fun _ known => lastRead_saved _ known
    · rfl
    · rintro _ _ ⟨⟩
  · exact keeps_fail (stable_lastRead verified) ofPlan

theorem applyCompensation_keeps {first : Response} (samePlan : saga.plan = plan)
    (known : classifyRemote sha256 plan first.issue ≠ .conflict) :
    CompensationKeeps sha256 plan client (LastRead client first)
      (applyCompensation sha256 saga first) (ReturnsCompensated plan client) := by
  unfold applyCompensation
  apply keeps_bind (restoreBody_keeps identified samePlan known)
  intro restored
  apply Triple.assume
  intro settledBody
  apply keeps_bind (restoreLabel_keeps identified samePlan settledBody)
  intro labelled
  apply Triple.assume
  intro settledLabel
  apply keeps_bind (dropTargetLabel_keeps identified samePlan settledLabel)
  intro _
  exact verifyCompensation_keeps identified samePlan

theorem compensateTransition_keeps :
    CompensationKeeps sha256 plan client (fun _ => True) (compensateTransition sha256)
      (ReturnsCompensated plan client) := by
  unfold compensateTransition
  apply keeps_load
  intro stored ofPlan
  cases stored with
  | none => exact keeps_fail stable_true ofPlan_none
  | some saga =>
      have samePlan : saga.plan = plan := ofPlan saga rfl
      apply keeps_read stable_true ofPlan_none
      intro first _
      by_cases conflict : classifyRemote sha256 saga.plan first.issue = .conflict
      · rw [if_pos conflict]
        apply ((keeps_recordError samePlan).weaken fun _ _ _ => trivial).strengthen
        · intro _ recorded _ status compensated
          rw [status] at compensated
          cases compensated
        · exact fun _ _ _ raised => raised
      · rw [if_neg conflict]
        apply recording_keeps samePlan
        exact applyCompensation_keeps identified samePlan (samePlan ▸ conflict)

end Compensation

end Executions

section Runs

variable {Client : Type u} [DecidableEq Client]

/-- Any number of transitions of one plan on an issue people edit: every write that
takes effect is a write of the plan on an issue with one of its bodies and some of
its labels, and COMMITTED is saved only after a read of the committed issue. -/
theorem sagaLaw_runTransition (rt : Runtime) (sha256 : String → String)
    (request : PlanRequest) (given : Saga) (made : makeTransitionPlan rt sha256 request = .ok given)
    (identified : given.plan.Identified sha256) (issue : Issue) (journal : Option Saga)
    (ofPlan : OfPlan given.plan journal) (applies : Client → Bool)
    (system : System Client (Remote Client) SagaCall SagaAnswer Failure Saga) (reached : Reachable
      (editedWorld Client given.plan (transitionWrites given.plan) fun _ _ => True)
      ⟨Remote.start issue journal, fun client => runTransition sha256 given (applies client)⟩
      system) : SagaLaw given.plan (transitionWrites given.plan) system.store := by
  have planned := (makeTransitionPlan_wellFormed made).2
  have isOpen : IsOpen given.plan given := ⟨rfl, by simp [planned]⟩
  have safe : AllSafe (editedWorld Client given.plan (transitionWrites given.plan) fun _ _ => True)
      (fun _ _ _ => True) (fun _ _ failure => OfPlan given.plan failure.saga)
      ⟨Remote.start issue journal, fun client => runTransition sha256 given (applies client)⟩ := by
    have law : SagaLaw given.plan (transitionWrites given.plan)
        (Remote.start issue journal : Remote Client) := sagaLaw_start issue ofPlan
    refine ⟨law, fun client => ?_⟩
    exact (runTransition_keeps identified isOpen (applies client)).safe _ law trivial
  exact (safe_of_reachable tolerated_editedWorld safe reached).1

/-! ### One execution -/

/-- The issue a person puts in place before a call. -/
abbrev Edits := SagaCall → Option Issue

def nobodyEdits : Edits :=
  fun _ => none

def Remote.beforeCall (edits : Edits) (call : SagaCall) : Remote Unit :=
  match edits call with
  | none => remote
  | some issue => { remote with issue := issue, version := remote.version + 1 }

/-- A write has its effect while its ETag is current. -/
def Remote.written (call : SagaCall) : Remote Unit :=
  match call.write with
  | none => remote
  | some (etag, effect) =>
      if etag = remote.version then remote.applied call effect else remote

section Alone

variable (settled : ReadStage → Issue → Prop) [∀ stage issue, Decidable (settled stage issue)]

/-- A read that would not be settled is refused. -/
def Remote.answer : (call : SagaCall) → Remote Unit × SagaAnswer call
  | .load => (remote, .ok remote.journal)
  | .save saga => (remote.saved () saga, .ok saga)
  | .getIssue stage =>
      if settled stage remote.issue then (remote.observed (), .ok remote.response)
      else (remote, .error "HTTPError:503")
  | .addLabel label etag => (remote.written (.addLabel label etag), .ok ())
  | .patchBody body etag => (remote.written (.patchBody body etag), .ok ())
  | .removeLabel label etag => (remote.written (.removeLabel label etag), .ok ())

/-- A provider that works, with the edits of one person. -/
def Remote.serve (edits : Edits) (remote : Remote Unit) (call : SagaCall) :
    Remote Unit × SagaAnswer call :=
  (remote.beforeCall edits call).answer settled call

/-- What one execution leaves. -/
def alone (edits : Edits) (remote : Remote Unit) (program : SagaProgram Saga) :
    System Unit (Remote Unit) SagaCall SagaAnswer Failure Saga :=
  ⟨(program.execute (Remote.serve settled edits) remote).1, Function.update (fun _ => program) ()
    (program.execute (Remote.serve settled edits) remote).2⟩

end Alone

section Served

variable {settled : ReadStage → Issue → Prop} [∀ stage issue, Decidable (settled stage issue)]

theorem written_served (call : SagaCall) :
    remote.written call = remote ∨ ∃ effect, call.write = some (remote.version, effect) ∧
      remote.written call = remote.applied call effect := by
  unfold Remote.written
  cases sent : call.write with
  | none => exact .inl rfl
  | some write =>
      obtain ⟨etag, effect⟩ := write
      dsimp only
      split_ifs with current
      · exact .inr ⟨effect, by rw [current], rfl⟩
      · exact .inl rfl

theorem serves_serve (edits : Edits) (remote : Remote Unit) (call : SagaCall) :
    Serves settled () remote call (remote.serve settled edits call).1
      (remote.serve settled edits call).2 := by
  refine ⟨remote.beforeCall edits call, ?_, ?_⟩
  · unfold Remote.beforeCall
    cases edits call with
    | none => exact .inl rfl
    | some issue => exact .inr ⟨issue, remote.version + 1, Nat.lt_succ_self _, rfl⟩
  · unfold Remote.serve
    generalize remote.beforeCall edits call = edited
    cases call with
    | load => exact ⟨rfl, .inl rfl⟩
    | save saga => exact .inr ⟨rfl, .inl rfl⟩
    | getIssue stage =>
        simp only [Remote.answer]
        split_ifs with isSettled
        · exact .inr ⟨isSettled, rfl, rfl⟩
        · exact .inl ⟨rfl, _, rfl⟩
    | addLabel label etag => exact written_served edited (.addLabel label etag)
    | patchBody body etag => exact written_served edited (.patchBody body etag)
    | removeLabel label etag => exact written_served edited (.removeLabel label etag)

theorem reachable_alone (plan : Plan) (allowed : SagaCall → Prop) (edits : Edits)
    (remote : Remote Unit) (program : SagaProgram Saga) :
    Reachable (editedWorld Unit plan allowed settled) ⟨remote, fun _ => program⟩
      (alone settled edits remote program) :=
  reachable_execute remote (fun _ => program) () (serves_serve edits)

end Served

def plainRuntime : Runtime :=
  ⟨fun _ => "key", fun _ => none, fun _ => none, fun _ => ""⟩

def readyIssue : Issue :=
  ⟨"ready", {"roadmap:ready"}⟩

def startRequest : PlanRequest where
  repo := "owner/name"
  issueNumber := some 12
  issueUpdatedAt := .str "2026-01-01T00:00:00Z"
  issue := readyIssue
  leaseId := "lease-1"
  fromLabel := "roadmap:ready"
  targetLabel := "roadmap:in-progress"
  fromState := "READY"
  toState := "IN_PROGRESS"
  desiredBody := "in progress"
  policyHash := "0000000000000000000000000000000000000000000000000000000000000000"

def startSaga : Saga :=
  match makeTransitionPlan plainRuntime id startRequest with
  | .ok saga => saga
  | .error _ => ⟨⟨"", "", "", 0, "", "", "", "", "", "", "", "", "", ""⟩, .planned, {}, 0, none⟩

/-- One transition that nobody disturbs. -/
def startedAlone : System Unit (Remote Unit) SagaCall SagaAnswer Failure Saga :=
  alone (fun _ _ => True) nobodyEdits (.start readyIssue none) (runTransition id startSaga true)

theorem sagaLaw_runTransition_alone :
    SagaLaw startSaga.plan (transitionWrites startSaga.plan) startedAlone.store ∧
      startedAlone.store.issue = ⟨"in progress", {"roadmap:in-progress"}⟩ :=
  ⟨sagaLaw_runTransition plainRuntime id startRequest startSaga (by decide +kernel)
    ⟨fun _ same => same, fun _ same => same⟩ readyIssue none ofPlan_none (fun _ => true) _
    (reachable_alone _ _ nobodyEdits _ _), by decide +kernel⟩

/-! ### Compensations -/

/-- What a run of compensations owes. -/
structure CompensationLaw (plan : Plan)
    (system : System Client (Remote Client) SagaCall SagaAnswer Failure Saga) : Prop where
  writes : ∀ write ∈ system.store.writes, SafeIssue plan write.issue
  returns : ∀ client saga, system.program client = .done saga → saga.status = .compensated →
    ReadCompensated plan client system.store

/-- Any number of compensations of one saga, as long as no read between their writes
finds a conflict that a further write is sent on. -/
theorem compensationLaw_of_settledReread (sha256 : String → String) (plan : Plan)
    (identified : plan.Identified sha256) (issue : Issue) (journal : Option Saga)
    (ofPlan : OfPlan plan journal)
    (system : System Client (Remote Client) SagaCall SagaAnswer Failure Saga) (reached : Reachable
      (editedWorld Client plan (compensationWrites plan) (SettledReread sha256 plan))
      ⟨Remote.start issue journal, fun _ => compensateTransition sha256⟩ system) :
    CompensationLaw plan system := by
  have start : AllSafe
      (editedWorld Client plan (compensationWrites plan) (SettledReread sha256 plan))
      (ReturnsCompensated plan) (fun _ _ failure => OfPlan plan failure.saga)
      ⟨Remote.start issue journal, fun _ => compensateTransition sha256⟩ := by
    have law : SagaLaw plan (compensationWrites plan)
        (Remote.start issue journal : Remote Client) := sagaLaw_start issue ofPlan
    refine ⟨law, fun client => ?_⟩
    exact (compensateTransition_keeps identified).safe _ law trivial
  have safe := safe_of_reachable tolerated_editedWorld start reached
  constructor
  · exact fun write logged => (safe.1.writes write logged).2
  · exact fun client saga ended => returns_of_done safe ended

/-- The saga of `startSaga`, carried out. -/
def committedSaga : Saga :=
  { startSaga with status := .committed, steps := .allPass, attempts := 1 }

def committedIssue : Issue :=
  ⟨"in progress", {"roadmap:in-progress"}⟩

instance (sha256 : String → String) (plan : Plan) : (stage : ReadStage) → (issue : Issue) →
    Decidable (SettledReread sha256 plan stage issue)
  | .afterPatch, _ => inferInstanceAs (Decidable (_ ∨ _))
  | .afterAdd, _ => inferInstanceAs (Decidable (_ ∨ _))
  | .first, _ | .verify, _ => inferInstanceAs (Decidable True)

/-- One compensation that nobody disturbs. -/
def compensatedAlone : System Unit (Remote Unit) SagaCall SagaAnswer Failure Saga :=
  alone (SettledReread id committedSaga.plan) nobodyEdits
    (.start committedIssue (some committedSaga)) (compensateTransition id)

theorem compensationLaw_of_settledReread_alone :
    CompensationLaw committedSaga.plan compensatedAlone ∧
      compensatedAlone.store.issue = readyIssue :=
  ⟨compensationLaw_of_settledReread id committedSaga.plan
    ⟨fun _ same => same, fun _ same => same⟩ committedIssue (some committedSaga)
    (fun _ same => by cases same; rfl) _ (reachable_alone _ _ nobodyEdits _ _),
    by decide +kernel⟩

/-- A person rewrites the body after the first write of a compensation. -/
def rewritesAfterPatch : Edits
  | .getIssue .afterPatch => some ⟨"written by a person", {"roadmap:in-progress"}⟩
  | _ => none

theorem not_compensationLaw : ¬∀ (sha256 : String → String) (plan : Plan), plan.Identified sha256 →
      ∀ (issue : Issue) (journal : Option Saga), OfPlan plan journal →
        ∀ system : System Unit (Remote Unit) SagaCall SagaAnswer Failure Saga,
          Reachable (editedWorld Unit plan (compensationWrites plan) fun _ _ => True)
            ⟨Remote.start issue journal, fun _ => compensateTransition sha256⟩ system →
          CompensationLaw plan system := by
  intro claimed
  have law := claimed id committedSaga.plan ⟨fun _ same => same, fun _ same => same⟩
    committedIssue (some committedSaga) (fun _ same => by cases same; rfl) _
    (reachable_alone _ _ rewritesAfterPatch _ _)
  have overwritten : ∃ write ∈ (alone (fun _ _ => True) rewritesAfterPatch
      (.start committedIssue (some committedSaga)) (compensateTransition id)).store.writes,
        write.issue.body ≠ "ready" ∧ write.issue.body ≠ "in progress" := by
    decide +kernel
  obtain ⟨write, logged, notOriginal, notDesired⟩ := overwritten
  have original : committedSaga.plan.originalBody = "ready" := by decide +kernel
  have desired : committedSaga.plan.desiredBody = "in progress" := by decide +kernel
  rcases (law.writes write logged).body with same | same
  · exact notOriginal (same.trans original)
  · exact notDesired (same.trans desired)

end Runs

end Adwf.RemoteSaga
