import Mathlib.Data.Finset.Basic
import Adwf.Program.Alone
import Adwf.RemoteSaga.Guarded

/-!
# Transitions of one issue, one after another

Every transition is planned from the issue as it is and runs without a
disturbance.  The journals of finished sagas stay in the root, each under the key
of its transition, and the key does not name the bodies.
-/

namespace Adwf.RemoteSaga

open Adwf.Fallible Adwf.Program

/-! ## A root and its issue -/

/-- The issue at its revision and the journals by saga id. -/
structure Root where
  issue : Issue
  version : Nat
  journals : String → Option Saga

namespace Root

/-- A root without journals. -/
def start (issue : Issue) : Root :=
  ⟨issue, 0, fun _ => none⟩

/-- After people have edited the issue. -/
def edited (root : Root) (issue : Issue) : Root :=
  { root with issue := issue, version := root.version + 1 }

/-- After `journal.save`. -/
def stored (root : Root) (saga : Saga) : Root :=
  { root with journals := Function.update root.journals saga.plan.sagaId (some saga) }

/-- After a write. -/
def written (root : Root) (effect : Issue → Issue) : Root :=
  { root with issue := effect root.issue, version := root.version + 1 }

/-- A write is refused when its ETag is stale. -/
def write (root : Root) (etag : Nat) (effect : Issue → Issue) : Root × Except String Unit :=
  if etag = root.version then (root.written effect, .ok ()) else (root, .error "HTTPError:412")

/-- The calls of an execution on the saga `key`, nobody else at work. -/
def serve (key : String) (root : Root) : (call : SagaCall) → Root × SagaAnswer call
  | .load => (root, .ok (root.journals key))
  | .save saga =>
      if (root.journals saga.plan.sagaId).all fun current =>
          current.plan.idempotencyKey = saga.plan.idempotencyKey then
        (root.stored saga, .ok saga)
      else (root, .error "ValueError:SAGA_IDEMPOTENCY_CONFLICT")
  | .getIssue _ => (root, .ok ⟨root.issue, root.version⟩)
  | .addLabel label etag => root.write etag fun issue =>
      { issue with labels := insert label issue.labels }
  | .patchBody body etag => root.write etag fun issue => { issue with body := body }
  | .removeLabel label etag => root.write etag fun issue =>
      { issue with labels := issue.labels.erase label }

/-- An uninterrupted `run_transition` with apply. -/
def transition (sha256 : String → String) (root : Root) (given : Saga) : Root × SagaProgram Saga :=
  (runTransition sha256 given true).execute (serve given.plan.sagaId) root

end Root

/-! ## Sequences of transitions -/

/-- The call returns a committed plan and the issue is where the plan leads. -/
def Commits (plan : Plan) (ended : Root × SagaProgram Saga) : Prop :=
  (∃ saga, ended.2 = .done saga ∧ saga.status = .committed) ∧ IsCommitted plan ended.1.issue

/-- Every transition of the sequence commits.  People put the issue of a request in
place before it is planned. -/
def AllCommit (rt : Runtime) (sha256 : String → String) : Root → List PlanRequest → Prop
  | _, [] => True
  | root, request :: rest =>
      match makeTransitionPlan rt sha256 request with
      | .error _ => False
      | .ok given =>
          let ended := (root.edited request.issue).transition sha256 given
          Commits given.plan ended ∧ AllCommit rt sha256 ended.1 rest

/-- The transition can be planned from the issue, whose only machine label is the old
one, and the digest tells the two bodies apart. -/
structure Planned (rt : Runtime) (sha256 : String → String) (request : PlanRequest) :
    Prop where
  made : ∃ given, makeTransitionPlan rt sha256 request = .ok given
  label : machineLabels request.issue = {request.fromLabel}
  digests : sha256 request.issue.body ≠ sha256 request.desiredBody

/-- The name of the journal of the transition. -/
def PlanRequest.key (rt : Runtime) (request : PlanRequest) : String :=
  transitionKey rt request (request.issueNumber.getD 0)

theorem machineLabels_insert {label : String} (machine : label ∈ machineLabelNames)
    (issue : Issue) : machineLabels { issue with labels := insert label issue.labels } =
      insert label (machineLabels issue) := by
  simp [machineLabels, Finset.filter_insert, machine]

theorem machineLabels_erase (label : String) (issue : Issue) :
    machineLabels { issue with labels := issue.labels.erase label } =
      (machineLabels issue).erase label := by
  simp [machineLabels, Finset.filter_erase]

section Run

variable {rt : Runtime} {sha256 : String → String} {request : PlanRequest} {given : Saga}
  {root : Root} {key : String}

theorem plan_of_made (made : makeTransitionPlan rt sha256 request = .ok given) :
    given.plan.sagaId = request.key rt ∧ given.plan.idempotencyKey = request.key rt ∧
      given.plan.fromLabel = request.fromLabel ∧ given.plan.originalBody = request.issue.body ∧
      given.plan.desiredBody = request.desiredBody := by
  unfold makeTransitionPlan at made
  cases number : request.issueNumber with
  | none => simp [number, bind_ok_iff] at made
  | some issueNumber =>
      simp only [number, bind_ok_iff, require_eq_ok_iff, exists_const] at made
      obtain ⟨_, _, _, _, _, _, made⟩ := made
      cases made
      simp [PlanRequest.key, number]

theorem yields_during {call : SagaCall} {saga : Option Saga} {after : Root}
    {value : SagaValue call} (served : root.serve key call = (after, .ok value)) :
    Yields (Root.serve key) (call.during saga) root after value := by
  unfold Yields SagaCall.during
  simp only [execute, served]

/-- Nothing but the plan's own saga is stored under its key. -/
def Root.Holds (root : Root) (plan : Plan) : Prop :=
  ∀ current, root.journals plan.sagaId = some current →
    current.plan.idempotencyKey = plan.idempotencyKey

theorem yields_save (saga : Saga) {current : Option Saga} (holds : root.Holds saga.plan) :
    Yields (Root.serve key) (saveSaga saga current) root (root.stored saga) saga := by
  apply yields_during
  have same : (root.journals saga.plan.sagaId).all (fun current =>
      current.plan.idempotencyKey = saga.plan.idempotencyKey) = true := by
    rw [Option.all_eq_true]
    exact fun current found => by simpa using holds current found
  simp only [Root.serve, same, if_true]

theorem Root.holds_stored (root : Root) (saga : Saga) : (root.stored saga).Holds saga.plan := by
  intro current found
  have same : (root.stored saga).journals saga.plan.sagaId = some saga := Function.update_self ..
  cases same.symm.trans found
  rfl

theorem yields_read (stage : ReadStage) (current : Option Saga) :
    Yields (Root.serve key) (readIssue stage current) root root ⟨root.issue, root.version⟩ :=
  yields_during rfl

theorem Root.write_current (root : Root) (effect : Issue → Issue) :
    root.write root.version effect = (root.written effect, .ok ()) :=
  if_pos rfl

theorem classifyRemote_ne_conflict {plan : Plan} {issue : Issue}
    (labels : machineLabels issue ⊆ {plan.fromLabel, plan.targetLabel})
    (nonempty : (machineLabels issue).Nonempty)
    (body : sha256 issue.body = plan.originalBodySha256 ∨
      sha256 issue.body = plan.desiredBodySha256) :
    classifyRemote sha256 plan issue ≠ .conflict := by
  have known : ¬(sha256 issue.body ≠ plan.originalBodySha256 ∧
      sha256 issue.body ≠ plan.desiredBodySha256) := by tauto
  simp only [classifyRemote, if_neg (not_not.mpr labels), if_neg known, nonempty, if_true]
  split_ifs <;> simp

/-! ### A transition without a journal -/

/-- The issue with the target label. -/
def Plan.labelled (plan : Plan) (issue : Issue) : Issue :=
  { issue with labels := insert plan.targetLabel issue.labels }

/-- The issue with the desired body. -/
def Plan.patched (plan : Plan) (issue : Issue) : Issue :=
  { issue with body := plan.desiredBody }

/-- The issue without the old label. -/
def Plan.released (plan : Plan) (issue : Issue) : Issue :=
  { issue with labels := issue.labels.erase plan.fromLabel }

variable {saga : Saga}

/-- A root after each of the three writes and the save that follows it. -/
def Root.afterAdd (root : Root) (saga : Saga) : Root :=
  (root.written saga.plan.labelled).stored saga.addPassed

def Root.afterPatch (root : Root) (saga : Saga) : Root :=
  (root.written saga.plan.patched).stored saga.patchPassed

def Root.afterRemove (root : Root) (saga : Saga) : Root :=
  (root.written saga.plan.released).stored saga.removePassed

theorem rereadSettled_yields {stage : ReadStage} {conflict : String}
    (settled : classifyRemote sha256 saga.plan root.issue ≠ .conflict) :
    Yields (Root.serve key) (rereadSettled sha256 saga stage conflict) root root
      ⟨root.issue, root.version⟩ := by
  refine Yields.bind (yields_read _ _) ?_
  rw [if_neg settled]
  exact Yields.done

theorem addTargetLabel_yields (key : String) (root : Root) (saga : Saga)
    (holds : root.Holds saga.plan) (missing : saga.plan.targetLabel ∉ machineLabels root.issue)
    (settled : classifyRemote sha256 saga.plan (saga.plan.labelled root.issue) ≠ .conflict) :
    Yields (Root.serve key) (addTargetLabel sha256 saga ⟨root.issue, root.version⟩) root
      (root.afterAdd saga) (saga.addPassed, ⟨saga.plan.labelled root.issue, root.version + 1⟩) := by
  rw [addTargetLabel, if_neg missing]
  refine Yields.bind (yields_during (root.write_current _)) ?_
  refine Yields.bind (yields_save saga.addPassed holds) ?_
  exact Yields.bind (rereadSettled_yields settled) Yields.done

theorem patchMarkerBody_yields (key : String) (root : Root) (saga : Saga)
    (holds : root.Holds saga.plan)
    (undesired : sha256 root.issue.body ≠ saga.plan.desiredBodySha256)
    (original : sha256 root.issue.body = saga.plan.originalBodySha256)
    (settled : classifyRemote sha256 saga.plan (saga.plan.patched root.issue) ≠ .conflict) :
    Yields (Root.serve key) (patchMarkerBody sha256 saga ⟨root.issue, root.version⟩) root
      (root.afterPatch saga) (saga.patchPassed, ⟨saga.plan.patched root.issue, root.version + 1⟩) := by
  rw [patchMarkerBody, if_neg undesired, if_neg (not_not.mpr original)]
  refine Yields.bind (yields_during (root.write_current _)) ?_
  refine Yields.bind (yields_save saga.patchPassed holds) ?_
  exact Yields.bind (rereadSettled_yields settled) Yields.done

theorem removeOldLabel_yields (key : String) (root : Root) (saga : Saga)
    (holds : root.Holds saga.plan) (present : saga.plan.fromLabel ∈ machineLabels root.issue) :
    Yields (Root.serve key) (removeOldLabel saga ⟨root.issue, root.version⟩) root
      (root.afterRemove saga) saga.removePassed := by
  rw [removeOldLabel, if_pos present]
  refine Yields.bind (yields_during (root.write_current _)) ?_
  exact yields_save saga.removePassed holds

/-- The saga as it is when it has committed. -/
def Saga.committed (saga : Saga) : Saga :=
  { saga with
    steps := { saga.steps with verifyPostcondition := .pass }, status := .committed
    lastError := none }

theorem verifyPostcondition_yields (key : String) (root : Root) (saga : Saga)
    (holds : root.Holds saga.plan)
    (reached : classifyRemote sha256 saga.plan root.issue = .committed) :
    Yields (Root.serve key) (verifyPostcondition sha256 saga) root
      (root.stored saga.committed) saga.committed := by
  refine Yields.bind (yields_read _ _) ?_
  rw [if_pos reached]
  exact yields_save saga.committed holds

theorem applyTransition_yields (key : String) (root : Root) (saga : Saga)
    (wellFormed : saga.plan.WellFormed sha256)
    (distinct : saga.plan.originalBodySha256 ≠ saga.plan.desiredBodySha256)
    (holds : root.Holds saga.plan) (labels : machineLabels root.issue = {saga.plan.fromLabel})
    (body : root.issue.body = saga.plan.originalBody) : ∃ after committed, Yields (Root.serve key)
        (applyTransition sha256 saga ⟨root.issue, root.version⟩) root after committed ∧
      committed.status = .committed ∧ committed.plan = saga.plan ∧
      after.journals = Function.update root.journals saga.plan.sagaId (some committed) ∧
      IsCommitted saga.plan after.issue := by
  have original : sha256 root.issue.body = saga.plan.originalBodySha256 := by
    rw [body, wellFormed.originalDigest]
  have undesired : sha256 root.issue.body ≠ saga.plan.desiredBodySha256 := original ▸ distinct
  have desired : sha256 saga.plan.desiredBody = saga.plan.desiredBodySha256 :=
    wellFormed.desiredDigest.symm
  have missing : saga.plan.targetLabel ∉ machineLabels root.issue := by
    rw [labels, Finset.mem_singleton]
    exact wellFormed.different.symm
  have both : machineLabels (saga.plan.labelled root.issue) =
      {saga.plan.targetLabel, saga.plan.fromLabel} := by
    rw [Plan.labelled, machineLabels_insert wellFormed.targetMachine, labels]
  have inside : machineLabels (saga.plan.labelled root.issue) ⊆
      {saga.plan.fromLabel, saga.plan.targetLabel} := by
    rw [both, Finset.pair_comm]
  have nonempty : (machineLabels (saga.plan.labelled root.issue)).Nonempty := by
    rw [both]
    exact Finset.insert_nonempty _ _
  have released : machineLabels (saga.plan.released (saga.plan.patched
      (saga.plan.labelled root.issue))) = {saga.plan.targetLabel} := by
    rw [Plan.released, machineLabels_erase]
    change (machineLabels (saga.plan.labelled root.issue)).erase saga.plan.fromLabel = _
    rw [both, Finset.pair_comm, Finset.erase_insert]
    rw [Finset.mem_singleton]
    exact wellFormed.different
  have reached : classifyRemote sha256 saga.plan (saga.plan.released (saga.plan.patched
      (saga.plan.labelled root.issue))) = .committed := by
    simp only [classifyRemote, released]
    rw [if_neg (by simp), if_neg fun unknown => unknown.2 desired, if_pos ⟨trivial, desired⟩]
  have present : saga.plan.fromLabel ∈
      machineLabels (saga.plan.patched (saga.plan.labelled root.issue)) := by
    change _ ∈ machineLabels (saga.plan.labelled root.issue)
    rw [both]
    exact Finset.mem_insert_of_mem (Finset.mem_singleton_self _)
  have added := addTargetLabel_yields key root saga holds missing
    (classifyRemote_ne_conflict inside nonempty (.inl original))
  have patched := patchMarkerBody_yields key (root.afterAdd saga) saga.addPassed
    (Root.holds_stored _ _) undesired original
    (classifyRemote_ne_conflict inside nonempty (.inr desired))
  have removed := removeOldLabel_yields key ((root.afterAdd saga).afterPatch saga.addPassed)
    saga.addPassed.patchPassed (Root.holds_stored _ _) present
  have verified := verifyPostcondition_yields key
    (((root.afterAdd saga).afterPatch saga.addPassed).afterRemove saga.addPassed.patchPassed)
    saga.addPassed.patchPassed.removePassed (Root.holds_stored _ _) reached
  refine ⟨_, _, Yields.bind added (Yields.bind patched (Yields.bind removed verified)), rfl, rfl,
    ?_, rfl, released⟩
  simp only [Root.stored, Root.written, Root.afterAdd, Root.afterPatch, Root.afterRemove]
  exact (Function.update_idem ..).trans
    ((Function.update_idem ..).trans (Function.update_idem ..))

theorem transition_commits (wellFormed : given.plan.WellFormed sha256)
    (planned : given.status = .planned)
    (distinct : given.plan.originalBodySha256 ≠ given.plan.desiredBodySha256)
    (fresh : root.journals given.plan.sagaId = none)
    (labels : machineLabels root.issue = {given.plan.fromLabel})
    (body : root.issue.body = given.plan.originalBody) :
    Commits given.plan (root.transition sha256 given) ∧
      ∃ committed, committed.status = .committed ∧ committed.plan = given.plan ∧
        (root.transition sha256 given).1.journals =
          Function.update root.journals given.plan.sagaId (some committed) := by
  have holds : root.Holds given.plan := by
    intro current found
    cases fresh.symm.trans found
  have entered : Yields (Root.serve given.plan.sagaId) (enterTransition given) root
      (root.stored given) given := by
    refine Yields.bind (yields_during rfl) ?_
    rw [fresh]
    exact yields_save given holds
  have resumable : classifyRemote sha256 given.plan root.issue = .resumable := by
    have original : sha256 root.issue.body = given.plan.originalBodySha256 := by
      rw [body, wellFormed.originalDigest]
    simp only [classifyRemote, labels, original]
    rw [if_neg (by simp), if_neg (by simp), if_neg (by simp [distinct]), if_pos (by simp)]
  obtain ⟨after, committed, applied, status, plan, journals, reached⟩ :=
    applyTransition_yields given.plan.sagaId ((root.stored given).stored
      { given with status := .applying, attempts := given.attempts + 1, lastError := none })
      { given with status := .applying, attempts := given.attempts + 1, lastError := none }
      wellFormed distinct (Root.holds_stored _ _) labels body
  have ran : Yields (Root.serve given.plan.sagaId) (runTransition sha256 given true) root
      after committed := by
    refine Yields.bind entered ?_
    rw [if_neg (by simp [planned])]
    refine Yields.bind (yields_read _ _) ?_
    have readResumable : classifyRemote sha256 given.plan (root.stored given).issue =
        .resumable := resumable
    rw [readResumable]
    refine Yields.bind (yields_save _ (Root.holds_stored _ _)) ?_
    exact Yields.handle applied
  rw [Root.transition, ran]
  refine ⟨⟨⟨committed, rfl, status⟩, reached⟩, committed, status, plan, ?_⟩
  rw [journals]
  exact (Function.update_idem ..).trans (Function.update_idem ..)

theorem transition_blocked {stored : Saga}
    (found : root.journals given.plan.sagaId = some stored) (committed : stored.status = .committed)
    (body : root.issue.body ≠ given.plan.desiredBody) :
    ¬Commits given.plan (root.transition sha256 given) := by
  have loaded : Yields (Root.serve given.plan.sagaId) (SagaCall.load.during none) root root
      (root.journals given.plan.sagaId : Option Saga) :=
    yields_during rfl
  rw [found] at loaded
  by_cases same : samePlan stored.plan given.plan
  · have ran : Yields (Root.serve given.plan.sagaId) (runTransition sha256 given true) root root
        stored := by
      have entered : Yields (Root.serve given.plan.sagaId) (enterTransition given) root root
          stored := by
        refine Yields.bind loaded ?_
        dsimp only
        rw [if_pos same]
        exact Yields.done
      refine Yields.bind entered ?_
      rw [if_pos committed]
      exact Yields.done
    rintro ⟨_, reached⟩
    rw [Root.transition, ran] at reached
    exact body reached.1
  · have raised : Throws (Root.serve given.plan.sagaId) (runTransition sha256 given true) root root
        ⟨"SagaError:SAGA_PLAN_CONFLICT", none⟩ := by
      apply Throws.bind
      refine Yields.throws loaded ?_
      dsimp only
      rw [if_neg same]
      rfl
    rintro ⟨⟨saga, returned, _⟩, _⟩
    rw [Root.transition, raised] at returned
    cases returned

theorem allCommit_iff_keys {requests : List PlanRequest}
    (planned : ∀ request ∈ requests, Planned rt sha256 request)
    (settled : ∀ key saga, root.journals key = some saga → saga.status = .committed) :
    AllCommit rt sha256 root requests ↔
      (∀ request ∈ requests, root.journals (request.key rt) = none) ∧
        (requests.map (PlanRequest.key rt)).Nodup := by
  induction requests generalizing root with
  | nil => simp [AllCommit]
  | cons request rest ih =>
      obtain ⟨first, others⟩ := List.forall_mem_cons.mp planned
      obtain ⟨given, made⟩ := first.made
      have wellFormed := (makeTransitionPlan_wellFormed made).1
      obtain ⟨sagaId, _, fromLabel, original, desired⟩ := plan_of_made made
      rw [AllCommit]
      simp only [made, List.forall_mem_cons, List.map_cons, List.nodup_cons]
      cases found : root.journals (request.key rt) with
      | some stored =>
          have blocked : ¬Commits given.plan
              ((root.edited request.issue).transition sha256 given) := by
            have taken : root.journals given.plan.sagaId = some stored := by
              rw [sagaId]
              exact found
            exact @transition_blocked sha256 given (root.edited request.issue) stored taken
              (settled _ _ found) (original ▸ wellFormed.bodies)
          simp [blocked]
      | none =>
          have labels : machineLabels (root.edited request.issue).issue =
              {given.plan.fromLabel} := by
            rw [fromLabel]
            exact first.label
          have distinct : given.plan.originalBodySha256 ≠ given.plan.desiredBodySha256 := by
            rw [wellFormed.originalDigest, wellFormed.desiredDigest, original, desired]
            exact first.digests
          have fresh : (root.edited request.issue).journals given.plan.sagaId = none := by
            rw [sagaId]
            exact found
          obtain ⟨commits, committed, status, _, journals⟩ := transition_commits wellFormed
            (makeTransitionPlan_wellFormed made).2 distinct fresh labels original.symm
          rw [sagaId] at journals
          have later := @ih ((root.edited request.issue).transition sha256 given).1 others (by
            intro key saga stored
            rw [journals] at stored
            by_cases same : key = request.key rt
            · subst same
              cases (Function.update_self ..).symm.trans stored
              exact status
            · exact settled key saga ((Function.update_of_ne same ..).symm.trans stored))
          have untaken : (∀ other ∈ rest,
              ((root.edited request.issue).transition sha256 given).1.journals
                (other.key rt) = none) ↔
              (∀ other ∈ rest, root.journals (other.key rt) = none) ∧
                request.key rt ∉ rest.map (PlanRequest.key rt) := by
            rw [journals]
            constructor
            · intro free
              have differs : ∀ other ∈ rest, other.key rt ≠ request.key rt := by
                intro other mem same
                have none := free other mem
                rw [same, Function.update_self] at none
                cases none
              refine ⟨fun other mem => ?_, fun taken => ?_⟩
              · exact (Function.update_of_ne (differs other mem) ..).symm.trans
                  (free other mem)
              · obtain ⟨other, mem, same⟩ := List.mem_map.mp taken
                exact differs other mem same
            · rintro ⟨free, notTaken⟩ other mem
              have differs : other.key rt ≠ request.key rt :=
                fun same => notTaken (List.mem_map.mpr ⟨other, mem, same⟩)
              exact (Function.update_of_ne differs ..).trans (free other mem)
          rw [later, untaken]
          tauto

end Run

theorem committed_of_start (issue : Issue) (key : String) (saga : Saga)
    (stored : (Root.start issue).journals key = some saga) : saga.status = .committed := by
  cases stored

/-- The transitions of one issue: planned, of one repository and number. -/
structure Recurring (rt : Runtime) (sha256 : String → String) (repo : String)
    (issueNumber : Int) (requests : List PlanRequest) : Prop where
  planned : ∀ request ∈ requests, Planned rt sha256 request
  repo : ∀ request ∈ requests, request.repo = repo
  number : ∀ request ∈ requests, request.issueNumber = some issueNumber

/-- Every transition of a sequence commits exactly when no two of them share their key. -/
theorem allCommit_iff (rt : Runtime) (sha256 : String → String) (repo : String)
    (issueNumber : Int) (issue : Issue) (requests : List PlanRequest)
    (recurring : Recurring rt sha256 repo issueNumber requests) :
    AllCommit rt sha256 (Root.start issue) requests ↔
      (requests.map fun request => transitionKey rt request issueNumber).Nodup := by
  have keys : (requests.map fun request => transitionKey rt request issueNumber) =
      requests.map (PlanRequest.key rt) := by
    refine List.map_congr_left fun request mem => ?_
    rw [PlanRequest.key, recurring.number request mem]
    rfl
  rw [keys, allCommit_iff_keys recurring.planned (committed_of_start issue)]
  exact and_iff_right fun _ _ => rfl

/-! ## To review, back, and to review again -/

/-- A digest that tells the states of a transition apart. -/
def statesRuntime : Runtime :=
  { plainRuntime with
    digest := fun value =>
      match value with
      | .obj fields => ((Json.get fields "from_state").asText.getD "") ++ ">" ++
          ((Json.get fields "to_state").asText.getD "")
      | _ => "" }

def markerBody (state : String) : String :=
  "<!-- ADWF-CONTRACT Roadmap-ID: ROADMAP-1 Writer: writer-1 " ++
    "Writer-Lease: 00000000-0000-4000-8000-000000000001 Workspace: workspace-1 State: " ++ state ++
    " Heartbeat: 2026-01-01T00:00:00Z Expires: 2026-01-01T01:00:00Z -->"

def inProgressIssue : Issue :=
  ⟨markerBody "IN_PROGRESS", {"roadmap:in-progress"}⟩

def toReview : PlanRequest :=
  { startRequest with
    issue := inProgressIssue, leaseId := "00000000-0000-4000-8000-000000000001"
    fromLabel := "roadmap:in-progress", targetLabel := "roadmap:review"
    fromState := "IN_PROGRESS", toState := "REVIEW", desiredBody := markerBody "REVIEW" }

def backToWork : PlanRequest :=
  { toReview with
    issue := ⟨markerBody "REVIEW", {"roadmap:review"}⟩
    fromLabel := "roadmap:review", targetLabel := "roadmap:in-progress"
    fromState := "REVIEW", toState := "IN_PROGRESS", desiredBody := markerBody "IN_PROGRESS" }

theorem exists_ok_of_isSome {α : Type} {result : Except String α}
    (returned : result.toOption.isSome = true) : ∃ value, result = .ok value := by
  cases result with
  | error error => cases returned
  | ok value => exact ⟨value, rfl⟩

theorem planned_toReview : Planned statesRuntime id toReview where
  made := exists_ok_of_isSome (by decide +kernel)
  label := by decide +kernel
  digests := by decide +kernel

theorem planned_backToWork : Planned statesRuntime id backToWork where
  made := exists_ok_of_isSome (by decide +kernel)
  label := by decide +kernel
  digests := by decide +kernel

theorem recurring_reviews {requests : List PlanRequest}
    (subset : requests ⊆ [toReview, backToWork]) :
    Recurring statesRuntime id "owner/name" 12 requests := by
  have either : ∀ request ∈ requests, request = toReview ∨ request = backToWork :=
    fun request mem => (List.mem_cons.mp (subset mem)).imp id List.mem_singleton.mp
  constructor
  · intro request mem
    rcases either request mem with rfl | rfl
    · exact planned_toReview
    · exact planned_backToWork
  · intro request mem
    rcases either request mem with rfl | rfl <;> rfl
  · intro request mem
    rcases either request mem with rfl | rfl <;> rfl

theorem nodup_keys :
    ([toReview, backToWork].map fun request => transitionKey statesRuntime request 12).Nodup := by
  decide +kernel

-- The runs below are never evaluated.
attribute [local irreducible] AllCommit

/-- One way and back both commit. -/
theorem allCommit_iff_back :
    AllCommit statesRuntime id (Root.start inProgressIssue) [toReview, backToWork] :=
  (allCommit_iff statesRuntime id "owner/name" 12 inProgressIssue [toReview, backToWork]
    (recurring_reviews (List.Subset.refl _))).mpr nodup_keys

/-- The second way to review finds the journal of the first. -/
theorem not_always_allCommit :
    ¬ ∀ (rt : Runtime) (sha256 : String → String) (repo : String) (issueNumber : Int)
      (issue : Issue) (requests : List PlanRequest), Recurring rt sha256 repo issueNumber requests →
      AllCommit rt sha256 (Root.start issue) requests := by
  intro commits
  have recurring := @recurring_reviews [toReview, backToWork, toReview]
    (List.cons_subset.mpr ⟨List.mem_cons_self, List.cons_subset.mpr
      ⟨List.mem_cons_of_mem _ List.mem_cons_self, List.cons_subset.mpr
        ⟨List.mem_cons_self, List.nil_subset _⟩⟩⟩)
  have again := commits statesRuntime id "owner/name" 12 inProgressIssue
    [toReview, backToWork, toReview] recurring
  have keys := ((allCommit_iff_keys recurring.planned (committed_of_start _)).mp again).2
  exact absurd keys (by decide +kernel)

end Adwf.RemoteSaga
