import Adwf.LeaseRegistry.Invariant
import Adwf.Orchestrator.Journal
import Adwf.Resume.Decision

/-!
# The context of a resume

`compile_provider_context` reads the provider and projects a durable run into
the arguments of `decide_resume`.
-/

namespace Adwf.Resume

open Adwf.Fallible LeaseRegistry Orchestrator

/-! ## What the provider answers -/

/-- The client is given, or built from the environment's repository and token. -/
inductive Connection where
  | injected (repository : String)
  | environment (repository token : String)

/-- The issue, its absent members read as empty texts. -/
structure IssueRead where
  number : String
  state : String

/-- The pull request. -/
structure PullRead where
  number : Option Int
  headSha : String
  headRef : String
  baseRef : String

structure CheckRun where
  status : String
  conclusion : String

/-- The answer of each read; `none` for a read that raises. -/
structure Provider where
  connection : Connection
  defaultBranch : Option String
  mainHead : Option String
  issue : Option IssueRead
  pull : Option PullRead
  branchHead : Option String
  registry : Option Registry
  /-- What the runtime store restores: nothing, or a value with a checkpoint object or without. -/
  continuity : Option (Option (Option Checkpoint))
  /-- The check runs; `some none` for an answer of another shape. -/
  checkRuns : Option (Option (List CheckRun))

/-- A read whose exception is replaced by a code. -/
def readOr {α : Type} (code : String) : Option α → Except String α
  | some value => .ok value
  | none => .error code

/-- The repository of the client. -/
def connect : Connection → Except String String
  | .injected repository => do
      require (isRepository repository = true) "PROVIDER_REPOSITORY_INVALID"
      return repository
  | .environment repository token => do
      require (isRepository repository = true ∧ token ≠ "") "GITHUB_REPOSITORY_OR_TOKEN_MISSING"
      return repository

/-- `_sha`. -/
def sha (value code : String) : Except String String := do
  require (Text.isSha40 value = true) code
  return value

/-- `_EXTERNAL_SUCCESS`. -/
def externalSuccess : List String :=
  ["success", "neutral", "skipped"]

/-- `_external_status` of the rows. -/
def externalStatusOf (rows : List CheckRun) : String :=
  let statuses := rows.map fun row => (Text.strip row.status).toLower
  let conclusions := rows.map fun row => (Text.strip row.conclusion).toLower
  if rows.isEmpty then "pending"
  else if statuses.any fun status => pendingExternal.contains status || status ≠ "completed" then
    "in_progress"
  else if conclusions.all externalSuccess.contains then "success"
  else "failure"

/-- `_external_status`. -/
def externalStatus (checkRuns : Option (Option (List CheckRun))) : Except String String := do
  let answer ← readOr "PROVIDER_EXTERNAL_STATUS_READ_FAILED" checkRuns
  let rows ← readOr "PROVIDER_EXTERNAL_STATUS_INVALID" answer
  return externalStatusOf rows

/-- `_external_status(client, head_sha) if external_wait else None`. -/
def waitStatus (waits : Bool) (checkRuns : Option (Option (List CheckRun))) :
    Except String (Option String) :=
  if waits then some <$> externalStatus checkRuns else .ok none

/-- `_execution_boundary`: the state, the boundary, whether a human decision is
pending and whether the run waits for CI. -/
def executionBoundary (durable : Journal) : ExecutionStatus × Boundary × Bool × Bool :=
  if durable.status = .humanRequired then (.humanRequired, .humanRequired, true, false)
  else if durable.status = .recovery then (.recovery, .none, false, false)
  else if durable.status = .complete then (.complete, .none, false, false)
  else if durable.status = .retryWait ∧ durable.phase = .ci then
    (.waitingCi, .waitingExternal, false, true)
  else (.running, .none, false, false)

/-- An ACTIVE fresh lease on the work of the run. -/
def isCompatible (durable : Journal) (branch mainSha : String) (now : Int) (lease : Lease) : Bool :=
  lease.status = .active && lease.roadmapId = durable.roadmapId &&
    lease.issueId = durable.issueId && lease.branch = branch && lease.baseSha = mainSha &&
    (freshnessErrors lease now).isEmpty

/-- `_fresh_compatible_lease`. -/
def freshCompatibleLease (registry : Registry) (durable : Journal) (branch mainSha : String)
    (now : Int) : Except String (Option Lease) :=
  match registry.leases.filter (isCompatible durable branch mainSha now) with
  | [] => .ok none
  | [lease] => .ok (some lease)
  | _ => .error "PROVIDER_COMPATIBLE_LEASE_AMBIGUOUS"

/-- The restored checkpoint's checks against the run. -/
def checkRestored (validateCheckpoint : CheckpointCheck) (repository : String) (durable : Journal)
    (checkpoint : Checkpoint) : Except String Unit := do
  require (validateCheckpoint checkpoint = []) "PROVIDER_SESSION_CONTINUITY_INVALID"
  require (checkpoint.projectIdentity = repository) "PROVIDER_SESSION_CONTINUITY_PROJECT_MISMATCH"
  require (checkpoint.roadmapId = durable.roadmapId) "PROVIDER_SESSION_CONTINUITY_ROADMAP_MISMATCH"
  require (checkpoint.issueId.getD "" = durable.issueId)
    "PROVIDER_SESSION_CONTINUITY_ISSUE_MISMATCH"

/-- `_checkpoint`. -/
def restoredCheckpoint (validateCheckpoint : CheckpointCheck) (provider : Provider)
    (repository : String) (durable : Journal) : Except String (Option Checkpoint) := do
  let restored ← readOr "PROVIDER_SESSION_CONTINUITY_READ_FAILED" provider.continuity
  match restored with
  | none => return none
  | some found => do
      let checkpoint ← readOr "PROVIDER_SESSION_CONTINUITY_INVALID" found
      checkRestored validateCheckpoint repository durable checkpoint
      return some checkpoint

/-- The branch of the work and the commit at its head: of the pull request, of
the branch of the run, or of main. -/
def readHead (provider : Provider) (durable : Journal) (defaultBranch mainSha : String) :
    Except String (String × String) :=
  let durableBranch := durable.workBranch.getD ""
  match durable.pullRequestNumber with
  | some number => do
      require (1 ≤ number) "PROVIDER_PULL_REQUEST_NUMBER_INVALID"
      let pull ← readOr "PROVIDER_PULL_REQUEST_READ_FAILED" provider.pull
      require (pull.number = some number) "PROVIDER_PULL_REQUEST_READBACK_INVALID"
      let headSha ← sha pull.headSha "PROVIDER_HEAD_SHA_INVALID"
      require (pull.headRef ≠ "") "PROVIDER_HEAD_BRANCH_INVALID"
      require (durableBranch ≠ "" → pull.headRef = durableBranch)
        "PROVIDER_PULL_REQUEST_BRANCH_MISMATCH"
      require (pull.baseRef = defaultBranch) "PROVIDER_PULL_REQUEST_BASE_BRANCH_MISMATCH"
      return (pull.headRef, headSha)
  | none =>
      if durableBranch ≠ "" then do
        let head ← readOr "PROVIDER_HEAD_BRANCH_READ_FAILED" provider.branchHead
        let headSha ← sha head "PROVIDER_HEAD_SHA_INVALID"
        return (durableBranch, headSha)
      else return (defaultBranch, mainSha)

/-- `str(item)[:240]`. -/
def blockerText (builtins : Builtins) (blocker : Json) : String :=
  String.ofList ((builtins.toRuntime.text blocker).toList.take 240)

/-- The conflict domains of the projection. -/
def projectedDomains : Option Lease → List String
  | none => ["provider:global"]
  | some lease =>
      if lease.resources.isEmpty then ["provider:global"]
      else lease.resources.map fun resource => resource.kind.name ++ ":" ++ resource.scope

/-- The projection of the run before `build_state` signs it. -/
def projectionDraft (builtins : Builtins) (durable : Journal) (repository mainSha branch : String)
    (headSha : String) (compatible : Option Lease) : ExecutionState :=
  let boundary := executionBoundary durable
  { repository
    roadmapId := durable.roadmapId
    issueId := durable.issueId
    leaseId := compatible.map Lease.leaseId
    leaseState := if compatible.isSome then .active else .none
    conflictDomains := projectedDomains compatible
    observation :=
      { mainSha, headSha := some headSha, prNumber := durable.pullRequestNumber
        branch := some branch }
    executionState := boundary.1
    boundaryType := boundary.2.1
    blockers := durable.blockers.map (blockerText builtins)
    lastVerifiedTransition := "ORCH_CONTEXT_FRESH_PROVIDER_READ"
    evidenceRefs := []
    nextPermittedAction := if boundary.2.2.1 then "BLOCK" else "RECONCILE_OR_RESUME"
    revision := durable.revision
    integrityDigest := "" }

variable (builtins : Builtins) (validateCheckpoint : CheckpointCheck)

/-- The lease registry the store reads. -/
def readRegistry (provider : Provider) (repository : String) : Except String Registry := do
  let registry ← readOr "PROVIDER_LEASE_READ_FAILED" provider.registry
  require (validateLeaseRegistry builtins.toRuntime registry = [])
    "PROVIDER_LEASE_REGISTRY_INVALID"
  require (registry.repository = repository) "PROVIDER_LEASE_REPOSITORY_MISMATCH"
  return registry

/-- `compile_provider_context`. -/
def compileProviderContext (durable : Journal) (provider : Provider) (now : Int) :
    Except String Context := do
  require (durable.runId ≠ "" ∧ durable.roadmapId ≠ "" ∧ isIssueId durable.issueId = true)
    "DURABLE_WORK_IDENTITY_INVALID"
  let repository ← connect provider.connection
  let defaultBranch ← readOr "PROVIDER_REPOSITORY_READ_FAILED" provider.defaultBranch
  require (defaultBranch ≠ "") "PROVIDER_DEFAULT_BRANCH_INVALID"
  let main ← readOr "PROVIDER_REPOSITORY_READ_FAILED" provider.mainHead
  let mainSha ← sha main "PROVIDER_MAIN_SHA_INVALID"
  let issue ← readOr "PROVIDER_ISSUE_READ_FAILED" provider.issue
  require (issue.number = durable.issueId) "PROVIDER_ISSUE_READBACK_INVALID"
  let head ← readHead provider durable defaultBranch mainSha
  let registry ← readRegistry builtins provider repository
  let compatible ← freshCompatibleLease registry durable head.1 mainSha now
  let projection ← buildState builtins
    (projectionDraft builtins durable repository mainSha head.1 head.2 compatible)
  let checkpoint ← restoredCheckpoint validateCheckpoint provider repository durable
  let status ← waitStatus (executionBoundary durable).2.2.2 provider.checkRuns
  return {
    repository
    mainSha
    headSha := some head.2
    prNumber := durable.pullRequestNumber
    branch := head.1
    roadmapId := durable.roadmapId
    issueId := durable.issueId
    expectedBaseSha := mainSha
    currentWorkerId := "adwf-runtime:" ++ durable.runId
    policyMaxParallelWriters := 1
    leaseRegistry := registry
    executionState := some projection
    checkpoint
    workTerminal := issue.state.toLower ≠ "open"
    nextWorkAuthorized := false
    externalStatus := status
    humanBoundaryActive := (executionBoundary durable).2.2.1
    sessionAcceleratorPresent := checkpoint.isSome
    now }

/-- `decide_resume` over the compiled context. -/
def resumeOver (durable : Journal) (provider : Provider) (now : Int) : Except String Answer := do
  let context ← compileProviderContext builtins validateCheckpoint durable provider now
  decideResume builtins validateCheckpoint context

end Adwf.Resume

/-!
## What a resume rests on

Every check of `decide_resume` passed when it resumes, so the one lease, the
projection and the checkpoint agree with the provider.  Two things the checks do
not see: a checkpoint may leave its lease or its head open, and the projection
of a status it does not know is `RUNNING`.
-/

namespace Adwf.Resume

open Adwf.Fallible LeaseRegistry Orchestrator

/-- The facts a resume rests on. -/
structure ResumesOn (durable : Journal) (context : Context) (lease : Lease) : Prop where
  sole : activeLeases context.leaseRegistry.leases = [lease]
  fresh : freshnessErrors lease context.now = []
  repository : context.leaseRegistry.repository = context.repository
  roadmapId : lease.roadmapId = durable.roadmapId
  issueId : lease.issueId = durable.issueId
  branch : lease.branch = context.branch
  workBranch : durable.workBranch.getD "" ≠ "" → lease.branch = durable.workBranch.getD ""
  baseSha : lease.baseSha = context.mainSha
  workerId : lease.workerId = "adwf-runtime:" ++ durable.runId
  state : ∃ state, context.executionState = some state ∧ state.leaseId = some lease.leaseId ∧
    state.observation = context.fresh
  noHuman : context.humanBoundaryActive = false ∧ durable.status ≠ .humanRequired

/-- What a checkpoint of the context agrees on. -/
structure Agrees (context : Context) (lease : Lease) (checkpoint : Checkpoint) : Prop where
  projectIdentity : checkpoint.projectIdentity = context.repository
  roadmapId : checkpoint.roadmapId = context.roadmapId
  issueId : checkpoint.issueId = some context.issueId
  lease : checkpoint.leaseIdentity = none ∨ checkpoint.leaseIdentity = some lease.leaseId
  mainSha : checkpoint.observed.mainSha = context.mainSha
  headSha : checkpoint.observed.headSha = none ∨ checkpoint.observed.headSha = context.headSha
  prNumber : checkpoint.observed.prNumber = context.prNumber
  branch : checkpoint.observed.branch = some context.branch

/-! ## The checks that passed -/

section Checks

variable {builtins : Builtins} {validateCheckpoint : CheckpointCheck} {context : Context}
  {lease : Lease} {state : ExecutionState} {checkpoint : Checkpoint}

theorem stopUnless_eq_ok_iff {condition : Prop} [Decidable condition] {decision : Held}
    {reason : String} {leaseId : Option String} {findings : List String} {result : Unit} :
    stopUnless condition decision reason leaseId findings = .ok result ↔ condition :=
  require_eq_ok_iff _ _ _

theorem attempt_eq_ok_iff {α : Type} {result : Except String α} {value : α} :
    attempt result = .ok value ↔ result = .ok value := by
  cases result <;> simp [attempt, Except.mapError]

theorem checkFacts_eq_ok {result : Unit}
    (passed : checkFacts builtins validateCheckpoint context = .ok result) :
    context.leaseRegistry.repository = context.repository ∧
      (activeLeases context.leaseRegistry.leases).length ≤ 1 := by
  simp only [checkFacts, bind_ok_iff, stopUnless_eq_ok_iff, exists_const] at passed
  obtain ⟨_, _, _, repository, _, _, _, sole, _⟩ := passed
  exact ⟨repository, sole⟩

theorem soleLease_eq_ok (found : soleLease context = .ok lease) :
    ∃ more, activeLeases context.leaseRegistry.leases = lease :: more := by
  unfold soleLease at found
  split at found
  · rename_i first more active
    cases found
    exact ⟨more, active⟩
  · simp [bind_ok_iff] at found

theorem checkLease_eq_ok {result : Unit} (passed : checkLease context lease = .ok result) :
    freshnessErrors lease context.now = [] ∧ lease.roadmapId = context.roadmapId ∧
      lease.issueId = context.issueId ∧ lease.branch = context.branch ∧
      lease.baseSha = context.expectedBaseSha ∧ lease.workerId = context.currentWorkerId := by
  simp only [checkLease, bind_ok_iff, stopUnless_eq_ok_iff, exists_const] at passed
  obtain ⟨_, fresh, same, worker⟩ := passed
  simp only [identityMismatch, List.append_eq_nil_iff, ite_eq_right_iff, List.cons_ne_nil,
    imp_false, ne_eq, not_not] at same
  obtain ⟨⟨⟨roadmap, issue⟩, branch⟩, base⟩ := same
  exact ⟨fresh, roadmap, issue, branch, base, worker⟩

theorem requireState_eq_ok (found : requireState context lease = .ok state) :
    context.executionState = some state := by
  unfold requireState at found
  split at found
  · rename_i some_state
    cases found
    exact some_state
  · cases found

theorem checkState_eq_ok {result : Unit}
    (passed : checkState builtins context lease state = .ok result) :
    state.leaseId = some lease.leaseId ∧ state.observation = context.fresh := by
  simp only [checkState, bind_ok_iff, stopUnless_eq_ok_iff, attempt_eq_ok_iff, exists_const,
    reconcileProviderObservation, require_eq_ok_iff, pure, Except.pure, Except.ok.injEq] at passed
  obtain ⟨_, _, same, _, stale, ⟨_, stale_eq⟩, current⟩ := passed
  rw [← stale_eq] at current
  exact ⟨same, by simpa using current⟩

theorem checkCheckpoint_eq_ok {result : Unit} (issue : isIssueId context.issueId = true)
    (passed : checkCheckpoint validateCheckpoint context lease checkpoint = .ok result) :
    Agrees context lease checkpoint := by
  simp only [checkCheckpoint, bind_ok_iff, stopUnless_eq_ok_iff, attempt_eq_ok_iff,
    exists_const, reconcileCheckpoint, require_eq_ok_iff, pure, Except.pure,
    Except.ok.injEq] at passed
  obtain ⟨project, ⟨roadmap, issue_eq⟩, owner, ⟨number, branch⟩, stale, ⟨_, _, _, stale_eq⟩,
    current⟩ := passed
  rw [← stale_eq] at current
  simp only [Bool.or_eq_false_iff, Bool.and_eq_false_iff, decide_eq_false_iff_not, ne_eq,
    not_not] at current
  refine ⟨project, roadmap, ?_, owner, current.1, current.2, number, branch⟩
  cases named : checkpoint.issueId with
  | none =>
      rw [named, Option.getD_none] at issue_eq
      rw [← issue_eq] at issue
      exact absurd issue (by decide)
  | some name =>
      rw [named, Option.getD_some] at issue_eq
      rw [issue_eq]

theorem checkBoundary_eq_ok {result : Unit} (passed : checkBoundary context lease state = .ok result) :
    state.executionState ≠ .complete ∧ state.executionState ≠ .recovery ∧
      context.humanBoundaryActive = false ∧ state.executionState ≠ .humanRequired := by
  simp only [checkBoundary, bind_ok_iff, stopUnless_eq_ok_iff, exists_const] at passed
  obtain ⟨complete, recovery, ⟨pending, human⟩, _⟩ := passed
  exact ⟨complete, recovery, pending, human⟩

end Checks

/-- What a compiled context takes from the run. -/
structure CompiledFrom (durable : Journal) (context : Context) : Prop where
  issue : isIssueId context.issueId = true
  roadmapId : context.roadmapId = durable.roadmapId
  issueId : context.issueId = durable.issueId
  baseSha : context.expectedBaseSha = context.mainSha
  workerId : context.currentWorkerId = "adwf-runtime:" ++ durable.runId
  workBranch : durable.workBranch.getD "" ≠ "" → context.branch = durable.workBranch.getD ""
  human : context.humanBoundaryActive = (executionBoundary durable).2.2.1
  projected : ∀ state, context.executionState = some state →
    state.executionState = (executionBoundary durable).1

section Compile

variable {builtins : Builtins} {validateCheckpoint : CheckpointCheck} {durable : Journal}
  {provider : Provider} {now : Int} {context : Context}

theorem buildState_eq_ok {draft state : ExecutionState}
    (built : buildState builtins draft = .ok state) :
    state.executionState = draft.executionState := by
  simp only [buildState, bind_ok_iff, require_eq_ok_iff, exists_const, pure, Except.pure,
    Except.ok.injEq] at built
  obtain ⟨domains, _, _, rfl⟩ := built
  rfl

theorem readHead_eq_ok {defaultBranch mainSha : String} {head : String × String}
    (found : readHead provider durable defaultBranch mainSha = .ok head) :
    durable.workBranch.getD "" ≠ "" → head.1 = durable.workBranch.getD "" := by
  intro stated
  simp only [readHead] at found
  split at found
  · simp only [bind_ok_iff, require_eq_ok_iff, exists_const, pure, Except.pure,
      Except.ok.injEq] at found
    obtain ⟨_, pull, _, _, headSha, _, _, same, _, rfl⟩ := found
    exact same stated
  · rw [if_pos stated] at found
    simp only [bind_ok_iff, pure, Except.pure, Except.ok.injEq] at found
    obtain ⟨head, _, headSha, _, rfl⟩ := found
    rfl

theorem compileProviderContext_eq_ok
    (compiled : compileProviderContext builtins validateCheckpoint durable provider now =
      .ok context) : CompiledFrom durable context := by
  simp only [compileProviderContext, bind_ok_iff, require_eq_ok_iff, exists_const, pure,
    Except.pure, Except.ok.injEq] at compiled
  obtain ⟨⟨_, _, issue⟩, repository, _, defaultBranch, _, _, main, _, mainSha, _, issueRead, _, _,
    head, headRead, registry, _, compatible, _, projection, built, checkpoint, _, status, _,
    rfl⟩ := compiled
  refine ⟨issue, rfl, rfl, rfl, rfl, readHead_eq_ok headRead, rfl, ?_⟩
  intro state projected
  cases projected
  exact buildState_eq_ok built

theorem executionBoundary_status (complete : (executionBoundary durable).1 ≠ .complete)
    (recovery : (executionBoundary durable).1 ≠ .recovery)
    (human : (executionBoundary durable).2.2.1 = false) :
    durable.status ≠ .humanRequired ∧ durable.status ≠ .recovery ∧ durable.status ≠ .complete := by
  refine ⟨fun status => ?_, fun status => ?_, fun status => ?_⟩
  · simp [executionBoundary, status] at human
  · simp [executionBoundary, status] at recovery
  · simp [executionBoundary, status] at complete

end Compile

/-- A resume rests on one ACTIVE fresh lease that matches the run, on a
projection bound to it and to the exact provider head, and on a checkpoint that
names no other lease and no other head; no human decision is pending, and the
run is neither in recovery nor complete. -/
theorem resume_sound (builtins : Builtins) (validateCheckpoint : CheckpointCheck)
    (durable : Journal) (provider : Provider) (now : Int) (answer : Answer)
    (answered : resumeOver builtins validateCheckpoint durable provider now = .ok answer)
    (resumes : answer.decision = .resumeExisting) : ∃ context lease,
      compileProviderContext builtins validateCheckpoint durable provider now = .ok context ∧
      answer.leaseId = some lease.leaseId ∧ ResumesOn durable context lease ∧
      (∀ checkpoint, context.checkpoint = some checkpoint → Agrees context lease checkpoint) ∧
      durable.status ≠ .recovery ∧ durable.status ≠ .complete := by
  rw [resumeOver, bind_ok_iff] at answered
  obtain ⟨context, compiled, decided⟩ := answered
  have source := compileProviderContext_eq_ok compiled
  unfold decideResume at decided
  split at decided
  · rename_i leaseId passed
    cases decided
    simp only [resumeChecks, bind_ok_iff] at passed
    obtain ⟨_, facts, lease, found, _, leased, state, held, _, bound, _, restored, _, boundary,
      id_eq⟩ := passed
    cases id_eq
    obtain ⟨repository, short⟩ := checkFacts_eq_ok facts
    obtain ⟨more, active⟩ := soleLease_eq_ok found
    obtain ⟨fresh, roadmap, issue, branch, base, worker⟩ := checkLease_eq_ok leased
    have state_eq := requireState_eq_ok held
    obtain ⟨sameLease, observed⟩ := checkState_eq_ok bound
    obtain ⟨complete, recovery, pending, _⟩ := checkBoundary_eq_ok boundary
    rw [source.projected state state_eq] at complete recovery
    have status := executionBoundary_status complete recovery (source.human ▸ pending)
    have sole : more = [] := by
      rw [active, List.length_cons] at short
      exact List.length_eq_zero_iff.mp (by omega)
    rw [sole] at active
    refine ⟨context, lease, compiled, rfl, ?_, ?_, status.2.1, status.2.2⟩
    · exact ⟨active, fresh, repository, roadmap.trans source.roadmapId, issue.trans source.issueId,
        branch, fun stated => branch.trans (source.workBranch stated), base.trans source.baseSha,
        worker.trans source.workerId, ⟨state, state_eq, sameLease, observed⟩, pending, status.1⟩
    · intro checkpoint given
      rw [given] at restored
      exact checkCheckpoint_eq_ok source.issue restored
  · rename_i decision reason leaseId findings _
    cases decided
    cases resumes
  · cases decided

/-! ## Runs that resume -/

def fixedBuiltins : Builtins :=
  { fixedRuntime with dumpLower := fun _ => "" }

/-- A registry with one lease of the run `run-0001`. -/
def leasedRegistry : Registry :=
  { fixedRegistry with
    revision := 1
    leases := [newLease fixedRegistry { fixedAcquire with workerId := "adwf-runtime:run-0001" }
      [⟨.source, "src", false, false⟩] 120] }

/-- A run of issue 1 on its branch, of a given status. -/
def durableRun (status : Status) : Journal where
  runId := "run-0001"
  roadmapId := "ORCH-1"
  issueId := "1"
  risk := "R1"
  workType := "feature"
  productImpact := false
  ownerRequestDigest := ""
  phase := .execute
  status := status
  cycle := 0
  subjectSha := .null
  previewDigest := .null
  ownerAcceptanceSha := .null
  deliverySha := .null
  pullRequestNumber := none
  previewAttestationId := none
  workBranch := some "adwf/one"
  policyHash := ""
  attempts := []
  maxAttempts := 3
  maxCycles := 100
  deadlineAt := .at minute
  lastFailedPhase := none
  blockers := []
  monetaryBudgetUsd := 0
  events := []
  eventHead := none
  revision := 0
  createdAt := .at 0
  updatedAt := .at 0

/-- A provider on which the lease, the issue and the branch agree with the run. -/
def agreeingProvider (checkpoint : Option Checkpoint) : Provider where
  connection := .injected "owner/name"
  defaultBranch := some "main"
  mainHead := some fixedSha
  issue := some ⟨"1", "open"⟩
  pull := none
  branchHead := some fixedSha
  registry := some leasedRegistry
  continuity := some (checkpoint.map some)
  checkRuns := none

def resumingAnswer : Answer where
  decision := .resumeExisting
  reason := "ACTIVE_LEASE_AND_PROVIDER_FACTS_MATCH"
  leaseId := some fixedAcquire.uuid

theorem resume_sound_running : ∃ context lease,
    compileProviderContext fixedBuiltins (fun _ => []) (durableRun .running) (agreeingProvider none)
      0 = .ok context ∧
    resumingAnswer.leaseId = some lease.leaseId ∧ ResumesOn (durableRun .running) context lease ∧
    (∀ checkpoint, context.checkpoint = some checkpoint → Agrees context lease checkpoint) ∧
    (durableRun .running).status ≠ .recovery ∧ (durableRun .running).status ≠ .complete :=
  resume_sound fixedBuiltins (fun _ => []) (durableRun .running) (agreeingProvider none) 0
    resumingAnswer (by decide +kernel) rfl

/-- A resume of an active run whose checkpoint, if any, states the lease and the
exact head. -/
def ResumesBound (builtins : Builtins) (validateCheckpoint : CheckpointCheck) (durable : Journal)
    (provider : Provider) (now : Int) : Prop :=
  ∀ answer, resumeOver builtins validateCheckpoint durable provider now = .ok answer →
    answer.decision = .resumeExisting →
    ∃ context lease,
      compileProviderContext builtins validateCheckpoint durable provider now = .ok context ∧
      ResumesOn durable context lease ∧
      (∀ checkpoint, context.checkpoint = some checkpoint →
        checkpoint.leaseIdentity = some lease.leaseId ∧
          checkpoint.observed.headSha = context.headSha) ∧
      durable.status.isActive = true

/-- A checkpoint of the run that leaves its lease and its head open. -/
def openCheckpoint : Checkpoint where
  projectIdentity := "owner/name"
  roadmapId := "ORCH-1"
  issueId := some "1"
  leaseIdentity := none
  observed := { mainSha := fixedSha, headSha := none, prNumber := none, branch := some "adwf/one" }
  boundaryType := "EXECUTOR_LIMIT"
  document := .null

/-- A run resumes with a checkpoint that states no lease and no head, and a
BLOCKED run resumes. -/
theorem not_resumesBound : ¬ ResumesBound fixedBuiltins (fun _ => []) (durableRun .running)
        (agreeingProvider (some openCheckpoint)) 0 ∧
      ¬ ResumesBound fixedBuiltins (fun _ => []) (durableRun .blocked) (agreeingProvider none) 0 := by
  constructor
  · intro bound
    obtain ⟨context, lease, compiled, _, checkpoint, _⟩ :=
      bound resumingAnswer (by decide +kernel) rfl
    have given : (compileProviderContext fixedBuiltins (fun _ => []) (durableRun .running)
        (agreeingProvider (some openCheckpoint)) 0).map Context.checkpoint =
        .ok (some openCheckpoint) := by decide +kernel
    rw [compiled] at given
    have stated := (checkpoint openCheckpoint (Except.ok.inj given)).1
    cases stated
  · intro bound
    obtain ⟨_, _, _, _, _, active⟩ := bound resumingAnswer (by decide +kernel) rfl
    cases active

end Adwf.Resume
