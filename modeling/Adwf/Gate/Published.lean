import Adwf.Gate.Verdicts

/-!
# What is published

The evaluation only reads, and the two publications that follow it carry its
verdicts.
-/

namespace Adwf.Gate

open Trust Program

/-- The call publishes nothing. -/
def IsRead : Call → Prop
  | .status _ _ _ => False
  | .checkRun _ _ _ => False
  | _ => True

/-- The call publishes a success of the context on the SHA. -/
def Publishes (context : Context) (sha : String) : Call → Prop
  | .status head name state => head = sha ∧ name = context ∧ state = .success
  | .checkRun head name conclusion => head = sha ∧ name = context ∧ conclusion = .success
  | _ => False

theorem not_publishes_of_isRead {context : Context} {sha : String} {call : Call}
    (read : IsRead call) : ¬Publishes context sha call := by
  cases call <;> simp_all [IsRead, Publishes]

/-! ## The evaluation only reads -/

section Reads

-- What a call asks for is never computed here.
attribute [local irreducible] normalizeRepoPath exactSha blobText commitNode treeFiles

variable {tools : Tools}

theorem only_request {call : Call} {allowed : Call → Prop} (holds : allowed call) :
    (request call).Only allowed :=
  ⟨holds, fun answer => Only.ofExcept answer⟩

theorem only_done {α : Type} {value : α} {allowed : Call → Prop} :
    (pure value : GateM α).Only allowed :=
  trivial

variable {path sha baseSha : String} {patterns : List Json} {pr : Pull} {number : Int}

theorem reads_githubBlob : (githubBlob tools path sha).Only IsRead :=
  (Only.ofExcept _).bind fun _ => (Only.ofExcept _).bind fun _ =>
    (only_request trivial).bind fun _ => Only.ofExcept _

theorem reads_providerCommitNode {cache : Cache} : (providerCommitNode sha cache).Only IsRead := by
  refine Only.bind (Only.ofExcept _) fun commitSha => ?_
  split
  · exact trivial
  · exact (only_request trivial).bind fun _ => (Only.ofExcept _).bind fun _ => trivial

theorem reads_proveAncestor {base : String} {room : Nat} {pending seen : List String}
    {cache : Cache} : (proveAncestor base room pending seen cache).Only IsRead := by
  induction room generalizing pending seen cache with
  | zero =>
      unfold proveAncestor
      split
      · exact trivial
      · split_ifs
        · exact Only.bind reads_providerCommitNode fun _ => trivial
        · exact trivial
  | succ room ih =>
      unfold proveAncestor
      split
      · exact trivial
      · split_ifs
        · exact Only.bind reads_providerCommitNode fun _ => trivial
        · exact Only.bind reads_providerCommitNode fun _ => ih

theorem reads_providerTreeFiles {treeSha : String} : (providerTreeFiles treeSha).Only IsRead :=
  (Only.ofExcept _).bind fun _ => (only_request trivial).bind fun _ => Only.ofExcept _

theorem reads_providerTrees {headSha : String} : (providerTrees baseSha headSha).Only IsRead :=
  reads_proveAncestor.bind fun _ => reads_providerCommitNode.bind fun _ =>
    reads_providerTreeFiles.bind fun _ => reads_providerCommitNode.bind fun _ =>
      reads_providerTreeFiles.bind fun _ => trivial

theorem reads_textIf {needed : Bool} : (textIf tools needed path sha).Only IsRead := by
  unfold textIf
  split_ifs
  · exact Only.bind reads_githubBlob fun _ => trivial
  · exact trivial

theorem reads_diffRecord {trees : Trees} : (diffRecord tools trees patterns path).Only IsRead := by
  refine Only.bind (Only.ofExcept _) fun _ => ?_
  refine Only.bind reads_textIf fun _ => ?_
  refine Only.bind reads_textIf fun _ => ?_
  exact trivial

theorem reads_collectRecords {trees : Trees} {records : List RawRecord}
    {paths : List String} : (collectRecords tools trees patterns records paths).Only IsRead := by
  induction paths generalizing records with
  | nil => exact trivial
  | cons path paths ih =>
      unfold collectRecords
      split_ifs
      · exact ih
      · exact Only.bind reads_diffRecord fun _ => Only.check.bind fun _ => ih

theorem reads_providerDiffRecords {headSha : String} :
    (providerDiffRecords tools baseSha headSha patterns).Only IsRead := by
  refine Only.bind reads_providerTrees fun _ => ?_
  refine Only.bind reads_collectRecords fun _ => ?_
  refine Only.bind Only.check fun _ => ?_
  exact trivial

theorem reads_providerTrustClassification : (providerTrustClassification tools pr).Only IsRead := by
  refine Only.bind Only.check fun _ => ?_
  refine Only.bind (Only.ofExcept _) fun _ => ?_
  refine Only.bind (Only.ofExcept _) fun _ => ?_
  refine Only.bind Only.check fun _ => ?_
  refine Only.bind reads_githubBlob fun _ => ?_
  refine Only.bind (Only.ofExcept _) fun _ => ?_
  refine Only.bind (Only.ofExcept _) fun _ => ?_
  refine Only.bind reads_providerDiffRecords fun _ => ?_
  refine Only.bind (Only.ofExcept _) fun _ => ?_
  refine Only.bind (only_request trivial) fun _ => ?_
  refine Only.bind (Only.ofExcept _) fun _ => ?_
  exact only_done

theorem reads_handled {α : Type} {body : GateM α} {value : α} (reads : body.Only IsRead) :
    (body.handle fun error => if error.isHandled then .done value else .fail error).Only IsRead := by
  refine reads.handle fun error => ?_
  split_ifs
  · exact trivial
  · exact trivial

theorem reads_isAdmin {login : String} : (isAdmin login).Only IsRead := by
  refine Only.handle ?_ fun _ => trivial
  refine Only.bind (only_request trivial) fun _ => ?_
  exact trivial

theorem reads_adminApproval {author : String} {found : Bool} {reviews : List Review} :
    (adminApproval sha author found reviews).Only IsRead := by
  induction reviews generalizing found with
  | nil => exact trivial
  | cons review reviews ih =>
      simp only [adminApproval]
      split_ifs
      · exact ih
      · exact Only.bind reads_isAdmin fun _ => ih

theorem reads_governanceAuthorization :
    (governanceAuthorization tools number pr sha).Only IsRead := by
  refine Only.bind (only_request trivial) fun _ => reads_adminApproval.bind fun _ => ?_
  split_ifs
  · exact trivial
  · refine Only.bind ?_ fun _ => trivial
    unfold ownerAttestation
    split_ifs
    · exact trivial
    · exact trivial
    · exact reads_isAdmin

theorem reads_certify {reasons : List String} {certificates : List Json} :
    (certify reasons certificates).Only IsRead := by
  induction certificates generalizing reasons with
  | nil => exact trivial
  | cons certificate certificates ih =>
      refine Only.bind (only_request trivial) fun _ => ?_
      split_ifs
      · exact ih
      · exact ih
      · exact ih

theorem reads_readCandidate : (readCandidate tools sha baseSha).Only IsRead := by
  unfold readCandidate
  refine Only.bind reads_githubBlob fun _ => ?_
  refine Only.bind (Only.ofExcept _) fun _ => ?_
  refine Only.bind reads_githubBlob fun _ => ?_
  refine Only.bind (Only.ofExcept _) fun _ => ?_
  refine Only.bind reads_githubBlob fun _ => ?_
  refine Only.bind (Only.ofExcept _) fun _ => ?_
  exact only_done

theorem reads_tryCandidate : (tryCandidate tools sha baseSha).Only IsRead :=
  reads_handled (reads_readCandidate.bind fun _ => trivial)

theorem reads_certifiedEvidence : (certifiedEvidence tools pr sha).Only IsRead := by
  refine Only.bind (Only.ofExcept _) fun _ => ?_
  refine Only.bind reads_tryCandidate fun read => ?_
  split
  · exact trivial
  · refine Only.bind (Only.ofExcept _) fun _ => ?_
    split_ifs
    · exact trivial
    · refine Only.bind (Only.ofExcept _) fun _ => ?_
      refine Only.bind reads_certify fun _ => ?_
      exact trivial

theorem reads_liveEvidenceGate {changedPaths : Option (List String)} :
    (liveEvidenceGate tools pr sha changedPaths).Only IsRead := by
  unfold liveEvidenceGate
  split_ifs
  · exact trivial
  · split
    · exact trivial
    · split
      · exact trivial
      · split_ifs
        · exact reads_certifiedEvidence
        · exact trivial

theorem reads_governanceOf
    {classified : Option Classified} : (governanceOf tools number pr sha classified).Only IsRead := by
  unfold governanceOf
  split
  · exact trivial
  · exact trivial
  · exact trivial
  · exact trivial
  · exact trivial
  · refine Only.bind reads_governanceAuthorization fun mode => ?_
    cases mode <;> exact trivial
  · exact trivial

theorem reads_tryClassification : (tryClassification tools pr).Only IsRead :=
  reads_handled (reads_providerTrustClassification.bind fun _ => trivial)

theorem reads_evaluatePull : (evaluatePull tools number sha).Only IsRead := by
  refine Only.bind (only_request trivial) fun _ => ?_
  refine Only.bind reads_tryClassification fun _ => ?_
  refine Only.bind reads_governanceOf fun _ => ?_
  refine Only.bind reads_liveEvidenceGate fun _ => ?_
  exact trivial

theorem reads_pullNumberForSha {live : WorkflowRun} : (pullNumberForSha live sha).Only IsRead := by
  unfold pullNumberForSha
  split
  · exact trivial
  · refine Only.bind (only_request trivial) fun pulls => ?_
    split
    · exact trivial
    · exact trivial

theorem reads_evaluateTrustedGate {workflowRun : WorkflowRun} :
    (evaluateTrustedGate tools workflowRun).Only IsRead := by
  unfold evaluateTrustedGate
  dsimp only
  split
  · exact trivial
  · split_ifs
    · exact trivial
    · refine Only.bind (only_request trivial) fun live => reads_pullNumberForSha.bind fun number =>
        (only_request trivial).bind fun checks => ?_
      split
      · exact trivial
      · exact Only.bind reads_evaluatePull fun _ => trivial

theorem reads_workflowRunFromEvent {event : Trigger} : (workflowRunFromEvent event).Only IsRead := by
  unfold workflowRunFromEvent
  split
  · exact trivial
  · by_cases named : Text.isSha40 (event.pullHeadSha.getD "") = false
    · rw [if_pos named]
      exact trivial
    · rw [if_neg named]
      refine Only.bind (only_request trivial) fun _ => ?_
      exact trivial

end Reads

/-! ## The publications -/

theorem only_publish {context : Context} {sha : String} {passed : Bool} :
    (publish context sha passed).Only fun call => ∀ name head, Publishes name head call →
      name = context ∧ head = sha ∧ passed = true := by
  have passes {head : String} {name : Context}
      (published : sha = head ∧ context = name ∧
        (if passed then Conclusion.success else .failure) = .success) :
      name = context ∧ head = sha ∧ passed = true := by
    obtain ⟨sameHead, sameName, succeeded⟩ := published
    refine ⟨sameName.symm, sameHead.symm, ?_⟩
    by_contra failed
    rw [if_neg failed] at succeeded
    cases succeeded
  refine (only_request ?_).bind fun _ => (only_request ?_).bind fun _ => only_request ?_
  · rintro name head ⟨_, _, failed⟩
    cases failed
  · exact fun name head published => passes published
  · exact fun name head published => passes published

section Main

variable {tools : Tools}

/-- Every success that is published is earned. -/
def Earned (saw : Event → Prop) (tools : Tools) (call : Call) : Prop :=
  ∀ sha, (Publishes .trustedGate sha call → GateEarned saw tools sha) ∧
    (Publishes .governanceGate sha call → Settled saw sha → GovernanceEarned saw tools sha)

theorem earned_of_isRead {saw : Event → Prop} {call : Call} (read : IsRead call) :
    Earned saw tools call :=
  fun _ => ⟨fun published => absurd published (not_publishes_of_isRead read),
    fun published => absurd published (not_publishes_of_isRead read)⟩

theorem guards_publish {saw : Event → Prop} {context : Context} {sha : String} {passed : Bool}
    (trusted : context = .trustedGate → passed = true → GateEarned saw tools sha)
    (governance : context = .governanceGate → passed = true → Settled saw sha →
      GovernanceEarned saw tools sha) :
    Guards saw (publish context sha passed) (Earned saw tools) := by
  refine Guards.of_only (only_publish.mono fun call published head => ⟨fun now => ?_, fun now => ?_⟩)
  · obtain ⟨named, rfl, isPassed⟩ := published _ _ now
    exact trusted named.symm isPassed
  · obtain ⟨named, rfl, isPassed⟩ := published _ _ now
    exact governance named.symm isPassed

theorem guards_main (saw : Event → Prop) (event : Trigger) :
    Guards saw (main tools event) (Earned saw tools) := by
  have reads {α : Type} {program : GateM α} (only : program.Only IsRead) :
      Guards saw program (Earned saw tools) :=
    Guards.of_only (only.mono fun call => earned_of_isRead)
  refine Guards.bind (reads reads_workflowRunFromEvent) Learns.anything fun workflowRun _ => ?_
  refine Guards.bind (reads reads_evaluateTrustedGate) (learns_evaluateTrustedGate workflowRun) ?_
  rintro evaluation ⟨trusted, governance⟩
  by_cases invalid : Text.isSha40 evaluation.sha = false
  · rw [if_pos invalid]
    exact Guards.of_only trivial
  · rw [if_neg invalid]
    refine Guards.bind (guards_publish (fun named => by cases named) fun _ => governance)
      Learns.anything fun _ _ => ?_
    refine Guards.bind (guards_publish (fun _ passed => trusted (of_decide_eq_true passed))
      fun named => by cases named) Learns.anything fun _ _ => ?_
    exact Guards.of_only trivial

end Main

/-! ## A run without a pull request -/

/-- Tools for a run that reads no text. -/
def sampleTools : Tools where
  rt := ⟨fun _ => "", fun _ => none, fun _ => none, fun _ => ""⟩
  texts := ⟨fun _ => .malformed, id⟩
  loads _ := valueError "JSON_INVALID"
  decodeBase64 _ := none
  ownerAttestations _ := []
  certificationErrors _ _ _ := .ok []
  certifications _ := .ok []

def sampleSha : String :=
  "4b825dc642cb6eb9a060e54bf8d69288fbee4904"

def sampleEvent : Trigger :=
  { workflowRun := some { id := some 7, headSha := some sampleSha } }

/-- A provider whose run names no pull request, and where none is open. -/
def unresolved : (call : Call) → Answer call
  | .run _ => .ok { id := some 7, headSha := some sampleSha }
  | .pulls => .ok []
  | .checkRuns _ => .ok []
  | .status _ _ _ => .ok ()
  | .checkRun _ _ _ => .ok ()
  | _ => .error .timeoutError

/-- The calls of the run: three reads, then a success of governance and a failure of the gate. -/
def unresolvedRun : List Event :=
  [.run 7, .pulls, .checkRuns sampleSha,
    .status sampleSha .governanceGate .failure, .checkRun sampleSha .governanceGate .success,
    .status sampleSha .governanceGate .success,
    .status sampleSha .trustedGate .failure, .checkRun sampleSha .trustedGate .failure,
    .status sampleSha .trustedGate .failure].map fun call => ⟨call, unresolved call⟩

theorem trace_unresolvedRun : Trace (main sampleTools sampleEvent) unresolvedRun (.done 1) :=
  trace_replay unresolved (main sampleTools sampleEvent)

theorem unresolved_published :
    ⟨.status sampleSha .governanceGate .success, .ok ()⟩ ∈ unresolvedRun :=
  List.mem_map.mpr ⟨.status sampleSha .governanceGate .success, by simp, rfl⟩

/-- No pull request was read. -/
theorem unresolved_unearned : ¬GovernanceEarned (· ∈ unresolvedRun) sampleTools sampleSha := by
  rintro ⟨number, pr, _, _, _, governed⟩
  have read := governed.read
  simp [unresolvedRun] at read

end Adwf.Gate
