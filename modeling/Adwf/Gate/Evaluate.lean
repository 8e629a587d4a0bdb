import Adwf.Gate.Provider

/-!
# The two verdicts

`evaluate_trusted_gate` and the publication of what it finds.  The verdict of
governance starts as verified and the one of the gate as a list of reasons.
-/

namespace Adwf.Gate

open Trust

/-! ## The trust classification of a pull request -/

section Classification

variable (tools : Tools)

/-- `is_trust_sensitive_path`. -/
def isTrustSensitivePath (path : String) (patterns : List Json) : Except String Bool := do
  let normalized ← normalizeRepoPath path
  if normalized ∈ integrityProjections then return true
  else isProtectedPath normalized (patterns.map tools.rt.text)

/-- The two trees of a pull request. -/
structure Trees where
  baseSha : String
  headSha : String
  base : Files
  head : Files

/-- `A`, `D` or `M`. -/
def Trees.statusOf (trees : Trees) (path : String) : String :=
  if trees.base.lookup path = none then "A"
  else if trees.head.lookup path = none then "D"
  else "M"

/-- The text of a file, where it is needed. -/
def textIf (needed : Bool) (path sha : String) : GateM (Option String) :=
  if needed then do
    let text ← githubBlob tools path sha
    return some text
  else return none

/-- The record of a path that differs between the trees. -/
def diffRecord (trees : Trees) (patterns : List Json) (path : String) : GateM RawRecord := do
  let inspected ← .ofExcept (asValueError (isTrustSensitivePath tools path patterns))
  let status := trees.statusOf path
  let oldText ← textIf tools (inspected && status ≠ "A") path trees.baseSha
  let newText ← textIf tools (inspected && status ≠ "D") path trees.headSha
  return { path := path, status := status, oldPath := none, oldText := oldText, newText := newText }

/-- `_MAX_CHANGED_FILES`. -/
def maxChangedFiles : Nat :=
  3000

/-- The loop over the paths of both trees. -/
def collectRecords (trees : Trees) (patterns : List Json) (records : List RawRecord) :
    List String → GateM (List RawRecord)
  | [] => return records
  | path :: paths =>
      if trees.base.lookup path = trees.head.lookup path then
        collectRecords trees patterns records paths
      else do
        let record ← diffRecord tools trees patterns path
        .check ((records ++ [record]).length ≤ maxChangedFiles)
          (.valueError "PR_DIFF_INSPECTION_INVALID")
        collectRecords trees patterns (records ++ [record]) paths

/-- The trees of two commits, the second of which descends from the first. -/
def providerTrees (baseSha headSha : String) : GateM Trees := do
  let cache ← proveAncestor baseSha maxAncestryCommits [headSha] [] []
  let baseNode ← providerCommitNode baseSha cache
  let base ← providerTreeFiles baseNode.1.treeSha
  let headNode ← providerCommitNode headSha baseNode.2
  let head ← providerTreeFiles headNode.1.treeSha
  return ⟨baseSha, headSha, base, head⟩

/-- `_provider_diff_records`. -/
def providerDiffRecords (baseSha headSha : String) (patterns : List Json) :
    GateM (List RawRecord) := do
  let trees ← providerTrees baseSha headSha
  let records ← collectRecords tools trees patterns []
    (sortedSet (trees.base.map Prod.fst ++ trees.head.map Prod.fst))
  .check (records ≠ []) (.valueError "PR_DIFF_INSPECTION_INVALID")
  return records

/-- What `_provider_trust_classification` returns. -/
structure Classified where
  classification : Classification
  baseSha : String
  headSha : String
  currentBaseSha : String

/-- `base_current`. -/
def Classified.baseCurrent (classified : Classified) : Bool :=
  classified.currentBaseSha = classified.baseSha

/-- The exception whose text or name `classify_diff` ends with. -/
def raisedBy (error : String) : Raised :=
  if error = "TypeError" ∨ error = "AttributeError" then .other error else .valueError error

/-- `.adwf/policies/trust-boundary.json`. -/
def trustBoundaryPath : String :=
  ".adwf/policies/trust-boundary.json"

/-- The policy of the base with its patterns. -/
def basePolicy (value : Json) : Except Raised (Fields × List Json) :=
  match value with
  | .obj policy =>
      match Json.get policy "paths" with
      | .arr (first :: others) => .ok (policy, first :: others)
      | _ => valueError "BASE_TRUST_POLICY_INVALID"
  | _ => valueError "BASE_TRUST_POLICY_INVALID"

/-- `_provider_trust_classification`. -/
def providerTrustClassification (pr : Pull) : GateM Classified := do
  .check (1 ≤ pr.number.getD 0) (.valueError "PR_NUMBER_INVALID")
  let baseSha ← .ofExcept (exactSha pr.baseSha "PR_BASE_SHA_INVALID")
  let headSha ← .ofExcept (exactSha pr.headSha "PR_HEAD_SHA_INVALID")
  .check (pr.baseRef.getD "" ≠ "") (.valueError "PR_BASE_REF_INVALID")
  let text ← githubBlob tools trustBoundaryPath baseSha
  let value ← .ofExcept (tools.loads text)
  let policy ← .ofExcept (basePolicy value)
  let records ← providerDiffRecords tools baseSha headSha policy.2
  let classification ← .ofExcept
    ((classifyDiff tools.rt tools.texts (records.map .record) policy.1).mapError raisedBy)
  let current ← request (.ref (pr.baseRef.getD ""))
  let currentBaseSha ← .ofExcept (exactSha current "CURRENT_BASE_SHA_INVALID")
  return ⟨classification, baseSha, headSha, currentBaseSha⟩

/-- The classification, or `none` where it is not verified. -/
def tryClassification (pr : Pull) : GateM (Option Classified) :=
  (do
    let classified ← providerTrustClassification tools pr
    return some classified).handle fun error =>
      if error.isHandled then return none else .fail error

end Classification

/-- `collaborator_permission(login)` is `admin`. -/
def readsAdmin (login : String) : GateM Bool := do
  let permission ← request (.permission login)
  return decide ((permission.getD "").toLower = "admin")

/-- The login has the permission of an administrator; any exception counts as no. -/
def isAdmin (login : String) : GateM Bool :=
  (readsAdmin login).handle fun _ => return false

/-- The approvals of `_admin_exact_head_approval`. -/
def adminApproval (sha author : String) (found : Bool) : List Review → GateM Bool
  | [] => return found
  | review :: reviews =>
      let login := review.login.getD ""
      if (review.state.getD "").toUpper ≠ "APPROVED" ∨ review.commitId.getD "" ≠ sha ∨
          login = "" ∨ login = author then
        adminApproval sha author found reviews
      else do
        let admin ← isAdmin login
        adminApproval sha author (found || admin) reviews

/-- `_owner_exact_head_attestation`. -/
def ownerAttestation (tools : Tools) (pr : Pull) (sha : String) : GateM Bool :=
  if pr.author.getD "" = "" then return false
  else if tools.ownerAttestations (pr.body.getD "") ≠ [sha] then return false
  else isAdmin (pr.author.getD "")

/-- `_governance_authorization`: the mode, if there is one. -/
def governanceAuthorization (tools : Tools) (number : Int) (pr : Pull) (sha : String) :
    GateM (Option String) := do
  let reviews ← request (.pullReviews number)
  let approved ← adminApproval sha (pr.author.getD "") false reviews
  if approved then return some "ADMIN_REVIEW"
  else do
    let attested ← ownerAttestation tools pr sha
    return if attested then some "SOLO_MAINTAINER_OWNER_ATTESTATION" else none

/-! ## Capability live evidence -/

/-- The files whose change asks for certified evidence. -/
def guardedFiles : List String :=
  [".adwf/capability-live-evidence.json", ".adwf/capability-traceability.json",
    ".adwf/schemas/capability-live-evidence-certification.schema.json",
    ".adwf/lib/capability_live_evidence.py"]

/-- Whether the evidence is verified, and why not. -/
structure LiveEvidence where
  verified : Bool
  reasonCodes : List String := []
  deriving DecidableEq

/-- The loop over the certifications. -/
def certify (reasons : List String) : List Json → GateM (List String)
  | [] => return reasons
  | certificate :: others => do
      let result ← request (.certification certificate)
      if result.verified then certify reasons others
      else
        certify (reasons ++ if result.reasonCodes = [] then ["LIVE_CERT_PROVIDER_NOT_VERIFIED"]
          else result.reasonCodes) others

/-- The candidate registry and traceability with the schema of the base. -/
def readCandidate (tools : Tools) (sha baseSha : String) : GateM (Json × Json × Json) := do
  let registryText ← githubBlob tools ".adwf/capability-live-evidence.json" sha
  let registry ← .ofExcept (tools.loads registryText)
  let traceText ← githubBlob tools ".adwf/capability-traceability.json" sha
  let trace ← .ofExcept (tools.loads traceText)
  let schemaText ← githubBlob tools
    ".adwf/schemas/capability-live-evidence-certification.schema.json" baseSha
  let schema ← .ofExcept (tools.loads schemaText)
  return (registry, trace, schema)

/-- The candidate, or `none` where it cannot be read. -/
def tryCandidate (tools : Tools) (sha baseSha : String) : GateM (Option (Json × Json × Json)) :=
  (do
    let candidate ← readCandidate tools sha baseSha
    return some candidate).handle fun error =>
      if error.isHandled then return none else .fail error

/-- The certified evidence of a change that needs it. -/
def certifiedEvidence (tools : Tools) (pr : Pull) (sha : String) : GateM LiveEvidence := do
  let baseSha ← .ofExcept (exactSha pr.baseSha "LIVE_CERT_BASE_SHA_INVALID")
  match ← tryCandidate tools sha baseSha with
  | none => return ⟨false, ["LIVE_CERT_CANDIDATE_READBACK_FAILED"]⟩
  | some (registry, trace, schema) => do
      let reasons ← .ofExcept (tools.certificationErrors registry trace schema)
      if reasons ≠ [] then return ⟨false, reasons.eraseDups⟩
      else do
        let certificates ← .ofExcept (tools.certifications registry)
        let found ← certify [] certificates
        return ⟨found = [], found.eraseDups⟩

/-- `_capability_live_evidence_provider_gate`. -/
def liveEvidenceGate (tools : Tools) (pr : Pull) (sha : String) (changedPaths : Option (List String)) :
    GateM LiveEvidence :=
  if pr.number.getD 0 < 1 then return ⟨false, ["LIVE_CERT_PR_NUMBER_INVALID"]⟩
  else
    match changedPaths with
    | none => return ⟨false, ["LIVE_CERT_DIFF_NOT_VERIFIED"]⟩
    | some paths =>
        match paths.mapM normalizeRepoPath with
        | .error _ => return ⟨false, ["LIVE_CERT_DIFF_PATH_INVALID"]⟩
        | .ok names =>
            if names.any guardedFiles.contains then certifiedEvidence tools pr sha
            else return ⟨true, []⟩

/-! ## The evaluation -/

/-- `governance`, as far as the publication reads it. -/
structure Governance where
  required : Bool
  verified : Bool
  reasonCodes : List String := []
  approval : Option String := none
  deriving DecidableEq

/-- `[text] if condition else []`. -/
def reasonUnless (condition : Bool) (text : String) : List String :=
  if condition then [] else [text]

/-- The facts about the workflow run that are no reason to block. -/
def runReasons (live : WorkflowRun) (sha : String) : List String :=
  reasonUnless (live.headSha = some sha) "RUN_HEAD_SHA_MISMATCH" ++
    reasonUnless (live.name = some "ADWF PR") "UNEXPECTED_WORKFLOW" ++
    reasonUnless (live.event = some "pull_request") "UNTRUSTED_EVENT_SOURCE" ++
    reasonUnless (live.status = some "completed" && live.conclusion = some "success")
      "FAST_FEEDBACK_NOT_PASS"

/-- A check run that attests the fast feedback of the SHA. -/
def attestsFastFeedback (sha : String) (check : CheckRun) : Bool :=
  check.name = some "fast-feedback" && check.headSha = some sha &&
    check.status = some "completed" && check.conclusion = some "success" &&
    check.appSlug = some "github-actions"

/-- `_pull_number_for_sha`. -/
def pullNumberForSha (live : WorkflowRun) (sha : String) : GateM (Option Int) :=
  match live.pullRequests with
  | [some number] => return some number
  | _ => do
      let pulls ← request .pulls
      match (pulls.filter fun pr => pr.headSha.getD "" = sha).filterMap Pull.number with
      | [number] => return some number
      | _ => return none

/-- The branches of the governance verdict. -/
inductive Route where
  | notRequired | unverified | baseDrift | policyBlock | standing | human | unreserved
  deriving DecidableEq

/-- The protected files of a classification. -/
def protectedFiles (classification : Classification) : List String :=
  (classification.details.map ClassificationDetails.protectedFiles).getD []

/-- The branch that a classification leads to. -/
def route : Option Classified → Route
  | none => .unverified
  | some classified =>
      if protectedFiles classified.classification = [] ∧
          classified.classification.result ≠ .block then .notRequired
      else if classified.baseCurrent = false then .baseDrift
      else if classified.classification.result = .block then .policyBlock
      else if classified.classification.details.map ClassificationDetails.authorizationMode =
          some .standingOwnerPolicy then .standing
      else if classified.classification.details.map ClassificationDetails.humanRequired = some true
        then .human
      else .unreserved

/-- The governance verdict and the reasons it adds to the gate. -/
def governanceOf (tools : Tools) (number : Int) (pr : Pull) (sha : String)
    (classified : Option Classified) : GateM (Governance × List String) :=
  match route classified with
  | .notRequired => return (⟨false, true, [], none⟩, [])
  | .unverified =>
      return (⟨true, false, ["GOVERNANCE_TRUST_CLASSIFICATION_NOT_VERIFIED"], none⟩,
        ["TRUST_BOUNDARY_CLASSIFICATION_NOT_VERIFIED"])
  | .baseDrift =>
      return (⟨true, false, ["GOVERNANCE_BASE_DRIFT_REQUIRES_REBASE"], none⟩,
        ["TRUST_POLICY_BASE_DRIFT"])
  | .policyBlock =>
      return (⟨true, false, ["GOVERNANCE_POLICY_BLOCK"], none⟩, ["TRUST_BOUNDARY_POLICY_BLOCK"])
  | .standing => return (⟨true, true, [], some "STANDING_OWNER_POLICY"⟩, [])
  | .human => do
      let mode ← governanceAuthorization tools number pr sha
      match mode with
      | some mode => return (⟨true, true, [], some mode⟩, [])
      | none =>
          return (⟨true, false, ["GOVERNANCE_EXACT_HEAD_HUMAN_ATTESTATION_REQUIRED"], none⟩,
            ["TRUST_BOUNDARY_CHANGE_NOT_AUTHORIZED"])
  | .unreserved => return (⟨true, true, [], none⟩, [])

/-- What `evaluate_trusted_gate` returns. -/
structure Evaluation where
  sha : String
  reasons : List String
  governance : Governance
  deriving DecidableEq

/-- The verdict about the pull request: governance, and the reasons it adds. -/
def evaluatePull (tools : Tools) (number : Int) (sha : String) : GateM (Governance × List String) := do
  let pr ← request (.pull number)
  let classified ← tryClassification tools pr
  let governance ← governanceOf tools number pr sha classified
  let evidence ← liveEvidenceGate tools pr sha
    (classified.map fun classified => classified.classification.changedFiles)
  let evidenceReasons := if evidence.verified then [] else
    "CAPABILITY_LIVE_EVIDENCE_PROVIDER_NOT_VERIFIED" :: evidence.reasonCodes
  return (governance.1, reasonUnless (pr.headSha.getD "" = sha) "PR_HEAD_MOVED" ++
    governance.2 ++ evidenceReasons)

/-- `evaluate_trusted_gate`. -/
def evaluateTrustedGate (tools : Tools) (workflowRun : WorkflowRun) : GateM Evaluation :=
  let sha := workflowRun.headSha.getD ""
  match workflowRun.id with
  | none => return ⟨sha, ["INVALID_WORKFLOW_RUN_IDENTITY"],
      ⟨false, false, ["INVALID_WORKFLOW_RUN_IDENTITY"], none⟩⟩
  | some runId =>
      if runId = 0 ∨ Text.isSha40 sha = false then
        return ⟨sha, ["INVALID_WORKFLOW_RUN_IDENTITY"],
          ⟨false, false, ["INVALID_WORKFLOW_RUN_IDENTITY"], none⟩⟩
      else do
        let live ← request (.run runId)
        let number ← pullNumberForSha live sha
        let checks ← request (.checkRuns sha)
        let early := runReasons live sha ++
          reasonUnless number.isSome "PR_READBACK_MISSING" ++
          reasonUnless (checks.any (attestsFastFeedback sha))
            "FAST_FEEDBACK_PROVIDER_ATTESTATION_MISSING"
        match number with
        -- Nothing is read about the pull request, and the initial verdict stands.
        | none => return ⟨sha, early.eraseDups, ⟨false, true, [], none⟩⟩
        | some number => do
            let pull ← evaluatePull tools number sha
            return ⟨sha, (early ++ pull.2).eraseDups, pull.1⟩

/-- `_publish`. -/
def publish (context : Context) (sha : String) (passed : Bool) : GateM Unit := do
  let conclusion : Conclusion := if passed then .success else .failure
  request (.status sha context .failure)
  request (.checkRun sha context conclusion)
  request (.status sha context conclusion)

/-- An event, as far as it is read; `workflowRun` is missing where it is empty. -/
structure Trigger where
  workflowRun : Option WorkflowRun := none
  pullHeadSha : Option String := none
  pullNumber : Option Int := none
  number : Option Int := none
  deriving DecidableEq

/-- The run belongs to the pull request, as far as either names one. -/
def concerns (number : Int) (run : WorkflowRun) : Bool :=
  number = 0 || run.pullRequests = [] || run.pullRequests.contains (some number)

/-- `workflow_run_from_event`. -/
def workflowRunFromEvent (event : Trigger) : GateM WorkflowRun :=
  match event.workflowRun with
  | some run => return run
  | none =>
      let sha := event.pullHeadSha.getD ""
      let number := if event.pullNumber.getD 0 = 0 then event.number.getD 0
        else event.pullNumber.getD 0
      if Text.isSha40 sha = false then return {}
      else do
        let runs ← request .runs
        return (runs.find? fun run =>
          run.name = some "ADWF PR" && run.event = some "pull_request" &&
            run.headSha = some sha && concerns number run &&
            run.status = some "completed" && run.conclusion = some "success").getD {}

/-- `main` with its environment and event in order; the exit code. -/
def main (tools : Tools) (event : Trigger) : GateM Nat := do
  let workflowRun ← workflowRunFromEvent event
  let result ← evaluateTrustedGate tools workflowRun
  if Text.isSha40 result.sha = false then return 2
  else do
    publish .governanceGate result.sha result.governance.verified
    publish .trustedGate result.sha (result.reasons = [])
    return if result.reasons = [] then 0 else 1

end Adwf.Gate
