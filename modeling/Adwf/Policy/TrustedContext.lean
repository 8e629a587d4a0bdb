import Adwf.Policy.Permission
import Adwf.Trust.Classify

/-!
# The trusted context

`compile_trusted_context` takes identifiers from its caller and facts from the
effective policy, the assurance snapshot and the provider readback.
-/

namespace Adwf.Policy

open Fallible
open Trust (reasonIf sortedSet reasonIf_ne_nil_iff reasonIf_eq_nil_iff eraseDups_eq_nil_iff)

/-- A parsed timestamp; `isAware` when it names its time zone. -/
structure Moment where
  isAware : Bool
  instant : Int
  deriving DecidableEq

/-- The library functions the compiler uses. -/
structure ContextTools where
  rt : Runtime
  /-- `datetime.fromisoformat` with `+00:00` for `Z`. -/
  readMoment : String → Option Moment

/-! ## The assurance snapshot -/

/-- `snapshot_digest`. -/
def snapshotDigest (tools : ContextTools) (snapshot : Fields) : String :=
  tools.rt.digest (.obj (snapshot.filter fun field => field.1 ≠ "snapshot_digest"))

def isObject : Json → Bool
  | .obj _ => true
  | _ => false

/-- The errors about a text that has to match a pattern and a value. -/
def bindingErrors (valid : String → Bool) (invalid mismatch : String) (expected value : Json) :
    List String :=
  match value with
  | .str text =>
      if valid text = false then [invalid]
      else reasonIf (expected ≠ .null ∧ expected ≠ .str text) mismatch
  | _ => [invalid]

/-- The errors about the times of a snapshot; a time without a zone cannot be compared. -/
def timeErrors (tools : ContextTools) (snapshot : Fields) (now : Int) :
    Except String (List String) :=
  let read (name : String) : Option Moment :=
    tools.readMoment (tools.rt.text ((snapshot.lookup name).getD (.str "")))
  match read "verified_at", read "expires_at" with
  | some verified, some expires =>
      let invalid := reasonIf (verified.isAware = false ∨ expires.isAware = false ∨
        expires.instant ≤ verified.instant) "ASSURANCE_TIME_INVALID"
      if expires.isAware then
        .ok (invalid ++ reasonIf (expires.instant ≤ now) "ASSURANCE_STALE")
      else .error "TypeError"
  | _, _ => .ok ["ASSURANCE_TIME_INVALID"]

/-- `validate_assurance_snapshot`. -/
def validateAssuranceSnapshot (tools : ContextTools) (now : Int) (expectedSha : Json)
    (expectedPolicyHash : Json) : Json → Except String (List String)
  | .obj snapshot => do
      let get := Json.get snapshot
      let ofTimes ← timeErrors tools snapshot now
      return (reasonIf (get "schema_version" ≠ .num 1) "ASSURANCE_SCHEMA_VERSION" ++
        bindingErrors Text.isSha40 "ASSURANCE_SHA_INVALID" "ASSURANCE_SHA_MISMATCH" expectedSha
          (get "subject_sha") ++
        bindingErrors Text.isSha256 "ASSURANCE_POLICY_HASH_INVALID" "ASSURANCE_POLICY_HASH_MISMATCH"
          expectedPolicyHash (get "policy_hash") ++
        reasonIf (isObject (get "health") = false) "ASSURANCE_HEALTH_INVALID" ++
        reasonIf (isObject (get "gates") = false) "ASSURANCE_GATES_INVALID" ++
        reasonIf (isObject (get "cost") = false) "ASSURANCE_COST_INVALID" ++
        reasonIf (isObject (get "evidence") = false) "ASSURANCE_EVIDENCE_INVALID" ++
        reasonIf (isObject (get "provider") = false) "ASSURANCE_PROVIDER_INVALID" ++
        reasonIf (get "snapshot_digest" ≠ .str (snapshotDigest tools snapshot))
          "ASSURANCE_DIGEST_INVALID" ++ ofTimes).eraseDups
  | _ => .ok ["ASSURANCE_NOT_OBJECT"]

/-- The members of an object, and none of anything else. -/
def membersOf : Json → Fields
  | .obj fields => fields
  | _ => []

/-- The digest that `policy_hash` has to be. -/
def policyDigest (tools : ContextTools) (policy : Fields) : String :=
  tools.rt.digest (.obj (policy.filter fun field => field.1 ≠ "policy_hash"))

/-- `verify_policy_ir`. -/
def verifyPolicyIr (tools : ContextTools) : Json → List String
  | .obj policy =>
      let actual := Json.get policy "policy_hash"
      reasonIf (actual.textSatisfies (fun text => text.toList.length = 64) = false)
          "POLICY_HASH_INVALID" ++
        reasonIf (actual ≠ .str (policyDigest tools policy)) "POLICY_HASH_MISMATCH" ++
        reasonIf (Json.get policy "schema_version" ≠ .num 2) "POLICY_SCHEMA_VERSION_INVALID" ++
        reasonIf (isObject (Json.get policy "rules") = false) "POLICY_RULES_MISSING"
  | _ => ["POLICY_IR_NOT_OBJECT"]

/-- `load_effective_policy`; `file` is the parsed policy file or the class of the exception. -/
def loadEffectivePolicy (tools : ContextTools) (file : Except String Json) :
    Except String Fields := do
  let policy ← file.mapError ("POLICY_IR_UNREADABLE:" ++ ·)
  let findings := verifyPolicyIr tools policy
  require (findings = []) ("POLICY_IR_INVALID:" ++ ",".intercalate findings)
  return membersOf policy

/-! ## The compiler -/

/-- The `DecisionContext` that is compiled; its mappings are those of the snapshot. -/
structure TrustedContext where
  action : String
  autonomy : String
  risk : String
  maxAutonomousRisk : String
  workType : String
  health : Fields
  gates : Fields
  requiredGates : List Json
  exactSha : Bool := true
  evidenceFresh : Bool
  humanApproved : Bool
  destructive : Bool := false
  trustChange : Bool := false
  writerConflict : Bool := false
  providerAllowed : Bool := true
  providerPotentiallyPaid : Bool := false
  projectedCost : Rat := 0
  expectedPolicyHash : Json
  providerFactsFresh : Bool := true
  ownerAcceptanceExact : Bool
  deriving DecidableEq

/-- What the caller of the compiler names: the action with its risk and work type. -/
structure Asked where
  action : String
  risk : String
  workType : String

/-- `ALLOWED_REQUEST_FIELDS`. -/
def allowedRequestFields : List String :=
  ["request_id", "subject_sha", "preview_digest"]

def runnerActions : List String :=
  ["test", "review", "verify", "owner_accept", "merge", "promote", "observe", "close_issue"]

/-- `value in names` for a set of texts. -/
def inNames (names : List String) : Json → Except String Bool
  | .arr _ | .obj _ => .error "TypeError"
  | .str text => .ok (names.contains text)
  | _ => .ok false

/-- `owner_exact`. -/
def ownerExact (owner : Fields) (subjectSha : String)
    (previewDigest snapshotHash policyHash : Json) : Bool :=
  Json.get owner "readback_verified" = .bool true &&
    Json.get owner "decision" = .str "ACCEPTED" &&
    Json.get owner "head_sha" = .str subjectSha &&
    Json.get owner "preview_digest" = previewDigest &&
    snapshotHash = policyHash

/-- `str(request.get("subject_sha") or "")`. -/
def subjectOf (tools : ContextTools) (request : Fields) : String :=
  let subject := Json.get request "subject_sha"
  if subject.truthy then tools.rt.text subject else ""

/-- The context of a policy and a snapshot; the owner's approval is the only fact apart. -/
def contextOf (tools : ContextTools) (policy : Fields) (asked : Asked) (snapshot : Fields)
    (requiredGates : List Json) (policyHash : Json) (approved : Bool) : TrustedContext where
  action := asked.action
  autonomy := tools.rt.text (Json.get policy "active_autonomy")
  risk := asked.risk
  maxAutonomousRisk := tools.rt.text (Json.get policy "max_autonomous_risk")
  workType := asked.workType
  health := membersOf (Json.get snapshot "health")
  gates := membersOf (Json.get snapshot "gates")
  requiredGates
  evidenceFresh := Json.get (membersOf (Json.get snapshot "evidence")) "refs_resolved" = .bool true
  humanApproved := approved
  expectedPolicyHash := policyHash
  ownerAcceptanceExact := approved

/-- `compile_trusted_context`; the policy file is given as `loadEffectivePolicy` takes it. -/
def compileTrustedContext (tools : ContextTools) (now : Int) (policyFile : Except String Json)
    (asked : Asked) (request : Fields) (assuranceSnapshot : Json) (providerReadback : Fields) :
    Except String TrustedContext := do
  let unknown := (request.map Prod.fst).filter fun name => !allowedRequestFields.contains name
  require (unknown = []) ("CALLER_POSITIVE_FACTS_FORBIDDEN:" ++
    ",".intercalate (sortedSet unknown))
  let subjectSha := subjectOf tools request
  require (Text.isSha40 subjectSha = true) "TRUSTED_CONTEXT_SHA_REQUIRED"
  let policy ← loadEffectivePolicy tools policyFile
  let policyHash ← (policy.lookup "policy_hash").elim (.error "KeyError") .ok
  let errors ← validateAssuranceSnapshot tools now (.str subjectSha) policyHash assuranceSnapshot
  require (errors = []) ("ASSURANCE_INVALID:" ++ ",".intercalate errors)
  let provider := Json.get providerReadback
  require (provider "subject_sha" = .str subjectSha) "PROVIDER_READBACK_SHA_MISMATCH"
  require (provider "facts_readback_verified" = .bool true) "PROVIDER_FACTS_READBACK_NOT_VERIFIED"
  require (provider "repository_visibility" = .str "PUBLIC")
    "PUBLIC_PROFILE_VISIBILITY_NOT_VERIFIED"
  require (asked.action ∈ runnerActions → provider "runner" = .str "ubuntu-24.04")
    "STANDARD_RUNNER_NOT_VERIFIED"
  require (provider "larger_runner" ≠ .bool true) "LARGER_RUNNER_BLOCKED"
  let autonomous ← inNames ["A0", "A1", "A2", "A3"] (Json.get policy "active_autonomy")
  require (autonomous = true) "EFFECTIVE_POLICY_TRUSTED_SOURCE_MISSING"
  let limited ← inNames ["R0", "R1", "R2", "R3"] (Json.get policy "max_autonomous_risk")
  require (limited = true) "EFFECTIVE_POLICY_TRUSTED_SOURCE_MISSING"
  let snapshot := membersOf assuranceSnapshot
  let requiredGates ← (Json.get snapshot "required_gates").toList
  return contextOf tools policy asked snapshot requiredGates policyHash
    (ownerExact (membersOf (provider "owner_decision")) subjectSha
      (Json.get request "preview_digest") (Json.get snapshot "policy_hash") policyHash)

section Compiled

variable (tools : ContextTools) (now : Int) (policyFile : Except String Json) (asked : Asked)
variable (request : Fields) (assuranceSnapshot : Json) (providerReadback : Fields)

/-- What a compiled context rests on. -/
structure Compiles (policy : Fields) (policyHash : Json) (requiredGates : List Json)
    (context : TrustedContext) : Prop where
  loaded : loadEffectivePolicy tools policyFile = .ok policy
  hash : policy.lookup "policy_hash" = some policyHash
  assured : validateAssuranceSnapshot tools now (.str (subjectOf tools request)) policyHash
    assuranceSnapshot = .ok []
  subject : Json.get providerReadback "subject_sha" = .str (subjectOf tools request)
  gates : (Json.get (membersOf assuranceSnapshot) "required_gates").toList = .ok requiredGates
  compiled : context = contextOf tools policy asked (membersOf assuranceSnapshot) requiredGates
    policyHash (ownerExact (membersOf (Json.get providerReadback "owner_decision"))
      (subjectOf tools request) (Json.get request "preview_digest")
      (Json.get (membersOf assuranceSnapshot) "policy_hash") policyHash)

variable {tools now policyFile asked request assuranceSnapshot providerReadback}

theorem compiles_of_eq_ok {context : TrustedContext}
    (ran : compileTrustedContext tools now policyFile asked request assuranceSnapshot
      providerReadback = .ok context) :
    ∃ policy policyHash requiredGates, Compiles tools now policyFile asked request assuranceSnapshot
      providerReadback policy policyHash requiredGates context := by
  simp only [compileTrustedContext, bind_ok_iff, require_eq_ok_iff] at ran
  rcases ran with ⟨_, _, _, _, policy, loaded, policyHash, hash, errors, assured, _, none, _,
    subject, _, _, _, _, _, _, _, _, _, _, _, _, _, _, _, _, requiredGates, gates, ⟨⟩⟩
  refine ⟨policy, policyHash, requiredGates, loaded, ?_, none ▸ assured, subject, gates, rfl⟩
  cases found : policy.lookup "policy_hash" with
  | none =>
      rw [found] at hash
      cases hash
  | some value =>
      rw [found] at hash
      cases hash
      rfl

theorem bindingErrors_eq_nil {valid : String → Bool} {invalid mismatch : String}
    {expected value : Json} (expects : expected ≠ .null)
    (clean : bindingErrors valid invalid mismatch expected value = []) : value = expected := by
  unfold bindingErrors at clean
  split at clean
  · split_ifs at clean
    by_contra other
    exact reasonIf_ne_nil_iff.mpr ⟨expects, fun same => other same.symm⟩ clean
  · cases clean

theorem get_policy_hash {policy : Fields}
    (loaded : loadEffectivePolicy tools policyFile = .ok policy) :
    Json.get policy "policy_hash" = .str (policyDigest tools policy) := by
  simp only [loadEffectivePolicy, bind_ok_iff, require_eq_ok_iff] at loaded
  rcases loaded with ⟨document, _, _, clean, ⟨⟩⟩
  cases document with
  | obj members =>
      simp only [verifyPolicyIr, List.append_eq_nil_iff, reasonIf_eq_nil_iff, not_not] at clean
      exact clean.1.1.2
  | _ => cases clean

theorem Compiles.snapshotHash {policy : Fields} {policyHash : Json} {requiredGates : List Json}
    {context : TrustedContext}
    (compiles : Compiles tools now policyFile asked request assuranceSnapshot providerReadback
      policy policyHash requiredGates context) :
    Json.get (membersOf assuranceSnapshot) "policy_hash" = policyHash := by
  have present : policyHash ≠ .null := by
    have found := get_policy_hash compiles.loaded
    rw [Json.get, compiles.hash, Option.getD_some] at found
    rw [found]
    intro missing
    cases missing
  have assured := compiles.assured
  cases assuranceSnapshot with
  | obj snapshot =>
      simp only [validateAssuranceSnapshot, bind_ok_iff] at assured
      rcases assured with ⟨ofTimes, _, clean⟩
      have empty := eraseDups_eq_nil_iff.mp (Except.ok.inj clean)
      simp only [List.append_eq_nil_iff] at empty
      exact bindingErrors_eq_nil present empty.1.1.1.1.1.1.1.2
  | _ => cases assured

end Compiled

/-! ## The owner's approval -/

section Owner

variable (tools : ContextTools) (now : Int) (policyFile : Except String Json) (asked : Asked)
variable (request : Fields) (assuranceSnapshot : Json) (providerReadback : Fields)

/-- `policy_hash` of the effective policy. -/
def currentPolicyHash : Json :=
  match loadEffectivePolicy tools policyFile with
  | .ok policy => Json.get policy "policy_hash"
  | .error _ => .null

/-- The owner's decision in the readback. -/
def ownerDecision : Fields :=
  membersOf (Json.get providerReadback "owner_decision")

/-- The readback carries a verified acceptance of the subject, and its `preview_digest` compares
equal with the one of the request; both may be missing. -/
structure Accepted : Prop where
  verified : Json.get (ownerDecision providerReadback) "readback_verified" = .bool true
  decision : Json.get (ownerDecision providerReadback) "decision" = .str "ACCEPTED"
  head : Json.get (ownerDecision providerReadback) "head_sha" = .str (subjectOf tools request)
  preview : Json.get (ownerDecision providerReadback) "preview_digest" =
    Json.get request "preview_digest"

/-- The owner's decision names a digest and the current policy. -/
structure Bound : Prop where
  preview : (Json.get (ownerDecision providerReadback) "preview_digest").textSatisfies
    Text.isSha256 = true
  policy : Json.get (ownerDecision providerReadback) "policy_hash" =
    currentPolicyHash tools policyFile

/-- The context of another request is the same but for the owner's approval. -/
def SameButApproval (context other : TrustedContext) : Prop :=
  other = { context with
    humanApproved := other.humanApproved
    ownerAcceptanceExact := other.ownerAcceptanceExact }

/-- The facts on the owner are exact: they are true only for a verified and bound acceptance, and
nothing else of the request gets into the context. -/
structure Exact (context : TrustedContext) : Prop where
  owner : context.humanApproved = true ∨ context.ownerAcceptanceExact = true →
    Accepted tools request providerReadback ∧ Bound tools policyFile providerReadback
  caller : ∀ later other otherContext,
    compileTrustedContext tools later policyFile asked other assuranceSnapshot providerReadback =
        .ok otherContext →
      SameButApproval context otherContext ∧
        (subjectOf tools other = subjectOf tools request →
          Json.get other "preview_digest" = Json.get request "preview_digest" →
            otherContext = context)

variable {tools now policyFile asked request assuranceSnapshot providerReadback}
variable {policy : Fields} {policyHash : Json} {requiredGates : List Json}
variable {context : TrustedContext}

theorem Compiles.approved_iff
    (compiles : Compiles tools now policyFile asked request assuranceSnapshot providerReadback
      policy policyHash requiredGates context) :
    context.humanApproved = true ↔ Accepted tools request providerReadback := by
  rw [compiles.compiled]
  simp only [contextOf, ownerExact, compiles.snapshotHash, Bool.and_eq_true, decide_eq_true_eq]
  constructor
  · rintro ⟨⟨⟨⟨verified, decision⟩, head⟩, preview⟩, _⟩
    exact ⟨verified, decision, head, preview⟩
  · intro accepted
    exact ⟨⟨⟨⟨accepted.verified, accepted.decision⟩, accepted.head⟩, accepted.preview⟩, trivial⟩

/-- Both facts are one. -/
theorem Compiles.ownerAcceptanceExact
    (compiles : Compiles tools now policyFile asked request assuranceSnapshot providerReadback
      policy policyHash requiredGates context) :
    context.ownerAcceptanceExact = context.humanApproved := by
  rw [compiles.compiled]
  rfl

variable {later : Int} {other otherPolicy : Fields} {otherHash : Json} {otherGates : List Json}
variable {otherContext : TrustedContext}

theorem Compiles.agree
    (compiles : Compiles tools now policyFile asked request assuranceSnapshot providerReadback
      policy policyHash requiredGates context)
    (again : Compiles tools later policyFile asked other assuranceSnapshot providerReadback
      otherPolicy otherHash otherGates otherContext) :
    otherPolicy = policy ∧ otherHash = policyHash ∧ otherGates = requiredGates ∧
      subjectOf tools other = subjectOf tools request := by
  have samePolicy : otherPolicy = policy :=
    Except.ok.inj (again.loaded.symm.trans compiles.loaded)
  subst samePolicy
  exact ⟨rfl, Option.some.inj (again.hash.symm.trans compiles.hash),
    Except.ok.inj (again.gates.symm.trans compiles.gates),
    Json.str.inj (again.subject.symm.trans compiles.subject)⟩

theorem Compiles.sameButApproval
    (compiles : Compiles tools now policyFile asked request assuranceSnapshot providerReadback
      policy policyHash requiredGates context)
    (again : Compiles tools later policyFile asked other assuranceSnapshot providerReadback
      otherPolicy otherHash otherGates otherContext) : SameButApproval context otherContext := by
  rcases compiles.agree again with ⟨rfl, rfl, rfl, _⟩
  rw [SameButApproval, compiles.compiled, again.compiled]
  rfl

theorem Compiles.eq_of_preview
    (compiles : Compiles tools now policyFile asked request assuranceSnapshot providerReadback
      policy policyHash requiredGates context)
    (again : Compiles tools later policyFile asked other assuranceSnapshot providerReadback
      otherPolicy otherHash otherGates otherContext)
    (samePreview : Json.get other "preview_digest" = Json.get request "preview_digest") :
    otherContext = context := by
  rcases compiles.agree again with ⟨rfl, rfl, rfl, sameSubject⟩
  rw [compiles.compiled, again.compiled, sameSubject, samePreview]

end Owner

/-! ## An acceptance without a preview -/

section Unbound

def sampleDigest : String :=
  String.ofList (List.replicate 64 'd')

def sampleSubject : String :=
  String.ofList (List.replicate 40 'a')

/-- A clock of two readings and one digest for every document. -/
def sampleTools : ContextTools where
  rt := ⟨fun _ => sampleDigest, fun _ => none, fun _ => none, fun _ => ""⟩
  readMoment text := some ⟨true, text.length⟩

def samplePolicy : Json :=
  .obj [("active_autonomy", .str "A3"), ("max_autonomous_risk", .str "R2"),
    ("policy_hash", .str sampleDigest), ("rules", .obj []), ("schema_version", .num 2)]

def sampleSnapshot : Json :=
  .obj [("cost", .obj []), ("evidence", .obj []), ("expires_at", .str "||"), ("gates", .obj []),
    ("health", .obj []), ("policy_hash", .str sampleDigest), ("provider", .obj []),
    ("schema_version", .num 1), ("snapshot_digest", .str sampleDigest),
    ("subject_sha", .str sampleSubject), ("verified_at", .str "|")]

/-- The owner accepted the subject under a policy and a preview that the decision leaves out. -/
def sampleReadback : Fields :=
  [("facts_readback_verified", .bool true),
    ("owner_decision", .obj [("decision", .str "ACCEPTED"), ("head_sha", .str sampleSubject),
      ("readback_verified", .bool true)]),
    ("repository_visibility", .str "PUBLIC"), ("runner", .str "ubuntu-24.04"),
    ("subject_sha", .str sampleSubject)]

def sampleAsked : Asked :=
  ⟨"merge", "R1", "feature"⟩

theorem compiles_sample : ((compileTrustedContext sampleTools 0 (.ok samplePolicy) sampleAsked
      [("subject_sha", .str sampleSubject)] sampleSnapshot sampleReadback).map
        TrustedContext.humanApproved) = .ok true := by
  decide +kernel

end Unbound

end Adwf.Policy
