import Adwf.Trust.Weakening
import Mathlib.Data.List.Sort
import Mathlib.Data.List.Dedup
import Mathlib.Data.String.Basic

/-!
# Classification of a diff under the base trust policy

`classify_diff` and the standing authorization of the base policy.
-/

namespace Adwf.Trust

open Fallible

variable (rt : Runtime) (inspected : List Inspected)
variable (policy : Fields)

/-! ## Standing authorization -/

inductive StandingStatus where
  | legacy
  | invalid
  | active
  | revoked
  deriving DecidableEq, Repr

/-- `standing_authorization_policy_metadata`. -/
structure StandingPolicy where
  present : Bool
  valid : Bool
  status : StandingStatus
  digest : Option String
  revision : Json
  manualRequiredPaths : List String

/-- `value in {…}` of texts; an unhashable value raises. -/
def isMember (value : Json) (texts : List String) : Except String Bool :=
  match value with
  | .arr _ => .error "TypeError"
  | .obj _ => .error "TypeError"
  | .str text => .ok (text ∈ texts)
  | _ => .ok false

/-- The members of a standing authorization. -/
def standingMembers : List String :=
  ["schema_version", "revision", "status", "mode", "issued_by", "scope",
    "require_exact_current_base", "manual_required_paths", "non_overridable_invariants",
    "revocation"]

def nonOverridableInvariants : List String :=
  ["FREE_ONLY", "NO_BYPASS", "EVIDENCE_INTEGRITY", "NO_SELF_AUTHORIZATION"]

/-- `isinstance(value, int) and value >= 1`. -/
def isPositiveInt : Json → Bool
  | .bool value => value
  | .num value => value.den = 1 ∧ 1 ≤ value
  | _ => false

/-- The pattern compiles. -/
def isGlob (pattern : String) : Bool :=
  match globRegex pattern with
  | .ok _ => true
  | .error _ => false

/-- A non-empty list without repetitions of patterns that compile. -/
def manualPathsValid : Json → Bool
  | .arr items =>
      items ≠ [] ∧ (items.map rt.text).Nodup ∧ (items.map rt.text).all isGlob
  | _ => false

/-- `set(invariants) == {…}`. -/
def invariantsValid : Json → Except String Bool
  | .arr items => do
      let known ← items.mapM fun item => isMember item nonOverridableInvariants
      return known.all id ∧ ∀ name ∈ nonOverridableInvariants, Json.str name ∈ items
  | _ => return false

/-- The checks before the status is looked up. -/
def standingHead (value : Fields) : Bool :=
  (∀ key ∈ value.map Prod.fst, key ∈ standingMembers) ∧
    (∀ key ∈ standingMembers, key ∈ value.map Prod.fst) ∧
    (Json.get value "schema_version" = .num 1 ∨ Json.get value "schema_version" = .bool true) ∧
    isPositiveInt (Json.get value "revision") = true

/-- The checks between the status and the invariants. -/
def standingBody (value : Fields) : Bool :=
  Json.get value "mode" = .str "HUMAN_BY_EXCEPTION" ∧
    Json.get value "issued_by" = .str "REPOSITORY_OWNER" ∧
    Json.get value "scope" = .str "PULL_REQUEST_TRUST_CHANGES" ∧
    Json.get value "require_exact_current_base" = .bool true ∧
    manualPathsValid rt (Json.get value "manual_required_paths") = true

/-- The chain `valid = valid and …`: a check that may raise runs only while all before it
held. -/
def standingValid (value : Fields) : Except String Bool :=
  if standingHead value = false then return false
  else do
    let listed ← isMember (Json.get value "status") ["ACTIVE", "REVOKED"]
    if listed = false ∨ standingBody rt value = false then return false
    else do
      let invariants ← invariantsValid (Json.get value "non_overridable_invariants")
      return invariants ∧ Json.get value "revocation" = .str "HUMAN_GATED_BASE_POLICY_CHANGE"

/-- The metadata of a present authorization. -/
def presentStanding (value : Fields) (valid : Bool) : StandingPolicy where
  present := true
  valid := valid
  status :=
    if valid = false then .invalid
    else if Json.get value "status" = .str "ACTIVE" then .active
    else .revoked
  digest := if valid then some (rt.digest (.obj value)) else none
  revision := if valid then Json.get value "revision" else .null
  manualRequiredPaths :=
    match valid, Json.get value "manual_required_paths" with
    | true, .arr items => items.map rt.text
    | _, _ => []

def standingAuthorizationPolicyMetadata :
    Except String StandingPolicy :=
  match Json.get policy "standing_authorization" with
  | .null => return ⟨false, true, .legacy, none, .null, []⟩
  | .obj value => do
      let valid ← standingValid rt value
      return presentStanding rt value valid
  | _ => return ⟨true, false, .invalid, none, .null, []⟩

/-! ## Change records -/

/-- A dictionary of the diff; a missing path reads as `""` and a missing status as `"M"`. -/
structure RawRecord where
  path : String
  status : String
  oldPath : Option String
  oldText : Option String
  newText : Option String
  deriving DecidableEq, Repr

/-- An item of `changed_files`. -/
inductive DiffItem where
  | path (value : String)
  | record (raw : RawRecord)
  | other
  deriving DecidableEq, Repr

/-- What `_change_record` returns. -/
structure ChangeRecord where
  path : String
  status : String
  oldPath : Option String
  oldText : Option String
  newText : Option String
  deriving DecidableEq, Repr

/-- `[ACDMRTUXB][0-9]*`. -/
def isChangeStatus (status : String) : Bool :=
  match status.toList with
  | [] => false
  | code :: score => code ∈ "ACDMRTUXB".toList ∧ score.all Text.isDigit = true

/-- `normalize_repo_path(item["old_path"]) if item.get("old_path") else None`. -/
def normalizeOldPath : Option String → Except String (Option String)
  | none => return none
  | some path => if path = "" then return none else some <$> normalizeRepoPath path

/-- `_change_record`. -/
def changeRecord : DiffItem → Except String ChangeRecord
  | .path value => do
      let path ← normalizeRepoPath value
      return ⟨path, "M", none, none, none⟩
  | .record raw => do
      require (isChangeStatus raw.status.toUpper = true) "invalid git change status"
      let path ← normalizeRepoPath raw.path
      let oldPath ← normalizeOldPath raw.oldPath
      return ⟨path, raw.status.toUpper, oldPath, raw.oldText, raw.newText⟩
  | .other => .error "invalid diff record"

/-- The candidates of the record meet a protected path. -/
def touchesProtected (patterns : List String) (record : ChangeRecord) : Except String Bool :=
  if record.path ∈ integrityProjections then return true
  else do
    let isProtected ← isProtectedPath record.path patterns
    match isProtected, record.oldPath with
    | true, _ => return true
    | false, none => return false
    | false, some oldPath => isProtectedPath oldPath patterns

/-- A record with what the loop of `classify_diff` finds about it. -/
structure Inspected where
  record : ChangeRecord
  isProtected : Bool
  weakening : List String

/-- One turn of the loop. -/
def inspect (tools : TextTools) (patterns : List String)
    (record : ChangeRecord) : Except String Inspected := do
  let isProtected ← touchesProtected patterns record
  if isProtected = true then do
    let detected ← detectGateWeakening rt tools record.path record.oldText record.newText
      record.status
    return ⟨record, true, detected⟩
  else return ⟨record, false, []⟩

/-- The content of the record is there as far as its status needs it. -/
def ChangeRecord.isVerified (record : ChangeRecord) : Bool :=
  let code := record.status.toList.headD 'M'
  (code = 'A' ∨ record.oldText ≠ none) ∧ (code = 'D' ∨ record.newText ≠ none)

/-! ## The lists of a classification -/

/-- `protected`. -/
def protectedPaths : List String :=
  (inspected.filter (·.isProtected)).map (·.record.path)

/-- `generated_projections`. -/
def generatedProjections : List String :=
  (protectedPaths inspected).filter (· ∈ generatedTrustProjections)

/-- `authoritative_protected`. -/
def authoritativeProtected : List String :=
  (protectedPaths inspected).filter (· ∉ generatedTrustProjections)

/-- `feature`. -/
def featurePaths : List String :=
  (inspected.filter fun item => !item.isProtected).map (·.record.path)

/-- `weakening`. -/
def weakenings : List (String × List String) :=
  (inspected.filter fun item => item.weakening ≠ []).map fun item =>
    (item.record.path, item.weakening)

/-- `inspection_unverified`. -/
def inspectionUnverified : List String :=
  ((inspected.map (·.record)).filter fun record =>
    record.path ∈ protectedPaths inspected ∧ record.isVerified = false).map (·.path)

/-- `manual_required`. -/
def manualRequired (standing : StandingPolicy) (inspected : List Inspected) : List String :=
  if standing.valid ∧ standing.present then
    (protectedPaths inspected).filter fun path =>
      standing.manualRequiredPaths.any (patternMatches path)
  else []

/-- An authoritative protected file next to a feature file. -/
def isMixed : Bool :=
  authoritativeProtected inspected ≠ [] ∧ featurePaths inspected ≠ []

/-- `standing_auto`. -/
def standingAuto (standing : StandingPolicy) (inspected : List Inspected) : Bool :=
  protectedPaths inspected ≠ [] ∧ standing.valid = true ∧ standing.status = .active ∧
    weakenings inspected = [] ∧ manualRequired standing inspected = [] ∧
    inspectionUnverified inspected = [] ∧ isMixed inspected = false

/-- `reasons`. -/
def classificationReasons (standing : StandingPolicy)
    (inspected : List Inspected) : List String :=
  reasonIf (isMixed inspected = true) "TRUST_CHANGE_MIXED_WITH_FEATURE" ++
    reasonIf (weakenings inspected ≠ []) "GATE_WEAKENING_DETECTED" ++
    reasonIf (protectedPaths inspected ≠ [] ∧
      Json.get policy "weakening_requires_human" ≠ .bool true) "BASE_TRUST_POLICY_INVALID" ++
    reasonIf (protectedPaths inspected ≠ [] ∧
      Json.get policy "weakening_is_risk" ≠ .str "R4") "BASE_TRUST_POLICY_INVALID" ++
    reasonIf (Json.get policy "self_modification_in_feature_pr" ≠ .str "FORBIDDEN")
      "BASE_TRUST_POLICY_INVALID" ++
    reasonIf (standing.present = true ∧ standing.valid = false)
      "BASE_STANDING_AUTHORIZATION_POLICY_INVALID" ++
    reasonIf (standing.status = .revoked ∧ protectedPaths inspected ≠ [])
      "STANDING_AUTHORIZATION_REVOKED" ++
    reasonIf (manualRequired standing inspected ≠ []) "STANDING_POLICY_RESERVED_SURFACE" ++
    reasonIf (inspectionUnverified inspected ≠ []) "PROTECTED_CONTENT_NOT_VERIFIED"

/-! ## The classification -/

inductive TrustResult where
  | allow
  | humanRequired
  | block
  deriving DecidableEq, Repr

/-- The order `ALLOW < HUMAN_REQUIRED < BLOCK`. -/
def TrustResult.rank : TrustResult → Nat
  | allow => 0
  | humanRequired => 1
  | block => 2

inductive AuthorizationMode where
  | explicitHumanRequired
  | standingOwnerPolicy
  | normal
  deriving DecidableEq, Repr

/-- The members of a classification that an early `BLOCK` does not have. -/
structure ClassificationDetails where
  protectedFiles : List String
  generatedProjectionFiles : List String
  authoritativeProtectedFiles : List String
  featureFiles : List String
  weakening : List (String × List String)
  inspectionUnverifiedFiles : List String
  manualRequiredFiles : List String
  requiredRisk : Option String
  requiredWorkType : Option String
  humanRequired : Bool
  authorizationMode : AuthorizationMode
  standingPolicy : StandingPolicy

structure Classification where
  result : TrustResult
  reasonCodes : List String
  changedFiles : List String
  details : Option ClassificationDetails

/-- A classification that stops before the records are looked at. -/
def Classification.blocked (reason : String) : Classification :=
  ⟨.block, [reason], [], none⟩

/-- `sorted(set(paths))`. -/
def sortedSet (paths : List String) : List String :=
  paths.dedup.insertionSort (· ≤ ·)

theorem mem_sortedSet {path : String} {paths : List String} :
    path ∈ sortedSet paths ↔ path ∈ paths := by
  rw [sortedSet, List.mem_insertionSort, List.mem_dedup]

/-- The chain of conditions that sets `result`. -/
def resultOf (standing : StandingPolicy) (inspected : List Inspected) :
    TrustResult :=
  let reasons := classificationReasons policy standing inspected
  if "BASE_TRUST_POLICY_INVALID" ∈ reasons ∨
      "BASE_STANDING_AUTHORIZATION_POLICY_INVALID" ∈ reasons ∨ isMixed inspected = true then
    .block
  else if protectedPaths inspected ≠ [] ∧ standingAuto standing inspected = true then .allow
  else if protectedPaths inspected ≠ [] then .humanRequired
  else .allow

/-- The dictionary that `classify_diff` returns at its end. -/
def classification (standing : StandingPolicy) (inspected : List Inspected) :
    Classification :=
  let result := resultOf policy standing inspected
  let human := result = .humanRequired
  { result
    reasonCodes := (classificationReasons policy standing inspected).eraseDups
    changedFiles := (inspected.map (·.record.path)).insertionSort (· ≤ ·)
    details := some {
      protectedFiles := sortedSet (protectedPaths inspected)
      generatedProjectionFiles := sortedSet (generatedProjections inspected)
      authoritativeProtectedFiles := sortedSet (authoritativeProtected inspected)
      featureFiles := sortedSet (featurePaths inspected)
      weakening := weakenings inspected
      inspectionUnverifiedFiles := sortedSet (inspectionUnverified inspected)
      manualRequiredFiles := sortedSet (manualRequired standing inspected)
      requiredRisk := if human then some "R4" else none
      requiredWorkType := if human then some "GOV" else none
      humanRequired := human
      authorizationMode :=
        if human then .explicitHumanRequired
        else if standingAuto standing inspected then .standingOwnerPolicy
        else .normal
      standingPolicy := standing } }

@[simp]
theorem classification_result (standing : StandingPolicy)
    (inspected : List Inspected) :
    (classification policy standing inspected).result = resultOf policy standing inspected :=
  rfl

/-- `policy["paths"]`, when it is a non-empty list of patterns that compile. -/
def basePatterns : Option (List String) :=
  match Json.get policy "paths" with
  | .arr (first :: others) =>
      let patterns := (first :: others).map rt.text
      if patterns.all isGlob then some patterns else none
  | _ => none

def classifyDiff (tools : TextTools) (changedFiles : List DiffItem)
    (policy : Fields) : Except String Classification := do
  let records ← changedFiles.mapM changeRecord
  match basePatterns rt policy with
  | none => return .blocked "BASE_TRUST_POLICY_INVALID"
  | some patterns =>
      if records = [] then return .blocked "EMPTY_DIFF"
      else do
        let inspected ← records.mapM (inspect rt tools patterns)
        let standing ← standingAuthorizationPolicyMetadata rt policy
        return classification policy standing inspected

end Adwf.Trust
