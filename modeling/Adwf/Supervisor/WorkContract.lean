import Mathlib.Data.List.Dedup
import Mathlib.Data.List.Sort
import Adwf.Value.Json
import Adwf.Value.Text
import Adwf.Value.Fallible

/-!
# The contract of a creative agent

The supervisor hands a creative agent a work package and gets a claim back.  A
claim is turned into a work result only when it names the package and the result
passes its own validation.
-/

namespace Adwf.Supervisor

open Adwf.Fallible

/-- A `ValueError` with its text, or the `TypeError` of an unhashable value. -/
inductive ContractError where
  | value (text : String)
  | type
  deriving DecidableEq, Repr

abbrev Contract (α : Type) := Except ContractError α

/-! ## Write surfaces -/

/-- One token of a shell pattern. -/
inductive GlobToken where
  | star
  | any
  | oneOf (negated : Bool) (ranges : List (Char × Char))
  deriving DecidableEq

/-- The ranges of a bracket expression; a lone character is a range of its own. -/
def globRanges : List Char → List (Char × Char)
  | low :: '-' :: high :: rest => (low, high) :: globRanges rest
  | char :: rest => (char, char) :: globRanges rest
  | [] => []

/-- The body of a bracket expression and what follows it, if it is closed.  A
`]` right after the opening, or after its `!`, belongs to the body. -/
def globSet (rest : List Char) : Option (List Char × List Char) :=
  let bang := if rest.head? = some '!' then 1 else 0
  let lead := if rest[bang]? = some ']' then bang + 1 else bang
  let tail := rest.drop lead
  if ']' ∈ tail then
    let body := tail.takeWhile (· ≠ ']')
    some (rest.take lead ++ body, tail.drop (body.length + 1))
  else none

/-- `fnmatch.translate`; the fuel is the length of the pattern. -/
def globTokens : Nat → List Char → List GlobToken
  | 0, _ => []
  | _ + 1, [] => []
  | fuel + 1, '*' :: rest => .star :: globTokens fuel rest
  | fuel + 1, '?' :: rest => .any :: globTokens fuel rest
  | fuel + 1, '[' :: rest =>
      match globSet rest with
      | some ('!' :: body, after) => .oneOf true (globRanges body) :: globTokens fuel after
      | some (body, after) => .oneOf false (globRanges body) :: globTokens fuel after
      | none => .oneOf false [('[', '[')] :: globTokens fuel rest
  | fuel + 1, char :: rest => .oneOf false [(char, char)] :: globTokens fuel rest

def globMatches : List GlobToken → List Char → Bool
  | [], chars => chars.isEmpty
  | .star :: tokens, chars => chars.tails.any (globMatches tokens)
  | .any :: tokens, chars =>
      match chars with
      | [] => false
      | _ :: rest => globMatches tokens rest
  | .oneOf negated ranges :: tokens, chars =>
      match chars with
      | [] => false
      | char :: rest =>
          (ranges.any fun range => range.1 ≤ char && char ≤ range.2) != negated &&
            globMatches tokens rest

/-- `fnmatchcase`. -/
def fnmatchcase (path pattern : String) : Bool :=
  globMatches (globTokens pattern.length pattern.toList) path.toList

/-- What `_safe_pattern` and `_safe_path` have in common. -/
def isPlainPath (text : String) : Bool :=
  Text.strip text ≠ "" && text = Text.strip text && !Text.startsWith text "/" &&
    !text.toList.contains '\\'

/-- `_safe_pattern`. -/
def safePattern (value : Json) : Bool :=
  value.textSatisfies fun text =>
    isPlainPath text && (text.toList.splitOn '/').all fun part => part ≠ ['.', '.']

/-- `_safe_path`. -/
def safePath (value : Json) : Bool :=
  value.textSatisfies fun text =>
    isPlainPath text && (text.toList.splitOn '/').all fun part =>
      part ≠ [] && part ≠ ['.'] && part ≠ ['.', '.']

/-- The texts of a list member. -/
def textsOf : Json → List String
  | .arr items => items.filterMap Json.asText
  | _ => []

/-- `path_is_allowed`. -/
def pathIsAllowed (path : String) (package : Fields) : Bool :=
  safePath (.str path) &&
    (textsOf (Json.get package "allowed_write_surfaces")).any (fnmatchcase path) &&
    !(textsOf (Json.get package "forbidden_write_surfaces")).any (fnmatchcase path)

/-! ## Checks on members -/

section Contract

variable (rt : Runtime) (isInstant : String → Bool)

/-- `str(value or "")`. -/
def textOr (value : Json) : String :=
  if value.truthy then rt.text value else ""

/-- A fixed start and hexadecimal digits after it. -/
def isTagged (start : String) (length : Nat) (text : String) : Bool :=
  Text.startsWith text start &&
    Text.fullmatch Text.isLowerHex length length
      (String.ofList (text.toList.drop start.length))

/-- `_valid_timestamp`; `isInstant` is `datetime.fromisoformat` on the text with
its `Z` replaced by an offset. -/
def validTimestamp (value : Json) : Bool :=
  value.textSatisfies fun text => text.toList.getLast? = some 'Z' && isInstant text

def stringPrefix (length : Nat) (text : String) : String :=
  String.ofList (text.toList.take length)

def without (fields : Fields) (name : String) : Fields :=
  fields.filter fun field => field.1 ≠ name

/-- The named members, each `None` when it is missing. -/
def picked (fields : Fields) (names : List String) : Json :=
  .obj (names.map fun name => (name, Json.get fields name))

/-- `_package_id`. -/
def packageId (package : Fields) : String :=
  "AIWP-" ++ stringPrefix 24 (rt.digest
    (picked package ["base_sha", "issue_id", "phase", "revision", "roadmap_id", "run_id"]))

/-- `_result_id`. -/
def resultId (result : Fields) : String :=
  "AIWR-" ++ stringPrefix 24 (rt.digest
    (picked result ["created_at", "head_sha", "outcome", "package_digest"]))

def isHashable : Json → Bool
  | .arr _ => false
  | .obj _ => false
  | _ => true

/-- A list without duplicates whose items pass `check`.  A set of unhashable
items raises. -/
def distinctList (value : Json) (check : Json → Bool) : Contract Bool :=
  match value with
  | .arr items =>
      if items.all isHashable then .ok (decide items.Nodup && items.all check) else .error .type
  | _ => .ok false

/-- `isinstance(item, str) and item.strip()`. -/
def isStatedText (value : Json) : Bool :=
  value.textSatisfies fun text => Text.strip text ≠ ""

def isNonempty : Json → Bool
  | .arr items => !items.isEmpty
  | _ => false

def sameMembers (fields : Fields) (names : List String) : Bool :=
  fields.all (fun field => names.contains field.1) &&
    names.all fun name => (fields.lookup name).isSome

/-- `[code] if not condition`. -/
def errorUnless (condition : Bool) (code : String) : List String :=
  if condition then [] else [code]

/-- `list(dict.fromkeys(errors))`. -/
def firstOfEach (errors : List String) : List String :=
  errors.reverse.dedup.reverse

def workPackageSchema : String :=
  ".adwf/schemas/ai-work-package.schema.json"

def workPackageFields : List String :=
  ["$schema", "schema_version", "package_id", "package_digest", "run_id", "roadmap_id", "issue_id",
    "revision", "phase", "work_type", "risk", "base_sha", "goal", "acceptance_criteria",
    "verification_plan", "conflict_domains", "allowed_write_surfaces", "forbidden_write_surfaces",
    "required_evidence", "monetary_budget_usd", "created_at"]

/-- The loop over the list members of a package. -/
def packageListErrors (package : Fields) : List (String × String) → Contract (List String)
  | [] => .ok []
  | (name, code) :: rest => do
      let value := Json.get package name
      let wellFormed ← if isNonempty value then distinctList value isStatedText else .ok false
      let others ← packageListErrors package rest
      return errorUnless wellFormed code ++ others

/-- `validate_work_package` without an expected state. -/
def validateWorkPackage (package : Fields) : Contract (List String) := do
  let get := Json.get package
  let lists ← packageListErrors package
    [("acceptance_criteria", "PACKAGE_ACCEPTANCE_CRITERIA_INVALID"),
      ("verification_plan", "PACKAGE_VERIFICATION_PLAN_INVALID"),
      ("conflict_domains", "PACKAGE_CONFLICT_DOMAINS_INVALID"),
      ("required_evidence", "PACKAGE_REQUIRED_EVIDENCE_INVALID")]
  let allowed := get "allowed_write_surfaces"
  let forbidden := get "forbidden_write_surfaces"
  let allowedOk ← if isNonempty allowed then distinctList allowed safePattern else .ok false
  let forbiddenOk ← distinctList forbidden safePattern
  return firstOfEach (
    errorUnless (sameMembers package workPackageFields) "PACKAGE_FIELDS_INVALID" ++
    errorUnless (get "schema_version" = .num 1) "PACKAGE_SCHEMA_VERSION" ++
    errorUnless (isTagged "AIWP-" 24 (textOr rt (get "package_id"))) "PACKAGE_ID_INVALID" ++
    errorUnless (Text.isSha256 (textOr rt (get "package_digest"))) "PACKAGE_DIGEST_INVALID" ++
    errorUnless (Text.isSha40 (textOr rt (get "base_sha"))) "PACKAGE_BASE_SHA_INVALID" ++
    errorUnless ([Json.str "EXECUTE", .str "RECOVERY"].contains (get "phase"))
      "PACKAGE_PHASE_INVALID" ++
    errorUnless ((["R0", "R1", "R2", "R3", "R4"].map Json.str).contains (get "risk"))
      "PACKAGE_RISK_INVALID" ++
    errorUnless ((["feature", "bug", "recovery", "verification", "governance", "docs",
      "migration"].map Json.str).contains (get "work_type")) "PACKAGE_WORK_TYPE_INVALID" ++
    errorUnless (get "$schema" = .str workPackageSchema) "PACKAGE_SCHEMA_REF_INVALID" ++
    errorUnless (validTimestamp isInstant (get "created_at")) "PACKAGE_CREATED_AT_INVALID" ++
    errorUnless (textOr rt (get "run_id") ≠ "" ∧ textOr rt (get "roadmap_id") ≠ "" ∧
      textOr rt (get "issue_id") ≠ "") "PACKAGE_IDENTITY_MISSING" ++
    errorUnless (match get "revision" with
      | .num revision => decide (revision.den = 1) && decide (0 ≤ revision)
      | _ => false) "PACKAGE_REVISION_INVALID" ++
    errorUnless (10 ≤ (Text.strip (textOr rt (get "goal"))).length) "PACKAGE_GOAL_INVALID" ++
    lists ++
    errorUnless allowedOk "PACKAGE_ALLOWED_SURFACES_INVALID" ++
    errorUnless forbiddenOk "PACKAGE_FORBIDDEN_SURFACES_INVALID" ++
    errorUnless ((textsOf allowed).all fun pattern => !(textsOf forbidden).contains pattern)
      "PACKAGE_SURFACE_RULE_CONFLICT" ++
    errorUnless (get "monetary_budget_usd" = .num 0) "PACKAGE_COST_NOT_FREE_ONLY" ++
    errorUnless (get "package_id" = .str (packageId rt package)) "PACKAGE_ID_MISMATCH" ++
    errorUnless (get "package_digest" =
      .str (rt.digest (.obj (without package "package_digest")))) "PACKAGE_DIGEST_MISMATCH")

/-! ## Work results -/

def workResultSchema : String :=
  ".adwf/schemas/ai-work-result.schema.json"

def workResultFields : List String :=
  ["$schema", "schema_version", "result_id", "result_digest", "package_id", "package_digest",
    "run_id", "roadmap_id", "issue_id", "phase", "base_sha", "outcome", "head_sha",
    "changed_paths", "verification_claims", "evidence_claims", "reason_codes", "summary_ru",
    "cost_usd", "created_at"]

/-- The checks of a result that passes. -/
def passErrors (result package : Fields) (changed : List String) : List String :=
  let head := Json.get result "head_sha"
  let missing := ((textsOf (Json.get package "required_evidence")).filter fun evidence =>
    !(textsOf (Json.get result "evidence_claims")).contains evidence).dedup.insertionSort (· ≤ ·)
  errorUnless (Text.isSha40 (textOr rt head)) "RESULT_PASS_HEAD_SHA_REQUIRED" ++
  errorUnless (Json.get package "phase" ≠ .str "EXECUTE" ∨ changed ≠ [])
    "RESULT_PASS_CHANGED_PATHS_REQUIRED" ++
  errorUnless (changed = [] ∨ head ≠ Json.get package "base_sha") "RESULT_PASS_HEAD_EQUALS_BASE" ++
  errorUnless (Json.get result "verification_claims").truthy
    "RESULT_PASS_VERIFICATION_CLAIMS_REQUIRED" ++
  errorUnless missing.isEmpty
    ("RESULT_REQUIRED_EVIDENCE_CLAIM_MISSING:" ++ ",".intercalate missing)

/-- `validate_work_result`. -/
def validateWorkResult (result package : Fields) : Contract (List String) := do
  let packageErrors ← validateWorkPackage rt isInstant package
  if packageErrors ≠ [] then
    return packageErrors.map ("RESULT_PACKAGE_INVALID:" ++ ·)
  let get := Json.get result
  let head := get "head_sha"
  let changedOk ← distinctList (get "changed_paths") safePath
  let changed := if changedOk then textsOf (get "changed_paths") else []
  let verification ← distinctList (get "verification_claims") isStatedText
  let evidence ← distinctList (get "evidence_claims") isStatedText
  let reasons ← distinctList (get "reason_codes") isStatedText
  return firstOfEach (
    errorUnless (sameMembers result workResultFields) "RESULT_FIELDS_INVALID" ++
    errorUnless (get "schema_version" = .num 1) "RESULT_SCHEMA_VERSION" ++
    errorUnless (get "$schema" = .str workResultSchema) "RESULT_SCHEMA_REF_INVALID" ++
    errorUnless (validTimestamp isInstant (get "created_at")) "RESULT_CREATED_AT_INVALID" ++
    (["package_id", "package_digest", "run_id", "roadmap_id", "issue_id", "phase",
      "base_sha"].flatMap fun name =>
        errorUnless (get name = Json.get package name) ("RESULT_PACKAGE_BINDING_MISMATCH:" ++ name)) ++
    errorUnless (isTagged "AIWR-" 24 (textOr rt (get "result_id"))) "RESULT_ID_INVALID" ++
    errorUnless (Text.isSha256 (textOr rt (get "result_digest"))) "RESULT_DIGEST_INVALID" ++
    errorUnless ((["PASS", "FAIL", "HUMAN_REQUIRED", "RETRY"].map Json.str).contains (get "outcome"))
      "RESULT_OUTCOME_INVALID" ++
    errorUnless (head = .null ∨ Text.isSha40 (rt.text head) = true) "RESULT_HEAD_SHA_INVALID" ++
    errorUnless changedOk "RESULT_CHANGED_PATHS_INVALID" ++
    (changed.flatMap fun path =>
      errorUnless (pathIsAllowed path package) ("RESULT_WRITE_SURFACE_FORBIDDEN:" ++ path)) ++
    errorUnless verification "RESULT_VERIFICATION_CLAIMS_INVALID" ++
    errorUnless evidence "RESULT_EVIDENCE_CLAIMS_INVALID" ++
    errorUnless reasons "RESULT_REASON_CODES_INVALID" ++
    errorUnless (get "cost_usd" = .num 0) "RESULT_COST_NOT_FREE_ONLY" ++
    (if get "outcome" = .str "PASS" then passErrors rt result package changed else []) ++
    errorUnless (get "result_id" = .str (resultId rt result)) "RESULT_ID_MISMATCH" ++
    errorUnless (get "result_digest" =
      .str (rt.digest (.obj (without result "result_digest")))) "RESULT_DIGEST_MISMATCH")

/-- A member replaced in place. -/
def setField (fields : Fields) (name : String) (value : Json) : Fields :=
  fields.map fun field => if field.1 = name then (name, value) else field

/-- The arguments of `build_work_result` that come from a claim. -/
structure ClaimedWork where
  outcome : String
  headSha : Json
  changedPaths : List Json
  verificationClaims : List Json
  evidenceClaims : List Json
  reasonCodes : List Json
  summaryRu : String
  createdAt : String

/-- `build_work_result`. -/
def buildWorkResult (package : Fields) (work : ClaimedWork) : Contract Fields := do
  let packageErrors ← validateWorkPackage rt isInstant package
  require (packageErrors = [])
    (.value ("AI_WORK_PACKAGE_INVALID:" ++ ",".intercalate packageErrors))
  let bound := fun name => (name, Json.get package name)
  let unsigned : Fields :=
    [("$schema", .str workResultSchema), bound "base_sha", ("changed_paths", .arr work.changedPaths),
      ("cost_usd", .num 0), ("created_at", .str work.createdAt),
      ("evidence_claims", .arr work.evidenceClaims), ("head_sha", work.headSha), bound "issue_id",
      ("outcome", .str work.outcome), bound "package_digest", bound "package_id", bound "phase",
      ("reason_codes", .arr work.reasonCodes), ("result_digest", .str ""), ("result_id", .str ""),
      bound "roadmap_id", bound "run_id", ("schema_version", .num 1),
      ("summary_ru", .str (stringPrefix 1000 work.summaryRu)),
      ("verification_claims", .arr work.verificationClaims)]
  let named := setField unsigned "result_id" (.str (resultId rt unsigned))
  let result := setField named "result_digest"
    (.str (rt.digest (.obj (without named "result_digest"))))
  let errors ← validateWorkResult rt isInstant result package
  require (errors = []) (.value ("AI_WORK_RESULT_INVALID:" ++ ",".intercalate errors))
  return result

/-- A list member, and an empty list in place of anything else. -/
def listOr : Json → List Json
  | .arr items => items
  | _ => []

/-- The first of the members in which the claim differs from its package. -/
def unboundMember (claim package : Fields) : Option String :=
  ["package_id", "package_digest", "base_sha"].find? fun name =>
    Json.get claim name ≠ Json.get package name

/-- `canonicalize_low_trust_claim`. -/
def canonicalizeLowTrustClaim (claim package : Fields) (createdAt : String) : Contract Fields := do
  match unboundMember claim package with
  | some name => throw (.value ("AGENT_RESULT_PACKAGE_BINDING_MISMATCH:" ++ name))
  | none =>
      buildWorkResult rt isInstant package
        { outcome := textOr rt (Json.get claim "outcome")
          headSha := (claim.lookup "head_sha").getD (Json.get claim "subject_sha")
          changedPaths := listOr (Json.get claim "changed_paths")
          verificationClaims := listOr (Json.get claim "verification_claims")
          evidenceClaims := listOr (Json.get claim "evidence_claims")
          reasonCodes := listOr (Json.get claim "reason_codes")
          summaryRu := textOr rt (Json.get claim "summary_ru")
          createdAt }

/-- What `git` answers in the workspace: the head, whether the base exists and is
an ancestor, the names of the diff, and whether the worktree is clean. -/
structure Workspace where
  head : Option String
  baseExists : Bool
  baseIsAncestor : Bool
  diff : Option (List String)
  clean : Bool

/-- `verify_local_command_result`. -/
def verifyLocalCommandResult (workspace : Workspace) (package result : Fields) :
    Contract (List String) := do
  let errors ← validateWorkResult rt isInstant result package
  let changed := (textsOf (Json.get result "changed_paths")).insertionSort (· ≤ ·)
  return firstOfEach (errors ++
    errorUnless (workspace.head = some (textOr rt (Json.get result "head_sha")))
      "LOCAL_AGENT_HEAD_MISMATCH" ++
    errorUnless workspace.baseExists "LOCAL_AGENT_BASE_MISSING" ++
    errorUnless workspace.baseIsAncestor "LOCAL_AGENT_BASE_NOT_ANCESTOR" ++
    (match workspace.diff with
      | none => ["LOCAL_AGENT_DIFF_UNREADABLE"]
      | some names =>
          errorUnless (names.insertionSort (· ≤ ·) = changed) "LOCAL_AGENT_CHANGED_PATHS_MISMATCH") ++
    errorUnless workspace.clean "LOCAL_AGENT_WORKTREE_NOT_CLEAN")

end Contract

end Adwf.Supervisor
