import Mathlib.Data.List.Dedup
import Adwf.Healing.Registry

/-!
# The healing decision

`evaluate_healing`: what an incident, the registry, the configuration and the
circuit breaker allow.  The function runs no command.
-/

namespace Adwf.Healing

open Contracts Fallible JsonText

variable (tools : Tools)

/-! ## Decisions -/

/-- `HEALING_LADDER`. -/
inductive Level where
  | h0
  | h1
  | h2
  | h3
  | h4
  | h5
  | h6
  deriving DecidableEq

inductive Verdict where
  | allow
  | block
  | humanRequired
  | verified
  deriving DecidableEq

/-- The recipe a decision applies. -/
structure Applied where
  recipeId : Value
  version : Value
  digest : String
  actions : List Value

structure Decision where
  level : Level
  result : Verdict
  reasonCodes : List String
  automaticChange : Bool
  requiresNextLevel : Option Level
  /-- The recipe and its actions, in the sandbox and without self-approval. -/
  recipe : Option Applied

/-- `_base_decision`. -/
def baseDecision (level : Level) (result : Verdict) (reasonCodes : List String) : Decision :=
  { level, result, reasonCodes, automaticChange := false, requiresNextLevel := none, recipe := none }

/-- `sorted(findings)`. -/
def sorted (findings : List String) : List String :=
  findings.insertionSort (· ≤ ·)

/-- `sorted(set(findings))`. -/
def distinct (findings : List String) : List String :=
  sorted findings.dedup

/-! ## The safety of actions -/

/-- `_normalize_relative_path`. -/
def normalizeRelativePath (raw : String) : Except String String := do
  let chars := raw.toList.map fun char => if char = '\\' then '/' else char
  let parts := Trust.posixParts chars
  require (chars.head? ≠ some '/' ∧ parts ≠ [] ∧ ['.', '.'] ∉ parts) "HEALING_WRITE_PATH_UNSAFE"
  return Trust.asPosix parts

/-- A protected pattern covers a path. -/
def covers (path pattern : String) : Bool :=
  tools.globMatches (tools.casefold path) (tools.casefold pattern) ||
    (Text.startsWith pattern "**/" && pattern.toList.length ≠ 3 &&
      tools.globMatches (tools.casefold path)
        (tools.casefold (String.ofList (pattern.toList.drop 3)))) ||
    ("/**".toList.isSuffixOf pattern.toList && pattern.toList.length ≠ 3 &&
      (path.toList = pattern.toList.take (pattern.toList.length - 3) ||
        (pattern.toList.take (pattern.toList.length - 3) ++ ['/']).isPrefixOf path.toList))

/-- `action.get("writes", [])` of a valid action. -/
def writesOf (action : Members) : List String :=
  ((Value.get action "writes").asList.getD []).filterMap Value.asText

/-- `action.get("argv")` of a valid action. -/
def argvOf (action : Members) : List String :=
  ((Value.get action "argv").asList.getD []).filterMap Value.asText

/-- The finding about a path that is written. -/
def writeFinding (protectedPaths : List String) (raw : String) : List String :=
  match normalizeRelativePath raw with
  | .error _ => ["UNSAFE_PATH:" ++ raw]
  | .ok path =>
      match protectedPaths.find? (covers tools path) with
      | some pattern => ["PROTECTED_PATH:" ++ path ++ ":" ++ pattern]
      | none => []

def protectedPathFindings (actions : List Members) (protectedPaths : List String) :
    List String :=
  distinct (actions.flatMap fun action => (writesOf action).flatMap (writeFinding tools protectedPaths))

def forbiddenExecutables : List String :=
  ["bash", "cmd", "curl", "docker", "gh", "glab", "kubectl", "powershell", "pwsh", "rm", "scp", "sh",
    "ssh", "sudo", "terraform", "wget", "zsh"]

def forbiddenArgvTokens : List String :=
  ["--eval", "--exec", "-c", "-e", "add", "install", "login", "publish", "remove", "uninstall",
    "update", "upgrade"]

/-- `Path(text).name.casefold()` without `.exe`. -/
def executableName (text : String) : String :=
  let name := tools.casefold (String.ofList ((Trust.posixParts text.toList).getLast?.getD []))
  if ".exe".toList.isSuffixOf name.toList then
    String.ofList (name.toList.take (name.toList.length - 4))
  else name

def tokenFindings (token : String) : List String :=
  let normalized := tools.casefold (Text.strip token)
  (if forbiddenArgvTokens.contains normalized then ["FORBIDDEN_ARGV_TOKEN:" ++ normalized] else []) ++
    if hasControl normalized then ["ARGV_CONTROL_CHARACTER"] else []

def commandFindings (action : Members) : List String :=
  match argvOf action with
  | [] => ["EMPTY_ARGV"]
  | command :: tokens =>
      let executable := executableName tools command
      (if forbiddenExecutables.contains executable then ["FORBIDDEN_EXECUTABLE:" ++ executable]
        else []) ++ tokens.flatMap (tokenFindings tools)

def commandSafetyFindings (actions : List Members) : List String :=
  distinct (actions.flatMap (commandFindings tools))

/-! ## Compatibility and budgets -/

/-- `_versions_match`; the required versions of a valid recipe are a mapping. -/
def versionsMatch (required observed : Value) : Bool :=
  match required, observed with
  | .dict required, .dict observed =>
      required.all fun entry => pythonEqual tools.floats (Value.get observed entry.1) entry.2
  | _, _ => false

/-- The findings about the expiry of a recipe. -/
def expiryFindings (recipe : Members) (now : Rat) : List String :=
  match Value.get recipe "expires_at" with
  | .str text =>
      match tools.readTime text with
      | some expiry => if expiry ≤ now then ["RECIPE_EXPIRED"] else []
      | none => ["RECIPE_EXPIRY_INVALID"]
  | _ => ["RECIPE_EXPIRY_MISSING"]

/-- `match.fingerprint_hash` of a valid recipe. -/
def fingerprintOf (recipe : Members) : Option String :=
  (Value.get ((Value.get recipe "match").asDict.getD []) "fingerprint_hash").asText

/-- `recipe_compatibility`, of a valid recipe with the fingerprint of the incident. -/
def recipeCompatibility (recipe : Members) (fingerprint : String)
    (context : Members) (now : Rat) : List String :=
  let compatibility := (Value.get recipe "compatibility").asDict.getD []
  let hashes := (Value.get compatibility "policy_hashes").asList.getD []
  (if fingerprintOf recipe = some fingerprint then [] else ["FINGERPRINT_NOT_EXACT"]) ++
  (if hashes.any (pythonEqual tools.floats (Value.get context "policy_hash")) then []
    else ["POLICY_HASH_NOT_COMPATIBLE"]) ++
  (if versionsMatch tools (Value.get compatibility "tool_versions")
      (Value.getOr context "tool_versions" (.dict [])) then [] else ["TOOL_VERSION_NOT_EXACT"]) ++
  (if versionsMatch tools (Value.get compatibility "runtime_versions")
      (Value.getOr context "runtime_versions" (.dict [])) then []
    else ["RUNTIME_VERSION_NOT_EXACT"]) ++
  expiryFindings tools recipe now

/-- `_safe_metric`: the number, and the finding when it is not one. -/
def safeMetric (context : Members) (key : String) (integer : Bool) :
    Rat × List String :=
  let value := Value.getOr context key (.int 0)
  let invalid := ["INVALID_BUDGET_METRIC:" ++ key]
  match jsonNumber tools.floats value with
  | some number =>
      if number < 0 || (integer && (intOf value).isNone) then (0, invalid) else (number, [])
  | none => (0, invalid)

/-- `_budget_findings`. -/
def budgetFindings (context config : Members) (actionCount additionalFiles : Nat) :
    List String :=
  let (attempts, attemptsInvalid) := safeMetric tools context "attempts" true
  let (elapsed, elapsedInvalid) := safeMetric tools context "elapsed_seconds" false
  let (changedFiles, filesInvalid) := safeMetric tools context "changed_files" true
  let (cost, costInvalid) := safeMetric tools context "monetary_cost" false
  attemptsInvalid ++ elapsedInvalid ++ filesInvalid ++ costInvalid ++
    (if budget config "max_attempts" ≤ attempts then ["ATTEMPT_BUDGET_EXHAUSTED"] else []) ++
    (if budget config "max_elapsed_seconds" < elapsed then ["TIME_BUDGET_EXHAUSTED"] else []) ++
    (if budget config "max_changed_files" < changedFiles + additionalFiles then
      ["CHANGED_FILES_BUDGET_EXHAUSTED"] else []) ++
    (if budget config "max_actions" < (actionCount : Int) then ["ACTION_BUDGET_EXHAUSTED"] else []) ++
    (if cost ≠ 0 then ["NON_ZERO_COST"] else []) ++
    (if isTrue (Value.get context "ai_api_required") then ["AI_API_REQUIRED"] else [])

/-- `_circuit_open`. -/
def circuitOpen (circuit : Value) (fingerprint : String) (key : Option String) : Bool :=
  match circuit with
  | .dict fields =>
      isTrue (Value.get fields "global_open") ||
      match tools.membersOr (Value.get fields "fingerprints"),
          tools.membersOr (Value.get fields "recipes") with
      | .ok fingerprints, .ok recipes =>
          match Value.getOr fingerprints fingerprint (.dict []),
              key.elim (.dict []) fun key => Value.getOr recipes key (.dict []) with
          | .dict fingerprintState, .dict recipeState =>
              isTrue (Value.get fingerprintState "open") ||
                (key.isSome && isTrue (Value.get recipeState "open"))
          | _, _ => true
      | _, _ => true
  | _ => true

/-- `f"{recipe_id}@{version}"`. -/
def keyOf (recipeId version : Value) : String :=
  tools.text recipeId ++ "@" ++ tools.text version

/-- The key of a recipe, which reads its members. -/
def recipeKey (recipe : Members) : Except String String :=
  match recipe.lookup "recipe_id", recipe.lookup "version" with
  | some recipeId, some version => .ok (keyOf tools recipeId version)
  | _, _ => .error "KeyError"

/-- What the search for a recipe makes of one: a candidate, or the reasons against it. -/
def judgeRecipe (fingerprint : String) (context : Members) (now : Rat)
    (recipe : Members) : Except String (Option Members × List String) := do
  if fingerprintOf recipe ≠ some fingerprint then return (none, [])
  let findings := recipeCompatibility tools recipe fingerprint context now
  if findings ≠ [] then
    let key ← recipeKey tools recipe
    return (none, findings.map fun finding => key ++ ":" ++ finding)
  if lifecycleOf recipe = some .active then return (some recipe, [])
  let key ← recipeKey tools recipe
  if lifecycleOf recipe = some .shadow then return (none, [key ++ ":SHADOW_ONLY"])
  return (none, [key ++ ":NOT_ACTIVE"])

/-- The findings about the actions of a candidate. -/
def actionFindings (config context : Members) (actions : List Members) :
    List String :=
  let written := (actions.flatMap writesOf).map normalizeRelativePath
  let unsafeWrites := (actions.flatMap writesOf).filter fun path =>
    (normalizeRelativePath path).toOption.isNone
  protectedPathFindings tools actions (protectedPaths config) ++ commandSafetyFindings tools actions ++
    (if actions.any fun action => isTrue (Value.get action "destructive") then
      ["DESTRUCTIVE_ACTION_FORBIDDEN"] else []) ++
    (if (actions.any fun action => isTrue (Value.get action "network")) ∧
        ¬isTrue (Value.get config "allow_network") then ["NETWORK_ACTION_FORBIDDEN"] else []) ++
    (if actions.any fun action => isTrue (Value.get action "requires_ai_api") then
      ["AI_API_ACTION_FORBIDDEN"] else []) ++
    unsafeWrites.map (fun path => "UNSAFE_PATH:" ++ path) ++
    budgetFindings tools context config actions.length
      ((written.filterMap Except.toOption).dedup).length

/-- The decision about the only candidate. -/
def applyCandidate (config context : Members) (circuit : Value)
    (fingerprint : String) (recipe : Members) : Except String Decision := do
  let key ← recipeKey tools recipe
  if circuitOpen tools circuit fingerprint (some key) then
    return baseDecision .h5 .humanRequired ["RECIPE_CIRCUIT_BREAKER_OPEN"]
  let actions := (Value.get recipe "actions").asList.getD []
  let findings := actionFindings tools config context (actions.filterMap Value.asDict)
  if findings ≠ [] then
    return baseDecision .h5 .humanRequired (distinct findings)
  return { baseDecision .h3 .allow ["ACTIVE_RECIPE_EXACT_MATCH"] with
    automaticChange := true
    requiresNextLevel := some .h4
    recipe := some
      { recipeId := Value.get recipe "recipe_id", version := Value.get recipe "version",
        digest := tools.digest (.dict recipe), actions } }

/-! ## The decision -/

/-- `set(value or [])`, whose members must be hashable. -/
def setOr (value : Value) : Except String (List Value) := do
  let items ← tools.listOr value
  require (items.all fun item => item.asList.isNone && item.asDict.isNone) "TypeError"
  return items

/-- `incident.fingerprint.hash`, when it is a digest. -/
def incidentFingerprint (incident : Members) : Option String :=
  ((Value.get ((Value.get incident "fingerprint").asDict.getD []) "hash").asText).filter Text.isSha256

/-- The class of the failure. -/
def classificationOf (incident : Members) : String :=
  match Value.get incident "classification" with
  | .dict record => tools.text (Value.getOr record "type" (.str "UNKNOWN"))
  | _ => "UNKNOWN"

/-- The decision about a transient failure. -/
def transientDecision (attempts : Rat) (config : Members) : Decision :=
  if attempts = 0 then
    { baseDecision .h1 .allow ["EXACT_TRANSIENT_CLASS"] with requiresNextLevel := some .h4 }
  else if attempts < budget config "max_attempts" then
    { baseDecision .h2 .allow ["TRANSIENT_RECURRED_RECREATE_DISPOSABLE"] with
      automaticChange := true, requiresNextLevel := some .h4 }
  else baseDecision .h5 .humanRequired ["TRANSIENT_RETRY_BUDGET_EXHAUSTED"]

/-- The decision when no recipe applies. -/
def escalation (deterministic : Bool) (rejected : List String) : Decision :=
  baseDecision .h5 .humanRequired
    ((if deterministic then ["DETERMINISTIC_FAILURE_NO_BLIND_RETRY"]
      else ["UNKNOWN_FAILURE_NO_RECIPE"]) ++
      if rejected = [] then [] else "RECIPE_COMPATIBILITY_REJECTED" :: (sorted rejected).take 10)

/-- `evaluate_healing`. -/
def evaluateHealing (incident : Members) (registry config : Value)
    (context : Members) (circuit : Value) (now : Rat) : Except String Decision := do
  validateHealingConfig tools config
  validateRecipeRegistry tools registry
  let config := config.asDict.getD []
  let some fingerprint := incidentFingerprint incident
    | return baseDecision .h0 .block ["INCIDENT_FINGERPRINT_NOT_VERIFIED"]
  if (Value.get context "policy_result").asText ≠ some "ALLOW" then
    return baseDecision .h0 .block ["POLICY_NOT_ALLOW"]
  let findings := budgetFindings tools context config 0 0
  if findings ≠ [] then return baseDecision .h5 .humanRequired findings
  if circuitOpen tools circuit fingerprint none then
    return baseDecision .h5 .humanRequired ["CIRCUIT_BREAKER_OPEN"]
  let transient ← setOr tools (Value.get config "transient_failure_types")
  let deterministic ← setOr tools (Value.get config "deterministic_failure_types")
  let isIn (types : List Value) : Bool :=
    types.any fun item => item.asText = some (classificationOf tools incident)
  if isIn transient then
    return transientDecision (safeMetric tools context "attempts" true).1 config
  let judged ← (recipesOf registry).mapM (judgeRecipe tools fingerprint context now)
  match judged.filterMap Prod.fst with
  | [] => return escalation (isIn deterministic) (judged.flatMap Prod.snd)
  | [recipe] => applyCandidate tools config context circuit fingerprint recipe
  | _ => return baseDecision .h5 .humanRequired ["MULTIPLE_ACTIVE_RECIPES"]

end Adwf.Healing

/-!
## The verification of a sandbox result

`verify_h4` compares what a recipe has changed in the sandbox with what it declared.
-/

namespace Adwf.Healing

open Contracts Fallible JsonText

/-- What `verify_h4` returns: a decision, and the verified revision with the digest of the
recipe. -/
structure SandboxDecision where
  decision : Decision
  evidence : Option (Value × Value)

def blockedSandbox (code : String) : SandboxDecision :=
  ⟨baseDecision .h4 .block [code], none⟩

/-- The texts of a list of the context. -/
def contextPaths (tools : Tools) (context : Members) (key : String) : List String :=
  ((Value.get context key).asList.getD []).map tools.text

/-- The action that writes the paths. -/
def writing (paths : List String) : Members :=
  [("writes", .list (paths.map .str))]

/-- The paths that the sandbox has changed, against the declared ones. -/
def verifyChangedPaths (tools : Tools) (context config : Members) : SandboxDecision :=
  match (contextPaths tools context "actual_changed_paths").mapM normalizeRelativePath,
      (contextPaths tools context "declared_changed_paths").mapM normalizeRelativePath with
  | .ok actual, .ok declared =>
      if ¬actual ⊆ declared then blockedSandbox "H4_UNDECLARED_WRITE"
      else
        let written := distinct actual
        let findings := protectedPathFindings tools [writing written] (protectedPaths config) ++
          budgetFindings tools context config 0 written.length
        if findings ≠ [] then ⟨baseDecision .h4 .block (distinct findings), none⟩
        else
          ⟨{ baseDecision .h4 .verified ["EXACT_SANDBOX_RESULT_VERIFIED"] with
              requiresNextLevel := some .h6 },
            some (Value.get context "verified_sha", Value.get context "recipe_digest")⟩
  | _, _ => blockedSandbox "H4_CHANGED_PATH_UNSAFE"

/-- `verify_h4`. -/
def verifyH4 (tools : Tools) (context : Members) (config : Value) :
    Except String SandboxDecision := do
  validateHealingConfig tools config
  let config := config.asDict.getD []
  let get := Value.get context
  let differ (left right : Value) : Bool := !pythonEqual tools.floats left right
  if ["target_sha", "verified_sha", "recipe_digest", "applied_recipe_digest"].any
      fun name => !tools.truthy (get name) then
    return blockedSandbox "H4_EVIDENCE_MISSING"
  if !Text.isSha40 (tools.text (get "target_sha")) ||
      !Text.isSha40 (tools.text (get "verified_sha")) then
    return blockedSandbox "H4_SHA_INVALID"
  if !Text.isSha256 (tools.text (get "recipe_digest")) ||
      !Text.isSha256 (tools.text (get "applied_recipe_digest")) then
    return blockedSandbox "H4_RECIPE_DIGEST_INVALID"
  if differ (get "target_sha") (get "verified_sha") ||
      differ (get "recipe_digest") (get "applied_recipe_digest") then
    return blockedSandbox "H4_EXACT_EVIDENCE_MISMATCH"
  if !isTrue (get "sandbox") then return blockedSandbox "H4_SANDBOX_NOT_VERIFIED"
  if (get "targeted_gates").asText ≠ some "PASS" ∨ (get "full_gates").asText ≠ some "PASS" ∨
      (get "policy_result").asText ≠ some "ALLOW" then
    return blockedSandbox "H4_GATES_NOT_PASS"
  if (get "actual_changed_paths").asList.isNone || (get "declared_changed_paths").asList.isNone then
    return blockedSandbox "H4_CHANGED_PATH_EVIDENCE_MISSING"
  return verifyChangedPaths tools context config

theorem verifyChangedPaths_of_verified {tools : Tools} {context config : Members}
    (verified : (verifyChangedPaths tools context config).decision.result = .verified) :
    ∃ actual declared,
      (contextPaths tools context "actual_changed_paths").mapM normalizeRelativePath = .ok actual ∧
      (contextPaths tools context "declared_changed_paths").mapM normalizeRelativePath =
        .ok declared ∧ actual ⊆ declared ∧
      protectedPathFindings tools [writing (distinct actual)] (protectedPaths config) = [] ∧
      budgetFindings tools context config 0 (distinct actual).length = [] := by
  unfold verifyChangedPaths at verified
  split at verified
  · rename_i actual declared readActual readDeclared
    refine ⟨actual, declared, readActual, readDeclared, ?_⟩
    split_ifs at verified with declaredAll
    · dsimp only at verified
      split_ifs at verified with found
      · cases verified
      · exact ⟨declaredAll, List.append_eq_nil_iff.mp (not_not.mp found)⟩
    · cases verified
  · cases verified

theorem verifyH4_of_verified {tools : Tools} {context : Members} {config : Value}
    {result : SandboxDecision} (ran : verifyH4 tools context config = .ok result)
    (verified : result.decision.result = .verified) :
    verifyChangedPaths tools context (config.asDict.getD []) = result := by
  obtain ⟨_, _, ran⟩ := bind_ok_iff.mp ran
  dsimp only at ran
  split_ifs at ran
  all_goals
    cases ran
    first | rfl | cases verified

theorem normalizeRelativePath_idem {raw path : String}
    (normal : normalizeRelativePath raw = .ok path) : normalizeRelativePath path = .ok path := by
  obtain ⟨_, required, ran⟩ := bind_ok_iff.mp normal
  obtain ⟨_, filled, noParent⟩ := (require_eq_ok_iff _ _ _).mp required
  cases ran
  generalize shown : (raw.toList.map fun char => if char = '\\' then '/' else char) = chars at *
  have noBackslash : '\\' ∉ chars := by
    rw [← shown, List.mem_map]
    rintro ⟨char, _, same⟩
    split_ifs at same with escaped
    · cases same
    · exact escaped same
  have plain : ∀ part ∈ Trust.posixParts chars, '/' ∉ part ∧ part ≠ [] ∧ part ≠ ['.'] := by
    intro part mem
    obtain ⟨listed, kept⟩ := List.mem_filter.mp mem
    exact ⟨(Trust.of_mem_splitOn listed).1, of_decide_eq_true kept⟩
  have text : (Trust.asPosix (Trust.posixParts chars)).toList =
      ['/'].intercalate (Trust.posixParts chars) := by
    rw [Trust.asPosix, if_neg filled, String.toList_ofList]
  have same : ((Trust.asPosix (Trust.posixParts chars)).toList.map
      fun char => if char = '\\' then '/' else char) =
        ['/'].intercalate (Trust.posixParts chars) := by
    rw [text]
    refine (List.map_congr_left fun char mem => ?_).trans (List.map_id _)
    rcases Text.mem_intercalate mem with rfl | ⟨part, listed, inside⟩
    · rfl
    · refine if_neg fun escaped => noBackslash ?_
      rw [escaped] at inside
      exact (Trust.of_mem_splitOn (List.mem_filter.mp listed).1).2 inside
  have relative : (['/'].intercalate (Trust.posixParts chars)).head? ≠ some '/' := by
    cases parts : Trust.posixParts chars with
    | nil => exact absurd parts filled
    | cons first rest =>
        obtain ⟨noSlash, notEmpty, _⟩ := plain first (parts ▸ List.mem_cons_self)
        obtain ⟨char, tail, rfl⟩ := List.exists_cons_of_ne_nil notEmpty
        intro absolute
        have isFirst : char = '/' := by
          by_cases alone : rest = []
          · simpa [alone] using absolute
          · simpa [List.intercalate_cons_of_ne_nil alone] using absolute
        exact noSlash (isFirst ▸ List.mem_cons_self)
  rw [normalizeRelativePath, same, Trust.posixParts_intercalate filled plain]
  rw [require_bind_of ⟨relative, filled, noParent⟩]
  rfl

end Adwf.Healing
