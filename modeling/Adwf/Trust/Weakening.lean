import Adwf.Trust.Paths
import Adwf.Value.Json
import Adwf.Value.Regex

/-!
# Weakened gates

`detect_gate_weakening` compares the two texts of a protected file: as JSON
documents where both are, and by the protective phrases they contain.
-/

namespace Adwf.Trust

open Fallible

/-! ## Changes between two JSON documents -/

/-- `_SAFE_TRUE_KEYS`. -/
def safeTrueKeys : Regex :=
  .anyOf (["required", "enforce", "guard", "protected", "independent", "human", "fail_closed",
    "runtime_truth", "separate_trust", "block", "forbid", "mandatory"].map .folded)

/-- `_DANGEROUS_TRUE_KEYS`. -/
def dangerousTrueKeys : Regex :=
  .anyOf [.seq (.folded "allow_")
      (.anyOf (["overage", "credit", "metered", "unknown", "paid"].map .folded)),
    .folded "secondary_write",
    .seq (.folded "automatic_") (.anyOf (["merge", "execution"].map .folded)),
    .folded "a4_automatic", .folded "larger_runners_allowed"]

/-- The paths at which a list is one of requirements. -/
def requirementLists : Regex :=
  .anyOf (["checks", "tests", "protected", "required", "paths"].map .folded)

/-- `_AUTONOMY`. -/
def autonomyLevels : List String :=
  ["A0", "A1", "A2", "A3", "A4"]

/-- `_RISK`. -/
def riskLevels : List String :=
  ["R0", "R1", "R2", "R3", "R4"]

/-- The rank of a value that is a key of the table; an unhashable one raises. -/
def rankIn (levels : List String) : Json → Option (Option Nat)
  | .arr _ => none
  | .obj _ => none
  | .str text => some (levels.idxOf? text)
  | _ => some none

/-- Both values are in the table and the new one ranks higher. -/
def rankIncreased (levels : List String) (old new : Json) : Option Bool := do
  match ← rankIn levels old with
  | none => return false
  | some before =>
      match ← rankIn levels new with
      | none => return false
      | some after => return before < after

/-- `[reason] if condition else []`. -/
def reasonIf (condition : Prop) [Decidable condition] (reason : String) : List String :=
  if condition then [reason] else []

theorem reasonIf_ne_nil_iff {condition : Prop} [Decidable condition] {reason : String} :
    reasonIf condition reason ≠ [] ↔ condition := by
  unfold reasonIf
  split_ifs with holds
  · simp [holds]
  · simp [holds]

theorem reasonIf_eq_nil_iff {condition : Prop} [Decidable condition] {reason : String} :
    reasonIf condition reason = [] ↔ ¬condition := by
  rw [← not_iff_not, not_not]
  exact reasonIf_ne_nil_iff

theorem eraseDups_eq_nil_iff {reasons : List String} : reasons.eraseDups = [] ↔ reasons = [] := by
  cases reasons with
  | nil => simp
  | cons reason reasons => simp [List.eraseDups_cons]

/-- A member that the new object does not have. -/
def removalReasons (key child : String) : List String :=
  reasonIf (safeTrueKeys.search key = true ∨ key ∈ ["tests", "checks", "required_status_checks"])
    ("SAFETY_CONTROL_REMOVED:" ++ child)

/-- The comparison of two budgets; `float` may refuse either. -/
def budgetReasons (rt : Runtime) (key child : String) (old new : Json) : List String :=
  if key ∈ ["hard_budget_usd", "monetary_budget"] then
    match rt.float new, rt.float old with
    | .ok after, .ok before => reasonIf (before < after) ("MONETARY_BUDGET_INCREASED:" ++ child)
    | _, _ => ["MONETARY_BUDGET_INVALID:" ++ child]
  else []

/-- The comparison of two levels. -/
def levelReasons (keys levels : List String) (reason key child : String) (old new : Json) :
    Option (List String) :=
  if key ∈ keys then do
    let increased ← rankIncreased levels old new
    return reasonIf (increased = true) (reason ++ child)
  else some []

/-- A member that both objects have. -/
def memberReasons (rt : Runtime) (key child : String) (old new : Json) :
    Option (List String) := do
  let autonomy ← levelReasons ["requested_autonomy", "active_autonomy"] autonomyLevels
    "AUTONOMY_INCREASED:" key child old new
  let risk ← levelReasons ["max_autonomous_risk"] riskLevels "AUTONOMOUS_RISK_INCREASED:" key
    child old new
  return reasonIf (old = .bool true ∧ new = .bool false ∧ safeTrueKeys.search key = true)
      ("SAFETY_TRUE_TO_FALSE:" ++ child) ++
    reasonIf (old = .bool false ∧ new = .bool true ∧ dangerousTrueKeys.search key = true)
      ("DANGEROUS_FALSE_TO_TRUE:" ++ child) ++
    budgetReasons rt key child old new ++ autonomy ++ risk

mutual

/-- `_walk_changes`; `none` is a `TypeError`. -/
def walkChanges (rt : Runtime) : Json → Json → String → Option (List String)
  | .obj olds, .obj news, path => walkMembers rt olds news path
  | .arr olds, .arr news, path =>
      let removed := news.foldl List.erase olds
      some (reasonIf (removed ≠ [] ∧ requirementLists.search path = true)
        ("REQUIRED_LIST_ITEMS_REMOVED:" ++ path))
  | _, _, _ => some []

/-- The loop over the keys of two objects: a key of the new object alone adds nothing. -/
def walkMembers (rt : Runtime) : Fields → Fields → String → Option (List String)
  | [], _, _ => some []
  | (key, old) :: olds, news, path => do
      let child := path ++ "." ++ key
      let found : Option (List String) :=
        match news.lookup key with
        | none => some (removalReasons key child)
        | some new => do
            let here ← memberReasons rt key child old new
            let below ← walkChanges rt old new child
            return here ++ below
      let first ← found
      let others ← walkMembers rt olds news path
      return first ++ others

end

/-! ## Changes between two texts -/

/-- What `strict_json.loads` does with a text. -/
inductive Loaded where
  | value (content : Json)
  /-- `json.JSONDecodeError`. -/
  | malformed
  /-- Any other error, a repeated key for one. -/
  | refused (error : String)
  deriving DecidableEq

/-- The loader and `str.lower`. -/
structure TextTools where
  loads : String → Loaded
  lower : String → String

/-- `[A-Za-z0-9_.-]` in any case. -/
def isNameChar (char : Char) : Bool :=
  Text.isAlphanumeric (Regex.foldCase char) || char = '_' || char = '.' || char = '-'

/-- `:\s*`. -/
def colonSpace : Regex :=
  .seq (.literal ":") (.many 0 none Text.isSpace)

/-- The phrases that protect a text. -/
def protective : Regex :=
  .anyOf [.seq (.folded "validate_") (.many 1 none isNameChar), .folded "self-test",
    .folded "unittest", .seq (.folded "required_status") (.many 0 none isNameChar),
    .folded "human-gated",
    .seq (.folded "fail") (.seq (.optional (· ∈ ['_', ' ', '-'])) (.folded "closed")),
    .seq (.anyOf (["contents", "issues", "checks", "pull-requests"].map .folded))
      (.seq colonSpace (.folded "read")),
    .seq (.anyOf (["required", "enforce", "protected", "independent"].map .folded))
      (.seq (.many 0 (some 80) fun char => char ≠ ',' ∧ char ≠ '\n')
        (.anyOf (["true", "yes"].map .folded)))]

/-- A permission to write. -/
def writePermission : Regex :=
  .seq (.anyOf (["contents", "issues", "checks", "pull-requests", "id-token"].map .literal))
    (.seq colonSpace (.literal "write"))

/-- A quotation mark of either kind. -/
def isQuote (char : Char) : Bool :=
  char.toNat = 34 || char.toNat = 39

/-- A mode that fails open. -/
def openFailMode : Regex :=
  .seq (.anyOf (["fail_mode", "fail-mode"].map .folded))
    (.seq colonSpace (.seq (.optional isQuote) (.folded "OPEN")))

/-- The protective phrases of a text, in lower case. -/
def TextTools.markers (tools : TextTools) (text : String) : List String :=
  (protective.findAll text).map tools.lower

/-- The reasons in two texts that are JSON documents. -/
def documentReasons (rt : Runtime) (tools : TextTools) (old new : String) :
    Except String (List String) :=
  match tools.loads old with
  | .malformed => .ok []
  | .refused error => .error error
  | .value before =>
      match tools.loads new with
      | .malformed => .ok []
      | .refused error => .error error
      | .value after => .ok ((walkChanges rt before after "$").getD [])

/-- The reasons in the phrases of two texts. -/
def phraseReasons (tools : TextTools) (normalized old new : String) : List String :=
  reasonIf (∃ marker ∈ tools.markers old, marker ∉ tools.markers new)
      ("PROTECTIVE_LINE_REMOVED:" ++ normalized) ++
    reasonIf (writePermission.search new = true ∧ writePermission.search old = false)
      ("PERMISSION_EXPANDED:" ++ normalized) ++
    reasonIf (openFailMode.search new = true) ("FAIL_MODE_OPEN:" ++ normalized)

def detectGateWeakening (rt : Runtime) (tools : TextTools) (path : String)
    (oldText newText : Option String) (status : String) : Except String (List String) := do
  let normalized ← normalizeRepoPath path
  if Text.startsWith status.toUpper "D" then
    return ["PROTECTED_FILE_DELETED:" ++ normalized]
  match newText, oldText with
  | none, _ => return ["PROTECTED_FILE_DELETED:" ++ normalized]
  | some _, none => return []
  | some new, some old => do
      let structural ← documentReasons rt tools old new
      return (structural ++ phraseReasons tools normalized old new).eraseDups

variable {rt : Runtime} {tools : TextTools} {path status : String}

/-- A file without findings is not deleted. -/
theorem kept_of_detect_eq_nil {oldText newText : Option String}
    (intact : detectGateWeakening rt tools path oldText newText status = .ok []) :
    (∃ normalized, normalizeRepoPath path = .ok normalized) ∧
      Text.startsWith status.toUpper "D" = false ∧ newText ≠ none := by
  simp only [detectGateWeakening, bind_ok_iff] at intact
  rcases intact with ⟨normalized, read, found⟩
  split_ifs at found with deletes
  · cases found
  · refine ⟨⟨normalized, read⟩, Bool.eq_false_iff.mpr deletes, ?_⟩
    rintro rfl
    cases found

/-- With one text missing nothing is parsed. -/
theorem exists_detect_of_read {normalized : String} {oldText newText : Option String}
    (read : normalizeRepoPath path = .ok normalized) (half : oldText = none ∨ newText = none) :
    ∃ reasons, detectGateWeakening rt tools path oldText newText status = .ok reasons := by
  rw [detectGateWeakening, read, ok_bind]
  split_ifs
  · exact ⟨_, rfl⟩
  · rcases half with rfl | rfl
    · cases newText with
      | none => exact ⟨_, rfl⟩
      | some text => exact ⟨_, rfl⟩
    · exact ⟨_, rfl⟩

theorem detect_of_new {normalized new : String} (read : normalizeRepoPath path = .ok normalized)
    (kept : Text.startsWith status.toUpper "D" = false) :
    detectGateWeakening rt tools path none (some new) status = .ok [] := by
  rw [detectGateWeakening, read, ok_bind, if_neg (Bool.eq_false_iff.mp kept)]
  rfl

end Adwf.Trust
