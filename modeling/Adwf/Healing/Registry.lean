import Adwf.Contracts.Equality
import Adwf.JsonText.Value
import Adwf.Trust.Paths

/-!
# The healing configuration and the recipe registry

What `healing.py` requires of the two documents it reads, and the lifecycle of a
recipe.
-/

namespace Adwf.Healing

open Contracts Fallible JsonText

variable (tools : Tools)

/-- The parts of the standard library the module uses. -/
structure Tools where
  floats : Floats
  /-- `str` of a value that is not a text. -/
  textOf : Value → String
  /-- `str.casefold`. -/
  casefold : String → String
  /-- `fnmatchcase`. -/
  globMatches : String → String → Bool
  /-- `datetime.fromisoformat` with `+00:00` for `Z`, in UTC. -/
  readTime : String → Option Rat
  /-- `incidents.digest`. -/
  digest : Value → String
  /-- `value + 1`. -/
  increment : FloatToken → FloatToken
  /-- `value >= number`. -/
  atLeast : FloatToken → Int → Bool

/-- `bool(value)`. -/
def Tools.truthy : Value → Bool
  | .null => false
  | .bool value => value
  | .int value => value ≠ 0
  | .float token => tools.floats.value token ≠ some 0
  | .str text => text ≠ ""
  | .list items => !items.isEmpty
  | .dict fields => !fields.isEmpty

/-- `str(value)`. -/
def Tools.text (tools : Tools) : Value → String
  | .str text => text
  | value => tools.textOf value

/-- `(value or {})`, whose members are read. -/
def Tools.membersOr : Value → Except String Members
  | .dict fields => .ok fields
  | value => if tools.truthy value then .error "AttributeError" else .ok []

/-- `value is True`. -/
def isTrue : Value → Bool
  | .bool value => value
  | _ => false

/-- `value is False`. -/
def isFalse : Value → Bool
  | .bool value => !value
  | _ => false

/-- `isinstance(value, bool)`. -/
def isBool : Value → Bool
  | .bool _ => true
  | _ => false

/-- A value that is an `int`; a boolean is one. -/
def intOf : Value → Option Int
  | .int value => some value
  | .bool value => some (if value then 1 else 0)
  | _ => none

/-- A text that is not empty. -/
def isFilled (value : Value) : Bool :=
  value.asText.any fun text => text ≠ ""

/-- `value == 0`. -/
def Tools.isZero (value : Value) : Bool :=
  pythonEqual tools.floats value (.int 0)

/-- `value in names` for a set of texts. -/
def inSet (names : List String) : Value → Except String Bool
  | .list _ | .dict _ => .error "TypeError"
  | .str text => .ok (names.contains text)
  | _ => .ok false

/-! ## The configuration -/

def defaultProtectedPaths : List String :=
  [".git/**", ".github/workflows/**", ".adwf/policies/**", ".adwf/schemas/**",
    ".adwf/actions-lock.json", ".adwf/providers.json", ".adwf/config.json",
    ".adwf/healing-config.json", ".adwf/lib/healing.py", ".adwf/effective-policy.json",
    ".adwf/knowledge/recipes/**", ".adwf/knowledge/incidents/**",
    ".adwf/knowledge/regressions/**", "**/.env", "**/.env.*", "**/*secret*", "**/*credential*"]

def budgetKeys : List String :=
  ["max_attempts", "max_elapsed_seconds", "max_actions", "max_changed_files", "max_false_heals"]

def validateHealingConfig : Value → Except String Unit
  | .dict config => do
      require (isTrue (Value.get config "enabled")) "HEALING_CONFIG_DISABLED_OR_INVALID"
      require (isFalse (Value.get config "mandatory_ai_api")) "HEALING_AI_API_MUST_BE_OPTIONAL"
      require (tools.isZero (Value.get config "monetary_budget")) "HEALING_MONETARY_BUDGET_NOT_ZERO"
      let budgets ← tools.membersOr (Value.get config "budgets")
      budgetKeys.forM fun key =>
        require ((intOf (Value.get budgets key)).any fun number => 0 ≤ number)
          ("HEALING_BUDGET_INVALID:" ++ key)
      match Value.get config "protected_paths" with
      | .list paths => do
          require (!paths.isEmpty ∧ paths.all isFilled) "HEALING_PROTECTED_PATHS_MISSING"
          require (defaultProtectedPaths.all fun path =>
            paths.any fun item => item.asText = some path) "HEALING_DEFAULT_PROTECTION_WEAKENED"
      | _ => .error "HEALING_PROTECTED_PATHS_MISSING"
  | _ => .error "HEALING_CONFIG_DISABLED_OR_INVALID"

/-- `config["budgets"][key]` of a configuration that is valid. -/
def budget (config : Members) (key : String) : Int :=
  (intOf (Value.get ((Value.get config "budgets").asDict.getD []) key)).getD 0

/-- `config["protected_paths"]` of a configuration that is valid. -/
def protectedPaths (config : Members) : List String :=
  ((Value.get config "protected_paths").asList.getD []).filterMap Value.asText

/-! ## Recipes -/

/-- `RECIPE_STATES`. -/
inductive Lifecycle where
  | draft
  | shadow
  | certified
  | active
  | quarantined
  | retired
  deriving DecidableEq

namespace Lifecycle

def name : Lifecycle → String
  | draft => "DRAFT"
  | shadow => "SHADOW"
  | certified => "CERTIFIED"
  | active => "ACTIVE"
  | quarantined => "QUARANTINED"
  | retired => "RETIRED"

def ofName : String → Option Lifecycle
  | "DRAFT" => some draft
  | "SHADOW" => some shadow
  | "CERTIFIED" => some certified
  | "ACTIVE" => some active
  | "QUARANTINED" => some quarantined
  | "RETIRED" => some retired
  | _ => none

/-- `RECIPE_TRANSITIONS`. -/
def next : Lifecycle → List Lifecycle
  | draft => [shadow, retired]
  | shadow => [certified, quarantined, retired]
  | certified => [active, quarantined, retired]
  | active => [quarantined, retired]
  | quarantined => [shadow, retired]
  | retired => []

end Lifecycle

/-- `recipe.get("lifecycle")`, when it is one. -/
def lifecycleOf (recipe : Members) : Option Lifecycle :=
  (Value.get recipe "lifecycle").asText.bind Lifecycle.ofName

def minShadowPasses : Int := 2

/-- `REC-[A-Z0-9][A-Z0-9_-]{2,63}`. -/
def isRecipeId (text : String) : Bool :=
  Text.startsWith text "REC-" &&
    match text.toList.drop 4 with
    | [] => false
    | first :: rest =>
        (Text.isUpper first || Text.isDigit first) && 2 ≤ rest.length && rest.length ≤ 63 &&
          rest.all fun char => Text.isUpper char || Text.isDigit char || char = '_' || char = '-'

/-- `SEMVERISH`. -/
def isVersion (text : String) : Bool :=
  match text.toList with
  | [] => false
  | first :: rest =>
      Text.isAlphanumeric first && rest.length ≤ 63 &&
        rest.all fun char => Text.isAlphanumeric char || ['.', '_', '+', '-'].contains char

/-- A mapping of nonempty texts to nonempty texts. -/
def isVersions : Value → Bool
  | .dict versions => versions.all fun entry => entry.1 ≠ "" && isFilled entry.2
  | _ => false

def hasControl (text : String) : Bool :=
  text.toList.any fun char => char = '\x00' || char = '\n' || char = '\r'

/-- `_validate_action_shape`. -/
def validateActionShape : Value → Except String Unit
  | .dict action => do
      let level ← inSet ["H1", "H2", "H3", "H4"] (Value.get action "level")
      require level "RECIPE_ACTION_LEVEL_INVALID"
      let argv := (Value.get action "argv").asList.getD []
      require (!argv.isEmpty ∧ argv.all isFilled) "RECIPE_ACTION_ARGV_INVALID"
      require (!argv.any fun item => item.asText.any hasControl)
        "RECIPE_ACTION_ARGV_CONTROL_CHARACTER"
      require (isTrue (Value.get action "idempotent")) "RECIPE_ACTION_NOT_IDEMPOTENT"
      ["destructive", "network", "requires_ai_api"].forM fun flag =>
        require (isBool (Value.get action flag)) ("RECIPE_ACTION_FLAG_INVALID:" ++ flag)
      require (tools.isZero (Value.get action "monetary_cost")) "RECIPE_ACTION_MONETARY_COST"
      match Value.get action "writes" with
      | .list writes => require (writes.all isFilled) "RECIPE_ACTION_WRITES_INVALID"
      | _ => .error "RECIPE_ACTION_WRITES_INVALID"
  | _ => .error "RECIPE_ACTION_NOT_OBJECT"

/-- The evidence a certified recipe carries. -/
def isCertified (certification : Members) : Bool :=
  isTrue (Value.get certification "independent_approval") &&
    (Value.get certification "certified_at").asText.isSome &&
    match Value.get certification "shadow_passes" with
    | .int passes => minShadowPasses ≤ passes
    | _ => false

/-- The checks of one recipe, its name apart. -/
def validateRecipe (recipe : Members) : Except String Unit := do
  require (isRecipeId (tools.text (Value.get recipe "recipe_id"))) "RECIPE_ID_INVALID"
  require (isVersion (tools.text (Value.get recipe "version"))) "RECIPE_VERSION_INVALID"
  let known ← inSet ["DRAFT", "SHADOW", "CERTIFIED", "ACTIVE", "QUARANTINED", "RETIRED"]
    (Value.get recipe "lifecycle")
  require known "RECIPE_LIFECYCLE_INVALID"
  let .dict pattern := Value.get recipe "match" | .error "RECIPE_MATCH_INVALID"
  require ((Value.get pattern "fingerprint_hash").asText.any Text.isSha256)
    "RECIPE_FINGERPRINT_INVALID"
  let .dict compatibility := Value.get recipe "compatibility" | .error "RECIPE_COMPATIBILITY_INVALID"
  let hashes := (Value.get compatibility "policy_hashes").asList.getD []
  require (!hashes.isEmpty ∧ hashes.all fun item => Text.isSha256 (tools.text item))
    "RECIPE_POLICY_COMPATIBILITY_INVALID"
  require (isVersions (Value.get compatibility "tool_versions")) "RECIPE_TOOL_VERSIONS_INVALID"
  require (isVersions (Value.get compatibility "runtime_versions")) "RECIPE_RUNTIME_VERSIONS_INVALID"
  let .dict certification := Value.get recipe "certification" | .error "RECIPE_CERTIFICATION_INVALID"
  let .int passes := Value.get certification "shadow_passes" | .error "RECIPE_SHADOW_PASSES_INVALID"
  require (0 ≤ passes) "RECIPE_SHADOW_PASSES_INVALID"
  require (isBool (Value.get certification "independent_approval"))
    "RECIPE_CERTIFICATION_APPROVAL_INVALID"
  require (lifecycleOf recipe ∈ [some .certified, some .active] → isCertified certification)
    "RECIPE_CERTIFICATION_EVIDENCE_MISSING"
  let actions := (Value.get recipe "actions").asList.getD []
  require (!actions.isEmpty) "RECIPE_ACTIONS_MISSING"
  actions.forM (validateActionShape tools)

/-- The recipes that follow those with the given names. -/
def validateRecipes (tools : Tools) (seen : List (String × String)) :
    List Value → Except String Unit
  | [] => .ok ()
  | .dict recipe :: recipes => do
      let identity :=
        (tools.text (Value.get recipe "recipe_id"), tools.text (Value.get recipe "version"))
      require (identity ∉ seen) "RECIPE_ID_VERSION_DUPLICATE"
      validateRecipe tools recipe
      validateRecipes tools (identity :: seen) recipes
  | _ :: _ => .error "RECIPE_NOT_OBJECT"

def validateRecipeRegistry : Value → Except String Unit
  | .dict registry =>
      match Value.get registry "recipes" with
      | .list recipes => validateRecipes tools [] recipes
      | _ => .error "RECIPE_REGISTRY_INVALID"
  | _ => .error "RECIPE_REGISTRY_INVALID"

/-- `registry["recipes"]` of a registry that is valid. -/
def recipesOf (registry : Value) : List Members :=
  ((Value.get (registry.asDict.getD []) "recipes").asList.getD []).filterMap Value.asDict

/-- The arguments of a lifecycle transition. -/
structure Transition where
  target : String
  independentApproval : Bool
  shadowPasses : Int
  minShadowPasses : Int
  reason : String
  /-- `_iso(now)`. -/
  at_ : String

/-- `list(value or [])`. -/
def Tools.listOr : Value → Except String (List Value)
  | .list items => .ok items
  | .str text => .ok (text.toList.map fun char => .str (String.singleton char))
  | .dict fields => .ok (fields.map fun field => .str field.1)
  | value => if tools.truthy value then .error "TypeError" else .ok []

/-- A line of the history of a recipe. -/
def historyLine (source target at_ reason : Value) (approval : Bool) : Value :=
  .dict [("at", at_), ("from", source), ("independent_approval", .bool approval),
    ("reason", reason), ("to", target)]

/-- The certification of a recipe that becomes certified. -/
def certification (arguments : Transition) : Value :=
  .dict [("certified_at", .str arguments.at_), ("independent_approval", .bool true),
    ("shadow_passes", .int arguments.shadowPasses)]

/-- `transition_recipe`. -/
def transitionRecipe (recipe : Members) (arguments : Transition) :
    Except String Members := do
  let some current := lifecycleOf recipe | .error "RECIPE_LIFECYCLE_INVALID"
  let some target := Lifecycle.ofName arguments.target | .error "RECIPE_LIFECYCLE_INVALID"
  require (target ∈ current.next)
    ("RECIPE_TRANSITION_FORBIDDEN:" ++ current.name ++ "->" ++ arguments.target)
  require (target ∈ [.certified, .active] → arguments.independentApproval)
    "RECIPE_INDEPENDENT_APPROVAL_REQUIRED"
  require (target = .certified → arguments.minShadowPasses ≤ arguments.shadowPasses)
    "RECIPE_SHADOW_EVIDENCE_INSUFFICIENT"
  if target = .active then
    let evidence ← tools.membersOr (Value.get recipe "certification")
    require (isTrue (Value.get evidence "independent_approval") ∧
      tools.truthy (Value.get evidence "certified_at")) "RECIPE_CERTIFICATION_EVIDENCE_MISSING"
  let updated := Value.put "lifecycle" (.str arguments.target) recipe
  let updated := if target = .certified then
    Value.put "certification" (certification arguments) updated else updated
  let history ← tools.listOr (Value.get recipe "lifecycle_history")
  let reason := if arguments.reason = "" then "LIFECYCLE_TRANSITION" else arguments.reason
  let line := historyLine (.str current.name) (.str arguments.target) (.str arguments.at_)
    (.str (String.ofList (reason.toList.take 240))) arguments.independentApproval
  return Value.put "lifecycle_history" (.list (history ++ [line])) updated

end Adwf.Healing
