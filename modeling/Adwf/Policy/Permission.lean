import Mathlib.Data.Rat.Defs
import Mathlib.Data.List.Basic

/-!
# The permission decision

`evaluatePermission` decides one action from the facts of a `DecisionContext`
and the rules of the effective policy.  Every answer is `ALLOW`, `BLOCK` or
`HUMAN_REQUIRED`; unknown input closes the gate.
-/

namespace Adwf.Policy

/-- The facts a decision rests on, with the defaults of the dataclass. -/
structure DecisionContext where
  action : String
  autonomy : String := "A1"
  risk : String := "R0"
  maxAutonomousRisk : String := "R1"
  workType : String := "feature"
  health : List (String × String) := []
  gates : List (String × String) := []
  requiredGates : List String := []
  exactSha : Bool := false
  evidenceFresh : Bool := false
  humanApproved : Bool := false
  destructive : Bool := false
  trustChange : Bool := false
  writerConflict : Bool := false
  providerAllowed : Bool := true
  providerPotentiallyPaid : Bool := false
  projectedCost : Rat := 0
  expectedPolicyHash : Option String := none
  providerFactsFresh : Bool := true
  ownerAcceptanceExact : Bool := false
  deriving DecidableEq

/-- The three answers of the policy engine. -/
inductive Verdict where
  | allow
  | block
  | humanRequired
  deriving DecidableEq, Repr

structure Decision where
  result : Verdict
  reasonCodes : List String
  messageRu : String
  policyHash : Option String := none
  deriving DecidableEq

/-- The `rules` object of the effective policy. -/
structure Rules where
  actionMinAutonomy : List (String × String)
  autonomyRank : List (String × Nat)
  riskRank : List (String × Nat)
  safeHealth : List String
  nonMutatingActions : List String
  controlPlaneOptionalActions : List String
  productHealthExemptWorkTypes : List String
  evidenceActions : List String
  alwaysHumanActions : List String
  deriving DecidableEq

/-- The effective policy as `load_effective_policy` returns it. -/
structure PolicyIR where
  policyHash : String
  rules : Rules
  deriving DecidableEq

def autonomyRank : List (String × Nat) :=
  [("A0", 0), ("A1", 1), ("A2", 2), ("A3", 3), ("A4", 4)]

def riskRank : List (String × Nat) :=
  [("R0", 0), ("R1", 1), ("R2", 2), ("R3", 3), ("R4", 4)]

def safeHealth : List String :=
  ["HEALTHY", "VERIFIED"]

def pass : String :=
  "PASS"

def actionMinAutonomy : List (String × String) :=
  [("inspect", "A0"), ("plan", "A0"), ("reconcile", "A0"), ("edit", "A1"), ("test", "A1"),
    ("continue", "A1"), ("review", "A1"), ("verify", "A1"), ("observe", "A1"),
    ("record_incident", "A1"), ("commit", "A2"), ("push", "A2"), ("open_pr", "A2"),
    ("claim", "A2"), ("repair", "A2"), ("cleanup", "A2"), ("merge", "A3"),
    ("deploy_dev", "A3"), ("promote", "A3"), ("rollback", "A3"), ("close_issue", "A3"),
    ("deploy_prod", "A4"), ("delete", "A4"), ("trust_change", "A4"), ("owner_accept", "A4"),
    ("certify_recipe", "A4")]

def reasonRu : List (String × String) :=
  [("UNKNOWN_ACTION", "Действие не описано политикой."),
    ("INVALID_AUTONOMY", "Уровень автономности неизвестен."),
    ("INVALID_RISK", "Класс риска неизвестен."),
    ("UNKNOWN_OR_PAID_PROVIDER", "Provider неизвестен, отключён или потенциально платный."),
    ("NON_ZERO_COST", "Операция может создать денежные расходы."),
    ("HEALTH_NOT_SAFE", "Обязательный контур здоровья не подтверждён."),
    ("PRODUCT_HEALTH_BLOCKS_FEATURE", "Состояние продукта не разрешает feature-разработку."),
    ("WRITER_CONFLICT", "Обнаружен конфликт Writer/lease."),
    ("GATE_NOT_PASS", "Обязательная проверка не имеет свежего PASS."),
    ("SHA_NOT_EXACT", "Проверка относится не к текущему commit SHA."),
    ("EVIDENCE_NOT_FRESH", "Evidence отсутствует или устарел."),
    ("AUTONOMY_TOO_LOW", "Текущий уровень автономности не разрешает действие без владельца."),
    ("RISK_ABOVE_CEILING", "Риск выше разрешённого автономного потолка."),
    ("R4_OR_TRUST_CHANGE", "Критический риск или изменение trust boundary требует владельца."),
    ("DESTRUCTIVE_ACTION", "Разрушительное действие требует отдельного разрешения владельца."),
    ("PRODUCTION_DEPLOY", "Production deploy требует отдельного разрешения владельца."),
    ("A4_NEVER_AUTOMATIC", "A4 запрещено включать автоматически."),
    ("POLICY_IR_INVALID",
      "Исполняемая политика отсутствует, повреждена или не соответствует контракту."),
    ("POLICY_HASH_MISMATCH", "Решение относится не к текущей исполняемой политике."),
    ("PROVIDER_FACTS_NOT_FRESH", "Сведения о стоимости или возможностях provider устарели."),
    ("OWNER_ACCEPTANCE_NOT_EXACT", "Решение владельца не относится к текущему preview и commit.")]

/-- `_decision`: reasons keep their first occurrence, in order. -/
def decision (result : Verdict) (reasons : List String) (policyHash : Option String := none) :
    Decision :=
  let unique := reasons.reverse.dedup.reverse
  { result := result
    reasonCodes := unique
    messageRu :=
      if unique.isEmpty then "Разрешено политикой."
      else " ".intercalate (unique.map fun code => (reasonRu.lookup code).getD code)
    policyHash := policyHash }

/-- The built-in rules used when no policy document is given. -/
def builtinRules : Rules where
  actionMinAutonomy := actionMinAutonomy
  autonomyRank := autonomyRank
  riskRank := riskRank
  safeHealth := safeHealth
  nonMutatingActions := ["inspect", "plan", "reconcile", "review", "verify", "observe"]
  controlPlaneOptionalActions := ["edit", "test"]
  productHealthExemptWorkTypes := ["recovery", "verification", "governance"]
  evidenceActions := ["merge", "deploy_dev", "deploy_prod", "promote", "rollback", "close_issue"]
  alwaysHumanActions := ["delete", "deploy_prod", "trust_change", "owner_accept", "certify_recipe"]

/-- `_validated_rules`.  The record types already carry the field set. -/
def validatedRules : Option PolicyIR → Except String (Rules × Option String)
  | none => .ok (builtinRules, none)
  | some policy =>
      if policy.policyHash.toList.length ≠ 64 then .error "POLICY_IR_INVALID"
      else if policy.rules.actionMinAutonomy ≠ actionMinAutonomy then .error "POLICY_IR_INVALID"
      else if policy.rules.autonomyRank ≠ autonomyRank ∨ policy.rules.riskRank ≠ riskRank then
        .error "POLICY_IR_INVALID"
      else .ok (policy.rules, some policy.policyHash)

/-- The reasons that block before any health check. -/
def providerReasons (context : DecisionContext) (policyHash : Option String) : List String :=
  (if context.expectedPolicyHash ≠ none ∧ context.expectedPolicyHash ≠ policyHash then
    ["POLICY_HASH_MISMATCH"] else []) ++
  (if !context.providerFactsFresh then ["PROVIDER_FACTS_NOT_FRESH"] else []) ++
  (if !context.providerAllowed || context.providerPotentiallyPaid then
    ["UNKNOWN_OR_PAID_PROVIDER"] else []) ++
  (if context.projectedCost > 0 then ["NON_ZERO_COST"] else [])

/-- `context.health.get(name) in safe_health`. -/
def healthSafe (rules : Rules) (context : DecisionContext) (name : String) : Bool :=
  match context.health.lookup name with
  | some value => rules.safeHealth.contains value
  | none => false

/-- The reasons of the health, writer and evidence checks. -/
def gateReasons (rules : Rules) (context : DecisionContext) : List String :=
  let mutation := !rules.nonMutatingActions.contains context.action
  let requiredHealth := ["package_integrity", "config_health"] ++
    (if rules.controlPlaneOptionalActions.contains context.action then []
      else ["control_plane_health"])
  (if mutation && requiredHealth.any (fun name => !healthSafe rules context name) then
    ["HEALTH_NOT_SAFE"] else []) ++
  (if mutation && !rules.productHealthExemptWorkTypes.contains context.workType &&
      !healthSafe rules context "product_health" then
    ["PRODUCT_HEALTH_BLOCKS_FEATURE"] else []) ++
  (if context.writerConflict then ["WRITER_CONFLICT"] else []) ++
  (if rules.evidenceActions.contains context.action then
    (if context.requiredGates.any (fun name => context.gates.lookup name ≠ some pass) then
      ["GATE_NOT_PASS"] else []) ++
    (if !context.exactSha then ["SHA_NOT_EXACT"] else []) ++
    (if !context.evidenceFresh then ["EVIDENCE_NOT_FRESH"] else [])
  else [])

/-- `table[name]` for a name already checked to be in the table. -/
def rankOf (table : List (String × Nat)) (name : String) : Nat :=
  (table.lookup name).getD 0

/-- The reasons that call for the owner. -/
def humanReasons (rules : Rules) (context : DecisionContext) (required : String) : List String :=
  (if context.destructive || context.action = "delete" then ["DESTRUCTIVE_ACTION"] else []) ++
  (if context.action = "deploy_prod" then ["PRODUCTION_DEPLOY"] else []) ++
  (if context.trustChange || context.risk = "R4" || context.action = "trust_change" then
    ["R4_OR_TRUST_CHANGE"] else []) ++
  (if context.action = "owner_accept" && !context.ownerAcceptanceExact then
    ["OWNER_ACCEPTANCE_NOT_EXACT"] else []) ++
  (if context.autonomy = "A4" then ["A4_NEVER_AUTOMATIC"] else []) ++
  (if rankOf rules.riskRank context.risk > rankOf rules.riskRank context.maxAutonomousRisk then
    ["RISK_ABOVE_CEILING"] else []) ++
  (if rankOf rules.autonomyRank context.autonomy < rankOf rules.autonomyRank required then
    ["AUTONOMY_TOO_LOW"] else []) ++
  (if required = "A4" || rules.alwaysHumanActions.contains context.action then
    ["A4_NEVER_AUTOMATIC"] else [])

/-- `evaluate_permission`. -/
def evaluatePermission (context : DecisionContext) (policyIR : Option PolicyIR) : Decision :=
  match validatedRules policyIR with
  | .error _ => decision .block ["POLICY_IR_INVALID"]
  | .ok (rules, policyHash) =>
    match rules.actionMinAutonomy.lookup context.action with
    | none => decision .block ["UNKNOWN_ACTION"] policyHash
    | some required =>
      if (rules.autonomyRank.lookup context.autonomy).isNone then
        decision .block ["INVALID_AUTONOMY"] policyHash
      else if (rules.riskRank.lookup context.risk).isNone ||
          (rules.riskRank.lookup context.maxAutonomousRisk).isNone then
        decision .block ["INVALID_RISK"] policyHash
      else if !(providerReasons context policyHash).isEmpty then
        decision .block (providerReasons context policyHash) policyHash
      else if !(gateReasons rules context).isEmpty then
        decision .block (gateReasons rules context) policyHash
      else if !(humanReasons rules context required).isEmpty && !context.humanApproved then
        decision .humanRequired (humanReasons rules context required) policyHash
      else decision .allow [] policyHash

/-- `evaluate_with_effective_policy`: `none` stands for a policy document that
`load_effective_policy` refuses. -/
def evaluateWithEffectivePolicy (effective : Option PolicyIR) (context : DecisionContext) :
    Decision :=
  match effective with
  | none =>
      { result := .block, reasonCodes := ["POLICY_IR_INVALID"]
        messageRu := "Исполняемая политика не прошла проверку.", policyHash := none }
  | some policy => evaluatePermission context (some policy)

end Adwf.Policy
