import Adwf.Policy.Permission
import Adwf.Value.Fallible
import Adwf.Value.Json

/-!
# Permission over policy documents

`_validated_rules` checks the key set of the `rules` object, the length of the
hash and three tables.  The other six entries are read as they stand, each by
`set(...)` at the point where the decision needs it, so a malformed entry
raises there and only there.

A granted permission is one conjunction of facts, and each of them gets harder
to meet as the context gets less safe.
-/

namespace Adwf.Policy

open Json Fallible

/-! ## Reading the rules -/

/-- Values that Python can hash. -/
def hashable : Json → Bool
  | .arr _ => false
  | .obj _ => false
  | _ => true

/-- `set(value)`. -/
def setOf : Json → Except String (List Json)
  | .arr items => if items.all hashable then .ok items else .error "TypeError"
  | .str text => .ok (text.toList.map fun char => .str (String.ofList [char]))
  | .obj fields => .ok (fields.map fun field => .str field.1)
  | _ => .error "TypeError"

/-- `item in set(rules[name])`. -/
def inRule (rules : Fields) (name item : String) : Except String Bool := do
  let items ← setOf (get rules name)
  return items.contains (.str item)

/-- `value == table` for a dictionary `table`, whatever the order of its keys. -/
def isTable {α : Type} (same : α → Json → Bool) (table : List (String × α)) : Json → Bool
  | .obj fields =>
      fields.length = table.length &&
        table.all fun entry => (fields.lookup entry.1).any (same entry.2)
  | _ => false

def isText (text : String) (value : Json) : Bool :=
  value = .str text

/-- `value == rank`; Python counts `True` as 1. -/
def isRank (rank : Nat) : Json → Bool
  | .num value => value = rank
  | .bool value => value.toNat = rank
  | _ => false

def ruleKeys : List String :=
  ["action_min_autonomy", "autonomy_rank", "risk_rank", "safe_health", "non_mutating_actions",
    "control_plane_optional_actions", "product_health_exempt_work_types", "evidence_actions",
    "always_human_actions"]

def texts (items : List String) : Json :=
  .arr (items.map .str)

/-- The parsed form of a `rules` object. -/
def encodeRules (rules : Rules) : Fields :=
  [("action_min_autonomy", .obj (rules.actionMinAutonomy.map fun entry => (entry.1, .str entry.2))),
    ("always_human_actions", texts rules.alwaysHumanActions),
    ("autonomy_rank", .obj (rules.autonomyRank.map fun entry => (entry.1, .num entry.2))),
    ("control_plane_optional_actions", texts rules.controlPlaneOptionalActions),
    ("evidence_actions", texts rules.evidenceActions),
    ("non_mutating_actions", texts rules.nonMutatingActions),
    ("product_health_exempt_work_types", texts rules.productHealthExemptWorkTypes),
    ("risk_rank", .obj (rules.riskRank.map fun entry => (entry.1, .num entry.2))),
    ("safe_health", texts rules.safeHealth)]

/-- The rules used when there is no policy document. -/
def builtinDocument : Fields :=
  encodeRules builtinRules

/-- The checks of `_validated_rules` on a `rules` object and a hash. -/
def rulesValid (rules : Fields) (policyHash : String) : Bool :=
  ruleKeys.all (fun name => (rules.lookup name).isSome) &&
    rules.all (fun field => ruleKeys.contains field.1) &&
    policyHash.length = 64 &&
    isTable isText actionMinAutonomy (get rules "action_min_autonomy") &&
    isTable isRank autonomyRank (get rules "autonomy_rank") &&
    isTable isRank riskRank (get rules "risk_rank")

/-- `_validated_rules`; `none` stands for the `ValueError` that the caller
turns into a `BLOCK`. -/
def validatedDocument : Json → Except String (Option (Fields × Option String))
  | .null => .ok (some (builtinDocument, none))
  | .obj policy =>
      match get policy "rules", get policy "policy_hash" with
      | .obj rules, .str policyHash =>
          if rulesValid rules policyHash then .ok (some (rules, some policyHash)) else .ok none
      | _, _ => .ok none
  | _ => .error "AttributeError"

/-! ## The decision -/

/-- `context.health.get(name) in safe_health`. -/
def isSafe (safe : List Json) (context : DecisionContext) (name : String) : Bool :=
  safe.contains (ofText (context.health.lookup name))

/-- The reasons of the health checks. -/
def healthFindings (rules : Fields) (safe : List Json) (context : DecisionContext) :
    Except String (List String) := do
  let nonMutating ← inRule rules "non_mutating_actions" context.action
  if nonMutating then return []
  else
    let optional ← inRule rules "control_plane_optional_actions" context.action
    let exempt ← inRule rules "product_health_exempt_work_types" context.workType
    let requiredHealth := ["package_integrity", "config_health"] ++
      (if optional then [] else ["control_plane_health"])
    return (if requiredHealth.all (isSafe safe context) then [] else ["HEALTH_NOT_SAFE"]) ++
      (if exempt || isSafe safe context "product_health" then []
        else ["PRODUCT_HEALTH_BLOCKS_FEATURE"])

/-- The reasons of the gate and evidence checks. -/
def evidenceFindings (rules : Fields) (context : DecisionContext) :
    Except String (List String) := do
  let evidence ← inRule rules "evidence_actions" context.action
  if evidence then
    return (if context.requiredGates.all (fun name => context.gates.lookup name = some pass) then []
        else ["GATE_NOT_PASS"]) ++
      (if context.exactSha then [] else ["SHA_NOT_EXACT"]) ++
      (if context.evidenceFresh then [] else ["EVIDENCE_NOT_FRESH"])
  else return []

/-- Every reason that blocks after the provider checks. -/
def gateFindings (rules : Fields) (safe : List Json) (context : DecisionContext) :
    Except String (List String) := do
  let health ← healthFindings rules safe context
  let evidence ← evidenceFindings rules context
  return health ++ (if context.writerConflict then ["WRITER_CONFLICT"] else []) ++ evidence

/-- `required == "A4" or context.action in set(rules["always_human_actions"])`. -/
def alwaysHuman (rules : Fields) (context : DecisionContext) (required : String) :
    Except String Bool :=
  if required = "A4" then .ok true else inRule rules "always_human_actions" context.action

/-- The reasons that call for the owner, the three tables being the built-in
ones. -/
def humanFindings (rules : Fields) (context : DecisionContext) (required : String) :
    Except String (List String) := do
  let always ← alwaysHuman rules context required
  return humanReasons
    { builtinRules with alwaysHumanActions := if always then [context.action] else [] }
    context required

/-- The decision after `_validated_rules`.  A table equal to the built-in one
answers every lookup as it does. -/
def evaluateRules (context : DecisionContext) (rules : Fields) (policyHash : Option String) :
    Except String Decision := do
  let safe ← setOf (get rules "safe_health")
  match actionMinAutonomy.lookup context.action with
  | none => return decision .block ["UNKNOWN_ACTION"] policyHash
  | some required =>
      if (autonomyRank.lookup context.autonomy).isNone then
        return decision .block ["INVALID_AUTONOMY"] policyHash
      else if (riskRank.lookup context.risk).isNone ||
          (riskRank.lookup context.maxAutonomousRisk).isNone then
        return decision .block ["INVALID_RISK"] policyHash
      else if !(providerReasons context policyHash).isEmpty then
        return decision .block (providerReasons context policyHash) policyHash
      else
        let gate ← gateFindings rules safe context
        if !gate.isEmpty then return decision .block gate policyHash
        else
          let human ← humanFindings rules context required
          if !human.isEmpty && !context.humanApproved then
            return decision .humanRequired human policyHash
          else return decision .allow [] policyHash

/-- `evaluate_permission` on a parsed policy document, `null` for none. -/
def evaluateDocument (context : DecisionContext) (policy : Json) : Except String Decision := do
  let validated ← validatedDocument policy
  match validated with
  | none => return decision .block ["POLICY_IR_INVALID"]
  | some (rules, policyHash) => evaluateRules context rules policyHash

/-- The decision returned, and it is `ALLOW`. -/
def Allowed (policy : Json) (context : DecisionContext) : Prop :=
  ∃ answer, evaluateDocument context policy = .ok answer ∧ answer.result = .allow

/-! ## The typed policy -/

/-- The document of a typed policy. -/
def encodePolicy (policy : PolicyIR) : Json :=
  .obj [("policy_hash", .str policy.policyHash), ("rules", .obj (encodeRules policy.rules))]

/-- The tables of the rules are the built-in ones. -/
structure BuiltinTables (rules : Rules) : Prop where
  actions : rules.actionMinAutonomy = actionMinAutonomy
  autonomy : rules.autonomyRank = autonomyRank
  risk : rules.riskRank = riskRank

section Typed

variable {rules : Rules}

theorem setOf_texts (items : List String) : setOf (texts items) = .ok (items.map .str) := by
  simp [setOf, texts, hashable]

theorem inRule_of_texts {document : Fields} {name : String} {items : List String}
    (read : get document name = texts items) (item : String) :
    inRule document name item = .ok (items.contains item) := by
  rw [inRule, read, setOf_texts, ok_bind]
  congr 1
  simp

theorem isSafe_texts (context : DecisionContext) (name : String) :
    isSafe (rules.safeHealth.map .str) context name = healthSafe rules context name := by
  unfold isSafe healthSafe
  cases context.health.lookup name <;> simp [ofText]

theorem healthFindings_encodeRules (context : DecisionContext) :
    healthFindings (encodeRules rules) (rules.safeHealth.map .str) context =
      .ok (if rules.nonMutatingActions.contains context.action then [] else
        (if (["package_integrity", "config_health"] ++
            (if rules.controlPlaneOptionalActions.contains context.action then []
              else ["control_plane_health"])).all (healthSafe rules context) then []
          else ["HEALTH_NOT_SAFE"]) ++
        (if rules.productHealthExemptWorkTypes.contains context.workType ||
            healthSafe rules context "product_health" then []
          else ["PRODUCT_HEALTH_BLOCKS_FEATURE"])) := by
  have same : isSafe (rules.safeHealth.map .str) context = healthSafe rules context :=
    funext (isSafe_texts context)
  rw [healthFindings, @inRule_of_texts (encodeRules rules) "non_mutating_actions" _ rfl, ok_bind,
    same]
  cases rules.nonMutatingActions.contains context.action with
  | true => rfl
  | false =>
      simp only [Bool.false_eq_true, if_false]
      rw [@inRule_of_texts (encodeRules rules) "control_plane_optional_actions" _ rfl, ok_bind,
        @inRule_of_texts (encodeRules rules) "product_health_exempt_work_types" _ rfl, ok_bind]
      rfl

theorem reason_unless (condition : Bool) (reason : String) :
    (if condition then [] else [reason]) = if !condition then [reason] else [] := by
  cases condition <;> rfl

theorem gateFindings_encodeRules (context : DecisionContext) :
    gateFindings (encodeRules rules) (rules.safeHealth.map .str) context =
      .ok (gateReasons rules context) := by
  rw [gateFindings, healthFindings_encodeRules, ok_bind, evidenceFindings,
    @inRule_of_texts (encodeRules rules) "evidence_actions" _ rfl, ok_bind, gateReasons]
  simp only [reason_unless, List.not_all_eq_any_not, Bool.not_or, decide_not, ne_eq]
  cases rules.nonMutatingActions.contains context.action <;>
    cases rules.evidenceActions.contains context.action <;> rfl

theorem humanFindings_encodeRules (tables : BuiltinTables rules) (context : DecisionContext)
    (required : String) : humanFindings (encodeRules rules) context required =
      .ok (humanReasons rules context required) := by
  have asked : alwaysHuman (encodeRules rules) context required =
      .ok (required = "A4" || rules.alwaysHumanActions.contains context.action) := by
    rw [alwaysHuman, @inRule_of_texts (encodeRules rules) "always_human_actions" _ rfl]
    split_ifs with owner <;> simp [owner]
  rw [humanFindings, asked, ok_bind, humanReasons, humanReasons, tables.autonomy, tables.risk]
  simp only [builtinRules]
  refine congrArg Except.ok ?_
  cases (required = "A4" : Bool) <;> cases rules.alwaysHumanActions.contains context.action
  all_goals
    simp
    rfl

theorem builtinTables_of_validated {policy : PolicyIR} {policyHash : Option String}
    (validated : validatedRules (some policy) = .ok (rules, policyHash)) :
    BuiltinTables rules ∧ rules = policy.rules ∧ policy.policyHash.length = 64 ∧
      policyHash = some policy.policyHash := by
  rw [validatedRules] at validated
  split_ifs at validated with length actions ranks
  cases validated
  exact ⟨⟨not_not.mp actions, not_not.mp (not_or.mp ranks).1, not_not.mp (not_or.mp ranks).2⟩,
    rfl, not_not.mp length, rfl⟩

theorem rulesValid_encodeRules (tables : BuiltinTables rules) {policyHash : String}
    (length : policyHash.length = 64) : rulesValid (encodeRules rules) policyHash = true := by
  have actions : isTable isText actionMinAutonomy
      (.obj (actionMinAutonomy.map fun entry => (entry.1, .str entry.2))) = true := by rfl
  have autonomy : isTable isRank autonomyRank
      (.obj (autonomyRank.map fun entry => (entry.1, .num entry.2))) = true := by rfl
  have risk : isTable isRank riskRank
      (.obj (riskRank.map fun entry => (entry.1, .num entry.2))) = true := by rfl
  simp only [rulesValid, Bool.and_eq_true, decide_eq_true_eq]
  refine ⟨⟨⟨⟨⟨by rfl, by rfl⟩, length⟩, ?_⟩, ?_⟩, ?_⟩
  · exact (congrArg (fun table => isTable isText actionMinAutonomy
      (.obj (table.map fun entry => (entry.1, .str entry.2)))) tables.actions).trans actions
  · exact (congrArg (fun table => isTable isRank autonomyRank
      (.obj (table.map fun entry => (entry.1, .num entry.2)))) tables.autonomy).trans autonomy
  · exact (congrArg (fun table => isTable isRank riskRank
      (.obj (table.map fun entry => (entry.1, .num entry.2)))) tables.risk).trans risk

theorem evaluateRules_encodeRules (tables : BuiltinTables rules) {policyIR : Option PolicyIR}
    {policyHash : Option String} (validated : validatedRules policyIR = .ok (rules, policyHash))
    (context : DecisionContext) : evaluateRules context (encodeRules rules) policyHash =
      .ok (evaluatePermission context policyIR) := by
  have safe : setOf (get (encodeRules rules) "safe_health") = .ok (rules.safeHealth.map .str) :=
    setOf_texts _
  rw [evaluatePermission, validated]
  simp only [evaluateRules, safe, ok_bind, gateFindings_encodeRules,
    humanFindings_encodeRules tables, tables.actions, tables.autonomy, tables.risk]
  cases actionMinAutonomy.lookup context.action with
  | none => rfl
  | some required =>
      dsimp only
      split_ifs <;> rfl

theorem evaluateDocument_encodePolicy {policy : PolicyIR} {policyHash : Option String}
    (validated : validatedRules (some policy) = .ok (rules, policyHash))
    (context : DecisionContext) : evaluateDocument context (encodePolicy policy) =
      .ok (evaluatePermission context (some policy)) := by
  obtain ⟨tables, rfl, length, rfl⟩ := builtinTables_of_validated validated
  have read : validatedDocument (encodePolicy policy) =
      .ok (some (encodeRules policy.rules, some policy.policyHash)) := by
    change (if rulesValid (encodeRules policy.rules) policy.policyHash then _ else _) = _
    rw [if_pos (rulesValid_encodeRules tables length)]
  rw [evaluateDocument, read, ok_bind]
  exact evaluateRules_encodeRules tables validated context

/-- So it is without a policy. -/
theorem evaluateDocument_null (context : DecisionContext) :
    evaluateDocument context .null = .ok (evaluatePermission context none) :=
  @evaluateRules_encodeRules builtinRules ⟨rfl, rfl, rfl⟩ none none rfl context

end Typed

/-! ## What a granted permission means -/

/-- The rules name the item. -/
def Listed (rules : Fields) (name item : String) : Prop :=
  inRule rules name item = .ok true

/-- The rules can be read and do not name the item. -/
def Unlisted (rules : Fields) (name item : String) : Prop :=
  inRule rules name item = .ok false

/-- The health facts of a mutating action. -/
structure Healthy (rules : Fields) (safe : List Json) (context : DecisionContext) : Prop where
  package : isSafe safe context "package_integrity" = true
  config : isSafe safe context "config_health" = true
  control : Listed rules "control_plane_optional_actions" context.action ∨
    Unlisted rules "control_plane_optional_actions" context.action ∧
      isSafe safe context "control_plane_health" = true
  product : Listed rules "product_health_exempt_work_types" context.workType ∨
    Unlisted rules "product_health_exempt_work_types" context.workType ∧
      isSafe safe context "product_health" = true

/-- The facts of an evidence action. -/
structure Evidenced (context : DecisionContext) : Prop where
  gates : ∀ name ∈ context.requiredGates, context.gates.lookup name = some pass
  exactSha : context.exactSha = true
  fresh : context.evidenceFresh = true

/-- Nothing calls for the owner. -/
structure Autonomous (context : DecisionContext) (required : String) : Prop where
  kept : context.destructive = false
  notDelete : context.action ≠ "delete"
  notProduction : context.action ≠ "deploy_prod"
  trusted : context.trustChange = false
  notTrustChange : context.action ≠ "trust_change"
  belowCritical : context.risk ≠ "R4"
  accepted : context.action = "owner_accept" → context.ownerAcceptanceExact = true
  belowOwner : context.autonomy ≠ "A4"
  underCeiling : rankOf riskRank context.risk ≤ rankOf riskRank context.maxAutonomousRisk
  autonomous : rankOf autonomyRank required ≤ rankOf autonomyRank context.autonomy

/-- The provider facts every action needs. -/
structure Provided (policyHash : Option String) (context : DecisionContext) : Prop where
  hash : context.expectedPolicyHash = none ∨ context.expectedPolicyHash = policyHash
  factsFresh : context.providerFactsFresh = true
  allowed : context.providerAllowed = true
  free : context.providerPotentiallyPaid = false
  cost : context.projectedCost ≤ 0

/-- Everything an `ALLOW` under these rules rests on. -/
structure Granted (rules : Fields) (policyHash : Option String) (safe : List Json)
    (required : String) (context : DecisionContext) : Prop where
  action : actionMinAutonomy.lookup context.action = some required
  autonomy : (autonomyRank.lookup context.autonomy).isSome
  risk : (riskRank.lookup context.risk).isSome
  ceiling : (riskRank.lookup context.maxAutonomousRisk).isSome
  provider : Provided policyHash context
  health : Listed rules "non_mutating_actions" context.action ∨
    Unlisted rules "non_mutating_actions" context.action ∧ Healthy rules safe context
  writer : context.writerConflict = false
  evidence : Unlisted rules "evidence_actions" context.action ∨
    Listed rules "evidence_actions" context.action ∧ Evidenced context
  owner : ∃ always, alwaysHuman rules context required = .ok always ∧
    (context.humanApproved = true ∨ always = false ∧ Autonomous context required)

theorem providerReasons_eq_nil_iff (context : DecisionContext) (policyHash : Option String) :
    providerReasons context policyHash = [] ↔ Provided policyHash context := by
  unfold providerReasons
  simp only [List.append_eq_nil_iff]
  constructor
  · rintro ⟨⟨⟨hash, factsFresh⟩, paid⟩, cost⟩
    refine ⟨?_, ?_, ?_, ?_, ?_⟩
    all_goals grind
  · rintro ⟨hash, factsFresh, allowed, free, cost⟩
    have notPositive : ¬context.projectedCost > 0 := Rat.not_lt.mpr cost
    grind

theorem humanReasons_eq_nil_iff (context : DecisionContext) (required : String) (always : Bool) :
    humanReasons { builtinRules with alwaysHumanActions := if always then [context.action] else [] }
        context required = [] ↔
      (required ≠ "A4" ∧ always = false) ∧ Autonomous context required := by
  unfold humanReasons
  simp only [List.append_eq_nil_iff, builtinRules]
  constructor
  · rintro ⟨⟨⟨⟨⟨⟨⟨destructive, production⟩, trust⟩, owner⟩, autonomy⟩, risk⟩, rank⟩, always⟩
    refine ⟨⟨?_, ?_⟩, ⟨?_, ?_, ?_, ?_, ?_, ?_, ?_, ?_, ?_, ?_⟩⟩
    all_goals grind
  · rintro ⟨⟨notA4, unlisted⟩, granted⟩
    have := granted.kept
    have := granted.accepted
    grind [Autonomous]

/-- A rule is read in one of three ways. -/
theorem inRule_cases (rules : Fields) (name item : String) :
    Listed rules name item ∨ Unlisted rules name item ∨
      ∃ error, inRule rules name item = .error error := by
  unfold Listed Unlisted
  cases read : inRule rules name item with
  | error error => exact .inr (.inr ⟨error, rfl⟩)
  | ok listed => cases listed <;> simp

theorem Listed.not_unlisted {rules : Fields} {name item : String}
    (listed : Listed rules name item) : ¬Unlisted rules name item := by
  intro unlisted
  cases listed.symm.trans unlisted

theorem healthFindings_eq_nil_iff (rules : Fields) (safe : List Json) (context : DecisionContext) :
    healthFindings rules safe context = .ok [] ↔
      Listed rules "non_mutating_actions" context.action ∨
        Unlisted rules "non_mutating_actions" context.action ∧ Healthy rules safe context := by
  unfold healthFindings
  simp only [bind_ok_iff]
  constructor
  · rintro ⟨nonMutating, read, rest⟩
    cases nonMutating with
    | true => exact .inl read
    | false =>
        simp only [Bool.false_eq_true, if_false, bind_ok_iff] at rest
        rcases rest with ⟨optional, optionalRead, exempt, exemptRead, ran⟩
        have findings := Except.ok.inj ran
        simp only [List.append_eq_nil_iff, ite_eq_left_iff, List.cons_ne_nil, imp_false,
          Bool.or_eq_true, List.all_append, Bool.and_eq_true] at findings
        refine .inr ⟨read, ⟨?_, ?_, ?_, ?_⟩⟩
        · grind
        · grind
        · cases optional with
          | true => exact .inl optionalRead
          | false => exact .inr ⟨optionalRead, by grind⟩
        · cases exempt with
          | true => exact .inl exemptRead
          | false => exact .inr ⟨exemptRead, by grind⟩
  · rintro (listed | ⟨unlisted, package, config, control, product⟩)
    · exact ⟨true, listed, rfl⟩
    · refine ⟨false, unlisted, ?_⟩
      simp only [Bool.false_eq_true, if_false, bind_ok_iff]
      rcases control with optional | ⟨optional, control⟩ <;>
        rcases product with exempt | ⟨exempt, product⟩ <;>
        refine ⟨_, optional, _, exempt, ?_⟩ <;>
        simp [*] <;> rfl

theorem evidenceFindings_eq_nil_iff (rules : Fields) (context : DecisionContext) :
    evidenceFindings rules context = .ok [] ↔ Unlisted rules "evidence_actions" context.action ∨
        Listed rules "evidence_actions" context.action ∧ Evidenced context := by
  unfold evidenceFindings
  simp only [bind_ok_iff]
  constructor
  · rintro ⟨evidence, read, rest⟩
    cases evidence with
    | false => exact .inl read
    | true =>
        have findings := Except.ok.inj rest
        simp only [List.append_eq_nil_iff, ite_eq_left_iff, List.cons_ne_nil, imp_false,
          not_not, List.all_eq_true, decide_eq_true_eq] at findings
        exact .inr ⟨read, findings.1.1, findings.1.2, findings.2⟩
  · rintro (unlisted | ⟨listed, gates, exactSha, fresh⟩)
    · exact ⟨false, unlisted, rfl⟩
    · refine ⟨true, listed, ?_⟩
      have passes : context.requiredGates.all
          (fun name => context.gates.lookup name = some pass) = true := by
        simpa using gates
      simp only [passes, exactSha, fresh, if_true]
      rfl

theorem gateFindings_eq_nil_iff (rules : Fields) (safe : List Json) (context : DecisionContext) :
    gateFindings rules safe context = .ok [] ↔
      healthFindings rules safe context = .ok [] ∧ context.writerConflict = false ∧
        evidenceFindings rules context = .ok [] := by
  unfold gateFindings
  simp only [bind_ok_iff]
  constructor
  · rintro ⟨health, healthRead, evidence, evidenceRead, ran⟩
    have findings := Except.ok.inj ran
    simp only [List.append_eq_nil_iff, ite_eq_right_iff, List.cons_ne_nil, imp_false,
      Bool.not_eq_true] at findings
    obtain ⟨⟨rfl, writer⟩, rfl⟩ := findings
    exact ⟨healthRead, writer, evidenceRead⟩
  · rintro ⟨healthRead, writer, evidenceRead⟩
    refine ⟨[], healthRead, [], evidenceRead, ?_⟩
    rw [writer]
    rfl

theorem humanFindings_quiet_iff (rules : Fields) (context : DecisionContext) (required : String) :
    (∃ human, humanFindings rules context required = .ok human ∧
        (human = [] ∨ context.humanApproved = true)) ↔
      ∃ always, alwaysHuman rules context required = .ok always ∧
        (context.humanApproved = true ∨ always = false ∧ Autonomous context required) := by
  unfold humanFindings
  simp only [bind_ok_iff]
  constructor
  · rintro ⟨human, ⟨always, read, ran⟩, quiet⟩
    refine ⟨always, read, ?_⟩
    rcases quiet with rfl | approved
    · have none := (humanReasons_eq_nil_iff context required always).mp (Except.ok.inj ran)
      exact .inr ⟨none.1.2, none.2⟩
    · exact .inl approved
  · rintro ⟨always, read, granted⟩
    refine ⟨_, ⟨always, read, rfl⟩, ?_⟩
    rcases granted with approved | ⟨rfl, autonomous⟩
    · exact .inr approved
    · refine .inl ((humanReasons_eq_nil_iff context required false).mpr ⟨⟨?_, rfl⟩, autonomous⟩)
      rintro rfl
      cases read

theorem evaluateRules_allow_iff (context : DecisionContext) (rules : Fields)
    (policyHash : Option String) :
    (∃ answer, evaluateRules context rules policyHash = .ok answer ∧ answer.result = .allow) ↔
      ∃ safe, setOf (get rules "safe_health") = .ok safe ∧
        ∃ required, Granted rules policyHash safe required context := by
  unfold evaluateRules
  simp only [bind_ok_iff]
  constructor
  · rintro ⟨answer, ⟨safe, read, rest⟩, allowed⟩
    refine ⟨safe, read, ?_⟩
    cases action : actionMinAutonomy.lookup context.action with
    | none =>
        simp only [action] at rest
        cases rest
        cases allowed
    | some required =>
        simp only [action] at rest
        split_ifs at rest with autonomy risk provider
        · cases rest
          cases allowed
        · cases rest
          cases allowed
        · cases rest
          cases allowed
        · simp only [bind_ok_iff] at rest
          rcases rest with ⟨gate, gateRead, rest⟩
          split_ifs at rest with blocked
          · cases rest
            cases allowed
          · simp only [bind_ok_iff] at rest
            rcases rest with ⟨human, humanRead, rest⟩
            split_ifs at rest with owner
            · cases rest
              cases allowed
            · simp only [Bool.not_eq_true', List.isEmpty_eq_false_iff, ne_eq, not_not] at blocked
              subst blocked
              rw [gateFindings_eq_nil_iff, healthFindings_eq_nil_iff, evidenceFindings_eq_nil_iff]
                at gateRead
              simp only [Bool.or_eq_true, not_or, Bool.not_eq_true, Option.isNone_eq_false_iff]
                at autonomy risk
              refine ⟨required, action, autonomy, risk.1, risk.2, ?_, gateRead.1, gateRead.2.1,
                gateRead.2.2, ?_⟩
              · exact (providerReasons_eq_nil_iff _ _).mp (by simpa using provider)
              · exact (humanFindings_quiet_iff _ _ _).mp ⟨human, humanRead, by grind⟩
  · rintro ⟨safe, read, required, granted⟩
    obtain ⟨human, humanRead, quiet⟩ := (humanFindings_quiet_iff _ _ _).mpr granted.owner
    refine ⟨decision .allow [] policyHash, ⟨safe, read, ?_⟩, rfl⟩
    have provider := (providerReasons_eq_nil_iff context policyHash).mpr granted.provider
    have gate : gateFindings rules safe context = .ok [] := by
      rw [gateFindings_eq_nil_iff, healthFindings_eq_nil_iff, evidenceFindings_eq_nil_iff]
      exact ⟨granted.health, granted.writer, granted.evidence⟩
    have known := granted.autonomy
    have risk := granted.risk
    have ceiling := granted.ceiling
    rw [← Option.not_isNone, Bool.not_eq_true'] at known risk ceiling
    simp only [granted.action, known, risk, ceiling, provider, gate, ok_bind, humanRead,
      Bool.false_eq_true, if_false, Bool.or_self, List.isEmpty_nil, Bool.not_true]
    rcases quiet with rfl | approved
    · rfl
    · rw [approved, Bool.not_true, Bool.and_false]
      rfl

/-! ## Less safe contexts -/

/-- The health values the policy counts as safe; none for a policy that cannot
be read. -/
def safeHealthOf (policy : Json) : List Json :=
  match validatedDocument policy with
  | .ok (some (rules, _)) => (setOf (get rules "safe_health")).toOption.getD []
  | _ => []

/-- The hash of a valid policy document. -/
def policyHashOf (policy : Json) : Option String :=
  match validatedDocument policy with
  | .ok (some (_, policyHash)) => policyHash
  | _ => none

/-- `higher` is a rank of the table not below `lower`. -/
def NotBelow (table : List (String × Nat)) (higher lower : String) : Prop :=
  higher = lower ∨
    (table.lookup higher).isSome ∧ (table.lookup lower).isSome ∧
      rankOf table lower ≤ rankOf table higher

/-- The facts of `worse` are those of `context`, any of them replaced by less
safe ones, the autonomy apart. -/
structure LessSafeFacts (policy : Json) (worse context : DecisionContext) : Prop where
  action : worse.action = context.action
  workType : worse.workType = context.workType
  health : ∀ name, worse.health.lookup name = context.health.lookup name ∨
    ofText (context.health.lookup name) ∈ safeHealthOf policy
  gates : ∀ name, worse.gates.lookup name = context.gates.lookup name ∨
    context.gates.lookup name = some pass
  requiredGates : ∀ name ∈ context.requiredGates, name ∈ worse.requiredGates
  exactSha : worse.exactSha = true → context.exactSha = true
  evidenceFresh : worse.evidenceFresh = true → context.evidenceFresh = true
  providerFactsFresh : worse.providerFactsFresh = true → context.providerFactsFresh = true
  providerAllowed : worse.providerAllowed = true → context.providerAllowed = true
  humanApproved : worse.humanApproved = true → context.humanApproved = true
  ownerAcceptanceExact : worse.ownerAcceptanceExact = true → context.ownerAcceptanceExact = true
  writerConflict : context.writerConflict = true → worse.writerConflict = true
  destructive : context.destructive = true → worse.destructive = true
  trustChange : context.trustChange = true → worse.trustChange = true
  providerPotentiallyPaid :
    context.providerPotentiallyPaid = true → worse.providerPotentiallyPaid = true
  projectedCost : context.projectedCost ≤ worse.projectedCost
  risk : NotBelow riskRank worse.risk context.risk
  ceiling : NotBelow riskRank context.maxAutonomousRisk worse.maxAutonomousRisk
  expectedPolicyHash : worse.expectedPolicyHash = context.expectedPolicyHash ∨
    context.expectedPolicyHash = none ∨ context.expectedPolicyHash = policyHashOf policy

/-- Less safe facts, the autonomy the same or raised from a known level to A4. -/
structure LessSafe (policy : Json) (worse context : DecisionContext) : Prop extends
    LessSafeFacts policy worse context where
  autonomy : worse.autonomy = context.autonomy ∨
    worse.autonomy = "A4" ∧ (autonomyRank.lookup context.autonomy).isSome

section LessSafe

variable {policy : Json} {rules : Fields} {policyHash : Option String} {safe : List Json}
  {required : String} {worse context : DecisionContext}

theorem NotBelow.known {table : List (String × Nat)} {higher lower : String}
    (notBelow : NotBelow table higher lower) :
    (table.lookup higher).isSome ↔ (table.lookup lower).isSome := by
  rcases notBelow with rfl | ⟨known, also, _⟩
  · rfl
  · exact ⟨fun _ => also, fun _ => known⟩

theorem NotBelow.rankOf_le {table : List (String × Nat)} {higher lower : String}
    (notBelow : NotBelow table higher lower) : rankOf table lower ≤ rankOf table higher := by
  rcases notBelow with rfl | ⟨_, _, below⟩
  · exact le_rfl
  · exact below

/-- Nothing but R4 reaches the rank of R4. -/
theorem eq_critical_of_notBelow {risk : String} (notBelow : NotBelow riskRank risk "R4") :
    risk = "R4" := by
  rcases notBelow with same | ⟨known, _, below⟩
  · exact same
  · obtain ⟨entry, mem, same⟩ := List.lookup_isSome_iff.mp known
    obtain rfl := eq_of_beq same
    simp only [riskRank, List.mem_cons, List.not_mem_nil, or_false] at mem
    rcases mem with rfl | rfl | rfl | rfl | rfl
    all_goals first | rfl | exact absurd below (by decide)

theorem LessSafeFacts.provided (less : LessSafeFacts policy worse context)
    (hash : policyHashOf policy = policyHash) (provided : Provided policyHash worse) :
    Provided policyHash context := by
  refine ⟨?_, less.providerFactsFresh provided.factsFresh, less.providerAllowed provided.allowed,
    ?_, Rat.le_trans less.projectedCost provided.cost⟩
  · rcases less.expectedPolicyHash with same | none | matching
    · exact same ▸ provided.hash
    · exact .inl none
    · exact .inr (matching.trans hash)
  · have free := provided.free
    by_contra paid
    rw [less.providerPotentiallyPaid (by simpa using paid)] at free
    cases free

theorem LessSafeFacts.isSafe (less : LessSafeFacts policy worse context)
    (read : safeHealthOf policy = safe) {name : String}
    (healthy : isSafe safe worse name = true) : isSafe safe context name = true := by
  rcases less.health name with same | mem
  · rw [Policy.isSafe, ← same]
    exact healthy
  · rw [read] at mem
    exact List.contains_iff_mem.mpr mem

theorem LessSafeFacts.healthy (less : LessSafeFacts policy worse context)
    (read : safeHealthOf policy = safe) (healthy : Healthy rules safe worse) :
    Healthy rules safe context where
  package := less.isSafe read healthy.package
  config := less.isSafe read healthy.config
  control := less.action ▸ healthy.control.imp id (And.imp id (less.isSafe read))
  product := less.workType ▸ healthy.product.imp id (And.imp id (less.isSafe read))

theorem LessSafeFacts.evidenced (less : LessSafeFacts policy worse context)
    (evidenced : Evidenced worse) : Evidenced context where
  gates name mem := by
    rcases less.gates name with same | passed
    · exact same ▸ evidenced.gates name (less.requiredGates name mem)
    · exact passed
  exactSha := less.exactSha evidenced.exactSha
  fresh := less.evidenceFresh evidenced.fresh

theorem LessSafe.autonomous (less : LessSafe policy worse context)
    (autonomous : Autonomous worse required) : Autonomous context required := by
  have level : worse.autonomy = context.autonomy :=
    less.autonomy.resolve_right fun raised => autonomous.belowOwner raised.1
  refine ⟨?_, less.action ▸ autonomous.notDelete, less.action ▸ autonomous.notProduction, ?_,
    less.action ▸ autonomous.notTrustChange, ?_, ?_, level ▸ autonomous.belowOwner, ?_,
    level ▸ autonomous.autonomous⟩
  · have kept := autonomous.kept
    by_contra destructive
    rw [less.destructive (by simpa using destructive)] at kept
    cases kept
  · have trusted := autonomous.trusted
    by_contra change
    rw [less.trustChange (by simpa using change)] at trusted
    cases trusted
  · intro critical
    exact autonomous.belowCritical (eq_critical_of_notBelow (critical ▸ less.risk))
  · intro accepts
    exact less.ownerAcceptanceExact (autonomous.accepted (less.action.trans accepts))
  · exact less.risk.rankOf_le.trans (autonomous.underCeiling.trans less.ceiling.rankOf_le)

theorem LessSafe.granted (less : LessSafe policy worse context)
    (hash : policyHashOf policy = policyHash) (read : safeHealthOf policy = safe)
    (granted : Granted rules policyHash safe required worse) :
    Granted rules policyHash safe required context where
  action := less.action ▸ granted.action
  autonomy := by
    rcases less.autonomy with same | raised
    · exact same ▸ granted.autonomy
    · exact raised.2
  risk := less.risk.known.mp granted.risk
  ceiling := less.ceiling.known.mpr granted.ceiling
  provider := less.provided hash granted.provider
  health := less.action ▸ granted.health.imp id (And.imp id (less.healthy read))
  writer := by
    have free := granted.writer
    by_contra conflict
    rw [less.writerConflict (by simpa using conflict)] at free
    cases free
  evidence := less.action ▸ granted.evidence.imp id (And.imp id less.evidenced)
  owner := by
    rcases granted.owner with ⟨always, asked, owner⟩
    refine ⟨always, ?_, owner.imp less.humanApproved (And.imp id less.autonomous)⟩
    rw [← asked, alwaysHuman, alwaysHuman, less.action]

end LessSafe

/-! ## The decision is monotone and closes on doubt -/

/-- The rules come from no document at all, or from a valid one with the
built-in tables. -/
structure ValidDocument (fields rules : Fields) (policyHash : String) : Prop where
  rulesRead : get fields "rules" = .obj rules
  hashRead : get fields "policy_hash" = .str policyHash
  named : ∀ name, (rules.lookup name).isSome ↔ name ∈ ruleKeys
  hashLength : policyHash.length = 64
  actions : isTable isText actionMinAutonomy (get rules "action_min_autonomy") = true
  autonomy : isTable isRank autonomyRank (get rules "autonomy_rank") = true
  risk : isTable isRank riskRank (get rules "risk_rank") = true

def ValidPolicy (policy : Json) (rules : Fields) : Option String → Prop
  | none => policy = .null ∧ rules = builtinDocument
  | some policyHash => ∃ fields, policy = .obj fields ∧ ValidDocument fields rules policyHash

theorem validDocument_of_rulesValid {fields rules : Fields} {policyHash : String}
    (readRules : get fields "rules" = .obj rules)
    (readHash : get fields "policy_hash" = .str policyHash)
    (valid : rulesValid rules policyHash = true) : ValidDocument fields rules policyHash := by
  simp only [rulesValid, Bool.and_eq_true, List.all_eq_true, decide_eq_true_eq] at valid
  obtain ⟨⟨⟨⟨⟨all, only⟩, length⟩, actions⟩, autonomy⟩, risk⟩ := valid
  refine ⟨readRules, readHash, ?_, length, actions, autonomy, risk⟩
  intro name
  refine ⟨?_, all name⟩
  intro present
  obtain ⟨field, mem, same⟩ := List.lookup_isSome_iff.mp present
  obtain rfl := eq_of_beq same
  simpa using only field mem

theorem validPolicy_of_validated {policy : Json} {rules : Fields} {policyHash : Option String}
    (validated : validatedDocument policy = .ok (some (rules, policyHash))) :
    ValidPolicy policy rules policyHash := by
  unfold validatedDocument at validated
  split at validated
  · cases validated
    exact ⟨rfl, rfl⟩
  · split at validated
    · rename_i readRules readHash
      split_ifs at validated with valid
      · cases validated
        exact ⟨_, rfl, validDocument_of_rulesValid readRules readHash valid⟩
      · cases validated
    · cases validated
  · cases validated

theorem allowed_iff (policy : Json) (context : DecisionContext) : Allowed policy context ↔
      ∃ rules policyHash, validatedDocument policy = .ok (some (rules, policyHash)) ∧
        ∃ safe, setOf (get rules "safe_health") = .ok safe ∧
          ∃ required, Granted rules policyHash safe required context := by
  simp only [Allowed, evaluateDocument, bind_ok_iff]
  constructor
  · rintro ⟨answer, ⟨validated, read, rest⟩, allowed⟩
    cases validated with
    | none =>
        cases rest
        cases allowed
    | some document =>
        exact ⟨document.1, document.2, read,
          (evaluateRules_allow_iff context _ _).mp ⟨answer, rest, allowed⟩⟩
  · rintro ⟨rules, policyHash, read, granted⟩
    obtain ⟨answer, ran, allowed⟩ := (evaluateRules_allow_iff context _ _).mpr granted
    exact ⟨answer, ⟨_, read, ran⟩, allowed⟩

/-- Less safe facts never turn another answer into `ALLOW`, and `ALLOW` implies
every fact of a granted permission under a valid policy. -/
theorem permission_monotone (policy : Json) : (∀ worse context, LessSafe policy worse context →
      ¬Allowed policy context → ¬Allowed policy worse) ∧ ∀ context, Allowed policy context →
      ∃ rules policyHash safe required, ValidPolicy policy rules policyHash ∧
        setOf (get rules "safe_health") = .ok safe ∧
        Granted rules policyHash safe required context := by
  constructor
  · intro worse context less
    refine mt fun allowed => ?_
    obtain ⟨rules, policyHash, validated, safe, read, required, granted⟩ :=
      (allowed_iff policy worse).mp allowed
    refine (allowed_iff policy context).mpr ⟨rules, policyHash, validated, safe, read, required,
      less.granted ?_ ?_ granted⟩
    · rw [policyHashOf, validated]
    · rw [safeHealthOf, validated]
      simp [read, Except.toOption]
  · intro context allowed
    obtain ⟨rules, policyHash, validated, safe, read, required, granted⟩ :=
      (allowed_iff policy context).mp allowed
    exact ⟨rules, policyHash, safe, required, validPolicy_of_validated validated, read, granted⟩

/-- An inspection at an unknown level that the owner approved. -/
def unknownLevel : DecisionContext where
  action := "inspect"
  autonomy := "A9"
  humanApproved := true

/-- An unknown level blocks whatever the owner approved; A4 does not. -/
theorem not_monotone_unknownLevel :
    LessSafeFacts .null { unknownLevel with autonomy := "A4" } unknownLevel ∧
      ¬Allowed .null unknownLevel ∧ Allowed .null { unknownLevel with autonomy := "A4" } := by
  refine ⟨?_, ?_, ?_⟩
  · constructor <;> simp [NotBelow, unknownLevel]
  · rw [allowed_iff]
    rintro ⟨_, _, _, _, _, _, granted⟩
    exact absurd granted.autonomy (by decide)
  · exact ⟨_, rfl, rfl⟩

end Adwf.Policy
