import Mathlib.Logic.Relation
import Adwf.Healing.Evaluate

/-!
# The outcomes of healing

`record_heal_outcome` keeps the circuit breaker: a heal that failed opens it for
the recipe, and nothing the module does closes it.
-/

namespace Adwf.Healing

open Contracts Fallible JsonText

/-- `FALSE_HEAL_OUTCOMES`. -/
def falseHealOutcomes : List String :=
  ["FALSE_HEAL", "UNSAFE_ATTEMPT", "IMMEDIATE_RECURRENCE"]

/-- The arguments of `record_heal_outcome`. -/
structure Outcome where
  recipeId : String
  recipeVersion : String
  fingerprint : String
  outcome : String
  config : Value
  /-- `_iso(now)`. -/
  at_ : String

/-- `f"{recipe_id}@{recipe_version}"`. -/
def Outcome.key (arguments : Outcome) : String :=
  arguments.recipeId ++ "@" ++ arguments.recipeVersion

/-- `counter += 1`. -/
def Tools.bump (tools : Tools) : Value → Except String Value
  | .int number => .ok (.int (number + 1))
  | .bool value => .ok (.int (if value then 2 else 1))
  | .float token => .ok (.float (tools.increment token))
  | _ => .error "TypeError"

/-- `counter >= number`. -/
def Tools.reaches (tools : Tools) (number : Int) : Value → Bool
  | .int counter => number ≤ counter
  | .bool value => number ≤ if value then 1 else 0
  | .float token => tools.atLeast token number
  | _ => false

/-- `state[name] += 1`. -/
def countUp (tools : Tools) (name : String) : Value → Except String Members
  | .dict state =>
      match state.lookup name with
      | none => .error "KeyError"
      | some counter => do
          let counter ← tools.bump counter
          return Value.put name counter state
  | _ => .error "TypeError"

/-- `fields.setdefault(key, {})`, a mapping. -/
def groupOf (fields : Members) (key : String) : Except String Members :=
  match Value.getOr fields key (.dict []) with
  | .dict group => .ok group
  | _ => .error "AttributeError"

/-- The state of a recipe or of a fingerprint that has no outcome yet. -/
def freshState : Value :=
  .dict [("false_heals", .int 0), ("open", .bool false), ("successes", .int 0)]

/-- The state of a recipe or a fingerprint after a heal that failed. -/
def opened (condition : Bool) (state : Members) : Value :=
  .dict (if condition then Value.put "open" (.bool true) state else state)

/-- The recipe after a heal that failed: it is quarantined. -/
def quarantine (arguments : Outcome) (recipe : Members) : Except String Members :=
  if lifecycleOf recipe = some .quarantined ∨ lifecycleOf recipe = some .retired then .ok recipe
  else
    match Value.getOr recipe "lifecycle_history" (.list []) with
    | .list history =>
        let line := historyLine (Value.get recipe "lifecycle") (.str "QUARANTINED")
          (.str arguments.at_) (.str arguments.outcome) false
        .ok (Value.put "lifecycle_history" (.list (history ++ [line]))
          (Value.put "lifecycle" (.str "QUARANTINED") recipe))
    | _ => .error "AttributeError"

/-- The item is the recipe the outcome is about. -/
def Outcome.concerns (arguments : Outcome) (item : Value) : Bool :=
  match item with
  | .dict recipe =>
      (Value.get recipe "recipe_id").asText = some arguments.recipeId &&
        (Value.get recipe "version").asText = some arguments.recipeVersion
  | _ => false

/-- The registry with another recipe in the place of the one the outcome is about. -/
def replaceRecipe (registry : Value) (concerned : Value → Bool) (recipe : Members) : Value :=
  let fields := registry.asDict.getD []
  let items := (Value.get fields "recipes").asList.getD []
  .dict (Value.put "recipes"
    (.list (items.map fun item => if concerned item then .dict recipe else item)) fields)

/-- The circuit breaker with new states for the recipe and the fingerprint. -/
def updateCircuit (arguments : Outcome) (circuit recipes fingerprints : Members)
    (recipeState fingerprintState : Value) : Value :=
  .dict (Value.put "updated_at" (.str arguments.at_)
    (Value.put "fingerprints" (.dict (Value.put arguments.fingerprint fingerprintState fingerprints))
      (Value.put "recipes" (.dict (Value.put arguments.key recipeState recipes)) circuit)))

/-- `record_heal_outcome`. -/
def recordHealOutcome (tools : Tools) (registry circuit : Value) (arguments : Outcome) :
    Except String (Value × Value) := do
  validateHealingConfig tools arguments.config
  validateRecipeRegistry tools registry
  require (Text.isSha256 arguments.fingerprint) "HEAL_OUTCOME_FINGERPRINT_INVALID"
  let circuit ← tools.membersOr circuit
  let items := (Value.get (registry.asDict.getD []) "recipes").asList.getD []
  let [recipe] := (items.filter arguments.concerns).filterMap Value.asDict
    | .error "RECIPE_NOT_UNIQUE"
  let recipes ← groupOf circuit "recipes"
  let fingerprints ← groupOf circuit "fingerprints"
  let recipeState := Value.getOr recipes arguments.key freshState
  let fingerprintState := Value.getOr fingerprints arguments.fingerprint freshState
  if falseHealOutcomes.contains arguments.outcome then
    let recipeState ← countUp tools "false_heals" recipeState
    let fingerprintState ← countUp tools "false_heals" fingerprintState
    let limit := budget (arguments.config.asDict.getD []) "max_false_heals"
    let reached := tools.reaches limit (Value.get fingerprintState "false_heals")
    let quarantined ← quarantine arguments recipe
    return (replaceRecipe registry arguments.concerns quarantined,
      updateCircuit arguments circuit recipes fingerprints (opened true recipeState)
        (opened reached fingerprintState))
  else if arguments.outcome = "SUCCESS" then
    let recipeState ← countUp tools "successes" recipeState
    let fingerprintState ← countUp tools "successes" fingerprintState
    return (registry,
      updateCircuit arguments circuit recipes fingerprints (.dict recipeState) (.dict fingerprintState))
  else .error "HEAL_OUTCOME_INVALID"

end Adwf.Healing

/-!
## The circuit breaker stays open

Once a heal failed, no registry, incident, context or time lets the recipe be
applied again; a fingerprint with too many failed heals is left to a human.
-/

namespace Adwf.Healing

open Contracts Fallible JsonText

variable {tools : Tools} {registry circuit : Value} {arguments : Outcome} {group key : String}

/-! ## Open states -/

/-- The circuit breaker is open for a key of one of its two groups. -/
def IsOpen (group key : String) (circuit : Value) : Prop :=
  ∃ fields members state, circuit = .dict fields ∧ fields.lookup group = some (.dict members) ∧
    members.lookup key = some (.dict state) ∧ isTrue (Value.get state "open") = true

theorem getOr_of_lookup {fields : Members} {value default : Value}
    (present : fields.lookup key = some value) : Value.getOr fields key default = value := by
  rw [Value.getOr, present]
  rfl

theorem membersOr_get {fields members : Members} (present : fields.lookup group = some (.dict members)) :
    tools.membersOr (Value.get fields group) = .ok members := by
  rw [Value.get, present]
  rfl

/-- An open recipe is refused, whatever the rest of the breaker holds. -/
theorem circuitOpen_of_recipe {fingerprint : String} (opened : IsOpen "recipes" key circuit) :
    circuitOpen tools circuit fingerprint (some key) = true := by
  obtain ⟨fields, recipes, state, rfl, isGroup, isState, isOpen⟩ := opened
  unfold circuitOpen
  dsimp only
  rw [membersOr_get isGroup, Bool.or_eq_true]
  right
  cases tools.membersOr (Value.get fields "fingerprints") with
  | error _ => rfl
  | ok fingerprints =>
      simp only [Option.elim, getOr_of_lookup isState]
      cases Value.getOr fingerprints fingerprint (.dict []) <;> simp [isOpen]

/-- An open fingerprint is refused before any recipe is looked at. -/
theorem circuitOpen_of_fingerprint {fingerprint : String}
    (opened : IsOpen "fingerprints" fingerprint circuit) :
    circuitOpen tools circuit fingerprint none = true := by
  obtain ⟨fields, fingerprints, state, rfl, isGroup, isState, isOpen⟩ := opened
  unfold circuitOpen
  dsimp only
  rw [membersOr_get isGroup, Bool.or_eq_true]
  right
  cases tools.membersOr (Value.get fields "recipes") with
  | error _ => rfl
  | ok recipes => simp [getOr_of_lookup isState, isOpen]

/-! ## What one record does -/

/-- A state that is open stays open. -/
def KeepsOpen (before after : Members) : Prop :=
  isTrue (Value.get before "open") = true → isTrue (Value.get after "open") = true

/-- The recorded number of failed heals of a fingerprint. -/
def falseHeals (fingerprint : String) (circuit : Value) : Value :=
  let group := (Value.get (circuit.asDict.getD []) "fingerprints").asDict.getD []
  Value.get ((Value.get group fingerprint).asDict.getD []) "false_heals"

/-- The limit of failed heals a record is made with. -/
def Outcome.limit (arguments : Outcome) : Int :=
  budget (arguments.config.asDict.getD []) "max_false_heals"

/-- What a record leaves in the breaker, from what it found there. -/
structure Recorded (tools : Tools) (arguments : Outcome) (circuit after : Value)
    (fields recipes fingerprints recipeBefore recipeAfter fingerprintBefore fingerprintAfter : Members) :
    Prop where
  readCircuit : tools.membersOr circuit = .ok fields
  readRecipes : groupOf fields "recipes" = .ok recipes
  readFingerprints : groupOf fields "fingerprints" = .ok fingerprints
  readRecipe : Value.getOr recipes arguments.key freshState = .dict recipeBefore
  readFingerprint :
    Value.getOr fingerprints arguments.fingerprint freshState = .dict fingerprintBefore
  written : after = updateCircuit arguments fields recipes fingerprints (.dict recipeAfter)
    (.dict fingerprintAfter)
  recipeKept : KeepsOpen recipeBefore recipeAfter
  fingerprintKept : KeepsOpen fingerprintBefore fingerprintAfter
  recipeOpened : arguments.outcome ∈ falseHealOutcomes →
    isTrue (Value.get recipeAfter "open") = true
  fingerprintOpened : arguments.outcome ∈ falseHealOutcomes →
    tools.reaches arguments.limit (Value.get fingerprintAfter "false_heals") = true →
    isTrue (Value.get fingerprintAfter "open") = true

theorem countUp_eq_ok {name : String} {value : Value} {after : Members} (other : name ≠ "open")
    (counted : countUp tools name value = .ok after) :
    ∃ before, value = .dict before ∧ KeepsOpen before after := by
  cases value with
  | dict before =>
      refine ⟨before, rfl, ?_⟩
      simp only [countUp] at counted
      split at counted
      · cases counted
      · obtain ⟨counter, _, same⟩ := bind_ok_iff.mp counted
        cases same
        intro opened
        rw [Value.get_put_of_ne other.symm]
        exact opened
  | _ => cases counted

theorem recordHealOutcome_eq_ok {after : Value × Value}
    (recorded : recordHealOutcome tools registry circuit arguments = .ok after) :
    ∃ fields recipes fingerprints recipeBefore recipeAfter fingerprintBefore fingerprintAfter,
      Recorded tools arguments circuit after.2 fields recipes fingerprints recipeBefore recipeAfter
        fingerprintBefore fingerprintAfter := by
  unfold recordHealOutcome at recorded
  obtain ⟨_, _, recorded⟩ := bind_ok_iff.mp recorded
  obtain ⟨_, _, recorded⟩ := bind_ok_iff.mp recorded
  obtain ⟨_, _, recorded⟩ := bind_ok_iff.mp recorded
  obtain ⟨fields, isCircuit, recorded⟩ := bind_ok_iff.mp recorded
  dsimp only at recorded
  split at recorded
  · rename_i recipe single
    obtain ⟨recipes, isRecipes, recorded⟩ := bind_ok_iff.mp recorded
    obtain ⟨fingerprints, isFingerprints, recorded⟩ := bind_ok_iff.mp recorded
    split_ifs at recorded with failed succeeded
    · obtain ⟨recipeState, countedRecipe, recorded⟩ := bind_ok_iff.mp recorded
      obtain ⟨state, countedFingerprint, recorded⟩ := bind_ok_iff.mp recorded
      obtain ⟨quarantined, _, same⟩ := bind_ok_iff.mp recorded
      cases same
      obtain ⟨recipeBefore, isRecipe, recipeKept⟩ := countUp_eq_ok (by decide) countedRecipe
      obtain ⟨before, isFingerprint, kept⟩ := countUp_eq_ok (by decide) countedFingerprint
      refine ⟨fields, recipes, fingerprints, recipeBefore, Value.put "open" (.bool true) recipeState,
        before, if tools.reaches arguments.limit (Value.get state "false_heals") then
          Value.put "open" (.bool true) state else state, isCircuit, isRecipes, isFingerprints,
        isRecipe, isFingerprint, rfl, ?_, ?_, ?_, ?_⟩
      · intro _
        rw [Value.get_put_self]
        rfl
      · intro opened
        split
        · rw [Value.get_put_self]
          rfl
        · exact kept opened
      · intro _
        rw [Value.get_put_self]
        rfl
      · intro _ reached
        split at reached
        · rename_i isReached
          rw [if_pos isReached, Value.get_put_self]
          rfl
        · rename_i notReached
          exact absurd reached notReached
    · obtain ⟨recipeState, countedRecipe, recorded⟩ := bind_ok_iff.mp recorded
      obtain ⟨state, countedFingerprint, same⟩ := bind_ok_iff.mp recorded
      cases same
      obtain ⟨recipeBefore, isRecipe, recipeKept⟩ := countUp_eq_ok (by decide) countedRecipe
      obtain ⟨before, isFingerprint, kept⟩ := countUp_eq_ok (by decide) countedFingerprint
      have notFailed : arguments.outcome ∉ falseHealOutcomes := by
        simpa [List.contains_iff_mem] using failed
      exact ⟨fields, recipes, fingerprints, recipeBefore, recipeState, before, state, isCircuit,
        isRecipes, isFingerprints, isRecipe, isFingerprint, rfl, recipeKept, kept,
        fun mem => absurd mem notFailed, fun mem => absurd mem notFailed⟩
  · cases recorded

theorem lookup_recipes_updateCircuit {circuit recipes fingerprints : Members}
    {recipeState fingerprintState : Value} :
    ∃ fields, updateCircuit arguments circuit recipes fingerprints recipeState fingerprintState =
        .dict fields ∧
      fields.lookup "recipes" = some (.dict (Value.put arguments.key recipeState recipes)) ∧
      fields.lookup "fingerprints" =
        some (.dict (Value.put arguments.fingerprint fingerprintState fingerprints)) := by
  refine ⟨_, rfl, ?_, ?_⟩
  · rw [Value.lookup_put_of_ne (by decide), Value.lookup_put_of_ne (by decide),
      Value.lookup_put_self]
  · rw [Value.lookup_put_of_ne (by decide), Value.lookup_put_self]

theorem isOpen_put {fields members before after : Members} {name : String} {default : Value}
    (isGroup : fields.lookup group = some (.dict (Value.put name (.dict after) members)))
    (isBefore : Value.getOr members name default = .dict before) (kept : KeepsOpen before after)
    {state : Members} (isState : members.lookup key = some (.dict state))
    (isOpen : isTrue (Value.get state "open") = true) : IsOpen group key (.dict fields) := by
  by_cases same : key = name
  · subst same
    rw [getOr_of_lookup isState] at isBefore
    cases isBefore
    exact ⟨fields, _, after, rfl, isGroup, Value.lookup_put_self, kept isOpen⟩
  · refine ⟨fields, _, state, rfl, isGroup, ?_, isOpen⟩
    rw [Value.lookup_put_of_ne same]
    exact isState

theorem isOpen_of_recorded {after : Value × Value}
    (isGroup : group = "recipes" ∨ group = "fingerprints")
    (recorded : recordHealOutcome tools registry circuit arguments = .ok after)
    (opened : IsOpen group key circuit) : IsOpen group key after.2 := by
  obtain ⟨fields, recipes, fingerprints, recipeBefore, recipeAfter, before, afterwards, spec⟩ :=
    recordHealOutcome_eq_ok recorded
  obtain ⟨stored, members, state, rfl, isMembers, isState, isOpen⟩ := opened
  cases spec.readCircuit
  obtain ⟨written, same, inRecipes, inFingerprints⟩ := lookup_recipes_updateCircuit
  rw [spec.written, same]
  obtain rfl | rfl := isGroup
  · have read := spec.readRecipes
    rw [groupOf, getOr_of_lookup isMembers] at read
    cases read
    exact isOpen_put inRecipes spec.readRecipe spec.recipeKept isState isOpen
  · have read := spec.readFingerprints
    rw [groupOf, getOr_of_lookup isMembers] at read
    cases read
    exact isOpen_put inFingerprints spec.readFingerprint spec.fingerprintKept isState isOpen

theorem opens_of_recorded {after : Value × Value}
    (recorded : recordHealOutcome tools registry circuit arguments = .ok after)
    (failed : arguments.outcome ∈ falseHealOutcomes) : IsOpen "recipes" arguments.key after.2 ∧
      (tools.reaches arguments.limit (falseHeals arguments.fingerprint after.2) = true →
        IsOpen "fingerprints" arguments.fingerprint after.2) := by
  obtain ⟨fields, recipes, fingerprints, recipeBefore, recipeAfter, before, afterwards, spec⟩ :=
    recordHealOutcome_eq_ok recorded
  obtain ⟨written, same, inRecipes, inFingerprints⟩ := lookup_recipes_updateCircuit
  rw [spec.written, same]
  refine ⟨⟨written, _, recipeAfter, rfl, inRecipes, Value.lookup_put_self, spec.recipeOpened failed⟩,
    fun reached => ⟨written, _, afterwards, rfl, inFingerprints, Value.lookup_put_self, ?_⟩⟩
  refine spec.fingerprintOpened failed ?_
  simpa [falseHeals, Value.asDict, Value.get, inFingerprints] using reached

variable {incident context recipe : Members} {config : Value} {now : Rat} {decision : Decision}
  {fingerprint : String}

theorem recipeKey_eq_ok (read : recipeKey tools recipe = .ok key) :
    key = keyOf tools (Value.get recipe "recipe_id") (Value.get recipe "version") := by
  unfold recipeKey at read
  split at read
  · rename_i recipeId version isRecipeId isVersion
    cases read
    rw [Value.get, Value.get, isRecipeId, isVersion]
    rfl
  · cases read

theorem applyCandidate_eq_ok {config : Members}
    (applied : applyCandidate tools config context circuit fingerprint recipe = .ok decision)
    (level : decision.level = .h3) : ∃ applied, decision.recipe = some applied ∧
      applied.actions = (Value.get recipe "actions").asList.getD [] ∧
      circuitOpen tools circuit fingerprint (some (keyOf tools applied.recipeId applied.version)) =
        false ∧
      actionFindings tools config context (applied.actions.filterMap Value.asDict) = [] := by
  unfold applyCandidate at applied
  obtain ⟨key, isKey, applied⟩ := bind_ok_iff.mp applied
  split_ifs at applied with isOpen
  · cases applied
    cases level
  · dsimp only at applied
    split at applied
    · cases applied
      cases level
    · rename_i clean
      cases applied
      refine ⟨_, rfl, rfl, ?_, not_not.mp clean⟩
      dsimp only
      rw [← recipeKey_eq_ok isKey]
      exact Bool.eq_false_of_not_eq_true isOpen

theorem transientDecision_level {attempts : Rat} {config : Members} :
    (transientDecision attempts config).level ≠ .h3 := by
  unfold transientDecision
  split_ifs <;> simp [baseDecision]

theorem evaluateHealing_of_h3
    (evaluated : evaluateHealing tools incident registry config context circuit now = .ok decision)
    (level : decision.level = .h3) :
    ∃ fingerprint judged recipe, incidentFingerprint incident = some fingerprint ∧
      validateRecipeRegistry tools registry = .ok () ∧
      (recipesOf registry).mapM (judgeRecipe tools fingerprint context now) = .ok judged ∧
      judged.filterMap Prod.fst = [recipe] ∧
      applyCandidate tools (config.asDict.getD []) context circuit fingerprint recipe =
        .ok decision := by
  unfold evaluateHealing at evaluated
  obtain ⟨_, _, evaluated⟩ := bind_ok_iff.mp evaluated
  obtain ⟨⟨⟩, valid, evaluated⟩ := bind_ok_iff.mp evaluated
  dsimp only at evaluated
  split at evaluated
  · rename_i fingerprint isFingerprint
    split_ifs at evaluated
    · cases evaluated
      cases level
    · cases evaluated
      cases level
    · cases evaluated
      cases level
    · obtain ⟨transient, _, evaluated⟩ := bind_ok_iff.mp evaluated
      obtain ⟨deterministic, _, evaluated⟩ := bind_ok_iff.mp evaluated
      split_ifs at evaluated
      · cases evaluated
        exact absurd level transientDecision_level
      · obtain ⟨judged, read, evaluated⟩ := bind_ok_iff.mp evaluated
        split at evaluated
        · cases evaluated
          cases level
        · rename_i recipe single
          exact ⟨fingerprint, judged, recipe, isFingerprint, valid, read, single, evaluated⟩
        · cases evaluated
          cases level
  · cases evaluated
    cases level

theorem level_of_circuitOpen
    (evaluated : evaluateHealing tools incident registry config context circuit now = .ok decision)
    (isFingerprint : incidentFingerprint incident = some fingerprint)
    (opened : circuitOpen tools circuit fingerprint none = true) :
    decision.level = .h0 ∨ decision.level = .h5 := by
  unfold evaluateHealing at evaluated
  obtain ⟨_, _, evaluated⟩ := bind_ok_iff.mp evaluated
  obtain ⟨_, _, evaluated⟩ := bind_ok_iff.mp evaluated
  simp only [isFingerprint, if_pos opened] at evaluated
  split_ifs at evaluated
  · cases evaluated
    exact .inl rfl
  · cases evaluated
    exact .inr rfl
  · cases evaluated
    exact .inr rfl

/-! ## Runs -/

/-- The registry and the circuit breaker between two calls. -/
structure State where
  registry : Value
  circuit : Value

/-- The item is a recipe of the same name and version. -/
def isNamesake (tools : Tools) (recipe : Members) (item : Value) : Bool :=
  item.asDict.any fun other =>
    tools.text (Value.get other "recipe_id") = tools.text (Value.get recipe "recipe_id") &&
      tools.text (Value.get other "version") = tools.text (Value.get recipe "version")

/-- An outcome is recorded, a recipe changes its lifecycle, or a registry is saved. -/
inductive Step (tools : Tools) : State → State → Prop
  | recorded {state : State} {after : Value × Value} (arguments : Outcome)
      (ran : recordHealOutcome tools state.registry state.circuit arguments = .ok after) :
      Step tools state ⟨after.1, after.2⟩
  | transitioned {state : State} {recipe updated : Members} (arguments : Transition)
      (mem : recipe ∈ recipesOf state.registry)
      (ran : transitionRecipe tools recipe arguments = .ok updated) :
      Step tools state
        ⟨replaceRecipe state.registry (isNamesake tools recipe) updated, state.circuit⟩
  | saved {state : State} (registry : Value)
      (valid : validateRecipeRegistry tools registry = .ok ()) : Step tools state ⟨registry, state.circuit⟩

/-- Any number of calls. -/
def Runs (tools : Tools) : State → State → Prop :=
  Relation.ReflTransGen (Step tools)

theorem isOpen_of_step {before after : State} (isGroup : group = "recipes" ∨ group = "fingerprints")
    (step : Step tools before after) (opened : IsOpen group key before.circuit) :
    IsOpen group key after.circuit := by
  cases step with
  | recorded arguments ran => exact isOpen_of_recorded isGroup ran opened
  | transitioned arguments mem ran => exact opened
  | saved registry valid => exact opened

theorem isOpen_of_runs {before after : State} (isGroup : group = "recipes" ∨ group = "fingerprints")
    (run : Runs tools before after) (opened : IsOpen group key before.circuit) :
    IsOpen group key after.circuit := by
  induction run with
  | refl => exact opened
  | tail _ step ih => exact isOpen_of_step isGroup step ih

/-- After a heal that failed, no run lets the recipe be applied again, and a fingerprint at its
limit is observed or escalated only. -/
theorem healing_shut {before later : State} {after : Value × Value}
    (recorded : recordHealOutcome tools before.registry before.circuit arguments = .ok after)
    (failed : arguments.outcome ∈ falseHealOutcomes) (run : Runs tools ⟨after.1, after.2⟩ later) :
    (∀ incident config context now decision,
      evaluateHealing tools incident later.registry config context later.circuit now = .ok decision →
      decision.level = .h3 → ∃ recipe, decision.recipe = some recipe ∧
        keyOf tools recipe.recipeId recipe.version ≠ arguments.key) ∧
    (tools.reaches arguments.limit (falseHeals arguments.fingerprint after.2) = true →
      ∀ incident config context now decision,
        incidentFingerprint incident = some arguments.fingerprint →
        evaluateHealing tools incident later.registry config context later.circuit now =
          .ok decision → decision.level = .h0 ∨ decision.level = .h5) := by
  obtain ⟨recipeOpened, fingerprintOpened⟩ := opens_of_recorded recorded failed
  constructor
  · intro incident config context now decision evaluated level
    obtain ⟨fingerprint, _, candidate, _, _, _, _, applied⟩ := evaluateHealing_of_h3 evaluated level
    obtain ⟨recipe, isRecipe, _, isClosed, _⟩ := applyCandidate_eq_ok applied level
    refine ⟨recipe, isRecipe, fun same => ?_⟩
    have isOpen := isOpen_of_runs (.inl rfl) run recipeOpened
    rw [same, circuitOpen_of_recipe isOpen] at isClosed
    cases isClosed
  · intro reached incident config context now decision isFingerprint evaluated
    have isOpen := isOpen_of_runs (.inr rfl) run (fingerprintOpened reached)
    exact level_of_circuitOpen evaluated isFingerprint (circuitOpen_of_fingerprint isOpen)

/-! ## One failed heal -/

/-- A library that writes every value that is no text as nothing. -/
def sampleTools : Tools where
  floats := { normal := id, value := fun _ => none, normal_normal := normal_id }
  textOf := fun _ => ""
  casefold := id
  globMatches := fun path pattern => path = pattern
  readTime := fun _ => some 1
  digest := fun _ => ""
  increment := id
  atLeast := fun _ _ => false

def sampleDigest : String :=
  "e51233d52a5871f578dc2f52e9cc5239e5a95051ab5fdc98a4a39f6751b6fd33"

/-- An active recipe with one action. -/
def sampleRecipe : Value :=
  .dict [
    ("actions", .list [.dict [("argv", .list [.str "python", .str "repair.py"]),
      ("destructive", .bool false), ("idempotent", .bool true), ("level", .str "H3"),
      ("monetary_cost", .int 0), ("network", .bool false), ("requires_ai_api", .bool false),
      ("writes", .list [.str "build/cache"])]]),
    ("certification", .dict [("certified_at", .str "2025-01-31T12:00:00Z"),
      ("independent_approval", .bool true), ("shadow_passes", .int 2)]),
    ("compatibility", .dict [("policy_hashes", .list [.str sampleDigest]),
      ("runtime_versions", .dict []), ("tool_versions", .dict [])]),
    ("lifecycle", .str "ACTIVE"), ("match", .dict [("fingerprint_hash", .str sampleDigest)]),
    ("recipe_id", .str "REC-CACHE"), ("version", .str "1.0.0")]

def sampleConfig : Value :=
  .dict [
    ("budgets", .dict [("max_actions", .int 2), ("max_attempts", .int 2),
      ("max_changed_files", .int 2), ("max_elapsed_seconds", .int 60), ("max_false_heals", .int 1)]),
    ("enabled", .bool true), ("mandatory_ai_api", .bool false), ("monetary_budget", .int 0),
    ("protected_paths", .list (defaultProtectedPaths.map .str))]

def sampleRegistry : Value :=
  .dict [("recipes", .list [sampleRecipe])]

def sampleOutcome : Outcome where
  recipeId := "REC-CACHE"
  recipeVersion := "1.0.0"
  fingerprint := sampleDigest
  outcome := "FALSE_HEAL"
  config := sampleConfig
  at_ := "2025-02-01T12:00:00Z"

theorem healing_shut_sample :
    ∃ after, recordHealOutcome sampleTools sampleRegistry (.dict []) sampleOutcome = .ok after ∧
      ∀ incident config context now decision,
        evaluateHealing sampleTools incident sampleRegistry config context after.2 now =
          .ok decision → decision.level = .h3 → ∃ recipe, decision.recipe = some recipe ∧
            keyOf sampleTools recipe.recipeId recipe.version ≠ "REC-CACHE@1.0.0" := by
  have ran : (recordHealOutcome sampleTools sampleRegistry (.dict []) sampleOutcome).isOk =
    true := by decide +kernel
  cases recorded : recordHealOutcome sampleTools sampleRegistry (.dict []) sampleOutcome with
  | error error =>
      rw [recorded] at ran
      cases ran
  | ok after =>
      have valid : validateRecipeRegistry sampleTools sampleRegistry = .ok () := by decide +kernel
      have law := @healing_shut sampleTools sampleOutcome ⟨sampleRegistry, .dict []⟩
        ⟨sampleRegistry, after.2⟩ after recorded (by decide)
        (.single (.saved sampleRegistry valid))
      exact ⟨after, rfl, law.1⟩

end Adwf.Healing
