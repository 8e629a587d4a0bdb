import Adwf.Trust.Weakening
import Mathlib.Data.List.Forall2

/-!
# The readback of rulesets

`verify_rulesets` and `verify_runtime_anchor_ruleset`.  Both fold the rules of a
ruleset into one flag and one table of checks; neither reads the excluded refs.
-/

namespace Adwf.Governance

open Trust (reasonIf reasonIf_eq_nil_iff)

variable (rules : List Rule)

/-! ## Rulesets -/

/-- A required status check. -/
structure RequiredCheck where
  context : Option String := none
  integrationId : Option Int := none
  deriving DecidableEq

/-- A rule; `strict` when its policy for status checks is `True`. -/
structure Rule where
  type : Option String := none
  strict : Bool := false
  checks : List RequiredCheck := []
  deriving DecidableEq

/-- A ruleset of the provider; `includes` and `excludes` are its patterns of refs. -/
structure Ruleset where
  id : Option Int := none
  name : Option String := none
  target : Option String := none
  enforcement : Option String := none
  bypassActors : List Json := []
  includes : List String := []
  excludes : List String := []
  rules : List Rule := []
  deriving DecidableEq

/-- `REQUIRED_CHECKS`. -/
def requiredChecks : List String :=
  ["fast-feedback", "adwf/governance-gate", "adwf/trusted-gate"]

/-- The rule lists status checks. -/
def Rule.isStatus (rule : Rule) : Bool :=
  rule.type = some "required_status_checks"

/-! ## The readers -/

/-- What the loop over the rules keeps: the apps by context, the last one first. -/
structure Folded where
  checks : List (String × Option Int) := []
  strict : Bool := false

/-- `if x.get('context'): checks[context] = x.get('integration_id')`. -/
def noteCheck (checks : List (String × Option Int)) (check : RequiredCheck) :
    List (String × Option Int) :=
  let context := check.context.getD ""
  if context ≠ "" then (context, check.integrationId) :: checks else checks

def noteRule (folded : Folded) (rule : Rule) : Folded :=
  if rule.isStatus then ⟨rule.checks.foldl noteCheck folded.checks, rule.strict⟩ else folded

/-- `int(checks.get(c) or -1)`. -/
def sourceOf (integrationId : Option Int) : Int :=
  match integrationId with
  | none => -1
  | some id => if id = 0 then -1 else id

/-- A rule of each of the types is there. -/
def hasTypes (ruleset : Ruleset) (types : List String) : Bool :=
  types.all fun type => ruleset.rules.any fun rule => rule.type = some type

def mainTypes : List String :=
  ["deletion", "non_fast_forward", "pull_request", "required_status_checks"]

/-- The reasons against one ruleset in `verify_rulesets`. -/
def rulesetReasons (expectedIntegrationId : Option Int) (ruleset : Ruleset) : List String :=
  let folded := ruleset.rules.foldl noteRule {}
  let source context := sourceOf (folded.checks.lookup context).join
  reasonIf (ruleset.target ≠ some "branch") "RULESET_TARGET" ++
    reasonIf (ruleset.enforcement ≠ some "active") "RULESET_ENFORCEMENT" ++
    reasonIf (ruleset.bypassActors ≠ []) "RULESET_BYPASS_ACTORS_PRESENT" ++
    reasonIf ("~DEFAULT_BRANCH" ∉ ruleset.includes) "RULESET_DEFAULT_BRANCH_CONDITION" ++
    reasonIf (hasTypes ruleset mainTypes = false) "RULESET_PROTECTIONS_MISSING" ++
    reasonIf (¬∀ context ∈ requiredChecks, (folded.checks.lookup context).isSome)
      "RULESET_REQUIRED_CHECKS_MISSING" ++
    reasonIf (∃ expected ∈ expectedIntegrationId, ∃ context ∈ requiredChecks,
      source context ≠ expected) "RULESET_CHECK_SOURCE_MISMATCH" ++
    reasonIf (folded.strict = false) "RULESET_STRICT_STATUS_POLICY_MISSING"

def anchorName : String :=
  "ADWF immutable runtime anchors"

def anchorPattern : String :=
  "refs/tags/adwf-runtime-anchor-*"

/-- The reasons against one ruleset in `verify_runtime_anchor_ruleset`. -/
def anchorReasons (ruleset : Ruleset) : List String :=
  reasonIf (ruleset.target ≠ some "tag") "ANCHOR_RULESET_TARGET" ++
    reasonIf (ruleset.enforcement ≠ some "active") "ANCHOR_RULESET_ENFORCEMENT" ++
    reasonIf (ruleset.bypassActors ≠ []) "ANCHOR_RULESET_BYPASS_ACTORS_PRESENT" ++
    reasonIf (anchorPattern ∉ ruleset.includes) "ANCHOR_RULESET_PATTERN" ++
    reasonIf (hasTypes ruleset ["deletion", "update"] = false)
      "ANCHOR_RULESET_IMMUTABILITY_RULES_MISSING"

/-- The first ruleset without a reason, and the reasons against those before it. -/
def firstMatch (reasons : Ruleset → List String) : List Ruleset → Option Ruleset × List String
  | [] => (none, [])
  | ruleset :: rulesets =>
      if reasons ruleset = [] then (some ruleset, [])
      else
        let later := firstMatch reasons rulesets
        (later.1, reasons ruleset ++ later.2)

/-- What both readers return. -/
structure Readback where
  status : String
  readbackVerified : Bool
  rulesetId : Option Int
  reasonCodes : List String
  deriving DecidableEq

def readbackOf (found : Option Ruleset × List String) (missing : String) : Readback where
  status := if found.1.isSome then "VERIFIED" else "NOT_VERIFIED"
  readbackVerified := found.1.isSome
  rulesetId := found.1.bind Ruleset.id
  reasonCodes := (found.2 ++ reasonIf (found.1 = none) missing).eraseDups

/-- `verify_rulesets`. -/
def verifyRulesets (expectedIntegrationId : Option Int) (rulesets : List Ruleset) : Readback :=
  readbackOf (firstMatch (rulesetReasons expectedIntegrationId) rulesets)
    "CANONICAL_RULESET_NOT_VERIFIED"

/-- `verify_runtime_anchor_ruleset`. -/
def verifyRuntimeAnchorRuleset (rulesets : List Ruleset) : Readback :=
  readbackOf (firstMatch anchorReasons (rulesets.filter fun ruleset => ruleset.name = anchorName))
    "RUNTIME_ANCHOR_RULESET_NOT_VERIFIED"

theorem firstMatch_isSome_iff {reasons : Ruleset → List String} {rulesets : List Ruleset} :
    (firstMatch reasons rulesets).1.isSome = true ↔ ∃ ruleset ∈ rulesets, reasons ruleset = [] := by
  induction rulesets with
  | nil => simp [firstMatch]
  | cons ruleset rulesets ih =>
      rw [firstMatch, List.exists_mem_cons_iff]
      split_ifs with clean
      · simp [clean]
      · simp [clean, ih]

/-! ## What the rules are folded into -/

/-- The contexts and apps of a check that has a context. -/
def entryOf (check : RequiredCheck) : Option (String × Option Int) :=
  if check.context.getD "" ≠ "" then some (check.context.getD "", check.integrationId) else none

/-- The entries of the status rules, in order. -/
def entriesOf : List (String × Option Int) :=
  (rules.filter Rule.isStatus).flatMap fun rule => rule.checks.filterMap entryOf

/-- The policy of the last status rule. -/
def lastStrict : Bool :=
  (rules.filter Rule.isStatus).getLast?.any Rule.strict

theorem foldl_noteCheck (checks : List RequiredCheck) (noted : List (String × Option Int)) :
    checks.foldl noteCheck noted = (checks.filterMap entryOf).reverse ++ noted := by
  induction checks generalizing noted with
  | nil => rfl
  | cons check checks ih =>
      rw [List.foldl_cons, ih, List.filterMap_cons, noteCheck, entryOf]
      split_ifs with named
      · simp
      · rfl

theorem foldl_noteRule_checks (folded : Folded) :
    (rules.foldl noteRule folded).checks = (entriesOf rules).reverse ++ folded.checks := by
  induction rules generalizing folded with
  | nil => rfl
  | cons rule rules ih =>
      rw [List.foldl_cons, ih, noteRule]
      cases status : rule.isStatus with
      | false => simp [entriesOf, status]
      | true => simp [entriesOf, status, foldl_noteCheck]

theorem foldl_noteRule_strict (folded : Folded) :
    (rules.foldl noteRule folded).strict =
      ((rules.filter Rule.isStatus).getLast?.map Rule.strict).getD folded.strict := by
  induction rules generalizing folded with
  | nil => rfl
  | cons rule rules ih =>
      rw [List.foldl_cons, ih, noteRule]
      cases status : rule.isStatus with
      | false => simp [status]
      | true =>
          rw [List.filter_cons_of_pos status, if_pos rfl]
          cases (rules.filter Rule.isStatus) with
          | nil => rfl
          | cons first others =>
              rw [List.getLast?_cons_cons, List.getLast?_eq_some_getLast (List.cons_ne_nil _ _)]
              rfl

/-! ## Reordering -/

/-- The rule with its checks in another order. -/
structure Rule.Same (rule other : Rule) : Prop where
  type : other.type = rule.type
  strict : other.strict = rule.strict
  checks : rule.checks.Perm other.checks

/-- The ruleset with its rules, and the checks of each, in another order. -/
structure Ruleset.Same (ruleset other : Ruleset) : Prop where
  others : other = { ruleset with rules := other.rules }
  rules : ∃ rules, ruleset.rules.Perm rules ∧ List.Forall₂ Rule.Same rules other.rules

/-- The rulesets in another order, each with its rules and checks in another order. -/
def Reordered (rulesets others : List Ruleset) : Prop :=
  ∃ permuted, rulesets.Perm permuted ∧ List.Forall₂ Ruleset.Same permuted others

theorem Rule.Same.refl (rule : Rule) : rule.Same rule :=
  ⟨rfl, rfl, List.Perm.refl _⟩

theorem Ruleset.Same.refl (ruleset : Ruleset) : ruleset.Same ruleset :=
  ⟨rfl, _, List.Perm.refl _, List.forall₂_same.mpr fun rule _ => Rule.Same.refl rule⟩

theorem exists_left_of_forall₂ {α β : Type} {relates : α → β → Prop} {lefts : List α}
    {rights : List β} (matched : List.Forall₂ relates lefts rights) {right : β}
    (inside : right ∈ rights) : ∃ left ∈ lefts, relates left right := by
  induction matched with
  | nil => cases inside
  | cons related _ ih =>
      rcases List.mem_cons.mp inside with rfl | later
      · exact ⟨_, List.mem_cons_self, related⟩
      · rcases ih later with ⟨left, found, relatedLeft⟩
        exact ⟨left, List.mem_cons_of_mem _ found, relatedLeft⟩

theorem exists_forall₂_of_forall {α β : Type} {relates : α → β → Prop} {holds : β → Prop}
    {lefts : List α} (partner : ∀ left ∈ lefts, ∃ right, relates left right ∧ holds right) :
    ∃ rights, List.Forall₂ relates lefts rights ∧ ∀ right ∈ rights, holds right := by
  induction lefts with
  | nil => exact ⟨[], .nil, by simp⟩
  | cons left lefts ih =>
      rcases List.forall_mem_cons.mp partner with ⟨⟨right, related, good⟩, others⟩
      rcases ih others with ⟨rights, matched, goodOthers⟩
      exact ⟨right :: rights, .cons related matched, List.forall_mem_cons.mpr ⟨good, goodOthers⟩⟩

theorem Reordered.exists_of_mem {rulesets others : List Ruleset} (same : Reordered rulesets others)
    {other : Ruleset} (inside : other ∈ others) : ∃ ruleset ∈ rulesets, ruleset.Same other := by
  rcases same with ⟨permuted, perm, matched⟩
  rcases exists_left_of_forall₂ matched inside with ⟨ruleset, found, related⟩
  exact ⟨ruleset, perm.mem_iff.mpr found, related⟩

theorem Reordered.exists_of_mem_left {rulesets others : List Ruleset}
    (same : Reordered rulesets others) {ruleset : Ruleset} (inside : ruleset ∈ rulesets) :
    ∃ other ∈ others, ruleset.Same other := by
  rcases same with ⟨permuted, perm, matched⟩
  exact exists_left_of_forall₂ matched.flip (perm.mem_iff.mp inside)

end Adwf.Governance
