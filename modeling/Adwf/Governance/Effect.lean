import Adwf.Governance.Rulesets

/-!
# Rulesets that protect

A ruleset protects a ref when it applies to it and carries the rules; what the
readers report is compared with that, in every order of the readback.
-/

namespace Adwf.Governance

open Trust (reasonIf_eq_nil_iff)

/-! ## What a ruleset protects -/

/-- How the provider matches a pattern with a ref. -/
structure Matching where
  covers : String → String → Bool
  defaultBranch : String
  covers_defaultBranch : covers "~DEFAULT_BRANCH" defaultBranch = true
  covers_anchor : ∀ serial : String, '/' ∉ serial.toList →
    covers anchorPattern ("refs/tags/adwf-runtime-anchor-" ++ serial) = true

/-- Some included pattern matches the ref and no excluded one does. -/
def Matching.Applies (matching : Matching) (ruleset : Ruleset) (ref : String) : Prop :=
  (∃ pattern ∈ ruleset.includes, matching.covers pattern ref = true) ∧
    ∀ pattern ∈ ruleset.excludes, matching.covers pattern ref = false

/-- The check is required of the app, under the strict policy. -/
def Requires (expectedIntegrationId : Option Int) (ruleset : Ruleset) (context : String) : Prop :=
  ∃ rule ∈ ruleset.rules, rule.isStatus = true ∧ rule.strict = true ∧
    ∃ check ∈ rule.checks, check.context = some context ∧
      ∀ expected ∈ expectedIntegrationId, check.integrationId = some expected

/-- The ruleset is active, has no bypass and a rule of each type. -/
structure Enforced (target : String) (types : List String) (ruleset : Ruleset) : Prop where
  target : ruleset.target = some target
  active : ruleset.enforcement = some "active"
  noBypass : ruleset.bypassActors = []
  typed : hasTypes ruleset types = true

/-- The ruleset protects the default branch. -/
structure ProtectsMain (matching : Matching) (expectedIntegrationId : Option Int)
    (ruleset : Ruleset) : Prop where
  enforced : Enforced "branch" mainTypes ruleset
  applies : matching.Applies ruleset matching.defaultBranch
  required : ∀ context ∈ requiredChecks, Requires expectedIntegrationId ruleset context

/-- The ruleset protects every runtime anchor tag. -/
structure ProtectsAnchors (matching : Matching) (ruleset : Ruleset) : Prop where
  enforced : Enforced "tag" ["deletion", "update"] ruleset
  applies : ∀ serial : String, '/' ∉ serial.toList →
    matching.Applies ruleset ("refs/tags/adwf-runtime-anchor-" ++ serial)

/-! ## What the readers ask of one ruleset -/

/-- The last rule for status checks is strict and the last entry of each required check is of
the app. -/
structure Shows (expectedIntegrationId : Option Int) (ruleset : Ruleset) : Prop where
  enforced : Enforced "branch" mainTypes ruleset
  included : "~DEFAULT_BRANCH" ∈ ruleset.includes
  strict : lastStrict ruleset.rules = true
  sourced : ∀ context ∈ requiredChecks, ∃ app,
    (entriesOf ruleset.rules).reverse.lookup context = some app ∧
      ∀ expected ∈ expectedIntegrationId, sourceOf app = expected

/-- Every rule for status checks is strict and every entry of a required check is of the app. -/
structure Sturdy (expectedIntegrationId : Option Int) (ruleset : Ruleset) : Prop where
  enforced : Enforced "branch" mainTypes ruleset
  included : "~DEFAULT_BRANCH" ∈ ruleset.includes
  strict : ∀ rule ∈ ruleset.rules, rule.isStatus = true → rule.strict = true
  named : ∀ context ∈ requiredChecks, ∃ app, (context, app) ∈ entriesOf ruleset.rules
  sourced : ∀ context ∈ requiredChecks, ∀ app, (context, app) ∈ entriesOf ruleset.rules →
    ∀ expected ∈ expectedIntegrationId, sourceOf app = expected

/-- What the reader of the anchors asks. -/
structure ShowsAnchors (ruleset : Ruleset) : Prop where
  named : ruleset.name = anchorName
  enforced : Enforced "tag" ["deletion", "update"] ruleset
  included : anchorPattern ∈ ruleset.includes

variable {matching : Matching} {expectedIntegrationId : Option Int}
variable {ruleset other : Ruleset} {rulesets others : List Ruleset}

theorem foldl_checks (rules : List Rule) :
    (rules.foldl noteRule {}).checks = (entriesOf rules).reverse := by
  rw [foldl_noteRule_checks]
  exact List.append_nil _

theorem foldl_strict (rules : List Rule) : (rules.foldl noteRule {}).strict = lastStrict rules := by
  rw [foldl_noteRule_strict, lastStrict]
  cases (rules.filter Rule.isStatus).getLast? with
  | none => rfl
  | some rule => simp

theorem rulesetReasons_eq_nil_iff :
    rulesetReasons expectedIntegrationId ruleset = [] ↔ Shows expectedIntegrationId ruleset := by
  simp only [rulesetReasons, List.append_eq_nil_iff, reasonIf_eq_nil_iff, foldl_checks,
    foldl_strict, not_not, ne_eq, Bool.not_eq_false, not_exists, not_and]
  constructor
  · rintro ⟨⟨⟨⟨⟨⟨⟨target, active⟩, noBypass⟩, included⟩, typed⟩, found⟩, sourced⟩, strict⟩
    refine ⟨⟨target, active, noBypass, typed⟩, included, strict, fun context required => ?_⟩
    rcases Option.isSome_iff_exists.mp (found context required) with ⟨app, listed⟩
    refine ⟨app, listed, fun expected given => ?_⟩
    have same := sourced expected given context required
    rwa [listed] at same
  · rintro ⟨⟨target, active, noBypass, typed⟩, included, strict, sourced⟩
    refine ⟨⟨⟨⟨⟨⟨⟨target, active⟩, noBypass⟩, included⟩, typed⟩, ?_⟩, ?_⟩, strict⟩
    · intro context required
      rcases sourced context required with ⟨app, listed, _⟩
      rw [listed]
      rfl
    · intro expected given context required
      rcases sourced context required with ⟨app, listed, same⟩
      rw [listed]
      exact same expected given

theorem verifyRulesets_iff :
    (verifyRulesets expectedIntegrationId rulesets).readbackVerified = true ↔
      ∃ ruleset ∈ rulesets, Shows expectedIntegrationId ruleset := by
  rw [verifyRulesets, readbackOf, firstMatch_isSome_iff]
  simp only [rulesetReasons_eq_nil_iff]

theorem anchorReasons_eq_nil_iff :
    ruleset.name = anchorName ∧ anchorReasons ruleset = [] ↔ ShowsAnchors ruleset := by
  simp only [anchorReasons, List.append_eq_nil_iff, reasonIf_eq_nil_iff, not_not, ne_eq,
    Bool.not_eq_false]
  constructor
  · rintro ⟨named, ⟨⟨⟨target, active⟩, noBypass⟩, included⟩, typed⟩
    exact ⟨named, ⟨target, active, noBypass, typed⟩, included⟩
  · rintro ⟨named, ⟨target, active, noBypass, typed⟩, included⟩
    exact ⟨named, ⟨⟨⟨target, active⟩, noBypass⟩, included⟩, typed⟩

theorem verifyRuntimeAnchorRuleset_iff :
    (verifyRuntimeAnchorRuleset rulesets).readbackVerified = true ↔
      ∃ ruleset ∈ rulesets, ShowsAnchors ruleset := by
  rw [verifyRuntimeAnchorRuleset, readbackOf, firstMatch_isSome_iff]
  simp only [List.mem_filter, decide_eq_true_eq, and_assoc, anchorReasons_eq_nil_iff]

/-! ## The order of rules and checks -/

theorem mem_entriesOf_iff {rules : List Rule} {context : String} {app : Option Int} :
    (context, app) ∈ entriesOf rules ↔ ∃ rule ∈ rules, rule.isStatus = true ∧
      ∃ check ∈ rule.checks, entryOf check = some (context, app) := by
  simp only [entriesOf, List.mem_flatMap, List.mem_filter, List.mem_filterMap, and_assoc]

theorem entriesOf_append_status {rule : Rule} (rules : List Rule) (status : rule.isStatus = true) :
    entriesOf (rules ++ [rule]) = entriesOf rules ++ rule.checks.filterMap entryOf := by
  simp [entriesOf, List.filter_append, status]

theorem Ruleset.Same.exists_rule (same : ruleset.Same other) {rule : Rule}
    (inside : rule ∈ other.rules) : ∃ before ∈ ruleset.rules, before.Same rule := by
  rcases same.rules with ⟨permuted, perm, matched⟩
  rcases exists_left_of_forall₂ matched inside with ⟨before, found, related⟩
  exact ⟨before, perm.mem_iff.mpr found, related⟩

theorem Ruleset.Same.exists_rule_left (same : ruleset.Same other) {rule : Rule}
    (inside : rule ∈ ruleset.rules) : ∃ after ∈ other.rules, rule.Same after := by
  rcases same.rules with ⟨permuted, perm, matched⟩
  exact exists_left_of_forall₂ matched.flip (perm.mem_iff.mp inside)

theorem Rule.Same.isStatus {rule after : Rule} (same : rule.Same after) :
    after.isStatus = rule.isStatus := by
  rw [Rule.isStatus, Rule.isStatus, same.type]

theorem hasTypes_iff {types : List String} : hasTypes ruleset types = true ↔
      ∀ type ∈ types, ∃ rule ∈ ruleset.rules, rule.type = some type := by
  simp [hasTypes]

theorem Ruleset.Same.hasTypes_iff (same : ruleset.Same other) {types : List String} :
    hasTypes other types = true ↔ hasTypes ruleset types = true := by
  rw [Governance.hasTypes_iff, Governance.hasTypes_iff]
  constructor
  · intro typed type listed
    rcases typed type listed with ⟨rule, inside, ofType⟩
    rcases same.exists_rule inside with ⟨before, found, related⟩
    exact ⟨before, found, related.type.symm.trans ofType⟩
  · intro typed type listed
    rcases typed type listed with ⟨rule, inside, ofType⟩
    rcases same.exists_rule_left inside with ⟨after, found, related⟩
    exact ⟨after, found, related.type.trans ofType⟩

theorem Ruleset.Same.enforced_iff (same : ruleset.Same other) {target : String}
    {types : List String} : Enforced target types other ↔ Enforced target types ruleset := by
  have targeted : other.target = ruleset.target := by rw [same.others]
  have active : other.enforcement = ruleset.enforcement := by rw [same.others]
  have bypass : other.bypassActors = ruleset.bypassActors := by
    rw [same.others]
  constructor
  · intro enforced
    exact ⟨targeted.symm.trans enforced.target, active.symm.trans enforced.active,
      bypass.symm.trans enforced.noBypass, same.hasTypes_iff.mp enforced.typed⟩
  · intro enforced
    exact ⟨targeted.trans enforced.target, active.trans enforced.active,
      bypass.trans enforced.noBypass, same.hasTypes_iff.mpr enforced.typed⟩

theorem Ruleset.Same.mem_entriesOf_iff (same : ruleset.Same other) {context : String}
    {app : Option Int} :
    (context, app) ∈ entriesOf other.rules ↔ (context, app) ∈ entriesOf ruleset.rules := by
  rw [Governance.mem_entriesOf_iff, Governance.mem_entriesOf_iff]
  constructor
  · rintro ⟨rule, inside, status, check, listed, entry⟩
    rcases same.exists_rule inside with ⟨before, found, related⟩
    exact ⟨before, found, related.isStatus ▸ status, check, related.checks.mem_iff.mpr listed,
      entry⟩
  · rintro ⟨rule, inside, status, check, listed, entry⟩
    rcases same.exists_rule_left inside with ⟨after, found, related⟩
    exact ⟨after, found, related.isStatus.trans status, check, related.checks.mem_iff.mp listed,
      entry⟩

theorem Sturdy.of_same (sturdy : Sturdy expectedIntegrationId ruleset)
    (same : ruleset.Same other) : Sturdy expectedIntegrationId other where
  enforced := same.enforced_iff.mpr sturdy.enforced
  included := by
    rw [same.others]
    exact sturdy.included
  strict := by
    intro rule inside status
    rcases same.exists_rule inside with ⟨before, found, related⟩
    rw [related.strict]
    exact sturdy.strict before found (related.isStatus ▸ status)
  named := by
    intro context required
    rcases sturdy.named context required with ⟨app, listed⟩
    exact ⟨app, same.mem_entriesOf_iff.mpr listed⟩
  sourced := by
    intro context required app listed
    exact sturdy.sourced context required app (same.mem_entriesOf_iff.mp listed)

theorem exists_status_of_typed (typed : hasTypes ruleset mainTypes = true) :
    ∃ rule ∈ ruleset.rules, rule.isStatus = true := by
  have listed : "required_status_checks" ∈ mainTypes := by simp [mainTypes]
  rcases hasTypes_iff.mp typed _ listed with ⟨rule, inside, ofType⟩
  exact ⟨rule, inside, decide_eq_true ofType⟩

theorem Sturdy.shows (sturdy : Sturdy expectedIntegrationId ruleset) :
    Shows expectedIntegrationId ruleset where
  enforced := sturdy.enforced
  included := sturdy.included
  strict := by
    rcases exists_status_of_typed sturdy.enforced.typed with ⟨rule, inside, status⟩
    have listed : rule ∈ ruleset.rules.filter Rule.isStatus := List.mem_filter.mpr ⟨inside, status⟩
    rw [lastStrict]
    cases last : (ruleset.rules.filter Rule.isStatus).getLast? with
    | none =>
        rw [List.getLast?_eq_none_iff.mp last] at listed
        cases listed
    | some final =>
        rcases List.mem_filter.mp (List.mem_of_getLast? last) with ⟨found, ofStatus⟩
        exact sturdy.strict final found ofStatus
  sourced := by
    intro context required
    rcases sturdy.named context required with ⟨app, listed⟩
    cases found : (entriesOf ruleset.rules).reverse.lookup context with
    | none =>
        have missing := List.lookup_eq_none_iff.mp found _ (List.mem_reverse.mpr listed)
        simp at missing
    | some final =>
        rcases List.lookup_eq_some_iff.mp found with ⟨front, back, split, _⟩
        have inside : (context, final) ∈ entriesOf ruleset.rules := by
          rw [← List.mem_reverse, split]
          simp
        exact ⟨final, rfl, sturdy.sourced context required final inside⟩

/-- A rule that is moved behind the others. -/
theorem same_of_split {front back : List Rule} {rule last : Rule}
    (split : ruleset.rules = front ++ rule :: back) (same : rule.Same last) :
    ruleset.Same { ruleset with rules := front ++ back ++ [last] } where
  others := rfl
  rules := by
    refine ⟨front ++ back ++ [rule], ?_, ?_⟩
    · rw [split, List.append_assoc]
      exact (List.perm_middle.trans (List.perm_append_singleton _ _).symm).trans
        (by rw [List.append_assoc])
    · exact List.rel_append (List.forall₂_same.mpr fun rule _ => Rule.Same.refl rule)
        (.cons same .nil)

theorem sturdy_iff : Sturdy expectedIntegrationId ruleset ↔
      ∀ other, ruleset.Same other → Shows expectedIntegrationId other := by
  constructor
  · intro sturdy other same
    exact (sturdy.of_same same).shows
  · intro every
    have shown := every ruleset (Ruleset.Same.refl ruleset)
    refine ⟨shown.enforced, shown.included, ?_, ?_, ?_⟩
    · -- A rule that is moved to the end decides on the policy.
      intro rule inside status
      rcases List.append_of_mem inside with ⟨front, back, split⟩
      have moved := (every _ (same_of_split split (Rule.Same.refl rule))).strict
      simpa [lastStrict, List.filter_append, status] using moved
    · intro context required
      rcases shown.sourced context required with ⟨app, found, _⟩
      rcases List.lookup_eq_some_iff.mp found with ⟨front, back, split, _⟩
      refine ⟨app, ?_⟩
      rw [← List.mem_reverse, split]
      simp
    · -- A check that is moved to the end of the last rule decides on the app.
      intro context required app listed expected given
      rcases mem_entriesOf_iff.mp listed with ⟨rule, inside, status, check, among, entry⟩
      rcases List.append_of_mem inside with ⟨front, back, split⟩
      rcases List.append_of_mem among with ⟨before, after, splitChecks⟩
      have same : rule.Same { rule with checks := before ++ after ++ [check] } := by
        refine ⟨rfl, rfl, ?_⟩
        rw [splitChecks, List.append_assoc]
        exact (List.perm_middle.trans (List.perm_append_singleton _ _).symm).trans
          (by rw [List.append_assoc])
      have ofStatus : ({ rule with checks := before ++ after ++ [check] } : Rule).isStatus = true :=
        status
      rcases (every _ (same_of_split split same)).sourced context required with ⟨last, found, named⟩
      have final : app = last := by
        rw [entriesOf_append_status _ ofStatus, List.filterMap_append] at found
        simpa [entry] using found
      rw [final]
      exact named expected given

end Adwf.Governance

/-!
## What a readback of rulesets proves

A verdict is sound when it is earned by a ruleset that protects, and when no
order of the readback changes it.
-/

namespace Adwf.Governance

/-- The verdict is earned, and it is the same in every order. -/
structure Sound (verified : List Ruleset → Bool) (Protects : Ruleset → Prop)
    (rulesets : List Ruleset) : Prop where
  earned : verified rulesets = true → ∃ ruleset ∈ rulesets, Protects ruleset
  stable : ∀ others, Reordered rulesets others → verified others = verified rulesets

section Accepting

variable {verified : List Ruleset → Bool} {Accepts Protects : Ruleset → Prop}
variable {rulesets : List Ruleset}

/-- One ruleset of the list may be replaced by the same one in another order. -/
theorem exists_reordered_of_mem {ruleset other : Ruleset} (inside : ruleset ∈ rulesets)
    (same : ruleset.Same other) : ∃ others, Reordered rulesets others ∧ other ∈ others := by
  rcases List.append_of_mem inside with ⟨front, back, rfl⟩
  refine ⟨front ++ other :: back, ⟨_, List.Perm.refl _, ?_⟩, by simp⟩
  apply List.rel_append
  · exact List.forall₂_same.mpr fun ruleset _ => Ruleset.Same.refl ruleset
  · exact .cons same (List.forall₂_same.mpr fun ruleset _ => Ruleset.Same.refl ruleset)

theorem sound_iff (reads : ∀ rulesets, verified rulesets = true ↔ ∃ ruleset ∈ rulesets,
    Accepts ruleset) : Sound verified Protects rulesets ↔
      (∀ ruleset ∈ rulesets, ∀ other, ruleset.Same other → ¬Accepts other) ∨
        (∃ ruleset ∈ rulesets, ∀ other, ruleset.Same other → Accepts other) ∧
          ∃ ruleset ∈ rulesets, Protects ruleset := by
  constructor
  · intro sound
    by_cases hopeless : ∀ ruleset ∈ rulesets, ∀ other, ruleset.Same other → ¬Accepts other
    · exact Or.inl hopeless
    push Not at hopeless
    rcases hopeless with ⟨ruleset, inside, other, same, accepted⟩
    rcases exists_reordered_of_mem inside same with ⟨others, reordered, found⟩
    have holds : verified rulesets = true := by
      rw [← sound.stable others reordered]
      exact (reads others).mpr ⟨other, found, accepted⟩
    refine Or.inr ⟨?_, sound.earned holds⟩
    -- If each had an order in which it fails, these orders together would fail.
    by_contra none
    push Not at none
    rcases exists_forall₂_of_forall none with ⟨failing, matched, refused⟩
    have fails := sound.stable failing ⟨rulesets, List.Perm.refl _, matched⟩
    rcases (reads failing).mp (fails.trans holds) with ⟨accepted, listed, passes⟩
    exact refused accepted listed passes
  · rintro (hopeless | ⟨⟨sturdy, inside, accepted⟩, protecting⟩)
    · have never : ∀ others, Reordered rulesets others → verified others = false := by
        intro others reordered
        rw [Bool.eq_false_iff, ne_eq, reads]
        rintro ⟨other, listed, passes⟩
        rcases reordered.exists_of_mem listed with ⟨ruleset, found, same⟩
        exact hopeless ruleset found other same passes
      have same := never rulesets ⟨rulesets, List.Perm.refl _,
        List.forall₂_same.mpr fun ruleset _ => Ruleset.Same.refl ruleset⟩
      refine ⟨fun holds => ?_, fun others reordered => (never others reordered).trans same.symm⟩
      rw [same] at holds
      cases holds
    · have always : ∀ others, Reordered rulesets others → verified others = true := by
        intro others reordered
        rcases reordered.exists_of_mem_left inside with ⟨other, listed, same⟩
        exact (reads others).mpr ⟨other, listed, accepted other same⟩
      have same := always rulesets ⟨rulesets, List.Perm.refl _,
        List.forall₂_same.mpr fun ruleset _ => Ruleset.Same.refl ruleset⟩
      exact ⟨fun _ => protecting, fun others reordered => (always others reordered).trans same.symm⟩

end Accepting

/-! ## The two readers -/

variable (matching : Matching) (expectedIntegrationId : Option Int)

/-- Both verdicts are sound. -/
structure SoundReadback (rulesets : List Ruleset) : Prop where
  main : Sound (fun rulesets => (verifyRulesets expectedIntegrationId rulesets).readbackVerified)
    (ProtectsMain matching expectedIntegrationId) rulesets
  anchors : Sound (fun rulesets => (verifyRuntimeAnchorRuleset rulesets).readbackVerified)
    (ProtectsAnchors matching) rulesets

/-- No ruleset shows the rules in any order, or one is sturdy and one protects the branch. -/
def SettledMain (rulesets : List Ruleset) : Prop :=
  (∀ ruleset ∈ rulesets, ∀ other, ruleset.Same other → ¬Shows expectedIntegrationId other) ∨
    (∃ ruleset ∈ rulesets, Sturdy expectedIntegrationId ruleset) ∧
      ∃ ruleset ∈ rulesets, ProtectsMain matching expectedIntegrationId ruleset

/-- No ruleset shows the rules for the anchors, or one protects them. -/
def SettledAnchors (rulesets : List Ruleset) : Prop :=
  (∀ ruleset ∈ rulesets, ¬ShowsAnchors ruleset) ∨
    ∃ ruleset ∈ rulesets, ProtectsAnchors matching ruleset

variable {matching expectedIntegrationId} {rulesets : List Ruleset}

/-- The reader of the anchors does not look at the order. -/
theorem Ruleset.Same.showsAnchors_iff {ruleset other : Ruleset} (same : ruleset.Same other) :
    ShowsAnchors other ↔ ShowsAnchors ruleset := by
  have named : other.name = ruleset.name := by rw [same.others]
  have included : other.includes = ruleset.includes := by rw [same.others]
  constructor
  · intro shown
    exact ⟨named.symm.trans shown.named, same.enforced_iff.mp shown.enforced,
      included ▸ shown.included⟩
  · intro shown
    exact ⟨named.trans shown.named, same.enforced_iff.mpr shown.enforced, included ▸ shown.included⟩

theorem sound_main_iff :
    Sound (fun rulesets => (verifyRulesets expectedIntegrationId rulesets).readbackVerified)
        (ProtectsMain matching expectedIntegrationId) rulesets ↔
      SettledMain matching expectedIntegrationId rulesets := by
  rw [sound_iff fun _ => verifyRulesets_iff]
  simp only [SettledMain, sturdy_iff]

theorem sound_anchors_iff :
    Sound (fun rulesets => (verifyRuntimeAnchorRuleset rulesets).readbackVerified)
        (ProtectsAnchors matching) rulesets ↔ SettledAnchors matching rulesets := by
  rw [sound_iff fun _ => verifyRuntimeAnchorRuleset_iff]
  constructor
  · rintro (hopeless | ⟨_, protecting⟩)
    · exact Or.inl fun ruleset inside => hopeless ruleset inside ruleset (Ruleset.Same.refl ruleset)
    · exact Or.inr protecting
  · intro settled
    by_cases shown : ∃ ruleset ∈ rulesets, ShowsAnchors ruleset
    · rcases shown with ⟨ruleset, inside, shows⟩
      rcases settled with none | protecting
      · exact absurd shows (none ruleset inside)
      · exact Or.inr ⟨⟨ruleset, inside, fun other same => same.showsAnchors_iff.mpr shows⟩,
          protecting⟩
    · left
      intro ruleset inside other same shows
      exact shown ⟨ruleset, inside, same.showsAnchors_iff.mp shows⟩

/-- Neither reader looks at the excluded refs, and the one of the branch goes by the last rule for
status checks and the last entry of each check. -/
theorem soundReadback_iff (matching : Matching) (expectedIntegrationId : Option Int)
    (rulesets : List Ruleset) : SoundReadback matching expectedIntegrationId rulesets ↔
      SettledMain matching expectedIntegrationId rulesets ∧ SettledAnchors matching rulesets := by
  rw [← sound_main_iff, ← sound_anchors_iff]
  constructor
  · rintro ⟨main, anchors⟩
    exact ⟨main, anchors⟩
  · rintro ⟨main, anchors⟩
    exact ⟨main, anchors⟩

section Excluded

/-- Patterns that end in a star match by their beginning. -/
def starMatching : Matching where
  covers pattern ref := (pattern = "~DEFAULT_BRANCH" ∧ ref = "refs/heads/main") ∨ pattern = ref ∨
    (pattern = anchorPattern ∧ Text.startsWith ref "refs/tags/adwf-runtime-anchor-" = true)
  defaultBranch := "refs/heads/main"
  covers_defaultBranch := rfl
  covers_anchor := by
    intro serial _
    simp [Text.startsWith]

/-- The canonical ruleset, but for the default branch. -/
def excludingRuleset : Ruleset where
  name := "ADWF protected main"
  target := "branch"
  enforcement := "active"
  includes := ["~DEFAULT_BRANCH"]
  excludes := ["refs/heads/main"]
  rules := [{ type := "deletion" }, { type := "non_fast_forward" }, { type := "pull_request" },
    { type := "required_status_checks"
      strict := true
      checks := requiredChecks.map fun context => ⟨context, some 15368⟩ }]

theorem excludingRuleset_unprotected :
    ¬SoundReadback starMatching (some 15368) [excludingRuleset] := by
  intro sound
  rcases sound.main.earned (by decide) with ⟨ruleset, inside, protects⟩
  rcases List.mem_singleton.mp inside with rfl
  have excluded := protects.applies.2 "refs/heads/main" (List.mem_singleton.mpr rfl)
  simp [starMatching] at excluded

end Excluded

end Adwf.Governance
