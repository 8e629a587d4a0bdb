import Adwf.Healing.Circuit
import Adwf.Healing.Evaluate
import Adwf.Supervisor.WorkContract

/-!
# Automatic healing is confined

What an H3 decision and a verified sandbox result say about the recipe, its actions
and the paths that are written, and the one way around a protected pattern: another
case of the directory of a `/**` pattern.
-/

namespace Adwf.Healing

open Contracts Fallible JsonText

variable {tools : Tools}

/-! ## Protected paths -/

/-- The path leaves the root, or is absolute. -/
def Escapes (raw : String) : Prop :=
  let chars := raw.toList.map fun char => if char = '\\' then '/' else char
  chars.head? = some '/' ∨ ['.', '.'] ∈ Trust.posixParts chars

/-- The path is the directory or lies below it. -/
def Within (directory path : String) : Prop :=
  path = directory ∨ (directory.toList ++ ['/']) <+: path.toList

/-- The pattern protects the path, in any case: as a glob, as a glob without a leading `**/`,
or because the path lies within the directory before a final `/**`. -/
inductive Shields (tools : Tools) (pattern path : String) : Prop
  | glob (found : tools.globMatches (tools.casefold path) (tools.casefold pattern) = true)
  | anywhere (rest : String) (isPattern : pattern = "**/" ++ rest) (filled : rest ≠ "")
      (found : tools.globMatches (tools.casefold path) (tools.casefold rest) = true)
  | within (directory : String) (isPattern : pattern = directory ++ "/**") (filled : directory ≠ "")
      (inside : Within (tools.casefold directory) (tools.casefold path))

/-- The path lies within the directory of a `/**` pattern in another case only. -/
def Recased (tools : Tools) (pattern path : String) : Prop :=
  ∃ directory, pattern = directory ++ "/**" ∧ directory ≠ "" ∧
    Within (tools.casefold directory) (tools.casefold path) ∧ ¬Within directory path

theorem exists_rest_iff {text first : String} {holds : String → Prop} :
    (∃ rest, text = first ++ rest ∧ holds rest) ↔ first.toList <+: text.toList ∧
        holds (String.ofList (text.toList.drop first.toList.length)) := by
  constructor
  · rintro ⟨rest, rfl, held⟩
    rw [String.toList_append, List.drop_left, String.ofList_toList]
    exact ⟨List.prefix_append _ _, held⟩
  · rintro ⟨⟨rest, split⟩, held⟩
    rw [← split, List.drop_left] at held
    refine ⟨String.ofList rest, ?_, held⟩
    rw [← String.toList_inj, String.toList_append, String.toList_ofList, split]

theorem exists_before_iff {text last : String} {holds : String → Prop} :
    (∃ before, text = before ++ last ∧ holds before) ↔ last.toList <:+ text.toList ∧
        holds (String.ofList (text.toList.take (text.toList.length - last.toList.length))) := by
  constructor
  · rintro ⟨before, rfl, held⟩
    rw [String.toList_append, List.length_append, Nat.add_sub_cancel, List.take_left,
      String.ofList_toList]
    exact ⟨List.suffix_append _ _, held⟩
  · rintro ⟨⟨before, split⟩, held⟩
    rw [← split, List.length_append, Nat.add_sub_cancel, List.take_left] at held
    refine ⟨String.ofList before, ?_, held⟩
    rw [← String.toList_inj, String.toList_append, String.toList_ofList, split]

theorem ofList_ne_empty_iff {chars : List Char} : String.ofList chars ≠ "" ↔ chars ≠ [] := by
  rw [Ne, ← String.toList_inj, String.toList_ofList, String.toList_empty]

theorem covers_iff {path pattern : String} : covers tools path pattern = true ↔
      tools.globMatches (tools.casefold path) (tools.casefold pattern) = true ∨
      (∃ rest, pattern = "**/" ++ rest ∧ rest ≠ "" ∧
        tools.globMatches (tools.casefold path) (tools.casefold rest) = true) ∨
      ∃ directory, pattern = directory ++ "/**" ∧ directory ≠ "" ∧ Within directory path := by
  have after (chars : List Char) (begins : "**/".toList <+: chars) :
      chars.drop 3 ≠ [] ↔ chars.length ≠ 3 := by
    have long : 3 ≤ chars.length := begins.length_le
    rw [Ne, List.drop_eq_nil_iff]
    omega
  have before (chars : List Char) (ends : "/**".toList <:+ chars) :
      chars.take (chars.length - 3) ≠ [] ↔ chars.length ≠ 3 := by
    have long : 3 ≤ chars.length := ends.length_le
    rw [Ne, List.take_eq_nil_iff, ← List.length_eq_zero_iff]
    omega
  have ofText (directory : List Char) :
      Within (String.ofList directory) path ↔
        path.toList = directory ∨ (directory ++ ['/']) <+: path.toList := by
    rw [Within, ← String.toList_inj, String.toList_ofList]
  rw [exists_rest_iff, exists_before_iff, covers]
  simp only [Bool.or_eq_true, Bool.and_eq_true, decide_eq_true_eq, Text.startsWith,
    List.isPrefixOf_iff_prefix, List.isSuffixOf_iff_suffix, ofList_ne_empty_iff, ofText,
    or_assoc]
  refine or_congr Iff.rfl (or_congr ?_ ?_)
  · rw [and_assoc]
    exact and_congr_right fun begins => and_congr_left fun _ => (after _ begins).symm
  · rw [and_assoc]
    exact and_congr_right fun ends => and_congr_left fun _ => (before _ ends).symm

theorem shields_iff_recased {path pattern : String}
    (uncovered : covers tools path pattern = false) :
    Shields tools pattern path ↔ Recased tools pattern path := by
  have refused : ¬covers tools path pattern = true := by rw [uncovered]; exact Bool.false_ne_true
  rw [covers_iff, not_or, not_or] at refused
  rcases refused with ⟨noGlob, nowhere, outside⟩
  constructor
  · rintro (found | ⟨rest, isPattern, filled, found⟩ | ⟨directory, isPattern, filled, inside⟩)
    · exact absurd found noGlob
    · exact absurd ⟨rest, isPattern, filled, found⟩ nowhere
    · exact ⟨directory, isPattern, filled, inside,
        fun written => outside ⟨directory, isPattern, filled, written⟩⟩
  · rintro ⟨directory, isPattern, filled, inside, _⟩
    exact .within directory isPattern filled inside

/-! ## Writes without findings -/

theorem distinct_eq_nil_iff {findings : List String} : distinct findings = [] ↔ findings = [] := by
  rw [distinct, sorted, ← List.length_eq_zero_iff, List.length_insertionSort,
    List.length_eq_zero_iff, List.dedup_eq_nil]

theorem mem_distinct_iff {findings : List String} {finding : String} :
    finding ∈ distinct findings ↔ finding ∈ findings := by
  rw [distinct, sorted, List.mem_insertionSort, List.mem_dedup]

theorem writesOf_writing (paths : List String) : writesOf (writing paths) = paths := by
  simp only [writesOf, writing, Value.get, List.lookup_cons, beq_self_eq_true, Option.getD,
    Value.asList, List.filterMap_map]
  exact List.filterMap_some

theorem not_escapes_of_normalizeRelativePath {raw path : String}
    (normal : normalizeRelativePath raw = .ok path) : ¬Escapes raw := by
  obtain ⟨_, required, _⟩ := bind_ok_iff.mp normal
  obtain ⟨relative, _, noParent⟩ := (require_eq_ok_iff _ _ _).mp required
  rintro (absolute | parent)
  · exact relative absolute
  · exact noParent parent

theorem writeFinding_eq_nil_iff {patterns : List String} {raw : String} :
    writeFinding tools patterns raw = [] ↔ ∃ path, normalizeRelativePath raw = .ok path ∧
        ∀ pattern ∈ patterns, covers tools path pattern = false := by
  unfold writeFinding
  cases normalizeRelativePath raw with
  | error error => simp
  | ok path =>
      simp only [Except.ok.injEq, exists_eq_left']
      cases found : patterns.find? (covers tools path) with
      | none => simpa using found
      | some pattern =>
          have member := List.mem_of_find?_eq_some found
          have covered := List.find?_some found
          simp only [List.cons_ne_nil, false_iff]
          intro uncovered
          rw [uncovered pattern member] at covered
          cases covered

/-- Each write has a normal form, and no pattern covers it. -/
def WritesAccepted (tools : Tools) (patterns writes : List String) : Prop :=
  ∀ raw ∈ writes, ∃ path, normalizeRelativePath raw = .ok path ∧
    ∀ pattern ∈ patterns, covers tools path pattern = false

theorem protectedPathFindings_eq_nil_iff {actions : List Members} {patterns : List String} :
    protectedPathFindings tools actions patterns = [] ↔
      WritesAccepted tools patterns (actions.flatMap writesOf) := by
  simp only [protectedPathFindings, distinct_eq_nil_iff, List.flatMap_eq_nil_iff,
    writeFinding_eq_nil_iff, WritesAccepted, List.mem_flatMap]
  constructor
  · rintro accepted raw ⟨action, member, written⟩
    exact accepted action member raw written
  · intro accepted action member raw written
    exact accepted raw ⟨action, member, written⟩

/-- No write leaves the root, and none is protected. -/
structure WritesConfined (tools : Tools) (patterns writes : List String) : Prop where
  inside : ∀ raw ∈ writes, ¬Escapes raw
  unprotected : ∀ raw ∈ writes, ∀ path, normalizeRelativePath raw = .ok path →
    ∀ pattern ∈ patterns, ¬Shields tools pattern path

/-- No write is another case of a protected directory. -/
def NoneRecased (tools : Tools) (patterns writes : List String) : Prop :=
  ∀ raw ∈ writes, ∀ path, normalizeRelativePath raw = .ok path →
    ∀ pattern ∈ patterns, ¬Recased tools pattern path

theorem WritesAccepted.confined_iff {patterns writes : List String}
    (accepted : WritesAccepted tools patterns writes) :
    WritesConfined tools patterns writes ↔ NoneRecased tools patterns writes := by
  have same : ∀ raw ∈ writes, ∀ path, normalizeRelativePath raw = .ok path →
      ∀ pattern ∈ patterns, (Shields tools pattern path ↔ Recased tools pattern path) := by
    intro raw written path normal pattern member
    obtain ⟨other, isNormal, uncovered⟩ := accepted raw written
    rw [normal] at isNormal
    cases isNormal
    exact shields_iff_recased (uncovered pattern member)
  constructor
  · intro confined raw written path normal pattern member recased
    exact confined.unprotected raw written path normal pattern member
      ((same raw written path normal pattern member).mpr recased)
  · intro none
    refine ⟨?_, ?_⟩
    · intro raw written
      obtain ⟨path, normal, _⟩ := accepted raw written
      exact not_escapes_of_normalizeRelativePath normal
    · intro raw written path normal pattern member shielded
      exact none raw written path normal pattern member
        ((same raw written path normal pattern member).mp shielded)

/-- The metrics of the context are numbers within the budgets, and nothing costs money. -/
structure WithinBudget (tools : Tools) (context config : Members)
    (actionCount additionalFiles : Nat) : Prop where
  attempts : ∃ number, safeMetric tools context "attempts" true = (number, []) ∧
    number < budget config "max_attempts"
  elapsed : ∃ number, safeMetric tools context "elapsed_seconds" false = (number, []) ∧
    number ≤ budget config "max_elapsed_seconds"
  changedFiles : ∃ number, safeMetric tools context "changed_files" true = (number, []) ∧
    number + additionalFiles ≤ budget config "max_changed_files"
  actionCount : (actionCount : Int) ≤ budget config "max_actions"
  free : safeMetric tools context "monetary_cost" false = (0, [])
  withoutAi : isTrue (Value.get context "ai_api_required") = false

theorem finding_eq_nil_iff {condition : Prop} [Decidable condition] {code : String} :
    (if condition then [code] else []) = [] ↔ ¬condition := by
  split_ifs with holds <;> simp [holds]

theorem withinBudget_of_budgetFindings {context config : Members}
    {actionCount additionalFiles : Nat}
    (clean : budgetFindings tools context config actionCount additionalFiles = []) :
    WithinBudget tools context config actionCount additionalFiles := by
  simp only [budgetFindings, List.append_eq_nil_iff, finding_eq_nil_iff, Rat.not_le, Rat.not_lt,
    Int.not_lt, not_not, Bool.not_eq_true] at clean
  obtain ⟨⟨⟨⟨⟨⟨⟨⟨⟨attempts, elapsed⟩, files⟩, cost⟩, tried⟩, spent⟩, changed⟩, acted⟩, free⟩, ai⟩ :=
    clean
  exact {
    attempts := ⟨_, Prod.ext rfl attempts, tried⟩
    elapsed := ⟨_, Prod.ext rfl elapsed, spent⟩
    changedFiles := ⟨_, Prod.ext rfl files, changed⟩
    actionCount := acted
    free := Prod.ext free cost
    withoutAi := ai }

/-- The number of files the actions declare to write. -/
def declaredFiles (actions : List Members) : Nat :=
  (((actions.flatMap writesOf).map normalizeRelativePath).filterMap Except.toOption).dedup.length

/-- What a decision lets actions do. -/
structure ActionsConfined (tools : Tools) (context config : Members) (actions : List Members) :
    Prop where
  writes : WritesConfined tools (protectedPaths config) (actions.flatMap writesOf)
  harmless : ∀ action ∈ actions, isTrue (Value.get action "destructive") = false
  offline : ∀ action ∈ actions, isTrue (Value.get action "network") = true →
    isTrue (Value.get config "allow_network") = true
  withoutAi : ∀ action ∈ actions, isTrue (Value.get action "requires_ai_api") = false
  free : ∀ action ∈ actions, tools.isZero (Value.get action "monetary_cost") = true
  budget : WithinBudget tools context config actions.length (declaredFiles actions)

theorem actionsConfined_iff {context config : Members} {actions : List Members}
    (clean : actionFindings tools config context actions = [])
    (free : ∀ action ∈ actions, tools.isZero (Value.get action "monetary_cost") = true) :
    ActionsConfined tools context config actions ↔
      NoneRecased tools (protectedPaths config) (actions.flatMap writesOf) := by
  simp only [actionFindings, List.append_eq_nil_iff, finding_eq_nil_iff, List.any_eq_true,
    not_exists, not_and, Bool.not_eq_true, protectedPathFindings_eq_nil_iff] at clean
  obtain ⟨⟨⟨⟨⟨⟨accepted, safe⟩, harmless⟩, offline⟩, withoutAi⟩, _⟩, budgeted⟩ := clean
  rw [← accepted.confined_iff]
  constructor
  · intro confined
    exact confined.writes
  · intro writes
    exact {
      writes
      harmless
      offline := fun action member networked =>
        Bool.eq_true_of_not_eq_false (offline ⟨action, member, networked⟩)
      withoutAi
      free
      budget := withinBudget_of_budgetFindings budgeted }

/-! ## Recipes -/

/-- The recipe is active, and made for the incident under this policy and these versions. -/
structure Matches (tools : Tools) (fingerprint : String) (context : Members) (now : Rat)
    (recipe : Members) : Prop where
  fingerprint : fingerprintOf recipe = some fingerprint
  policy : ∃ hash ∈ (Value.get ((Value.get recipe "compatibility").asDict.getD [])
    "policy_hashes").asList.getD [],
    pythonEqual tools.floats (Value.get context "policy_hash") hash = true
  versions : ∀ kind ∈ ["tool_versions", "runtime_versions"],
    versionsMatch tools (Value.get ((Value.get recipe "compatibility").asDict.getD []) kind)
      (Value.getOr context kind (.dict [])) = true
  unexpired : ∃ text expiry, Value.get recipe "expires_at" = .str text ∧
    tools.readTime text = some expiry ∧ now < expiry
  active : lifecycleOf recipe = some .active

/-- The only item with a property. -/
def Sole {α : Type} (holds : α → Prop) (item : α) (items : List α) : Prop :=
  holds item ∧ ∃ before after, items = before ++ item :: after ∧
    ∀ other ∈ before ++ after, ¬holds other

theorem Sole.eq {α : Type} {holds : α → Prop} {item other : α} {items : List α}
    (sole : Sole holds item items) (member : other ∈ items) (held : holds other) :
    other = item := by
  obtain ⟨_, before, after, rfl, none⟩ := sole
  rcases List.mem_append.mp member with earlier | later
  · exact absurd held (none other (List.mem_append_left _ earlier))
  · rcases List.mem_cons.mp later with same | later
    · exact same
    · exact absurd held (none other (List.mem_append_right _ later))

theorem expiryFindings_eq_nil_iff {recipe : Members} {now : Rat} :
    expiryFindings tools recipe now = [] ↔
      ∃ text expiry, Value.get recipe "expires_at" = .str text ∧
        tools.readTime text = some expiry ∧ now < expiry := by
  unfold expiryFindings
  cases Value.get recipe "expires_at" with
  | str text =>
      cases read : tools.readTime text with
      | none => simp [read]
      | some expiry => simp [read, Rat.not_le]
  | _ => simp

theorem recipeCompatibility_eq_nil_iff {recipe context : Members} {fingerprint : String}
    {now : Rat} : recipeCompatibility tools recipe fingerprint context now = [] ∧
        lifecycleOf recipe = some .active ↔ Matches tools fingerprint context now recipe := by
  simp only [recipeCompatibility, List.append_eq_nil_iff, ite_eq_left_iff, List.cons_ne_nil,
    imp_false, not_not, expiryFindings_eq_nil_iff, List.any_eq_true]
  constructor
  · rintro ⟨⟨⟨⟨⟨fingerprint, policy⟩, tool⟩, rt⟩, unexpired⟩, active⟩
    exact ⟨fingerprint, policy, by simp [tool, rt], unexpired, active⟩
  · intro fits
    exact ⟨⟨⟨⟨⟨fits.fingerprint, fits.policy⟩, fits.versions _ (by simp)⟩,
      fits.versions _ (by simp)⟩, fits.unexpired⟩, fits.active⟩

theorem judgeRecipe_candidate_iff {recipe candidate context : Members} {fingerprint : String}
    {now : Rat} {verdict : Option Members × List String}
    (judged : judgeRecipe tools fingerprint context now recipe = .ok verdict) :
    verdict.1 = some candidate ↔
      candidate = recipe ∧ Matches tools fingerprint context now recipe := by
  rw [← recipeCompatibility_eq_nil_iff]
  unfold judgeRecipe at judged
  by_cases other : fingerprintOf recipe = some fingerprint
  · rw [if_neg (not_not.mpr other)] at judged
    dsimp only at judged
    by_cases clean : recipeCompatibility tools recipe fingerprint context now = []
    · rw [if_neg (not_not.mpr clean)] at judged
      by_cases active : lifecycleOf recipe = some .active
      · rw [if_pos active] at judged
        cases judged
        simp [clean, active, eq_comm]
      · rw [if_neg active] at judged
        obtain ⟨key, _, judged⟩ := bind_ok_iff.mp judged
        split_ifs at judged <;> cases judged <;> simp [active]
    · rw [if_pos clean] at judged
      obtain ⟨key, _, judged⟩ := bind_ok_iff.mp judged
      cases judged
      simp [clean]
  · rw [if_pos other] at judged
    cases judged
    have mismatch : recipeCompatibility tools recipe fingerprint context now ≠ [] := by
      simp [recipeCompatibility, other]
    simp [mismatch]

open Classical in
theorem filterMap_judged {recipes : List Members} {context : Members} {fingerprint : String}
    {now : Rat} {judged : List (Option Members × List String)}
    (read : recipes.mapM (judgeRecipe tools fingerprint context now) = .ok judged) :
    judged.filterMap Prod.fst =
      recipes.filter fun recipe => decide (Matches tools fingerprint context now recipe) := by
  induction recipes generalizing judged with
  | nil =>
      rw [mapM_nil_eq_ok_iff.mp read]
      rfl
  | cons recipe recipes ih =>
      obtain ⟨verdict, others, first, later, rfl⟩ := mapM_cons_eq_ok_iff.mp read
      have candidate :=
        @judgeRecipe_candidate_iff tools recipe recipe context fingerprint now _ first
      have listed := ih later
      by_cases fits : Matches tools fingerprint context now recipe
      · rw [List.filterMap_cons_some (candidate.mpr ⟨rfl, fits⟩), listed, List.filter_cons,
          if_pos (decide_eq_true fits)]
      · have refused : verdict.1 = none := by
          rw [Option.eq_none_iff_forall_ne_some]
          intro other chosen
          exact fits ((judgeRecipe_candidate_iff first).mp chosen).2
        rw [List.filterMap_cons_none refused, listed, List.filter_cons,
          if_neg (by simpa using fits)]

theorem sole_of_judged {recipes : List Members} {recipe context : Members} {fingerprint : String}
    {now : Rat} {judged : List (Option Members × List String)}
    (read : recipes.mapM (judgeRecipe tools fingerprint context now) = .ok judged)
    (single : judged.filterMap Prod.fst = [recipe]) :
    Sole (Matches tools fingerprint context now) recipe recipes := by
  classical
  rw [filterMap_judged read, List.filter_eq_cons_iff] at single
  obtain ⟨before, after, split, none, fits, rest⟩ := single
  refine ⟨of_decide_eq_true fits, before, after, split, ?_⟩
  intro other member held
  rcases List.mem_append.mp member with earlier | later
  · exact none other earlier (decide_eq_true held)
  · exact List.filter_eq_nil_iff.mp rest other later (decide_eq_true held)

theorem validateRecipe_of_mem {seen : List (String × String)} {recipes : List Value}
    {recipe : Members}
    (valid : validateRecipes tools seen recipes = .ok ()) (member : .dict recipe ∈ recipes) :
    validateRecipe tools recipe = .ok () := by
  induction recipes generalizing seen with
  | nil => cases member
  | cons first recipes ih =>
      cases first with
      | dict other =>
          obtain ⟨_, _, valid⟩ := bind_ok_iff.mp valid
          obtain ⟨_, here, later⟩ := bind_ok_iff.mp valid
          rcases List.mem_cons.mp member with same | member
          · cases same
            exact here
          · exact ih later member
      | _ => cases valid

theorem validateRecipe_of_registry {registry : Value} {recipe : Members}
    (valid : validateRecipeRegistry tools registry = .ok ())
    (member : recipe ∈ recipesOf registry) : validateRecipe tools recipe = .ok () := by
  cases registry with
  | dict fields =>
      unfold validateRecipeRegistry at valid
      obtain ⟨item, listed, isRecipe⟩ := List.mem_filterMap.mp member
      cases item with
      | dict other =>
          cases isRecipe
          simp only [Value.asDict, Option.getD] at listed
          cases isList : Value.get fields "recipes" with
          | list recipes =>
              simp only [isList, Value.asList] at valid listed
              exact validateRecipe_of_mem valid listed
          | _ =>
              simp only [isList] at valid
              cases valid
      | _ => cases isRecipe
  | _ => cases valid

theorem isZero_of_validateActionShape {action : Members}
    (valid : validateActionShape tools (.dict action) = .ok ()) :
    tools.isZero (Value.get action "monetary_cost") = true := by
  obtain ⟨level, _, valid⟩ := bind_ok_iff.mp valid
  simp only [bind_ok_iff, require_eq_ok_iff, exists_const] at valid
  obtain ⟨_, _, _, _, _, _, free, _⟩ := valid
  exact free

theorem free_of_validateRecipe {recipe : Members} (valid : validateRecipe tools recipe = .ok ()) :
    ∀ action ∈ ((Value.get recipe "actions").asList.getD []).filterMap Value.asDict,
      tools.isZero (Value.get action "monetary_cost") = true := by
  have shaped : ∀ action ∈ (Value.get recipe "actions").asList.getD [],
      validateActionShape tools action = .ok () := by
    simp only [validateRecipe, bind_ok_iff, require_eq_ok_iff, exists_const] at valid
    obtain ⟨_, _, known, _, _, valid⟩ := valid
    split at valid
    · simp only [bind_ok_iff, require_eq_ok_iff, exists_const] at valid
      obtain ⟨_, valid⟩ := valid
      split at valid
      · simp only [bind_ok_iff, require_eq_ok_iff, exists_const] at valid
        obtain ⟨_, _, _, valid⟩ := valid
        split at valid
        · split at valid
          · simp only [bind_ok_iff, require_eq_ok_iff, exists_const] at valid
            obtain ⟨_, _, _, _, shaped⟩ := valid
            exact forM_eq_ok_iff.mp shaped
          · cases valid
        · cases valid
      · cases valid
    · cases valid
  intro action listed
  obtain ⟨item, member, isAction⟩ := List.mem_filterMap.mp listed
  cases item with
  | dict other =>
      cases isAction
      exact isZero_of_validateActionShape (shaped _ member)
  | _ => cases isAction

/-! ## The two decisions -/

/-- The actions of a recipe. -/
def actionsOf (recipe : Members) : List Members :=
  ((Value.get recipe "actions").asList.getD []).filterMap Value.asDict

/-- An H3 decision applies the only recipe that matches, and its actions are confined. -/
def HealingConfined (tools : Tools) (incident : Members) (registry : Value)
    (context config : Members) (now : Rat) (decision : Decision) : Prop :=
  ∃ fingerprint recipe applied, incidentFingerprint incident = some fingerprint ∧
    Sole (Matches tools fingerprint context now) recipe (recipesOf registry) ∧
    decision.recipe = some applied ∧ applied.actions.filterMap Value.asDict = actionsOf recipe ∧
    ActionsConfined tools context config (actionsOf recipe)

/-- No recipe that matches the incident writes to another case of a protected directory. -/
def NoMatchRecased (tools : Tools) (incident : Members) (registry : Value)
    (context config : Members) (now : Rat) : Prop :=
  ∀ fingerprint, incidentFingerprint incident = some fingerprint →
    ∀ recipe ∈ recipesOf registry, Matches tools fingerprint context now recipe →
      NoneRecased tools (protectedPaths config) ((actionsOf recipe).flatMap writesOf)

/-- A verified sandbox result has changed declared paths only, and none that is protected. -/
structure SandboxConfined (tools : Tools) (context config : Members) : Prop where
  declared : ∀ raw ∈ contextPaths tools context "actual_changed_paths",
    ∃ path, normalizeRelativePath raw = .ok path ∧
      ∃ other ∈ contextPaths tools context "declared_changed_paths",
        normalizeRelativePath other = .ok path
  writes : WritesConfined tools (protectedPaths config)
    (contextPaths tools context "actual_changed_paths")

theorem Sole.mem {α : Type} {holds : α → Prop} {item : α} {items : List α}
    (sole : Sole holds item items) : item ∈ items := by
  obtain ⟨_, before, after, rfl, _⟩ := sole
  exact List.mem_append_right _ List.mem_cons_self

theorem healingConfined_iff {incident context : Members} {registry config circuit : Value}
    {now : Rat} {decision : Decision}
    (evaluated : evaluateHealing tools incident registry config context circuit now = .ok decision)
    (level : decision.level = .h3) :
    HealingConfined tools incident registry context (config.asDict.getD []) now decision ↔
      NoMatchRecased tools incident registry context (config.asDict.getD []) now := by
  obtain ⟨fingerprint, judged, recipe, isFingerprint, valid, read, single, applies⟩ :=
    evaluateHealing_of_h3 evaluated level
  obtain ⟨applied, isApplied, sameActions, _, clean⟩ := applyCandidate_eq_ok applies level
  have sole := sole_of_judged read single
  have actions : applied.actions.filterMap Value.asDict = actionsOf recipe := by
    rw [sameActions, actionsOf]
  rw [actions] at clean
  have free := free_of_validateRecipe (validateRecipe_of_registry valid sole.mem)
  have confined := actionsConfined_iff clean free
  constructor
  · rintro ⟨other, chosen, _, same, chosenSole, _, _, chosenConfined⟩ another isFingerprint' item
      listed fits
    rw [isFingerprint] at same isFingerprint'
    cases same
    cases isFingerprint'
    rw [sole.eq chosenSole.mem chosenSole.1] at chosenConfined
    rw [sole.eq listed fits]
    exact confined.mp chosenConfined
  · intro written
    exact ⟨fingerprint, recipe, applied, isFingerprint, sole, isApplied, actions,
      confined.mpr (written fingerprint isFingerprint recipe sole.mem sole.1)⟩

theorem sandboxConfined_iff {context : Members} {config : Value} {result : SandboxDecision}
    (ran : verifyH4 tools context config = .ok result)
    (verified : result.decision.result = .verified) :
    SandboxConfined tools context (config.asDict.getD []) ↔
      NoneRecased tools (protectedPaths (config.asDict.getD []))
        (contextPaths tools context "actual_changed_paths") := by
  rw [← verifyH4_of_verified ran verified] at verified
  obtain ⟨actual, declared, readActual, readDeclared, among, clean, _⟩ :=
    verifyChangedPaths_of_verified verified
  rw [protectedPathFindings_eq_nil_iff, List.flatMap_singleton, writesOf_writing] at clean
  have accepted : WritesAccepted tools (protectedPaths (config.asDict.getD []))
      (contextPaths tools context "actual_changed_paths") := by
    intro raw written
    obtain ⟨path, member, normal⟩ := exists_of_mem_of_mapM readActual written
    obtain ⟨again, isAgain, uncovered⟩ := clean path (mem_distinct_iff.mpr member)
    rw [normalizeRelativePath_idem normal] at isAgain
    cases isAgain
    exact ⟨path, normal, uncovered⟩
  rw [← accepted.confined_iff]
  constructor
  · intro confined
    exact confined.writes
  · intro writes
    refine ⟨?_, writes⟩
    intro raw written
    obtain ⟨path, member, normal⟩ := exists_of_mem_of_mapM readActual written
    obtain ⟨other, listed, found, isFound, same⟩ :=
      (exists_mem_mapM_iff readDeclared (· = path)).mp ⟨path, among member, rfl⟩
    exact ⟨path, normal, other, listed, same ▸ isFound⟩

/-- A library that folds the case of Latin letters. -/
def foldingTools : Tools :=
  { sampleTools with
    casefold := fun text => String.ofList (text.toList.map Char.toLower)
    globMatches := Supervisor.fnmatchcase }

/-- A recipe that writes `.GIT`. -/
def capitalRecipe : Members :=
  [("actions", .list [.dict [("argv", .list [.str "python", .str "repair.py"]),
      ("destructive", .bool false), ("idempotent", .bool true), ("level", .str "H3"),
      ("monetary_cost", .int 0), ("network", .bool false), ("requires_ai_api", .bool false),
      ("writes", .list [.str ".GIT"])]]),
    ("certification", .dict [("certified_at", .str "2025-01-31T12:00:00Z"),
      ("independent_approval", .bool true), ("shadow_passes", .int 2)]),
    ("compatibility", .dict [("policy_hashes", .list [.str sampleDigest]),
      ("runtime_versions", .dict []), ("tool_versions", .dict [])]),
    ("expires_at", .str "2026-01-31T12:00:00Z"), ("lifecycle", .str "ACTIVE"),
    ("match", .dict [("fingerprint_hash", .str sampleDigest)]), ("recipe_id", .str "REC-CACHE"),
    ("version", .str "1.0.0")]

def capitalRegistry : Value :=
  .dict [("recipes", .list [.dict capitalRecipe])]

def capitalIncident : Members :=
  [("fingerprint", .dict [("hash", .str sampleDigest)])]

def capitalContext : Members :=
  [("policy_hash", .str sampleDigest), ("policy_result", .str "ALLOW")]

theorem exists_h3_capital : ∃ decision,
    evaluateHealing foldingTools capitalIncident capitalRegistry sampleConfig capitalContext
      (.dict []) 0 = .ok decision ∧ decision.level = .h3 := by
  have configured : validateHealingConfig foldingTools sampleConfig = .ok () := by decide +kernel
  have registered : validateRecipeRegistry foldingTools capitalRegistry = .ok () := by
    decide +kernel
  have named : incidentFingerprint capitalIncident = some sampleDigest := by decide +kernel
  unfold evaluateHealing
  rw [configured, ok_bind, registered, ok_bind]
  simp only [named]
  apply exists_of_map_eq_ok
  decide +kernel

end Adwf.Healing
