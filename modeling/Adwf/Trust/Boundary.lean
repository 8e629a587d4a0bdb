import Adwf.Trust.Classify
import Adwf.Trust.Globs

/-!
# The canonical trust boundary

A second list of protected places, with a glob language and a normal form of
its own.  Its module promises a superset of the base trust policy.
-/

namespace Adwf.Trust

open Fallible

/-- `paths` of `policies/trust-boundary.json`. -/
def policyPaths : List String :=
  [".adwf/**", "AGENTS.md", "ADWS.md", "SPECIFICATION.md", ".github/workflows/adwf-*.yml",
    ".github/pull_request_template.md", ".gitlab-ci.yml", ".adwf/providers/gitlab/ci/**",
    "SECURITY.md", "docs/governance/**", "MANIFEST.json", "SHA256SUMS.txt"]

/-- `TRUST_BOUNDARY_PATTERNS`. -/
def trustBoundaryPatterns : List String :=
  [".adwf/**", ".github/workflows/adwf-*", "AGENTS.md", "ADWS.md", "SPECIFICATION.md",
    ".gitlab-ci.yml", "SECURITY.md", "docs/governance/**", "MANIFEST.json", "SHA256SUMS.txt",
    ".gitattributes"]

/-- `_normalize`. -/
def normalizeBoundary (path : String) : String :=
  String.ofList (withoutDot (path.map fun char => if char = '\\' then '/' else char))

/-- `fnmatch`, for patterns without `[`. -/
def fnmatch : List Char → List Char → Bool
  | [] => List.isEmpty
  | '*' :: rest => matchesMany (fun _ => true) (fnmatch rest)
  | '?' :: rest => matchesOne (fun _ => true) (fnmatch rest)
  | value :: rest => matchesOne (· = value) (fnmatch rest)

/-- `_match`. -/
def boundaryMatch (path pattern : String) : Bool :=
  let normalized := (normalizeBoundary path).toList
  let pat := (normalizeBoundary pattern).toList
  if ['/', '*', '*'].isSuffixOf pat then
    normalized = pat.dropLast.dropLast.dropLast || pat.dropLast.dropLast.isPrefixOf normalized
  else fnmatch pat normalized

def isTrustBoundaryPath (path : String) : Bool :=
  trustBoundaryPatterns.any (boundaryMatch path)

inductive BoundaryClass where
  | governance | normal
  deriving DecidableEq, Repr

structure ChangedFiles where
  changedFiles : List String
  trustBoundaryChanged : Bool
  trustBoundaryFiles : List String
  classification : BoundaryClass

def classifyChangedFiles (paths : List String) : ChangedFiles :=
  let changed :=
    sortedSet ((paths.filter fun path => Text.strip path ≠ "").map normalizeBoundary)
  let protectedFiles := changed.filter isTrustBoundaryPath
  { changedFiles := changed
    trustBoundaryChanged := !protectedFiles.isEmpty
    trustBoundaryFiles := protectedFiles
    classification := if protectedFiles = [] then .normal else .governance }

/-! ## The places of the policy -/

/-- The policy's files outside of a protected directory, less the template. -/
def protectedNames : List String :=
  ["AGENTS.md", "ADWS.md", "SPECIFICATION.md", ".gitlab-ci.yml", "SECURITY.md", "MANIFEST.json",
    "SHA256SUMS.txt"]

/-- `.github/pull_request_template.md`. -/
def pullRequestTemplate : String :=
  ".github/pull_request_template.md"

/-- The directories that hold protected files. -/
inductive Area where
  | framework | governance | workflows

namespace Area

def directory : Area → List Char
  | framework => ".adwf".toList
  | governance => "docs/governance".toList
  | workflows => ".github/workflows".toList

/-- The directory, its slash and the start of the names it protects. -/
def head : Area → List Char
  | workflows => ".github/workflows/adwf-".toList
  | area => area.directory ++ ['/']

/-- What the policy allows after the head. -/
def Allows : Area → List Char → Prop
  | workflows, rest => ∃ name, '/' ∉ name ∧ rest = name ++ ".yml".toList
  | _, rest => '\n' ∉ rest

/-- The normal form lies in the area. -/
def Holds (area : Area) (normalized : String) : Prop :=
  ∃ rest, area.Allows rest ∧ normalized.toList = area.head ++ rest

theorem head_eq (area : Area) : ∃ start, area.head = area.directory ++ '/' :: start := by
  cases area with
  | workflows => exact ⟨"adwf-".toList, rfl⟩
  | _ => exact ⟨[], rfl⟩

end Area

/-- The normal forms that the policy protects. -/
def Listed (normalized : String) : Prop :=
  normalized = pullRequestTemplate ∨ normalized ∈ protectedNames ∨
    ∃ area : Area, area.Holds normalized

/-- The path is not the template, and spells out the protected file or the head
of its protected directory after at most one `./`. -/
def Spelled (path normalized : String) : Prop :=
  normalized ≠ pullRequestTemplate ∧
    (normalized ∈ protectedNames → withoutDot path = normalized.toList) ∧
      ∀ area : Area, area.Holds normalized → area.head <+: withoutDot path

section Policy

variable {normalized pattern : String}

theorem globMatches_literals_iff {literals chars : List Char} {rest : List Glob} :
    globMatches (literals.map Glob.literal ++ rest) chars = true ↔
      ∃ tail, globMatches rest tail = true ∧ chars = literals ++ tail := by
  induction literals generalizing chars with
  | nil => simp
  | cons literal literals ih =>
      rw [List.map_cons, List.cons_append, globMatches, matchesOne_iff]
      simp only [decide_eq_true_eq]
      constructor
      · rintro ⟨_, others, rfl, rfl, found⟩
        rcases ih.mp found with ⟨tail, matched, rfl⟩
        exact ⟨tail, matched, rfl⟩
      · rintro ⟨tail, matched, rfl⟩
        exact ⟨literal, literals ++ tail, rfl, rfl, ih.mpr ⟨tail, matched, rfl⟩⟩

theorem patternMatches_eq {pieces : List Glob} (compiled : globRegex pattern = .ok pieces) :
    patternMatches normalized pattern = globMatches pieces normalized.toList := by
  rw [patternMatches, compiled]

theorem patternMatches_file (compiled : globRegex pattern = .ok (pattern.toList.map .literal)) :
    patternMatches normalized pattern = true ↔ normalized = pattern := by
  rw [patternMatches_eq compiled, ← List.append_nil (pattern.toList.map _),
    globMatches_literals_iff, ← String.toList_inj]
  constructor
  · rintro ⟨tail, ended, same⟩
    rw [same, List.isEmpty_iff.mp ended, List.append_nil]
  · intro same
    exact ⟨[], rfl, by rw [same, List.append_nil]⟩

theorem patternMatches_tree {literals : List Char}
    (compiled : globRegex pattern = .ok (literals.map .literal ++ [.text])) :
    patternMatches normalized pattern = true ↔
      ∃ rest, '\n' ∉ rest ∧ normalized.toList = literals ++ rest := by
  rw [patternMatches_eq compiled, globMatches_literals_iff]
  simp only [globMatches_iff_cut, cut_cons_iff, cut_nil_iff, compiled_text_iff]
  constructor
  · rintro ⟨_, ⟨part, _, rfl, oneLine, rfl⟩, same⟩
    rw [List.append_nil] at same
    exact ⟨part, fun inside => by simpa using oneLine _ inside, same⟩
  · rintro ⟨rest, oneLine, same⟩
    refine ⟨rest, ⟨rest, [], by rw [List.append_nil], ?_, rfl⟩, same⟩
    intro char inside
    exact decide_eq_true fun same => oneLine (same ▸ inside)

/-- The expressions of the patterns. -/
theorem compiled_policyPaths :
    (∀ name ∈ pullRequestTemplate :: protectedNames,
      globRegex name = .ok (name.toList.map .literal)) ∧
    globRegex ".adwf/**" = .ok (Area.framework.head.map .literal ++ [.text]) ∧
    globRegex "docs/governance/**" = .ok (Area.governance.head.map .literal ++ [.text]) ∧
    globRegex ".adwf/providers/gitlab/ci/**" =
      .ok (".adwf/providers/gitlab/ci/".toList.map .literal ++ [.text]) ∧
    globRegex ".github/workflows/adwf-*.yml" = .ok (Area.workflows.head.map .literal ++
      .segment :: (".yml".toList.map Glob.literal ++ [])) := by
  decide +kernel

theorem patternMatches_workflow : patternMatches normalized ".github/workflows/adwf-*.yml" = true ↔
      Area.workflows.Holds normalized := by
  rcases compiled_policyPaths with ⟨_, _, _, _, compiled⟩
  rw [patternMatches_eq compiled, globMatches_literals_iff]
  simp only [globMatches, matchesMany_iff, globMatches_literals_iff, List.isEmpty_iff]
  constructor
  · rintro ⟨_, ⟨name, _, rfl, inside, _, rfl, rfl⟩, same⟩
    rw [List.append_nil] at same
    refine ⟨_, ⟨name, fun slash => ?_, rfl⟩, same⟩
    simpa using inside _ slash
  · rintro ⟨_, ⟨name, inside, rfl⟩, same⟩
    refine ⟨_, ⟨name, _, rfl, ?_, [], rfl, (List.append_nil _).symm⟩, same⟩
    intro char listed
    exact decide_eq_true fun slash => inside (slash ▸ listed)

theorem any_policyPaths_iff :
    policyPaths.any (patternMatches normalized) = true ↔ Listed normalized := by
  rcases compiled_policyPaths with ⟨names, framework, governance, gitlab, _⟩
  have file (name : String) (listed : name ∈ pullRequestTemplate :: protectedNames) :
      patternMatches normalized name = true ↔ normalized = name :=
    patternMatches_file (names name listed)
  have framework : patternMatches normalized ".adwf/**" = true ↔ Area.framework.Holds normalized :=
    patternMatches_tree framework
  have governance :
      patternMatches normalized "docs/governance/**" = true ↔ Area.governance.Holds normalized :=
    patternMatches_tree governance
  have gitlab : patternMatches normalized ".adwf/providers/gitlab/ci/**" = true ↔
      ∃ rest, '\n' ∉ rest ∧ normalized.toList = ".adwf/providers/gitlab/ci/".toList ++ rest :=
    patternMatches_tree gitlab
  rw [List.any_eq_true]
  constructor
  · rintro ⟨pattern, listed, matched⟩
    have kinds : ∀ pattern ∈ policyPaths, pattern ∈ pullRequestTemplate :: protectedNames ∨
        pattern = ".adwf/**" ∨ pattern = ".github/workflows/adwf-*.yml" ∨
          pattern = ".adwf/providers/gitlab/ci/**" ∨ pattern = "docs/governance/**" := by
      decide
    rcases kinds pattern listed with name | others
    · have same := (file pattern name).mp matched
      rcases List.mem_cons.mp name with template | other
      · exact Or.inl (same.trans template)
      · exact Or.inr (Or.inl (same ▸ other))
    · right
      right
      rcases others with rfl | rfl | rfl | rfl
      · exact ⟨_, framework.mp matched⟩
      · exact ⟨_, patternMatches_workflow.mp matched⟩
      · rcases gitlab.mp matched with ⟨rest, oneLine, same⟩
        refine ⟨.framework, "providers/gitlab/ci/".toList ++ rest, ?_, ?_⟩
        · intro inside
          rcases List.mem_append.mp inside with fixed | free
          · exact absurd fixed (by decide)
          · exact oneLine free
        · rw [same, ← List.append_assoc]
          rfl
      · exact ⟨_, governance.mp matched⟩
  · rintro (rfl | name | ⟨area, inside⟩)
    · exact ⟨pullRequestTemplate, by decide, (file _ List.mem_cons_self).mpr rfl⟩
    · have among : ∀ name ∈ protectedNames, name ∈ policyPaths := by decide
      exact ⟨normalized, among _ name, (file _ (List.mem_cons_of_mem _ name)).mpr rfl⟩
    · cases area with
      | framework => exact ⟨".adwf/**", by decide, framework.mpr inside⟩
      | governance => exact ⟨"docs/governance/**", by decide, governance.mpr inside⟩
      | workflows =>
          exact ⟨".github/workflows/adwf-*.yml", by decide, patternMatches_workflow.mpr inside⟩

end Policy

/-! ## The places of the boundary list -/

/-- The patterns of the boundary list without a star. -/
def boundaryNames : List String :=
  protectedNames ++ [".gitattributes"]

/-- The spellings that the boundary list covers. -/
def OnBoundary (spelling : List Char) : Prop :=
  (∃ name ∈ boundaryNames, spelling = name.toList) ∨
    spelling = Area.framework.directory ∨ spelling = Area.governance.directory ∨
      ∃ area : Area, area.head <+: spelling

section Boundary

variable {path pattern : String}

/-- `fnmatch` of a pattern that starts without wildcards. -/
theorem fnmatch_append_iff {literals rest chars : List Char} (plain : '*' ∉ literals)
    (single : '?' ∉ literals) : fnmatch (literals ++ rest) chars = true ↔
      ∃ tail, fnmatch rest tail = true ∧ chars = literals ++ tail := by
  induction literals generalizing chars with
  | nil => simp
  | cons literal literals ih =>
      rw [List.mem_cons, not_or] at plain single
      have step : fnmatch (literal :: (literals ++ rest)) =
          matchesOne (· = literal) (fnmatch (literals ++ rest)) := by
        rw [fnmatch]
        · exact fun same => plain.1 same.symm
        · exact fun same => single.1 same.symm
      rw [List.cons_append, step, matchesOne_iff]
      simp only [decide_eq_true_eq]
      constructor
      · rintro ⟨_, others, rfl, rfl, found⟩
        rcases (ih plain.2 single.2).mp found with ⟨tail, matched, rfl⟩
        exact ⟨tail, matched, rfl⟩
      · rintro ⟨tail, matched, rfl⟩
        exact ⟨literal, literals ++ tail, rfl, rfl, (ih plain.2 single.2).mpr ⟨tail, matched, rfl⟩⟩

theorem boundaryMatch_tree {directory : List Char}
    (recursive : (normalizeBoundary pattern).toList = directory ++ ['/', '*', '*']) :
    boundaryMatch path pattern = true ↔ (normalizeBoundary path).toList = directory ∨
        directory ++ ['/'] <+: (normalizeBoundary path).toList := by
  have ends : ['/', '*', '*'].isSuffixOf (directory ++ ['/', '*', '*']) = true :=
    List.isSuffixOf_iff_suffix.mpr (List.suffix_append _ _)
  have short : (directory ++ ['/', '*', '*']).dropLast.dropLast = directory ++ ['/'] := by
    simp [List.dropLast_append_of_ne_nil]
  rw [boundaryMatch, recursive, if_pos ends, short, List.dropLast_concat, Bool.or_eq_true,
    decide_eq_true_iff, List.isPrefixOf_iff_prefix]

theorem boundaryMatch_flat
    (flat : ['/', '*', '*'].isSuffixOf (normalizeBoundary pattern).toList = false) :
    boundaryMatch path pattern =
      fnmatch (normalizeBoundary pattern).toList (normalizeBoundary path).toList := by
  rw [boundaryMatch, if_neg (by simp [flat])]

theorem normalized_patterns :
    (∀ name ∈ boundaryNames, normalizeBoundary name = name ∧ '*' ∉ name.toList ∧
      '?' ∉ name.toList ∧ ['/', '*', '*'].isSuffixOf name.toList = false) ∧
    (normalizeBoundary ".adwf/**").toList = Area.framework.directory ++ ['/', '*', '*'] ∧
    (normalizeBoundary "docs/governance/**").toList =
      Area.governance.directory ++ ['/', '*', '*'] ∧
    (normalizeBoundary ".github/workflows/adwf-*").toList = Area.workflows.head ++ ['*'] := by
  decide +kernel

theorem isTrustBoundaryPath_iff :
    isTrustBoundaryPath path = true ↔ OnBoundary (normalizeBoundary path).toList := by
  rcases normalized_patterns with ⟨names, framework, governance, spelled⟩
  have file (name : String) (listed : name ∈ boundaryNames) :
      boundaryMatch path name = true ↔ (normalizeBoundary path).toList = name.toList := by
    rcases names name listed with ⟨same, plain, single, flat⟩
    rw [boundaryMatch_flat (by rw [same]; exact flat), same, ← List.append_nil name.toList,
      fnmatch_append_iff plain single]
    constructor
    · rintro ⟨tail, ended, found⟩
      rw [found, List.isEmpty_iff.mp ended]
    · intro found
      exact ⟨[], rfl, found⟩
  have framework : boundaryMatch path ".adwf/**" = true ↔ _ :=
    boundaryMatch_tree framework
  have governance : boundaryMatch path "docs/governance/**" = true ↔ _ :=
    boundaryMatch_tree governance
  have workflows : boundaryMatch path ".github/workflows/adwf-*" = true ↔
      Area.workflows.head <+: (normalizeBoundary path).toList := by
    rw [boundaryMatch_flat (by rw [spelled]; decide), spelled,
      fnmatch_append_iff (by decide) (by decide)]
    constructor
    · rintro ⟨tail, _, found⟩
      exact ⟨tail, found.symm⟩
    · rintro ⟨tail, found⟩
      refine ⟨tail, ?_, found.symm⟩
      exact matchesMany_iff.mpr ⟨tail, [], (List.append_nil _).symm, fun _ _ => rfl, rfl⟩
  rw [isTrustBoundaryPath, List.any_eq_true]
  constructor
  · rintro ⟨pattern, listed, matched⟩
    have kinds : ∀ pattern ∈ trustBoundaryPatterns, pattern ∈ boundaryNames ∨
        pattern = ".adwf/**" ∨ pattern = "docs/governance/**" ∨
          pattern = ".github/workflows/adwf-*" := by
      decide
    rcases kinds pattern listed with name | rfl | rfl | rfl
    · exact Or.inl ⟨pattern, name, (file pattern name).mp matched⟩
    · rcases framework.mp matched with same | inside
      · exact Or.inr (Or.inl same)
      · exact Or.inr (Or.inr (Or.inr ⟨.framework, inside⟩))
    · rcases governance.mp matched with same | inside
      · exact Or.inr (Or.inr (Or.inl same))
      · exact Or.inr (Or.inr (Or.inr ⟨.governance, inside⟩))
    · exact Or.inr (Or.inr (Or.inr ⟨.workflows, workflows.mp matched⟩))
  · rintro (⟨name, listed, same⟩ | same | same | ⟨area, inside⟩)
    · have among : ∀ name ∈ boundaryNames, name ∈ trustBoundaryPatterns := by decide
      exact ⟨name, among name listed, (file name listed).mpr same⟩
    · exact ⟨".adwf/**", by decide, framework.mpr (Or.inl same)⟩
    · exact ⟨"docs/governance/**", by decide, governance.mpr (Or.inl same)⟩
    · cases area with
      | framework => exact ⟨".adwf/**", by decide, framework.mpr (Or.inr inside)⟩
      | governance => exact ⟨"docs/governance/**", by decide, governance.mpr (Or.inr inside)⟩
      | workflows => exact ⟨".github/workflows/adwf-*", by decide, workflows.mpr inside⟩

end Boundary

/-! ## Spellings and normal forms -/

section Spelling

variable {path normalized : String} {spelling : List Char}

theorem posixParts_append (first second : List Char) :
    posixParts (first ++ '/' :: second) = posixParts first ++ posixParts second := by
  rw [posixParts, List.splitOn_append_cons_self, List.filter_append]
  rfl

/-- The parts of a normal form that is not the empty path. -/
theorem splitOn_asPosix {raw : List Char} (filled : posixParts raw ≠ []) :
    (asPosix (posixParts raw)).toList.splitOn '/' = posixParts raw := by
  rw [asPosix, if_neg filled, String.toList_ofList]
  apply List.splitOn_intercalate
  · intro part listed
    rw [posixParts] at listed
    exact (of_mem_splitOn (List.mem_of_mem_filter listed)).1
  · exact filled

/-- The parts of an area's directory. -/
def Area.parts (area : Area) : List (List Char) :=
  posixParts area.directory

theorem Area.parts_prefix {area : Area} (inside : area.head <+: spelling) :
    area.parts <+: posixParts spelling := by
  rcases area.head_eq with ⟨start, head⟩
  rcases inside with ⟨rest, rfl⟩
  rw [head, List.append_assoc, List.cons_append, posixParts_append]
  exact List.prefix_append _ _

theorem Area.holds_parts {area : Area} (holds : area.Holds normalized) :
    area.parts <+: normalized.toList.splitOn '/' := by
  have directory : area.directory.splitOn '/' = area.parts := by cases area <;> decide
  rcases area.head_eq with ⟨start, head⟩
  rcases holds with ⟨rest, _, same⟩
  rw [same, head, List.append_assoc, List.cons_append, List.splitOn_append_cons_self, directory]
  exact List.prefix_append _ _

theorem Area.eq_of_parts {area other : Area} (first : area.parts <+: posixParts spelling)
    (second : other.parts <+: posixParts spelling) : area = other := by
  have apart : ∀ area other : Area, area ≠ other →
      ¬area.parts <+: other.parts ∧ ¬other.parts <+: area.parts := by
    intro area other different
    cases area <;> cases other <;> first | exact absurd rfl different | decide
  by_contra different
  rcases List.prefix_or_prefix_of_prefix first second with forward | backward
  · exact (apart area other different).1 forward
  · exact (apart area other different).2 backward

/-- The names lie outside of the directories. -/
theorem names_outside :
    (∀ name ∈ pullRequestTemplate :: protectedNames,
      ∀ parts ∈ [Area.framework.parts, Area.governance.parts, Area.workflows.parts],
        ¬parts <+: name.toList.splitOn '/') ∧
    (∀ name ∈ boundaryNames, name ≠ pullRequestTemplate ∧
      posixParts name.toList = name.toList.splitOn '/' ∧
        (name.toList.splitOn '/').length = 1) ∧
    ∀ name ∈ protectedNames,
      name.toList ∉ [Area.framework.directory, Area.governance.directory] := by
  decide +kernel

theorem Area.not_parts_prefix (area : Area) : ∀ name ∈ pullRequestTemplate :: protectedNames,
      ¬area.parts <+: name.toList.splitOn '/' :=
  fun name listed => names_outside.1 name listed area.parts (by cases area <;> simp)

theorem two_le_of_holds {area : Area} (holds : area.Holds normalized) :
    2 ≤ (normalized.toList.splitOn '/').length := by
  rcases area.head_eq with ⟨start, head⟩
  rcases holds with ⟨rest, _, same⟩
  rw [same, head, List.append_assoc, List.cons_append, List.splitOn_append_cons_self,
    List.length_append]
  have first := List.length_pos_iff.mpr (List.splitOn_ne_nil '/' area.directory)
  have second := List.length_pos_iff.mpr (List.splitOn_ne_nil '/' (start ++ rest))
  omega

theorem Listed.ne_dot (listed : Listed normalized) : normalized ≠ "." := by
  rintro rfl
  rcases listed with template | name | ⟨area, rest, _, same⟩
  · exact absurd template (by decide)
  · exact absurd name (by decide)
  · have heads : ∀ area : Area, ¬area.head <+: ['.'] := by
      intro area
      cases area <;> decide
    exact heads area ⟨rest, same.symm⟩

theorem eq_of_splitOn_eq {first second : List Char}
    (same : first.splitOn '/' = second.splitOn '/') : first = second := by
  have whole : ['/'].intercalate (first.splitOn '/') = first := List.intercalate_splitOn '/'
  rw [← whole, same, List.intercalate_splitOn]

theorem not_listed_of_directory
    (same : normalized.toList ∈ [Area.framework.directory, Area.governance.directory]) :
    ¬Listed normalized := by
  rintro (rfl | name | ⟨area, rest, _, inside⟩)
  · exact absurd same (by decide)
  · exact names_outside.2.2 normalized name same
  · have apart : ∀ directory ∈ [Area.framework.directory, Area.governance.directory],
        ¬area.head <+: directory := by
      cases area <;> decide
    exact apart _ same ⟨rest, inside.symm⟩

theorem spelled_of_onBoundary (listed : Listed normalized)
    (parts : normalized.toList.splitOn '/' = posixParts spelling) (covered : OnBoundary spelling) :
    normalized ≠ pullRequestTemplate ∧
      (normalized ∈ protectedNames → spelling = normalized.toList) ∧
        ∀ area : Area, area.Holds normalized → area.head <+: spelling := by
  rcases covered with ⟨name, among, rfl⟩ | rfl | rfl | ⟨area, inside⟩
  · rcases names_outside.2.1 name among with ⟨notTemplate, whole, single⟩
    have same : normalized = name :=
      String.toList_inj.mp (eq_of_splitOn_eq (parts.trans whole))
    refine ⟨same ▸ notTemplate, fun _ => by rw [same], fun area holds => ?_⟩
    have two := two_le_of_holds holds
    rw [same] at two
    omega
  · have same : normalized.toList = Area.framework.directory :=
      eq_of_splitOn_eq (parts.trans (by decide))
    exact absurd listed (not_listed_of_directory (by rw [same]; decide))
  · have same : normalized.toList = Area.governance.directory :=
      eq_of_splitOn_eq (parts.trans (by decide))
    exact absurd listed (not_listed_of_directory (by rw [same]; decide))
  · have begins : area.parts <+: posixParts spelling := Area.parts_prefix inside
    refine ⟨?_, ?_, ?_⟩
    · rintro rfl
      exact area.not_parts_prefix _ List.mem_cons_self (parts ▸ begins)
    · intro name
      exact absurd (parts ▸ begins) (area.not_parts_prefix _ (List.mem_cons_of_mem _ name))
    · intro other holds
      have same : area = other := Area.eq_of_parts begins (parts ▸ Area.holds_parts holds)
      exact same ▸ inside

end Spelling

/-! ## The boundary and the policy -/

section Covering

variable {path normalized : String}

theorem normalizeRepoPath_eq_ok (admitted : normalizeRepoPath path = .ok normalized) :
    Text.strip path ≠ "" ∧ '\\' ∉ path.toList ∧
      normalized = asPosix (posixParts (withoutDot path)) := by
  rw [normalizeRepoPath, bind_ok_iff] at admitted
  rcases admitted with ⟨_, first, rest⟩
  rcases (require_eq_ok_iff _ _ _).mp first with ⟨filled, clean⟩
  rcases bind_ok_iff.mp rest with ⟨_, _, ran⟩
  cases ran
  exact ⟨filled, clean, rfl⟩

theorem normalizeBoundary_of_clean (clean : '\\' ∉ path.toList) :
    (normalizeBoundary path).toList = withoutDot path := by
  have same : (path.map fun char => if char = '\\' then '/' else char) = path := by
    apply String.toList_inj.mp
    rw [String.toList_map]
    refine (List.map_congr_left fun char listed => if_neg ?_).trans (List.map_id _)
    rintro rfl
    exact clean listed
  rw [normalizeBoundary, same, String.toList_ofList]

theorem OnBoundary.no_dot {spelling : List Char} (covered : OnBoundary spelling) :
    ¬['.', '/'] <+: spelling := by
  rcases covered with ⟨name, listed, rfl⟩ | rfl | rfl | ⟨area, inside⟩
  · have plain : ∀ name ∈ boundaryNames, ¬['.', '/'] <+: name.toList := by decide
    exact plain name listed
  · decide
  · decide
  · intro dot
    have plain : ¬['.', '/'] <+: area.head := by cases area <;> decide
    rcases List.prefix_or_prefix_of_prefix dot inside with short | long
    · exact plain short
    · have lengths : 2 < area.head.length := by cases area <;> decide
      exact absurd long.length_le (by simpa using lengths)

theorem classification_of_onBoundary (clean : '\\' ∉ path.toList)
    (filled : Text.strip path ≠ "") (covered : OnBoundary (withoutDot path)) {paths : List String}
    (listed : path ∈ paths) : (classifyChangedFiles paths).classification = .governance := by
  have spelled : (normalizeBoundary path).toList = withoutDot path :=
    normalizeBoundary_of_clean clean
  have cleanAgain : '\\' ∉ (normalizeBoundary path).toList := by
    rw [spelled, withoutDot]
    split
    · exact fun inside => clean (List.mem_of_mem_drop inside)
    · exact clean
  have again : (normalizeBoundary (normalizeBoundary path)).toList = withoutDot path := by
    rw [normalizeBoundary_of_clean cleanAgain, withoutDot, if_neg, spelled]
    rw [Text.startsWith, List.isPrefixOf_iff_prefix, spelled]
    exact covered.no_dot
  have found : normalizeBoundary path ∈ (sortedSet ((paths.filter fun path =>
      Text.strip path ≠ "").map normalizeBoundary)).filter isTrustBoundaryPath := by
    rw [List.mem_filter, mem_sortedSet, isTrustBoundaryPath_iff, again]
    exact ⟨List.mem_map_of_mem (List.mem_filter.mpr ⟨listed, decide_eq_true filled⟩), covered⟩
  exact if_neg (List.ne_nil_of_mem found)

/-- A path that the policy protects is covered exactly when it is not the
template and spells out what protects it. -/
theorem covered_iff_spelled (admitted : normalizeRepoPath path = .ok normalized) :
    (isProtectedPath path policyPaths = .ok true → isTrustBoundaryPath path = true ∧
        ∀ paths, path ∈ paths → (classifyChangedFiles paths).classification ≠ .normal) ↔
      Spelled path normalized := by
  rcases normalizeRepoPath_eq_ok admitted with ⟨filled, clean, normal⟩
  have protects : isProtectedPath path policyPaths = .ok true ↔ Listed normalized := by
    rw [isProtectedPath, admitted, ok_bind, ← any_policyPaths_iff]
    exact ⟨Except.ok.inj, congrArg Except.ok⟩
  have boundary : isTrustBoundaryPath path = true ↔ OnBoundary (withoutDot path) := by
    rw [isTrustBoundaryPath_iff, normalizeBoundary_of_clean clean]
  rw [protects, boundary]
  constructor
  · intro covers
    have spelled (listed : Listed normalized) : Spelled path normalized := by
      have some : posixParts (withoutDot path) ≠ [] := by
        intro empty
        rw [empty] at normal
        exact listed.ne_dot normal
      have parts : normalized.toList.splitOn '/' = posixParts (withoutDot path) := by
        rw [normal]
        exact splitOn_asPosix some
      exact spelled_of_onBoundary listed parts (covers listed).1
    refine ⟨fun template => ?_, fun name => ?_, fun area holds => ?_⟩
    · exact (spelled (Or.inl template)).1 template
    · exact (spelled (Or.inr (Or.inl name))).2.1 name
    · exact (spelled (Or.inr (Or.inr ⟨area, holds⟩))).2.2 area holds
  · rintro ⟨notTemplate, names, areas⟩ listed
    have covered : OnBoundary (withoutDot path) := by
      rcases listed with template | name | ⟨area, holds⟩
      · exact absurd template notTemplate
      · exact Or.inl ⟨normalized, List.mem_append_left _ name, names name⟩
      · exact Or.inr (Or.inr (Or.inr ⟨area, areas area holds⟩))
    refine ⟨covered, fun paths among => ?_⟩
    rw [classification_of_onBoundary clean filled covered among]
    exact BoundaryClass.noConfusion

/-- The workflow of the policy, after a `./`. -/
theorem covered_workflow : isTrustBoundaryPath "./.github/workflows/adwf-gate.yml" = true := by
  have admitted : normalizeRepoPath "./.github/workflows/adwf-gate.yml" =
      .ok ".github/workflows/adwf-gate.yml" := by
    decide +kernel
  refine ((covered_iff_spelled admitted).mpr ⟨by decide, by decide +kernel, ?_⟩ ?_).1
  · rintro area ⟨rest, _, same⟩
    have inside : area.head <+: ".github/workflows/adwf-gate.yml".toList := ⟨rest, same.symm⟩
    cases area with
    | workflows => exact ⟨"gate.yml".toList, by decide +kernel⟩
    | framework => exact absurd inside (by decide)
    | governance => exact absurd inside (by decide)
  · decide +kernel

/-- The pull request template is protected and not covered. -/
theorem not_always_covered : ¬∀ path normalized, normalizeRepoPath path = .ok normalized →
      isProtectedPath path policyPaths = .ok true → isTrustBoundaryPath path = true ∧
          ∀ paths, path ∈ paths → (classifyChangedFiles paths).classification ≠ .normal := by
  intro covers
  have template : isTrustBoundaryPath pullRequestTemplate = true :=
    (covers pullRequestTemplate pullRequestTemplate (by decide +kernel) (by decide +kernel)).1
  exact absurd template (by decide +kernel)

end Covering

end Adwf.Trust
