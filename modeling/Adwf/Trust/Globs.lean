import Adwf.Trust.Paths
import Mathlib.Data.List.Forall2

/-!
# What a protected pattern means

A pattern cuts a path into one part for each of its pieces.  The expression
that `_glob_regex` compiles asks more than the pattern says: a part under `**`
may not contain a line feed.
-/

namespace Adwf.Trust

open Fallible

/-! ## Cuts of a path -/

/-- The text that a piece stands for. -/
def Glob.Stands : Glob → List Char → Prop
  | .text, _ => True
  | .segment, part => '/' ∉ part
  | .char, part => ∃ char, char ≠ '/' ∧ part = [char]
  | .literal value, part => part = [value]

/-- The text that the expression of a piece matches. -/
def Glob.Compiled (piece : Glob) (part : List Char) : Prop :=
  piece.Stands part ∧ (piece = .text → '\n' ∉ part)

/-- The path is cut into parts that the pieces allow. -/
def Cut (allows : Glob → List Char → Prop) (pieces : List Glob) (path : List Char) : Prop :=
  ∃ parts, List.Forall₂ allows pieces parts ∧ parts.flatten = path

section Cuts

variable {allows : Glob → List Char → Prop}

@[simp]
theorem cut_nil_iff (path : List Char) : Cut allows [] path ↔ path = [] := by
  constructor
  · rintro ⟨_, ⟨⟩, rfl⟩
    rfl
  · rintro rfl
    exact ⟨[], .nil, rfl⟩

theorem cut_cons_iff (piece : Glob) (pieces : List Glob) (path : List Char) :
    Cut allows (piece :: pieces) path ↔
      ∃ part rest, path = part ++ rest ∧ allows piece part ∧ Cut allows pieces rest := by
  constructor
  · rintro ⟨_, _ | ⟨allowed, others⟩, rfl⟩
    exact ⟨_, _, rfl, allowed, _, others, rfl⟩
  · rintro ⟨part, _, rfl, allowed, parts, others, rfl⟩
    exact ⟨part :: parts, .cons allowed others, rfl⟩

theorem Cut.of_compiled {pieces : List Glob} {path : List Char}
    (cut : Cut Glob.Compiled pieces path) : Cut Glob.Stands pieces path := by
  rcases cut with ⟨parts, allowed, whole⟩
  exact ⟨parts, allowed.imp fun _ _ compiled => compiled.1, whole⟩

end Cuts

/-! ## The compiled expression -/

theorem matchesMany_iff {accepts : Char → Bool} {next : List Char → Bool} {chars : List Char} :
    matchesMany accepts next chars = true ↔
      ∃ part rest, chars = part ++ rest ∧ (∀ char ∈ part, accepts char = true) ∧
        next rest = true := by
  induction chars with
  | nil =>
      simp only [matchesMany, List.nil_eq_append_iff]
      constructor
      · intro ends
        exact ⟨[], [], ⟨rfl, rfl⟩, List.forall_mem_nil _, ends⟩
      · rintro ⟨_, _, ⟨rfl, rfl⟩, _, ends⟩
        exact ends
  | cons char chars ih =>
      rw [matchesMany, Bool.or_eq_true, Bool.and_eq_true, ih]
      constructor
      · rintro (ends | ⟨accepted, part, rest, rfl, others, ends⟩)
        · exact ⟨[], _, rfl, List.forall_mem_nil _, ends⟩
        · exact ⟨char :: part, rest, rfl, List.forall_mem_cons.mpr ⟨accepted, others⟩, ends⟩
      · rintro ⟨_ | ⟨first, part⟩, rest, same, accepted, ends⟩
        · rw [List.nil_append] at same
          exact Or.inl (same ▸ ends)
        · rcases List.cons.inj same with ⟨rfl, rfl⟩
          exact Or.inr ⟨accepted char List.mem_cons_self, part, rest, rfl,
            fun other inside => accepted other (List.mem_cons_of_mem _ inside), ends⟩

theorem matchesOne_iff {accepts : Char → Bool} {next : List Char → Bool} {chars : List Char} :
    matchesOne accepts next chars = true ↔
      ∃ char rest, chars = char :: rest ∧ accepts char = true ∧ next rest = true := by
  cases chars with
  | nil => simp [matchesOne]
  | cons char chars => simp [matchesOne]

@[simp]
theorem compiled_text_iff (part : List Char) :
    Glob.text.Compiled part ↔ ∀ char ∈ part, decide (char ≠ '\n') = true := by
  simp only [Glob.Compiled, Glob.Stands, true_and, forall_const, decide_eq_true_eq]
  exact ⟨fun outside char inside same => outside (same ▸ inside),
    fun other inside => other _ inside rfl⟩

@[simp]
theorem compiled_segment_iff (part : List Char) :
    Glob.segment.Compiled part ↔ ∀ char ∈ part, decide (char ≠ '/') = true := by
  simp only [Glob.Compiled, Glob.Stands, reduceCtorEq, false_imp_iff, and_true, decide_eq_true_eq]
  exact ⟨fun outside char inside same => outside (same ▸ inside),
    fun other inside => other _ inside rfl⟩

@[simp]
theorem compiled_char_iff (part : List Char) :
    Glob.char.Compiled part ↔ ∃ char, decide (char ≠ '/') = true ∧ part = [char] := by
  simp [Glob.Compiled, Glob.Stands]

@[simp]
theorem compiled_literal_iff (value : Char) (part : List Char) :
    (Glob.literal value).Compiled part ↔ ∃ char, decide (char = value) = true ∧ part = [char] := by
  simp [Glob.Compiled, Glob.Stands]

theorem exists_one_part_iff {accepts : Char → Bool} {holds : List Char → Prop} {path : List Char} :
    (∃ char rest, path = char :: rest ∧ accepts char = true ∧ holds rest) ↔
      ∃ part rest, path = part ++ rest ∧ (∃ char, accepts char = true ∧ part = [char]) ∧
        holds rest := by
  constructor
  · rintro ⟨char, rest, rfl, accepted, held⟩
    exact ⟨[char], rest, rfl, ⟨char, accepted, rfl⟩, held⟩
  · rintro ⟨_, rest, rfl, ⟨char, accepted, rfl⟩, held⟩
    exact ⟨char, rest, rfl, accepted, held⟩

theorem globMatches_iff_cut (pieces : List Glob) (path : List Char) :
    globMatches pieces path = true ↔ Cut Glob.Compiled pieces path := by
  induction pieces generalizing path with
  | nil => rw [globMatches, List.isEmpty_iff, cut_nil_iff]
  | cons piece pieces ih =>
      rw [cut_cons_iff]
      cases piece with
      | text =>
          rw [globMatches, matchesMany_iff]
          simp only [compiled_text_iff, ih]
      | segment =>
          rw [globMatches, matchesMany_iff]
          simp only [compiled_segment_iff, ih]
      | char =>
          rw [globMatches, matchesOne_iff]
          simp only [compiled_char_iff, ih]
          exact exists_one_part_iff
      | literal value =>
          rw [globMatches, matchesOne_iff]
          simp only [compiled_literal_iff, ih]
          exact exists_one_part_iff

/-! ## Lists of patterns -/

/-- Some pattern cuts the whole path into parts that its pieces allow. -/
def Guarded (allows : Glob → List Char → Prop) (path : String) (patterns : List String) : Prop :=
  ∃ normalized, normalizeRepoPath path = .ok normalized ∧
    ∃ pattern ∈ patterns, ∃ pieces, globRegex pattern = .ok pieces ∧
      Cut allows pieces normalized.toList

theorem patternMatches_iff {normalized pattern : String} :
    patternMatches normalized pattern = true ↔
      ∃ pieces, globRegex pattern = .ok pieces ∧ Cut Glob.Compiled pieces normalized.toList := by
  simp only [← globMatches_iff_cut]
  unfold patternMatches
  split
  · simp [*]
  · simp [*]

theorem isProtectedPath_iff_guarded (path : String) (patterns : List String) :
    isProtectedPath path patterns = .ok true ↔ Guarded Glob.Compiled path patterns := by
  rw [isProtectedPath, bind_ok_iff]
  constructor
  · rintro ⟨normalized, read, found⟩
    rcases List.any_eq_true.mp (Except.ok.inj found) with ⟨pattern, inside, holds⟩
    exact ⟨normalized, read, pattern, inside, patternMatches_iff.mp holds⟩
  · rintro ⟨normalized, read, pattern, inside, cut⟩
    refine ⟨normalized, read, congrArg Except.ok ?_⟩
    exact List.any_eq_true.mpr ⟨pattern, inside, patternMatches_iff.mpr cut⟩

theorem Guarded.of_compiled {path : String} {patterns : List String}
    (guarded : Guarded Glob.Compiled path patterns) : Guarded Glob.Stands path patterns := by
  rcases guarded with ⟨normalized, read, pattern, inside, pieces, compiled, cut⟩
  exact ⟨normalized, read, pattern, inside, pieces, compiled, cut.of_compiled⟩

/-- The compiled expressions protect what the patterns say exactly when some pattern for the
path has one line under each `**`. -/
theorem isProtectedPath_exact_iff (path : String) (patterns : List String) :
    (isProtectedPath path patterns = .ok true ↔ Guarded Glob.Stands path patterns) ↔
      (Guarded Glob.Stands path patterns → Guarded Glob.Compiled path patterns) := by
  rw [isProtectedPath_iff_guarded]
  exact ⟨fun exact => exact.mpr, fun oneLine => ⟨Guarded.of_compiled, oneLine⟩⟩

/-- A protected library file whose name has two lines. -/
theorem not_always_exact : ¬ ∀ (path : String) (patterns : List String),
      (∀ pattern ∈ patterns, ∃ pieces, globRegex pattern = .ok pieces) →
      (∃ normalized, normalizeRepoPath path = .ok normalized) →
      (isProtectedPath path patterns = .ok true ↔ Guarded Glob.Stands path patterns) := by
  intro exact
  have pieces : globRegex ".adwf/**" =
      .ok ((".adwf/".toList.map Glob.literal) ++ [.text]) := by
    decide +kernel
  have read : normalizeRepoPath ".adwf/lib/a\nb.py" = .ok ".adwf/lib/a\nb.py" := by
    decide +kernel
  have missed : isProtectedPath ".adwf/lib/a\nb.py" [".adwf/**"] = .ok false := by
    decide +kernel
  have guarded : Guarded Glob.Stands ".adwf/lib/a\nb.py" [".adwf/**"] := by
    refine ⟨_, read, _, List.mem_cons_self, _, pieces, ?_⟩
    refine ⟨[['.'], ['a'], ['d'], ['w'], ['f'], ['/'], "lib/a\nb.py".toList], ?_, by decide⟩
    exact .cons rfl (.cons rfl (.cons rfl (.cons rfl (.cons rfl (.cons rfl (.cons trivial .nil))))))
  have found := (exact ".adwf/lib/a\nb.py" [".adwf/**"]
    (List.forall_mem_singleton.mpr ⟨_, pieces⟩) ⟨_, read⟩).mpr guarded
  rw [missed] at found
  cases found

end Adwf.Trust
