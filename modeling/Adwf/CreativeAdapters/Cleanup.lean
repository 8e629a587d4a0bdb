import Adwf.CreativeAdapters.OpenHands

/-!
# Undoing the changes

`git reset --hard` and `git clean -fd` bring the root back as long as git neither
ignores a new path nor shows an ignored file.
-/

namespace Adwf.CreativeAdapters

/-! ## Tabulated files -/

section Tabulate

variable {names : List String} {node : String → Option Node} {path : String}

theorem lookup_tabulate :
    (tabulate names node).lookup path = if path ∈ names then node path else none := by
  induction names with
  | nil => rfl
  | cons name names ih =>
      have step : tabulate (name :: names) node =
          insertNode (tabulate names node) name (node name) := rfl
      rw [step]
      cases found : node name with
      | none =>
          rw [insertNode, ih]
          by_cases same : path = name
          · rw [same, found, ite_self, ite_self]
          · simp only [List.mem_cons, same, false_or]
      | some present =>
          rw [insertNode]
          by_cases same : path = name
          · rw [same, if_pos List.mem_cons_self, found]
            exact AList.lookup_insert _
          · rw [AList.lookup_insert_ne same, ih]
            simp only [List.mem_cons, same, false_or]

theorem lookup_tabulate_of_support (support : path ∉ names → node path = none) :
    (tabulate names node).lookup path = node path := by
  rw [lookup_tabulate]
  split_ifs with listed
  · rfl
  · exact (support listed).symm

theorem lookup_eq_none_of_notMem {files : Files} (missing : path ∉ files.keys) :
    files.lookup path = none :=
  AList.lookup_eq_none.mpr fun inside => missing (AList.mem_keys.mp inside)

theorem lookup_eq_none_of_append {first second : Files}
    (missing : path ∉ first.keys ++ second.keys) :
    first.lookup path = none ∧ second.lookup path = none := by
  rw [List.mem_append, not_or] at missing
  exact ⟨lookup_eq_none_of_notMem missing.1, lookup_eq_none_of_notMem missing.2⟩

end Tabulate

/-! ## The commands of git -/

namespace Repo

variable {repo : Repo} {ignored : Files → String → Bool} {path target : String}

/-- The tree that a reset goes to. -/
def resetTree (repo : Repo) (target : String) : Files :=
  (repo.resetHard target).head

theorem lookup_work_resetHard : (repo.resetHard target).work.lookup path =
      if ((repo.resetTree target).lookup path).isSome then (repo.resetTree target).lookup path
      else if (repo.index.lookup path).isSome ||
          (repo.resetTree target).keys.any (fun other => isBelow other path || isBelow path other)
        then none else repo.work.lookup path := by
  refine lookup_tabulate_of_support fun missing => ?_
  rcases lookup_eq_none_of_append missing with ⟨noTree, noWork⟩
  have noTree : (repo.resetTree target).lookup path = none := noTree
  change (if ((repo.resetTree target).lookup path).isSome then _ else _) = none
  rw [noTree, noWork, if_neg (by simp), ite_self]

theorem index_resetHard : (repo.resetHard target).index = repo.resetTree target :=
  rfl

theorem lookup_work_clean : (repo.clean ignored).work.lookup path =
      if (repo.index.lookup path).isNone && !ignored repo.work path then none
      else repo.work.lookup path := by
  refine lookup_tabulate_of_support fun missing => ?_
  rw [lookup_eq_none_of_notMem missing, ite_self]

theorem lookup_index_add {isMatched : String → Bool} :
    (repo.add ignored isMatched).index.lookup path =
      if isMatched path && ((repo.index.lookup path).isSome || !ignored repo.work path) then
        repo.work.lookup path else repo.index.lookup path := by
  refine lookup_tabulate_of_support fun missing => ?_
  rcases lookup_eq_none_of_append missing with ⟨noIndex, noWork⟩
  rw [noIndex, noWork, ite_self]

/-- What a clean status says. -/
structure Clean (ignored : Files → String → Bool) (repo : Repo) : Prop where
  index : ∀ path, repo.index.lookup path = repo.head.lookup path
  tracked : ∀ path, repo.head.lookup path ≠ none → repo.work.lookup path = repo.head.lookup path
  others : ∀ path, repo.head.lookup path = none → repo.work.lookup path ≠ none →
    ignored repo.work path = true

theorem clean_of_isClean (clean : repo.isClean ignored = true) : Clean ignored repo := by
  rw [isClean, Bool.and_eq_true, List.all_eq_true, List.isEmpty_iff] at clean
  rcases clean with ⟨same, none⟩
  have index (path : String) : repo.index.lookup path = repo.head.lookup path := by
    by_cases listed : path ∈ repo.head.keys ++ repo.index.keys
    · have entry := same path listed
      rw [Bool.and_eq_true, decide_eq_true_iff] at entry
      exact entry.1
    · rcases lookup_eq_none_of_append listed with ⟨noHead, noIndex⟩
      rw [noHead, noIndex]
  refine ⟨index, ?_, ?_⟩
  · intro path held
    have listed : path ∈ repo.head.keys ++ repo.index.keys := by
      by_contra missing
      exact held (lookup_eq_none_of_append missing).1
    have entry := same path listed
    rw [Bool.and_eq_true, decide_eq_true_iff, decide_eq_true_iff] at entry
    exact entry.2
  · intro path noHead inWork
    by_contra shown
    have listed : path ∈ repo.untracked ignored := by
      rw [untracked, List.mem_filter, Bool.and_eq_true, Bool.not_eq_true']
      refine ⟨?_, ?_, eq_false_of_ne_true shown⟩
      · by_contra missing
        exact inWork (lookup_eq_none_of_notMem missing)
      · rw [index, noHead]
        rfl
    rw [none] at listed
    cases listed

end Repo

/-! ## The start and the changes -/

/-- The root is clean, its head is a commit of the old ones, and no file lies below another. -/
structure Started (env : Surroundings) (repo : Repo) : Prop where
  clean : repo.isClean env.ignored = true
  commit : Text.isSha40 repo.headId = true
  fresh : repo.headId ≠ env.newId
  apart : ∀ path ∈ repo.work, ∀ other ∈ repo.work, isBelow path other = false

/-- The head and the files are what they were. -/
structure Untouched (before after : Repo) : Prop where
  history : after.history = before.history
  work : ∀ path, after.work.lookup path = before.work.lookup path

/-- At most one commit more, and other entries at the changed paths only; no link is new. -/
structure Touched (env : Surroundings) (changed : List String) (before after : Repo) :
    Prop where
  history : after.history = before.history ∨
    ∃ tree, after.history = ⟨env.newId, tree⟩ :: before.history
  index : ∀ path ∉ changed, after.index.lookup path = before.index.lookup path
  work : ∀ path ∉ changed, after.work.lookup path = before.work.lookup path
  links : ∀ path, isLink (after.work.lookup path) = true →
    after.work.lookup path = before.work.lookup path

/-- What the cleanup needs: its commands work in the root, a new path is not there before
and not ignored, and the ignored files stay ignored, whatever the new files hold; the
pathspecs of the changed paths match no other new path. -/
structure Undoable (env : Surroundings) (changed : List String) (repo : Repo) : Prop where
  inRoot : env.gitDirectory = true
  sees : env.fault .gitDirectory = none
  resets : ∀ target, env.fault (.resetHard target) = none
  cleans : env.fault .clean = none
  absent : ∀ path ∈ changed, repo.head.lookup path = none → repo.work.lookup path = none
  ignores : ∀ files : Files, (∀ path, path ∉ changed ∨ repo.head.lookup path ≠ none →
      files.lookup path = repo.work.lookup path) →
    ∀ path, repo.head.lookup path = none →
      (path ∈ changed → env.ignored files path = false) ∧
        (path ∉ changed → repo.work.lookup path ≠ none → env.ignored files path = true)
  pathspecs : ∀ path, env.isMatched changed path = true →
    path ∈ changed ∨ repo.head.lookup path ≠ none

section Undo

variable {env : Surroundings} {changed : List String} {before after : Repo}
variable {target : String}

theorem Untouched.refl (repo : Repo) : Untouched repo repo :=
  ⟨rfl, fun _ => rfl⟩

theorem Touched.refl (repo : Repo) : Touched env changed repo repo :=
  ⟨.inl rfl, fun _ _ => rfl, fun _ _ => rfl, fun _ _ => rfl⟩

/-- The target of the reset is the old head, or nothing was committed. -/
def Targets (before after : Repo) (target : String) : Prop :=
  target = before.headId ∨ target = "HEAD" ∧ after.history = before.history

theorem history_resetHard (started : Started env before)
    (touched : Touched env changed before after) (targets : Targets before after target) :
    (after.resetHard target).history = before.history := by
  have notName : before.headId ≠ "HEAD" := by
    intro same
    have commit := started.commit
    rw [same] at commit
    exact absurd commit (by decide)
  rcases targets with rfl | ⟨rfl, same⟩
  · have own : before.history.dropWhile (fun commit => commit.id ≠ before.headId) =
        before.history := by
      cases held : before.history with
      | nil => rfl
      | cons newest older =>
          have id : before.headId = newest.id := by
            rw [Repo.headId, held]
            rfl
          rw [List.dropWhile_cons_of_neg (by simp [id])]
    simp only [Repo.resetHard, if_neg notName]
    rcases touched.history with same | ⟨tree, same⟩
    · rw [same, own]
    · rw [same, List.dropWhile_cons_of_pos, own]
      simpa using started.fresh.symm
  · simp only [Repo.resetHard, if_true]
    exact same

theorem untouched_resetAndClean (started : Started env before)
    (undoable : Undoable env changed before)
    (touched : Touched env changed before after) (targets : Targets before after target) :
    Untouched before ((after.resetHard target).clean env.ignored) := by
  have history := history_resetHard started touched targets
  have clean := Repo.clean_of_isClean started.clean
  have tree : after.resetTree target = before.head := by
    rw [Repo.resetTree, Repo.head, history, Repo.head]
  -- After the reset all paths but the new ones are as before.
  have kept (path : String) (known : path ∉ changed ∨ before.head.lookup path ≠ none) :
      (after.resetHard target).work.lookup path = before.work.lookup path := by
    rw [Repo.lookup_work_resetHard, tree]
    by_cases tracked : before.head.lookup path = none
    · have old := known.resolve_right (not_not.mpr tracked)
      have noIndex : after.index.lookup path = none := by
        rw [touched.index path old, clean.index, tracked]
      rw [tracked, noIndex, if_neg (by simp), touched.work path old]
      cases held : before.work.lookup path with
      | none => exact ite_self none
      | some node =>
          have inside : path ∈ before.work := AList.lookup_isSome.mp (by rw [held]; rfl)
          rw [if_neg]
          simp only [Option.isSome_none, Bool.false_or, List.any_eq_true, Bool.or_eq_true,
            not_exists, not_and, not_or]
          intro other listed
          have isTracked : before.head.lookup other ≠ none := by
            rw [Ne, AList.lookup_eq_none, not_not]
            exact AList.mem_keys.mpr listed
          have alsoInside : other ∈ before.work := by
            rw [← AList.lookup_isSome, clean.tracked other isTracked, Option.isSome_iff_ne_none]
            exact isTracked
          rw [started.apart other alsoInside path inside,
            started.apart path inside other alsoInside]
          exact ⟨Bool.false_ne_true, Bool.false_ne_true⟩
    · rw [if_pos (Option.isSome_iff_ne_none.mpr tracked), clean.tracked path tracked]
  have rules := undoable.ignores (after.resetHard target).work kept
  refine ⟨history, ?_⟩
  intro path
  rw [Repo.lookup_work_clean, Repo.index_resetHard, tree]
  by_cases tracked : before.head.lookup path = none
  · rcases rules path tracked with ⟨new, old⟩
    by_cases inside : path ∈ changed
    · rw [tracked, new inside, undoable.absent path inside tracked]
      rfl
    · rw [kept path (.inl inside)]
      by_cases held : before.work.lookup path = none
      · rw [held, ite_self]
      · rw [old inside held, if_neg (by simp)]
  · rw [if_neg, kept path (.inr tracked)]
    simp [tracked]

end Undo

end Adwf.CreativeAdapters

/-!
## The names in the output of git

`git` strips the whole output before it is split into lines; the names that are
read are the same.
-/

namespace Adwf.CreativeAdapters

open Lines (linesFrom)
open Supervisor (DiffRecord namesOf namesOf_printedDiff plain_of_safePath printedDiff printedPath
  printedPath_cases safePath)
open Text (isSpace strip)

/-! ## Stripped texts -/

theorem strip_append_left {blank chars : List Char} (space : ∀ char ∈ blank, isSpace char = true) :
    strip (String.ofList (blank ++ chars)) = strip (String.ofList chars) := by
  rw [strip, strip, String.toList_ofList, String.toList_ofList, List.dropWhile_append_of_pos space]

theorem strip_concat {chars : List Char} {char : Char} (space : isSpace char = true) :
    strip (String.ofList (chars ++ [char])) = strip (String.ofList chars) := by
  rw [strip, strip, String.toList_ofList, String.toList_ofList, List.dropWhile_append]
  split_ifs with blank
  · rw [List.isEmpty_iff] at blank
    rw [blank, List.dropWhile_cons_of_pos space]
    rfl
  · rw [List.reverse_append, List.reverse_singleton, List.singleton_append,
      List.dropWhile_cons_of_pos space]

theorem strip_blank {blank : List Char} (space : ∀ char ∈ blank, isSpace char = true) :
    strip (String.ofList blank) = "" := by
  have same := @strip_append_left blank [] space
  rw [List.append_nil] at same
  rw [same]
  rfl

/-- The stripped lines that are not blank. -/
def tidy (lines : List (List Char)) : List String :=
  (lines.map fun line => strip (String.ofList line)).filter fun name => name ≠ ""

theorem namesOf_eq_tidy (text : String) : namesOf text = tidy (Lines.splitText text.toList) :=
  rfl

theorem tidy_cons_blank {line : List Char} (blank : strip (String.ofList line) = "")
    (lines : List (List Char)) : tidy (line :: lines) = tidy lines := by
  rw [tidy, List.map_cons, blank, List.filter_cons_of_neg (by simp), tidy]

theorem tidy_cons_nil (lines : List (List Char)) : tidy ([] :: lines) = tidy lines :=
  tidy_cons_blank (strip_blank fun _ inside => absurd inside List.not_mem_nil) lines

theorem tidy_cons_congr {line other : List Char} {lines others : List (List Char)}
    (same : strip (String.ofList line) = strip (String.ofList other))
    (rest : tidy lines = tidy others) : tidy (line :: lines) = tidy (other :: others) := by
  rw [tidy, tidy] at rest ⊢
  rw [List.map_cons, List.map_cons, same, List.filter_cons, List.filter_cons, rest]

section Lines

variable {isBreak : Char → Bool}

theorem tidy_linesFrom_blank {blank : List Char} (space : ∀ char ∈ blank, isSpace char = true)
    (afterReturn : Bool) (current text : List Char) :
    tidy (linesFrom isBreak afterReturn (current ++ blank) text) =
      tidy (linesFrom isBreak afterReturn current text) := by
  have back : ∀ char ∈ blank.reverse, isSpace char = true :=
    fun char inside => space char (List.mem_reverse.mp inside)
  induction text generalizing afterReturn current with
  | nil =>
      simp only [linesFrom]
      cases current with
      | nil =>
          have gone : tidy [blank.reverse] = tidy [] := tidy_cons_blank (strip_blank back) []
          cases blank with
          | nil => rfl
          | cons char blank => exact gone
      | cons char current =>
          refine tidy_cons_congr ?_ rfl
          rw [List.reverse_append, strip_append_left back]
  | cons char rest ih =>
      simp only [linesFrom]
      split_ifs
      · exact ih _ _
      · refine tidy_cons_congr ?_ rfl
        rw [List.reverse_append, strip_append_left back]
      · exact ih _ (char :: current)

theorem tidy_linesFrom_space {char : Char} (space : isSpace char = true) (text : List Char) :
    tidy (linesFrom isBreak false [char] text) = tidy (linesFrom isBreak false [] text) := by
  have blank : ∀ other ∈ [char], isSpace other = true := by
    intro other inside
    rw [List.mem_singleton.mp inside]
    exact space
  exact tidy_linesFrom_blank blank false [] text

theorem tidy_linesFrom_return (text : List Char) :
    tidy (linesFrom isBreak true [] text) = tidy (linesFrom isBreak false [] text) := by
  cases text with
  | nil => rfl
  | cons char rest =>
      rw [linesFrom, linesFrom, Bool.true_and, Bool.false_and, if_neg Bool.false_ne_true,
        List.reverse_nil]
      by_cases feed : char = '\n'
      · rw [feed, decide_eq_true rfl, if_pos rfl]
        have feedIsSpace : isSpace '\n' = true := by decide
        split_ifs
        · rw [tidy_cons_nil]
          rfl
        · exact (tidy_linesFrom_space feedIsSpace rest).symm
      · rw [decide_eq_false feed, if_neg Bool.false_ne_true]

theorem tidy_splitLines_cons {char : Char} (space : isSpace char = true) (text : List Char) :
    tidy (linesFrom isBreak false [] (char :: text)) = tidy (linesFrom isBreak false [] text) := by
  rw [linesFrom, Bool.false_and, if_neg Bool.false_ne_true, List.reverse_nil]
  split_ifs
  · rw [tidy_cons_nil]
    cases decide (char = '\r') with
    | false => rfl
    | true => exact tidy_linesFrom_return text
  · exact tidy_linesFrom_space space text

theorem tidy_linesFrom_nil (afterReturn : Bool) (current : List Char) :
    tidy (linesFrom isBreak afterReturn current []) = tidy [current.reverse] := by
  cases current with
  | nil => exact (tidy_cons_nil []).symm
  | cons char current => rfl

theorem tidy_linesFrom_concat {char : Char} (space : isSpace char = true) (afterReturn : Bool)
    (current text : List Char) : tidy (linesFrom isBreak afterReturn current (text ++ [char])) =
      tidy (linesFrom isBreak afterReturn current text) := by
  induction text generalizing afterReturn current with
  | nil =>
      rw [List.nil_append, tidy_linesFrom_nil, linesFrom]
      split_ifs
      · exact tidy_linesFrom_nil _ _
      · rfl
      · rw [tidy_linesFrom_nil, List.reverse_cons]
        exact tidy_cons_congr (strip_concat space) rfl
  | cons first rest ih =>
      rw [List.cons_append, linesFrom, linesFrom]
      split_ifs
      · exact ih _ _
      · exact tidy_cons_congr rfl (ih _ _)
      · exact ih _ _

end Lines

theorem namesOf_strip (text : String) : namesOf (strip text) = namesOf text := by
  have leading (chars : List Char) :
      tidy (Lines.splitText (chars.dropWhile isSpace)) = tidy (Lines.splitText chars) := by
    induction chars with
    | nil => rfl
    | cons char rest ih =>
        by_cases space : isSpace char = true
        · rw [List.dropWhile_cons_of_pos space, ih]
          exact (tidy_splitLines_cons space rest).symm
        · rw [List.dropWhile_cons_of_neg space]
  have trailing (chars : List Char) :
      tidy (Lines.splitText (chars.dropWhile isSpace).reverse) =
        tidy (Lines.splitText chars.reverse) := by
    induction chars with
    | nil => rfl
    | cons char rest ih =>
        by_cases space : isSpace char = true
        · rw [List.dropWhile_cons_of_pos space, ih, List.reverse_cons]
          exact (tidy_linesFrom_concat space false [] rest.reverse).symm
        · rw [List.dropWhile_cons_of_neg space]
  rw [namesOf_eq_tidy, namesOf_eq_tidy, strip, String.toList_ofList, trailing, List.reverse_reverse,
    leading]

/-- The names that git prints for paths. -/
def printedNames (paths : List String) : String :=
  strip (printedDiff (paths.map DiffRecord.changed))

theorem mem_namesOf_printedNames {paths : List String} {name : String} :
    name ∈ namesOf (printedNames paths) ↔
      name ≠ "" ∧ ∃ path ∈ paths, strip (String.ofList (printedPath path)) = name := by
  rw [printedNames, namesOf_strip, namesOf_printedDiff, List.map_map, List.mem_filter,
    List.mem_map, decide_eq_true_iff, and_comm]
  rfl

theorem eq_of_printed {path name : String} (safe : safePath (.str path) = true)
    (plain : '\\' ∉ name.toList) (printed : strip (String.ofList (printedPath path)) = name) :
    path = name := by
  rw [← printed] at plain ⊢
  rw [(printedPath_cases path).resolve_left plain, String.ofList_toList, (plain_of_safePath safe).1]

end Adwf.CreativeAdapters
