import Mathlib.Data.List.TakeWhile
import Adwf.Supervisor.Delivery
import Adwf.Value.Text

/-!
# The write surface of a delivery

`verify_local_command_result` compares the paths the agent names with the lines
of `git diff --name-only`.  Git prints one line for each record of the diff: the
path of a change, the new path of a rename, and a path with special characters
in C-style quotes.
-/

namespace Adwf.Supervisor

open Adwf.Fallible Adwf.Orchestrator

/-! ## The paths git prints -/

/-- The characters for which git quotes a path. -/
def needsEscape (char : Char) : Bool :=
  char.toNat < 32 || 127 ≤ char.toNat || char = '"' || char = '\\'

/-- The characters with an escape of one letter. -/
def escapeLetters : List (Char × Char) :=
  [('\x07', 'a'), ('\x08', 'b'), ('\t', 't'), ('\n', 'n'), ('\x0b', 'v'), ('\x0c', 'f'),
    ('\r', 'r'), ('"', '"'), ('\\', '\\')]

def octalDigit (value : Nat) : Char :=
  match value % 8 with
  | 0 => '0'
  | 1 => '1'
  | 2 => '2'
  | 3 => '3'
  | 4 => '4'
  | 5 => '5'
  | 6 => '6'
  | _ => '7'

/-- A byte as a backslash and three octal digits. -/
def octal (byte : UInt8) : List Char :=
  ['\\', octalDigit (byte.toNat / 64), octalDigit (byte.toNat / 8), octalDigit byte.toNat]

def escapedChar (char : Char) : List Char :=
  if needsEscape char then
    match escapeLetters.lookup char with
    | some letter => ['\\', letter]
    | none => (String.utf8EncodeChar char).flatMap octal
  else [char]

/-- A path as one line of the output. -/
def printedPath (path : String) : List Char :=
  if path.toList.any needsEscape then '"' :: path.toList.flatMap escapedChar ++ ['"']
  else path.toList

/-- One record of a diff with rename detection. -/
inductive DiffRecord where
  | changed (path : String)
  | renamed (old new : String)

/-- The paths whose content or mode the record is about. -/
def DiffRecord.paths : DiffRecord → List String
  | .changed path => [path]
  | .renamed old new => [old, new]

/-- The path `--name-only` prints. -/
def DiffRecord.name : DiffRecord → String
  | .changed path => path
  | .renamed _ new => new

def DiffRecord.isRename : DiffRecord → Bool
  | .changed _ => false
  | .renamed _ _ => true

/-- The output of `git diff --name-only`. -/
def printedDiff (records : List DiffRecord) : String :=
  String.ofList (Lines.joinLines (records.map fun record => printedPath record.name))

/-- A commit as a map from paths to their mode and content. -/
abbrev Tree (Entry : Type) := String → Option Entry

/-- What git documents of the records between two commits. -/
structure Describes {Entry : Type} (base head : Tree Entry) (records : List DiffRecord) :
    Prop where
  covers : ∀ path, base path ≠ head path ↔ ∃ record ∈ records, path ∈ record.paths
  once : ∀ first ∈ records, ∀ second ∈ records, ∀ path ∈ first.paths, path ∈ second.paths →
    first = second
  moved : ∀ old new, .renamed old new ∈ records → head old = none ∧ base new = none
  named : ∀ path, base path ≠ head path → path ≠ ""

/-- A finished process. -/
structure Completed where
  returncode : Int
  stdout : String

/-- The five calls of `verify_local_command_result`. -/
structure GitAnswers where
  revParse : Completed
  catFile : Completed
  mergeBase : Completed
  diff : Completed
  status : Completed

/-- `line.strip() for line in stdout.splitlines() if line.strip()`. -/
def namesOf (stdout : String) : List String :=
  ((Lines.splitText stdout.toList).map fun line => Text.strip (String.ofList line)).filter
    fun name => name ≠ ""

/-- The workspace as the answers show it. -/
def GitAnswers.workspace (answers : GitAnswers) : Workspace where
  head := if answers.revParse.returncode = 0 then some (Text.strip answers.revParse.stdout)
    else none
  baseExists := answers.catFile.returncode = 0
  baseIsAncestor := answers.mergeBase.returncode = 0
  diff := if answers.diff.returncode = 0 then some (namesOf answers.diff.stdout) else none
  clean := answers.status.returncode = 0 && Text.strip answers.status.stdout = ""

/-! ## Printed paths -/

section Printed

variable {path : String} {char : Char}

theorem needsEscape_of_break (breaks : char ∈ Lines.textBreaks) : needsEscape char = true := by
  simp only [Lines.textBreaks, List.mem_cons, List.not_mem_nil, or_false] at breaks
  rcases breaks with rfl | rfl | rfl | rfl | rfl | rfl | rfl | rfl | rfl | rfl <;> rfl

theorem notBreak_of_plain (plain : needsEscape char = false) :
    Lines.textBreaks.contains char = false := by
  rw [Bool.eq_false_iff, ne_eq, List.contains_iff_mem]
  intro breaks
  rw [needsEscape_of_break breaks] at plain
  cases plain

theorem notBreak_octalDigit (value : Nat) :
    Lines.textBreaks.contains (octalDigit value) = false := by
  unfold octalDigit
  split <;> rfl

theorem notBreak_escapeLetters {entry : Char × Char} (mem : entry ∈ escapeLetters) :
    Lines.textBreaks.contains entry.2 = false := by
  simp only [escapeLetters, List.mem_cons, List.not_mem_nil, or_false] at mem
  rcases mem with rfl | rfl | rfl | rfl | rfl | rfl | rfl | rfl | rfl <;> rfl

theorem notBreak_escapedChar {letter : Char} (mem : letter ∈ escapedChar char) :
    Lines.textBreaks.contains letter = false := by
  unfold escapedChar at mem
  split_ifs at mem with escape
  · cases found : escapeLetters.lookup char with
    | some short =>
        simp only [found, List.mem_cons, List.not_mem_nil, or_false] at mem
        rcases mem with rfl | rfl
        · rfl
        · obtain ⟨before, after, listed, _⟩ := List.lookup_eq_some_iff.mp found
          exact @notBreak_escapeLetters (char, letter) (by simp [listed])
    | none =>
        simp only [found] at mem
        obtain ⟨byte, _, mem⟩ := List.mem_flatMap.mp mem
        simp only [octal, List.mem_cons, List.not_mem_nil, or_false] at mem
        rcases mem with rfl | rfl | rfl | rfl
        · rfl
        all_goals exact notBreak_octalDigit _
  · obtain rfl := List.mem_singleton.mp mem
    exact notBreak_of_plain (by simpa using escape)

theorem notBreak_printedPath {letter : Char} (mem : letter ∈ printedPath path) :
    Lines.textBreaks.contains letter = false := by
  unfold printedPath at mem
  split_ifs at mem with quoted
  · simp only [List.cons_append, List.mem_cons, List.mem_append, List.mem_flatMap,
      List.not_mem_nil, or_false] at mem
    rcases mem with rfl | ⟨char, _, mem⟩ | rfl
    · rfl
    · exact notBreak_escapedChar mem
    · rfl
  · refine notBreak_of_plain ?_
    simp only [List.any_eq_true, not_exists, not_and, Bool.not_eq_true] at quoted
    exact quoted letter mem

theorem backslash_mem_escapedChar (escape : needsEscape char = true) : '\\' ∈ escapedChar char := by
  rw [escapedChar, if_pos escape]
  cases escapeLetters.lookup char with
  | some letter => exact List.mem_cons_self
  | none =>
      obtain ⟨byte, mem⟩ := List.exists_mem_of_ne_nil _ (@String.utf8EncodeChar_ne_nil char)
      exact List.mem_flatMap.mpr ⟨byte, mem, List.mem_cons_self⟩

theorem mem_dropWhile_of_not {check : Char → Bool} {chars : List Char} (mem : char ∈ chars)
    (stays : check char = false) : char ∈ chars.dropWhile check := by
  rw [← List.takeWhile_append_dropWhile (p := check) (l := chars), List.mem_append] at mem
  refine mem.resolve_left fun taken => ?_
  rw [List.mem_takeWhile_imp taken] at stays
  cases stays

theorem backslash_mem_strip {text : String} (mem : '\\' ∈ text.toList) :
    '\\' ∈ (Text.strip text).toList := by
  rw [Text.strip, String.toList_ofList, List.mem_reverse]
  refine mem_dropWhile_of_not ?_ rfl
  exact List.mem_reverse.mpr (mem_dropWhile_of_not mem rfl)

/-- A quoted path shows a backslash, any other path shows itself. -/
theorem printedPath_cases (path : String) :
    '\\' ∈ (Text.strip (String.ofList (printedPath path))).toList ∨
      printedPath path = path.toList := by
  by_cases quoted : path.toList.any needsEscape = true
  · left
    apply backslash_mem_strip
    obtain ⟨char, mem, escape⟩ := List.any_eq_true.mp quoted
    rw [String.toList_ofList, printedPath, if_pos quoted, List.cons_append]
    refine List.mem_cons_of_mem _ (List.mem_append_left _ ?_)
    exact List.mem_flatMap.mpr ⟨char, mem, backslash_mem_escapedChar escape⟩
  · right
    rw [printedPath, if_neg quoted]

end Printed

theorem namesOf_printedDiff (records : List DiffRecord) : namesOf (printedDiff records) =
      (records.map fun record => Text.strip (String.ofList (printedPath record.name))).filter
        fun name => name ≠ "" := by
  have whole : ∀ line ∈ records.map (fun record => printedPath record.name),
      ∀ letter ∈ line, Lines.textBreaks.contains letter = false := by
    intro line mem letter inside
    obtain ⟨record, _, rfl⟩ := List.mem_map.mp mem
    exact notBreak_printedPath inside
  rw [namesOf, printedDiff, String.toList_ofList, Lines.splitText,
    Lines.splitLines_joinLines rfl whole, List.map_map]
  rfl

section Accepted

variable {rt : Runtime} {isInstant : String → Bool} {answers : GitAnswers}
  {package result : Fields}

theorem flatMap_errorUnless_eq_nil_iff {items : List String} {check : String → Bool}
    {code : String → String} :
    (items.flatMap fun item => errorUnless (check item) (code item)) = [] ↔
      ∀ item ∈ items, check item = true := by
  simp [List.flatMap_eq_nil_iff, errorUnless_eq_nil_iff]

theorem textsOf_of_distinctList {value : Json} {check : Json → Bool}
    (distinct : distinctList value check = .ok true) :
    ∀ text ∈ textsOf value, check (.str text) = true := by
  intro text mem
  cases value with
  | arr items =>
      rw [distinctList] at distinct
      split_ifs at distinct
      have all := Except.ok.inj distinct
      rw [Bool.and_eq_true, List.all_eq_true] at all
      obtain ⟨item, present, asText⟩ := List.mem_filterMap.mp mem
      cases item with
      | str other =>
          cases asText
          exact all.2 _ present
      | _ => cases asText
  | _ => cases mem

theorem changedPaths_of_valid (valid : validateWorkResult rt isInstant result package = .ok []) :
    ∀ path ∈ textsOf (Json.get result "changed_paths"),
      safePath (.str path) = true ∧ pathIsAllowed path package = true := by
  simp only [validateWorkResult, bind_ok_iff] at valid
  obtain ⟨packageErrors, _, valid⟩ := valid
  by_cases failed : packageErrors ≠ []
  · rw [if_pos failed] at valid
    exact absurd (List.map_eq_nil_iff.mp (Except.ok.inj valid)) failed
  · rw [if_neg failed] at valid
    simp only [bind_ok_iff] at valid
    obtain ⟨changedOk, distinct, _, _, _, _, _, _, returned⟩ := valid
    have clean := Except.ok.inj returned
    simp only [firstOfEach_eq_nil_iff, List.append_eq_nil_iff, errorUnless_eq_nil_iff,
      flatMap_errorUnless_eq_nil_iff, and_assoc] at clean
    obtain ⟨_, _, _, _, _, _, _, _, _, safe, allowed, _⟩ := clean
    rw [safe] at distinct
    rw [if_pos safe] at allowed
    exact fun path mem => ⟨textsOf_of_distinctList distinct path mem, allowed path mem⟩

theorem names_of_accepted
    (accepted : verifyLocalCommandResult rt isInstant answers.workspace package result = .ok []) :
    (namesOf answers.diff.stdout).Perm (textsOf (Json.get result "changed_paths")) ∧
      ∀ path ∈ textsOf (Json.get result "changed_paths"),
        safePath (.str path) = true ∧ pathIsAllowed path package = true := by
  simp only [verifyLocalCommandResult, bind_ok_iff] at accepted
  obtain ⟨errors, valid, returned⟩ := accepted
  have clean := Except.ok.inj returned
  simp only [firstOfEach_eq_nil_iff, List.append_eq_nil_iff, and_assoc] at clean
  obtain ⟨rfl, _, _, _, matched, _⟩ := clean
  refine ⟨?_, changedPaths_of_valid valid⟩
  rw [GitAnswers.workspace] at matched
  by_cases ran : answers.diff.returncode = 0
  · simp only [ran, if_true, errorUnless_eq_nil_iff, decide_eq_true_eq] at matched
    have sorted := List.perm_insertionSort (· ≤ ·) (namesOf answers.diff.stdout)
    rw [matched] at sorted
    exact sorted.symm.trans (List.perm_insertionSort _ _)
  · simp only [ran, if_false, List.cons_ne_nil] at matched

theorem plain_of_safePath {path : String} (safe : safePath (.str path) = true) :
    Text.strip path = path ∧ '\\' ∉ path.toList := by
  simp only [safePath, Json.textSatisfies, isPlainPath, Bool.and_eq_true, decide_eq_true_eq] at safe
  exact ⟨safe.1.1.1.2.symm, by simpa using safe.1.2⟩

end Accepted

/-! ## Which deliveries list their whole write surface -/

section Complete

variable {Entry : Type} {base head : Tree Entry} {records : List DiffRecord} {listed : List String}

/-- Every path that differs is listed. -/
def ListsAll (base head : Tree Entry) (listed : List String) : Prop :=
  ∀ path, base path ≠ head path → path ∈ listed

theorem record_of_name {path : String} (plain : '\\' ∉ path.toList)
    (stripped : ∀ record ∈ records, Text.strip record.name = record.name)
    (mem : path ∈ namesOf (printedDiff records)) : ∃ record ∈ records, record.name = path := by
  rw [namesOf_printedDiff, List.mem_filter, List.mem_map] at mem
  obtain ⟨⟨record, present, rfl⟩, _⟩ := mem
  refine ⟨record, present, ?_⟩
  have same := (printedPath_cases record.name).resolve_left plain
  rw [same, String.ofList_toList, stripped record present]

/-- A record without escapes and outer whitespace is read by its name. -/
theorem name_mem_of_record {record : DiffRecord} (present : record ∈ records)
    (stripped : Text.strip record.name = record.name) (named : record.name ≠ "")
    (plain : ∀ name ∈ namesOf (printedDiff records), '\\' ∉ name.toList) :
    record.name ∈ namesOf (printedDiff records) := by
  rw [namesOf_printedDiff] at plain ⊢
  have read : Text.strip (String.ofList (printedPath record.name)) ≠ "" →
      Text.strip (String.ofList (printedPath record.name)) ∈
        (records.map fun record => Text.strip (String.ofList (printedPath record.name))).filter
          fun name => name ≠ "" :=
    fun nonempty => List.mem_filter.mpr
      ⟨List.mem_map.mpr ⟨record, present, rfl⟩, by simpa using nonempty⟩
  rcases printedPath_cases record.name with escaped | same
  · have nonempty : Text.strip (String.ofList (printedPath record.name)) ≠ "" := by
      intro empty
      rw [empty] at escaped
      cases escaped
    exact absurd escaped (plain _ (read nonempty))
  · rw [same, String.ofList_toList, stripped] at read
    exact read named

theorem DiffRecord.name_mem_paths (record : DiffRecord) : record.name ∈ record.paths := by
  cases record <;> simp [name, paths]

theorem name_ne_old (describes : Describes base head records) {old new : String}
    (renamed : .renamed old new ∈ records) {record : DiffRecord} (present : record ∈ records) :
    record.name ≠ old := by
  rintro rfl
  have same := describes.once record present _ renamed record.name record.name_mem_paths
    List.mem_cons_self
  have differs := (describes.covers record.name).mpr ⟨record, present, record.name_mem_paths⟩
  have moved := describes.moved _ _ renamed
  have renames : record.name = new := by
    conv_lhs => rw [same]
    rfl
  rw [moved.1, renames, moved.2] at differs
  exact differs rfl

theorem listsAll_iff (describes : Describes base head records)
    (read : (namesOf (printedDiff records)).Perm listed)
    (safe : ∀ path ∈ listed, Text.strip path = path ∧ '\\' ∉ path.toList) :
    ListsAll base head listed ↔ (∀ record ∈ records, record.isRename = false) ∧
        ∀ path, base path ≠ head path → Text.strip path = path := by
  constructor
  · intro lists
    have stripped : ∀ path, base path ≠ head path → Text.strip path = path :=
      fun path differs => (safe path (lists path differs)).1
    refine ⟨?_, stripped⟩
    intro record present
    cases record with
    | changed path => rfl
    | renamed old new =>
        have differs := (describes.covers old).mpr ⟨_, present, List.mem_cons_self⟩
        have mem := lists old differs
        obtain ⟨record, other, same⟩ := record_of_name (safe old mem).2
          (fun record other => stripped _
            ((describes.covers _).mpr ⟨record, other, record.name_mem_paths⟩))
          (read.mem_iff.mpr mem)
        exact absurd same (name_ne_old describes present other)
  · rintro ⟨noRename, stripped⟩ path differs
    obtain ⟨record, present, mem⟩ := (describes.covers path).mp differs
    cases record with
    | renamed old new => cases noRename _ present
    | changed other =>
        obtain rfl := List.mem_singleton.mp mem
        exact read.mem_iff.mp (name_mem_of_record present (stripped path differs)
          (describes.named path differs)
          fun name listed => (safe name (read.mem_iff.mp listed)).2)

end Complete

/-- The paths that differ between the package's base and the delivered head are all
listed and inside the write surface. -/
def WriteSurfaceComplete {Entry : Type} (rt : Runtime) (repository : String → Tree Entry)
    (package result : Fields) : Prop :=
  ∀ path, repository (textOr rt (Json.get package "base_sha")) path ≠
      repository (textOr rt (Json.get result "head_sha")) path →
    path ∈ textsOf (Json.get result "changed_paths") ∧ pathIsAllowed path package = true

/-- An accepted delivery lists its whole write surface exactly when git finds no rename
in it and no changed path begins or ends with whitespace. -/
theorem writeSurfaceComplete_iff {Entry : Type} (rt : Runtime) (isInstant : String → Bool)
    (repository : String → Tree Entry) (answers : GitAnswers) (package result : Fields)
    (records : List DiffRecord)
    (describes : Describes (repository (textOr rt (Json.get package "base_sha")))
      (repository (textOr rt (Json.get result "head_sha"))) records)
    (prints : answers.diff.stdout = printedDiff records)
    (accepted : verifyLocalCommandResult rt isInstant answers.workspace package result = .ok []) :
    WriteSurfaceComplete rt repository package result ↔
      (∀ record ∈ records, record.isRename = false) ∧ ∀ path,
          repository (textOr rt (Json.get package "base_sha")) path ≠
            repository (textOr rt (Json.get result "head_sha")) path → Text.strip path = path := by
  obtain ⟨read, valid⟩ := names_of_accepted accepted
  rw [prints] at read
  rw [← listsAll_iff describes read fun path mem => plain_of_safePath (valid path mem).1]
  exact ⟨fun complete path differs => (complete path differs).1,
    fun lists path differs => ⟨lists path differs, (valid path (lists path differs)).2⟩⟩

/-! ## A renamed file -/

/-- A file moved into the write surface from outside of it. -/
def movedTree (revision : String) : Tree Unit := fun path =>
  if revision = headRevision ∧ path = "deploy/page.py" ∨
      revision ≠ headRevision ∧ path = "product/page.py" then some () else none

def movedRecords : List DiffRecord :=
  [.renamed "deploy/page.py" "product/page.py"]

def movedAnswers : GitAnswers where
  revParse := ⟨0, otherRevision⟩
  catFile := ⟨0, ""⟩
  mergeBase := ⟨0, ""⟩
  diff := ⟨0, printedDiff movedRecords⟩
  status := ⟨0, ""⟩

theorem movedTree_differs_iff (path : String) :
    movedTree headRevision path ≠ movedTree otherRevision path ↔
      path = "deploy/page.py" ∨ path = "product/page.py" := by
  have distinct : otherRevision ≠ headRevision := by decide
  unfold movedTree
  by_cases old : path = "deploy/page.py"
  · subst old
    simp [distinct]
  · by_cases new : path = "product/page.py"
    · subst new
      simp [distinct]
    · simp [old, new]

theorem describes_movedRecords :
    Describes (movedTree headRevision) (movedTree otherRevision) movedRecords where
  covers path := by
    rw [movedTree_differs_iff]
    simp [movedRecords, DiffRecord.paths]
  once first one second other _ _ _ := by
    rw [List.mem_singleton.mp one, List.mem_singleton.mp other]
  moved old new renamed := by
    cases List.mem_singleton.mp renamed
    exact ⟨rfl, rfl⟩
  named path differs := by
    rcases (movedTree_differs_iff path).mp differs with rfl | rfl <;> simp

theorem accepted_movedAnswers :
    verifyLocalCommandResult digestRuntime (fun _ => true) movedAnswers.workspace
      executingPackage executingWork = .ok [] := by
  unfold verifyLocalCommandResult
  rw [validateWorkResult_executingWork]
  decide +kernel

/-- Here the rename is a reason why the write surface is not complete. -/
theorem writeSurfaceComplete_iff_moved :
    ¬WriteSurfaceComplete digestRuntime movedTree executingPackage executingWork := by
  rw [writeSurfaceComplete_iff digestRuntime (fun _ => true) movedTree movedAnswers
    executingPackage executingWork movedRecords describes_movedRecords rfl accepted_movedAnswers]
  intro complete
  cases complete.1 _ List.mem_cons_self

/-- An accepted delivery removes a file that is neither listed nor allowed. -/
theorem not_always_writeSurfaceComplete :
    ¬ ∀ (rt : Runtime) (isInstant : String → Bool) (repository : String → Tree Unit)
      (answers : GitAnswers) (package result : Fields) (records : List DiffRecord),
      Describes (repository (textOr rt (Json.get package "base_sha")))
        (repository (textOr rt (Json.get result "head_sha"))) records →
      answers.diff.stdout = printedDiff records →
      verifyLocalCommandResult rt isInstant answers.workspace package result = .ok [] →
      WriteSurfaceComplete rt repository package result := by
  intro complete
  have listed := complete digestRuntime (fun _ => true) movedTree movedAnswers executingPackage
    executingWork movedRecords describes_movedRecords rfl accepted_movedAnswers "deploy/page.py"
    ((movedTree_differs_iff _).mpr (.inl rfl))
  exact absurd listed.1 (by decide)

end Adwf.Supervisor
