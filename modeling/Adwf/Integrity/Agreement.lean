import Adwf.Integrity.Written

/-!
# The two integrity checks

The check of the generator passes only where the verification does.  The
verification looks at the listed files alone, so it also passes where a file was
added or the layout of the texts is another one.
-/

namespace Adwf.Integrity

open Fallible (bind_ok_iff)
open JsonText (Value loads)
open Skills (Path Sha256 posix utf8)

/-! ## The files of a tree -/

section Files

variable {tree : FileTree} {file : Path × List UInt8} {path : Path} {bytes : List UInt8}

theorem content_eq_some_iff : tree.content path = some bytes ↔ (path, bytes) ∈ tree.files :=
  JsonText.lookup_eq_some_iff_mem tree.distinct

theorem mem_byName {files : List (Path × List UInt8)} : file ∈ byName files ↔ file ∈ files :=
  List.mem_insertionSort _

theorem mem_sourceFiles : file ∈ sourceFiles tree ↔ file ∈ tree.files ∧ isSource file.1 = true := by
  rw [sourceFiles, mem_byName, List.mem_filter]

theorem not_isSource_manifestPath : isSource manifestPath = false := by
  decide

theorem not_isSource_sumsPath : isSource sumsPath = false := by
  decide

theorem ne_of_isSource {other : Path} (source : isSource path = true)
    (notSource : isSource other = false) : path ≠ other := by
  rintro rfl
  rw [source] at notSource
  cases notSource

theorem mem_summedFiles {manifest : List UInt8} : file ∈ summedFiles tree manifest ↔
    file ∈ sourceFiles tree ∨ file = (manifestPath, manifest) := by
  rw [summedFiles, mem_byName, List.mem_append, List.mem_singleton]

theorem mem_files_of_summed {manifest : List UInt8}
    (held : tree.content manifestPath = some manifest)
    (summed : file ∈ summedFiles tree manifest) : file ∈ tree.files := by
  rcases mem_summedFiles.mp summed with source | rfl
  · exact (mem_sourceFiles.mp source).1
  · exact content_eq_some_iff.mp held

theorem nodup_summedNames {manifest : List UInt8}
    (held : tree.content manifestPath = some manifest) :
    ((summedFiles tree manifest).map fun file => posix file.1).Nodup := by
  have files : (tree.files.filter fun file => isSource file.1).Nodup :=
    (List.Nodup.of_map _ tree.distinct).filter _
  have fresh : (manifestPath, manifest) ∉ sourceFiles tree := by
    intro inside
    exact ne_of_isSource (mem_sourceFiles.mp inside).2 not_isSource_manifestPath rfl
  have whole : (summedFiles tree manifest).Nodup := by
    have sorted := (List.perm_insertionSort (fun left right => posix left.1 ≤ posix right.1)
      (sourceFiles tree ++ [(manifestPath, manifest)])).nodup_iff
    refine sorted.mpr ?_
    rw [← List.concat_eq_append]
    exact List.Nodup.concat fresh ((List.perm_insertionSort _ _).nodup_iff.mpr files)
  refine List.Nodup.map_on ?_ whole
  intro first inFirst second inSecond same
  have firstFile := mem_files_of_summed held inFirst
  have secondFile := mem_files_of_summed held inSecond
  have samePath := Skills.posix_inj (tree.paths _ firstFile).isPath
    (tree.paths _ secondFile).isPath same
  exact List.inj_on_of_nodup_map tree.distinct firstFile secondFile samePath

theorem posix_ne_empty (valid : IsFilePath path) : posix path ≠ "" := by
  intro empty
  have split := Skills.splitOn_posix valid.isPath
  rw [empty] at split
  cases path with
  | nil => exact valid.isPath.filled rfl
  | cons part rest =>
      have first : part.toList = [] := (List.cons.inj split).1.symm
      exact (valid.plain part List.mem_cons_self).1 (String.toList_eq_nil_iff.mp first)

end Files

section Loop

variable {sha256 : Sha256} {root : Root} {tree : FileTree}

/-- What the lines that are not blank are read as. -/
def parsed (lines : List (List Char)) : List (Option (String × String)) :=
  (lines.filter fun line => !line.all Text.isSpace).map parseLine

/-- A line is right: it does not name the sums, and its file has its digest. -/
def Right (sha256 : Sha256) (root : Root) (tree : FileTree) (entry : String × String) : Prop :=
  entry.2 ≠ "SHA256SUMS.txt" ∧ targetErrors sha256 root tree entry.1 entry.2 = .ok []

theorem foldlM_checkLine_errors {numbered : List (List Char × Nat)} {state final : LineState}
    (run : numbered.foldlM (checkLine sha256 root tree) state = .ok final) :
    state.errors <+: final.errors := by
  induction numbered generalizing state with
  | nil =>
      cases run
      exact List.prefix_rfl
  | cons line rest ih =>
      rw [List.foldlM_cons] at run
      rcases bind_ok_iff.mp run with ⟨next, checked, later⟩
      refine List.IsPrefix.trans ?_ (ih later)
      unfold checkLine at checked
      split_ifs at checked with blank
      · cases checked
        exact List.prefix_rfl
      · cases read : parseLine line.1 with
        | none =>
            rw [read] at checked
            cases checked
            exact List.prefix_append _ _
        | some entry =>
            rw [read] at checked
            dsimp only at checked
            split_ifs at checked with bad
            · cases checked
              exact List.prefix_append _ _
            · rcases bind_ok_iff.mp checked with ⟨errors, _, ⟨⟩⟩
              exact List.prefix_append _ _

theorem checkLine_iff {state next : LineState} {numbered : List Char × Nat}
    (solid : numbered.1.all Text.isSpace = false) :
    checkLine sha256 root tree state numbered = .ok next ∧ next.errors = [] ↔
      ∃ entry, parseLine numbered.1 = some entry ∧ entry.2 ∉ state.seen ∧
        Right sha256 root tree entry ∧ state.errors = [] ∧
        next = ⟨[], state.seen ++ [entry.2]⟩ := by
  rw [checkLine, if_neg (by simp [solid])]
  cases read : parseLine numbered.1 with
  | none =>
      dsimp only
      constructor
      · rintro ⟨⟨⟩, none⟩
        exact absurd none (List.append_ne_nil_of_right_ne_nil _ (List.cons_ne_nil _ _))
      · rintro ⟨entry, ⟨⟩, _⟩
  | some entry =>
      dsimp only
      split_ifs with bad
      · constructor
        · rintro ⟨⟨⟩, none⟩
          exact absurd none (List.append_ne_nil_of_right_ne_nil _ (List.cons_ne_nil _ _))
        · rintro ⟨_, ⟨⟩, fresh, right, _⟩
          rcases bad with seen | sums
          · exact absurd seen fresh
          · exact absurd sums right.1
      · rcases not_or.mp bad with ⟨fresh, notSums⟩
        constructor
        · rintro ⟨checked, none⟩
          rcases bind_ok_iff.mp checked with ⟨errors, found, ⟨⟩⟩
          rcases List.append_eq_nil_iff.mp none with ⟨clean, rfl⟩
          exact ⟨entry, rfl, fresh, ⟨notSums, found⟩, clean, by rw [clean]; rfl⟩
        · rintro ⟨_, ⟨⟩, _, right, clean, rfl⟩
          refine ⟨bind_ok_iff.mpr ⟨[], right.2, ?_⟩, rfl⟩
          rw [clean]
          rfl

theorem foldlM_checkLine_iff {numbered : List (List Char × Nat)} {seen names : List String}
    (distinct : seen.Nodup) :
    numbered.foldlM (checkLine sha256 root tree) ⟨[], seen⟩ = .ok ⟨[], names⟩ ↔
      ∃ entries : List (String × String), parsed (numbered.map Prod.fst) = entries.map some ∧
          (seen ++ entries.map Prod.snd).Nodup ∧ (∀ entry ∈ entries, Right sha256 root tree entry) ∧
            names = seen ++ entries.map Prod.snd := by
  induction numbered generalizing seen with
  | nil =>
      constructor
      · rintro ⟨⟩
        exact ⟨[], rfl, by simpa using distinct, fun _ inside => absurd inside List.not_mem_nil,
          (List.append_nil _).symm⟩
      · rintro ⟨entries, none, _, _, rfl⟩
        rw [List.map_eq_nil_iff.mp none.symm, List.map_nil, List.append_nil]
        rfl
  | cons line rest ih =>
      rw [List.foldlM_cons]
      by_cases blank : line.1.all Text.isSpace = true
      · have same : parsed ((line :: rest).map Prod.fst) = parsed (rest.map Prod.fst) := by
          simp [parsed, blank]
        have stays : checkLine sha256 root tree ⟨[], seen⟩ line = .ok ⟨[], seen⟩ := by
          rw [checkLine, if_pos blank]
        rw [stays, Fallible.ok_bind, same]
        exact ih distinct
      · have solid : line.1.all Text.isSpace = false := by simpa using blank
        have step : parsed ((line :: rest).map Prod.fst) =
            parseLine line.1 :: parsed (rest.map Prod.fst) := by
          rw [parsed, List.map_cons, List.filter_cons_of_pos (by simp [solid])]
          rfl
        rw [step]
        constructor
        · intro run
          rcases bind_ok_iff.mp run with ⟨next, checked, later⟩
          have clean := List.prefix_nil.mp (foldlM_checkLine_errors later)
          rcases (checkLine_iff solid).mp ⟨checked, clean⟩ with ⟨entry, read, fresh, right, _, rfl⟩
          have more := distinct.concat fresh
          rw [List.concat_eq_append] at more
          rcases (ih more).mp later with ⟨entries, others, different, rights, rfl⟩
          rw [List.append_assoc] at different
          refine ⟨entry :: entries, ?_, different, ?_, List.append_assoc _ _ _⟩
          · rw [read, others, List.map_cons]
          · exact List.forall_mem_cons.mpr ⟨right, rights⟩
        · rintro ⟨entries, same, different, rights, rfl⟩
          cases entries with
          | nil => cases same
          | cons entry entries =>
              rcases List.cons.inj same with ⟨read, others⟩
              rcases List.forall_mem_cons.mp rights with ⟨right, later⟩
              have fresh : entry.2 ∉ seen := fun inside =>
                (List.nodup_append.mp different).2.2 _ inside _ List.mem_cons_self rfl
              have checked := (checkLine_iff solid).mpr
                ⟨entry, read, fresh, right, (rfl : (⟨[], seen⟩ : LineState).errors = []), rfl⟩
              have more := distinct.concat fresh
              rw [List.concat_eq_append] at more
              rw [checked.1, Fallible.ok_bind]
              refine (ih more).mpr ⟨entries, others, ?_, later, ?_⟩
              · rw [List.append_assoc]
                exact different
              · rw [List.append_assoc]
                rfl

end Loop

end Adwf.Integrity
