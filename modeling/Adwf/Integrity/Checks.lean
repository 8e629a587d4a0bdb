import Adwf.Integrity.Agreement

/-!
# What the two integrity checks find

The check of the generator passes only where the verification does.  The
verification looks at the listed files alone, so it also passes where a file was
added or the layout of the texts is another one.
-/

namespace Adwf.Integrity

open Fallible (bind_ok_iff)
open JsonText (Value loads)
open Skills (Path Sha256 posix utf8)

section Results

variable {sha256 : Sha256} {root : Root} {tools : Tools} {tree : FileTree}

/-- The lines of the sums are right and name what the manifest lists. -/
structure Verified (sha256 : Sha256) (root : Root) (tree : FileTree) (files : List String)
    (text : List Char) (entries : List (String × String)) : Prop where
  lines : parsed (Lines.splitText text) = entries.map some
  distinct : (entries.map Prod.snd).Nodup
  right : ∀ entry ∈ entries, Right sha256 root tree entry
  names : ∀ name, name ∈ "MANIFEST.json" :: files ↔ name ∈ entries.map Prod.snd

variable {manifest : List UInt8} {text : List Char} {expected : Manifest}
variable {file : Path × List UInt8} {entries : List (String × String)}

theorem verifyManifest_of_texts {sums : List UInt8} {value : Value} {files : List String} (heldSums : tree.content sumsPath = some sums)
    (heldManifest : tree.content manifestPath = some manifest)
    (loaded : loadManifest tools manifest = some value)
    (listed : listedFiles tools.text value = .ok files) (read : readText sums = .ok text) :
    verifyManifest sha256 root tree tools = .ok [] ↔
      ∃ entries, Verified sha256 root tree files text entries := by
  have numbered : ((Lines.splitText text).zipIdx 1).map Prod.fst = Lines.splitText text :=
    List.zipIdx_map_fst 1 _
  have unlisted (names seen : List String) (code : String) :
      (Trust.sortedSet (names.filter (· ∉ seen))).map (code ++ ·) = [] ↔
        ∀ name ∈ names, name ∈ seen := by
    rw [List.map_eq_nil_iff, List.eq_nil_iff_forall_not_mem]
    simp only [Trust.mem_sortedSet, List.mem_filter, decide_eq_true_iff, not_and, not_not]
  rw [verifyManifest, heldSums, heldManifest]
  dsimp only
  rw [loaded]
  dsimp only
  rw [listed, Fallible.ok_bind, read, Fallible.ok_bind, bind_ok_iff]
  constructor
  · rintro ⟨state, run, none⟩
    have none := Except.ok.inj none
    rw [List.append_eq_nil_iff, List.append_eq_nil_iff, unlisted, unlisted] at none
    rcases none with ⟨⟨clean, allSeen⟩, allListed⟩
    have final : state = ⟨[], state.seen⟩ := by rw [← clean]
    rw [final] at run
    rcases (foldlM_checkLine_iff List.nodup_nil).mp run with
      ⟨entries, lines, distinct, right, seen⟩
    rw [numbered] at lines
    rw [List.nil_append] at distinct seen
    rw [seen] at allSeen allListed
    exact ⟨entries, lines, distinct, right, fun name => ⟨allSeen name, allListed name⟩⟩
  · rintro ⟨entries, lines, distinct, right, names⟩
    rw [← numbered] at lines
    refine ⟨⟨[], entries.map Prod.snd⟩, ?_, ?_⟩
    · exact (foldlM_checkLine_iff List.nodup_nil).mpr ⟨entries, lines, distinct, right, rfl⟩
    · have allSeen := (unlisted _ _ "CHECKSUM_UNLISTED:").mpr fun name => (names name).mp
      have allListed := (unlisted _ _ "CHECKSUM_OUTSIDE_MANIFEST:").mpr fun name => (names name).mpr
      rw [allSeen, allListed]
      rfl

/-- What the generator would write is what the tree has. -/
structure UpToDate (sha256 : Sha256) (tree : FileTree) (expected : Manifest)
    (manifest sums : List UInt8) : Prop where
  isExpected : expectedManifest tree = .ok expected
  heldManifest : tree.content manifestPath = some manifest
  readManifest : readText manifest = .ok (manifestText expected)
  heldSums : tree.content sumsPath = some sums
  readSums : readText sums = .ok (expectedSums sha256 tree manifest)

theorem checkErrors_eq_nil_iff : checkErrors sha256 tree = .ok [] ↔
    ∃ expected manifest sums, UpToDate sha256 tree expected manifest sums := by
  constructor
  · intro passed
    rcases bind_ok_iff.mp passed with ⟨expected, isExpected, passed⟩
    cases heldManifest : tree.content manifestPath with
    | none =>
        rw [heldManifest] at passed
        cases passed
    | some manifest =>
        rw [heldManifest] at passed
        rcases bind_ok_iff.mp passed with ⟨text, read, passed⟩
        split_ifs at passed with stale
        · cases passed
        · have same := not_not.mp stale
          cases heldSums : tree.content sumsPath with
          | none =>
              rw [heldSums] at passed
              cases passed
          | some sums =>
              rw [heldSums] at passed
              rcases bind_ok_iff.mp passed with ⟨sumsText, readSums, passed⟩
              split_ifs at passed with staleSums
              · cases passed
              · have sameSums := not_not.mp staleSums
                exact ⟨expected, manifest, sums, isExpected, heldManifest, same ▸ read, heldSums,
                  sameSums ▸ readSums⟩
  · rintro ⟨expected, manifest, sums, isExpected, heldManifest, read, heldSums, readSums⟩
    rw [checkErrors, isExpected, Fallible.ok_bind, heldManifest]
    dsimp only
    rw [read, Fallible.ok_bind, if_neg (not_not.mpr rfl), heldSums]
    dsimp only
    rw [readSums, Fallible.ok_bind, if_neg (not_not.mpr rfl)]
    rfl

theorem posix_singleton (part : String) : posix [part] = part := by
  rw [← String.toList_inj, Skills.toList_posix, List.map_singleton, List.intercalate_singleton]

theorem onOneLine_manifestPath : OnOneLine (posix manifestPath) := by
  rw [manifestPath, posix_singleton]
  intro char inside
  have letters : ∀ char ∈ "MANIFEST.json".toList, 46 ≤ char.toNat ∧ char.toNat ≤ 122 := by simp
  exact notMem_textBreaks_of_range (letters char inside)

/-- The names of the framework's files do not break lines. -/
def PlainNames (tree : FileTree) : Prop :=
  ∀ file ∈ sourceFiles tree, OnOneLine (posix file.1)

theorem names_of_expected (isExpected : expectedManifest tree = .ok expected) :
    expected.names = (sourceFiles tree).map fun file => posix file.1 := by
  unfold expectedManifest at isExpected
  cases held : tree.content ["VERSION"] with
  | none =>
      rw [held] at isExpected
      cases isExpected
  | some bytes =>
      rw [held] at isExpected
      rcases bind_ok_iff.mp isExpected with ⟨version, _, ⟨⟩⟩
      rfl

theorem loadManifest_of_text (read : readText manifest = .ok (manifestText expected)) :
    loadManifest tools manifest = some (.dictOf (manifestFields expected)) := by
  rw [loadManifest, read]
  dsimp only
  rw [loads_manifestText]

/-- The entry of a file in the sums. -/
def entryOf (sha256 : Sha256) (file : Path × List UInt8) : String × String :=
  (digest sha256 file.2, posix file.1)

theorem onOneLine_of_summed (plain : PlainNames tree) (summed : file ∈ summedFiles tree manifest) :
    OnOneLine (posix file.1) := by
  rcases mem_summedFiles.mp summed with source | rfl
  · exact plain file source
  · exact onOneLine_manifestPath

theorem map_parseLine_summed (plain : PlainNames tree)
    (held : tree.content manifestPath = some manifest) :
    ((summedFiles tree manifest).map (sumLine sha256)).map parseLine =
      ((summedFiles tree manifest).map (entryOf sha256)).map some := by
  rw [List.map_map, List.map_map]
  refine List.map_congr_left fun file summed => ?_
  have valid := tree.paths file (mem_files_of_summed held summed)
  rw [Function.comp_apply, Function.comp_apply, entryOf,
    parseLine_sumLine (posix_ne_empty valid) (onOneLine_of_summed plain summed)]

/-! ## The lines that are verified -/

/-- The lines that are not blank. -/
def solidLines (text : List Char) : List (List Char) :=
  (Lines.splitText text).filter fun line => !line.all Text.isSpace

/-- The line of an entry. -/
def lineOf (entry : String × String) : List Char :=
  entry.1.toList ++ ' ' :: ' ' :: entry.2.toList

theorem solidLines_expectedSums (plain : PlainNames tree) :
    solidLines (expectedSums sha256 tree manifest) =
      (summedFiles tree manifest).map (sumLine sha256) := by
  have whole : ∀ line ∈ (summedFiles tree manifest).map (sumLine sha256),
      ∀ char ∈ line, Lines.textBreaks.contains char = false := by
    intro line inside
    rcases List.mem_map.mp inside with ⟨file, summed, rfl⟩
    exact sumLine_whole (onOneLine_of_summed plain summed)
  have split := Lines.splitLines_joinLines (by decide) whole
  rw [solidLines, expectedSums, Lines.splitText, split, List.filter_eq_self]
  intro line inside
  rcases List.mem_map.mp inside with ⟨file, _, rfl⟩
  have solid := @sumLine_not_blank sha256 file
  simp only [solid, Bool.not_false]

theorem lines_of_parsed {lines : List (List Char)}
    (read : lines.map parseLine = entries.map some) : lines = entries.map lineOf := by
  induction lines generalizing entries with
  | nil =>
      rw [List.map_eq_nil_iff.mp read.symm]
      rfl
  | cons line lines ih =>
      cases entries with
      | nil => cases read
      | cons entry entries =>
          rcases List.cons.inj read with ⟨first, others⟩
          rw [List.map_cons, ← ih others, lineOf, ← eq_of_parseLine first]

theorem snd_entryOf (files : List (Path × List UInt8)) :
    (files.map (entryOf sha256)).map Prod.snd = files.map fun file => posix file.1 := by
  rw [List.map_map]
  rfl

theorem sumsName_notMem_summed (held : tree.content manifestPath = some manifest)
    (summed : file ∈ summedFiles tree manifest) : posix file.1 ≠ "SHA256SUMS.txt" := by
  intro same
  rw [← posix_singleton "SHA256SUMS.txt"] at same
  have path := Skills.posix_inj (tree.paths _ (mem_files_of_summed held summed)).isPath
    isFilePath_sumsPath.isPath same
  rcases mem_summedFiles.mp summed with source | rfl
  · exact ne_of_isSource (mem_sourceFiles.mp source).2 not_isSource_sumsPath path
  · have other : manifestPath ≠ sumsPath := by decide
    exact other path

theorem right_iff {expected : String} (held : tree.content manifestPath = some manifest)
    (summed : file ∈ summedFiles tree manifest) :
    Right sha256 root tree (expected, posix file.1) ↔ digest sha256 file.2 = expected := by
  have inside := mem_files_of_summed held summed
  have content := content_eq_some_iff.mpr inside
  rw [Right, targetErrors_posix (tree.paths _ inside), content]
  constructor
  · rintro ⟨_, bytes, ⟨⟩, same⟩
    exact same
  · exact fun same => ⟨sumsName_notMem_summed held summed, file.2, rfl, same⟩

theorem mem_listed_iff (isExpected : expectedManifest tree = .ok expected) (name : String) :
    name ∈ "MANIFEST.json" :: expected.names ↔
      ∃ file ∈ summedFiles tree manifest, posix file.1 = name := by
  rw [names_of_expected isExpected, List.mem_cons, List.mem_map]
  constructor
  · rintro (rfl | ⟨file, source, same⟩)
    · exact ⟨(manifestPath, manifest), mem_summedFiles.mpr (.inr rfl), posix_singleton _⟩
    · exact ⟨file, mem_summedFiles.mpr (.inl source), same⟩
  · rintro ⟨file, summed, rfl⟩
    rcases mem_summedFiles.mp summed with source | rfl
    · exact .inr ⟨file, source, rfl⟩
    · exact .inl (posix_singleton _)

theorem verified_of_perm (isExpected : expectedManifest tree = .ok expected)
    (held : tree.content manifestPath = some manifest)
    (lines : parsed (Lines.splitText text) = entries.map some)
    (same : entries.Perm ((summedFiles tree manifest).map (entryOf sha256))) :
    Verified sha256 root tree expected.names text entries where
  lines := lines
  distinct := by
    rw [(same.map Prod.snd).nodup_iff, snd_entryOf]
    exact nodup_summedNames held
  right := by
    intro entry inside
    rcases List.mem_map.mp (same.mem_iff.mp inside) with ⟨file, summed, rfl⟩
    exact (right_iff held summed).mpr rfl
  names := by
    intro name
    rw [mem_listed_iff isExpected, (same.map Prod.snd).mem_iff, snd_entryOf, List.mem_map]

theorem perm_of_verified (isExpected : expectedManifest tree = .ok expected)
    (held : tree.content manifestPath = some manifest)
    (verified : Verified sha256 root tree expected.names text entries) :
    entries.Perm ((summedFiles tree manifest).map (entryOf sha256)) := by
  have distinct : ((summedFiles tree manifest).map (entryOf sha256)).Nodup := by
    refine List.Nodup.of_map Prod.snd ?_
    rw [snd_entryOf]
    exact nodup_summedNames held
  rw [List.perm_ext_iff_of_nodup (List.Nodup.of_map _ verified.distinct) distinct]
  -- The names are the same, and a name and its file fix the digest.
  have same {entry : String × String} {file : Path × List UInt8} (inside : entry ∈ entries)
      (summed : file ∈ summedFiles tree manifest) (name : posix file.1 = entry.2) :
      entryOf sha256 file = entry := by
    have right := verified.right entry inside
    rw [show entry = (entry.1, posix file.1) by rw [name], right_iff held summed] at right
    exact Prod.ext right name
  intro entry
  constructor
  · intro inside
    have listed := (verified.names entry.2).mpr (List.mem_map_of_mem inside)
    rcases (mem_listed_iff isExpected entry.2).mp listed with ⟨file, summed, name⟩
    exact List.mem_map.mpr ⟨file, summed, same inside summed name⟩
  · intro inside
    rcases List.mem_map.mp inside with ⟨file, summed, rfl⟩
    have listed := (mem_listed_iff isExpected _).mpr ⟨file, summed, rfl⟩
    rcases List.mem_map.mp ((verified.names _).mp listed) with ⟨entry, among, name⟩
    rw [same among summed name.symm]
    exact among

theorem verified_iff (plain : PlainNames tree) (isExpected : expectedManifest tree = .ok expected)
    (held : tree.content manifestPath = some manifest) :
    (∃ entries, Verified sha256 root tree expected.names text entries) ↔
      (solidLines text).Perm ((summedFiles tree manifest).map (sumLine sha256)) := by
  have generated : (summedFiles tree manifest).map (sumLine sha256) =
      ((summedFiles tree manifest).map (entryOf sha256)).map lineOf := by
    rw [List.map_map]
    rfl
  constructor
  · rintro ⟨entries, verified⟩
    rw [generated, solidLines, lines_of_parsed verified.lines]
    exact (perm_of_verified isExpected held verified).map lineOf
  · intro same
    have read := same.map parseLine
    rw [map_parseLine_summed plain held] at read
    have each : List.Forall₂ (fun line entry => line = some entry)
        (((summedFiles tree manifest).map (entryOf sha256)).map some)
        ((summedFiles tree manifest).map (entryOf sha256)) := by
      rw [List.forall₂_map_left_iff, List.forall₂_same]
      exact fun _ _ => rfl
    rcases List.perm_comp_forall₂ read each with ⟨entries, lines, order⟩
    rw [← List.forall₂_map_right_iff, List.forall₂_eq_eq_eq] at lines
    exact ⟨entries, verified_of_perm isExpected held lines order⟩

end Results

end Adwf.Integrity
