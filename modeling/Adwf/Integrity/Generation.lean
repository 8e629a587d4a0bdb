import Adwf.Integrity.Checks

/-!
# What is generated and what changes later

Both checks accept what the generator writes.  A listed file that is changed or
removed later fails both; a file that is added fails only the check of the
generator.
-/

namespace Adwf.Integrity

open Fallible (bind_ok_iff)
open JsonText (loads)
open Skills (Path Sha256 posix utf8)

/-! ## Writing a file -/

section Write

variable {tree : FileTree} {path other : Path} {valid : IsFilePath path} {bytes : List UInt8}

@[simp]
theorem content_write_self : (tree.write path valid bytes).content path = some bytes :=
  List.lookup_cons_self

theorem mem_files_write {file : Path × List UInt8} : file ∈ (tree.write path valid bytes).files ↔
      file = (path, bytes) ∨ file ∈ tree.files ∧ file.1 ≠ path := by
  simp only [FileTree.write, FileTree.others, List.mem_cons, List.mem_filter, decide_eq_true_iff]

theorem content_write_other (different : other ≠ path) :
    (tree.write path valid bytes).content other = tree.content other := by
  ext found
  rw [content_eq_some_iff, content_eq_some_iff, mem_files_write]
  constructor
  · rintro (same | kept)
    · exact absurd (Prod.mk.inj same).1 different
    · exact kept.1
  · exact fun inside => .inr ⟨inside, different⟩

theorem sourceFiles_write (notSource : isSource path = false) :
    sourceFiles (tree.write path valid bytes) = sourceFiles tree := by
  have kept : (tree.others path).filter (fun file => isSource file.1) =
      tree.files.filter fun file => isSource file.1 := by
    rw [FileTree.others, List.filter_filter]
    refine List.filter_congr fun file _ => ?_
    by_cases source : isSource file.1 = true
    · simp [source, ne_of_isSource source notSource]
    · simp [source]
  rw [sourceFiles, FileTree.write]
  dsimp only
  rw [List.filter_cons_of_neg (by simp [notSource]), kept, sourceFiles]

theorem expectedManifest_write (notSource : isSource path = false)
    (notVersion : ["VERSION"] ≠ path) :
    expectedManifest (tree.write path valid bytes) = expectedManifest tree := by
  rw [expectedManifest, content_write_other notVersion, sourceFiles_write notSource,
    expectedManifest]

theorem plainNames_write (notSource : isSource path = false) :
    PlainNames (tree.write path valid bytes) ↔ PlainNames tree := by
  rw [PlainNames, sourceFiles_write notSource, PlainNames]

end Write

/-! ## The checks on what is written -/

section Generated

variable {sha256 : Sha256} {root : Root} {tools : Tools} {tree generated later : FileTree}

variable {expected : Manifest} {manifest sums : List UInt8}

theorem verifyManifest_of_upToDate
    (plain : PlainNames tree) (current : UpToDate sha256 tree expected manifest sums) :
    verifyManifest sha256 root tree tools = .ok [] := by
  have loaded := @loadManifest_of_text tools _ _ current.readManifest
  have listed := listedFiles_manifestFields tools expected
  rw [verifyManifest_of_texts current.heldSums current.heldManifest loaded listed current.readSums,
    verified_iff plain current.isExpected current.heldManifest,
    solidLines_expectedSums plain]

theorem verifyManifest_of_checkErrors (plain : PlainNames tree)
    (passed : checkErrors sha256 tree = .ok []) :
    verifyManifest sha256 root tree tools = .ok [] := by
  rcases checkErrors_eq_nil_iff.mp passed with ⟨expected, manifest, sums, current⟩
  exact verifyManifest_of_upToDate plain current

theorem return_notMem_expectedSums (plain : PlainNames tree) :
    '\r' ∉ expectedSums sha256 tree manifest := by
  intro inside
  rw [expectedSums, Lines.joinLines, List.mem_flatMap] at inside
  rcases inside with ⟨line, listed, inside⟩
  rcases List.mem_map.mp listed with ⟨file, summed, rfl⟩
  rcases List.mem_append.mp inside with inside | inside
  · have whole := sumLine_whole (onOneLine_of_summed plain summed) _ inside
    exact absurd whole (by decide)
  · exact absurd inside (by decide)

theorem sourceFiles_generate (ran : generate sha256 tree = .ok generated) :
    sourceFiles generated = sourceFiles tree := by
  rcases bind_ok_iff.mp ran with ⟨expected, _, ⟨⟩⟩
  rw [sourceFiles_write not_isSource_sumsPath, sourceFiles_write not_isSource_manifestPath]

theorem plainNames_generate (ran : generate sha256 tree = .ok generated) :
    PlainNames generated ↔ PlainNames tree := by
  rw [PlainNames, sourceFiles_generate ran, PlainNames]

/-- What the generator leaves is what it would write. -/
theorem upToDate_generate (plain : PlainNames tree) (ran : generate sha256 tree = .ok generated) :
    ∃ expected manifest sums, UpToDate sha256 generated expected manifest sums := by
  rcases bind_ok_iff.mp ran with ⟨expected, isExpected, ⟨⟩⟩
  have version : ["VERSION"] ≠ manifestPath ∧ ["VERSION"] ≠ sumsPath := by decide
  have other : manifestPath ≠ sumsPath := by decide
  have written := not_isSource_manifestPath
  have kept := not_isSource_sumsPath
  refine ⟨expected, utf8 (String.ofList (manifestText expected)), _,
    ⟨?_, ?_, ?_, content_write_self, ?_⟩⟩
  · rw [expectedManifest_write kept version.2, expectedManifest_write written version.1, isExpected]
  · rw [content_write_other other, content_write_self]
  · rw [readText_utf8, universalNewlines_eq_self (return_notMem_manifestText expected)]
  · rw [readText_utf8, universalNewlines_eq_self, expectedSums, expectedSums, summedFiles,
      summedFiles, sourceFiles_write kept]
    exact return_notMem_expectedSums ((plainNames_write written).mpr plain)

/-! ## Later changes -/

/-- The two texts are still there. -/
structure SameTexts (tree later : FileTree) : Prop where
  manifest : later.content manifestPath = tree.content manifestPath
  sums : later.content sumsPath = tree.content sumsPath

/-- Tools that leave floats as they are. -/
def plainTools : Tools where
  floats := ⟨id, fun _ => none, JsonText.normal_id⟩
  textOf := fun _ => ""

theorem names_eq_of_text {first second : Manifest}
    (same : manifestText first = manifestText second) : first.names = second.names := by
  have fields := loads_manifestText plainTools.floats first
  rw [same, loads_manifestText plainTools.floats second] at fields
  have listed := listedFiles_manifestFields plainTools first
  rw [← Except.ok.inj fields, listedFiles_manifestFields plainTools second] at listed
  exact (Except.ok.inj listed).symm

theorem names_eq_of_checkErrors
    (current : UpToDate sha256 tree expected manifest sums) (same : SameTexts tree later)
    (passed : checkErrors sha256 later = .ok []) :
    ((sourceFiles later).map fun file => posix file.1) =
      (sourceFiles tree).map fun file => posix file.1 := by
  rcases checkErrors_eq_nil_iff.mp passed with ⟨expectedLater, manifestLater, _, currentLater⟩
  have held := currentLater.heldManifest
  rw [same.manifest, current.heldManifest] at held
  cases held
  have read := currentLater.readManifest
  rw [current.readManifest] at read
  rw [← names_of_expected currentLater.isExpected, ← names_of_expected current.isExpected,
    names_eq_of_text (Except.ok.inj read)]

theorem verifyManifest_iff_of_sameTexts
    (plain : PlainNames tree) (current : UpToDate sha256 tree expected manifest sums)
    (same : SameTexts tree later) : verifyManifest sha256 root later tools = .ok [] ↔
      ∀ file ∈ sourceFiles tree, ∃ bytes, later.content file.1 = some bytes ∧
        digest sha256 bytes = digest sha256 file.2 := by
  have loaded := @loadManifest_of_text tools _ _ current.readManifest
  have listed := listedFiles_manifestFields tools expected
  have heldSums := same.sums.trans current.heldSums
  have heldManifest := same.manifest.trans current.heldManifest
  have valid {file : Path × List UInt8} (summed : file ∈ summedFiles tree manifest) :=
    tree.paths file (mem_files_of_summed current.heldManifest summed)
  have read := @map_parseLine_summed sha256 _ _ plain current.heldManifest
  rw [← solidLines_expectedSums plain] at read
  rw [verifyManifest_of_texts heldSums heldManifest loaded listed current.readSums]
  constructor
  · rintro ⟨entries, verified⟩ file source
    have summed : file ∈ summedFiles tree manifest := mem_summedFiles.mpr (.inl source)
    have entriesEq := verified.lines.symm.trans read
    rw [List.map_injective_iff.mpr (Option.some_injective _) entriesEq] at verified
    have right := verified.right _ (List.mem_map_of_mem summed)
    exact (targetErrors_posix (valid summed)).mp right.2
  · intro kept
    have verified := @verified_of_perm sha256 root _ _ _ _ _ current.isExpected
      current.heldManifest read (.refl _)
    refine ⟨_, verified.lines, verified.distinct, ?_, verified.names⟩
    intro entry inside
    refine ⟨(verified.right entry inside).1, ?_⟩
    rcases List.mem_map.mp inside with ⟨file, summed, rfl⟩
    refine (targetErrors_posix (valid summed)).mpr ?_
    rcases mem_summedFiles.mp summed with source | rfl
    · exact kept file source
    · exact ⟨manifest, heldManifest, rfl⟩

theorem content_of_checkErrors
    {file : Path × List UInt8} (current : UpToDate sha256 tree expected manifest sums)
    (same : SameTexts tree later) (passed : checkErrors sha256 later = .ok [])
    (source : file ∈ sourceFiles later) : ∃ old ∈ sourceFiles tree, old.1 = file.1 := by
  have named : posix file.1 ∈ (sourceFiles later).map fun file => posix file.1 :=
    List.mem_map_of_mem source
  rw [names_eq_of_checkErrors current same passed] at named
  rcases List.mem_map.mp named with ⟨old, listed, sameName⟩
  have valid := later.paths _ (mem_sourceFiles.mp source).1
  have validOld := tree.paths _ (mem_sourceFiles.mp listed).1
  exact ⟨old, listed, Skills.posix_inj validOld.isPath valid.isPath sameName⟩

theorem plainNames_of_names (same : ((sourceFiles later).map fun file => posix file.1) =
      (sourceFiles tree).map fun file => posix file.1) (plain : PlainNames tree) :
    PlainNames later := by
  intro file source
  have named : posix file.1 ∈ (sourceFiles later).map fun file => posix file.1 :=
    List.mem_map_of_mem source
  rw [same] at named
  rcases List.mem_map.mp named with ⟨old, listed, sameName⟩
  rw [← sameName]
  exact plain old listed

end Generated

section Agreement

variable (sha256 : Sha256) (root : Root) (tools : Tools) (tree : FileTree)

/-- The check of the generator is the stronger of the two, and what is generated passes both. -/
theorem checks_agree (plain : PlainNames tree) :
    (checkErrors sha256 tree = .ok [] → verifyManifest sha256 root tree tools = .ok []) ∧
      (∀ expected manifest sums text,
        expectedManifest tree = .ok expected → tree.content manifestPath = some manifest →
          readText manifest = .ok (manifestText expected) → tree.content sumsPath = some sums →
          readText sums = .ok text → (verifyManifest sha256 root tree tools = .ok [] ↔
            (solidLines text).Perm ((summedFiles tree manifest).map (sumLine sha256)))) ∧
      ∀ generated, generate sha256 tree = .ok generated → checkErrors sha256 generated = .ok [] ∧
          verifyManifest sha256 root generated tools = .ok [] ∧ ∀ later, SameTexts generated later →
            (verifyManifest sha256 root later tools = .ok [] ↔
              ∀ file ∈ sourceFiles tree, ∃ bytes, later.content file.1 = some bytes ∧
                digest sha256 bytes = digest sha256 file.2) ∧ (checkErrors sha256 later = .ok [] →
              verifyManifest sha256 root later tools = .ok [] ∧
                ∀ file ∈ sourceFiles later, ∃ old ∈ sourceFiles tree, old.1 = file.1) := by
  refine ⟨verifyManifest_of_checkErrors plain, ?_, ?_⟩
  · intro expected manifest sums text isExpected heldManifest read heldSums readSums
    have listed := listedFiles_manifestFields tools expected
    rw [verifyManifest_of_texts heldSums heldManifest (loadManifest_of_text read) listed readSums,
      verified_iff plain isExpected heldManifest]
  · intro generated ran
    have plainGenerated := (plainNames_generate ran).mpr plain
    rcases upToDate_generate plain ran with ⟨expected, manifest, sums, current⟩
    refine ⟨checkErrors_eq_nil_iff.mpr ⟨expected, manifest, sums, current⟩,
      verifyManifest_of_upToDate plainGenerated current, ?_⟩
    intro later same
    rw [← sourceFiles_generate ran]
    refine ⟨verifyManifest_iff_of_sameTexts plainGenerated current same, ?_⟩
    intro passed
    have names := names_eq_of_checkErrors current same passed
    exact ⟨verifyManifest_of_checkErrors (plainNames_of_names names plainGenerated) passed,
      fun file source => content_of_checkErrors current same passed source⟩

end Agreement

/-! ## A version and one more file -/

theorem isFilePath_version : IsFilePath ["VERSION"] := by
  refine ⟨⟨List.cons_ne_nil _ _, ?_, ?_⟩, ?_⟩
  all_goals
    intro part inside
    rw [List.mem_singleton.mp inside]
    decide

theorem isFilePath_extra : IsFilePath [".adwf", "extra"] := by
  refine ⟨⟨List.cons_ne_nil _ _, ?_, ?_⟩, ?_⟩
  all_goals
    intro part inside
    rcases List.mem_pair.mp inside with rfl | rfl
    all_goals decide

def versionTree : FileTree where
  files := [(["VERSION"], [49])]
  distinct := List.nodup_singleton _
  paths := by
    intro file inside
    rw [List.mem_singleton.mp inside]
    exact isFilePath_version

/-- A digest that keeps the first bytes. -/
def firstBytes : Sha256 where
  digest bytes := (bytes ++ List.replicate 32 0).take 32
  length_digest bytes := by
    rw [List.length_take, List.length_append, List.length_replicate]
    omega

theorem sourceFiles_versionTree : sourceFiles versionTree = [(["VERSION"], [49])] := by
  decide

theorem plainNames_versionTree : PlainNames versionTree := by
  intro file source
  rw [sourceFiles_versionTree, List.mem_singleton] at source
  rw [source, posix_singleton]
  intro char inside
  have letters : ∀ char ∈ "VERSION".toList, 46 ≤ char.toNat ∧ char.toNat ≤ 122 := by simp
  exact notMem_textBreaks_of_range (letters char inside)

theorem exists_generate_versionTree (sha256 : Sha256) :
    ∃ generated, generate sha256 versionTree = .ok generated := by
  have read : readText [49] = .ok ['1'] := by decide
  have held : versionTree.content ["VERSION"] = some [49] := rfl
  rw [generate, expectedManifest, held]
  dsimp only
  rw [read]
  exact ⟨_, rfl⟩

/-- The verification accepts what it need not look at. -/
theorem checks_agree_versionTree : ∃ generated, generate firstBytes versionTree = .ok generated ∧
    verifyManifest firstBytes ⟨[], fun _ inside => absurd inside List.not_mem_nil⟩ generated
      plainTools = .ok [] := by
  rcases exists_generate_versionTree firstBytes with ⟨generated, ran⟩
  have agree := checks_agree firstBytes ⟨[], fun _ inside => absurd inside List.not_mem_nil⟩
    plainTools versionTree plainNames_versionTree
  exact ⟨generated, ran, (agree.2.2 generated ran).2.1⟩

/-- A file that is added after the generation is seen by one check only. -/
theorem not_always_agree : ¬ ∀ sha256 root tree tools,
    checkErrors sha256 tree = .ok [] ↔ verifyManifest sha256 root tree tools = .ok [] := by
  intro agree
  rcases exists_generate_versionTree firstBytes with ⟨generated, ran⟩
  have plain := (plainNames_generate ran).mpr plainNames_versionTree
  rcases upToDate_generate plainNames_versionTree ran with ⟨expected, manifest, sums, current⟩
  have root : Root := ⟨[], fun _ inside => absurd inside List.not_mem_nil⟩
  have same : SameTexts generated (generated.write [".adwf", "extra"] isFilePath_extra []) :=
    ⟨content_write_other (by decide), content_write_other (by decide)⟩
  have sources : sourceFiles generated = [(["VERSION"], [49])] :=
    (sourceFiles_generate ran).trans sourceFiles_versionTree
  have verified : verifyManifest firstBytes root
      (generated.write [".adwf", "extra"] isFilePath_extra []) plainTools = .ok [] := by
    rw [verifyManifest_iff_of_sameTexts plain current same]
    intro file source
    have inside := (mem_sourceFiles.mp source).1
    rw [sources, List.mem_singleton] at source
    rw [source] at inside ⊢
    rw [content_write_other (by decide), content_eq_some_iff.mpr inside]
    exact ⟨[49], rfl, rfl⟩
  have passed := (agree _ root _ plainTools).mpr verified
  have added : ([".adwf", "extra"], []) ∈
      sourceFiles (generated.write [".adwf", "extra"] isFilePath_extra []) :=
    mem_sourceFiles.mpr ⟨mem_files_write.mpr (.inl rfl), by decide⟩
  rcases content_of_checkErrors current same passed added with ⟨old, listed, path⟩
  rw [sources, List.mem_singleton] at listed
  rw [listed] at path
  exact absurd path (by decide)

end Adwf.Integrity
