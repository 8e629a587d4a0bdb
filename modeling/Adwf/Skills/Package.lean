import Mathlib.Data.List.Sort
import Adwf.Value.Text

/-!
# The content address of a skill package

`package_digest` feeds SHA-256 with the relative path and the digest of each
file that is not ignored.  Names are texts and contents are bytes.
-/

namespace Adwf.Skills

/-! ## Package trees -/

/-- The parts of a relative path. -/
abbrev Path := List String

inductive Entry where
  | file (content : List UInt8)
  | directory
  | symlink
  | special
  deriving DecidableEq

/-- The parts of a name that a file system allows. -/
structure IsPath (path : Path) : Prop where
  filled : path ≠ []
  slashFree : ∀ part ∈ path, '/' ∉ part.toList
  zeroFree : ∀ part ∈ path, Char.ofNat 0 ∉ part.toList

/-- What is below a directory, by relative path. -/
structure Tree where
  entries : List (Path × Entry)
  distinct : (entries.map Prod.fst).Nodup
  paths : ∀ entry ∈ entries, IsPath entry.1

/-- `as_posix`. -/
def posix (path : Path) : String :=
  "/".intercalate path

/-- `IGNORED_PACKAGE_PARTS`. -/
def ignoredPackageParts : List String :=
  ["__pycache__", ".DS_Store"]

/-- `path.suffix == ".pyc"`: a name that starts with its last dot has no suffix. -/
def hasPycSuffix (name : String) : Bool :=
  ".pyc".toList.isSuffixOf name.toList && decide (4 < name.toList.length)

/-- `_skill_files` leaves the file out. -/
def isIgnored (path : Path) : Bool :=
  path.any (fun part => ignoredPackageParts.contains part) || path.getLast?.any hasPycSuffix

/-- The files of a tree, with their bytes. -/
def Tree.files (tree : Tree) : List (Path × List UInt8) :=
  tree.entries.filterMap fun entry =>
    match entry.2 with
    | .file content => some (entry.1, content)
    | _ => none

/-- `_skill_files`. -/
def Tree.skillFiles (tree : Tree) : List (Path × List UInt8) :=
  (tree.files.filter fun file => !isIgnored file.1).insertionSort fun left right =>
    posix left.1 ≤ posix right.1

/-! ## The digest -/

/-- `str.encode("utf-8")`. -/
def utf8 (text : String) : List UInt8 :=
  text.toList.flatMap String.utf8EncodeChar

/-- SHA-256. -/
structure Sha256 where
  digest : List UInt8 → List UInt8
  length_digest : ∀ bytes, (digest bytes).length = 32

def hexDigit (value : Nat) : Char :=
  if value < 10 then Char.ofNat (48 + value) else Char.ofNat (87 + value)

/-- `hexdigest`. -/
def hexText (bytes : List UInt8) : String :=
  String.ofList (bytes.flatMap fun byte =>
    [hexDigit (byte.toNat / 16), hexDigit (byte.toNat % 16)])

/-- A record of bytes without a separator and of a block, each closed by the separator. -/
def frame (separator : UInt8) (record : List UInt8 × List UInt8) : List UInt8 :=
  record.1 ++ separator :: (record.2 ++ [separator])

/-- What is fed for one file. -/
def recordOf (sha256 : Sha256) (file : Path × List UInt8) : List UInt8 × List UInt8 :=
  (utf8 (posix file.1), sha256.digest file.2)

/-- What is fed for the package. -/
def packageStream (sha256 : Sha256) (tree : Tree) : List UInt8 :=
  (tree.skillFiles.map (recordOf sha256)).flatMap (frame 0)

/-- `package_digest`. -/
def packageDigest (sha256 : Sha256) (tree : Tree) : String :=
  hexText (sha256.digest (packageStream sha256 tree))

/-- SHA-256 has no collision among these texts. -/
def NoCollision (sha256 : Sha256) (texts : List (List UInt8)) : Prop :=
  ∀ first ∈ texts, ∀ second ∈ texts, sha256.digest first = sha256.digest second → first = second

/-- What is hashed for the digests of two packages. -/
def hashedTexts (sha256 : Sha256) (tree other : Tree) : List (List UInt8) :=
  packageStream sha256 tree :: packageStream sha256 other ::
    (tree.files.map Prod.snd ++ other.files.map Prod.snd)

section Frames

variable {α : Type} {separator : α}

theorem eq_of_append_cons {front other back rest : List α} (fresh : separator ∉ front)
    (freshOther : separator ∉ other)
    (same : front ++ separator :: back = other ++ separator :: rest) :
    front = other ∧ back = rest := by
  induction front generalizing other with
  | nil =>
      cases other with
      | nil => exact ⟨rfl, (List.cons.inj same).2⟩
      | cons first others =>
          exact absurd ((List.cons.inj same).1 ▸ List.mem_cons_self) freshOther
  | cons item front ih =>
      cases other with
      | nil => exact absurd ((List.cons.inj same).1 ▸ List.mem_cons_self) fresh
      | cons first others =>
          rcases List.cons.inj same with ⟨rfl, rest⟩
          rcases ih (fun inside => fresh (List.mem_cons_of_mem _ inside))
            (fun inside => freshOther (List.mem_cons_of_mem _ inside)) rest with ⟨rfl, rfl⟩
          exact ⟨rfl, rfl⟩

end Frames

/-- The frame is that of a name without a zero and a digest. -/
def IsRecord (record : List UInt8 × List UInt8) : Prop :=
  0 ∉ record.1 ∧ record.2.length = 32

theorem flatMap_frame_inj {records others : List (List UInt8 × List UInt8)}
    (valid : ∀ record ∈ records, IsRecord record) (validOthers : ∀ record ∈ others, IsRecord record)
    (same : records.flatMap (frame 0) = others.flatMap (frame 0)) : records = others := by
  induction records generalizing others with
  | nil =>
      cases others with
      | nil => rfl
      | cons first others => simp [frame] at same
  | cons record records ih =>
      cases others with
      | nil => simp [frame] at same
      | cons first others =>
          rcases List.forall_mem_cons.mp valid with ⟨⟨fresh, length⟩, later⟩
          rcases List.forall_mem_cons.mp validOthers with ⟨⟨freshOther, lengthOther⟩, laterOthers⟩
          simp only [List.flatMap_cons, frame, List.append_assoc, List.cons_append] at same
          rcases eq_of_append_cons fresh freshOther same with ⟨sameName, blocks⟩
          rcases List.append_inj blocks (length.trans lengthOther.symm) with ⟨sameDigest, rest⟩
          rw [ih later laterOthers (List.cons.inj rest).2, Prod.ext sameName sameDigest]

/-! ## Names -/

theorem zero_notMem_utf8EncodeChar {char : Char} (nonzero : char ≠ Char.ofNat 0) :
    (0 : UInt8) ∉ String.utf8EncodeChar char := by
  have positive : 0 < char.val.toNat := by
    rcases Nat.eq_zero_or_pos char.val.toNat with zero | positive
    · have same : char.toNat = (Char.ofNat 0).toNat := zero
      exact absurd (Char.toNat_inj.mp same) nonzero
    · exact positive
  delta String.utf8EncodeChar
  dsimp only
  split_ifs with one two three
  all_goals
    simp only [List.mem_cons, List.not_mem_nil, or_false, ← UInt8.toNat_inj, UInt8.toNat_ofNat',
      UInt8.toNat_ofNat, Nat.reducePow]
    omega

theorem zero_notMem_utf8 {text : String} (zeroFree : Char.ofNat 0 ∉ text.toList) :
    0 ∉ utf8 text := by
  rw [utf8, List.mem_flatMap]
  rintro ⟨char, inside, zero⟩
  apply zero_notMem_utf8EncodeChar ?_ zero
  rintro rfl
  exact zeroFree inside

theorem utf8_injective : Function.Injective utf8 := by
  intro text other same
  apply String.toByteArray_inj.mp
  rw [← String.utf8Encode_toList, ← String.utf8Encode_toList]
  exact congrArg List.toByteArray same

theorem toList_posix (path : Path) :
    (posix path).toList = ['/'].intercalate (path.map String.toList) := by
  rw [posix, String.toList_intercalate]
  rfl

theorem zero_notMem_posix {path : Path} (valid : IsPath path) :
    Char.ofNat 0 ∉ (posix path).toList := by
  rw [toList_posix]
  intro zero
  rcases Text.mem_intercalate zero with slash | ⟨chars, listed, inside⟩
  · exact absurd slash (by decide)
  · rcases List.mem_map.mp listed with ⟨part, among, rfl⟩
    exact valid.zeroFree part among inside

/-- A path is read back from its text. -/
theorem splitOn_posix {path : Path} (valid : IsPath path) :
    (posix path).toList.splitOn '/' = path.map String.toList := by
  rw [toList_posix]
  apply List.splitOn_intercalate
  · intro chars listed
    rcases List.mem_map.mp listed with ⟨part, among, rfl⟩
    exact valid.slashFree part among
  · exact fun empty => valid.filled (List.map_eq_nil_iff.mp empty)

theorem posix_inj {path other : Path} (valid : IsPath path) (validOther : IsPath other)
    (same : posix path = posix other) : path = other := by
  apply List.map_injective_iff.mpr fun _ _ same => String.toList_inj.mp same
  rw [← splitOn_posix valid, ← splitOn_posix validOther, same]

/-! ## Equal digests -/

theorem hexDigit_inj :
    ∀ first second : Fin 16, hexDigit first = hexDigit second → first = second := by
  decide

theorem eq_of_hexDigit_eq {first second : Nat} (small : first < 16) (smallSecond : second < 16)
    (same : hexDigit first = hexDigit second) : first = second :=
  Fin.val_eq_of_eq (hexDigit_inj ⟨first, small⟩ ⟨second, smallSecond⟩ same)

theorem hexText_injective : Function.Injective hexText := by
  intro bytes others same
  have chars := String.ofList_injective same
  induction bytes generalizing others with
  | nil =>
      cases others with
      | nil => rfl
      | cons byte others => simp at chars
  | cons byte bytes ih =>
      cases others with
      | nil => simp at chars
      | cons other others =>
          simp only [List.flatMap_cons, List.cons_append, List.nil_append, List.cons.injEq] at chars
          rcases chars with ⟨high, low, rest⟩
          have ofByte := byte.toNat_lt
          have ofOther := other.toNat_lt
          have sameHigh := eq_of_hexDigit_eq (by omega) (by omega) high
          have sameLow := eq_of_hexDigit_eq (by omega) (by omega) low
          have sameByte : byte = other := UInt8.toNat_inj.mp (by omega)
          rw [sameByte, ih (congrArg String.ofList rest) rest]

variable {sha256 : Sha256} {tree other : Tree}

theorem Tree.mem_files_iff {path : Path} {content : List UInt8} :
    (path, content) ∈ tree.files ↔ (path, Entry.file content) ∈ tree.entries := by
  rw [Tree.files, List.mem_filterMap]
  constructor
  · rintro ⟨⟨name, entry⟩, inside, found⟩
    cases entry with
    | file bytes =>
        cases found
        exact inside
    | _ => cases found
  · intro inside
    exact ⟨_, inside, rfl⟩

theorem Tree.isPath_of_mem_files {file : Path × List UInt8} (inside : file ∈ tree.files) :
    IsPath file.1 :=
  tree.paths _ (Tree.mem_files_iff.mp inside)

theorem Tree.mem_skillFiles_iff {file : Path × List UInt8} :
    file ∈ tree.skillFiles ↔ file ∈ tree.files ∧ isIgnored file.1 = false := by
  rw [Tree.skillFiles, List.mem_insertionSort, List.mem_filter]
  simp

theorem isRecord_of_mem_skillFiles {record : List UInt8 × List UInt8}
    (listed : record ∈ tree.skillFiles.map (recordOf sha256)) : IsRecord record := by
  rcases List.mem_map.mp listed with ⟨file, inside, rfl⟩
  have valid := Tree.isPath_of_mem_files (Tree.mem_skillFiles_iff.mp inside).1
  exact ⟨zero_notMem_utf8 (zero_notMem_posix valid), sha256.length_digest _⟩

/-- Items with equal images are equal when the images of the two lists are. -/
theorem subset_of_map_eq {α β : Type} {f : α → β} {left right : List α}
    (inj : ∀ first ∈ left, ∀ second ∈ right, f first = f second → first = second)
    (same : left.map f = right.map f) : left ⊆ right := by
  intro first inside
  have image : f first ∈ right.map f := same ▸ List.mem_map_of_mem inside
  rcases List.mem_map.mp image with ⟨second, listed, equal⟩
  rw [inj first inside second listed equal.symm]
  exact listed

theorem skillFiles_subset_of_packageDigest_eq
    (unique : NoCollision sha256 (hashedTexts sha256 tree other))
    (same : packageDigest sha256 tree = packageDigest sha256 other) :
    tree.skillFiles ⊆ other.skillFiles := by
  have streams : packageStream sha256 tree = packageStream sha256 other := by
    apply unique _ List.mem_cons_self _ (List.mem_cons_of_mem _ List.mem_cons_self)
    exact hexText_injective same
  have records := flatMap_frame_inj (fun _ => isRecord_of_mem_skillFiles)
    (fun _ => isRecord_of_mem_skillFiles) streams
  apply subset_of_map_eq ?_ records
  intro first inside second listed equal
  have own := (Tree.mem_skillFiles_iff.mp inside).1
  have others := (Tree.mem_skillFiles_iff.mp listed).1
  apply Prod.ext
  · apply posix_inj (Tree.isPath_of_mem_files own) (Tree.isPath_of_mem_files others)
    exact utf8_injective (congrArg Prod.fst equal)
  · apply unique _ ?_ _ ?_ (congrArg Prod.snd equal)
    · simp only [hashedTexts, List.mem_cons, List.mem_append]
      exact Or.inr (Or.inr (Or.inl (List.mem_map_of_mem own)))
    · simp only [hashedTexts, List.mem_cons, List.mem_append]
      exact Or.inr (Or.inr (Or.inr (List.mem_map_of_mem others)))

end Adwf.Skills
