import Adwf.Integrity.Manifest
import Adwf.JsonText.Characters

/-!
# The manifest that is written and read

Reading a generated manifest gives back the names of the files.
-/

namespace Adwf.Integrity

open JsonText (Floats Value Members MemberReadAs ReadAs escapeChar indentedList indentedMember
  indentedObject joinItems loads loads_of_readAs newline renderInt renderText)
open Skills (Path Sha256 posix utf8)

/-! ## Texts of files -/

theorem readText_utf8 (chars : List Char) :
    readText (utf8 (String.ofList chars)) = .ok (universalNewlines chars) := by
  have bytes : (utf8 (String.ofList chars)).toByteArray = (String.ofList chars).toByteArray := by
    rw [← String.utf8Encode_toList]
    rfl
  have decoded : String.fromUTF8? (utf8 (String.ofList chars)).toByteArray =
      some (String.ofList chars) := by
    rw [bytes, String.fromUTF8?, dif_pos (String.ofList chars).isValidUTF8]
    rfl
  rw [readText, decoded]
  dsimp only
  rw [String.toList_ofList]

theorem universalNewlines_eq_self {chars : List Char} (noReturn : '\r' ∉ chars) :
    universalNewlines chars = chars := by
  induction chars with
  | nil => rfl
  | cons char rest ih =>
      have other : char ≠ '\r' := fun same => noReturn (same ▸ List.mem_cons_self)
      have later := ih fun inside => noReturn (List.mem_cons_of_mem _ inside)
      rw [universalNewlines.eq_4 _ _ (fun _ same _ => other same) other, later]

/-! ## The JSON text -/

/-- The members as the loader reads them. -/
def manifestFields (manifest : Manifest) : Members :=
  [("framework", .str "AI Development Framework"), ("version", .str manifest.version),
    ("schema_version", .int 3), ("scope", .str "FRAMEWORK_OWNED_TRUST_BOUNDARY"),
    ("file_count_excluding_manifests", .int manifest.count),
    ("total_bytes_excluding_manifests", .int manifest.bytes),
    ("files", .list (manifest.names.map .str))]

theorem nodup_manifestFields (manifest : Manifest) :
    ((manifestFields manifest).map Prod.fst).Nodup := by
  have keys : (manifestFields manifest).map Prod.fst =
      ["framework", "version", "schema_version", "scope", "file_count_excluding_manifests",
        "total_bytes_excluding_manifests", "files"] := rfl
  rw [keys]
  decide

theorem forall₂_readAs_names (floats : Floats) (names : List String) :
    List.Forall₂ (ReadAs floats 1) (names.map (renderText false)) (names.map .str) := by
  rw [List.forall₂_map_left_iff, List.forall₂_map_right_iff, List.forall₂_same]
  exact fun name _ => ReadAs.str name

theorem length_le_joinItems {depth : Nat} {items : List (List Char)}
    (filled : ∀ item ∈ items, item ≠ []) : items.length ≤ (joinItems depth items).length := by
  induction items with
  | nil => exact Nat.zero_le _
  | cons item items ih =>
      have some := List.length_pos_iff.mpr (filled item List.mem_cons_self)
      have later := ih fun other inside =>
        filled other (List.mem_cons_of_mem _ inside)
      cases items with
      | nil => exact some
      | cons next items =>
          simp only [joinItems, List.length_append, List.length_cons] at later ⊢
          omega

theorem length_le_indentedList {depth : Nat} (names : List String) :
    names.length ≤ (indentedList depth (names.map (renderText false))).length := by
  unfold indentedList
  split_ifs with empty
  · rw [List.map_eq_nil_iff.mp empty]
    exact Nat.zero_le _
  · have filled : ∀ item ∈ names.map (renderText false), item ≠ [] := by
      intro item inside
      rcases List.mem_map.mp inside with ⟨name, _, rfl⟩
      exact List.cons_ne_nil _ _
    have long := @length_le_joinItems (depth + 1) _ filled
    rw [List.length_map] at long
    simp only [List.length_cons, List.length_append]
    omega

theorem loads_manifestText (floats : Floats) (manifest : Manifest) :
    loads floats (manifestText manifest) = .ok (.dictOf (manifestFields manifest)) := by
  have names := ReadAs.list (forall₂_readAs_names floats manifest.names) 1
  rw [List.length_map] at names
  have small : 1 ≤ manifest.names.length + 1 + 1 := by omega
  have text (value : String) := (@ReadAs.str floats value).mono small
  have number (value : Int) := (@ReadAs.int floats value).mono small
  have readsAs : List.Forall₂ (MemberReadAs floats (manifest.names.length + 1 + 1))
      (manifestMembers manifest) (manifestFields manifest) :=
    .cons ⟨rfl, text _⟩ <| .cons ⟨rfl, text _⟩ <| .cons ⟨rfl, number 3⟩ <| .cons ⟨rfl, text _⟩ <|
      .cons ⟨rfl, number manifest.count⟩ <| .cons ⟨rfl, number manifest.bytes⟩ <|
      .cons ⟨rfl, names⟩ .nil
  have object := ReadAs.object readsAs (List.cons_ne_nil _ _) (nodup_manifestFields manifest) 0
  refine loads_of_readAs object ?_
  have long := @length_le_indentedList 1 manifest.names
  simp only [manifestMembers, indentedObject, indentedMember, joinItems, List.map_cons,
    List.map_nil, List.length_append, List.length_cons, List.length_nil]
  omega

theorem listedFiles_manifestFields (tools : Tools) (manifest : Manifest) :
    listedFiles tools.text (.dictOf (manifestFields manifest)) = .ok manifest.names := by
  have sorted := (manifestFields manifest).perm_insertionSort fun first second => first.1 ≤ second.1
  have distinct := (sorted.map Prod.fst).nodup_iff.mpr (nodup_manifestFields manifest)
  have found := (JsonText.lookup_eq_some_iff_mem distinct).mpr (sorted.mem_iff.mpr
    (show ("files", Value.list (manifest.names.map .str)) ∈ manifestFields manifest by
      simp [manifestFields]))
  have texts : (manifest.names.map Value.str).map tools.text = manifest.names := by
    rw [List.map_map]
    exact List.map_id _
  rw [Value.dictOf, listedFiles, found, Option.getD_some]
  dsimp only
  rw [texts]

/-! ## No carriage return -/

theorem return_notMem_newline (depth : Nat) : '\r' ∉ newline depth := by
  intro inside
  rcases List.mem_cons.mp inside with same | inside
  · exact absurd same (by decide)
  · exact absurd (List.eq_of_mem_replicate inside) (by decide)

theorem return_notMem_renderText (text : String) : '\r' ∉ renderText false text :=
  fun inside => absurd (JsonText.written_renderText inside).1 (by decide)

theorem return_notMem_renderInt (value : Int) : '\r' ∉ renderInt value := by
  intro inside
  have written := @JsonText.written_of_isTokenChar _ (fun _ => False)
    (JsonText.isTokenChar_of_mem_renderInt _ inside)
  exact absurd written.1 (by decide)

theorem return_notMem_joinItems {depth : Nat} {items : List (List Char)}
    (free : ∀ item ∈ items, '\r' ∉ item) : '\r' ∉ joinItems depth items := by
  induction items with
  | nil => exact List.not_mem_nil
  | cons item items ih =>
      have here := free item List.mem_cons_self
      cases items with
      | nil => exact here
      | cons next items =>
          have later := ih fun other inside =>
            free other (List.mem_cons_of_mem _ inside)
          simp only [joinItems, List.mem_append, List.mem_cons, not_or]
          exact ⟨here, by decide, return_notMem_newline depth, later⟩

theorem return_notMem_indentedList {depth : Nat} (names : List String) :
    '\r' ∉ indentedList depth (names.map (renderText false)) := by
  have free : ∀ item ∈ names.map (renderText false), '\r' ∉ item := by
    intro item inside
    rcases List.mem_map.mp inside with ⟨name, _, rfl⟩
    exact return_notMem_renderText name
  unfold indentedList
  split_ifs
  · decide
  · simp [return_notMem_newline, return_notMem_joinItems free]

theorem return_notMem_manifestText (manifest : Manifest) : '\r' ∉ manifestText manifest := by
  have members : ∀ mem ∈ manifestMembers manifest, '\r' ∉ mem.2 := by
    simp only [manifestMembers, List.forall_mem_cons]
    exact ⟨return_notMem_renderText _, return_notMem_renderText _, return_notMem_renderInt _,
      return_notMem_renderText _, return_notMem_renderInt _, return_notMem_renderInt _,
      return_notMem_indentedList _, fun _ inside => absurd inside List.not_mem_nil⟩
  have free : ∀ item ∈ (manifestMembers manifest).map indentedMember, '\r' ∉ item := by
    intro item inside
    rcases List.mem_map.mp inside with ⟨mem, listed, rfl⟩
    simp only [indentedMember, List.mem_append, List.mem_cons, not_or]
    exact ⟨return_notMem_renderText _, by decide, by decide, members mem listed⟩
  simp [manifestText, indentedObject, return_notMem_newline, return_notMem_joinItems free]

end Adwf.Integrity

/-!
## The lines of the sums

What a line of the generated sums says is read off it again, and the name leads
back to the file.
-/

namespace Adwf.Integrity

open Skills (Path Sha256 hexDigit hexText posix)

/-! ## Digests -/

section Digest

variable (sha256 : Sha256) (bytes : List UInt8)

theorem length_hexText (bytes : List UInt8) : (hexText bytes).toList.length = 2 * bytes.length := by
  rw [hexText, String.toList_ofList]
  induction bytes with
  | nil => rfl
  | cons byte rest ih =>
      rw [List.flatMap_cons, List.length_append, ih, List.length_cons,
        List.length_cons, List.length_nil, List.length_cons]
      omega

theorem isLowerHex_hexDigit : ∀ value : Fin 16, Text.isLowerHex (hexDigit value) = true := by
  decide

theorem isLowerHex_of_mem_hexText {bytes : List UInt8} {char : Char}
    (inside : char ∈ (hexText bytes).toList) : Text.isLowerHex char = true := by
  rw [hexText, String.toList_ofList, List.mem_flatMap] at inside
  rcases inside with ⟨byte, _, inside⟩
  have bound := byte.toNat_lt
  rcases List.mem_pair.mp inside with rfl | rfl
  · exact isLowerHex_hexDigit ⟨byte.toNat / 16, by omega⟩
  · exact isLowerHex_hexDigit ⟨byte.toNat % 16, by omega⟩

theorem length_digest : (digest sha256 bytes).toList.length = 64 := by
  rw [digest, length_hexText, sha256.length_digest]

theorem isSha256_digest : Text.isSha256 (digest sha256 bytes) = true := by
  have chars : (digest sha256 bytes).toList.all Text.isLowerHex = true :=
    List.all_eq_true.mpr fun _ inside => isLowerHex_of_mem_hexText inside
  simp [Text.isSha256, Text.fullmatch, length_digest, chars]

theorem range_of_isLowerHex {char : Char} (hex : Text.isLowerHex char = true) :
    48 ≤ char.toNat ∧ char.toNat ≤ 57 ∨ 97 ≤ char.toNat ∧ char.toNat ≤ 102 := by
  simpa [Text.isLowerHex, Char.le_def, UInt32.le_iff_toNat_le] using hex

theorem notMem_textBreaks_of_range {char : Char} (range : 46 ≤ char.toNat ∧ char.toNat ≤ 122) :
    char ∉ Lines.textBreaks := by
  intro inside
  simp only [Lines.textBreaks, List.mem_cons, List.not_mem_nil, or_false] at inside
  rcases inside with rfl | rfl | rfl | rfl | rfl | rfl | rfl | rfl | rfl | rfl
  all_goals simp at range

theorem notMem_textBreaks_of_isLowerHex {char : Char} (hex : Text.isLowerHex char = true) :
    char ∉ Lines.textBreaks := by
  have range := range_of_isLowerHex hex
  exact notMem_textBreaks_of_range (by omega)

theorem isSpace_eq_false_of_isLowerHex {char : Char} (hex : Text.isLowerHex char = true) :
    Text.isSpace char = false := by
  have range := range_of_isLowerHex hex
  simp only [Text.isSpace, Bool.or_eq_false_iff, Bool.and_eq_false_iff, decide_eq_false_iff_not]
  omega

end Digest

section Line

variable {sha256 : Sha256} {file : Path × List UInt8}

/-- The text can stand on a line. -/
def OnOneLine (text : String) : Prop :=
  ∀ char ∈ text.toList, char ∉ Lines.textBreaks

theorem parseLine_sumLine (filled : posix file.1 ≠ "") (oneLine : OnOneLine (posix file.1)) :
    parseLine (sumLine sha256 file) = some (digest sha256 file.2, posix file.1) := by
  have length := length_digest sha256 file.2
  have front : (sumLine sha256 file).take 64 = (digest sha256 file.2).toList := by
    rw [sumLine, List.take_append_of_le_length (Nat.le_of_eq length.symm),
      List.take_of_length_le (Nat.le_of_eq length)]
  have back : (sumLine sha256 file).drop 64 = ' ' :: ' ' :: (posix file.1).toList := by
    rw [sumLine, List.drop_append_of_le_length (Nat.le_of_eq length.symm),
      List.drop_of_length_le (Nat.le_of_eq length), List.nil_append]
  have name : (sumLine sha256 file).drop 66 = (posix file.1).toList := by
    rw [← List.drop_drop (i := 2) (j := 64), back]
    rfl
  have noFeed : '\n' ∉ (posix file.1).toList := fun inside => oneLine _ inside (by decide)
  have some : (posix file.1).toList ≠ [] := fun empty => filled (String.toList_eq_nil_iff.mp empty)
  rw [parseLine, front, back, name, String.ofList_toList, String.ofList_toList,
    if_pos ⟨isSha256_digest sha256 file.2, rfl, some, noFeed⟩]

/-- A line is read as its two parts. -/
theorem eq_of_parseLine {line : List Char} {expected rel : String}
    (parsed : parseLine line = some (expected, rel)) :
    line = expected.toList ++ ' ' :: ' ' :: rel.toList := by
  unfold parseLine at parsed
  dsimp only at parsed
  split_ifs at parsed with formed
  rcases formed with ⟨_, blanks, _, _⟩
  cases parsed
  have middle : line.drop 64 = [' ', ' '] ++ line.drop 66 := by
    rw [← blanks, ← List.drop_drop (i := 2) (j := 64), List.take_append_drop]
  rw [String.toList_ofList, String.toList_ofList]
  calc
    line = line.take 64 ++ line.drop 64 := (List.take_append_drop 64 line).symm
    _ = line.take 64 ++ ' ' :: ' ' :: line.drop 66 := by rw [middle]; rfl

theorem sumLine_whole (oneLine : OnOneLine (posix file.1)) :
    ∀ char ∈ sumLine sha256 file, Lines.textBreaks.contains char = false := by
  intro char inside
  rw [← Bool.not_eq_true, List.contains_iff_mem]
  rcases List.mem_append.mp inside with hex | inside
  · exact notMem_textBreaks_of_isLowerHex (isLowerHex_of_mem_hexText hex)
  · have blank : ' ' ∉ Lines.textBreaks := by decide
    rcases List.mem_cons.mp inside with rfl | inside
    · exact blank
    · rcases List.mem_cons.mp inside with rfl | inside
      · exact blank
      · exact oneLine char inside

theorem sumLine_not_blank : (sumLine sha256 file).all Text.isSpace = false := by
  have length := length_digest sha256 file.2
  cases digits : (digest sha256 file.2).toList with
  | nil =>
      rw [digits] at length
      cases length
  | cons first rest =>
      have hex : Text.isLowerHex first = true :=
        isLowerHex_of_mem_hexText (digits ▸ List.mem_cons_self)
      rw [sumLine, digits, List.cons_append, List.all_cons, isSpace_eq_false_of_isLowerHex hex,
        Bool.false_and]

end Line

section Target

variable {root : Root} {path : Path} {sha256 : Sha256} {tree : FileTree}

theorem foldl_enterPart {parts : Path}
    (plain : ∀ part ∈ parts, part ≠ "" ∧ part ≠ "." ∧ part ≠ "..") (done : Path) :
    parts.foldl enterPart done = done ++ parts := by
  induction parts generalizing done with
  | nil => exact (List.append_nil done).symm
  | cons part rest ih =>
      rcases plain part List.mem_cons_self with ⟨filled, notHere, notUp⟩
      rw [List.foldl_cons, enterPart, if_neg (not_or.mpr ⟨filled, notHere⟩), if_neg notUp,
        ih (fun other inside => plain other (List.mem_cons_of_mem _ inside)),
        List.append_assoc, List.singleton_append]

theorem startsWith_slash_posix (valid : IsFilePath path) :
    Text.startsWith (posix path) "/" = false := by
  rw [← Bool.not_eq_true, Text.startsWith, List.isPrefixOf_iff_prefix]
  rintro ⟨rest, starts⟩
  have split := Skills.splitOn_posix valid.isPath
  have first : (posix path).toList.splitOn '/' = [] :: rest.splitOn '/' := by
    rw [← starts]
    exact List.splitOn_append_cons_self_of_not_mem List.not_mem_nil rest
  rw [first] at split
  cases path with
  | nil => cases split
  | cons part others =>
      have empty : part.toList = [] := (List.cons.inj split).1.symm
      exact (valid.plain part List.mem_cons_self).1 (String.toList_eq_nil_iff.mp empty)

theorem resolve_posix (valid : IsFilePath path) :
    resolve root (posix path) = .ok (root.parts ++ path) := by
  have parts : ((posix path).toList.splitOn '/').map String.ofList = path := by
    rw [Skills.splitOn_posix valid.isPath, List.map_map]
    exact List.map_id'' (fun part => String.ofList_toList) path
  rw [resolve, if_neg (Skills.zero_notMem_posix valid.isPath)]
  dsimp only
  rw [startsWith_slash_posix valid, parts, if_neg Bool.false_ne_true, foldl_enterPart,
    List.nil_append]
  intro part inside
  rcases List.mem_append.mp inside with above | inside
  · exact root.plain part above
  · exact valid.plain part inside

theorem below_append (filled : path ≠ []) : below root (root.parts ++ path) = some path := by
  have start : root.parts.isPrefixOf (root.parts ++ path) = true :=
    List.isPrefixOf_iff_prefix.mpr (List.prefix_append _ _)
  have other : root.parts ≠ root.parts ++ path := by
    intro same
    exact filled (List.self_eq_append_right.mp same)
  rw [below, if_pos ⟨start, other⟩, List.drop_left]

theorem targetErrors_posix (valid : IsFilePath path) {expected : String} :
    targetErrors sha256 root tree expected (posix path) = .ok [] ↔
      ∃ bytes, tree.content path = some bytes ∧ digest sha256 bytes = expected := by
  rw [targetErrors, resolve_posix valid, Fallible.ok_bind, below_append valid.isPath.filled]
  dsimp only
  cases tree.content path with
  | none => simp [pure, Except.pure]
  | some bytes =>
      by_cases same : digest sha256 bytes = expected
      · simp [same, pure, Except.pure]
      · simp [same, pure, Except.pure]

end Target

end Adwf.Integrity
