import Adwf.JsonText.Indent
import Adwf.Skills.Package
import Adwf.Trust.Classify
import Adwf.Value.Text

/-!
# The integrity manifest

`generate_manifest.py` writes `MANIFEST.json` and `SHA256SUMS.txt` of the
framework-owned files and checks that they are what it would write now.
`verify_manifest` reads both and compares them with the files they name.  A tree
has regular files only.
-/

namespace Adwf.Integrity

open JsonText (Floats Value Members loads renderText renderInt indentedList indentedObject)
open Skills (IsPath Path Sha256 hasPycSuffix hexText posix utf8)
open Text (startsWith)

/-! ## Trees of files -/

/-- A path below the root, without empty or relative parts. -/
structure IsFilePath (path : Path) : Prop where
  isPath : IsPath path
  plain : ∀ part ∈ path, part ≠ "" ∧ part ≠ "." ∧ part ≠ ".."

/-- The files below the root with their bytes. -/
structure FileTree where
  files : List (Path × List UInt8)
  distinct : (files.map Prod.fst).Nodup
  paths : ∀ file ∈ files, IsFilePath file.1

namespace FileTree

def content (tree : FileTree) (path : Path) : Option (List UInt8) :=
  tree.files.lookup path

/-- The other files when one is replaced. -/
def others (tree : FileTree) (path : Path) : List (Path × List UInt8) :=
  tree.files.filter fun file => file.1 ≠ path

theorem distinct_write (tree : FileTree) (path : Path) (bytes : List UInt8) :
    (((path, bytes) :: tree.others path).map Prod.fst).Nodup := by
  refine List.nodup_cons.mpr ⟨?_, tree.distinct.sublist (List.filter_sublist.map _)⟩
  intro inside
  rcases List.mem_map.mp inside with ⟨file, kept, same⟩
  exact of_decide_eq_true (List.mem_filter.mp kept).2 same

/-- The file is written, new or in place of the old one. -/
def write (tree : FileTree) (path : Path) (valid : IsFilePath path) (bytes : List UInt8) :
    FileTree where
  files := (path, bytes) :: tree.others path
  distinct := tree.distinct_write path bytes
  paths := by
    intro file inside
    rcases List.mem_cons.mp inside with rfl | inside
    · exact valid
    · exact tree.paths file (List.mem_filter.mp inside).1

end FileTree

def manifestPath : Path :=
  ["MANIFEST.json"]

def sumsPath : Path :=
  ["SHA256SUMS.txt"]

/-- Universal newlines of a text that is read. -/
def universalNewlines : List Char → List Char
  | [] => []
  | '\r' :: '\n' :: rest => '\n' :: universalNewlines rest
  | '\r' :: rest => '\n' :: universalNewlines rest
  | char :: rest => char :: universalNewlines rest

/-- `read_text(encoding="utf-8")` of the bytes. -/
def readText (bytes : List UInt8) : Except String (List Char) :=
  match String.fromUTF8? bytes.toByteArray with
  | some text => .ok (universalNewlines text.toList)
  | none => .error "UnicodeDecodeError"

/-! ## The generator -/

/-- `EXCLUDED_PARTS`. -/
def excludedParts : List String :=
  ["__pycache__", ".adwf-runtime", "migrations", "dist", "node_modules"]

/-- `EXCLUDED_NAMES`. -/
def excludedNames : List String :=
  ["MANIFEST.json", "SHA256SUMS.txt"]

/-- `ROOT_FILES`. -/
def rootFiles : List String :=
  ["VERSION", "README.md", "ADWS.md", "AGENTS.md", "SECURITY.md", "SPECIFICATION.md", "INSTALL.md",
    "LICENSE_DECISION_REQUIRED.md", "START_ADWF.bat", "START_ADWF.sh", "CHANGELOG.md",
    "CONTROL_CENTER.md", "CONTROL_CENTER.html", "labels.json", ".gitlab-ci.yml", ".gitignore",
    ".gitattributes"]

/-- The starts of the paths that the framework owns. -/
def ownedStarts : List String :=
  [".adwf/", ".github/workflows/adwf-", ".github/ISSUE_TEMPLATE/", "examples/reference-app/",
    "skills/", "docs/governance/", "docs/framework/", "docs/architecture/", "docs/operations/",
    "docs/migration/", "docs/decisions/", "docs/templates/", "docs/QUICKSTART_", "docs/V1_"]

/-- `str(rel).replace("\\", "/")`. -/
def slashed (path : Path) : String :=
  String.ofList ((posix path).toList.map fun char => if char = '\\' then '/' else char)

/-- `is_framework_owned`. -/
def isFrameworkOwned (path : Path) : Bool :=
  ownedStarts.any (startsWith (slashed path)) ||
    slashed path ∈ ".github/pull_request_template.md" :: "docs/REFERENCES.md" :: rootFiles

/-- The file is owned by the framework and not excluded. -/
def isSource (path : Path) : Bool :=
  isFrameworkOwned path && !path.any (· ∈ excludedParts) &&
    !path.getLast?.any fun name =>
      name ∈ excludedNames || hasPycSuffix name || ".lock".toList.isSuffixOf name.toList

/-- In the order of their names. -/
def byName (files : List (Path × List UInt8)) : List (Path × List UInt8) :=
  files.insertionSort fun left right => posix left.1 ≤ posix right.1

/-- `source_files`. -/
def sourceFiles (tree : FileTree) : List (Path × List UInt8) :=
  byName (tree.files.filter fun file => isSource file.1)

structure Manifest where
  version : String
  count : Nat
  bytes : Nat
  names : List String

/-- `expected_manifest`. -/
def expectedManifest (tree : FileTree) : Except String Manifest :=
  match tree.content ["VERSION"] with
  | none => .error "FileNotFoundError"
  | some bytes => do
      let version ← readText bytes
      return {
        version := Text.strip (String.ofList version)
        count := (sourceFiles tree).length
        bytes := ((sourceFiles tree).map fun file => file.2.length).sum
        names := (sourceFiles tree).map fun file => posix file.1 }

/-- The members of the manifest as they are written. -/
def manifestMembers (manifest : Manifest) : List (String × List Char) :=
  [("framework", renderText false "AI Development Framework"),
    ("version", renderText false manifest.version), ("schema_version", renderInt 3),
    ("scope", renderText false "FRAMEWORK_OWNED_TRUST_BOUNDARY"),
    ("file_count_excluding_manifests", renderInt manifest.count),
    ("total_bytes_excluding_manifests", renderInt manifest.bytes),
    ("files", indentedList 1 (manifest.names.map (renderText false)))]

/-- `json.dumps(manifest, ensure_ascii=False, indent=2) + "\n"`. -/
def manifestText (manifest : Manifest) : List Char :=
  indentedObject 0 (manifestMembers manifest) ++ ['\n']

section Sums

variable (sha256 : Sha256)

def digest (bytes : List UInt8) : String :=
  hexText (sha256.digest bytes)

/-- The line of a file in the sums. -/
def sumLine (file : Path × List UInt8) : List Char :=
  (digest sha256 file.2).toList ++ ' ' :: ' ' :: (posix file.1).toList

/-- The files of the sums when the manifest has the bytes. -/
def summedFiles (tree : FileTree) (manifest : List UInt8) : List (Path × List UInt8) :=
  byName (sourceFiles tree ++ [(manifestPath, manifest)])

/-- `expected_sums`. -/
def expectedSums (tree : FileTree) (manifest : List UInt8) : List Char :=
  Lines.joinLines ((summedFiles tree manifest).map (sumLine sha256))

/-- `main` with `--check`: what it prints. -/
def checkErrors (tree : FileTree) : Except String (List String) := do
  let expected ← expectedManifest tree
  match tree.content manifestPath with
  | none => return ["MANIFEST_STALE"]
  | some manifest => do
      let text ← readText manifest
      if text ≠ manifestText expected then return ["MANIFEST_STALE"]
      else
        match tree.content sumsPath with
        | none => return ["SHA256SUMS_STALE"]
        | some sums => do
            let sumsText ← readText sums
            return if sumsText ≠ expectedSums sha256 tree manifest then ["SHA256SUMS_STALE"] else []

theorem isFilePath_manifestPath : IsFilePath manifestPath := by
  refine ⟨⟨List.cons_ne_nil _ _, ?_, ?_⟩, ?_⟩
  all_goals
    intro part inside
    rw [List.mem_singleton.mp inside]
    decide

theorem isFilePath_sumsPath : IsFilePath sumsPath := by
  refine ⟨⟨List.cons_ne_nil _ _, ?_, ?_⟩, ?_⟩
  all_goals
    intro part inside
    rw [List.mem_singleton.mp inside]
    decide

/-- `main` without `--check`: both files are written. -/
def generate (tree : FileTree) : Except String FileTree := do
  let expected ← expectedManifest tree
  let manifest := utf8 (String.ofList (manifestText expected))
  let written := tree.write manifestPath isFilePath_manifestPath manifest
  return written.write sumsPath isFilePath_sumsPath
    (utf8 (String.ofList (expectedSums sha256 written manifest)))

end Sums

/-! ## The verification -/

/-- The parts of the absolute path of the root. -/
structure Root where
  parts : Path
  plain : ∀ part ∈ parts, part ≠ "" ∧ part ≠ "." ∧ part ≠ ".."

/-- One part of a path that is resolved; there are no symbolic links. -/
def enterPart (done : Path) (part : String) : Path :=
  if part = "" ∨ part = "." then done
  else if part = ".." then done.dropLast
  else done ++ [part]

/-- `(root / rel).resolve()`. -/
def resolve (root : Root) (rel : String) : Except String Path :=
  if Char.ofNat 0 ∈ rel.toList then .error "ValueError"
  else
    let parts := (rel.toList.splitOn '/').map String.ofList
    .ok ((if startsWith rel "/" then parts else root.parts ++ parts).foldl enterPart [])

/-- The path below the root, if the target is. -/
def below (root : Root) (target : Path) : Option Path :=
  if root.parts.isPrefixOf target ∧ root.parts ≠ target then some (target.drop root.parts.length)
  else none

/-- `re.fullmatch(r"([0-9a-f]{64})  ([^\n]+)", line)`. -/
def parseLine (line : List Char) : Option (String × String) :=
  let name := line.drop 66
  if Text.isSha256 (String.ofList (line.take 64)) ∧ (line.drop 64).take 2 = [' ', ' '] ∧
      name ≠ [] ∧ '\n' ∉ name then
    some (String.ofList (line.take 64), String.ofList name)
  else none

/-- What the loop over the lines knows. -/
structure LineState where
  errors : List String
  seen : List String

section Verify

variable (sha256 : Sha256) (root : Root) (tree : FileTree)

/-- The errors about the file that a line names. -/
def targetErrors (expected rel : String) : Except String (List String) := do
  let target ← resolve root rel
  match below root target with
  | none => return ["CHECKSUM_PATH_ESCAPE:" ++ rel]
  | some path =>
      match tree.content path with
      | none => return ["CHECKSUM_FILE_MISSING:" ++ rel]
      | some bytes =>
          return if digest sha256 bytes ≠ expected then ["CHECKSUM_MISMATCH:" ++ rel] else []

/-- One numbered line. -/
def checkLine (state : LineState) (numbered : List Char × Nat) : Except String LineState :=
  if numbered.1.all Text.isSpace then .ok state
  else
    match parseLine numbered.1 with
    | none =>
        .ok { state with
          errors := state.errors ++ ["CHECKSUM_LINE_INVALID:" ++ toString numbered.2] }
    | some (expected, rel) =>
        if rel ∈ state.seen ∨ rel = "SHA256SUMS.txt" then
          .ok { state with errors := state.errors ++ ["CHECKSUM_ENTRY_INVALID:" ++ rel] }
        else do
          let errors ← targetErrors sha256 root tree expected rel
          return { errors := state.errors ++ errors, seen := state.seen ++ [rel] }

/-- `str(x)` of the items of `manifest.get("files", [])`. -/
def listedFiles (text : Value → String) : Value → Except String (List String)
  | .dict fields =>
      match (fields.lookup "files").getD (.list []) with
      | .list items => .ok (items.map text)
      | .str files => .ok (files.toList.map fun char => String.ofList [char])
      | .dict members => .ok (members.map Prod.fst)
      | _ => .error "TypeError"
  | _ => .error "AttributeError"

/-- `str(x)`: a text is itself. -/
structure Tools where
  floats : Floats
  textOf : Value → String

def Tools.text (tools : Tools) : Value → String
  | .str value => value
  | value => tools.textOf value

/-- `_json(manifest_path)`, or nothing where it raises. -/
def loadManifest (tools : Tools) (manifest : List UInt8) : Option Value :=
  match readText manifest with
  | .error _ => none
  | .ok text =>
      match loads tools.floats text with
      | .error _ => none
      | .ok value => some value

/-- `verify_manifest`. -/
def verifyManifest (tools : Tools) : Except String (List String) :=
  match tree.content sumsPath, tree.content manifestPath with
  | none, _ => .ok ["SHA256SUMS_MISSING"]
  | some _, none => .ok ["MANIFEST_MISSING"]
  | some sums, some manifest =>
      match loadManifest tools manifest with
      | none => .ok ["MANIFEST_UNREADABLE"]
      | some value => do
          let files ← listedFiles tools.text value
          let text ← readText sums
          let state ← ((Lines.splitText text).zipIdx 1).foldlM (checkLine sha256 root tree) ⟨[], []⟩
          let listed := "MANIFEST.json" :: files
          return state.errors ++
            (Trust.sortedSet (listed.filter (· ∉ state.seen))).map ("CHECKSUM_UNLISTED:" ++ ·) ++
            (Trust.sortedSet (state.seen.filter (· ∉ listed))).map
              ("CHECKSUM_OUTSIDE_MANIFEST:" ++ ·)

end Verify

end Adwf.Integrity
