import Adwf.Skills.Package
import Adwf.Trust.Weakening

/-!
# Vendor intake

`vendor_intake_plan` checks a local directory against its provenance and
`apply_vendor_intake` copies it into quarantine.  The digest leaves files out
that the copy takes.
-/

namespace Adwf.Skills

open Trust (reasonIf)

/-! ## The plan -/

/-- `SkillFinding`. -/
structure Finding where
  code : String
  path : String
  message : String
  deriving DecidableEq

/-- The source directory: what its path leads to and what is below it. -/
structure Source where
  text : String
  isDirectory : Bool
  isSymlink : Bool
  tree : Tree

/-- The arguments of both functions; `targetExists` is asked of `destination_root / skill_id`. -/
structure Intake where
  source : Source
  skillId : String
  provenance : Fields
  target : String
  targetExists : Bool

/-- SHA-256, `str` and the text that is written for the provenance. -/
structure IntakeTools where
  sha256 : Sha256
  rt : Runtime
  dumps : Fields → List UInt8

def provenanceFields : List String :=
  ["source_url", "source_ref", "source_digest", "license", "attribution", "imported_at",
    "local_modifications"]

/-- `[a-z0-9][a-z0-9-]{2,63}`. -/
def isSkillId (text : String) : Bool :=
  match text.toList with
  | [] => false
  | first :: others =>
      let small (char : Char) := char.isLower || char.isDigit
      small first && others.all (fun char => small char || char = '-') &&
        decide (2 ≤ others.length ∧ others.length ≤ 63)

/-- A real local directory. -/
def Source.isReal (source : Source) : Bool :=
  source.isDirectory && !source.isSymlink

/-- What is wrong with the source. -/
def sourceFindings (source : Source) : List Finding :=
  if source.isReal then
    source.tree.entries.filterMap fun entry =>
      if entry.2 = .symlink then
        some ⟨"VENDOR_SYMLINK_FORBIDDEN", source.text ++ "/" ++ posix entry.1,
          "symlinks are not accepted into quarantine"⟩
      else none
  else [⟨"VENDOR_SOURCE_INVALID", source.text, "source must be a real local directory"⟩]

/-- What is wrong with the digest of the provenance. -/
def digestFindings (tools : IntakeTools) (intake : Intake) : List Finding :=
  let digest := Json.get intake.provenance "source_digest"
  let actual := packageDigest tools.sha256 intake.source.tree
  if digest = .null then []
  else if Text.isSha256 (tools.rt.text digest) = false then
    [⟨"VENDOR_SOURCE_DIGEST_INVALID", intake.skillId, "source_digest must be sha256"⟩]
  else if intake.source.isReal ∧ digest ≠ .str actual then
    [⟨"VENDOR_SOURCE_DIGEST_MISMATCH", intake.skillId,
      "expected " ++ tools.rt.text digest ++ ", got " ++ actual⟩]
  else []

def intakeFindings (tools : IntakeTools) (intake : Intake) : List Finding :=
  (if isSkillId intake.skillId then []
    else [⟨"VENDOR_ID_INVALID", intake.source.text, intake.skillId⟩]) ++
    sourceFindings intake.source ++
    (provenanceFields.filter fun field => (intake.provenance.lookup field).isNone).map (fun field =>
      ⟨"VENDOR_PROVENANCE_INCOMPLETE", intake.skillId, field⟩) ++
    digestFindings tools intake ++
    if intake.targetExists then
      [⟨"VENDOR_QUARANTINE_TARGET_EXISTS", intake.target, "refusing overwrite"⟩]
    else []

structure IntakePlan where
  status : String
  source : String
  target : String
  lifecycle : String := "QUARANTINED"
  networkUsed : Bool := false
  autoActivate : Bool := false
  findings : List Finding
  applied : Bool := false
  deriving DecidableEq

/-- `vendor_intake_plan`. -/
def vendorIntakePlan (tools : IntakeTools) (intake : Intake) : IntakePlan where
  status := if intakeFindings tools intake = [] then "PASS" else "FAIL"
  source := intake.source.text
  target := intake.target
  findings := intakeFindings tools intake

def provenancePath : Path :=
  ["PROVENANCE.json"]

/-- The files that are written: every file of the source, and the provenance over them. -/
def writtenFiles (tools : IntakeTools) (intake : Intake) : List (Path × List UInt8) :=
  intake.source.tree.files.filter (fun file => file.1 ≠ provenancePath) ++
    [(provenancePath, tools.dumps intake.provenance)]

/-- `apply_vendor_intake`: the plan, and the files of the target once it is written.  `copytree`
copies every file and raises on what is neither file nor directory. -/
def applyVendorIntake (tools : IntakeTools) (intake : Intake) :
    Except String (IntakePlan × Option (List (Path × List UInt8))) :=
  let plan := vendorIntakePlan tools intake
  let tree := intake.source.tree
  if plan.status ≠ "PASS" then .ok (plan, none)
  else if ∃ entry ∈ tree.entries, entry.2 = .special then .error "Error"
  else if (provenancePath, Entry.directory) ∈ tree.entries then .error "IsADirectoryError"
  else .ok ({ plan with applied := true }, some (writtenFiles tools intake))

/-! ## What the digest covers -/

/-- The target holds the covered files with their bytes, and one file beside them. -/
def CopiesCovered (tools : IntakeTools) (intake : Intake) : Prop :=
  ∃ plan files, applyVendorIntake tools intake = .ok (plan, some files) ∧
    (∀ file, file ∈ files ↔ file ∈ intake.source.tree.skillFiles ∨
      file = (provenancePath, tools.dumps intake.provenance)) ∧
    ∀ file ∈ intake.source.tree.skillFiles, file.1 ≠ provenancePath

/-- Both copies are covered by their digests, and one digest stands for one copy. -/
structure Pinned (tools : IntakeTools) (intake other : Intake) : Prop where
  own : CopiesCovered tools intake
  others : CopiesCovered tools other
  pinned : NoCollision tools.sha256
      (hashedTexts tools.sha256 intake.source.tree other.source.tree) →
    packageDigest tools.sha256 intake.source.tree = packageDigest tools.sha256 other.source.tree →
      ∀ file, file ∈ intake.source.tree.files ↔ file ∈ other.source.tree.files

/-- No file is ignored, nothing is special and nothing has the name of the provenance file. -/
structure Clean (tree : Tree) : Prop where
  covered : ∀ file ∈ tree.files, isIgnored file.1 = false
  plain : ∀ entry ∈ tree.entries, entry.2 ≠ .special
  unnamed : ∀ entry ∈ tree.entries, entry.1 ≠ provenancePath

variable {tools : IntakeTools} {intake other : Intake}

theorem passes_iff :
    (vendorIntakePlan tools intake).status = "PASS" ↔ intakeFindings tools intake = [] := by
  simp only [vendorIntakePlan]
  split_ifs with clean
  · simp [clean]
  · simp [clean]

theorem ne_symlink_of_pass (passes : (vendorIntakePlan tools intake).status = "PASS")
    {entry : Path × Entry} (inside : entry ∈ intake.source.tree.entries) : entry.2 ≠ .symlink := by
  have clean := passes_iff.mp passes
  simp only [intakeFindings, List.append_eq_nil_iff] at clean
  have source := clean.1.1.1.2
  unfold sourceFindings at source
  split_ifs at source
  intro link
  have missing := List.filterMap_eq_nil_iff.mp source entry inside
  rw [if_pos link] at missing
  cases missing

theorem isIgnored_provenancePath : isIgnored provenancePath = false := by
  decide +kernel

theorem Clean.mem_skillFiles_iff {tree : Tree} (clean : Clean tree)
    {file : Path × List UInt8} : file ∈ tree.skillFiles ↔ file ∈ tree.files := by
  rw [Tree.mem_skillFiles_iff]
  constructor
  · exact And.left
  · intro inside
    exact ⟨inside, clean.covered file inside⟩

theorem Clean.ne_of_mem {tree : Tree} (clean : Clean tree) {file : Path × List UInt8}
    (inside : file ∈ tree.files) : file.1 ≠ provenancePath :=
  clean.unnamed _ (Tree.mem_files_iff.mp inside)

theorem copiesCovered_of_clean (passes : (vendorIntakePlan tools intake).status = "PASS")
    (clean : Clean intake.source.tree) : CopiesCovered tools intake := by
  have noSpecial : ¬∃ entry ∈ intake.source.tree.entries, entry.2 = .special := by
    rintro ⟨entry, inside, special⟩
    exact clean.plain entry inside special
  have noDirectory : (provenancePath, Entry.directory) ∉ intake.source.tree.entries :=
    fun inside => clean.unnamed _ inside rfl
  refine ⟨{ vendorIntakePlan tools intake with applied := true }, writtenFiles tools intake,
    ?_, ?_, ?_⟩
  · rw [applyVendorIntake, if_neg (not_not.mpr passes), if_neg noSpecial, if_neg noDirectory]
  · intro file
    rw [writtenFiles, List.mem_append, List.mem_filter, List.mem_singleton,
      clean.mem_skillFiles_iff]
    constructor
    · rintro (copied | written)
      · exact Or.inl copied.1
      · exact Or.inr written
    · rintro (covered | written)
      · exact Or.inl ⟨covered, decide_eq_true (clean.ne_of_mem covered)⟩
      · exact Or.inr written
  · intro file covered
    exact clean.ne_of_mem (clean.mem_skillFiles_iff.mp covered)

theorem clean_of_copiesCovered (passes : (vendorIntakePlan tools intake).status = "PASS")
    (covered : CopiesCovered tools intake) : Clean intake.source.tree := by
  rcases covered with ⟨plan, files, applied, exactly, fresh⟩
  unfold applyVendorIntake at applied
  rw [if_neg (not_not.mpr passes)] at applied
  split_ifs at applied with special directory
  cases applied
  have unnamed : ∀ entry ∈ intake.source.tree.entries, entry.1 ≠ provenancePath := by
    rintro ⟨path, entry⟩ inside rfl
    cases entry with
    | file content =>
        have listed : (provenancePath, content) ∈ intake.source.tree.skillFiles :=
          Tree.mem_skillFiles_iff.mpr ⟨Tree.mem_files_iff.mpr inside, isIgnored_provenancePath⟩
        exact fresh _ listed rfl
    | directory => exact directory inside
    | symlink => exact ne_symlink_of_pass passes inside rfl
    | special => exact special ⟨_, inside, rfl⟩
  refine ⟨?_, fun entry inside found => special ⟨entry, inside, found⟩, unnamed⟩
  intro file inside
  have other := unnamed _ (Tree.mem_files_iff.mp inside)
  have copied := (exactly file).mp
    (List.mem_append_left _ (List.mem_filter.mpr ⟨inside, decide_eq_true other⟩))
  rcases copied with listed | written
  · exact (Tree.mem_skillFiles_iff.mp listed).2
  · exact absurd (congrArg Prod.fst written) other

section Cached

/-- A skill with a cache beside it. -/
def cachedTree : Tree where
  entries := [(["SKILL.md"], .file [35]), (["__pycache__"], .directory),
    (["__pycache__", "run.py"], .file [112])]
  distinct := by decide
  paths := by
    intro entry inside
    rcases List.mem_cons.mp inside with rfl | inside
    · exact ⟨by decide, by decide +kernel, by decide +kernel⟩
    rcases List.mem_pair.mp inside with rfl | rfl
    · exact ⟨by decide, by decide +kernel, by decide +kernel⟩
    · exact ⟨by decide, by decide +kernel, by decide +kernel⟩

def zeroDigest : List UInt8 :=
  List.replicate 32 0

def zeroTools : IntakeTools where
  sha256 := ⟨fun _ => zeroDigest, fun _ => rfl⟩
  rt := ⟨fun _ => "", fun _ => none, fun _ => none, fun _ => ""⟩
  dumps _ := [123, 125]

def cachedIntake : Intake where
  source := ⟨"vendor/skill", true, false, cachedTree⟩
  skillId := "skill"
  provenance := [("attribution", .null), ("imported_at", .null), ("license", .null),
    ("local_modifications", .null), ("source_digest", .str (hexText zeroDigest)),
    ("source_ref", .null), ("source_url", .null)]
  target := "quarantine/skill"
  targetExists := false

theorem cachedIntake_passes : (vendorIntakePlan zeroTools cachedIntake).status = "PASS" := by
  have digest : digestFindings zeroTools cachedIntake = [] := by
    have valid : Text.isSha256 (hexText zeroDigest) = true := by decide +kernel
    simp [digestFindings, cachedIntake, zeroTools, Runtime.text, valid, packageDigest]
  have id : isSkillId cachedIntake.skillId = true := by decide +kernel
  have source : sourceFindings cachedIntake.source = [] := by decide +kernel
  have fields : (provenanceFields.filter fun field =>
      (cachedIntake.provenance.lookup field).isNone) = [] := by decide +kernel
  apply passes_iff.mpr
  rw [intakeFindings, if_pos id, source, fields, digest]
  rfl

end Cached

end Adwf.Skills
