import Adwf.Program.Core
import Adwf.ManagedSurface.Records

/-!
# Calls of the managed surface

The file system below the consumer root, the durable records of transactions and the
framework checkout as a transaction sees them, and the checks and file operations that
adoption and detach share.
-/

namespace Adwf.ManagedSurface

open Files

/-- A `ManagedSurfaceError`, or an `OSError` by the name of its class. -/
inductive SurfaceError where
  | surface (text : String)
  | os (name : OsError)
  deriving DecidableEq, Repr

/-- The name of the class of an exception. -/
def SurfaceError.typeName : SurfaceError → String
  | surface _ => "ManagedSurfaceError"
  | os name => name

/-- `str(exc)`. -/
def SurfaceError.text : SurfaceError → String
  | surface text => text
  | os name => name

variable {digests : Digests}

inductive Call (digests : Digests) where
  | file (call : FileCall Place)
  | consumer (path : Path) (edit : Edit)
  | lock (transaction : String)
  | createRuntime (transaction : String)
  | adoption (transaction : String)
  | detachJournal (transaction : String)
  | saveDetachJournal (journal : DetachJournal)
  | verifySourceRevision (source : Source digests) (expected : String)
  | sourceInventory (source : Source digests)
  | sourceIsSymlink (source : Source digests) (rel : Path)
  | sourceIsFile (source : Source digests) (rel : Path)
  | sourceBytes (source : Source digests) (rel : Path)

def Value : Call digests → Type
  | .file call => call.Value
  | .consumer _ _ | .lock _ | .createRuntime _ | .saveDetachJournal _
  | .verifySourceRevision _ _ => Unit
  | .adoption _ => Option AdoptionRecord
  | .detachJournal _ => Option DetachJournal
  | .sourceInventory _ => Inventory
  | .sourceIsSymlink _ _ | .sourceIsFile _ _ => Bool
  | .sourceBytes _ _ => String

abbrev Answer (call : Call digests) : Type :=
  Except SurfaceError (Value call)

abbrev SurfaceProgram (digests : Digests) (α : Type) :=
  Program (Call digests) Answer SurfaceError α

def ask (call : Call digests) : SurfaceProgram digests (Value call) :=
  Program.invoke call

def raise {α : Type} (text : String) : SurfaceProgram digests α :=
  .fail (.surface text)

/-- `raise ManagedSurfaceError(text)` unless the condition holds. -/
def ensure (condition : Prop) [Decidable condition] (text : String) :
    SurfaceProgram digests PUnit :=
  Program.check condition (.surface text)

/-- A computation without calls that may raise a `ManagedSurfaceError`. -/
def computed {α : Type} (result : Except String α) : SurfaceProgram digests α :=
  Program.ofExcept (result.mapError SurfaceError.surface)

/-! ## Files -/

def isSymlink (place : Place) : SurfaceProgram digests Bool :=
  ask (.file (.isSymlink place))

/-- `Path.exists`. -/
def isPresent (place : Place) : SurfaceProgram digests Bool :=
  ask (.file (.isPresent place))

def isFile (place : Place) : SurfaceProgram digests Bool :=
  ask (.file (.isFile place))

def isDirectory (place : Place) : SurfaceProgram digests Bool :=
  ask (.file (.isDirectory place))

/-- `_digest`. -/
def digest (place : Place) : SurfaceProgram digests String := do
  let bytes : String ← ask (.file (.readBytes place))
  return digests.content bytes

def unlink (place : Place) : SurfaceProgram digests Unit :=
  ask (.file (.unlink place))

/-- `_fsync_directory` of the directory a place lies in. -/
def fsyncDirectory (place : Place) : SurfaceProgram digests Unit :=
  Program.handle (ask (.file (.sync place))) fun error =>
    raise ("DIRECTORY_FSYNC_FAILED:" ++ error.typeName)

/-- `except OSError` around a body that may also raise a `ManagedSurfaceError`. -/
def exceptOs {α : Type} (body : SurfaceProgram digests α)
    (handler : OsError → SurfaceProgram digests α) : SurfaceProgram digests α :=
  body.handle fun error =>
    match error with
    | .os name => handler name
    | other => .fail other

/-- `_target_state`. -/
def targetState (place : Place) (expected : String) :
    SurfaceProgram digests (TargetState × Option String) := do
  let linked ← isSymlink place
  if linked = true then return (.symlink, none)
  else do
    let present ← isPresent place
    if present = false then return (.absent, none)
    else do
      let regular ← isFile place
      if regular = false then return (.nonFile, none)
      else do
        let found ← digest place
        return (if found = expected then .exact else .collision, some found)

/-- `_prepare_stage`: the staging file with the bytes of the source. -/
def prepareStage (source : Source digests) (rel : Path) (stage : Place) (expected : String) :
    SurfaceProgram digests Unit := do
  let linked ← isSymlink stage
  ensure (linked = false) "STAGING_SYMLINK_FORBIDDEN"
  let present ← isPresent stage
  if present = true then do
    let regular ← isFile stage
    ensure (regular = true) "STAGING_COLLISION"
    let found ← digest stage
    ensure (found = expected) "STAGING_COLLISION"
    return ()
  else do
    let bytes : String ← ask (.sourceBytes source rel)
    ensure (digests.content bytes = expected) "SOURCE_FILE_DIGEST_CHANGED_DURING_APPLY"
    let inode : Nat ← ask (.file (.create stage))
    Program.handle (do
      let _ ← ask (.file (.write inode bytes))
      let _ ← ask (.file (.sync stage))
      return ()) fun error => do
        let _ ← exceptOs (unlink stage) fun _ => return ()
        .fail error

/-- `_link_stage_no_replace`. -/
def linkStageNoReplace (stage target : Place) (expected : String) :
    SurfaceProgram digests Unit := do
  let state ← targetState target expected
  match state.1 with
  | .absent =>
      exceptOs (do
        let _ ← ask (.file (.link stage target))
        fsyncDirectory target) fun name =>
          if name = "FileExistsError" then raise "TARGET_CHANGED_BEFORE_CREATE"
          else raise ("ATOMIC_NO_REPLACE_CREATE_FAILED:" ++ name)
  | .exact => do
      let same : Bool ← exceptOs (ask (.file (.sameFile stage target))) fun _ => .done false
      ensure (same = true) "TARGET_EXACT_WITHOUT_TRANSACTION_PROVENANCE"
      return ()
  | .symlink => raise "TARGET_SYMLINK_FORBIDDEN"
  | .nonFile => raise "TARGET_NON_FILE_COLLISION"
  | .collision => raise "TARGET_CONTENT_COLLISION"

/-! ## Snapshots -/

/-- `raise ManagedSurfaceError(text)` unless the condition holds, without calls. -/
def require (condition : Prop) [Decidable condition] (text : String) : Except String Unit :=
  if condition then .ok () else .error text

theorem require_eq_ok_iff {condition : Prop} [Decidable condition] {text : String} :
    require condition text = .ok () ↔ condition := by
  unfold require
  split_ifs with holds <;> simp [holds]

theorem require_bind_eq_ok_iff {condition : Prop} [Decidable condition] {text : String}
    {α : Type} {next : Unit → Except String α} {value : α} :
    (require condition text >>= next) = .ok value ↔ condition ∧ next () = .ok value := by
  unfold require
  split_ifs with holds
  · exact ⟨fun ended => ⟨holds, ended⟩, fun ended => ended.2⟩
  · constructor
    · rintro ⟨⟩
    · exact fun ended => absurd ended.1 holds

theorem forM_eq_ok {α : Type} {check : α → Except String PUnit} {items : List α}
    (passes : ∀ item ∈ items, check item = .ok ⟨⟩) : items.forM check = .ok ⟨⟩ := by
  induction items with
  | nil => rfl
  | cons item rest ih =>
      show (check item >>= fun _ => rest.forM check) = .ok ⟨⟩
      rw [passes item List.mem_cons_self]
      exact ih fun other mem => passes other (List.mem_cons_of_mem item mem)

theorem ok_of_forM_eq_ok {α : Type} {check : α → Except String PUnit} {items : List α}
    (passed : items.forM check = .ok ⟨⟩) : ∀ item ∈ items, check item = .ok ⟨⟩ := by
  induction items with
  | nil => nofun
  | cons first rest ih =>
      have both : (check first >>= fun _ => rest.forM check) = .ok ⟨⟩ := passed
      intro item mem
      cases firstPassed : check first with
      | error text =>
          rw [firstPassed] at both
          cases both
      | ok _ =>
          rw [firstPassed] at both
          rcases List.mem_cons.mp mem with rfl | later
          · exact firstPassed
          · exact ih both item later

/-- The checks `_validate_snapshot` makes of one inventory path. -/
def validateSnapshotItem (inventory : Inventory) (entries : List SnapshotItem) (rel : Path) :
    Except String Unit :=
  match entries.find? (·.path = rel) with
  | none => .error ("KeyError:" ++ rel.text)
  | some item => do
      require (item.ownership = ownershipFor rel inventory)
        ("SNAPSHOT_OWNERSHIP_MISMATCH:" ++ rel.text)
      require (item.installedSha = inventory.sums rel) ("SNAPSHOT_DIGEST_MISMATCH:" ++ rel.text)
      require (item.managed = true → item.preservedSha = none)
        ("SNAPSHOT_MANAGED_PRESERVED_DIGEST_FORBIDDEN:" ++ rel.text)

/-- `_validate_snapshot` against the inventory of a framework checkout. -/
def validateSnapshotAgainst (inventory : Inventory) (snapshot : Snapshot) :
    Except String Unit := do
  require (snapshot.entries.map SnapshotItem.path).Nodup "SNAPSHOT_PATH_DUPLICATE"
  require (snapshot.sourceManifestSha = inventory.manifestSha) "SNAPSHOT_SOURCE_MANIFEST_MISMATCH"
  require ((∀ rel ∈ snapshot.entries.map SnapshotItem.path, rel ∈ inventory.files) ∧
      ∀ rel ∈ inventory.files, rel ∈ snapshot.entries.map SnapshotItem.path)
    "SNAPSHOT_INVENTORY_SET_MISMATCH"
  inventory.files.forM (validateSnapshotItem inventory snapshot.entries)

/-- `_validate_snapshot`. -/
def validateSnapshot (source : Source digests) (snapshot : Snapshot) :
    SurfaceProgram digests Unit := do
  let inventory : Inventory ← ask (.sourceInventory source)
  computed (validateSnapshotAgainst inventory snapshot)

end Adwf.ManagedSurface
