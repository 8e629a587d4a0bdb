import Adwf.ManagedSurface.Surface

/-!
# The snapshot an upgrade leaves

The entries of an upgrade plan and the snapshot entries that `apply_upgrade` makes of them
for the revision it installs.
-/

namespace Adwf.ConsumerUpgrade

open Files ManagedSurface

/-! ## Plans -/

/-- What `_path_state` and `_state` find. -/
inductive PathState where
  | symlink
  | parentNonDirectory
  | absent
  | nonFile
  | file (sha : String)
  deriving DecidableEq, Repr

inductive UpgradeAction where
  | createPlanned
  | replacePlanned
  | removePlanned
  | keepExact
  | preserveShared
  | preservePreexisting
  | preserveSharedAbsent
  | preserveConsumerCollision
  | block
  deriving DecidableEq, Repr

structure UpgradeItem where
  path : Path
  sourceOwnership : Ownership
  targetOwnership : Ownership
  sourceSha : Option String
  targetSha : Option String
  consumerState : PathState
  action : UpgradeAction
  deriving DecidableEq, Repr

/-- `PROFILE_REL`. -/
def profileRel : Path :=
  [".adwf-consumer", "profile.json"]

/-- `str(exc).split(":", 1)[0]`. -/
def errorCode (text : String) : String :=
  String.ofList (text.toList.takeWhile (· ≠ ':'))

/-- `_source_snapshot_map`. -/
def sourceSnapshotItem (snapshot : Snapshot) (rel : Path) : Option SnapshotItem :=
  snapshot.entries.find? (·.path = rel)

/-- The digest of a file the consumer had before. -/
def preservedSha (snapshot : Snapshot) (rel : Path) : Option String :=
  (sourceSnapshotItem snapshot rel).bind fun item =>
    some (item.preservedSha.getD item.installedSha)

/-- The snapshot says that the framework has installed the path. -/
def isManaged (snapshot : Snapshot) (rel : Path) : Bool :=
  ((sourceSnapshotItem snapshot rel).map SnapshotItem.managed).getD false

/-- The snapshot entry of a plan entry, if the target revision has the path. -/
def targetSnapshotItem (snapshot : Snapshot) (item : UpgradeItem) :
    Except String (Option SnapshotItem) :=
  match item.targetSha with
  | none => .ok none
  | some sha =>
      if item.action = .createPlanned ∨ isManaged snapshot item.path = true then
        .ok (some ⟨item.path, item.targetOwnership, sha, true, none⟩)
      else match preservedSha snapshot item.path with
        | some preserved => .ok (some ⟨item.path, item.targetOwnership, sha, false, some preserved⟩)
        | none => .error ("UPGRADE_TARGET_SNAPSHOT_PRESERVED_DIGEST_REQUIRED:" ++ item.path.text)

/-- The snapshot entries of a plan. -/
def targetSnapshotItems (snapshot : Snapshot) :
    List UpgradeItem → Except String (List SnapshotItem)
  | [] => .ok []
  | item :: rest => do
      let found ← targetSnapshotItem snapshot item
      let later ← targetSnapshotItems snapshot rest
      return found.toList ++ later

end Adwf.ConsumerUpgrade
