import Adwf.ManagedSurface.Surface

/-!
# Detaching a consumer

`plan_detach`, `apply_detach` and `recover_detach`.  An apply moves every managed file
to a quarantine, verifies it there and purges it, saving its journal around each step;
what goes wrong is recovered from the quarantine or from the framework checkout.
-/

namespace Adwf.ManagedSurface

open Files

variable {digests : Digests}

/-! ## Planning -/

/-- The action `plan_detach` finds for a snapshot entry, and its blocker. -/
def detachActionOf (item : SnapshotItem) (state : TargetState) : DetachAction × List String :=
  if item.managed = false then (.preservePreexisting, [])
  else if item.ownership = .sharedGuarded then (.preserveShared, [])
  else if item.ownership ≠ .frameworkPrivate then (.preserveConsumer, [])
  else match state with
    | .absent => (.alreadyAbsent, [])
    | .exact => (.removeEligible, [])
    | .symlink => (.preserveBlock, ["DETACH_SYMLINK_FORBIDDEN:" ++ item.path.text])
    | .nonFile => (.preserveBlock, ["DETACH_NON_FILE_DRIFT:" ++ item.path.text])
    | .collision => (.preserveBlock, ["DETACH_CONTENT_DRIFT:" ++ item.path.text])

/-- The entry `plan_detach` makes of a snapshot entry, and its blocker. -/
def detachItemOf (item : SnapshotItem) (state : TargetState × Option String) :
    DetachItem × List String :=
  let action := detachActionOf item state.1
  (⟨item.path, item.ownership, item.installedSha,
    if item.managed then none else item.preservedSha, item.managed, state.1, state.2, action.1⟩,
    action.2)

/-- What `plan_detach` expects at a path. -/
def SnapshotItem.expectedSha (item : SnapshotItem) : String :=
  if item.managed then item.installedSha else item.preservedSha.getD item.installedSha

/-- The loop of `plan_detach`. -/
def planDetachItems : List SnapshotItem →
    SurfaceProgram digests (List DetachItem × List String)
  | [] => return ([], [])
  | item :: rest => do
      let state ← targetState (.target item.path) item.expectedSha
      let later ← planDetachItems rest
      return ((detachItemOf item state).1 :: later.1, (detachItemOf item state).2 ++ later.2)

/-- `_validate_plan`. -/
def validateDetachPlan (plan : DetachPlan) : Except String Unit :=
  require (plan.entries.map DetachItem.path).Nodup "PLAN_PATH_DUPLICATE"

/-- `plan_detach`. -/
def planDetach (source : Source digests) (snapshot : Snapshot) :
    SurfaceProgram digests DetachPlan := do
  validateSnapshot source snapshot
  let items ← planDetachItems snapshot.entries
  let plan : DetachPlan :=
    ⟨if items.2 = [] then .ready else .block, snapshot.sourceRevision, snapshot.sourceManifestSha,
      items.1, items.2⟩
  computed (validateDetachPlan plan)
  return plan

/-! ## The authority of a detach -/

/-- The adoption journal and the snapshot it published. -/
def loadAdoption (transaction : String) : SurfaceProgram digests AdoptionRecord := do
  let found : Option AdoptionRecord ← ask (.adoption transaction)
  match found with
  | none => raise "DETACH_ADOPTION_TRANSACTION_NOT_FOUND"
  | some adoption => return adoption

/-- The snapshot file an adoption journal names. -/
def loadPublished (adoption : AdoptionRecord) : SurfaceProgram digests Snapshot :=
  match adoption.snapshot with
  | none => raise "DETACH_ADOPTION_SNAPSHOT_MISSING"
  | some snapshot => return snapshot

/-- `_load_trusted_adoption_snapshot`. -/
def loadTrustedAdoptionSnapshot (source : Source digests) (snapshot : Snapshot) :
    SurfaceProgram digests (AdoptionRecord × Snapshot) := do
  validateSnapshot source snapshot
  match snapshot.transactionId, snapshot.planSha, snapshot.consumerRootSha with
  | some transaction, some planSha, some root => do
      ensure (root = digests.root) "DETACH_SNAPSHOT_CONSUMER_ROOT_MISMATCH"
      let _ ← ask (.verifySourceRevision source snapshot.sourceRevision)
      let adoption ← loadAdoption transaction
      ensure (adoption.status = .committed) "DETACH_ADOPTION_PROVENANCE_MISMATCH:status"
      ensure (adoption.sourceRevision = snapshot.sourceRevision)
        "DETACH_ADOPTION_PROVENANCE_MISMATCH:source_revision"
      ensure (adoption.sourceManifestSha = snapshot.sourceManifestSha)
        "DETACH_ADOPTION_PROVENANCE_MISMATCH:source_manifest_sha256"
      ensure (adoption.planSha = planSha) "DETACH_ADOPTION_PROVENANCE_MISMATCH:plan_sha256"
      ensure (adoption.consumerRootSha = root)
        "DETACH_ADOPTION_PROVENANCE_MISMATCH:consumer_root_sha256"
      let stored ← loadPublished adoption
      validateSnapshot source stored
      ensure (stored = snapshot) "DETACH_SNAPSHOT_DOES_NOT_MATCH_DURABLE_PROVENANCE"
      return (adoption, stored)
  | _, _, _ => raise "DETACH_REQUIRES_TRANSACTION_BOUND_SNAPSHOT"

/-- The actions a recovery accepts for a snapshot entry. -/
def allowedActions (item : SnapshotItem) : List DetachAction :=
  if item.managed = false then [.preservePreexisting]
  else match item.ownership with
    | .sharedGuarded => [.preserveShared]
    | .frameworkPrivate => [.removeEligible, .alreadyAbsent]
    | .consumerOwned => [.preserveConsumer]

/-- The checks recovery makes of one snapshot entry. -/
def validateEntryProvenance (transaction : String) (entries : List DetachEntry)
    (item : SnapshotItem) : Except String Unit :=
  match entries.find? (·.path = item.path) with
  | none => .error ("KeyError:" ++ item.path.text)
  | some entry => do
      require (entry.installedSha = item.installedSha ∧ entry.preservedSha = item.preservedSha ∧
          entry.ownership = item.ownership ∧ entry.managed = item.managed)
        ("DETACH_TRANSACTION_ENTRY_PROVENANCE_MISMATCH:" ++ item.path.text)
      require (entry.plannedAction ∈ allowedActions item)
        ("DETACH_TRANSACTION_ACTION_PROVENANCE_MISMATCH:" ++ item.path.text)
      require (∀ place ∈ entry.quarantinePath, place = .quarantine transaction item.path)
        ("DETACH_TRANSACTION_QUARANTINE_PATH_MISMATCH:" ++ item.path.text)

/-- What makes the transaction of a journal. -/
def DetachJournal.identity (journal : DetachJournal) : DetachIdentity :=
  ⟨journal.adoptionTransactionId, journal.sourceRevision, journal.sourceManifestSha,
    journal.snapshotSha, journal.planSha, journal.consumerRootSha⟩

/-- The checks recovery makes of a journal against its adoption and its snapshot. -/
def validateJournalProvenance (digests : Digests) (journal : DetachJournal)
    (adoption : AdoptionRecord) (snapshot : Snapshot) : Except String Unit := do
  require (snapshot.transactionId = some journal.adoptionTransactionId)
    "DETACH_ADOPTION_SNAPSHOT_TRANSACTION_MISMATCH"
  require (snapshot.planSha = some adoption.planSha) "DETACH_ADOPTION_SNAPSHOT_PLAN_MISMATCH"
  require (snapshot.consumerRootSha = some journal.consumerRootSha)
    "DETACH_ADOPTION_SNAPSHOT_ROOT_MISMATCH"
  require (digests.snapshot snapshot = journal.snapshotSha)
    "DETACH_TRANSACTION_SNAPSHOT_DIGEST_MISMATCH"
  require ((∀ rel ∈ snapshot.entries.map SnapshotItem.path,
        rel ∈ journal.entries.map DetachEntry.path) ∧
      ∀ rel ∈ journal.entries.map DetachEntry.path, rel ∈ snapshot.entries.map SnapshotItem.path)
    "DETACH_TRANSACTION_ENTRY_SET_MISMATCH"
  snapshot.entries.forM (validateEntryProvenance journal.transactionId journal.entries)
  require (journal.provenanceDirs = adoption.createdDirs)
    "DETACH_TRANSACTION_DIRECTORY_PROVENANCE_MISMATCH"
  require (∀ rel ∈ journal.removedDirs, rel ∈ adoption.createdDirs)
    "DETACH_TRANSACTION_REMOVED_DIRECTORY_AUTHORITY_INVALID"

/-- `_validate_detach_recovery_provenance`. -/
def validateDetachRecoveryProvenance (source : Source digests) (journal : DetachJournal) :
    SurfaceProgram digests Unit := do
  ensure (journal.transactionId = digests.detach journal.identity)
    "DETACH_TRANSACTION_IDENTITY_DIGEST_MISMATCH"
  let adoption ← loadAdoption journal.adoptionTransactionId
  ensure (adoption.status = .committed) "DETACH_ADOPTION_TRANSACTION_NOT_COMMITTED"
  ensure (adoption.sourceRevision = journal.sourceRevision)
    "DETACH_ADOPTION_PROVENANCE_MISMATCH:source_revision"
  ensure (adoption.sourceManifestSha = journal.sourceManifestSha)
    "DETACH_ADOPTION_PROVENANCE_MISMATCH:source_manifest_sha256"
  ensure (adoption.consumerRootSha = journal.consumerRootSha)
    "DETACH_ADOPTION_PROVENANCE_MISMATCH:consumer_root_sha256"
  let snapshot ← loadPublished adoption
  validateSnapshot source snapshot
  computed (validateJournalProvenance digests journal adoption snapshot)

/-- The checks `_validate_detach_inputs` makes of a plan entry. -/
def validateDetachItem (item : DetachItem) : Except String Unit :=
  match item.action with
  | .preserveBlock => .error ("DETACH_READY_PLAN_CONTAINS_BLOCKED_ACTION:" ++ item.path.text)
  | .removeEligible =>
      require (item.ownership = .frameworkPrivate ∧ item.managed = true ∧
          item.targetState = .exact ∧ item.targetSha = some item.installedSha)
        ("DETACH_REMOVE_AUTHORITY_INVALID:" ++ item.path.text)
  | .alreadyAbsent =>
      require (item.managed = true ∧ item.targetState = .absent)
        ("DETACH_ABSENT_AUTHORITY_INVALID:" ++ item.path.text)
  | _ => .ok ()

/-- `_validate_detach_inputs`. -/
def validateDetachInputs (source : Source digests) (snapshot : Snapshot) (plan : DetachPlan) :
    SurfaceProgram digests (Inventory × AdoptionRecord × Snapshot) := do
  computed (validateDetachPlan plan)
  ensure (plan.status = .ready ∧ plan.blockers = []) "DETACH_APPLY_REQUIRES_READY_PLAN"
  let trusted ← loadTrustedAdoptionSnapshot source snapshot
  computed (plan.entries.forM validateDetachItem)
  let inventory : Inventory ← ask (.sourceInventory source)
  return (inventory, trusted.1, trusted.2)

/-- `_assert_detach_plan_matches_current`. -/
def assertDetachPlanMatchesCurrent (source : Source digests) (snapshot : Snapshot)
    (plan : DetachPlan) : SurfaceProgram digests Unit := do
  let expected ← planDetach source snapshot
  ensure (expected = plan) "DETACH_PLAN_TARGET_STATE_CHANGED"
  return ()

/-! ## Journals -/

/-- `_detach_transaction_identity`. -/
def detachIdentity (digests : Digests) (adoptionTransaction : String) (snapshot : Snapshot)
    (plan : DetachPlan) : DetachIdentity :=
  ⟨adoptionTransaction, snapshot.sourceRevision, snapshot.sourceManifestSha,
    digests.snapshot snapshot, digests.detachPlan plan, digests.root⟩

/-- The state an entry starts in. -/
def initialState : DetachAction → DetachState
  | .alreadyAbsent => .alreadyAbsent
  | .preservePreexisting | .preserveShared | .preserveConsumer => .preserved
  | _ => .pending

/-- The journal entry of a plan entry. -/
def DetachItem.entry (item : DetachItem) : DetachEntry :=
  ⟨item.path, item.installedSha, item.preservedSha, item.ownership, item.managed, item.action,
    initialState item.action, none⟩

/-- `_new_detach_transaction`. -/
def newDetachTransaction (digests : Digests) (identity : DetachIdentity) (plan : DetachPlan)
    (adoption : AdoptionRecord) : DetachJournal where
  transactionId := digests.detach identity
  status := .planned
  adoptionTransactionId := identity.adoptionTransactionId
  sourceRevision := identity.sourceRevision
  sourceManifestSha := identity.sourceManifestSha
  snapshotSha := identity.snapshotSha
  planSha := identity.planSha
  consumerRootSha := identity.consumerRootSha
  attempts := 0
  entries := plan.entries.map DetachItem.entry
  provenanceDirs := adoption.createdDirs
  removedDirs := []
  lastError := none

/-- What `_assert_detach_journal_identity` compares of an entry. -/
def validateEntryIdentity (entries : List DetachEntry) (item : DetachItem) : Except String Unit :=
  match entries.find? (·.path = item.path) with
  | none => .error ("KeyError:" ++ item.path.text)
  | some entry =>
      require (entry.installedSha = item.installedSha ∧ entry.preservedSha = item.preservedSha ∧
          entry.ownership = item.ownership ∧ entry.managed = item.managed ∧
            entry.plannedAction = item.action)
        ("DETACH_TRANSACTION_ENTRY_IMMUTABLE_MISMATCH:" ++ item.path.text)

/-- `_assert_detach_journal_identity`. -/
def assertDetachJournalIdentity (digests : Digests) (journal : DetachJournal)
    (identity : DetachIdentity) (plan : DetachPlan) : Except String Unit := do
  require (journal.transactionId = digests.detach identity ∧ journal.identity = identity)
    "DETACH_TRANSACTION_IDENTITY_MISMATCH"
  require ((∀ rel ∈ journal.entries.map DetachEntry.path, rel ∈ plan.entries.map DetachItem.path) ∧
      ∀ rel ∈ plan.entries.map DetachItem.path, rel ∈ journal.entries.map DetachEntry.path)
    "DETACH_TRANSACTION_ENTRY_SET_MISMATCH"
  plan.entries.forM (validateEntryIdentity journal.entries)

/-- `by_path[rel]`. -/
def DetachJournal.entryAt (journal : DetachJournal) (rel : Path) : Option DetachEntry :=
  journal.entries.find? (·.path = rel)

/-- The journal with the entry of a path changed. -/
def DetachJournal.update (journal : DetachJournal) (rel : Path)
    (change : DetachEntry → DetachEntry) : DetachJournal :=
  { journal with
    entries := journal.entries.map fun entry => if entry.path = rel then change entry else entry }

def saveDetach (journal : DetachJournal) : SurfaceProgram digests Unit :=
  ask (.saveDetachJournal journal)

/-- `_assert_detach_parent_chain` below the root, outermost directory first. -/
def assertDetachParents : List Path → SurfaceProgram digests Unit
  | [] => return ()
  | directory :: rest => do
      let linked ← isSymlink (.target directory)
      ensure (linked = false) ("DETACH_PARENT_SYMLINK_FORBIDDEN:" ++ directory.text)
      let present ← isPresent (.target directory)
      ensure (present = true) ("DETACH_PARENT_MISSING:" ++ directory.text)
      let isDir ← isDirectory (.target directory)
      ensure (isDir = true) ("DETACH_PARENT_NON_DIRECTORY:" ++ directory.text)
      assertDetachParents rest

/-- `_assert_detach_parent_chain`. -/
def assertDetachParentChain (rel : Path) : SurfaceProgram digests Unit :=
  assertDetachParents rel.above.reverse

/-- `_move_to_detach_quarantine`. -/
def moveToDetachQuarantine (rel : Path) (expected : String) (quarantine : Place) :
    SurfaceProgram digests Unit := do
  assertDetachParentChain rel
  let state ← targetState (.target rel) expected
  ensure (state.1 ≠ .symlink) ("DETACH_TARGET_SYMLINK_FORBIDDEN:" ++ rel.text)
  ensure (state.1 ≠ .nonFile) ("DETACH_TARGET_NON_FILE_DRIFT:" ++ rel.text)
  ensure (state.1 ≠ .absent) ("DETACH_TARGET_CONCURRENTLY_ABSENT:" ++ rel.text)
  ensure (state = (.exact, some expected)) ("DETACH_TARGET_CONTENT_DRIFT:" ++ rel.text)
  let linked ← isSymlink quarantine
  ensure (linked = false) ("DETACH_QUARANTINE_COLLISION:" ++ rel.text)
  let present ← isPresent quarantine
  ensure (present = false) ("DETACH_QUARANTINE_COLLISION:" ++ rel.text)
  exceptOs (do
    let _ ← ask (.file (.rename (.target rel) quarantine))
    fsyncDirectory (.target rel)
    fsyncDirectory quarantine) fun name =>
      raise ("DETACH_ATOMIC_QUARANTINE_MOVE_FAILED:" ++ rel.text ++ ":" ++ name)
  let moved ← isSymlink quarantine
  ensure (moved = false) ("DETACH_QUARANTINE_OBJECT_INVALID:" ++ rel.text)
  let regular ← isFile quarantine
  ensure (regular = true) ("DETACH_QUARANTINE_OBJECT_INVALID:" ++ rel.text)
  let actual ← digest quarantine
  ensure (actual = expected) ("DETACH_QUARANTINE_CONTENT_DRIFT:" ++ rel.text)
  let after ← targetState (.target rel) expected
  ensure (after.1 = .absent) ("DETACH_POST_MOVE_TARGET_NOT_ABSENT:" ++ rel.text)
  return ()

/-- The staging file of `_restore_exact_source_no_replace` goes in any case. -/
def dropStage (stage : Place) : SurfaceProgram digests Unit := do
  let present ← isPresent stage
  if present = false then return ()
  else do
    let linked ← isSymlink stage
    if linked = true then return ()
    else exceptOs (do
      unlink stage
      fsyncDirectory stage) fun _ => return ()

/-- `_restore_exact_source_no_replace`. -/
def restoreExactSourceNoReplace (source : Source digests) (transaction : String) (rel : Path)
    (expected : String) : SurfaceProgram digests Unit := do
  assertDetachParentChain rel
  let state ← targetState (.target rel) expected
  if state.1 = .exact then return ()
  else do
    ensure (state.1 = .absent) ("DETACH_RECOVERY_TARGET_OCCUPIED:" ++ rel.text)
    let linked : Bool ← ask (.sourceIsSymlink source rel)
    ensure (linked = false) ("DETACH_RECOVERY_SOURCE_UNTRUSTED:" ++ rel.text)
    let regular : Bool ← ask (.sourceIsFile source rel)
    ensure (regular = true) ("DETACH_RECOVERY_SOURCE_UNTRUSTED:" ++ rel.text)
    let bytes : String ← ask (.sourceBytes source rel)
    ensure (digests.content bytes = expected) ("DETACH_RECOVERY_SOURCE_UNTRUSTED:" ++ rel.text)
    prepareStage source rel (.stage transaction rel) expected
    Program.ensuring (linkStageNoReplace (.stage transaction rel) (.target rel) expected)
      (dropStage (.stage transaction rel))
    let after ← targetState (.target rel) expected
    ensure (after.1 = .exact) ("DETACH_RECOVERY_SOURCE_RESTORE_FAILED:" ++ rel.text)
    return ()

/-! ## Recovery -/

/-- What the recovery of an entry leads to: the entry, its blocker, and whether it was
restored. -/
structure Recovered where
  entry : DetachEntry
  blockers : List String := []
  restored : Bool := false

def DetachEntry.blocked (entry : DetachEntry) (blocker : String) : Recovered :=
  { entry := { entry with state := .recoveryBlocked }, blockers := [blocker] }

/-- The entry is as it was before the detach. -/
def DetachEntry.restored (entry : DetachEntry) : DetachEntry :=
  { entry with state := .restored, quarantinePath := none }

/-- The quarantined bytes are at their path again. -/
def DetachEntry.movedBack (entry : DetachEntry) (found : String) : Recovered :=
  if found = entry.installedSha then { entry := entry.restored, restored := true }
  else
    { entry := { entry with state := .recoveryBlocked, quarantinePath := none }
      blockers := ["DETACH_RECOVERY_RESTORED_CONCURRENT_BYTES:" ++ entry.path.text]
      restored := true }

/-- The quarantined file goes back to its path. -/
def moveBack (entry : DetachEntry) (quarantine : Place) (found : String) :
    SurfaceProgram digests Recovered :=
  Program.handle (do
    assertDetachParentChain entry.path
    let _ ← ask (.file (.rename quarantine (.target entry.path)))
    fsyncDirectory (.target entry.path)
    fsyncDirectory quarantine
    return entry.movedBack found) fun error =>
      .done (entry.blocked ("DETACH_RECOVERY_QUARANTINE_RESTORE_FAILED:" ++ entry.path.text ++ ":" ++
        error.typeName))

/-- The target is there again, and the quarantined copy goes. -/
def dropQuarantined (entry : DetachEntry) (quarantine : Place) (found : String) :
    SurfaceProgram digests Recovered :=
  if found = entry.installedSha then
    exceptOs (do
      unlink quarantine
      fsyncDirectory quarantine
      return { entry := entry.restored }) fun name =>
        .done (entry.blocked ("DETACH_RECOVERY_QUARANTINE_CLEANUP_FAILED:" ++ entry.path.text ++
          ":" ++ name))
  else .done (entry.blocked ("DETACH_RECOVERY_FOREIGN_QUARANTINE_PRESERVED:" ++ entry.path.text))

/-- The recovery of an entry that has a quarantined object. -/
def recoverQuarantined (entry : DetachEntry) (quarantine : Place) :
    SurfaceProgram digests Recovered := do
  let regular ← isFile quarantine
  if regular = false then
    return entry.blocked ("DETACH_RECOVERY_QUARANTINE_NON_FILE:" ++ entry.path.text)
  else do
    let found ← digest quarantine
    let state ← targetState (.target entry.path) entry.installedSha
    match state.1 with
    | .absent => moveBack entry quarantine found
    | .exact => dropQuarantined entry quarantine found
    | _ => return entry.blocked ("DETACH_RECOVERY_TARGET_DRIFT:" ++ entry.path.text)

/-- The states in which a missing file is restored from the source. -/
def DetachState.isMissing : DetachState → Bool
  | .quarantinePlanned | .quarantined | .verifiedAbsent | .purged => true
  | _ => false

/-- The recovery of an entry whose quarantine is empty. -/
def recoverMissing (source : Source digests) (transaction : String) (entry : DetachEntry) :
    SurfaceProgram digests Recovered := do
  let state ← targetState (.target entry.path) entry.installedSha
  if state.1 = .exact then return { entry := entry.restored }
  else if state.1 = .absent ∧ entry.state.isMissing = true then
    Program.handle (do
      let _ ← restoreExactSourceNoReplace source transaction entry.path entry.installedSha
      return { entry := entry.restored, restored := true }) fun error =>
        match error with
        | .surface text => .done (entry.blocked text)
        | other => .fail other
  else if state.1 = .absent ∧ entry.state = .pending then
    return { entry := { entry with state := .restored } }
  else return entry.blocked ("DETACH_RECOVERY_TARGET_DRIFT:" ++ entry.path.text)

/-- The recovery of an entry that was to be removed. -/
def recoverEligible (source : Source digests) (transaction : String) (entry : DetachEntry) :
    SurfaceProgram digests Recovered :=
  match entry.quarantinePath with
  | none => recoverMissing source transaction entry
  | some quarantine => do
      let present ← isPresent quarantine
      let linked ← isSymlink quarantine
      if linked = true then
        return entry.blocked ("DETACH_RECOVERY_QUARANTINE_SYMLINK:" ++ entry.path.text)
      else if present = true then recoverQuarantined entry quarantine
      else recoverMissing source transaction entry

/-- The body of the loop of `_recover_detach_locked`. -/
def recoverEntry (source : Source digests) (transaction : String) (entry : DetachEntry) :
    SurfaceProgram digests Recovered :=
  if entry.plannedAction ≠ .removeEligible then return { entry := entry }
  else recoverEligible source transaction entry

/-- The loop of `_recover_detach_locked`: the last entry first. -/
def recoverEntries (source : Source digests) (transaction : String) :
    List DetachEntry → SurfaceProgram digests (List DetachEntry × List String × Bool)
  | [] => return ([], [], false)
  | entry :: rest => do
      let later ← recoverEntries source transaction rest
      let recovered ← recoverEntry source transaction entry
      return (recovered.entry :: later.1, later.2.1 ++ recovered.blockers,
        later.2.2 || recovered.restored)

/-- The journal after a recovery with such blockers. -/
def DetachJournal.recovered (journal : DetachJournal) (errorBefore : Option String)
    (entries : List DetachEntry) (blockers : List String) : DetachJournal :=
  { journal with
    entries := entries
    status := if blockers = [] then .rolledBack else .recoveryBlocked
    lastError :=
      if blockers = [] then errorBefore
      else some (";".intercalate (errorBefore.toList ++ blockers)) }

/-- `_recover_detach_locked`, and the status it leads to. -/
def recoverDetachLocked (source : Source digests) (journal : DetachJournal)
    (errorBefore : Option String) :
    SurfaceProgram digests (DetachJournal × List String × Bool) := do
  let recovered ← recoverEntries source journal.transactionId journal.entries
  return (journal.recovered errorBefore recovered.1 recovered.2.1, recovered.2.1, recovered.2.2)

/-- Whether a created directory may be tried: `none` when it is gone, `false` when
something else is in its place. -/
def provenanceDir (directory : Path) : SurfaceProgram digests (Option Bool) := do
  let linked ← isSymlink (.target directory)
  if linked = true then return some false
  else do
    let present ← isPresent (.target directory)
    if present = false then return none
    else do
      let isDir ← isDirectory (.target directory)
      return some isDir

/-- An empty directory goes; any other is kept. -/
def removeEmptyDir (directory : Path) : SurfaceProgram digests Bool :=
  exceptOs (do
    let _ ← ask (.file (.rmdir (.target directory)))
    fsyncDirectory (.target directory)
    return true) fun _ => return false

/-- `_cleanup_detach_provenance_dirs` on directories in the order they are tried. -/
def removeProvenanceDirs (removed : List Path) : List Path →
    SurfaceProgram digests (List Path × List Path)
  | [] => return (removed, [])
  | directory :: rest =>
      if directory ∈ removed then removeProvenanceDirs removed rest
      else do
        let found ← provenanceDir directory
        match found with
        | none => removeProvenanceDirs removed rest
        | some false => do
            let later ← removeProvenanceDirs removed rest
            return (later.1, directory :: later.2)
        | some true => do
            let gone ← removeEmptyDir directory
            if gone = true then removeProvenanceDirs (removed ++ [directory]) rest
            else do
              let later ← removeProvenanceDirs removed rest
              return (later.1, directory :: later.2)

/-- Deeper directories first. -/
def deepestFirst (directories : List Path) : List Path :=
  directories.mergeSort fun left right =>
    right.length < left.length || (left.length = right.length && right.text ≤ left.text)

/-- `_cleanup_detach_provenance_dirs`: the journal with the removed directories, and the
preserved ones. -/
def cleanupDetachProvenanceDirs (journal : DetachJournal) :
    SurfaceProgram digests (DetachJournal × List Path) := do
  let result ← removeProvenanceDirs journal.removedDirs (deepestFirst journal.provenanceDirs)
  return ({ journal with removedDirs := result.1 }, result.2)

/-- No quarantined object of an entry is left. -/
def ensureQuarantineGone (entry : DetachEntry) (remains : String) : SurfaceProgram digests Unit :=
  match entry.quarantinePath with
  | none => return ()
  | some quarantine => do
      let present ← isPresent quarantine
      ensure (present = false) remains
      return ()

/-- The removed file of an entry is not there. -/
def ensureTargetAbsent (entry : DetachEntry) (reappeared : String) :
    SurfaceProgram digests Unit := do
  let state ← targetState (.target entry.path) entry.installedSha
  ensure (state.1 = .absent) reappeared
  return ()

/-- What `_verify_detach_committed` checks of the target of an entry. -/
def verifyDetachedTarget (entry : DetachEntry) : SurfaceProgram digests Unit :=
  if entry.plannedAction = .removeEligible ∨ entry.plannedAction = .alreadyAbsent then
    ensureTargetAbsent entry ("DETACH_COMMITTED_TARGET_REAPPEARED:" ++ entry.path.text)
  else if entry.plannedAction = .preservePreexisting then do
    let state ← targetState (.target entry.path) (entry.preservedSha.getD entry.installedSha)
    ensure (state.1 = .exact) ("DETACH_COMMITTED_PREEXISTING_DRIFT:" ++ entry.path.text)
    return ()
  else return ()

/-- The checks `_verify_detach_committed` makes of an entry. -/
def verifyDetachedEntry (entry : DetachEntry) : SurfaceProgram digests Unit := do
  let _ ← verifyDetachedTarget entry
  ensureQuarantineGone entry ("DETACH_COMMITTED_QUARANTINE_REMAINS:" ++ entry.path.text)

/-- `_verify_detach_committed`. -/
def verifyDetachCommitted (journal : DetachJournal) : SurfaceProgram digests Unit := do
  ensure (journal.status = .committed) "DETACH_TRANSACTION_NOT_COMMITTED"
  journal.entries.forM verifyDetachedEntry

/-- What the operations answer. -/
inductive DetachOutcome where
  | committed (removedFiles : Nat) (removedDirs preservedDirs : List Path)
  | alreadyCommitted (removedDirs preservedDirs : List Path)
  | found (status : TransactionStatus)
  | recovered (status : TransactionStatus) (blockers : List String)
  | failed (status : TransactionStatus) (error : String) (blockers : List String)
  | edited
  deriving DecidableEq

/-- `recover_detach`. -/
def recoverDetach (source : Source digests) (transaction : String) :
    SurfaceProgram digests DetachOutcome := do
  let _ ← ask (.lock transaction)
  let found : Option DetachJournal ← ask (.detachJournal transaction)
  match found with
  | none => raise "DETACH_TRANSACTION_NOT_FOUND"
  | some journal => do
      ensure (journal.consumerRootSha = digests.root) "DETACH_TRANSACTION_CONSUMER_ROOT_MISMATCH"
      let _ ← ask (.verifySourceRevision source journal.sourceRevision)
      validateDetachRecoveryProvenance source journal
      match journal.status with
      | .committed => do
          verifyDetachCommitted journal
          return .found .committed
      | .rolledBack => return .found .rolledBack
      | _ => do
          let recovered ← recoverDetachLocked source journal none
          saveDetach recovered.1
          return .recovered recovered.1.status recovered.2.1

/-! ## Applying -/

/-- A program that has changed its journal in memory: an error shows the journal. -/
abbrev DetachAttempt (digests : Digests) (α : Type) :=
  Program (Call digests) Answer (SurfaceError × DetachJournal) α

/-- What the program raises, with the journal in memory. -/
def holding {α : Type} (journal : DetachJournal) (body : SurfaceProgram digests α) :
    DetachAttempt digests α :=
  Program.raising body fun error => (error, journal)

/-- The changed journal is saved. -/
def saving (journal : DetachJournal) : DetachAttempt digests DetachJournal :=
  holding journal do
    saveDetach journal
    return journal

/-- The state of the entry of a path. -/
def DetachJournal.stateOf (journal : DetachJournal) (rel : Path) : Option DetachState :=
  (journal.entryAt rel).map DetachEntry.state

def DetachJournal.setState (journal : DetachJournal) (rel : Path) (state : DetachState) :
    DetachJournal :=
  journal.update rel fun entry => { entry with state := state }

/-- An entry without a quarantined object. -/
def DetachJournal.settle (journal : DetachJournal) (rel : Path) (state : DetachState) :
    DetachJournal :=
  journal.update rel fun entry => { entry with state := state, quarantinePath := none }

/-- `QUARANTINE_PLANNED` to `QUARANTINED`. -/
def quarantineEntry (journal : DetachJournal) (rel : Path) (expected : String)
    (quarantine : Place) : DetachAttempt digests DetachJournal := do
  holding journal do
    let present ← isPresent quarantine
    if present = true then do
      let state ← targetState (.target rel) expected
      ensure (state.1 = .absent) ("DETACH_AMBIGUOUS_QUARANTINE_STATE:" ++ rel.text)
      return ()
    else moveToDetachQuarantine rel expected quarantine
  saving (journal.setState rel .quarantined)

/-- The quarantined object is the managed file. -/
def ensureQuarantined (expected : String) (quarantine : Place) (missing drifted : String) :
    SurfaceProgram digests Unit := do
  let linked ← isSymlink quarantine
  ensure (linked = false) missing
  let regular ← isFile quarantine
  ensure (regular = true) missing
  let found ← digest quarantine
  ensure (found = expected) drifted
  return ()

/-- `QUARANTINED` to `VERIFIED_ABSENT`. -/
def verifyQuarantined (journal : DetachJournal) (rel : Path) (expected : String)
    (quarantine : Place) : DetachAttempt digests DetachJournal := do
  holding journal do
    ensureQuarantined expected quarantine ("DETACH_QUARANTINE_MISSING_OR_INVALID:" ++ rel.text)
      ("DETACH_QUARANTINE_CONTENT_DRIFT:" ++ rel.text)
    let state ← targetState (.target rel) expected
    ensure (state.1 = .absent) ("DETACH_POST_MOVE_TARGET_NOT_ABSENT:" ++ rel.text)
    return ()
  saving (journal.setState rel .verifiedAbsent)

/-- `VERIFIED_ABSENT` to `PURGED`. -/
def purgeQuarantined (journal : DetachJournal) (rel : Path) (expected : String)
    (quarantine : Place) : DetachAttempt digests DetachJournal := do
  holding journal do
    ensureQuarantined expected quarantine
      ("DETACH_QUARANTINE_PURGE_PRECONDITION_FAILED:" ++ rel.text)
      ("DETACH_QUARANTINE_PURGE_PRECONDITION_FAILED:" ++ rel.text)
    exceptOs (do
      unlink quarantine
      fsyncDirectory quarantine) fun name =>
        raise ("DETACH_QUARANTINE_PURGE_FAILED:" ++ rel.text ++ ":" ++ name)
  saving (journal.settle rel .purged)

/-- A step of an entry is only taken in its state. -/
def whenState (rel : Path) (state : DetachState) (journal : DetachJournal)
    (step : DetachAttempt digests DetachJournal) : DetachAttempt digests DetachJournal :=
  if journal.stateOf rel = some state then step else return journal

/-- A managed file is moved aside, verified and purged; the deletes count the purges. -/
def removeEntry (faultAfter : Option Nat) (entry : DetachEntry) (rel : Path)
    (journal : DetachJournal) (deletes : Nat) :
    DetachAttempt digests (DetachJournal × Nat) := do
  let quarantine := Place.quarantine journal.transactionId rel
  let expected := entry.installedSha
  holding journal (ensure (∀ place ∈ entry.quarantinePath, place = quarantine)
    ("DETACH_QUARANTINE_IDENTITY_MISMATCH:" ++ rel.text))
  let located := journal.update rel fun entry => { entry with quarantinePath := some quarantine }
  let planned ← whenState rel .pending located (saving (located.setState rel .quarantinePlanned))
  let moved ← whenState rel .quarantinePlanned planned
    (quarantineEntry planned rel expected quarantine)
  let verified ← whenState rel .quarantined moved (verifyQuarantined moved rel expected quarantine)
  if verified.stateOf rel = some .verifiedAbsent then do
    let purged ← purgeQuarantined verified rel expected quarantine
    holding purged (ensure (∀ limit ∈ faultAfter, deletes + 1 < limit) "INJECTED_DETACH_FAILURE")
    return (purged, deletes + 1)
  else return (verified, deletes)

/-- The body of the loop of `apply_detach`. -/
def detachEntry (faultAfter : Option Nat) (rel : Path) (journal : DetachJournal) (deletes : Nat) :
    DetachAttempt digests (DetachJournal × Nat) :=
  match journal.entryAt rel with
  | none => .fail (.os "KeyError", journal)
  | some entry =>
      match entry.plannedAction with
      | .preservePreexisting | .preserveShared | .preserveConsumer => do
          let saved ← saving (journal.settle rel .preserved)
          return (saved, deletes)
      | .alreadyAbsent => do
          let state ← holding journal (targetState (.target rel) entry.installedSha)
          holding journal (ensure (state.1 = .absent)
            ("DETACH_ABSENT_TARGET_REAPPEARED:" ++ rel.text))
          let saved ← saving (journal.settle rel .alreadyAbsent)
          return (saved, deletes)
      | .removeEligible =>
          if entry.state = .purged then do
            let state ← holding journal (targetState (.target rel) entry.installedSha)
            holding journal (ensure (state.1 = .absent)
              ("DETACH_RESUME_TARGET_REAPPEARED:" ++ rel.text))
            return (journal, deletes)
          else removeEntry faultAfter entry rel journal deletes
      | .preserveBlock =>
          holding journal (raise ("DETACH_RUNTIME_ACTION_INVALID:" ++ rel.text))

/-- The loop of `apply_detach`. -/
def detachEntries (faultAfter : Option Nat) :
    List Path → DetachJournal → Nat → DetachAttempt digests (DetachJournal × Nat)
  | [], journal, deletes => return (journal, deletes)
  | rel :: rest, journal, deletes => do
      let next ← detachEntry faultAfter rel journal deletes
      detachEntries faultAfter rest next.1 next.2

/-- What `apply_detach` checks of the target of an entry before it commits. -/
def checkDetachedTarget (entry : DetachEntry) : SurfaceProgram digests Unit :=
  if entry.plannedAction = .removeEligible ∨ entry.plannedAction = .alreadyAbsent then
    ensureTargetAbsent entry ("DETACH_POSTCONDITION_FAILED:" ++ entry.path.text)
  else return ()

/-- The postconditions `apply_detach` checks of an entry before it commits. -/
def checkDetached (entry : DetachEntry) : SurfaceProgram digests Unit := do
  let _ ← checkDetachedTarget entry
  ensureQuarantineGone entry ("DETACH_POSTCONDITION_QUARANTINE_REMAINS:" ++ entry.path.text)

/-- The `try` block of `apply_detach`. -/
def detachBody (faultAfter : Option Nat) (plan : DetachPlan) (journal : DetachJournal) :
    DetachAttempt digests DetachOutcome := do
  let detached ← detachEntries faultAfter (plan.entries.map DetachItem.path) journal 0
  holding detached.1 (detached.1.entries.forM checkDetached)
  let committed : DetachJournal :=
    { detached.1 with
      entries := detached.1.entries.map fun entry => { entry with quarantinePath := none }
      status := .committed
      lastError := none }
  let _ ← saving committed
  holding committed (verifyDetachCommitted committed)
  let cleaned ← holding committed (cleanupDetachProvenanceDirs committed)
  let saved ← saving cleaned.1
  return .committed detached.2 saved.removedDirs cleaned.2

/-- The handler of `apply_detach`. -/
def detachFailed (source : Source digests) (error : SurfaceError) (journal : DetachJournal) :
    SurfaceProgram digests DetachOutcome := do
  let text := error.typeName ++ ":" ++ error.text
  let failed : DetachJournal :=
    { journal with status := .recoveryRequired, lastError := some text }
  saveDetach failed
  let recovered ← recoverDetachLocked source failed (some text)
  saveDetach recovered.1
  return .failed recovered.1.status text recovered.2.1

/-- The entries of a rolled back journal start again. -/
def DetachJournal.restart (journal : DetachJournal) : DetachJournal :=
  { journal with
    entries := journal.entries.map fun entry =>
      { entry with state := initialState entry.plannedAction, quarantinePath := none }
    removedDirs := []
    lastError := none
    status := .planned }

/-- `apply_detach` from `DETACHING` on. -/
def runDetach (source : Source digests) (faultAfter : Option Nat) (plan : DetachPlan)
    (journal : DetachJournal) : SurfaceProgram digests DetachOutcome := do
  let started : DetachJournal :=
    { journal with status := .applying, attempts := journal.attempts + 1, lastError := none }
  saveDetach started
  Program.attempt (detachBody faultAfter plan started) fun failure =>
    detachFailed source failure.1 failure.2

/-- A rolled back journal is planned again and detached. -/
def restartDetach (source : Source digests) (faultAfter : Option Nat) (snapshot : Snapshot)
    (plan : DetachPlan) (journal : DetachJournal) : SurfaceProgram digests DetachOutcome := do
  assertDetachPlanMatchesCurrent source snapshot plan
  saveDetach journal.restart
  runDetach source faultAfter plan journal.restart

/-- `apply_detach` when it finds a journal. -/
def resumeDetach (source : Source digests) (faultAfter : Option Nat) (snapshot : Snapshot)
    (plan : DetachPlan) (journal : DetachJournal) : SurfaceProgram digests DetachOutcome :=
  match journal.status with
  | .committed => do
      verifyDetachCommitted journal
      let cleaned ← cleanupDetachProvenanceDirs journal
      saveDetach cleaned.1
      return .alreadyCommitted cleaned.1.removedDirs cleaned.2
  | .recoveryBlocked => raise "DETACH_TRANSACTION_RECOVERY_BLOCKED"
  | .recoveryRequired => do
      let recovered ← recoverDetachLocked source journal none
      saveDetach recovered.1
      ensure (recovered.2.1 = []) "DETACH_TRANSACTION_RECOVERY_BLOCKED"
      restartDetach source faultAfter snapshot plan recovered.1
  | .rolledBack => restartDetach source faultAfter snapshot plan journal
  | .planned => do
      assertDetachPlanMatchesCurrent source snapshot plan
      runDetach source faultAfter plan journal
  | .applying => runDetach source faultAfter plan journal

/-- `apply_detach`. -/
def applyDetach (source : Source digests) (snapshot : Snapshot) (plan : DetachPlan)
    (faultAfter : Option Nat) : SurfaceProgram digests DetachOutcome := do
  ensure (∀ limit ∈ faultAfter, 1 ≤ limit) "DETACH_FAULT_INJECTION_VALUE_INVALID"
  let inputs ← validateDetachInputs source snapshot plan
  let identity := detachIdentity digests (inputs.2.2.transactionId.getD "") inputs.2.2 plan
  let transaction := digests.detach identity
  let _ ← ask (.createRuntime transaction)
  let _ ← ask (.lock transaction)
  let found : Option DetachJournal ← ask (.detachJournal transaction)
  match found with
  | none => do
      assertDetachPlanMatchesCurrent source inputs.2.2 plan
      let journal := newDetachTransaction digests identity plan inputs.2.1
      saveDetach journal
      runDetach source faultAfter plan journal
  | some journal => do
      validateDetachRecoveryProvenance source journal
      computed (assertDetachJournalIdentity digests journal identity plan)
      resumeDetach source faultAfter inputs.2.2 plan journal

end Adwf.ManagedSurface
