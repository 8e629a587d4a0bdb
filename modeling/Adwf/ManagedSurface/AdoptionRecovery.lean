import Adwf.ManagedSurface.Agreement

/-!
# Undoing an adoption

An interrupted adoption is undone in two places: `recover_adoption` works on the
journal it loads, the handler of `apply_adoption` on the journal in memory, under
the lock it already holds. Each has its own text; the two come to the same.
-/

namespace Adwf.ManagedSurface

open Files Adwf.Program

/-! ## The journal -/

inductive AdoptionState where
  | pending
  | staging
  | created
  | verified
  | preserved
  | rolledBack
  | recoveryBlocked
  deriving DecidableEq, Repr

structure AdoptionEntry where
  path : Path
  sourceSha : String
  plannedAction : AdoptionAction
  preservedSha : Option String
  state : AdoptionState
  stagingPath : Option Path
  deriving DecidableEq, Repr

structure AdoptionJournal where
  transactionId : String
  status : TransactionStatus
  consumerRootSha : String
  entries : List AdoptionEntry
  createdDirs : List Path
  lastError : Option String
  deriving DecidableEq, Repr

/-- Whether what was preserved names a digest. -/
def AdoptionEntry.preservedDigest (entry : AdoptionEntry) : Option String :=
  entry.preservedSha.filter isSha256

def AdoptionEntry.kept (entry : AdoptionEntry) : AdoptionEntry :=
  { entry with state := .preserved, stagingPath := none }

def AdoptionEntry.undone (entry : AdoptionEntry) : AdoptionEntry :=
  { entry with stagingPath := none, state := .rolledBack }

variable {digests : Digests}

/-- The finding about a created directory; an empty one goes. -/
def removeCreatedDir (directory : Path) : SurfaceProgram digests (List String) := do
  let linked ← isSymlink (.target directory)
  if linked = true then return ["RECOVERY_CREATED_DIR_SYMLINK:" ++ directory.text]
  else do
    let present ← isPresent (.target directory)
    if present = false then return []
    else do
      let isDir ← isDirectory (.target directory)
      if isDir = false then return ["RECOVERY_CREATED_DIR_TYPE_DRIFT:" ++ directory.text]
      else
        exceptOs (do
          let _ ← ask (.file (.rmdir (.target directory)))
          return []) fun _ => return []

def removeCreatedDirsFrom : List Path → SurfaceProgram digests (List String)
  | [] => return []
  | directory :: rest => do
      let found ← removeCreatedDir directory
      let later ← removeCreatedDirsFrom rest
      return found ++ later

/-- `_remove_created_dirs`. -/
def removeCreatedDirs (journal : AdoptionJournal) : SurfaceProgram digests (List String) :=
  removeCreatedDirsFrom (deepestFirst journal.createdDirs)

/-- The target and the staging file are one file. -/
def provenanceLink (stage : Option Place) (target : Place) : SurfaceProgram digests Bool :=
  match stage with
  | none => return false
  | some stage => do
      let staged ← isPresent stage
      if staged = false then return false
      else do
        let stageLinked ← isSymlink stage
        if stageLinked = true then return false
        else do
          let there ← isPresent target
          if there = false then return false
          else do
            let targetLinked ← isSymlink target
            if targetLinked = true then return false
            else exceptOs (ask (.file (.sameFile stage target))) fun _ => .done false

/-- No staging file is there. -/
def isStageLost (stage : Option Place) : SurfaceProgram digests Bool :=
  match stage with
  | none => return true
  | some stage => do
      let staged ← isPresent stage
      return !staged

/-- The staging file is another one than the source's. -/
def stageDrifts (stage : Place) (expected : String) : SurfaceProgram digests Bool := do
  let linked ← isSymlink stage
  if linked = true then return true
  else do
    let regular ← isFile stage
    if regular = false then return true
    else do
      let found ← digest stage
      return decide (found ≠ expected)

/-- A file goes, and its directory is synced; the finding when the system refuses. -/
def removeFile (place : Place) (finding : String) : SurfaceProgram digests (List String) :=
  exceptOs (do
    let _ ← unlink place
    let _ ← fsyncDirectory place
    return []) fun name => return [finding ++ name]

/-! ## `recover_adoption` -/

/-- The body of the loop of `recover_adoption`. -/
def recoverAdoptionEntry (entry : AdoptionEntry) :
    SurfaceProgram digests (AdoptionEntry × List String) :=
  if entry.plannedAction ≠ .createPlanned then do
    let blockers ←
      if entry.plannedAction = .preserveShared then
        match entry.preservedDigest with
        | none => pure ["RECOVERY_PRESERVED_SHARED_EXPECTATION_INVALID:" ++ entry.path.text]
        | some expected => do
            let state ← targetState (.target entry.path) expected
            if state.1 ≠ .exact then
              pure ["RECOVERY_PRESERVED_SHARED_DRIFT:" ++ entry.path.text]
            else pure []
      else pure []
    return (if blockers = [] then entry.kept else entry, blockers)
  else do
    let rel := entry.path.text
    let target := Place.target entry.path
    let stage := entry.stagingPath.map Place.target
    let linked ← provenanceLink stage target
    let ofTarget ←
      if (entry.state = .created ∨ entry.state = .verified) ∨ linked = true then do
        let state ← targetState target entry.sourceSha
        if state.1 = .exact then removeFile target ("RECOVERY_REMOVE_FAILED:" ++ rel ++ ":")
        else if state.1 ≠ .absent then pure ["RECOVERY_TARGET_DRIFT:" ++ rel]
        else pure []
      else if entry.state = .staging then do
        let state ← targetState target entry.sourceSha
        -- a foreign target is not touched; only an exact one without its stage is in doubt
        if state.1 = .exact ∧ linked = false then do
          let lost ← isStageLost stage
          if lost = true then pure ["RECOVERY_UNPROVEN_EXACT_TARGET:" ++ rel]
          else pure []
        else pure []
      else pure []
    let ofStage ←
      match stage with
      | none => pure []
      | some stage => do
          let staged ← isPresent stage
          if staged = false then pure []
          else do
            let drifts ← stageDrifts stage entry.sourceSha
            if drifts = true then pure ["RECOVERY_STAGING_DRIFT:" ++ rel]
            else removeFile stage ("RECOVERY_STAGING_REMOVE_FAILED:" ++ rel ++ ":")
    let blockers := ofTarget ++ ofStage
    return (if blockers = [] then entry.undone else entry, blockers)

/-- The loop of `recover_adoption`: the last entry first. -/
def recoverAdoptionEntries :
    List AdoptionEntry → SurfaceProgram digests (List AdoptionEntry × List String)
  | [] => return ([], [])
  | entry :: rest => do
      let later ← recoverAdoptionEntries rest
      let recovered ← recoverAdoptionEntry entry
      return (recovered.1 :: later.1, later.2 ++ recovered.2)

/-- The calls of a recovery: those below the consumer root, and those about the journal. -/
inductive AdoptionCall (digests : Digests) where
  | surface (call : Call digests)
  | lock (transaction : String)
  | load (transaction : String)
  | save (journal : AdoptionJournal)
  | verifyCommitted (journal : AdoptionJournal)

def AdoptionValue : AdoptionCall digests → Type
  | .surface call => Value call
  | .load _ => Option AdoptionJournal
  | .lock _ | .save _ | .verifyCommitted _ => Unit

abbrev AdoptionAnswer (call : AdoptionCall digests) : Type :=
  Except SurfaceError (AdoptionValue call)

abbrev AdoptionProgram (digests : Digests) (α : Type) :=
  Program (AdoptionCall digests) AdoptionAnswer SurfaceError α

/-- A program below the consumer root as part of a recovery. -/
def onSurface {α : Type} : SurfaceProgram digests α → AdoptionProgram digests α
  | .done value => .done value
  | .fail error => .fail error
  | .ask call next => .ask (.surface call) fun answer => onSurface (next answer)

/-- What a recovery returns. -/
structure AdoptionRecovery where
  status : TransactionStatus
  journal : AdoptionJournal
  blockers : List String

/-- The journal that `recover_adoption` saves. -/
def recoveredJournal (journal : AdoptionJournal) (entries : List AdoptionEntry)
    (blockers : List String) : AdoptionJournal :=
  if blockers ≠ [] then
    { journal with
      entries
      status := .recoveryBlocked
      lastError := some (";".intercalate blockers) }
  else
    { journal with
      entries
      status := .rolledBack
      lastError := none
      createdDirs := [] }

/-- `recover_adoption`, once the journal is loaded. -/
def recoverLoaded (journal : AdoptionJournal) : AdoptionProgram digests AdoptionRecovery := do
  Program.check (journal.consumerRootSha = digests.root)
    (.surface "TRANSACTION_CONSUMER_ROOT_MISMATCH")
  if journal.status = .committed then do
    let _ ← Program.invoke (AdoptionCall.verifyCommitted journal)
    return ⟨.committed, journal, []⟩
  else do
    let recovered ← onSurface (recoverAdoptionEntries journal.entries)
    let ofDirs ← onSurface (removeCreatedDirs journal)
    let blockers := recovered.2 ++ ofDirs
    let journal := recoveredJournal journal recovered.1 blockers
    let _ ← Program.invoke (AdoptionCall.save journal)
    return ⟨journal.status, journal, blockers⟩

/-- `recover_adoption`. -/
def recoverAdoption (transaction : String) : AdoptionProgram digests AdoptionRecovery := do
  let _ ← Program.invoke (AdoptionCall.lock transaction)
  let loaded : Option AdoptionJournal ← Program.invoke (AdoptionCall.load transaction)
  match loaded with
  | none => .fail (.surface "TRANSACTION_NOT_FOUND")
  | some journal => recoverLoaded journal

/-! ## The handler of `apply_adoption` -/

/-- The body of the loop in the handler. -/
def rollbackEntry (entry : AdoptionEntry) :
    SurfaceProgram digests (AdoptionEntry × List String) :=
  if entry.plannedAction ≠ .createPlanned then do
    let blockers ←
      if entry.plannedAction = .preserveShared then
        match entry.preservedDigest with
        | none => pure ["RECOVERY_PRESERVED_SHARED_EXPECTATION_INVALID:" ++ entry.path.text]
        | some preserved => do
            let state ← targetState (.target entry.path) preserved
            if state.1 ≠ .exact then
              pure ["RECOVERY_PRESERVED_SHARED_DRIFT:" ++ entry.path.text]
            else pure []
      else pure []
    return (if blockers = [] then entry.kept else entry, blockers)
  else do
    let rel := entry.path.text
    let target := Place.target entry.path
    let stage := entry.stagingPath.map Place.target
    let linked ← provenanceLink stage target
    let shouldOwnTarget := (entry.state = .created ∨ entry.state = .verified) ∨ linked = true
    let ofTarget ←
      if shouldOwnTarget then do
        let state ← targetState target entry.sourceSha
        if state.1 = .exact then removeFile target ("RECOVERY_REMOVE_FAILED:" ++ rel ++ ":")
        else if state.1 ≠ .absent then pure ["RECOVERY_TARGET_DRIFT:" ++ rel]
        else pure []
      else if entry.state = .staging then do
        let state ← targetState target entry.sourceSha
        if state.1 = .exact ∧ linked = false then do
          let lost ← isStageLost stage
          if lost = true then pure ["RECOVERY_UNPROVEN_EXACT_TARGET:" ++ rel]
          else pure []
        else pure []
      else pure []
    let ofStage ←
      match stage with
      | none => pure []
      | some stage => do
          let staged ← isPresent stage
          if staged = false then pure []
          else do
            let drifts ← stageDrifts stage entry.sourceSha
            if drifts = true then pure ["RECOVERY_STAGING_DRIFT:" ++ rel]
            else removeFile stage ("RECOVERY_STAGING_REMOVE_FAILED:" ++ rel ++ ":")
    let blockers := ofTarget ++ ofStage
    return (if blockers = [] then entry.undone else entry, blockers)

/-- The loop in the handler: the last entry first. -/
def rollbackEntries :
    List AdoptionEntry → SurfaceProgram digests (List AdoptionEntry × List String)
  | [] => return ([], [])
  | entry :: rest => do
      let later ← rollbackEntries rest
      let undone ← rollbackEntry entry
      return (undone.1 :: later.1, later.2 ++ undone.2)

/-- `f"{type(exc).__name__}:{exc}"`. -/
def SurfaceError.described (error : SurfaceError) : String :=
  error.typeName ++ ":" ++ error.text

/-- The journal that the handler saves last. -/
def rolledBackJournal (error : SurfaceError) (journal : AdoptionJournal)
    (entries : List AdoptionEntry) (blockers : List String) : AdoptionJournal :=
  { journal with
    entries
    status := if blockers ≠ [] then .recoveryBlocked else .rolledBack
    lastError :=
      if blockers = [] then some error.described
      else some (error.described ++ ";" ++ ";".intercalate blockers)
    createdDirs := if blockers = [] then [] else journal.createdDirs }

/-- The handler, once the error is noted in the journal. -/
def rollbackNoted (error : SurfaceError) (journal : AdoptionJournal) :
    AdoptionProgram digests AdoptionRecovery := do
  let undone ← onSurface (rollbackEntries journal.entries)
  let ofDirs ← onSurface (removeCreatedDirs journal)
  let blockers := undone.2 ++ ofDirs
  let journal := rolledBackJournal error journal undone.1 blockers
  let _ ← Program.invoke (AdoptionCall.save journal)
  return ⟨journal.status, journal, blockers⟩

/-- The journal with the error that the handler caught. -/
def AdoptionJournal.noted (journal : AdoptionJournal) (error : SurfaceError) : AdoptionJournal :=
  { journal with status := .recoveryRequired, lastError := some error.described }

/-- The handler of `apply_adoption`, with the journal in memory. -/
def rollbackAdoption (error : SurfaceError) (journal : AdoptionJournal) :
    AdoptionProgram digests AdoptionRecovery := do
  let _ ← Program.invoke (AdoptionCall.save (journal.noted error))
  rollbackNoted error (journal.noted error)

/-! ## Agreement -/

theorem rollbackEntry_eq : @rollbackEntry digests = recoverAdoptionEntry := by
  funext entry
  rfl

theorem rollbackEntries_eq (entries : List AdoptionEntry) :
    (rollbackEntries entries : SurfaceProgram digests _) = recoverAdoptionEntries entries := by
  induction entries with
  | nil => rfl
  | cons entry rest ih =>
      rw [rollbackEntries, recoverAdoptionEntries, ih, rollbackEntry_eq]

/-- What is on disk: the consumer tree with its surroundings, and the journal. -/
structure AdoptionStore (World : Type) where
  world : World
  journal : Option AdoptionJournal

section Run

variable {World : Type} (serve : World → (call : Call digests) → World × Answer call)

/-- The calls of a recovery that runs alone; `serve` answers those below the root. -/
def AdoptionStore.provide (store : AdoptionStore World) :
    (call : AdoptionCall digests) → AdoptionStore World × AdoptionAnswer call
  | .surface call =>
      ({ store with world := (serve store.world call).1 }, (serve store.world call).2)
  | .lock _ | .verifyCommitted _ => (store, .ok ())
  | .load _ => (store, .ok store.journal)
  | .save journal => ({ store with journal := some journal }, .ok ())

variable {serve}

/-- A program below the root leaves the journal alone. -/
theorem execute_onSurface {α : Type} (program : SurfaceProgram digests α)
    (store : AdoptionStore World) :
    (onSurface program).execute (AdoptionStore.provide serve) store =
      ({ store with world := (program.execute serve store.world).1 },
        onSurface (program.execute serve store.world).2) := by
  induction program generalizing store with
  | done value => rfl
  | fail error => rfl
  | ask call next ih =>
      exact ih (serve store.world call).2 _

/-- A journal without its last error. -/
def AdoptionJournal.outcome (journal : AdoptionJournal) : AdoptionJournal :=
  { journal with lastError := none }

/-- Two recoveries end alike: with one error, or with one status, the same blockers and
journals that differ in the last error alone, each saved. -/
inductive EndAlike : Option AdoptionJournal → AdoptionProgram digests AdoptionRecovery →
    Option AdoptionJournal → AdoptionProgram digests AdoptionRecovery → Prop
  | failed (saved otherSaved : Option AdoptionJournal) (error : SurfaceError) :
      EndAlike saved (.fail error) otherSaved (.fail error)
  | ended (recovered undone : AdoptionRecovery) (status : recovered.status = undone.status)
      (blockers : recovered.blockers = undone.blockers)
      (journal : recovered.journal.outcome = undone.journal.outcome) :
      EndAlike (some recovered.journal) (.done recovered) (some undone.journal) (.done undone)

/-- One world, and ends that are alike. -/
structure Alike (left right : AdoptionStore World × AdoptionProgram digests AdoptionRecovery) :
    Prop where
  world : left.1.world = right.1.world
  ends : EndAlike left.1.journal left.2 right.1.journal right.2

theorem alike_bind {α : Type} {program : SurfaceProgram digests α}
    {next other : α → AdoptionProgram digests AdoptionRecovery}
    {world : World} {journal stored : Option AdoptionJournal} (later : ∀ value after,
      Alike ((next value).execute (AdoptionStore.provide serve) ⟨after, journal⟩)
        ((other value).execute (AdoptionStore.provide serve) ⟨after, stored⟩)) :
    Alike ((onSurface program >>= next).execute (AdoptionStore.provide serve) ⟨world, journal⟩)
      ((onSurface program >>= other).execute (AdoptionStore.provide serve) ⟨world, stored⟩) := by
  have executed := @execute_onSurface digests World serve _ program ⟨world, journal⟩
  have otherExecuted := @execute_onSurface digests World serve _ program ⟨world, stored⟩
  rcases @Program.execute_ends _ _ _ _ _ serve program world with
    ⟨after, value, ends⟩ | ⟨after, error, ends⟩
  · simp only [ends, onSurface] at executed otherExecuted
    rw [Program.execute_bind_of_done executed, Program.execute_bind_of_done otherExecuted]
    exact later value after
  · simp only [ends, onSurface] at executed otherExecuted
    rw [Program.execute_bind_of_fail executed, Program.execute_bind_of_fail otherExecuted]
    exact ⟨rfl, .failed _ _ error⟩

theorem recoveredJournal_outcome (journal : AdoptionJournal) (error : SurfaceError)
    (entries : List AdoptionEntry) (blockers : List String) :
    (recoveredJournal journal entries blockers).outcome =
      (rolledBackJournal error (journal.noted error) entries blockers).outcome := by
  by_cases clean : blockers = [] <;>
    simp [recoveredJournal, rolledBackJournal, AdoptionJournal.outcome, AdoptionJournal.noted,
      clean]

/-- `recover_adoption` and the handler of `apply_adoption` undo a journal alike. -/
theorem rollback_agrees (serve : World → (call : Call digests) → World × Answer call)
    (world : World) (journal : AdoptionJournal) (stored : Option AdoptionJournal)
    (error : SurfaceError) (transaction : String) (uncommitted : journal.status ≠ .committed)
    (rooted : journal.consumerRootSha = digests.root) :
    Alike ((recoverAdoption transaction).execute (AdoptionStore.provide serve)
        ⟨world, some journal⟩)
      ((rollbackAdoption error journal).execute (AdoptionStore.provide serve) ⟨world, stored⟩) := by
  have loaded : (recoverAdoption transaction).execute (AdoptionStore.provide serve)
      ⟨world, some journal⟩ =
        (recoverLoaded journal).execute (AdoptionStore.provide serve) ⟨world, some journal⟩ := rfl
  have noted : (rollbackAdoption error journal).execute (AdoptionStore.provide serve)
      ⟨world, stored⟩ = (rollbackNoted error (journal.noted error)).execute
        (AdoptionStore.provide serve) ⟨world, some (journal.noted error)⟩ := rfl
  rw [loaded, noted, recoverLoaded, rollbackNoted, Program.check, if_pos rooted,
    Program.done_bind, if_neg uncommitted, rollbackEntries_eq]
  refine alike_bind fun recovered middle => alike_bind fun ofDirs after => ?_
  let blockers := recovered.2 ++ ofDirs
  have same := recoveredJournal_outcome journal error recovered.1 blockers
  have ended := @EndAlike.ended digests ⟨_, recoveredJournal journal recovered.1 blockers, blockers⟩
    ⟨_, rolledBackJournal error (journal.noted error) recovered.1 blockers, blockers⟩
    (congrArg AdoptionJournal.status same) rfl same
  exact ⟨rfl, ended⟩

end Run

/-- A consumer where an adoption has created its only file. -/
def halfAdopted : Consumer where
  tree := ⟨[(.target ["adwf.py"], .file 0 "framework")]⟩
  adoptions _ := none
  detaches _ := none

/-- The journal of that adoption. -/
def halfJournal : AdoptionJournal where
  transactionId := "".pushn '4' 64
  status := .applying
  consumerRootSha := "root"
  entries := [⟨["adwf.py"], "".pushn 'f' 64, .createPlanned, none, .created, none⟩]
  createdDirs := []
  lastError := none

/-- Both take the file away again. -/
theorem rollback_agrees_halfAdopted :
    let recovered := (recoverAdoption halfJournal.transactionId).execute
      (AdoptionStore.provide (@Consumer.serve markedDigests)) ⟨halfAdopted, some halfJournal⟩
    let undone := (rollbackAdoption (.surface "INJECTED_ADOPTION_FAILURE") halfJournal).execute
      (AdoptionStore.provide (@Consumer.serve markedDigests)) ⟨halfAdopted, none⟩
    undone.1.world.tree.look (.target ["adwf.py"]) = .absent ∧ Alike recovered undone :=
  ⟨by decide +kernel, rollback_agrees Consumer.serve halfAdopted halfJournal none
    (.surface "INJECTED_ADOPTION_FAILURE") halfJournal.transactionId (by decide) rfl⟩

end Adwf.ManagedSurface
