import Adwf.ManagedSurface.DetachOperations

/-!
# Runs of a detach

Applies, interruptions and recoveries of one detach interleaved with arbitrary edits of
the consumer.  No file with bytes of the consumer leaves its path and the quarantine as
long as no write of the consumer falls between a check and the rename or purge it is for.
-/

namespace Adwf.ManagedSurface

open Files Adwf.Program

universe u

variable {digests : Digests}

namespace Detach

variable {Client : Type u} [DecidableEq Client]

/-- Before the first call: no journal of the transaction, and any other. -/
def start (detach : Detach digests) (tree : FileTree Place)
    (others : String → Option DetachJournal) (operation : Client → DetachOperation) :
    System Client (Watched Client) (Call digests) Answer SurfaceError DetachOutcome where
  store :=
    { consumer :=
        { tree
          adoptions := detach.adoptions
          detaches := Function.update others detach.transaction none }
      holder := none
      lost := []
      disturbed := false }
  program client := (operation client).program detach.source detach.snapshot detach.plan

variable {detach : Detach digests} {tree : FileTree Place}
variable {others : String → Option DetachJournal} {operation : Client → DetachOperation}
variable {system : System Client (Watched Client) (Call digests) Answer SurfaceError DetachOutcome}

theorem law_of_reachable
    (reached : Reachable (detach.world Client) (detach.start tree others operation) system) :
    detach.Law system.store := by
  have law : detach.Law (detach.start tree others operation).store := by
    constructor
    · rfl
    · intro journal found
      simp [start] at found
    · exact fun _ => rfl
  have safe : AllSafe (detach.world Client) (fun _ _ _ => True) (fun _ _ _ => True)
      (detach.start tree others operation) :=
    ⟨law, fun client => (returns_program (operation client)).safe _ law trivial⟩
  exact (safe_of_reachable tolerated safe reached).1

theorem source_of_recorded {journal : DetachJournal} (recorded : detach.Recorded journal)
    {entry : DetachEntry} (mem : entry ∈ journal.entries) :
    entry.path ∈ detach.source.inventory.files ∧ journal.sourceRevision = detach.source.revision ∧
      digests.content (detach.source.files entry.path) = entry.installedSha := by
  obtain ⟨adoption, authority, known, _⟩ := recorded
  obtain ⟨⟨item, listed, samePath⟩, installed⟩ := known.installed authority mem
  obtain ⟨inInventory, sum, _⟩ := item_of_validated authority.validated listed
  refine ⟨samePath ▸ inInventory, ?_, ?_⟩
  · exact (congrArg DetachIdentity.sourceRevision known.identity).trans authority.revision.symm
  · rw [← samePath, detach.source.files_exact item.path inInventory, ← sum]
    exact installed item listed samePath

/-- In a run that nothing disturbs, no file with bytes of the consumer is taken away, and
the file of every removed entry is still at its path, in the quarantine or in the
framework revision. -/
theorem kept_of_undisturbed
    (reached : Reachable (detach.world Client) (detach.start tree others operation) system)
    (undisturbed : system.store.disturbed = false) : system.store.lost = [] ∧
      ∀ journal, system.store.consumer.detaches detach.transaction = some journal →
        journal.status ≠ .committed → ∀ entry ∈ journal.entries,
          entry.plannedAction = .removeEligible →
            Exact digests entry.installedSha (system.store.consumer.tree.node (.target entry.path)) ∨
              Exact digests entry.installedSha
                (system.store.consumer.tree.node (.quarantine detach.transaction entry.path)) ∨
              entry.path ∈ detach.source.inventory.files ∧
                journal.sourceRevision = detach.source.revision ∧
                digests.content (detach.source.files entry.path) = entry.installedSha := by
  have law := law_of_reachable reached
  constructor
  · exact law.safe undisturbed
  · intro journal found _ entry mem _
    exact .inr (.inr (source_of_recorded (law.recorded journal found) mem))

end Detach

/-! ## A consumer with one managed file -/

/-- Digests that show what they are of. -/
def plainDigests : Digests where
  content text := "sha:" ++ text
  snapshot _ := "snapshot"
  detachPlan _ := "plan"
  detach _ := "detach"
  root := "root"

def onePath : Path := ["managed"]

def oneInventory : Inventory where
  manifestSha := "manifest"
  files := [onePath]
  sums _ := "sha:body"
  shared := []
  defaultOwnership := .frameworkPrivate

def oneSource : Source plainDigests where
  revision := "revision"
  inventory := oneInventory
  files _ := "body"
  files_nodup := by decide
  files_exact := fun _ _ => rfl
  files_apart := by decide

def oneSnapshot : Snapshot where
  sourceRevision := "revision"
  sourceManifestSha := "manifest"
  entries := [⟨onePath, .frameworkPrivate, "sha:body", true, none⟩]
  transactionId := some "adoption"
  planSha := some "adoptionPlan"
  consumerRootSha := some "root"

def onePlan : DetachPlan where
  status := .ready
  sourceRevision := "revision"
  sourceManifestSha := "manifest"
  entries := [⟨onePath, .frameworkPrivate, "sha:body", none, true, .exact, some "sha:body",
    .removeEligible⟩]
  blockers := []

/-- The detach of a consumer with one managed file. -/
def oneDetach : Detach plainDigests where
  source := oneSource
  snapshot := oneSnapshot
  plan := onePlan
  adoptions transaction :=
    if transaction = "adoption" then
      some ⟨.committed, "revision", "manifest", "adoptionPlan", "root", [], some oneSnapshot⟩
    else none

def oneTree : FileTree Place :=
  ⟨[(.target onePath, .file 1 "body")]⟩

/-- An apply, a recovery, and a consumer that writes its own file. -/
def oneOperation : Nat → DetachOperation
  | 0 => .apply none
  | 1 => .recover
  | _ => .edit onePath (.replace "mine")

/-- Every call is served, as far as the lock allows. -/
def Detach.provide (detach : Detach digests) (client : Nat) (store : Watched Nat)
    (call : Call digests) : Option (Watched Nat × Answer call) :=
  if needsLock call = true → store.holder = some client then
    some (store.after detach.snapshot detach.transaction client call, (store.consumer.serve call).2)
  else none

theorem Detach.step_of_provide {detach : Detach digests} {client : Nat} {store after : Watched Nat}
    {call : Call digests} {answer : Answer call}
    (provided : detach.provide client store call = some (after, answer)) :
    (detach.world Nat).step client store call after answer := by
  unfold Detach.provide at provided
  split_ifs at provided with locked
  cases provided
  exact .served locked rfl rfl

/-- The system after a schedule of clients. -/
def Detach.scheduled (detach : Detach digests) (tree : FileTree Place)
    (operation : Nat → DetachOperation) (schedule : List Nat) :
    System Nat (Watched Nat) (Call digests) Answer SurfaceError DetachOutcome :=
  schedule.foldl (System.turn detach.provide) (detach.start tree (fun _ => none) operation)

theorem Detach.reachable_scheduled (detach : Detach digests) (tree : FileTree Place)
    (operation : Nat → DetachOperation) (schedule : List Nat) :
    Reachable (detach.world Nat) (detach.start tree (fun _ => none) operation)
      (detach.scheduled tree operation schedule) :=
  reachable_turns (fun _ _ _ _ _ provided => step_of_provide provided) _ schedule

/-- An apply that stops once the file is in the quarantine, and its recovery: the consumer
writes the file again when the recovery has found it absent. -/
def racedSchedule : List Nat :=
  List.replicate 24 0 ++ List.replicate 11 1 ++ [2] ++ List.replicate 4 1

/-- A complete apply, alone. -/
def completeSchedule : List Nat :=
  List.replicate 60 0

/-- The bytes the consumer has written are gone: the recovery moves the quarantined file
over them. -/
theorem lost_of_race :
    Reachable (oneDetach.world Nat) (oneDetach.start oneTree (fun _ => none) oneOperation)
        (oneDetach.scheduled oneTree oneOperation racedSchedule) ∧
      (oneDetach.scheduled oneTree oneOperation racedSchedule).store.lost =
        [(onePath, 2, "mine")] :=
  ⟨oneDetach.reachable_scheduled _ _ _, by decide +kernel⟩

/-- A detach that nothing disturbs commits. -/
theorem kept_of_complete :
    ((oneDetach.scheduled oneTree oneOperation completeSchedule).store.consumer.detaches
        oneDetach.transaction).map DetachJournal.status = some .committed ∧
      (oneDetach.scheduled oneTree oneOperation completeSchedule).store.lost = [] :=
  ⟨by decide +kernel,
    (Detach.kept_of_undisturbed (oneDetach.reachable_scheduled _ _ _) (by decide +kernel)).1⟩

end Adwf.ManagedSurface
