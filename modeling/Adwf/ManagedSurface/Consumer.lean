import Adwf.ManagedSurface.Detach
import Adwf.Program.Interleaving

/-!
# A consumer root

The files below a consumer root and the durable journals of its transactions, as the
calls of a transaction read and change them.  Any number of clients apply and recover
one detach while others edit files of the consumer; a call may fail, a client may stop
for good between any two calls, and the lock of a stopped client is free again.
-/

namespace Adwf.ManagedSurface

open Files Adwf.Program

universe u

variable {digests : Digests}

/-- What is on disk. -/
structure Consumer where
  tree : FileTree Place
  adoptions : String → Option AdoptionRecord
  detaches : String → Option DetachJournal

/-- What a call does when nothing is in its way and the framework checkout is clean. -/
def Consumer.serve (consumer : Consumer) : (call : Call digests) → Consumer × Answer call
  | .file call =>
      ({ consumer with tree := (consumer.tree.serve call).1 },
        (consumer.tree.serve call).2.mapError .os)
  | .consumer path edit =>
      ({ consumer with tree := consumer.tree.edit (.target path) edit }, .ok ())
  | .lock _ | .createRuntime _ => (consumer, .ok ())
  | .adoption transaction => (consumer, .ok (consumer.adoptions transaction))
  | .detachJournal transaction => (consumer, .ok (consumer.detaches transaction))
  | .saveDetachJournal journal =>
      ({ consumer with
          detaches := Function.update consumer.detaches journal.transactionId (some journal) },
        .ok ())
  | .verifySourceRevision source expected =>
      (consumer,
        if source.revision = expected then .ok () else .error (.surface "SOURCE_REVISION_MISMATCH"))
  | .sourceInventory source => (consumer, .ok source.inventory)
  | .sourceIsSymlink _ _ => (consumer, .ok false)
  | .sourceIsFile source rel => (consumer, .ok (decide (rel ∈ source.inventory.files)))
  | .sourceBytes source rel => (consumer, .ok (source.files rel))

/-! ## Watching a detach -/

/-- A consumer root while a detach goes on: who holds the lock of the transaction, which
files with bytes of the consumer a call of the transaction has taken away, and whether a
consumer's write has come between a check of the transaction and what it checked for. -/
structure Watched (Client : Type u) where
  consumer : Consumer
  holder : Option Client
  lost : List (Path × Nat × String)
  disturbed : Bool

section Watched

variable {Client : Type u}

/-- The regular files at a path and in the quarantine of the transaction. -/
def heldFiles (tree : FileTree Place) (transaction : String) (rel : Path) : List (Nat × String) :=
  [Place.target rel, .quarantine transaction rel].filterMap fun place => (tree.node place).asFile

variable (digests) in
/-- The files of other bytes than the installed ones that are neither at their path nor
in the quarantine any more. -/
def lostFiles (snapshot : Snapshot) (transaction : String) (before after : FileTree Place) :
    List (Path × Nat × String) :=
  snapshot.entries.flatMap fun item =>
    ((heldFiles before transaction item.path).filter fun file =>
      digests.content file.2 ≠ item.installedSha ∧
        file ∉ heldFiles after transaction item.path).map (item.path, ·)

/-- A quarantined file goes onto a path that is not free. -/
def overwrites (tree : FileTree Place) : Call digests → Bool
  | .file (.rename (.quarantine _ _) target) => tree.node target ≠ .absent
  | _ => false

/-- A quarantined file is another one than before. -/
def quarantineChanged (snapshot : Snapshot) (transaction : String) (before after : FileTree Place) :
    Bool :=
  snapshot.entries.any fun item =>
    before.node (.quarantine transaction item.path) ≠ after.node (.quarantine transaction item.path)

/-- Calls that only the holder of the lock makes. -/
def needsLock : Call digests → Bool
  | .file (.create _) | .file (.write _ _) | .file (.rename _ _) | .file (.link _ _)
  | .file (.unlink _) | .file (.mkdir _) | .file (.rmdir _) | .saveDetachJournal _ => true
  | _ => false

/-- Calls that look into the working tree of the framework. -/
def readsSource : Call digests → Bool
  | .sourceIsSymlink _ _ | .sourceIsFile _ _ | .sourceBytes _ _ => true
  | _ => false

def savesJournal : Call digests → Bool
  | .saveDetachJournal _ => true
  | _ => false

namespace Watched

/-- What a served call leads to, and what the watch makes of it. -/
def after (snapshot : Snapshot) (transaction : String) (client : Client) (store : Watched Client)
    (call : Call digests) : Watched Client :=
  let served := store.consumer.serve call
  let changed := served.1.tree
  match call with
  | .lock _ => { store with holder := some client }
  | .consumer _ _ =>
      { store with
        consumer := served.1
        disturbed := store.disturbed ||
          quarantineChanged snapshot transaction store.consumer.tree changed }
  | call =>
      { store with
        consumer := served.1
        lost := store.lost ++ lostFiles digests snapshot transaction store.consumer.tree changed
        disturbed := store.disturbed ||
          (overwrites store.consumer.tree call && (store.consumer.serve call).2.isOk) }

/-- A call of a client: it is served, or fails without effect, or a saved journal is
reported as not saved; what is in the working tree of the framework is not certain. -/
inductive Serves (snapshot : Snapshot) (transaction : String) (client : Client)
    (store : Watched Client) (call : Call digests) (later : Watched Client)
    (answer : Answer call) : Prop
  | served (locked : needsLock call = true → store.holder = some client)
      (effect : later = store.after snapshot transaction client call)
      (answered : answer = (store.consumer.serve call).2)
  | failed (unchanged : later = store) (error : SurfaceError) (answered : answer = .error error)
  | landed (locked : needsLock call = true → store.holder = some client)
      (saves : savesJournal call = true)
      (effect : later = store.after snapshot transaction client call)
      (error : SurfaceError) (answered : answer = .error error)
  | unsteady (reads : readsSource call = true) (unchanged : later = store)

end Watched

end Watched

/-! ## Operations -/

/-- What the clients do. -/
inductive DetachOperation where
  | apply (faultAfter : Option Nat)
  | recover
  | edit (path : Path) (change : Edit)

/-- The transaction of a snapshot and a plan. -/
def detachTransaction (digests : Digests) (snapshot : Snapshot) (plan : DetachPlan) : String :=
  digests.detach (detachIdentity digests (snapshot.transactionId.getD "") snapshot plan)

def DetachOperation.program (source : Source digests) (snapshot : Snapshot) (plan : DetachPlan) :
    DetachOperation → SurfaceProgram digests DetachOutcome
  | apply faultAfter => applyDetach source snapshot plan faultAfter
  | recover => recoverDetach source (detachTransaction digests snapshot plan)
  | edit path change => do
      let _ ← ask (.consumer path change)
      return .edited

end Adwf.ManagedSurface

/-!
## A transaction alone

What the programs of a transaction do when nobody else writes and no call is in their
way.
-/

namespace Adwf.ManagedSurface

open Files Adwf.Program

variable {digests : Digests} {α β : Type}

/-- Alone, the program ends with a value and leaves such a consumer root. -/
abbrev Runs (program : SurfaceProgram digests α) (before after : Consumer) (value : α) : Prop :=
  program.execute Consumer.serve before = (after, .done value)

/-- Alone, the program raises an error. -/
abbrev Raises (program : SurfaceProgram digests α) (before after : Consumer)
    (error : SurfaceError) : Prop :=
  program.execute Consumer.serve before = (after, .fail error)

section Rules

variable {before middle after : Consumer} {value : α} {result : β}

theorem runs_done : Runs (.done value : SurfaceProgram digests α) before before value :=
  rfl

variable {first : SurfaceProgram digests α} {next : α → SurfaceProgram digests β}

theorem runs_bind
    (firstRuns : Runs first before middle value) (nextRuns : Runs (next value) middle after result) :
    Runs (first >>= next) before after result :=
  (execute_bind_of_done firstRuns).trans nextRuns

theorem raises_bind {error : SurfaceError} (firstRuns : Runs first before middle value)
    (nextRaises : Raises (next value) middle after error) :
    Raises (first >>= next) before after error :=
  (execute_bind_of_done firstRuns).trans nextRaises

theorem raises_bind_of_raises {error : SurfaceError}
    (firstRaises : Raises first before after error) : Raises (first >>= next) before after error :=
  execute_bind_of_fail firstRaises

theorem runs_ask {call : Call digests} {value : Value call}
    (served : before.serve call = (after, .ok value)) : Runs (ask call) before after value := by
  unfold Runs ask Program.invoke
  simp only [execute, served, Program.ofExcept]

theorem runs_ensure {condition : Prop} [Decidable condition] {text : String}
    {next : PUnit → SurfaceProgram digests α} (holds : condition)
    (nextRuns : Runs (next ⟨⟩) before after value) :
    Runs (ensure condition text >>= next) before after value := by
  rw [ensure, Program.check, if_pos holds]
  exact nextRuns

theorem raises_ensure {condition : Prop} [Decidable condition] {text : String}
    {next : PUnit → SurfaceProgram digests α} (fails : ¬condition) :
    Raises (ensure condition text >>= next) before before (.surface text) := by
  rw [ensure, Program.check, if_neg fails]
  rfl

theorem runs_computed {computation : Except String α} (ok : computation = .ok value) :
    Runs (computed computation : SurfaceProgram digests α) before before value := by
  rw [ok]
  rfl

theorem runs_handle {body : SurfaceProgram digests α}
    {handler : SurfaceError → SurfaceProgram digests α} (bodyRuns : Runs body before after value) :
    Runs (body.handle handler) before after value :=
  execute_handle_eq_done_iff.mpr (.inl bodyRuns)

theorem runs_exceptOs {body : SurfaceProgram digests α}
    {handler : OsError → SurfaceProgram digests α} (bodyRuns : Runs body before after value) :
    Runs (exceptOs body handler) before after value :=
  runs_handle bodyRuns

end Rules

/-! ## Looking -/

variable {consumer : Consumer}

variable {tree : FileTree Place}

theorem runs_file {call : FileCall Place} {value : call.Value}
    (served : consumer.tree.serve call = (tree, .ok value)) :
    Runs (ask (.file call) : SurfaceProgram digests call.Value) consumer { consumer with tree }
      value := by
  apply runs_ask
  simp only [Consumer.serve, served, Except.mapError]

theorem runs_isSymlink (place : Place) :
    Runs (isSymlink place : SurfaceProgram digests Bool) consumer consumer
      (consumer.tree.look place).isSymlink :=
  runs_file rfl

theorem runs_isPresent (place : Place) :
    Runs (isPresent place : SurfaceProgram digests Bool) consumer consumer
      (consumer.tree.look place).isPresent :=
  runs_file rfl

theorem runs_isFile (place : Place) :
    Runs (isFile place : SurfaceProgram digests Bool) consumer consumer
      (consumer.tree.look place).isFile :=
  runs_file rfl

theorem runs_isDirectory (place : Place) :
    Runs (isDirectory place : SurfaceProgram digests Bool) consumer consumer
      (consumer.tree.look place).isDirectory :=
  runs_file rfl

theorem runs_fsyncDirectory (place : Place) :
    Runs (fsyncDirectory place : SurfaceProgram digests Unit) consumer consumer () :=
  runs_handle (runs_file rfl)

theorem runs_rename {source target : Place}
    (renamed : consumer.tree.rename source target = .ok tree) :
    Runs (ask (.file (.rename source target)) : SurfaceProgram digests Unit) consumer
      { consumer with tree } () :=
  runs_file (Prod.ext (by rw [FileTree.serve, FileTree.changed_of_ok renamed])
    (by rw [FileTree.serve, FileTree.changed_of_ok renamed]; rfl))

theorem runs_unlink {place : Place} (unlinked : consumer.tree.unlink place = .ok tree) :
    Runs (unlink place : SurfaceProgram digests Unit) consumer { consumer with tree } () :=
  runs_file (Prod.ext (by rw [FileTree.serve, FileTree.changed_of_ok unlinked])
    (by rw [FileTree.serve, FileTree.changed_of_ok unlinked]; rfl))

variable {place : Place} {inode : Nat} {content expected : String}

theorem runs_digest (found : consumer.tree.look place = .file inode content) :
    Runs (digest place : SurfaceProgram digests String) consumer consumer
      (digests.content content) := by
  have bytes : Runs (ask (.file (.readBytes place)) : SurfaceProgram digests String) consumer
      consumer content := by
    apply runs_file
    simp only [FileTree.serve, FileTree.read, found]
    rfl
  exact runs_bind bytes runs_done

theorem runs_targetState_absent (found : consumer.tree.look place = .absent) :
    Runs (targetState place expected : SurfaceProgram digests (TargetState × Option String))
      consumer consumer (.absent, none) := by
  apply runs_bind (runs_isSymlink place)
  rw [found]
  apply runs_bind (runs_isPresent place)
  rw [found]
  rfl

theorem runs_targetState_file (found : consumer.tree.look place = .file inode content) :
    Runs (targetState place expected : SurfaceProgram digests (TargetState × Option String))
      consumer consumer (if digests.content content = expected then .exact else .collision,
        some (digests.content content)) := by
  apply runs_bind (runs_isSymlink place)
  rw [found]
  apply runs_bind (runs_isPresent place)
  rw [found]
  apply runs_bind (runs_isFile place)
  rw [found]
  exact runs_bind (runs_digest found) runs_done

theorem runs_targetState_exact (found : consumer.tree.look place = .file inode content)
    (same : digests.content content = expected) :
    Runs (targetState place expected : SurfaceProgram digests (TargetState × Option String))
      consumer consumer (.exact, some expected) := by
  have runs : Runs (targetState place expected :
      SurfaceProgram digests (TargetState × Option String)) consumer consumer _ :=
    runs_targetState_file found
  rwa [if_pos same, same] at runs

theorem runs_assertDetachParents (directories : List Path)
    (ready : ∀ directory ∈ directories, consumer.tree.look (.target directory) = .directory) :
    Runs (assertDetachParents directories : SurfaceProgram digests Unit) consumer consumer () := by
  induction directories with
  | nil => exact runs_done
  | cons directory rest ih =>
      have found := ready directory List.mem_cons_self
      apply runs_bind (runs_isSymlink _)
      apply runs_ensure (by rw [found]; rfl)
      apply runs_bind (runs_isPresent _)
      apply runs_ensure (by rw [found]; rfl)
      apply runs_bind (runs_isDirectory _)
      apply runs_ensure (by rw [found]; rfl)
      exact ih fun other mem => ready other (List.mem_cons_of_mem _ mem)

theorem runs_assertDetachParentChain {rel : Path} (ready : ParentsReady consumer.tree rel) :
    Runs (assertDetachParentChain rel : SurfaceProgram digests Unit) consumer consumer () := by
  apply runs_assertDetachParents
  intro directory mem
  have above := List.mem_reverse.mp mem
  rw [(ready.above above).look, ready directory above]

end Adwf.ManagedSurface
