import Adwf.OrchNext.Bootstrap
import Adwf.Program.Interleaving

/-!
# Two ways to create a run

`start_or_queue` and `bootstrap_next_run` look for an active run, create one and
save its work memory, each in a critical section of its own lock file.  Both are
programs here, call by call, over one root that any number of executions share.
-/

namespace Adwf.OrchNext

open Adwf.Fallible Adwf.Program Orchestrator

/-! ## Calls -/

/-- The lock files. -/
inductive LockFile where
  | ownerIntent
  | orchNext
  | workContext
  deriving DecidableEq, Repr

inductive RootCall where
  | acquire (lock : LockFile)
  | release (lock : LockFile)
  /-- `sorted(directory.glob("*.json"))`. -/
  | glob
  | readJournal (name : String)
  /-- `OrchestrationJournal.save` of a new run. -/
  | saveJournal (value : Journal) (savedAt : Int)
  | readMemory
  /-- `os.replace` onto the work memory. -/
  | replaceMemory (file : MemoryFile)

def RootValue : RootCall → Type
  | .acquire _ => Unit
  | .release _ => Unit
  | .glob => List String
  | .readJournal _ => JournalFile
  | .saveJournal _ _ => Journal
  | .readMemory => MemoryFile
  | .replaceMemory _ => Unit

abbrev RootAnswer (call : RootCall) : Type :=
  Except String (RootValue call)

abbrev RootProgram (α : Type) :=
  Program RootCall RootAnswer String α

/-- A call whose error leaves the program. -/
def RootCall.send (call : RootCall) : RootProgram (RootValue call) :=
  Program.invoke call

/-- `with exclusive_file_lock(lock)`. -/
def locked {α : Type} (lock : LockFile) (body : RootProgram α) : RootProgram α := do
  (RootCall.acquire lock).send
  body.ensuring (RootCall.release lock).send

/-! ## Both entry points -/

section Programs

variable (rt : Runtime)

/-- The loop of `list_active`. -/
def activeAmong : List String → RootProgram (List Json)
  | [] => return []
  | name :: rest => do
      let file : JournalFile ← (RootCall.readJournal name).send
      let entry ← Program.ofExcept (FileDirectory.activeEntry rt (name, file))
      let others ← activeAmong rest
      return entry.toList ++ others

/-- `list_active`. -/
def listActive : RootProgram (List Json) := do
  let names : List String ← RootCall.glob.send
  activeAmong rt names

/-- `new_run`. -/
def createRun (request : RunRequest) : RootProgram Journal := do
  let active ← listActive rt
  Program.check (active = []) "ACTIVE_OR_BROKEN_ORCHESTRATION_EXISTS"
  match request.effectivePolicy with
  | none => .fail "POLICY_IR_INVALID"
  | some policy => (RootCall.saveJournal (request.journal policy.policyHash) request.savedAt).send

/-- `WorkMemoryStore.save`. -/
def saveMemory (value : WorkMemory) (savedAt : Int) : RootProgram Unit :=
  locked .workContext do
    let file : MemoryFile ← RootCall.readMemory.send
    let saved ← Program.ofExcept (file.save rt value savedAt)
    (RootCall.replaceMemory saved.1).send

/-- A new run, and the work memory that is built for it, saved. -/
def createWithMemory (request : RunRequest) (build : String → Except String WorkMemory)
    (savedAt : Int) : RootProgram Journal := do
  let run ← createRun rt request
  let memory ← Program.ofExcept (build run.runId)
  saveMemory rt memory savedAt
  return run

/-- The run of a successor and its work memory. -/
def createSuccessor (facts : Facts) (next : Successor) : RootProgram Response := do
  let run ← createWithMemory rt next.request (successorMemory rt facts next)
    facts.memorySavedAt
  return .runCreated run.runId next.request.roadmapId next.request.issueId next.mainSha
    facts.leaseRegistry.revision

/-- `bootstrap_next_run`. -/
def bootstrap (facts : Facts) : RootProgram Response :=
  locked .orchNext do
    let active ← listActive rt
    if active = [] then do
      let selected ← Program.ofExcept (selectSuccessor rt facts)
      match selected with
      | .inl response => return response
      | .inr next => createSuccessor rt facts next
    else return activeResponse active

/-- The arguments of `start_or_queue`, with what the call reads of its surroundings. -/
structure IntentFacts where
  task : String
  queueIfBusy : Bool := true
  /-- What `create_product_brief` returns or raises. -/
  brief : Except String Fields
  /-- What `_queue_brief` returns or raises. -/
  queued : Except String String
  /-- What comes of the GitHub bootstrap: the issue id, or none for HUMAN_REQUIRED. -/
  issue : Except String (Option String)
  ownerRequestDigest : String
  reloadedPolicy : Option Policy.PolicyIR
  /-- The writes of the projections, the ledger event and the wake-up. -/
  projected : Except String Unit
  uuid : String
  runCreatedAt : Int
  runSavedAt : Int
  memoryCreatedAt : Int
  memorySavedAt : Int

/-- What `start_or_queue` returns. -/
inductive IntentResponse where
  | activeTaskExists (runId phase briefId : Json)
  | queued (status : String)
  | humanRequired
  | autopilotStarted (runId phase issueId : String)
  deriving DecidableEq

/-- `create_intent`. -/
def createIntent (facts : IntentFacts) : Except String Fields := do
  require (5 ≤ (Text.strip facts.task).toList.length) "OWNER_INTENT_TOO_SHORT"
  facts.brief

/-- `str(brief["brief_id"])`. -/
def briefId (brief : Fields) : String :=
  rt.text (Json.get brief "brief_id")

/-- The arguments of `new_run` for an intent. -/
def intentRequest (facts : IntentFacts) (brief : Fields) (issueId : String) : RunRequest where
  roadmapId := briefId rt brief
  issueId := issueId
  risk := "R1"
  workType := "feature"
  productImpact := true
  ownerRequestDigest := facts.ownerRequestDigest
  maxElapsedMinutes := 10080
  effectivePolicy := facts.reloadedPolicy
  uuid := facts.uuid
  createdAt := facts.runCreatedAt
  savedAt := facts.runSavedAt

/-- `list(brief.get("constraints_ru") or [])`. -/
def constraintsOf (brief : Fields) : List String :=
  match Json.get brief "constraints_ru" with
  | .arr items => items.filterMap Json.asText
  | _ => []

/-- The work memory of an intent as it is handed to `save`. -/
def intentMemory (facts : IntentFacts) (brief : Fields) (runId : String) :
    Except String WorkMemory := do
  let memory ← newWorkMemory rt (briefId rt brief) facts.task (some runId)
    facts.memoryCreatedAt
  return { memory with
    status := "ACTIVE"
    productBrief := .obj brief
    constraints := constraintsOf brief
    nextActionRu := "ADWF сверяет GitHub и готовит безопасный рабочий цикл." }

/-- The answer to an intent while a run is active. -/
def answerBusy (facts : IntentFacts) : List Json → Except String IntentResponse
  | [.obj run] =>
      if facts.queueIfBusy then do
        let _ ← createIntent facts
        let status ← facts.queued
        return .queued status
      else
        return .activeTaskExists (Json.get run "run_id") (Json.get run "phase")
          (Json.get run "roadmap_id")
  | _ => .error "MULTIPLE_OR_BROKEN_ACTIVE_RUNS"

/-- The run of an intent and its work memory. -/
def createIntentRun (facts : IntentFacts) (brief : Fields) (issueId : String) :
    RootProgram IntentResponse := do
  let run ← createWithMemory rt (intentRequest rt facts brief issueId)
    (intentMemory rt facts brief) facts.memorySavedAt
  Program.ofExcept facts.projected
  return .autopilotStarted run.runId run.phase.name issueId

/-- `start_or_queue`. -/
def startOrQueue (facts : IntentFacts) : RootProgram IntentResponse :=
  locked .ownerIntent do
    let active ← listActive rt
    if active = [] then do
      let brief ← Program.ofExcept (createIntent facts)
      let issue ← Program.ofExcept facts.issue
      match issue with
      | none => return .humanRequired
      | some issueId => createIntentRun rt facts brief issueId
    else Program.ofExcept (answerBusy facts active)

/-- One execution on the root. -/
inductive Creation where
  | bootstrap (facts : Facts)
  | intent (facts : IntentFacts)

/-- The program of an execution; what it returns is not looked at. -/
def Creation.program : Creation → RootProgram Unit
  | .bootstrap facts => do
      let _ ← OrchNext.bootstrap rt facts
      return ()
  | .intent facts => do
      let _ ← startOrQueue rt facts
      return ()

end Programs

/-! ## The shared root -/

/-- The files of a root, who holds which lock, the runs created, and whether a file was
written outside of both critical sections. -/
structure Site (Client : Type) where
  journals : FileDirectory
  memory : MemoryFile
  holder : LockFile → Option Client
  created : List String
  trespassed : Bool

section Site

variable {Client : Type} [DecidableEq Client]

namespace Site

/-- A root before the first execution. -/
def start (journals : FileDirectory) (memory : MemoryFile) : Site Client :=
  ⟨journals, memory, fun _ => none, [], false⟩

/-- The client is in a critical section of one of the entry points. -/
def Inside (site : Site Client) (client : Client) : Prop :=
  site.holder .ownerIntent = some client ∨ site.holder .orchNext = some client

instance (site : Site Client) (client : Client) : Decidable (site.Inside client) :=
  inferInstanceAs (Decidable (_ ∨ _))

def held (site : Site Client) (lock : LockFile) (client : Client) : Site Client :=
  { site with holder := Function.update site.holder lock (some client) }

def released (site : Site Client) (lock : LockFile) : Site Client :=
  { site with holder := Function.update site.holder lock none }

/-- After a write of the client. -/
def wrote (site : Site Client) (client : Client) (journals : FileDirectory) (memory : MemoryFile)
    (created : List String) : Site Client :=
  { site with
    journals, memory, created
    trespassed := site.trespassed || !decide (site.Inside client) }

/-- No entry point is in its critical section. -/
def Idle (site : Site Client) : Prop :=
  site.holder .ownerIntent = none ∧ site.holder .orchNext = none

instance (site : Site Client) : Decidable site.Idle :=
  inferInstanceAs (Decidable (_ ∧ _))

end Site

/-- What a call leads to.  A lock excludes the holders of the same file; when the entry
points are kept `apart`, one is not entered while the other is. -/
def Serves (rt : Runtime) (apart : Bool) (client : Client) (site : Site Client)
    (call : RootCall) (after : Site Client) (answer : RootAnswer call) : Prop :=
  match call, answer with
  | .acquire lock, answer =>
      (site.holder lock = none ∧ (apart = true → lock ≠ .workContext → site.Idle) ∧
        after = site.held lock client ∧ answer = .ok ()) ∨
      ((site.holder lock).isSome ∧ after = site ∧ answer = .error "TimeoutError:FILE_LOCK_TIMEOUT")
  | .release lock, answer =>
      after = (if site.holder lock = some client then site.released lock else site) ∧
        answer = .ok ()
  | .glob, answer =>
      after = site ∧ ∃ names : List String, answer = .ok names ∧
        ∀ name, name ∈ names ↔ (site.journals.lookup name).isSome
  | .readJournal name, answer =>
      after = site ∧ answer = .ok ((site.journals.lookup name).getD .unreadable)
  | .saveJournal value savedAt, answer =>
      match site.journals.save rt value none savedAt with
      | .error error => after = site ∧ answer = .error error
      | .ok (journals, saved) =>
          after = site.wrote client journals site.memory (site.created ++ [saved.runId]) ∧
            answer = .ok saved
  | .readMemory, answer => after = site ∧ answer = .ok site.memory
  | .replaceMemory file, answer =>
      after = site.wrote client site.journals file site.created ∧ answer = .ok ()

end Site

/-! ## The law -/

/-- A journal of a live run. -/
def Live (rt : Runtime) : JournalFile → Prop
  | .document value => Document.validate rt value = .ok [] ∧
      Document.inSet Document.activeStatuses (Document.status value) = .ok true
  | .unreadable => False

/-- The run is stored and live. -/
def LiveRun (rt : Runtime) (journals : FileDirectory) (runId : String) : Prop :=
  ∃ file, journals.lookup runId = some file ∧ Live rt file

instance (rt : Runtime) (file : JournalFile) : Decidable (Live rt file) :=
  match file with
  | .document _ => inferInstanceAs (Decidable (_ ∧ _))
  | .unreadable => inferInstanceAs (Decidable False)

instance (rt : Runtime) (journals : FileDirectory) (runId : String) :
    Decidable (LiveRun rt journals runId) :=
  inferInstanceAs (Decidable (∃ file ∈ journals.lookup runId, Live rt file))

/-- No two live runs. -/
def OneLive (rt : Runtime) (journals : FileDirectory) : Prop :=
  ∀ first second, LiveRun rt journals first → LiveRun rt journals second → first = second

/-- The work memory names each created run that is live. -/
def MemoryBound (rt : Runtime) (journals : FileDirectory) (memory : MemoryFile)
    (created : List String) : Prop :=
  ∀ runId ∈ created, LiveRun rt journals runId →
    ∃ fields, memory = .document (.obj fields) ∧ Json.get fields "run_id" = .str runId

/-- At most one live run, and outside of the critical sections the work memory of it. -/
structure CreationLaw {Client : Type} (rt : Runtime) (site : Site Client) : Prop where
  one : OneLive rt site.journals
  bound : site.Idle → MemoryBound rt site.journals site.memory site.created

end Adwf.OrchNext
