import Mathlib.Data.List.Forall2
import Mathlib.Data.List.Nodup
import Adwf.Orchestrator.Exclusive
import Adwf.Program.Interleaving

/-!
# Concurrent deliveries to one run

`advance_run` loads the journal and saves the next one under a lock, if the
revision it loaded is still there.  Between the two, other calls on the run may
save.  The file is at every moment what the accepted calls alone, one after
another, make of it.
-/

namespace Adwf.Orchestrator

open Adwf.Fallible Adwf.Policy Adwf.Program Adwf.Run

/-! ## The accesses of a call -/

/-- An access to the journal file. -/
inductive JournalCall where
  | load (runId : String)
  | save (value : Journal) (expectedRevision savedAt : Int)

/-- Both accesses return a journal or raise. -/
abbrev JournalAnswer (_ : JournalCall) : Type :=
  Except String Journal

abbrev JournalProgram : Type :=
  Program JournalCall JournalAnswer String Journal

/-- `advance_run` after its load. -/
def finishAdvance (rt : Runtime) (call : StepCall) (state : Journal) : JournalProgram :=
  match advanceState rt state call with
  | .error error => .fail error
  | .ok .unchanged => .done state
  | .ok (.save next) => invoke (.save next state.revision call.savedAt)

/-- `advance_run`, access by access. -/
def advanceProgram (rt : Runtime) (runId : String) (call : StepCall) : JournalProgram :=
  invoke (.load runId) >>= finishAdvance rt call

/-- The files, and the clients whose save was accepted, in the order of their saves. -/
structure SharedRun (Client : Type) where
  directory : Directory
  accepted : List Client

variable {Client : Type}

/-- An access alone. -/
def served (rt : Runtime) (client : Client) (store : SharedRun Client) :
    JournalCall → SharedRun Client × Except String Journal
  | .load runId => (store, store.directory.load rt runId)
  | .save value expectedRevision savedAt =>
      match store.directory.save value (some expectedRevision) savedAt with
      | .ok (after, payload) => (⟨after, store.accepted ++ [client]⟩, .ok payload)
      | .error error => (store, .error error)

/-- An access as it may end: it is served, or raises with the files as they were
(a lock that times out, a file that cannot be opened). -/
def Served (rt : Runtime) (client : Client) (store : SharedRun Client) (call : JournalCall)
    (after : SharedRun Client) (answer : Except String Journal) : Prop :=
  served rt client store call = (after, answer) ∨
    after = store ∧ ∃ error, answer = .error error

/-! ## Sequential execution -/

/-- The files after the calls, one after another. -/
def executed (rt : Runtime) (runId : String) (start : Directory) (calls : List StepCall) :
    Directory :=
  final (rootStep rt) start (calls.map (.advance runId))

theorem executed_append (rt : Runtime) (runId : String) (start : Directory)
    (calls : List StepCall) (call : StepCall) : executed rt runId start (calls ++ [call]) =
      rootStep rt (executed rt runId start calls) (.advance runId call) := by
  rw [executed, List.map_append, final_append]
  rfl

/-- The event holds the key, the phase and the outcome of the step result. -/
structure RecordedBy (event : Event) (call : StepCall) : Prop where
  key : Json.get call.stepResult "idempotency_key" = .str event.idempotencyKey
  phase : Json.get call.stepResult "phase" = .str event.phase.name
  outcome : Json.get call.stepResult "outcome" = .str event.outcome.name

/-- The call reads a clock that is not past the deadline of the journal. -/
def InTime (state : Journal) (call : StepCall) : Prop :=
  ∃ deadline, state.deadlineAt = .at deadline ∧ call.now ≤ deadline

variable {state next : Journal} {call : StepCall}

theorem overdue_eq_none (inTime : InTime state call) : overdue state call.now = none := by
  rcases inTime with ⟨deadline, deadline_eq, early⟩
  simpa [overdue, deadline_eq] using early

theorem applyOutcome_deadlineAt (state : Journal) (result : StepResult) :
    (applyOutcome state result).deadlineAt = state.deadlineAt := by
  unfold applyOutcome
  cases result.outcome with
  | fail | retry | nextReady =>
      dsimp only
      split_ifs <;> rfl
  | _ => rfl

/-- One event more, of the delivered step result. -/
structure Extends (state : Journal) (call : StepCall) (next : Journal) : Prop where
  runId : next.runId = state.runId
  deadlineAt : next.deadlineAt = state.deadlineAt
  event : ∃ event, next.events = state.events ++ [event] ∧ RecordedBy event call

theorem outcome_of_readOutcome {value : Json} {outcome : Outcome}
    (read : readOutcome value = .ok outcome) : value = .str outcome.name := by
  have found : Outcome.ofJson value = some outcome := by
    unfold readOutcome at read
    split at read
    · cases read
    · cases read
    · cases known : Outcome.ofJson value with
      | none => simp [known] at read
      | some other => simpa [known] using read
  simpa using List.find?_some found

theorem key_of_readIdempotencyKey {value : Json} {key : String}
    (read : readIdempotencyKey value = .ok key) : value = .str key := by
  cases value with
  | str text =>
      rw [readIdempotencyKey] at read
      split_ifs at read
      cases read
      rfl
  | _ => cases read

theorem recordedBy_newEvent {rt : Runtime} {result : StepResult} {decision : Decision}
    (decided : decideStep rt state call = .ok (result, decision)) :
    RecordedBy (newEvent rt state result decision call) call := by
  simp only [decideStep, bind_ok_iff] at decided
  rcases decided with ⟨normalized, ran, context, _, pair_eq⟩
  cases pair_eq
  simp only [normalizeResult, bind_ok_iff, require_eq_ok_iff, exists_const] at ran
  rcases ran with ⟨_, evidenceRefs, _, reasonCodes, _, costUsd, _, metadata, _, ⟨phase, _⟩,
    outcome, outcomeRead, key, keyRead, _, _, _, _, result_eq⟩
  cases result_eq
  constructor
  · exact key_of_readIdempotencyKey keyRead
  · exact phase
  · exact outcome_of_readOutcome outcomeRead

theorem extends_of_saved {rt : Runtime}
    (inTime : InTime state call) (saved : Saved rt state call next) : Extends state call next := by
  cases saved with
  | overdue blocker late =>
      rw [overdue_eq_none inTime] at late
      cases late
  | refused result decision _ decided =>
      exact ⟨rfl, rfl, _, rfl, recordedBy_newEvent decided⟩
  | applied result decision issueId workBranch number attestation _ decided =>
      have frame := applyOutcome_frame (boundJournal rt
        { appendEvent state (newEvent rt state result decision call) with
          issueId, workBranch, pullRequestNumber := number
          previewAttestationId := attestation } result) result
      exact ⟨frame.runId, applyOutcome_deadlineAt _ _, _, frame.events, recordedBy_newEvent decided⟩

/-- A journal that a later file of the run may have grown from. -/
structure Follows (state file : Journal) : Prop where
  same : file = state ∨ state.revision < file.revision
  events : state.events <+: file.events

theorem Follows.refl (state : Journal) : Follows state state :=
  ⟨Or.inl rfl, List.prefix_refl _⟩

theorem Follows.trans {middle file : Journal} (first : Follows state middle)
    (second : Follows middle file) : Follows state file := by
  constructor
  · rcases second.same with rfl | later
    · exact first.same
    · rcases first.same with rfl | earlier
      · exact Or.inr later
      · exact Or.inr (Int.lt_trans earlier later)
  · exact first.events.trans second.events

/-- The file of the run opened with `start`, after the accepted calls. -/
structure RunFile (start file : Journal) (accepted : List StepCall) : Prop where
  runId : file.runId = start.runId
  deadlineAt : file.deadlineAt = start.deadlineAt
  distinct : (file.events.map fun event => event.idempotencyKey).Nodup
  recorded : List.Forall₂ RecordedBy file.events accepted

/-- The journal `save` writes over `file`. -/
def Journal.over (next file : Journal) (savedAt : Int) : Journal :=
  { next with revision := file.revision + 1, updatedAt := .at savedAt }

theorem save_of_held {directory : Directory} {held : Journal} (savedAt : Int)
    (named : Directory.isRunId next.runId = true)
    (found : directory.lookup next.runId = some (.journal held)) :
    directory.save next (some held.revision) savedAt =
      .ok (directory.write next.runId (.journal (next.over held savedAt)),
        next.over held savedAt) := by
  rw [Directory.save, require_bind_of named, Directory.currentRevision, found]
  simp only [ok_bind, or_true, require_bind_of]
  rfl

theorem runFile_over {rt : Runtime} {start file : Journal}
    {accepted : List StepCall} (run : RunFile start file accepted) (inTime : InTime start call)
    (ran : advanceState rt file call = .ok (.save next)) (savedAt : Int) :
    Follows file (next.over file savedAt) ∧
      RunFile start (next.over file savedAt) (accepted ++ [call]) := by
  have fileInTime : InTime file call := by
    rw [InTime, run.deadlineAt]
    exact inTime
  have unrecorded := duplicateOf_eq_none (overdue_eq_none fileInTime) ran
  have grows := extends_of_saved fileInTime (saved_of_advanceState ran).2
  rcases grows.event with ⟨event, events, recorded⟩
  have events_eq : (next.over file savedAt).events = file.events ++ [event] := events
  constructor
  · constructor
    · exact Or.inr (Int.lt_succ _)
    · rw [events_eq]
      exact List.prefix_append _ _
  · constructor
    · exact grows.runId.trans run.runId
    · exact grows.deadlineAt.trans run.deadlineAt
    · rw [events_eq, List.map_append, List.map_singleton]
      apply run.distinct.append (List.nodup_singleton _)
      rw [List.disjoint_singleton]
      intro known
      rcases List.mem_map.mp known with ⟨earlier, inside, same⟩
      have differs := List.find?_eq_none.mp unrecorded earlier inside
      rw [recorded.key, same] at differs
      simp at differs
    · rw [events_eq]
      exact List.rel_append run.recorded (List.Forall₂.cons recorded List.Forall₂.nil)

/-! ## The files under concurrent calls -/

section Concurrent

variable (rt : Runtime) (first : Directory) (start : Journal) (calls : Client → StepCall)

/-- The files are those the accepted calls make one after another, each of them
recorded once. -/
structure InOrder (store : SharedRun Client) : Prop where
  file : ∃ file, store.directory.lookup start.runId = some (.journal file) ∧
    RunFile start file (store.accepted.map calls)
  once : store.accepted.Nodup
  replayed : store.directory =
    executed rt start.runId first (store.accepted.map calls)

/-- What the other clients do to the files. -/
structure Moved (runId : String) (client : Client) (store later : SharedRun Client) : Prop where
  accepted : ∃ more, later.accepted = store.accepted ++ more ∧ client ∉ more
  file : ∀ file, store.directory.lookup runId = some (.journal file) →
    ∃ next, later.directory.lookup runId = some (.journal next) ∧ Follows file next

theorem Moved.refl (runId : String) (client : Client) (store : SharedRun Client) :
    Moved runId client store store := by
  constructor
  · exact ⟨[], by simp, by simp⟩
  · exact fun file held => ⟨file, held, Follows.refl file⟩

variable {client : Client} {store : SharedRun Client} {state next file : Journal}
variable {call : StepCall} {accepted : List StepCall}

theorem Moved.trans {runId : String} {middle later : SharedRun Client}
    (one : Moved runId client store middle) (two : Moved runId client middle later) :
    Moved runId client store later := by
  constructor
  · rcases one.accepted with ⟨more, middle_eq, outside⟩
    rcases two.accepted with ⟨most, later_eq, outsideToo⟩
    refine ⟨more ++ most, by rw [later_eq, middle_eq, List.append_assoc], ?_⟩
    simp [outside, outsideToo]
  · intro file held
    rcases one.file file held with ⟨next, nextHeld, follows⟩
    rcases two.file next nextHeld with ⟨last, lastHeld, followsToo⟩
    exact ⟨last, lastHeld, follows.trans followsToo⟩

/-- Clients that call `advance_run` on the run. -/
def sharedRun : World Client (SharedRun Client) JournalCall JournalAnswer where
  step := Served rt
  inv := InOrder rt first start calls
  rely := Moved start.runId
  rely_refl := Moved.refl start.runId
  rely_trans := fun _ _ _ _ => Moved.trans

/-- The client has not saved. -/
def Unsaved (client : Client) (store : SharedRun Client) : Prop :=
  client ∉ store.accepted

/-- The client has loaded `state`. -/
structure LoadedFrom (state : Journal) (store : SharedRun Client) : Prop where
  file : ∃ file, store.directory.lookup start.runId = some (.journal file) ∧ Follows state file
  valid : validateJournal rt state = []
  runId : state.runId = start.runId

variable {rt first start calls}

theorem stable_unsaved : Stable (sharedRun rt first start calls) client (Unsaved client) := by
  intro store later moved _ unsaved
  rcases moved.accepted with ⟨more, later_eq, outside⟩
  rw [Unsaved, later_eq, List.mem_append, not_or]
  exact ⟨unsaved, outside⟩

theorem stable_loadedFrom :
    Stable (sharedRun rt first start calls) client (LoadedFrom rt start state) := by
  rintro store later moved _ ⟨⟨file, held, follows⟩, valid, runId⟩
  rcases moved.file file held with ⟨next, nextHeld, grown⟩
  exact ⟨⟨next, nextHeld, follows.trans grown⟩, valid, runId⟩

theorem advance_of_save {payload : Journal} {after : Directory} (named : Directory.isRunId start.runId = true)
    (loaded : LoadedFrom rt start state store) (ran : advanceState rt state call = .ok (.save next))
    (saved : store.directory.save next (some state.revision) call.savedAt = .ok (after, payload)) :
    store.directory.lookup start.runId = some (.journal state) ∧
      payload = next.over state call.savedAt ∧
      after = store.directory.write start.runId (.journal payload) ∧
      advance rt store.directory start.runId call = .ok (after, payload) := by
  rcases loaded.file with ⟨file, held, follows⟩
  have sameRun : next.runId = start.runId :=
    (saved_runId (saved_of_advanceState ran).2).trans loaded.runId
  rcases save_eq_ok saved with ⟨actual, current, expected, payload_eq, after_eq⟩
  rw [sameRun, Directory.currentRevision, held] at current
  cases current
  have sameRevision : state.revision = file.revision := by simpa using expected
  -- the revision that was loaded is still there, so the journal is
  have same : file = state := by
    rcases follows.same with same | later
    · exact same
    · rw [sameRevision] at later
      exact absurd later (Int.lt_irrefl _)
  subst same
  rw [sameRun] at after_eq
  refine ⟨held, payload_eq, after_eq, ?_⟩
  have load_eq : store.directory.load rt start.runId = .ok file := by
    rw [Directory.load, require_bind_of named, held]
    exact if_pos loaded.valid
  rw [advance, load_eq, ok_bind, ran, ok_bind]
  exact saved

theorem inOrder_save {payload : Journal} {after : Directory} (named : Directory.isRunId start.runId = true)
    (inTime : InTime start (calls client)) (kept : InOrder rt first start calls store)
    (unsaved : Unsaved client store) (loaded : LoadedFrom rt start state store)
    (ran : advanceState rt state (calls client) = .ok (.save next))
    (saved : store.directory.save next (some state.revision) (calls client).savedAt =
      .ok (after, payload)) : InOrder rt first start calls ⟨after, store.accepted ++ [client]⟩ := by
  rcases advance_of_save named loaded ran saved with ⟨held, payload_eq, after_eq, alone⟩
  rcases kept.file with ⟨file, fileHeld, run⟩
  rw [held] at fileHeld
  cases fileHeld
  constructor
  · refine ⟨payload, ?_, ?_⟩
    · rw [after_eq]
      simp
    · rw [List.map_append, List.map_singleton, payload_eq]
      exact (runFile_over run inTime ran _).2
  · apply kept.once.append (List.nodup_singleton _)
    rw [List.disjoint_singleton]
    exact unsaved
  · rw [List.map_append, List.map_singleton, executed_append, ← kept.replayed, rootStep, alone]

/-- What a call that returns has done: its save was accepted, or it found the run as
`value` and had nothing to save. -/
def Returned (rt : Runtime) (start : Journal) (calls : Client → StepCall) (client : Client)
    (store : SharedRun Client) (value : Journal) : Prop :=
  client ∈ store.accepted ∨
    client ∉ store.accepted ∧ LoadedFrom rt start value store ∧
      advanceState rt value (calls client) = .ok .unchanged

theorem triple_load : Triple (sharedRun rt first start calls) client (Unsaved client)
      (invoke (.load start.runId))
      (fun store state => Unsaved client store ∧ LoadedFrom rt start state store)
      (fun store _ => Unsaved client store) := by
  apply Triple.invoke stable_unsaved
  · exact fun state => stable_unsaved.and stable_loadedFrom
  · exact fun _ => stable_unsaved
  · intro store after answer kept unsaved access
    rcases access with accessed | ⟨rfl, error, rfl⟩
    · cases accessed
      refine ⟨kept, ?_, fun _ _ => unsaved⟩
      intro state loaded
      rcases kept.file with ⟨file, held, run⟩
      simp only [Directory.load, bind_ok_iff, require_eq_ok_iff, exists_const, held] at loaded
      rcases loaded with ⟨_, loaded⟩
      split_ifs at loaded with valid
      cases loaded
      exact ⟨unsaved, ⟨_, held, Follows.refl _⟩, valid, run.runId⟩
    · refine ⟨kept, ?_, fun _ _ => unsaved⟩
      intro state loaded
      cases loaded

theorem stable_accepted :
    Stable (sharedRun rt first start calls) client fun store => client ∈ store.accepted := by
  intro store later moved _ inside
  rcases moved.accepted with ⟨more, later_eq, _⟩
  rw [later_eq]
  exact List.mem_append_left _ inside

theorem triple_save
    (named : Directory.isRunId start.runId = true) (inTime : InTime start (calls client))
    (ran : advanceState rt state (calls client) = .ok (.save next)) :
    Triple (sharedRun rt first start calls) client
      (fun store => Unsaved client store ∧ LoadedFrom rt start state store)
      (invoke (.save next state.revision (calls client).savedAt))
      (fun store (_ : Journal) => client ∈ store.accepted)
      (fun store _ => Unsaved client store) := by
  apply Triple.invoke (stable_unsaved.and stable_loadedFrom)
  · exact fun _ => stable_accepted
  · exact fun _ => stable_unsaved
  · rintro store after answer kept ⟨unsaved, loaded⟩ (accessed | ⟨rfl, error, rfl⟩)
    · simp only [served] at accessed
      split at accessed
      · rename_i directory payload saved
        cases accessed
        refine ⟨inOrder_save named inTime kept unsaved loaded ran saved, ?_, ?_⟩
        · intro value _
          simp
        · intro error raised
          cases raised
      · cases accessed
        refine ⟨kept, ?_, fun _ _ => unsaved⟩
        intro value answered
        cases answered
    · refine ⟨kept, ?_, fun _ _ => unsaved⟩
      intro value answered
      cases answered

theorem triple_advanceProgram (named : Directory.isRunId start.runId = true)
    (inTime : InTime start (calls client)) :
    Triple (sharedRun rt first start calls) client (Unsaved client)
      (advanceProgram rt start.runId (calls client))
      (Returned rt start calls client) (fun store _ => Unsaved client store) := by
  apply Triple.bind triple_load
  intro state
  unfold finishAdvance
  cases ran : advanceState rt state (calls client) with
  | error error =>
      exact Triple.fail (stable_unsaved.and stable_loadedFrom) fun _ _ known => known.1
  | ok step =>
      cases step with
      | unchanged =>
          apply Triple.done (stable_unsaved.and stable_loadedFrom)
          exact fun _ _ known => Or.inr ⟨known.1, known.2, ran⟩
      | save next =>
          apply (triple_save named inTime ran).strengthen
          · exact fun _ _ _ inside => Or.inl inside
          · exact fun _ _ _ unsaved => unsaved

theorem follows_rootStep {directory : Directory} (inTime : InTime start call)
    (held : directory.lookup start.runId = some (.journal file))
    (run : RunFile start file accepted) :
    ∃ next, (rootStep rt directory (.advance start.runId call)).lookup start.runId =
      some (.journal next) ∧ Follows file next := by
  simp only [rootStep]
  split
  · rename_i after value advanced
    simp only [advance, bind_ok_iff, Directory.load, require_eq_ok_iff, exists_const, held]
      at advanced
    rcases advanced with ⟨state, ⟨_, loaded⟩, step, ran, stored⟩
    split_ifs at loaded
    cases loaded
    cases step with
    | unchanged =>
        cases stored
        exact ⟨file, held, Follows.refl file⟩
    | save next =>
        rcases save_eq_ok stored with ⟨actual, current, expected, payload_eq, after_eq⟩
        have sameRun : next.runId = start.runId :=
          (saved_runId (saved_of_advanceState ran).2).trans run.runId
        rw [sameRun, Directory.currentRevision, held] at current
        cases current
        refine ⟨next.over file call.savedAt, ?_, (runFile_over run inTime ran _).1⟩
        rw [after_eq, sameRun, payload_eq]
        simp [Journal.over]
  · exact ⟨file, held, Follows.refl file⟩

theorem tolerated_sharedRun (inTime : ∀ client, InTime start (calls client)) :
    Tolerated (sharedRun rt first start calls) := by
  intro actor other store call after answer differs kept afterKept access
  rcases access with accessed | ⟨rfl, _⟩
  · cases call with
    | load runId =>
        cases accessed
        exact Moved.refl _ _ _
    | save value expectedRevision savedAt =>
        simp only [served] at accessed
        split at accessed
        · cases accessed
          constructor
          · exact ⟨[actor], rfl, by simpa using Ne.symm differs⟩
          · intro file held
            rcases kept.file with ⟨_, fileHeld, run⟩
            rw [held] at fileHeld
            cases fileHeld
            have replayed := afterKept.replayed
            rw [List.map_append, List.map_singleton, executed_append, ← kept.replayed] at replayed
            rw [replayed]
            exact follows_rootStep (inTime actor) held run
        · cases accessed
          exact Moved.refl _ _ _
  · exact Moved.refl _ _ _

theorem unhandled_advanceProgram (call : StepCall) (runId : String) :
    (advanceProgram rt runId call).Unhandled := by
  apply Unhandled.bind (Unhandled.invoke _)
  intro state
  unfold finishAdvance
  split
  · exact trivial
  · exact trivial
  · exact Unhandled.invoke _

/-! ## The law of the run -/

abbrev RunSystem (Client : Type) : Type :=
  System Client (SharedRun Client) JournalCall JournalAnswer String Journal

variable (rt first start calls)

/-- Every client is about to call `advance_run` on the opened run. -/
def openedSystem : RunSystem Client :=
  ⟨⟨first, []⟩, fun client => advanceProgram rt start.runId (calls client)⟩

/-- The files are in order, a call that raised changed nothing, and a save that finds
another revision raises and changes nothing. -/
structure SerialLaw (system : RunSystem Client) : Prop where
  ordered : InOrder rt first start calls system.store
  raised : ∀ client error, system.program client = .fail error →
    client ∉ system.store.accepted
  lost : ∀ client next expectedRevision savedAt continued,
    system.program client = .ask (.save next expectedRevision savedAt) continued →
    system.store.directory.currentRevision next.runId ≠ .ok expectedRevision →
    ∀ after answer,
      Served rt client system.store (.save next expectedRevision savedAt) after answer →
      after = system.store ∧ ∃ error, continued answer = .fail error

variable {rt first start calls}

/-- A call that returned re-used no recorded key for another phase or outcome. -/
def ReuseRaises (start : Journal) (calls : Client → StepCall) (system : RunSystem Client) : Prop :=
  ∀ client value file event, system.program client = .done value →
    system.store.directory.lookup start.runId = some (.journal file) → event ∈ file.events →
    Json.get (calls client).stepResult "idempotency_key" = .str event.idempotencyKey →
    RecordedBy event (calls client)

/-- A call that returned re-used no recorded key for another phase or outcome, unless
it changed nothing and returned a terminal run. -/
def ReuseRaisesWhileOpen (start : Journal) (calls : Client → StepCall)
    (system : RunSystem Client) : Prop :=
  ∀ client value file event, system.program client = .done value →
    system.store.directory.lookup start.runId = some (.journal file) → event ∈ file.events →
    Json.get (calls client).stepResult "idempotency_key" = .str event.idempotencyKey →
    client ∉ system.store.accepted ∧ value.status.isTerminal = true ∨
      RecordedBy event (calls client)

theorem recorded_of_unchanged (ran : advanceState rt state call = .ok .unchanged) :
    state.status.isTerminal = true ∨ ∃ event ∈ state.events, RecordedBy event call := by
  by_cases terminal : state.status.isTerminal = true
  · exact Or.inl terminal
  · rw [advanceState, if_neg terminal] at ran
    right
    split at ran
    · cases ran
    · split at ran
      · rename_i event duplicate
        split_ifs at ran with same
        have key : Json.str event.idempotencyKey = Json.get call.stepResult "idempotency_key" := by
          simpa using List.find?_some duplicate
        exact ⟨event, List.mem_of_find?_eq_some duplicate, key.symm, same.1.symm, same.2.symm⟩
      · cases taken : takeStep rt state call <;> simp [taken, Except.map] at ran

theorem recorded_of_accepted {events : List Event}
    (recorded : List.Forall₂ RecordedBy events accepted) (inside : call ∈ accepted) :
    ∃ event ∈ events, RecordedBy event call := by
  induction recorded with
  | nil => cases inside
  | @cons event delivered _ _ same _ ih =>
      rcases List.mem_cons.mp inside with rfl | later
      · exact ⟨event, List.mem_cons_self, same⟩
      · rcases ih later with ⟨other, otherInside, otherRecorded⟩
        exact ⟨other, List.mem_cons_of_mem _ otherInside, otherRecorded⟩

theorem recordedBy_of_key
    {event other : Event} (run : RunFile start file accepted) (inside : event ∈ file.events)
    (otherInside : other ∈ file.events) (recorded : RecordedBy event call)
    (key : Json.get call.stepResult "idempotency_key" = .str other.idempotencyKey) :
    RecordedBy other call := by
  have same : event = other := by
    apply List.inj_on_of_nodup_map run.distinct inside otherInside
    have keys := recorded.key.symm.trans key
    simpa using keys
  rw [← same]
  exact recorded

theorem reuse_of_returned {value : Journal}
    {event : Event} (kept : InOrder rt first start calls store)
    (ran : Returned rt start calls client store value)
    (held : store.directory.lookup start.runId = some (.journal file)) (inside : event ∈ file.events)
    (key : Json.get (calls client).stepResult "idempotency_key" = .str event.idempotencyKey) :
    client ∉ store.accepted ∧ value.status.isTerminal = true ∨ RecordedBy event (calls client) := by
  rcases kept.file with ⟨_, fileHeld, run⟩
  rw [held] at fileHeld
  cases fileHeld
  rcases ran with saved | ⟨unsaved, loaded, unchanged⟩
  · rcases recorded_of_accepted run.recorded (List.mem_map_of_mem saved) with
      ⟨own, ownInside, recorded⟩
    exact Or.inr (recordedBy_of_key run ownInside inside recorded key)
  · rcases recorded_of_unchanged unchanged with terminal | ⟨earlier, earlierInside, recorded⟩
    · exact Or.inl ⟨unsaved, terminal⟩
    · rcases loaded.file with ⟨_, laterHeld, follows⟩
      rw [held] at laterHeld
      cases laterHeld
      exact Or.inr (recordedBy_of_key run (follows.events.subset earlierInside) inside recorded key)

theorem inOrder_opened {rt : Runtime} {directory first : Directory} {request : RunRequest}
    {start : Journal} (opened : newRun rt directory request = .ok (first, start)) :
    Directory.isRunId start.runId = true ∧
      InOrder rt first start calls (⟨first, []⟩ : SharedRun Client) := by
  rcases newRun_eq_ok opened with ⟨_, policy, revision, loaded, start_eq, first_eq⟩
  have runId : start.runId = request.chosenRunId := by
    rw [start_eq]
    rfl
  constructor
  · simp only [newRun, bind_ok_iff, require_eq_ok_iff, exists_const, loaded, Directory.save]
      at opened
    rw [runId]
    exact opened.2.1
  · constructor
    · refine ⟨start, ?_, rfl, rfl, ?_, ?_⟩
      · rw [first_eq, runId]
        simp
      · rw [start_eq]
        exact List.nodup_nil
      · rw [start_eq]
        exact List.Forall₂.nil
    · exact List.nodup_nil
    · rfl

end Concurrent

/-- Concurrent deliveries before the deadline: over every interleaving of calls on an
opened run, the journal holds each key once and is the one the accepted calls make
alone, a call that loses the race raises and changes nothing, and only a terminal run
lets the re-use of a key pass. -/
theorem advance_serialized [DecidableEq Client] {rt : Runtime} {directory first : Directory}
    {request : RunRequest} {start : Journal} {calls : Client → StepCall} {system : RunSystem Client}
    (opened : newRun rt directory request = .ok (first, start))
    (inTime : ∀ client, InTime start (calls client))
    (reached : Reachable (sharedRun rt first start calls)
      (openedSystem rt first start calls) system) :
    SerialLaw rt first start calls system ∧ ReuseRaisesWhileOpen start calls system := by
  have start_ordered : Directory.isRunId start.runId = true ∧
      InOrder rt first start calls ⟨first, []⟩ := inOrder_opened opened
  rcases start_ordered with ⟨named, ordered⟩
  have clients : ∀ client, Safe (sharedRun rt first start calls) client
      (Returned rt start calls client) (fun store _ => Unsaved client store)
      (advanceProgram rt start.runId (calls client)) ⟨first, []⟩ := fun client =>
    (triple_advanceProgram named (inTime client)).safe _ ordered List.not_mem_nil
  have initial : AllSafe (sharedRun rt first start calls) (Returned rt start calls)
      (fun client store _ => Unsaved client store) (openedSystem rt first start calls) :=
    ⟨ordered, clients⟩
  have safe := safe_of_reachable (tolerated_sharedRun inTime) initial reached
  have kept : InOrder rt first start calls system.store := safe.1
  constructor
  · constructor
    · exact kept
    · intro client error failed
      exact raises_of_fail safe failed
    · intro client next expectedRevision savedAt continued asking stale after answer access
      have unhandled : (system.program client).Unhandled :=
        program_of_reachable (fun _ _ _ answer rest => rest.2 answer)
          (fun client => unhandled_advanceProgram (calls client) start.runId) reached client
      rw [asking] at unhandled
      have refused : after = system.store ∧ ∃ error, answer = .error error := by
        rcases access with accessed | raised
        · simp only [served] at accessed
          split at accessed
          · rename_i directory payload saved
            rcases save_eq_ok saved with ⟨actual, current, expected, _⟩
            have same : expectedRevision = actual := by simpa using expected
            rw [same] at stale
            exact absurd current stale
          · cases accessed
            exact ⟨rfl, _, rfl⟩
        · exact raised
      rcases refused with ⟨same, error, rfl⟩
      exact ⟨same, error, unhandled.1 error⟩
  · intro client value file event ended held inside key
    exact reuse_of_returned kept (returns_of_done safe ended) held inside key

/-! ## Two deliveries of one key -/

/-- The accesses of the clients in the given order, each served. -/
def afterTurns (calls : Bool → StepCall) (schedule : List Bool) : RunSystem Bool :=
  schedule.foldl (System.turn fun client store call => some (served plainRuntime client store call))
    (openedSystem plainRuntime [("run-0001", .journal plainStart)] plainStart calls)

theorem reachable_afterTurns (calls : Bool → StepCall) (schedule : List Bool) :
    Reachable (sharedRun plainRuntime [("run-0001", .journal plainStart)] plainStart calls)
      (openedSystem plainRuntime [("run-0001", .journal plainStart)] plainStart calls)
      (afterTurns calls schedule) := by
  apply reachable_turns
  intro client store call after answer provided
  exact Or.inl (Option.some.inj provided)

theorem newRun_plainRequest :
    newRun plainRuntime [] plainRequest = .ok ([("run-0001", .journal plainStart)], plainStart) :=
  rfl

/-- Two deliveries of one step result, both loaded before either is saved. -/
theorem advance_serialized_twice :
    SerialLaw plainRuntime [("run-0001", .journal plainStart)] plainStart
        (fun _ => passCall .reconcile)
        (afterTurns (fun _ => passCall .reconcile) [false, true, false, true]) ∧
      ReuseRaisesWhileOpen plainStart (fun _ => passCall .reconcile)
        (afterTurns (fun _ => passCall .reconcile) [false, true, false, true]) :=
  advance_serialized newRun_plainRequest (fun _ => ⟨_, rfl, by decide⟩) (reachable_afterTurns _ _)

example : (afterTurns (fun _ => passCall .reconcile) [false, true, false, true]).store.accepted =
    [false] := by
  decide +kernel

/-- A step that blocks the run, and another outcome under its key. -/
def reusedKey : Bool → StepCall
  | false => plainCall "RECONCILE" .reconcile .block .null .null []
  | true => passCall .reconcile

/-- The journal of the blocked run. -/
def blockedRun : Journal :=
  advanceFile plainRuntime plainStart (reusedKey false)

/-- After the blocking step the run is terminal, and the re-use of its key returns. -/
theorem not_reuseRaises :
    ¬ ∀ (rt : Runtime) (directory first : Directory) (request : RunRequest) (start : Journal)
        (calls : Bool → StepCall) (system : RunSystem Bool),
      newRun rt directory request = .ok (first, start) → (∀ client, InTime start (calls client)) →
      Reachable (sharedRun rt first start calls) (openedSystem rt first start calls) system →
      SerialLaw rt first start calls system ∧ ReuseRaises start calls system := by
  intro law
  have inTime : ∀ client, InTime plainStart (reusedKey client) := by
    intro client
    cases client <;> exact ⟨_, rfl, by decide⟩
  rcases law _ _ _ _ _ _ _ newRun_plainRequest inTime
    (reachable_afterTurns reusedKey [false, false, true]) with ⟨serial, raises⟩
  have ended : ((afterTurns reusedKey [false, false, true]).program true).returned? =
      some blockedRun := by
    decide +kernel
  have accepted : (afterTurns reusedKey [false, false, true]).store.accepted = [false] := by
    decide +kernel
  rcases serial.ordered.file with ⟨file, held, run⟩
  have recorded := run.recorded
  rw [accepted] at recorded
  generalize events : file.events = recordedEvents at recorded
  cases recorded with
  | @cons event _ _ _ recorded _ =>
      have inside : event ∈ file.events := by
        rw [events]
        exact List.mem_cons_self
      have reused := raises true blockedRun file event (returned?_eq_some_iff.mp ended) held inside
        recorded.key
      have outcomes := recorded.outcome.trans reused.outcome.symm
      revert outcomes
      decide

end Adwf.Orchestrator
