import Adwf.OrchNext.Bootstrap
import Adwf.Orchestrator.Closure
import Adwf.Orchestrator.JournalFiles

/-!
# The start of a run and its work memory

`bootstrap_next_run` saves the journal of the run before it builds and saves
the work memory.  Whatever the second store then refuses, the run stays.
-/

namespace Adwf.OrchNext

open Adwf.Fallible Orchestrator

section Atomic

variable (rt : Runtime) (facts : Facts) (stores : Stores)

/-- The answer reports a run that is in its store, with the work memory bound to it. -/
def Bound (after : Stores) (answer : Except String Response) : Prop :=
  ∃ run : Journal, ∃ memory roadmapId issueId mainSha revision,
    answer = .ok (.runCreated run.runId roadmapId issueId mainSha revision) ∧
    run.status = .running ∧
    after.journals.lookup run.runId = some (.document run.toJson) ∧
    after.memory = .document (.obj memory) ∧
    Json.get memory "run_id" = .str run.runId

/-- The call creates the run and its work memory, or leaves both stores. -/
def Atomic (result : Stores × Except String Response) : Prop :=
  Bound result.1 result.2 ∨ result.1 = stores

/-- The store of the work memory takes a value: there is no file, or one that loads and has a
revision that is read as an integer. -/
def Accepting (memory : MemoryFile) : Prop :=
  memory ≠ .occupied ∧
    ∃ current revision, memory.load rt = .ok current ∧
      Document.revision rt (current.getD .null) = .ok revision

/-- Wherever the call starts a run, its task is long enough and the work memory can be saved. -/
def Startable : Prop :=
  ∀ next, prepare rt facts stores.journals = .ok (.inr next) →
    ∀ opened, stores.journals.newRun rt next.request = .ok opened →
      5 ≤ (Text.strip (taskOf next.issue)).toList.length ∧ Accepting rt stores.memory

variable {rt facts stores}

/-! ## The second store -/

variable {memory : MemoryFile} {next : Successor}

theorem save_eq_ok_iff {value : WorkMemory} {savedAt : Int} {saved : MemoryFile × WorkMemory} :
    memory.save rt value savedAt = .ok saved ↔
      memory ≠ .occupied ∧ ∃ current revision, memory.load rt = .ok current ∧
        Document.revision rt (current.getD .null) = .ok revision ∧
        saved = (.document (WorkMemory.signed rt
            { value with revision := revision + 1, updatedAt := savedAt }).toJson,
          WorkMemory.signed rt
            { value with revision := revision + 1, updatedAt := savedAt }) := by
  simp only [MemoryFile.save, bind_ok_iff, require_eq_ok_iff, exists_const]
  constructor
  · rintro ⟨current, loaded, revision, read, free, ⟨⟩⟩
    exact ⟨free, current, revision, loaded, read, rfl⟩
  · rintro ⟨free, current, revision, loaded, read, rfl⟩
    exact ⟨current, loaded, revision, read, free, rfl⟩

/-- The saved document names the run of the value. -/
theorem get_runId_toJson (memory : WorkMemory) :
    ∃ fields, memory.toJson = .obj fields ∧ Json.get fields "run_id" = Json.ofText memory.runId := by
  refine ⟨_, rfl, ?_⟩
  simp [WorkMemory.head, WorkMemory.tail]

theorem successorMemory_eq_ok_iff (rt : Runtime) (facts : Facts) (runId : String) :
    (∃ value, successorMemory rt facts next runId = .ok value) ↔
      5 ≤ (Text.strip (taskOf next.issue)).toList.length := by
  simp only [successorMemory, newWorkMemory, bind_ok_iff, require_eq_ok_iff, exists_const]
  constructor
  · rintro ⟨value, memory, ⟨long, _⟩, _⟩
    exact long
  · intro long
    exact ⟨_, _, ⟨long, rfl⟩, rfl⟩

theorem runId_of_successorMemory {runId : String} {value : WorkMemory}
    (built : successorMemory rt facts next runId = .ok value) : value.runId = some runId := by
  simp only [successorMemory, newWorkMemory, bind_ok_iff, require_eq_ok_iff, exists_const] at built
  rcases built with ⟨memory, ⟨_, ⟨⟩⟩, ⟨⟩⟩
  rfl

theorem saveSuccessorMemory_eq_ok_iff (rt : Runtime) (facts : Facts) (runId : String) :
    (∃ saved, saveSuccessorMemory rt facts memory next runId = .ok saved) ↔
      5 ≤ (Text.strip (taskOf next.issue)).toList.length ∧ Accepting rt memory := by
  rw [← successorMemory_eq_ok_iff rt facts runId]
  simp only [saveSuccessorMemory, bind_ok_iff, save_eq_ok_iff]
  constructor
  · rintro ⟨_, value, built, saved, ⟨free, current, revision, loaded, read, _⟩, _⟩
    exact ⟨⟨value, built⟩, free, current, revision, loaded, read⟩
  · rintro ⟨⟨value, built⟩, free, current, revision, loaded, read⟩
    exact ⟨_, value, built, _, ⟨free, current, revision, loaded, read, rfl⟩, rfl⟩

theorem saved_runId {saved : MemoryFile} {runId : String}
    (stored : saveSuccessorMemory rt facts memory next runId = .ok saved) :
    ∃ fields, saved = .document (.obj fields) ∧ Json.get fields "run_id" = .str runId := by
  simp only [saveSuccessorMemory, bind_ok_iff, save_eq_ok_iff] at stored
  rcases stored with ⟨value, built, _, ⟨_, _, revision, _, _, rfl⟩, ⟨⟩⟩
  rcases get_runId_toJson (WorkMemory.signed rt
    { value with revision := revision + 1, updatedAt := facts.memorySavedAt }) with
    ⟨fields, encoded, named⟩
  refine ⟨fields, by rw [encoded], ?_⟩
  rw [named]
  simp [WorkMemory.signed, runId_of_successorMemory built, Json.ofText]

theorem stored_of_newRun {journals after : FileDirectory} {request : RunRequest} {run : Journal}
    (created : journals.newRun rt request = .ok (after, run)) :
    run.status = .running ∧ after.lookup run.runId = some (.document run.toJson) ∧
      after ≠ journals := by
  rcases newRunFiles_eq_ok_iff.mp created with ⟨passed, policy, _, _, actual, _, rfl, rfl⟩
  refine ⟨rfl, lookup_write_self _ _ _, ?_⟩
  intro same
  have inside : (request.chosenRunId, JournalFile.document
      (request.stored policy.policyHash (actual + 1)).toJson) ∈ journals := by
    rw [← same]
    exact List.mem_cons_self
  exact passed _ inside (stopping_stored rt request policy.policyHash (actual + 1))

/-- What the second part of the call does once the run is saved. -/
theorem atomic_startSuccessor_iff {opened : FileDirectory × Journal}
    (created : stores.journals.newRun rt next.request = .ok opened) :
    Atomic stores (startSuccessor rt facts stores next) ↔
      5 ≤ (Text.strip (taskOf next.issue)).toList.length ∧ Accepting rt stores.memory := by
  rcases opened with ⟨journals, run⟩
  rcases stored_of_newRun created with ⟨running, held, changed⟩
  have moved : ∀ memory, Stores.mk journals memory ≠ stores := by
    rintro memory rfl
    exact changed rfl
  rw [← saveSuccessorMemory_eq_ok_iff rt facts run.runId]
  simp only [startSuccessor, created]
  cases saving : saveSuccessorMemory rt facts stores.memory next run.runId with
  | error error =>
      constructor
      · rintro (⟨_, _, _, _, _, _, ⟨⟩, _⟩ | unchanged)
        exact absurd unchanged (moved _)
      · rintro ⟨_, ⟨⟩⟩
  | ok memory =>
      rcases saved_runId saving with ⟨fields, rfl, named⟩
      constructor
      · intro _
        exact ⟨_, rfl⟩
      · intro _
        exact Or.inl ⟨run, fields, _, _, _, _, rfl, running, held, rfl, named⟩

/-- Starting the next run is atomic exactly where the started run gets its work memory. -/
theorem atomic_bootstrapNextRun_iff (rt : Runtime) (facts : Facts) (stores : Stores) :
    Atomic stores (bootstrapNextRun rt facts stores) ↔ Startable rt facts stores := by
  unfold Startable bootstrapNextRun
  cases prepared : prepare rt facts stores.journals with
  | error error =>
      constructor
      · rintro _ _ ⟨⟩
      · intro _
        exact Or.inr rfl
  | ok outcome =>
      cases outcome with
      | inl response =>
          constructor
          · rintro _ _ ⟨⟩
          · intro _
            exact Or.inr rfl
      | inr next =>
          cases created : stores.journals.newRun rt next.request with
          | error error =>
              constructor
              · rintro _ _ ⟨⟩ opened other
                rw [created] at other
                cases other
              · intro _
                refine Or.inr ?_
                simp only [startSuccessor, created]
          | ok opened =>
              rw [show Atomic stores (startSuccessor rt facts stores next) ↔ _ from
                atomic_startSuccessor_iff created]
              constructor
              · rintro holds _ ⟨⟩ _ _
                exact holds
              · intro startable
                exact startable next rfl opened created

end Atomic

/-! ## A work memory that does not load -/

/-- A policy with the built-in rules, for one writer. -/
def onePolicy : EffectivePolicy :=
  { plainPolicy with
    activeAutonomy := some "A3", maxAutonomousRisk := some "R1", maxParallelWriters := some 1 }

/-- A ready issue of the roadmap. -/
def readyIssue : NextAction.Issue where
  id := "7"
  state := some "READY"
  risk := some "R1"
  readySince := some "2024-01-01"
  dependenciesResolved := some true
  humanRequired := some false
  autonomyAllowed := some true
  number := .num 7
  goal := some "Release"

/-- Fresh facts with one ready issue and no lease. -/
def readyFacts : Facts where
  projectState := ⟨some headRevision, some "ACTIVE", some "HEALTHY", some headRevision,
    some (.at 0), some (.at 10), .str "", some [readyIssue]⟩
  leaseRegistry := LeaseRegistry.Registry.signed plainRuntime
    { repository := "owner/repository", revision := 0, observedMainSha := headRevision
      maxParallelWriters := 1, leases := [], integrityDigest := "" }
  assuranceSnapshot := ⟨fun _ _ => [],
    ["package_integrity", "config_health", "control_plane_health", "product_health"].map fun name =>
      (name, "HEALTHY"), some true, some "VERIFIED_ZERO", some (.num 0)⟩
  providerReadback := ⟨some headRevision, some true, some "PUBLIC", some false⟩
  effectivePolicy := .ok onePolicy
  reloadedPolicy := some plainPolicy
  now := 5
  clock := 5
  uuid := "run-0001"
  runCreatedAt := 5
  runSavedAt := 5
  memoryCreatedAt := 5
  memorySavedAt := 5

/-- No run, and the empty dictionary in place of a work memory. -/
def emptyMemory : Stores :=
  ⟨[], .document (.obj [])⟩

theorem bootstrapNextRun_emptyMemory : (bootstrapNextRun plainRuntime readyFacts emptyMemory).2 =
        .error ("WORK_MEMORY_INVALID:WORK_MEMORY_SCHEMA,WORK_MEMORY_STATUS,WORK_MEMORY_BRIEF," ++
          "WORK_MEMORY_TASK,WORK_MEMORY_DECISIONS,WORK_MEMORY_CONSTRAINTS,WORK_MEMORY_COMPLETED," ++
          "WORK_MEMORY_VERIFICATION,WORK_MEMORY_BLOCKERS,WORK_MEMORY_OPEN_QUESTIONS," ++
          "WORK_MEMORY_SESSION_HANDOFFS,WORK_MEMORY_DIGEST") ∧
      (bootstrapNextRun plainRuntime readyFacts emptyMemory).1.journals.length = 1 := by
  decide +kernel

theorem not_always_atomic : ¬ ∀ (rt : Runtime) (facts : Facts) (stores : Stores),
      Atomic stores (bootstrapNextRun rt facts stores) := by
  intro law
  rcases bootstrapNextRun_emptyMemory with ⟨raised, left⟩
  rcases law plainRuntime readyFacts emptyMemory with ⟨_, _, _, _, _, _, answered, _⟩ | unchanged
  · rw [raised] at answered
    cases answered
  · rw [unchanged] at left
    cases left

end Adwf.OrchNext
