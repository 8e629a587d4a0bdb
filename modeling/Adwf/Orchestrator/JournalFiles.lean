import Adwf.Orchestrator.Documents

/-!
# What `new_run` passes over

`list_active` skips a document in which `validate_journal` finds something, and
`save` without an expected revision replaces any file of the run id.  A new run
keeps every journal exactly when no such file is there.
-/

namespace Adwf.Orchestrator

open Adwf.Fallible

/-! ## Documents written by the code -/

/-- The document of the journal spells its members as the code does: no unknown
phase or status under the name of a known one, and a budget that is a `float`. -/
structure Spelled (value : Journal) : Prop where
  phase : value.phase.isKnown = false → value.phase.name ∉ Document.phaseNames
  status : ∀ name, value.status = .other name → name ∉ Status.all.map Status.name
  budget : -Document.floatLimit < value.monetaryBudgetUsd ∧
    value.monetaryBudgetUsd < Document.floatLimit

theorem ofText_injective {left right : Option String} :
    Json.ofText left = Json.ofText right ↔ left = right := by
  cases left <;> cases right <;> simp [Json.ofText]

theorem contains_phaseNames {phase : Phase}
    (spelled : phase.isKnown = false → phase.name ∉ Document.phaseNames) :
    Document.phaseNames.contains phase.name = phase.isKnown := by
  cases phase with
  | unknown name => simpa [Phase.isKnown] using spelled rfl
  | _ => decide

theorem contains_deliveryStates {phase : Phase}
    (spelled : phase.isKnown = false → phase.name ∉ Document.phaseNames) :
    Document.deliveryStates.contains phase.name = phase.isDeliveryState := by
  cases phase with
  | unknown name =>
      have outside : name ∉ Document.phaseNames := spelled rfl
      have among : ∀ state ∈ Document.deliveryStates, state ∈ Document.phaseNames := by decide
      simpa [Phase.isDeliveryState, Phase.name] using fun inside => outside (among name inside)
  | _ => decide

theorem contains_activeStatuses {value : Journal} (spelled : Spelled value) :
    Document.activeStatuses.contains value.status.name = value.status.isActive := by
  cases status_eq : value.status with
  | other name =>
      have outside := spelled.status name status_eq
      have among : ∀ active ∈ Document.activeStatuses, active ∈ Status.all.map Status.name := by
        decide
      simpa [Status.isActive, Status.name] using fun inside => outside (among name inside)
  | _ => decide

theorem name_eq_complete_iff {value : Journal} (spelled : Spelled value) :
    value.status.name = "COMPLETE" ↔ value.status = .complete := by
  cases status_eq : value.status with
  | other name =>
      have outside := spelled.status name status_eq
      constructor
      · rintro rfl
        exact absurd (by decide) outside
      · intro same
        cases same
  | _ => decide

theorem validateEvents_toJson (rt : Runtime) (index : Nat) (previous : Option String)
    (events : List Event) :
    Document.validateEvents rt index (Json.ofText previous) (events.map Event.toJson) =
      .ok ((validateEvents rt index previous events).1,
        Json.ofText (validateEvents rt index previous events).2) := by
  induction events generalizing index previous with
  | nil => rfl
  | cons event rest ih =>
      have later : Document.validateEvents rt (index + 1) (.str event.eventHash)
          (rest.map Event.toJson) = .ok (_, Json.ofText _) := ih (index + 1) (some event.eventHash)
      have number : ((event.sequence : Rat) = index + 1) = (event.sequence = index + 1) := by
        norm_cast
      simp [Event.toJson, Document.validateEvents, Document.isNumber, Document.eventHash,
        validateEvents, later, ofText_injective, number]
      rfl

namespace Journal

variable (value : Journal)

@[simp]
theorem get_phase : Json.get value.members "phase" = .str value.phase.name := by
  simp [members]

@[simp]
theorem get_status : Json.get value.members "status" = .str value.status.name := by
  simp [members]

@[simp]
theorem get_schemaVersion : Json.get value.members "schema_version" = .num value.schemaVersion := by
  simp [members]

@[simp]
theorem get_events : Json.get value.members "events" = .arr (value.events.map Event.toJson) := by
  simp [members]

@[simp]
theorem get_eventHead : Json.get value.members "event_head" = Json.ofText value.eventHead := by
  simp [members]

@[simp]
theorem get_deliverySha : Json.get value.members "delivery_sha" = value.deliverySha := by
  simp [members]

@[simp]
theorem get_subjectSha : Json.get value.members "subject_sha" = value.subjectSha := by
  simp [members]

@[simp]
theorem getOr_monetaryBudgetUsd (default : Json) :
    Document.getOr value.members "monetary_budget_usd" default = .num value.monetaryBudgetUsd := by
  simp [members, Document.getOr, List.lookup_cons]

@[simp]
theorem lookup_revision : value.members.lookup "revision" = some (.num value.revision) := by
  simp [members, List.lookup_cons]

end Journal

variable {rt : Runtime} {file : JournalFile} {directory : FileDirectory}

theorem validate_toJson {value : Journal} (spelled : Spelled value) :
    Document.validate rt value.toJson = .ok (validateJournal rt value) := by
  have events : Document.validateEvents rt 0 .null (value.events.map Event.toJson) =
      .ok (_, Json.ofText _) := validateEvents_toJson rt 0 none value.events
  have known := contains_phaseNames spelled.phase
  have delivered := contains_deliveryStates spelled.phase
  have complete := name_eq_complete_iff spelled
  have budget : Document.budget rt (.num value.monetaryBudgetUsd) =
      .ok value.monetaryBudgetUsd := by
    rw [Document.budget, if_neg]
    exact not_or.mpr ⟨Rat.not_le.mpr spelled.budget.2, Rat.not_le.mpr spelled.budget.1⟩
  have version : ((value.schemaVersion : Rat) = 1) = (value.schemaVersion = 1) := by
    norm_cast
  simp only [Journal.toJson, Document.validate, Journal.get_phase, Journal.get_status,
    Journal.get_schemaVersion, Journal.get_events, Journal.get_eventHead,
    Journal.getOr_monetaryBudgetUsd, budget, events, Document.inSet, delivered, ok_bind,
    Json.textSatisfies, known, Document.isNumber, version, ne_eq, Json.str.injEq, complete,
    ofText_injective, Document.validateDelivery, Journal.get_deliverySha, Journal.get_subjectSha]
  simp [validateJournal]
  rfl

/-! ## The two models of the directory -/

namespace StoredFile

/-- The file as the loader reads it back. -/
def toFile : StoredFile → JournalFile
  | .journal value => .document value.toJson
  | .unreadable => .unreadable

/-- A journal of the file is spelled as the code does. -/
def IsSpelled : StoredFile → Prop
  | .journal value => Spelled value
  | .unreadable => True

end StoredFile

namespace Directory

/-- The directory of parsed documents. -/
def encode (directory : Directory) : FileDirectory :=
  directory.map fun entry => (entry.1, entry.2.toFile)

@[simp]
theorem encode_cons (entry : String × StoredFile) (rest : Directory) :
    encode (entry :: rest) = (entry.1, entry.2.toFile) :: encode rest :=
  rfl

theorem encode_write (directory : Directory) (runId : String) (value : Journal) :
    (directory.write runId (.journal value)).encode =
      directory.encode.write runId (.document value.toJson) := by
  simp [encode, write, FileDirectory.write, StoredFile.toFile, List.filter_map, Function.comp_def]

theorem lookup_encode (directory : Directory) (runId : String) :
    directory.encode.lookup runId = (directory.lookup runId).map StoredFile.toFile := by
  induction directory with
  | nil => rfl
  | cons entry rest ih =>
      obtain ⟨name, file⟩ := entry
      by_cases same : runId = name
      · simp [same]
      · simp [List.lookup_cons, beq_eq_false_iff_ne.mpr same, ih]

theorem currentRevision_encode (rt : Runtime) (directory : Directory) (runId : String) :
    directory.encode.currentRevision rt runId = directory.currentRevision runId := by
  rw [FileDirectory.currentRevision, currentRevision, lookup_encode]
  cases directory.lookup runId with
  | none => rfl
  | some file =>
      cases file with
      | unreadable => rfl
      | journal value =>
          have present : value.toJson.truthy = true := rfl
          simp only [Option.map_some, StoredFile.toFile, Document.revision, present, if_true]
          simp [Journal.toJson]

theorem activeEntry_encode {rt : Runtime} (runId : String) {file : StoredFile}
    (spelled : file.IsSpelled) :
    ∃ found, FileDirectory.activeEntry rt (runId, file.toFile) = .ok found ∧
      found.isSome = (activeEntry rt (runId, file)).isSome := by
  cases file with
  | unreadable => exact ⟨_, rfl, rfl⟩
  | journal value =>
      have active := contains_activeStatuses spelled
      simp only [StoredFile.toFile, FileDirectory.activeEntry, validate_toJson spelled, activeEntry]
      cases validateJournal rt value with
      | cons finding rest => exact ⟨none, rfl, rfl⟩
      | nil =>
          simp only [Journal.toJson, Document.status, Journal.get_status, Document.inSet, active,
            ok_bind, true_and]
          cases value.status.isActive with
          | true => exact ⟨_, rfl, rfl⟩
          | false => exact ⟨_, rfl, rfl⟩

theorem listActive_encode (rt : Runtime) {directory : Directory}
    (spelled : ∀ entry ∈ directory, entry.2.IsSpelled) :
    ∃ found, directory.encode.listActive rt = .ok found ∧
      found.isEmpty = (directory.listActive rt).isEmpty := by
  induction directory with
  | nil => exact ⟨[], rfl, rfl⟩
  | cons entry rest ih =>
      rcases ih fun other inside => spelled other (List.mem_cons_of_mem _ inside) with
        ⟨others, others_eq, same⟩
      rcases activeEntry_encode entry.1 (spelled entry List.mem_cons_self) with
        ⟨first, first_eq, sameFirst⟩
      refine ⟨first.toList ++ others, ?_, ?_⟩
      · rw [encode_cons, FileDirectory.listActive, first_eq, others_eq]
        rfl
      · rw [listActive, List.filterMap_cons]
        cases entryFound : activeEntry rt entry <;>
          cases first <;> simp_all [listActive]

end Directory

theorem newRun_encode {directory : Directory}
    (spelled : ∀ entry ∈ directory, entry.2.IsSpelled) (request : RunRequest) :
    directory.encode.newRun rt request =
      (newRun rt directory request).map fun opened => (opened.1.encode, opened.2) := by
  rcases Directory.listActive_encode rt spelled with ⟨found, found_eq, same⟩
  rw [FileDirectory.newRun, found_eq, ok_bind, newRun, same]
  by_cases inactive : (directory.listActive rt).isEmpty = true
  · rw [require_bind_of inactive, require_bind_of inactive]
    cases request.effectivePolicy with
    | none => rfl
    | some policy =>
        simp only [FileDirectory.save, Directory.save, Directory.currentRevision_encode]
        by_cases named : Directory.isRunId (request.journal policy.policyHash).runId = true
        · rw [require_bind_of named, require_bind_of named]
          cases directory.currentRevision (request.journal policy.policyHash).runId with
          | error error => rfl
          | ok actual =>
              simp only [ok_bind, true_or, require_bind_of]
              exact congrArg (fun written => Except.ok (written, _))
                (Directory.encode_write directory _ _).symm
        · rw [require_bind_of_not named, require_bind_of_not named]
          rfl
  · rw [require_bind_of_not inactive, require_bind_of_not inactive]
    rfl

/-! ## Files `new_run` meets -/

/-- A terminal journal that `validate_journal` accepts. -/
def Concluded (rt : Runtime) : JournalFile → Prop
  | .document value => Document.validate rt value = .ok [] ∧
      Document.inSet Document.terminalStatuses (Document.status value) = .ok true
  | .unreadable => False

/-- A file that stops `new_run`: it cannot be read, `validate_journal` raises on it,
or it is an accepted journal whose status is active or has no hash. -/
def Stopping (rt : Runtime) : JournalFile → Prop
  | .document value => ∀ findings, Document.validate rt value = .ok findings →
      findings = [] ∧
        Document.inSet Document.activeStatuses (Document.status value) ≠ .ok false
  | .unreadable => True

/-- A document `list_active` skips although it is no terminal journal:
`validate_journal` finds something in it, or accepts it with a status of neither kind. -/
def Skipped (rt : Runtime) : JournalFile → Prop
  | .document value => ∃ findings, Document.validate rt value = .ok findings ∧
      (findings ≠ [] ∨
        Document.inSet (Document.activeStatuses ++ Document.terminalStatuses)
          (Document.status value) = .ok false)
  | .unreadable => False

/-- What else `new_run` needs: a policy, a run id of the right form, and a readable
revision in the file it replaces. -/
def Acceptable (rt : Runtime) (directory : FileDirectory) (request : RunRequest) : Prop :=
  request.effectivePolicy.isSome = true ∧ Directory.isRunId request.chosenRunId = true ∧
    ∃ actual, directory.currentRevision rt request.chosenRunId = .ok actual

/-- `new_run` opens a run only over terminal journals, and every file of the
directory is there afterwards. -/
def KeepsJournals (rt : Runtime) (directory : FileDirectory) (request : RunRequest) : Prop :=
  ∀ after start, directory.newRun rt request = .ok (after, start) →
    (∀ entry ∈ directory, Concluded rt entry.2) ∧
      ∀ runId file, directory.lookup runId = some file → after.lookup runId = some file

theorem activeEntry_eq_none_iff (runId : String) :
    FileDirectory.activeEntry rt (runId, file) = .ok none ↔ ¬Stopping rt file := by
  cases file with
  | unreadable => simp [FileDirectory.activeEntry, Stopping]
  | document value =>
      cases validated : Document.validate rt value with
      | error error =>
          simp only [FileDirectory.activeEntry, validated, Stopping]
          split_ifs <;> simp
      | ok findings =>
          cases findings with
          | cons finding rest => simp [FileDirectory.activeEntry, validated, Stopping]
          | nil =>
              simp only [FileDirectory.activeEntry, validated, Stopping]
              cases mem : Document.inSet Document.activeStatuses (Document.status value) with
              | error error => simp [bind, Except.bind]
              | ok active => cases active <;> simp [ok_bind, pure, Except.pure]

theorem listActive_eq_nil_iff :
    directory.listActive rt = .ok [] ↔ ∀ entry ∈ directory, ¬Stopping rt entry.2 := by
  induction directory with
  | nil => simp [FileDirectory.listActive]
  | cons entry rest ih =>
      rw [List.forall_mem_cons, ← ih, ← activeEntry_eq_none_iff entry.1]
      simp only [FileDirectory.listActive, bind_ok_iff]
      constructor
      · rintro ⟨first, first_eq, others, others_eq, appended⟩
        cases first with
        | none =>
            cases appended
            exact ⟨first_eq, others_eq⟩
        | some value => cases appended
      · rintro ⟨first_eq, others_eq⟩
        exact ⟨none, first_eq, [], others_eq, rfl⟩

/-- The journal a successful call stores. -/
def RunRequest.stored (request : RunRequest) (policyHash : String) (revision : Int) : Journal :=
  { request.journal policyHash with revision, updatedAt := .at request.savedAt }

theorem newRunFiles_eq_ok_iff {after : FileDirectory} {request : RunRequest} {start : Journal} :
    directory.newRun rt request = .ok (after, start) ↔ (∀ entry ∈ directory, ¬Stopping rt entry.2) ∧
      ∃ policy, request.effectivePolicy = some policy ∧
        Directory.isRunId request.chosenRunId = true ∧
        ∃ actual, directory.currentRevision rt request.chosenRunId = .ok actual ∧
          start = request.stored policy.policyHash (actual + 1) ∧
          after = directory.write request.chosenRunId (.document start.toJson) := by
  rw [← listActive_eq_nil_iff, FileDirectory.newRun]
  simp only [bind_ok_iff, require_eq_ok_iff, exists_const, List.isEmpty_iff]
  constructor
  · rintro ⟨_, listed, rfl, stored⟩
    refine ⟨listed, ?_⟩
    cases loaded : request.effectivePolicy with
    | none => simp [loaded] at stored
    | some policy =>
        simp only [loaded, FileDirectory.save, bind_ok_iff, require_eq_ok_iff, exists_const]
          at stored
        rcases stored with ⟨named, actual, current, _, written⟩
        cases written
        exact ⟨policy, rfl, named, actual, current, rfl, rfl⟩
  · rintro ⟨listed, policy, loaded, named, actual, current, rfl, rfl⟩
    refine ⟨[], listed, rfl, ?_⟩
    simp only [loaded, FileDirectory.save, bind_ok_iff, require_eq_ok_iff, exists_const]
    exact ⟨named, actual, current, Or.inl trivial, rfl⟩

theorem stopping_stored (rt : Runtime) (request : RunRequest) (policyHash : String)
    (revision : Int) : Stopping rt (.document (request.stored policyHash revision).toJson) := by
  have spelled : Spelled (request.stored policyHash revision) := by
    constructor
    · intro unknown
      cases unknown
    · intro name other
      cases other
    · change -Document.floatLimit < 0 ∧ 0 < Document.floatLimit
      decide +kernel
  have accepted : validateJournal rt (request.stored policyHash revision) = [] := rfl
  intro findings validated
  rw [validate_toJson spelled, accepted] at validated
  cases validated
  refine ⟨rfl, ?_⟩
  simp [Journal.toJson, Document.status, Document.inSet, Document.activeStatuses,
    RunRequest.stored, RunRequest.journal, Status.name]

theorem concluded_iff_not_skipped
    (passed : ¬Stopping rt file) : Concluded rt file ↔ ¬Skipped rt file := by
  cases file with
  | unreadable => exact absurd trivial passed
  | document value =>
      cases validated : Document.validate rt value with
      | error error => simp [Stopping, validated] at passed
      | ok findings =>
          cases findings with
          | cons finding rest => simp [Concluded, Skipped, validated]
          | nil =>
              simp only [Stopping, validated, Concluded, Skipped] at passed ⊢
              generalize Document.status value = status at passed ⊢
              cases status <;> simp_all [Document.inSet]

theorem mem_of_lookup_eq {runId : String}
    (found : directory.lookup runId = some file) : (runId, file) ∈ directory := by
  rcases List.lookup_eq_some_iff.mp found with ⟨before, after, rfl, _⟩
  simp

theorem lookup_write_self (directory : FileDirectory) (runId : String) (file : JournalFile) :
    (directory.write runId file).lookup runId = some file := by
  simp [FileDirectory.write]

theorem lookup_write_of_ne {runId other : String} (differs : other ≠ runId) :
    (directory.write runId file).lookup other = directory.lookup other := by
  rw [FileDirectory.write, List.lookup_cons, beq_eq_false_iff_ne.mpr differs]
  induction directory with
  | nil => rfl
  | cons entry rest ih =>
      obtain ⟨name, stored⟩ := entry
      by_cases same : other = name
      · subst same
        simp [differs]
      · by_cases replaced : name = runId
        · subst replaced
          simpa [List.lookup_cons, beq_eq_false_iff_ne.mpr same] using ih
        · simpa [List.lookup_cons, beq_eq_false_iff_ne.mpr same, replaced] using ih

/-- `new_run` keeps every journal exactly when it is refused, or the directory holds
no skipped document and no file of the chosen run id. -/
theorem keepsJournals_iff (rt : Runtime) (directory : FileDirectory) (request : RunRequest) :
    KeepsJournals rt directory request ↔
      (∃ entry ∈ directory, Stopping rt entry.2) ∨ ¬Acceptable rt directory request ∨
        ((∀ entry ∈ directory, ¬Skipped rt entry.2) ∧
          directory.lookup request.chosenRunId = none) := by
  constructor
  · intro keeps
    by_cases stops : ∃ entry ∈ directory, Stopping rt entry.2
    · exact Or.inl stops
    by_cases acceptable : Acceptable rt directory request
    · have passed : ∀ entry ∈ directory, ¬Stopping rt entry.2 := fun entry inside stopping =>
        stops ⟨entry, inside, stopping⟩
      rcases acceptable with ⟨loaded, named, actual, current⟩
      rcases Option.isSome_iff_exists.mp loaded with ⟨policy, policy_eq⟩
      rcases keeps _ _ (newRunFiles_eq_ok_iff.mpr
        ⟨passed, policy, policy_eq, named, actual, current, rfl, rfl⟩) with ⟨concluded, kept⟩
      refine Or.inr (Or.inr ⟨?_, ?_⟩)
      · intro entry inside
        exact (concluded_iff_not_skipped (passed entry inside)).mp (concluded entry inside)
      · cases found : directory.lookup request.chosenRunId with
        | none => rfl
        | some file =>
            -- a kept file of the run id would be the new journal itself, which stops the call
            have same := kept _ _ found
            rw [lookup_write_self] at same
            cases same
            exact absurd (stopping_stored rt request policy.policyHash (actual + 1))
              (passed _ (mem_of_lookup_eq found))
    · exact Or.inr (Or.inl acceptable)
  · intro condition after start opened
    rcases newRunFiles_eq_ok_iff.mp opened with
      ⟨passed, policy, loaded, named, actual, current, start_eq, after_eq⟩
    have acceptable : Acceptable rt directory request :=
      ⟨by rw [loaded]; rfl, named, actual, current⟩
    rcases condition with ⟨entry, inside, stopping⟩ | refused | ⟨unskipped, fresh⟩
    · exact absurd stopping (passed entry inside)
    · exact absurd acceptable refused
    · constructor
      · intro entry inside
        exact (concluded_iff_not_skipped (passed entry inside)).mpr (unskipped entry inside)
      · intro runId file found
        have differs : runId ≠ request.chosenRunId := by
          rintro rfl
          rw [fresh] at found
          cases found
        rw [after_eq, lookup_write_of_ne differs, found]

/-- The running journal of `plainRequest` under an event head of no event. -/
def tamperedStart : Journal :=
  { plainStart with eventHead := some "0" }

theorem validate_tamperedStart :
    Document.validate plainRuntime tamperedStart.toJson = .ok ["EVENT_HEAD"] := by
  decide +kernel

/-- Beside the tampered journal of a running run, `new_run` opens a second run. -/
theorem not_keepsJournals : ¬ ∀ (rt : Runtime) (directory : FileDirectory) (request : RunRequest),
      KeepsJournals rt directory request := by
  intro keeps
  have passed : ∀ entry ∈ [("run-0001", JournalFile.document tamperedStart.toJson)],
      ¬Stopping plainRuntime entry.2 := by
    intro entry inside stopping
    cases List.mem_singleton.mp inside
    have silent := (stopping _ validate_tamperedStart).1
    cases silent
  rcases keeps _ _ _ _ _ (newRunFiles_eq_ok_iff.mpr ⟨passed, plainPolicy,
    (rfl : RunRequest.effectivePolicy { plainRequest with uuid := "run-0002" } = _),
    by decide, -1, rfl, rfl, rfl⟩) with ⟨concluded, _⟩
  have accepted := (concluded _ List.mem_cons_self).1
  rw [validate_tamperedStart] at accepted
  cases accepted

end Adwf.Orchestrator
