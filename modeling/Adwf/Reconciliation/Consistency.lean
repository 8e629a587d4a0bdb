import Adwf.Reconciliation.Coherence
import Mathlib.Data.List.Dedup

/-!
# When the snapshot agrees with itself

The error of the cost guard is appended after the health of `main` and the
merge train are derived.  Alone, it puts the snapshot into recovery while both
still say that all is well.
-/

namespace Adwf.Reconciliation

/-! ## Work items -/

section Items

variable {tools : Tools} {graph : GraphReport} {items : List WorkItem} {pulls : List Pull}

theorem sortedBy_eq_nil_iff {ids : List String} : Ranked.sortedBy id ids = [] ↔ ids = [] := by
  rw [Ranked.sortedBy, ← List.length_eq_zero_iff, List.length_insertionSort,
    List.length_eq_zero_iff]

theorem duplicateErrors_eq_nil_iff :
    duplicateErrors items = [] ↔ (items.map WorkItem.roadmapId).Nodup := by
  rw [duplicateErrors, errorIf_eq_nil_iff, decide_eq_false_iff_not, not_not, duplicates,
    sortedBy_eq_nil_iff, List.filter_eq_nil_iff, List.nodup_iff_count_eq_one]
  simp only [List.mem_dedup, decide_eq_true_eq, not_not]

theorem dependencyErrors_eq_nil_iff : dependencyErrors graph items = [] ↔
      ∀ item ∈ items, item.dependenciesResolved = actualResolved graph items item := by
  simp [dependencyErrors]

theorem activeItems_resolvedItems : activeItems (resolvedItems tools graph items) =
      (activeItems items).map (resolvedItem tools graph items) := by
  rw [resolvedItems, activeItems, List.filter_map]
  rfl

theorem activeOf_resolved {active : List WorkItem} :
    activeOf tools pulls (active.map (resolvedItem tools graph items)) =
      activeOf tools pulls active := by
  match active with
  | [] => rfl
  | [_] => rfl
  | _ :: _ :: _ => rfl

theorem splitBrainErrors_resolved {active : Active} {working : List WorkItem}
    {workspace : RuntimeWorkspace} :
    splitBrainErrors active (working.map (resolvedItem tools graph items)) workspace =
      splitBrainErrors active working workspace := by
  match working with
  | [] => rfl
  | _ :: _ => rfl

end Items

/-! ## Coherent facts -/

section Whole

variable (tools : Tools) (inputs : Inputs)

/-- The items of the open issues. -/
def liveItems : List WorkItem :=
  inputs.issues.filterMap (liveItem tools inputs.config)

/-- The `DONE` records of the closed issues. -/
def doneRecords : List (Issue × Marker) :=
  inputs.issues.filterMap (doneRecord tools)

/-- The items that the facts name: the live ones and their finished dependencies. -/
def namedItems : List WorkItem :=
  liveItems tools inputs ++ (requiredDone (liveItems tools inputs)).filterMap
    (doneItem tools inputs.config (doneRecords tools inputs))

/-- What is recorded of the active item before the workspaces are read. -/
def declared : Active :=
  (activeOf tools inputs.pulls (activeItems (namedItems tools inputs))).1

/-- An occupied workspace is the one of the active item. -/
structure Occupies (workspace : RuntimeWorkspace) : Prop where
  writer : present (declared tools inputs).writer = true →
    (declared tools inputs).writer = workspace.workerId
  lease : present (declared tools inputs).leaseId = true →
    (declared tools inputs).leaseId = workspace.leaseId
  workspace : ∀ item ∈ (activeItems (namedItems tools inputs)).head?,
    item.workspaceId = workspace.workspaceId

/-- The facts contradict neither each other nor the contracts of the issues. -/
structure Coherent : Prop where
  mainSha : Text.isSha40 inputs.mainSha = true
  provider : inputs.config.providerMode = some inputs.provider
  issues : ∀ issue ∈ inputs.issues, InOrder tools inputs.config inputs.now issue
  terminal : ∀ roadmapId ∈ requiredDone (liveItems tools inputs),
    DoneInOrder tools inputs.config inputs.now (doneRecords tools inputs) roadmapId
  distinct : ((namedItems tools inputs).map WorkItem.roadmapId).Nodup
  graph : (tools.validateRoadmapGraph (namedItems tools inputs)).errors = []
  resolved : ∀ item ∈ namedItems tools inputs, item.dependenciesResolved =
    actualResolved (tools.validateRoadmapGraph (namedItems tools inputs))
      (namedItems tools inputs) item
  oneActive : (activeItems (namedItems tools inputs)).length ≤ 1
  onePull : ∀ item ∈ activeItems (namedItems tools inputs),
    (matchingPulls tools inputs.pulls item).length ≤ 1
  oneWorkspace : (runtimeWorkspaces inputs.workspaces).length ≤ 1
  occupies : ∀ workspace ∈ runtimeWorkspaces inputs.workspaces, Occupies tools inputs workspace

variable {tools inputs}

theorem entryErrors_eq_nil_iff : entryErrors inputs = [] ↔
      Text.isSha40 inputs.mainSha = true ∧ inputs.config.providerMode = some inputs.provider := by
  rw [entryErrors, List.append_eq_nil_iff, errorIf_eq_nil_iff, errorIf_eq_nil_iff,
    Bool.not_eq_false', decide_eq_false_iff_not, not_not]
  exact and_congr_right fun _ => eq_comm

theorem readIssues_errors_eq_nil_iff : (readIssues tools inputs).errors = [] ↔
      entryErrors inputs = [] ∧ ∀ issue ∈ inputs.issues, InOrder tools inputs.config inputs.now issue :=
  foldl_readIssue_errors_eq_nil_iff

theorem readIssues_of_inOrder
    (inOrder : ∀ issue ∈ inputs.issues, InOrder tools inputs.config inputs.now issue) :
    (readIssues tools inputs).workItems = liveItems tools inputs ∧
      (readIssues tools inputs).deferredDone = doneRecords tools inputs := by
  rw [readIssues, foldl_readIssue_of_inOrder inOrder]
  exact ⟨List.nil_append _, List.nil_append _⟩

theorem readAll_errors_eq_nil_iff : (readAll tools inputs).errors = [] ↔ entryErrors inputs = [] ∧
      (∀ issue ∈ inputs.issues, InOrder tools inputs.config inputs.now issue) ∧
      ∀ roadmapId ∈ requiredDone (liveItems tools inputs),
        DoneInOrder tools inputs.config inputs.now (doneRecords tools inputs) roadmapId := by
  rw [readAll, foldl_readDone_errors_eq_nil_iff, readIssues_errors_eq_nil_iff, and_assoc]
  constructor
  · rintro ⟨quiet, inOrder, terminal⟩
    obtain ⟨live, done⟩ := readIssues_of_inOrder inOrder
    rw [live, done] at terminal
    exact ⟨quiet, inOrder, terminal⟩
  · rintro ⟨quiet, inOrder, terminal⟩
    obtain ⟨live, done⟩ := readIssues_of_inOrder inOrder
    rw [live, done]
    exact ⟨quiet, inOrder, terminal⟩

theorem readAll_workItems (quiet : (readAll tools inputs).errors = []) :
    (readAll tools inputs).workItems = namedItems tools inputs := by
  obtain ⟨_, inOrder, terminal⟩ := readAll_errors_eq_nil_iff.mp quiet
  obtain ⟨live, done⟩ := readIssues_of_inOrder inOrder
  rw [← live, ← done] at terminal
  rw [readAll, foldl_readDone_of_inOrder terminal, live, done]
  rfl

theorem withPull_errors_eq_nil_iff {active : Active} {pulls : List Pull} :
    (withPull tools active pulls).2 = [] ↔ pulls.length ≤ 1 := by
  match pulls with
  | [] => simp [withPull]
  | [_] => simp [withPull]
  | _ :: _ :: _ => simp [withPull]

theorem activeOf_errors_eq_nil_iff {active : List WorkItem} (one : active.length ≤ 1) :
    (activeOf tools inputs.pulls active).2 = [] ↔
      ∀ item ∈ active, (matchingPulls tools inputs.pulls item).length ≤ 1 := by
  match active with
  | [] => simp [activeOf]
  | [item] => rw [activeOf, withPull_errors_eq_nil_iff, List.forall_mem_singleton]
  | first :: second :: others => simp at one

theorem splitBrainErrors_eq_nil_iff {workspace : RuntimeWorkspace} :
    splitBrainErrors (declared tools inputs) (activeItems (namedItems tools inputs)) workspace = [] ↔
      Occupies tools inputs workspace := by
  rw [splitBrainErrors, List.append_eq_nil_iff, List.append_eq_nil_iff, errorIf_eq_nil_iff,
    errorIf_eq_nil_iff, errorIf_eq_nil_iff]
  simp only [Bool.and_eq_false_imp, decide_eq_false_iff_not, not_not]
  have same : Option.any (fun item : WorkItem => decide (item.workspaceId ≠ workspace.workspaceId))
        (activeItems (namedItems tools inputs)).head? = false ↔
      ∀ item ∈ (activeItems (namedItems tools inputs)).head?,
        item.workspaceId = workspace.workspaceId := by
    cases (activeItems (namedItems tools inputs)).head? <;> simp
  rw [same]
  constructor
  · rintro ⟨⟨writer, lease⟩, same⟩
    exact ⟨writer, lease, same⟩
  · rintro ⟨writer, lease, same⟩
    exact ⟨⟨writer, lease⟩, same⟩

theorem workspaceOf_errors_eq_nil_iff {active : Active} {items : List WorkItem}
    {rt : List RuntimeWorkspace} : (workspaceOf active items rt).2.2 = [] ↔
      rt.length ≤ 1 ∧ ∀ workspace ∈ rt, splitBrainErrors active items workspace = [] := by
  match rt with
  | [] => simp [workspaceOf]
  | [workspace] => simp [workspaceOf]
  | first :: second :: others => simp [workspaceOf]

theorem opened_of_quiet (quiet : (readAll tools inputs).errors = []) : opened tools inputs =
        activeOf tools inputs.pulls (activeItems (namedItems tools inputs)) ∧
      (activeItems (items tools inputs)).length = (activeItems (namedItems tools inputs)).length ∧
      ∀ active workspace, splitBrainErrors active (activeItems (items tools inputs)) workspace =
        splitBrainErrors active (activeItems (namedItems tools inputs)) workspace := by
  have listed : activeItems (items tools inputs) = (activeItems (namedItems tools inputs)).map
      (resolvedItem tools (graph tools inputs) (namedItems tools inputs)) := by
    rw [items, readAll_workItems quiet, activeItems_resolvedItems]
  refine ⟨?_, ?_, fun active workspace => ?_⟩
  · rw [opened, listed, activeOf_resolved]
  · rw [listed, List.length_map]
  · rw [listed, splitBrainErrors_resolved]

theorem occupied_errors_eq_nil_iff (quiet : (readAll tools inputs).errors = []) :
    (occupied tools inputs).2.2 = [] ↔ (runtimeWorkspaces inputs.workspaces).length ≤ 1 ∧
        ∀ workspace ∈ runtimeWorkspaces inputs.workspaces, Occupies tools inputs workspace := by
  obtain ⟨same, _, brains⟩ := opened_of_quiet quiet
  rw [occupied, workspaceOf_errors_eq_nil_iff, same]
  simp only [brains]
  constructor
  · rintro ⟨one, agrees⟩
    exact ⟨one, fun workspace inside => splitBrainErrors_eq_nil_iff.mp (agrees workspace inside)⟩
  · rintro ⟨one, occupies⟩
    exact ⟨one, fun workspace inside => splitBrainErrors_eq_nil_iff.mpr (occupies workspace inside)⟩

/-- The checks before the cost guard report nothing exactly when the facts are coherent. -/
theorem found_eq_nil_iff : found tools inputs = [] ↔ Coherent tools inputs := by
  simp only [found, List.append_eq_nil_iff, duplicateErrors_eq_nil_iff, List.map_eq_nil_iff,
    dependencyErrors_eq_nil_iff, errorIf_eq_nil_iff, decide_eq_false_iff_not, not_lt]
  constructor
  · rintro ⟨⟨⟨⟨⟨⟨quiet, distinct⟩, acyclic⟩, resolved⟩, oneActive⟩, onePull⟩, workspaces⟩
    obtain ⟨entered, inOrder, terminal⟩ := readAll_errors_eq_nil_iff.mp quiet
    obtain ⟨same, length, _⟩ := opened_of_quiet quiet
    obtain ⟨oneWorkspace, occupies⟩ := (occupied_errors_eq_nil_iff quiet).mp workspaces
    rw [graph] at acyclic resolved
    rw [readAll_workItems quiet] at distinct acyclic resolved
    rw [length] at oneActive
    rw [same, activeOf_errors_eq_nil_iff oneActive] at onePull
    obtain ⟨mainSha, provider⟩ := entryErrors_eq_nil_iff.mp entered
    exact { mainSha, provider, issues := inOrder, terminal, distinct, graph := acyclic, resolved,
            oneActive, onePull, oneWorkspace, occupies }
  · intro coherent
    have quiet : (readAll tools inputs).errors = [] :=
      readAll_errors_eq_nil_iff.mpr ⟨entryErrors_eq_nil_iff.mpr
        ⟨coherent.mainSha, coherent.provider⟩, coherent.issues, coherent.terminal⟩
    obtain ⟨same, length, _⟩ := opened_of_quiet quiet
    rw [graph, readAll_workItems quiet, length, same, activeOf_errors_eq_nil_iff coherent.oneActive]
    exact ⟨⟨⟨⟨⟨⟨quiet, coherent.distinct⟩, coherent.graph⟩, coherent.resolved⟩,
      coherent.oneActive⟩, coherent.onePull⟩,
      (occupied_errors_eq_nil_iff quiet).mpr ⟨coherent.oneWorkspace, coherent.occupies⟩⟩

/-! ## The verdicts of the snapshot -/

/-- The snapshot is in recovery exactly when each of its other verdicts is bad. -/
structure Consistent (snapshot : Snapshot) : Prop where
  main : snapshot.status = .recovery ↔ snapshot.mainHealth = .fail
  mergeTrain : snapshot.status = .recovery ↔ snapshot.orchestration.mergeTrain = .blocked
  adwf : snapshot.status = .recovery ↔ snapshot.adwfHealth = .broken

/-- Every verdict of the snapshot is bad. -/
structure ReportsError (snapshot : Snapshot) : Prop where
  status : snapshot.status = .recovery
  main : snapshot.mainHealth = .fail
  mergeTrain : snapshot.orchestration.mergeTrain = .blocked
  adwf : snapshot.adwfHealth = .broken

variable (tools inputs)

theorem reconcileSnapshot_status : (reconcileSnapshot tools inputs).status =
    if allErrors tools inputs = [] then .active else .recovery := by
  rw [reconcileSnapshot, output]

theorem reconcileSnapshot_mainHealth : (reconcileSnapshot tools inputs).mainHealth =
    if found tools inputs = [] then .pass else .fail := by
  rw [reconcileSnapshot, output]

theorem reconcileSnapshot_mergeTrain : (reconcileSnapshot tools inputs).orchestration.mergeTrain =
    if found tools inputs = [] then .idle else .blocked := by
  rw [reconcileSnapshot, output]

theorem reconcileSnapshot_adwfHealth : (reconcileSnapshot tools inputs).adwfHealth =
    if allErrors tools inputs = [] then .verified else .broken := by
  rw [reconcileSnapshot, output]

/-- What a snapshot owes its reader. -/
def Truthful (snapshot : Snapshot) : Prop :=
  Consistent snapshot ∧ (allErrors tools inputs ≠ [] → ReportsError snapshot)

/-- The verdicts agree with each other and with the errors exactly when the cost guard allows or
another check has found an error. -/
theorem reconcileSnapshot_truthful_iff : Truthful tools inputs (reconcileSnapshot tools inputs) ↔
      inputs.cost.result = some "ALLOW" ∨ ¬Coherent tools inputs := by
  rw [← found_eq_nil_iff]
  have status := reconcileSnapshot_status tools inputs
  have main := reconcileSnapshot_mainHealth tools inputs
  have train := reconcileSnapshot_mergeTrain tools inputs
  have adwf := reconcileSnapshot_adwfHealth tools inputs
  have costs : costErrors inputs.cost = [] ↔ inputs.cost.result = some "ALLOW" := by
    simp [costErrors]
  constructor
  · rintro ⟨consistent, _⟩
    by_contra neither
    rw [not_or, not_not] at neither
    have blocked : allErrors tools inputs ≠ [] := by
      intro quiet
      exact neither.1 (costs.mp (List.append_eq_nil_iff.mp quiet).2)
    rw [if_neg blocked] at status
    rw [if_pos neither.2] at main
    have failed := consistent.main.mp status
    rw [main] at failed
    cases failed
  · intro known
    by_cases quiet : allErrors tools inputs = []
    · have early : found tools inputs = [] := (List.append_eq_nil_iff.mp quiet).1
      rw [if_pos quiet] at status adwf
      rw [if_pos early] at main train
      exact ⟨by constructor <;> simp [status, main, train, adwf], fun error => absurd quiet error⟩
    · have early : found tools inputs ≠ [] := by
        rcases known with allowed | other
        · intro none
          exact quiet (List.append_eq_nil_iff.mpr ⟨none, costs.mpr allowed⟩)
        · exact other
      rw [if_neg quiet] at status adwf
      rw [if_neg early] at main train
      exact ⟨by constructor <;> simp [status, main, train, adwf],
        fun _ => ⟨status, main, train, adwf⟩⟩

end Whole

/-- Tools that find nothing to parse. -/
def sampleTools : Tools where
  parseIssueForm _ _ title _ _ :=
    ({ roadmapId := "", title := title, priority := "P1", risk := "R1", type := "feature",
       goal := "", dependenciesResolved := true, humanRequired := false,
       autonomyAllowed := false, productImpact := false, roadmapOrder := -1 },
      ["ISSUE_FORM_FIELD_MISSING:roadmap_id"])
  issueQuality _ := { status := "FAIL" }
  parseIssueMarker _ := {}
  parsePullContract _ := {}
  parseTime _ := none
  lower text := text
  validateRoadmapGraph _ := { status := "PASS" }
  criticalPathScores _ _ := []
  normalizedRuns _ _ := .null
  deriveVerifiedProgress _ _ _ := .null
  iso _ := ""
  digest _ := ""

/-- A snapshot in which all is well. -/
def sampleSnapshot : Snapshot where
  providerMode := "github"
  mainHead := "0123456789012345678901234567890123456789"
  mainHealth := .pass
  queue := ⟨0, 0, 0, 0, 0⟩
  workItems := []
  active := {}
  workspace := {}
  orchestration := ⟨0, 0, 0, 0, .idle⟩
  ciMetrics := .null
  costUsage := []
  projection := "N/A"
  provenance := ⟨"", "", "", ""⟩
  adwfHealth := .verified
  roadmapHealth := .notVerified
  productHealth := some "VERIFIED"
  status := .active
  blockers := []
  ownerDecisions := []
  lastReconciledAt := none
  lastVerifiedAt := none
  progress := .null

/-- No issues, no pull requests, and a cost guard that knows no free provider. -/
def sampleInputs : Inputs where
  previous := sampleSnapshot
  config := { providerMode := some "github" }
  provider := "github"
  mainSha := "0123456789012345678901234567890123456789"
  issues := []
  pulls := []
  runs := []
  cost := { result := some "BLOCK", reasonCodes := ["UNKNOWN_PROVIDER"] }
  workspaces := []
  now := 0

/-- The snapshot is in recovery while the merge train is idle and `main` passes. -/
theorem costGuard_alone_not_truthful :
    ¬Truthful sampleTools sampleInputs (reconcileSnapshot sampleTools sampleInputs) := by
  rintro ⟨consistent, _⟩
  have recovering : (reconcileSnapshot sampleTools sampleInputs).status = .recovery := by decide
  have failed := consistent.main.mp recovering
  revert failed
  decide

end Adwf.Reconciliation
