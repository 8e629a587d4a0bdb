import Adwf.Orchestrator.ExactSha

/-!
# One open run on a root

`newRun` refuses while `listActive` reports a run.  It reports a journal only
when the journal is valid and its status is an active one, so the directory
holds one open run as long as every open journal is reported.
-/

namespace Adwf.Orchestrator

open Adwf.Run Adwf.Fallible

/-- The file may still be advanced: its status is neither COMPLETE nor BLOCKED,
or cannot be read. -/
def isOpen : String × StoredFile → Bool
  | (_, .journal value) => !value.status.isTerminal
  | (_, .unreadable) => true

/-- The number of open runs of a directory. -/
def openRuns (directory : Directory) : Nat :=
  directory.countP isOpen

/-- A call on the root. -/
inductive RootCall where
  | newRun (request : RunRequest)
  | advance (runId : String) (call : StepCall)

/-- The directory after a call, however the call ends. -/
def rootStep (rt : Runtime) (directory : Directory) : RootCall → Directory
  | .newRun request =>
      match newRun rt directory request with
      | .ok (after, _) => after
      | .error _ => directory
  | .advance runId call =>
      match advance rt directory runId call with
      | .ok (after, _) => after
      | .error _ => directory

/-- An open journal is valid and its status is one of `ACTIVE_STATUSES`. -/
def Reportable (rt : Runtime) : String × StoredFile → Prop
  | (_, .journal value) => value.status.isTerminal = false →
      validateJournal rt value = [] ∧ value.status.isActive = true
  | (_, .unreadable) => True

instance (rt : Runtime) : DecidablePred (Reportable rt)
  | (_, .journal _) => inferInstanceAs (Decidable (_ → _))
  | (_, .unreadable) => .isTrue trivial

/-- The condition on a `new_run` call: every journal of the directory that is
open is valid and active. -/
def OpenRunsReported (rt : Runtime) (directory : Directory) : RootCall → Prop
  | .newRun _ => ∀ entry ∈ directory, Reportable rt entry
  | .advance _ _ => True

instance (rt : Runtime) (directory : Directory) :
    DecidablePred (OpenRunsReported rt directory)
  | .newRun _ => inferInstanceAs (Decidable (∀ entry ∈ directory, _))
  | .advance _ _ => .isTrue trivial

/-- `new_run` succeeds only when every run of the directory is terminal. -/
def OpensAlone (rt : Runtime) (directory : Directory) : RootCall → Prop
  | .newRun request => ∀ opened, newRun rt directory request = .ok opened →
      ∀ entry ∈ directory, isOpen entry = false
  | .advance _ _ => True

/-- A directory of reachable roots: files carry the run id they are named by,
and at most one is open. -/
structure SingleRun (directory : Directory) : Prop where
  named : ∀ runId value, (runId, StoredFile.journal value) ∈ directory → value.runId = runId
  alone : openRuns directory ≤ 1

/-! ## The directory -/

theorem openRuns_write (directory : Directory) (runId : String) (file : StoredFile) :
    openRuns (directory.write runId file) =
      openRuns (directory.filter fun entry => entry.1 ≠ runId) +
        if isOpen (runId, file) then 1 else 0 := by
  rw [Directory.write, openRuns, List.countP_cons]
  rfl

variable {directory : Directory} {runId : String} {rt : Runtime}

theorem openRuns_filter_lt {file : StoredFile}
    (found : directory.lookup runId = some file) (isOpenFile : isOpen (runId, file) = true) :
    openRuns (directory.filter fun entry => entry.1 ≠ runId) < openRuns directory := by
  induction directory with
  | nil => cases found
  | cons entry rest ih =>
      obtain ⟨name, stored⟩ := entry
      have others : openRuns (rest.filter fun entry => entry.1 ≠ runId) ≤ openRuns rest :=
        List.Sublist.countP_le List.filter_sublist
      rw [List.lookup_cons] at found
      by_cases same : runId = name
      · subst same
        simp only [BEq.rfl, Option.some.injEq] at found
        subst found
        simpa [openRuns, isOpenFile] using Nat.lt_succ_of_le others
      · have differs : (runId == name) = false := beq_eq_false_iff_ne.mpr same
        simp only [differs] at found
        have kept := ih found
        by_cases opened : isOpen (name, stored) = true <;>
          simp_all [openRuns, Ne.symm same]

theorem named_write {value : Journal}
    (named : ∀ runId value, (runId, StoredFile.journal value) ∈ directory → value.runId = runId)
    (own : value.runId = runId) :
    ∀ name stored, (name, StoredFile.journal stored) ∈ directory.write runId (.journal value) →
      stored.runId = name := by
  intro name stored inside
  rcases List.mem_cons.mp inside with new | old
  · cases new
    exact own
  · exact named name stored (List.mem_filter.mp old).1

theorem mem_of_lookup {file : StoredFile}
    (found : directory.lookup runId = some file) : (runId, file) ∈ directory := by
  induction directory with
  | nil => cases found
  | cons entry rest ih =>
      obtain ⟨name, stored⟩ := entry
      rw [List.lookup_cons] at found
      by_cases same : runId = name
      · subst same
        simp only [BEq.rfl, Option.some.injEq] at found
        subst found
        exact List.mem_cons_self
      · have differs : (runId == name) = false := beq_eq_false_iff_ne.mpr same
        simp only [differs] at found
        exact List.mem_cons_of_mem _ (ih found)

/-! ## The calls -/

theorem opensAlone_of_reported {call : RootCall}
    (reported : OpenRunsReported rt directory call) : OpensAlone rt directory call := by
  cases call with
  | advance runId call => trivial
  | newRun request =>
      rintro ⟨after, start⟩ ran ⟨runId, file⟩ inside
      obtain ⟨inactive, _⟩ := newRun_eq_ok ran
      have silent : Directory.activeEntry rt (runId, file) = none :=
        List.filterMap_eq_nil_iff.mp inactive _ inside
      cases file with
      | unreadable => simp [Directory.activeEntry] at silent
      | journal value =>
          by_contra opened
          have running : value.status.isTerminal = false := by simpa [isOpen] using opened
          have listed := reported _ inside running
          simp [Directory.activeEntry, listed] at silent

theorem saved_runId {state next : Journal} {call : StepCall}
    (saved : Saved rt state call next) : next.runId = state.runId := by
  cases saved with
  | overdue | refused => rfl
  | applied => exact (applyOutcome_frame _ _).runId

theorem advance_eq_ok {after : Directory} {call : StepCall} {ran : Journal}
    (advanced : advance rt directory runId call = .ok (after, ran)) :
    after = directory ∨ ∃ state, directory.lookup runId = some (.journal state) ∧
      state.status.isTerminal = false ∧ ran.runId = state.runId ∧
      after = directory.write state.runId (.journal ran) := by
  simp only [advance, bind_ok_iff] at advanced
  obtain ⟨state, loaded, step, stepped, stored⟩ := advanced
  cases step with
  | unchanged =>
      cases stored
      exact Or.inl rfl
  | save next =>
      obtain ⟨running, saved⟩ := saved_of_advanceState stepped
      have sameRun := saved_runId saved
      obtain ⟨actual, _, _, rfl, rfl⟩ := save_eq_ok stored
      simp only [Directory.load, bind_ok_iff, require_eq_ok_iff, exists_const] at loaded
      obtain ⟨_, found⟩ := loaded
      split at found
      · cases found
      · cases found
      · rename_i value looked
        split_ifs at found
        cases found
        exact Or.inr ⟨state, looked, running, sameRun, by rw [sameRun]⟩

theorem singleRun_rootStep {call : RootCall}
    (single : SingleRun directory) (reported : OpenRunsReported rt directory call) :
    SingleRun (rootStep rt directory call) := by
  have alone := opensAlone_of_reported reported
  cases call with
  | newRun request =>
      simp only [rootStep]
      split
      · rename_i after start ran
        obtain ⟨_, policy, revision, _, start_eq, rfl⟩ := newRun_eq_ok ran
        refine ⟨named_write single.named (by rw [start_eq]; rfl), ?_⟩
        have none_open : openRuns (directory.filter fun entry => entry.1 ≠ request.chosenRunId) =
            0 := by
          rw [openRuns, List.countP_eq_zero]
          intro entry inside
          simp [alone _ ran entry (List.mem_filter.mp inside).1]
        rw [openRuns_write, none_open]
        split_ifs <;> simp
      · exact single
  | advance runId call =>
      simp only [rootStep]
      split
      · rename_i after ran advanced
        rcases advance_eq_ok advanced with rfl | ⟨state, found, running, sameRun, rfl⟩
        · exact single
        · have own := single.named runId state (mem_of_lookup found)
          refine ⟨named_write single.named sameRun, ?_⟩
          have fewer := openRuns_filter_lt found (by simp [isOpen, running])
          have atMost := single.alone
          rw [openRuns_write, own]
          split_ifs <;> omega
      · exact single

/-- At most one open run: over every sequence of `new_run` and `advance_run`
calls on an empty root in which each `new_run` finds all open journals valid and
active, no state holds two open runs and `new_run` opens only among terminal
ones. -/
theorem singleRun_of_reported (rt : Runtime) (calls : List RootCall)
    (reported : Along (rootStep rt) (OpenRunsReported rt) [] calls) :
    Always (rootStep rt) (fun directory => openRuns directory ≤ 1) [] calls ∧
      Along (rootStep rt) (OpensAlone rt) [] calls := by
  have initial : SingleRun [] := ⟨by simp, by simp [openRuns]⟩
  have single : Always (rootStep rt) SingleRun [] calls :=
    always_of_guarded (fun _ _ => singleRun_rootStep) initial reported
  exact ⟨single.imp fun _ kept => kept.alone, reported.imp fun _ _ => opensAlone_of_reported⟩

/-- One run opened and advanced, then a second `new_run`, which is refused. -/
theorem singleRun_of_reported_twice :
    Always (rootStep plainRuntime) (fun directory => openRuns directory ≤ 1) []
      [.newRun plainRequest, .advance "run-0001" (passCall .reconcile),
        .newRun { plainRequest with uuid := "run-0002" }] :=
  (singleRun_of_reported plainRuntime _ (by decide +kernel)).1

/-- A step that the policy blocks leaves the status `BLOCK`, which is neither
active nor terminal: `new_run` then opens a second run. -/
theorem not_always_single_run : ¬ ∀ (rt : Runtime) (calls : List RootCall),
      Always (rootStep rt) (fun directory => openRuns directory ≤ 1) [] calls := by
  intro single
  have last := (single plainRuntime
    [.newRun plainRequest, .advance "run-0001" { passCall .reconcile with effectivePolicy := none },
      .newRun { plainRequest with uuid := "run-0002" }]).final
  revert last
  decide +kernel

end Adwf.Orchestrator
