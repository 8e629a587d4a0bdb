import Adwf.Orchestrator.Serialized
import Adwf.Supervisor.Delivery

/-!
# A rejected result in the store

A tick takes the stored result of a phase before it asks an executor, and a
rejection leaves the run in its state.  The same result is then handed over
again, and the run moves only if the journal can record that very result.
-/

namespace Adwf.Supervisor

open Adwf.Fallible Adwf.Program Adwf.Orchestrator

section Wedged

variable (rt : Runtime) (isInstant : String → Bool) (sha256 : String → String)
variable (runId : String) (state : Journal) (fields : Fields)

/-- An open run as the journal loads it. -/
structure OpenRun : Prop where
  identified : Directory.isRunId runId = true
  named : state.runId = runId
  valid : validateJournal rt state = []
  running : state.status.isTerminal = false

/-- The run is in `state`, and the file of its phase holds `fields`. -/
structure Waiting (disk : Disk) : Prop where
  held : disk.journals.lookup runId = some (.journal state)
  stored : ∃ author, disk.results (keyOf state) = some ⟨.value (.obj fields), author⟩

/-- The journal of the run has recorded a step since `state`. -/
def Advanced (disk : Disk) : Prop :=
  ∃ file, disk.journals.lookup runId = some (.journal file) ∧
    state.events.length < file.events.length

/-- `advance_run_trusted` rejects the result in some surroundings. -/
def Rejected : Prop :=
  ∃ call error, call.stepResult = fields ∧ call.trustedContext.isSome = true ∧
    advanceRun rt state call = .error error

/-- One tick on the run with any executors and agents, stopped after any of its calls. -/
def RunTick (disk later : Disk) : Prop :=
  ∃ maxSteps program, Reachable (diskWorld rt isInstant sha256 fun _ _ => True)
      ⟨disk, fun _ => tick rt isInstant sha256 runId maxSteps⟩ ⟨later, program⟩

/-- Any number of ticks on the run. -/
abbrev RunTicks : Disk → Disk → Prop :=
  Relation.ReflTransGen (RunTick rt isInstant sha256 runId)

/-- The journal can record the result: it is under the key of the state, the key is not
recorded yet, `_normalize_result` accepts it, and the deadline of the run can be read. -/
structure Consumable : Prop where
  keyed : Json.get fields "idempotency_key" = .str (keyText sha256 state)
  unrecorded : duplicateOf state fields = none
  normalized : ∃ result, normalizeResult rt state fields = .ok result
  deadline : ∃ deadline, state.deadlineAt = .at deadline

/-- The run is in its state with the result in store, or it is over without a step. -/
def Stuck (disk : Disk) : Prop :=
  Waiting runId state fields disk ∨
    ∃ file, disk.journals.lookup runId = some (.journal file) ∧ file.events = state.events ∧
      file.status.isTerminal = true

/-- A single supervisor that keeps the run stuck. -/
def stuckWorld : World Unit Disk TickCall TickAnswer where
  step _ := Serves rt fun _ _ => True
  inv := Stuck runId state fields
  rely _ := Eq
  rely_refl _ _ := rfl
  rely_trans _ _ _ _ := Eq.trans

variable {rt isInstant sha256 runId state fields}

/-! ## Rules for the stuck run -/

theorem stable_stuck {before : Disk → Prop} :
    Stable (stuckWorld rt runId state fields) () before := by
  rintro disk later rfl _ holds
  exact holds

/-- A program that keeps the run stuck from a disk with `before`. -/
abbrev StaysStuck {α : Type} (rt : Runtime) (runId : String) (state : Journal)
    (fields : Fields) (before : Disk → Prop) (program : TickProgram α)
    (returns : Disk → α → Prop) : Prop :=
  Triple (stuckWorld rt runId state fields) () before program returns fun _ _ => True

theorem stuck_quiet {α : Type} {call : TickCall} {before : Disk → Prop}
    {returns : Disk → α → Prop} {next : TickValue call → TickProgram α}
    (quiet : isQuiet call = true)
    (nextStuck : ∀ value, StaysStuck rt runId state fields before (next value) returns) :
    StaysStuck rt runId state fields before (call.invoke >>= next) returns := by
  have called : StaysStuck rt runId state fields before call.invoke
      fun disk _ => before disk := by
    apply Triple.invoke stable_stuck (fun _ => stable_stuck) (fun _ => stable_stuck)
    intro disk later answer stuck known served
    rcases eq_of_isQuiet quiet served with rfl
    exact ⟨stuck, fun _ _ => known, fun _ _ => trivial⟩
  exact Triple.bind called nextStuck

theorem stuck_return {α : Type} {before : Disk → Prop} {value : α} :
    StaysStuck rt runId state fields before (pure value) fun _ _ => True :=
  Triple.pure stable_stuck fun _ _ _ => trivial

theorem consumable_of_decided {call : StepCall} {next : Journal} {result : StepResult}
    {decision : Policy.Decision}
    (keyed : Json.get call.stepResult "idempotency_key" = .str (keyText sha256 state))
    (returned : advanceState rt state call = .ok (.save next))
    (inTime : overdue state call.now = none)
    (decided : decideStep rt state call = .ok (result, decision)) :
    Consumable rt sha256 state call.stepResult := by
  constructor
  · exact keyed
  · exact duplicateOf_eq_none inTime returned
  · simp only [decideStep, bind_ok_iff] at decided
    rcases decided with ⟨normalized, accepted, _⟩
    exact ⟨normalized, accepted⟩
  · cases deadline : state.deadlineAt with
    | «at» instant => exact ⟨instant, rfl⟩
    | malformed raw => simp [overdue, deadline] at inTime

theorem load_of_waiting {disk : Disk} (opened : OpenRun rt runId state)
    (held : disk.journals.lookup runId = some (.journal state)) :
    disk.journals.load rt runId = .ok state := by
  rw [Directory.load, require_bind_of opened.identified, held]
  exact if_pos opened.valid

theorem stuck_journalsAfter {disk : Disk} {call : StepCall} (opened : OpenRun rt runId state)
    (refused : ¬Consumable rt sha256 state fields) (waiting : Waiting runId state fields disk)
    (keyed : Json.get fields "idempotency_key" = .str (keyText sha256 state))
    (delivered : call.stepResult = fields) : Stuck runId state fields
      (disk.pass state fields (journalsAfter rt disk state.runId call).1) := by
  have same : Stuck runId state fields (disk.pass state fields disk.journals) :=
    Or.inl ⟨waiting.held, waiting.stored⟩
  subst delivered
  have loaded := load_of_waiting opened waiting.held
  rw [opened.named, journalsAfter, advance, loaded, ok_bind]
  cases returned : advanceState rt state call with
  | error error => exact same
  | ok step =>
      cases step with
      | unchanged => exact same
      | save next =>
          rw [ok_bind]
          dsimp only
          split
          · rename_i after payload saved
            rcases save_eq_ok saved with ⟨actual, _, _, rfl, rfl⟩
            rcases saved_of_advanceState returned with ⟨_, step⟩
            have sameRun : next.runId = runId := (saved_runId step).trans opened.named
            cases step with
            | overdue blocker late =>
                rw [sameRun]
                exact Or.inr ⟨_, Directory.lookup_write _ _ _, rfl, rfl⟩
            | refused result decision inTime decided =>
                exact absurd (consumable_of_decided keyed returned inTime decided) refused
            | applied result decision _ _ _ _ inTime decided =>
                exact absurd (consumable_of_decided keyed returned inTime decided) refused
          · exact same

/-! ## The tick of a stuck run -/

theorem stuck_load (opened : OpenRun rt runId state) :
    StaysStuck rt runId state fields (fun _ => True) (TickCall.load runId).invoke
      fun disk (file : Journal) => file.status.isTerminal = true ∨
        file = state ∧ Waiting runId state fields disk := by
  apply Triple.invoke stable_stuck (fun _ => stable_stuck) (fun _ => stable_stuck)
  rintro disk later answer stuck _ ⟨rfl, rfl⟩
  refine ⟨stuck, ?_, fun _ _ => trivial⟩
  intro file loaded
  rcases stuck with waiting | ⟨closed, held, _, terminal⟩
  · rw [load_of_waiting opened waiting.held] at loaded
    cases loaded
    exact Or.inr ⟨rfl, waiting⟩
  · have found := lookup_of_load loaded
    rw [held] at found
    cases found
    exact Or.inl terminal

/-- The stored result is found before any executor is asked. -/
theorem stuck_obtainResult : StaysStuck rt runId state fields (Waiting runId state fields)
      (obtainResult rt isInstant sha256 state) fun disk obtained =>
        obtained = .inr fields ∧ Waiting runId state fields disk := by
  have found : StaysStuck rt runId state fields (Waiting runId state fields)
      (storedResult (keyOf state)) fun disk stored =>
        stored = some fields ∧ Waiting runId state fields disk := by
    have read : StaysStuck rt runId state fields (Waiting runId state fields)
        (TickCall.readResult (keyOf state)).invoke fun disk (left : Option ResultText) =>
          Waiting runId state fields disk ∧ left = some (.value (.obj fields)) := by
      apply Triple.invoke stable_stuck (fun _ => stable_stuck) (fun _ => stable_stuck)
      rintro disk later answer stuck waiting ⟨rfl, rfl⟩
      refine ⟨stuck, ?_, fun _ _ => trivial⟩
      intro left answered
      rcases waiting.stored with ⟨author, stored⟩
      rw [stored] at answered
      cases answered
      exact ⟨waiting, rfl⟩
    apply Triple.bind read
    intro left
    apply Triple.assume
    rintro rfl
    exact Triple.pure stable_stuck fun _ _ waiting => ⟨rfl, waiting⟩
  apply stuck_quiet rfl
  intro _
  apply Triple.bind found
  intro stored
  apply (Triple.assume _).weaken fun _ _ known => And.symm known
  rintro rfl
  exact Triple.pure stable_stuck fun _ _ waiting => ⟨rfl, waiting⟩

theorem stuck_takeResult (opened : OpenRun rt runId state)
    (refused : ¬Consumable rt sha256 state fields) (transitions : List Transition)
    {next : List Transition → TickProgram TickReport}
    (nextStuck : ∀ later, StaysStuck rt runId state fields (fun _ => True) (next later)
      fun _ _ => True) : StaysStuck rt runId state fields (Waiting runId state fields)
      (takeResult rt sha256 state fields transitions next) fun _ _ => True := by
  unfold takeResult
  apply Triple.check stable_stuck (fun _ _ _ _ => trivial)
  intro keyed
  have handed : ∀ context, StaysStuck rt runId state fields (Waiting runId state fields)
      (TickCall.advance state fields context).invoke fun _ _ => True := by
    intro context
    apply Triple.invoke stable_stuck (fun _ => stable_stuck) (fun _ => stable_stuck)
    rintro disk later answer _ waiting ⟨call, delivered, _, rfl, _⟩
    exact ⟨stuck_journalsAfter opened refused waiting keyed delivered, fun _ _ => trivial,
      fun _ _ => trivial⟩
  have advanced : StaysStuck rt runId state fields (Waiting runId state fields)
      (advanceTrusted rt state fields) fun _ _ => True := by
    unfold advanceTrusted
    apply stuck_quiet rfl
    intro _
    apply stuck_quiet rfl
    intro context
    apply Triple.bind (handed context)
    intro _
    apply stuck_quiet rfl
    intro _
    exact stuck_return
  apply Triple.bind advanced
  intro later
  dsimp only
  split_ifs
  · exact stuck_return
  · exact nextStuck _

theorem stuck_tickLoop (opened : OpenRun rt runId state)
    (refused : ¬Consumable rt sha256 state fields) (steps : Nat) (transitions : List Transition) :
    StaysStuck rt runId state fields (fun _ => True)
      (tickLoop rt isInstant sha256 runId steps transitions) fun _ _ => True := by
  induction steps generalizing transitions with
  | zero =>
      unfold tickLoop
      apply stuck_quiet rfl
      intro _
      exact stuck_return
  | succ steps ih =>
      unfold tickLoop
      apply Triple.bind (stuck_load opened)
      intro file
      by_cases terminal : file.status.isTerminal = true
      · rw [if_pos terminal]
        exact stuck_return
      · rw [if_neg terminal]
        have waits : ∀ {α : Type} {program : TickProgram α}, StaysStuck rt runId state fields
              (fun disk => Waiting runId state fields disk ∧ file = state) program
              (fun _ _ => True) →
            StaysStuck rt runId state fields
              (fun disk => file.status.isTerminal = true ∨
                file = state ∧ Waiting runId state fields disk) program fun _ _ => True := by
          intro _ _ waiting
          apply waiting.weaken
          rintro disk _ (closed | ⟨same, known⟩)
          · exact absurd closed terminal
          · exact ⟨known, same⟩
        apply waits
        apply Triple.assume
        rintro rfl
        apply Triple.bind stuck_obtainResult
        intro obtained
        apply (Triple.assume _).weaken fun _ _ known => And.symm known
        rintro rfl
        exact stuck_takeResult opened refused transitions ih

theorem stuck_runTick {disk later : Disk} (opened : OpenRun rt runId state)
    (refused : ¬Consumable rt sha256 state fields)
    (ticked : RunTick rt isInstant sha256 runId disk later)
    (stuck : Stuck runId state fields disk) : Stuck runId state fields later := by
  rcases ticked with ⟨maxSteps, program, reached⟩
  have alone : Tolerated (stuckWorld rt runId state fields) := by
    intro actor other _ _ _ _ different
    exact absurd rfl different
  have start : AllSafe (stuckWorld rt runId state fields) (fun _ _ _ => True)
      (fun _ _ _ => True) ⟨disk, fun _ => tick rt isInstant sha256 runId maxSteps⟩ := by
    constructor
    · exact stuck
    · intro client
      exact (stuck_tickLoop opened refused _ []).safe disk stuck trivial
  have same : Reachable (stuckWorld rt runId state fields)
      ⟨disk, fun _ => tick rt isInstant sha256 runId maxSteps⟩ ⟨later, program⟩ :=
    reached.mono fun _ _ _ _ _ served => served
  exact (safe_of_reachable alone start same).1

/-- What the journal cannot record keeps the run in its state for ever. -/
theorem not_advanced_of_runTicks {disk later : Disk} (opened : OpenRun rt runId state)
    (refused : ¬Consumable rt sha256 state fields) (waiting : Waiting runId state fields disk)
    (ran : RunTicks rt isInstant sha256 runId disk later) : ¬Advanced runId state later := by
  have stuck : Stuck runId state fields later := by
    induction ran with
    | refl => exact Or.inl waiting
    | tail _ ticked ih => exact stuck_runTick opened refused ticked ih
  rintro ⟨file, held, longer⟩
  rcases stuck with still | ⟨closed, closedHeld, events, _⟩
  · rw [still.held] at held
    cases held
    exact Nat.lt_irrefl _ longer
  · rw [closedHeld] at held
    cases held
    rw [events] at longer
    exact Nat.lt_irrefl _ longer

/-! ## A result the journal can record -/

/-- A context bound to the run. -/
def boundContext (state : Journal) : Policy.DecisionContext :=
  { action := state.phase.action, risk := state.risk, workType := operationalWorkType state
    expectedPolicyHash := some state.policyHash }

/-- A hand-over on the last instant of the deadline, while no policy can be loaded. -/
def handOver (deadline : Int) (result : Fields) (context : Policy.DecisionContext) : StepCall where
  stepResult := result
  trustedContext := some context
  effectivePolicy := none
  now := deadline
  occurredAt := deadline
  savedAt := deadline
  eventId := ""

/-- Surroundings in which only the hand-over does anything. -/
def handServe (rt : Runtime) (deadline : Int) (disk : Disk) :
    (call : TickCall) → Disk × TickAnswer call
  | .load runId => (disk, disk.journals.load rt runId)
  | .readResult key => (disk, .ok ((disk.results key).map ResultFile.content))
  | .ensureRequest _ => (disk, .ok ())
  | .refreshTrustedInputs _ _ => (disk, .ok ())
  | .compileTrustedContext state _ _ _ => (disk, .ok (boundContext state))
  | .advance state result context =>
      (disk.pass state result
          (journalsAfter rt disk state.runId (handOver deadline result context)).1,
        (journalsAfter rt disk state.runId (handOver deadline result context)).2)
  | .project _ => (disk, .ok ())
  | _ => (disk, .error "UNAVAILABLE")

theorem lawful_handServe (deadline : Int) : Lawful rt (handServe rt deadline) := by
  intro disk call
  cases call with
  | load runId => exact ⟨rfl, rfl⟩
  | readResult key => exact ⟨rfl, rfl⟩
  | storeResult key value => exact .inl ⟨rfl, _, rfl⟩
  | advance state result context => exact ⟨_, rfl, rfl, rfl, rfl⟩
  | launch state adapter => exact .inl rfl
  | _ => exact rfl

theorem advanceState_handOver {deadline : Int} {result : StepResult}
    (running : state.status.isTerminal = false) (deadline_eq : state.deadlineAt = .at deadline)
    (unrecorded : duplicateOf state fields = none)
    (normalized : normalizeResult rt state fields = .ok result) :
    ∃ next event, advanceState rt state (handOver deadline fields (boundContext state)) =
        .ok (.save next) ∧ next.runId = state.runId ∧ next.status = .block ∧
      next.events = state.events ++ [event] := by
  have free := (normalized_of_eq_ok normalized).free
  have inTime : overdue state deadline = none := by
    simp [overdue, deadline_eq]
  have bound : bindTrustedContext state result (boundContext state) =
      .ok (boundContext state) := by
    simp [bindTrustedContext, boundContext, free, require_bind_of]
    rfl
  have decided : decideStep rt state (handOver deadline fields (boundContext state)) =
      .ok (result, Policy.evaluateWithEffectivePolicy none (boundContext state)) := by
    change (normalizeResult rt state fields >>= _) = _
    rw [normalized, ok_bind]
    change (bindTrustedContext state result (boundContext state) >>= _) = _
    rw [bound]
    rfl
  have taken : takeStep rt state (handOver deadline fields (boundContext state)) =
      .ok { appendEvent state (newEvent rt state result
          (Policy.evaluateWithEffectivePolicy none (boundContext state))
          (handOver deadline fields (boundContext state))) with
        status := .block, blockers := [.str "POLICY_IR_INVALID"] } := by
    rw [takeStep, decided, ok_bind]
    rfl
  have notLate : overdue state (handOver deadline fields (boundContext state)).now = none := inTime
  have fresh : duplicateOf state (handOver deadline fields (boundContext state)).stepResult =
      none := unrecorded
  have stepped : advanceState rt state (handOver deadline fields (boundContext state)) =
      .ok (.save { appendEvent state (newEvent rt state result
          (Policy.evaluateWithEffectivePolicy none (boundContext state))
          (handOver deadline fields (boundContext state))) with
        status := .block, blockers := [.str "POLICY_IR_INVALID"] }) := by
    rw [advanceState, if_neg (by simp [running])]
    simp only [notLate, fresh, taken]
    rfl
  exact ⟨_, _, stepped, rfl, rfl, rfl⟩

/-- A tick in these surroundings records the stored result. -/
theorem advanced_of_consumable {disk : Disk} (opened : OpenRun rt runId state)
    (waiting : Waiting runId state fields disk) (consumable : Consumable rt sha256 state fields) :
    ∃ later, RunTicks rt isInstant sha256 runId disk later ∧ Advanced runId state later := by
  rcases consumable.deadline with ⟨deadline, deadline_eq⟩
  rcases consumable.normalized with ⟨result, normalized⟩
  rcases advanceState_handOver opened.running deadline_eq consumable.unrecorded normalized with
    ⟨next, event, stepped, sameRun, blocked, events⟩
  have lawful : Lawful rt (handServe rt deadline) := lawful_handServe deadline
  have loaded := load_of_waiting opened waiting.held
  -- the journal after the hand-over
  have saved : ∃ payload, journalsAfter rt disk state.runId
      (handOver deadline fields (boundContext state)) =
        (disk.journals.write runId (.journal payload), .ok payload) ∧
      payload.status = .block ∧ payload.events = state.events ++ [event] := by
    have named : next.runId = runId := sameRun.trans opened.named
    have payload_eq : disk.journals.save next (some state.revision) deadline =
        .ok (disk.journals.write runId (.journal (next.over state deadline)),
          next.over state deadline) := by
      have saved := save_of_held deadline (named ▸ opened.identified) (named ▸ waiting.held)
      rw [saved, named]
    refine ⟨next.over state deadline, ?_, blocked, events⟩
    rw [journalsAfter, advance, opened.named, loaded, ok_bind, stepped, ok_bind]
    simp only [handOver, payload_eq]
  rcases saved with ⟨payload, saved, payloadBlocked, payloadEvents⟩
  have stored : (storedResult (keyOf state)).execute (handServe rt deadline) disk =
      (disk, .done (some fields)) := by
    rcases waiting.stored with ⟨author, stored⟩
    apply (execute_bind_of_done (execute_readResult lawful _)).trans
    rw [stored]
    rfl
  have obtained : (obtainResult rt isInstant sha256 state).execute (handServe rt deadline)
      disk = (disk, .done (.inr fields)) := by
    apply (execute_bind_of_done (execute_quiet lawful rfl rfl)).trans
    apply (execute_bind_of_done stored).trans
    rfl
  let later := disk.pass state fields (disk.journals.write runId (.journal payload))
  have advanced : (advanceTrusted rt state fields).execute (handServe rt deadline) disk =
      (later, .done payload) := by
    have passed : handServe rt deadline disk
        (.advance state fields (boundContext state)) = (later, .ok payload) := by
      change (disk.pass state fields _, _) = _
      rw [saved]
      rfl
    apply (execute_bind_of_done (execute_quiet lawful rfl rfl)).trans
    apply (execute_bind_of_done (execute_quiet lawful rfl rfl)).trans
    apply (execute_bind_of_done (execute_invoke_ok passed)).trans
    apply (execute_bind_of_done (execute_quiet lawful rfl rfl)).trans
    rfl
  have ran : ((tick rt isInstant sha256 runId 1).execute (handServe rt deadline)
      disk).1 = later := by
    have loadedCall : (handServe rt deadline disk (.load runId)).2 = .ok state := loaded
    have looped : (tick rt isInstant sha256 runId 1).execute (handServe rt deadline) disk =
        (tickLoop rt isInstant sha256 runId 0
          [⟨state.phase, Json.get fields "outcome", payload.phase, payload.revision⟩]).execute
          (handServe rt deadline) later := by
      apply (execute_bind_of_done (execute_quiet lawful rfl loadedCall)).trans
      rw [if_neg (by simp [opened.running])]
      apply (execute_bind_of_done obtained).trans
      simp only [takeResult]
      rw [check, if_pos consumable.keyed, done_bind]
      apply (execute_bind_of_done advanced).trans
      simp only [payloadBlocked, stopsTick]
      rfl
    rw [looped, tickLoop]
    cases reloaded : later.journals.load rt runId with
    | ok file =>
        have answered : (handServe rt deadline later (.load runId)).2 = .ok file := reloaded
        exact congrArg Prod.fst (execute_bind_of_done (execute_quiet lawful rfl answered))
    | error error =>
        have answered : handServe rt deadline later (.load runId) = (later, .error error) :=
          Prod.ext rfl reloaded
        exact congrArg Prod.fst (execute_bind_of_fail (execute_invoke_error answered))
  have served : ∀ store call, (diskWorld rt isInstant sha256 fun _ _ => True).step () store
      call (handServe rt deadline store call).1 (handServe rt deadline store call).2 :=
    lawful
  have reached : Reachable (diskWorld rt isInstant sha256 fun _ _ => True)
      ⟨disk, fun _ => tick rt isInstant sha256 runId 1⟩ ⟨later, _⟩ :=
    ran ▸ reachable_execute disk (fun _ => tick rt isInstant sha256 runId 1) () served
  refine ⟨later, .single ⟨1, _, reached⟩, payload, Directory.lookup_write _ _ _, ?_⟩
  rw [payloadEvents, List.length_append]
  exact Nat.lt_succ_self _

end Wedged

/-! ## A result with a stray member -/

/-- A passed RECONCILE under the key of the run, with one member too many. -/
def strayResult : Fields :=
  [("idempotency_key", .str (keyText id plainStart)), ("note", .str ""),
    ("outcome", .str "PASS"), ("phase", .str "RECONCILE")]

/-- The disk that holds it. -/
def strayDisk : Disk :=
  (Disk.fresh [("run-0001", .journal plainStart)]).setResult (keyOf plainStart)
    (some ⟨.value (.obj strayResult), .supervisor⟩)

theorem openRun_plainStart : OpenRun plainRuntime "run-0001" plainStart where
  identified := by decide +kernel
  named := rfl
  valid := by decide +kernel
  running := rfl

theorem waiting_strayDisk : Waiting "run-0001" plainStart strayResult strayDisk where
  held := rfl
  stored := ⟨.supervisor, by simp [strayDisk, Disk.setResult]⟩

theorem not_consumable_strayResult : ¬Consumable plainRuntime id plainStart strayResult := by
  rintro ⟨_, _, ⟨result, normalized⟩, _⟩
  have refused : normalizeResult plainRuntime plainStart strayResult =
      .error "UNKNOWN_STEP_RESULT_FIELDS:note" := by
    decide +kernel
  rw [refused] at normalized
  cases normalized

end Adwf.Supervisor
