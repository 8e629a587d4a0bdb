import Adwf.Program.Interleaving
import Adwf.Orchestrator.Closure
import Adwf.Supervisor.Tick

/-!
# What a low-trust agent can pass to the journal

The agent leaves its claim in the file the supervisor keeps the result of the
phase in.  Here a tick may stop after any call and the next tick starts from what
is on disk.  Every result file remembers who wrote it, and every step result
handed to the journal is logged with the author of its file.
-/

namespace Adwf.Supervisor

open Adwf.Program Adwf.Orchestrator

/-! ## The disk -/

inductive Author where
  | supervisor | agent
  deriving DecidableEq, Repr

structure ResultFile where
  content : ResultText
  author : Author
  deriving DecidableEq

/-- A step result as it was handed to `advance_run_trusted`. -/
structure Passed where
  state : Journal
  result : Fields
  author : Option Author

/-- The journals, the result files, and the step results handed over so far. -/
structure Disk where
  journals : Directory
  results : Key → Option ResultFile
  passed : List Passed

namespace Disk

/-- A disk before the first tick. -/
def fresh (journals : Directory) : Disk :=
  ⟨journals, fun _ => none, []⟩

def setResult (disk : Disk) (key : Key) (file : Option ResultFile) : Disk :=
  { disk with results := Function.update disk.results key file }

/-- The disk after a step result is handed over, with the journals it leads to. -/
def pass (disk : Disk) (state : Journal) (result : Fields) (journals : Directory) : Disk :=
  { disk with
    journals := journals
    passed := disk.passed ++
      [⟨state, result, (disk.results (keyOf state)).map ResultFile.author⟩] }

end Disk

section Ticks

variable (rt : Runtime) (isInstant : String → Bool) (sha256 : String → String)
variable (leaves : Journal → ResultText → Prop)

/-- What `advance_run_trusted` does to the journals, and what it returns. -/
def journalsAfter (disk : Disk) (runId : String) (call : StepCall) :
    Directory × Except String Journal :=
  match Orchestrator.advance rt disk.journals runId call with
  | .ok (journals, advanced) => (journals, .ok advanced)
  | .error error => (disk.journals, .error error)

/-- The disk and the answer a call may lead to.  A launched agent leaves its file
alone, removes it, or writes a text that `leaves` allows; whatever the other parts
of the runtime answer, they do not touch the disk. -/
def Serves (disk : Disk) (call : TickCall) (later : Disk) (answer : TickAnswer call) : Prop :=
  match call, answer with
  | .load runId, answer => later = disk ∧ answer = disk.journals.load rt runId
  | .readResult key, answer =>
      later = disk ∧ answer = .ok ((disk.results key).map ResultFile.content)
  | .storeResult key value, answer =>
      (later = disk ∧ ∃ error, answer = .error error) ∨
        later = disk.setResult key (some ⟨.value (.obj value), .supervisor⟩)
  | .advance state result context, answer =>
      ∃ call : StepCall, call.stepResult = result ∧ call.trustedContext = some context ∧
        later = disk.pass state result (journalsAfter rt disk state.runId call).1 ∧
        answer = (journalsAfter rt disk state.runId call).2
  | .launch state _, _ =>
      later = disk ∨ later = disk.setResult (keyOf state) none ∨
        ∃ content, leaves state content ∧
          later = disk.setResult (keyOf state) (some ⟨content, .agent⟩)
  | _, _ => later = disk

/-! ## Trusted results -/

/-- The codes of the FAIL results of `_run_agent_command`. -/
def agentFailureCodes : List String :=
  ["AGENT_COMMAND_UNQUALIFIED", "AGENT_COMMAND_OVERRIDE_FORBIDDEN", "AGENT_ADAPTER_UNQUALIFIED",
    "REFERENCE_AGENT_RUNTIME_FORBIDDEN", "AI_WORK_PACKAGE_MISSING",
    "AI_WORK_PACKAGE_DIGEST_MISMATCH", "AGENT_COMMAND_TIMEOUT", "AGENT_COMMAND_START_FAILED",
    "AGENT_COMMAND_FAILED", "AGENT_RESULT_MISSING", "AGENT_RESULT_INVALID",
    "AGENT_RESULT_CONTRACT_INVALID", "AGENT_RESULT_LOCAL_BINDING_INVALID"]

/-- What `_run_agent_command` may return: a FAIL result of its own, or the result
of a claim that passed both checks. -/
inductive AgentProduct (state : Journal) : Fields → Prop
  | failed {code : String} (metadata : Fields) : code ∈ agentFailureCodes →
      AgentProduct state (agentFailure sha256 state code metadata)
  | canonical {claim package work : Fields} {createdAt : String} {workspace : Workspace}
      (adapter : Adapter) :
      canonicalizeLowTrustClaim rt isInstant claim package createdAt = .ok work →
      verifyLocalCommandResult rt isInstant workspace package work = .ok [] →
      AgentProduct state (agentResult sha256 state adapter work)

/-- A result of `_run_agent_command` for the request of a key. -/
def FromAgentCommand (key : Key) (fields : Fields) : Prop :=
  ∃ state, keyOf state = key ∧ AgentProduct rt isInstant sha256 state fields

/-- A step result that low trust allows in its phase: in a creative phase the
supervisor wrote it and it comes from `_run_agent_command`. -/
def PassedTrusted (entry : Passed) : Prop :=
  isCreative entry.state.phase = true → entry.author = some .supervisor ∧
    FromAgentCommand rt isInstant sha256 (keyOf entry.state) entry.result

/-- No step result of a creative phase was the agent's own file. -/
def LowTrustLaw (disk : Disk) : Prop :=
  ∀ entry ∈ disk.passed, PassedTrusted rt isInstant sha256 entry

/-- A text that is not an object under the idempotency key of the request. -/
def NotForged (state : Journal) (content : ResultText) : Prop :=
  ∀ fields, content = .value (.obj fields) →
    Json.get fields "idempotency_key" ≠ .str (keyText sha256 state)

/-- What the result file of a key may hold, depending on who wrote it. -/
def FileTrusted (key : Key) : ResultFile → Prop
  | ⟨content, .supervisor⟩ =>
      ∀ fields, content = .value (.obj fields) → isCreative key.phase = true →
        FromAgentCommand rt isInstant sha256 key fields
  | ⟨content, .agent⟩ =>
      ∀ fields, content = .value (.obj fields) →
        Json.get fields "idempotency_key" ≠ .str (key.text sha256)

/-- The invariant of the disk. -/
structure Trusted (disk : Disk) : Prop where
  files : ∀ key file, disk.results key = some file →
    FileTrusted rt isInstant sha256 key file
  passed : LowTrustLaw rt isInstant sha256 disk

/-- A single supervisor: nothing moves between its calls. -/
def diskWorld : World Unit Disk TickCall TickAnswer where
  step _ := Serves rt leaves
  inv := Trusted rt isInstant sha256
  rely _ := Eq
  rely_refl _ _ := rfl
  rely_trans _ _ _ _ := Eq.trans

/-- One tick, stopped after any of its calls. -/
def TickStep (disk later : Disk) : Prop :=
  ∃ runId maxSteps program, Reachable (diskWorld rt isInstant sha256 leaves)
      ⟨disk, fun _ => tick rt isInstant sha256 runId maxSteps⟩ ⟨later, program⟩

/-- Any number of ticks. -/
abbrev Ticks : Disk → Disk → Prop :=
  Relation.ReflTransGen (TickStep rt isInstant sha256 leaves)

end Ticks

/-! ## Rules for one supervisor -/

section Rules

variable {rt : Runtime} {isInstant : String → Bool} {sha256 : String → String}

/-- A program of the supervisor whose agents do not forge: from a disk with
`before` it keeps the invariant, and ends with `returns` if it does not raise. -/
abbrev Keeps (rt : Runtime) (isInstant : String → Bool) (sha256 : String → String) {α : Type}
    (before : Disk → Prop) (program : TickProgram α) (returns : Disk → α → Prop) : Prop :=
  Triple (diskWorld rt isInstant sha256 (NotForged sha256)) () before program returns
    fun _ _ => True

variable {α β : Type} {before : Disk → Prop}

/-- Nothing moves between the calls of a single supervisor. -/
theorem stable_disk (property : Disk → Prop) :
    Stable (diskWorld rt isInstant sha256 (NotForged sha256)) () property := by
  rintro disk later rfl _ holds
  exact holds

variable {returns : Disk → α → Prop} {call : TickCall} {disk later : Disk}

theorem keeps_return {value : α} (holds : ∀ disk, before disk → returns disk value) :
    Keeps rt isInstant sha256 before (pure value) returns :=
  Triple.pure (stable_disk before) fun disk _ known => holds disk known

theorem keeps_fail {error : String} : Keeps rt isInstant sha256 before (.fail error) returns :=
  Triple.fail (stable_disk before) fun _ _ _ => trivial

theorem keeps_bind {middle : Disk → α → Prop} {returns : Disk → β → Prop}
    {first : TickProgram α} {next : α → TickProgram β}
    (firstKeeps : Keeps rt isInstant sha256 before first middle)
    (nextKeeps : ∀ value, Keeps rt isInstant sha256 (middle · value) (next value) returns) :
    Keeps rt isInstant sha256 before (first >>= next) returns :=
  Triple.bind firstKeeps nextKeeps

theorem keeps_invoke {returns : Disk → TickValue call → Prop}
    (served : ∀ disk later answer, Trusted rt isInstant sha256 disk → before disk →
      Serves rt (NotForged sha256) disk call later answer →
      Trusted rt isInstant sha256 later ∧ ∀ value, answer = .ok value → returns later value) :
    Keeps rt isInstant sha256 before call.invoke returns := by
  apply Triple.ask (stable_disk before) served
  intro answer
  cases answer with
  | error error => exact Triple.fail (stable_disk _) fun _ _ _ => trivial
  | ok value => exact Triple.done (stable_disk _) fun _ _ reached => reached value rfl

/-- The calls that leave the disk alone. -/
def isQuiet : TickCall → Bool
  | .storeResult _ _ | .advance _ _ _ | .launch _ _ => false
  | _ => true

theorem eq_of_isQuiet {leaves : Journal → ResultText → Prop} {answer : TickAnswer call} (quiet : isQuiet call = true)
    (served : Serves rt leaves disk call later answer) : later = disk := by
  cases call with
  | load => exact served.1
  | readResult => exact served.1
  | storeResult | advance | launch => cases quiet
  | _ => exact served

theorem keeps_quiet {next : TickValue call → TickProgram α} (quiet : isQuiet call = true)
    (nextKeeps : ∀ value, Keeps rt isInstant sha256 before (next value) returns) :
    Keeps rt isInstant sha256 before (call.invoke >>= next) returns := by
  have called : Keeps rt isInstant sha256 before call.invoke fun disk _ => before disk := by
    apply keeps_invoke
    intro disk later answer trusted known served
    obtain rfl := eq_of_isQuiet quiet served
    exact ⟨trusted, fun _ _ => known⟩
  exact keeps_bind called nextKeeps

theorem keeps_liftExecutor (executor : Executor α) :
    Keeps rt isInstant sha256 before (liftExecutor executor) fun disk _ => before disk := by
  induction executor with
  | done value => exact keeps_return fun _ known => known
  | fail error => exact keeps_fail
  | ask call next ih =>
      apply Triple.ask (stable_disk before)
      · intro disk later answer trusted known served
        obtain rfl : later = disk := served
        exact ⟨trusted, known⟩
      · exact ih

/-! ## The agent command -/

section Agent

variable (state : Journal)

/-- What a step of `_run_agent_command` returns. -/
abbrev ReturnsProduct (rt : Runtime) (isInstant : String → Bool) (sha256 : String → String)
    (state : Journal) (program : TickProgram Fields) : Prop :=
  Keeps rt isInstant sha256 (fun _ => True) program fun _ fields =>
    AgentProduct rt isInstant sha256 state fields

theorem returns_failure {code : String} (metadata : Fields) (listed : code ∈ agentFailureCodes) :
    ReturnsProduct rt isInstant sha256 state (pure (agentFailure sha256 state code metadata)) :=
  keeps_return fun _ _ => .failed metadata listed

theorem checkClaim_product (adapter : Adapter) (package claim : Fields) :
    ReturnsProduct rt isInstant sha256 state
      (checkClaim rt isInstant sha256 state adapter package claim) := by
  unfold checkClaim
  apply keeps_quiet rfl
  intro createdAt
  cases canonicalized : canonicalizeLowTrustClaim rt isInstant claim package createdAt with
  | error error =>
      cases error with
      | value text => exact returns_failure state _ (by simp [agentFailureCodes])
      | type => exact keeps_fail
  | ok work =>
      apply keeps_quiet rfl
      intro workspace
      apply Triple.ofExcept_bind (stable_disk _)
      · intros
        trivial
      · intro errors verified
        by_cases clean : errors = []
        · subst clean
          rw [if_pos rfl]
          apply keeps_return
          intro _ _
          apply AgentProduct.canonical adapter canonicalized
          cases checked : verifyLocalCommandResult rt isInstant workspace package work with
          | error error => simp [checked, Except.mapError] at verified
          | ok found =>
              obtain rfl : found = [] := by simpa [checked, Except.mapError] using verified
              exact checked
        · rw [if_neg clean]
          exact returns_failure state _ (by simp [agentFailureCodes])

theorem readClaim_product (adapter : Adapter) (package : Fields) :
    ReturnsProduct rt isInstant sha256 state
      (readClaim rt isInstant sha256 state adapter package) := by
  unfold readClaim
  apply keeps_quiet rfl
  intro left
  match left with
  | none => exact returns_failure state _ (by simp [agentFailureCodes])
  | some (.unreadable error) => exact returns_failure state _ (by simp [agentFailureCodes])
  | some (.value (.obj claim)) => exact checkClaim_product state adapter package claim
  | some (.value .null) | some (.value (.bool _)) | some (.value (.num _))
  | some (.value (.str _)) | some (.value (.arr _)) =>
      exact returns_failure state _ (by simp [agentFailureCodes])

/-- A file the agent leaves keeps the invariant when it is not forged. -/
theorem Trusted.setResult {disk : Disk} (trusted : Trusted rt isInstant sha256 disk)
    (key : Key) (file : Option ResultFile)
    (fileTrusted : ∀ kept, file = some kept → FileTrusted rt isInstant sha256 key kept) :
    Trusted rt isInstant sha256 (disk.setResult key file) := by
  constructor
  · intro other kept stored
    by_cases same : other = key
    · subst same
      simp only [Disk.setResult, Function.update_self] at stored
      exact fileTrusted kept stored
    · simp only [Disk.setResult, Function.update_of_ne same] at stored
      exact trusted.files other kept stored
  · exact trusted.passed

theorem launchAgent_product (adapter : Adapter) (package : Fields) :
    ReturnsProduct rt isInstant sha256 state
      (launchAgent rt isInstant sha256 state adapter package) := by
  have launched : Keeps rt isInstant sha256 (fun _ => True)
      (TickCall.launch state adapter).invoke fun _ _ => True := by
    apply keeps_invoke
    intro disk later answer trusted _ served
    refine ⟨?_, fun _ _ => trivial⟩
    rcases served with rfl | rfl | ⟨content, notForged, rfl⟩
    · exact trusted
    · exact trusted.setResult _ _ (by simp)
    · apply trusted.setResult
      rintro kept ⟨⟩
      exact notForged
  unfold launchAgent
  apply keeps_bind launched
  intro ended
  cases ended with
  | timedOut => exact returns_failure state _ (by simp [agentFailureCodes])
  | notStarted error => exact returns_failure state _ (by simp [agentFailureCodes])
  | exited code stderr =>
      by_cases success : code = 0
      · simp only [if_pos success]
        exact readClaim_product state adapter package
      · simp only [if_neg success]
        exact returns_failure state _ (by simp [agentFailureCodes])

theorem packageOf_error {envelope : Fields} {code : String}
    (refused : packageOf envelope = .error code) : code ∈ agentFailureCodes := by
  unfold packageOf at refused
  split at refused
  · dsimp only at refused
    split_ifs at refused
    cases refused
    simp [agentFailureCodes]
  · cases refused
    simp [agentFailureCodes]

theorem runAdapter_product (envelope : Fields) (environment : AgentEnvironment)
    (adapter : Adapter) : ReturnsProduct rt isInstant sha256 state
      (runAdapter rt isInstant sha256 state envelope environment adapter) := by
  unfold runAdapter
  split_ifs with reference
  · exact returns_failure state _ (by simp [agentFailureCodes])
  · cases found : packageOf envelope with
    | error code => exact returns_failure state _ (packageOf_error found)
    | ok package => exact launchAgent_product state adapter package

theorem runAgentCommand_product (envelope : Fields) : Keeps rt isInstant sha256 (fun _ => True)
      (runAgentCommand rt isInstant sha256 state envelope) fun _ result =>
        ∀ fields, result = some fields → AgentProduct rt isInstant sha256 state fields := by
  have failure : ∀ code metadata, code ∈ agentFailureCodes →
      Keeps rt isInstant sha256 (fun _ => True)
        (pure (some (agentFailure sha256 state code metadata))) fun _ result =>
          ∀ fields, result = some fields →
            AgentProduct rt isInstant sha256 state fields := by
    intro code metadata listed
    apply keeps_return
    rintro _ _ fields ⟨⟩
    exact .failed metadata listed
  unfold runAgentCommand
  apply keeps_quiet rfl
  intro environment
  dsimp only
  split_ifs with absent unqualified overridden
  · apply keeps_return
    rintro _ _ fields ⟨⟩
  · exact failure _ _ (by simp [agentFailureCodes])
  · exact failure _ _ (by simp [agentFailureCodes])
  · apply keeps_quiet rfl
    intro loaded
    cases loaded with
    | error error => exact failure _ _ (by simp [agentFailureCodes])
    | ok adapter =>
        apply keeps_bind (runAdapter_product state envelope environment adapter)
        intro result
        apply keeps_return
        rintro _ product fields ⟨⟩
        exact product

end Agent

section Phase

variable (state : Journal)

theorem creativeExecutor_product (envelope : Fields) : Keeps rt isInstant sha256 (fun _ => True)
      (creativeExecutor rt isInstant sha256 state envelope) fun _ produced =>
        ∀ fields, produced = .result fields → AgentProduct rt isInstant sha256 state fields := by
  unfold creativeExecutor
  apply keeps_bind (runAgentCommand_product state envelope)
  intro result
  cases result with
  | none =>
      apply keeps_return
      rintro _ _ fields ⟨⟩
  | some fields =>
      apply keeps_return
      rintro _ product other ⟨⟩
      exact product fields rfl

/-- What an executor may produce in its phase. -/
def ProducedTrusted (rt : Runtime) (isInstant : String → Bool) (sha256 : String → String)
    (state : Journal) (produced : Produced) : Prop :=
  ∀ fields, produced = .result fields → isCreative state.phase = true →
    FromAgentCommand rt isInstant sha256 (keyOf state) fields

theorem runExecutor_trusted (envelope : Fields) : Keeps rt isInstant sha256 (fun _ => True)
      (runExecutor rt isInstant sha256 state envelope) fun _ produced =>
        ProducedTrusted rt isInstant sha256 state produced := by
  unfold runExecutor
  by_cases creative : isCreative state.phase = true
  · rw [if_pos creative]
    apply (creativeExecutor_product state envelope).strengthen
    · intro _ produced _ product fields isResult _
      exact ⟨state, rfl, product fields isResult⟩
    · exact fun _ _ _ raised => raised
  · rw [if_neg creative]
    apply (keeps_liftExecutor _).strengthen
    · intro _ produced _ _ fields _ isCreative
      exact absurd isCreative creative
    · exact fun _ _ _ raised => raised

theorem executePhase_trusted (envelope : Fields) : Keeps rt isInstant sha256 (fun _ => True)
      (executePhase rt isInstant sha256 state envelope) fun _ produced =>
        ProducedTrusted rt isInstant sha256 state produced := by
  unfold executePhase
  split_ifs with guarded
  · apply keeps_bind (keeps_liftExecutor _)
    intro blocked
    cases blocked with
    | some wait =>
        apply keeps_return
        rintro _ _ fields ⟨⟩
    | none => exact runExecutor_trusted state envelope
  · exact runExecutor_trusted state envelope

/-! ## The result file -/

/-- The file of a key holds these fields, whoever wrote it. -/
def Holds (key : Key) (fields : Fields) (disk : Disk) : Prop :=
  ∃ author, disk.results key = some ⟨.value (.obj fields), author⟩

variable {fields : Fields}

theorem Trusted.of_holds {disk : Disk} (trusted : Trusted rt isInstant sha256 disk) (holds : Holds (keyOf state) fields disk)
    (sameKey : Json.get fields "idempotency_key" = .str (keyText sha256 state)) :
    PassedTrusted rt isInstant sha256
      ⟨state, fields, (disk.results (keyOf state)).map ResultFile.author⟩ := by
  obtain ⟨author, stored⟩ := holds
  have fileTrusted := trusted.files _ _ stored
  intro creative
  cases author with
  | supervisor => exact ⟨by simp [stored], fileTrusted fields rfl creative⟩
  | agent => exact absurd sameKey (fileTrusted fields rfl)

theorem keeps_readResult {before : Disk → Prop} {returns : Disk → α → Prop} {key : Key}
    {next : Option ResultText → TickProgram α} (nextKeeps : ∀ stored, Keeps rt isInstant sha256
      (fun disk => before disk ∧ (disk.results key).map ResultFile.content = stored)
      (next stored) returns) :
    Keeps rt isInstant sha256 before ((TickCall.readResult key).invoke >>= next) returns := by
  have called : Keeps rt isInstant sha256 before (TickCall.readResult key).invoke
      fun disk stored => before disk ∧ (disk.results key).map ResultFile.content = stored := by
    apply keeps_invoke
    rintro disk later answer trusted known ⟨rfl, rfl⟩
    refine ⟨trusted, ?_⟩
    rintro value ⟨⟩
    exact ⟨known, rfl⟩
  exact keeps_bind called nextKeeps

theorem holds_of_content {disk : Disk} {key : Key}
    (content : (disk.results key).map ResultFile.content = some (.value (.obj fields))) :
    Holds key fields disk := by
  cases stored : disk.results key with
  | none => simp [stored] at content
  | some file =>
      obtain ⟨text, author⟩ := file
      simp only [stored, Option.map_some, Option.some.injEq] at content
      subst content
      exact ⟨author, stored⟩

theorem storedResult_holds (key : Key) :
    Keeps rt isInstant sha256 (fun _ => True) (storedResult key) fun disk result =>
      ∀ fields, result = some fields → Holds key fields disk := by
  unfold storedResult
  apply keeps_readResult
  intro stored
  match stored with
  | none =>
      apply keeps_return
      rintro _ _ fields ⟨⟩
  | some (.unreadable error) => exact keeps_fail
  | some (.value (.obj fields)) =>
      apply keeps_return
      rintro disk ⟨_, content⟩ other ⟨⟩
      exact holds_of_content content
  | some (.value .null) | some (.value (.bool _)) | some (.value (.num _))
  | some (.value (.str _)) | some (.value (.arr _)) => exact keeps_fail

theorem storeResult_holds (product : isCreative state.phase = true →
      FromAgentCommand rt isInstant sha256 (keyOf state) fields) :
    Keeps rt isInstant sha256 before (TickCall.storeResult (keyOf state) fields).invoke
      fun disk _ => Holds (keyOf state) fields disk := by
  apply keeps_invoke
  rintro disk later answer trusted _ served
  rcases served with ⟨rfl, error, rfl⟩ | rfl
  · refine ⟨trusted, ?_⟩
    rintro value ⟨⟩
  · constructor
    · apply trusted.setResult
      rintro kept ⟨⟩ other ⟨⟩
      exact product
    · intro _ _
      exact ⟨.supervisor, by simp [Disk.setResult]⟩

theorem writeResult_holds (product : isCreative state.phase = true →
      FromAgentCommand rt isInstant sha256 (keyOf state) fields) :
    Keeps rt isInstant sha256 (fun _ => True)
      (writeResult sha256 (keyOf state) fields) fun disk _ =>
        Holds (keyOf state) fields disk := by
  unfold writeResult
  apply Triple.check (stable_disk _)
  · intros
    trivial
  · intro _
    apply keeps_readResult
    intro stored
    match stored with
    | none => exact storeResult_holds state product
    | some (.unreadable error) => exact keeps_fail
    | some (.value existing) =>
        dsimp only
        split_ifs with same
        · apply keeps_return
          rintro disk ⟨_, content⟩
          rw [same] at content
          exact holds_of_content content
        · exact keeps_fail

theorem obtainResult_holds :
    Keeps rt isInstant sha256 (fun _ => True) (obtainResult rt isInstant sha256 state)
      fun disk obtained => ∀ fields, obtained = .inr fields → Holds (keyOf state) fields disk := by
  unfold obtainResult
  apply keeps_quiet rfl
  intro _
  apply keeps_bind (storedResult_holds (keyOf state))
  intro stored
  cases stored with
  | some result =>
      apply keeps_return
      rintro disk holds fields ⟨⟩
      exact holds result rfl
  | none =>
      apply keeps_quiet rfl
      intro envelope
      apply keeps_bind ((executePhase_trusted state envelope).weaken fun _ _ _ => trivial)
      intro produced
      cases produced with
      | wait wait =>
          apply keeps_return
          rintro _ _ fields ⟨⟩
      | result fields =>
          have written : ProducedTrusted rt isInstant sha256 state (.result fields) →
              Keeps rt isInstant sha256 (fun _ => True)
                (writeResult sha256 (keyOf state) fields >>= fun _ => pure (Sum.inr fields))
                fun disk (obtained : Wait ⊕ Fields) => ∀ other, obtained = .inr other →
                  Holds (keyOf state) other disk := by
            intro product
            apply keeps_bind (writeResult_holds state (product fields rfl))
            intro _
            apply keeps_return
            rintro disk holds other ⟨⟩
            exact holds
          exact (Triple.assume written).weaken fun _ _ product => ⟨trivial, product⟩

/-! ## The tick -/

/-- The hand-over logs a step result that low trust allows. -/
theorem advance_keeps (result : Fields) (context : Policy.DecisionContext)
    (sameKey : Json.get result "idempotency_key" = .str (keyText sha256 state)) :
    Keeps rt isInstant sha256 (Holds (keyOf state) result)
      (TickCall.advance state result context).invoke fun _ _ => True := by
  apply keeps_invoke
  rintro disk later answer trusted holds ⟨call, _, _, rfl, _⟩
  refine ⟨⟨trusted.files, ?_⟩, fun _ _ => trivial⟩
  intro entry logged
  rcases List.mem_append.mp logged with earlier | latest
  · exact trusted.passed entry earlier
  · obtain rfl := List.mem_singleton.mp latest
    exact trusted.of_holds state holds sameKey

theorem advanceTrusted_keeps (result : Fields)
    (sameKey : Json.get result "idempotency_key" = .str (keyText sha256 state)) :
    Keeps rt isInstant sha256 (Holds (keyOf state) result)
      (advanceTrusted rt state result) fun _ _ => True := by
  unfold advanceTrusted
  apply keeps_quiet rfl
  intro _
  apply keeps_quiet rfl
  intro context
  apply keeps_bind (advance_keeps state result context sameKey)
  intro advanced
  apply keeps_quiet rfl
  intro _
  exact keeps_return fun _ _ => trivial

theorem takeResult_keeps (result : Fields) (transitions : List Transition)
    {next : List Transition → TickProgram TickReport}
    (nextKeeps : ∀ later, Keeps rt isInstant sha256 (fun _ => True) (next later) fun _ _ => True) :
    Keeps rt isInstant sha256 (Holds (keyOf state) result)
      (takeResult rt sha256 state result transitions next) fun _ _ => True := by
  unfold takeResult
  apply Triple.check (stable_disk _)
  · intros
    trivial
  · intro sameKey
    apply keeps_bind (advanceTrusted_keeps state result sameKey)
    intro advanced
    dsimp only
    split_ifs with stops
    · exact keeps_return fun _ _ => trivial
    · exact nextKeeps _

end Phase

theorem tickLoop_keeps (runId : String) (steps : Nat) (transitions : List Transition) :
    Keeps rt isInstant sha256 (fun _ => True)
      (tickLoop rt isInstant sha256 runId steps transitions) fun _ _ => True := by
  induction steps generalizing transitions with
  | zero =>
      unfold tickLoop
      apply keeps_quiet rfl
      intro state
      exact keeps_return fun _ _ => trivial
  | succ steps ih =>
      unfold tickLoop
      apply keeps_quiet rfl
      intro state
      split_ifs with terminal
      · exact keeps_return fun _ _ => trivial
      · apply keeps_bind (obtainResult_holds state)
        intro obtained
        cases obtained with
        | inl wait => exact keeps_return fun _ _ => trivial
        | inr result =>
            apply (takeResult_keeps state result transitions ih).weaken
            intro disk _ holds
            exact holds result rfl

/-- A tick keeps the invariant wherever it stops. -/
theorem trusted_tickStep (ticked : TickStep rt isInstant sha256 (NotForged sha256) disk later)
    (trusted : Trusted rt isInstant sha256 disk) : Trusted rt isInstant sha256 later := by
  obtain ⟨runId, maxSteps, program, reached⟩ := ticked
  have alone : Tolerated (diskWorld rt isInstant sha256 (NotForged sha256)) := by
    intro actor other _ _ _ _ different
    exact absurd rfl different
  have start : AllSafe (diskWorld rt isInstant sha256 (NotForged sha256))
      (fun _ _ _ => True) (fun _ _ _ => True)
      ⟨disk, fun _ => tick rt isInstant sha256 runId maxSteps⟩ := by
    constructor
    · exact trusted
    · intro client
      exact (tickLoop_keeps runId _ []).safe disk trusted trivial
  exact (safe_of_reachable alone start reached).1

theorem trusted_ticks (ran : Ticks rt isInstant sha256 (NotForged sha256) disk later)
    (trusted : Trusted rt isInstant sha256 disk) : Trusted rt isInstant sha256 later := by
  induction ran with
  | refl => exact trusted
  | tail _ ticked ih => exact trusted_tickStep ticked ih

theorem trusted_fresh (journals : Directory) :
    Trusted rt isInstant sha256 (Disk.fresh journals) := by
  constructor
  · rintro key file ⟨⟩
  · rintro entry ⟨⟩

end Rules

/-- While no agent leaves an object under the idempotency key of its request, no
step result of a creative phase is the agent's own file: in every run of ticks,
each stopped anywhere, it is a result of `_run_agent_command`. -/
theorem lowTrustLaw_of_notForged (rt : Runtime) (isInstant : String → Bool)
    (sha256 : String → String) (journals : Directory) (disk : Disk)
    (ran : Ticks rt isInstant sha256 (NotForged sha256) (Disk.fresh journals) disk) :
    LowTrustLaw rt isInstant sha256 disk :=
  (trusted_ticks ran (trusted_fresh journals)).passed

/-! ## A forged claim -/

/-- A run of a numbered roadmap item, ready for its first tick. -/
def plainJournals : Directory :=
  match newRun plainRuntime [] { plainRequest with roadmapId := "ROADMAP-1" } with
  | .ok (journals, _) => journals
  | .error _ => []

/-- The lease of that run. -/
def plainLease : LeaseRegistry.Lease where
  leaseId := "00000000-0000-4000-8000-000000000000"
  generation := 1
  issueId := "1"
  roadmapId := "ROADMAP-1"
  workerId := "adwf-runtime:run-0001"
  baseSha := headRevision
  branch := "adwf/roadmap-1-run-0001"
  resources := stage1Resources
  status := .active
  claimedAt := .at 0
  heartbeatAt := .at 0
  expiresAt := .at (120 * minute)
  releasedAt := none
  providerReconciledAt := none
  providerReconciliationRef := none

/-- A provider with an open issue and the lease of the run. -/
def plainProvider : (call : ExecutorCall) → Except String (ExecutorValue call)
  | .connection => .ok ⟨some "owner/repository", []⟩
  | .orchestration =>
      .ok [("heartbeat_minutes", .num 30), ("lease_ttl_minutes", .num 120),
        ("max_parallel_writers", .num 1)]
  | .clock => .ok (0 : Int)
  | .defaultBranch => .ok "main"
  | .branchSha _ => .ok headRevision
  | .issue number => .ok ⟨number, "open", .null⟩
  | .githubReconcile _ => .ok (true, "")
  | .readLeases _ _ =>
      .ok (⟨LeaseRegistry.leaseRegistrySchema, 1, "owner/repository", 1, headRevision, 1,
        [plainLease], ""⟩, some otherRevision)
  | _ => .error "PROVIDER_UNAVAILABLE"

/-- The context of a healthy run. -/
def plainContext (state : Journal) : Policy.DecisionContext :=
  { healthyContext.facts with
    action := state.phase.action, risk := state.risk, workType := operationalWorkType state
    expectedPolicyHash := some state.policyHash }

/-- Surroundings in which nothing fails and the agent exits with success; `claim`
is the object it leaves, if any. -/
def plainServe (claim : Journal → Option Fields) (disk : Disk) :
    (call : TickCall) → Disk × TickAnswer call
  | .executor call => (disk, plainProvider call)
  | .load runId => (disk, disk.journals.load plainRuntime runId)
  | .ensureRequest _ => (disk, .ok ())
  | .readRequest _ =>
      (disk, .ok [("work_package", .obj [("base_sha", .str headRevision),
        ("package_id", .str "AIWP-000000000000000000000000")])])
  | .readResult key => (disk, .ok ((disk.results key).map ResultFile.content))
  | .storeResult key value =>
      (disk.setResult key (some ⟨.value (.obj value), .supervisor⟩), .ok ())
  | .refreshTrustedInputs _ _ => (disk, .ok ())
  | .compileTrustedContext state _ _ _ => (disk, .ok (plainContext state))
  | .advance state result context =>
      let call : StepCall :=
        { stepResult := result, trustedContext := some context, effectivePolicy := some plainPolicy
          now := 0, occurredAt := 0, savedAt := 0, eventId := state.phase.name }
      (disk.pass state result (journalsAfter plainRuntime disk state.runId call).1,
        (journalsAfter plainRuntime disk state.runId call).2)
  | .project _ => (disk, .ok ())
  | .agentEnvironment => (disk, .ok ⟨"", "agent", ""⟩)
  | .loadAdapter _ _ => (disk, .ok (.ok ⟨"agent", .num 1, "EXTERNAL_COMMAND"⟩))
  | .launch state _ =>
      match claim state with
      | some fields =>
          (disk.setResult (keyOf state) (some ⟨.value (.obj fields), .agent⟩), .ok (.exited 0 ""))
      | none => (disk, .ok (.exited 0 ""))
  | .now => (disk, .ok "1970-01-01T00:00:00Z")
  | .workspace _ _ => (disk, .ok ⟨none, false, false, none, false⟩)

theorem serves_plainServe {claim : Journal → Option Fields} {leaves : Journal → ResultText → Prop}
    (allowed : ∀ state fields, claim state = some fields → leaves state (.value (.obj fields)))
    (disk : Disk) (call : TickCall) :
    Serves plainRuntime leaves disk call (plainServe claim disk call).1
      (plainServe claim disk call).2 := by
  cases call with
  | load runId => exact ⟨rfl, rfl⟩
  | readResult key => exact ⟨rfl, rfl⟩
  | storeResult key value => exact .inr rfl
  | advance state result context => exact ⟨_, rfl, rfl, rfl, rfl⟩
  | launch state adapter =>
      cases left : claim state with
      | none => simp [Serves, plainServe, left]
      | some fields =>
          simp only [Serves, plainServe, left]
          exact .inr (.inr ⟨_, allowed state fields left, rfl⟩)
  | _ => exact rfl

/-- The disk after an uninterrupted tick in these surroundings. -/
def plainTick (claim : Journal → Option Fields) (disk : Disk) : Disk :=
  ((tick plainRuntime (fun _ => true) id "run-0001" 12).execute (plainServe claim) disk).1

theorem tickStep_plainTick {claim : Journal → Option Fields} {leaves : Journal → ResultText → Prop}
    (allowed : ∀ state fields, claim state = some fields → leaves state (.value (.obj fields)))
    (disk : Disk) : TickStep plainRuntime (fun _ => true) id leaves disk (plainTick claim disk) :=
  ⟨"run-0001", 12, _, reachable_execute disk _ () (serves_plainServe allowed)⟩

/-- An agent that leaves no file gets a FAIL result recorded. -/
theorem lowTrustLaw_of_notForged_noClaim : LowTrustLaw plainRuntime (fun _ => true) id
        (plainTick (fun _ => none) (Disk.fresh plainJournals)) ∧
      ∃ entry ∈ (plainTick (fun _ => none) (Disk.fresh plainJournals)).passed,
        entry.state.phase = .execute ∧ Json.get entry.result "outcome" = .str "FAIL" :=
  ⟨lowTrustLaw_of_notForged plainRuntime (fun _ => true) id plainJournals _
    (.single (tickStep_plainTick (fun _ _ left => nomatch left) _)), by decide +kernel⟩

/-- A claim written as the step result itself. -/
def forgedClaim (state : Journal) : Option Fields :=
  some [("idempotency_key", .str (keyText id state)), ("outcome", .str "PASS"),
    ("phase", .str state.phase.name)]

/-- The first tick refuses to replace the agent's object by the FAIL result and
raises; the second one takes the object for the result of the phase. -/
theorem not_lowTrustLaw : ¬ ∀ (rt : Runtime) (isInstant : String → Bool) (sha256 : String → String)
      (journals : Directory) (disk : Disk),
      Ticks rt isInstant sha256 (fun _ _ => True) (Disk.fresh journals) disk →
      LowTrustLaw rt isInstant sha256 disk := by
  intro law
  have ran : Ticks plainRuntime (fun _ => true) id (fun _ _ => True) (Disk.fresh plainJournals)
      (plainTick forgedClaim (plainTick forgedClaim (Disk.fresh plainJournals))) := by
    have ticked : ∀ disk, TickStep plainRuntime (fun _ => true) id (fun _ _ => True) disk
        (plainTick forgedClaim disk) := tickStep_plainTick fun _ _ _ => trivial
    exact .tail (.single (ticked _)) (ticked _)
  have accepted : ∃ entry ∈
      (plainTick forgedClaim (plainTick forgedClaim (Disk.fresh plainJournals))).passed,
      isCreative entry.state.phase = true ∧ entry.author = some .agent ∧
        Json.get entry.result "outcome" = .str "PASS" := by
    decide +kernel
  obtain ⟨entry, logged, creative, byAgent, _⟩ := accepted
  have trusted := (law _ _ _ _ _ ran entry logged creative).1
  rw [byAgent] at trusted
  cases trusted

end Adwf.Supervisor
