import Adwf.Orchestrator.Directory
import Adwf.Supervisor.Executors
import Adwf.Supervisor.WorkContract

/-!
# The supervisor tick

A tick loads the journal of a run, finds or produces the step result of its
phase and hands it to the journal, phase after phase.  The result of a phase is a
file under the idempotency key of the phase.  A creative phase is produced by an
agent command, which is given the path of that same file for its claim.
-/

namespace Adwf.Supervisor

open Adwf.Policy Adwf.Orchestrator

/-! ## Envelopes -/

/-- What the idempotency key of a request is derived from.  Requests that differ
have different keys, so it also stands for the name of the files of a request. -/
structure Key where
  runId : String
  phase : Phase
  revision : Int
  deriving DecidableEq

def keyOf (state : Journal) : Key :=
  ⟨state.runId, state.phase, state.revision⟩

/-- `_key`. -/
def Key.text (sha256 : String → String) (key : Key) : String :=
  sha256 (key.runId ++ ":" ++ key.phase.name ++ ":" ++ toString key.revision)

/-- What stands in a result file: a JSON value, or a text the strict loader
rejects with an error. -/
inductive ResultText where
  | value (value : Json)
  | unreadable (error : String)
  deriving DecidableEq

/-! ## Calls -/

/-- The environment variables of an agent command. -/
structure AgentEnvironment where
  command : String
  adapterId : String
  allowReference : String

/-- A qualified command adapter, as the supervisor reads it. -/
structure Adapter where
  id : String
  version : Json
  kind : String

/-- How the agent process ended. -/
inductive AgentEnd where
  | timedOut
  | notStarted (error : String)
  | exited (code : Int) (stderr : String)

/-- A call of a tick: into an executor, the envelope store, the journal, the
surroundings of the agent, or another part of the runtime. -/
inductive TickCall where
  | executor (call : ExecutorCall)
  | load (runId : String)
  | ensureRequest (state : Journal)
  | readRequest (key : Key)
  | readResult (key : Key)
  | storeResult (key : Key) (value : Fields)
  | refreshTrustedInputs (subjectSha : String) (force : Bool)
  | compileTrustedContext (state : Journal) (requestId : Json) (subjectSha : String)
      (previewDigest : Json)
  | advance (state : Journal) (result : Fields) (context : DecisionContext)
  | project (advanced : Journal)
  | agentEnvironment
  | loadAdapter (adapterId : String) (phase : Phase)
  | launch (state : Journal) (adapter : Adapter)
  | now
  | workspace (package result : Fields)

/-- What a call returns when it does not raise.  `loadAdapter` hands on the errors
that `_run_agent_command` catches. -/
def TickValue : TickCall → Type
  | .executor call => ExecutorValue call
  | .load _ => Journal
  | .ensureRequest _ => Unit
  | .readRequest _ => Fields
  | .readResult _ => Option ResultText
  | .storeResult _ _ => Unit
  | .refreshTrustedInputs _ _ => Unit
  | .compileTrustedContext _ _ _ _ => DecisionContext
  | .advance _ _ _ => Journal
  | .project _ => Unit
  | .agentEnvironment => AgentEnvironment
  | .loadAdapter _ _ => Except String Adapter
  | .launch _ _ => AgentEnd
  | .now => String
  | .workspace _ _ => Workspace

/-- A call returns or raises. -/
abbrev TickAnswer (call : TickCall) : Type :=
  Except String (TickValue call)

abbrev TickProgram (α : Type) :=
  Program TickCall TickAnswer String α

def TickCall.invoke (call : TickCall) : TickProgram (TickValue call) :=
  Program.invoke call

/-- An executor as part of a tick. -/
def liftExecutor {α : Type} : Executor α → TickProgram α
  | .done value => .done value
  | .fail error => .fail error
  | .ask call next => .ask (.executor call) fun answer => liftExecutor (next answer)

section Tick

variable (rt : Runtime) (isInstant : String → Bool) (sha256 : String → String)

/-- The text of the idempotency key of a state. -/
def keyText (state : Journal) : String :=
  (keyOf state).text sha256

/-! ## The agent command -/

/-- A FAIL result of `_run_agent_command`. -/
def agentFailure (state : Journal) (code : String) (metadata : Fields := []) : Fields :=
  failFields state (keyText sha256 state) code metadata

/-- The result `_run_agent_command` builds from an accepted claim. -/
def agentResult (state : Journal) (adapter : Adapter) (work : Fields) : Fields :=
  [("cost_usd", .num 0), ("evidence_refs", .arr []),
    ("idempotency_key", .str (keyText sha256 state)),
    ("metadata", .obj
      [("adapter_id", .str adapter.id), ("adapter_version", adapter.version),
        ("ai_work_result", .obj work), ("source", .str "LOW_TRUST_AGENT_COMMAND")]),
    ("outcome", Json.get work "outcome"), ("phase", .str state.phase.name),
    ("preview_digest", state.previewDigest), ("reason_codes", Json.get work "reason_codes"),
    ("subject_sha", Json.get work "head_sha"),
    ("transient", .bool (decide (Json.get work "outcome" = .str "RETRY")))]

/-- The texts of the errors of the work contract. -/
def ContractError.text : ContractError → String
  | .value text => text
  | .type => "TypeError"

/-- The checks of a claim: `canonicalize_low_trust_claim`, whose `ValueError` is a
FAIL result, and `verify_local_command_result`. -/
def checkClaim (state : Journal) (adapter : Adapter) (package claim : Fields) :
    TickProgram Fields := do
  let createdAt : String ← TickCall.now.invoke
  match canonicalizeLowTrustClaim rt isInstant claim package createdAt with
  | .error (.value text) =>
      return agentFailure sha256 state "AGENT_RESULT_CONTRACT_INVALID" (contractError text)
  | .error .type => .fail "TypeError"
  | .ok work => do
      let workspace : Workspace ← (TickCall.workspace package work).invoke
      let errors ← Program.ofExcept ((verifyLocalCommandResult rt isInstant workspace package
        work).mapError ContractError.text)
      if errors = [] then return agentResult sha256 state adapter work
      else
        return agentFailure sha256 state "AGENT_RESULT_LOCAL_BINDING_INVALID"
          [("binding_errors", .arr (errors.map .str))]

/-- What `_run_agent_command` does with the file after a successful exit. -/
def readClaim (state : Journal) (adapter : Adapter) (package : Fields) :
    TickProgram Fields := do
  let left : Option ResultText ← (TickCall.readResult (keyOf state)).invoke
  match left with
  | none => return agentFailure sha256 state "AGENT_RESULT_MISSING"
  | some (.unreadable error) =>
      return agentFailure sha256 state "AGENT_RESULT_INVALID" (contractError error)
  | some (.value (.obj claim)) => checkClaim rt isInstant sha256 state adapter package claim
  | some (.value _) => return agentFailure sha256 state "AGENT_RESULT_INVALID"

/-- `proc.stderr[-500:]`. -/
def lastChars (length : Nat) (text : String) : String :=
  String.ofList (text.toList.drop (text.toList.length - length))

/-- The launch of the agent process and what follows it. -/
def launchAgent (state : Journal) (adapter : Adapter) (package : Fields) :
    TickProgram Fields := do
  let ended : AgentEnd ← (TickCall.launch state adapter).invoke
  match ended with
  | .timedOut => return agentFailure sha256 state "AGENT_COMMAND_TIMEOUT"
  | .notStarted error =>
      return agentFailure sha256 state "AGENT_COMMAND_START_FAILED" (contractError error)
  | .exited code stderr =>
      if code = 0 then readClaim rt isInstant sha256 state adapter package
      else
        return agentFailure sha256 state "AGENT_COMMAND_FAILED"
          [("exit_code", .num code), ("stderr_tail", .str (lastChars 500 stderr))]

/-- The work package of the envelope, or the code of the FAIL result. -/
def packageOf (envelope : Fields) : Except String Fields :=
  match Json.get envelope "work_package" with
  | .obj package =>
      let digest := Json.get envelope "work_package_digest"
      if digest = .null ∨ digest = Json.get package "package_digest" then .ok package
      else .error "AI_WORK_PACKAGE_DIGEST_MISMATCH"
  | _ => .error "AI_WORK_PACKAGE_MISSING"

/-- `_run_agent_command` with an adapter. -/
def runAdapter (state : Journal) (envelope : Fields) (environment : AgentEnvironment)
    (adapter : Adapter) : TickProgram Fields :=
  if adapter.kind = "REFERENCE_DETERMINISTIC" ∧ environment.allowReference ≠ "1" then
    return agentFailure sha256 state "REFERENCE_AGENT_RUNTIME_FORBIDDEN"
  else
    match packageOf envelope with
    | .error code => return agentFailure sha256 state code
    | .ok package => launchAgent rt isInstant sha256 state adapter package

/-- `_run_agent_command`. -/
def runAgentCommand (state : Journal) (envelope : Fields) : TickProgram (Option Fields) := do
  let environment : AgentEnvironment ← TickCall.agentEnvironment.invoke
  let rawCommand := Text.strip environment.command
  let adapterId := Text.strip environment.adapterId
  if rawCommand = "" ∧ adapterId = "" then return none
  else if adapterId = "" then return some (agentFailure sha256 state "AGENT_COMMAND_UNQUALIFIED")
  else if rawCommand ≠ "" then
    return some (agentFailure sha256 state "AGENT_COMMAND_OVERRIDE_FORBIDDEN")
  else do
    let loaded : Except String Adapter ← (TickCall.loadAdapter adapterId state.phase).invoke
    match loaded with
    | .error error =>
        return some (agentFailure sha256 state "AGENT_ADAPTER_UNQUALIFIED" (contractError error))
    | .ok adapter => do
        let result ← runAdapter rt isInstant sha256 state envelope environment adapter
        return some result

/-- `creative_executor`. -/
def creativeExecutor (state : Journal) (envelope : Fields) : TickProgram Produced := do
  let result ← runAgentCommand rt isInstant sha256 state envelope
  match result with
  | some fields => return .result fields
  | none =>
      return .wait
        { status := "WAITING_AGENT", reason := "CREATIVE_AGENT_RESULT_REQUIRED"
          capability := textMember envelope "capability" "edit"
          details := [("agent_inbox_supported", .bool true),
            ("idempotency_key", .str (keyText sha256 state))] }

/-- The executor of a phase, after the guard. -/
def runExecutor (state : Journal) (envelope : Fields) : TickProgram Produced :=
  if isCreative state.phase then creativeExecutor rt isInstant sha256 state envelope
  else liftExecutor (phaseExecutor sha256 state (keyText sha256 state))

/-- `ActionExecutorRegistry.execute`. -/
def executePhase (state : Journal) (envelope : Fields) : TickProgram Produced := do
  if needsWriterLease state.phase then
    let blocked ← liftExecutor (requireLiveWriterAuthority state)
    match blocked with
    | some wait => return .wait wait
    | none => runExecutor rt isInstant sha256 state envelope
  else runExecutor rt isInstant sha256 state envelope

/-- `ActionEnvelopeStore.result`. -/
def storedResult (key : Key) : TickProgram (Option Fields) := do
  let stored : Option ResultText ← (TickCall.readResult key).invoke
  match stored with
  | none => return none
  | some (.unreadable error) => .fail error
  | some (.value (.obj fields)) => return some fields
  | some (.value _) => .fail "SUPERVISOR_RESULT_INVALID"

/-- `ActionEnvelopeStore.write_result`. -/
def writeResult (key : Key) (value : Fields) : TickProgram Unit := do
  Program.check (Json.get value "idempotency_key" = .str (key.text sha256))
    "SUPERVISOR_RESULT_IDEMPOTENCY_MISMATCH"
  let stored : Option ResultText ← (TickCall.readResult key).invoke
  match stored with
  | none => (TickCall.storeResult key value).invoke
  | some (.unreadable error) => .fail error
  | some (.value existing) =>
      if existing = .obj value then return () else .fail "SUPERVISOR_RESULT_IDEMPOTENCY_CONFLICT"

/-- `_advance`. -/
def advanceTrusted (state : Journal) (result : Fields) : TickProgram Journal := do
  let given := Json.get result "subject_sha"
  let subjectSha := textOr rt (if given.truthy then given else state.subjectSha)
  (TickCall.refreshTrustedInputs subjectSha
    (state.phase = .ownerAcceptance ∨ state.phase = .merge)).invoke
  let preview := Json.get result "preview_digest"
  let context : DecisionContext ← (TickCall.compileTrustedContext state
    (Json.get result "idempotency_key") subjectSha
    (if preview.truthy then preview else state.previewDigest)).invoke
  let advanced : Journal ← (TickCall.advance state result context).invoke
  (TickCall.project advanced).invoke
  return advanced

/-! ## The tick -/

/-- A transition a tick reports. -/
structure Transition where
  fromPhase : Phase
  outcome : Json
  toPhase : Phase
  revision : Int

/-- What `tick` returns. -/
inductive TickReport where
  | ended (run : Journal) (transitions : List Transition)
  | waiting (wait : Wait) (run : Journal) (transitions : List Transition)
  | stepBudgetReached (run : Journal) (transitions : List Transition)

/-- The statuses on which the loop stops after a step. -/
def stopsTick : Status → Bool
  | .complete | .blocked | .humanRequired | .recovery | .retryWait => true
  | _ => false

/-- The step from a result to the next round of the loop. -/
def takeResult (state : Journal) (result : Fields) (transitions : List Transition)
    (next : List Transition → TickProgram TickReport) : TickProgram TickReport := do
  Program.check (Json.get result "idempotency_key" = .str (keyText sha256 state))
    "SUPERVISOR_RESULT_IDEMPOTENCY_MISMATCH"
  let advanced ← advanceTrusted rt state result
  let later := transitions ++
    [⟨state.phase, Json.get result "outcome", advanced.phase, advanced.revision⟩]
  if stopsTick advanced.status then return .ended advanced later else next later

/-- The result of a phase: the stored one, or one the executor produces and the
store then keeps. -/
def obtainResult (state : Journal) : TickProgram (Wait ⊕ Fields) := do
  (TickCall.ensureRequest state).invoke
  let stored ← storedResult (keyOf state)
  match stored with
  | some result => return .inr result
  | none => do
      let envelope : Fields ← (TickCall.readRequest (keyOf state)).invoke
      let produced ← executePhase rt isInstant sha256 state envelope
      match produced with
      | .wait wait => return .inl wait
      | .result fields => do
          writeResult sha256 (keyOf state) fields
          return .inr fields

/-- The loop of `tick`. -/
def tickLoop (runId : String) : Nat → List Transition → TickProgram TickReport
  | 0, transitions => do
      let state : Journal ← (TickCall.load runId).invoke
      return .stepBudgetReached state transitions
  | steps + 1, transitions => do
      let state : Journal ← (TickCall.load runId).invoke
      if state.status.isTerminal then return .ended state transitions
      else do
        let obtained ← obtainResult rt isInstant sha256 state
        match obtained with
        | .inl wait => return .waiting wait state transitions
        | .inr result =>
            takeResult rt sha256 state result transitions fun later => tickLoop runId steps later

/-- `RuntimeSupervisor.tick`. -/
def tick (runId : String) (maxSteps : Int) : TickProgram TickReport :=
  tickLoop rt isInstant sha256 runId (max 1 (min maxSteps 32)).toNat []

end Tick

end Adwf.Supervisor
