import Adwf.Supervisor.LowTrust

/-!
# The delivery of an agent

`_run_agent_command` reads the claim of the agent from the result file of the
phase and returns the canonical result.  `write_result` then finds the claim in
that same file, and the claim is never the canonical result.
-/

namespace Adwf.Supervisor

open Adwf.Fallible Adwf.Program Adwf.Orchestrator

variable {rt : Runtime} {isInstant : String → Bool} {sha256 : String → String}

/-- Surroundings that answer every call in one of the ways `Serves` allows. -/
def Lawful (rt : Runtime)
    (provide : Disk → (call : TickCall) → Disk × TickAnswer call) : Prop :=
  ∀ disk call, Serves rt (fun _ _ => True) disk call (provide disk call).1
    (provide disk call).2

/-! ## Calls of a tick that runs alone -/

section Alone

variable {provide : Disk → (call : TickCall) → Disk × TickAnswer call} {disk : Disk}

theorem execute_invoke_ok {call : TickCall} {later : Disk} {value : TickValue call}
    (provided : provide disk call = (later, .ok value)) :
    call.invoke.execute provide disk = (later, .done value) := by
  rw [TickCall.invoke, Program.invoke, execute, provided]
  rfl

theorem execute_invoke_error {call : TickCall} {later : Disk} {error : String}
    (provided : provide disk call = (later, .error error)) :
    call.invoke.execute provide disk = (later, .fail error) := by
  rw [TickCall.invoke, Program.invoke, execute, provided]
  rfl

theorem execute_quiet {call : TickCall} {value : TickValue call} (lawful : Lawful rt provide)
    (quiet : isQuiet call = true) (answered : (provide disk call).2 = .ok value) :
    call.invoke.execute provide disk = (disk, .done value) :=
  execute_invoke_ok (Prod.ext (eq_of_isQuiet quiet (lawful disk call)) answered)

theorem execute_readResult (lawful : Lawful rt provide) (key : Key) :
    (TickCall.readResult key).invoke.execute provide disk =
      (disk, .done ((disk.results key).map ResultFile.content)) :=
  execute_quiet lawful rfl (lawful disk (.readResult key)).2

theorem execute_liftExecutor_fst {α : Type} (lawful : Lawful rt provide)
    (executor : Executor α) : ((liftExecutor executor).execute provide disk).1 = disk := by
  induction executor with
  | done value => rfl
  | fail error => rfl
  | ask call next ih =>
      have same : (provide disk (.executor call)).1 = disk := lawful disk (.executor call)
      rw [liftExecutor, execute, same]
      exact ih _

end Alone

/-- What a delivery consists of: the run in its creative phase, the request with its
package, the adapter, and the claim the command leaves. -/
structure AgentDelivery where
  runId : String
  state : Journal
  envelope : Fields
  environment : AgentEnvironment
  adapter : Adapter
  package : Fields
  claim : Fields
  stderr : String
  createdAt : String
  workspace : Workspace
  work : Fields

/-- The disk once the command has left its claim. -/
def AgentDelivery.left (delivery : AgentDelivery) (disk : Disk) : Disk :=
  disk.setResult (keyOf delivery.state) (some ⟨.value (.obj delivery.claim), .agent⟩)

/-- The result `_run_agent_command` returns. -/
def AgentDelivery.result (sha256 : String → String) (delivery : AgentDelivery) : Fields :=
  agentResult sha256 delivery.state delivery.adapter delivery.work

/-- The surroundings of a tick that runs a qualified command for the loaded state.  The
command exits with success, and its claim passes both checks. -/
structure Delivers (rt : Runtime) (isInstant : String → Bool)
    (provide : Disk → (call : TickCall) → Disk × TickAnswer call) (disk : Disk)
    (delivery : AgentDelivery) : Prop where
  lawful : Lawful rt provide
  loaded : disk.journals.load rt delivery.runId = .ok delivery.state
  running : delivery.state.status.isTerminal = false
  creative : isCreative delivery.state.phase = true
  unanswered : disk.results (keyOf delivery.state) = none
  requested : (provide disk (.ensureRequest delivery.state)).2 = .ok ()
  request : (provide disk (.readRequest (keyOf delivery.state))).2 = .ok delivery.envelope
  authority : ((liftExecutor (requireLiveWriterAuthority delivery.state)).execute
    provide disk).2 = .done none
  environment : (provide disk .agentEnvironment).2 = .ok delivery.environment
  noCommand : Text.strip delivery.environment.command = ""
  adapterNamed : Text.strip delivery.environment.adapterId ≠ ""
  qualified : (provide disk (.loadAdapter (Text.strip delivery.environment.adapterId)
    delivery.state.phase)).2 = .ok (.ok delivery.adapter)
  allowed : ¬(delivery.adapter.kind = "REFERENCE_DETERMINISTIC" ∧
    delivery.environment.allowReference ≠ "1")
  packaged : packageOf delivery.envelope = .ok delivery.package
  launched : provide disk (.launch delivery.state delivery.adapter) =
    (delivery.left disk, .ok (.exited 0 delivery.stderr))
  created : (provide (delivery.left disk) .now).2 = .ok delivery.createdAt
  checkedOut : (provide (delivery.left disk)
    (.workspace delivery.package delivery.work)).2 = .ok delivery.workspace
  canonical : canonicalizeLowTrustClaim rt isInstant delivery.claim delivery.package
    delivery.createdAt = .ok delivery.work
  verified : verifyLocalCommandResult rt isInstant delivery.workspace delivery.package
    delivery.work = .ok []

/-- The tick stores the canonical result, hands it to the journal and raises no conflict
of result files. -/
structure DeliveryAdvances (rt : Runtime) (isInstant : String → Bool)
    (sha256 : String → String) (provide : Disk → (call : TickCall) → Disk × TickAnswer call)
    (disk : Disk) (delivery : AgentDelivery) (maxSteps : Int) : Prop where
  stored : ((tick rt isInstant sha256 delivery.runId maxSteps).execute provide
    disk).1.results (keyOf delivery.state) =
      some ⟨.value (.obj (delivery.result sha256)), .supervisor⟩
  passed : ⟨delivery.state, delivery.result sha256, some .supervisor⟩ ∈
    ((tick rt isInstant sha256 delivery.runId maxSteps).execute provide
      disk).1.passed.drop disk.passed.length
  quiet : ((tick rt isInstant sha256 delivery.runId maxSteps).execute provide disk).2 ≠
    .fail "SUPERVISOR_RESULT_IDEMPOTENCY_CONFLICT"

/-! ## The claim is not the result -/

theorem firstOfEach_eq_nil_iff {errors : List String} : firstOfEach errors = [] ↔ errors = [] := by
  rw [firstOfEach, List.reverse_eq_nil_iff, List.dedup_eq_nil, List.reverse_eq_nil_iff]

theorem errorUnless_eq_nil_iff {condition : Bool} {code : String} :
    errorUnless condition code = [] ↔ condition = true := by
  cases condition <;> simp [errorUnless]

theorem validateWorkPackage_of_canonical {claim package work : Fields} {createdAt : String}
    (canonical : canonicalizeLowTrustClaim rt isInstant claim package createdAt = .ok work) :
    validateWorkPackage rt isInstant package = .ok [] ∧
      Json.get claim "package_id" = Json.get package "package_id" := by
  rw [canonicalizeLowTrustClaim] at canonical
  cases unbound : unboundMember claim package with
  | some name =>
      simp only [unbound] at canonical
      cases canonical
  | none =>
      simp only [unbound, buildWorkResult, bind_ok_iff, require_eq_ok_iff, exists_const]
        at canonical
      rcases canonical with ⟨errors, valid, rfl, _⟩
      have bound := List.find?_eq_none.mp unbound "package_id" (by simp)
      exact ⟨valid, by simpa using bound⟩

theorem condition_of_firstOfEach {before last : List String} {condition : Bool} {code : String}
    (clean : firstOfEach (before ++ errorUnless condition code ++ last) = []) :
    condition = true := by
  rw [firstOfEach_eq_nil_iff, List.append_eq_nil_iff, List.append_eq_nil_iff] at clean
  exact errorUnless_eq_nil_iff.mp clean.1.2

theorem packageId_ne_null {package : Fields}
    (valid : validateWorkPackage rt isInstant package = .ok []) :
    Json.get package "package_id" ≠ .null := by
  have named : decide (Json.get package "package_id" = .str (packageId rt package)) =
      true := by
    simp only [validateWorkPackage, bind_ok_iff] at valid
    rcases valid with ⟨lists, _, valid⟩
    split_ifs at valid
    · simp only [bind_ok_iff] at valid
      rcases valid with ⟨allowed, _, forbidden, _, returned⟩
      exact condition_of_firstOfEach (Except.ok.inj returned)
    · simp only [ok_bind, bind_ok_iff] at valid
      rcases valid with ⟨forbidden, _, returned⟩
      exact condition_of_firstOfEach (Except.ok.inj returned)
  rw [of_decide_eq_true named]
  intro absent
  cases absent

theorem claim_ne_result {delivery : AgentDelivery}
    (canonical : canonicalizeLowTrustClaim rt isInstant delivery.claim delivery.package
      delivery.createdAt = .ok delivery.work) :
    Json.obj delivery.claim ≠ .obj (delivery.result sha256) := by
  intro same
  rcases validateWorkPackage_of_canonical canonical with ⟨valid, named⟩
  apply packageId_ne_null valid
  rw [← named, Json.obj.inj same]
  simp [AgentDelivery.result, agentResult]

/-! ## The tick of a delivery -/

section Delivered

variable {provide : Disk → (call : TickCall) → Disk × TickAnswer call} {disk : Disk}
variable {delivery : AgentDelivery}

theorem results_left (delivery : AgentDelivery) (disk : Disk) :
    ((delivery.left disk).results (keyOf delivery.state)).map ResultFile.content =
      some (.value (.obj delivery.claim)) := by
  simp [AgentDelivery.left, Disk.setResult]

theorem execute_checkClaim (delivers : Delivers rt isInstant provide disk delivery) :
    (checkClaim rt isInstant sha256 delivery.state delivery.adapter delivery.package
      delivery.claim).execute provide (delivery.left disk) =
      (delivery.left disk, .done (delivery.result sha256)) := by
  apply (execute_bind_of_done (execute_quiet delivers.lawful rfl delivers.created)).trans
  simp only [delivers.canonical]
  apply (execute_bind_of_done (execute_quiet delivers.lawful rfl delivers.checkedOut)).trans
  rw [delivers.verified]
  rfl

theorem execute_launchAgent (delivers : Delivers rt isInstant provide disk delivery) :
    (launchAgent rt isInstant sha256 delivery.state delivery.adapter
      delivery.package).execute provide disk =
      (delivery.left disk, .done (delivery.result sha256)) := by
  apply (execute_bind_of_done (execute_invoke_ok delivers.launched)).trans
  simp only [if_true]
  apply (execute_bind_of_done (execute_readResult delivers.lawful _)).trans
  rw [results_left]
  exact execute_checkClaim delivers

theorem execute_runAgentCommand (delivers : Delivers rt isInstant provide disk delivery) :
    (runAgentCommand rt isInstant sha256 delivery.state delivery.envelope).execute
      provide disk = (delivery.left disk, .done (some (delivery.result sha256))) := by
  apply (execute_bind_of_done (execute_quiet delivers.lawful rfl delivers.environment)).trans
  dsimp only
  rw [if_neg (fun both => delivers.adapterNamed both.2), if_neg delivers.adapterNamed,
    if_neg (fun given => given delivers.noCommand)]
  apply (execute_bind_of_done (execute_quiet delivers.lawful rfl delivers.qualified)).trans
  have ran : (runAdapter rt isInstant sha256 delivery.state delivery.envelope
      delivery.environment delivery.adapter).execute provide disk =
      (delivery.left disk, .done (delivery.result sha256)) := by
    rw [runAdapter, if_neg delivers.allowed, delivers.packaged]
    exact execute_launchAgent delivers
  apply (execute_bind_of_done ran).trans
  rfl

theorem execute_executePhase (delivers : Delivers rt isInstant provide disk delivery) :
    (executePhase rt isInstant sha256 delivery.state delivery.envelope).execute provide disk =
      (delivery.left disk, .done (.result (delivery.result sha256))) := by
  have leased : needsWriterLease delivery.state.phase = true := by
    have creative := delivers.creative
    cases phase : delivery.state.phase <;> simp_all [isCreative, needsWriterLease]
  have granted : (liftExecutor (requireLiveWriterAuthority delivery.state)).execute provide disk =
      (disk, .done none) :=
    Prod.ext (execute_liftExecutor_fst delivers.lawful _) delivers.authority
  rw [executePhase, if_pos leased]
  apply (execute_bind_of_done granted).trans
  simp only [runExecutor, delivers.creative, if_true]
  apply (execute_bind_of_done (execute_runAgentCommand delivers)).trans
  rfl

/-- The store refuses the canonical result: the claim is in its place. -/
theorem execute_writeResult (delivers : Delivers rt isInstant provide disk delivery) :
    (writeResult sha256 (keyOf delivery.state) (delivery.result sha256)).execute provide
      (delivery.left disk) =
      (delivery.left disk, .fail "SUPERVISOR_RESULT_IDEMPOTENCY_CONFLICT") := by
  have keyed : Json.get (delivery.result sha256) "idempotency_key" =
      .str ((keyOf delivery.state).text sha256) := by
    simp [AgentDelivery.result, agentResult, keyText]
  rw [writeResult, check, if_pos keyed, done_bind]
  apply (execute_bind_of_done (execute_readResult delivers.lawful _)).trans
  rw [results_left]
  simp only [claim_ne_result delivers.canonical, if_false]
  rfl

theorem execute_tick (delivers : Delivers rt isInstant provide disk delivery) (maxSteps : Int) :
    (tick rt isInstant sha256 delivery.runId maxSteps).execute provide disk =
      (delivery.left disk, .fail "SUPERVISOR_RESULT_IDEMPOTENCY_CONFLICT") := by
  have rounds : ∃ steps, (max 1 (min maxSteps 32)).toNat = steps + 1 :=
    ⟨(max 1 (min maxSteps 32)).toNat - 1, by omega⟩
  rcases rounds with ⟨steps, steps_eq⟩
  have obtained : (obtainResult rt isInstant sha256 delivery.state).execute provide disk =
      (delivery.left disk, .fail "SUPERVISOR_RESULT_IDEMPOTENCY_CONFLICT") := by
    have fresh : (storedResult (keyOf delivery.state)).execute provide disk =
        (disk, .done none) := by
      apply (execute_bind_of_done (execute_readResult delivers.lawful _)).trans
      rw [delivers.unanswered]
      rfl
    apply (execute_bind_of_done (execute_quiet delivers.lawful rfl delivers.requested)).trans
    apply (execute_bind_of_done fresh).trans
    apply (execute_bind_of_done (execute_quiet delivers.lawful rfl delivers.request)).trans
    apply (execute_bind_of_done (execute_executePhase delivers)).trans
    exact execute_bind_of_fail (execute_writeResult delivers)
  have loaded : (provide disk (.load delivery.runId)).2 = .ok delivery.state :=
    (delivers.lawful disk (.load delivery.runId)).2.trans delivers.loaded
  rw [tick, steps_eq, tickLoop]
  apply (execute_bind_of_done (execute_quiet delivers.lawful rfl loaded)).trans
  rw [if_neg (by simp [delivers.running])]
  exact execute_bind_of_fail obtained

theorem execute_laterTick {later : Disk → (call : TickCall) → Disk × TickAnswer call}
    (delivers : Delivers rt isInstant provide disk delivery) (lawful : Lawful rt later)
    (requested : (later (delivery.left disk) (.ensureRequest delivery.state)).2 = .ok ())
    (unkeyed : Json.get delivery.claim "idempotency_key" ≠ .str (keyText sha256 delivery.state))
    (maxSteps : Int) :
    (tick rt isInstant sha256 delivery.runId maxSteps).execute later (delivery.left disk) =
      (delivery.left disk, .fail "SUPERVISOR_RESULT_IDEMPOTENCY_MISMATCH") := by
  have rounds : ∃ steps, (max 1 (min maxSteps 32)).toNat = steps + 1 :=
    ⟨(max 1 (min maxSteps 32)).toNat - 1, by omega⟩
  rcases rounds with ⟨steps, steps_eq⟩
  have stored : (storedResult (keyOf delivery.state)).execute later (delivery.left disk) =
      (delivery.left disk, .done (some delivery.claim)) := by
    apply (execute_bind_of_done (execute_readResult lawful _)).trans
    rw [results_left]
    rfl
  have obtained : (obtainResult rt isInstant sha256 delivery.state).execute later
      (delivery.left disk) = (delivery.left disk, .done (.inr delivery.claim)) := by
    apply (execute_bind_of_done (execute_quiet lawful rfl requested)).trans
    apply (execute_bind_of_done stored).trans
    rfl
  have loaded : (later (delivery.left disk) (.load delivery.runId)).2 = .ok delivery.state :=
    (lawful _ (.load delivery.runId)).2.trans delivers.loaded
  rw [tick, steps_eq, tickLoop]
  apply (execute_bind_of_done (execute_quiet lawful rfl loaded)).trans
  rw [if_neg (by simp [delivers.running])]
  apply (execute_bind_of_done obtained).trans
  simp only [takeResult]
  rw [check, if_neg unkeyed, fail_bind]
  rfl

/-- No correct delivery advances the run: the tick that ran the command raises the
conflict, and a later one raises the mismatch unless the claim itself carries the key. -/
theorem not_deliveryAdvances (delivers : Delivers rt isInstant provide disk delivery)
    (maxSteps : Int) : ¬DeliveryAdvances rt isInstant sha256 provide disk delivery maxSteps ∧
      ∀ (later : Disk → (call : TickCall) → Disk × TickAnswer call) (laterSteps : Int),
        Lawful rt later → (later (delivery.left disk) (.ensureRequest delivery.state)).2 = .ok () →
        Json.get delivery.claim "idempotency_key" ≠ .str (keyText sha256 delivery.state) →
        (tick rt isInstant sha256 delivery.runId laterSteps).execute later (delivery.left disk) =
            (delivery.left disk, .fail "SUPERVISOR_RESULT_IDEMPOTENCY_MISMATCH") := by
  constructor
  · intro advances
    apply advances.quiet
    rw [execute_tick delivers]
  · intro later laterSteps lawful requested unkeyed
    exact execute_laterTick delivers lawful requested unkeyed laterSteps

end Delivered

/-! ## A delivery that passes both checks -/

/-- A runtime whose digest is 64 zeros. -/
def digestRuntime : Runtime :=
  { plainRuntime with digest := fun _ => String.ofList (List.replicate 64 '0') }

/-- The run of `plainJournals` in its EXECUTE phase. -/
def executingRun : Journal :=
  { plainStart with
    roadmapId := "ROADMAP-1", phase := .execute, subjectSha := .str headRevision
    workBranch := some "adwf/roadmap-1-run-0001" }

def executingDisk : Disk :=
  Disk.fresh [("run-0001", .journal executingRun)]

/-- The work package of the EXECUTE phase. -/
def executingPackage : Fields :=
  [("$schema", .str workPackageSchema), ("acceptance_criteria", .arr [.str "tests pass"]),
    ("allowed_write_surfaces", .arr [.str "product/*"]), ("base_sha", .str headRevision),
    ("conflict_domains", .arr [.str "product"]), ("created_at", .str "1970-01-01T00:00:00Z"),
    ("forbidden_write_surfaces", .arr []), ("goal", .str "a change of the product"),
    ("issue_id", .str "1"), ("monetary_budget_usd", .num 0),
    ("package_digest", .str (digestRuntime.digest .null)),
    ("package_id", .str "AIWP-000000000000000000000000"), ("phase", .str "EXECUTE"),
    ("required_evidence", .arr [.str "tests"]), ("revision", .num 0), ("risk", .str "R0"),
    ("roadmap_id", .str "ROADMAP-1"), ("run_id", .str "run-0001"), ("schema_version", .num 1),
    ("verification_plan", .arr [.str "run the tests"]), ("work_type", .str "feature")]

/-- The claim of a commit with one changed file. -/
def executingClaim : Fields :=
  [("base_sha", .str headRevision), ("changed_paths", .arr [.str "product/page.py"]),
    ("evidence_claims", .arr [.str "tests"]), ("head_sha", .str otherRevision),
    ("outcome", .str "PASS"), ("package_digest", .str (digestRuntime.digest .null)),
    ("package_id", .str "AIWP-000000000000000000000000"), ("reason_codes", .arr []),
    ("summary_ru", .str ""), ("verification_claims", .arr [.str "tests pass"])]

/-- The canonical form of the claim. -/
def executingWork : Fields :=
  [("$schema", .str workResultSchema), ("base_sha", .str headRevision),
    ("changed_paths", .arr [.str "product/page.py"]), ("cost_usd", .num 0),
    ("created_at", .str "1970-01-01T00:00:00Z"), ("evidence_claims", .arr [.str "tests"]),
    ("head_sha", .str otherRevision), ("issue_id", .str "1"), ("outcome", .str "PASS"),
    ("package_digest", .str (digestRuntime.digest .null)),
    ("package_id", .str "AIWP-000000000000000000000000"), ("phase", .str "EXECUTE"),
    ("reason_codes", .arr []), ("result_digest", .str (digestRuntime.digest .null)),
    ("result_id", .str "AIWR-000000000000000000000000"), ("roadmap_id", .str "ROADMAP-1"),
    ("run_id", .str "run-0001"), ("schema_version", .num 1), ("summary_ru", .str ""),
    ("verification_claims", .arr [.str "tests pass"])]

/-- The work tree of that commit. -/
def executingWorkspace : Workspace :=
  ⟨some otherRevision, true, true, some ["product/page.py"], true⟩

/-- The surroundings of the delivery. -/
def executingServe (disk : Disk) : (call : TickCall) → Disk × TickAnswer call
  | .load runId => (disk, disk.journals.load digestRuntime runId)
  | .readRequest _ => (disk, .ok [("work_package", .obj executingPackage)])
  | .workspace _ _ => (disk, .ok executingWorkspace)
  | .advance state result context =>
      let call : StepCall :=
        { stepResult := result, trustedContext := some context, effectivePolicy := some plainPolicy
          now := 0, occurredAt := 0, savedAt := 0, eventId := state.phase.name }
      (disk.pass state result (journalsAfter digestRuntime disk state.runId call).1,
        (journalsAfter digestRuntime disk state.runId call).2)
  | call => plainServe (fun _ => some executingClaim) disk call

theorem lawful_executingServe : Lawful digestRuntime executingServe := by
  intro disk call
  cases call with
  | load runId => exact ⟨rfl, rfl⟩
  | readResult key => exact ⟨rfl, rfl⟩
  | storeResult key value => exact .inr rfl
  | advance state result context => exact ⟨_, rfl, rfl, rfl, rfl⟩
  | launch state adapter => exact .inr (.inr ⟨_, trivial, rfl⟩)
  | _ => exact rfl

def executingDelivery : AgentDelivery where
  runId := "run-0001"
  state := executingRun
  envelope := [("work_package", .obj executingPackage)]
  environment := ⟨"", "agent", ""⟩
  adapter := ⟨"agent", .num 1, "EXTERNAL_COMMAND"⟩
  package := executingPackage
  claim := executingClaim
  stderr := ""
  createdAt := "1970-01-01T00:00:00Z"
  workspace := executingWorkspace
  work := executingWork

theorem validateWorkPackage_executingPackage :
    validateWorkPackage digestRuntime (fun _ => true) executingPackage = .ok [] := by
  decide +kernel

theorem validateWorkResult_executingWork :
    validateWorkResult digestRuntime (fun _ => true) executingWork executingPackage = .ok [] := by
  unfold validateWorkResult
  rw [validateWorkPackage_executingPackage]
  decide +kernel

theorem canonicalize_executingClaim :
    canonicalizeLowTrustClaim digestRuntime (fun _ => true) executingClaim executingPackage
      "1970-01-01T00:00:00Z" = .ok executingWork := by
  have bound : unboundMember executingClaim executingPackage = none := by decide
  simp only [canonicalizeLowTrustClaim, bound, buildWorkResult, bind_ok_iff, require_eq_ok_iff]
  refine ⟨[], validateWorkPackage_executingPackage, (), rfl, [], ?_, (), rfl, ?_⟩
  · refine Eq.trans
      (congrArg (validateWorkResult digestRuntime (fun _ => true) · executingPackage) ?_)
      validateWorkResult_executingWork
    decide +kernel
  · decide +kernel

theorem verify_executingWork :
    verifyLocalCommandResult digestRuntime (fun _ => true) executingWorkspace executingPackage
      executingWork = .ok [] := by
  unfold verifyLocalCommandResult
  rw [validateWorkResult_executingWork]
  decide +kernel

theorem delivers_executingDelivery :
    Delivers digestRuntime (fun _ => true) executingServe executingDisk executingDelivery where
  lawful := lawful_executingServe
  loaded := by decide +kernel
  running := rfl
  creative := rfl
  unanswered := rfl
  requested := rfl
  request := rfl
  authority := returned?_eq_some_iff.mp (by decide +kernel)
  environment := rfl
  noCommand := by decide +kernel
  adapterNamed := by decide +kernel
  qualified := rfl
  allowed := by decide +kernel
  packaged := rfl
  launched := rfl
  created := rfl
  checkedOut := rfl
  canonical := canonicalize_executingClaim
  verified := verify_executingWork

theorem not_deliveryAdvances_executing :
    ¬DeliveryAdvances digestRuntime (fun _ => true) id executingServe executingDisk
      executingDelivery 12 :=
  (not_deliveryAdvances delivers_executingDelivery 12).1

/-- A correct delivery whose tick raises the conflict. -/
theorem not_always_deliveryAdvances :
    ¬ ∀ (rt : Runtime) (isInstant : String → Bool) (sha256 : String → String)
      (provide : Disk → (call : TickCall) → Disk × TickAnswer call) (disk : Disk)
      (delivery : AgentDelivery) (maxSteps : Int), Delivers rt isInstant provide disk delivery →
      DeliveryAdvances rt isInstant sha256 provide disk delivery maxSteps := by
  intro advances
  have delivered := advances _ _ id _ _ _ 12 delivers_executingDelivery
  apply delivered.quiet
  rw [execute_tick delivers_executingDelivery]

end Adwf.Supervisor
