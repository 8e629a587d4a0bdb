import Adwf.Supervisor.Delivery

/-!
# The Agent Inbox

The comments of a public issue carry the results of agents.  Of the comments
under the key of the current request only the last one is validated.
-/

namespace Adwf.Supervisor

open Adwf.Fallible Adwf.Program Adwf.Orchestrator

/-- A comment of the inbox, its body as `str(body or "")`. -/
structure Comment where
  body : String
  id : Json
  actor : Json
  createdAt : Json

/-- What `json.loads` does with a text: it returns a value, raises
`JSONDecodeError`, or raises something else. -/
inductive Loaded where
  | value (value : Json)
  | malformed
  | raised (error : String)

/-- `RESULT_PREFIX`. -/
def resultPrefix : String :=
  "<!-- ADWF-AGENT-RESULT v3 -->\n```json\n"

/-- `SUFFIX`. -/
def resultSuffix : String :=
  "\n```"

section Inbox

variable (loads : String → Loaded)

/-- `_parse` with `RESULT_PREFIX`. -/
def parse (body : String) : Except String (Option Fields) :=
  let chars := body.toList
  if resultPrefix.toList.isPrefixOf chars && resultSuffix.toList.isSuffixOf chars then
    match loads (String.ofList ((chars.take (chars.length - resultSuffix.length)).drop
      resultPrefix.length)) with
    | .value (.obj fields) => .ok (some fields)
    | .value _ | .malformed => .ok none
    | .raised error => .error error
  else .ok none

/-- A member set, at its place or at the end. -/
def withMember (fields : Fields) (name : String) (value : Json) : Fields :=
  if (fields.lookup name).isSome then setField fields name value else fields ++ [(name, value)]

/-- The result that a comment carries. -/
def Comment.read (comment : Comment) : Except String (Option Fields) := do
  let value ← parse loads comment.body
  return value.map fun fields =>
    withMember (withMember (withMember fields "provider_comment_id" comment.id)
      "provider_actor" comment.actor) "provider_created_at" comment.createdAt

/-- `GitHubAgentInbox.results`. -/
def results : List Comment → Except String (List Fields)
  | [] => .ok []
  | comment :: comments => do
      let value ← comment.read loads
      let rest ← results comments
      return value.toList ++ rest

end Inbox

section Consume

variable (rt : Runtime) (isInstant : String → Bool) (sha256 : String → String)

def agentResultFields : List String :=
  ["schema_version", "idempotency_key", "run_id", "phase", "outcome", "subject_sha", "head_sha",
    "branch", "reason_codes", "summary_ru", "package_id", "package_digest", "base_sha",
    "changed_paths", "verification_claims", "evidence_claims", "provider_comment_id",
    "provider_actor", "provider_created_at"]

/-- The branch is absent or one of the framework's. -/
def branchValid : Json → Bool
  | .null => true
  | .str branch => Text.startsWith branch "adwf/" && branch.length ≤ 180
  | _ => false

/-- `validate_agent_result`. -/
def validateAgentResult (value request : Fields) (createdAt : String) : Except String Fields := do
  let get := Json.get value
  let unknown := (value.map Prod.fst).filter fun name => !agentResultFields.contains name
  require (unknown = [])
    ("AGENT_RESULT_FIELDS_FORBIDDEN:" ++ ",".intercalate (unknown.dedup.insertionSort (· ≤ ·)))
  require (get "schema_version" = .num 3) "AGENT_RESULT_SCHEMA"
  ["idempotency_key", "run_id", "phase"].forM fun field =>
    require (get field = Json.get request field) ("AGENT_RESULT_BINDING_MISMATCH:" ++ field)
  require (isHashable (get "phase")) "TypeError"
  require (get "phase" ∈ [Json.str "EXECUTE", .str "RECOVERY"]) "AGENT_RESULT_PHASE_FORBIDDEN"
  match Json.get request "work_package" with
  | .obj package =>
      require (Json.get request "work_package_digest" = Json.get package "package_digest")
        "AGENT_RESULT_WORK_PACKAGE_MISSING"
      let work ← (canonicalizeLowTrustClaim rt isInstant value package createdAt).mapError
        ContractError.text
      let branch := get "branch"
      let expected := Json.get request "work_branch"
      require (branchValid branch) "AGENT_BRANCH_INVALID"
      require (expected.truthy = true → branch = expected) "AGENT_BRANCH_BINDING_MISMATCH"
      let outcome := Json.get work "outcome"
      return [("cost_usd", .num 0), ("evidence_refs", .arr []),
        ("idempotency_key", get "idempotency_key"),
        ("metadata", .obj [("ai_work_result", .obj work), ("branch", branch),
          ("provider_actor", get "provider_actor"),
          ("provider_comment_id", get "provider_comment_id"),
          ("source", .str "LOW_TRUST_AGENT_RESULT"), ("summary_ru", Json.get work "summary_ru")]),
        ("outcome", outcome), ("phase", get "phase"), ("preview_digest", .null),
        ("reason_codes", Json.get work "reason_codes"), ("subject_sha", Json.get work "head_sha"),
        ("transient", .bool (outcome = .str "RETRY"))]
  | _ => .error "AGENT_RESULT_WORK_PACKAGE_MISSING"

variable (loads : String → Loaded) (remember : Fields → Except String Unit)

/-- The result is under the key, the run and the phase of the state. -/
def isBound (state : Journal) (value : Fields) : Bool :=
  Json.get value "idempotency_key" = .str (keyText sha256 state) &&
    Json.get value "run_id" = .str state.runId && Json.get value "phase" = .str state.phase.name

/-- `consume_agent_result` for the active run, up to the tick.  `remember` is the
update of the work memory. -/
def deliver (state : Journal) (comments : List Comment) : TickProgram (Option Fields) :=
  if state.phase.name ∈ ["EXECUTE", "RECOVERY"] then do
    (TickCall.ensureRequest state).invoke
    let request : Fields ← (TickCall.readRequest (keyOf state)).invoke
    let values ← Program.ofExcept (results loads comments)
    match (values.filter (isBound sha256 state)).getLast? with
    | none => return none
    | some value => do
        let createdAt : String ← TickCall.now.invoke
        let result ← Program.ofExcept
          (validateAgentResult rt isInstant value request createdAt)
        writeResult sha256 (keyOf state) result
        Program.ofExcept (remember result)
        return some result
  else return none

/-- `consume_agent_result` for the active run. -/
def consume (state : Journal) (comments : List Comment) : TickProgram (Option TickReport) := do
  let result ← deliver rt isInstant sha256 loads remember state comments
  match result with
  | none => return none
  | some _ => do
      let report ← tick rt isInstant sha256 state.runId 12
      return some report

end Consume

/-- The text between the marks is the one that is read. -/
theorem parse_wrapped (loads : String → Loaded) (text : String) :
    parse loads (resultPrefix ++ text ++ resultSuffix) = match loads text with
      | .value (.obj fields) => .ok (some fields)
      | .value _ | .malformed => .ok none
      | .raised error => .error error := by
  have starts : resultPrefix.toList.isPrefixOf
      (resultPrefix.toList ++ text.toList ++ resultSuffix.toList) = true := by
    rw [List.isPrefixOf_iff_prefix, List.append_assoc]
    exact List.prefix_append _ _
  have ends : resultSuffix.toList.isSuffixOf
      (resultPrefix.toList ++ text.toList ++ resultSuffix.toList) = true := by
    rw [List.isSuffixOf_iff_suffix]
    exact List.suffix_append _ _
  have lengths : ((resultPrefix.toList ++ text.toList ++ resultSuffix.toList).take
      ((resultPrefix.toList ++ text.toList ++ resultSuffix.toList).length -
        resultSuffix.length)).drop resultPrefix.length = text.toList := by
    rw [List.length_append, String.length_toList, Nat.add_sub_cancel, List.take_left,
      ← String.length_toList, List.drop_left]
  simp only [parse, String.toList_append, starts, ends, Bool.and_true, if_true, lengths,
    String.ofList_toList]

/-! ## The last bound comment -/

section Last

variable {sha256 : String → String} {loads : String → Loaded} {state : Journal}
variable {comments : List Comment} {values : List Fields} {value : Fields}

theorem mem_of_results (found : results loads comments = .ok values) :
    (∀ comment ∈ comments, ∃ value, comment.read loads = .ok value) ∧
      ∀ value, value ∈ values ↔ ∃ comment ∈ comments, comment.read loads = .ok (some value) := by
  induction comments generalizing values with
  | nil =>
      cases found
      simp
  | cons comment comments ih =>
      rcases bind_ok_iff.mp found with ⟨carried, read, found⟩
      rcases bind_ok_iff.mp found with ⟨rest, others, same⟩
      cases same
      rcases ih others with ⟨readable, members⟩
      constructor
      · simp only [List.forall_mem_cons]
        exact ⟨⟨carried, read⟩, readable⟩
      · intro value
        rw [List.mem_append, members, Option.mem_toList, List.exists_mem_cons_iff, read]
        simp

theorem exists_results (readable : ∀ comment ∈ comments, ∃ value, comment.read loads = .ok value) :
    ∃ values, results loads comments = .ok values := by
  induction comments with
  | nil => exact ⟨[], rfl⟩
  | cons comment comments ih =>
      rw [List.forall_mem_cons] at readable
      rcases readable.1 with ⟨value, read⟩
      rcases ih readable.2 with ⟨values, others⟩
      refine ⟨value.toList ++ values, ?_⟩
      rw [results, read, others]
      rfl

/-- The last of the comments that carry the key, the run and the phase. -/
def LastBound (sha256 : String → String) (loads : String → Loaded) (state : Journal)
    (comments : List Comment) (value : Fields) : Prop :=
  ∃ before comment after, comments = before ++ comment :: after ∧
    comment.read loads = .ok (some value) ∧ isBound sha256 state value = true ∧
    ∀ other ∈ after, ∀ later, other.read loads = .ok (some later) →
      isBound sha256 state later = false

theorem getLast_bound_iff (found : results loads comments = .ok values) :
    (values.filter (isBound sha256 state)).getLast? = some value ↔
      LastBound sha256 loads state comments value := by
  induction comments generalizing values with
  | nil =>
      cases found
      simp [LastBound]
  | cons comment comments ih =>
      rcases bind_ok_iff.mp found with ⟨carried, read, found⟩
      rcases bind_ok_iff.mp found with ⟨rest, others, same⟩
      cases same
      rw [List.filter_append, List.getLast?_append, Option.or_eq_some_iff, ih others]
      constructor
      · rintro (⟨before, other, after, rfl, last⟩ | ⟨none, last⟩)
        · exact ⟨comment :: before, other, after, rfl, last⟩
        · have mem := List.mem_of_getLast? last
          rw [List.mem_filter, Option.mem_toList] at mem
          refine ⟨[], comment, comments, rfl, read.trans (congrArg Except.ok mem.1), mem.2, ?_⟩
          intro other listed later carries
          rw [List.getLast?_eq_none_iff, List.filter_eq_nil_iff] at none
          have loose := none later (((mem_of_results others).2 later).mpr ⟨other, listed, carries⟩)
          rwa [Bool.not_eq_true] at loose
      · rintro ⟨before, other, after, split, carries, bound, last⟩
        cases before with
        | nil =>
            cases split
            refine .inr ⟨?_, ?_⟩
            · rw [List.getLast?_eq_none_iff, List.filter_eq_nil_iff]
              intro later mem
              rcases ((mem_of_results others).2 later).mp mem with ⟨other, listed, carries⟩
              rw [last other listed later carries]
              exact Bool.false_ne_true
            · rw [Except.ok.inj (read.symm.trans carries)]
              simp [bound]
        | cons first before =>
            cases split
            exact .inl ⟨before, other, after, rfl, carries, bound, last⟩

end Last

/-! ## What the delivery needs -/

section Needs

variable {rt : Runtime} {isInstant : String → Bool} {sha256 : String → String}
variable {loads : String → Loaded} {remember : Fields → Except String Unit} {state : Journal}
variable {provide : Disk → (call : TickCall) → Disk × TickAnswer call} {disk later : Disk}
variable {comments : List Comment} {request value result : Fields} {createdAt : String}

/-- The surroundings hold a request for the state and a clock. -/
structure Requested (rt : Runtime)
    (provide : Disk → (call : TickCall) → Disk × TickAnswer call) (disk : Disk) (state : Journal)
    (request : Fields) (createdAt : String) : Prop where
  lawful : Lawful rt provide
  requested : (provide disk (.ensureRequest state)).2 = .ok ()
  request : (provide disk (.readRequest (keyOf state))).2 = .ok request
  created : (provide disk .now).2 = .ok createdAt

/-- What the result file of the state says. -/
def Disk.said (disk : Disk) (state : Journal) : Option ResultText :=
  (disk.results (keyOf state)).map ResultFile.content

/-- The result is stored already, or there is none and the store takes it. -/
def Storable (provide : Disk → (call : TickCall) → Disk × TickAnswer call) (disk : Disk)
    (state : Journal) (result : Fields) : Prop :=
  disk.said state = some (.value (.obj result)) ∨
    disk.said state = none ∧ (provide disk (.storeResult (keyOf state) result)).2 = .ok ()

theorem execute_ofExcept_iff {α : Type} {answer : Except String α} {value : α} :
    (Program.ofExcept answer : TickProgram α).execute provide disk = (later, .done value) ↔
      disk = later ∧ answer = .ok value := by
  cases answer with
  | ok other => simp [Program.ofExcept, execute]
  | error error => simp [Program.ofExcept, execute]

theorem execute_invoke_iff {call : TickCall} {value : TickValue call} :
    call.invoke.execute provide disk = (later, .done value) ↔
      provide disk call = (later, .ok value) := by
  rcases provided : provide disk call with ⟨after, answer⟩
  cases answer with
  | ok other =>
      rw [execute_invoke_ok provided]
      simp
  | error error =>
      rw [execute_invoke_error provided]
      simp

theorem execute_writeResult_iff (lawful : Lawful rt provide)
    (keyed : Json.get result "idempotency_key" = .str ((keyOf state).text sha256)) :
    (writeResult sha256 (keyOf state) result).execute provide disk = (later, .done ()) ↔
      disk.said state = some (.value (.obj result)) ∧ disk = later ∨ disk.said state = none ∧
          provide disk (.storeResult (keyOf state) result) = (later, .ok ()) := by
  have read : (TickCall.readResult (keyOf state)).invoke.execute provide disk =
      (disk, .done (disk.said state)) := execute_readResult lawful (keyOf state)
  rw [writeResult, check, if_pos keyed, done_bind]
  -- The answer's type is that of the call only up to unfolding, so `rw` finds no bind.
  apply (Eq.congr_left (execute_bind_of_done read)).trans
  cases disk.said state with
  | none =>
      simp only [reduceCtorEq, false_and, false_or, true_and]
      exact execute_invoke_iff
  | some text =>
      cases text with
      | unreadable error => simp [execute]
      | value existing =>
          by_cases same : existing = .obj result
          · simp only [same, if_true, true_and, reduceCtorEq, false_and, or_false]
            exact execute_done_iff.trans (and_iff_left rfl)
          · simp [same, execute]

theorem said_of_writeResult (lawful : Lawful rt provide)
    (keyed : Json.get result "idempotency_key" = .str ((keyOf state).text sha256))
    (written : (writeResult sha256 (keyOf state) result).execute provide disk = (later, .done ())) :
    later.said state = some (.value (.obj result)) := by
  rcases (execute_writeResult_iff lawful keyed).mp written with ⟨said, rfl⟩ | ⟨_, stored⟩
  · exact said
  · have served := lawful disk (.storeResult (keyOf state) result)
    rw [stored] at served
    rcases served with ⟨_, _, failed⟩ | rfl
    · cases failed
    · simp [Disk.said, Disk.setResult]

theorem fields_of_validate
    (valid : validateAgentResult rt isInstant value request createdAt = .ok result) :
    Json.get result "idempotency_key" = Json.get value "idempotency_key" ∧
      Json.get value "phase" ∈ [Json.str "EXECUTE", .str "RECOVERY"] := by
  rw [validateAgentResult] at valid
  rcases bind_ok_iff.mp valid with ⟨_, _, valid⟩
  rcases bind_ok_iff.mp valid with ⟨_, _, valid⟩
  rcases bind_ok_iff.mp valid with ⟨_, _, valid⟩
  rcases bind_ok_iff.mp valid with ⟨_, _, valid⟩
  rcases bind_ok_iff.mp valid with ⟨_, creative, valid⟩
  rw [require_eq_ok_iff] at creative
  split at valid
  · rcases bind_ok_iff.mp valid with ⟨_, _, valid⟩
    rcases bind_ok_iff.mp valid with ⟨_, _, valid⟩
    rcases bind_ok_iff.mp valid with ⟨_, _, valid⟩
    rcases bind_ok_iff.mp valid with ⟨_, _, valid⟩
    cases valid
    exact ⟨by simp, creative⟩
  · cases valid

theorem phase_of_bound (bound : isBound sha256 state value = true)
    (creative : Json.get value "phase" ∈ [Json.str "EXECUTE", .str "RECOVERY"]) :
    state.phase.name ∈ ["EXECUTE", "RECOVERY"] := by
  simp only [isBound, Bool.and_eq_true, decide_eq_true_eq] at bound
  rw [bound.2] at creative
  simpa using creative

/-! ## Deliveries -/

section Deliver

variable (rt : Runtime) (isInstant : String → Bool) (sha256 : String → String)
variable (loads : String → Loaded) (remember : Fields → Except String Unit)
variable (provide : Disk → (call : TickCall) → Disk × TickAnswer call) (disk : Disk)
variable (state : Journal) (comments : List Comment) (request : Fields) (createdAt : String)

/-- The comment carries a result that `validate_agent_result` accepts. -/
def Accepted (comment : Comment) : Prop :=
  ∃ value result, comment.read loads = .ok (some value) ∧
    validateAgentResult rt isInstant value request createdAt = .ok result

/-- An accepted result is written for the key, and then the supervisor ticks. -/
def Consumes : Prop :=
  ∃ comment ∈ comments, ∃ value result later, comment.read loads = .ok (some value) ∧
    validateAgentResult rt isInstant value request createdAt = .ok result ∧
    later.said state = some (.value (.obj result)) ∧
    (deliver rt isInstant sha256 loads remember state comments).execute provide disk =
      (later, .done (some result)) ∧
    (consume rt isInstant sha256 loads remember state comments).execute provide disk =
      (tick rt isInstant sha256 state.runId 12 >>= fun report => pure (some report)).execute
        provide later

/-- No comment makes `json.loads` raise more than `JSONDecodeError`, and the last
comment under the key, the run and the phase is accepted, stored and remembered. -/
def Deliverable : Prop :=
  (∀ comment ∈ comments, ∃ value, comment.read loads = .ok value) ∧
    ∃ value result, LastBound sha256 loads state comments value ∧
      validateAgentResult rt isInstant value request createdAt = .ok result ∧
      Storable provide disk state result ∧ remember result = .ok ()

end Deliver

/-- The delivery of a validated value. -/
def deliverValue (sha256 : String → String) (remember : Fields → Except String Unit)
    (state : Journal) (validated : Except String Fields) : TickProgram (Option Fields) := do
  let result ← Program.ofExcept validated
  writeResult sha256 (keyOf state) result
  Program.ofExcept (remember result)
  return some result

theorem execute_deliverValue_iff {validated : Except String Fields} :
    (deliverValue sha256 remember state validated).execute provide disk =
        (later, .done (some result)) ↔ validated = .ok result ∧
        (writeResult sha256 (keyOf state) result).execute provide disk = (later, .done ()) ∧
          remember result = .ok () := by
  rw [deliverValue, execute_bind_eq_done_iff]
  constructor
  · rintro ⟨middle, other, validates, ended⟩
    rcases execute_ofExcept_iff.mp validates with ⟨rfl, valid⟩
    rcases execute_bind_eq_done_iff.mp ended with ⟨after, ⟨⟩, written, ended⟩
    rcases execute_bind_eq_done_iff.mp ended with ⟨last, ⟨⟩, remembers, ended⟩
    rcases execute_ofExcept_iff.mp remembers with ⟨rfl, kept⟩
    cases ended
    exact ⟨valid, written, kept⟩
  · rintro ⟨valid, written, kept⟩
    refine ⟨disk, result, execute_ofExcept_iff.mpr ⟨rfl, valid⟩, ?_⟩
    apply (execute_bind_of_done written).trans
    rw [kept]
    rfl

theorem execute_deliver (requested : Requested rt provide disk state request createdAt)
    (phase : state.phase.name ∈ ["EXECUTE", "RECOVERY"]) :
    (deliver rt isInstant sha256 loads remember state comments).execute provide disk =
      match results loads comments with
      | .error error => (disk, .fail error)
      | .ok values =>
          match (values.filter (isBound sha256 state)).getLast? with
          | none => (disk, .done none)
          | some value =>
              (deliverValue sha256 remember state
                (validateAgentResult rt isInstant value request createdAt)).execute
                provide disk := by
  have lawful := requested.lawful
  rw [deliver, if_pos phase]
  apply (execute_bind_of_done (execute_quiet lawful rfl requested.requested)).trans
  apply (execute_bind_of_done (execute_quiet lawful rfl requested.request)).trans
  cases results loads comments with
  | error error => rfl
  | ok values =>
      simp only [Program.ofExcept, done_bind]
      cases (values.filter (isBound sha256 state)).getLast? with
      | none => rfl
      | some value => exact execute_bind_of_done (execute_quiet lawful rfl requested.created)

theorem execute_deliver_iff (requested : Requested rt provide disk state request createdAt) :
    (deliver rt isInstant sha256 loads remember state comments).execute provide disk =
        (later, .done (some result)) ↔ state.phase.name ∈ ["EXECUTE", "RECOVERY"] ∧
      (∃ values, results loads comments = .ok values) ∧
        ∃ value, LastBound sha256 loads state comments value ∧
          validateAgentResult rt isInstant value request createdAt = .ok result ∧
          (writeResult sha256 (keyOf state) result).execute provide disk = (later, .done ()) ∧
          remember result = .ok () := by
  by_cases phase : state.phase.name ∈ ["EXECUTE", "RECOVERY"]
  · rw [execute_deliver requested phase]
    simp only [phase, true_and]
    cases found : results loads comments with
    | error error => simp
    | ok values =>
        simp only [Except.ok.injEq, exists_eq', true_and]
        simp only [← getLast_bound_iff found]
        cases (values.filter (isBound sha256 state)).getLast? with
        | none => simp
        | some value => simpa using execute_deliverValue_iff
  · rw [deliver, if_neg phase]
    simp [phase, execute]

/-- The delivery goes through exactly when the last bound comment does. -/
theorem consumes_iff_deliverable (requested : Requested rt provide disk state request createdAt) :
    Consumes rt isInstant sha256 loads remember provide disk state comments request createdAt ↔
      Deliverable rt isInstant sha256 loads remember provide disk state comments request
        createdAt := by
  have keyed : ∀ value result, isBound sha256 state value = true →
      validateAgentResult rt isInstant value request createdAt = .ok result →
      Json.get result "idempotency_key" = .str ((keyOf state).text sha256) := by
    intro value result bound valid
    simp only [isBound, Bool.and_eq_true, decide_eq_true_eq] at bound
    exact (fields_of_validate valid).1.trans bound.1.1
  constructor
  · rintro ⟨_, _, _, result, later, _, _, _, delivered, _⟩
    rcases (execute_deliver_iff requested).mp delivered with
      ⟨_, ⟨values, found⟩, value, last, valid, written, remembered⟩
    refine ⟨(mem_of_results found).1, value, result, last, valid, ?_, remembered⟩
    rcases last with ⟨_, _, _, _, _, bound, _⟩
    rcases (execute_writeResult_iff requested.lawful (keyed value result bound valid)).mp
      written with ⟨said, _⟩ | ⟨absent, stored⟩
    · exact .inl said
    · exact .inr ⟨absent, by rw [stored]⟩
  · rintro ⟨readable, value, result, last, valid, storable, remembered⟩
    rcases id last with ⟨before, comment, after, split, carries, bound, _⟩
    have named := keyed value result bound valid
    have written : ∃ later, (writeResult sha256 (keyOf state) result).execute provide disk =
        (later, .done ()) := by
      rcases storable with said | ⟨absent, stored⟩
      · exact ⟨disk, (execute_writeResult_iff requested.lawful named).mpr (.inl ⟨said, rfl⟩)⟩
      · exact ⟨_, (execute_writeResult_iff requested.lawful named).mpr
          (.inr ⟨absent, Prod.ext rfl stored⟩)⟩
    rcases written with ⟨later, written⟩
    have delivered : (deliver rt isInstant sha256 loads remember state comments).execute provide
        disk = (later, .done (some result)) := (execute_deliver_iff requested).mpr
      ⟨phase_of_bound bound (fields_of_validate valid).2, exists_results readable, value, last,
        valid, written, remembered⟩
    refine ⟨comment, by simp [split], value, result, later, carries, valid,
      said_of_writeResult requested.lawful named written, delivered, ?_⟩
    exact execute_bind_of_done delivered

end Needs

/-! ## A correct result and a copy of its key -/

/-- The request of the EXECUTE phase. -/
def inboxRequest : Fields :=
  [("idempotency_key", .str (keyText id executingRun)), ("phase", .str "EXECUTE"),
    ("run_id", .str "run-0001"), ("work_package", .obj executingPackage),
    ("work_package_digest", .str (digestRuntime.digest .null))]

/-- The claim of the EXECUTE phase with a version of its schema. -/
def inboxClaim (version : Nat) : Fields :=
  ("idempotency_key", .str (keyText id executingRun)) :: ("phase", .str "EXECUTE") ::
    ("run_id", .str "run-0001") :: ("schema_version", .num version) :: executingClaim

def inboxStart : String :=
  "\x7b\"idempotency_key\":\"" ++ keyText id executingRun ++
    "\",\"phase\":\"EXECUTE\",\"run_id\":\"run-0001\",\"schema_version\":"

def inboxEnd : String :=
  ",\"base_sha\":\"" ++ headRevision ++ "\",\"changed_paths\":[\"product/page.py\"]," ++
    "\"evidence_claims\":[\"tests\"],\"head_sha\":\"" ++ otherRevision ++
    "\",\"outcome\":\"PASS\",\"package_digest\":\"" ++ digestRuntime.digest .null ++
    "\",\"package_id\":\"AIWP-000000000000000000000000\",\"reason_codes\":[]," ++
    "\"summary_ru\":\"\",\"verification_claims\":[\"tests pass\"]\x7d"

/-- The claim as a text. -/
def inboxText (version : Nat) : String :=
  inboxStart ++ toString version ++ inboxEnd

/-- `json.loads` of these texts. -/
def inboxLoads (text : String) : Loaded :=
  if text = inboxText 3 then .value (.obj (inboxClaim 3))
  else if text = inboxText 2 then .value (.obj (inboxClaim 2))
  else .malformed

def inboxComment (version : Nat) : Comment where
  body := resultPrefix ++ inboxText version ++ resultSuffix
  id := .num version
  actor := .str "guest"
  createdAt := .str "1970-01-01T00:00:00Z"

/-- The surroundings with that request. -/
def inboxServe (disk : Disk) : (call : TickCall) → Disk × TickAnswer call
  | .readRequest _ => (disk, .ok inboxRequest)
  | call => executingServe disk call

theorem requested_inboxServe : Requested digestRuntime inboxServe executingDisk executingRun
    inboxRequest "1970-01-01T00:00:00Z" where
  lawful := by
    intro disk call
    cases call with
    | readRequest key => exact rfl
    | _ => exact lawful_executingServe disk _
  requested := rfl
  request := rfl
  created := rfl

/-- What the comment carries. -/
def inboxValue (version : Nat) : Fields :=
  inboxClaim version ++ [("provider_comment_id", .num version), ("provider_actor", .str "guest"),
    ("provider_created_at", .str "1970-01-01T00:00:00Z")]

theorem inboxText_ne : inboxText 2 ≠ inboxText 3 := by
  rw [inboxText, inboxText, ne_eq, String.append_left_inj, String.append_right_inj]
  decide

theorem read_inboxComment : (inboxComment 3).read inboxLoads = .ok (some (inboxValue 3)) ∧
    (inboxComment 2).read inboxLoads = .ok (some (inboxValue 2)) := by
  constructor
  · rw [Comment.read, inboxComment, parse_wrapped, inboxLoads, if_pos rfl]
    decide +kernel
  · rw [Comment.read, inboxComment, parse_wrapped, inboxLoads, if_neg inboxText_ne, if_pos rfl]
    decide +kernel

theorem validate_inboxValue : ∃ result, validateAgentResult digestRuntime (fun _ => true)
    (inboxValue 3) inboxRequest "1970-01-01T00:00:00Z" = .ok result := by
  have valid : (validateAgentResult digestRuntime (fun _ => true) (inboxValue 3) inboxRequest
      "1970-01-01T00:00:00Z").isOk = true := by decide +kernel
  cases validated : validateAgentResult digestRuntime (fun _ => true) (inboxValue 3) inboxRequest
      "1970-01-01T00:00:00Z" with
  | error error =>
      rw [validated] at valid
      cases valid
  | ok result => exact ⟨result, rfl⟩

end Adwf.Supervisor
