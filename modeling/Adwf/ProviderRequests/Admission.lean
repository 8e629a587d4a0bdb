import Adwf.ProviderRequests.Operations
import Adwf.ProviderRequests.Envelope

/-!
# What the request parsers admit

The checks of the two parsers pass exactly for the requests that the builders
make of admissible arguments, up to the spelling of the schema version and of
the budget.
-/

namespace Adwf.ProviderRequests

open Fallible JsonText
open Value (WellFormed wellFormedMembers_iff)

variable {tools : Tools} {version budget : Value} {signature : Option String} {request : Members}
variable (identity : Identity)

/-! ## Paths -/

variable {value : Value} {operation : Operation}

theorem eq_str_of_path {read : String} (passed : path value = .ok read) : value = .str read := by
  cases value with
  | str text =>
      simp only [path, bind_ok_iff] at passed
      obtain ⟨_, _, _, _, _, _, _, _, ran⟩ := passed
      cases ran
      rfl
  | _ => cases passed

theorem eq_map_str_of_pathsOf {items : List Value} {read : List String}
    (passed : pathsOf items = .ok read) : items = read.map .str := by
  induction items generalizing read with
  | nil =>
      cases passed
      rfl
  | cons item items ih =>
      simp only [pathsOf, bind_ok_iff] at passed
      obtain ⟨first, one, rest, others, ran⟩ := passed
      cases ran
      rw [eq_str_of_path one, ih others, List.map_cons]

theorem canonicalPaths_eq_ok {read : List String}
    (passed : canonicalPaths value = .ok read) : value = texts read ∧ read = sorted read := by
  cases value with
  | list items =>
      simp only [canonicalPaths, bind_ok_iff, require_eq_ok_iff] at passed
      obtain ⟨_, _, _, collected, _, ordered, ran⟩ := passed
      cases ran
      rw [eq_map_str_of_pathsOf collected]
      exact ⟨rfl, ordered.2.2⟩
  | _ => cases passed

theorem canonicalPaths_projectionPaths :
    canonicalPaths (texts projectionPaths) = .ok projectionPaths := by
  decide +kernel

structure Identity.Admissible (identity : Identity) : Prop where
  requestId : isRequestId identity.requestId = true
  issueId : 1 ≤ identity.issueId
  roadmapId : isRoadmapId identity.roadmapId = true
  expectedMainSha : Text.isSha40 identity.expectedMainSha = true
  branch : isBranch identity.branch = true
  workerId : isWorker identity.workerId = true
  leaseId : isLeaseId identity.leaseId = true
  leaseRegistryRevision : 1 ≤ identity.leaseRegistryRevision

def Operation.Admissible : Operation → Prop
  | materializeProjections prNumber baseSha headSha sourcePaths =>
      1 ≤ prNumber ∧ (Text.isSha40 baseSha = true ∧ Text.isSha40 headSha = true) ∧
        (baseSha = identity.expectedMainSha ∧ headSha ≠ baseSha) ∧
        canonicalPaths (texts sourcePaths) = .ok sourcePaths ∧
        ∀ source ∈ sourcePaths, source ∉ projectionPaths
  | leaseReconcile leaseBaseSha prNumber prHeadSha =>
      1 ≤ prNumber ∧ Text.isSha40 leaseBaseSha = true ∧ Text.isSha40 prHeadSha = true
  | leaseReleaseUnchanged leaseBaseSha branchHeadSha =>
      (Text.isSha40 leaseBaseSha = true ∧ Text.isSha40 branchHeadSha = true) ∧
        leaseBaseSha = identity.expectedMainSha ∧ branchHeadSha = identity.expectedMainSha

structure Claim.Admissible (claim : Claim) : Prop where
  requestId : isRequestId claim.requestId = true
  issueId : 1 ≤ claim.issueId
  roadmapId : LeaseRegistry.isRoadmapId claim.roadmapId = true
  expectedMainSha : Text.isSha40 claim.expectedMainSha = true
  risk : claim.risk ∈ ["R0", "R1"]

/-! ## The members of a request -/

def Operation.kind : Operation → Kind
  | materializeProjections .. => .materializeProjections
  | leaseReconcile .. => .leaseReconcile
  | leaseReleaseUnchanged .. => .leaseReleaseUnchanged

theorem hasFields_of_keys {fields : List String} (keys : request.map Prod.fst = fields) :
    hasFields fields request = true := by
  subst keys
  simp only [hasFields, Bool.and_eq_true, List.all_eq_true, List.contains_iff_mem]
  exact ⟨fun field mem => List.mem_map_of_mem mem, fun _ mem => mem⟩

theorem keys_requestMembers (operation : Operation) (digest : String) :
    (requestMembers version budget identity operation (some digest)).map Prod.fst =
      operation.kind.fields := by
  cases operation <;> rfl

theorem sorted_fields (kind : Kind) : kind.fields.Pairwise (· < ·) := by
  cases kind <;> decide +kernel

theorem unsigned_requestMembers (operation : Operation) :
    unsigned (requestMembers version budget identity operation signature) =
      requestMembers version budget identity operation none := by
  cases operation <;> cases signature <;> rfl

/-- The request has the arguments of an identity. -/
structure Carries (request : Members) (identity : Identity) : Prop where
  requestId : Value.get request "request_id" = .str identity.requestId
  issueId : Value.get request "issue_id" = .int identity.issueId
  roadmapId : Value.get request "roadmap_id" = .str identity.roadmapId
  expectedMainSha : Value.get request "expected_main_sha" = .str identity.expectedMainSha
  branch : Value.get request "branch" = .str identity.branch
  workerId : Value.get request "worker_id" = .str identity.workerId
  leaseId : Value.get request "lease_id" = .str identity.leaseId
  leaseRegistryRevision :
    Value.get request "lease_registry_revision" = .int identity.leaseRegistryRevision

theorem carries_requestMembers (operation : Operation) :
    Carries (requestMembers version budget identity operation signature) identity := by
  cases operation <;> cases signature <;> constructor <;> simp [requestMembers, signed]

theorem get_requestMembers (operation : Operation)
    (signature : Option String) :
    let mem := Value.get (requestMembers version budget identity operation signature)
    mem "schema_version" = version ∧ mem "role" = .str providerOpsRole ∧
      mem "monetary_budget_usd" = budget ∧
      mem "request_digest" = signature.elim .null .str := by
  cases operation <;> cases signature <;> simp [requestMembers, signed]

theorem checkIdentity_eq_ok_iff : checkIdentity request = .ok () ↔
      ∃ identity : Identity, identity.Admissible ∧ Carries request identity := by
  simp only [checkIdentity, bind_ok_iff, require_eq_ok_iff, isText_iff, isPositive_iff]
  constructor
  · rintro ⟨_, ⟨requestId, read, one⟩, _, ⟨issueId, read', two⟩, _, ⟨roadmapId, read₃, three⟩, _,
      ⟨expectedMainSha, read₄, four⟩, _, ⟨branch, read₅, five⟩, _, ⟨workerId, read₆, six⟩, _,
      ⟨leaseId, read₇, seven⟩, ⟨revision, read₈, eight⟩⟩
    exact ⟨⟨requestId, issueId, roadmapId, expectedMainSha, branch, workerId, leaseId, revision⟩,
      ⟨one, two, three, four, five, six, seven, eight⟩,
      ⟨read, read', read₃, read₄, read₅, read₆, read₇, read₈⟩⟩
  · rintro ⟨identity, admissible, carries⟩
    exact ⟨(), ⟨_, carries.requestId, admissible.requestId⟩,
      (), ⟨_, carries.issueId, admissible.issueId⟩,
      (), ⟨_, carries.roadmapId, admissible.roadmapId⟩,
      (), ⟨_, carries.expectedMainSha, admissible.expectedMainSha⟩,
      (), ⟨_, carries.branch, admissible.branch⟩,
      (), ⟨_, carries.workerId, admissible.workerId⟩,
      (), ⟨_, carries.leaseId, admissible.leaseId⟩,
      ⟨_, carries.leaseRegistryRevision, admissible.leaseRegistryRevision⟩⟩

/-- The request has the arguments of an operation. -/
def Performs (request : Members) : Operation → Prop
  | .materializeProjections prNumber baseSha headSha sourcePaths =>
      Value.get request "operation" = .str (Kind.name .materializeProjections) ∧
        Value.get request "pr_number" = .int prNumber ∧
        Value.get request "base_sha" = .str baseSha ∧ Value.get request "head_sha" = .str headSha ∧
        Value.get request "source_paths" = texts sourcePaths ∧
        Value.get request "projection_paths" = texts projectionPaths
  | .leaseReconcile leaseBaseSha prNumber prHeadSha =>
      Value.get request "operation" = .str (Kind.name .leaseReconcile) ∧
        Value.get request "pr_number" = .int prNumber ∧
        Value.get request "lease_base_sha" = .str leaseBaseSha ∧
        Value.get request "pr_head_sha" = .str prHeadSha
  | .leaseReleaseUnchanged leaseBaseSha branchHeadSha =>
      Value.get request "operation" = .str (Kind.name .leaseReleaseUnchanged) ∧
        Value.get request "lease_base_sha" = .str leaseBaseSha ∧
        Value.get request "branch_head_sha" = .str branchHeadSha

theorem performs_requestMembers (operation : Operation) :
    Performs (requestMembers version budget identity operation signature) operation := by
  cases operation <;> cases signature <;> simp [Performs, requestMembers, signed, Kind.name]

theorem kindOf_of_performs (performs : Performs request operation) :
    kindOf (Value.get request "operation") = .ok operation.kind := by
  cases operation <;> rw [performs.1] <;> rfl

theorem eq_str_of_asText {text : String} (same : value.asText = some text) : value = .str text := by
  cases value <;> simp [Value.asText] at same
  rw [same]

theorem eq_name_of_kindOf {kind : Kind} (found : kindOf value = .ok kind) :
    value = .str kind.name := by
  unfold kindOf at found
  split_ifs at found with first second third
  · cases found
    exact eq_str_of_asText first
  · cases found
    exact eq_str_of_asText second
  · cases found
    exact eq_str_of_asText third

theorem checkOperation_eq_ok_iff {identity : Identity} {kind : Kind}
    (carries : Carries request identity) (named : Value.get request "operation" = .str kind.name) :
    checkOperation kind request = .ok () ↔
      ∃ operation : Operation, operation.kind = kind ∧ operation.Admissible identity ∧
        Performs request operation := by
  constructor
  · intro passed
    cases kind with
    | materializeProjections =>
        simp only [checkOperation, bind_ok_iff, require_eq_ok_iff, isText_iff, isPositive_iff]
          at passed
        obtain ⟨_, ⟨prNumber, isPr, positive⟩, _, ⟨⟨base, isBase, baseSha⟩, head, isHead, headSha⟩, _,
          ⟨onMain, moved⟩, sources, readSources, projections, readProjections, same, fresh⟩ := passed
        rw [isBase, carries.expectedMainSha] at onMain
        rw [isBase, isHead] at moved
        obtain ⟨isSources, _⟩ := canonicalPaths_eq_ok readSources
        obtain ⟨isProjections, _⟩ := canonicalPaths_eq_ok readProjections
        subst same
        rw [isSources] at readSources
        refine ⟨.materializeProjections prNumber base head sources, rfl, ?_, ?_⟩
        · exact ⟨positive, ⟨baseSha, headSha⟩, ⟨Option.some.inj onMain, fun same =>
            moved (congrArg some same)⟩, readSources, fresh⟩
        · exact ⟨named, isPr, isBase, isHead, isSources, isProjections⟩
    | leaseReconcile =>
        simp only [checkOperation, bind_ok_iff, require_eq_ok_iff, isText_iff, isPositive_iff]
          at passed
        obtain ⟨_, ⟨prNumber, isPr, positive⟩, ⟨base, isBase, baseSha⟩, head, isHead, headSha⟩ := passed
        exact ⟨.leaseReconcile base prNumber head, rfl, ⟨positive, baseSha, headSha⟩,
          named, isPr, isBase, isHead⟩
    | leaseReleaseUnchanged =>
        simp only [checkOperation, bind_ok_iff, require_eq_ok_iff, isText_iff] at passed
        obtain ⟨_, ⟨⟨base, isBase, baseSha⟩, head, isHead, headSha⟩, onMain, unmoved⟩ := passed
        rw [isBase, carries.expectedMainSha] at onMain
        rw [isHead, carries.expectedMainSha] at unmoved
        exact ⟨.leaseReleaseUnchanged base head, rfl, ⟨⟨baseSha, headSha⟩, Option.some.inj onMain,
          Option.some.inj unmoved⟩, named, isBase, isHead⟩
  · rintro ⟨operation, rfl, admissible, performs⟩
    cases operation with
    | materializeProjections prNumber base head sources =>
        obtain ⟨positive, shas, ⟨onMain, moved⟩, canonical, fresh⟩ := admissible
        obtain ⟨_, isPr, isBase, isHead, isSources, isProjections⟩ := performs
        simp only [checkOperation, Operation.kind, bind_ok_iff, require_eq_ok_iff, isPr, isBase,
          isHead, isSources, isProjections, carries.expectedMainSha, canonical,
          canonicalPaths_projectionPaths]
        exact ⟨(), by simpa [isPositive] using positive, (), by simpa [isText] using shas, (),
          ⟨by rw [onMain], fun same => moved (Value.str.inj (by simpa [Value.asText] using same))⟩,
          sources, rfl, projectionPaths, rfl, rfl, fresh⟩
    | leaseReconcile base prNumber head =>
        obtain ⟨positive, shas⟩ := admissible
        obtain ⟨_, isPr, isBase, isHead⟩ := performs
        simp only [checkOperation, Operation.kind, bind_ok_iff, require_eq_ok_iff, isPr, isBase,
          isHead]
        exact ⟨(), by simpa [isPositive] using positive, by simpa [isText] using shas⟩
    | leaseReleaseUnchanged base head =>
        obtain ⟨shas, onMain, unmoved⟩ := admissible
        obtain ⟨_, isBase, isHead⟩ := performs
        simp only [checkOperation, Operation.kind, bind_ok_iff, require_eq_ok_iff, isBase, isHead,
          carries.expectedMainSha]
        exact ⟨(), by simpa [isText] using shas, by rw [onMain], by rw [unmoved]⟩

theorem Performs.named (performs : Performs request operation) :
    Value.get request "operation" = .str operation.kind.name := by
  cases operation <;> exact performs.1

theorem wellFormed_get (formed : WellFormed tools.floats (.dict request)) (name : String) :
    WellFormed tools.floats (Value.get request name) := by
  unfold Value.get
  cases present : request.lookup name with
  | none => trivial
  | some value => exact wellFormedMembers_iff.mp formed.2 _ (mem_of_lookup present)

theorem eq_requestMembers {identity : Identity} {digest : String}
    (formed : (request.map Prod.fst).Pairwise (· < ·))
    (has : hasFields operation.kind.fields request = true) (carries : Carries request identity)
    (performs : Performs request operation) (role : Value.get request "role" = .str providerOpsRole)
    (sealed : Value.get request "request_digest" = .str digest) :
    request = requestMembers (Value.get request "schema_version")
      (Value.get request "monetary_budget_usd") identity operation (some digest) := by
  have whole := eq_map_get formed
  rw [keys_eq_of_hasFields (sorted_fields _) formed has] at whole
  cases operation with
  | materializeProjections prNumber base head sources =>
      obtain ⟨isOperation, isPr, isBase, isHead, isSources, isProjections⟩ := performs
      simp only [Operation.kind, Kind.fields, List.map_cons, List.map_nil, isOperation, isPr,
        isBase, isHead, isSources, isProjections, role, sealed, carries.requestId, carries.issueId,
        carries.roadmapId, carries.expectedMainSha, carries.branch, carries.workerId,
        carries.leaseId, carries.leaseRegistryRevision] at whole
      exact whole
  | leaseReconcile base prNumber head =>
      obtain ⟨isOperation, isPr, isBase, isHead⟩ := performs
      simp only [Operation.kind, Kind.fields, List.map_cons, List.map_nil, isOperation, isPr,
        isBase, isHead, role, sealed, carries.requestId, carries.issueId, carries.roadmapId,
        carries.expectedMainSha, carries.branch, carries.workerId, carries.leaseId,
        carries.leaseRegistryRevision] at whole
      exact whole
  | leaseReleaseUnchanged base head =>
      obtain ⟨isOperation, isBase, isHead⟩ := performs
      simp only [Operation.kind, Kind.fields, List.map_cons, List.map_nil, isOperation, isBase,
        isHead, role, sealed, carries.requestId, carries.issueId, carries.roadmapId,
        carries.expectedMainSha, carries.branch, carries.workerId, carries.leaseId,
        carries.leaseRegistryRevision] at whole
      exact whole

theorem checkRequest_eq_ok_iff (formed : WellFormed tools.floats (.dict request)) :
    checkRequest tools request = .ok () ↔ ∃ (args : Identity × Operation) (version budget : Value),
        (args.1.Admissible ∧ args.2.Admissible args.1) ∧ Version tools version ∧
          Budget tools budget ∧
          request = sign tools (requestMembers version budget args.1 args.2) := by
  simp only [checkRequest, bind_ok_iff, require_eq_ok_iff, isText_iff, Bool.and_eq_true,
    decide_eq_true_eq]
  constructor
  · rintro ⟨_, ⟨one, role⟩, kind, found, _, has, _, identified, _, performed, _, zero, digest, sealed,
      _, rfl⟩
    obtain ⟨identity, admissible, carries⟩ := checkIdentity_eq_ok_iff.mp identified
    obtain ⟨operation, rfl, permitted, performs⟩ :=
      (checkOperation_eq_ok_iff carries (eq_name_of_kindOf found)).mp performed
    have whole := eq_requestMembers formed.1 has carries performs (eq_str_of_asText role) sealed
    have payload : digestPayload tools request = tools.digest (canonical (requestMembers
        (Value.get request "schema_version") (Value.get request "monetary_budget_usd") identity
        operation none)) := by
      rw [digestPayload]
      conv_lhs => rw [whole]
      rw [unsigned_requestMembers]
    refine ⟨(identity, operation), _, _, ⟨admissible, permitted⟩, ⟨one, wellFormed_get formed _⟩,
      ⟨zero, wellFormed_get formed _⟩, ?_⟩
    rw [payload] at whole
    exact whole
  · rintro ⟨⟨identity, operation⟩, version, budget, ⟨admissible, permitted⟩, one, zero, rfl⟩
    unfold sign
    generalize same : tools.digest (canonical (requestMembers version budget identity operation
      none)) = digest
    have carries : Carries (requestMembers version budget identity operation (some digest)) identity :=
      carries_requestMembers identity operation
    have performs : Performs (requestMembers version budget identity operation (some digest))
        operation := performs_requestMembers identity operation
    have payload : digestPayload tools
        (requestMembers version budget identity operation (some digest)) = digest := by
      rw [digestPayload, unsigned_requestMembers, same]
    obtain ⟨isVersion, isRole, isBudget, isDigest⟩ :=
      @get_requestMembers version budget identity operation (some digest)
    refine ⟨(), ⟨?_, by rw [isRole]; rfl⟩, operation.kind, kindOf_of_performs performs, (),
      hasFields_of_keys (keys_requestMembers identity operation digest), (),
      checkIdentity_eq_ok_iff.mpr ⟨identity, admissible, carries⟩, (),
      (checkOperation_eq_ok_iff carries performs.named).mpr ⟨operation, rfl, permitted, performs⟩,
      (), ?_, digest, isDigest, ?_, payload.symm⟩
    · rw [isVersion]
      exact one.1
    · rw [isBudget]
      exact zero.1
    · rw [← same]
      exact tools.digest_hex _

/-! ## Claims -/

theorem checkRisk_eq_ok_iff {result : Unit} :
    checkRisk value = .ok result ↔ ∃ risk, value = .str risk ∧ risk ∈ ["R0", "R1"] := by
  cases value <;> simp [checkRisk, isText]

theorem sorted_claimFields : claimFields.Pairwise (· < ·) := by
  decide +kernel

theorem keys_claimMembers (claim : Claim) (digest : String) :
    (claimMembers version budget claim (some digest)).map Prod.fst = claimFields :=
  rfl

theorem unsigned_claimMembers (claim : Claim) :
    unsigned (claimMembers version budget claim signature) = claimMembers version budget claim none := by
  cases signature <;> rfl

theorem get_claimMembers (claim : Claim) (signature : Option String) :
    let mem := Value.get (claimMembers version budget claim signature)
    (mem "schema_version" = version ∧ mem "role" = .str claimRole ∧
      mem "monetary_budget_usd" = budget ∧
      mem "request_digest" = signature.elim .null .str) ∧
    mem "request_id" = .str claim.requestId ∧ mem "issue_id" = .int claim.issueId ∧
    mem "roadmap_id" = .str claim.roadmapId ∧
    mem "expected_main_sha" = .str claim.expectedMainSha ∧ mem "risk" = .str claim.risk := by
  cases signature <;> simp [claimMembers, signed]

theorem checkClaim_eq_ok_iff (formed : WellFormed tools.floats (.dict request)) :
    checkClaim tools request = .ok () ↔
      ∃ (claim : Claim) (version budget : Value), claim.Admissible ∧ Version tools version ∧
        Budget tools budget ∧ request = sign tools (claimMembers version budget claim) := by
  simp only [checkClaim, bind_ok_iff, require_eq_ok_iff, isText_iff, isPositive_iff,
    checkRisk_eq_ok_iff, Bool.and_eq_true, decide_eq_true_eq]
  constructor
  · rintro ⟨_, has, _, ⟨one, role⟩, _, ⟨requestId, isId, first⟩, _, ⟨issueId, isIssue, second⟩, _,
      ⟨roadmapId, isRoadmap, third⟩, _, ⟨main, isMain, fourth⟩, _, ⟨risk, isRisk, fifth⟩, _, zero,
      digest, sealed, _, rfl⟩
    have whole := eq_map_get formed.1
    rw [keys_eq_of_hasFields sorted_claimFields formed.1 has] at whole
    simp only [claimFields, List.map_cons, List.map_nil, isId, isIssue, isRoadmap, isMain, isRisk,
      eq_str_of_asText role, sealed] at whole
    have members : request = claimMembers (Value.get request "schema_version")
        (Value.get request "monetary_budget_usd") ⟨requestId, issueId, roadmapId, main, risk⟩
        (some (digestPayload tools request)) := whole
    have payload : digestPayload tools request = tools.digest (canonical (claimMembers
        (Value.get request "schema_version") (Value.get request "monetary_budget_usd")
        ⟨requestId, issueId, roadmapId, main, risk⟩ none)) := by
      rw [digestPayload]
      conv_lhs => rw [members]
      rw [unsigned_claimMembers]
    refine ⟨⟨requestId, issueId, roadmapId, main, risk⟩, _, _, ⟨first, second, third, fourth, fifth⟩,
      ⟨one, wellFormed_get formed _⟩, ⟨zero, wellFormed_get formed _⟩, ?_⟩
    rw [payload] at members
    exact members
  · rintro ⟨claim, version, budget, admissible, one, zero, rfl⟩
    unfold sign
    generalize same : tools.digest (canonical (claimMembers version budget claim none)) = digest
    have payload : digestPayload tools (claimMembers version budget claim (some digest)) = digest := by
      rw [digestPayload, unsigned_claimMembers, same]
    obtain ⟨⟨isVersion, isRole, isBudget, isDigest⟩, isId, isIssue, isRoadmap, isMain, isRisk⟩ :=
      @get_claimMembers version budget claim (some digest)
    refine ⟨(), hasFields_of_keys (keys_claimMembers claim digest), (), ⟨?_, by rw [isRole]; rfl⟩, (),
      ⟨_, isId, admissible.requestId⟩, (), ⟨_, isIssue, admissible.issueId⟩, (),
      ⟨_, isRoadmap, admissible.roadmapId⟩, (), ⟨_, isMain, admissible.expectedMainSha⟩, (),
      ⟨_, isRisk, admissible.risk⟩, (), ?_, digest, isDigest, ?_, payload.symm⟩
    · rw [isVersion]
      exact one.1
    · rw [isBudget]
      exact zero.1
    · rw [← same]
      exact tools.digest_hex _

end Adwf.ProviderRequests
