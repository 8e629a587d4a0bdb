import Adwf.LeaseRegistry.Document
import Adwf.ProviderRequests.Envelope
import Adwf.Trust.Paths

/-!
# Provider operation requests

The three operations of the provider gateway: their builders, and the one
parser that reads all of them.
-/

namespace Adwf.ProviderRequests

open Fallible JsonText

variable (tools : Tools)
variable (text : String) (identity : Identity)

/-- `PROVIDER_OPS_MARKER`. -/
def providerOpsMarker : String :=
  "ADWF-PROVIDER-OPS-REQUEST v1"

/-- `PROVIDER_OPS_ROLE`. -/
def providerOpsRole : String :=
  "ADWF_PROVIDER_OPS_REQUEST_V1"

/-- `PROJECTION_PATHS`. -/
def projectionPaths : List String :=
  [".adwf/docs-registry.json", "MANIFEST.json", "SHA256SUMS.txt"]

/-- `_MAX_CHANGED_FILES`. -/
def maxChangedFiles : Nat :=
  3000

/-! ## Patterns -/

/-- `[first][rest]{low,high}` against the whole text. -/
def startMatch (first rest : Char → Bool) (low high : Nat) (text : String) : Bool :=
  match text.toList with
  | [] => false
  | char :: chars =>
      first char && (low ≤ chars.length && chars.length ≤ high && chars.all rest)

/-- `[a-z]`. -/
def isLower (char : Char) : Bool :=
  'a' ≤ char && char ≤ 'z'

/-- `_REQUEST_ID`. -/
def isRequestId : Bool :=
  startMatch (fun char => isLower char || Text.isDigit char)
    (fun char => isLower char || Text.isDigit char || char = '-') 7 63 text

/-- `_ROADMAP_ID`. -/
def isRoadmapId : Bool :=
  startMatch Text.isUpper
    (fun char => Text.isUpper char || Text.isDigit char || ['_', '-'].contains char) 1 80 text

/-- `_BRANCH`, with no leading dash, no `..` and no final slash. -/
def isBranch : Bool :=
  Text.fullmatch (fun char => Text.isAlphanumeric char || ['_', '.', '+', '-', '/'].contains char)
    1 240 text && !Text.startsWith text "-" && !Text.hasInfix ['.', '.'] text.toList &&
    text.toList.getLast? ≠ some '/'

/-- `_WORKER`. -/
def isWorker : Bool :=
  Text.fullmatch (fun char => Text.isAlphanumeric char ||
    ['_', '.', ':', '@', '+', '-', '/'].contains char) 1 240 text

/-- `_LEASE_ID`. -/
def isLeaseId : Bool :=
  match text.toList.splitOn '-' with
  | [first, second, third, fourth, fifth] =>
      [(first, 8), (second, 4), (third, 4), (fourth, 4), (fifth, 12)].all fun part =>
        part.1.length = part.2 && part.1.all Text.isLowerHex
  | _ => false

/-- `_path`. -/
def path : Value → Except String String
  | .str value => do
      require (value ≠ "" ∧ '\\' ∉ value.toList ∧ '\x00' ∉ value.toList) "PROVIDER_OPS_PATH_INVALID"
      let normalized ←
        (Trust.normalizeRepoPath value).mapError fun _ => "PROVIDER_OPS_PATH_INVALID"
      require (normalized = value ∧ Text.startsWith value "/" = false ∧
          ∀ part ∈ value.toList.splitOn '/', part ∉ [[], ['.'], ['.', '.']])
        "PROVIDER_OPS_PATH_INVALID"
      require (value.utf8ByteSize ≤ 512) "PROVIDER_OPS_PATH_TOO_LONG"
      return value
  | _ => .error "PROVIDER_OPS_PATH_INVALID"

/-- `[_path(item) for item in value]`. -/
def pathsOf : List Value → Except String (List String)
  | [] => .ok []
  | item :: items => do
      let first ← path item
      let rest ← pathsOf items
      return first :: rest

/-- `sorted`. -/
def sorted (paths : List String) : List String :=
  paths.insertionSort (· ≤ ·)

/-- `_canonical_paths`. -/
def canonicalPaths : Value → Except String (List String)
  | .list items => do
      require (items ≠ []) "PROVIDER_OPS_PATHS_REQUIRED"
      let paths ← pathsOf items
      require (paths.length ≤ maxChangedFiles ∧ paths.Nodup ∧ paths = sorted paths)
        "PROVIDER_OPS_PATHS_NOT_CANONICAL"
      return paths
  | _ => .error "PROVIDER_OPS_PATHS_REQUIRED"

/-! ## Builders -/

/-- The arguments of every builder. -/
structure Identity where
  requestId : String
  issueId : Int
  roadmapId : String
  expectedMainSha : String
  branch : String
  workerId : String
  leaseId : String
  leaseRegistryRevision : Int
  deriving DecidableEq

/-- The operation of a request, with the arguments only it has. -/
inductive Operation where
  | materializeProjections (prNumber : Int) (baseSha headSha : String) (sourcePaths : List String)
  | leaseReconcile (leaseBaseSha : String) (prNumber : Int) (prHeadSha : String)
  | leaseReleaseUnchanged (leaseBaseSha branchHeadSha : String)
  deriving DecidableEq

/-- A list of texts. -/
def texts (items : List String) : Value :=
  .list (items.map .str)

/-- The `request_digest` of a request that has one. -/
def signed (signature : Option String) : Members :=
  (signature.map fun digest => ("request_digest", Value.str digest)).toList

/-- The members of a request, sorted by key. -/
def requestMembers (version budget : Value) (identity : Identity) (operation : Operation)
    (signature : Option String) : Members :=
  match operation with
  | .materializeProjections prNumber baseSha headSha sourcePaths =>
      [("base_sha", .str baseSha), ("branch", .str identity.branch),
        ("expected_main_sha", .str identity.expectedMainSha), ("head_sha", .str headSha),
        ("issue_id", .int identity.issueId), ("lease_id", .str identity.leaseId),
        ("lease_registry_revision", .int identity.leaseRegistryRevision),
        ("monetary_budget_usd", budget), ("operation", .str "MATERIALIZE_PROJECTIONS"),
        ("pr_number", .int prNumber), ("projection_paths", texts projectionPaths)] ++
      signed signature ++
      [("request_id", .str identity.requestId), ("roadmap_id", .str identity.roadmapId),
        ("role", .str providerOpsRole), ("schema_version", version),
        ("source_paths", texts sourcePaths), ("worker_id", .str identity.workerId)]
  | .leaseReconcile leaseBaseSha prNumber prHeadSha =>
      [("branch", .str identity.branch), ("expected_main_sha", .str identity.expectedMainSha),
        ("issue_id", .int identity.issueId), ("lease_base_sha", .str leaseBaseSha),
        ("lease_id", .str identity.leaseId),
        ("lease_registry_revision", .int identity.leaseRegistryRevision),
        ("monetary_budget_usd", budget), ("operation", .str "LEASE_RECONCILE"),
        ("pr_head_sha", .str prHeadSha), ("pr_number", .int prNumber)] ++
      signed signature ++
      [("request_id", .str identity.requestId), ("roadmap_id", .str identity.roadmapId),
        ("role", .str providerOpsRole), ("schema_version", version),
        ("worker_id", .str identity.workerId)]
  | .leaseReleaseUnchanged leaseBaseSha branchHeadSha =>
      [("branch", .str identity.branch), ("branch_head_sha", .str branchHeadSha),
        ("expected_main_sha", .str identity.expectedMainSha), ("issue_id", .int identity.issueId),
        ("lease_base_sha", .str leaseBaseSha), ("lease_id", .str identity.leaseId),
        ("lease_registry_revision", .int identity.leaseRegistryRevision),
        ("monetary_budget_usd", budget), ("operation", .str "LEASE_RELEASE_UNCHANGED")] ++
      signed signature ++
      [("request_id", .str identity.requestId), ("roadmap_id", .str identity.roadmapId),
        ("role", .str providerOpsRole), ("schema_version", version),
        ("worker_id", .str identity.workerId)]

/-- The signed request, with `PROVIDER_OPS_SCHEMA_VERSION` and no budget. -/
def request (operation : Operation) : Members :=
  sign tools (requestMembers (.int 1) (.int 0) identity operation)

/-- `build_provider_ops_comment`. -/
def buildProviderOpsComment (prNumber : Int)
    (baseSha headSha : String) (sourcePaths : List String) : List Char :=
  comment providerOpsMarker (canonical
    (request tools identity (.materializeProjections prNumber baseSha headSha (sorted sourcePaths))))

/-- `build_lease_reconcile_comment`. -/
def buildLeaseReconcileComment (leaseBaseSha : String)
    (prNumber : Int) (prHeadSha : String) : List Char :=
  comment providerOpsMarker (canonical
    (request tools identity (.leaseReconcile leaseBaseSha prNumber prHeadSha)))

/-- `build_lease_release_unchanged_comment`. -/
def buildLeaseReleaseUnchangedComment
    (leaseBaseSha branchHeadSha : String) : List Char :=
  comment providerOpsMarker (canonical
    (request tools identity (.leaseReleaseUnchanged leaseBaseSha branchHeadSha)))

/-- The builder of an operation. -/
def Operation.build : Operation → List Char
  | materializeProjections prNumber baseSha headSha sourcePaths =>
      buildProviderOpsComment tools identity prNumber baseSha headSha sourcePaths
  | leaseReconcile leaseBaseSha prNumber prHeadSha =>
      buildLeaseReconcileComment tools identity leaseBaseSha prNumber prHeadSha
  | leaseReleaseUnchanged leaseBaseSha branchHeadSha =>
      buildLeaseReleaseUnchangedComment tools identity leaseBaseSha branchHeadSha

/-! ## The parser -/

/-- The name of an operation. -/
inductive Kind where
  | materializeProjections
  | leaseReconcile
  | leaseReleaseUnchanged
  deriving DecidableEq

def Kind.name : Kind → String
  | materializeProjections => "MATERIALIZE_PROJECTIONS"
  | leaseReconcile => "LEASE_RECONCILE"
  | leaseReleaseUnchanged => "LEASE_RELEASE_UNCHANGED"

/-- The fields of a request of the kind. -/
def Kind.fields : Kind → List String
  | materializeProjections =>
      ["base_sha", "branch", "expected_main_sha", "head_sha", "issue_id", "lease_id",
        "lease_registry_revision", "monetary_budget_usd", "operation", "pr_number",
        "projection_paths", "request_digest", "request_id", "roadmap_id", "role", "schema_version",
        "source_paths", "worker_id"]
  | leaseReconcile =>
      ["branch", "expected_main_sha", "issue_id", "lease_base_sha", "lease_id",
        "lease_registry_revision", "monetary_budget_usd", "operation", "pr_head_sha", "pr_number",
        "request_digest", "request_id", "roadmap_id", "role", "schema_version", "worker_id"]
  | leaseReleaseUnchanged =>
      ["branch", "branch_head_sha", "expected_main_sha", "issue_id", "lease_base_sha", "lease_id",
        "lease_registry_revision", "monetary_budget_usd", "operation", "request_digest",
        "request_id", "roadmap_id", "role", "schema_version", "worker_id"]

/-- The kind of a supported operation. -/
def kindOf (operation : Value) : Except String Kind :=
  if operation.asText = some (Kind.name .materializeProjections) then .ok .materializeProjections
  else if operation.asText = some (Kind.name .leaseReconcile) then .ok .leaseReconcile
  else if operation.asText = some (Kind.name .leaseReleaseUnchanged) then .ok .leaseReleaseUnchanged
  else .error "PROVIDER_OPS_OPERATION_UNSUPPORTED"

/-- The checks of the members only one operation has. -/
def checkOperation (kind : Kind) (request : Members) : Except String Unit :=
  let mem := Value.get request
  match kind with
  | .materializeProjections => do
      require (isPositive (mem "pr_number") = true) "PROVIDER_OPS_PR_NUMBER_INVALID"
      require (isText Text.isSha40 (mem "base_sha") = true ∧
        isText Text.isSha40 (mem "head_sha") = true) "PROVIDER_OPS_SHA_INVALID"
      require ((mem "base_sha").asText = (mem "expected_main_sha").asText ∧
        (mem "head_sha").asText ≠ (mem "base_sha").asText) "PROVIDER_OPS_BASE_HEAD_INVALID"
      let sourcePaths ← canonicalPaths (mem "source_paths")
      let projections ← canonicalPaths (mem "projection_paths")
      require (projections = projectionPaths ∧ ∀ source ∈ sourcePaths, source ∉ projectionPaths)
        "PROVIDER_OPS_PROJECTION_PATHS_INVALID"
  | .leaseReconcile => do
      require (isPositive (mem "pr_number") = true) "PROVIDER_OPS_PR_NUMBER_INVALID"
      require (isText Text.isSha40 (mem "lease_base_sha") = true ∧
        isText Text.isSha40 (mem "pr_head_sha") = true) "PROVIDER_OPS_SHA_INVALID"
  | .leaseReleaseUnchanged => do
      require (isText Text.isSha40 (mem "lease_base_sha") = true ∧
        isText Text.isSha40 (mem "branch_head_sha") = true) "PROVIDER_OPS_SHA_INVALID"
      require ((mem "lease_base_sha").asText = (mem "expected_main_sha").asText ∧
        (mem "branch_head_sha").asText = (mem "expected_main_sha").asText)
        "PROVIDER_OPS_UNCHANGED_BRANCH_IDENTITY_INVALID"

/-- The checks of the members every operation has. -/
def checkIdentity (request : Members) : Except String Unit := do
  let mem := Value.get request
  require (isText isRequestId (mem "request_id") = true) "PROVIDER_OPS_REQUEST_ID_INVALID"
  require (isPositive (mem "issue_id") = true) "PROVIDER_OPS_ISSUE_ID_INVALID"
  require (isText isRoadmapId (mem "roadmap_id") = true) "PROVIDER_OPS_ROADMAP_ID_INVALID"
  require (isText Text.isSha40 (mem "expected_main_sha") = true) "PROVIDER_OPS_SHA_INVALID"
  require (isText isBranch (mem "branch") = true) "PROVIDER_OPS_BRANCH_INVALID"
  require (isText isWorker (mem "worker_id") = true) "PROVIDER_OPS_WORKER_ID_INVALID"
  require (isText isLeaseId (mem "lease_id") = true) "PROVIDER_OPS_LEASE_ID_INVALID"
  require (isPositive (mem "lease_registry_revision") = true)
    "PROVIDER_OPS_LEASE_REVISION_INVALID"

/-- The checks of a request, in their order. -/
def checkRequest (request : Members) : Except String Unit := do
  let mem := Value.get request
  require ((mem "schema_version").equalsInt tools.floats 1 = true ∧
    (mem "role").asText = some providerOpsRole) "PROVIDER_OPS_REQUEST_IDENTITY_INVALID"
  let kind ← kindOf (mem "operation")
  require (hasFields kind.fields request = true) "PROVIDER_OPS_REQUEST_FIELDS_INVALID"
  checkIdentity request
  checkOperation kind request
  require (isZeroBudget tools.floats (mem "monetary_budget_usd") = true)
    "PROVIDER_OPS_MONETARY_BUDGET_INVALID"
  require (isText (fun digest => Text.isSha256 digest && digest = digestPayload tools request)
    (mem "request_digest") = true) "PROVIDER_OPS_REQUEST_DIGEST_INVALID"

/-- `parse_provider_ops_comment`. -/
def parseProviderOpsComment (body : String) : Except String Members :=
  parseComment tools providerOpsMarker "PROVIDER_OPS_REQUEST" (checkRequest tools) body

end Adwf.ProviderRequests

/-!
## Claim requests

The comment that asks for the first writer lease: its builder and its parser.
-/

namespace Adwf.ProviderRequests

open Fallible JsonText

/-- `CLAIM_MARKER`. -/
def claimMarker : String :=
  "ADWF-CLAIM-REQUEST v1"

/-- `CLAIM_ROLE`. -/
def claimRole : String :=
  "ADWF_PROVIDER_CLAIM_V1"

/-- The arguments of `build_claim_comment`. -/
structure Claim where
  requestId : String
  issueId : Int
  roadmapId : String
  expectedMainSha : String
  risk : String := "R1"
  deriving DecidableEq

/-- The members of a request, sorted by key. -/
def claimMembers (version budget : Value) (claim : Claim) (signature : Option String) : Members :=
  [("expected_main_sha", .str claim.expectedMainSha), ("issue_id", .int claim.issueId),
    ("monetary_budget_usd", budget)] ++
  signed signature ++
  [("request_id", .str claim.requestId), ("risk", .str claim.risk),
    ("roadmap_id", .str claim.roadmapId), ("role", .str claimRole), ("schema_version", version)]

/-- The signed request, with `CLAIM_SCHEMA_VERSION` and no budget. -/
def claimRequest (tools : Tools) (claim : Claim) : Members :=
  sign tools (claimMembers (.int 1) (.int 0) claim)

/-- `build_claim_comment`. -/
def buildClaimComment (tools : Tools) (claim : Claim) : List Char :=
  comment claimMarker (canonical (claimRequest tools claim))

/-- `REQUEST_FIELDS`. -/
def claimFields : List String :=
  ["expected_main_sha", "issue_id", "monetary_budget_usd", "request_digest", "request_id", "risk",
    "roadmap_id", "role", "schema_version"]

/-- `risk not in {"R0", "R1"}`; a list or an object has no hash. -/
def checkRisk : Value → Except String Unit
  | .list _ => .error "TypeError"
  | .dict _ => .error "TypeError"
  | risk => require (isText (["R0", "R1"].contains ·) risk = true) "CLAIM_REQUEST_RISK_UNSUPPORTED"

/-- The checks of a request, in their order. -/
def checkClaim (tools : Tools) (request : Members) : Except String Unit := do
  let mem := Value.get request
  require (hasFields claimFields request = true) "CLAIM_REQUEST_FIELDS_INVALID"
  require ((mem "schema_version").equalsInt tools.floats 1 = true ∧
    (mem "role").asText = some claimRole) "CLAIM_REQUEST_IDENTITY_INVALID"
  require (isText isRequestId (mem "request_id") = true) "CLAIM_REQUEST_ID_INVALID"
  require (isPositive (mem "issue_id") = true) "CLAIM_REQUEST_ISSUE_ID_INVALID"
  require (isText LeaseRegistry.isRoadmapId (mem "roadmap_id") = true)
    "CLAIM_REQUEST_ROADMAP_ID_INVALID"
  require (isText Text.isSha40 (mem "expected_main_sha") = true) "CLAIM_REQUEST_MAIN_SHA_INVALID"
  checkRisk (mem "risk")
  require (isZeroBudget tools.floats (mem "monetary_budget_usd") = true)
    "CLAIM_REQUEST_MONETARY_BUDGET_INVALID"
  require (isText (fun digest => Text.isSha256 digest && digest = digestPayload tools request)
    (mem "request_digest") = true) "CLAIM_REQUEST_DIGEST_INVALID"

/-- `parse_claim_comment`. -/
def parseClaimComment (tools : Tools) (body : String) : Except String Members :=
  parseComment tools claimMarker "CLAIM_REQUEST" (checkClaim tools) body

end Adwf.ProviderRequests
