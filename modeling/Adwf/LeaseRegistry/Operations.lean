import Adwf.LeaseRegistry.Document

/-!
# Acquiring, renewing and releasing a lease

Each operation validates the registry it reads, checks its guards, edits a copy
and validates the copy.  The guards and the edit of `acquire` and `heartbeat`
are definitions of their own, so that the last check can be compared with them.
-/

namespace Adwf.LeaseRegistry

open Adwf.Fallible

variable (rt : Runtime)
variable (registry : Registry)

/-- A registry operation's exception carries the text of a `ValueError`. -/
abbrev Result (α : Type) := Except Raised α

def raiseCode {α : Type} (result : Except String α) : Result α :=
  result.mapError Raised.code

/-- `_validated_registry_copy`. -/
def requireValid (code : String) (registry : Registry) : Result Unit :=
  require (validateLeaseRegistry rt registry = [])
    (.listing code (validateLeaseRegistry rt registry))

/-- `empty_lease_registry`. -/
def emptyLeaseRegistry (repository mainSha : String)
    (maxParallelWriters : Int) : Result Registry := do
  require (isRepository repository = true) (.code "LEASE_REGISTRY_REPOSITORY_INVALID")
  require (Text.isSha40 mainSha = true) (.code "LEASE_REGISTRY_MAIN_SHA_INVALID")
  require (1 ≤ maxParallelWriters ∧ maxParallelWriters ≤ 3) (.code "LEASE_REGISTRY_CEILING_INVALID")
  return Registry.signed rt
    { repository, revision := 0, observedMainSha := mainSha, maxParallelWriters, leases := []
      integrityDigest := "" }

/-- `DEFAULT_HEARTBEAT_TIMEOUT_MINUTES`. -/
def heartbeatTimeoutMinutes : Int :=
  45

/-- `_registry_lease_freshness_errors`. -/
def freshnessErrors (lease : Lease) (now : Int) : List String :=
  match lease.expiresAt.parse, lease.heartbeatAt.parse with
  | some expires, some heartbeat =>
      (if expires ≤ now then ["LEASE_EXPIRED"] else []) ++
      (if heartbeat > now then ["LEASE_HEARTBEAT_IN_FUTURE"]
        else if now - heartbeat > heartbeatTimeoutMinutes * minute then ["LEASE_HEARTBEAT_STALE"]
        else [])
  | _, _ => ["LEASE_TIME_INVALID"]

/-- `_bounded_ttl_minutes`. -/
def boundedTtlMinutes (minutes : Int) : Result Int := do
  require (1 ≤ minutes ∧ minutes ≤ 240) (.code "LEASE_TTL_INVALID")
  return minutes

/-! ## Acquire -/

/-- The arguments of `acquire_registry_lease`; `uuid` is the fresh UUID used
when no lease id is given. -/
structure AcquireRequest where
  expectedRevision : Int
  observedMainSha : String
  policyMaxParallelWriters : Int
  issueId : String
  roadmapId : String
  workerId : String
  baseSha : String
  branch : String
  resources : Json
  now : Int
  ttlMinutes : Int := 120
  leaseId : Option String := none
  uuid : String

/-- `lease_id or str(uuid.uuid4())`. -/
def AcquireRequest.candidateId (request : AcquireRequest) : String :=
  match request.leaseId with
  | some leaseId => if leaseId = "" then request.uuid else leaseId
  | none => request.uuid

/-- The checks against one ACTIVE lease. -/
def requireFree (request : AcquireRequest) (canonical : List Resource) (lease : Lease) :
    Result Unit := do
  require (lease.issueId ≠ request.issueId) (.code "ISSUE_ALREADY_LEASED")
  require (lease.roadmapId ≠ request.roadmapId) (.code "ROADMAP_ALREADY_LEASED")
  require (lease.branch ≠ request.branch) (.code "BRANCH_ALREADY_LEASED")
  let conflicts ← raiseCode
    (conflictingResourceKeys (resourcesJson canonical) (resourcesJson lease.resources))
  require (conflicts = []) (.code "CONFLICT_RESOURCE_BUSY")

/-- The lease an acquire adds. -/
def newLease (request : AcquireRequest) (canonical : List Resource)
    (ttl : Int) : Lease where
  leaseId := request.candidateId
  generation := registry.revision + 1
  issueId := request.issueId
  roadmapId := request.roadmapId
  workerId := request.workerId
  baseSha := request.baseSha
  branch := request.branch
  resources := canonical
  status := .active
  claimedAt := .at request.now
  heartbeatAt := .at request.now
  expiresAt := .at (request.now + ttl * minute)
  releasedAt := none
  providerReconciledAt := none
  providerReconciliationRef := none

/-- `acquire_registry_lease` up to its last check. -/
def prepareAcquire (request : AcquireRequest) :
    Result (Registry × Lease) := do
  requireValid rt "LEASE_REGISTRY_INVALID" registry
  require (registry.revision = request.expectedRevision) (.code "LEASE_REGISTRY_REVISION_CONFLICT")
  require (Text.isSha40 request.observedMainSha = true ∧ Text.isSha40 request.baseSha = true)
    (.code "LEASE_SHA_INVALID")
  require (registry.maxParallelWriters = request.policyMaxParallelWriters)
    (.code "LEASE_POLICY_CEILING_MISMATCH")
  require (1 ≤ request.policyMaxParallelWriters ∧ request.policyMaxParallelWriters ≤ 3)
    (.code "LEASE_POLICY_CEILING_INVALID")
  let canonical ← raiseCode (requireCanonical request.resources)
  let active := activeLeases registry.leases
  require (registry.observedMainSha ≠ request.observedMainSha → active = [])
    (.code "LEASE_RECONCILIATION_REQUIRED")
  require (∀ lease ∈ active, freshnessErrors lease request.now = [])
    (.code "LEASE_RECONCILIATION_REQUIRED")
  require ((active.length : Int) < request.policyMaxParallelWriters) (.code "ACTIVE_WRITER_EXISTS")
  forM active (requireFree request canonical)
  require (isIssueId request.issueId = true) (.code "LEASE_ISSUE_ID_INVALID")
  require (isRoadmapId request.roadmapId = true) (.code "LEASE_ROADMAP_ID_INVALID")
  require (isSafeId request.workerId = true ∧ isBranch request.branch = true)
    (.code "LEASE_IDENTITY_INVALID")
  require (isUuid request.candidateId = true ∧
    ∀ lease ∈ registry.leases, lease.leaseId ≠ request.candidateId) (.code "LEASE_ID_INVALID")
  require (registry.leases.length < 200) (.code "LEASE_REGISTRY_RETENTION_REQUIRED")
  let ttl ← boundedTtlMinutes request.ttlMinutes
  let lease := newLease registry request canonical ttl
  return (Registry.signed rt
    { registry with
      leases := registry.leases ++ [lease], revision := registry.revision + 1
      observedMainSha := request.observedMainSha }, lease)

/-- `acquire_registry_lease`. -/
def acquireRegistryLease (request : AcquireRequest) :
    Result (Registry × Lease) := do
  let acquired ← prepareAcquire rt registry request
  requireValid rt "LEASE_REGISTRY_INVALID_AFTER_ACQUIRE" acquired.1
  return acquired

structure HeartbeatRequest where
  expectedRevision : Int
  leaseId : String
  workerId : String
  observedMainSha : String
  now : Int
  ttlMinutes : Int := 120

/-- The one ACTIVE lease of a given id. -/
def activeLease (leaseId : String) : Result Lease :=
  match registry.leases.filter fun lease => lease.leaseId = leaseId with
  | [lease] => if lease.status = .active then .ok lease else .error (.code "LEASE_NOT_ACTIVE")
  | _ => .error (.code "LEASE_NOT_ACTIVE")

/-- The leases after the matched one is edited in place. -/
def replaceLease (leases : List Lease) (updated : Lease) : List Lease :=
  leases.map fun lease => if lease.leaseId = updated.leaseId then updated else lease

/-- `heartbeat_registry_lease` up to its last check. -/
def prepareHeartbeat (request : HeartbeatRequest) :
    Result Registry := do
  requireValid rt "LEASE_REGISTRY_INVALID" registry
  require (registry.revision = request.expectedRevision) (.code "LEASE_REGISTRY_REVISION_CONFLICT")
  let lease ← activeLease registry request.leaseId
  require (lease.workerId = request.workerId) (.code "LEASE_OWNER_MISMATCH")
  require (registry.observedMainSha = request.observedMainSha)
    (.code "LEASE_RECONCILIATION_REQUIRED")
  require (freshnessErrors lease request.now = []) (.code "LEASE_RECONCILIATION_REQUIRED")
  require (Text.isSha40 request.observedMainSha = true) (.code "LEASE_SHA_INVALID")
  let ttl ← boundedTtlMinutes request.ttlMinutes
  let updated := { lease with
    heartbeatAt := .at request.now, expiresAt := .at (request.now + ttl * minute) }
  return Registry.signed rt
    { registry with
      leases := replaceLease registry.leases updated, revision := registry.revision + 1
      observedMainSha := request.observedMainSha }

/-- `heartbeat_registry_lease`. -/
def heartbeatRegistryLease
    (request : HeartbeatRequest) : Result Registry := do
  let renewed ← prepareHeartbeat rt registry request
  requireValid rt "LEASE_REGISTRY_INVALID_AFTER_HEARTBEAT" renewed
  return renewed

structure ReleaseRequest where
  expectedRevision : Int
  leaseId : String
  workerId : String
  observedMainSha : String
  providerReconciled : Bool
  providerReconciliationRef : String
  now : Int

/-- The lease after its release. -/
def Lease.releasedBy (lease : Lease) (request : ReleaseRequest) : Lease :=
  { lease with
    status := .released, releasedAt := some (.at request.now)
    providerReconciledAt := some (.at request.now)
    providerReconciliationRef := some (Text.strip request.providerReconciliationRef) }

/-- `release_registry_lease`. -/
def releaseRegistryLease (request : ReleaseRequest) :
    Result Registry := do
  requireValid rt "LEASE_REGISTRY_INVALID" registry
  require (registry.revision = request.expectedRevision) (.code "LEASE_REGISTRY_REVISION_CONFLICT")
  require (request.providerReconciled = true) (.code "LEASE_PROVIDER_RECONCILIATION_REQUIRED")
  require (isSafeRef request.providerReconciliationRef = true)
    (.code "LEASE_PROVIDER_RECONCILIATION_REF_INVALID")
  require (Text.isSha40 request.observedMainSha = true) (.code "LEASE_SHA_INVALID")
  let lease ← activeLease registry request.leaseId
  require (lease.workerId = request.workerId) (.code "LEASE_OWNER_MISMATCH")
  let released := Registry.signed rt
    { registry with
      leases := replaceLease registry.leases (lease.releasedBy request)
      revision := registry.revision + 1, observedMainSha := request.observedMainSha }
  requireValid rt "LEASE_REGISTRY_INVALID_AFTER_RELEASE" released
  return released

/-- A call of one of the three operations. -/
inductive RegistryCall where
  | acquire (request : AcquireRequest)
  | heartbeat (request : HeartbeatRequest)
  | release (request : ReleaseRequest)

/-- The registry the call returns. -/
def registryStep : RegistryCall → Result Registry
  | .acquire request => (acquireRegistryLease rt registry request).map Prod.fst
  | .heartbeat request => heartbeatRegistryLease rt registry request
  | .release request => releaseRegistryLease rt registry request

/-- The registry after a call: a call that raises leaves it as it was. -/
def registryAfter (call : RegistryCall) : Registry :=
  match registryStep rt registry call with
  | .ok after => after
  | .error _ => registry

end Adwf.LeaseRegistry
