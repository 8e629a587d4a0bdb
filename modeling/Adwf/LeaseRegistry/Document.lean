import Mathlib.Data.List.Dedup
import Adwf.LeaseRegistry.Resource
import Adwf.Value.Json

/-!
# The writer lease registry

The registry is one document: a revision, the main branch it was observed at
and the leases with their history.  `validateLeaseRegistry` is the check every
operation makes on the registry it reads and on the one it returns;
`RegistryValid` names the facts it establishes.
-/

namespace Adwf.LeaseRegistry

open Adwf.Fallible

variable (text : String) (tag : String)
variable (lease : Lease)

/-- `LEASE_REGISTRY_STATUSES`; `other` holds a stored text outside them. -/
inductive LeaseStatus where
  | active | released
  | other (name : String)
  deriving DecidableEq, Repr

def LeaseStatus.name : LeaseStatus → String
  | active => "ACTIVE"
  | released => "RELEASED"
  | other name => name

/-- One lease of the registry. -/
structure Lease where
  leaseId : String
  generation : Int
  issueId : String
  roadmapId : String
  workerId : String
  baseSha : String
  branch : String
  resources : List Resource
  status : LeaseStatus
  claimedAt : Timestamp
  heartbeatAt : Timestamp
  expiresAt : Timestamp
  releasedAt : Option Timestamp
  providerReconciledAt : Option Timestamp
  providerReconciliationRef : Option String
  deriving DecidableEq

def leaseRegistrySchema : String :=
  ".adwf/schemas/writer-lease-registry.schema.json"

/-- The registry document. -/
structure Registry where
  schemaRef : String := leaseRegistrySchema
  schemaVersion : Int := 1
  repository : String
  revision : Int
  observedMainSha : String
  maxParallelWriters : Int
  leases : List Lease
  integrityDigest : String
  deriving DecidableEq

/-! ## The integrity digest -/

def optionalTimestamp : Option Timestamp → Json
  | none => .null
  | some timestamp => timestamp.toJson

def Lease.toJson (lease : Lease) : Json :=
  .obj [("base_sha", .str lease.baseSha), ("branch", .str lease.branch),
    ("claimed_at", lease.claimedAt.toJson), ("expires_at", lease.expiresAt.toJson),
    ("generation", .num lease.generation), ("heartbeat_at", lease.heartbeatAt.toJson),
    ("issue_id", .str lease.issueId), ("lease_id", .str lease.leaseId),
    ("provider_reconciled_at", optionalTimestamp lease.providerReconciledAt),
    ("provider_reconciliation_ref", Json.ofText lease.providerReconciliationRef),
    ("released_at", optionalTimestamp lease.releasedAt),
    ("resources", resourcesJson lease.resources), ("roadmap_id", .str lease.roadmapId),
    ("status", .str lease.status.name), ("worker_id", .str lease.workerId)]

/-- `_registry_digest`: the digest of the document without its digest member. -/
def registryDigest (rt : Runtime) (registry : Registry) : String :=
  rt.digest (.obj [("$schema", .str registry.schemaRef),
    ("leases", .arr (registry.leases.map Lease.toJson)),
    ("max_parallel_writers", .num registry.maxParallelWriters),
    ("observed_main_sha", .str registry.observedMainSha),
    ("repository", .str registry.repository), ("revision", .num registry.revision),
    ("schema_version", .num registry.schemaVersion)])

/-- The registry with its digest recomputed. -/
def Registry.signed (rt : Runtime) (registry : Registry) : Registry :=
  { registry with integrityDigest := registryDigest rt registry }

/-! ## Identifiers -/

/-- `[^/\s]+/[^/\s]+`. -/
def isRepository : Bool :=
  match text.toList.splitOn '/' with
  | [owner, name] => [owner, name].all (Text.nonemptyOf fun char => !Text.isSpace char)
  | _ => false

/-- `_UUID_RE`. -/
def isUuid : Bool :=
  match text.toList.splitOn '-' with
  | [first, second, version :: third, variant :: fourth, fifth] =>
      [(first, 8), (second, 4), (third, 3), (fourth, 3), (fifth, 12)].all (fun part =>
        part.1.length = part.2 && part.1.all Text.isLowerHex) &&
        ['1', '2', '3', '4', '5'].contains version && ['8', '9', 'a', 'b'].contains variant
  | _ => false

/-- `[0-9]+`. -/
def isIssueId : Bool :=
  Text.nonemptyOf Text.isDigit text.toList

/-- `_ROADMAP_ID_RE`. -/
def isRoadmapId : Bool :=
  match text.toList.splitOn '-' with
  | [first :: name, number] =>
      Text.isUpper first &&
        name.all (fun char => Text.isUpper char || Text.isDigit char || char = '_') &&
        Text.nonemptyOf Text.isDigit number
  | _ => false

/-- The characters of `_SAFE_ID_RE` and `_SAFE_REF_RE`. -/
def isSafeChar (char : Char) : Bool :=
  isScopeChar char || char = '/' || char = '#'

/-- `_SAFE_ID_RE`. -/
def isSafeId : Bool :=
  Text.fullmatch isSafeChar 1 240 text

/-- `_SAFE_REF_RE`. -/
def isSafeRef : Bool :=
  Text.fullmatch isSafeChar 1 500 text

/-- `_valid_branch`. -/
def isBranch : Bool :=
  match text.toList with
  | [] => false
  | first :: rest =>
      Text.isAlphanumeric first && rest.length ≤ 239 &&
        rest.all (fun char => Text.isAlphanumeric char || ['.', '_', '/', '+', '-'].contains char) &&
        !Text.hasInfix ['.', '.'] (first :: rest) && !Text.hasInfix ['/', '/'] (first :: rest) &&
        !Text.hasInfix ['@', '\x7b'] (first :: rest) && (first :: rest).getLast? ≠ some '/'

/-! ## The validator -/

/-- A non-empty text member. -/
def isStated : Option Timestamp → Bool
  | some (.malformed "") => false
  | some _ => true
  | none => false

/-- The member as an instant (`parse_time(str(value))`). -/
def instantOf (mem : Option Timestamp) : Option Int :=
  mem.bind Timestamp.parse

/-- The time checks of one lease. -/
def timeFindings : List String :=
  match lease.claimedAt.parse, lease.heartbeatAt.parse, lease.expiresAt.parse with
  | some claimed, some heartbeat, some expires =>
      (if heartbeat < claimed ∨ expires ≤ heartbeat then [tag ++ "_TIME_ORDER"] else []) ++
      (if lease.status = .released then
        match instantOf lease.releasedAt, instantOf lease.providerReconciledAt with
        | some released, some reconciled =>
            if released < heartbeat ∨ reconciled > released then [tag ++ "_RELEASE_TIME_ORDER"]
            else []
        | _, _ => [tag ++ "_TIME_INVALID"]
      else [])
  | _, _, _ => [tag ++ "_TIME_INVALID"]

/-- The release members an ACTIVE lease must not have and a RELEASED one must. -/
def statusFindings : List String :=
  match lease.status with
  | .active =>
      if lease.releasedAt ≠ none ∨ lease.providerReconciledAt ≠ none ∨
          lease.providerReconciliationRef ≠ none then [tag ++ "_ACTIVE_RELEASE_FIELDS"]
      else []
  | .released =>
      (if isStated lease.releasedAt then [] else [tag ++ "_RELEASE_EVIDENCE"]) ++
      (if isStated lease.providerReconciledAt then [] else [tag ++ "_RELEASE_EVIDENCE"]) ++
      (if lease.providerReconciliationRef.getD "" = "" then [tag ++ "_RELEASE_EVIDENCE"] else [])
  | .other _ => [tag ++ "_STATUS"]

/-- The checks of one lease that do not look at other leases. -/
def leaseFindings : List String :=
  (if isIssueId lease.issueId then [] else [tag ++ "_ISSUE_ID"]) ++
  (if isRoadmapId lease.roadmapId then [] else [tag ++ "_ROADMAP_ID"]) ++
  (if isSafeId lease.workerId then [] else [tag ++ "_WORKER_ID"]) ++
  (if isBranch lease.branch then [] else [tag ++ "_BRANCH"]) ++
  (if Text.isSha40 lease.baseSha then [] else [tag ++ "_BASE_SHA"]) ++
  (match requireCanonical (resourcesJson lease.resources) with
    | .ok _ => []
    | .error code => [tag ++ "_" ++ code]) ++
  statusFindings tag lease ++ timeFindings tag lease

/-- The loop over the leases, with the ids and generations seen so far. -/
def leasesFindings (index : Nat) (seenIds : List String) (seenGenerations : List Int) :
    List Lease → List String
  | [] => []
  | lease :: rest =>
      let tag := "LEASE_" ++ toString index
      let freshId := isUuid lease.leaseId && !seenIds.contains lease.leaseId
      let freshGeneration := 1 ≤ lease.generation && !seenGenerations.contains lease.generation
      (if freshId then [] else [tag ++ "_ID"]) ++
      (if freshGeneration then [] else [tag ++ "_GENERATION"]) ++
      leaseFindings tag lease ++
      leasesFindings (index + 1) (if freshId then lease.leaseId :: seenIds else seenIds)
        (if freshGeneration then lease.generation :: seenGenerations else seenGenerations) rest

/-- The ACTIVE leases, in order. -/
def activeLeases (leases : List Lease) : List Lease :=
  leases.filter fun lease => lease.status = .active

def pairFindings (left right : Lease) : List String :=
  (if left.issueId = right.issueId then ["LEASE_REGISTRY_ACTIVE_ISSUE_DUPLICATE"] else []) ++
  (if left.roadmapId = right.roadmapId then ["LEASE_REGISTRY_ACTIVE_ROADMAP_DUPLICATE"] else []) ++
  (if left.branch = right.branch then ["LEASE_REGISTRY_ACTIVE_BRANCH_DUPLICATE"] else []) ++
  (match conflictingResourceKeys (resourcesJson left.resources)
      (resourcesJson right.resources) with
    | .ok [] => []
    | .ok _ => ["LEASE_REGISTRY_ACTIVE_RESOURCE_CONFLICT"]
    | .error _ => ["LEASE_REGISTRY_ACTIVE_RESOURCE_INVALID"])

/-- The loop over pairs of ACTIVE leases. -/
def activePairFindings : List Lease → List String
  | [] => []
  | left :: rest => rest.flatMap (pairFindings left) ++ activePairFindings rest

/-- `validate_lease_registry`. -/
def validateLeaseRegistry (rt : Runtime) (registry : Registry) : List String :=
  let leases := if registry.leases.length > 200 then [] else registry.leases
  let active := activeLeases leases
  let findings :=
    (if registry.schemaRef ≠ leaseRegistrySchema then ["LEASE_REGISTRY_SCHEMA_REF"] else []) ++
    (if registry.schemaVersion ≠ 1 then ["LEASE_REGISTRY_SCHEMA_VERSION"] else []) ++
    (if isRepository registry.repository then [] else ["LEASE_REGISTRY_REPOSITORY"]) ++
    (if registry.revision < 0 then ["LEASE_REGISTRY_REVISION"] else []) ++
    (if Text.isSha40 registry.observedMainSha then [] else ["LEASE_REGISTRY_MAIN_SHA"]) ++
    (if 1 ≤ registry.maxParallelWriters ∧ registry.maxParallelWriters ≤ 3 then []
      else ["LEASE_REGISTRY_CEILING"]) ++
    (if registry.leases.length > 200 then ["LEASE_REGISTRY_LEASES"] else []) ++
    leasesFindings 0 [] [] leases ++
    (if active.length > registry.maxParallelWriters then
      ["LEASE_REGISTRY_ACTIVE_CEILING_EXCEEDED"] else []) ++
    activePairFindings active ++
    (if registry.integrityDigest ≠ registryDigest rt registry then
      ["LEASE_REGISTRY_INTEGRITY"] else [])
  findings.reverse.dedup.reverse

/-! ## What the validator establishes -/

/-- The instants of a lease are in order: claim, heartbeat, expiry, and a
release not before the last heartbeat. -/
structure TimesValid (lease : Lease) (claimed heartbeat expires : Int) : Prop where
  claimedAt : lease.claimedAt.parse = some claimed
  heartbeatAt : lease.heartbeatAt.parse = some heartbeat
  expiresAt : lease.expiresAt.parse = some expires
  claimedFirst : claimed ≤ heartbeat
  expiresLater : heartbeat < expires
  releasedLast : lease.status = .released → ∃ released reconciled,
    instantOf lease.releasedAt = some released ∧
      instantOf lease.providerReconciledAt = some reconciled ∧
      heartbeat ≤ released ∧ reconciled ≤ released

/-- What the validator says of one lease alone. -/
structure LeaseValid (lease : Lease) : Prop where
  leaseId : isUuid lease.leaseId = true
  generation : 1 ≤ lease.generation
  issueId : isIssueId lease.issueId = true
  roadmapId : isRoadmapId lease.roadmapId = true
  workerId : isSafeId lease.workerId = true
  branch : isBranch lease.branch = true
  baseSha : Text.isSha40 lease.baseSha = true
  resources : requireCanonical (resourcesJson lease.resources) = .ok lease.resources
  status : statusFindings "" lease = []
  times : ∃ claimed heartbeat expires, TimesValid lease claimed heartbeat expires

/-- Two ACTIVE leases share nothing. -/
structure Disjoint (left right : Lease) : Prop where
  issueId : left.issueId ≠ right.issueId
  roadmapId : left.roadmapId ≠ right.roadmapId
  branch : left.branch ≠ right.branch
  resources : Separate left.resources right.resources

/-- What a registry accepted by `validateLeaseRegistry` satisfies. -/
structure RegistryValid (rt : Runtime) (registry : Registry) : Prop where
  schemaRef : registry.schemaRef = leaseRegistrySchema
  schemaVersion : registry.schemaVersion = 1
  repository : isRepository registry.repository = true
  revision : 0 ≤ registry.revision
  mainSha : Text.isSha40 registry.observedMainSha = true
  ceiling : 1 ≤ registry.maxParallelWriters ∧ registry.maxParallelWriters ≤ 3
  retained : registry.leases.length ≤ 200
  leases : ∀ lease ∈ registry.leases, LeaseValid lease
  distinctIds : (registry.leases.map Lease.leaseId).Nodup
  distinctGenerations : (registry.leases.map Lease.generation).Nodup
  withinCeiling : ((activeLeases registry.leases).length : Int) ≤ registry.maxParallelWriters
  disjoint : (activeLeases registry.leases).Pairwise Disjoint
  digest : registry.integrityDigest = registryDigest rt registry

theorem timeFindings_eq_nil_iff : timeFindings tag lease = [] ↔
      ∃ claimed heartbeat expires, TimesValid lease claimed heartbeat expires := by
  constructor
  · intro clean
    unfold timeFindings at clean
    split at clean
    · rename_i claimed heartbeat expires claimedAt heartbeatAt expiresAt
      simp only [List.append_eq_nil_iff, ite_eq_right_iff, List.cons_ne_nil, imp_false, not_or,
        Int.not_lt, Int.not_le] at clean
      obtain ⟨⟨claimedFirst, expiresLater⟩, released⟩ := clean
      refine ⟨claimed, heartbeat, expires, claimedAt, heartbeatAt, expiresAt, claimedFirst,
        expiresLater, ?_⟩
      intro status
      have clean := released status
      split at clean
      · rename_i releasedAt reconciledAt first second
        split_ifs at clean with disordered
        exact ⟨releasedAt, reconciledAt, first, second, by omega, by omega⟩
      · cases clean
    · cases clean
  · rintro ⟨claimed, heartbeat, expires, times⟩
    simp only [timeFindings, times.claimedAt, times.heartbeatAt, times.expiresAt]
    have ordered : ¬(heartbeat < claimed ∨ expires ≤ heartbeat) := by
      have first := times.claimedFirst
      have later := times.expiresLater
      omega
    rw [if_neg ordered, List.nil_append]
    split_ifs with status
    · obtain ⟨released, reconciled, first, second, after, before⟩ := times.releasedLast status
      simp only [first, second]
      exact if_neg (by omega)
    · rfl

theorem statusFindings_eq_nil_iff :
    statusFindings tag lease = [] ↔ statusFindings "" lease = [] := by
  unfold statusFindings
  cases lease.status with
  | active => simp
  | released => simp
  | other name => simp

theorem leaseFindings_eq_nil_iff :
    leaseFindings tag lease = [] ∧ isUuid lease.leaseId = true ∧ 1 ≤ lease.generation ↔
      LeaseValid lease := by
  unfold leaseFindings
  simp only [List.append_eq_nil_iff, ite_eq_left_iff, List.cons_ne_nil, imp_false,
    Bool.not_eq_true, Bool.not_eq_false, timeFindings_eq_nil_iff, statusFindings_eq_nil_iff tag]
  constructor
  · rintro ⟨⟨⟨⟨⟨⟨⟨⟨issue, roadmap⟩, worker⟩, branch⟩, base⟩, resources⟩, status⟩, times⟩, id,
      generation⟩
    refine ⟨id, generation, issue, roadmap, worker, branch, base, ?_, status, times⟩
    split at resources
    · rename_i canonical required
      rw [required, resourcesJson_injective (requireCanonical_eq_ok required)]
    · cases resources
  · intro valid
    refine ⟨⟨⟨⟨⟨⟨⟨⟨valid.issueId, valid.roadmapId⟩, valid.workerId⟩, valid.branch⟩, valid.baseSha⟩, ?_⟩,
      valid.status⟩, valid.times⟩, valid.leaseId, valid.generation⟩
    rw [valid.resources]

theorem leasesFindings_eq_nil_iff (index : Nat) (seenIds : List String)
    (seenGenerations : List Int) (leases : List Lease) :
    leasesFindings index seenIds seenGenerations leases = [] ↔
      (∀ lease ∈ leases, LeaseValid lease) ∧
        ((leases.map Lease.leaseId).Nodup ∧ ∀ lease ∈ leases, lease.leaseId ∉ seenIds) ∧
        ((leases.map Lease.generation).Nodup ∧
          ∀ lease ∈ leases, lease.generation ∉ seenGenerations) := by
  induction leases generalizing index seenIds seenGenerations with
  | nil => simp [leasesFindings]
  | cons lease rest ih =>
      have single := leaseFindings_eq_nil_iff ("LEASE_" ++ toString index) lease
      simp only [leasesFindings, List.append_eq_nil_iff, ite_eq_left_iff, List.cons_ne_nil,
        imp_false, Bool.not_eq_true, Bool.not_eq_false, ih, List.forall_mem_cons, ← single,
        List.map_cons, List.nodup_cons, List.mem_map]
      constructor
      · rintro ⟨⟨⟨freshId, freshGeneration⟩, own⟩, valid, ⟨ids, unseenIds⟩, generations, unseen⟩
        rw [if_pos freshId] at unseenIds
        rw [if_pos freshGeneration] at unseen
        simp only [Bool.and_eq_true, Bool.not_eq_true', List.contains_eq_mem,
          decide_eq_false_iff_not, decide_eq_true_eq, List.mem_cons, not_or] at *
        have newId : ¬∃ other ∈ rest, other.leaseId = lease.leaseId := by
          rintro ⟨other, inside, same⟩
          exact (unseenIds other inside).1 same
        have newGeneration : ¬∃ other ∈ rest, other.generation = lease.generation := by
          rintro ⟨other, inside, same⟩
          exact (unseen other inside).1 same
        exact ⟨⟨⟨own, freshId.1, freshGeneration.1⟩, valid⟩,
          ⟨⟨newId, ids⟩, freshId.2, fun other inside => (unseenIds other inside).2⟩,
          ⟨newGeneration, generations⟩, freshGeneration.2,
          fun other inside => (unseen other inside).2⟩
      · rintro ⟨⟨⟨own, uuid, positive⟩, valid⟩, ⟨⟨notId, ids⟩, unseenId, unseenIds⟩,
          ⟨notGeneration, generations⟩, unseenGeneration, unseen⟩
        have freshId : (isUuid lease.leaseId && !seenIds.contains lease.leaseId) = true := by
          simp [uuid, unseenId]
        have freshGeneration : (decide (1 ≤ lease.generation) &&
            !seenGenerations.contains lease.generation) = true := by
          simp [positive, unseenGeneration]
        rw [if_pos freshId, if_pos freshGeneration]
        simp only [List.mem_cons, not_or]
        exact ⟨⟨⟨freshId, freshGeneration⟩, own⟩, valid,
          ⟨ids, fun other inside => ⟨fun same => notId ⟨other, inside, same⟩,
            unseenIds other inside⟩⟩,
          generations, fun other inside => ⟨fun same => notGeneration ⟨other, inside, same⟩,
            unseen other inside⟩⟩

theorem pairFindings_eq_nil_iff {left right : Lease} (leftValid : LeaseValid left)
    (rightValid : LeaseValid right) : pairFindings left right = [] ↔ Disjoint left right := by
  have separate := conflictingResourceKeys_eq_ok_nil_iff leftValid.resources rightValid.resources
  unfold pairFindings
  simp only [List.append_eq_nil_iff, ite_eq_right_iff, List.cons_ne_nil, imp_false]
  constructor
  · rintro ⟨⟨⟨issue, roadmap⟩, branch⟩, resources⟩
    refine ⟨issue, roadmap, branch, separate.mp ?_⟩
    split at resources
    · assumption
    · cases resources
    · cases resources
  · intro disjoint
    refine ⟨⟨⟨disjoint.issueId, disjoint.roadmapId⟩, disjoint.branch⟩, ?_⟩
    rw [separate.mpr disjoint.resources]

theorem activePairFindings_eq_nil_iff {leases : List Lease}
    (valid : ∀ lease ∈ leases, LeaseValid lease) :
    activePairFindings leases = [] ↔ leases.Pairwise Disjoint := by
  induction leases with
  | nil => simp [activePairFindings]
  | cons left rest ih =>
      obtain ⟨leftValid, restValid⟩ := List.forall_mem_cons.mp valid
      rw [activePairFindings, List.append_eq_nil_iff, List.flatMap_eq_nil_iff, ih restValid,
        List.pairwise_cons]
      constructor
      · rintro ⟨pairs, others⟩
        refine ⟨fun right inside => ?_, others⟩
        exact (pairFindings_eq_nil_iff leftValid (restValid right inside)).mp (pairs right inside)
      · rintro ⟨pairs, others⟩
        refine ⟨fun right inside => ?_, others⟩
        exact (pairFindings_eq_nil_iff leftValid (restValid right inside)).mpr (pairs right inside)

theorem mem_of_mem_activeLeases {leases : List Lease} {lease : Lease}
    (inside : lease ∈ activeLeases leases) : lease ∈ leases ∧ lease.status = .active := by
  simpa [activeLeases] using inside

theorem validateLeaseRegistry_eq_nil_iff (rt : Runtime) (registry : Registry) :
    validateLeaseRegistry rt registry = [] ↔ RegistryValid rt registry := by
  unfold validateLeaseRegistry
  simp only [List.reverse_eq_nil_iff, List.dedup_eq_nil, List.append_eq_nil_iff]
  constructor
  · rintro ⟨⟨⟨⟨⟨⟨⟨⟨⟨⟨schema, version⟩, repository⟩, revision⟩, mainSha⟩, ceiling⟩, retained⟩, leases⟩,
      active⟩, pairs⟩, digest⟩
    have few : ¬registry.leases.length > 200 := by
      intro many
      simp [many] at retained
    rw [if_neg few] at leases active pairs
    obtain ⟨valid, ⟨ids, _⟩, generations, _⟩ := (leasesFindings_eq_nil_iff 0 [] [] _).mp leases
    have activeValid : ∀ lease ∈ activeLeases registry.leases, LeaseValid lease :=
      fun lease inside => valid lease (mem_of_mem_activeLeases inside).1
    refine ⟨by simpa using schema, by simpa using version, by simpa using repository,
      by simpa using revision, by simpa using mainSha, by simpa using ceiling, by simpa using few,
      valid, ids, generations, by simpa using active,
      (activePairFindings_eq_nil_iff activeValid).mp pairs, by simpa using digest⟩
  · intro valid
    have few : ¬registry.leases.length > 200 := Nat.not_lt.mpr valid.retained
    have activeValid : ∀ lease ∈ activeLeases registry.leases, LeaseValid lease :=
      fun lease inside => valid.leases lease (mem_of_mem_activeLeases inside).1
    have leases := (leasesFindings_eq_nil_iff 0 [] [] registry.leases).mpr
      ⟨valid.leases, ⟨valid.distinctIds, by simp⟩, valid.distinctGenerations, by simp⟩
    have pairs := (activePairFindings_eq_nil_iff activeValid).mpr valid.disjoint
    simp only [if_neg few, leases, pairs, valid.schemaRef, valid.schemaVersion, valid.repository,
      valid.mainSha, ← valid.digest]
    have revision := valid.revision
    have ceiling := valid.ceiling
    have within := valid.withinCeiling
    simp [ceiling, Int.not_lt.mpr revision, Int.not_lt.mpr within]

instance (rt : Runtime) (registry : Registry) : Decidable (RegistryValid rt registry) :=
  decidable_of_iff _ (validateLeaseRegistry_eq_nil_iff rt registry)

end Adwf.LeaseRegistry
