import Adwf.LeaseRegistry.Operations
import Adwf.Run.Guarded

/-!
# The registry over its operations

The guards of `acquire` and `heartbeat` imply the whole validator, given that no
generation exceeds the revision.  That bound and validity hold in every registry
reached from an empty one.
-/

namespace Adwf.LeaseRegistry

open Adwf.Fallible Adwf.Run

/-! ## What the operations check and return -/

theorem raiseCode_eq_ok_iff {α : Type} {result : Except String α} {value : α} :
    raiseCode result = .ok value ↔ result = .ok value := by
  cases result <;> simp [raiseCode, Except.mapError]

variable {rt : Runtime} {registry after : Registry} {ttl : Int} {request : AcquireRequest}
variable {canonical : List Resource} {mainSha : String}

theorem requireValid_eq_ok_iff {code : String}
    {result : Unit} : requireValid rt code registry = .ok result ↔ RegistryValid rt registry := by
  rw [requireValid, require_eq_ok_iff, validateLeaseRegistry_eq_nil_iff]

theorem boundedTtlMinutes_eq_ok_iff {minutes : Int} :
    boundedTtlMinutes minutes = .ok ttl ↔ ttl = minutes ∧ 1 ≤ minutes ∧ minutes ≤ 240 := by
  simp only [boundedTtlMinutes, bind_ok_iff, require_eq_ok_iff, exists_const, pure, Except.pure,
    Except.ok.injEq]
  constructor
  · rintro ⟨bounds, rfl⟩
    exact ⟨rfl, bounds⟩
  · rintro ⟨rfl, bounds⟩
    exact ⟨bounds, rfl⟩

theorem disjoint_of_requireFree {lease : Lease}
    (required : requireCanonical request.resources = .ok canonical) (valid : LeaseValid lease)
    (free : requireFree request canonical lease = .ok ()) :
    Disjoint lease (newLease registry request canonical ttl) := by
  simp only [requireFree, bind_ok_iff, require_eq_ok_iff, raiseCode_eq_ok_iff,
    exists_const] at free
  obtain ⟨issue, roadmap, branch, conflicts, found, none_found⟩ := free
  subst none_found
  have separate := (conflictingResourceKeys_eq_ok_nil_iff
    (requireCanonical_resourcesJson required) valid.resources).mp found
  exact ⟨issue, roadmap, branch, separate.symm⟩

/-- The guards of an acquire. -/
structure Acquirable (rt : Runtime) (registry : Registry) (request : AcquireRequest)
    (canonical : List Resource) (ttl : Int) : Prop where
  valid : RegistryValid rt registry
  mainSha : Text.isSha40 request.observedMainSha = true
  baseSha : Text.isSha40 request.baseSha = true
  ceiling : registry.maxParallelWriters = request.policyMaxParallelWriters
  declared : requireCanonical request.resources = .ok canonical
  room : ((activeLeases registry.leases).length : Int) < request.policyMaxParallelWriters
  free : ∀ lease ∈ activeLeases registry.leases, requireFree request canonical lease = .ok ()
  issueId : isIssueId request.issueId = true
  roadmapId : isRoadmapId request.roadmapId = true
  workerId : isSafeId request.workerId = true
  branch : isBranch request.branch = true
  uuid : isUuid request.candidateId = true
  unused : ∀ lease ∈ registry.leases, lease.leaseId ≠ request.candidateId
  retained : registry.leases.length < 200
  ttl : 1 ≤ ttl

/-- The registry an acquire builds. -/
def withLease (rt : Runtime) (registry : Registry) (request : AcquireRequest)
    (lease : Lease) : Registry :=
  Registry.signed rt
    { registry with
      leases := registry.leases ++ [lease], revision := registry.revision + 1
      observedMainSha := request.observedMainSha }

theorem prepareAcquire_eq_ok {acquired : Registry × Lease}
    (prepared : prepareAcquire rt registry request = .ok acquired) :
    ∃ canonical ttl, Acquirable rt registry request canonical ttl ∧
      acquired.2 = newLease registry request canonical ttl ∧
      acquired.1 = withLease rt registry request acquired.2 := by
  simp only [prepareAcquire, bind_ok_iff, require_eq_ok_iff, requireValid_eq_ok_iff,
    raiseCode_eq_ok_iff, boundedTtlMinutes_eq_ok_iff, forM_eq_ok_iff, exists_const] at prepared
  obtain ⟨valid, _, ⟨mainSha, baseSha⟩, ceiling, _, canonical, required, _, _, room, free, issueId,
    roadmapId, ⟨workerId, branch⟩, ⟨uuid, unused⟩, retained, ttl, ⟨_, positive, _⟩, built⟩ := prepared
  cases built
  exact ⟨canonical, ttl, ⟨valid, mainSha, baseSha, ceiling, required, room, free, issueId,
    roadmapId, workerId, branch, uuid, unused, retained, by omega⟩, rfl, rfl⟩

/-- `lease` is the one lease of the registry with its id, and it is ACTIVE. -/
structure Holds (registry : Registry) (lease : Lease) : Prop where
  mem : lease ∈ registry.leases
  only : ∀ other ∈ registry.leases, other.leaseId = lease.leaseId → other = lease
  active : lease.status = .active

theorem activeLease_eq_ok {leaseId : String} {lease : Lease}
    (found : activeLease registry leaseId = .ok lease) :
    Holds registry lease ∧ lease.leaseId = leaseId := by
  unfold activeLease at found
  split at found
  · rename_i single filtered
    split_ifs at found with active
    cases found
    have iff : ∀ other, (other ∈ registry.leases ∧ other.leaseId = leaseId) ↔ other = lease := by
      intro other
      have inside : other ∈ registry.leases.filter (fun lease => lease.leaseId = leaseId) ↔
          other = lease := by rw [filtered, List.mem_singleton]
      simpa using inside
    obtain ⟨mem, id_eq⟩ := (iff lease).mpr rfl
    refine ⟨⟨mem, fun other inside same => (iff other).mp ⟨inside, same.trans id_eq⟩, active⟩,
      id_eq⟩
  · cases found

/-- The registry a heartbeat or a release builds. -/
def withUpdated (rt : Runtime) (registry : Registry) (mainSha : String) (updated : Lease) :
    Registry :=
  Registry.signed rt
    { registry with
      leases := replaceLease registry.leases updated, revision := registry.revision + 1
      observedMainSha := mainSha }

theorem prepareHeartbeat_eq_ok {request : HeartbeatRequest}
    (prepared : prepareHeartbeat rt registry request = .ok after) :
    RegistryValid rt registry ∧ Text.isSha40 request.observedMainSha = true ∧
      ∃ lease ttl, Holds registry lease ∧ freshnessErrors lease request.now = [] ∧ 1 ≤ ttl ∧
        after = withUpdated rt registry request.observedMainSha { lease with
            heartbeatAt := .at request.now, expiresAt := .at (request.now + ttl * minute) } := by
  simp only [prepareHeartbeat, bind_ok_iff, require_eq_ok_iff, requireValid_eq_ok_iff,
    boundedTtlMinutes_eq_ok_iff, exists_const] at prepared
  obtain ⟨valid, _, lease, found, _, _, fresh, mainSha, ttl, ⟨_, positive, _⟩, built⟩ := prepared
  cases built
  exact ⟨valid, mainSha, lease, ttl, (activeLease_eq_ok found).1, fresh, by omega, rfl⟩

theorem releaseRegistryLease_eq_ok {request : ReleaseRequest}
    (ran : releaseRegistryLease rt registry request = .ok after) :
    RegistryValid rt after ∧ ∃ lease, Holds registry lease ∧ lease.leaseId = request.leaseId ∧
      after = withUpdated rt registry request.observedMainSha (lease.releasedBy request) := by
  simp only [releaseRegistryLease, bind_ok_iff, require_eq_ok_iff, requireValid_eq_ok_iff,
    exists_const] at ran
  obtain ⟨_, _, _, _, _, lease, found, _, valid, built⟩ := ran
  cases built
  obtain ⟨holds, same⟩ := activeLease_eq_ok found
  exact ⟨valid, lease, holds, same, rfl⟩

section Replace

variable {leases : List Lease} {lease updated : Lease}

theorem map_replaceLease {α : Type} (mem : Lease → α) (sameId : updated.leaseId = lease.leaseId)
    (only : ∀ other ∈ leases, other.leaseId = lease.leaseId → other = lease)
    (same : mem updated = mem lease) : (replaceLease leases updated).map mem = leases.map mem := by
  rw [replaceLease, List.map_map]
  apply List.map_congr_left
  intro other inside
  rw [Function.comp_apply]
  split_ifs with replaced
  · rw [same, only other inside (replaced.trans sameId)]
  · rfl

theorem map_activeLeases_replaceLease {α : Type} (mem : Lease → α)
    (sameId : updated.leaseId = lease.leaseId)
    (only : ∀ other ∈ leases, other.leaseId = lease.leaseId → other = lease)
    (sameStatus : updated.status = lease.status) (same : mem updated = mem lease) :
    (activeLeases (replaceLease leases updated)).map mem = (activeLeases leases).map mem := by
  induction leases with
  | nil => rfl
  | cons first rest ih =>
      obtain ⟨firstOnly, restOnly⟩ := List.forall_mem_cons.mp only
      have rest_eq := ih restOnly
      simp only [activeLeases, replaceLease, List.map_cons, List.filter_cons] at rest_eq ⊢
      by_cases replaced : first.leaseId = updated.leaseId
      · have first_eq := firstOnly (replaced.trans sameId)
        subst first_eq
        simp only [if_pos replaced, sameStatus]
        split_ifs
        · rw [List.map_cons, List.map_cons, same, rest_eq]
        · exact rest_eq
      · simp only [if_neg replaced]
        split_ifs
        · rw [List.map_cons, List.map_cons, rest_eq]
        · exact rest_eq

theorem mem_replaceLease {other : Lease} (inside : other ∈ replaceLease leases updated) :
    other = updated ∨ other ∈ leases := by
  simp only [replaceLease, List.mem_map] at inside
  obtain ⟨original, originalMem, replaced⟩ := inside
  split_ifs at replaced
  · exact Or.inl replaced.symm
  · exact Or.inr (replaced ▸ originalMem)

theorem getElem?_replaceLease_released {index : Nat} {kept : Lease}
    (sameId : updated.leaseId = lease.leaseId)
    (only : ∀ other ∈ leases, other.leaseId = lease.leaseId → other = lease)
    (active : lease.status = .active) (found : leases[index]? = some kept)
    (released : kept.status = .released) : (replaceLease leases updated)[index]? = some kept := by
  have other : kept.leaseId ≠ updated.leaseId := by
    intro same
    have kept_eq := only kept (List.mem_of_getElem? found) (same.trans sameId)
    rw [kept_eq, active] at released
    cases released
  rw [replaceLease, List.getElem?_map, found, Option.map_some, if_neg other]

end Replace

/-! ## The guards imply the validator -/

/-- No generation exceeds the revision. -/
def Numbered (registry : Registry) : Prop :=
  ∀ lease ∈ registry.leases, lease.generation ≤ registry.revision

theorem leaseValid_newLease (acquirable : Acquirable rt registry request canonical ttl) :
    LeaseValid (newLease registry request canonical ttl) where
  leaseId := acquirable.uuid
  generation := by
    have revision := acquirable.valid.revision
    simp only [newLease]
    omega
  issueId := acquirable.issueId
  roadmapId := acquirable.roadmapId
  workerId := acquirable.workerId
  branch := acquirable.branch
  baseSha := acquirable.baseSha
  resources := requireCanonical_resourcesJson acquirable.declared
  status := rfl
  times := by
    have later := acquirable.ttl
    refine ⟨request.now, request.now, request.now + ttl * minute, rfl, rfl, rfl, le_refl _, ?_, ?_⟩
    · simp only [minute]
      omega
    · intro released
      cases released

theorem registryValid_withLease (numbered : Numbered registry)
    (acquirable : Acquirable rt registry request canonical ttl) : RegistryValid rt
      (withLease rt registry request (newLease registry request canonical ttl)) := by
  have valid := acquirable.valid
  have active : activeLeases (registry.leases ++ [newLease registry request canonical ttl]) =
      activeLeases registry.leases ++ [newLease registry request canonical ttl] := by
    simp [activeLeases, newLease]
  refine ⟨valid.schemaRef, valid.schemaVersion, valid.repository, ?_, acquirable.mainSha,
    valid.ceiling, ?_, ?_, ?_, ?_, ?_, ?_, rfl⟩
  · have revision := valid.revision
    simp only [withLease, Registry.signed]
    omega
  · have retained := acquirable.retained
    simp only [withLease, Registry.signed, List.length_append, List.length_singleton]
    omega
  · intro lease inside
    rcases List.mem_append.mp inside with old | new
    · exact valid.leases lease old
    · rw [List.mem_singleton.mp new]
      exact leaseValid_newLease acquirable
  · simp only [withLease, Registry.signed, List.map_append, List.map_singleton]
    apply valid.distinctIds.append (List.nodup_singleton _)
    rw [List.disjoint_singleton]
    rintro used
    obtain ⟨lease, inside, same⟩ := List.mem_map.mp used
    exact acquirable.unused lease inside same
  · simp only [withLease, Registry.signed, List.map_append, List.map_singleton]
    apply valid.distinctGenerations.append (List.nodup_singleton _)
    rw [List.disjoint_singleton]
    intro used
    obtain ⟨lease, inside, same⟩ := List.mem_map.mp used
    have bound := numbered lease inside
    simp only [newLease] at same
    omega
  · have room := acquirable.room
    have ceiling := acquirable.ceiling
    simp only [withLease, Registry.signed, active, List.length_append, List.length_singleton]
    omega
  · simp only [withLease, Registry.signed, active]
    rw [List.pairwise_append]
    refine ⟨valid.disjoint, List.pairwise_singleton _ _, ?_⟩
    intro lease inside new isNew
    rw [List.mem_singleton.mp isNew]
    exact disjoint_of_requireFree acquirable.declared
      (valid.leases lease (mem_of_mem_activeLeases inside).1) (acquirable.free lease inside)

/-- What `Disjoint` compares. -/
def claimsOf (lease : Lease) : String × String × String × List Resource :=
  (lease.issueId, lease.roadmapId, lease.branch, lease.resources)

theorem pairwise_disjoint_of_claims {left right : List Lease}
    (same : left.map claimsOf = right.map claimsOf) (disjoint : right.Pairwise Disjoint) :
    left.Pairwise Disjoint := by
  have claims : ∀ leases : List Lease, leases.Pairwise Disjoint ↔
      (leases.map claimsOf).Pairwise fun first second =>
        first.1 ≠ second.1 ∧ first.2.1 ≠ second.2.1 ∧ first.2.2.1 ≠ second.2.2.1 ∧
          Separate first.2.2.2 second.2.2.2 := by
    intro leases
    rw [List.pairwise_map]
    constructor
    · exact List.Pairwise.imp fun pair => ⟨pair.issueId, pair.roadmapId, pair.branch, pair.resources⟩
    · exact List.Pairwise.imp fun ⟨issue, roadmap, branch, resources⟩ =>
        ⟨issue, roadmap, branch, resources⟩
  rw [claims, same, ← claims]
  exact disjoint

theorem heartbeat_le_of_fresh {lease : Lease} {now claimed heartbeat expires : Int}
    (times : TimesValid lease claimed heartbeat expires)
    (fresh : freshnessErrors lease now = []) : heartbeat ≤ now := by
  simp only [freshnessErrors, times.expiresAt, times.heartbeatAt, List.append_eq_nil_iff] at fresh
  by_contra later
  have inFuture := fresh.2
  rw [if_pos (by omega : heartbeat > now)] at inFuture
  cases inFuture

theorem registryValid_withUpdated {lease : Lease} {now : Int} (valid : RegistryValid rt registry)
    (sha : Text.isSha40 mainSha = true) (holds : Holds registry lease)
    (fresh : freshnessErrors lease now = []) (positive : 1 ≤ ttl) :
    RegistryValid rt (withUpdated rt registry mainSha
      { lease with heartbeatAt := .at now, expiresAt := .at (now + ttl * minute) }) := by
  set updated : Lease :=
    { lease with heartbeatAt := .at now, expiresAt := .at (now + ttl * minute) } with updated_eq
  have own := valid.leases lease holds.mem
  have updatedValid : LeaseValid updated := by
    obtain ⟨claimed, heartbeat, expires, times⟩ := own.times
    have renewed := heartbeat_le_of_fresh times fresh
    have first := times.claimedFirst
    refine ⟨own.leaseId, own.generation, own.issueId, own.roadmapId, own.workerId, own.branch,
      own.baseSha, own.resources, own.status, claimed, now, now + ttl * minute, times.claimedAt,
      rfl, rfl, by omega, ?_, ?_⟩
    · simp only [minute]
      omega
    · intro released
      rw [updated_eq] at released
      rw [holds.active] at released
      cases released
  have sameId : updated.leaseId = lease.leaseId := rfl
  have claims : (activeLeases (replaceLease registry.leases updated)).map claimsOf =
      (activeLeases registry.leases).map claimsOf :=
    map_activeLeases_replaceLease claimsOf sameId holds.only rfl rfl
  refine ⟨valid.schemaRef, valid.schemaVersion, valid.repository, ?_, sha, valid.ceiling, ?_, ?_,
    ?_, ?_, ?_, ?_, rfl⟩
  · have revision := valid.revision
    simp only [withUpdated, Registry.signed]
    omega
  · simpa [withUpdated, Registry.signed, replaceLease] using valid.retained
  · intro other inside
    rcases mem_replaceLease inside with rfl | old
    · exact updatedValid
    · exact valid.leases other old
  · simp only [withUpdated, Registry.signed]
    rw [map_replaceLease _ sameId holds.only rfl]
    exact valid.distinctIds
  · simp only [withUpdated, Registry.signed]
    rw [map_replaceLease _ sameId holds.only rfl]
    exact valid.distinctGenerations
  · have count := congrArg List.length claims
    rw [List.length_map, List.length_map] at count
    simp only [withUpdated, Registry.signed, count]
    exact valid.withinCeiling
  · exact pairwise_disjoint_of_claims claims valid.disjoint

/-! ## Runs -/

/-- The registries reached from an empty one: valid, and numbered. -/
structure Reachable (rt : Runtime) (registry : Registry) : Prop where
  valid : RegistryValid rt registry
  numbered : Numbered registry

/-- Every RELEASED lease of `before` stands unchanged at its place in `after`. -/
def KeepsReleased (before after : Registry) : Prop :=
  ∀ (index : Nat) (lease : Lease), before.leases[index]? = some lease →
    lease.status = .released → after.leases[index]? = some lease

/-- What a successful operation returns. -/
structure Succeeds (rt : Runtime) (before after : Registry) : Prop where
  valid : RegistryValid rt after
  revision : after.revision = before.revision + 1
  numbered : Numbered before → Numbered after
  keepsReleased : KeepsReleased before after

theorem succeeds_withLease (valid : RegistryValid rt
      (withLease rt registry request (newLease registry request canonical ttl))) :
    Succeeds rt registry
      (withLease rt registry request (newLease registry request canonical ttl)) where
  valid := valid
  revision := rfl
  numbered numbered := by
    intro lease inside
    simp only [withLease, Registry.signed] at inside ⊢
    rcases List.mem_append.mp inside with old | new
    · have bound := numbered lease old
      omega
    · rw [List.mem_singleton.mp new]
      exact le_refl _
  keepsReleased index lease found _ := by
    have inside : index < registry.leases.length := (List.getElem?_eq_some_iff.mp found).1
    simp only [withLease, Registry.signed]
    rw [List.getElem?_append_left inside]
    exact found

theorem succeeds_withUpdated {lease updated : Lease} (holds : Holds registry lease)
    (sameId : updated.leaseId = lease.leaseId)
    (sameGeneration : updated.generation = lease.generation)
    (valid : RegistryValid rt (withUpdated rt registry mainSha updated)) :
    Succeeds rt registry (withUpdated rt registry mainSha updated) where
  valid := valid
  revision := rfl
  numbered numbered := by
    intro other inside
    simp only [withUpdated, Registry.signed] at inside ⊢
    rcases mem_replaceLease inside with rfl | old
    · have bound := numbered lease holds.mem
      omega
    · have bound := numbered other old
      omega
  keepsReleased _ _ found released :=
    getElem?_replaceLease_released sameId holds.only holds.active found released

theorem prepareAcquire_valid {acquired : Registry × Lease} (reachable : Reachable rt registry)
    (prepared : prepareAcquire rt registry request = .ok acquired) :
    RegistryValid rt acquired.1 := by
  obtain ⟨canonical, ttl, acquirable, lease_eq, registry_eq⟩ := prepareAcquire_eq_ok prepared
  rw [registry_eq, lease_eq]
  exact registryValid_withLease reachable.numbered acquirable

/-- The last check of a heartbeat never fails. -/
theorem prepareHeartbeat_valid {request : HeartbeatRequest}
    (prepared : prepareHeartbeat rt registry request = .ok after) : RegistryValid rt after := by
  obtain ⟨valid, sha, lease, ttl, holds, fresh, positive, rfl⟩ := prepareHeartbeat_eq_ok prepared
  exact registryValid_withUpdated valid sha holds fresh positive

theorem succeeds_of_registryStep
    {call : RegistryCall} (ran : registryStep rt registry call = .ok after) :
    Succeeds rt registry after := by
  cases call with
  | acquire request =>
      cases acquired : acquireRegistryLease rt registry request with
      | error raised => simp [registryStep, acquired, Except.map] at ran
      | ok pair =>
          simp only [registryStep, acquired, Except.map, Except.ok.injEq] at ran
          simp only [acquireRegistryLease, bind_ok_iff, requireValid_eq_ok_iff,
            exists_const] at acquired
          obtain ⟨prepared, ready, valid, pair_eq⟩ := acquired
          cases pair_eq
          obtain ⟨canonical, ttl, _, lease_eq, registry_eq⟩ := prepareAcquire_eq_ok ready
          rw [lease_eq] at registry_eq
          rw [← ran, registry_eq]
          rw [registry_eq] at valid
          exact succeeds_withLease valid
  | heartbeat request =>
      simp only [registryStep, heartbeatRegistryLease, bind_ok_iff, requireValid_eq_ok_iff,
        exists_const] at ran
      obtain ⟨renewed, prepared, valid, renewed_eq⟩ := ran
      cases renewed_eq
      obtain ⟨_, _, lease, ttl, holds, _, _, rfl⟩ := prepareHeartbeat_eq_ok prepared
      exact succeeds_withUpdated holds rfl rfl valid
  | release request =>
      obtain ⟨valid, lease, holds, _, rfl⟩ := releaseRegistryLease_eq_ok ran
      exact succeeds_withUpdated holds rfl rfl valid

theorem reachable_registryAfter (call : RegistryCall) (reachable : Reachable rt registry) :
    Reachable rt (registryAfter rt registry call) := by
  unfold registryAfter
  split
  · rename_i after ran
    have succeeds := succeeds_of_registryStep ran
    exact ⟨succeeds.valid, succeeds.numbered reachable.numbered⟩
  · exact reachable

theorem reachable_emptyLeaseRegistry {repository : String} {ceiling : Int} {start : Registry}
    (created : emptyLeaseRegistry rt repository mainSha ceiling = .ok start) :
    Reachable rt start := by
  simp only [emptyLeaseRegistry, bind_ok_iff, require_eq_ok_iff, exists_const] at created
  obtain ⟨repositoryOk, shaOk, ceilingOk, start_eq⟩ := created
  cases start_eq
  refine ⟨⟨rfl, rfl, repositoryOk, le_refl _, shaOk, ceilingOk, by simp [Registry.signed],
    by simp [Registry.signed], by simp [Registry.signed], by simp [Registry.signed], ?_,
    by simp [Registry.signed, activeLeases], rfl⟩, by simp [Numbered, Registry.signed]⟩
  simp only [Registry.signed, activeLeases, List.filter_nil, List.length_nil]
  omega

theorem keepsReleased_final (rt : Runtime) (registry : Registry) (calls : List RegistryCall) :
    KeepsReleased registry (final (registryAfter rt) registry calls) := by
  induction calls generalizing registry with
  | nil => exact fun _ _ found _ => found
  | cons call rest ih =>
      intro index lease found released
      apply ih
      · unfold registryAfter
        split
        · rename_i after ran
          exact (succeeds_of_registryStep ran).keepsReleased index lease found released
        · exact found
      · exact released

/-- What every reachable registry satisfies. -/
structure RegistryLaw (rt : Runtime) (registry : Registry) : Prop where
  accepted : validateLeaseRegistry rt registry = []
  withinCeiling : ((activeLeases registry.leases).length : Int) ≤ registry.maxParallelWriters
  disjoint : (activeLeases registry.leases).Pairwise Disjoint
  distinctGenerations : (registry.leases.map Lease.generation).Nodup
  numbered : Numbered registry

/-- What a call on a reachable registry satisfies: success raises the revision
by one, and the checks after the mutation of `acquire` and `heartbeat` never
raise. -/
structure CallLaw (rt : Runtime) (registry : Registry) (call : RegistryCall) : Prop where
  revision : ∀ after, registryStep rt registry call = .ok after →
    after.revision = registry.revision + 1
  acquireComplete : ∀ findings, registryStep rt registry call ≠
    .error (.listing "LEASE_REGISTRY_INVALID_AFTER_ACQUIRE" findings)
  heartbeatComplete : ∀ findings, registryStep rt registry call ≠
    .error (.listing "LEASE_REGISTRY_INVALID_AFTER_HEARTBEAT" findings)

/-- The errors raised before the mutation: a code, or the findings on the
registry that was read. -/
def GuardError : Raised → Prop
  | .code _ => True
  | .listing name _ => name = "LEASE_REGISTRY_INVALID"

theorem guardError_require {condition : Prop} [Decidable condition] (code : String) :
    RaisesOnly GuardError (require condition (Raised.code code)) :=
  RaisesOnly.require trivial

theorem guardError_requireValid (rt : Runtime) (registry : Registry) :
    RaisesOnly GuardError (requireValid rt "LEASE_REGISTRY_INVALID" registry) :=
  RaisesOnly.require rfl

theorem guardError_raiseCode {α : Type} (result : Except String α) :
    RaisesOnly GuardError (raiseCode result) := by
  intro error raised
  cases result with
  | error code =>
      cases raised
      trivial
  | ok value => cases raised

theorem guardError_requireFree (request : AcquireRequest) (canonical : List Resource)
    (lease : Lease) : RaisesOnly GuardError (requireFree request canonical lease) := by
  unfold requireFree
  refine RaisesOnly.bind (guardError_require _) fun _ => ?_
  refine RaisesOnly.bind (guardError_require _) fun _ => ?_
  refine RaisesOnly.bind (guardError_require _) fun _ => ?_
  exact RaisesOnly.bind (guardError_raiseCode _) fun _ => guardError_require _

theorem guardError_boundedTtlMinutes (minutes : Int) :
    RaisesOnly GuardError (boundedTtlMinutes minutes) :=
  RaisesOnly.bind (guardError_require _) fun _ => RaisesOnly.pure _

theorem guardError_activeLease (registry : Registry) (leaseId : String) :
    RaisesOnly GuardError (activeLease registry leaseId) := by
  intro error raised
  unfold activeLease at raised
  split at raised
  · split_ifs at raised
    cases raised
    trivial
  · cases raised
    trivial

theorem guardError_prepareAcquire (rt : Runtime) (registry : Registry) (request : AcquireRequest) :
    RaisesOnly GuardError (prepareAcquire rt registry request) := by
  unfold prepareAcquire
  repeat'
    with_reducible
      first
      | exact guardError_require _
      | exact guardError_requireValid _ _
      | exact guardError_raiseCode _
      | exact RaisesOnly.forM (guardError_requireFree request _)
      | exact guardError_boundedTtlMinutes _
      | exact RaisesOnly.pure _
      | refine RaisesOnly.bind ?_ fun _ => ?_

theorem guardError_prepareHeartbeat (rt : Runtime) (registry : Registry)
    (request : HeartbeatRequest) :
    RaisesOnly GuardError (prepareHeartbeat rt registry request) := by
  unfold prepareHeartbeat
  repeat'
    with_reducible
      first
      | exact guardError_require _
      | exact guardError_requireValid _ _
      | exact guardError_activeLease _ _
      | exact guardError_boundedTtlMinutes _
      | exact RaisesOnly.pure _
      | refine RaisesOnly.bind ?_ fun _ => ?_

theorem acquireRegistryLease_eq_prepareAcquire
    (request : AcquireRequest) (reachable : Reachable rt registry) :
    acquireRegistryLease rt registry request = prepareAcquire rt registry request := by
  unfold acquireRegistryLease
  cases prepared : prepareAcquire rt registry request with
  | error raised => rfl
  | ok acquired =>
      have checked : requireValid rt "LEASE_REGISTRY_INVALID_AFTER_ACQUIRE" acquired.1 =
          .ok () := requireValid_eq_ok_iff.mpr (prepareAcquire_valid reachable prepared)
      exact bind_ok_iff.mpr ⟨acquired, rfl, bind_ok_iff.mpr ⟨(), checked, rfl⟩⟩

/-- The last check of a heartbeat is redundant. -/
theorem heartbeatRegistryLease_eq_prepareHeartbeat (rt : Runtime) (registry : Registry)
    (request : HeartbeatRequest) : heartbeatRegistryLease rt registry request =
      prepareHeartbeat rt registry request := by
  unfold heartbeatRegistryLease
  cases prepared : prepareHeartbeat rt registry request with
  | error raised => rfl
  | ok renewed =>
      have checked : requireValid rt "LEASE_REGISTRY_INVALID_AFTER_HEARTBEAT" renewed =
          .ok () := requireValid_eq_ok_iff.mpr (prepareHeartbeat_valid prepared)
      exact bind_ok_iff.mpr ⟨renewed, rfl, bind_ok_iff.mpr ⟨(), checked, rfl⟩⟩

/-- The errors of a call on a reachable registry. -/
def StepError : Raised → Prop
  | .code _ => True
  | .listing name _ => name = "LEASE_REGISTRY_INVALID" ∨ name = "LEASE_REGISTRY_INVALID_AFTER_RELEASE"

theorem stepError_of_guardError {error : Raised} (guard : GuardError error) : StepError error := by
  cases error with
  | code text => trivial
  | listing name findings => exact Or.inl guard

theorem stepError_of_raisesOnly {α : Type} {result : Result α}
    (raises : RaisesOnly GuardError result) : RaisesOnly StepError result :=
  fun error raised => stepError_of_guardError (raises error raised)

theorem stepError_requireValid (rt : Runtime) (released : Registry) : RaisesOnly StepError
      (requireValid rt "LEASE_REGISTRY_INVALID_AFTER_RELEASE" released) :=
  RaisesOnly.require (Or.inr rfl)

theorem stepError_releaseRegistryLease (rt : Runtime) (registry : Registry)
    (request : ReleaseRequest) :
    RaisesOnly StepError (releaseRegistryLease rt registry request) := by
  unfold releaseRegistryLease
  refine RaisesOnly.bind (stepError_of_raisesOnly (guardError_requireValid _ _)) fun _ => ?_
  refine RaisesOnly.bind (stepError_of_raisesOnly (guardError_require _)) fun _ => ?_
  refine RaisesOnly.bind (stepError_of_raisesOnly (guardError_require _)) fun _ => ?_
  refine RaisesOnly.bind (stepError_of_raisesOnly (guardError_require _)) fun _ => ?_
  refine RaisesOnly.bind (stepError_of_raisesOnly (guardError_require _)) fun _ => ?_
  refine RaisesOnly.bind (stepError_of_raisesOnly (guardError_activeLease _ _)) fun _ => ?_
  refine RaisesOnly.bind (stepError_of_raisesOnly (guardError_require _)) fun _ => ?_
  exact RaisesOnly.bind (stepError_requireValid _ _) fun _ => RaisesOnly.pure _

theorem stepError_registryStep (call : RegistryCall) (reachable : Reachable rt registry) :
    RaisesOnly StepError (registryStep rt registry call) := by
  intro error raised
  cases call with
  | acquire request =>
      rw [registryStep, acquireRegistryLease_eq_prepareAcquire request reachable] at raised
      cases prepared : prepareAcquire rt registry request with
      | error other =>
          rw [prepared] at raised
          cases raised
          exact stepError_of_guardError (guardError_prepareAcquire rt registry request _ prepared)
      | ok acquired =>
          rw [prepared] at raised
          cases raised
  | heartbeat request =>
      rw [registryStep, heartbeatRegistryLease_eq_prepareHeartbeat] at raised
      exact stepError_of_guardError (guardError_prepareHeartbeat rt registry request _ raised)
  | release request => exact stepError_releaseRegistryLease rt registry request _ raised

theorem callLaw_of_reachable (call : RegistryCall)
    (reachable : Reachable rt registry) : CallLaw rt registry call where
  revision _ ran := (succeeds_of_registryStep ran).revision
  acquireComplete findings raised := by
    have allowed := stepError_registryStep call reachable _ raised
    revert allowed
    simp [StepError]
  heartbeatComplete findings raised := by
    have allowed := stepError_registryStep call reachable _ raised
    revert allowed
    simp [StepError]

theorem registryLaw_of_reachable (reachable : Reachable rt registry) : RegistryLaw rt registry where
  accepted := (validateLeaseRegistry_eq_nil_iff rt registry).mpr reachable.valid
  withinCeiling := reachable.valid.withinCeiling
  disjoint := reachable.valid.disjoint
  distinctGenerations := reachable.valid.distinctGenerations
  numbered := reachable.numbered

/-- The registry over any sequence of calls from an empty one, with any
arguments and clock readings: every registry is valid, within its ceiling and
free of conflicts, every success raises the revision by one, the checks after
`acquire` and `heartbeat` never raise, and a released lease stays as it is. -/
theorem leaseRegistry_run (rt : Runtime) (repository mainSha : String) (ceiling : Int)
    (start : Registry) (calls : List RegistryCall)
    (created : emptyLeaseRegistry rt repository mainSha ceiling = .ok start) :
    Always (registryAfter rt) (RegistryLaw rt) start calls ∧
      Along (registryAfter rt) (CallLaw rt) start calls ∧
      ∀ more, KeepsReleased (final (registryAfter rt) start calls)
        (final (registryAfter rt) start (calls ++ more)) := by
  have reachable : Always (registryAfter rt) (Reachable rt) start calls :=
    always_of_invariant (fun _ => reachable_registryAfter) (reachable_emptyLeaseRegistry created) _
  refine ⟨reachable.imp fun _ => registryLaw_of_reachable,
    Along.of_always (fun _ => callLaw_of_reachable) reachable, fun more => ?_⟩
  rw [final_append]
  exact keepsReleased_final rt _ more

/-! ## A run of three calls -/

/-- A runtime for fixed runs: every document has the empty digest. -/
def fixedRuntime : Runtime where
  digest _ := ""
  floatOf _ := none
  intOf _ := none
  textOf _ := ""

def fixedSha : String :=
  "0000000000000000000000000000000000000000"

def fixedAcquire : AcquireRequest where
  expectedRevision := 0
  observedMainSha := fixedSha
  policyMaxParallelWriters := 1
  issueId := "1"
  roadmapId := "ORCH-1"
  workerId := "worker"
  baseSha := fixedSha
  branch := "adwf/one"
  resources := resourcesJson [⟨.source, "src", false, false⟩]
  now := 0
  uuid := "00000000-0000-4000-8000-000000000000"

/-- Acquire, renew after one minute, release after two. -/
def fixedCalls : List RegistryCall :=
  [.acquire fixedAcquire, .heartbeat
      { expectedRevision := 1, leaseId := fixedAcquire.uuid, workerId := "worker"
        observedMainSha := fixedSha, now := minute },
    .release
      { expectedRevision := 2, leaseId := fixedAcquire.uuid, workerId := "worker"
        observedMainSha := fixedSha, providerReconciled := true
        providerReconciliationRef := "ref", now := 2 * minute }]

def fixedRegistry : Registry where
  repository := "owner/name"
  revision := 0
  observedMainSha := fixedSha
  maxParallelWriters := 1
  leases := []
  integrityDigest := ""

theorem leaseRegistry_run_fixedCalls :
    Always (registryAfter fixedRuntime) (RegistryLaw fixedRuntime) fixedRegistry fixedCalls :=
  (leaseRegistry_run fixedRuntime "owner/name" fixedSha 1 fixedRegistry fixedCalls
    (by decide +kernel)).1

end Adwf.LeaseRegistry
