import Mathlib.Data.List.TakeWhile
import Adwf.LeaseRegistry.Persistence

/-!
# The main SHA a lease was acquired under

`acquire` and `heartbeat` refuse a main SHA other than the registry's while a
lease is ACTIVE.  A release stores the SHA it observed without looking at the
leases that remain, so it can move the registry under another writer.
-/

namespace Adwf.LeaseRegistry

open Adwf.Fallible Adwf.Run

/-! ## When a release returns -/

/-- The checks of a release on the lease it ends: those before its edit, and
the time order that the last validation looks at. -/
structure Releasable (registry : Registry) (request : ReleaseRequest) (lease : Lease) : Prop where
  revision : registry.revision = request.expectedRevision
  reconciled : request.providerReconciled = true
  reference : isSafeRef request.providerReconciliationRef = true
  mainSha : Text.isSha40 request.observedMainSha = true
  found : activeLease registry request.leaseId = .ok lease
  owner : lease.workerId = request.workerId
  renewed : ∀ heartbeat, lease.heartbeatAt.parse = some heartbeat → heartbeat ≤ request.now

theorem not_isSpace_of_isSafeChar {char : Char} (safe : isSafeChar char = true) :
    Text.isSpace char = false := by
  have plain : ∀ low high : Nat, low ≤ char.toNat → char.toNat ≤ high → 33 ≤ low → high ≤ 126 →
      Text.isSpace char = false := by
    intro low high above below first last
    simp only [Text.isSpace, Bool.or_eq_false_iff, Bool.and_eq_false_iff, decide_eq_false_iff_not]
    omega
  simp only [isSafeChar, isScopeChar, Text.isAlphanumeric, Text.isUpper, Text.isDigit,
    Bool.or_eq_true, Bool.and_eq_true, decide_eq_true_eq, Char.le_def, UInt32.le_iff_toNat_le,
    List.contains_cons, List.contains_nil, beq_iff_eq, Bool.or_false] at safe
  rcases safe with ((((upper | lower) | digit) | mark) | slash) | hash
  · exact plain 65 90 upper.1 upper.2 (by omega) (by omega)
  · exact plain 97 122 lower.1 lower.2 (by omega) (by omega)
  · exact plain 48 57 digit.1 digit.2 (by omega) (by omega)
  · rcases mark with rfl | rfl | rfl | rfl | rfl | rfl <;> decide
  · rw [slash]
    decide
  · rw [hash]
    decide

/-- A reference that passes the pattern is not all spaces. -/
theorem strip_ne_empty_of_isSafeRef {text : String} (safe : isSafeRef text = true) :
    Text.strip text ≠ "" := by
  simp only [isSafeRef, Text.fullmatch, Bool.and_eq_true, decide_eq_true_eq, List.all_eq_true] at safe
  obtain ⟨⟨long, _⟩, chars⟩ := safe
  have kept : ∀ (more : List Char), (∀ char ∈ more, Text.isSpace char = false) →
      more.dropWhile Text.isSpace = more := by
    intro more plain
    rw [List.dropWhile_eq_self_iff]
    intro nonempty
    simp [plain _ (List.getElem_mem nonempty)]
  have plain : ∀ char ∈ text.toList, Text.isSpace char = false :=
    fun char inside => not_isSpace_of_isSafeChar (chars char inside)
  rw [Text.strip, kept _ plain, kept _ (fun char inside => plain char (List.mem_reverse.mp inside)),
    List.reverse_reverse, String.ofList_toList]
  rintro rfl
  simp at long

variable {lease : Lease} {registry after : Registry}

theorem activeLeases_replaceLease {leases : List Lease} {updated : Lease}
    (sameId : updated.leaseId = lease.leaseId) (ended : updated.status ≠ .active) :
    activeLeases (replaceLease leases updated) =
      (activeLeases leases).filter fun other => other.leaseId ≠ lease.leaseId := by
  induction leases with
  | nil => rfl
  | cons first rest ih =>
      simp only [activeLeases, replaceLease, List.map_cons, List.filter_cons] at ih ⊢
      by_cases replaced : first.leaseId = updated.leaseId
      · have gone : ¬(first.leaseId ≠ lease.leaseId) := fun other => other (replaced.trans sameId)
        rw [if_pos replaced, decide_eq_false ended, if_neg Bool.false_ne_true, ih]
        by_cases active : first.status = .active
        · rw [if_pos (decide_eq_true active), List.filter_cons_of_neg (by simpa using gone)]
        · rw [if_neg (by simpa using active)]
      · have kept : first.leaseId ≠ lease.leaseId := fun same => replaced (same.trans sameId.symm)
        rw [if_neg replaced]
        by_cases active : first.status = .active
        · rw [if_pos (decide_eq_true active), if_pos (decide_eq_true active),
            List.filter_cons_of_pos (by simpa using kept), ih]
        · rw [if_neg (by simpa using active), if_neg (by simpa using active), ih]

theorem registryValid_released {rt : Runtime}
    {request : ReleaseRequest} (valid : RegistryValid rt registry)
    (releasable : Releasable registry request lease) :
    RegistryValid rt (withUpdated rt registry request.observedMainSha
      (lease.releasedBy request)) := by
  obtain ⟨holds, _⟩ := activeLease_eq_ok releasable.found
  have own := valid.leases lease holds.mem
  have sameId : (lease.releasedBy request).leaseId = lease.leaseId := rfl
  have remaining : activeLeases (replaceLease registry.leases (lease.releasedBy request)) =
      (activeLeases registry.leases).filter fun other => other.leaseId ≠ lease.leaseId :=
    activeLeases_replaceLease sameId (by simp [Lease.releasedBy])
  have releasedValid : LeaseValid (lease.releasedBy request) := by
    obtain ⟨claimed, heartbeat, expires, times⟩ := own.times
    refine ⟨own.leaseId, own.generation, own.issueId, own.roadmapId, own.workerId, own.branch,
      own.baseSha, own.resources, ?_, claimed, heartbeat, expires, times.claimedAt,
      times.heartbeatAt, times.expiresAt, times.claimedFirst, times.expiresLater, ?_⟩
    · have stated := strip_ne_empty_of_isSafeRef releasable.reference
      simp [statusFindings, Lease.releasedBy, isStated, stated]
    · intro _
      exact ⟨request.now, request.now, rfl, rfl,
        releasable.renewed heartbeat times.heartbeatAt, le_refl _⟩
  refine ⟨valid.schemaRef, valid.schemaVersion, valid.repository, ?_, releasable.mainSha,
    valid.ceiling, ?_, ?_, ?_, ?_, ?_, ?_, rfl⟩
  · have revision := valid.revision
    simp only [withUpdated, Registry.signed]
    omega
  · simpa [withUpdated, Registry.signed, replaceLease] using valid.retained
  · intro other inside
    rcases mem_replaceLease inside with rfl | old
    · exact releasedValid
    · exact valid.leases other old
  · simp only [withUpdated, Registry.signed]
    rw [map_replaceLease _ sameId holds.only rfl]
    exact valid.distinctIds
  · simp only [withUpdated, Registry.signed]
    rw [map_replaceLease _ sameId holds.only rfl]
    exact valid.distinctGenerations
  · have bound := valid.withinCeiling
    have fewer := List.length_filter_le (fun other : Lease => other.leaseId ≠ lease.leaseId)
      (activeLeases registry.leases)
    simp only [withUpdated, Registry.signed, remaining]
    omega
  · simp only [withUpdated, Registry.signed, remaining]
    exact valid.disjoint.filter _

theorem releaseRegistryLease_eq_ok_iff {rt : Runtime}
    {request : ReleaseRequest} (valid : RegistryValid rt registry) :
    releaseRegistryLease rt registry request = .ok after ↔
      ∃ lease, Releasable registry request lease ∧
        after = withUpdated rt registry request.observedMainSha (lease.releasedBy request) := by
  simp only [releaseRegistryLease, bind_ok_iff, require_eq_ok_iff, requireValid_eq_ok_iff,
    exists_const]
  constructor
  · rintro ⟨_, revision, reconciled, reference, mainSha, lease, found, owner, released, built⟩
    cases built
    refine ⟨lease, ⟨revision, reconciled, reference, mainSha, found, owner, ?_⟩, rfl⟩
    intro heartbeat parsed
    obtain ⟨holds, _⟩ := activeLease_eq_ok found
    have mem : lease.releasedBy request ∈ replaceLease registry.leases (lease.releasedBy request) :=
      List.mem_map.mpr ⟨lease, holds.mem, if_pos rfl⟩
    obtain ⟨_, renewed, _, times⟩ := (released.leases _ mem).times
    obtain ⟨instant, _, released_eq, _, later, _⟩ := times.releasedLast rfl
    have same : renewed = heartbeat := Option.some.inj (times.heartbeatAt.symm.trans parsed)
    have now : request.now = instant := Option.some.inj released_eq
    omega
  · rintro ⟨lease, releasable, rfl⟩
    exact ⟨valid, releasable.revision, releasable.reconciled, releasable.reference,
      releasable.mainSha, lease, releasable.found, releasable.owner,
      registryValid_released valid releasable, rfl⟩

/-! ## The main SHA of each lease -/

/-- A registry with the main SHA every lease id was last acquired under. -/
structure Traced where
  registry : Registry
  acquiredUnder : String → String

/-- The ids a call adds, with the main SHA it observed. -/
def acquiredBy (rt : Runtime) (registry : Registry) (acquiredUnder : String → String) :
    RegistryCall → String → String
  | .acquire request =>
      match acquireRegistryLease rt registry request with
      | .ok acquired =>
          Function.update acquiredUnder acquired.2.leaseId request.observedMainSha
      | .error _ => acquiredUnder
  | .heartbeat _ => acquiredUnder
  | .release _ => acquiredUnder

/-- One call, with its trace. -/
def tracedAfter (rt : Runtime) (traced : Traced) (call : RegistryCall) : Traced where
  registry := registryAfter rt traced.registry call
  acquiredUnder := acquiredBy rt traced.registry traced.acquiredUnder call

/-- Every ACTIVE lease was acquired under the main SHA the registry holds. -/
def Bound (traced : Traced) : Prop :=
  ∀ lease ∈ activeLeases traced.registry.leases,
    traced.registry.observedMainSha = traced.acquiredUnder lease.leaseId

/-- A release that goes through while another lease is ACTIVE observes the main
SHA the registry holds. -/
def ReleasesInPlace (traced : Traced) : RegistryCall → Prop
  | .release request =>
      ∀ lease, Releasable traced.registry request lease →
        ∀ other ∈ activeLeases traced.registry.leases, other.leaseId ≠ lease.leaseId →
          request.observedMainSha = traced.registry.observedMainSha
  | .acquire _ => True
  | .heartbeat _ => True

/-- A heartbeat of the lease by its owner, of the revision it read. -/
structure HeartbeatOf (registry : Registry) (lease : Lease) (request : HeartbeatRequest) : Prop where
  leaseId : request.leaseId = lease.leaseId
  revision : request.expectedRevision = registry.revision
  owner : request.workerId = lease.workerId

/-- An acquire whose arguments are in order, of the revision it read. -/
structure AcquireOf (registry : Registry) (request : AcquireRequest) : Prop where
  revision : request.expectedRevision = registry.revision
  mainSha : Text.isSha40 request.observedMainSha = true
  baseSha : Text.isSha40 request.baseSha = true
  ceiling : request.policyMaxParallelWriters = registry.maxParallelWriters
  resources : ∃ canonical, requireCanonical request.resources = .ok canonical

/-- What an ACTIVE lease makes of a main SHA other than its own: no heartbeat of
the lease and no acquire returns, and those in order otherwise fail for it. -/
structure RefusesDrift (rt : Runtime) (traced : Traced) (lease : Lease) : Prop where
  heartbeat : ∀ request, request.leaseId = lease.leaseId →
    request.observedMainSha ≠ traced.acquiredUnder lease.leaseId →
    (∀ after, heartbeatRegistryLease rt traced.registry request ≠ .ok after) ∧
      (HeartbeatOf traced.registry lease request →
        heartbeatRegistryLease rt traced.registry request =
          .error (.code "LEASE_RECONCILIATION_REQUIRED"))
  acquire : ∀ request, request.observedMainSha ≠ traced.acquiredUnder lease.leaseId →
    (∀ after, acquireRegistryLease rt traced.registry request ≠ .ok after) ∧
      (AcquireOf traced.registry request →
        acquireRegistryLease rt traced.registry request =
          .error (.code "LEASE_RECONCILIATION_REQUIRED"))

/-- While a lease is ACTIVE the registry holds the main SHA it was acquired
under, and another one is refused. -/
structure MainLaw (rt : Runtime) (traced : Traced) : Prop where
  bound : Bound traced
  refuses : ∀ lease ∈ activeLeases traced.registry.leases, RefusesDrift rt traced lease

theorem main_of_prepareAcquire {rt : Runtime}
    {request : AcquireRequest} {acquired : Registry × Lease}
    (prepared : prepareAcquire rt registry request = .ok acquired) :
    registry.observedMainSha ≠ request.observedMainSha → activeLeases registry.leases = [] := by
  simp only [prepareAcquire, bind_ok_iff, require_eq_ok_iff, exists_const] at prepared
  obtain ⟨_, _, _, _, _, _, _, _, main, _⟩ := prepared
  exact main

theorem prepared_of_acquire {rt : Runtime} {request : AcquireRequest} {acquired : Registry × Lease}
    (ran : acquireRegistryLease rt registry request = .ok acquired) :
    prepareAcquire rt registry request = .ok acquired := by
  simp only [acquireRegistryLease, bind_ok_iff] at ran
  obtain ⟨prepared, ready, _, _, same⟩ := ran
  cases same
  exact ready

theorem prepared_of_heartbeat {rt : Runtime} {request : HeartbeatRequest}
    (ran : heartbeatRegistryLease rt registry request = .ok after) :
    prepareHeartbeat rt registry request = .ok after := by
  simp only [heartbeatRegistryLease, bind_ok_iff] at ran
  obtain ⟨prepared, ready, _, _, same⟩ := ran
  cases same
  exact ready

theorem main_of_prepareHeartbeat {rt : Runtime} {request : HeartbeatRequest}
    (prepared : prepareHeartbeat rt registry request = .ok after) :
    registry.observedMainSha = request.observedMainSha := by
  simp only [prepareHeartbeat, bind_ok_iff, require_eq_ok_iff, exists_const] at prepared
  obtain ⟨_, _, _, _, _, _, main, _⟩ := prepared
  exact main

theorem requireValid_eq_ok {rt : Runtime} {code : String}
    (valid : RegistryValid rt registry) : requireValid rt code registry = .ok () :=
  requireValid_eq_ok_iff.mpr valid

theorem filter_eq_singleton {leases : List Lease}
    (distinct : (leases.map Lease.leaseId).Nodup) (mem : lease ∈ leases) :
    (leases.filter fun other => other.leaseId = lease.leaseId) = [lease] := by
  induction leases with
  | nil => cases mem
  | cons first rest ih =>
      obtain ⟨fresh, restDistinct⟩ := List.nodup_cons.mp distinct
      rcases List.mem_cons.mp mem with rfl | later
      · rw [List.filter_cons_of_pos (by simp), List.filter_eq_nil_iff.mpr]
        intro other inside same
        exact fresh (List.mem_map.mpr ⟨other, inside, by simpa using same⟩)
      · rw [List.filter_cons_of_neg, ih restDistinct later]
        intro same
        have first_eq : first.leaseId = lease.leaseId := by simpa using same
        exact fresh (first_eq ▸ List.mem_map_of_mem later)

theorem activeLease_of_mem {rt : Runtime}
    (valid : RegistryValid rt registry) (inside : lease ∈ activeLeases registry.leases) :
    activeLease registry lease.leaseId = .ok lease := by
  obtain ⟨mem, active⟩ := mem_of_mem_activeLeases inside
  rw [activeLease, filter_eq_singleton valid.distinctIds mem]
  exact if_pos active

theorem refusesDrift_of_bound {rt : Runtime} {traced : Traced}
    (valid : RegistryValid rt traced.registry) (bound : Bound traced)
    (inside : lease ∈ activeLeases traced.registry.leases) : RefusesDrift rt traced lease where
  heartbeat request _ drifted := by
    have other : traced.registry.observedMainSha ≠ request.observedMainSha :=
      fun same => drifted (same.symm.trans (bound lease inside))
    constructor
    · intro after ran
      exact other (main_of_prepareHeartbeat (prepared_of_heartbeat ran))
    · rintro ⟨leaseId, revision, owner⟩
      have found : activeLease traced.registry request.leaseId = .ok lease :=
        leaseId ▸ activeLease_of_mem valid inside
      rw [heartbeatRegistryLease, prepareHeartbeat, requireValid_eq_ok valid, ok_bind,
        require_bind_of revision.symm, found, ok_bind, require_bind_of owner.symm,
        require_bind_of_not other]
      rfl
  acquire request drifted := by
    have other : traced.registry.observedMainSha ≠ request.observedMainSha :=
      fun same => drifted (same.symm.trans (bound lease inside))
    have held : ¬(traced.registry.observedMainSha ≠ request.observedMainSha →
        activeLeases traced.registry.leases = []) := by
      intro none_active
      rw [none_active other] at inside
      cases inside
    constructor
    · intro after ran
      exact held (main_of_prepareAcquire (prepared_of_acquire ran))
    · rintro ⟨revision, mainSha, baseSha, ceiling, canonical, required⟩
      have bounds := valid.ceiling
      rw [← ceiling] at bounds
      rw [acquireRegistryLease, prepareAcquire, requireValid_eq_ok valid, ok_bind,
        require_bind_of revision.symm, require_bind_of ⟨mainSha, baseSha⟩,
        require_bind_of ceiling.symm, require_bind_of bounds, required,
        raiseCode_eq_ok_iff.mpr rfl, ok_bind, require_bind_of_not held]
      rfl

/-! ## Runs -/

section Step

variable {rt : Runtime} {traced : Traced}

theorem bound_of_raised {call : RegistryCall} {raised : Raised} (bound : Bound traced)
    (failed : registryStep rt traced.registry call = .error raised) :
    Bound (tracedAfter rt traced call) := by
  have registry_eq : registryAfter rt traced.registry call = traced.registry := by
    rw [registryAfter, failed]
  have trace_eq : acquiredBy rt traced.registry traced.acquiredUnder call =
      traced.acquiredUnder := by
    cases call with
    | acquire request =>
        cases acquired : acquireRegistryLease rt traced.registry request with
        | error other => simp only [acquiredBy, acquired]
        | ok pair => simp [registryStep, acquired, Except.map] at failed
    | heartbeat request => rfl
    | release request => rfl
  intro lease inside
  simp only [tracedAfter, registry_eq, trace_eq] at inside ⊢
  exact bound lease inside

theorem bound_of_acquire {request : AcquireRequest} {acquired : Registry × Lease}
    (bound : Bound traced) (ran : acquireRegistryLease rt traced.registry request = .ok acquired) :
    Bound (tracedAfter rt traced (.acquire request)) := by
  have prepared := prepared_of_acquire ran
  obtain ⟨canonical, ttl, acquirable, lease_eq, registry_eq⟩ := prepareAcquire_eq_ok prepared
  have after_eq : registryAfter rt traced.registry (.acquire request) = acquired.1 := by
    simp only [registryAfter, registryStep, ran, Except.map]
  intro lease inside
  simp only [tracedAfter, after_eq, acquiredBy, ran] at inside ⊢
  rw [registry_eq]
  obtain ⟨mem, active⟩ := mem_of_mem_activeLeases inside
  rw [(acquireRegistryLease_eq_ok ran).1, List.mem_append, List.mem_singleton] at mem
  rcases mem with old | rfl
  · have held : lease ∈ activeLeases traced.registry.leases :=
      List.mem_filter.mpr ⟨old, decide_eq_true active⟩
    have other : lease.leaseId ≠ acquired.2.leaseId := by
      rw [lease_eq]
      exact acquirable.unused lease old
    rw [Function.update_of_ne other, ← bound lease held]
    by_contra moved
    have none_active := main_of_prepareAcquire prepared fun same => moved same.symm
    rw [none_active] at held
    cases held
  · rw [Function.update_self]
    rfl

theorem bound_of_heartbeat {request : HeartbeatRequest} {after : Registry} (bound : Bound traced)
    (ran : heartbeatRegistryLease rt traced.registry request = .ok after) :
    Bound (tracedAfter rt traced (.heartbeat request)) := by
  have prepared := prepared_of_heartbeat ran
  have main := main_of_prepareHeartbeat prepared
  obtain ⟨_, _, held, ttl, holds, _, _, after_eq⟩ := prepareHeartbeat_eq_ok prepared
  have registry_eq : registryAfter rt traced.registry (.heartbeat request) = after := by
    simp only [registryAfter, registryStep, ran]
  intro lease inside
  simp only [tracedAfter, registry_eq, acquiredBy] at inside ⊢
  rw [after_eq] at inside ⊢
  obtain ⟨mem, active⟩ := mem_of_mem_activeLeases inside
  have main_eq : (withUpdated rt traced.registry request.observedMainSha
      { held with
        heartbeatAt := .at request.now
        expiresAt := .at (request.now + ttl * minute) }).observedMainSha =
      traced.registry.observedMainSha := main.symm
  rw [main_eq]
  rcases mem_replaceLease mem with rfl | old
  · exact bound held (List.mem_filter.mpr ⟨holds.mem, decide_eq_true holds.active⟩)
  · exact bound lease (List.mem_filter.mpr ⟨old, decide_eq_true active⟩)

theorem bound_release_iff {request : ReleaseRequest} {lease : Lease}
    (valid : RegistryValid rt traced.registry) (bound : Bound traced)
    (releasable : Releasable traced.registry request lease) :
    Bound (tracedAfter rt traced (.release request)) ↔
      ∀ other ∈ activeLeases traced.registry.leases, other.leaseId ≠ lease.leaseId →
        request.observedMainSha = traced.registry.observedMainSha := by
  have ran := (releaseRegistryLease_eq_ok_iff valid).mpr ⟨lease, releasable, rfl⟩
  have registry_eq : registryAfter rt traced.registry (.release request) =
      withUpdated rt traced.registry request.observedMainSha (lease.releasedBy request) := by
    simp only [registryAfter, registryStep, ran]
  have remaining : activeLeases (replaceLease traced.registry.leases (lease.releasedBy request)) =
      (activeLeases traced.registry.leases).filter fun other => other.leaseId ≠ lease.leaseId :=
    activeLeases_replaceLease rfl (by simp [Lease.releasedBy])
  have bound_eq : Bound (tracedAfter rt traced (.release request)) ↔
      ∀ other ∈ (activeLeases traced.registry.leases).filter
        fun other => other.leaseId ≠ lease.leaseId,
        request.observedMainSha = traced.acquiredUnder other.leaseId := by
    rw [← remaining]
    simp only [Bound, tracedAfter, registry_eq, acquiredBy, withUpdated, Registry.signed]
  rw [bound_eq]
  constructor
  · intro unmoved other inside different
    rw [bound other inside]
    exact unmoved other (List.mem_filter.mpr ⟨inside, decide_eq_true different⟩)
  · intro unmoved other inside
    obtain ⟨held, different⟩ := List.mem_filter.mp inside
    rw [← bound other held]
    exact unmoved other held (of_decide_eq_true different)

theorem bound_tracedAfter_iff {call : RegistryCall} (valid : RegistryValid rt traced.registry)
    (bound : Bound traced) : Bound (tracedAfter rt traced call) ↔ ReleasesInPlace traced call := by
  cases call with
  | acquire request =>
      refine iff_of_true ?_ trivial
      cases acquired : acquireRegistryLease rt traced.registry request with
      | error raised =>
          exact bound_of_raised bound (by rw [registryStep, acquired, Except.map])
      | ok pair => exact bound_of_acquire bound acquired
  | heartbeat request =>
      refine iff_of_true ?_ trivial
      cases ran : heartbeatRegistryLease rt traced.registry request with
      | error raised => exact bound_of_raised bound ran
      | ok after => exact bound_of_heartbeat bound ran
  | release request =>
      cases ran : releaseRegistryLease rt traced.registry request with
      | error raised =>
          refine iff_of_true (bound_of_raised bound ran) ?_
          intro lease releasable
          have goes := (releaseRegistryLease_eq_ok_iff valid).mpr ⟨lease, releasable, rfl⟩
          rw [ran] at goes
          cases goes
      | ok after =>
          obtain ⟨lease, releasable, _⟩ := (releaseRegistryLease_eq_ok_iff valid).mp ran
          rw [bound_release_iff valid bound releasable]
          constructor
          · intro unmoved other otherReleasable
            have same : lease = other :=
              Except.ok.inj (releasable.found.symm.trans otherReleasable.found)
            rwa [← same]
          · intro inPlace
            exact inPlace lease releasable

end Step

theorem mainLaw_of_bound {rt : Runtime} {traced : Traced}
    (reachable : Reachable rt traced.registry) (bound : Bound traced) : MainLaw rt traced where
  bound := bound
  refuses _ inside := refusesDrift_of_bound reachable.valid bound inside

/-- The registry over any sequence of calls from an empty one: every state
keeps each ACTIVE lease to the main SHA it was acquired under, and refuses
another, exactly when every release that leaves a lease ACTIVE observes the
main SHA the registry holds. -/
theorem mainDrift_run (rt : Runtime) (repository mainSha : String) (ceiling : Int)
    (start : Registry) (acquiredUnder : String → String) (calls : List RegistryCall)
    (created : emptyLeaseRegistry rt repository mainSha ceiling = .ok start) :
    Always (tracedAfter rt) (MainLaw rt) ⟨start, acquiredUnder⟩ calls ↔
      Along (tracedAfter rt) ReleasesInPlace ⟨start, acquiredUnder⟩ calls := by
  have reachable := reachable_emptyLeaseRegistry created
  have bound : Bound ⟨start, acquiredUnder⟩ := by
    simp only [emptyLeaseRegistry, bind_ok_iff] at created
    obtain ⟨_, _, _, _, _, _, start_eq⟩ := created
    cases start_eq
    intro lease inside
    cases inside
  clear created
  generalize start_eq : (⟨start, acquiredUnder⟩ : Traced) = traced at bound
  have reached : Reachable rt traced.registry := start_eq ▸ reachable
  clear start_eq reachable
  induction calls generalizing traced with
  | nil => exact iff_of_true (mainLaw_of_bound reached bound) trivial
  | cons call rest ih =>
      have later : Reachable rt (tracedAfter rt traced call).registry :=
        reachable_registryAfter call reached
      have step : Bound (tracedAfter rt traced call) ↔ ReleasesInPlace traced call :=
        bound_tracedAfter_iff reached.valid bound
      constructor
      · rintro ⟨_, after⟩
        have stillBound : Bound (tracedAfter rt traced call) := by
          cases rest with
          | nil => exact MainLaw.bound after
          | cons next more => exact MainLaw.bound after.1
        exact ⟨step.mp stillBound, (ih _ stillBound later).mp after⟩
      · rintro ⟨inPlace, along⟩
        have stillBound := step.mpr inPlace
        exact ⟨mainLaw_of_bound reached bound, (ih _ stillBound later).mpr along⟩

theorem mainDrift_run_fixedCalls :
    Always (tracedAfter fixedRuntime) (MainLaw fixedRuntime) ⟨fixedRegistry, fun _ => ""⟩ fixedCalls ↔
      Along (tracedAfter fixedRuntime) ReleasesInPlace ⟨fixedRegistry, fun _ => ""⟩ fixedCalls :=
  mainDrift_run fixedRuntime "owner/name" fixedSha 1 fixedRegistry (fun _ => "") fixedCalls
    (by decide +kernel)

/-! ## A second writer releases under a new main -/

def movedSha : String :=
  "1111111111111111111111111111111111111111"

def pairRegistry : Registry :=
  { fixedRegistry with maxParallelWriters := 2 }

def firstAcquire : AcquireRequest :=
  { fixedAcquire with policyMaxParallelWriters := 2 }

def secondAcquire : AcquireRequest :=
  { firstAcquire with
    expectedRevision := 1, issueId := "2", roadmapId := "ORCH-2", branch := "adwf/two"
    resources := resourcesJson [⟨.source, "docs", false, false⟩]
    uuid := "00000000-0000-4000-8000-000000000001" }

/-- Two writers acquire under one main; the second is released under another. -/
def driftingCalls : List RegistryCall :=
  [.acquire firstAcquire, .acquire secondAcquire, .release
      { expectedRevision := 2, leaseId := secondAcquire.uuid, workerId := "worker"
        observedMainSha := movedSha, providerReconciled := true
        providerReconciliationRef := "ref", now := minute }]

/-- The first writer's heartbeat under the new main. -/
def driftedHeartbeat : HeartbeatRequest where
  expectedRevision := 3
  leaseId := firstAcquire.uuid
  workerId := "worker"
  observedMainSha := movedSha
  now := 2 * minute

theorem not_renewed_of_mainLaw {rt : Runtime} {traced : Traced} {request : HeartbeatRequest}
    (law : MainLaw rt traced)
    (renewed : ∃ lease ∈ activeLeases traced.registry.leases, request.leaseId = lease.leaseId ∧
      request.observedMainSha ≠ traced.acquiredUnder lease.leaseId ∧
      (heartbeatRegistryLease rt traced.registry request).isOk = true) : False := by
  obtain ⟨lease, inside, same, moved, ran⟩ := renewed
  have refused := ((law.refuses lease inside).heartbeat request same moved).1
  cases result : heartbeatRegistryLease rt traced.registry request with
  | error raised => simp [result, Except.isOk, Except.toBool] at ran
  | ok after => exact refused after result

/-- After the release the first writer's lease is ACTIVE, was acquired under the
old main, and its heartbeat under the new one returns. -/
theorem not_mainLaw_driftingCalls :
    emptyLeaseRegistry fixedRuntime "owner/name" fixedSha 2 = .ok pairRegistry ∧
      ¬ Always (tracedAfter fixedRuntime) (MainLaw fixedRuntime) ⟨pairRegistry, fun _ => ""⟩
        driftingCalls :=
  ⟨by decide +kernel, fun always =>
    @not_renewed_of_mainLaw _ _ driftedHeartbeat (Always.final always) (by decide +kernel)⟩

end Adwf.LeaseRegistry
