import Adwf.LeaseRegistry.Invariant

/-!
# A lease over the operations

No operation removes a lease or changes what it claims, and only a release of
its own id takes an ACTIVE lease out of that status.
-/

namespace Adwf.LeaseRegistry

open Adwf.Fallible

/-- What no operation changes of a lease: only its times and its release differ. -/
structure Continues (lease found : Lease) : Prop where
  leaseId : found.leaseId = lease.leaseId
  generation : found.generation = lease.generation
  workerId : found.workerId = lease.workerId
  baseSha : found.baseSha = lease.baseSha
  claims : claimsOf found = claimsOf lease
  claimedAt : found.claimedAt = lease.claimedAt

theorem Continues.refl (lease : Lease) : Continues lease lease :=
  ⟨rfl, rfl, rfl, rfl, rfl, rfl⟩

theorem Continues.trans {first second third : Lease} (left : Continues first second)
    (right : Continues second third) : Continues first third where
  leaseId := right.leaseId.trans left.leaseId
  generation := right.generation.trans left.generation
  workerId := right.workerId.trans left.workerId
  baseSha := right.baseSha.trans left.baseSha
  claims := right.claims.trans left.claims
  claimedAt := right.claimedAt.trans left.claimedAt

/-- The call releases the lease. -/
def Releases (leaseId : String) : RegistryCall → Prop
  | .release request => request.leaseId = leaseId
  | .acquire _ => False
  | .heartbeat _ => False

theorem continues_replaceLease {leases : List Lease} {lease updated other : Lease}
    (continues : Continues lease updated)
    (only : ∀ other ∈ leases, other.leaseId = lease.leaseId → other = lease)
    (inside : other ∈ leases) : ∃ found ∈ replaceLease leases updated, Continues other found ∧
      (other = lease ∧ found = updated ∨ found = other) := by
  by_cases replaced : other.leaseId = updated.leaseId
  · have other_eq := only other inside (replaced.trans continues.leaseId)
    subst other_eq
    refine ⟨updated, ?_, continues, Or.inl ⟨rfl, rfl⟩⟩
    exact List.mem_map.mpr ⟨other, inside, if_pos replaced⟩
  · refine ⟨other, ?_, Continues.refl other, Or.inr rfl⟩
    exact List.mem_map.mpr ⟨other, inside, if_neg replaced⟩

theorem acquireRegistryLease_eq_ok {rt : Runtime} {registry : Registry}
    {request : AcquireRequest} {acquired : Registry × Lease}
    (ran : acquireRegistryLease rt registry request = .ok acquired) :
    acquired.1.leases = registry.leases ++ [acquired.2] ∧ acquired.2.status = .active := by
  simp only [acquireRegistryLease, bind_ok_iff, requireValid_eq_ok_iff, exists_const] at ran
  obtain ⟨prepared, ready, _, same⟩ := ran
  cases same
  obtain ⟨canonical, ttl, _, lease_eq, registry_eq⟩ := prepareAcquire_eq_ok ready
  constructor
  · rw [registry_eq]
    rfl
  · rw [lease_eq]
    rfl

theorem continues_of_registryStep {rt : Runtime} {registry after : Registry}
    {call : RegistryCall} {lease : Lease}
    (ran : registryStep rt registry call = .ok after) (inside : lease ∈ registry.leases) :
    ∃ found ∈ after.leases, Continues lease found ∧
      (lease.status = .active → found.status = .active ∨ Releases lease.leaseId call) := by
  cases call with
  | acquire request =>
      cases acquired : acquireRegistryLease rt registry request with
      | error raised => simp [registryStep, acquired, Except.map] at ran
      | ok pair =>
          simp only [registryStep, acquired, Except.map, Except.ok.injEq] at ran
          rw [← ran, (acquireRegistryLease_eq_ok acquired).1]
          exact ⟨lease, List.mem_append_left _ inside, Continues.refl lease, Or.inl⟩
  | heartbeat request =>
      simp only [registryStep, heartbeatRegistryLease, bind_ok_iff, requireValid_eq_ok_iff,
        exists_const] at ran
      obtain ⟨renewed, prepared, _, same⟩ := ran
      cases same
      obtain ⟨_, _, held, ttl, holds, _, _, rfl⟩ := prepareHeartbeat_eq_ok prepared
      have renewal : Continues held { held with
          heartbeatAt := .at request.now, expiresAt := .at (request.now + ttl * minute) } :=
        ⟨rfl, rfl, rfl, rfl, rfl, rfl⟩
      obtain ⟨found, foundMem, continues, cases⟩ :=
        continues_replaceLease renewal holds.only inside
      refine ⟨found, foundMem, continues, fun active => Or.inl ?_⟩
      rcases cases with ⟨_, rfl⟩ | rfl
      · exact holds.active
      · exact active
  | release request =>
      obtain ⟨_, held, holds, released, rfl⟩ := releaseRegistryLease_eq_ok ran
      have ended : Continues held (held.releasedBy request) := ⟨rfl, rfl, rfl, rfl, rfl, rfl⟩
      obtain ⟨found, foundMem, continues, cases⟩ := continues_replaceLease ended holds.only inside
      refine ⟨found, foundMem, continues, fun active => ?_⟩
      rcases cases with ⟨rfl, _⟩ | rfl
      · exact Or.inr released.symm
      · exact Or.inl active

end Adwf.LeaseRegistry
