import Mathlib.Data.List.Infix
import Adwf.LeaseRegistry.Persistence
import Adwf.LeaseStore.Client

/-!
# The chain of anchors

`Linked` says what the stored refs must form: revision after revision, each the
result of one registry operation on the one before, and each linked to the tag
object before.  It ties every revision to the operation that wrote it.
-/

namespace Adwf.LeaseStore

open Adwf.Fallible Adwf.LeaseRegistry

/-- A stored tag ref, with the operation that created it. -/
structure Ref (Client : Type) where
  tag : String
  sha : String
  writer : Client

def Ref.row {Client : Type} (ref : Ref Client) : RefRow :=
  ⟨ref.tag, ref.sha⟩

/-- The tag objects by SHA. -/
abbrev Objects := String → Option TagObject

/-- Every object stays what it is. -/
def Objects.Extends (objects later : Objects) : Prop :=
  ∀ sha object, objects sha = some object → later sha = some object

/-- The registry call an operation makes on the registry it read. -/
def Operation.call : Operation → Registry → Option RegistryCall
  | .read _, _ => none
  | .acquire arguments, state => some (.acquire (arguments.request state))
  | .heartbeat arguments, state => some (.heartbeat (arguments.request state))
  | .release arguments, state => some (.release (arguments.request state))

/-- The operation is a release of the lease. -/
def Operation.ReleaseOf (leaseId : String) : Operation → Prop
  | .release arguments => arguments.leaseId = leaseId
  | .read _ => False
  | .acquire _ => False
  | .heartbeat _ => False

theorem releaseOf_of_call {operation : Operation} {state : Registry} {call : RegistryCall}
    {leaseId : String} (made : operation.call state = some call)
    (releases : Releases leaseId call) : operation.ReleaseOf leaseId := by
  cases operation with
  | read binding => cases made
  | acquire arguments =>
      cases made
      exact releases.elim
  | heartbeat arguments =>
      cases made
      exact releases.elim
  | release arguments =>
      cases made
      exact releases

section Chain

variable {Client : Type} (rt : Runtime) (repo : String) (operations : Client → Operation)

/-- The tag object of a revision. -/
def anchorObject (sha : String) (state : Registry) (previous : Option String) : TagObject where
  sha := sha
  tag := anchorTag state.revision.toNat
  targetSha := state.observedMainSha
  targetType := "commit"
  message := some (.canonical (eventOf rt state previous))

/-- The refs form a chain that starts at an empty registry and ends with
`state` and the anchor `previous`. -/
inductive Linked (objects : Objects) : List (Ref Client) → Registry → Option String → Prop
  | start {mainSha : String} {ceiling : Int} {empty : Registry} :
      emptyLeaseRegistry rt repo mainSha ceiling = .ok empty →
      Linked objects [] empty none
  | extend {refs : List (Ref Client)} {ref : Ref Client} {state after : Registry}
      {previous : Option String} {call : RegistryCall} :
      Linked objects refs state previous →
      (operations ref.writer).call state = some call →
      registryStep rt state call = .ok after →
      after.revision ≤ 999999999 →
      ref.tag = anchorTag after.revision.toNat →
      objects ref.sha = some (anchorObject rt ref.sha after previous) →
      Linked objects (refs ++ [ref]) after (some ref.sha)

variable {rt repo operations}
variable {objects : Objects} {refs front rest : List (Ref Client)} {ref : Ref Client}
variable {state after : Registry} {previous last : Option String}

theorem Linked.mono {later : Objects} (extends_ : objects.Extends later)
    (linked : Linked rt repo operations objects refs state previous) :
    Linked rt repo operations later refs state previous := by
  induction linked with
  | start created => exact Linked.start created
  | extend _ made ran bounded named stored ih =>
      exact Linked.extend ih made ran bounded named (extends_ _ _ stored)

theorem Linked.concat (linked : Linked rt repo operations objects (refs ++ [ref]) after last) :
    ∃ state previous call, Linked rt repo operations objects refs state previous ∧
      (operations ref.writer).call state = some call ∧
      registryStep rt state call = .ok after ∧ after.revision ≤ 999999999 ∧
      ref.tag = anchorTag after.revision.toNat ∧
      objects ref.sha = some (anchorObject rt ref.sha after previous) ∧ last = some ref.sha := by
  generalize whole : refs ++ [ref] = all at linked
  cases linked with
  | start created => simp at whole
  | extend linked made ran bounded named stored =>
      obtain ⟨rfl, same⟩ := List.append_inj' whole rfl
      cases same
      exact ⟨_, _, _, linked, made, ran, bounded, named, stored, rfl⟩

theorem Linked.revision (linked : Linked rt repo operations objects refs state previous) :
    state.revision = refs.length := by
  induction linked with
  | start created =>
      simp only [emptyLeaseRegistry, bind_ok_iff, require_eq_ok_iff, exists_const] at created
      obtain ⟨_, _, _, same⟩ := created
      cases same
      rfl
  | extend _ _ ran _ _ _ ih =>
      have raised := (succeeds_of_registryStep ran).revision
      rw [List.length_append, List.length_singleton]
      omega

theorem Linked.initial (linked : Linked rt repo operations objects (front ++ rest) after last) :
    ∃ state previous, Linked rt repo operations objects front state previous := by
  induction rest using List.reverseRecOn generalizing after last with
  | nil =>
      rw [List.append_nil] at linked
      exact ⟨after, last, linked⟩
  | append_singleton rest ref ih =>
      rw [← List.append_assoc] at linked
      obtain ⟨state, previous, _, linked, _⟩ := linked.concat
      exact ih linked

/-- The ref at each place is named after its revision. -/
theorem Linked.tag {index : Nat} (linked : Linked rt repo operations objects refs state previous)
    (found : refs[index]? = some ref) :
    ref.tag = anchorTag (index + 1) ∧ index + 1 ≤ 999999999 := by
  obtain ⟨inside, same⟩ := List.getElem?_eq_some_iff.mp found
  have split := (List.take_append_drop (index + 1) refs).symm
  rw [List.take_succ_eq_append_getElem inside, same] at split
  rw [split] at linked
  obtain ⟨after, last, upTo⟩ := linked.initial
  have revision := upTo.revision
  obtain ⟨_, _, _, _, _, _, bounded, named, _⟩ := upTo.concat
  rw [List.length_append, List.length_take, List.length_singleton] at revision
  have place : after.revision.toNat = index + 1 := by omega
  rw [named, place]
  exact ⟨rfl, by omega⟩

theorem Linked.unique {other : Registry} {otherLast : Option String} (nonempty : refs ≠ [])
    (linked : Linked rt repo operations objects refs state previous)
    (otherLinked : Linked rt repo operations objects refs other otherLast) :
    other = state ∧ otherLast = previous := by
  obtain ⟨init, ref, rfl⟩ : ∃ init ref, refs = init ++ [ref] :=
    ⟨refs.dropLast, refs.getLast nonempty, (List.dropLast_append_getLast nonempty).symm⟩
  obtain ⟨_, _, _, _, _, _, _, _, stored, last_eq⟩ := linked.concat
  obtain ⟨_, _, _, _, _, _, _, _, otherStored, otherLast_eq⟩ := otherLinked.concat
  rw [stored] at otherStored
  simp only [anchorObject, eventOf, Option.some.injEq, TagObject.mk.injEq,
    AnchorMessage.canonical.injEq, AnchorEvent.mk.injEq] at otherStored
  obtain ⟨-, -, -, -, -, -, -, -, registry_eq, -⟩ := otherStored
  exact ⟨registry_eq.symm, otherLast_eq.trans last_eq.symm⟩

theorem Linked.continues {lease : Lease}
    (linked : Linked rt repo operations objects front state previous)
    (later : Linked rt repo operations objects (front ++ rest) after last)
    (inside : lease ∈ state.leases) (active : lease.status = .active) :
    ∃ found ∈ after.leases, Continues lease found ∧ (found.status = .active ∨
        ∃ ref ∈ rest, (operations ref.writer).ReleaseOf lease.leaseId) := by
  induction rest using List.reverseRecOn generalizing after last with
  | nil =>
      have nonempty : front ≠ [] := by
        rintro rfl
        generalize whole : ([] : List (Ref Client)) = none_ at linked
        cases linked with
        | start created =>
            simp only [emptyLeaseRegistry, bind_ok_iff, require_eq_ok_iff,
              exists_const] at created
            obtain ⟨_, _, _, same⟩ := created
            cases same
            cases inside
        | extend => simp at whole
      rw [List.append_nil] at later
      obtain ⟨rfl, rfl⟩ := linked.unique nonempty later
      exact ⟨lease, inside, Continues.refl lease, Or.inl active⟩
  | append_singleton rest ref ih =>
      rw [← List.append_assoc] at later
      obtain ⟨middle, _, call, upTo, made, ran, _⟩ := later.concat
      obtain ⟨found, foundMem, continues, status⟩ := ih upTo
      obtain ⟨next, nextMem, nextContinues, nextStatus⟩ :=
        continues_of_registryStep ran foundMem
      refine ⟨next, nextMem, continues.trans nextContinues, ?_⟩
      rcases status with foundActive | ⟨released, releasedMem, releaseOf⟩
      · rcases nextStatus foundActive with stillActive | releases
        · exact Or.inl stillActive
        · rw [continues.leaseId] at releases
          exact Or.inr ⟨ref, by simp, releaseOf_of_call made releases⟩
      · exact Or.inr ⟨released, List.mem_append_left _ releasedMem, releaseOf⟩

end Chain

end Adwf.LeaseStore
