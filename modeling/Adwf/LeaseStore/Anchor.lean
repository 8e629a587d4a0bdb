import Mathlib.Algebra.Ring.Nat
import Adwf.LeaseRegistry.Operations
import Adwf.Program.Core

/-!
# Lease anchors

Every revision of the lease registry is one event, kept as the message of an
annotated tag.  The tag is named after the revision and its event links to the
tag object of the revision before.
-/

namespace Adwf.LeaseStore

open Adwf.Fallible Adwf.LeaseRegistry

variable (rt : Runtime)
variable (registry : Registry)

/-- What the store raises: a `ValueError`, a provider exception, or the failed
assertion after the loop of `read`. -/
inductive StoreError where
  | value (raised : Raised)
  | provider (text : String)
  | assertion
  deriving DecidableEq, Repr

/-- A computation of the store without provider calls. -/
abbrev Checked (α : Type) := Except StoreError α

def valueError (code : String) : StoreError :=
  .value (.code code)

/-- A registry operation inside the store. -/
def raiseValue {α : Type} (result : LeaseRegistry.Result α) : Checked α :=
  result.mapError StoreError.value

/-! ## Tag names -/

def leaseAnchorPrefix : String :=
  "adwf-runtime-anchor-lease-v1-"

/-- `LEASE_ANCHOR_ROLE`. -/
def leaseAnchorRole : String :=
  "ADWF_ORCH_LEASE_REGISTRY_V1"

/-- The last `width` decimal digits of a number. -/
def decimalDigits : Nat → Nat → List Char
  | 0, _ => []
  | width + 1, number => decimalDigits width (number / 10) ++ [Char.ofNat (48 + number % 10)]

def decimalValue (digits : List Char) : Nat :=
  digits.foldl (fun value digit => 10 * value + (digit.toNat - 48)) 0

/-- The name of the tag of a revision. -/
def anchorTag (revision : Nat) : String :=
  leaseAnchorPrefix ++ String.ofList (decimalDigits 9 revision)

/-- `_tag_name`. -/
def tagName (revision : Int) : Checked String := do
  require (1 ≤ revision ∧ revision ≤ 999999999) (valueError "LEASE_PROVIDER_REVISION_INVALID")
  return anchorTag revision.toNat

/-- `_TAG_RE`: the revision in a tag name. -/
def tagRevision (name : String) : Option Int :=
  let digits := name.toList.drop leaseAnchorPrefix.length
  if Text.startsWith name leaseAnchorPrefix && digits.length = 9 && digits.all Text.isDigit then
    some (decimalValue digits)
  else none

theorem digit_toNat {digit : Nat} (small : digit < 10) :
    (Char.ofNat (48 + digit)).toNat = 48 + digit ∧ Text.isDigit (Char.ofNat (48 + digit)) = true := by
  have all : ∀ digit < 10, (Char.ofNat (48 + digit)).toNat = 48 + digit ∧
      Text.isDigit (Char.ofNat (48 + digit)) = true := by decide
  exact all digit small

theorem length_decimalDigits (width number : Nat) : (decimalDigits width number).length = width := by
  induction width generalizing number with
  | zero => rfl
  | succ width ih => simp [decimalDigits, ih]

theorem isDigit_decimalDigits (width number : Nat) :
    (decimalDigits width number).all Text.isDigit = true := by
  induction width generalizing number with
  | zero => rfl
  | succ width ih =>
      rw [decimalDigits, List.all_append, ih, Bool.true_and, List.all_cons, List.all_nil,
        Bool.and_true]
      exact (digit_toNat (Nat.mod_lt _ (by decide))).2

theorem decimalValue_decimalDigits (width number : Nat) :
    decimalValue (decimalDigits width number) = number % 10 ^ width := by
  induction width generalizing number with
  | zero => simp [decimalDigits, decimalValue, Nat.mod_one]
  | succ width ih =>
      have digit := (digit_toNat (Nat.mod_lt number (by decide : 0 < 10))).1
      have rest := ih (number / 10)
      rw [decimalValue] at rest
      rw [decimalDigits, decimalValue, List.foldl_append, rest, List.foldl_cons, List.foldl_nil,
        digit, Nat.pow_succ', Nat.mod_mul]
      omega

theorem tagRevision_anchorTag {revision : Nat} (bounded : revision ≤ 999999999) :
    tagRevision (anchorTag revision) = some (revision : Int) := by
  have chars : (anchorTag revision).toList =
      leaseAnchorPrefix.toList ++ decimalDigits 9 revision := by
    simp [anchorTag]
  have dropped : (anchorTag revision).toList.drop leaseAnchorPrefix.length =
      decimalDigits 9 revision := by
    rw [chars]
    exact List.drop_left' String.length_toList
  have starts : Text.startsWith (anchorTag revision) leaseAnchorPrefix = true := by
    rw [Text.startsWith, chars]
    simp
  simp only [tagRevision, dropped, starts, length_decimalDigits, isDigit_decimalDigits,
    decimalValue_decimalDigits, decide_true, Bool.and_self, if_true, Option.some.injEq]
  omega

/-! ## Events -/

/-- The event of one revision. -/
structure AnchorEvent where
  schemaVersion : Int
  role : String
  revision : Int
  previousTagObjectSha : Option String
  registry : Registry
  eventDigest : String
  deriving DecidableEq

def registryJson : Json :=
  .obj [("$schema", .str registry.schemaRef), ("integrity_digest", .str registry.integrityDigest),
    ("leases", .arr (registry.leases.map Lease.toJson)),
    ("max_parallel_writers", .num registry.maxParallelWriters),
    ("observed_main_sha", .str registry.observedMainSha),
    ("repository", .str registry.repository), ("revision", .num registry.revision),
    ("schema_version", .num registry.schemaVersion)]

/-- `_event_digest`. -/
def eventDigestOf (event : AnchorEvent) : String :=
  rt.digest (.obj [("previous_tag_object_sha", Json.ofText event.previousTagObjectSha),
    ("registry", registryJson event.registry), ("revision", .num event.revision),
    ("role", .str event.role), ("schema_version", .num event.schemaVersion)])

/-- The event of a registry and the anchor before it. -/
def eventOf (previous : Option String) : AnchorEvent :=
  let event : AnchorEvent :=
    { schemaVersion := 1, role := leaseAnchorRole, revision := registry.revision
      previousTagObjectSha := previous, registry, eventDigest := "" }
  { event with eventDigest := eventDigestOf rt event }

def requireState : Checked Unit :=
  require (validateLeaseRegistry rt registry = [])
    (.value (.listing "LEASE_PROVIDER_STATE_INVALID" (validateLeaseRegistry rt registry)))

/-- `_build_event`. -/
def buildEvent (previous : Option String) :
    Checked AnchorEvent := do
  requireState rt registry
  require (1 ≤ registry.revision) (valueError "LEASE_PROVIDER_REVISION_INVALID")
  require (∀ sha, previous = some sha → Text.isSha40 sha = true)
    (valueError "LEASE_PROVIDER_PREVIOUS_ANCHOR_INVALID")
  return eventOf rt registry previous

/-- The message of a tag: the canonical text of an event, another text of the
same document, a document that is not an event, or a text that is not JSON. -/
inductive AnchorMessage where
  | canonical (event : AnchorEvent)
  | uncanonical (event : AnchorEvent)
  | notAnEvent
  | notJson
  deriving DecidableEq

/-- The checks of `_parse_event` on the members of an event. -/
def requireEvent (event : AnchorEvent) : Checked Unit := do
  require (event.schemaVersion = 1 ∧ event.role = leaseAnchorRole)
    (valueError "LEASE_PROVIDER_EVENT_IDENTITY_INVALID")
  require (1 ≤ event.revision) (valueError "LEASE_PROVIDER_EVENT_REVISION_INVALID")
  require (∀ sha, event.previousTagObjectSha = some sha → Text.isSha40 sha = true)
    (valueError "LEASE_PROVIDER_EVENT_PREVIOUS_INVALID")
  require (Text.isSha256 event.eventDigest = true ∧
      event.eventDigest = eventDigestOf rt event)
    (valueError "LEASE_PROVIDER_EVENT_INTEGRITY")
  requireState rt event.registry
  require (event.registry.revision = event.revision)
    (valueError "LEASE_PROVIDER_EVENT_REGISTRY_REVISION_MISMATCH")

/-- `_parse_event`. -/
def parseEvent : AnchorMessage → Checked AnchorEvent
  | .canonical event => do
      requireEvent rt event
      return event
  | .uncanonical event => do
      requireEvent rt event
      throw (valueError "LEASE_PROVIDER_EVENT_NOT_CANONICAL")
  | .notAnEvent => throw (valueError "LEASE_PROVIDER_EVENT_FIELDS_INVALID")
  | .notJson => throw (valueError "LEASE_PROVIDER_EVENT_JSON_INVALID")

end Adwf.LeaseStore
