import Adwf.Value.Fallible
import Adwf.Value.Json
import Adwf.Value.Text

/-!
# Ledger events

A checkpoint of a run is the public projection of its journal.  It travels as one
event of the runtime ledger, which numbers the events and chains them by their
hashes and by the provider objects that carry them.
-/

namespace Adwf.RuntimeLedger

open Adwf.Fallible Json

/-! ## Members of objects -/

/-- `fields[key] = value` on an object with sorted keys. -/
def put (key : String) (value : Json) : Fields → Fields
  | [] => [(key, value)]
  | (name, other) :: rest =>
      if name < key then (name, other) :: put key value rest
      else if name = key then (key, value) :: rest
      else (key, value) :: (name, other) :: rest

theorem lookup_cons (name key : String) (value : Json) (fields : Fields) :
    List.lookup name ((key, value) :: fields) =
      if name = key then some value else fields.lookup name := by
  rw [List.lookup_cons]
  by_cases same : name = key
  · simp [same]
  · simp [same, beq_eq_false_iff_ne.mpr same]

theorem lookup_put (key name : String) (value : Json) (fields : Fields) :
    (put key value fields).lookup name = if name = key then some value else fields.lookup name := by
  induction fields with
  | nil => rw [put, lookup_cons]
  | cons field rest ih =>
      obtain ⟨first, other⟩ := field
      simp only [put]
      by_cases smaller : first < key
      · have different : first ≠ key := by
          rintro rfl
          exact String.lt_irrefl _ smaller
        rw [if_pos smaller, lookup_cons, lookup_cons, ih]
        by_cases named : name = first
        · rw [if_pos named, if_pos named, if_neg (named ▸ different)]
        · rw [if_neg named, if_neg named]
      · rw [if_neg smaller]
        by_cases same : first = key
        · rw [if_pos same, lookup_cons, lookup_cons, same]
          split_ifs
          · rfl
          · rfl
        · rw [if_neg same, lookup_cons]

@[simp]
theorem get_put (key name : String) (value : Json) (fields : Fields) :
    get (put key value fields) name = if name = key then value else get fields name := by
  unfold Json.get
  rw [lookup_put]
  split_ifs
  · rfl
  · rfl

/-- Removing a member undoes adding it. -/
theorem filter_put {keep : String × Json → Bool} {key : String} {value : Json} {fields : Fields}
    (dropped : ∀ other, keep (key, other) = false) :
    (put key value fields).filter keep = fields.filter keep := by
  induction fields with
  | nil => simp [put, dropped]
  | cons field rest ih =>
      obtain ⟨name, other⟩ := field
      simp only [put]
      split_ifs with smaller same
      · rw [List.filter_cons, List.filter_cons, ih]
      · rw [same, List.filter_cons_of_neg (by simp [dropped]),
          List.filter_cons_of_neg (by simp [dropped])]
      · rw [List.filter_cons_of_neg (by simp [dropped])]

/-- The members of `value or {}`. -/
def members (value : Json) : Except String Fields :=
  if value.truthy then
    match value with
    | .obj fields => .ok fields
    | _ => .error "AttributeError"
  else .ok []

/-- `value.get(key)` of a value that has been found to be an object. -/
def memberOf (value : Json) (key : String) : Json :=
  match value with
  | .obj fields => get fields key
  | _ => .null

def isText (value : Json) (text : String) : Bool :=
  value = .str text

section Checks

variable (rt : Runtime)

/-- `PHASES`. -/
def phaseNames : List String :=
  ["RECONCILE", "AUTHORIZE", "CLAIM", "WORKSPACE", "EXECUTE", "OPEN_PR", "CI", "REVIEW", "PREVIEW",
    "OWNER_ACCEPTANCE", "MERGE", "PROMOTE", "OBSERVE", "DONE", "CLEANUP", "NEXT", "RECOVERY"]

/-- `DELIVERY_STATE_PHASES`. -/
def deliveryPhaseNames : List String :=
  ["PROMOTE", "OBSERVE", "DONE", "CLEANUP", "NEXT"]

/-- `_event_hash`. -/
def journalEventHash (event : Fields) : String :=
  rt.digest (.obj (event.filter (·.1 ≠ "event_hash")))

/-- The event loop of `validate_journal`: the findings, and the hash the head must
equal. -/
def validateEvents (index : Nat) (previous : Json) :
    List Json → Except String (List String × Json)
  | [] => .ok ([], previous)
  | .obj event :: rest => do
      let later ← validateEvents (index + 1) (get event "event_hash") rest
      return ((if get event "sequence" ≠ .num (index + 1) then
          ["EVENT_SEQUENCE:" ++ toString index] else []) ++
        (if get event "previous_event_hash" ≠ previous then
          ["EVENT_CHAIN:" ++ toString index] else []) ++
        (if get event "event_hash" ≠ .str (journalEventHash rt event) then
          ["EVENT_HASH:" ++ toString index] else []) ++ later.1, later.2)
  | _ :: _ => .error "AttributeError"

/-- `validate_journal`. -/
def validateJournal (value : Fields) : Except String (List String) := do
  let budget ← rt.float ((value.lookup "monetary_budget_usd").getD (.num (-1)))
  let deliverySha := get value "delivery_sha"
  let findings :=
    (if get value "schema_version" ≠ .num 1 then ["SCHEMA_VERSION"] else []) ++
    (if (phaseNames.any (isText (get value "phase")) || isText (get value "status") "COMPLETE") = false
      then ["PHASE"] else []) ++
    (if budget ≠ 0 then ["MONETARY_BUDGET"] else [])
  match get value "events" with
  | .arr events => do
      let checked ← validateEvents rt 0 .null events
      return findings ++ checked.1 ++
        (if get value "event_head" ≠ checked.2 then ["EVENT_HEAD"] else []) ++
        (if deliverySha ≠ .null ∧ deliverySha.textSatisfies Text.isSha40 = false then
          ["DELIVERY_SHA"] else []) ++
        (if deliveryPhaseNames.any (isText (get value "phase")) then
          if deliverySha.textSatisfies Text.isSha40 = false then ["DELIVERY_SHA_REQUIRED"]
          else if get value "subject_sha" ≠ deliverySha then ["DELIVERY_SUBJECT_MISMATCH"]
          else []
        else [])
  | _ => return findings ++ ["EVENTS"]

/-! ## The public projection -/

/-- `SAFE_EVENT_METADATA`. -/
def safeEventMetadata : List String :=
  ["issue_id", "repository", "default_branch", "pull_request_number", "merge_sha",
    "attestation_id", "artifact_digest", "adapter", "not_applicable_reason",
    "owner_acceptance_exact", "provider_decision_id", "actor_login", "work_branch", "promotion",
    "observation", "production_verified", "cleanup", "queue_handled_by_owner_intent_service",
    "authorization_source", "lease_model", "workspace_mode", "run_id"]

/-- `SAFE_REASON`. -/
def isSafeReason (text : String) : Bool :=
  Text.fullmatch (fun char => Text.isUpper char || Text.isDigit char ||
    char ∈ ['_', ':', '.', '-']) 1 160 text

/-- The items of `value or []` whose text is a safe reason, as texts. -/
def safeReasons (value : Json) : Except String (List Json) := do
  let items ← value.toList
  return ((items.map rt.text).filter isSafeReason).map .str

def isScalar : Json → Bool
  | .arr _ | .obj _ => false
  | _ => true

/-- The members of a decision that become public. -/
def publicDecisionKeys : List String :=
  ["result", "reason_codes", "policy_hash", "decision_id"]

def isPublicField (mem : String × Json) : Bool :=
  mem.1 ∈ publicDecisionKeys

/-- A public member of a decision: of its reason codes only the safe ones. -/
def publicField (mem : String × Json) : Except String (String × Json) :=
  if mem.1 = "reason_codes" then do
    let safe ← safeReasons rt mem.2
    return (mem.1, .arr safe)
  else return mem

def publicMembers (decision : Fields) : Except String Fields :=
  (decision.filter isPublicField).mapM (publicField rt)

/-- `event["decision"]`; of a list or a text only `key in decision` is asked. -/
def publicDecision : Json → Except String Fields
  | .obj decision => publicMembers rt decision
  | .arr items =>
      if publicDecisionKeys.any fun key => items.contains (.str key) then .error "AttributeError"
      else .ok []
  | .str text =>
      if publicDecisionKeys.any fun key => Text.hasInfix key.toList text.toList then
        .error "AttributeError"
      else .ok []
  | value => if value.truthy then .error "TypeError" else .ok []

/-- The members of an event besides its reasons, its decision and its metadata that become
public. -/
def plainEventKeys : List String :=
  ["cost_usd", "event_id", "evidence_refs", "idempotency_key", "occurred_at", "outcome", "phase",
    "sequence", "subject_sha"]

/-- The metadata that becomes public. -/
def isPublicMetadata (mem : String × Json) : Bool :=
  mem.1 ∈ safeEventMetadata && isScalar mem.2

/-- The members of an event that become public, without its hash. -/
def publicEvent (previous : Json) (source : Fields) : Except String Fields := do
  let reasons ← safeReasons rt (get source "reason_codes")
  let decision ← publicDecision rt (get source "decision")
  let metadata ← members (get source "metadata")
  return [("cost_usd", get source "cost_usd"), ("decision", .obj decision),
    ("event_id", get source "event_id"), ("evidence_refs", get source "evidence_refs"),
    ("idempotency_key", get source "idempotency_key"),
    ("metadata", .obj (metadata.filter isPublicMetadata)),
    ("occurred_at", get source "occurred_at"), ("outcome", get source "outcome"),
    ("phase", get source "phase"), ("previous_event_hash", previous),
    ("reason_codes", .arr reasons), ("sequence", get source "sequence"),
    ("subject_sha", get source "subject_sha")]

/-- The public events with their hashes, and the last hash. -/
def publicEvents (previous : Json) : List Json → Except String (List Json × Json)
  | [] => .ok ([], previous)
  | .obj source :: rest => do
      let unsigned ← publicEvent rt previous source
      let hash := Json.str (rt.digest (.obj unsigned))
      let later ← publicEvents hash rest
      return (.obj (put "event_hash" hash unsigned) :: later.1, later.2)
  | _ :: _ => .error "AttributeError"

/-- `public_state_projection`. -/
def publicStateProjection (state : Fields) : Except String Fields := do
  let blockers ← safeReasons rt (get state "blockers")
  let sources ← (get state "events").toList
  let events ← publicEvents rt .null sources
  return put "event_head" events.2 (put "events" (.arr events.1)
    (put "blockers" (.arr blockers) state))

/-- The members of `public_memory_projection`. -/
def memoryKeys : List String :=
  ["brief_id", "memory_digest", "revision", "run_id", "schema_version", "status"]

/-- `public_memory_projection`. -/
def publicMemoryProjection : Option Json → Json
  | some (.obj memory) => .obj (memoryKeys.map fun key => (key, get memory key))
  | _ => .null

/-- `validate_checkpoint`, whatever it finds. -/
abbrev CheckpointCheck := Json → List String

/-- `str(value or '')`. -/
def textOrEmpty (value : Json) : String :=
  if value.truthy then rt.text value else ""

/-- `None if value is None else str(value)`. -/
def textOrNone (value : Json) : Option String :=
  if value = .null then none else some (rt.text value)

/-- `_checkpoint_state_binding_errors`. -/
def checkpointStateBindingErrors (checkpoint : Json) (state : Fields) : List String :=
  let work := memberOf checkpoint "work_identity"
  (if textOrEmpty rt (memberOf work "roadmap_id") ≠
      textOrEmpty rt (get state "roadmap_id") then
    ["REMOTE_SESSION_CONTINUITY_ROADMAP_BINDING"] else []) ++
  (if textOrNone rt (memberOf work "issue_id") ≠ textOrNone rt (get state "issue_id") then
    ["REMOTE_SESSION_CONTINUITY_ISSUE_BINDING"] else [])

variable (validateCheckpoint : CheckpointCheck)

/-- `_session_continuity_event_errors`. -/
def sessionContinuityEventErrors (event state : Fields) : List String :=
  match get event "session_continuity_projection" with
  | .null =>
      if ["session_continuity_digest", "session_continuity_id",
          "session_continuity_revision"].any fun key => (event.lookup key).isSome then
        ["REMOTE_SESSION_CONTINUITY_ORPHAN_BINDING"]
      else []
  | .obj checkpoint =>
      (validateCheckpoint (.obj checkpoint)).map ("REMOTE_SESSION_CONTINUITY_INVALID:" ++ ·) ++
      (if get event "session_continuity_digest" ≠ get checkpoint "checkpoint_digest" then
        ["REMOTE_SESSION_CONTINUITY_DIGEST_BINDING"] else []) ++
      (if get event "session_continuity_id" ≠ get checkpoint "checkpoint_id" then
        ["REMOTE_SESSION_CONTINUITY_ID_BINDING"] else []) ++
      (if get event "session_continuity_revision" ≠ get checkpoint "checkpoint_revision" then
        ["REMOTE_SESSION_CONTINUITY_REVISION_BINDING"] else []) ++
      checkpointStateBindingErrors rt (.obj checkpoint) state
  | _ => ["REMOTE_SESSION_CONTINUITY_NOT_OBJECT"]

/-- An event and the comment that carries it. -/
structure RemoteEvent where
  members : Fields
  providerObjectId : String
  providerCreatedAt : String
  providerActor : String
  deriving DecidableEq

/-- The hash an event must carry. -/
def remoteEventHash (event : Fields) : String :=
  rt.digest (.obj (event.filter fun mem => mem.1 ∉
    ["event_hash", "provider_object_id", "provider_created_at", "provider_actor"]))

/-- The findings of `verify_remote_events` on the state of one event. -/
def remoteStateErrors (label : String) (event : Fields) : Except String (List String) :=
  match get event "state" with
  | .obj state => do
      let findings ← validateJournal rt state
      return if findings ≠ [] then ["REMOTE_STATE_INVALID:" ++ label]
        else if get event "state_digest" ≠ .str (rt.digest (.obj state)) then
          ["REMOTE_STATE_DIGEST:" ++ label] else []
  | _ => .ok ["REMOTE_STATE_INVALID:" ++ label]

/-- The findings of `verify_remote_events` on one event. -/
def remoteEventErrors (index : Nat) (previous previousObject : Json) (event : RemoteEvent) :
    Except String (List String) := do
  let label := toString index
  let stateErrors ← remoteStateErrors rt label event.members
  let shown ← (get event.members "work_memory_projection").toList
  let state := match get event.members "state" with
    | .obj state => state
    | _ => []
  return (if get event.members "sequence" ≠ .num index then ["REMOTE_SEQUENCE:" ++ label] else []) ++
    (if get event.members "previous_hash" ≠ previous then ["REMOTE_CHAIN:" ++ label] else []) ++
    (if get event.members "previous_provider_object_id" ≠ previousObject then
      ["REMOTE_PROVIDER_ANCHOR_CHAIN:" ++ label] else []) ++
    (if get event.members "event_hash" ≠ .str (remoteEventHash rt event.members) then
      ["REMOTE_HASH:" ++ label] else []) ++
    stateErrors ++
    (if shown.all fun key => memoryKeys.any (isText key) then []
      else ["REMOTE_PRIVATE_MEMORY_LEAK:" ++ label]) ++
    (sessionContinuityEventErrors rt validateCheckpoint event.members state).map
      (· ++ ":" ++ label) ++
    (if event.providerObjectId = "" ∨ event.providerCreatedAt = "" ∨ event.providerActor = "" then
      ["REMOTE_PROVIDER_ANCHOR_MISSING:" ++ label] else [])

/-- `verify_remote_events`, from the event with number `index` on. -/
def verifyRemoteEvents (index : Nat) (previous previousObject : Json) :
    List RemoteEvent → Except String (List String)
  | [] => .ok []
  | event :: rest => do
      let errors ← remoteEventErrors rt validateCheckpoint index previous previousObject event
      let later ← verifyRemoteEvents (index + 1) (get event.members "event_hash")
        (.str event.providerObjectId) rest
      return errors ++ later

end Checks

end Adwf.RuntimeLedger
