import Adwf.JsonText.Characters
import Adwf.Run.Guarded
import Adwf.Value.Text

/-!
# Incident records

`normalize_incident` turns a message into the record the store keeps: its texts
are sanitized, its members take their defaults, and a fingerprint names the
failure.
-/

namespace Adwf.Incidents

open Fallible JsonText

variable (tools : Tools)

/-- The regular expressions of the module and the parts of the standard library
it reads texts with. -/
structure Tools where
  floats : Floats
  /-- `sanitize_text`: the text and the codes of what was redacted. -/
  sanitizeText : String → String × List String
  /-- `_stable_text` of the text of a value. -/
  stableText : String → String
  /-- `_SENSITIVE_KEY.search`. -/
  isSensitiveKey : String → Bool
  /-- One of the three searches for secrets in the serialized record. -/
  leaks : List Char → Bool
  /-- `str.upper`. -/
  upper : String → String
  /-- `str` of a value that is not a text. -/
  textOf : Value → String
  /-- SHA-256 of a text, in hexadecimal. -/
  digest : List Char → String
  digest_hex : ∀ text, Text.isSha256 (digest text) = true

/-- `digest`. -/
def Tools.digestOf (value : Value) : String :=
  tools.digest (canonicalText value)

/-- `bool(value)`. -/
def Tools.truthy : Value → Bool
  | .null => false
  | .bool value => value
  | .int value => value ≠ 0
  | .float token => tools.floats.value token ≠ some 0
  | .str text => text ≠ ""
  | .list items => !items.isEmpty
  | .dict fields => !fields.isEmpty

/-- `value or default`. -/
def Tools.either (value default : Value) : Value :=
  if tools.truthy value then value else default

/-- `str(value)`. -/
def Tools.text (tools : Tools) : Value → String
  | .str text => text
  | value => tools.textOf value

/-! ## Sanitization -/

/-- A redaction and the path of the value it was made in. -/
structure Finding where
  path : String
  code : String

mutual

/-- `sanitize_value`. -/
def sanitizeValue (tools : Tools) (path : String) : Value → Value × List Finding
  | .dict fields =>
      let (cleaned, findings) := sanitizeMembers tools path fields
      (.dict cleaned, findings)
  | .list items =>
      let (cleaned, findings) := sanitizeItems tools path 0 items
      (.list cleaned, findings)
  | .str text =>
      let (cleaned, codes) := tools.sanitizeText text
      (.str cleaned, codes.map fun code => { path, code })
  | value => (value, [])

def sanitizeMembers (tools : Tools) (path : String) : Members → Members × List Finding
  | [] => ([], [])
  | (key, value) :: fields =>
      let childPath := path ++ "." ++ key
      let (cleaned, findings) :=
        if tools.isSensitiveKey key then
          (.str "[REDACTED]", [{ path := childPath, code := "SENSITIVE_FIELD" }])
        else sanitizeValue tools childPath value
      let (others, more) := sanitizeMembers tools path fields
      ((key, cleaned) :: others, findings ++ more)

def sanitizeItems (tools : Tools) (path : String) (index : Nat) :
    List Value → List Value × List Finding
  | [] => ([], [])
  | item :: items =>
      let (cleaned, findings) := sanitizeValue tools (path ++ "[" ++ toString index ++ "]") item
      let (others, more) := sanitizeItems tools path (index + 1) items
      (cleaned :: others, findings ++ more)

end

/-! ## Fingerprints -/

/-- `_stable_text`. -/
def Tools.stable (value : Value) : String :=
  tools.stableText (tools.text (tools.either value (.str "")))

/-- `value if isinstance(value, int) else None`. -/
def intOrNull : Value → Value
  | .int value => .int value
  | .bool value => .bool value
  | _ => .null

/-- A list, or the list of the value. -/
def asFrames : Value → List Value
  | .list items => items
  | value => [value]

/-- The components of a fingerprint. -/
def components (failure : Members) : Value :=
  let unknown : Value := .str "UNKNOWN"
  let frames := asFrames (tools.either (Value.get failure "stable_frames")
    (tools.either (Value.get failure "frames") (.list [])))
  let stable := fun value => Value.str (tools.stable value)
  .dict
    [("exit_code", intOrNull (Value.get failure "exit_code")),
      ("failure_class", stable (tools.either (Value.get failure "failure_class")
        (tools.either (Value.get failure "class") unknown))),
      ("stable_frames", .list
        (((frames.take 20).filter fun item => tools.stable item ≠ "").map stable)),
      ("stage", stable (tools.either (Value.get failure "stage") unknown)),
      ("symptom", stable (tools.either (Value.get failure "symptom")
        (tools.either (Value.get failure "message") unknown))),
      ("tool", stable (tools.either (Value.get failure "tool") unknown))]

/-- The hash of `stable_fingerprint`. -/
def fingerprintHash (failure : Members) : String :=
  tools.digestOf (components tools failure)

/-- `stable_fingerprint`. -/
def stableFingerprint (failure : Members) : Value :=
  .dict
    [("algorithm", .str "sha256-v1"), ("components", components tools failure),
      ("hash", .str (fingerprintHash tools failure))]

/-! ## Records -/

/-- `INCIDENT_STATUSES`. -/
def incidentStatuses : List String :=
  ["DETECTED", "SANITIZED", "NORMALIZED", "CLASSIFIED", "RETRYING", "RECOVERED",
    "RECIPE_SELECTED", "SANDBOX_APPLIED", "VERIFIED", "PR_PROPOSED", "OBSERVED", "INVESTIGATING",
    "CANDIDATE_FIX", "SHADOW_EVALUATION", "HUMAN_REQUIRED", "ESCALATED", "CLOSED", "ROLLED_BACK"]

/-- `SEVERITIES`. -/
def severities : List String :=
  ["SEV0", "SEV1", "SEV2", "SEV3", "SEV4"]

/-- `INC-[0-9]{8}-[0-9a-f]{12}(?:-[0-9]+)?`. -/
def isIncidentId (text : String) : Bool :=
  match text.toList.splitOn '-' with
  | ['I', 'N', 'C'] :: day :: name :: more =>
      (day.length = 8 && day.all Text.isDigit) &&
        (name.length = 12 && name.all Text.isLowerHex) &&
        (match more with
          | [] => true
          | [number] => Text.nonemptyOf Text.isDigit number
          | _ => false)
  | _ => false

/-- A character of the ISO text of an instant. -/
def isIsoChar (char : Char) : Bool :=
  Text.isDigit char || ['-', ':', 'T', 'Z', '.', '+'].contains char

/-- The text `_iso` makes of the clock. -/
structure Clock where
  text : String
  iso : text.toList.all isIsoChar = true

/-- `value if isinstance(value, dict) else {}`. -/
def dictOrEmpty : Value → Value
  | .dict fields => .dict fields
  | _ => .dict []

/-- `value if isinstance(value, list) else []`. -/
def listOrEmpty : Value → Value
  | .list items => .list items
  | _ => .list []

/-- `dict.setdefault(key, value)`. -/
def setDefault (fields : Members) (key : String) (value : Value) : Members :=
  if (fields.lookup key).isSome then fields else Value.insert key value fields

/-- The `classification` member. -/
def classification : Value → Value
  | .dict supplied =>
      let name := fun key default =>
        Value.str (tools.upper (Text.strip (tools.text (tools.either (Value.get supplied key)
          (.str default)))))
      .dict
        [("confidence", name "confidence" "NOT_VERIFIED"),
          ("evidence", listOrEmpty (Value.get supplied "evidence")), ("type", name "type" "UNKNOWN")]
  | _ =>
      .dict [("confidence", .str "NOT_VERIFIED"), ("evidence", .list []), ("type", .str "UNKNOWN")]

/-- The `redaction` member. -/
def redaction (findings : List Finding) : Value :=
  let codes := (findings.map Finding.code).dedup.insertionSort (· ≤ ·)
  .dict
    [("finding_codes", .list (codes.map Value.str)), ("findings_count", .int findings.length),
      ("status", .str "SANITIZED")]

/-- `incident_id` of a record that names none. -/
def defaultIncidentId (clock : Clock) (hash : String) : String :=
  "INC-" ++ String.ofList ((clock.text.toList.take 10).filter (· ≠ '-')) ++ "-" ++
    String.ofList (hash.toList.take 12)

/-- The record of cleaned members. -/
def incidentRecord (clock : Clock) (cleaned : Members) (findings : List Finding)
    (status severity ownerSummary symptom incidentId : String) (failure : Members) : Members :=
  let mem := Value.get cleaned
  let observedAt : Value := .str clock.text
  [("attempts", listOrEmpty (mem "attempts")),
    ("classification", classification tools (mem "classification")),
    ("cost_usage", .dict [("ai_api_used", .bool false), ("monetary_cost", .int 0)]),
    ("detected_at", tools.either (mem "detected_at") observedAt),
    ("environment", dictOrEmpty (mem "environment")),
    ("fingerprint", stableFingerprint tools failure),
    ("impact", dictOrEmpty (mem "impact")),
    ("incident_id", .str incidentId),
    ("occurred_at", tools.either (mem "occurred_at") observedAt),
    ("owner_summary_ru", .str ownerSummary),
    ("provenance", dictOrEmpty (mem "provenance")),
    ("redaction", redaction findings),
    ("resolved_at", mem "resolved_at"),
    ("schema_version", .int 1),
    ("severity", .str severity),
    ("source", dictOrEmpty (mem "source")),
    ("status", .str status),
    ("subject", dictOrEmpty (mem "subject")),
    ("symptom_original", .str symptom)]

/-- `normalize_incident`. -/
def normalizeIncident (raw : Members) (clock : Clock) : Except String Members := do
  let (cleaned, findings) := sanitizeMembers tools "$" raw
  let severity := tools.upper (tools.text ((cleaned.lookup "severity").getD (.str "SEV3")))
  require (severity ∈ severities) "INCIDENT_SEVERITY_INVALID"
  let status := tools.upper (tools.text ((cleaned.lookup "status").getD (.str "NORMALIZED")))
  require (status ∈ incidentStatuses) "INCIDENT_STATUS_INVALID"
  let ownerSummary := Text.strip (tools.text (tools.either (Value.get cleaned "owner_summary_ru")
    (.str "Обнаружена проблема; влияние уточняется.")))
  let symptom := Text.strip (tools.text (tools.either (Value.get cleaned "symptom_original")
    (tools.either (Value.get cleaned "symptom") (.str "Неизвестный симптом"))))
  require (10 ≤ ownerSummary.length ∧ 3 ≤ symptom.length) "INCIDENT_HUMAN_CONTEXT_MISSING"
  let failure := setDefault (((Value.get cleaned "failure").asDict).getD []) "symptom" (.str symptom)
  let hash := fingerprintHash tools failure
  let incidentId := tools.text (tools.either (Value.get cleaned "incident_id")
    (.str (defaultIncidentId clock hash)))
  require (isIncidentId incidentId = true) "INCIDENT_ID_INVALID"
  let record :=
    incidentRecord tools clock cleaned findings status severity ownerSummary symptom incidentId
      failure
  require (tools.leaks (canonicalText (.dict record)) = false) "INCIDENT_SANITIZATION_FAILED"
  return record

end Adwf.Incidents

/-!
## The incident store

The store is a text with one event per line.  Every event carries its number,
the hash of the event before it and its own hash; a repeated failure is
recorded as an occurrence of the first one.
-/

namespace Adwf.Incidents

open Fallible JsonText

/-- `ZERO_HASH`. -/
def zeroHash : String :=
  String.ofList (List.replicate 64 '0')

/-! ## Reading -/

/-- `strict_loads` of one line, which must be an object. -/
def readEvent (tools : Tools) (line : List Char) : Except String Members :=
  match loads tools.floats line with
  | .error .decode => .error "INCIDENT_STORE_INVALID_JSON"
  | .error (.duplicateKey key) => .error ("DUPLICATE_JSON_KEY:" ++ key)
  | .ok (.dict event) => .ok event
  | .ok _ => .error "INCIDENT_STORE_EVENT_NOT_OBJECT"

/-- The event without its hash. -/
def unsigned (event : Members) : Members :=
  event.filter fun mem => mem.1 ≠ "event_hash"

/-- The checks of `_decode_events` on the event with a number after a hash. -/
def checkEvent (tools : Tools) (verifyChain : Bool) (previous : String) (number : Nat)
    (event : Members) : Except String Unit := do
  require ((Value.get event "sequence").equalsInt tools.floats number = true)
    "INCIDENT_STORE_SEQUENCE_BROKEN"
  require (verifyChain = true → (Value.get event "previous_hash").asText = some previous)
    "INCIDENT_STORE_CHAIN_BROKEN"
  require (verifyChain = true →
    (Value.get event "event_hash").asText = some (tools.digestOf (.dict (unsigned event))))
    "INCIDENT_STORE_HASH_INVALID"

/-- The loop of `_decode_events`. -/
def decodeFrom (tools : Tools) (verifyChain : Bool) :
    String → Nat → List (List Char) → Except String (List Members)
  | _, _, [] => .ok []
  | previous, number, line :: lines =>
      if line.all Text.isSpace then decodeFrom tools verifyChain previous number lines
      else do
        let event ← readEvent tools line
        checkEvent tools verifyChain previous (number + 1) event
        let events ← decodeFrom tools verifyChain
          (tools.text (Value.get event "event_hash")) (number + 1) lines
        return event :: events

/-- `_decode_events` of the lines of a text. -/
def decodeEvents (tools : Tools) (verifyChain : Bool) (text : List Char) :
    Except String (List Members) :=
  decodeFrom tools verifyChain zeroHash 0 (Lines.splitText text)

/-- The file of the store: its text, or nothing. -/
abbrev Store :=
  Option (List Char)

/-- The hash of the last event. -/
def tailHash (events : List Members) : Value :=
  match events.getLast? with
  | some event => Value.get event "event_hash"
  | none => .str zeroHash

/-- `read_incident_events`. -/
def readIncidentEvents (tools : Tools) (store : Store) (verifyChain : Bool)
    (expectedTailHash : Option String) (expectedSequence : Option Nat) :
    Except String (List Members) :=
  match store with
  | none => do
      require (expectedTailHash ∈ [none, some zeroHash] ∧ expectedSequence ∈ [none, some 0])
        "INCIDENT_STORE_ANCHOR_MISMATCH"
      return []
  | some text => do
      let events ← decodeEvents tools verifyChain text
      require (∀ expected ∈ expectedTailHash, (tailHash events).asText = some expected)
        "INCIDENT_STORE_TAIL_MISMATCH"
      require (∀ expected ∈ expectedSequence, events.length = expected)
        "INCIDENT_STORE_LENGTH_MISMATCH"
      return events

/-! ## Recording -/

/-- `_find_original`. -/
def findOriginal (hash : String) : List Members → Except String (Option Members)
  | [] => .ok none
  | event :: events =>
      match (Value.get event "event_type").asText, (Value.get event "incident").asDict with
      | some "INCIDENT_RECORDED", some record =>
          match (record.lookup "fingerprint").getD (.dict []) with
          | .dict fingerprint =>
              if (Value.get fingerprint "hash").asText = some hash then .ok (some record)
              else findOriginal hash events
          | _ => .error "AttributeError"
      | _, _ => findOriginal hash events

/-- What an event tells: an incident, or one more occurrence. -/
inductive Body where
  | incident (record : Members)
  | duplicate (observation : Members)

def Body.eventType : Body → String
  | incident _ => "INCIDENT_RECORDED"
  | duplicate _ => "DUPLICATE_OBSERVED"

/-- The number with at least eight digits. -/
def padded (number : Nat) : String :=
  let digits := Nat.toDigits 10 number
  String.ofList (List.replicate (8 - digits.length) '0' ++ digits)

/-- The members of an event, with its hash once it has one. -/
def eventMembers (signature : Option String) (number : Nat) (hash observedAt : String)
    (previousHash incidentId : Value) (body : Body) : Members :=
  (match body with
    | .duplicate observation => [("duplicate_observation", Value.dict observation)]
    | .incident _ => []) ++
  (match signature with
    | some signature => [("event_hash", Value.str signature)]
    | none => []) ++
  [("event_id", .str ("IEV-" ++ padded number ++ "-" ++ String.ofList (hash.toList.take 12))),
    ("event_type", .str body.eventType),
    ("fingerprint_hash", .str hash)] ++
  (match body with
    | .incident record => [("incident", Value.dict record)]
    | .duplicate _ => []) ++
  [("incident_id", incidentId), ("observed_at", .str observedAt), ("previous_hash", previousHash),
    ("schema_version", .int 1), ("sequence", .int number)]

/-- The observation of a repeated failure. -/
def observation (record : Members) : Members :=
  ["owner_summary_ru", "severity", "source", "subject"].map fun name =>
    (name, Value.get record name)

/-- `record["fingerprint"]["hash"]`. -/
def recordHash (record : Members) : String :=
  (Value.get (((Value.get record "fingerprint").asDict).getD []) "hash").asText.getD ""

/-- `build` of `record_incident`. -/
def buildEvent (tools : Tools) (record : Members) (clock : Clock) (events : List Members) :
    Except String Members := do
  let hash := recordHash record
  let previousHash := tailHash events
  let original ← findOriginal hash events
  require (original = none → ∀ event ∈ events,
    (Value.get event "incident_id").asText ≠ (Value.get record "incident_id").asText)
    "INCIDENT_ID_COLLISION"
  let incidentId := Value.get (original.getD record) "incident_id"
  let body := if original.isSome then Body.duplicate (observation record) else .incident record
  let members := fun signature =>
    eventMembers signature (events.length + 1) hash clock.text previousHash incidentId body
  return members (some (tools.digestOf (.dict (members none))))

/-- `_decode_events` of the store, when there is one. -/
def storedEvents (tools : Tools) : Store → Except String (List Members)
  | some text => decodeEvents tools true text
  | none => .ok []

/-- `_append_locked`: the event and the text of the store with it. -/
def appendLocked (tools : Tools) (store : Store)
    (build : List Members → Except String Members) : Except String (Members × List Char) := do
  let events ← storedEvents tools store
  let event ← build events
  return (event, store.getD [] ++ canonicalText (.dict event) ++ ['\n'])

/-- A message, the clock at its arrival, and whether the store is a symbolic link. -/
structure Call (tools : Tools) where
  raw : Members
  clock : Clock
  symlink : Bool := false
  wellFormed : Value.WellFormed tools.floats (.dict raw)

/-- `record_incident`, with the event it appends. -/
def recordIncident (tools : Tools) (store : Store) (call : Call tools) :
    Except String (Members × List Char) := do
  let record ← normalizeIncident tools call.raw call.clock
  require (call.symlink = false) "INCIDENT_STORE_SYMLINK_FORBIDDEN"
  appendLocked tools store (buildEvent tools record call.clock)

/-- The store, and the events recorded so far. -/
structure Recorded where
  store : Store := none
  events : List Members := []

/-- One call; a call that raises changes nothing. -/
def record (tools : Tools) (state : Recorded) (call : Call tools) : Recorded :=
  match recordIncident tools state.store call with
  | .ok (event, text) => { store := some text, events := state.events ++ [event] }
  | .error _ => state

end Adwf.Incidents
