import Adwf.LeaseStore.Client
import Adwf.RuntimeLedger.Event

/-!
# The runtime ledger client

`GitHubRuntimeStore` as programs over provider calls.  A root tag elects the one
ledger issue.  An append reads and verifies the events of that issue, adds a
comment with the next event, and then creates the tag that anchors it.
-/

namespace Adwf.RuntimeLedger

open Json
open LeaseStore (RefRow Ruleset verifyRuntimeAnchorRuleset decimalDigits leaseAnchorPrefix)

/-! ## Provider calls -/

/-- What a call raises: a `ValueError`, a `ProviderContractError`, or anything else. -/
inductive LedgerError where
  | value (text : String)
  | provider (text : String)
  | other (text : String)
  deriving DecidableEq, Repr

structure IssueRow where
  number : Nat
  title : String
  isOpen : Bool
  deriving DecidableEq

/-- The body of a comment: the object `_parse` finds in it, or any other text. -/
inductive Body where
  | event (members : Fields)
  | other
  deriving DecidableEq

structure Comment where
  id : String
  body : Body
  createdAt : String
  actor : String
  deriving DecidableEq

/-- The calls of `GitHubClient` the store makes.  The text of a tag message is the
object it parses to. -/
inductive Call where
  | issues
  | getIssue (number : Nat)
  | createIssue (title : String)
  | closeIssue (number : Nat)
  | issueComments (number : Nat)
  | addIssueComment (number : Nat) (body : Body)
  | rulesets
  | matchingTagRefs
  | tagRef (tag : String)
  | tagObject (sha : String)
  | repoInfo
  | branch (name : String)
  | createTagObject (tag sha : String) (message : Fields)
  | createTagRef (tag sha : String)

/-- What a successful call returns; the message of a tag is absent when it is not
the text of an object. -/
def Value : Call → Type
  | .issues => List IssueRow
  | .getIssue _ => IssueRow
  | .createIssue _ => IssueRow
  | .closeIssue _ => IssueRow
  | .issueComments _ => List Comment
  | .addIssueComment _ _ => Comment
  | .rulesets => List Ruleset
  | .matchingTagRefs => List RefRow
  | .tagRef _ => RefRow
  | .tagObject _ => Option Fields
  | .repoInfo => String
  | .branch _ => String
  | .createTagObject _ _ _ => String
  | .createTagRef _ _ => RefRow

abbrev Answer (call : Call) : Type :=
  Except LedgerError (Value call)

abbrev LedgerProgram (α : Type) :=
  Program Call Answer LedgerError α

def ask (call : Call) : LedgerProgram (Value call) :=
  Program.invoke call

/-- `raise ValueError(text)` unless the condition holds. -/
def ensure (condition : Prop) [Decidable condition] (text : String) : LedgerProgram PUnit :=
  Program.check condition (.value text)

def raise {α : Type} (text : String) : LedgerProgram α :=
  .fail (.value text)

/-- A computation without calls whose exceptions are built-in ones. -/
def computed {α : Type} (result : Except String α) : LedgerProgram α :=
  Program.ofExcept (result.mapError LedgerError.other)

/-! ## Names -/

def ledgerTitle : String :=
  "[ADWF] Runtime Ledger"

def anchorPrefix : String :=
  "adwf-runtime-anchor-"

def rootAnchor : String :=
  anchorPrefix ++ "ledger-root-v1"

def rootRole : String :=
  "ADWF_RUNTIME_LEDGER_ROOT_V1"

/-- `{sequence:06d}`. -/
def paddedSequence (sequence : Nat) : String :=
  if sequence < 10 ^ 6 then String.ofList (decimalDigits 6 sequence) else toString sequence

/-- The tag of an event with a number and a hash. -/
def tagOf (sequence : Nat) (hash : String) : String :=
  anchorPrefix ++ paddedSequence sequence ++ "-" ++ String.ofList (hash.toList.take 16)

section Client

variable (rt : Runtime)

/-- `_tag_name`. -/
def tagName (event : Fields) : Except String String :=
  match get event "sequence" with
  | .num number =>
      if 0 ≤ number then
        .ok (tagOf number.floor.toNat (rt.text (get event "event_hash")))
      else .error "ValueError"
  | _ => .error "TypeError"

/-! ## The ledger issue -/

/-- `_open_ledger_issues`. -/
def openLedgerIssues : LedgerProgram (List IssueRow) := do
  let rows : List IssueRow ← ask .issues
  return rows.filter fun row => row.title = ledgerTitle && row.isOpen

/-- `_optional_tag_ref`. -/
def optionalTagRef (tag : String) : LedgerProgram (Option RefRow) :=
  Program.handle (do
    let ref : RefRow ← ask (.tagRef tag)
    return some ref) fun error =>
      if error = .provider "PROVIDER_HTTP_404" then .done none else .fail error

/-- The text of the root tag. -/
def rootMessage (number : Nat) : Fields :=
  [("issue_number", .num number), ("role", .str rootRole), ("title", .str ledgerTitle)]

/-- The issue number a root tag binds. -/
def rootNumber (payload : Fields) : Option Nat :=
  match get payload "issue_number" with
  | .num number =>
      if get payload "role" = .str rootRole ∧ get payload "title" = .str ledgerTitle ∧
          1 ≤ number ∧ number.den = 1 then some number.num.toNat
      else none
  | _ => none

/-- The object of the root tag. -/
def rootObject (sha : String) : LedgerProgram (Option Fields) :=
  Program.handle (ask (.tagObject sha)) fun error =>
    match error with
    | .other _ => .fail error
    | _ => raise "REMOTE_RUNTIME_LEDGER_ROOT_OBJECT_INVALID"

/-- The issue a root tag binds. -/
def boundIssue (number : Nat) : LedgerProgram IssueRow := do
  let issue : IssueRow ← Program.handle (ask (.getIssue number)) fun error =>
    match error with
    | .provider _ => raise "REMOTE_RUNTIME_LEDGER_ROOT_ISSUE_UNAVAILABLE"
    | _ => .fail error
  ensure (issue.title = ledgerTitle ∧ issue.isOpen = true ∧ issue.number = number)
    "REMOTE_RUNTIME_LEDGER_ROOT_ISSUE_INVALID"
  return issue

/-- `_root_issue` once the root tag is there. -/
def rootIssueOf (ref : RefRow) : LedgerProgram IssueRow := do
  ensure (ref.sha ≠ "") "REMOTE_RUNTIME_LEDGER_ROOT_REF_INVALID"
  let object ← rootObject ref.sha
  match object with
  | none => raise "REMOTE_RUNTIME_LEDGER_ROOT_OBJECT_INVALID"
  | some payload =>
      match rootNumber payload with
      | none => raise "REMOTE_RUNTIME_LEDGER_ROOT_BINDING_INVALID"
      | some number => boundIssue number

/-- `_root_issue`. -/
def rootIssue : LedgerProgram (Option IssueRow) := do
  let found ← optionalTagRef rootAnchor
  match found with
  | none => return none
  | some ref => do
      let issue ← rootIssueOf ref
      return some issue

/-- `_anchor_rules_verified`: whether the readback is verified. -/
def anchorRulesVerified : LedgerProgram Bool :=
  Program.handle (do
    let rulesets : List Ruleset ← ask .rulesets
    return (verifyRuntimeAnchorRuleset [] rulesets).isNone) fun _ => .done false

/-- The head of the default branch. -/
def mainHead : LedgerProgram String := do
  let default : String ← ask .repoInfo
  ask (.branch (if default = "" then "main" else default))

/-- The tag ref of `_elect_root`; a refusal shows the winner. -/
def claimRoot (candidate : IssueRow) (sha : String) : LedgerProgram IssueRow :=
  Program.handle (do
    let ref : RefRow ← ask (.createTagRef rootAnchor sha)
    ensure (ref.sha = sha) "REMOTE_RUNTIME_LEDGER_ROOT_REF_READBACK_FAILED"
    return candidate) fun error =>
      if error = .provider "PROVIDER_HTTP_409" ∨ error = .provider "PROVIDER_HTTP_422" then do
        let winner ← rootIssue
        match winner with
        | none => raise "REMOTE_RUNTIME_LEDGER_ROOT_ELECTION_UNRESOLVED"
        | some issue => return issue
      else .fail error

/-- `_elect_root`. -/
def electRoot (candidate : IssueRow) : LedgerProgram IssueRow := do
  let verified ← anchorRulesVerified
  ensure (verified = true) "REMOTE_RUNTIME_ANCHOR_RULESET_REQUIRED_BEFORE_LEDGER_INIT"
  let head ← mainHead
  ensure (head ≠ "") "REMOTE_RUNTIME_LEDGER_ROOT_TARGET_MISSING"
  ensure (1 ≤ candidate.number) "REMOTE_RUNTIME_LEDGER_ISSUE_ID_INVALID"
  let sha : String ← ask (.createTagObject rootAnchor head (rootMessage candidate.number))
  ensure (sha ≠ "") "REMOTE_RUNTIME_LEDGER_ROOT_OBJECT_CREATE_FAILED"
  claimRoot candidate sha

/-- What `ensure_issue` does with its candidate once the root is elected. -/
def settleCandidate (candidate winner : IssueRow) (created : Bool) : LedgerProgram IssueRow := do
  if winner.number = candidate.number then return winner
  else do
    ensure (created = true) "REMOTE_RUNTIME_LEDGER_ROOT_CONFLICT"
    let closed : IssueRow ← Program.handle (ask (.closeIssue candidate.number)) fun _ =>
      raise "REMOTE_RUNTIME_LEDGER_NONCANONICAL_CANDIDATE_CLEANUP_FAILED"
    ensure (closed.isOpen = false)
      "REMOTE_RUNTIME_LEDGER_NONCANONICAL_CANDIDATE_CLEANUP_NOT_VERIFIED"
    return winner

/-- The candidate of `ensure_issue`, and whether it was created for it. -/
def candidateIssue : LedgerProgram (IssueRow × Bool) := do
  let found ← openLedgerIssues
  match found with
  | [] => do
      let created : IssueRow ← ask (.createIssue ledgerTitle)
      return (created, true)
  | [candidate] => return (candidate, false)
  | _ => raise "MULTIPLE_RUNTIME_LEDGER_ISSUES"

/-- `ensure_issue`. -/
def ensureIssue : LedgerProgram IssueRow := do
  let root ← rootIssue
  match root with
  | some issue => return issue
  | none => do
      let candidate ← candidateIssue
      let winner ← electRoot candidate.1
      settleCandidate candidate.1 winner candidate.2

/-! ## Reading and verifying -/

/-- The dictionary entry of a name. -/
def upsert (name : String) (event : RemoteEvent) :
    List (String × RemoteEvent) → List (String × RemoteEvent)
  | [] => [(name, event)]
  | (first, other) :: rest =>
      if first = name then (name, event) :: rest else (first, other) :: upsert name event rest

/-- The anchors the events must have, by their names. -/
def expectedAnchors (expected : List (String × RemoteEvent)) :
    List RemoteEvent → Except String (List (String × RemoteEvent))
  | [] => .ok expected
  | event :: rest => do
      let name ← tagName rt event.members
      expectedAnchors (upsert name event expected) rest

/-- `_anchor_refs`. -/
def anchorRefs : LedgerProgram (List RefRow) := do
  let rows : List RefRow ← ask .matchingTagRefs
  return rows.filter fun row => Text.startsWith row.name anchorPrefix && row.name ≠ rootAnchor &&
    !Text.startsWith row.name leaseAnchorPrefix

/-- What is wrong with the object of an anchor. -/
def bindingErrors (name : String) (event : RemoteEvent) (payload : Option Fields) : List String :=
  match payload with
  | none => ["REMOTE_RUNTIME_EXTERNAL_ANCHOR_OBJECT_INVALID:" ++ name]
  | some message =>
      if get message "event_hash" ≠ get event.members "event_hash" ∨
          rt.text (get message "provider_comment_id") ≠ event.providerObjectId then
        ["REMOTE_RUNTIME_EXTERNAL_ANCHOR_BINDING_MISMATCH:" ++ name]
      else []

/-- The loop of `_verify_tag_anchors`. -/
def verifyAnchors (refs : List RefRow) : List (String × RemoteEvent) → LedgerProgram (List String)
  | [] => return []
  | (name, event) :: rest =>
      match refs.find? (·.name = name) with
      | none => do
          let later ← verifyAnchors refs rest
          return ("REMOTE_RUNTIME_EXTERNAL_ANCHOR_MISSING:" ++ name) :: later
      | some ref =>
          if ref.sha = "" then do
            let later ← verifyAnchors refs rest
            return ("REMOTE_RUNTIME_EXTERNAL_ANCHOR_REF_INVALID:" ++ name) :: later
          else do
            let payload : Option Fields ← Program.handle (ask (.tagObject ref.sha)) fun _ =>
              .done none
            let later ← verifyAnchors refs rest
            return bindingErrors rt name event payload ++ later

/-- `_verify_tag_anchors`. -/
def verifyTagAnchors (events : List RemoteEvent) : LedgerProgram (List String) := do
  let refs ← anchorRefs
  let expected ← computed (expectedAnchors rt [] events)
  let extras := (refs.map RefRow.name).filter fun name => name ∉ expected.map Prod.fst
  let found ← verifyAnchors rt refs expected
  return (if extras = [] then [] else
    ["REMOTE_RUNTIME_ORPHAN_ANCHORS:" ++ ",".intercalate (extras.mergeSort.take 10)]) ++ found

/-- The event a comment carries. -/
def Comment.remoteEvent (comment : Comment) : Option RemoteEvent :=
  match comment.body with
  | .event members =>
      if members = [] then none
      else some ⟨members, comment.id, comment.createdAt, comment.actor⟩
  | .other => none

/-- The anchors are only looked at when there are events. -/
def anchorErrorsOf (events : List RemoteEvent) : LedgerProgram (List String) :=
  if events = [] then return [] else verifyTagAnchors rt events

variable (validateCheckpoint : CheckpointCheck)

/-- `_read_issue_events`. -/
def readIssueEvents (issue : IssueRow) : LedgerProgram (List RemoteEvent) := do
  let comments : List Comment ← ask (.issueComments issue.number)
  let events := comments.filterMap Comment.remoteEvent
  let chainErrors ← computed (verifyRemoteEvents rt validateCheckpoint 1 .null .null events)
  let anchorErrors ← anchorErrorsOf rt events
  let verified ← anchorRulesVerified
  let errors := chainErrors ++ anchorErrors ++
    (if events ≠ [] ∧ verified = false then ["REMOTE_RUNTIME_ANCHOR_RULESET_NOT_VERIFIED"] else [])
  ensure (errors = []) ("REMOTE_RUNTIME_LEDGER_INVALID:" ++ ",".intercalate errors)
  return events

/-- The issue `read` looks at. -/
def ledgerIssue : LedgerProgram (Option IssueRow) := do
  let root ← rootIssue
  match root with
  | some issue => return some issue
  | none => do
      let found ← openLedgerIssues
      match found with
      | [] => return none
      | [issue] => return some issue
      | _ => raise "MULTIPLE_RUNTIME_LEDGER_ISSUES"

/-- `read`. -/
def read : LedgerProgram (Option IssueRow × List RemoteEvent) := do
  let found ← ledgerIssue
  match found with
  | none => return (none, [])
  | some issue => do
      let events ← readIssueEvents rt validateCheckpoint issue
      return (some issue, events)

/-! ## Appending -/

/-- The arguments of `append`, and the time it reads. -/
structure AppendRequest where
  state : Fields
  workMemory : Option Json := none
  checkpoint : Option Json := none
  now : String

/-- `public_session_continuity_projection`. -/
def publicSessionContinuity : Option Json → LedgerProgram (Option Json)
  | none => return none
  | some (.obj checkpoint) => do
      ensure (validateCheckpoint (.obj checkpoint) = [])
        ("REMOTE_RUNTIME_SESSION_CONTINUITY_INVALID:" ++
          ",".intercalate (validateCheckpoint (.obj checkpoint)))
      return some (.obj checkpoint)
  | some _ =>
      raise "REMOTE_RUNTIME_SESSION_CONTINUITY_INVALID:CONTINUITY_CHECKPOINT_NOT_OBJECT"

/-- What an append stores. -/
structure Checkpoint where
  safeState : Fields
  continuity : Option Json
  memory : Json
  now : String

/-- The checks of `append` before its first call. -/
def checkedRequest (request : AppendRequest) : LedgerProgram Checkpoint := do
  let findings ← computed (validateJournal rt request.state)
  ensure (findings = []) "REMOTE_RUNTIME_STATE_INVALID"
  let safeState ← computed (publicStateProjection rt request.state)
  let publicFindings ← computed (validateJournal rt safeState)
  ensure (publicFindings = []) "REMOTE_RUNTIME_PUBLIC_PROJECTION_INVALID"
  let continuity ← publicSessionContinuity validateCheckpoint request.checkpoint
  match continuity with
  | none => return ⟨safeState, none, publicMemoryProjection request.workMemory, request.now⟩
  | some checkpoint => do
      ensure (checkpointStateBindingErrors rt checkpoint safeState = [])
        ("REMOTE_RUNTIME_SESSION_CONTINUITY_BINDING_INVALID:" ++
          ",".intercalate (checkpointStateBindingErrors rt checkpoint safeState))
      return ⟨safeState, some checkpoint, publicMemoryProjection request.workMemory, request.now⟩

/-- The digest of the stored state. -/
def Checkpoint.stateDigest (checkpoint : Checkpoint) : Json :=
  .str (rt.digest (.obj checkpoint.safeState))

/-- Whether the last event already holds the checkpoint. -/
def Checkpoint.isHeldBy (checkpoint : Checkpoint) (last : RemoteEvent) : Prop :=
  get last.members "state_digest" = checkpoint.stateDigest rt ∧
    ∀ continuity, checkpoint.continuity = some continuity →
      get last.members "session_continuity_digest" = memberOf continuity "checkpoint_digest"

instance (checkpoint : Checkpoint) (last : RemoteEvent) :
    Decidable (checkpoint.isHeldBy rt last) :=
  inferInstanceAs (Decidable (_ ∧ _))

/-- The members of an event that a session checkpoint adds. -/
def continuityMembers : Option Json → Fields
  | none => []
  | some checkpoint =>
      [("session_continuity_digest", memberOf checkpoint "checkpoint_digest"),
        ("session_continuity_id", memberOf checkpoint "checkpoint_id"),
        ("session_continuity_projection", checkpoint),
        ("session_continuity_revision", memberOf checkpoint "checkpoint_revision")]

/-- The event after `events`, without its hash. -/
def Checkpoint.unsigned (checkpoint : Checkpoint) (events : List RemoteEvent) : Fields :=
  [("created_at", .str checkpoint.now),
    ("previous_hash", (events.getLast?.map fun last => get last.members "event_hash").getD .null),
    ("previous_provider_object_id",
      (events.getLast?.map fun last => Json.str last.providerObjectId).getD .null),
    ("revision", get checkpoint.safeState "revision"),
    ("run_id", get checkpoint.safeState "run_id"), ("schema_version", .num 3),
    ("sequence", .num (events.length + 1))] ++ continuityMembers checkpoint.continuity ++
  [("state", .obj checkpoint.safeState), ("state_digest", checkpoint.stateDigest rt),
    ("work_memory_digest", memberOf checkpoint.memory "memory_digest"),
    ("work_memory_projection", checkpoint.memory)]

def Checkpoint.eventHash (checkpoint : Checkpoint) (events : List RemoteEvent) : String :=
  rt.digest (.obj (checkpoint.unsigned rt events))

/-- The event after `events`. -/
def Checkpoint.event (checkpoint : Checkpoint) (events : List RemoteEvent) : Fields :=
  put "event_hash" (.str (checkpoint.eventHash rt events)) (checkpoint.unsigned rt events)

/-- The tag of the event after `events`. -/
def Checkpoint.tag (checkpoint : Checkpoint) (events : List RemoteEvent) : String :=
  tagOf (events.length + 1) (checkpoint.eventHash rt events)

/-- The text of the anchor of the event after `events`. -/
def Checkpoint.anchorMessage (checkpoint : Checkpoint) (events : List RemoteEvent)
    (comment : Comment) : Fields :=
  [("event_hash", .str (checkpoint.eventHash rt events)),
    ("provider_actor", .str comment.actor), ("provider_comment_id", .str comment.id),
    ("provider_created_at", .str comment.createdAt),
    ("revision", get checkpoint.safeState "revision"),
    ("run_id", get checkpoint.safeState "run_id")]

/-- What an operation returns. -/
inductive Outcome where
  | observed (issue : Option IssueRow) (events : List RemoteEvent)
  | unchanged (issueNumber : Nat) (event : RemoteEvent)
  | appended (issueNumber : Nat) (event : RemoteEvent) (tag sha : String)
  deriving DecidableEq

/-- The anchor of a comment that has been added. -/
def anchorComment (checkpoint : Checkpoint) (issue : IssueRow) (events : List RemoteEvent)
    (comment : Comment) : LedgerProgram Outcome := do
  ensure (comment.id ≠ "" ∧ comment.createdAt ≠ "" ∧ comment.actor ≠ "")
    "REMOTE_RUNTIME_READBACK_MISSING"
  let head ← mainHead
  let sha : String ← ask (.createTagObject (checkpoint.tag rt events) head
    (checkpoint.anchorMessage rt events comment))
  ensure (sha ≠ "") "REMOTE_RUNTIME_EXTERNAL_ANCHOR_CREATE_FAILED"
  let ref : RefRow ← ask (.createTagRef (checkpoint.tag rt events) sha)
  ensure (ref.sha = sha) "REMOTE_RUNTIME_EXTERNAL_ANCHOR_READBACK_FAILED"
  return .appended issue.number
    ⟨checkpoint.event rt events, comment.id, comment.createdAt, comment.actor⟩
    (checkpoint.tag rt events) sha

/-- `safe_state['run_id']` and `safe_state['revision']`. -/
def runMembers (state : Fields) : Except String Unit :=
  if (state.lookup "run_id").isSome ∧ (state.lookup "revision").isSome then .ok ()
  else .error "KeyError"

/-- The next event of an issue whose events have been read. -/
def appendNext (checkpoint : Checkpoint) (issue : IssueRow) (events : List RemoteEvent) :
    LedgerProgram Outcome := do
  let _ ← computed (runMembers checkpoint.safeState)
  let verified ← anchorRulesVerified
  ensure (verified = true) "REMOTE_RUNTIME_ANCHOR_RULESET_REQUIRED_BEFORE_PERSIST"
  let comment : Comment ←
    ask (.addIssueComment issue.number (.event (checkpoint.event rt events)))
  anchorComment rt checkpoint issue events comment

/-- `append` once its request is checked. -/
def appendChecked (checkpoint : Checkpoint) : LedgerProgram Outcome := do
  let issue ← ensureIssue
  let events ← readIssueEvents rt validateCheckpoint issue
  match events.getLast? with
  | none => appendNext rt checkpoint issue events
  | some last =>
      if checkpoint.isHeldBy rt last then return .unchanged issue.number last
      else appendNext rt checkpoint issue events

/-- `append`. -/
def append (request : AppendRequest) : LedgerProgram Outcome := do
  let checkpoint ← checkedRequest rt validateCheckpoint request
  appendChecked rt validateCheckpoint checkpoint

/-- One call of the store. -/
inductive Operation where
  | read
  | append (request : AppendRequest)

def Operation.program : Operation → LedgerProgram Outcome
  | .read => do
      let found ← RuntimeLedger.read rt validateCheckpoint
      return .observed found.1 found.2
  | .append request => RuntimeLedger.append rt validateCheckpoint request

end Client

end Adwf.RuntimeLedger
