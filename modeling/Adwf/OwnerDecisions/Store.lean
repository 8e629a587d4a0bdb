import Adwf.JsonText.RoundTrip
import Adwf.Value.Fallible
import Adwf.Value.Ranked
import Adwf.Value.Stamp

/-!
# Owner decisions

`GitHubOwnerDecisionStore` keeps decisions as comments of one issue.  A comment
carries the decision with its digest; the latest one is found by sorting the
times that the comments carry.
-/

namespace Adwf.OwnerDecisions

open Fallible JsonText
open Stamp (Moment)

variable (tools : Tools)
variable (forge : Forge)

/-! ## The provider -/

structure Issue where
  number : Int
  title : String
  state : String
  deriving DecidableEq

/-- A comment; a missing user has the login `""`. -/
structure Comment where
  id : Int
  login : String
  body : List Char
  deriving DecidableEq

/-- What the provider holds. -/
structure Forge where
  issues : List Issue
  comments : Int → List Comment
  permission : String → Except String String
  nextIssue : Int
  nextComment : Int

/-- Floating point, SHA-256 of the canonical JSON of an object, and `str(value or "")` of a value
that is no text. -/
structure Tools where
  floats : Floats
  digest : Members → String
  textOf : Value → String

def title : String :=
  "[ADWF] Owner Decisions"

/-- The open issues with the title. -/
def Forge.decisionIssues : List Issue :=
  forge.issues.filter fun issue => issue.title = title ∧ issue.state = "open"

/-- `add_issue_comment`: the comment is kept as it was sent. -/
def Forge.addComment (number : Int) (login : String) (body : List Char) : Forge :=
  { forge with
    comments := fun other =>
      if other = number then forge.comments number ++ [⟨forge.nextComment, login, body⟩]
      else forge.comments other
    nextComment := forge.nextComment + 1 }

/-- `create_issue`. -/
def Forge.createIssue : Forge × Issue :=
  let issue : Issue := ⟨forge.nextIssue, title, "open"⟩
  ({ forge with issues := forge.issues ++ [issue], nextIssue := forge.nextIssue + 1 }, issue)

/-! ## Comments -/

/-- `PREFIX`. -/
def bodyStart : List Char :=
  "<!-- ADWF-OWNER-DECISION v1 -->\n```json\n".toList

/-- `SUFFIX`. -/
def bodyEnd : List Char :=
  "\n```".toList

/-- `_parse`. -/
def parse (body : List Char) : Option Members :=
  if bodyStart.isPrefixOf body && bodyEnd.isSuffixOf body then
    match loads tools.floats ((body.take (body.length - bodyEnd.length)).drop bodyStart.length) with
    | .ok (.dict value) => some value
    | _ => none
  else none

def digestKey : String :=
  "decision_digest"

/-- The members that the digest is taken of. -/
def unsigned (value : Members) : Members :=
  value.filter fun field => field.1 ≠ digestKey

/-- A decision with the comment it was read from. -/
structure Decision where
  commentId : Int
  value : Members
  deriving Inhabited

/-- `level in {"admin", "maintain"}`; an exception counts as no. -/
def mayDecide (login : String) : Bool :=
  match forge.permission login with
  | .ok level => ["admin", "maintain"].contains level
  | .error _ => false

/-- The candidate that a comment is in `latest_for_sha`. -/
def candidate (headSha : String) (comment : Comment) :
    Option Decision :=
  match parse tools comment.body with
  | none => none
  | some value =>
      if value.isEmpty = false ∧ (Value.get value "head_sha").asText = some headSha ∧
          comment.login ≠ "" ∧ (Value.get value "actor_login").asText = some comment.login ∧
          (Value.get value digestKey).asText = some (tools.digest (unsigned value)) ∧
          mayDecide forge comment.login = true then
        some ⟨comment.id, value⟩
      else none

/-- `str(x.get("recorded_at") or "")`. -/
def recordedAt (decision : Decision) : List Char :=
  match Value.get decision.value "recorded_at" with
  | .str text => text.toList
  | other => (tools.textOf other).toList

/-- `latest_for_sha`. -/
def latestForSha (headSha : String) : Option Decision :=
  match forge.decisionIssues with
  | [issue] =>
      Ranked.lastBy (recordedAt tools)
        ((forge.comments issue.number).filterMap (candidate tools forge headSha))
  | _ => none

/-! ## Recording -/

/-- The arguments of `record`. -/
structure Request where
  decision : String
  headSha : String
  previewDigest : String
  policyHash : String
  nonce : Option String

/-- A call of `record`: who is authenticated, the clock, and the nonce that is drawn. -/
structure Call where
  request : Request
  actor : String
  now : Moment
  drawn : String

/-- `nonce or secrets.token_hex(16)`. -/
def Call.nonce (call : Call) : String :=
  if call.request.nonce.getD "" = "" then call.drawn else call.request.nonce.getD ""

/-- The payload before its digest, sorted by key. -/
def Call.unsigned (call : Call) : Members :=
  [("actor_login", .str call.actor), ("decision", .str call.request.decision),
    ("head_sha", .str call.request.headSha), ("nonce", .str call.nonce),
    ("policy_hash", .str call.request.policyHash),
    ("preview_digest", .str call.request.previewDigest),
    ("recorded_at", .str (String.ofList call.now.isoText)), ("schema_version", .int 1)]

/-- The payload, sorted by key. -/
def Call.payload (call : Call) : Members :=
  [("actor_login", .str call.actor), ("decision", .str call.request.decision),
    (digestKey, .str (tools.digest call.unsigned)), ("head_sha", .str call.request.headSha),
    ("nonce", .str call.nonce), ("policy_hash", .str call.request.policyHash),
    ("preview_digest", .str call.request.previewDigest),
    ("recorded_at", .str (String.ofList call.now.isoText)), ("schema_version", .int 1)]

/-- `PREFIX + json.dumps(payload, …) + SUFFIX`. -/
def bodyOf (payload : Members) : List Char :=
  bodyStart ++ canonicalText (.dict payload) ++ bodyEnd

/-- `ensure_issue`. -/
def ensureIssue : Except String (Forge × Issue) :=
  match forge.decisionIssues with
  | [] => .ok forge.createIssue
  | [issue] => .ok (forge, issue)
  | _ => .error "MULTIPLE_OWNER_DECISION_ISSUES"

/-- `record`: the provider afterwards, and the decision with its comment. -/
def record (call : Call) : Except String (Forge × Decision) := do
  let request := call.request
  require (["ACCEPTED", "CHANGES_REQUESTED", "DEFERRED"].contains request.decision = true)
    "OWNER_DECISION_INVALID"
  require (Text.isSha40 request.headSha = true ∧ Text.isSha256 request.previewDigest = true ∧
    Text.isSha256 request.policyHash = true) "OWNER_DECISION_BINDING_INVALID"
  require (call.actor ≠ "") "OWNER_IDENTITY_READBACK_MISSING"
  let level ← forge.permission call.actor
  require (["admin", "maintain"].contains level = true) "OWNER_AUTHORITY_INSUFFICIENT"
  let ensured ← ensureIssue forge
  let payload := call.payload tools
  let after := ensured.1.addComment ensured.2.number call.actor (bodyOf payload)
  require (ensured.1.nextComment ≠ 0) "OWNER_DECISION_PROVIDER_READBACK_FAILED"
  return (after, ⟨ensured.1.nextComment, payload⟩)

end Adwf.OwnerDecisions
