import Mathlib
import Adwf.NextAction.Queue
import Adwf.Run.Guarded
import Adwf.Value.Fallible
import Adwf.Value.Ranked

/-!
# The local queue and its leases

`leases.py` keeps the issues of the queue and the leases of their writers in
one document.  The three operations work on a copy of the document; the caller
stores what they return.
-/

namespace Adwf.Leases

open Fallible NextAction

variable (tools : Tools)
variable (queue : Queue)

/-- The parts of the standard library the operations read texts with. -/
structure Tools where
  /-- `parse_time`: `none` stands for the raised `ValueError`. -/
  parseTime : String → Option Int
  /-- `str.lower`. -/
  lower : String → String

/-- An item of `queue["leases"]`, with the members `claim` writes. -/
structure Lease extends NextAction.Lease where
  roadmapId : Option String := none
  claimedAt : Option Timestamp := none
  baseSha : Option String := none
  workspacePath : Option String := none
  branch : Option String := none
  deriving DecidableEq

/-- An item of `queue["issues"]`. -/
structure Issue extends NextAction.Issue where
  writerId : Option String := none
  deriving DecidableEq

structure Queue where
  issues : List Issue := []
  leases : List Lease := []
  deriving DecidableEq

/-- `str(item.get("id")) == str(issue_id)`. -/
def Issue.hasId (issueId : String) (issue : Issue) : Bool :=
  issue.id = issueId

/-- The leases as the freshness checks read them. -/
def Queue.held : List NextAction.Lease :=
  queue.leases.map Lease.toLease

/-- `str(lease.get("issue_id"))`. -/
def Lease.issue (lease : Lease) : String :=
  lease.issueId.getD "None"

/-- `lease_fresh`. -/
def leaseFresh (now : Int) (lease : Lease) : Bool :=
  leaseFreshnessErrors lease.toLease now defaultHeartbeatTimeoutMinutes = []

/-- `invalid_declared_active_leases`. -/
def invalidDeclaredActiveLeases (now : Int) (leases : List Lease) : List Lease :=
  leases.filter fun lease => lease.isDeclared && !leaseFresh now lease

/-! ## Identifiers -/

def isSlugChar (char : Char) : Bool :=
  ('a' ≤ char && char ≤ 'z') || Text.isDigit char

/-- `re.sub(r"[^a-z0-9]+", "-", text)`; `inRun` while a run of other characters lasts. -/
def dashed : Bool → List Char → List Char
  | _, [] => []
  | inRun, char :: rest =>
      if isSlugChar char then char :: dashed false rest
      else if inRun then dashed true rest
      else '-' :: dashed true rest

/-- `_slug`. -/
def slug (value : String) : Except String String := do
  let isDash := fun char : Char => decide (char = '-')
  let chars := (dashed false (tools.lower value).toList).dropWhile isDash
  let normalized := (chars.reverse.dropWhile isDash).reverse
  require (normalized ≠ []) "WORKSPACE_IDENTITY_INVALID"
  return String.ofList (normalized.take 48)

/-! ## The operations -/

/-- `max(1, min(int(ttl_minutes), 240))` minutes. -/
def ttl (minutes : Int) : Int :=
  max 1 (min minutes 240) * minute

/-- Microseconds of one day. -/
def day : Int :=
  86400 * 1000000

/-- The arguments of `claim`, with the identifier `uuid.uuid4` returns. -/
structure ClaimArgs where
  issueId : String
  workerId : String
  baseSha : String
  now : Int
  ttlMinutes : Int := 120
  oneActiveWriter : Bool := true
  permissionAllowed : Bool := false
  maxReadyAgeDays : Int := 30
  leaseId : String

/-- The checks of the issue itself. -/
def checkIssue (issue : Issue) (args : ClaimArgs) : Except String Unit := do
  require (issue.state = some "READY") "ISSUE_NOT_READY"
  require (issue.dependenciesResolved = some true) "DEPENDENCIES_NOT_VERIFIED"
  require (args.permissionAllowed = true) "PERMISSION_NOT_ALLOWED"
  require (issue.humanRequired = some false ∧ issue.autonomyAllowed = some true)
    "ISSUE_NOT_AUTONOMOUS"

/-- `ready_since` lies in the past and is not too old. -/
def readyFresh (issue : Issue) (args : ClaimArgs) : Bool :=
  match issue.readySince.bind tools.parseTime with
  | some since => 0 ≤ args.now - since && args.now - since ≤ args.maxReadyAgeDays * day
  | none => false

/-- The lease `claim` appends. -/
def newLease (issue : Issue) (roadmapId workspaceKey : String) (args : ClaimArgs) : Lease :=
  { leaseId := some args.leaseId
    issueId := some args.issueId
    roadmapId := some roadmapId
    workerId := some args.workerId
    claimedAt := some (.at args.now)
    heartbeatAt := some (.at args.now)
    expiresAt := some (.at (args.now + ttl args.ttlMinutes))
    baseSha := some args.baseSha
    workspaceId := some workspaceKey
    workspacePath := some (".adwf-runtime/workspaces/" ++ workspaceKey)
    branch := some ("adwf/" ++ workspaceKey)
    conflictDomains := issue.conflictDomains
    status := some "ACTIVE" }

/-- The claimed issue. -/
def claimed (lease : Lease) (issue : Issue) : Issue :=
  { issue with
    state := some "IN_PROGRESS"
    writerId := lease.workerId
    leaseId := lease.leaseId
    workspaceId := lease.workspaceId
    heartbeatAt := lease.heartbeatAt
    expiresAt := lease.expiresAt }

/-- `claim`: the stored queue and the new lease. -/
def claim (args : ClaimArgs) : Except String (Queue × Lease) :=
  match queue.issues.filter (Issue.hasId args.issueId) with
  | [issue] => do
      require (invalidDeclaredActiveLeases args.now queue.leases = [])
        "LEASE_RECONCILIATION_REQUIRED"
      let current := activeLeases args.now queue.held
      require (args.oneActiveWriter = true → current = []) "ACTIVE_WRITER_EXISTS"
      checkIssue issue args
      let roadmapId := issue.roadmapId.getD ""
      require (roadmapId ≠ "" ∧
        queue.issues.countP (fun item => item.roadmapId.getD "None" = roadmapId) = 1)
        "ROADMAP_ID_NOT_ONE_TO_ONE"
      require (readyFresh tools issue args = true) "ISSUE_NOT_FRESH"
      require (∀ item ∈ current, item.issueId.getD "None" ≠ args.issueId) "ISSUE_ALREADY_LEASED"
      require (conflictDomains args.now issue.toIssue queue.held = []) "CONFLICT_DOMAIN_BUSY"
      require (Text.strip args.workerId ≠ "" ∧ Text.isSha40 (Text.strip args.baseSha) = true)
        "WORKER_OR_SHA_MISSING"
      let roadmapSlug ← slug tools roadmapId
      let issueSlug ← slug tools args.issueId
      let lease := newLease issue roadmapId (roadmapSlug ++ "-issue-" ++ issueSlug) args
      let issues := Picked.update (Issue.hasId args.issueId) (claimed lease) queue.issues
      return ({ issues, leases := queue.leases ++ [lease] }, lease)
  | _ => .error "ISSUE_ID_NOT_UNIQUE"

/-- `heartbeat`. -/
def heartbeat (lease : Lease) (workerId : String) (now ttlMinutes : Int) :
    Except String Lease := do
  let freshness := leaseFreshnessErrors lease.toLease now defaultHeartbeatTimeoutMinutes
  require (freshness = []) ("LEASE_NOT_RENEWABLE:" ++ ",".intercalate freshness)
  require (lease.workerId = some workerId) "LEASE_OWNER_MISMATCH"
  return { lease with
    heartbeatAt := some (.at now)
    expiresAt := some (.at (now + ttl ttlMinutes)) }

/-- The states `reconcile` takes an issue out of. -/
def workingStates : List String :=
  ["CLAIMED", "IN_PROGRESS", "REVIEW", "VERIFICATION"]

/-- `issue["state"] = "RECOVERY"` for a working issue the lease names. -/
def recover (lease : Lease) (issue : Issue) : Issue :=
  if issue.id = lease.issue ∧ issue.state.any workingStates.contains then
    { issue with state := some "RECOVERY" }
  else issue

/-- The loop of `reconcile`: the issues, the leases and the expired identifiers. -/
def reconcileLeases (now : Int) :
    List Issue → List Lease → List Issue × List Lease × List String
  | issues, [] => (issues, [], [])
  | issues, lease :: rest =>
      if lease.isDeclared && !leaseFresh now lease then
        let (issues, rest, expired) := reconcileLeases now (issues.map (recover lease)) rest
        (issues, { lease with status := some "EXPIRED" } :: rest,
          lease.leaseId.getD "UNKNOWN" :: expired)
      else
        let (issues, rest, expired) := reconcileLeases now issues rest
        (issues, lease :: rest, expired)

/-- `reconcile`. -/
def reconcile (now : Int) : Queue × List String :=
  let (issues, leases, expired) := reconcileLeases now queue.issues queue.leases
  ({ issues, leases }, expired)

/-- One call of the caller that stores the queue. -/
inductive Operation where
  | claim (args : ClaimArgs)
  /-- The lease at a position is renewed and stored in its place. -/
  | heartbeat (position : Nat) (workerId : String) (now ttlMinutes : Int)
  | reconcile (now : Int)

/-- The queue a call returns, or the error it raises. -/
def call : Operation → Except String Queue
  | .claim args => (claim tools queue args).map Prod.fst
  | .heartbeat position workerId now ttlMinutes =>
      match queue.leases[position]? with
      | some lease =>
          (heartbeat lease workerId now ttlMinutes).map fun renewed =>
            { queue with leases := queue.leases.set position renewed }
      | none => .error "IndexError"
  | .reconcile now => .ok (reconcile queue now).1

/-- What the call answers and the queue the caller holds after it. -/
def perform (operation : Operation) :
    Except String Unit × Queue :=
  match call tools queue operation with
  | .ok after => (.ok (), after)
  | .error error => (.error error, queue)

def operate (operation : Operation) : Queue :=
  (perform tools queue operation).2

end Adwf.Leases
