import Adwf.Leases.Queue

/-!
# The workspace registry

`workspaces.py` binds a writer's lease to a git worktree and keeps one record
for each binding.  Every operation reads the registry under a lock, works on
what it read and replaces the file as its last step.
-/

namespace Adwf.Workspaces

open Fallible

variable (world : World)
variable (registry : Registry) (config : Config)

inductive Status where
  | active | stalled | retryWait | retryReady | recovery | completed | stopped | cleaned
  deriving DecidableEq, Repr

/-- `OCCUPYING`. -/
def Status.occupying : Status → Bool
  | active | stalled | retryWait | retryReady | recovery => true
  | completed | stopped | cleaned => false

/-- One item of `registry["workspaces"]`. -/
structure Record where
  workspaceId : String
  leaseId : String
  issueId : String
  roadmapId : String
  workerId : String
  branch : String
  path : String
  baseSha : String
  status : Status
  createdAt : Timestamp
  heartbeatAt : Timestamp
  expiresAt : Timestamp
  retryCount : Nat
  nextRetryAt : Option Timestamp
  lastError : Option String
  completedSha : Option String
  deriving DecidableEq

abbrev Registry :=
  List Record

/-- The `workspace` section of the configuration; its schema admits no negative count. -/
structure Config where
  root : String := ".adwf-runtime/workspaces"
  maxActive : Nat := 1
  stallTimeoutMinutes : Int := 45
  retryBaseSeconds : Int := 30
  retryMaxSeconds : Int := 900
  maxRetries : Nat := 3
  requireCleanCleanup : Bool := true

/-- What a finished git command returns. -/
structure GitAnswer where
  returncode : Int := 0
  stdout : String := ""
  stderr : String := ""

/-- The answers of git and the file system to one operation. -/
structure World where
  /-- The components of the resolved root. -/
  base : List String
  /-- `(base / text).resolve()`. -/
  resolve : String → List String
  pathExists : List String → Bool
  isDir : List String → Bool
  /-- A command in a directory. -/
  git : List String → List String → GitAnswer
  /-- An error raised before the written file replaces the registry. -/
  fault : Option String

/-- `_git` with `check`: the stripped output. -/
def World.checkedGit (cwd args : List String) : Except String String :=
  let process := world.git cwd args
  if process.returncode = 0 then .ok (Text.strip process.stdout)
  else .error ("GIT_COMMAND_FAILED:" ++ args.headD "" ++ ":" ++
    String.ofList ((Text.strip process.stderr).toList.take 200))

/-- `str(path)` of resolved components. -/
def pathText (path : List String) : String :=
  "/" ++ "/".intercalate path

/-- `atomic_registry_update`: the answer and the registry the file then holds. -/
def atomicRegistryUpdate {α : Type} (world : World) (registry : Registry)
    (transform : Registry → Except String (Registry × α)) : Except String α × Registry :=
  match transform registry with
  | .error error => (.error error, registry)
  | .ok (updated, output) =>
      match world.fault with
      | some error => (.error error, registry)
      | none => (.ok output, updated)

/-! ## Creation -/

/-- The members of a lease a workspace needs. -/
structure BoundLease where
  leaseId : String
  issueId : String
  roadmapId : String
  workerId : String
  baseSha : String
  workspaceId : String
  workspacePath : String
  branch : String
  expiresAt : Timestamp

/-- `bool(lease.get(name))` of a text. -/
def stated (mem : Option String) : Bool :=
  mem.any (· ≠ "")

/-- `bool(lease.get(name))` of a time. -/
def dated (mem : Option Timestamp) : Bool :=
  mem.any (· ≠ .malformed "")

/-- `_validate_lease`, with the members it found. -/
def validateLease (lease : Leases.Lease) : Except String BoundLease := do
  let required :=
    [("lease_id", stated lease.leaseId), ("issue_id", stated lease.issueId),
      ("roadmap_id", stated lease.roadmapId), ("worker_id", stated lease.workerId),
      ("base_sha", stated lease.baseSha), ("workspace_id", stated lease.workspaceId),
      ("workspace_path", stated lease.workspacePath), ("branch", stated lease.branch),
      ("heartbeat_at", dated lease.heartbeatAt), ("expires_at", dated lease.expiresAt)]
  let missing := (required.filter fun mem => !mem.2).map Prod.fst
  require (missing = [] ∧ lease.status = some "ACTIVE")
    ("ACTIVE_LEASE_REQUIRED:" ++ ",".intercalate missing)
  require (Text.startsWith (lease.branch.getD "") "adwf/" = true) "WORKSPACE_BRANCH_NOT_ALLOWED"
  return {
    leaseId := lease.leaseId.getD ""
    issueId := lease.issueId.getD ""
    roadmapId := lease.roadmapId.getD ""
    workerId := lease.workerId.getD ""
    baseSha := lease.baseSha.getD ""
    workspaceId := lease.workspaceId.getD ""
    workspacePath := lease.workspacePath.getD ""
    branch := lease.branch.getD ""
    expiresAt := lease.expiresAt.getD (.malformed "") }

/-- `_workspace_target`. -/
def workspaceTarget (lease : BoundLease) (config : Config) :
    Except String (List String) := do
  require (config.root = ".adwf-runtime/workspaces" ∧
    Text.startsWith lease.workspacePath (config.root ++ "/") = true) "WORKSPACE_PATH_NOT_ALLOWED"
  let target := world.resolve lease.workspacePath
  let allowed := world.resolve config.root
  require (allowed <+: target ∧ allowed ≠ target) "WORKSPACE_PATH_ESCAPE"
  return target

structure Plan where
  lease : BoundLease
  path : String
  absolutePath : List String

/-- `plan_workspace`. -/
def planWorkspace (lease : Leases.Lease) (config : Config) : Except String Plan := do
  let bound ← validateLease lease
  let target ← workspaceTarget world bound config
  require (world.base <+: target) "ValueError"
  return {
    lease := bound
    path := "/".intercalate (target.drop world.base.length)
    absolutePath := target }

/-- A record of the workspace that is not CLEANED. -/
def live (workspaceId : String) (record : Record) : Bool :=
  record.workspaceId = workspaceId && record.status ≠ .cleaned

/-- The record of a created workspace. -/
def newRecord (plan : Plan) (now : Int) : Record where
  workspaceId := plan.lease.workspaceId
  leaseId := plan.lease.leaseId
  issueId := plan.lease.issueId
  roadmapId := plan.lease.roadmapId
  workerId := plan.lease.workerId
  branch := plan.lease.branch
  path := plan.path
  baseSha := plan.lease.baseSha
  status := .active
  createdAt := .at now
  heartbeatAt := .at now
  expiresAt := plan.lease.expiresAt
  retryCount := 0
  nextRetryAt := none
  lastError := none
  completedSha := none

/-- The `git worktree add` of a plan, on a new branch or the one that exists. -/
def addWorktree (plan : Plan) : Except String String :=
  let target := pathText plan.absolutePath
  let branch := plan.lease.branch
  let known := world.git world.base
    ["show-ref", "--verify", "--quiet", "refs/heads/" ++ branch]
  world.checkedGit world.base
    (if known.returncode = 0 then ["worktree", "add", target, branch]
    else ["worktree", "add", "-b", branch, target, plan.lease.baseSha])

inductive Created where
  | dryRun (plan : Plan)
  | alreadyActive (record : Record)
  | created (record : Record)

/-- The transformation `create_workspace` applies. -/
def bindWorkspace (plan : Plan) (config : Config) (now : Int)
    (registry : Registry) : Except String (Registry × Created) :=
  match registry.filter (live plan.lease.workspaceId) with
  | [] => do
      require (registry.countP (·.status.occupying) < config.maxActive)
        "WORKSPACE_CONCURRENCY_LIMIT"
      require (world.pathExists plan.absolutePath = false) "UNTRACKED_WORKSPACE_PATH_EXISTS"
      let _ ← addWorktree world plan
      return (registry ++ [newRecord plan now], .created (newRecord plan now))
  | [record] =>
      if record.leaseId = plan.lease.leaseId then .ok (registry, .alreadyActive record)
      else .error "WORKSPACE_ALREADY_BOUND"
  | _ => .error "WORKSPACE_ALREADY_BOUND"

/-- The checks of `create_workspace` before it looks at the registry. -/
def checkedPlan (lease : Leases.Lease) (config : Config) : Except String Plan := do
  let plan ← planWorkspace world lease config
  let top ← world.checkedGit world.base ["rev-parse", "--show-toplevel"]
  require (world.resolve top = world.base) "ROOT_NOT_GIT_TOPLEVEL"
  let _ ← world.checkedGit world.base
    ["cat-file", "-e", plan.lease.baseSha ++ "^\x7bcommit\x7d"]
  return plan

/-- `create_workspace`. -/
def createWorkspace (lease : Leases.Lease)
    (config : Config) (apply : Bool) (now : Int) : Except String Created × Registry :=
  match checkedPlan world lease config with
  | .error error => (.error error, registry)
  | .ok plan =>
      if apply then atomicRegistryUpdate world registry (bindWorkspace world plan config now)
      else (.ok (.dryRun plan), registry)

/-! ## Operations on one workspace -/

/-- A transformation of the one record of a workspace that is not CLEANED. -/
def changeLive {α : Type} (workspaceId : String)
    (change : Record → Except String (Record × α)) (registry : Registry) :
    Except String (Registry × α) :=
  match registry.filter (live workspaceId) with
  | [record] => do
      let (changed, output) ← change record
      return (Picked.update (live workspaceId) (fun _ => changed) registry, output)
  | _ => .error "WORKSPACE_NOT_UNIQUE"

/-- What `heartbeat_workspace` makes of the record. -/
def beat (workerId : String) (now : Int) (record : Record) : Except String (Record × Record) := do
  require (record.workerId = workerId) "WORKSPACE_OWNER_MISMATCH"
  require (record.status = .active ∨ record.status = .retryReady) "WORKSPACE_NOT_HEARTBEATABLE"
  let changed :=
    { record with status := .active, heartbeatAt := .at now, nextRetryAt := none }
  return (changed, changed)

/-- `heartbeat_workspace`. -/
def heartbeatWorkspace (workspaceId workerId : String)
    (now : Int) : Except String Record × Registry :=
  atomicRegistryUpdate world registry (changeLive workspaceId (beat workerId now))

/-- `error[:200]`. -/
def shortened (error : String) : String :=
  String.ofList (error.toList.take 200)

/-- Microseconds of one second. -/
def second : Int :=
  1000000

/-- What `schedule_retry` makes of the record. -/
def retry (error : String) (config : Config) (now : Int) (record : Record) :
    Except String (Record × Record) := do
  require (record.status = .stalled ∨ record.status = .recovery) "WORKSPACE_RETRY_NOT_ALLOWED"
  let changed :=
    if config.maxRetries ≤ record.retryCount then
      { record with
        status := .recovery
        lastError := some ("RETRY_LIMIT_REACHED:" ++ shortened error) }
    else
      let delay :=
        min (config.retryBaseSeconds * 2 ^ record.retryCount) config.retryMaxSeconds
      { record with
        retryCount := record.retryCount + 1
        status := .retryWait
        nextRetryAt := some (.at (now + delay * second))
        lastError := some (shortened error) }
  return (changed, changed)

/-- `schedule_retry`. -/
def scheduleRetry (workspaceId error : String)
    (config : Config) (now : Int) : Except String Record × Registry :=
  atomicRegistryUpdate world registry (changeLive workspaceId (retry error config now))

/-- What `complete_workspace` makes of the record. -/
def finish (record : Record) : Except String (Record × Record) := do
  let path := world.resolve record.path
  let dirty ← world.checkedGit path ["status", "--porcelain"]
  require (dirty = "") "WORKSPACE_DIRTY"
  let head ← world.checkedGit path ["rev-parse", "HEAD"]
  let changed := { record with completedSha := some head, status := .completed }
  return (changed, changed)

/-- `complete_workspace`. -/
def completeWorkspace (workspaceId : String) :
    Except String Record × Registry :=
  atomicRegistryUpdate world registry (changeLive workspaceId (finish world))

/-- What `cleanup_workspace` makes of the record. -/
def clean (apply : Bool) (record : Record) :
    Except String (Record × String × Record) := do
  require (record.status = .completed ∨ record.status = .stopped) "WORKSPACE_CLEANUP_NOT_ALLOWED"
  let path := world.resolve record.path
  require (config.requireCleanCleanup = true) "WORKSPACE_DIRTY"
  let dirty ← world.checkedGit path ["status", "--porcelain"]
  require (dirty = "") "WORKSPACE_DIRTY"
  if apply then
    let _ ← world.checkedGit world.base ["worktree", "remove", pathText path]
    let changed := { record with status := .cleaned }
    return (changed, "CLEANED", changed)
  else return (record, "DRY_RUN", record)

/-- The transformation run on the registry that was read, and nothing stored. -/
def preview {α : Type} (registry : Registry)
    (transform : Registry → Except String (Registry × α)) : Except String α × Registry :=
  ((transform registry).map Prod.snd, registry)

/-- `cleanup_workspace`. -/
def cleanupWorkspace (workspaceId : String)
    (config : Config) (apply : Bool) : Except String (String × Record) × Registry :=
  let transform := changeLive workspaceId (clean world config apply)
  if apply then atomicRegistryUpdate world registry transform else preview registry transform

/-! ## Reconciliation -/

/-- `stalled` of `reconcile_workspaces`. -/
def isStalled (now : Int) (record : Record) : Bool :=
  match record.heartbeatAt.parse, record.expiresAt.parse with
  | some heartbeat, some expires =>
      now - heartbeat > config.stallTimeoutMinutes * minute || expires ≤ now
  | _, _ => true

/-- The worktree of a record is a directory under the workspace root. -/
def worktreePresent (record : Record) : Bool :=
  let path := world.resolve record.path
  let allowed := world.resolve ".adwf-runtime/workspaces"
  allowed <+: path && allowed ≠ path && world.isDir path

/-- One turn of the loop of `reconcile_workspaces`: the record and its findings. -/
def reconcileRecord (now : Int) (record : Record) :
    Record × List String :=
  match record.status with
  | .active =>
      if !worktreePresent world record then
        ({ record with
            status := .recovery, lastError := some "WORKSPACE_MISSING_OR_OUTSIDE_ROOT" },
          [record.workspaceId ++ ":RECOVERY"])
      else if isStalled config now record then
        ({ record with status := .stalled, lastError := some "HEARTBEAT_OR_LEASE_STALE" },
          [record.workspaceId ++ ":STALLED"])
      else (record, [])
  | .retryWait =>
      match record.nextRetryAt with
      | none | some (.malformed "") => (record, [])
      | some (.malformed _) =>
          ({ record with status := .recovery, lastError := some "RETRY_TIME_INVALID" }, [])
      | some (.at instant) =>
          if instant ≤ now then
            ({ record with status := .retryReady }, [record.workspaceId ++ ":RETRY_READY"])
          else (record, [])
  | _ => (record, [])

structure Reconciled where
  findings : List String
  registry : Registry

/-- The transformation `reconcile_workspaces` applies. -/
def reconcileAll (now : Int) (registry : Registry) :
    Except String (Registry × Reconciled) :=
  let turns := registry.map (reconcileRecord world config now)
  let updated := turns.map Prod.fst
  .ok (updated, { findings := turns.flatMap Prod.snd, registry := updated })

/-- `reconcile_workspaces`. -/
def reconcileWorkspaces (config : Config) (now : Int)
    (apply : Bool) : Except String Reconciled × Registry :=
  let transform := reconcileAll world config now
  if apply then atomicRegistryUpdate world registry transform else preview registry transform

inductive Operation where
  | create (lease : Leases.Lease) (apply : Bool) (now : Int)
  | heartbeat (workspaceId workerId : String) (now : Int)
  | reconcile (apply : Bool) (now : Int)
  | scheduleRetry (workspaceId error : String) (now : Int)
  | complete (workspaceId : String)
  | cleanup (workspaceId : String) (apply : Bool)

/-- An operation with the answers it gets: whether it raises, and the registry after it. -/
def perform (registry : Registry) :
    World × Operation → Except String Unit × Registry
  | (world, .create lease apply now) =>
      (createWorkspace world registry lease config apply now).map (·.map fun _ => ()) id
  | (world, .heartbeat workspaceId workerId now) =>
      (heartbeatWorkspace world registry workspaceId workerId now).map (·.map fun _ => ()) id
  | (world, .reconcile apply now) =>
      (reconcileWorkspaces world registry config now apply).map (·.map fun _ => ()) id
  | (world, .scheduleRetry workspaceId error now) =>
      (scheduleRetry world registry workspaceId error config now).map (·.map fun _ => ()) id
  | (world, .complete workspaceId) =>
      (completeWorkspace world registry workspaceId).map (·.map fun _ => ()) id
  | (world, .cleanup workspaceId apply) =>
      (cleanupWorkspace world registry workspaceId config apply).map (·.map fun _ => ()) id

def operate (registry : Registry) (operation : World × Operation) : Registry :=
  (perform config registry operation).2

/-- The registry after a sequence of operations. -/
def runs (start : Registry) (operations : List (World × Operation)) : Registry :=
  Run.final (operate config) start operations

end Adwf.Workspaces
