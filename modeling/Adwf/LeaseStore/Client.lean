import Mathlib.Data.List.Sort
import Adwf.LeaseStore.Anchor

/-!
# The lease store client

The operations of `GitHubLeaseStore` as programs over provider calls.  A client
reads the chain of anchors, computes the next registry, creates the tag object
and then the tag ref of the next revision, and reads both back.
-/

namespace Adwf.LeaseStore

open Adwf.Fallible Adwf.LeaseRegistry

/-! ## Provider calls -/

/-- A tag ref: its name without `refs/tags/` and the object it names. -/
structure RefRow where
  name : String
  sha : String
  deriving DecidableEq

/-- An annotated tag; `message` is absent when it is not a text. -/
structure TagObject where
  sha : String
  tag : String
  targetSha : String
  targetType : String
  message : Option AnchorMessage
  deriving DecidableEq

/-- The members of a repository ruleset that are checked. -/
structure Ruleset where
  name : String
  target : String
  enforcement : String
  bypassActors : List String
  includes : List String
  ruleTypes : List String

/-- The calls of `GitHubClient` the store makes. -/
inductive Call where
  | repoInfo
  | branch (name : String)
  | rulesets
  | matchingTagRefs
  | tagRef (tag : String)
  | tagObject (sha : String)
  | createTagObject (tag sha : String) (message : AnchorMessage)
  | createTagRef (tag sha : String)

/-- What a successful call returns: the default branch, the SHA of a branch, the
rulesets, refs, a tag object, the SHA of the created object. -/
def Value : Call → Type
  | .repoInfo => String
  | .branch _ => String
  | .rulesets => List Ruleset
  | .matchingTagRefs => List RefRow
  | .tagRef _ => RefRow
  | .tagObject _ => TagObject
  | .createTagObject _ _ _ => String
  | .createTagRef _ _ => Unit

/-- A call returns or raises; the text of the exception is kept. -/
def Answer (call : Call) : Type :=
  Except String (Value call)

abbrev StoreProgram (α : Type) := Program Call Answer StoreError α

def ask (call : Call) : StoreProgram (Value call) := do
  let answer ← Program.request call
  match (answer : Except String (Value call)) with
  | .ok value => Program.done value
  | .error text => Program.fail (.provider text)

/-- `try: call except Exception: raise ValueError(code)`. -/
def askOr (call : Call) (code : String) : StoreProgram (Value call) :=
  (ask call).handle fun _ => Program.fail (valueError code)

/-- `_default_branch_and_main`. -/
def defaultBranchAndMain : StoreProgram (String × String) := do
  let default : String ← ask .repoInfo
  Program.check (default ≠ "") (valueError "LEASE_PROVIDER_DEFAULT_BRANCH_MISSING")
  let sha : String ← ask (.branch default)
  Program.check (Text.isSha40 sha = true) (valueError "LEASE_PROVIDER_MAIN_SHA_INVALID")
  return (default, sha)

/-- `_require_main`. -/
def requireMain (expectedMainSha : String) : StoreProgram String := do
  Program.check (Text.isSha40 expectedMainSha = true)
    (valueError "LEASE_PROVIDER_EXPECTED_MAIN_SHA_INVALID")
  let current ← defaultBranchAndMain
  Program.check (current.2 = expectedMainSha) (valueError "LEASE_PROVIDER_MAIN_SHA_DRIFT")
  return current.2

/-- What the anchor ruleset lacks. -/
def rulesetReasons (ruleset : Ruleset) : List String :=
  (if ruleset.target ≠ "tag" then ["ANCHOR_RULESET_TARGET"] else []) ++
  (if ruleset.enforcement ≠ "active" then ["ANCHOR_RULESET_ENFORCEMENT"] else []) ++
  (if ruleset.bypassActors ≠ [] then ["ANCHOR_RULESET_BYPASS_ACTORS_PRESENT"] else []) ++
  (if "refs/tags/adwf-runtime-anchor-*" ∈ ruleset.includes then []
    else ["ANCHOR_RULESET_PATTERN"]) ++
  (if "deletion" ∈ ruleset.ruleTypes ∧ "update" ∈ ruleset.ruleTypes then []
    else ["ANCHOR_RULESET_IMMUTABILITY_RULES_MISSING"])

/-- `verify_runtime_anchor_ruleset`: `none` when a ruleset satisfies it, and
otherwise the reasons collected so far. -/
def verifyRuntimeAnchorRuleset (reasons : List String) : List Ruleset → Option (List String)
  | [] => some (reasons ++ ["RUNTIME_ANCHOR_RULESET_NOT_VERIFIED"]).reverse.dedup.reverse
  | ruleset :: rest =>
      if ruleset.name ≠ "ADWF immutable runtime anchors" then
        verifyRuntimeAnchorRuleset reasons rest
      else if rulesetReasons ruleset = [] then none
      else verifyRuntimeAnchorRuleset (reasons ++ rulesetReasons ruleset) rest

/-- `_require_anchor_ruleset`. -/
def requireAnchorRuleset : StoreProgram PUnit := do
  let rulesets : List Ruleset ← askOr .rulesets "LEASE_PROVIDER_ANCHOR_RULESET_READBACK_FAILED"
  match verifyRuntimeAnchorRuleset [] rulesets with
  | none => Program.done ⟨⟩
  | some reasons =>
      Program.fail (.value (.listing "LEASE_PROVIDER_ANCHOR_RULESET_NOT_VERIFIED" reasons))

/-! ## Reading the chain -/

/-- A ref with the revision its name states. -/
structure AnchorRef where
  revision : Int
  row : RefRow
  deriving DecidableEq

/-- The loop of `_matching_refs`, with the revisions seen so far. -/
def parseRefs (seen : List Int) : List RefRow → Checked (List AnchorRef)
  | [] => .ok []
  | row :: rest =>
      match tagRevision row.name with
      | none =>
          .error (.value (.listing "LEASE_PROVIDER_ANCHOR_NAME_INVALID"
            [String.ofList (row.name.toList.take 120)]))
      | some revision =>
          if revision ∈ seen then
            .error (valueError "LEASE_PROVIDER_ANCHOR_REVISION_DUPLICATE")
          else (parseRefs (revision :: seen) rest).map (⟨revision, row⟩ :: ·)

/-- `_matching_refs`. -/
def matchingRefs : StoreProgram (List AnchorRef) := do
  let rows : List RefRow ← ask .matchingTagRefs
  let parsed ← Program.ofExcept (parseRefs [] rows)
  return parsed.insertionSort fun left right => left.revision ≤ right.revision

/-- What `_read_anchor` returns. -/
structure AnchorRead where
  event : AnchorEvent
  tagObjectSha : String
  targetSha : String

/-- The checks of `_read_anchor` on the ref. -/
def requireRef (revision : Int) (row : RefRow) : Checked Unit := do
  let name ← tagName revision
  require (row.name = name) (valueError "LEASE_PROVIDER_ANCHOR_NAME_REVISION_MISMATCH")
  require (Text.isSha40 row.sha = true) (valueError "LEASE_PROVIDER_ANCHOR_REF_INVALID")

/-- The checks of `_read_anchor` on the tag object. -/
def eventOfObject (rt : Runtime) (repo : String) (revision : Int) (row : RefRow)
    (object : TagObject) : Checked AnchorRead := do
  require (object.sha = row.sha) (valueError "LEASE_PROVIDER_ANCHOR_OBJECT_SHA_MISMATCH")
  require (object.tag = row.name) (valueError "LEASE_PROVIDER_ANCHOR_OBJECT_TAG_MISMATCH")
  require (Text.isSha40 object.targetSha = true ∧ object.targetType = "commit")
    (valueError "LEASE_PROVIDER_ANCHOR_TARGET_INVALID")
  match object.message with
  | none => throw (valueError "LEASE_PROVIDER_ANCHOR_MESSAGE_INVALID")
  | some message => do
      let event ← parseEvent rt message
      require (event.revision = revision)
        (valueError "LEASE_PROVIDER_ANCHOR_EVENT_REVISION_MISMATCH")
      require (event.registry.repository = repo) (valueError "LEASE_PROVIDER_REPOSITORY_MISMATCH")
      require (event.registry.observedMainSha = object.targetSha)
        (valueError "LEASE_PROVIDER_ANCHOR_MAIN_BINDING_MISMATCH")
      return ⟨event, row.sha, object.targetSha⟩

section Client

variable (rt : Runtime) (repo : String)

/-- `_read_anchor`. -/
def readAnchor (revision : Int) (row : RefRow) : StoreProgram AnchorRead := do
  let _ ← Program.ofExcept (requireRef revision row)
  let object : TagObject ← askOr (.tagObject row.sha) "LEASE_PROVIDER_ANCHOR_OBJECT_UNAVAILABLE"
  Program.ofExcept (eventOfObject rt repo revision row object)

/-- The loop over the refs, with the latest registry and anchor so far. -/
def readChain (gap : Int → Int → StoreError) :
    Int → Option Registry × Option String → List AnchorRef →
      StoreProgram (Option Registry × Option String)
  | _, latest, [] => return latest
  | expected, latest, ref :: rest => do
      Program.check (ref.revision = expected) (gap expected ref.revision)
      let anchor ← readAnchor rt repo ref.revision ref.row
      Program.check (anchor.event.previousTagObjectSha = latest.2)
        (valueError "LEASE_PROVIDER_ANCHOR_CHAIN_MISMATCH")
      readChain gap (expected + 1) (some anchor.event.registry, some anchor.tagObjectSha) rest

/-- The main branch and the ceiling a client expects. -/
structure Binding where
  expectedMainSha : String
  policyMaxParallelWriters : Int
  deriving DecidableEq

/-- The error of `read` on a gap in the revisions. -/
def sequenceGap (expected actual : Int) : StoreError :=
  .value (.listing "LEASE_PROVIDER_ANCHOR_SEQUENCE_GAP"
    ["expected=" ++ toString expected ++ ":actual=" ++ toString actual])

/-- `read`. -/
def read (binding : Binding) : StoreProgram (Registry × Option String) := do
  let _ ← requireMain binding.expectedMainSha
  requireAnchorRuleset
  let refs ← matchingRefs
  if refs = [] then do
    let _ ← requireMain binding.expectedMainSha
    let empty ← Program.ofExcept (raiseValue (emptyLeaseRegistry rt repo
      binding.expectedMainSha binding.policyMaxParallelWriters))
    return (empty, none)
  else do
    let latest ← readChain rt repo sequenceGap 1 (none, none) refs
    let _ ← requireMain binding.expectedMainSha
    match latest.1 with
    | none => Program.fail .assertion
    | some state => do
        Program.check (state.maxParallelWriters = binding.policyMaxParallelWriters)
          (valueError "LEASE_POLICY_CEILING_MISMATCH")
        return (state, latest.2)

/-! ## Appending a revision -/

/-- The checks of `_append_cas` on the new state. -/
def requireTransition (state : Registry) (previousRevision : Int) (expectedMainSha : String) :
    Checked Unit := do
  requireState rt state
  require (state.revision = previousRevision + 1)
    (valueError "LEASE_PROVIDER_REVISION_TRANSITION_INVALID")
  require (state.observedMainSha = expectedMainSha)
    (valueError "LEASE_PROVIDER_STATE_MAIN_BINDING_INVALID")

def casConflict : StoreError :=
  valueError "LEASE_PROVIDER_CAS_CONFLICT"

/-- The ref creation of `_append_cas`: a refusal is a conflict. -/
def createRef (name sha : String) : StoreProgram Unit :=
  (ask (.createTagRef name sha)).handle fun error =>
    if error = .provider "PROVIDER_HTTP_409" ∨ error = .provider "PROVIDER_HTTP_422" then
      Program.fail casConflict
    else Program.fail error

/-- `_append_cas` after the ref was created. -/
def readBack (state : Registry) (expectedMainSha name sha : String) (event : AnchorEvent) :
    StoreProgram (Registry × String) := do
  let exact : RefRow ← askOr (.tagRef name) "LEASE_PROVIDER_ANCHOR_REF_READBACK_FAILED"
  let anchor ← readAnchor rt repo state.revision exact
  Program.check (anchor.tagObjectSha = sha ∧ anchor.targetSha = expectedMainSha ∧
    anchor.event = event) (valueError "LEASE_PROVIDER_READBACK_MISMATCH")
  let _ ← requireMain expectedMainSha
  requireAnchorRuleset
  return (state, sha)

/-- `_append_cas`. -/
def appendCas (state : Registry) (previous : Option String) (previousRevision : Int)
    (expectedMainSha : String) : StoreProgram (Registry × String) := do
  let _ ← Program.ofExcept (requireTransition rt state previousRevision expectedMainSha)
  let _ ← requireMain expectedMainSha
  requireAnchorRuleset
  let name ← Program.ofExcept (tagName state.revision)
  let event ← Program.ofExcept (buildEvent rt state previous)
  let sha : String ← ask (.createTagObject name expectedMainSha (.canonical event))
  Program.check (Text.isSha40 sha = true)
    (valueError "LEASE_PROVIDER_ANCHOR_OBJECT_CREATE_FAILED")
  createRef name sha
  readBack rt repo state expectedMainSha name sha event

def casConflictUnresolved : StoreError :=
  valueError "LEASE_PROVIDER_CAS_CONFLICT_UNRESOLVED"

def casLost (revision : Int) (anchor : String) : StoreError :=
  .value (.listing "LEASE_PROVIDER_CAS_LOST"
    ["revision=" ++ toString revision ++ ":anchor=" ++ anchor])

/-- What `_persist_transition` does on a conflict: it reads the chain again and
names the winner. -/
def reportConflict (binding : Binding) (previousRevision : Int) :
    StoreProgram (Registry × String) := do
  let winner ← read rt repo binding
  match winner.2 with
  | none => Program.fail casConflictUnresolved
  | some anchor =>
      if winner.1.revision ≤ previousRevision then Program.fail casConflictUnresolved
      else Program.fail (casLost winner.1.revision anchor)

/-- `_persist_transition`. -/
def persistTransition (state : Registry) (previous : Option String) (previousRevision : Int)
    (binding : Binding) : StoreProgram (Registry × String) :=
  (appendCas rt repo state previous previousRevision binding.expectedMainSha).handle
    fun error =>
      if error = casConflict then reportConflict rt repo binding previousRevision
      else Program.fail error

/-! ## Operations -/

/-- The arguments of `acquire`; `uuid` is the fresh UUID used when no lease id
is given. -/
structure AcquireArguments extends Binding where
  issueId : String
  roadmapId : String
  workerId : String
  baseSha : String
  branch : String
  resources : Json
  now : Int
  ttlMinutes : Int := 120
  leaseId : Option String := none
  uuid : String

structure HeartbeatArguments extends Binding where
  leaseId : String
  workerId : String
  now : Int
  ttlMinutes : Int := 120

structure ReleaseArguments extends Binding where
  leaseId : String
  workerId : String
  providerReconciled : Bool
  providerReconciliationRef : String
  now : Int

/-- The registry call of `acquire`. -/
def AcquireArguments.request (arguments : AcquireArguments) (state : Registry) :
    AcquireRequest where
  expectedRevision := state.revision
  observedMainSha := arguments.expectedMainSha
  policyMaxParallelWriters := arguments.policyMaxParallelWriters
  issueId := arguments.issueId
  roadmapId := arguments.roadmapId
  workerId := arguments.workerId
  baseSha := arguments.baseSha
  branch := arguments.branch
  resources := arguments.resources
  now := arguments.now
  ttlMinutes := arguments.ttlMinutes
  leaseId := arguments.leaseId
  uuid := arguments.uuid

/-- The registry call of `heartbeat`. -/
def HeartbeatArguments.request (arguments : HeartbeatArguments) (state : Registry) :
    HeartbeatRequest where
  expectedRevision := state.revision
  leaseId := arguments.leaseId
  workerId := arguments.workerId
  observedMainSha := arguments.expectedMainSha
  now := arguments.now
  ttlMinutes := arguments.ttlMinutes

/-- The registry call of `release`. -/
def ReleaseArguments.request (arguments : ReleaseArguments) (state : Registry) :
    ReleaseRequest where
  expectedRevision := state.revision
  leaseId := arguments.leaseId
  workerId := arguments.workerId
  observedMainSha := arguments.expectedMainSha
  providerReconciled := arguments.providerReconciled
  providerReconciliationRef := arguments.providerReconciliationRef
  now := arguments.now

/-- What an operation returns. -/
inductive Outcome where
  | observed (state : Registry) (anchor : Option String)
  | acquired (state : Registry) (lease : Lease) (anchor : String)
  | persisted (state : Registry) (anchor : String)

/-- `acquire`. -/
def acquire (arguments : AcquireArguments) : StoreProgram Outcome := do
  let _ ← requireMain arguments.expectedMainSha
  let current ← read rt repo arguments.toBinding
  Program.check (current.1.observedMainSha ≠ arguments.expectedMainSha →
    activeLeases current.1.leases = []) (valueError "LEASE_PROVIDER_RECONCILIATION_REQUIRED")
  let updated ← Program.ofExcept
    (raiseValue (acquireRegistryLease rt current.1 (arguments.request current.1)))
  let persisted ← persistTransition rt repo updated.1 current.2 current.1.revision
    arguments.toBinding
  return .acquired persisted.1 updated.2 persisted.2

/-- `heartbeat`. -/
def heartbeat (arguments : HeartbeatArguments) : StoreProgram Outcome := do
  let _ ← requireMain arguments.expectedMainSha
  let current ← read rt repo arguments.toBinding
  Program.check (current.1.observedMainSha = arguments.expectedMainSha)
    (valueError "LEASE_PROVIDER_RECONCILIATION_REQUIRED")
  let updated ← Program.ofExcept
    (raiseValue (heartbeatRegistryLease rt current.1 (arguments.request current.1)))
  let persisted ← persistTransition rt repo updated current.2 current.1.revision
    arguments.toBinding
  return .persisted persisted.1 persisted.2

/-- `release`. -/
def release (arguments : ReleaseArguments) : StoreProgram Outcome := do
  let _ ← requireMain arguments.expectedMainSha
  requireAnchorRuleset
  let refs ← matchingRefs
  Program.check (refs ≠ []) (valueError "LEASE_PROVIDER_RELEASE_WITHOUT_REGISTRY")
  let latest ← readChain rt repo
    (fun _ _ => valueError "LEASE_PROVIDER_ANCHOR_SEQUENCE_GAP") 1 (none, none) refs
  match latest.1 with
  | none => Program.fail .assertion
  | some state => do
      Program.check (state.maxParallelWriters = arguments.policyMaxParallelWriters)
        (valueError "LEASE_POLICY_CEILING_MISMATCH")
      let updated ← Program.ofExcept
        (raiseValue (releaseRegistryLease rt state (arguments.request state)))
      let persisted ← persistTransition rt repo updated latest.2 state.revision
        arguments.toBinding
      return .persisted persisted.1 persisted.2

/-- One run of one operation of the store. -/
inductive Operation where
  | read (binding : Binding)
  | acquire (arguments : AcquireArguments)
  | heartbeat (arguments : HeartbeatArguments)
  | release (arguments : ReleaseArguments)

def Operation.program : Operation → StoreProgram Outcome
  | .read binding => do
      let current ← LeaseStore.read rt repo binding
      return .observed current.1 current.2
  | .acquire arguments => LeaseStore.acquire rt repo arguments
  | .heartbeat arguments => LeaseStore.heartbeat rt repo arguments
  | .release arguments => LeaseStore.release rt repo arguments

end Client

end Adwf.LeaseStore
