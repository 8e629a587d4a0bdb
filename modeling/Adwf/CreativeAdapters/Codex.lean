import Adwf.CreativeAdapters.Root

/-!
# The Codex goal adapter

`codex_goal_adapter.execute`: an agent works in a clone, its changes are checked,
applied to the real root and committed there.
-/

namespace Adwf.CreativeAdapters

open Supervisor (ClaimedWork buildWorkResult fnmatchcase namesOf pathIsAllowed textOr
  validateWorkPackage)
open Text (startsWith)

variable (setting : Setting)

/-! ## What both adapters do -/

/-- How an execution ends: with 0, or with 2 and a text on the error output. -/
inductive Exit where
  | passed
  | failed (text : String)
  deriving DecidableEq

/-- What is given to the contract of the work package. -/
structure Setting where
  rt : Runtime
  isInstant : String → Bool
  createdAt : String

/-- A refusal before anything is called. -/
inductive Refusal where
  | fails (code : String)
  | raises (error : String)

/-- `SECRET_MARKERS`. -/
def secretMarkers : List String :=
  ["TOKEN", "SECRET", "PASSWORD", "API_KEY", "CREDENTIAL", "PRIVATE_KEY"]

abbrev Environ := List (String × String)

/-- `_secret_env_leaked`. -/
def secretEnvLeaked (upper : String → String) (environ : Environ) : Bool :=
  environ.any fun entry =>
    entry.1 ≠ "ADWF_AGENT_SECRETS_AUTHORITY" &&
      secretMarkers.any fun marker => Text.hasInfix marker.toList (upper entry.1).toList

/-- `environ.get(name)`. -/
def environGet (environ : Environ) (name : String) : Json :=
  match environ.lookup name with
  | some value => .str value
  | none => .null

/-- The request file: missing, without JSON, or with a value. -/
inductive Request where
  | missing
  | invalid
  | loaded (value : Json)

/-- `if condition: return fail(code)`. -/
def refuseIf (condition : Bool) (code : String) : Except Refusal Unit :=
  if condition then .error (.fails code) else .ok ()

section Adapter

variable {Outside : Type} {OutsideValue : Outside → Type}

/-- A call on the root. -/
def onRoot (call : RootCall) : Step OutsideValue Raised (RootValue call) :=
  Program.invoke (Call.root call)

/-- `target.parent.mkdir(parents=True, exist_ok=True)`. -/
def makeParents (path : String) : Step OutsideValue Raised Unit :=
  onRoot (.makeParents path)

/-- `target.write_bytes(content)`. -/
def writeBytes (path : String) (bytes : List UInt8) : Step OutsideValue Raised Unit :=
  onRoot (.write path bytes)

/-- `target.unlink()`. -/
def unlink (path : String) : Step OutsideValue Raised Unit :=
  onRoot (.unlink path)

/-- Any other call. -/
def ask (call : Outside) : Step OutsideValue Raised (OutsideValue call) :=
  Program.invoke (Call.outside call)

/-- What the head and the status of the root end the execution with. -/
def startErrors (label : String) (isStale : Bool) : Step OutsideValue Raised (Option Exit) :=
  if isStale then pure (some (.failed (label ++ "_STALE_BASE")))
  else do
    let dirty : Bool ← onRoot (.status false)
    return if dirty = true then some (.failed (label ++ "_REAL_WORKTREE_DIRTY")) else none

/-- The arguments of `build_work_result`. -/
def claimedWork (head : String) (changed verificationClaims : List String)
    (summary : String) : ClaimedWork where
  outcome := "PASS"
  headSha := .str head
  changedPaths := changed.map .str
  verificationClaims := verificationClaims.map .str
  evidenceClaims := [.str "changed_paths", .str "verification_claims"]
  reasonCodes := []
  summaryRu := summary
  createdAt := setting.createdAt

/-- `build_work_result` with its exceptions. -/
def buildResult (package : Fields) (work : ClaimedWork) :
    Except Raised Fields :=
  match buildWorkResult setting.rt setting.isInstant package work with
  | .ok result => .ok result
  | .error (.value text) => .error (.error text)
  | .error .type => .error (.error "unhashable type")

/-- What follows the changes: they are compared, committed and reported. -/
def publish (label current : String) (package : Fields) (changed : List String)
    (verificationClaims : List String) (summary : String) : Step OutsideValue Raised Exit := do
  let tracked : String ← onRoot .diffNames
  let others : String ← onRoot .otherNames
  let actualChanged := Trust.sortedSet (namesOf tracked ++ namesOf others)
  Program.check (actualChanged = changed) (.error (label ++ "_CHANGED_PATHS_MISMATCH"))
  onRoot (.add changed)
  let code : Int ← onRoot .commit
  Program.check (code = 0) (.error (label ++ "_COMMIT_FAILED"))
  let head : String ← onRoot (.revParse true)
  Program.check (head ≠ current) (.error (label ++ "_HEAD_NOT_ADVANCED"))
  let dirty : Bool ← onRoot (.status true)
  Program.check (dirty = false) (.error (label ++ "_REAL_WORKTREE_NOT_CLEAN"))
  let result ← Program.ofExcept
    (buildResult setting package (claimedWork setting head changed verificationClaims summary))
  onRoot (.writeResult result)
  return .passed

/-- `git reset --hard` and `git clean -fd`. -/
def resetAndClean (target : String) : Step OutsideValue Raised Unit := do
  onRoot (.resetHard target)
  onRoot .clean

/-- `if root.joinpath(".git").exists()`: the root is reset and cleaned. -/
def cleanUp (target : String) : Step OutsideValue Raised Unit := do
  let present : Bool ← onRoot .gitDirectory
  if present = true then resetAndClean target
  else pure ()

/-- `str(exc)`. -/
def Raised.text : Raised → String
  | .timeout => "Command timed out"
  | .error text => text

/-- `return fail(str(exc).splitlines()[0][:240])`. -/
def report (raised : Raised) : Step OutsideValue Raised Exit :=
  match (Lines.splitText raised.text.toList).head? with
  | some line => pure (.failed (String.ofList (line.take 240)))
  | none => .fail (.error "list index out of range")

end Adapter

namespace Codex

/-- A file of the clone as it is looked at before the changes are applied. -/
structure Sized where
  place : Place
  size : Nat

/-- The calls in the order of the source; a function with calls of its own that see
nothing of the root is one call. -/
inductive Outside where
  | codexExecutable
  | codexVersion
  | verifyChatgptAuth
  | makeTemporary
  | cloneExact
  | runCodex
  | cloneHead
  | cloneRemotes
  | cloneDiff
  | cloneOthers
  | checkIgnore (path : String)
  | looked (path : String)
  | source (path : String)
  | readSource (path : String)
  | dropTemporary

/-- `runCodex` answers with what `_no_changes_diagnostic` says of its observation. -/
def OutsideValue : Outside → Type
  | .codexExecutable => String
  | .codexVersion => String
  | .runCodex => String
  | .cloneHead => String
  | .cloneRemotes => String
  | .cloneDiff => String
  | .cloneOthers => String
  | .checkIgnore _ => Bool
  | .looked _ => Sized
  | .source _ => Place
  | .readSource _ => List UInt8
  | _ => Unit

/-! ## Checks -/

/-- `HARD_FORBIDDEN_SURFACES`. -/
def hardForbiddenSurfaces : List String :=
  [".git/**", ".github/**", ".adwf-runtime/**", ".adwf/policies/**", ".adwf/roadmap.json",
    ".adwf/capabilities.json", ".adwf/capability-live-evidence.json", ".adwf/config.json",
    ".adwf/effective-policy.json", "AGENTS.md", "ADWS.md", "SPECIFICATION.md", "SECURITY.md"]

/-- `hard_forbidden`. -/
def hardForbidden (path : String) : Bool :=
  hardForbiddenSurfaces.any (fnmatchcase path)

/-- `MAX_CHANGED_FILE_BYTES`. -/
def maxChangedFileBytes : Nat :=
  1000000

/-- The checks before the `try` block. -/
def preflight (upper : String → String) (environ : Environ) (request : Request) :
    Except Refusal (Fields × String) := do
  refuseIf (secretEnvLeaked upper environ) "CODEX_GOAL_SECRET_ENVIRONMENT_LEAK"
  refuseIf (environGet environ "ADWF_AGENT_EXECUTOR_AUTH" ≠ .str "PROVIDER_MANAGED_SESSION")
    "CODEX_GOAL_EXECUTOR_AUTH_INVALID"
  refuseIf (environGet environ "ADWF_AGENT_NETWORK_AUTHORITY" ≠ .str "DECLARED_EXTERNAL")
    "CODEX_GOAL_NETWORK_AUTHORITY_INVALID"
  refuseIf (environGet environ "ADWF_AGENT_SECRETS_AUTHORITY" ≠ .str "FORBIDDEN")
    "CODEX_GOAL_SECRETS_AUTHORITY_INVALID"
  match request with
  | .missing => .error (.fails "CODEX_GOAL_REQUEST_MISSING")
  | .invalid => .error (.fails "CODEX_GOAL_REQUEST_INVALID")
  | .loaded (.obj request) =>
      match Json.get request "work_package" with
      | .obj package => do
          refuseIf (Json.get request "work_package_digest" ≠ Json.get package "package_digest")
            "CODEX_GOAL_PACKAGE_BINDING_INVALID"
          match validateWorkPackage setting.rt setting.isInstant package with
          | .error _ => .error (.raises "unhashable type")
          | .ok errors => do
              refuseIf (!errors.isEmpty) "CODEX_GOAL_PACKAGE_INVALID"
              refuseIf (environGet environ "ADWF_RUN_ID" ≠ Json.get package "run_id" ||
                environGet environ "ADWF_PHASE" ≠ Json.get package "phase")
                "CODEX_GOAL_ENV_BINDING_INVALID"
              refuseIf (Json.get package "monetary_budget_usd" ≠ .num 0) "CODEX_GOAL_BUDGET_INVALID"
              let base := textOr setting.rt (Json.get package "base_sha")
              refuseIf (!Text.isSha40 base) "CODEX_GOAL_BASE_SHA_INVALID"
              return (package, base)
      | _ => .error (.fails "CODEX_GOAL_PACKAGE_BINDING_INVALID")
  | .loaded _ => .error (.fails "CODEX_GOAL_REQUEST_NOT_OBJECT")

/-- `_safe_target`. -/
def safeTarget (place : Place) (path : String) : Except Raised Unit :=
  if path = "" ∨ startsWith path "/" ∨ '\\' ∈ path.toList ∨
      (path.toList.splitOn '/').any (fun part => part ∈ [[], ['.'], ['.', '.']]) then
    .error (.error "CODEX_GOAL_PATH_INVALID")
  else if place.linkAbove then .error (.error ("CODEX_GOAL_SYMLINK_PARENT_FORBIDDEN:" ++ path))
  else if isLink place.node then .error (.error ("CODEX_GOAL_SYMLINK_FORBIDDEN:" ++ path))
  else .ok ()

abbrev CodexStep (ε α : Type) :=
  Step OutsideValue ε α

/-- A call outside the root. -/
def call (call : Outside) : CodexStep Raised (OutsideValue call) :=
  ask call

/-- `validate_changed_paths` for one path. -/
def validateChangedPath (package : Fields) (path : String) : CodexStep Raised Unit := do
  Program.check (hardForbidden path = false ∧ pathIsAllowed path package = true)
    (.error ("CODEX_GOAL_WRITE_SURFACE_FORBIDDEN:" ++ path))
  let ignored : Bool ← call (.checkIgnore path)
  Program.check (ignored = false) (.error ("CODEX_GOAL_IGNORED_CHANGE_FORBIDDEN:" ++ path))
  let looked : Sized ← call (.looked path)
  Program.ofExcept (safeTarget looked.place path)
  Program.check (looked.place.isPresent = true → isFile looked.place.node = true)
    (.error ("CODEX_GOAL_NONFILE_CHANGE_FORBIDDEN:" ++ path))
  Program.check (looked.place.isPresent = true → looked.size ≤ maxChangedFileBytes)
    (.error ("CODEX_GOAL_CHANGED_FILE_TOO_LARGE:" ++ path))

/-- `validate_changed_paths`. -/
def validateChangedPaths (package : Fields) : List String → CodexStep Raised Unit
  | [] => pure ()
  | path :: rest => do
      validateChangedPath package path
      validateChangedPaths package rest

/-- `apply_changes` for one path. -/
def applyChange (path : String) : CodexStep Raised Unit := do
  let source : Place ← call (.source path)
  Program.ofExcept (safeTarget source path)
  let target : Place ← onRoot (.inspect path)
  Program.ofExcept (safeTarget target path)
  if source.isPresent = true then do
    Program.check (isFile source.node = true)
      (.error ("CODEX_GOAL_SOURCE_TYPE_FORBIDDEN:" ++ path))
    Program.check (target.isPresent = true → isFile target.node = true)
      (.error ("CODEX_GOAL_TARGET_TYPE_FORBIDDEN:" ++ path))
    makeParents path
    let bytes : List UInt8 ← call (.readSource path)
    writeBytes path bytes
  else if isFile target.node = true then unlink path
  else
    Program.check (target.isPresent = false)
      (.error ("CODEX_GOAL_DELETE_NONFILE_FORBIDDEN:" ++ path))

/-- `apply_changes`. -/
def applyChanges : List String → CodexStep Raised Unit
  | [] => pure ()
  | path :: rest => do
      applyChange path
      applyChanges rest

/-! ## The execution -/

/-- `changed_paths` of the two outputs. -/
def changedPaths (tracked untracked : String) : List String :=
  Trust.sortedSet (namesOf tracked ++ namesOf untracked)

/-- What happens while the clone exists. -/
def inClone (package : Fields) (base : String) : CodexStep Raised (List String) := do
  call .cloneExact
  let diagnostic : String ← call .runCodex
  let head : String ← call .cloneHead
  Program.check (head = base) (.error "CODEX_GOAL_AGENT_GIT_COMMIT_FORBIDDEN")
  let remotes : String ← call .cloneRemotes
  Program.check (remotes = "") (.error "CODEX_GOAL_AGENT_REMOTE_FORBIDDEN")
  let tracked : String ← call .cloneDiff
  let untracked : String ← call .cloneOthers
  let changed := changedPaths tracked untracked
  Program.check (changed ≠ []) (.error diagnostic)
  validateChangedPaths package changed
  applyChanges changed
  return changed

/-- The commands of the executable that come before the clone. -/
def readyAgent : CodexStep Raised String := do
  let _executable : String ← call .codexExecutable
  let version : String ← call .codexVersion
  call .verifyChatgptAuth
  return version

/-- An exception and whether the changes had been applied. -/
abbrev Progress := Raised × Bool

/-- The `try` block. -/
def attempt (setting : Setting) (package : Fields) (base : String) :
    CodexStep Progress Exit := do
  let current : String ← (onRoot (.revParse false)).raising (·, false)
  match ← (startErrors "CODEX_GOAL" (current ≠ base)).raising (·, false) with
  | some exit => return exit
  | none => do
      let version ← readyAgent.raising (·, false)
      (call .makeTemporary).raising (·, false)
      let changed ← (inClone package base).attempt fun raised => do
        (call .dropTemporary).raising (·, false)
        .fail (raised, false)
      (call .dropTemporary).raising (·, true)
      (publish setting "CODEX_GOAL" current package changed
        ["codex_chatgpt_auth_verified", "codex_workspace_write_turn_completed",
          "adwf_wrapper_scope_validated", "provider_managed_session_no_secret_forwarding"]
        ("Codex Goal " ++ version ++
          " выполнил bounded workspace-write в disposable clone; " ++
          "результат остаётся LOW_TRUST до trusted/provider verification.")).raising (·, true)

/-- The `except` clauses; the head that was read is the base then. -/
def recover (base : String) (progress : Progress) : CodexStep Raised Exit :=
  if progress.1 = .timeout then pure (.failed "CODEX_GOAL_TIMEOUT")
  else do
    (if progress.2 = true then cleanUp base else pure ()).handle fun _ => pure ()
    report progress.1

/-- `execute`. -/
def execute (upper : String → String) (environ : Environ) (request : Request) :
    CodexStep Raised Exit :=
  match preflight setting upper environ request with
  | .error (.fails code) => pure (.failed code)
  | .error (.raises error) => .fail (.error error)
  | .ok (package, base) => (attempt setting package base).attempt (recover base)

end Codex

end Adwf.CreativeAdapters
