import Adwf.CreativeAdapters.Codex

/-!
# The OpenHands adapter

`openhands_agent_adapter.execute`: an agent works in a copy of a snapshot of the
base, and what differs from the snapshot is applied to the real root and committed.
-/

namespace Adwf.CreativeAdapters.OpenHands

open Supervisor (fnmatchcase pathIsAllowed textsOf validateWorkPackage)

/-! ## Calls outside the root -/

/-- A row of `_files`. -/
inductive Row where
  | file (bytes : List UInt8)
  | symlink (target : String)
  deriving DecidableEq

/-- The rows of `_files` by their paths. -/
abbrev Rows := List (String × Row)

/-- The calls in the order of the source; `again` marks the second reading. -/
inductive Outside where
  | loadRuntimeConfig
  | configIgnored
  | makeTemporary
  | extractSnapshot
  | copySnapshot
  | runOpenhands
  | filesBefore (again : Bool)
  | filesAfter (again : Bool)
  | dropTemporary

def OutsideValue : Outside → Type
  | .configIgnored => Bool
  | .runOpenhands => Rat
  | .filesBefore _ => Rows
  | .filesAfter _ => Rows
  | _ => Unit

/-! ## Checks -/

/-- `HARD_FORBIDDEN_SURFACES`. -/
def hardForbiddenSurfaces : List String :=
  [".git/**", ".github/**", ".adwf/policies/**", ".adwf/roadmap.json", ".adwf/capabilities.json",
    ".adwf/capability-live-evidence.json", ".adwf/config.json", "AGENTS.md", "ADWS.md",
    "SPECIFICATION.md", "SECURITY.md"]

/-- `hard_forbidden`. -/
def hardForbidden (path : String) : Bool :=
  hardForbiddenSurfaces.any (fnmatchcase path)

/-- The checks before the `try` block. -/
def preflight (setting : Setting) (upper : String → String) (environ : Environ) (request : Request) :
    Except Refusal Fields := do
  refuseIf (secretEnvLeaked upper environ) "OPENHANDS_LOCAL_SECRET_ENVIRONMENT_LEAK"
  refuseIf (environGet environ "ADWF_AGENT_NETWORK_AUTHORITY" ≠ .str "DECLARED_EXTERNAL")
    "OPENHANDS_LOCAL_NETWORK_AUTHORITY_INVALID"
  refuseIf (environGet environ "ADWF_AGENT_SECRETS_AUTHORITY" ≠ .str "FORBIDDEN")
    "OPENHANDS_LOCAL_SECRETS_AUTHORITY_INVALID"
  match request with
  | .missing => .error (.fails "OPENHANDS_LOCAL_REQUEST_MISSING")
  | .invalid => .error (.fails "OPENHANDS_LOCAL_REQUEST_INVALID")
  | .loaded (.obj request) =>
      match Json.get request "work_package" with
      | .obj package => do
          refuseIf (Json.get request "work_package_digest" ≠ Json.get package "package_digest")
            "OPENHANDS_LOCAL_PACKAGE_BINDING_INVALID"
          match validateWorkPackage setting.rt setting.isInstant package with
          | .error _ => .error (.raises "unhashable type")
          | .ok errors => do
              refuseIf (!errors.isEmpty) "OPENHANDS_LOCAL_PACKAGE_INVALID"
              refuseIf (environGet environ "ADWF_RUN_ID" ≠ Json.get package "run_id" ||
                environGet environ "ADWF_PHASE" ≠ Json.get package "phase")
                "OPENHANDS_LOCAL_ENV_BINDING_INVALID"
              refuseIf (Json.get package "monetary_budget_usd" ≠ .num 0)
                "OPENHANDS_LOCAL_BUDGET_INVALID"
              refuseIf ((textsOf (Json.get package "required_evidence")).insertionSort (· ≤ ·) ≠
                ["changed_paths", "verification_claims"])
                "OPENHANDS_LOCAL_EVIDENCE_PROFILE_UNSUPPORTED"
              return package
      | _ => .error (.fails "OPENHANDS_LOCAL_PACKAGE_BINDING_INVALID")
  | .loaded _ => .error (.fails "OPENHANDS_LOCAL_REQUEST_NOT_OBJECT")

/-- `changed_paths`. -/
def changedPaths (before after : Rows) : List String :=
  (Trust.sortedSet (before.map Prod.fst ++ after.map Prod.fst)).filter fun path =>
    before.lookup path ≠ after.lookup path

def isSymlink : Option Row → Bool
  | some (.symlink _) => true
  | _ => false

abbrev OpenHandsStep (ε α : Type) :=
  Step OutsideValue ε α

/-- A call outside the root. -/
def call (call : Outside) : OpenHandsStep Raised (OutsideValue call) :=
  ask call

/-- `_apply_changes` for one path. -/
def applyChange (before after : Rows) (path : String) : OpenHandsStep Raised Unit := do
  Program.check (isSymlink (before.lookup path) = false ∧ isSymlink (after.lookup path) = false)
    (.error ("OPENHANDS_LOCAL_SYMLINK_CHANGE_FORBIDDEN:" ++ path))
  match after.lookup path with
  | none => do
      let target : Place ← onRoot (.inspect path)
      if target.node.isSome = true then unlink path
      else
        Program.check (target.isPresent = false)
          (.error ("OPENHANDS_LOCAL_DIRECTORY_CHANGE_FORBIDDEN:" ++ path))
  | some (.file bytes) => do
      makeParents path
      writeBytes path bytes
  | some (.symlink _) => .fail (.error ("OPENHANDS_LOCAL_FILE_TYPE_FORBIDDEN:" ++ path))

/-- `_apply_changes`. -/
def applyChanges (before after : Rows) : List String → OpenHandsStep Raised Unit
  | [] => pure ()
  | path :: rest => do
      applyChange before after path
      applyChanges before after rest

def isForbidden (package : Fields) (path : String) : Bool :=
  hardForbidden path || !pathIsAllowed path package

/-- What happens while the snapshot exists: it ends the execution or leaves the changed
paths. -/
def inSnapshot (package : Fields) : OpenHandsStep Raised (Exit ⊕ List String) := do
  call .extractSnapshot
  call .copySnapshot
  let cost : Rat ← call .runOpenhands
  if cost ≠ 0 then return .inl (.failed "OPENHANDS_LOCAL_NONZERO_COST")
  else do
    let before : Rows ← call (.filesBefore false)
    let after : Rows ← call (.filesAfter false)
    let changed := changedPaths before after
    if changed = [] then return .inl (.failed "OPENHANDS_LOCAL_NO_CHANGES")
    else
      match changed.find? (isForbidden package) with
      | some path => return .inl (.failed ("OPENHANDS_LOCAL_WRITE_SURFACE_FORBIDDEN:" ++ path))
      | none => do
          let snapshot : Rows ← call (.filesBefore true)
          let work : Rows ← call (.filesAfter true)
          applyChanges snapshot work changed
          return .inr changed

/-- The `try` block after the head was read. -/
def attempt (setting : Setting) (package : Fields) (current : String) :
    OpenHandsStep Raised Exit := do
  match ← startErrors "OPENHANDS_LOCAL" (.str current ≠ Json.get package "base_sha") with
  | some exit => return exit
  | none => do
      call .loadRuntimeConfig
      let ignored : Bool ← call .configIgnored
      if ignored = false then return .failed "OPENHANDS_LOCAL_CONFIG_MUST_BE_GITIGNORED"
      else do
        call .makeTemporary
        match ← (inSnapshot package).ensuring (call .dropTemporary) with
        | .inl exit => return exit
        | .inr changed =>
            publish setting "OPENHANDS_LOCAL" current package changed
              ["openhands_sdk_conversation_completed", "adwf_wrapper_scope_validated",
                "adwf_wrapper_zero_cost_observed"]
              ("OpenHands SDK выполнил bounded file-editing slice; " ++
                "результат остаётся LOW_TRUST до ADWF verification.")

/-- The `except` clause, with the head that was read, or an empty text. -/
def recover (progress : Raised × String) : OpenHandsStep Raised Exit := do
  (cleanUp (if progress.2 = "" then "HEAD" else progress.2)).handle fun _ => pure ()
  report progress.1

/-- `execute`. -/
def execute (setting : Setting) (upper : String → String) (environ : Environ) (request : Request) :
    OpenHandsStep Raised Exit :=
  match preflight setting upper environ request with
  | .error (.fails code) => pure (.failed code)
  | .error (.raises error) => .fail (.error error)
  | .ok package =>
      Program.attempt
        (do
          let current : String ← (onRoot (.revParse false)).raising (·, "")
          (attempt setting package current).raising (·, current))
        recover

end Adwf.CreativeAdapters.OpenHands
