import Adwf.Program.Traces
import Adwf.Trust.Classify

/-!
# What the trusted gate reads

The calls of `publish_trusted_gate` with their answers, and the readings that
turn answers into exact commits, trees and texts.
-/

namespace Adwf.Gate

open Trust

/-! ## Calls and answers -/

/-- The contexts that are published. -/
inductive Context where
  | governanceGate | trustedGate
  deriving DecidableEq, Repr

inductive Conclusion where
  | success | failure
  deriving DecidableEq, Repr

/-- A workflow run; the numbers of its pull requests are `none` where they are no integers. -/
structure WorkflowRun where
  id : Option Int := none
  name : Option String := none
  event : Option String := none
  headSha : Option String := none
  status : Option String := none
  conclusion : Option String := none
  pullRequests : List (Option Int) := []
  deriving DecidableEq

structure CheckRun where
  name : Option String := none
  headSha : Option String := none
  status : Option String := none
  conclusion : Option String := none
  appSlug : Option String := none
  deriving DecidableEq

structure Pull where
  number : Option Int := none
  headSha : Option String := none
  baseSha : Option String := none
  baseRef : Option String := none
  author : Option String := none
  body : Option String := none
  deriving DecidableEq

structure Review where
  state : Option String := none
  commitId : Option String := none
  login : Option String := none
  deriving DecidableEq

structure Content where
  type : Option String := none
  encoding : Option String := none
  content : Option String := none
  deriving DecidableEq

/-- A commit; `parents` is missing where the member is no list. -/
structure Commit where
  sha : Option String := none
  treeSha : Option String := none
  parents : Option (List (Option String)) := none
  deriving DecidableEq

structure TreeItem where
  type : Option String := none
  mode : Option String := none
  path : Option String := none
  sha : Option String := none
  deriving DecidableEq

/-- A tree; `entries` is missing where the member is no list. -/
structure Tree where
  sha : Option String := none
  truncated : Option Bool := none
  entries : Option (List TreeItem) := none
  deriving DecidableEq

/-- The answer of `verify_provider_certification`. -/
structure Certified where
  verified : Bool
  reasonCodes : List String := []
  deriving DecidableEq

inductive Call where
  | runs
  | run (id : Int)
  | pulls
  | checkRuns (sha : String)
  | pull (number : Int)
  | pullReviews (number : Int)
  | permission (login : String)
  | content (path ref : String)
  | commit (sha : String)
  | tree (sha : String)
  | ref (name : String)
  | certification (certificate : Json)
  | status (sha : String) (context : Context) (state : Conclusion)
  | checkRun (sha : String) (context : Context) (conclusion : Conclusion)

/-- What a call returns. -/
abbrev Value : Call → Type
  | .runs => List WorkflowRun
  | .run _ => WorkflowRun
  | .pulls => List Pull
  | .checkRuns _ => List CheckRun
  | .pull _ => Pull
  | .pullReviews _ => List Review
  | .permission _ => Option String
  | .content _ _ => Content
  | .commit _ => Commit
  | .tree _ => Tree
  | .ref _ => Option String
  | .certification _ => Certified
  | .status _ _ _ => Unit
  | .checkRun _ _ _ => Unit

/-- The classes of exceptions that the handlers tell apart. -/
inductive Raised where
  | providerContractError
  | timeoutError
  | valueError (text : String)
  | other (name : String)
  deriving DecidableEq

/-- A call answers with a value or raises. -/
abbrev Answer (call : Call) :=
  Except Raised (Value call)

abbrev GateM :=
  Program Call Answer Raised

abbrev Event :=
  Program.Event Call Answer

/-- A call of the client. -/
def request (call : Call) : GateM (Value call) :=
  Program.invoke call

/-- `except (ProviderContractError, TimeoutError, json.JSONDecodeError, ValueError)`. -/
def Raised.isHandled : Raised → Bool
  | .other _ => false
  | _ => true

def valueError {α : Type} (text : String) : Except Raised α :=
  .error (.valueError text)

/-- `if not condition: raise ValueError(text)`. -/
def demand (condition : Prop) [Decidable condition] (text : String) : Except Raised Unit :=
  Fallible.require condition (.valueError text)

/-- A computation whose errors are `ValueError`s. -/
def asValueError {α : Type} (result : Except String α) : Except Raised α :=
  result.mapError .valueError

/-- The parsers and computations of other modules.  A decoded blob comes with its length in
bytes. -/
structure Tools where
  rt : Runtime
  texts : TextTools
  loads : String → Except Raised Json
  decodeBase64 : String → Option (Nat × String)
  ownerAttestations : String → List String
  certificationErrors : Json → Json → Json → Except Raised (List String)
  certifications : Json → Except Raised (List Json)

/-! ## Exact readings -/

/-- `_exact_sha`. -/
def exactSha (value : Option String) (code : String) : Except Raised String := do
  let sha := (value.getD "").toLower
  demand (Text.isSha40 sha = true) code
  return sha

section Readings

variable (tools : Tools)

/-- The text of a file that the contents API returned. -/
def blobText (payload : Content) : Except Raised String := do
  demand (payload.type = none ∨ payload.type = some "file") "GITHUB_BLOB_NOT_FILE"
  demand (payload.encoding = some "base64") "GITHUB_BLOB_ENCODING_INVALID"
  match tools.decodeBase64 (payload.content.getD "") with
  | none => valueError "GITHUB_BLOB_BASE64_INVALID"
  | some (length, text) => do
      demand (length ≤ 2 * 1024 * 1024) "GITHUB_BLOB_INSPECTION_LIMIT"
      return text

/-- `_github_blob`. -/
def githubBlob (path sha : String) : GateM String := do
  let normalized ← .ofExcept (asValueError (normalizeRepoPath path))
  let exact ← .ofExcept (exactSha (some sha) "BLOB_SHA_INVALID")
  let payload ← request (.content normalized exact)
  .ofExcept (blobText tools payload)

/-- A commit as the cache keeps it. -/
structure CommitNode where
  sha : String
  treeSha : String
  parents : List String
  deriving DecidableEq

/-- The commits that have been read. -/
abbrev Cache :=
  List CommitNode

/-- The node of a commit that was asked for under its SHA. -/
def commitNode (sha : String) (payload : Commit) : Except Raised CommitNode := do
  let read ← exactSha payload.sha "GIT_COMMIT_READBACK_SHA_INVALID"
  demand (read = sha) "GIT_COMMIT_READBACK_SHA_MISMATCH"
  let treeSha ← exactSha payload.treeSha "GIT_COMMIT_TREE_SHA_INVALID"
  match payload.parents with
  | none => valueError "GIT_COMMIT_PARENTS_INVALID"
  | some parents => do
      let parentShas ← parents.mapM fun parent => exactSha parent "GIT_COMMIT_PARENT_SHA_INVALID"
      return ⟨sha, treeSha, parentShas⟩

/-- `_provider_commit_node`. -/
def providerCommitNode (sha : String) (cache : Cache) : GateM (CommitNode × Cache) := do
  let commitSha ← .ofExcept (exactSha (some sha) "GIT_COMMIT_SHA_INVALID")
  match cache.find? fun node => node.sha = commitSha with
  | some node => return (node, cache)
  | none => do
      let payload ← request (.commit commitSha)
      let node ← .ofExcept (commitNode commitSha payload)
      return (node, node :: cache)

/-- `_MAX_ANCESTRY_COMMITS`. -/
def maxAncestryCommits : Nat :=
  512

/-- The pending commits from the first that is the base or has not been seen. -/
def nextPending (base : String) (pending seen : List String) : List String :=
  pending.dropWhile fun current => current ≠ base ∧ current ∈ seen

/-- The loop of `_prove_base_ancestor`; `room` more commits may be inspected. -/
def proveAncestor (base : String) (room : Nat) (pending seen : List String) (cache : Cache) :
    GateM Cache :=
  match nextPending base pending seen with
  | [] => .fail (.valueError "PR_BASE_NOT_ANCESTOR_OF_HEAD")
  | current :: others =>
      if current = base then do
        let read ← providerCommitNode current cache
        return read.2
      else
        match room with
        | 0 => .fail (.valueError "PR_ANCESTRY_INSPECTION_LIMIT")
        | room + 1 => do
            let read ← providerCommitNode current cache
            proveAncestor base room
              (others ++ read.1.parents.filter fun parent => parent ∉ current :: seen)
              (current :: seen) read.2
  termination_by structural room

/-- A file of a tree. -/
structure FileEntry where
  type : String
  mode : String
  sha : String
  deriving DecidableEq, Repr

abbrev Files :=
  List (String × FileEntry)

/-- `_TREE_FILE_MODES`. -/
def treeFileModes : List (String × List String) :=
  [("blob", ["100644", "100755", "120000"]), ("commit", ["160000"])]

/-- `_MAX_TREE_FILES`. -/
def maxTreeFiles : Nat :=
  100000

/-- One round of the loop over the entries of a tree. -/
def addEntry (files : Files) (item : TreeItem) : Except Raised Files := do
  let kind := item.type.getD ""
  if kind = "tree" then return files
  else
    match treeFileModes.lookup kind with
    | none => valueError "GIT_TREE_ENTRY_TYPE_UNSUPPORTED"
    | some modes => do
        let path ← asValueError (normalizeRepoPath (item.path.getD ""))
        let mode := item.mode.getD ""
        demand (mode ∈ modes) "GIT_TREE_ENTRY_MODE_INVALID"
        let sha ← exactSha item.sha "GIT_TREE_ENTRY_SHA_INVALID"
        demand (files.lookup path = none) "GIT_TREE_DUPLICATE_PATH"
        let added := files ++ [(path, ⟨kind, mode, sha⟩)]
        demand (added.length ≤ maxTreeFiles) "GIT_TREE_FILE_INSPECTION_LIMIT"
        return added

/-- The files of a tree that was asked for under its SHA. -/
def treeFiles (sha : String) (payload : Tree) : Except Raised Files := do
  let read ← exactSha payload.sha "GIT_TREE_READBACK_SHA_INVALID"
  demand (read = sha) "GIT_TREE_READBACK_SHA_MISMATCH"
  demand (payload.truncated = some false) "GIT_TREE_READBACK_TRUNCATED_OR_UNKNOWN"
  match payload.entries with
  | none => valueError "GIT_TREE_ENTRIES_INVALID"
  | some entries => entries.foldlM addEntry []

/-- `_provider_tree_files`. -/
def providerTreeFiles (treeSha : String) : GateM Files := do
  let exact ← .ofExcept (exactSha (some treeSha) "GIT_TREE_SHA_INVALID")
  let payload ← request (.tree exact)
  .ofExcept (treeFiles exact payload)

end Readings

end Adwf.Gate
