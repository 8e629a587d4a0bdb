import Mathlib.Data.List.AList
import Adwf.Program.Alone
import Adwf.Supervisor.WriteSurface
import Adwf.Trust.Classify

/-!
# The real root of a creative adapter

Both adapters let an agent work in a disposable copy, carry its changes to the
real root and commit them there.  The root is a worktree of git: its history, its
index and its files.  Every call on it may also fail, with or without its effect.
-/

namespace Adwf.CreativeAdapters

open Supervisor (Tree DiffRecord namesOf printedDiff)
open Text (startsWith)

variable (ignored : Files → String → Bool)

/-! ## Files -/

/-- A file or a symbolic link. -/
inductive Node where
  | file (bytes : List UInt8) (executable : Bool)
  | link (target : String)
  deriving DecidableEq

abbrev Files := AList fun _ : String => Node

def insertNode (files : Files) (name : String) : Option Node → Files
  | some node => files.insert name node
  | none => files

/-- The nodes that a function gives to the names. -/
def tabulate (names : List String) (node : String → Option Node) : Files :=
  names.foldr (fun name files => insertNode files name (node name)) ∅

/-- The path lies in the directory. -/
def isBelow (directory path : String) : Bool :=
  startsWith path (directory ++ "/")

def isLink : Option Node → Bool
  | some (.link _) => true
  | _ => false

def isFile : Option Node → Bool
  | some (.file _ _) => true
  | _ => false

/-- What `lstat` finds at a path and above it. -/
structure Place where
  node : Option Node
  linkAbove : Bool
  fileAbove : Bool
  directory : Bool

/-- `exists()` where no link is met. -/
def Place.isPresent (place : Place) : Bool :=
  place.node.isSome || place.directory

/-! ## The worktree -/

structure Commit where
  id : String
  tree : Files

/-- The commits from the newest on, the index, the worktree with its ignored files, and
the result that was written. -/
structure Repo where
  history : List Commit
  index : Files
  work : Files
  result : Option Fields

namespace Repo

def head (repo : Repo) : Files :=
  (repo.history.head?.map Commit.tree).getD ∅

def headId (repo : Repo) : String :=
  (repo.history.head?.map Commit.id).getD ""

/-- A file of the worktree that the index has. -/
def trackedNode (repo : Repo) (path : String) : Option Node :=
  if (repo.index.lookup path).isSome then repo.work.lookup path else none

/-- The paths that `git diff --name-only HEAD` names. -/
def changedTracked (repo : Repo) : List String :=
  (repo.head.keys ++ repo.index.keys).dedup.filter fun path =>
    repo.head.lookup path ≠ repo.trackedNode path

/-- The paths that `git ls-files --others --exclude-standard` names. -/
def untracked (repo : Repo) : List String :=
  repo.work.keys.filter fun path =>
    (repo.index.lookup path).isNone && !ignored repo.work path

/-- `git status --porcelain` prints nothing. -/
def isClean (repo : Repo) : Bool :=
  (repo.head.keys ++ repo.index.keys).all (fun path =>
      repo.index.lookup path = repo.head.lookup path &&
        repo.work.lookup path = repo.head.lookup path) &&
    (repo.untracked ignored).isEmpty

/-- `git reset --hard`: files of the old index go, what is in the way of the tree too. -/
def resetHard (target : String) (repo : Repo) : Repo :=
  let history :=
    if target = "HEAD" then repo.history
    else repo.history.dropWhile fun commit => commit.id ≠ target
  let tree := (history.head?.map Commit.tree).getD ∅
  { repo with
    history
    index := tree
    work := tabulate (tree.keys ++ repo.work.keys) fun path =>
      if (tree.lookup path).isSome then tree.lookup path
      else if (repo.index.lookup path).isSome ||
          tree.keys.any (fun other => isBelow other path || isBelow path other) then none
      else repo.work.lookup path }

/-- `git clean -fd`. -/
def clean (repo : Repo) : Repo :=
  { repo with
    work := tabulate repo.work.keys fun path =>
      if (repo.index.lookup path).isNone && !ignored repo.work path then none
      else repo.work.lookup path }

/-- `git add -A`: the index takes over what the pathspecs match. -/
def add (isMatched : String → Bool) (repo : Repo) : Repo :=
  { repo with
    index := tabulate (repo.index.keys ++ repo.work.keys) fun path =>
      if isMatched path && ((repo.index.lookup path).isSome || !ignored repo.work path) then
        repo.work.lookup path
      else repo.index.lookup path }

/-- The index is what the head has. -/
def isStaged (repo : Repo) : Bool :=
  !(repo.head.keys ++ repo.index.keys).all fun path =>
    repo.index.lookup path = repo.head.lookup path

end Repo

/-! ## Calls on the root -/

/-- An exception. -/
inductive Raised where
  | timeout
  | error (text : String)
  deriving DecidableEq

/-- The calls of the adapters that see or change the root; `again` marks the second one
of its kind. -/
inductive RootCall where
  | revParse (again : Bool)
  | status (again : Bool)
  | inspect (path : String)
  | makeParents (path : String)
  | write (path : String) (bytes : List UInt8)
  | unlink (path : String)
  | diffNames
  | otherNames
  | add (paths : List String)
  | commit
  | writeResult (result : Fields)
  | gitDirectory
  | resetHard (target : String)
  | clean

def RootValue : RootCall → Type
  | .revParse _ => String
  | .status _ => Bool
  | .inspect _ => Place
  | .diffNames => String
  | .otherNames => String
  | .commit => Int
  | .gitDirectory => Bool
  | _ => Unit

/-- What a call that fails leaves behind. -/
inductive Left where
  | nothing
  | everything
  | cut (length : Nat)

/-- How a call fails: with an exception, or with an exit code. -/
inductive Ending where
  | raises (raised : Raised)
  | exits

structure Fault where
  left : Left
  ending : Ending

/-- What is given about the root: git's ignore rules as they follow from its files, git's
pathspecs, the id of a new commit, the directories, where a path through links leads, and
which calls fail. -/
structure Surroundings where
  ignored : Files → String → Bool
  isMatched : List String → String → Bool
  newId : String
  directory : String → Bool
  destination : String → Option String
  gitDirectory : Bool
  fault : RootCall → Option Fault

/-- The place of a path in the worktree. -/
def placeOf (env : Surroundings) (files : Files) (path : String) : Place where
  node := files.lookup path
  linkAbove := files.keys.any fun other => isBelow other path && isLink (files.lookup other)
  fileAbove := files.keys.any fun other => isBelow other path && isFile (files.lookup other)
  directory := env.directory path

section Serve

variable (env : Surroundings) (repo : Repo)

/-- The bytes of a file are replaced; its mode stays. -/
def putBytes (files : Files) (path : String) (bytes : List UInt8) : Files :=
  files.insert path (.file bytes
    (match files.lookup path with
      | some (.file _ executable) => executable
      | _ => false))

/-- Where a write to the path goes. -/
def landing (path : String) : Option String :=
  if (placeOf env repo.work path).linkAbove || isLink (repo.work.lookup path) then
    env.destination path
  else some path

def writeAt (path : String) (bytes : List UInt8) : Repo × Except Raised Unit :=
  if env.directory path then (repo, .error (.error "IsADirectoryError"))
  else
    match landing env repo path with
    | none => (repo, .ok ())
    | some target => ({ repo with work := putBytes repo.work target bytes }, .ok ())

def unlinkAt (path : String) : Repo × Except Raised Unit :=
  if (placeOf env repo.work path).linkAbove then
    match env.destination path with
    | none => (repo, .ok ())
    | some target => ({ repo with work := repo.work.erase target }, .ok ())
  else if (repo.work.lookup path).isNone then (repo, .error (.error "FileNotFoundError"))
  else ({ repo with work := repo.work.erase path }, .ok ())

/-- `git commit`: without a change in the index it exits with 1. -/
def commitStaged : Repo × Except Raised Int :=
  if repo.isStaged then
    ({ repo with history := ⟨env.newId, repo.index⟩ :: repo.history }, .ok 0)
  else (repo, .ok 1)

/-- A call that does not fail. -/
def perform : (call : RootCall) → Repo × Except Raised (RootValue call)
  | .revParse _ => (repo, .ok repo.headId)
  | .status _ => (repo, .ok (!repo.isClean env.ignored))
  | .inspect path => (repo, .ok (placeOf env repo.work path))
  | .makeParents path =>
      (repo, if (placeOf env repo.work path).fileAbove then
        .error (.error "FileExistsError") else .ok ())
  | .write path bytes => writeAt env repo path bytes
  | .unlink path => unlinkAt env repo path
  | .diffNames => (repo, .ok (Text.strip (printedDiff (repo.changedTracked.map .changed))))
  | .otherNames =>
      (repo, .ok (Text.strip (printedDiff ((repo.untracked env.ignored).map .changed))))
  | .add paths => (repo.add env.ignored (env.isMatched paths), .ok ())
  | .commit => commitStaged env repo
  | .writeResult result => ({ repo with result := some result }, .ok ())
  | .gitDirectory => (repo, .ok env.gitDirectory)
  | .resetHard target => (repo.resetHard target, .ok ())
  | .clean => (repo.clean env.ignored, .ok ())

/-- What is left behind by a call that fails. -/
def leave (left : Left) (call : RootCall) : Repo :=
  match left, call with
  | .nothing, _ => repo
  | .everything, call => (perform env repo call).1
  | .cut length, .write path bytes => (writeAt env repo path (bytes.take length)).1
  | .cut _, _ => repo

/-- The exit codes of `reset` and `clean` are not looked at, that of `commit` is; the
other calls raise. -/
def refusal (ending : Ending) : (call : RootCall) → Except Raised (RootValue call)
  | .commit =>
      match ending with
      | .raises raised => .error raised
      | .exits => .ok (1 : Int)
  | .resetHard _ =>
      match ending with
      | .raises raised => .error raised
      | .exits => .ok ()
  | .clean =>
      match ending with
      | .raises raised => .error raised
      | .exits => .ok ()
  | _ =>
      match ending with
      | .raises raised => .error raised
      | .exits => .error (.error "GIT_FAILED")

def serve (call : RootCall) : Repo × Except Raised (RootValue call) :=
  match env.fault call with
  | none => perform env repo call
  | some fault => (leave env repo fault.left call, refusal fault.ending call)

end Serve

section Steps

variable {Outside : Type} (OutsideValue : Outside → Type)

/-- A call on the root or on anything else. -/
inductive Call (Outside : Type) where
  | outside (call : Outside)
  | root (call : RootCall)

def CallValue : Call Outside → Type
  | .outside call => OutsideValue call
  | .root call => RootValue call

abbrev Step (ε α : Type) :=
  Program (Call Outside) (fun call => Except Raised (CallValue OutsideValue call)) ε α

/-- The answers of anything but the root are given. -/
def supply (env : Surroundings)
    (answer : (call : Outside) → Except Raised (OutsideValue call)) (repo : Repo) :
    (call : Call Outside) → Repo × Except Raised (CallValue OutsideValue call)
  | .outside call => (repo, answer call)
  | .root call => serve env repo call

end Steps

end Adwf.CreativeAdapters
