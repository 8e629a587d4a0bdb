import Adwf.CreativeAdapters.CodexRuns

/-!
# All or nothing

A run of either adapter commits all the changes of its agent or leaves the root as
it was, as long as the changes can be undone.
-/

namespace Adwf.CreativeAdapters

open Program (Yields)
open Supervisor (digestRuntime executingPackage setField)
open Orchestrator (headRevision otherRevision)

variable (fault : RootCall → Option Fault)

/-! ## Both adapters -/

inductive Adapter where
  | codex
  | openHands

namespace Adapter

def Outside : Adapter → Type
  | .codex => Codex.Outside
  | .openHands => OpenHands.Outside

def OutsideValue : (adapter : Adapter) → adapter.Outside → Type
  | .codex => Codex.OutsideValue
  | .openHands => OpenHands.OutsideValue

def hardForbidden : Adapter → String → Bool
  | .codex => Codex.hardForbidden
  | .openHands => OpenHands.hardForbidden

def execute : (adapter : Adapter) → Setting → (String → String) → Environ → Request →
    Step adapter.OutsideValue Raised Exit
  | .codex => Codex.execute
  | .openHands => OpenHands.execute

/-- What each adapter needs to undo its changes. -/
def Safe : (adapter : Adapter) → Surroundings →
    ((call : adapter.Outside) → Except Raised (adapter.OutsideValue call)) → Repo → Prop
  | .codex => Codex.Safe
  | .openHands => OpenHands.Safe

end Adapter

/-- An execution with all that is given to it. -/
structure Run (adapter : Adapter) where
  env : Surroundings
  answer : (call : adapter.Outside) → Except Raised (adapter.OutsideValue call)
  setting : Setting
  upper : String → String
  environ : Environ
  request : Request
  before : Repo

namespace Run

variable {adapter : Adapter}

/-- The root that is left and how the execution ends. -/
def ended (run : Run adapter) : Repo × Step adapter.OutsideValue Raised Exit :=
  (adapter.execute run.setting run.upper run.environ run.request).execute
    (supply adapter.OutsideValue run.env run.answer) run.before

/-- What the execution returns, unless it raises. -/
def exit? (run : Run adapter) : Option Exit :=
  match run.ended.2 with
  | .done exit => some exit
  | _ => none

/-- If the execution returns, all the changes are committed or none is left. -/
def IsAtomic (run : Run adapter) : Prop :=
  ∀ exit, run.exit? = some exit →
    AllOrNothing run.env adapter.hardForbidden run.request.package run.before run.ended.1
      exit

theorem ended_of_exit {run : Run adapter} {exit : Exit} (ran : run.exit? = some exit) :
    run.ended = (run.ended.1, .done exit) := by
  unfold exit? at ran
  cases last : run.ended.2 with
  | done value =>
      rw [last] at ran
      cases ran
      exact Prod.ext rfl last
  | fail error =>
      rw [last] at ran
      cases ran
  | ask call next =>
      rw [last] at ran
      cases ran

/-- A run whose changes can be undone is atomic. -/
theorem isAtomic_of_safe (run : Run adapter) (started : Started run.env run.before)
    (safe : adapter.Safe run.env run.answer run.before) : run.IsAtomic := by
  intro exit ran
  have ended := ended_of_exit ran
  cases adapter with
  | codex => exact Codex.allOrNothing_of_safe started safe ended
  | openHands => exact OpenHands.allOrNothing_of_safe started safe ended

end Run

/-! ## Runs on a root with one file -/

def pageFiles : Files :=
  (∅ : Files).insert "product/page.py" (.file [1] false)

def pageRoot : Repo where
  history := [⟨headRevision, pageFiles⟩]
  index := pageFiles
  work := pageFiles
  result := none

def pageIgnored (_ : Files) (path : String) : Bool :=
  Text.startsWith path "product/cache/"

/-- The root ignores what lies in one directory, and at most one call fails. -/
def pageSurroundings : Surroundings where
  ignored := pageIgnored
  isMatched paths path := path ∈ paths
  newId := otherRevision
  directory path := path = "product"
  destination _ := none
  gitDirectory := true
  fault := fault

def pagePackage : Fields :=
  setField executingPackage "required_evidence"
    (.arr [.str "changed_paths", .str "verification_claims"])

def pageEnviron : Environ :=
  [("ADWF_AGENT_EXECUTOR_AUTH", "PROVIDER_MANAGED_SESSION"),
    ("ADWF_AGENT_NETWORK_AUTHORITY", "DECLARED_EXTERNAL"),
    ("ADWF_AGENT_SECRETS_AUTHORITY", "FORBIDDEN"), ("ADWF_RUN_ID", "run-0001"),
    ("ADWF_PHASE", "EXECUTE")]

def pageRequest : Request :=
  .loaded (.obj [("work_package", .obj pagePackage),
    ("work_package_digest", Json.get pagePackage "package_digest")])

/-- The agent of Codex changes the page. -/
def codexAnswer : (call : Codex.Outside) → Except Raised (Codex.OutsideValue call)
  | .codexExecutable => .ok "codex"
  | .codexVersion => .ok "1.0"
  | .runCodex => .ok "CODEX_GOAL_NO_CHANGES"
  | .cloneHead => .ok headRevision
  | .cloneRemotes => .ok ""
  | .cloneDiff => .ok "product/page.py"
  | .cloneOthers => .ok ""
  | .checkIgnore _ => .ok false
  | .looked path => .ok ⟨placeOf (pageSurroundings fun _ => none) pageFiles path, 1⟩
  | .source path => .ok (placeOf (pageSurroundings fun _ => none) pageFiles path)
  | .readSource _ => .ok [2]
  | .verifyChatgptAuth => .ok ()
  | .makeTemporary => .ok ()
  | .cloneExact => .ok ()
  | .dropTemporary => .ok ()

/-- A run of Codex in which at most one call on the root fails. -/
def codexRun : Run .codex where
  env := pageSurroundings fault
  answer := codexAnswer
  setting := ⟨digestRuntime, fun _ => true, "1970-01-01T00:00:00Z"⟩
  upper := id
  environ := pageEnviron
  request := pageRequest
  before := pageRoot

/-- The commit takes too long. -/
def lateCommit : RootCall → Option Fault
  | .commit => some ⟨.nothing, .raises .timeout⟩
  | _ => none

/-- The agent of OpenHands adds a file that git ignores. -/
def openHandsAnswer : (call : OpenHands.Outside) → Except Raised (OpenHands.OutsideValue call)
  | .configIgnored => .ok true
  | .runOpenhands => .ok (0 : Rat)
  | .filesBefore _ => .ok [("product/page.py", .file [1])]
  | .filesAfter _ => .ok [("product/cache/page.bin", .file [2]), ("product/page.py", .file [1])]
  | .loadRuntimeConfig => .ok ()
  | .makeTemporary => .ok ()
  | .extractSnapshot => .ok ()
  | .copySnapshot => .ok ()
  | .dropTemporary => .ok ()

def openHandsRun : Run .openHands where
  env := pageSurroundings fun _ => none
  answer := openHandsAnswer
  setting := ⟨digestRuntime, fun _ => true, "1970-01-01T00:00:00Z"⟩
  upper := id
  environ := pageEnviron
  request := pageRequest
  before := pageRoot

theorem work_pageRoot {path : String} {node : Node}
    (held : pageRoot.work.lookup path = some node) : path = "product/page.py" := by
  by_contra other
  have missing : pageFiles.lookup path = none := AList.lookup_insert_ne other
  exact absurd (held.symm.trans missing) (by simp)

theorem started_pageRoot :
    Started (pageSurroundings fault) pageRoot := by
  have clean : pageRoot.isClean pageIgnored = true := by decide +kernel
  have fresh : pageRoot.headId ≠ otherRevision := by decide +kernel
  refine ⟨clean, by decide +kernel, fresh, ?_⟩
  intro path inside other alsoInside
  rcases Option.isSome_iff_exists.mp (AList.lookup_isSome.mpr inside) with ⟨_, held⟩
  rcases Option.isSome_iff_exists.mp (AList.lookup_isSome.mpr alsoInside) with ⟨_, alsoHeld⟩
  rw [work_pageRoot held, work_pageRoot alsoHeld]
  decide +kernel

theorem changedOf_codexAnswer : Codex.changedOf codexAnswer = ["product/page.py"] := by
  decide +kernel

theorem safe_codexRun : Codex.Safe (pageSurroundings fun _ => none) codexAnswer pageRoot := by
  have changed (path : String) (listed : path ∈ Codex.changedOf codexAnswer) :
      path = "product/page.py" := by
    rw [changedOf_codexAnswer] at listed
    exact List.mem_singleton.mp listed
  have visible : Text.startsWith "product/page.py" "product/cache/" = false := by decide
  constructor
  · refine ⟨rfl, rfl, fun _ => rfl, rfl, ?_, ?_, ?_⟩
    · intro path listed
      rw [changed path listed]
      exact fun missing => missing
    · intro files _ path missing
      refine ⟨fun listed => ?_, fun _ held => absurd missing held⟩
      rw [changed path listed]
      exact visible
    · exact fun path matched => .inl (of_decide_eq_true matched)
  · refine ⟨fun _ _ => rfl, fun _ _ => rfl, fun _ _ _ => rfl, fun _ _ => rfl, ?_, ?_, ?_, ?_, ?_⟩
    · rintro path _ looked ⟨⟩
      rfl
    · exact fun path _ => ⟨[2], rfl⟩
    · intro path listed other alsoListed looked beyond _ _ below
      rw [changed path listed, changed other alsoListed] at below
      exact absurd below (by decide +kernel)
    · intro path listed
      rw [changed path listed]
      exact ⟨by decide +kernel, by decide +kernel⟩
    · intro path listed
      rw [changed path listed]
      exact ⟨by decide +kernel, by decide +kernel⟩
  · rintro ⟨call, _, left, ⟨⟩⟩
  · exact fun same => by cases same

/-- Without a failure the change of the page is committed. -/
theorem committed_codexRun : ∃ exit, (codexRun fun _ => none).exit? = some exit ∧
      Committed (pageSurroundings fun _ => none) Codex.hardForbidden pagePackage pageRoot
        (codexRun fun _ => none).ended.1 := by
  have ran : (codexRun fun _ => none).exit? = some .passed := by decide +kernel
  exact ⟨.passed, ran, (Run.isAtomic_of_safe (codexRun fun _ => none)
    (started_pageRoot _) safe_codexRun .passed ran).1 rfl⟩

/-- Codex leaves its change where the commit times out, OpenHands leaves an ignored file. -/
theorem not_always_isAtomic : (¬∀ run : Run .codex, Started run.env run.before → run.IsAtomic) ∧
      ¬∀ run : Run .openHands, Started run.env run.before → run.IsAtomic := by
  constructor
  · intro always
    have ends : (codexRun lateCommit).exit? = some (.failed "CODEX_GOAL_TIMEOUT") ∧
        (codexRun lateCommit).ended.1.work.lookup "product/page.py" = some (.file [2] false) := by
      decide +kernel
    have untouched := (always (codexRun lateCommit) (started_pageRoot _) _ ends.1).2
      (fun passed => by cases passed)
    have old := ends.2.symm.trans (untouched.work "product/page.py")
    exact absurd old (by decide)
  · intro always
    have ends : openHandsRun.exit? = some (.failed "OPENHANDS_LOCAL_CHANGED_PATHS_MISMATCH") ∧
        openHandsRun.ended.1.work.lookup "product/cache/page.bin" = some (.file [2] false) := by
      decide +kernel
    have untouched := (always openHandsRun (started_pageRoot _) _ ends.1).2
      (fun passed => by cases passed)
    have old := ends.2.symm.trans (untouched.work "product/cache/page.bin")
    exact absurd old (by decide)

end Adwf.CreativeAdapters
