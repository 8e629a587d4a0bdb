import Adwf.Value.Fallible
import Adwf.Value.Text

/-!
# Project execution sessions

The commands of a project run in a clone of its exact revision.  The session
collects reason codes as its methods return, and the evidence that it leaves at
its end passes when there are none.
-/

namespace Adwf.ProjectExecution

open Fallible

/-- An exception: a `ProjectExecutionError` with its text, or any other. -/
inductive Raised where
  | execution (message : String)
  | other
  deriving DecidableEq

/-- A command of the bound Project Pack. -/
structure PackCommand where
  available : Bool
  command : List String

/-- A session after `__enter__`. -/
structure Context where
  head : String
  tree : String
  /-- The parts of the path of the clone. -/
  workspace : List String
  commands : String → Option PackCommand
  pack : String
  packDigest : String
  network : String
  purpose : String
  executionId : String
  environmentNames : List String
  /-- SHA-256 of a text, in hexadecimal. -/
  digest : String → String

/-- What Git answers about the clone and about the canonical checkout. -/
structure Observed where
  /-- The tracked and the untracked lines of `git status`. -/
  statusCounts : Except Raised (Nat × Nat)
  trackedDirty : Except Raised Bool
  identity : Except Raised (String × String)
  canonicalIdentity : Except Raised (String × String)
  canonicalClean : Except Raised Bool

/-- How `subprocess.run` ends; `unstarted` and `interrupted` stand for other
exceptions, before and after the command started. -/
inductive Outcome where
  | completed (returncode : Int)
  | notFound
  | timeout
  | unstarted
  | interrupted

/-- How `subprocess.Popen` ends. -/
inductive Opened where
  | process (number : Nat)
  | notFound
  | failed

structure CommandRecord where
  name : String
  packBound : Bool
  argvSha256 : String
  returncode : Int
  safe : Bool
  reasonCodes : List String
  trackedMutationCount : Nat
  untrackedOutputCount : Nat

/-- What a method adds to the session. -/
structure Effect where
  record : CommandRecord
  reasons : List String

section Methods

variable (ctx : Context)

/-- `_canonical_ok`. -/
def canonicalOk (observed : Observed) : Except Raised Bool :=
  if ctx.head = "" ∨ ctx.tree = "" then .ok false
  else
    match observed.canonicalIdentity with
    | .ok identity =>
        if identity = (ctx.head, ctx.tree) then
          match observed.canonicalClean with
          | .error (.execution _) => .ok false
          | answer => answer
        else .ok false
    | .error (.execution _) => .ok false
    | .error .other => .error .other

/-- `_check_command_binding`. -/
def checkCommandBinding (name : String) (command : List String) (packBound : Bool) :
    Except Raised Unit := do
  require (command ≠ [] ∧ "" ∉ command) (.execution ("PROJECT_COMMAND_INVALID:" ++ name))
  require (packBound = true →
      (ctx.commands name).any fun current => current.available && current.command = command)
    (.execution ("PROJECT_COMMAND_PACK_BINDING_MISMATCH:" ++ name))

/-- The directory of a command lies in the clone. -/
def checkTarget (cwd : Option (List String)) : Except Raised Unit :=
  require (ctx.workspace <+: cwd.getD ctx.workspace)
    (.execution "PROJECT_EXECUTION_CWD_ESCAPE")

/-- The safety reasons after a command. -/
def safetyReasons (identity : String × String) (dirty : Bool) (tracked : Nat) (canonical : Bool) :
    List String :=
  (if identity = (ctx.head, ctx.tree) then [] else ["PROJECT_EXECUTION_REVISION_DRIFT"]) ++
  (if dirty = true ∨ tracked ≠ 0 then ["PROJECT_COMMAND_TRACKED_MUTATION"] else []) ++
  (if canonical then [] else ["PROJECT_CANONICAL_SOURCE_MUTATED"])

/-- The record of a command and the reasons it adds. -/
def effectOf (name : String) (command : List String) (packBound : Bool) (returncode : Int)
    (counts : Nat × Nat) (safety reasons : List String) : Effect where
  record :=
    { name, packBound, returncode
      argvSha256 := ctx.digest ("\u0000".intercalate command)
      safe := safety.isEmpty
      reasonCodes := reasons.eraseDups
      trackedMutationCount := counts.1
      untrackedOutputCount := counts.2 }
  reasons := reasons

/-- The return code of `run` and the reasons of its `except` branches. -/
def codeOf : Outcome → Except Raised (Int × List String)
  | .completed returncode => .ok (returncode, [])
  | .notFound => .ok (127, ["PROJECT_COMMAND_EXECUTABLE_NOT_FOUND"])
  | .timeout => .ok (124, ["PROJECT_COMMAND_TIMEOUT"])
  | .unstarted | .interrupted => .error .other

def nonzero (fails : Bool) : List String :=
  if fails then ["PROJECT_COMMAND_NONZERO_EXIT"] else []

def run (name : String) (command : List String) (packBound : Bool) (cwd : Option (List String))
    (outcome : Outcome) (observed : Observed) : Except Raised Effect := do
  checkCommandBinding ctx name command packBound
  checkTarget ctx cwd
  let (returncode, reasons) ← codeOf outcome
  let counts ← observed.statusCounts
  let dirty ← observed.trackedDirty
  let identity ← observed.identity
  let canonical ← canonicalOk ctx observed
  let safety := safetyReasons ctx identity dirty counts.1 canonical
  return effectOf ctx name command packBound returncode counts safety
    (reasons ++ safety ++ nonzero (returncode ≠ 0))

def popen (name : String) (command : List String) (packBound : Bool) (cwd : Option (List String))
    (opened : Opened) : Except Raised Nat := do
  checkCommandBinding ctx name command packBound
  checkTarget ctx cwd
  match opened with
  | .process number => return number
  | .notFound => .error (.execution ("PROJECT_COMMAND_EXECUTABLE_NOT_FOUND:" ++ name))
  | .failed => .error .other

def recordProcess (name : String) (command : List String) (poll : Option Int)
    (packBound expected : Bool) (observed : Observed) : Except Raised Effect := do
  match poll with
  | none => .error (.execution ("PROJECT_PROCESS_STILL_RUNNING:" ++ name))
  | some returncode =>
      checkCommandBinding ctx name command packBound
      let counts ← observed.statusCounts
      let identity ← observed.identity
      let dirty ← observed.trackedDirty
      let canonical ← canonicalOk ctx observed
      let safety := safetyReasons ctx identity dirty counts.1 canonical
      return effectOf ctx name command packBound returncode counts safety
        (safety ++ nonzero (returncode ≠ 0 && !expected))

end Methods

/-- A call that the block makes, with what happens in it. -/
inductive Call where
  | run (name : String) (command : List String) (packBound : Bool) (cwd : Option (List String))
      (outcome : Outcome) (observed : Observed)
  | popen (name : String) (command : List String) (packBound : Bool) (cwd : Option (List String))
      (opened : Opened)
  | recordProcess (name : String) (command : List String) (process : Nat) (poll : Option Int)
      (packBound expected : Bool) (observed : Observed)

/-- What a call adds to the session when it returns. -/
def Call.effect (ctx : Context) : Call → Option Effect
  | .run name command packBound cwd outcome observed =>
      (ProjectExecution.run ctx name command packBound cwd outcome observed).toOption
  | .popen .. => none
  | .recordProcess name command _ poll packBound expected observed =>
      (ProjectExecution.recordProcess ctx name command poll packBound expected observed).toOption

/-- `_records` and `_reason_codes`. -/
structure Session where
  records : List CommandRecord
  reasonCodes : List String

def step (ctx : Context) (session : Session) (call : Call) : Session where
  records := session.records ++ ((call.effect ctx).map Effect.record).toList
  reasonCodes := session.reasonCodes ++ ((call.effect ctx).map Effect.reasons).getD []

def start : Session where
  records := []
  reasonCodes := []

/-! ## The end of the block -/

inductive Ending where
  | normal
  | raised (exception : Raised)
  deriving DecidableEq

inductive Verdict where
  | pass | block
  deriving DecidableEq

structure Evidence where
  executionId : String
  purpose : String
  headSha : String
  treeSha : String
  packId : String
  packDigest : String
  environmentNames : List String
  declaredNetwork : String
  canonicalSourceIntegrity : Verdict
  commands : List CommandRecord
  outcome : Verdict
  reasonCodes : List String
  createdAt : String

/-- What `__exit__` meets: Git's answers, the time, whether
`validate_execution_evidence` finds nothing, and whether the file is written. -/
structure Closing where
  observed : Observed
  createdAt : String
  valid : Evidence → Bool
  written : Bool

/-- `_build_evidence`. -/
def buildEvidence (ctx : Context) (session : Session) (closing : Closing) :
    Except Raised Evidence := do
  require (ctx.head ≠ "" ∧ ctx.tree ≠ "") (.execution "PROJECT_EXECUTION_SESSION_NOT_STARTED")
  let canonical ← canonicalOk ctx closing.observed
  let reasons := session.reasonCodes ++
    (if canonical then [] else ["PROJECT_CANONICAL_SOURCE_MUTATED"])
  let integrity := if canonical then Verdict.pass else .block
  return {
    executionId := ctx.executionId
    purpose := ctx.purpose
    headSha := ctx.head
    treeSha := ctx.tree
    packId := ctx.pack
    packDigest := ctx.packDigest
    environmentNames := ctx.environmentNames
    declaredNetwork := ctx.network
    canonicalSourceIntegrity := integrity
    commands := session.records
    outcome := if integrity = .pass ∧ reasons = [] then .pass else .block
    reasonCodes := reasons.eraseDups
    createdAt := closing.createdAt }

/-- The reason that `__exit__` adds for the exception of the block. -/
def exitReasons : Ending → List String
  | .raised (.execution message) => [String.ofList (message.toList.takeWhile (· ≠ ':'))]
  | _ => []

/-- `__exit__`: the evidence that is persisted. -/
def exit (ctx : Context) (session : Session) (ending : Ending) (closing : Closing) :
    Option Evidence :=
  let session := { session with reasonCodes := session.reasonCodes ++ exitReasons ending }
  (buildEvidence ctx session closing).toOption.filter fun evidence =>
    closing.valid evidence && closing.written

/-- The evidence of a block. -/
def evidenceOf (ctx : Context) (calls : List Call) (ending : Ending) (closing : Closing) :
    Option Evidence :=
  exit ctx (calls.foldl (step ctx) start) ending closing

/-! ## What a returning method saw -/

section Seen

variable {ctx : Context} {observed : Observed} {effect : Effect}

/-- The clone is at its revision and no tracked file is changed. -/
def CloneExact (ctx : Context) (observed : Observed) : Prop :=
  observed.identity = .ok (ctx.head, ctx.tree) ∧ observed.trackedDirty = .ok false ∧
    ∃ untracked, observed.statusCounts = .ok (0, untracked)

/-- The canonical checkout is at its revision and clean. -/
def CanonicalExact (ctx : Context) (observed : Observed) : Prop :=
  observed.canonicalIdentity = .ok (ctx.head, ctx.tree) ∧ observed.canonicalClean = .ok true

theorem canonicalExact_of_ok (holds : canonicalOk ctx observed = .ok true) :
    CanonicalExact ctx observed := by
  unfold canonicalOk at holds
  split at holds
  · cases holds
  · split at holds
    · rename_i identity found
      split at holds
      · rename_i same
        split at holds
        · cases holds
        · exact ⟨found.trans (congrArg Except.ok same), holds⟩
      · cases holds
    · cases holds
    · cases holds

theorem exact_of_safe {identity : String × String} {dirty canonical : Bool} {counts : Nat × Nat}
    (counted : observed.statusCounts = .ok counts) (differs : observed.trackedDirty = .ok dirty)
    (named : observed.identity = .ok identity) (checked : canonicalOk ctx observed = .ok canonical)
    (safe : safetyReasons ctx identity dirty counts.1 canonical = []) :
    CloneExact ctx observed ∧ CanonicalExact ctx observed := by
  rcases List.append_eq_nil_iff.mp safe with ⟨tracked, unmoved⟩
  rcases List.append_eq_nil_iff.mp tracked with ⟨same, clean⟩
  simp only [ite_eq_left_iff, List.cons_ne_nil, imp_false, not_not] at same
  simp only [ite_eq_right_iff, List.cons_ne_nil, imp_false, not_or, not_not,
    Bool.not_eq_true] at clean
  cases canonical with
  | false => cases unmoved
  | true =>
      refine ⟨⟨by rw [named, same], by rw [differs, clean.1], counts.2, ?_⟩,
        canonicalExact_of_ok checked⟩
      rw [counted, ← clean.2]

theorem nonzero_eq_nil_iff {fails : Bool} : nonzero fails = [] ↔ fails = false := by
  cases fails <;> simp [nonzero]

theorem exact_of_run {name : String} {command : List String} {packBound : Bool}
    {cwd : Option (List String)} {outcome : Outcome}
    (ran : run ctx name command packBound cwd outcome observed = .ok effect)
    (none : effect.reasons = []) :
    effect.record.returncode = 0 ∧ CloneExact ctx observed ∧ CanonicalExact ctx observed := by
  rcases bind_ok_iff.mp ran with ⟨_, _, ran⟩
  rcases bind_ok_iff.mp ran with ⟨_, _, ran⟩
  rcases bind_ok_iff.mp ran with ⟨⟨returncode, reasons⟩, _, ran⟩
  rcases bind_ok_iff.mp ran with ⟨counts, counted, ran⟩
  rcases bind_ok_iff.mp ran with ⟨dirty, differs, ran⟩
  rcases bind_ok_iff.mp ran with ⟨identity, named, ran⟩
  rcases bind_ok_iff.mp ran with ⟨canonical, checked, ran⟩
  cases ran
  rcases List.append_eq_nil_iff.mp none with ⟨others, zero⟩
  refine ⟨by simpa [nonzero_eq_nil_iff, effectOf] using zero, ?_⟩
  exact exact_of_safe counted differs named checked (List.append_eq_nil_iff.mp others).2

theorem exact_of_recordProcess {name : String} {command : List String} {poll : Option Int}
    {packBound expected : Bool}
    (ran : recordProcess ctx name command poll packBound expected observed = .ok effect)
    (none : effect.reasons = []) : (effect.record.returncode = 0 ∨ expected = true) ∧
      CloneExact ctx observed ∧ CanonicalExact ctx observed := by
  cases poll with
  | none => cases ran
  | some returncode =>
      rcases bind_ok_iff.mp ran with ⟨_, _, ran⟩
      rcases bind_ok_iff.mp ran with ⟨counts, counted, ran⟩
      rcases bind_ok_iff.mp ran with ⟨identity, named, ran⟩
      rcases bind_ok_iff.mp ran with ⟨dirty, differs, ran⟩
      rcases bind_ok_iff.mp ran with ⟨canonical, checked, ran⟩
      cases ran
      rcases List.append_eq_nil_iff.mp none with ⟨safe, zero⟩
      refine ⟨?_, exact_of_safe counted differs named checked safe⟩
      rw [nonzero_eq_nil_iff, Bool.and_eq_false_iff] at zero
      exact zero.imp (by simp [effectOf]) (by simp)

end Seen

/-! ## Whole blocks -/

section Blocks

variable {ctx : Context} {calls : List Call} {ending : Ending} {closing : Closing}
variable {evidence : Evidence}

theorem foldl_step (calls : List Call) (session : Session) : calls.foldl (step ctx) session =
      ⟨session.records ++ calls.filterMap fun call => (call.effect ctx).map Effect.record,
        session.reasonCodes ++ calls.flatMap fun call =>
          ((call.effect ctx).map Effect.reasons).getD []⟩ := by
  induction calls generalizing session with
  | nil => simp
  | cons call calls ih =>
      rw [List.foldl_cons, ih, step, List.filterMap_cons, List.flatMap_cons]
      cases call.effect ctx <;> simp

theorem eq_ok_of_toOption {α : Type} {result : Except Raised α} {value : α}
    (ran : result.toOption = some value) : result = .ok value := by
  cases result with
  | error => cases ran
  | ok => exact congrArg Except.ok (Option.some.inj ran)

theorem clean_of_pass (persisted : evidenceOf ctx calls ending closing = some evidence)
    (pass : evidence.outcome = .pass) :
    (∀ call ∈ calls, ∀ effect, call.effect ctx = some effect → effect.reasons = []) ∧
      exitReasons ending = [] ∧ CanonicalExact ctx closing.observed ∧
      evidence.commands = calls.filterMap fun call => (call.effect ctx).map Effect.record := by
  rw [evidenceOf, foldl_step, exit, Option.filter_eq_some_iff] at persisted
  rcases bind_ok_iff.mp (eq_ok_of_toOption persisted.1) with ⟨_, _, built⟩
  rcases bind_ok_iff.mp built with ⟨canonical, checked, built⟩
  cases built
  cases canonical with
  | false => simp at pass
  | true =>
      simp only [start, List.nil_append, ite_true, List.append_nil, true_and,
        ite_eq_left_iff, reduceCtorEq, imp_false, not_not, List.append_eq_nil_iff,
        List.flatMap_eq_nil_iff] at pass
      refine ⟨?_, pass.2, canonicalExact_of_ok checked, by simp [start]⟩
      intro call called effect ran
      have none := pass.1 call called
      rwa [ran] at none

/-- The call is admitted and starts its command. -/
def Call.Starts (ctx : Context) : Call → Prop
  | .run name command packBound cwd outcome _ =>
      checkCommandBinding ctx name command packBound = .ok () ∧ checkTarget ctx cwd = .ok () ∧
        outcome ≠ .notFound ∧ outcome ≠ .unstarted
  | .popen name command packBound cwd opened =>
      ∃ number, ProjectExecution.popen ctx name command packBound cwd opened = .ok number
  | .recordProcess .. => False

/-- The record is the one of the command that the call starts; of a process it
is left by a later call. -/
def Call.Recorded (ctx : Context) (later : List Call) (record : CommandRecord) : Call → Prop
  | .run name command packBound cwd outcome observed =>
      ∃ reasons, (Call.run name command packBound cwd outcome observed).effect ctx =
        some ⟨record, reasons⟩
  | .popen name command _ _ opened =>
      ∃ number poll packBound expected observed reasons, opened = .process number ∧
        Call.recordProcess name command number poll packBound expected observed ∈ later ∧
        (Call.recordProcess name command number poll packBound expected observed).effect ctx =
          some ⟨record, reasons⟩
  | .recordProcess .. => False

/-- What the call saw after its command. -/
def Call.observed : Call → Option Observed
  | .run _ _ _ _ _ observed | .recordProcess _ _ _ _ _ _ observed => some observed
  | .popen .. => none

/-- The termination was expected. -/
def Call.expected : Call → Bool
  | .recordProcess _ _ _ _ _ expected _ => expected
  | _ => false

/-- What a passing evidence stands for. -/
structure Earned (ctx : Context) (calls : List Call) (ending : Ending) (closing : Closing)
    (evidence : Evidence) : Prop where
  ended : ending = .normal
  recorded : ∀ before call later, calls = before ++ call :: later → call.Starts ctx →
    ∃ record ∈ evidence.commands, call.Recorded ctx later record
  zero : ∀ call ∈ calls, ∀ effect, call.effect ctx = some effect →
    effect.record.returncode = 0 ∨ call.expected = true
  exact : ∀ call ∈ calls, ∀ effect, call.effect ctx = some effect →
    ∀ observed, call.observed = some observed →
      CloneExact ctx observed ∧ CanonicalExact ctx observed
  left : CanonicalExact ctx closing.observed

/-- Git answers every question about the clone and the checkout. -/
def Answered (ctx : Context) (observed : Observed) : Prop :=
  (∃ counts, observed.statusCounts = .ok counts) ∧ (∃ dirty, observed.trackedDirty = .ok dirty) ∧
    (∃ identity, observed.identity = .ok identity) ∧
      ∃ canonical, canonicalOk ctx observed = .ok canonical

/-- The call reaches the record of its command; for a process a later one does. -/
def Call.Finished (ctx : Context) (later : List Call) : Call → Prop
  | .run _ _ _ _ outcome observed => outcome ≠ .interrupted ∧ Answered ctx observed
  | .popen name command _ _ opened =>
      ∃ number returncode packBound expected observed, opened = .process number ∧
        Call.recordProcess name command number (some returncode) packBound expected observed
          ∈ later ∧
        checkCommandBinding ctx name command packBound = .ok () ∧ Answered ctx observed
  | .recordProcess .. => True

/-- No exception other than `ProjectExecutionError` ends the block, and a block
that ends normally has recorded what it started. -/
structure Kept (ctx : Context) (calls : List Call) (ending : Ending) : Prop where
  handled : ending ≠ .raised .other
  finished : ending = .normal → ∀ before call later, calls = before ++ call :: later →
    call.Starts ctx → call.Finished ctx later

theorem exact_of_effect {call : Call} {effect : Effect} (ran : call.effect ctx = some effect)
    (none : effect.reasons = []) : (effect.record.returncode = 0 ∨ call.expected = true) ∧
      ∀ observed, call.observed = some observed →
        CloneExact ctx observed ∧ CanonicalExact ctx observed := by
  cases call with
  | run name command packBound cwd outcome observed =>
      rcases exact_of_run (eq_ok_of_toOption ran) none with ⟨zero, exact⟩
      refine ⟨.inl zero, ?_⟩
      rintro _ ⟨rfl⟩
      exact exact
  | popen => cases ran
  | recordProcess name command process poll packBound expected observed =>
      rcases exact_of_recordProcess (eq_ok_of_toOption ran) none with ⟨zero, exact⟩
      refine ⟨zero, ?_⟩
      rintro _ ⟨rfl⟩
      exact exact

theorem recorded_of_finished {call : Call} {later : List Call} (starts : call.Starts ctx)
    (finished : call.Finished ctx later) : ∃ reasons record, call.Recorded ctx later record ∧
      ∃ recorder ∈ call :: later, recorder.effect ctx = some ⟨record, reasons⟩ := by
  cases call with
  | run name command packBound cwd outcome observed =>
      rcases starts with ⟨bound, inside, found, started⟩
      rcases finished with ⟨uninterrupted, ⟨counts, counted⟩, ⟨dirty, differs⟩,
        ⟨identity, named⟩, canonical, checked⟩
      have coded : ∃ code, codeOf outcome = .ok code := by
        cases outcome <;> simp_all [codeOf]
      rcases coded with ⟨code, coded⟩
      have ran : ∃ effect, run ctx name command packBound cwd outcome observed =
          .ok effect := by
        rw [run, bound, inside, coded, counted, differs, named, checked]
        exact ⟨_, rfl⟩
      rcases ran with ⟨⟨record, reasons⟩, ran⟩
      have added : (Call.run name command packBound cwd outcome observed).effect ctx =
          some ⟨record, reasons⟩ := by
        rw [Call.effect, ran]
        rfl
      exact ⟨reasons, record, ⟨reasons, added⟩, _, List.mem_cons_self, added⟩
  | popen name command packBound cwd opened =>
      rcases finished with ⟨number, returncode, packBound, expected, observed, opening, called,
        bound, ⟨counts, counted⟩, ⟨dirty, differs⟩, ⟨identity, named⟩, canonical, checked⟩
      have ran : ∃ effect, recordProcess ctx name command (some returncode) packBound
          expected observed = .ok effect := by
        rw [recordProcess, bound, counted, named, differs, checked]
        exact ⟨_, rfl⟩
      rcases ran with ⟨⟨record, reasons⟩, ran⟩
      have added : (Call.recordProcess name command number (some returncode) packBound expected
          observed).effect ctx = some ⟨record, reasons⟩ := by
        rw [Call.effect, ran]
        rfl
      exact ⟨reasons, record, ⟨number, _, _, _, _, _, opening, called, added⟩, _,
        List.mem_cons_of_mem _ called, added⟩
  | recordProcess => cases starts

/-- The evidence of a block is not over-claimed when every started command is
recorded and no foreign exception ends the block. -/
theorem earned_of_kept (kept : Kept ctx calls ending) (persisted : evidenceOf ctx calls ending
    closing = some evidence) (pass : evidence.outcome = .pass) :
    Earned ctx calls ending closing evidence := by
  rcases clean_of_pass persisted pass with ⟨clean, unraised, left, commands⟩
  have ended : ending = .normal := by
    cases ending with
    | normal => rfl
    | raised exception =>
        cases exception with
        | execution message => cases unraised
        | other => exact absurd rfl kept.handled
  refine ⟨ended, ?_, ?_, ?_, left⟩
  · intro before call later split starts
    rcases recorded_of_finished starts (kept.finished ended before call later split starts) with
      ⟨reasons, record, recorded, recorder, called, added⟩
    refine ⟨record, ?_, recorded⟩
    rw [commands, split, List.mem_filterMap]
    exact ⟨recorder, List.mem_append_right _ called, by rw [added]; rfl⟩
  · intro call called effect ran
    exact (exact_of_effect ran (clean call called effect ran)).1
  · intro call called effect ran
    exact (exact_of_effect ran (clean call called effect ran)).2

end Blocks

/-- A session for the test command of a pack. -/
def tested : Context where
  head := "a"
  tree := "b"
  workspace := ["tmp", "workspace"]
  commands := fun name => if name = "test" then some ⟨true, ["make"]⟩ else none
  pack := "python"
  packDigest := "c"
  network := "none"
  purpose := "VERIFY"
  executionId := "PEX-1"
  environmentNames := ["PATH"]
  digest := id

def undisturbed : Observed where
  statusCounts := .ok (0, 1)
  trackedDirty := .ok false
  identity := .ok ("a", "b")
  canonicalIdentity := .ok ("a", "b")
  canonicalClean := .ok true

def closed : Closing where
  observed := undisturbed
  createdAt := "2024-01-01T00:00:00Z"
  valid := fun _ => true
  written := true

/-- A test that returned 0 passes. -/
theorem earned_test : ∃ evidence,
    Earned tested [.run "test" ["make"] true none (.completed 0) undisturbed] .normal closed
      evidence := by
  refine ⟨_, earned_of_kept ⟨by decide, ?_⟩ rfl rfl⟩
  intro _ before call later split starts
  rcases List.append_eq_singleton_iff.mp split.symm with ⟨_, same⟩ | ⟨_, same⟩
  · cases same
    exact ⟨by rintro ⟨⟩, ⟨_, rfl⟩, ⟨_, rfl⟩, ⟨_, rfl⟩, _, rfl⟩
  · cases same

/-- A block that an exception of another kind ends passes without a command. -/
theorem not_always_earned :
    ¬ ∀ ctx calls ending closing evidence, evidenceOf ctx calls ending closing = some evidence →
      evidence.outcome = .pass → Earned ctx calls ending closing evidence := by
  intro always
  have earned := always tested [] (.raised .other) closed _ rfl rfl
  cases earned.ended

end Adwf.ProjectExecution
