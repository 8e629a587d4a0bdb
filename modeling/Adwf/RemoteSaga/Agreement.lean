import Adwf.RemoteSaga.Guarded

/-!
# The journal and the issue

Transitions and compensations of one saga run together on an issue that nobody
else touches.  A save replaces the journal whatever it holds.  Were a save refused
unless its process knew the journal it replaces, the terminal status of the journal
would be that of the issue whenever no execution is in progress.
-/

namespace Adwf.RemoteSaga

open Adwf.Program

universe u

/-- The issue at its revision and the journal at its own.  For every execution, the
journal as it last loaded or saved it, and whether it has written to the issue since
its last save.  `replaced` logs every save: the journal it replaced and the one its
execution knew. -/
structure Shared (Client : Type u) where
  issue : Issue
  version : Nat
  journal : Option Saga
  revision : Nat
  known : Client → Option Saga
  seen : Client → Option Nat
  unsaved : Client → Bool
  replaced : List (Option Saga × Option Saga)

/-- When a save stores its saga, and when it may fail. -/
structure SaveRule (Client : Type u) where
  stores : Client → Shared Client → Prop
  refuses : Client → Shared Client → Saga → Prop

section World

variable {Client : Type u} [DecidableEq Client]

namespace Shared

/-- Before the first execution. -/
def start (issue : Issue) (journal : Option Saga) : Shared Client :=
  { issue, version := 0, journal, revision := 0, known := fun _ => none, seen := fun _ => none
    unsaved := fun _ => false, replaced := [] }

def loaded (shared : Shared Client) (client : Client) : Shared Client :=
  { shared with
    known := Function.update shared.known client shared.journal
    seen := Function.update shared.seen client (some shared.revision) }

def saved (shared : Shared Client) (client : Client) (saga : Saga) : Shared Client :=
  { shared with
    journal := some saga
    revision := shared.revision + 1
    known := Function.update shared.known client (some saga)
    seen := Function.update shared.seen client (some (shared.revision + 1))
    unsaved := Function.update shared.unsaved client false
    replaced := shared.replaced ++ [(shared.journal, shared.known client)] }

def applied (shared : Shared Client) (client : Client) (effect : Issue → Issue) : Shared Client :=
  { shared with
    issue := effect shared.issue, version := shared.version + 1
    unsaved := Function.update shared.unsaved client true }

end Shared

/-- `SagaJournal.save` as it is. -/
def anySave : SaveRule Client where
  stores _ _ := True
  refuses _ _ _ := True

/-- Only an execution that knows the journal saves, and the record of an execution
that has written to the issue does not fail. -/
def checkedSave : SaveRule Client where
  stores client shared := shared.seen client = some shared.revision
  refuses client shared saga := saga.status = .recoveryRequired → shared.unsaved client = false

/-- What a call may lead to. -/
def ServesShared (rule : SaveRule Client) (client : Client) (shared : Shared Client)
    (call : SagaCall) (after : Shared Client) (answer : SagaAnswer call) : Prop :=
  match call, answer with
  | .load, answer =>
      (after = shared ∧ ∃ error, answer = .error error) ∨
        after = shared.loaded client ∧ answer = .ok shared.journal
  | .save saga, answer =>
      (rule.refuses client shared saga ∧ after = shared ∧ ∃ error, answer = .error error) ∨
        rule.stores client shared ∧ after = shared.saved client saga ∧ answer = .ok saga
  | .getIssue _, answer =>
      after = shared ∧
        ((∃ error, answer = .error error) ∨ answer = .ok ⟨shared.issue, shared.version⟩)
  | call, answer =>
      (after = shared ∧ ∃ error, answer = .error error) ∨
        ∃ effect, call.write = some (shared.version, effect) ∧
          after = shared.applied client effect

/-! ## The law -/

/-- What a terminal status says of the issue. -/
def Shows (plan : Plan) : SagaStatus → Issue → Prop
  | .committed, issue => IsCommitted plan issue
  | .compensated, issue =>
      issue.body = plan.originalBody ∧ machineLabels issue = {plan.fromLabel}
  | _, _ => True

/-- Between the calls of executions: the journal is that of the plan and agrees with the
issue unless an execution has yet to save what it wrote, and what an execution knows of
the journal is so at its revision. -/
structure JournalLaw (plan : Plan) (shared : Shared Client) : Prop where
  ofPlan : OfPlan plan shared.journal
  agrees : ∀ saga, shared.journal = some saga →
    Shows plan saga.status shared.issue ∨ ∃ client, shared.unsaved client = true
  bound : ∀ client revision, shared.seen client = some revision → revision ≤ shared.revision
  known : ∀ client, shared.seen client = some shared.revision →
    shared.known client = shared.journal
  replaced : ∀ save ∈ shared.replaced, save.2 = save.1

/-- The moves of the others.  While the journal is the one the execution knows, they
leave the issue alone or owe a save. -/
structure OthersWork (client : Client) (before after : Shared Client) : Prop where
  unsaved : after.unsaved client = before.unsaved client
  issue : after.seen client = some after.revision → before.seen client = some before.revision ∧
    ((after.issue = before.issue ∧
      ∀ other, before.unsaved other = true → after.unsaved other = true) ∨
      ∃ other, other ≠ client ∧ after.unsaved other = true)

omit [DecidableEq Client] in
theorem OthersWork.trans {client : Client} {first second third : Shared Client}
    (early : OthersWork client first second) (late : OthersWork client second third) :
    OthersWork client first third := by
  constructor
  · exact late.unsaved.trans early.unsaved
  · intro seen
    obtain ⟨seenLate, lateMoves⟩ := late.issue seen
    obtain ⟨seenEarly, earlyMoves⟩ := early.issue seenLate
    refine ⟨seenEarly, ?_⟩
    rcases lateMoves with ⟨sameIssue, owed⟩ | other
    · rcases earlyMoves with ⟨earlierIssue, owedEarlier⟩ | ⟨other, different, owes⟩
      · exact .inl ⟨sameIssue.trans earlierIssue, fun other owes =>
          owed other (owedEarlier other owes)⟩
      · exact .inr ⟨other, different, owed other owes⟩
    · exact .inr other

variable (Client) in
/-- Executions of one saga on an issue that nobody else touches. -/
def sharedWorld (plan : Plan) (rule : SaveRule Client) :
    World Client (Shared Client) SagaCall SagaAnswer where
  step := ServesShared rule
  inv := JournalLaw plan
  rely := OthersWork
  rely_refl _ _ := ⟨rfl, fun seen => ⟨seen, .inl ⟨rfl, fun _ owes => owes⟩⟩⟩
  rely_trans _ _ _ _ early late := early.trans late

/-! ## Rules for one execution -/

variable {plan : Plan} {rule : SaveRule Client} {client : Client} {α β : Type}
variable {before : Shared Client → Prop}

/-- The execution owes no save. -/
def Clean (client : Client) (shared : Shared Client) : Prop :=
  shared.unsaved client = false

/-- What the execution knows still holds unless the journal has moved on or another
execution owes a save. -/
def Vouched (client : Client) (holds : Issue → Prop) (shared : Shared Client) : Prop :=
  shared.seen client = some shared.revision →
    holds shared.issue ∨ ∃ other, other ≠ client ∧ shared.unsaved other = true

theorem stable_clean : Stable (sharedWorld Client plan rule) client (Clean client) :=
  fun _ _ moved _ clean => moved.unsaved.trans clean

theorem stable_anything : Stable (sharedWorld Client plan rule) client fun _ => True :=
  fun _ _ _ _ _ => trivial

theorem stable_vouched (holds : Issue → Prop) :
    Stable (sharedWorld Client plan rule) client (Vouched client holds) := by
  intro shared later moved _ vouched seen
  obtain ⟨seenBefore, sameIssue, owed⟩ | ⟨_, other⟩ := and_or_left.mp (moved.issue seen)
  · rw [sameIssue]
    apply (vouched seenBefore).imp_right
    rintro ⟨other, different, owes⟩
    exact ⟨other, different, owed other owes⟩
  · exact .inr other

omit [DecidableEq Client] in
theorem OthersWork.refl (client : Client) (shared : Shared Client) :
    OthersWork client shared shared :=
  ⟨rfl, fun seen => ⟨seen, .inl ⟨rfl, fun _ owes => owes⟩⟩⟩

/-- A write is a move the others tolerate. -/
theorem othersWork_applied {actor other : Client} (different : actor ≠ other)
    (shared : Shared Client) (effect : Issue → Issue) :
    OthersWork other shared (shared.applied actor effect) := by
  constructor
  · exact Function.update_of_ne different.symm ..
  · exact fun seen => ⟨seen, .inr ⟨actor, different, Function.update_self ..⟩⟩

theorem tolerated_sharedWorld : Tolerated (sharedWorld Client plan rule) := by
  intro actor other shared call after answer different law _ served
  cases call with
  | load =>
      rcases served with ⟨rfl, _⟩ | ⟨rfl, _⟩
      · exact .refl other _
      · constructor
        · rfl
        · intro seen
          simp only [Shared.loaded, Function.update_of_ne different.symm] at seen
          exact ⟨seen, .inl ⟨rfl, fun _ owes => owes⟩⟩
  | save saga =>
      rcases served with ⟨_, rfl, _⟩ | ⟨_, rfl, _⟩
      · exact .refl other _
      · constructor
        · exact Function.update_of_ne different.symm ..
        · intro seen
          simp only [Shared.saved, Function.update_of_ne different.symm] at seen
          exact absurd (law.bound other _ seen) (Nat.not_succ_le_self _)
  | getIssue stage =>
      obtain rfl := served.1
      exact .refl other _
  | addLabel | patchBody | removeLabel =>
      rcases served with ⟨rfl, _⟩ | ⟨effect, _, rfl⟩
      · exact .refl other _
      · exact othersWork_applied different shared effect

omit [DecidableEq Client] in
theorem JournalLaw.start (plan : Plan) (issue : Issue) {journal : Option Saga}
    (ofPlan : OfPlan plan journal)
    (agrees : ∀ saga, journal = some saga → Shows plan saga.status issue) :
    JournalLaw plan (Shared.start issue journal : Shared Client) := by
  constructor
  · exact ofPlan
  · exact fun saga stored => .inl (agrees saga stored)
  · intro client revision seen
    cases seen
  · intro client seen
    cases seen
  · intro save logged
    cases logged

variable {shared : Shared Client} {call : SagaCall} {current : Option Saga} {stage : ReadStage}
variable {given : Saga}

theorem JournalLaw.loaded (law : JournalLaw plan shared)
    (client : Client) : JournalLaw plan (shared.loaded client) := by
  constructor
  · exact law.ofPlan
  · exact law.agrees
  · intro other revision seen
    by_cases same : other = client
    · subst same
      simp only [Shared.loaded, Function.update_self, Option.some.injEq] at seen
      exact seen.symm.le
    · simp only [Shared.loaded, Function.update_of_ne same] at seen
      exact law.bound other revision seen
  · intro other seen
    by_cases same : other = client
    · subst same
      exact Function.update_self ..
    · simp only [Shared.loaded, Function.update_of_ne same] at seen ⊢
      exact law.known other seen
  · exact law.replaced

theorem JournalLaw.saved (law : JournalLaw plan shared)
    {saga : Saga} (knows : shared.seen client = some shared.revision) (samePlan : saga.plan = plan)
    (vouched : Vouched client (Shows plan saga.status) shared) :
    JournalLaw plan (shared.saved client saga) := by
  constructor
  · rintro stored ⟨⟩
    exact samePlan
  · rintro stored ⟨⟩
    apply (vouched knows).imp_right
    rintro ⟨other, different, owes⟩
    exact ⟨other, (Function.update_of_ne different ..).trans owes⟩
  · intro other revision seen
    by_cases same : other = client
    · subst same
      simp only [Shared.saved, Function.update_self, Option.some.injEq] at seen
      exact seen.symm.le
    · simp only [Shared.saved, Function.update_of_ne same] at seen
      exact (law.bound other revision seen).trans (Nat.le_succ _)
  · intro other seen
    by_cases same : other = client
    · subst same
      exact Function.update_self ..
    · simp only [Shared.saved, Function.update_of_ne same] at seen
      exact absurd (law.bound other _ seen) (Nat.not_succ_le_self _)
  · intro save logged
    rcases List.mem_append.mp logged with earlier | latest
    · exact law.replaced save earlier
    · obtain rfl := List.mem_singleton.mp latest
      exact law.known client knows

/-- After a write the execution owes a save. -/
theorem JournalLaw.applied (law : JournalLaw plan shared)
    (client : Client) (effect : Issue → Issue) :
    JournalLaw plan (shared.applied client effect) := by
  constructor
  · exact law.ofPlan
  · exact fun _ _ => .inr ⟨client, Function.update_self ..⟩
  · exact law.bound
  · exact law.known
  · exact law.replaced

/-- The execution only makes calls the law allows, and ends with `returns` or `raises`. -/
abbrev Works (plan : Plan) (client : Client) (before : Shared Client → Prop)
    (program : SagaProgram α) (returns : Shared Client → α → Prop)
    (raises : Shared Client → Failure → Prop) : Prop :=
  Triple (sharedWorld Client plan checkedSave) client before program returns raises

/-- An exception, wherever it comes from, leaves a saga of the plan. -/
abbrev RaisesOfPlan (plan : Plan) (_ : Shared Client) (failure : Failure) : Prop :=
  OfPlan plan failure.saga

theorem stable_ofPlan {saga : Option Saga} (holds : Shared Client → Prop)
    (stable : Stable (sharedWorld Client plan checkedSave) client holds) :
    Stable (sharedWorld Client plan checkedSave) client fun shared =>
      holds shared ∧ OfPlan plan saga := by
  rintro shared later moved law ⟨known, ofPlan⟩
  exact ⟨stable shared later moved law known, ofPlan⟩

theorem works_during {saga : Option Saga}
    {returns : Shared Client → SagaValue call → Prop} {raises : Shared Client → Failure → Prop}
    (stable : Stable (sharedWorld Client plan checkedSave) client before)
    (returnsStable : ∀ value, Stable (sharedWorld Client plan checkedSave) client (returns · value))
    (raisesStable : ∀ failure,
      Stable (sharedWorld Client plan checkedSave) client (raises · failure))
    (served : ∀ shared after answer, JournalLaw plan shared → before shared →
      ServesShared checkedSave client shared call after answer → JournalLaw plan after ∧
        (∀ value, answer = .ok value → returns after value) ∧
        ∀ error, answer = .error error → raises after ⟨error, saga⟩) :
    Works plan client before (call.during saga) returns raises := by
  apply Triple.ask stable served
  intro answer
  cases answer with
  | error text =>
      constructor
      rintro shared _ ⟨_, reached⟩ later moved law
      exact raisesStable _ shared later moved law (reached text rfl)
  | ok value =>
      constructor
      rintro shared _ ⟨reached, _⟩ later moved law
      exact returnsStable value shared later moved law (reached value rfl)

theorem works_load : Works plan client (Clean client) (SagaCall.load.during none)
      (fun shared stored => Clean client shared ∧ OfPlan plan stored)
      fun shared _ => Clean client shared := by
  apply works_during stable_clean
  · exact fun stored => stable_ofPlan _ stable_clean
  · exact fun _ => stable_clean
  · rintro shared after answer law clean (⟨rfl, error, rfl⟩ | ⟨rfl, rfl⟩)
    · refine ⟨law, ?_, fun _ _ => clean⟩
      rintro value ⟨⟩
    · refine ⟨law.loaded client, ?_, fun _ _ => clean⟩
      rintro value ⟨⟩
      exact ⟨clean, law.ofPlan⟩

theorem works_save {saga : Saga}
    (stable : Stable (sharedWorld Client plan checkedSave) client before)
    (samePlan : saga.plan = plan) (ofPlan : OfPlan plan current)
    (vouched : ∀ shared, before shared → Vouched client (Shows plan saga.status) shared) :
    Works plan client before (saveSaga saga current)
      (fun shared value => Clean client shared ∧ value = saga)
      fun shared failure => (before shared ∧
        (saga.status = .recoveryRequired → Clean client shared)) ∧ OfPlan plan failure.saga := by
  apply works_during stable
  · rintro value shared later moved law ⟨clean, same⟩
    exact ⟨stable_clean shared later moved law clean, same⟩
  · intro failure
    apply stable_ofPlan
    rintro shared later moved law ⟨known, clean⟩
    refine ⟨stable shared later moved law known, fun recovery => ?_⟩
    exact stable_clean shared later moved law (clean recovery)
  · rintro shared after answer law known (⟨refused, rfl, error, rfl⟩ | ⟨knows, rfl, rfl⟩)
    · refine ⟨law, ?_, ?_⟩
      · rintro value ⟨⟩
      · exact fun _ _ => ⟨⟨known, refused⟩, ofPlan⟩
    · refine ⟨law.saved knows samePlan (vouched shared known), ?_, ?_⟩
      · rintro value ⟨⟩
        exact ⟨Function.update_self .., rfl⟩
      · rintro value ⟨⟩

theorem works_read (stable : Stable (sharedWorld Client plan checkedSave) client before)
    (ofPlan : OfPlan plan current) : Works plan client before (readIssue stage current)
      (fun shared response => before shared ∧ Vouched client (· = response.issue) shared)
      fun shared failure => before shared ∧ OfPlan plan failure.saga := by
  apply works_during stable
  · exact fun response => stable.and (stable_vouched _)
  · exact fun failure => stable_ofPlan before stable
  · rintro shared after answer law known ⟨rfl, ⟨error, rfl⟩ | rfl⟩
    · refine ⟨law, ?_, fun _ _ => ⟨known, ofPlan⟩⟩
      rintro value ⟨⟩
    · refine ⟨law, ?_, ?_⟩
      · rintro value ⟨⟩
        exact ⟨known, fun _ => .inl rfl⟩
      · rintro value ⟨⟩

/-- Wherever the execution stands, it may write. -/
theorem works_write {write : Nat × (Issue → Issue)}
    (isWrite : call.write = some write) (ofPlan : OfPlan plan current) :
    Works plan client (fun _ => True) (call.during current) (fun _ _ => True)
      (RaisesOfPlan plan) := by
  apply works_during stable_anything
  · exact fun _ => stable_anything
  · exact fun _ _ _ _ _ raised => raised
  · intro shared after answer law _ served
    refine ⟨?_, fun _ _ => trivial, fun _ _ => ofPlan⟩
    have effected : after = shared ∨ ∃ effect, after = shared.applied client effect := by
      cases call with
      | load | save | getIssue => cases isWrite
      | _ =>
          rcases served with ⟨same, _⟩ | ⟨effect, _, applied⟩
          · exact .inl same
          · exact .inr ⟨effect, applied⟩
    rcases effected with rfl | ⟨effect, rfl⟩
    · exact law
    · exact law.applied client effect

/-! ## The programs -/

variable {sha256 : String → String}

/-- A saga of the plan that is being applied. -/
def Underway (plan : Plan) (saga : Saga) : Prop :=
  saga.plan = plan ∧ saga.status = .applying

theorem Underway.ofPlan {saga : Saga} (underway : Underway plan saga) :
    OfPlan plan (some saga) := by
  rintro current ⟨⟩
  exact underway.1

/-- The whole of an execution: it ends owing no save. -/
abbrev Ends (plan : Plan) (client : Client) (program : SagaProgram α)
    (returns : α → Prop) : Prop :=
  Works plan client (Clean client) program
    (fun shared value => Clean client shared ∧ returns value) fun shared _ => Clean client shared

/-- A part of a `try` block. -/
abbrev Tries (plan : Plan) (client : Client) (program : SagaProgram α)
    (returns : α → Prop) : Prop :=
  Works plan client (fun _ => True) program (fun _ value => True ∧ returns value)
    (RaisesOfPlan plan)

theorem tries_return {value : α} {returns : α → Prop} (holds : returns value) :
    Tries plan client (pure value) returns :=
  Triple.pure stable_anything fun _ _ _ => ⟨trivial, holds⟩

theorem tries_fail {text : String} {saga : Option Saga} {returns : α → Prop}
    (ofPlan : OfPlan plan saga) : Tries plan client (sagaError text saga) returns :=
  Triple.fail stable_anything fun _ _ _ => ofPlan

theorem tries_bind {first : SagaProgram α} {next : α → SagaProgram β} {middle : α → Prop}
    {returns : β → Prop} (firstTries : Tries plan client first middle)
    (nextTries : ∀ value, middle value → Tries plan client (next value) returns) :
    Tries plan client (first >>= next) returns :=
  Triple.bind firstTries fun value => Triple.assume (nextTries value)

theorem tries_save {saga : Saga} (underway : Underway plan saga) (ofPlan : OfPlan plan current) :
    Tries plan client (saveSaga saga current) fun value => value = saga := by
  apply (works_save stable_anything underway.1 ofPlan _).strengthen
  · exact fun _ _ _ saved => ⟨trivial, saved.2⟩
  · exact fun _ _ _ raised => raised.2
  · intro shared _ _
    rw [underway.2]
    exact .inl trivial

theorem tries_read (ofPlan : OfPlan plan current) :
    Tries plan client (readIssue stage current) fun _ => True := by
  apply (works_read stable_anything ofPlan).strengthen
  · exact fun _ _ _ _ => ⟨trivial, trivial⟩
  · exact fun _ _ _ raised => raised.2

theorem tries_write {write : Nat × (Issue → Issue)}
    (isWrite : call.write = some write) (ofPlan : OfPlan plan current) :
    Tries plan client (call.during current) fun _ => True := by
  apply (works_write isWrite ofPlan).strengthen
  · exact fun _ _ _ _ => ⟨trivial, trivial⟩
  · exact fun _ _ _ raised => raised

section Transition

variable {saga : Saga}

theorem rereadSettled_tries (underway : Underway plan saga) (stage : ReadStage)
    (conflict : String) :
    Tries plan client (rereadSettled sha256 saga stage conflict) fun _ => True := by
  unfold rereadSettled
  apply tries_bind (tries_read underway.ofPlan)
  intro current _
  split_ifs
  · exact tries_fail underway.ofPlan
  · exact tries_return trivial

theorem addTargetLabel_tries (underway : Underway plan saga) (first : Response) :
    Tries plan client (addTargetLabel sha256 saga first) fun known => Underway plan known.1 := by
  have passed : Underway plan saga.addPassed := underway
  unfold addTargetLabel
  split_ifs with present
  · exact tries_return passed
  · apply tries_bind (tries_write rfl underway.ofPlan)
    intro _ _
    apply tries_bind (tries_save passed passed.ofPlan)
    rintro _ rfl
    apply tries_bind (rereadSettled_tries passed _ _)
    exact fun _ _ => tries_return passed

theorem patchMarkerBody_tries (underway : Underway plan saga) (current : Response) :
    Tries plan client (patchMarkerBody sha256 saga current) fun known =>
      Underway plan known.1 := by
  have passed : Underway plan saga.patchPassed := underway
  unfold patchMarkerBody
  split_ifs with patched foreign
  · exact tries_return passed
  · exact tries_fail underway.ofPlan
  · apply tries_bind (tries_write rfl underway.ofPlan)
    intro _ _
    apply tries_bind (tries_save passed passed.ofPlan)
    rintro _ rfl
    apply tries_bind (rereadSettled_tries passed _ _)
    exact fun _ _ => tries_return passed

theorem removeOldLabel_tries (underway : Underway plan saga) (current : Response) :
    Tries plan client (removeOldLabel saga current) (Underway plan) := by
  have passed : Underway plan saga.removePassed := underway
  unfold removeOldLabel
  split_ifs with present
  · apply tries_bind (tries_write rfl underway.ofPlan)
    intro _ _
    apply (tries_save passed passed.ofPlan).strengthen
    · rintro _ _ _ ⟨_, rfl⟩
      exact ⟨trivial, passed⟩
    · exact fun _ _ _ raised => raised
  · exact tries_return passed

end Transition

/-- A terminal status that the last read bears out is saved, and nothing is owed. -/
theorem works_saveShown {saga : Saga} {response : Response}
    (samePlan : saga.plan = plan) (ofPlan : OfPlan plan current)
    (stable : Stable (sharedWorld Client plan checkedSave) client before)
    (shown : Shows plan saga.status response.issue) :
    Works plan client (fun shared => before shared ∧ Vouched client (· = response.issue) shared)
      (saveSaga saga current) (fun shared _ => Clean client shared)
      fun shared failure => before shared ∧ OfPlan plan failure.saga := by
  apply (works_save (stable.and (stable_vouched _)) samePlan ofPlan _).strengthen
  · exact fun _ _ _ saved => saved.1
  · exact fun _ _ _ raised => ⟨raised.1.1.1, raised.2⟩
  · rintro shared ⟨_, vouched⟩ seen
    apply (vouched seen).imp_left
    intro same
    rw [same]
    exact shown

/-- A read that decides between a save of a terminal status and an exception. -/
theorem works_verify {next : Response → SagaProgram α}
    {returns : Shared Client → α → Prop} (ofPlan : OfPlan plan current)
    (nextWorks : ∀ response, Works plan client
      (fun shared => True ∧ Vouched client (· = response.issue) shared) (next response) returns
      (RaisesOfPlan plan)) :
    Works plan client (fun _ => True) (readIssue stage current >>= next) returns
      (RaisesOfPlan plan) := by
  apply Triple.bind _ nextWorks
  exact (works_read stable_anything ofPlan).raising fun _ _ _ raised => raised.2

theorem verifyPostcondition_works (identified : plan.Identified sha256) {saga : Saga}
    (underway : Underway plan saga) :
    Works plan client (fun _ => True) (verifyPostcondition sha256 saga)
      (fun shared _ => Clean client shared) (RaisesOfPlan plan) := by
  unfold verifyPostcondition
  apply works_verify underway.ofPlan
  intro verified
  split_ifs with isCommitted
  · rw [underway.1] at isCommitted
    apply (works_saveShown _ _ stable_anything _).raising
    · exact fun _ _ _ raised => raised.2
    · exact underway.1
    · rintro current ⟨⟩
      exact underway.1
    · exact isCommitted_of_classifyRemote identified isCommitted
  · exact Triple.fail (stable_anything.and (stable_vouched _)) fun _ _ _ => underway.ofPlan

theorem applyTransition_works (identified : plan.Identified sha256) {saga : Saga}
    (underway : Underway plan saga) (first : Response) :
    Works plan client (fun _ => True) (applyTransition sha256 saga first)
      (fun shared _ => Clean client shared) (RaisesOfPlan plan) := by
  unfold applyTransition
  apply Triple.bind (addTargetLabel_tries underway first)
  rintro ⟨added, labelled⟩
  apply Triple.assume
  intro underwayAdded
  apply Triple.bind (patchMarkerBody_tries underwayAdded labelled)
  rintro ⟨patched, current⟩
  apply Triple.assume
  intro underwayPatched
  apply Triple.bind (removeOldLabel_tries underwayPatched current)
  intro removed
  apply Triple.assume
  intro underwayRemoved
  exact verifyPostcondition_works identified underwayRemoved

/-- The record of an exception ends what an execution owes. -/
theorem works_recordError {saga : Saga} {text : String} (samePlan : saga.plan = plan)
    (stable : Stable (sharedWorld Client plan checkedSave) client before) :
    Works plan client before (recordError saga text) (fun shared _ => Clean client shared)
      fun shared _ => Clean client shared := by
  unfold recordError
  apply (works_save stable _ ofPlan_none _).strengthen
  · exact fun _ _ _ saved => saved.1
  · exact fun _ _ _ raised => raised.1.2 rfl
  · exact samePlan
  · exact fun _ _ _ => .inl trivial

/-- A `try` block with its handler. -/
theorem works_recording {saga : Saga} {body : SagaProgram Saga} (samePlan : saga.plan = plan)
    (bodyWorks : Works plan client before body (fun shared _ => Clean client shared)
      (RaisesOfPlan plan)) :
    Works plan client before (recording saga body) (fun shared _ => Clean client shared)
      fun shared _ => Clean client shared := by
  apply Triple.handle bodyWorks
  intro failure
  constructor
  intro shared law ofPlan
  have recorded : (failure.saga.getD saga).plan = plan := by
    cases carried : failure.saga with
    | none => exact samePlan
    | some current => exact ofPlan current carried
  apply (Triple.bind (works_recordError recorded stable_anything) _).safe shared law trivial
  intro _
  exact Triple.fail stable_clean fun _ _ clean => clean

theorem enterTransition_ends (planned : given.status = .planned) (ofGiven : given.plan = plan) :
    Ends plan client (enterTransition given) fun saga => saga.plan = plan := by
  unfold enterTransition
  apply Triple.bind works_load
  intro stored
  apply Triple.assume
  intro ofPlan
  cases stored with
  | none =>
      apply (works_save stable_clean ofGiven ofPlan_none _).strengthen
      · rintro shared _ _ ⟨clean, rfl⟩
        exact ⟨clean, ofGiven⟩
      · exact fun _ _ _ raised => raised.1.1
      · intro shared _ _
        rw [planned]
        exact .inl trivial
  | some saga =>
      dsimp only
      split_ifs with same
      · exact Triple.pure stable_clean fun _ _ clean => ⟨clean, ofPlan saga rfl⟩
      · exact Triple.fail stable_clean fun _ _ clean => clean

theorem runTransition_ends (identified : plan.Identified sha256)
    (planned : given.status = .planned) (ofGiven : given.plan = plan) (apply_ : Bool) :
    Works plan client (Clean client) (runTransition sha256 given apply_)
      (fun shared _ => Clean client shared) fun shared _ => Clean client shared := by
  unfold runTransition
  apply Triple.bind (enterTransition_ends planned ofGiven)
  intro saga
  apply Triple.assume
  intro samePlan
  by_cases committed : saga.status = .committed
  · rw [if_pos committed]
    exact Triple.pure stable_clean fun _ _ clean => clean
  · rw [if_neg committed]
    apply Triple.bind ((works_read stable_clean ofPlan_none).raising fun _ _ _ raised => raised.1)
    intro first
    have stable : Stable (sharedWorld Client plan checkedSave) client fun shared =>
        Clean client shared ∧ Vouched client (· = first.issue) shared :=
      stable_clean.and (stable_vouched _)
    cases classified : classifyRemote sha256 saga.plan first.issue with
    | conflict => exact works_recordError samePlan stable
    | committed =>
        rw [samePlan] at classified
        apply (works_saveShown _ ofPlan_none stable_clean _).raising
        · exact fun _ _ _ raised => raised.1
        · exact samePlan
        · exact isCommitted_of_classifyRemote identified classified
    | resumable =>
        dsimp only
        split_ifs with applies
        · apply Triple.bind
          · apply (works_save stable _ ofPlan_none _).raising
            · exact fun _ _ _ raised => raised.1.1.1
            · exact samePlan
            · exact fun _ _ _ => .inl trivial
          · intro applying
            apply Triple.assume
            rintro rfl
            apply works_recording
            · exact samePlan
            apply (applyTransition_works identified _ first).weaken
            · exact fun _ _ _ => trivial
            · exact ⟨samePlan, rfl⟩
        · apply (works_save stable _ ofPlan_none _).strengthen
          · exact fun _ _ _ saved => saved.1
          · exact fun _ _ _ raised => raised.1.1.1
          · exact samePlan
          · exact fun _ _ _ => .inl trivial

/-! ### Compensations -/

section Compensation

variable {saga : Saga}

theorem ofPlan_some (samePlan : saga.plan = plan) : OfPlan plan (some saga) := by
  rintro current ⟨⟩
  exact samePlan

theorem restoreBody_tries (samePlan : saga.plan = plan) (first : Response) :
    Tries plan client (restoreBody sha256 saga first) fun _ => True := by
  unfold restoreBody
  split_ifs with desired
  · apply tries_bind (tries_write rfl (ofPlan_some samePlan))
    exact fun _ _ => tries_read (ofPlan_some samePlan)
  · exact tries_return trivial

theorem restoreLabel_tries (samePlan : saga.plan = plan) (current : Response) :
    Tries plan client (restoreLabel saga current) fun _ => True := by
  unfold restoreLabel
  split_ifs with present
  · exact tries_return trivial
  · apply tries_bind (tries_write rfl (ofPlan_some samePlan))
    exact fun _ _ => tries_read (ofPlan_some samePlan)

theorem dropTargetLabel_tries (samePlan : saga.plan = plan) (current : Response) :
    Tries plan client (dropTargetLabel saga current) fun _ => True := by
  unfold dropTargetLabel
  split_ifs with present
  · exact tries_write rfl (ofPlan_some samePlan)
  · exact tries_return trivial

theorem verifyCompensation_works (identified : plan.Identified sha256)
    (samePlan : saga.plan = plan) :
    Works plan client (fun _ => True) (verifyCompensation sha256 saga)
      (fun shared _ => Clean client shared) (RaisesOfPlan plan) := by
  unfold verifyCompensation
  apply works_verify (ofPlan_some samePlan)
  intro verified
  split_ifs with restored
  · rw [samePlan] at restored
    apply (works_saveShown _ _ stable_anything _).raising
    · exact fun _ _ _ raised => raised.2
    · exact samePlan
    · rintro current ⟨⟩
      exact samePlan
    · exact ⟨identified.original _ restored.2, restored.1⟩
  · exact Triple.fail (stable_anything.and (stable_vouched _)) fun _ _ _ => ofPlan_some samePlan

theorem applyCompensation_works (identified : plan.Identified sha256)
    (samePlan : saga.plan = plan) (first : Response) :
    Works plan client (fun _ => True) (applyCompensation sha256 saga first)
      (fun shared _ => Clean client shared) (RaisesOfPlan plan) := by
  unfold applyCompensation
  apply Triple.bind (restoreBody_tries samePlan first)
  intro restored
  apply Triple.assume
  intro _
  apply Triple.bind (restoreLabel_tries samePlan restored)
  intro labelled
  apply Triple.assume
  intro _
  apply Triple.bind (dropTargetLabel_tries samePlan labelled)
  intro _
  apply Triple.assume
  intro _
  exact verifyCompensation_works identified samePlan

end Compensation

theorem compensateTransition_ends (identified : plan.Identified sha256) :
    Works plan client (Clean client) (compensateTransition sha256)
      (fun shared _ => Clean client shared) fun shared _ => Clean client shared := by
  unfold compensateTransition
  apply Triple.bind works_load
  intro stored
  apply Triple.assume
  intro ofPlan
  cases stored with
  | none => exact Triple.fail stable_clean fun _ _ clean => clean
  | some saga =>
      have samePlan : saga.plan = plan := ofPlan saga rfl
      apply Triple.bind ((works_read stable_clean ofPlan_none).raising fun _ _ _ raised => raised.1)
      intro first
      by_cases conflict : classifyRemote sha256 saga.plan first.issue = .conflict
      · rw [if_pos conflict]
        exact works_recordError samePlan (stable_clean.and (stable_vouched _))
      · rw [if_neg conflict]
        apply works_recording samePlan
        apply (applyCompensation_works identified samePlan first).weaken
        exact fun _ _ _ => trivial

theorem program_ends (identified : plan.Identified sha256)
    (planned : given.status = .planned) (ofGiven : given.plan = plan) (execution : Execution) :
    Works plan client (Clean client) (execution.program sha256 given)
      (fun shared _ => Clean client shared) fun shared _ => Clean client shared := by
  cases execution with
  | transition apply_ => exact runTransition_ends identified planned ofGiven apply_
  | compensation => exact compensateTransition_ends identified

end World

section Runs

variable {Client : Type u} [DecidableEq Client]

/-- With no execution in progress a terminal status is that of the issue, and no save
replaced a terminal status that its execution did not know. -/
structure AgreementLaw (plan : Plan)
    (system : System Client (Shared Client) SagaCall SagaAnswer Failure Saga) : Prop where
  settled : system.Quiet → ∀ saga, system.store.journal = some saga →
    Shows plan saga.status system.store.issue
  replaced : ∀ save ∈ system.store.replaced, ∀ saga, save.1 = some saga →
    saga.status = .committed ∨ saga.status = .compensated → save.2 = some saga

/-- Any number of transitions and compensations of one saga, as long as every save is
made by an execution that knows the journal it replaces and no execution that has
written to the issue fails to record how it ended. -/
theorem agreementLaw_of_checkedSave (rt : Runtime) (sha256 : String → String)
    (request : PlanRequest) (given : Saga) (made : makeTransitionPlan rt sha256 request = .ok given)
    (identified : given.plan.Identified sha256) (issue : Issue) (journal : Option Saga)
    (ofPlan : OfPlan given.plan journal)
    (agrees : ∀ saga, journal = some saga → Shows given.plan saga.status issue)
    (executions : Client → Execution)
    (system : System Client (Shared Client) SagaCall SagaAnswer Failure Saga)
    (reached : Reachable (sharedWorld Client given.plan checkedSave)
      ⟨Shared.start issue journal, fun client => (executions client).program sha256 given⟩ system) :
    AgreementLaw given.plan system := by
  have planned := (makeTransitionPlan_wellFormed made).2
  have start : AllSafe (sharedWorld Client given.plan checkedSave)
      (fun client shared _ => Clean client shared) (fun client shared _ => Clean client shared)
      ⟨Shared.start issue journal, fun client => (executions client).program sha256 given⟩ := by
    refine ⟨.start given.plan issue ofPlan agrees, fun client => ?_⟩
    exact (program_ends identified planned rfl (executions client)).safe _
      (.start given.plan issue ofPlan agrees) rfl
  have safe := safe_of_reachable tolerated_sharedWorld start reached
  constructor
  · intro quiet saga stored
    apply (safe.1.agrees saga stored).resolve_right
    rintro ⟨client, owes⟩
    have clean : Clean client system.store :=
      ended_of_quiet safe quiet (fun _ _ reached => reached) (fun _ _ reached => reached) client
    exact absurd (clean.symm.trans owes) Bool.false_ne_true
  · intro save logged saga replaced _
    rw [safe.1.replaced save logged, replaced]

/-! ### Two executions -/

/-- A write is refused once its ETag is no longer current. -/
def Shared.sent (shared : Shared Client) (client : Client) (call : SagaCall) :
    Shared Client × Except String Unit :=
  match call.write with
  | none => (shared, .error "HTTPError:400")
  | some (etag, effect) =>
      if etag = shared.version then (shared.applied client effect, .ok ())
      else (shared, .error "HTTPError:412")

/-- A provider that works; a save waits until the rule lets it be stored. -/
def SaveRule.serve (rule : SaveRule Client)
    [∀ client shared, Decidable (rule.stores client shared)] (client : Client)
    (shared : Shared Client) : (call : SagaCall) → Option (Shared Client × SagaAnswer call)
  | .load => some (shared.loaded client, .ok shared.journal)
  | .save saga =>
      if rule.stores client shared then some (shared.saved client saga, .ok saga) else none
  | .getIssue _ => some (shared, .ok ⟨shared.issue, shared.version⟩)
  | .addLabel label etag => some (shared.sent client (.addLabel label etag))
  | .patchBody body etag => some (shared.sent client (.patchBody body etag))
  | .removeLabel label etag => some (shared.sent client (.removeLabel label etag))

theorem served_sent (shared : Shared Client) (client : Client) (call : SagaCall) :
    ((shared.sent client call).1 = shared ∧ ∃ error, (shared.sent client call).2 = .error error) ∨
      ∃ effect, call.write = some (shared.version, effect) ∧
        (shared.sent client call).1 = shared.applied client effect := by
  unfold Shared.sent
  cases written : call.write with
  | none => exact .inl ⟨rfl, _, rfl⟩
  | some write =>
      obtain ⟨etag, effect⟩ := write
      dsimp only
      split_ifs with current
      · exact .inr ⟨effect, by rw [current], rfl⟩
      · exact .inl ⟨rfl, _, rfl⟩

theorem served_serve (rule : SaveRule Client)
    [∀ client shared, Decidable (rule.stores client shared)] (client : Client)
    (shared : Shared Client) (call : SagaCall) (after : Shared Client) (answer : SagaAnswer call)
    (served : rule.serve client shared call = some (after, answer)) :
    ServesShared rule client shared call after answer := by
  cases call with
  | load =>
      cases served
      exact .inr ⟨rfl, rfl⟩
  | save saga =>
      simp only [SaveRule.serve] at served
      split_ifs at served with stores
      cases served
      exact .inr ⟨stores, rfl, rfl⟩
  | getIssue stage =>
      cases served
      exact ⟨rfl, .inr rfl⟩
  | addLabel label etag =>
      have sent := served_sent shared client (.addLabel label etag)
      rw [Option.some.inj served] at sent
      exact sent
  | patchBody body etag =>
      have sent := served_sent shared client (.patchBody body etag)
      rw [Option.some.inj served] at sent
      exact sent
  | removeLabel label etag =>
      have sent := served_sent shared client (.removeLabel label etag)
      rw [Option.some.inj served] at sent
      exact sent

end Runs

instance (client : Bool) (shared : Shared Bool) : Decidable (checkedSave.stores client shared) :=
  inferInstanceAs (Decidable (_ = _))

instance (client : Bool) (shared : Shared Bool) : Decidable (anySave.stores client shared) :=
  inferInstanceAs (Decidable True)

/-- Execution `false` is the transition, execution `true` takes it back. -/
def twoExecutions : Bool → Execution
  | false => .transition true
  | true => .compensation

/-- Both executions before their first call. -/
def twoStart : System Bool (Shared Bool) SagaCall SagaAnswer Failure Saga :=
  ⟨Shared.start readyIssue none, fun client => (twoExecutions client).program id startSaga⟩

/-- The compensation after the transition. -/
def inTurn : List Bool :=
  List.replicate 20 false ++ List.replicate 20 true

theorem agreementLaw_of_checkedSave_inTurn :
    AgreementLaw startSaga.plan (inTurn.foldl (System.turn checkedSave.serve) twoStart) :=
  agreementLaw_of_checkedSave plainRuntime id startRequest startSaga (by decide +kernel)
    ⟨fun _ same => same, fun _ same => same⟩ readyIssue none ofPlan_none (by rintro _ ⟨⟩)
    twoExecutions _ (reachable_turns (served_serve checkedSave) twoStart inTurn)

/-- The compensation between the last read of the transition and its save. -/
def lateSave : List Bool :=
  List.replicate 13 false ++ List.replicate 20 true ++ List.replicate 20 false

theorem not_agreementLaw :
    ¬∀ (rt : Runtime) (sha256 : String → String) (request : PlanRequest) (given : Saga),
      makeTransitionPlan rt sha256 request = .ok given → given.plan.Identified sha256 →
      ∀ (issue : Issue) (executions : Bool → Execution)
        (system : System Bool (Shared Bool) SagaCall SagaAnswer Failure Saga),
        Reachable (sharedWorld Bool given.plan anySave)
          ⟨Shared.start issue none, fun client => (executions client).program sha256 given⟩ system →
        AgreementLaw given.plan system := by
  intro claimed
  have law := claimed plainRuntime id startRequest startSaga (by decide +kernel)
    ⟨fun _ same => same, fun _ same => same⟩ readyIssue twoExecutions _
    (reachable_turns (served_serve anySave) twoStart lateSave)
  have quiet : (lateSave.foldl (System.turn anySave.serve) twoStart).Quiet := by
    intro client
    cases client <;> decide +kernel
  have committed : (lateSave.foldl (System.turn anySave.serve) twoStart).store.journal.map
      Saga.status = some .committed := by
    decide +kernel
  obtain ⟨saga, stored, status⟩ := Option.map_eq_some_iff.mp committed
  have shown := law.settled quiet saga stored
  rw [status] at shown
  have restored : (lateSave.foldl (System.turn anySave.serve) twoStart).store.issue.body ≠
      startSaga.plan.desiredBody := by
    decide +kernel
  exact restored shown.1

end Adwf.RemoteSaga
