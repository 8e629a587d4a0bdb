import Adwf.Program.Interleaving
import Adwf.RemoteSaga.Transition

/-!
# Sagas on an issue people edit

Any number of executions work on one issue and one journal, and before every call
people may have changed the body and the labels.  The provider applies a write
only while its ETag is current.  Each write that took effect is logged with the
issue it was applied to, and each save of COMMITTED with the last read of the
execution that made it.
-/

namespace Adwf.RemoteSaga

open Adwf.Program

universe u

/-! ## The issue and the journal -/

/-- A write that took effect, and the issue before it. -/
structure AppliedWrite where
  call : SagaCall
  issue : Issue

/-- The issue at its revision, the journal, and the logs. -/
structure Remote (Client : Type u) where
  issue : Issue
  version : Nat
  journal : Option Saga
  lastRead : Client → Option Response
  writes : List AppliedWrite
  commits : List (Option Response)

/-- The ETag a write carries and what it does to the issue. -/
def SagaCall.write : SagaCall → Option (Nat × (Issue → Issue))
  | .addLabel label etag => some (etag, fun issue =>
      { issue with labels := insert label issue.labels })
  | .patchBody body etag => some (etag, fun issue => { issue with body := body })
  | .removeLabel label etag => some (etag, fun issue =>
      { issue with labels := issue.labels.erase label })
  | _ => none

section World

variable {Client : Type u} [DecidableEq Client]

namespace Remote

/-- An issue and a journal before the first execution. -/
def start (issue : Issue) (journal : Option Saga) : Remote Client :=
  { issue, version := 0, journal, lastRead := fun _ => none, writes := [], commits := [] }

def response (remote : Remote Client) : Response :=
  ⟨remote.issue, remote.version⟩

/-- After a read by a client. -/
def observed (remote : Remote Client) (client : Client) : Remote Client :=
  { remote with lastRead := Function.update remote.lastRead client (some remote.response) }

/-- After a write that took effect. -/
def applied (remote : Remote Client) (call : SagaCall) (effect : Issue → Issue) :
    Remote Client :=
  { remote with
    issue := effect remote.issue, version := remote.version + 1
    writes := remote.writes ++ [⟨call, remote.issue⟩] }

/-- After a save by a client. -/
def saved (remote : Remote Client) (client : Client) (saga : Saga) : Remote Client :=
  { remote with
    journal := some saga
    commits := if saga.status = .committed then remote.commits ++ [remote.lastRead client]
      else remote.commits }

end Remote

/-- People change the body and the labels any number of times. -/
def HumanEdits (remote edited : Remote Client) : Prop :=
  edited = remote ∨ ∃ issue version, remote.version < version ∧
    edited = { remote with issue := issue, version := version }

/-- What a call may lead to once people have made their edits.  `settled` limits the
issues a read finds; a call that raises may still have had its effect. -/
def ServedOn (settled : ReadStage → Issue → Prop) (client : Client) (remote : Remote Client)
    (call : SagaCall) (after : Remote Client) (answer : SagaAnswer call) : Prop :=
  match call, answer with
  | .load, answer =>
      after = remote ∧ (answer = .ok remote.journal ∨ ∃ error, answer = .error error)
  | .save saga, answer =>
      (after = remote ∧ ∃ error, answer = .error error) ∨
        after = remote.saved client saga ∧ (answer = .ok saga ∨ ∃ error, answer = .error error)
  | .getIssue stage, answer =>
      (after = remote ∧ ∃ error, answer = .error error) ∨
        settled stage remote.issue ∧ after = remote.observed client ∧
          answer = .ok remote.response
  | call, _ =>
      after = remote ∨ ∃ effect, call.write = some (remote.version, effect) ∧
        after = remote.applied call effect

/-- What a call may lead to, with the edits that come before it. -/
def Serves (settled : ReadStage → Issue → Prop) (client : Client) (remote : Remote Client)
    (call : SagaCall) (after : Remote Client) (answer : SagaAnswer call) : Prop :=
  ∃ edited, HumanEdits remote edited ∧ ServedOn settled client edited call after answer

/-! ## The laws -/

/-- Body and labels are those of some point of the saga. -/
structure SafeIssue (plan : Plan) (issue : Issue) : Prop where
  body : issue.body = plan.originalBody ∨ issue.body = plan.desiredBody
  labels : machineLabels issue ⊆ {plan.fromLabel, plan.targetLabel}
  nonempty : (machineLabels issue).Nonempty

/-- The body and the labels the saga ends with. -/
def IsCommitted (plan : Plan) (issue : Issue) : Prop :=
  issue.body = plan.desiredBody ∧ machineLabels issue = {plan.targetLabel}

/-- The writes of a transition. -/
def transitionWrites (plan : Plan) : SagaCall → Prop
  | .addLabel label _ => label = plan.targetLabel
  | .patchBody body _ => body = plan.desiredBody
  | .removeLabel label _ => label = plan.fromLabel
  | _ => False

/-- The writes of a compensation. -/
def compensationWrites (plan : Plan) : SagaCall → Prop
  | .addLabel label _ => label = plan.fromLabel
  | .patchBody body _ => body = plan.originalBody
  | .removeLabel label _ => label = plan.targetLabel
  | _ => False

/-- Every write that took effect was one of the allowed writes on a safe issue,
COMMITTED was saved only after a read of the committed issue, and the journal is
that of the plan. -/
structure SagaLaw (plan : Plan) (allowed : SagaCall → Prop) (remote : Remote Client) : Prop where
  journal : ∀ saga, remote.journal = some saga → saga.plan = plan
  writes : ∀ write ∈ remote.writes, allowed write.call ∧ SafeIssue plan write.issue
  commits : ∀ read ∈ remote.commits, ∃ response, read = some response ∧
    IsCommitted plan response.issue

/-- The moves of the others: a revision they leave alone keeps its issue. -/
structure OthersMove (client : Client) (before after : Remote Client) : Prop where
  version : before.version ≤ after.version
  issue : before.version = after.version → before.issue = after.issue
  lastRead : after.lastRead client = before.lastRead client

variable (Client) in
/-- Executions of one saga on an issue that people edit. -/
def editedWorld (plan : Plan) (allowed : SagaCall → Prop) (settled : ReadStage → Issue → Prop) :
    World Client (Remote Client) SagaCall SagaAnswer where
  step := Serves settled
  inv := SagaLaw plan allowed
  rely := OthersMove
  rely_refl _ _ := ⟨le_rfl, fun _ => rfl, rfl⟩
  rely_trans _ _ _ _ first second := by
    refine ⟨first.version.trans second.version, ?_, second.lastRead.trans first.lastRead⟩
    intro same
    have middle : _ = _ := le_antisymm first.version (second.version.trans_eq same.symm)
    exact (first.issue middle).trans (second.issue (middle ▸ same))

/-! ## Rules for one execution -/

variable {plan : Plan} {allowed : SagaCall → Prop} {settled : ReadStage → Issue → Prop}
variable {α β : Type} {client : Client} {before : Remote Client → Prop}

/-- A saga an exception may carry out of a `try` block. -/
def OfPlan (plan : Plan) (saga : Option Saga) : Prop :=
  ∀ current, saga = some current → current.plan = plan

theorem ofPlan_none : OfPlan plan none := by
  intro current stored
  cases stored

/-- An execution keeps the law, and ends with `returns` if it does not raise. -/
abbrev Keeps (plan : Plan) (allowed : SagaCall → Prop) (settled : ReadStage → Issue → Prop)
    (client : Client) (before : Remote Client → Prop) (program : SagaProgram α)
    (returns : Remote Client → α → Prop) : Prop :=
  Triple (editedWorld Client plan allowed settled) client before program returns fun _ failure =>
    OfPlan plan failure.saga

/-- The client's last read, and that nothing has changed while its ETag is current. -/
structure LastRead (client : Client) (response : Response) (remote : Remote Client) : Prop where
  read : remote.lastRead client = some response
  older : response.etag ≤ remote.version
  current : response.etag = remote.version → remote.issue = response.issue

variable {remote : Remote Client} {saga : Saga} {call : SagaCall}
variable {returns : Remote Client → α → Prop} {current : Option Saga}

omit [DecidableEq Client] in
theorem othersMove_of_humanEdits {edited : Remote Client}
    (edits : HumanEdits remote edited) : OthersMove client remote edited := by
  rcases edits with rfl | ⟨issue, version, newer, rfl⟩
  · exact ⟨le_rfl, fun _ => rfl, rfl⟩
  · exact ⟨newer.le, fun same => absurd same newer.ne, rfl⟩

omit [DecidableEq Client] in
theorem LastRead.move {response : Response} {later : Remote Client}
    (known : LastRead client response remote) (moved : OthersMove client remote later) :
    LastRead client response later := by
  constructor
  · exact moved.lastRead.trans known.read
  · exact known.older.trans moved.version
  · intro current
    have same : remote.version = later.version :=
      le_antisymm moved.version (current ▸ known.older)
    rw [← moved.issue same]
    exact known.current (current.trans same.symm)

omit [DecidableEq Client] in
theorem sagaLaw_start {journal : Option Saga} (issue : Issue)
    (ofPlan : ∀ saga, journal = some saga → saga.plan = plan) :
    SagaLaw plan allowed (Remote.start issue journal : Remote Client) := by
  constructor
  · exact ofPlan
  · rintro write ⟨⟩
  · rintro read ⟨⟩

/-- What an execution does is a move the others tolerate. -/
theorem tolerated_editedWorld : Tolerated (editedWorld Client plan allowed settled) := by
  rintro actor other remote call after answer different _ _ ⟨edited, edits, served⟩
  have moved : OthersMove other remote edited := othersMove_of_humanEdits edits
  apply (editedWorld Client plan allowed settled).rely_trans other moved
  have written : ∀ effect, OthersMove other edited (edited.applied call effect) :=
    fun effect => ⟨Nat.le_succ _, fun same => absurd same (Nat.succ_ne_self _).symm, rfl⟩
  cases call with
  | load =>
      obtain rfl := served.1
      exact ⟨le_rfl, fun _ => rfl, rfl⟩
  | save saga =>
      rcases served with ⟨rfl, _⟩ | ⟨rfl, _⟩
      · exact ⟨le_rfl, fun _ => rfl, rfl⟩
      · exact ⟨le_rfl, fun _ => rfl, rfl⟩
  | getIssue stage =>
      rcases served with ⟨rfl, _⟩ | ⟨_, rfl, _⟩
      · exact ⟨le_rfl, fun _ => rfl, rfl⟩
      · exact ⟨le_rfl, fun _ => rfl, Function.update_of_ne different.symm ..⟩
  | addLabel | patchBody | removeLabel =>
      rcases served with rfl | ⟨effect, _, rfl⟩
      · exact ⟨le_rfl, fun _ => rfl, rfl⟩
      · exact written effect

theorem stable_true : Stable (editedWorld Client plan allowed settled) client fun _ => True :=
  fun _ _ _ _ _ => trivial

theorem stable_lastRead (response : Response) :
    Stable (editedWorld Client plan allowed settled) client (LastRead client response) :=
  fun _ _ moved _ known => known.move moved

omit [DecidableEq Client] in
theorem SagaLaw.edited {edited : Remote Client} (law : SagaLaw plan allowed remote)
    (edits : HumanEdits remote edited) : SagaLaw plan allowed edited := by
  rcases edits with rfl | ⟨issue, version, _, rfl⟩
  · exact law
  · exact ⟨law.journal, law.writes, law.commits⟩

theorem SagaLaw.observed (law : SagaLaw plan allowed remote) :
    SagaLaw plan allowed (remote.observed client) :=
  ⟨law.journal, law.writes, law.commits⟩

theorem lastRead_observed (remote : Remote Client) :
    LastRead client remote.response (remote.observed client) := by
  constructor
  · simp [Remote.observed]
  · exact le_rfl
  · exact fun _ => rfl

omit [DecidableEq Client] in
theorem SagaLaw.saved (law : SagaLaw plan allowed remote)
    (samePlan : saga.plan = plan) (committed : saga.status = .committed →
      ∃ response, remote.lastRead client = some response ∧ IsCommitted plan response.issue) :
    SagaLaw plan allowed (remote.saved client saga) := by
  constructor
  · rintro other ⟨⟩
    exact samePlan
  · exact law.writes
  · intro read logged
    simp only [Remote.saved] at logged
    split_ifs at logged with isCommitted
    · rcases List.mem_append.mp logged with earlier | latest
      · exact law.commits read earlier
      · obtain rfl := List.mem_singleton.mp latest
        exact committed isCommitted
    · exact law.commits read logged

omit [DecidableEq Client] in
theorem SagaLaw.applied (law : SagaLaw plan allowed remote) (effect : Issue → Issue) (isAllowed : allowed call)
    (safe : SafeIssue plan remote.issue) : SagaLaw plan allowed (remote.applied call effect) := by
  constructor
  · exact law.journal
  · intro write logged
    rcases List.mem_append.mp logged with earlier | latest
    · exact law.writes write earlier
    · obtain rfl := List.mem_singleton.mp latest
      exact ⟨isAllowed, safe⟩
  · exact law.commits

theorem keeps_return {value : α}
    (stable : Stable (editedWorld Client plan allowed settled) client before)
    (holds : ∀ remote, before remote → returns remote value) :
    Keeps plan allowed settled client before (pure value) returns :=
  Triple.pure stable fun remote _ known => holds remote known

theorem keeps_fail {text : String} {saga : Option Saga}
    (stable : Stable (editedWorld Client plan allowed settled) client before)
    (ofPlan : OfPlan plan saga) :
    Keeps plan allowed settled client before (sagaError text saga) returns :=
  Triple.fail stable fun _ _ _ => ofPlan

theorem keeps_during {saga : Option Saga} {returns : Remote Client → SagaValue call → Prop}
    (stable : Stable (editedWorld Client plan allowed settled) client before)
    (ofPlan : OfPlan plan saga)
    (returnsStable : ∀ value, Stable (editedWorld Client plan allowed settled) client
      (returns · value))
    (served : ∀ remote after answer, SagaLaw plan allowed remote → before remote →
      ServedOn settled client remote call after answer →
      SagaLaw plan allowed after ∧ ∀ value, answer = .ok value → returns after value) :
    Keeps plan allowed settled client before (call.during saga) returns := by
  have stepped : ∀ remote after answer, SagaLaw plan allowed remote → before remote →
      Serves settled client remote call after answer →
      SagaLaw plan allowed after ∧ ∀ value, answer = .ok value → returns after value := by
    rintro remote after answer law known ⟨edited, edits, onEdited⟩
    have stillKnown := stable remote edited (othersMove_of_humanEdits edits) (law.edited edits) known
    exact served edited after answer (law.edited edits) stillKnown onEdited
  apply Triple.ask stable stepped
  intro answer
  cases answer with
  | error text =>
      apply Triple.fail
      · intro remote later moved _ _ value raised
        cases raised
      · exact fun _ _ _ => ofPlan
  | ok value =>
      apply Triple.done
      · rintro remote later moved laterLaw reached other ⟨⟩
        exact returnsStable value remote later moved laterLaw (reached value rfl)
      · exact fun _ _ reached => reached value rfl

theorem keeps_bind {middle : Remote Client → α → Prop} {returns : Remote Client → β → Prop}
    {first : SagaProgram α} {next : α → SagaProgram β}
    (firstKeeps : Keeps plan allowed settled client before first middle)
    (nextKeeps : ∀ value, Keeps plan allowed settled client (middle · value) (next value) returns) :
    Keeps plan allowed settled client before (first >>= next) returns :=
  Triple.bind firstKeeps nextKeeps

theorem keeps_load {next : Option Saga → SagaProgram α} (nextKeeps : ∀ stored, OfPlan plan stored →
      Keeps plan allowed settled client (fun _ => True) (next stored) returns) :
    Keeps plan allowed settled client (fun _ => True) (SagaCall.load.during none >>= next)
      returns := by
  have loaded : Keeps plan allowed settled client (fun _ => True) (SagaCall.load.during none)
      fun _ stored => True ∧ OfPlan plan stored := by
    apply keeps_during stable_true ofPlan_none
    · exact fun _ _ _ _ _ known => known
    · rintro remote after answer law _ ⟨rfl, rfl | ⟨error, rfl⟩⟩
      · refine ⟨law, ?_⟩
        rintro value ⟨⟩
        exact ⟨trivial, law.journal⟩
      · refine ⟨law, ?_⟩
        rintro value ⟨⟩
  exact keeps_bind loaded fun stored => Triple.assume (nextKeeps stored)

theorem keeps_save (stable : Stable (editedWorld Client plan allowed settled) client before)
    (ofPlan : OfPlan plan current)
    (kept : ∀ remote, before remote → before (remote.saved client saga))
    (samePlan : saga.plan = plan) (committed : ∀ remote, before remote → saga.status = .committed →
      ∃ response, remote.lastRead client = some response ∧ IsCommitted plan response.issue) :
    Keeps plan allowed settled client before (saveSaga saga current) fun remote value =>
      before remote ∧ value = saga := by
  apply keeps_during stable ofPlan
  · rintro value remote later moved law ⟨known, same⟩
    exact ⟨stable remote later moved law known, same⟩
  · rintro remote after answer law known (⟨rfl, error, rfl⟩ | ⟨rfl, rfl | ⟨error, rfl⟩⟩)
    · refine ⟨law, ?_⟩
      rintro value ⟨⟩
    · refine ⟨law.saved samePlan (committed remote known), ?_⟩
      rintro value ⟨⟩
      exact ⟨kept remote known, rfl⟩
    · refine ⟨law.saved samePlan (committed remote known), ?_⟩
      rintro value ⟨⟩

theorem keeps_save_bind {next : Saga → SagaProgram α}
    (saved : Keeps plan allowed settled client before (saveSaga saga current) fun remote value =>
      before remote ∧ value = saga)
    (nextKeeps : Keeps plan allowed settled client before (next saga) returns) :
    Keeps plan allowed settled client before (saveSaga saga current >>= next) returns := by
  apply keeps_bind saved
  intro value
  apply Triple.assume
  intro same
  rw [same]
  exact nextKeeps

theorem keeps_getIssue {stage : ReadStage}
    (stable : Stable (editedWorld Client plan allowed settled) client before)
    (ofPlan : OfPlan plan current) :
    Keeps plan allowed settled client before (readIssue stage current) fun remote response =>
      LastRead client response remote ∧ settled stage response.issue := by
  apply keeps_during stable ofPlan
  · rintro value remote later moved law ⟨known, isSettled⟩
    exact ⟨known.move moved, isSettled⟩
  · rintro remote after answer law _ (⟨rfl, error, rfl⟩ | ⟨isSettled, rfl, rfl⟩)
    · refine ⟨law, ?_⟩
      rintro value ⟨⟩
    · refine ⟨law.observed, ?_⟩
      rintro value ⟨⟩
      exact ⟨lastRead_observed remote, isSettled⟩

theorem keeps_read {stage : ReadStage} {next : Response → SagaProgram α}
    (stable : Stable (editedWorld Client plan allowed settled) client before)
    (ofPlan : OfPlan plan current) (nextKeeps : ∀ response, settled stage response.issue →
      Keeps plan allowed settled client (LastRead client response) (next response) returns) :
    Keeps plan allowed settled client before (readIssue stage current >>= next) returns :=
  keeps_bind (keeps_getIssue stable ofPlan) fun response => Triple.assume (nextKeeps response)

theorem keeps_write {response : Response} {effect : Issue → Issue} (write : call.write = some (response.etag, effect))
    (isAllowed : allowed call) (safe : SafeIssue plan response.issue)
    (ofPlan : OfPlan plan current) :
    Keeps plan allowed settled client (LastRead client response) (call.during current)
      fun _ _ => True := by
  apply keeps_during (stable_lastRead response) ofPlan
  · exact fun _ _ _ _ _ _ => trivial
  · intro remote after answer law known served
    have effected : after = remote ∨ ∃ effect, call.write = some (remote.version, effect) ∧
        after = remote.applied call effect := by
      cases call with
      | load | save | getIssue => cases write
      | _ => exact served
    refine ⟨?_, fun _ _ => trivial⟩
    rcases effected with rfl | ⟨other, sent, rfl⟩
    · exact law
    · rw [write] at sent
      simp only [Option.some.injEq, Prod.mk.injEq] at sent
      apply law.applied other isAllowed
      rw [known.current sent.1]
      exact safe

theorem keeps_write_bind {response : Response} {effect : Issue → Issue}
    {next : SagaValue call → SagaProgram α}
    (write : call.write = some (response.etag, effect)) (isAllowed : allowed call)
    (safe : SafeIssue plan response.issue) (ofPlan : OfPlan plan current)
    (nextKeeps : ∀ value, Keeps plan allowed settled client (fun _ => True) (next value) returns) :
    Keeps plan allowed settled client (LastRead client response)
      (call.during current >>= next) returns :=
  keeps_bind (keeps_write write isAllowed safe ofPlan) nextKeeps

end World

end Adwf.RemoteSaga
