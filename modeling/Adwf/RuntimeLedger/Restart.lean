import Adwf.RuntimeLedger.Mirror
import Adwf.RuntimeLedger.CrashSafety
import Adwf.Run.Guarded
import Adwf.Orchestrator.Closure

/-!
# Restarting from the ledger

A run goes on alike on a root that was never discarded and on one that is discarded and
restored from the ledger, at any points between two steps.
-/

namespace Adwf.RuntimeLedger

open Adwf.Fallible Adwf.Program Json Hub
open Orchestrator (RunRequest Opened)

universe u

variable {rt : Runtime}

/-! ## Two roots -/

/-- The file after a restart: the projection that was stored.  A file that `append` refuses
stays as it is. -/
def StoredRun.rebuilt (rt : Runtime) (run : StoredRun) : StoredRun :=
  match validateJournal rt run.members, run.projected rt with
  | .ok [], .ok shown => shown
  | _, _ => run

/-- What happens next: a step, on both roots, or a restart of the second root. -/
inductive Move where
  | step (twin : TwinCall)
  | restart

/-- The files of one run on a root that is never discarded and on one that restarts. -/
structure Roots where
  full : StoredRun
  restarted : StoredRun

def Roots.move (rt : Runtime) (roots : Roots) : Move → Roots
  | .step twin => ⟨roots.full.after rt twin.call, roots.restarted.after rt twin.other⟩
  | .restart => ⟨roots.full, roots.restarted.rebuilt rt⟩

/-- A run that `new_run` has just stored, on two roots. -/
def Roots.opened (start : Orchestrator.Journal) : Roots :=
  ⟨.ofJournal start, .ofJournal start⟩

/-! ## What is compared -/

/-- The phase, the status, the retry counts, the recovery target and the bindings. -/
structure Agrees (full restarted : StoredRun) : Prop where
  phase : full.state.phase = restarted.state.phase
  status : full.state.status = restarted.state.status
  attempts : full.state.attempts = restarted.state.attempts
  cycle : full.state.cycle = restarted.state.cycle
  lastFailedPhase : full.state.lastFailedPhase = restarted.state.lastFailedPhase
  subjectSha : full.state.subjectSha = restarted.state.subjectSha
  previewDigest : full.state.previewDigest = restarted.state.previewDigest
  ownerAcceptanceSha : full.state.ownerAcceptanceSha = restarted.state.ownerAcceptanceSha
  deliverySha : full.state.deliverySha = restarted.state.deliverySha

/-- An event without its id, its time and its hashes. -/
def impersonalEvent : Json → Json
  | .obj event => .obj (event.filter fun mem =>
      mem.1 ∉ ["event_hash", "event_id", "occurred_at", "previous_event_hash"])
  | value => value

/-- A projection up to event ids, times and the hashes derived from them. -/
def impersonal (projection : Fields) : Fields :=
  (put "events" (.arr ((eventsOf projection).map impersonalEvent)) projection).filter
    fun mem => mem.1 ∉ ["event_head", "updated_at"]

/-- Through any readable ledger to which comments are added alone, `append` and
`restore_latest` turn the first file into the second while the work item is open. -/
def RestartsTo (Client : Type u) [DecidableEq Client] (rt : Runtime) (run restored : StoredRun) :
    Prop :=
  ∀ (repository : Repository) (validateCheckpoint : CheckpointCheck)
    (isOpen : Nat → Except LedgerError Bool) (operations : Client → Operation)
    (system : System Client (Hub Client) Call Answer LedgerError Outcome),
    Reachable (aloneWorld Client repository rt validateCheckpoint)
      (launched repository rt validateCheckpoint operations) system →
    Readable repository rt system.store →
    Collisionless rt system.store restored.members →
    (∀ number, workItem rt restored.members = some number → isOpen number = .ok true) →
    ∀ client request, request.state = run.members →
      (∀ checkpoint, request.checkpoint = some checkpoint →
        (∃ fields, checkpoint = .obj fields) ∧ validateCheckpoint checkpoint = [] ∧
          checkpointStateBindingErrors rt checkpoint restored.members = []) →
      ∃ after outcome, (append rt validateCheckpoint request).execute
          (Hub.serve repository client) system.store = (after, .done outcome) ∧
        (Readable repository rt after → ∀ restorer now, ∃ final,
          (restoreLatest rt validateCheckpoint isOpen now).execute
            (Hub.serve repository restorer) after = (final, .done (some restored.members)))

/-- `append` raises before its first call. -/
def Refused (Client : Type u) [DecidableEq Client] (rt : Runtime) (run : StoredRun) : Prop :=
  ∀ (repository : Repository) (validateCheckpoint : CheckpointCheck) (hub : Hub Client)
    (client : Client) (request : AppendRequest), request.state = run.members →
    ∃ error, (append rt validateCheckpoint request).execute (Hub.serve repository client) hub =
      (hub, .fail error)

/-- The restarts do not show. -/
structure Transparent (Client : Type u) [DecidableEq Client] (rt : Runtime) (roots : Roots) :
    Prop where
  agrees : Agrees roots.full roots.restarted
  answers : ∀ twin : TwinCall, SameAnswer Agrees (roots.full.advance rt twin.call)
    (roots.restarted.advance rt twin.other)
  projections : ∃ shown other, publicStateProjection rt roots.full.members = .ok shown ∧
      publicStateProjection rt roots.restarted.members = .ok other ∧
      impersonal shown = impersonal other
  restarts : RestartsTo Client rt roots.restarted (roots.restarted.rebuilt rt) ∨
    Refused Client rt roots.restarted ∧ roots.restarted.rebuilt rt = roots.restarted

/-! ## Related files agree -/

variable {full restarted run : StoredRun}

theorem Mirrors.agrees (mirrors : Mirrors rt full restarted) : Agrees full restarted := by
  obtain ⟨eventHead, blockers, updatedAt, same⟩ := mirrors.state
  constructor <;> rw [same] <;> rfl

theorem SameAnswer.imp {related weaker : StoredRun → StoredRun → Prop}
    (implies : ∀ first second, related first second → weaker first second)
    {first second : Except String (Option StoredRun)} (same : SameAnswer related first second) :
    SameAnswer weaker first second := by
  cases same with
  | raised error => exact .raised error
  | kept => exact .kept
  | saved both => exact .saved (implies _ _ both)

theorem impersonalEvent_publicEvent (hash : String) (unsigned : Fields) :
    impersonalEvent (.obj (put "event_hash" (.str hash) unsigned)) =
      .obj ((timeless unsigned).filter fun mem => mem.1 ≠ "event_hash") := by
  rw [impersonalEvent, filter_put (by simp), timeless, List.filter_filter]
  simp

theorem impersonalEvent_publicRecords {sources others : List Fields}
    (same : List.Forall₂ (SameEvent rt) sources others) {previous start : Option String}
    {shown otherShown : List Fields × Option String}
    (first : publicRecords rt previous sources = .ok shown)
    (second : publicRecords rt start others = .ok otherShown) :
    (shown.1.map Json.obj).map impersonalEvent =
      (otherShown.1.map Json.obj).map impersonalEvent := by
  induction same generalizing previous start shown otherShown with
  | nil =>
      cases first
      cases second
      rfl
  | cons both _ ih =>
      obtain ⟨part, sourcePart, otherPart⟩ := both
      simp only [publicRecords, bind_ok_iff] at first second
      obtain ⟨unsigned, unsignedShown, later, laterShown, ⟨⟩⟩ := first
      obtain ⟨otherUnsigned, otherUnsignedShown, otherLater, otherLaterShown, ⟨⟩⟩ := second
      have parts : timeless unsigned = timeless otherUnsigned := by
        have shown := publicPart_eq unsignedShown
        have otherShown := publicPart_eq otherUnsignedShown
        rw [sourcePart] at shown
        rw [otherPart] at otherShown
        exact (Except.ok.inj shown).symm.trans (Except.ok.inj otherShown)
      simp only [List.map_cons, impersonalEvent_publicEvent, parts]
      rw [ih laterShown otherLaterShown]

theorem forall₂_left {sources others : List Fields}
    (same : List.Forall₂ (SameEvent rt) sources others) :
    List.Forall₂ (SameEvent rt) sources sources := by
  induction same with
  | nil => exact .nil
  | cons both _ ih =>
      obtain ⟨part, sourcePart, _⟩ := both
      exact .cons ⟨part, sourcePart, sourcePart⟩ ih

theorem eventsOf_members (run : StoredRun) : eventsOf run.members = run.events.map .obj := by
  simp [eventsOf, StoredRun.members]

/-- Files whose events differ in ids, times and hashes alone. -/
theorem impersonal_members_congr {other : StoredRun} {eventHead : Option String}
    {updatedAt : Timestamp}
    (state : other.state = run.state.withUnread [] eventHead run.state.blockers updatedAt)
    (events : (run.events.map Json.obj).map impersonalEvent =
      (other.events.map Json.obj).map impersonalEvent) :
    impersonal run.members = impersonal other.members := by
  rw [impersonal, impersonal, eventsOf_members, eventsOf_members, events, StoredRun.members,
    StoredRun.members, state]
  simp only [Orchestrator.Journal.members, Orchestrator.Journal.withUnread, put, String.reduceLT,
    String.reduceEq, if_true, if_false]
  simp

/-- The projections of related files differ in event ids, times and hashes. -/
theorem Mirrors.projections (mirrors : Mirrors rt full restarted) :
    ∃ shown other, publicStateProjection rt full.members = .ok shown ∧
      publicStateProjection rt restarted.members = .ok other ∧
      impersonal shown = impersonal other := by
  obtain ⟨eventHead, blockers, updatedAt, same⟩ := mirrors.state
  obtain ⟨reasons, safe⟩ := @exists_safeReasons rt full.state.blockers
  have otherSafe := mirrors.blockers.symm.trans safe
  obtain ⟨records, recorded⟩ : ∃ records, publicRecords rt none full.events = .ok records := by
    obtain ⟨records, recorded, _⟩ := sameEvent_publicRecords none (forall₂_left mirrors.events)
    exact ⟨records, recorded⟩
  obtain ⟨otherRecords, otherRecorded, _⟩ := sameEvent_publicRecords none mirrors.events
  refine ⟨StoredRun.members ⟨full.state.withUnread [] records.2 reasons full.state.updatedAt,
    records.1⟩, StoredRun.members ⟨restarted.state.withUnread [] otherRecords.2 reasons
    restarted.state.updatedAt, otherRecords.1⟩, ?_, ?_, ?_⟩
  · rw [publicStateProjection_members, StoredRun.projected, safe, ok_bind, recorded]
    rfl
  · rw [publicStateProjection_members, StoredRun.projected, otherSafe, ok_bind, otherRecorded]
    rfl
  · apply impersonal_members_congr
    · rw [same]
      rfl
    · exact impersonalEvent_publicRecords mirrors.events recorded otherRecorded

theorem Mirrors.rebuilt (mirrors : Mirrors rt full restarted) :
    Mirrors rt full (restarted.rebuilt rt) := by
  obtain ⟨shown, projected, related⟩ := mirrors.projected
  unfold StoredRun.rebuilt
  rw [projected]
  split
  · rename_i ok_shown
    cases ok_shown
    exact related
  · exact mirrors

theorem Mirrors.move {roots : Roots} (mirrors : Mirrors rt roots.full roots.restarted)
    (move : Move) : Mirrors rt (roots.move rt move).full (roots.move rt move).restarted := by
  cases move with
  | step twin => exact mirrors.after twin
  | restart => exact mirrors.rebuilt

theorem mirrors_opened {request : RunRequest} {start : Orchestrator.Journal}
    (opened : Opened rt request start) :
    Mirrors rt (Roots.opened start).full (Roots.opened start).restarted := by
  obtain ⟨directory, after, ran⟩ := opened
  obtain ⟨_, policy, revision, _, rfl, _⟩ := Orchestrator.newRun_eq_ok ran
  exact ⟨⟨none, [], .at request.savedAt, rfl⟩, rfl, .nil, rfl, rfl⟩

/-! ## The ledger rebuilds the file -/

variable {Client : Type u} [DecidableEq Client]

theorem restartsTo_of_valid {shown : StoredRun} (valid : validateJournal rt run.members = .ok [])
    (projected : run.projected rt = .ok shown) : RestartsTo Client rt run shown := by
  intro repository validateCheckpoint isOpen operations system reached readable collisionless opened
    client request stored checkpoint
  have publicShown : publicStateProjection rt run.members = .ok shown.members := by
    rw [publicStateProjection_members, projected]
    rfl
  have members : runMembers run.members = .ok () := by
    rfl
  have appendable : Appendable rt validateCheckpoint request shown.members := by
    constructor
    · rw [stored, valid]
    · rw [stored, publicShown]
    · rw [stored, members]
    · exact checkpoint
  exact restoreLatest_append (hubLaw_of_reachable reached) readable client appendable collisionless
    opened

theorem refused_of_not_valid
    (invalid : validateJournal rt run.members ≠ .ok []) : Refused Client rt run := by
  intro repository validateCheckpoint hub client request stored
  rw [append, checkedRequest, stored]
  cases computed : validateJournal rt run.members with
  | error error => exact ⟨_, rfl⟩
  | ok findings =>
      cases findings with
      | nil => exact absurd computed invalid
      | cons first rest => exact ⟨.value "REMOTE_RUNTIME_STATE_INVALID", rfl⟩

theorem Mirrors.restarts (mirrors : Mirrors rt full restarted) :
    RestartsTo Client rt restarted (restarted.rebuilt rt) ∨
      Refused Client rt restarted ∧ restarted.rebuilt rt = restarted := by
  obtain ⟨shown, projected, _⟩ := mirrors.projected
  by_cases valid : validateJournal rt restarted.members = .ok []
  · left
    have rebuilt : restarted.rebuilt rt = shown := by
      rw [StoredRun.rebuilt, valid, projected]
    rw [rebuilt]
    exact restartsTo_of_valid valid projected
  · right
    refine ⟨refused_of_not_valid valid, ?_⟩
    unfold StoredRun.rebuilt
    split
    · rename_i ok_valid _
      exact absurd ok_valid valid
    · rfl

theorem Mirrors.transparent {roots : Roots}
    (mirrors : Mirrors rt roots.full roots.restarted) : Transparent Client rt roots where
  agrees := mirrors.agrees
  answers twin := (mirrors.advance twin).imp fun _ _ related => related.agrees
  projections := mirrors.projections
  restarts := mirrors.restarts

/-- In every state of every run with restarts anywhere, the restarts do not show. -/
theorem always_transparent (Client : Type u) [DecidableEq Client] (rt : Runtime)
    (request : RunRequest) (start : Orchestrator.Journal) (opened : Opened rt request start)
    (moves : List Move) :
    Run.Always (Roots.move rt) (Transparent Client rt) (Roots.opened start) moves := by
  have related : Run.Always (Roots.move rt)
      (fun roots => Mirrors rt roots.full roots.restarted) (Roots.opened start) moves := by
    apply Run.always_of_invariant
    · intro roots move mirrors
      exact mirrors.move move
    · exact mirrors_opened opened
  apply related.imp
  intro roots mirrors
  exact mirrors.transparent

theorem always_transparent_plain :
    Opened Orchestrator.plainRuntime Orchestrator.plainRequest Orchestrator.plainStart ∧
      Run.Always (Roots.move Orchestrator.plainRuntime)
        (Transparent Bool Orchestrator.plainRuntime) (Roots.opened Orchestrator.plainStart)
        [.restart] :=
  ⟨Orchestrator.plainStart_opened, always_transparent Bool _ _ _ Orchestrator.plainStart_opened _⟩

end Adwf.RuntimeLedger
