import Adwf.Orchestrator.JournalFiles
import Adwf.Orchestrator.Reading
import Adwf.RuntimeLedger.Projection

/-!
# A run whose events came back from the ledger

A restored journal has the events of the public projection, which lack members the
code writes.  `StoredRun` keeps every recorded event as its object, so that one model
of `advance_run` covers a journal that was never discarded and a restored one.
-/

namespace Adwf.RuntimeLedger

open Adwf.Fallible Json
open Orchestrator (Journal Event StepCall Ending advanceState advanceCore newEvent)

/-- The members of an event the code writes. -/
def eventMembers (event : Event) : Fields :=
  match event.toJson with
  | .obj members => members
  | _ => []

/-- A text member; the code writes no other kind under the keys this is used for. -/
def textOf (event : Fields) (key : String) : String :=
  (get event key).asText.getD ""

/-- What `advance_run` reads of a recorded event: its key, its phase and its outcome. -/
def readEvent (event : Fields) : Event where
  sequence := 0
  eventId := ""
  idempotencyKey := textOf event "idempotency_key"
  phase := .unknown (textOf event "phase")
  outcome := (Orchestrator.Outcome.ofJson (get event "outcome")).getD .pass
  subjectSha := .null
  evidenceRefs := []
  reasonCodes := []
  decision := ⟨.block, [], "", none⟩
  costUsd := 0
  metadata := []
  occurredAt := .at 0
  previousEventHash := none
  eventHash := ""

/-- A journal file: its events as they are stored, and its other members as a journal
without events. -/
structure StoredRun where
  state : Journal
  events : List Fields

/-- The journal without its events. -/
def bare (journal : Journal) : Journal :=
  { journal with events := [] }

/-- The journal without what a step does not read. -/
def blank (journal : Journal) : Journal :=
  journal.withUnread [] none [] (.at 0)

namespace StoredRun

/-- The journal of a run the code has written. -/
def ofJournal (journal : Journal) : StoredRun :=
  ⟨bare journal, journal.events.map eventMembers⟩

/-- The members of the file. -/
def members (run : StoredRun) : Fields :=
  put "events" (.arr (run.events.map .obj)) run.state.members

/-- The journal `advance_run` reads in the file. -/
def view (run : StoredRun) : Journal :=
  run.state.withUnread (run.events.map readEvent) run.state.eventHead run.state.blockers
    run.state.updatedAt

section

variable (rt : Runtime) (run : StoredRun)

/-- `advance_run` on the loaded journal; `none` when it returns without a save. -/
def next (call : StepCall) : Except String (Option StoredRun) := do
  let ended ← advanceState rt run.view call
  match ended with
  | .unchanged => return none
  | .save after =>
      return some ⟨bare after, run.events ++ (after.events.drop run.events.length).map eventMembers⟩

/-- `advance_run`. -/
def advance (call : StepCall) : Except String (Option StoredRun) := do
  let findings ← validateJournal rt run.members
  require (findings = []) ("ORCHESTRATION_JOURNAL_INVALID:" ++ ",".intercalate findings)
  run.next rt call

def saved (savedAt : Int) : StoredRun :=
  ⟨run.state.saved savedAt, run.events⟩

/-- The file after the call. -/
def after (call : StepCall) : StoredRun :=
  match run.advance rt call with
  | .ok (some changed) => changed.saved call.savedAt
  | _ => run

end

end StoredRun

/-! ## The two models of a written journal -/

section Written

variable {rt : Runtime}

/-- What an ending makes of a file. -/
def StoredRun.apply (rt : Runtime) (run : StoredRun) (call : StepCall) :
    Ending → Option StoredRun
  | .unchanged => none
  | .late blocker =>
      some ⟨{ run.state with events := [], status := .blocked, blockers := [.str blocker] },
        run.events⟩
  | .recorded core =>
      let event := newEvent rt run.view core.result core.decision call
      some ⟨core.state.withUnread [] (some event.eventHash) (core.blockers run.state.blockers)
        run.state.updatedAt, run.events ++ [eventMembers event]⟩

theorem next_eq (run : StoredRun) (call : StepCall) : run.next rt call =
      (advanceCore rt (blank run.state) (run.events.map fun event => (readEvent event).seen)
        call).map (run.apply rt call) := by
  have ended := Orchestrator.advanceState_withUnread rt (blank run.state)
    (run.events.map readEvent) run.state.eventHead run.state.blockers run.state.updatedAt call
  rw [List.map_map] at ended
  have same : (blank run.state).withUnread (run.events.map readEvent) run.state.eventHead
      run.state.blockers run.state.updatedAt = run.view := rfl
  rw [same] at ended
  rw [StoredRun.next, ended]
  change _ =
    (advanceCore rt (blank run.state) (run.events.map (Event.seen ∘ readEvent)) call).map _
  cases advanceCore rt (blank run.state) (run.events.map (Event.seen ∘ readEvent)) call with
  | error error => rfl
  | ok ending =>
      cases ending with
      | unchanged => rfl
      | late blocker =>
          simp [Ending.apply, StoredRun.apply, bare, blank, Journal.withUnread, Except.map, ok_bind,
            pure, Except.pure]
      | recorded core =>
          simp [Ending.apply, StoredRun.apply, StoredRun.view, bare, blank, Journal.withUnread,
            Except.map, ok_bind, pure, Except.pure]

end Written

end Adwf.RuntimeLedger

/-!
## A journal and its restored twin

The projection drops members of the events and hashes them anew.  `Mirrors` relates the
file of a run to that of the same run after restarts; a step and a projection keep it.
-/

namespace Adwf.RuntimeLedger

open Adwf.Fallible Json
open Orchestrator (Journal Event StepCall Ending advanceState advanceCore newEvent)

variable {rt : Runtime}

/-- The chain of the recorded events is whole and ends at the event head. -/
def Linked (rt : Runtime) (run : StoredRun) : Prop :=
  validateEvents rt 0 .null (run.events.map .obj) = .ok ([], Json.ofText run.state.eventHead)

theorem members_withUnread (run : StoredRun) (eventHead : Option String) (blockers : List Json)
    (events : List Fields) :
    (StoredRun.mk (run.state.withUnread [] eventHead blockers run.state.updatedAt) events).members =
      put "event_head" (Json.ofText eventHead) (put "events" (.arr (events.map .obj))
        (put "blockers" (.arr blockers) run.members)) := by
  simp only [StoredRun.members, Journal.members, put, Journal.withUnread, String.reduceLT,
    String.reduceEq, if_true, if_false]

theorem validateJournal_congr {run other : StoredRun} {eventHead : Option String}
    {blockers : List Json} {updatedAt : Timestamp}
    (same : other.state = run.state.withUnread [] eventHead blockers updatedAt)
    (linked : Linked rt run) (otherLinked : Linked rt other) :
    validateJournal rt run.members = validateJournal rt other.members := by
  unfold Linked at linked otherLinked
  obtain ⟨state, events⟩ := run
  obtain ⟨otherState, otherEvents⟩ := other
  dsimp only at same linked otherLinked
  subst same
  simp only [Journal.withUnread] at otherLinked
  simp only [validateJournal, StoredRun.members, get_put, lookup_put]
  simp [Journal.members, Journal.withUnread, Json.get, lookup_cons, linked, otherLinked]

variable {previous : Json} {event : Fields} {full restored : StoredRun}

theorem validateEvents_append {sources : List Json} {index : Nat} {head : Json}
    (event : Fields) (whole : validateEvents rt index previous sources = .ok ([], head))
    (sequence : get event "sequence" = .num (index + sources.length + 1 : Nat))
    (chained : get event "previous_event_hash" = head)
    (hash : get event "event_hash" = .str (journalEventHash rt event)) :
    validateEvents rt index previous (sources ++ [.obj event]) =
      .ok ([], get event "event_hash") := by
  induction sources generalizing index previous with
  | nil =>
      cases whole
      simp only [List.length_nil, Nat.add_zero] at sequence
      simp [validateEvents, sequence, chained, hash, ok_bind, pure, Except.pure]
  | cons source rest ih =>
      cases source with
      | obj fields =>
          simp only [validateEvents, bind_ok_iff] at whole
          obtain ⟨⟨laterFindings, laterHead⟩, laterWhole, found⟩ := whole
          simp only [pure, Except.pure, Except.ok.injEq, Prod.mk.injEq, List.append_eq_nil_iff]
            at found
          obtain ⟨⟨first, rfl⟩, rfl⟩ := found
          have later := ih laterWhole (by
            rw [sequence, List.length_cons]
            congr 2
            omega)
          simp only [List.cons_append, validateEvents, later, ok_bind]
          simpa [pure, Except.pure, and_assoc] using first
      | _ => cases whole

theorem get_eventMembers_hash (event : Event) :
    get (eventMembers event) "event_hash" = .str event.eventHash := by
  simp [eventMembers, Event.toJson, Json.get, lookup_cons]

theorem journalEventHash_eventMembers (event : Event) : journalEventHash rt (eventMembers event) =
      Orchestrator.eventHash rt event.toEventBody := by
  simp [journalEventHash, eventMembers, Event.toJson, Orchestrator.eventHash,
    Orchestrator.EventBody.toJson]

theorem linked_apply {run changed : StoredRun} {call : StepCall} {ending : Ending}
    (linked : Linked rt run) (applied : run.apply rt call ending = some changed) :
    Linked rt changed := by
  cases ending with
  | unchanged => cases applied
  | late blocker =>
      cases applied
      exact linked
  | recorded core =>
      cases applied
      set event := newEvent rt run.view core.result core.decision call with event_eq
      have sequence : get (eventMembers event) "sequence" =
          .num (0 + (run.events.map Json.obj).length + 1 : Nat) := by
        simp [eventMembers, Event.toJson, Json.get, lookup_cons, event_eq, newEvent,
          StoredRun.view, Journal.withUnread, Rat.intCast_natCast]
      have chained : get (eventMembers event) "previous_event_hash" =
          Json.ofText run.state.eventHead := by
        simp [eventMembers, Event.toJson, Json.get, lookup_cons, event_eq, newEvent,
          StoredRun.view, Journal.withUnread]
      have appended := validateEvents_append (eventMembers event) linked sequence chained
        (by rw [get_eventMembers_hash, journalEventHash_eventMembers]; rfl)
      rw [get_eventMembers_hash] at appended
      simpa [Linked, Journal.withUnread, Json.ofText] using appended

/-! ## Events that differ in their time -/

/-- The public members that do not depend on when and after what an event was recorded. -/
def timeless (event : Fields) : Fields :=
  event.filter fun mem => mem.1 ∉ ["event_id", "occurred_at", "previous_event_hash"]

def publicPart (rt : Runtime) (event : Fields) : Except String Fields :=
  (publicEvent rt .null event).map timeless

/-- Both events have the same public part. -/
def SameEvent (rt : Runtime) (event other : Fields) : Prop :=
  ∃ shown, publicPart rt event = .ok shown ∧ publicPart rt other = .ok shown

theorem publicPart_eq {unsigned : Fields} (shown : publicEvent rt previous event = .ok unsigned) :
    publicPart rt event = .ok (timeless unsigned) := by
  simp only [publicEvent, bind_ok_iff] at shown
  obtain ⟨reasons, safe, decision, decided, metadata, read, ⟨⟩⟩ := shown
  simp [publicPart, publicEvent, safe, decided, read, ok_bind, pure, Except.pure, Except.map,
    timeless]

theorem exists_publicEvent {shown : Fields} (previous : Json)
    (part : publicPart rt event = .ok shown) :
    ∃ unsigned, publicEvent rt previous event = .ok unsigned ∧ timeless unsigned = shown := by
  unfold publicPart at part
  cases computed : publicEvent rt .null event with
  | error error =>
      rw [computed] at part
      cases part
  | ok unsigned =>
      obtain ⟨again, againShown⟩ :=
        (@exists_publicEvent_iff rt previous event).mpr
          (exists_publicEvent_iff.mp ⟨unsigned, computed⟩)
      refine ⟨again, againShown, ?_⟩
      have same := (publicPart_eq againShown).symm.trans part
      exact Except.ok.inj same

theorem SameEvent.shown {other unsigned : Fields} (same : SameEvent rt event other)
    (shown : publicEvent rt previous other = .ok unsigned) (hash : Json) :
    SameEvent rt event (put "event_hash" hash unsigned) := by
  obtain ⟨part, eventPart, otherPart⟩ := same
  refine ⟨part, eventPart, ?_⟩
  rw [publicPart_eq (publicEvent_again shown hash), ← otherPart, publicPart_eq shown]

theorem SameEvent.seen {other : Fields} (same : SameEvent rt event other) :
    (readEvent event).seen = (readEvent other).seen := by
  obtain ⟨part, eventPart, otherPart⟩ := same
  obtain ⟨unsigned, shown, rfl⟩ := exists_publicEvent .null eventPart
  obtain ⟨otherUnsigned, otherShown, sameParts⟩ := exists_publicEvent .null otherPart
  simp only [publicEvent, bind_ok_iff] at shown otherShown
  obtain ⟨reasons, _, decision, _, metadata, _, ⟨⟩⟩ := shown
  obtain ⟨reasons', _, decision', _, metadata', _, ⟨⟩⟩ := otherShown
  simp [timeless] at sameParts
  obtain ⟨_, _, _, key, _, outcome, phase, _⟩ := sameParts
  simp [Orchestrator.Event.seen, readEvent, textOf, key, outcome, phase]

/-- The event without its time and its place in a chain. -/
def untimed (event : Event) : Event :=
  { event with eventId := "", occurredAt := .at 0, previousEventHash := none, eventHash := "" }

theorem publicPart_untimed (event : Event) : publicPart rt (eventMembers event) =
      publicPart rt (eventMembers (untimed event)) := by
  simp only [publicPart, publicEvent, eventMembers, Event.toJson, untimed, Json.get, lookup_cons,
    String.reduceEq, if_true, if_false, Option.getD_some]
  cases safeReasons rt (.arr event.reasonCodes) with
  | error error => rfl
  | ok reasons =>
      cases publicDecision rt (Orchestrator.decisionJson event.decision) with
      | error error => rfl
      | ok decision =>
          cases RuntimeLedger.members (.obj event.metadata) with
          | error error => rfl
          | ok metadata => simp [ok_bind, pure, Except.pure, Except.map, timeless]

/-- Events of the code that differ in their time only are the same. -/
theorem sameEvent_of_untimed {event other : Event} (same : untimed event = untimed other) :
    SameEvent rt (eventMembers event) (eventMembers other) := by
  have projectable : ProjectableEvent (eventMembers event) := by
    constructor
    · simp [eventMembers, Event.toJson, Json.get, lookup_cons, isListable]
    · simp [eventMembers, Event.toJson, Json.get, lookup_cons, isReadableDecision,
        Orchestrator.decisionJson, isListable]
    · simp [eventMembers, Event.toJson, Json.get, lookup_cons, isMembers]
  obtain ⟨unsigned, shown⟩ := (@exists_publicEvent_iff rt .null _).mpr projectable
  have part := publicPart_eq shown
  refine ⟨_, part, ?_⟩
  rw [publicPart_untimed, ← same, ← publicPart_untimed]
  exact part

/-! ## A file and its restored twin -/

/-- The file of a run and that of the same run after restarts. -/
structure Mirrors (rt : Runtime) (full restored : StoredRun) : Prop where
  state : ∃ eventHead blockers updatedAt,
    restored.state = full.state.withUnread [] eventHead blockers updatedAt
  blockers : safeReasons rt (.arr full.state.blockers) =
    safeReasons rt (.arr restored.state.blockers)
  events : List.Forall₂ (SameEvent rt) full.events restored.events
  linked : Linked rt full
  restoredLinked : Linked rt restored

/-- One call on two roots, with the event id and the times of the second. -/
structure TwinCall where
  call : StepCall
  eventId : String
  occurredAt : Int
  savedAt : Int

/-- The call on the second root. -/
def TwinCall.other (twin : TwinCall) : StepCall :=
  { twin.call with eventId := twin.eventId, occurredAt := twin.occurredAt, savedAt := twin.savedAt }

/-- Both calls raise the same error, return without a save, or save related files. -/
inductive SameAnswer (related : StoredRun → StoredRun → Prop) :
    Except String (Option StoredRun) → Except String (Option StoredRun) → Prop
  | raised (error : String) : SameAnswer related (.error error) (.error error)
  | kept : SameAnswer related (.ok none) (.ok none)
  | saved {first second : StoredRun} : related first second →
      SameAnswer related (.ok (some first)) (.ok (some second))

theorem Mirrors.seen (mirrors : Mirrors rt full restored) :
    full.events.map (fun event => (readEvent event).seen) =
      restored.events.map fun event => (readEvent event).seen := by
  have events := mirrors.events
  generalize full.events = first at events
  generalize restored.events = second at events
  induction events with
  | nil => rfl
  | cons same _ ih => rw [List.map_cons, List.map_cons, same.seen, ih]

/-- A step keeps the two files related. -/
theorem Mirrors.apply (mirrors : Mirrors rt full restored)
    (twin : TwinCall) {recorded : List (String × String × Orchestrator.Outcome)} {ending : Ending}
    (ended : advanceCore rt (blank full.state) recorded twin.call = .ok ending) :
    SameAnswer (Mirrors rt) (.ok (full.apply rt twin.call ending))
      (.ok (restored.apply rt twin.other ending)) := by
  obtain ⟨eventHead, blockers, updatedAt, sameState⟩ := mirrors.state
  cases ending with
  | unchanged => exact .kept
  | late blocker =>
      apply SameAnswer.saved
      refine ⟨⟨eventHead, [.str blocker], updatedAt, ?_⟩, rfl, mirrors.events, mirrors.linked,
        mirrors.restoredLinked⟩
      rw [sameState]
      rfl
  | recorded core =>
      apply SameAnswer.saved
      refine ⟨⟨_, core.blockers restored.state.blockers, restored.state.updatedAt, rfl⟩, ?_, ?_,
        @linked_apply _ _ _ twin.call (.recorded core) mirrors.linked rfl,
        @linked_apply _ _ _ twin.other (.recorded core) mirrors.restoredLinked rfl⟩
      · change safeReasons rt (.arr (core.blockers full.state.blockers)) =
          safeReasons rt (.arr (core.blockers restored.state.blockers))
        rcases Orchestrator.blockers_of_stepCore (Orchestrator.stepCore_of_recorded ended) with
          ⟨replaced, same⟩ | same
        · rw [same, same]
        · rw [same, same]
          exact mirrors.blockers
      · apply List.rel_append
        · exact mirrors.events
        · refine .cons (sameEvent_of_untimed ?_) .nil
          have length := mirrors.events.length_eq
          rw [untimed, untimed]
          simp [newEvent, StoredRun.view, Journal.withUnread, length, sameState]

theorem Mirrors.next (mirrors : Mirrors rt full restored) (twin : TwinCall) :
    SameAnswer (Mirrors rt) (full.next rt twin.call) (restored.next rt twin.other) := by
  obtain ⟨eventHead, blockers, updatedAt, sameState⟩ := mirrors.state
  have sameBlank : blank restored.state = blank full.state := by
    rw [sameState]
    rfl
  have sameCall : ∀ recorded, advanceCore rt (blank full.state) recorded twin.other =
      advanceCore rt (blank full.state) recorded twin.call := fun _ => rfl
  rw [next_eq, next_eq, sameBlank, ← mirrors.seen, sameCall]
  cases ended : advanceCore rt (blank full.state)
      (full.events.map fun event => (readEvent event).seen) twin.call with
  | error error => exact .raised error
  | ok ending => exact mirrors.apply twin ended

theorem Mirrors.valid (mirrors : Mirrors rt full restored) :
    validateJournal rt restored.members = validateJournal rt full.members := by
  obtain ⟨_, _, _, same⟩ := mirrors.state
  exact (validateJournal_congr same mirrors.linked mirrors.restoredLinked).symm

theorem Mirrors.advance (mirrors : Mirrors rt full restored) (twin : TwinCall) :
    SameAnswer (Mirrors rt) (full.advance rt twin.call) (restored.advance rt twin.other) := by
  unfold StoredRun.advance
  rw [mirrors.valid]
  cases validateJournal rt full.members with
  | error error => exact .raised error
  | ok findings =>
      rw [ok_bind, ok_bind]
      by_cases accepted : findings = []
      · rw [require_bind_of accepted, require_bind_of accepted]
        exact mirrors.next twin
      · rw [require_bind_of_not accepted, require_bind_of_not accepted]
        exact .raised _

theorem Mirrors.saved (mirrors : Mirrors rt full restored) (savedAt otherSavedAt : Int) :
    Mirrors rt (full.saved savedAt) (restored.saved otherSavedAt) := by
  obtain ⟨eventHead, blockers, updatedAt, same⟩ := mirrors.state
  refine ⟨⟨eventHead, blockers, .at otherSavedAt, ?_⟩, mirrors.blockers, mirrors.events,
    mirrors.linked, mirrors.restoredLinked⟩
  rw [StoredRun.saved, same]
  rfl

theorem Mirrors.after (mirrors : Mirrors rt full restored) (twin : TwinCall) :
    Mirrors rt (full.after rt twin.call) (restored.after rt twin.other) := by
  have answered := mirrors.advance twin
  unfold StoredRun.after
  generalize full.advance rt twin.call = first at answered
  generalize restored.advance rt twin.other = second at answered
  cases answered with
  | raised error => exact mirrors
  | kept => exact mirrors
  | saved related => exact related.saved _ _

/-! ## The projection of a file -/

/-- The public events of the recorded ones, and the last hash. -/
def publicRecords (rt : Runtime) (previous : Option String) :
    List Fields → Except String (List Fields × Option String)
  | [] => .ok ([], previous)
  | source :: rest => do
      let unsigned ← publicEvent rt (Json.ofText previous) source
      let hash := rt.digest (.obj unsigned)
      let later ← publicRecords rt (some hash) rest
      return (put "event_hash" (.str hash) unsigned :: later.1, later.2)

/-- The public projection of a file. -/
def StoredRun.projected (rt : Runtime) (run : StoredRun) : Except String StoredRun := do
  let blockers ← safeReasons rt (.arr run.state.blockers)
  let shown ← publicRecords rt none run.events
  return ⟨run.state.withUnread [] shown.2 blockers run.state.updatedAt, shown.1⟩

theorem publicEvents_map (previous : Option String) (sources : List Fields) :
    publicEvents rt (Json.ofText previous) (sources.map .obj) =
      (publicRecords rt previous sources).map fun shown =>
        (shown.1.map .obj, Json.ofText shown.2) := by
  induction sources generalizing previous with
  | nil => rfl
  | cons source rest ih =>
      simp only [List.map_cons, publicEvents, publicRecords]
      cases publicEvent rt (Json.ofText previous) source with
      | error error => rfl
      | ok unsigned =>
          have later := ih (some (rt.digest (.obj unsigned)))
          simp only [Json.ofText] at later
          simp only [ok_bind, later]
          cases publicRecords rt (some (rt.digest (.obj unsigned))) rest <;> rfl

theorem publicStateProjection_members (run : StoredRun) :
    publicStateProjection rt run.members = (run.projected rt).map StoredRun.members := by
  have blockers : get run.members "blockers" = .arr run.state.blockers := by
    rw [StoredRun.members, get_put, if_neg (by decide)]
    simp [Journal.members, Json.get, lookup_cons]
  have events : get run.members "events" = .arr (run.events.map .obj) := by
    simp [StoredRun.members]
  have listed : (Json.arr (run.events.map .obj)).toList = .ok (run.events.map .obj) :=
    listed_events
  have shown := @publicEvents_map rt none run.events
  simp only [publicStateProjection, StoredRun.projected, blockers, events, listed, ok_bind]
  cases safeReasons rt (.arr run.state.blockers) with
  | error error => rfl
  | ok safe =>
      change publicEvents rt .null _ = _ at shown
      simp only [ok_bind, shown]
      cases publicRecords rt none run.events with
      | error error => rfl
      | ok records =>
          simp only [Except.map, ok_bind, pure, Except.pure, members_withUnread]

/-- The chain of the public events is whole. -/
theorem linked_projected {run shown : StoredRun} (linked : Linked rt run)
    (projected : run.projected rt = .ok shown) : Linked rt shown := by
  simp only [StoredRun.projected, bind_ok_iff] at projected
  obtain ⟨blockers, _, ⟨events, head⟩, recorded, ⟨⟩⟩ := projected
  have publicShown := @publicEvents_map rt none run.events
  rw [recorded] at publicShown
  exact validateEvents_publicEvents linked publicShown

/-- The files that mirror each other can be projected, and the projection mirrors too. -/
theorem sameEvent_publicRecords {sources others : List Fields} (previous : Option String)
    (same : List.Forall₂ (SameEvent rt) sources others) :
    ∃ shown, publicRecords rt previous others = .ok shown ∧
      List.Forall₂ (SameEvent rt) sources shown.1 := by
  induction same generalizing previous with
  | nil => exact ⟨_, rfl, .nil⟩
  | @cons source other _ _ first _ ih =>
      obtain ⟨part, sourcePart, otherPart⟩ := first
      obtain ⟨unsigned, shown, _⟩ := exists_publicEvent (Json.ofText previous) otherPart
      obtain ⟨later, laterShown, laterSame⟩ := ih (some (rt.digest (.obj unsigned)))
      refine ⟨_, by simp only [publicRecords, shown, laterShown, ok_bind]; rfl, ?_⟩
      exact .cons (SameEvent.shown ⟨part, sourcePart, otherPart⟩ shown _) laterSame

theorem exists_safeReasons (items : List Json) :
    ∃ reasons, safeReasons rt (.arr items) = .ok reasons :=
  exists_safeReasons_iff.mpr rfl

theorem Mirrors.projected (mirrors : Mirrors rt full restored) :
    ∃ shown, restored.projected rt = .ok shown ∧ Mirrors rt full shown := by
  obtain ⟨eventHead, blockers, updatedAt, same⟩ := mirrors.state
  obtain ⟨reasons, safe⟩ := @exists_safeReasons rt restored.state.blockers
  obtain ⟨⟨events, head⟩, recorded, sameEvents⟩ := sameEvent_publicRecords none mirrors.events
  have projected : restored.projected rt =
      .ok ⟨restored.state.withUnread [] head reasons restored.state.updatedAt, events⟩ := by
    simp only [StoredRun.projected, safe, recorded, ok_bind]
    rfl
  refine ⟨_, projected, ⟨head, reasons, restored.state.updatedAt, ?_⟩, ?_, sameEvents,
    mirrors.linked, linked_projected mirrors.restoredLinked projected⟩
  · rw [same]
    rfl
  · rw [mirrors.blockers, safe]
    exact (safeReasons_again safe).symm

end Adwf.RuntimeLedger
