import Adwf.RuntimeLedger.Provider

/-!
# The chain of ledger events

The public projection of a valid journal is valid, and the event an append builds
continues the verified chain of the events it was built on.
-/

namespace Adwf.RuntimeLedger

open Adwf.Fallible Json
open LeaseStore (decimalDigits decimalValue decimalValue_decimalDigits isDigit_decimalDigits
  length_decimalDigits leaseAnchorPrefix)

variable {rt : Runtime} {validateCheckpoint : CheckpointCheck}

/-! ## The projection -/

theorem journalEventHash_put {source unsigned : Fields} {previous value : Json}
    (shown : publicEvent rt previous source = .ok unsigned) :
    journalEventHash rt (put "event_hash" value unsigned) = rt.digest (.obj unsigned) := by
  simp only [publicEvent, bind_ok_iff] at shown
  obtain ⟨reasons, _, decision, _, metadata, _, ⟨⟩⟩ := shown
  unfold journalEventHash
  rw [filter_put (by simp)]
  simp

theorem publicEvent_get {source unsigned : Fields} {previous : Json}
    (shown : publicEvent rt previous source = .ok unsigned) :
    get unsigned "sequence" = get source "sequence" ∧
      get unsigned "previous_event_hash" = previous := by
  simp only [publicEvent, bind_ok_iff] at shown
  obtain ⟨reasons, _, decision, _, metadata, _, ⟨⟩⟩ := shown
  simp

variable {index number : Nat}

theorem validateEvents_publicEvents {sources events : List Json} {previous stored head last : Json}
    (valid : validateEvents rt index stored sources = .ok ([], last))
    (shown : publicEvents rt previous sources = .ok (events, head)) :
    validateEvents rt index previous events = .ok ([], head) := by
  induction sources generalizing index previous stored events with
  | nil =>
      cases shown
      rfl
  | cons source rest ih =>
      cases source with
      | obj fields =>
          simp only [validateEvents, bind_ok_iff] at valid
          obtain ⟨⟨laterFindings, laterHead⟩, laterValid, found⟩ := valid
          simp only [publicEvents, bind_ok_iff] at shown
          obtain ⟨unsigned, unsignedShown, ⟨laterEvents, laterLast⟩, laterShown, same⟩ := shown
          cases same
          simp only [pure, Except.pure, Except.ok.injEq, Prod.mk.injEq, List.append_eq_nil_iff,
            ite_eq_right_iff, List.cons_ne_nil, imp_false, not_not] at found
          obtain ⟨⟨⟨⟨sequence, _⟩, _⟩, rfl⟩, rfl⟩ := found
          obtain ⟨sameSequence, chained⟩ := publicEvent_get unsignedShown
          have restValid := ih laterValid laterShown
          simp only [validateEvents, get_put, String.reduceEq, if_true, if_false, sameSequence,
            sequence, chained, journalEventHash_put unsignedShown, restValid]
          simp [bind, Except.bind, pure, Except.pure]
      | _ => cases shown

theorem validateJournal_publicStateProjection {state safeState : Fields}
    (valid : validateJournal rt state = .ok [])
    (projected : publicStateProjection rt state = .ok safeState) :
    validateJournal rt safeState = .ok [] := by
  simp only [publicStateProjection, bind_ok_iff] at projected
  obtain ⟨blockers, _, sources, listed, ⟨events, head⟩, shown, ⟨⟩⟩ := projected
  simp only [validateJournal, bind_ok_iff] at valid ⊢
  obtain ⟨budget, budgeted, found⟩ := valid
  refine ⟨budget, by simpa [lookup_put] using budgeted, ?_⟩
  cases stored : get state "events" with
  | arr items =>
      simp only [stored, bind_ok_iff] at found
      obtain ⟨⟨findings, last⟩, eventsValid, found⟩ := found
      have same : sources = items := by
        cases items with
        | nil => simpa [stored, Json.toList, Json.truthy, eq_comm] using listed
        | cons item rest => simpa [stored, Json.toList, Json.truthy, eq_comm] using listed
      subst same
      simp only [pure, Except.pure, Except.ok.injEq, List.append_eq_nil_iff] at found
      obtain ⟨⟨⟨⟨basic, noFindings⟩, _⟩, sha⟩, delivery⟩ := found
      obtain rfl : findings = [] := noFindings
      have publicValid := validateEvents_publicEvents eventsValid shown
      simp only [get_put, String.reduceEq, if_true, if_false, publicValid]
      simp only [bind, Except.bind, pure, Except.pure, Except.ok.injEq, List.append_eq_nil_iff]
      refine ⟨⟨⟨⟨basic, trivial⟩, by simp⟩, sha⟩, delivery⟩
  | _ => simp [stored, pure, Except.pure] at found

/-! ## The next event -/

/-- What the checks of an append establish of a checkpoint. -/
structure Checkpoint.Valid (rt : Runtime) (validateCheckpoint : CheckpointCheck)
    (checkpoint : Checkpoint) : Prop where
  state : validateJournal rt checkpoint.safeState = .ok []
  continuity : ∀ continuity, checkpoint.continuity = some continuity →
    (∃ fields, continuity = .obj fields) ∧ validateCheckpoint continuity = [] ∧
      checkpointStateBindingErrors rt continuity checkpoint.safeState = []
  memory : ∃ workMemory, checkpoint.memory = publicMemoryProjection workMemory

theorem publicMemoryProjection_shown (workMemory : Option Json) :
    ∃ shown, (publicMemoryProjection workMemory).toList = .ok shown ∧
      (shown.all fun key => memoryKeys.any (isText key)) = true := by
  cases workMemory with
  | none => exact ⟨[], rfl, rfl⟩
  | some memory =>
      cases memory with
      | obj fields => exact ⟨memoryKeys.map .str, rfl, by decide⟩
      | _ => exact ⟨[], rfl, rfl⟩

section Event

variable {checkpoint : Checkpoint} {events : List RemoteEvent}

theorem get_event (name : String) : get (checkpoint.event rt events) name =
      if name = "event_hash" then .str (checkpoint.eventHash rt events)
      else get (checkpoint.unsigned rt events) name :=
  get_put ..

theorem remoteEventHash_event : remoteEventHash rt (checkpoint.event rt events) =
      checkpoint.eventHash rt events := by
  unfold remoteEventHash Checkpoint.event Checkpoint.eventHash
  rw [filter_put (by simp)]
  obtain ⟨safeState, continuity, memory, now⟩ := checkpoint
  cases continuity <;> simp [Checkpoint.unsigned, continuityMembers]

theorem get_event_sequence :
    get (checkpoint.event rt events) "sequence" = .num (events.length + 1) := by
  rw [get_event]
  simp [Checkpoint.unsigned]

theorem get_event_state : get (checkpoint.event rt events) "state" = .obj checkpoint.safeState := by
  rw [get_event]
  obtain ⟨safeState, continuity, memory, now⟩ := checkpoint
  cases continuity <;> simp [Checkpoint.unsigned, continuityMembers]

theorem get_event_stateDigest :
    get (checkpoint.event rt events) "state_digest" = checkpoint.stateDigest rt := by
  rw [get_event]
  obtain ⟨safeState, continuity, memory, now⟩ := checkpoint
  cases continuity <;> simp [Checkpoint.unsigned, continuityMembers]

theorem get_event_memory :
    get (checkpoint.event rt events) "work_memory_projection" = checkpoint.memory := by
  rw [get_event]
  obtain ⟨safeState, continuity, memory, now⟩ := checkpoint
  cases continuity <;> simp [Checkpoint.unsigned, continuityMembers]

theorem sessionContinuityEventErrors_event (valid : checkpoint.Valid rt validateCheckpoint) :
    sessionContinuityEventErrors rt validateCheckpoint (checkpoint.event rt events)
      checkpoint.safeState = [] := by
  have bound := valid.continuity
  unfold sessionContinuityEventErrors
  simp only [get_event]
  simp only [Checkpoint.event, lookup_put]
  obtain ⟨safeState, continuity, memory, now⟩ := checkpoint
  cases continuity with
  | none => simp [Checkpoint.unsigned, continuityMembers]
  | some checkpoint =>
      obtain ⟨⟨fields, rfl⟩, checked, bindings⟩ := bound _ rfl
      simp only [] at bindings
      simp [Checkpoint.unsigned, continuityMembers, memberOf, checked, bindings]

/-- The hash and the object the next event names. -/
def lastHash (events : List RemoteEvent) : Json :=
  (events.getLast?.map fun last => get last.members "event_hash").getD .null

def lastObject (events : List RemoteEvent) : Json :=
  (events.getLast?.map fun last => Json.str last.providerObjectId).getD .null

theorem remoteEventErrors_event (valid : checkpoint.Valid rt validateCheckpoint)
    {id createdAt actor : String} (id_ne : id ≠ "") (createdAt_ne : createdAt ≠ "")
    (actor_ne : actor ≠ "") :
    remoteEventErrors rt validateCheckpoint (events.length + 1) (lastHash events)
      (lastObject events) ⟨checkpoint.event rt events, id, createdAt, actor⟩ = .ok [] := by
  obtain ⟨workMemory, memory⟩ := valid.memory
  obtain ⟨shown, listed, allKnown⟩ := publicMemoryProjection_shown workMemory
  have previousHash : get (checkpoint.event rt events) "previous_hash" = lastHash events := by
    rw [get_event]
    simp [Checkpoint.unsigned, lastHash]
  have previousObject : get (checkpoint.event rt events) "previous_provider_object_id" =
      lastObject events := by
    rw [get_event]
    simp [Checkpoint.unsigned, lastObject]
  have hash : get (checkpoint.event rt events) "event_hash" =
      .str (remoteEventHash rt (checkpoint.event rt events)) := by
    rw [get_event, if_pos rfl, remoteEventHash_event]
  simp only [remoteEventErrors, remoteStateErrors, get_event_state, get_event_stateDigest,
    get_event_memory, get_event_sequence, memory, listed, valid.state, previousHash,
    previousObject, sessionContinuityEventErrors_event valid]
  simp only [hash, Checkpoint.stateDigest]
  simpa [bind, Except.bind, pure, Except.pure, id_ne, createdAt_ne, actor_ne] using allKnown

end Event

theorem verifyRemoteEvents_append {previous previousObject : Json}
    {events : List RemoteEvent} {event : RemoteEvent} :
    verifyRemoteEvents rt validateCheckpoint index previous previousObject
        (events ++ [event]) = .ok [] ↔
      verifyRemoteEvents rt validateCheckpoint index previous previousObject events = .ok [] ∧
        remoteEventErrors rt validateCheckpoint (index + events.length)
          ((events.getLast?.map fun last => get last.members "event_hash").getD previous)
          ((events.getLast?.map fun last => Json.str last.providerObjectId).getD previousObject)
          event = .ok [] := by
  induction events generalizing index previous previousObject with
  | nil =>
      simp only [List.nil_append, verifyRemoteEvents, bind_ok_iff]
      constructor
      · rintro ⟨errors, checked, later, ⟨⟩, same⟩
        simp only [pure, Except.pure, Except.ok.injEq, List.append_nil] at same
        exact ⟨trivial, same ▸ checked⟩
      · rintro ⟨_, checked⟩
        exact ⟨[], checked, [], rfl, rfl⟩
  | cons first rest ih =>
      have shifted : index + (first :: rest).length = index + 1 + rest.length := by
        rw [List.length_cons]
        omega
      have last : ∀ (read : RemoteEvent → Json) (default : Json),
          (((first :: rest).getLast?).map read).getD default =
            (rest.getLast?.map read).getD (read first) := by
        intro read default
        rw [List.getLast?_cons]
        cases rest.getLast? with
        | none => rfl
        | some event => rfl
      have later := @ih (index + 1) (get first.members "event_hash") (.str first.providerObjectId)
      simp only [List.cons_append, verifyRemoteEvents, bind_ok_iff]
      rw [shifted, last, last]
      constructor
      · rintro ⟨errors, checked, rest, verified, same⟩
        simp only [pure, Except.pure, Except.ok.injEq, List.append_eq_nil_iff] at same
        obtain ⟨rfl, rfl⟩ := same
        obtain ⟨restVerified, eventChecked⟩ := later.mp verified
        exact ⟨⟨[], checked, [], restVerified, rfl⟩, eventChecked⟩
      · rintro ⟨⟨errors, checked, rest, verified, same⟩, eventChecked⟩
        simp only [pure, Except.pure, Except.ok.injEq, List.append_eq_nil_iff] at same
        obtain ⟨rfl, rfl⟩ := same
        exact ⟨[], checked, [], later.mpr ⟨verified, eventChecked⟩, rfl⟩

theorem sequence_of_verified {position : Nat} {previous previousObject : Json}
    {events : List RemoteEvent} {event : RemoteEvent}
    (verified : verifyRemoteEvents rt validateCheckpoint index previous previousObject events =
      .ok []) (found : events[position]? = some event) :
    get event.members "sequence" = .num ((index + position : Nat) : Rat) := by
  induction events generalizing index position previous previousObject with
  | nil => cases found
  | cons first rest ih =>
      simp only [verifyRemoteEvents, bind_ok_iff] at verified
      obtain ⟨errors, checked, later, restVerified, same⟩ := verified
      simp only [pure, Except.pure, Except.ok.injEq, List.append_eq_nil_iff] at same
      obtain ⟨rfl, rfl⟩ := same
      cases position with
      | zero =>
          cases found
          simp only [remoteEventErrors, bind_ok_iff] at checked
          obtain ⟨stateErrors, _, shown, _, same⟩ := checked
          simp only [pure, Except.pure, Except.ok.injEq, List.append_eq_nil_iff] at same
          simpa using same.1.1.1.1.1.1.1
      | succ position =>
          rw [ih restVerified found]
          congr 2
          omega

/-! ## Tags -/

theorem tagName_of_sequence {event : Fields}
    (sequence : get event "sequence" = .num (number : Rat)) :
    tagName rt event = .ok (tagOf number (rt.text (get event "event_hash"))) := by
  have floor : (number : Rat).floor = (number : Int) := Rat.floor_intCast number
  simp only [tagName, sequence, Rat.natCast_nonneg, if_true, floor, Int.toNat_natCast]

/-- The text of a tag after the common prefix. -/
theorem drop_tagOf (small : number < 10 ^ 6) (hash : String) :
    ∃ rest, (tagOf number hash).toList.drop 20 = decimalDigits 6 number ++ rest := by
  have chars : (tagOf number hash).toList = anchorPrefix.toList ++ (decimalDigits 6 number ++
      ("-".toList ++ (String.ofList (hash.toList.take 16)).toList)) := by
    rw [tagOf, paddedSequence, if_pos small]
    simp
  rw [chars]
  exact ⟨_, List.drop_left' (by decide)⟩

theorem take_tagOf (small : number < 10 ^ 6) (hash : String) :
    ((tagOf number hash).toList.drop 20).take 6 = decimalDigits 6 number := by
  obtain ⟨rest, dropped⟩ := drop_tagOf small hash
  rw [dropped, List.take_left' (length_decimalDigits 6 number)]

/-- Tags of different numbers differ. -/
theorem tagOf_injective {left right : Nat} {leftHash rightHash : String}
    (leftSmall : left < 10 ^ 6) (rightSmall : right < 10 ^ 6)
    (same : tagOf left leftHash = tagOf right rightHash) : left = right := by
  have digits : decimalDigits 6 left = decimalDigits 6 right := by
    rw [← take_tagOf leftSmall leftHash, same, take_tagOf rightSmall]
  have values := congrArg decimalValue digits
  rwa [decimalValue_decimalDigits, decimalValue_decimalDigits, Nat.mod_eq_of_lt leftSmall,
    Nat.mod_eq_of_lt rightSmall] at values

theorem tagOf_ne_rootAnchor (small : number < 10 ^ 6) (hash : String) :
    tagOf number hash ≠ rootAnchor := by
  intro same
  have digits := isDigit_decimalDigits 6 number
  rw [← take_tagOf small hash, same] at digits
  exact absurd digits (by decide)

theorem startsWith_tagOf (number : Nat) (hash : String) :
    Text.startsWith (tagOf number hash) anchorPrefix = true := by
  simp [Text.startsWith, tagOf]

theorem not_startsWith_tagOf (small : number < 10 ^ 6) (hash : String) :
    Text.startsWith (tagOf number hash) leaseAnchorPrefix = false := by
  by_contra starts
  rw [Bool.not_eq_false, Text.startsWith, List.isPrefixOf_iff_prefix] at starts
  obtain ⟨rest, chars⟩ := starts
  have digits := isDigit_decimalDigits 6 number
  rw [← take_tagOf small hash, ← chars] at digits
  have dropped : ((leaseAnchorPrefix.toList ++ rest).drop 20).take 6 =
      (leaseAnchorPrefix.toList.drop 20).take 6 := by
    rw [List.drop_append_of_le_length (by decide), List.take_append_of_le_length (by decide)]
  rw [dropped] at digits
  exact absurd digits (by decide)

end Adwf.RuntimeLedger
