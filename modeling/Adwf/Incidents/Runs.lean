import Adwf.Incidents.Records

/-!
# Runs of the incident store

As long as no stored text breaks a line, the store reads back as the events
recorded so far, and repeated failures are occurrences of the first one.
-/

namespace Adwf.Incidents

open Fallible JsonText
open Value (WellFormed)

variable {tools : Tools}

/-! ## Texts of an event -/

theorem unbroken_dict {fields : Members} :
    Unbroken (.dict fields) ↔ ∀ field ∈ fields, Unbroken (.str field.1) ∧ Unbroken field.2 := by
  have textHolds : ∀ (text : String) (char : Char),
      (Value.str text).Holds char ↔ char ∈ text.toList := by
    simp [Value.Holds, Value.texts]
  simp only [unbroken_iff, Value.holds_dict, textHolds, not_exists, not_and, not_or]
  constructor
  · intro unbroken field mem
    exact ⟨fun char wide => (unbroken char wide field mem).1,
      fun char wide => (unbroken char wide field mem).2⟩
  · intro unbroken char wide field mem
    exact ⟨(unbroken field mem).1 char wide, (unbroken field mem).2 char wide⟩

theorem unbroken_get {fields : Members} (unbroken : Unbroken (.dict fields)) (key : String) :
    Unbroken (Value.get fields key) := by
  unfold Value.get
  cases found : fields.lookup key with
  | none => simp [Unbroken, Value.texts]
  | some value => exact (unbroken_dict.mp unbroken _ (mem_of_lookup found)).2

theorem toNat_lt_of_le {char bound : Char} (le : char ≤ bound) (ascii : bound.toNat < 128) :
    char.toNat < 128 := by
  rw [Char.le_def, UInt32.le_iff_toNat_le] at le
  exact lt_of_le_of_lt le ascii

theorem toNat_lt_of_isDigit {char : Char} (digit : Text.isDigit char = true) :
    char.toNat < 128 := by
  simp only [Text.isDigit, Bool.and_eq_true, decide_eq_true_eq] at digit
  exact toNat_lt_of_le digit.2 (by decide)

theorem toNat_lt_of_isLowerHex {char : Char} (hex : Text.isLowerHex char = true) :
    char.toNat < 128 := by
  simp only [Text.isLowerHex, Bool.or_eq_true, Bool.and_eq_true, decide_eq_true_eq] at hex
  rcases hex with digit | letter
  · exact toNat_lt_of_le digit.2 (by decide)
  · exact toNat_lt_of_le letter.2 (by decide)

theorem ascii_of_isSha256 {text : String} (hex : Text.isSha256 text = true) :
    ∀ char ∈ text.toList, char.toNat < 128 := by
  simp only [Text.isSha256, Text.fullmatch, Bool.and_eq_true] at hex
  intro char mem
  exact toNat_lt_of_isLowerHex (List.all_eq_true.mp hex.2 char mem)

theorem ascii_of_clock (clock : Clock) : ∀ char ∈ clock.text.toList, char.toNat < 128 := by
  intro char mem
  have iso := List.all_eq_true.mp clock.iso char mem
  simp only [isIsoChar, Bool.or_eq_true, List.contains_iff_mem] at iso
  rcases iso with digit | mark
  · exact toNat_lt_of_isDigit digit
  · have marks : ['-', ':', 'T', 'Z', '.', '+'].all (·.toNat < 128) = true := by decide
    exact of_decide_eq_true (List.all_eq_true.mp marks char mark)

theorem ascii_padded (number : Nat) : ∀ char ∈ (padded number).toList, char.toNat < 128 := by
  intro char mem
  simp only [padded, String.toList_ofList, List.mem_append, List.mem_replicate] at mem
  rcases mem with ⟨_, rfl⟩ | digit
  · decide
  · exact toNat_lt_of_isDigit (isDigit_of_mem_toDigits digit)

theorem ascii_eventId {hash : String} (hex : Text.isSha256 hash = true) (number : Nat) :
    ∀ char ∈ ("IEV-" ++ padded number ++ "-" ++ String.ofList (hash.toList.take 12)).toList,
      char.toNat < 128 := by
  have start : "IEV-".toList.all (·.toNat < 128) = true := by decide
  intro char mem
  simp only [String.toList_append, String.toList_ofList, List.mem_append] at mem
  rcases mem with ((name | digits) | dash) | short
  · exact of_decide_eq_true (List.all_eq_true.mp start char name)
  · exact ascii_padded number char digits
  · rcases List.mem_singleton.mp dash with rfl
    decide
  · exact ascii_of_isSha256 hex char (List.mem_of_mem_take short)

theorem unbroken_name : ∀ name ∈ ["duplicate_observation", "event_hash", "event_id", "event_type",
    "fingerprint_hash", "incident", "incident_id", "observed_at", "previous_hash",
    "schema_version", "sequence", "INCIDENT_RECORDED", "DUPLICATE_OBSERVED"],
    Unbroken (.str name) := by
  have ascii : ["duplicate_observation", "event_hash", "event_id", "event_type",
      "fingerprint_hash", "incident", "incident_id", "observed_at", "previous_hash",
      "schema_version", "sequence", "INCIDENT_RECORDED", "DUPLICATE_OBSERVED"].all
        (fun name => name.toList.all (·.toNat < 128)) = true := by decide +kernel
  intro name mem
  refine unbroken_of_ascii fun char inside => ?_
  exact of_decide_eq_true
    (List.all_eq_true.mp (List.all_eq_true.mp ascii name mem) char inside)

theorem unbroken_eventMembers {signature : Option String} {number : Nat} {hash : String}
    {clock : Clock} {previousHash incidentId : Value} {body : Body}
    (signed : ∀ text ∈ signature, Text.isSha256 text = true) (hex : Text.isSha256 hash = true)
    (previous : Unbroken previousHash) (identified : Unbroken incidentId)
    (stored : Unbroken body.value) : Unbroken
      (.dict (eventMembers signature number hash clock.text previousHash incidentId body)) := by
  have integer : ∀ value, Unbroken (.int value) := by simp [Unbroken, Value.texts]
  have typeName : Unbroken (.str body.eventType) := by
    cases body with
    | incident record => exact unbroken_name "INCIDENT_RECORDED" (by simp)
    | duplicate observation => exact unbroken_name "DUPLICATE_OBSERVED" (by simp)
  have numbered := unbroken_of_ascii (ascii_eventId hex number)
  have hashed := unbroken_of_ascii (ascii_of_isSha256 hex)
  have timed := unbroken_of_ascii (ascii_of_clock clock)
  have sealed : ∀ text ∈ signature, Unbroken (.str text) := fun text mem =>
    unbroken_of_ascii (ascii_of_isSha256 (signed text mem))
  rw [unbroken_dict]
  unfold eventMembers
  simp only [List.forall_mem_append, List.forall_mem_cons]
  refine ⟨⟨⟨⟨?_, ?_⟩, ?_⟩, ?_⟩, ?_⟩
  · cases body with
    | incident record => simp
    | duplicate observation => simpa using ⟨unbroken_name _ (by simp), stored⟩
  · cases signature with
    | none => simp
    | some text => simpa using ⟨unbroken_name _ (by simp), sealed text rfl⟩
  · exact ⟨⟨unbroken_name _ (by simp), numbered⟩, ⟨unbroken_name _ (by simp), typeName⟩, ⟨unbroken_name _ (by simp), hashed⟩,
      by simp⟩
  · cases body with
    | incident record => simpa using ⟨unbroken_name _ (by simp), stored⟩
    | duplicate observation => simp
  · exact ⟨⟨unbroken_name _ (by simp), identified⟩, ⟨unbroken_name _ (by simp), timed⟩, ⟨unbroken_name _ (by simp), previous⟩,
      ⟨unbroken_name _ (by simp), integer _⟩, ⟨unbroken_name _ (by simp), integer _⟩, by simp⟩

/-! ## One call -/

/-- The store is the lines of the events, which form a chain without repeated records. -/
structure Sound (tools : Tools) (state : Recorded) : Prop where
  stored : state.store.getD [] = Lines.joinLines (state.events.map eventLine)
  absent : state.store = none → state.events = []
  chained : Chained tools zeroHash 0 state.events
  shaped : ∀ event ∈ state.events, Shaped event
  deduplicated : Deduplicated state.events

/-- What the store would keep of the call breaks no line: the whole record of a new
fingerprint, or the observation of a known one. -/
def Storable (tools : Tools) (state : Recorded) (call : Call tools) : Prop :=
  ∀ record, normalizeIncident tools call.raw call.clock = .ok record →
    Unbroken (.dict (if Known (recordHash record) state.events then observation record else record))

/-- A repeated failure is recorded as an occurrence. -/
def Observes (tools : Tools) (state : Recorded) (call : Call tools) : Prop :=
  ∀ record, normalizeIncident tools call.raw call.clock = .ok record → call.symlink = false →
    Known (recordHash record) state.events →
      ∃ event text, recordIncident tools state.store call = .ok (event, text) ∧
        kind event = some "DUPLICATE_OBSERVED" ∧ fingerprintOf event = some (recordHash record)

variable {state : Recorded} {call : Call tools}

theorem unbroken_observation {record : Members} (unbroken : Unbroken (.dict record)) :
    Unbroken (.dict (observation record)) := by
  have names : ["owner_summary_ru", "severity", "source", "subject"].all
      (fun name => name.toList.all (·.toNat < 128)) = true := by decide +kernel
  rw [unbroken_dict]
  intro field mem
  obtain ⟨name, inside, rfl⟩ := List.mem_map.mp mem
  refine ⟨unbroken_of_ascii fun char written => ?_, unbroken_get unbroken name⟩
  exact of_decide_eq_true (List.all_eq_true.mp (List.all_eq_true.mp names name inside) char written)

theorem storable_of_unbroken
    (unbroken : ∀ record ∈ (normalizeIncident tools call.raw call.clock).toOption,
      Unbroken (.dict record)) : Storable tools state call := by
  intro record normal
  have whole := unbroken record (by simp [normal, Except.toOption])
  split_ifs
  · exact unbroken_observation whole
  · exact whole

theorem Sound.readIncidentEvents (sound : Sound tools state) :
    readIncidentEvents tools state.store true none none = .ok state.events := by
  cases found : state.store with
  | none =>
      rw [sound.absent found]
      rfl
  | some text =>
      have stored := sound.stored
      rw [found, Option.getD_some] at stored
      subst stored
      rw [Incidents.readIncidentEvents, decodeEvents_joinLines sound.chained, ok_bind,
        require_bind_of (by simp), require_bind_of (by simp)]
      rfl

/-- The event of a record: of a new fingerprint, or of a known one. -/
def eventOf (tools : Tools) (record : Members) (clock : Clock) (events : List Members)
    (incidentId : Value) (body : Body) : Members :=
  let members := fun signature =>
    eventMembers signature (events.length + 1) (recordHash record) clock.text (tailHash events)
      incidentId body
  members (some (tools.digestOf (.dict (members none))))

theorem recordIncident_eq (sound : Sound tools state) {record : Members}
    (normal : normalizeIncident tools call.raw call.clock = .ok record)
    (plain : call.symlink = false) : recordIncident tools state.store call =
      (buildEvent tools record call.clock state.events).map fun event =>
        (event, Lines.joinLines ((state.events ++ [event]).map eventLine)) := by
  have decoded : storedEvents tools state.store = .ok state.events := by
    cases found : state.store with
    | none =>
        rw [sound.absent found]
        rfl
    | some text =>
        have stored := sound.stored
        rw [found, Option.getD_some] at stored
        rw [stored]
        exact decodeEvents_joinLines sound.chained
  rw [recordIncident, normal, ok_bind, require_bind_of plain, appendLocked, decoded, ok_bind,
    sound.stored]
  cases buildEvent tools record call.clock state.events with
  | error text => rfl
  | ok event =>
      simp only [ok_bind, Except.map, List.map_append, Lines.joinLines_append, List.map_cons,
        List.map_nil, Lines.joinLines_cons, Lines.joinLines_nil, eventLine]
      simp [pure, Except.pure]

theorem buildEvent_spec (sound : Sound tools state) (record : Members) (clock : Clock) :
    (∃ original, buildEvent tools record clock state.events =
        .ok (eventOf tools record clock state.events (Value.get original "incident_id")
          (.duplicate (observation record))) ∧
      ∃ event ∈ state.events, Records (recordHash record) event ∧
        Value.get event "incident_id" = Value.get original "incident_id") ∨
    (¬Known (recordHash record) state.events ∧
      ((∃ text, buildEvent tools record clock state.events = .error text) ∨
        buildEvent tools record clock state.events =
          .ok (eventOf tools record clock state.events (Value.get record "incident_id")
            (.incident record)))) := by
  have search := @findOriginal_spec _ (recordHash record) sound.shaped
  rcases search with ⟨original, found, recorded⟩ | ⟨missing, unknown⟩
  · refine .inl ⟨original, ?_, recorded⟩
    rw [buildEvent, found, ok_bind, require_bind_of (by simp)]
    rfl
  · refine .inr ⟨unknown, ?_⟩
    rw [buildEvent, missing, ok_bind]
    by_cases free : ∀ event ∈ state.events,
        (Value.get event "incident_id").asText ≠ (Value.get record "incident_id").asText
    · rw [require_bind_of fun _ => free]
      exact .inr rfl
    · rw [require_bind_of_not (by simpa using free)]
      exact .inl ⟨_, rfl⟩

theorem ascii_zeros (count : Nat) :
    ∀ char ∈ (String.ofList (List.replicate count '0')).toList, char.toNat < 128 := by
  intro char inside
  rw [String.toList_ofList] at inside
  rw [List.eq_of_mem_replicate inside]
  decide

theorem unbroken_zeroHash : Unbroken (.str zeroHash) := by
  unfold zeroHash
  exact unbroken_of_ascii (ascii_zeros 64)

theorem linked_eventOf (chained : Chained tools zeroHash 0 state.events) {record : Members}
    (hex : Text.isSha256 (recordHash record) = true) (clock : Clock) {incidentId : Value} {body : Body}
    (identified : WellFormed tools.floats incidentId ∧ Unbroken incidentId)
    (stored : WellFormed tools.floats body.value ∧ Unbroken body.value) :
    Linked tools (chainHash tools zeroHash state.events) (0 + state.events.length + 1)
      (eventOf tools record clock state.events incidentId body) := by
  have tail := tailHash_eq chained
  have previous : Unbroken (tailHash state.events) := by
    rcases List.eq_nil_or_concat state.events with empty | ⟨init, last, split⟩
    · rw [empty]
      exact unbroken_zeroHash
    · rw [split, List.concat_eq_append] at chained ⊢
      obtain ⟨_, _, linked⟩ := chained_forall chained last (by simp)
      rw [tailHash, List.getLast?_concat]
      exact unbroken_get linked.unbroken _
  refine ⟨?_, ?_, ?_⟩
  · unfold eventOf
    refine wellFormed_eventMembers ?_ identified.1 stored.1
    rw [tail]
    trivial
  · unfold eventOf
    refine unbroken_eventMembers ?_ hex previous identified.2 stored.2
    intro text signed
    cases signed
    exact tools.digest_hex _
  · unfold eventOf
    simp only [checkEvent, get_sequence, get_previousHash, get_eventHash, unsigned_eventMembers,
      tail, Nat.zero_add]
    rw [require_bind_of (by simp [Value.equalsInt]), require_bind_of (by simp [Value.asText])]
    exact (require_eq_ok_iff _ _ _).mpr fun _ => rfl

theorem Sound.append (sound : Sound tools state) {event : Members}
    (linked : Linked tools (chainHash tools zeroHash state.events) (0 + state.events.length + 1) event)
    (shaped : Shaped event) (follows : Follows state.events event) : Sound tools
      { store := some (Lines.joinLines ((state.events ++ [event]).map eventLine)),
        events := state.events ++ [event] } where
  stored := rfl
  absent := by
    intro missing
    cases missing
  chained := sound.chained.append linked
  shaped := by
    intro other mem
    rcases List.mem_append.mp mem with earlier | here
    · exact sound.shaped other earlier
    · rcases List.mem_singleton.mp here with rfl
      exact shaped
  deduplicated := sound.deduplicated.append follows

theorem wellFormed_observation {floats : Floats} {record : Members}
    (formed : WellFormed floats (.dict record)) : WellFormed floats (.dict (observation record)) := by
  have mem := wellFormed_get formed.2
  exact ⟨by simp only [observation, List.map]; decide, mem _, mem _, mem _, mem _, trivial⟩

theorem record_sound (sound : Sound tools state) (storable : Storable tools state call) :
    Sound tools (record tools state call) := by
  rcases normalized : normalizeIncident tools call.raw call.clock with text | incident
  · unfold record recordIncident
    rw [normalized]
    exact sound
  rcases plain : call.symlink
  case true =>
    unfold record recordIncident
    rw [normalized, ok_bind, require_bind_of_not (by simp [plain])]
    exact sound
  have formed := wellFormed_normalizeIncident call.wellFormed normalized
  obtain ⟨named, hex⟩ := named_of_normalizeIncident normalized
  have unbroken := storable incident normalized
  unfold record
  rw [recordIncident_eq sound normalized plain]
  rcases buildEvent_spec sound incident call.clock with
    ⟨original, built, event, mem, records, sameId⟩ | ⟨unknown, ⟨text, failed⟩ | built⟩
  · rw [built]
    rw [if_pos ⟨event, mem, records⟩] at unbroken
    obtain ⟨_, _, linked⟩ := chained_forall sound.chained event mem
    rw [← sameId]
    refine sound.append ?_ ?_ ?_
    · exact linked_eventOf sound.chained hex call.clock
        ⟨wellFormed_get linked.formed.2 _, unbroken_get linked.unbroken _⟩
        ⟨wellFormed_observation formed, unbroken⟩
    · intro recorded
      simp [kind, eventOf, Body.eventType, Value.asText] at recorded
    · refine .inr ⟨by simp [kind, eventOf, Body.eventType, Value.asText], event, mem, records.1,
        ?_, by simp [eventOf]⟩
      rw [records.2]
      simp [fingerprintOf, eventOf, Value.asText]
  · rw [failed]
    exact sound
  · rw [built]
    rw [if_neg unknown] at unbroken
    refine sound.append ?_ ?_ ?_
    · exact linked_eventOf sound.chained hex call.clock
        ⟨wellFormed_get formed.2 _, unbroken_get unbroken _⟩ ⟨formed, unbroken⟩
    · intro _
      exact ⟨incident, by simp [eventOf, get_incident], named,
        by simp [fingerprintOf, eventOf, Value.asText], by simp [eventOf]⟩
    · refine .inl ⟨by simp [kind, eventOf, Body.eventType, Value.asText], ?_⟩
      intro earlier mem recorded same
      refine unknown ⟨earlier, mem, recorded, ?_⟩
      rw [same]
      simp [fingerprintOf, eventOf, Value.asText]

theorem observes_of_sound (sound : Sound tools state) (call : Call tools) :
    Observes tools state call := by
  intro incident normalized plain known
  rcases buildEvent_spec sound incident call.clock with ⟨original, built, _⟩ | ⟨unknown, _⟩
  · have answer := recordIncident_eq sound normalized plain
    rw [built] at answer
    refine ⟨_, _, answer, ?_, ?_⟩
    · simp [kind, eventOf, Body.eventType, Value.asText]
    · simp [fingerprintOf, eventOf, Value.asText]
  · exact absurd known unknown

theorem sound_empty (tools : Tools) : Sound tools {} where
  stored := rfl
  absent := fun _ => rfl
  chained := trivial
  shaped := by simp
  deduplicated := by
    intro before event after split
    exact absurd split (by simp)

/-- In every run whose stored texts break no line, the reader returns the recorded events in
their order after every call, and every repeated failure is an occurrence of its first record. -/
theorem incidents_read_back (calls : List (Call tools))
    (storable : Run.Along (record tools) (Storable tools) {} calls) :
    Run.Always (record tools) (fun state =>
        readIncidentEvents tools state.store true none none = .ok state.events ∧
          Deduplicated state.events) {} calls ∧
      Run.Along (record tools) (Observes tools) {} calls := by
  have sound : Run.Always (record tools) (Sound tools) {} calls :=
    Run.always_of_guarded (fun _ _ sound storable => record_sound sound storable)
      (sound_empty tools) storable
  exact ⟨sound.imp fun _ sound => ⟨sound.readIncidentEvents, sound.deduplicated⟩,
    Run.Along.of_always (fun _ call sound => observes_of_sound sound call) sound⟩

/-- Texts that need no cleaning, and a digest of one value. -/
def plainTools : Tools where
  floats := { normal := id, value := fun _ => none, normal_normal := normal_id }
  sanitizeText := fun text => (text, [])
  stableText := id
  isSensitiveKey := fun _ => false
  leaks := fun _ => false
  upper := id
  textOf := fun _ => ""
  digest := fun _ => zeroHash
  digest_hex := fun _ => by decide +kernel

theorem iso_plainTime : "2025-01-31T12:00:00Z".toList.all isIsoChar = true := by
  decide +kernel

/-- A lock that was not released, told with a summary. -/
def lockIncident (summary : String) : Call plainTools where
  raw :=
    [("failure", .dict
        [("failure_class", .str "lock"), ("stage", .str "build"), ("symptom", .str "lock kept"),
          ("tool", .str "runner")]),
      ("owner_summary_ru", .str summary), ("symptom_original", .str "lock kept")]
  clock := { text := "2025-01-31T12:00:00Z", iso := iso_plainTime }
  wellFormed := ⟨by simp only [List.map]; decide, ⟨by simp only [List.map]; decide, trivial, trivial,
    trivial, trivial, trivial⟩, trivial, trivial, trivial⟩

theorem lockIncident_twice_read_back :
    let calls := [lockIncident "the lock was kept", lockIncident "the lock was kept again"]
    Run.Always (record plainTools) (fun state =>
        readIncidentEvents plainTools state.store true none none = .ok state.events ∧
          Deduplicated state.events) {} calls ∧
      Run.Along (record plainTools) (Observes plainTools) {} calls :=
  incidents_read_back _ ⟨storable_of_unbroken (by decide +kernel),
    storable_of_unbroken (by decide +kernel), trivial⟩

/-- A summary with a line separator is recorded, and the store is unreadable from then on. -/
theorem lineSeparator_unreadable :
    ¬∀ calls : List (Call plainTools), Run.Always (record plainTools) (fun state =>
      readIncidentEvents plainTools state.store true none none = .ok state.events) {} calls := by
  intro readBack
  have unreadable : (readIncidentEvents plainTools
      (record plainTools {} (lockIncident "the lock\u2028was kept")).store true none none).isOk =
        false := by decide +kernel
  have read := (readBack [lockIncident "the lock\u2028was kept"]).2
  simp only [Run.Always] at read
  rw [read] at unreadable
  cases unreadable

end Adwf.Incidents
