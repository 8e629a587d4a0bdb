import Adwf.Incidents.Store

/-!
# What the records and events are made of

A normalized record is a well-formed value whose fingerprint names it; an event
is a well-formed value whose members a reader finds again.
-/

namespace Adwf.Incidents

open Fallible JsonText
open Value (WellFormed WellFormedItems WellFormedMembers wellFormedItems_iff wellFormedMembers_iff)

variable {tools : Tools}

/-! ## Well-formed parts -/

theorem wellFormed_get {floats : Floats} {fields : Members}
    (formed : WellFormedMembers floats fields) (key : String) :
    WellFormed floats (Value.get fields key) := by
  unfold Value.get
  cases found : fields.lookup key with
  | none => trivial
  | some value => exact wellFormedMembers_iff.mp formed _ (mem_of_lookup found)

theorem wellFormed_either {value default : Value} (first : WellFormed tools.floats value)
    (second : WellFormed tools.floats default) :
    WellFormed tools.floats (tools.either value default) := by
  unfold Tools.either
  split_ifs
  · exact first
  · exact second

theorem wellFormed_strs {floats : Floats} (texts : List String) :
    WellFormed floats (.list (texts.map .str)) := by
  refine wellFormedItems_iff.mpr fun item mem => ?_
  obtain ⟨text, _, rfl⟩ := List.mem_map.mp mem
  trivial

theorem wellFormed_listOrEmpty {floats : Floats} {value : Value} (formed : WellFormed floats value) :
    WellFormed floats (listOrEmpty value) := by
  unfold listOrEmpty
  split
  · exact formed
  · trivial

theorem wellFormed_dictOrEmpty {floats : Floats} {value : Value} (formed : WellFormed floats value) :
    WellFormed floats (dictOrEmpty value) := by
  unfold dictOrEmpty
  split
  · exact formed
  · exact ⟨List.Pairwise.nil, trivial⟩

/-- What becomes of one member. -/
def sanitizeMember (tools : Tools) (path key : String) (value : Value) : Value :=
  if tools.isSensitiveKey key then .str "[REDACTED]"
  else (sanitizeValue tools (path ++ "." ++ key) value).1

theorem sanitizeMembers_cons (path key : String) (value : Value) (fields : Members) :
    (sanitizeMembers tools path ((key, value) :: fields)).1 =
      (key, sanitizeMember tools path key value) :: (sanitizeMembers tools path fields).1 := by
  rw [sanitizeMembers, sanitizeMember]
  split_ifs <;> rfl

theorem sanitizeMembers_keys (path : String) (fields : Members) :
    (sanitizeMembers tools path fields).1.map Prod.fst = fields.map Prod.fst := by
  induction fields with
  | nil => rfl
  | cons field fields ih =>
      obtain ⟨key, value⟩ := field
      simp only [sanitizeMembers_cons, List.map_cons, ih]

mutual

theorem wellFormed_sanitizeValue : (path : String) → (value : Value) →
    WellFormed tools.floats value → WellFormed tools.floats (sanitizeValue tools path value).1
  | _, .null, _ => trivial
  | _, .bool _, _ => trivial
  | _, .int _, _ => trivial
  | _, .float _, formed => formed
  | _, .str _, _ => trivial
  | path, .list items, formed => wellFormed_sanitizeItems path 0 items formed
  | path, .dict fields, formed => by
      refine ⟨?_, wellFormed_sanitizeMembers path fields formed.2⟩
      change ((sanitizeMembers tools path fields).1.map Prod.fst).Pairwise (· < ·)
      rw [sanitizeMembers_keys]
      exact formed.1

theorem wellFormed_sanitizeItems : (path : String) → (index : Nat) → (items : List Value) →
    WellFormedItems tools.floats items →
      WellFormedItems tools.floats (sanitizeItems tools path index items).1
  | _, _, [], _ => trivial
  | path, _, item :: items, formed =>
      ⟨wellFormed_sanitizeValue _ item formed.1, wellFormed_sanitizeItems path _ items formed.2⟩

theorem wellFormed_sanitizeMembers : (path : String) → (fields : Members) →
    WellFormedMembers tools.floats fields →
      WellFormedMembers tools.floats (sanitizeMembers tools path fields).1
  | _, [], _ => trivial
  | path, (key, value) :: fields, formed => by
      have cleaned : WellFormed tools.floats (sanitizeMember tools path key value) := by
        unfold sanitizeMember
        split_ifs
        · trivial
        · exact wellFormed_sanitizeValue _ value formed.1
      rw [sanitizeMembers_cons]
      exact ⟨cleaned, wellFormed_sanitizeMembers path fields formed.2⟩

end

/-! ## Records -/

section Records

variable {cleaned failure raw record : Members}

theorem wellFormed_components (failure : Members) :
    WellFormed tools.floats (components tools failure) := by
  have frames : ∀ items : List Value,
      WellFormed tools.floats (.list (items.map fun value => .str (tools.stable value))) := by
    intro items
    rw [show (fun value => Value.str (tools.stable value)) = Value.str ∘ tools.stable from rfl,
      ← List.map_map]
    exact wellFormed_strs _
  have exitCode : ∀ value, WellFormed tools.floats (intOrNull value) := by
    intro value
    cases value <;> trivial
  exact ⟨by simp only [List.map]; decide, exitCode _, trivial, frames _, trivial, trivial, trivial,
    trivial⟩

theorem wellFormed_classification {value : Value} (formed : WellFormed tools.floats value) :
    WellFormed tools.floats (classification tools value) := by
  unfold classification
  split
  · exact ⟨by simp only [List.map]; decide, trivial,
      wellFormed_listOrEmpty (wellFormed_get formed.2 _), trivial, trivial⟩
  · exact ⟨by simp only [List.map]; decide, trivial, trivial, trivial, trivial⟩

theorem wellFormed_redaction {floats : Floats} (findings : List Finding) :
    WellFormed floats (redaction findings) :=
  ⟨by simp only [List.map]; decide, wellFormed_strs _, trivial, trivial, trivial⟩

theorem wellFormed_incidentRecord (formed : WellFormedMembers tools.floats cleaned) (clock : Clock)
    (findings : List Finding) (status severity ownerSummary symptom incidentId : String) :
    WellFormed tools.floats (.dict (incidentRecord tools clock cleaned findings status severity
      ownerSummary symptom incidentId failure)) := by
  have mem : ∀ key, WellFormed tools.floats (Value.get cleaned key) := wellFormed_get formed
  have instant : ∀ key, WellFormed tools.floats
      (tools.either (Value.get cleaned key) (.str clock.text)) :=
    fun key => wellFormed_either (mem key) trivial
  have fingerprint : WellFormed tools.floats (stableFingerprint tools failure) :=
    ⟨by simp only [List.map]; decide, trivial, wellFormed_components failure, trivial, trivial⟩
  have usage : WellFormed tools.floats
      (.dict [("ai_api_used", .bool false), ("monetary_cost", .int 0)]) :=
    ⟨by simp only [List.map]; decide, trivial, trivial, trivial⟩
  have dicts := fun key => wellFormed_dictOrEmpty (mem key)
  refine ⟨by simp only [incidentRecord, List.map]; decide, ?_⟩
  exact ⟨wellFormed_listOrEmpty (mem _), wellFormed_classification (mem _), usage, instant _,
    dicts _, fingerprint, dicts _, trivial, instant _, trivial, dicts _, wellFormed_redaction _,
    mem _, trivial, trivial, dicts _, trivial, dicts _, trivial, trivial⟩

theorem normalizeIncident_eq_ok {clock : Clock} (normal : normalizeIncident tools raw clock = .ok record) :
    ∃ findings status severity ownerSummary symptom incidentId failure,
      record = incidentRecord tools clock (sanitizeMembers tools "$" raw).1 findings status severity
        ownerSummary symptom incidentId failure ∧ isIncidentId incidentId = true := by
  unfold normalizeIncident at normal
  simp only [bind_ok_iff, require_eq_ok_iff] at normal
  obtain ⟨_, _, _, _, _, _, _, idValid, _, _, ran⟩ := normal
  cases ran
  exact ⟨_, _, _, _, _, _, _, rfl, idValid⟩

theorem wellFormed_normalizeIncident {clock : Clock} (formed : WellFormed tools.floats (.dict raw))
    (normal : normalizeIncident tools raw clock = .ok record) :
    WellFormed tools.floats (.dict record) := by
  obtain ⟨_, _, _, _, _, _, _, rfl, _⟩ := normalizeIncident_eq_ok normal
  exact wellFormed_incidentRecord (wellFormed_sanitizeMembers "$" raw formed.2) _ _ _ _ _ _ _

end Records

/-! ## Events -/

section Events

variable {signature : Option String} {number : Nat} {hash observedAt : String}
  {previousHash incidentId : Value} {body : Body}

/-- The value a body holds. -/
def Body.value : Body → Value
  | incident record => .dict record
  | duplicate observation => .dict observation

theorem unsigned_eventMembers :
    unsigned (eventMembers signature number hash observedAt previousHash incidentId body) =
      eventMembers none number hash observedAt previousHash incidentId body := by
  cases body <;> cases signature <;> rfl

theorem wellFormed_eventMembers {floats : Floats} (previous : WellFormed floats previousHash)
    (identified : WellFormed floats incidentId) (stored : WellFormed floats body.value) :
    WellFormed floats
      (.dict (eventMembers signature number hash observedAt previousHash incidentId body)) := by
  constructor
  · cases body <;> cases signature <;>
      simp only [eventMembers, List.nil_append, List.cons_append, List.map] <;> decide
  · cases body <;> cases signature <;>
      simp_all [eventMembers, WellFormedMembers, WellFormed, Body.value]

@[simp]
theorem get_sequence :
    Value.get (eventMembers signature number hash observedAt previousHash incidentId body)
      "sequence" = .int number := by
  cases body <;> cases signature <;> simp [eventMembers]

@[simp]
theorem get_previousHash :
    Value.get (eventMembers signature number hash observedAt previousHash incidentId body)
      "previous_hash" = previousHash := by
  cases body <;> cases signature <;> simp [eventMembers]

@[simp]
theorem get_eventHash {text : String} :
    Value.get (eventMembers (some text) number hash observedAt previousHash incidentId body)
      "event_hash" = .str text := by
  cases body <;> simp [eventMembers]

@[simp]
theorem get_eventType :
    Value.get (eventMembers signature number hash observedAt previousHash incidentId body)
      "event_type" = .str body.eventType := by
  cases body <;> cases signature <;> simp [eventMembers]

@[simp]
theorem get_fingerprintHash :
    Value.get (eventMembers signature number hash observedAt previousHash incidentId body)
      "fingerprint_hash" = .str hash := by
  cases body <;> cases signature <;> simp [eventMembers]

@[simp]
theorem get_incidentId :
    Value.get (eventMembers signature number hash observedAt previousHash incidentId body)
      "incident_id" = incidentId := by
  cases body <;> cases signature <;> simp [eventMembers]

theorem get_incident {record : Members} :
    Value.get (eventMembers signature number hash observedAt previousHash incidentId
      (.incident record)) "incident" = .dict record := by
  cases signature <;> simp [eventMembers]

end Events

end Adwf.Incidents

/-!
## Histories of the incident store

The reader of the store finds the events the writer appended as long as no
text it keeps breaks a line: `str.splitlines` also splits at three characters
that the writer leaves unescaped.
-/

namespace Adwf.Incidents

open Fallible JsonText
open Value (WellFormed)

/-! ## Line breaks -/

/-- The breaks of `str.splitlines` that the writer does not escape. -/
def wideBreaks : List Char :=
  ['\u0085', '\u2028', '\u2029']

/-- No text of the value breaks a line. -/
def Unbroken (value : Value) : Prop :=
  ∀ char ∈ wideBreaks, ∀ text ∈ value.texts, char ∉ text.toList

instance (value : Value) : Decidable (Unbroken value) :=
  decidable_of_iff
    ((value.texts.all fun text => text.toList.all fun char => !wideBreaks.contains char) = true) <| by
    simp only [List.all_eq_true, Bool.not_eq_true', List.contains_eq_mem, decide_eq_false_iff_not]
    exact ⟨fun plain char wide text mem inside => plain text mem char inside wide,
      fun plain text mem char inside wide => plain char wide text mem inside⟩

theorem unbroken_iff {value : Value} : Unbroken value ↔ ∀ char ∈ wideBreaks, ¬value.Holds char := by
  simp only [Unbroken, Value.Holds, not_exists, not_and]

theorem unbroken_of_ascii {text : String} (ascii : ∀ char ∈ text.toList, char.toNat < 128) :
    Unbroken (.str text) := by
  intro char wide other mem inside
  rcases List.mem_singleton.mp mem with rfl
  have high : wideBreaks.all (128 ≤ ·.toNat) = true := by decide
  have wideChar := of_decide_eq_true (List.all_eq_true.mp high char wide)
  exact absurd (ascii char inside) (not_lt.mpr wideChar)

theorem render_whole {style : Style} {value : Value} (spaces : ∀ char ∈ style.pad, char = ' ')
    (unbroken : Unbroken value) :
    ∀ char ∈ render style value, Lines.textBreaks.contains char = false := by
  intro char mem
  obtain ⟨printed, ascii | ⟨_, held⟩⟩ := written_render spaces value mem
  · have low : Lines.textBreaks.all (fun mark => mark.toNat < 32 || 128 ≤ mark.toNat) = true := by
      decide
    by_contra breaks
    have plain := List.all_eq_true.mp low char (by simpa using breaks)
    simp only [Bool.or_eq_true, decide_eq_true_eq] at plain
    omega
  · have wide : Lines.textBreaks.all (fun mark => mark.toNat < 32 || wideBreaks.contains mark) =
        true := by decide
    by_contra breaks
    have plain := List.all_eq_true.mp wide char (by simpa using breaks)
    simp only [Bool.or_eq_true, decide_eq_true_eq, List.contains_iff_mem] at plain
    rcases plain with control | wideChar
    · omega
    · exact unbroken_iff.mp unbroken char wideChar held

/-- The line of an event. -/
def eventLine (event : Members) : List Char :=
  canonicalText (.dict event)

theorem eventLine_whole {event : Members} (unbroken : Unbroken (.dict event)) :
    ∀ char ∈ eventLine event, Lines.textBreaks.contains char = false :=
  render_whole (by simp [compact]) unbroken

theorem eventLine_not_blank (event : Members) : (eventLine event).all Text.isSpace = false := by
  have solid : Text.isSpace '\x7b' = false := by decide
  simp [eventLine, canonicalText, render, solid]

/-! ## The chain -/

/-- An event that the reader takes as the one with a number after a hash. -/
structure Linked (tools : Tools) (previous : String) (number : Nat) (event : Members) : Prop where
  formed : WellFormed tools.floats (.dict event)
  unbroken : Unbroken (.dict event)
  checked : checkEvent tools true previous number event = .ok ()

/-- The hash of an event, as the reader takes it. -/
def hashOf (tools : Tools) (event : Members) : String :=
  tools.text (Value.get event "event_hash")

/-- Events that follow one another. -/
def Chained (tools : Tools) : String → Nat → List Members → Prop
  | _, _, [] => True
  | previous, number, event :: events =>
      Linked tools previous (number + 1) event ∧
        Chained tools (hashOf tools event) (number + 1) events

/-- The hash the next event follows. -/
def chainHash (tools : Tools) (previous : String) (events : List Members) : String :=
  events.foldl (fun _ event => hashOf tools event) previous

variable {tools : Tools} {previous : String} {number : Nat} {event : Members}
  {events : List Members}

theorem Chained.append (chained : Chained tools previous number events)
    (linked : Linked tools (chainHash tools previous events) (number + events.length + 1) event) :
    Chained tools previous number (events ++ [event]) := by
  induction events generalizing previous number with
  | nil => exact ⟨linked, trivial⟩
  | cons first rest ih =>
      refine ⟨chained.1, ih chained.2 ?_⟩
      rw [List.length_cons] at linked
      rwa [show number + 1 + rest.length = number + (rest.length + 1) by omega]

theorem Linked.get_eventHash (linked : Linked tools previous number event) :
    Value.get event "event_hash" = .str (hashOf tools event) := by
  have checked := linked.checked
  simp only [checkEvent, bind_ok_iff, require_eq_ok_iff] at checked
  obtain ⟨_, _, _, _, signed⟩ := checked
  have text := signed trivial
  unfold hashOf
  cases hash : Value.get event "event_hash" with
  | str text => rfl
  | _ => simp [hash, Value.asText] at text

theorem chained_forall (chained : Chained tools previous number events) :
    ∀ event ∈ events, ∃ before place, Linked tools before place event := by
  induction events generalizing previous number with
  | nil => simp
  | cons first rest ih =>
      exact List.forall_mem_cons.mpr ⟨⟨_, _, chained.1⟩, ih chained.2⟩

theorem tailHash_eq (chained : Chained tools zeroHash 0 events) :
    tailHash events = .str (chainHash tools zeroHash events) := by
  rcases List.eq_nil_or_concat events with rfl | ⟨init, last, rfl⟩
  · rfl
  · obtain ⟨_, _, linked⟩ := chained_forall chained last (by simp)
    rw [List.concat_eq_append, tailHash, List.getLast?_concat, chainHash, List.foldl_append]
    exact linked.get_eventHash

theorem decodeFrom_chained (chained : Chained tools previous number events) :
    decodeFrom tools true previous number (events.map eventLine) = .ok events := by
  induction events generalizing previous number with
  | nil => rfl
  | cons event events ih =>
      obtain ⟨linked, later⟩ := chained
      have read : readEvent tools (eventLine event) = .ok event := by
        unfold readEvent eventLine
        rw [loads_canonicalText linked.formed]
      rw [List.map_cons, decodeFrom, eventLine_not_blank, if_neg Bool.false_ne_true, read, ok_bind,
        linked.checked, ok_bind]
      change (decodeFrom tools true (hashOf tools event) _ _ >>= _) = _
      rw [ih later]
      rfl

theorem decodeEvents_joinLines (chained : Chained tools zeroHash 0 events) :
    decodeEvents tools true (Lines.joinLines (events.map eventLine)) = .ok events := by
  have whole : ∀ line ∈ events.map eventLine, ∀ char ∈ line,
      Lines.textBreaks.contains char = false := by
    intro line mem
    obtain ⟨event, inside, rfl⟩ := List.mem_map.mp mem
    obtain ⟨_, _, linked⟩ := chained_forall chained event inside
    exact eventLine_whole linked.unbroken
  rw [decodeEvents, Lines.splitText, Lines.splitLines_joinLines (by decide) whole]
  exact decodeFrom_chained chained

end Adwf.Incidents

/-!
## Repeated failures

A failure is recorded once; every later occurrence of it is an observation of
the first record.
-/

namespace Adwf.Incidents

open Fallible JsonText
open Value (WellFormed)

/-- `event_type` of an event. -/
def kind (event : Members) : Option String :=
  (Value.get event "event_type").asText

/-- `fingerprint_hash` of an event. -/
def fingerprintOf (event : Members) : Option String :=
  (Value.get event "fingerprint_hash").asText

/-- The event records an incident with a fingerprint. -/
def Records (hash : String) (event : Members) : Prop :=
  kind event = some "INCIDENT_RECORDED" ∧ fingerprintOf event = some hash

instance (hash : String) (event : Members) : Decidable (Records hash event) :=
  inferInstanceAs (Decidable (_ ∧ _))

/-- One of the events records the fingerprint. -/
def Known (hash : String) (events : List Members) : Prop :=
  ∃ event ∈ events, Records hash event

instance (hash : String) (events : List Members) : Decidable (Known hash events) :=
  inferInstanceAs (Decidable (∃ event ∈ events, Records hash event))

/-- An event after `before`: a record of a new fingerprint, or an occurrence of the
incident that one of them records. -/
def Follows (before : List Members) (event : Members) : Prop :=
  (kind event = some "INCIDENT_RECORDED" ∧
    ∀ earlier ∈ before, kind earlier = some "INCIDENT_RECORDED" →
      fingerprintOf earlier ≠ fingerprintOf event) ∨
  (kind event = some "DUPLICATE_OBSERVED" ∧
    ∃ earlier ∈ before, kind earlier = some "INCIDENT_RECORDED" ∧
      fingerprintOf earlier = fingerprintOf event ∧
      Value.get earlier "incident_id" = Value.get event "incident_id")

/-- Every event follows the events before it. -/
def Deduplicated (events : List Members) : Prop :=
  ∀ before event after, events = before ++ event :: after → Follows before event

theorem Deduplicated.append {events : List Members} {event : Members}
    (kept : Deduplicated events) (follows : Follows events event) :
    Deduplicated (events ++ [event]) := by
  intro before other after split
  rcases List.eq_nil_or_concat after with rfl | ⟨init, last, rfl⟩
  · obtain ⟨rfl, same⟩ := List.append_inj' split rfl
    cases same
    exact follows
  · refine kept before other init ?_
    rw [List.concat_eq_append, ← List.cons_append, ← List.append_assoc] at split
    exact (List.append_inj' split rfl).1

/-- `_find_original` finds the hash of the record's fingerprint. -/
def Named (record : Members) : Prop :=
  ∃ fingerprint, (record.lookup "fingerprint").getD (.dict []) = .dict fingerprint ∧
    (Value.get fingerprint "hash").asText = some (recordHash record)

/-- A record event keeps its record and the fingerprint of it. -/
def Shaped (event : Members) : Prop :=
  kind event = some "INCIDENT_RECORDED" →
    ∃ record, Value.get event "incident" = .dict record ∧ Named record ∧
      fingerprintOf event = some (recordHash record) ∧
      Value.get event "incident_id" = Value.get record "incident_id"

variable {tools : Tools} {events : List Members} {hash : String}

/-- The search ends with the record of the fingerprint, if there is one. -/
theorem findOriginal_spec (shaped : ∀ event ∈ events, Shaped event) :
    (∃ record, findOriginal hash events = .ok (some record) ∧ ∃ event ∈ events, Records hash event ∧
        Value.get event "incident_id" = Value.get record "incident_id") ∨
    (findOriginal hash events = .ok none ∧ ¬Known hash events) := by
  induction events with
  | nil => exact .inr ⟨rfl, by simp [Known]⟩
  | cons event events ih =>
      obtain ⟨here, others⟩ := List.forall_mem_cons.mp shaped
      have skip (next : findOriginal hash (event :: events) = findOriginal hash events)
          (foreign : ¬Records hash event) :
          (∃ record, findOriginal hash (event :: events) = .ok (some record) ∧
            ∃ other ∈ event :: events, Records hash other ∧
              Value.get other "incident_id" = Value.get record "incident_id") ∨
          (findOriginal hash (event :: events) = .ok none ∧ ¬Known hash (event :: events)) := by
        rw [next]
        rcases ih others with ⟨record, found, other, mem, same⟩ | ⟨missing, unknown⟩
        · exact .inl ⟨record, found, other, List.mem_cons_of_mem _ mem, same⟩
        · refine .inr ⟨missing, ?_⟩
          rintro ⟨other, mem, records⟩
          rcases List.mem_cons.mp mem with rfl | later
          · exact foreign records
          · exact unknown ⟨other, later, records⟩
      by_cases recorded : kind event = some "INCIDENT_RECORDED"
      · obtain ⟨record, incident, ⟨fingerprint, stored, named⟩, printed, sameId⟩ := here recorded
        by_cases same : recordHash record = hash
        · refine .inl ⟨record, ?_, event, List.mem_cons_self, ⟨recorded, ?_⟩, sameId⟩
          · unfold kind at recorded
            simp [findOriginal, recorded, incident, Value.asDict, stored, named, same]
          · rw [printed, same]
        · refine skip ?_ ?_
          · unfold kind at recorded
            simp [findOriginal, recorded, incident, Value.asDict, stored, named, same]
          · rintro ⟨_, other⟩
            rw [printed] at other
            exact same (Option.some.inj other)
      · refine skip ?_ fun records => recorded records.1
        unfold kind at recorded
        rw [findOriginal]
        split
        · rename_i isRecord _
          exact absurd isRecord recorded
        · rfl

theorem recordHash_incidentRecord (clock : Clock) (cleaned failure : Members)
    (findings : List Finding) (status severity ownerSummary symptom incidentId : String) :
    recordHash (incidentRecord tools clock cleaned findings status severity ownerSummary symptom
      incidentId failure) = fingerprintHash tools failure := by
  simp [recordHash, incidentRecord, stableFingerprint, Value.asDict, Value.asText]

theorem named_of_normalizeIncident {raw record : Members} {clock : Clock}
    (normal : normalizeIncident tools raw clock = .ok record) :
    Named record ∧ Text.isSha256 (recordHash record) = true := by
  obtain ⟨_, _, _, _, _, _, failure, rfl, _⟩ := normalizeIncident_eq_ok normal
  rw [Named, recordHash_incidentRecord]
  refine ⟨⟨_, rfl, ?_⟩, tools.digest_hex _⟩
  simp [Value.asText]

end Adwf.Incidents
