import Mathlib.Data.String.Basic
import Mathlib.Data.List.Perm.Basic
import Adwf.RuntimeLedger.Chain

/-!
# The public projection of a journal

A projection is a journal again, projecting it once more changes nothing, the
projection of a longer journal continues that of a shorter one, and what the
projection leaves out cannot be told from it.
-/

namespace Adwf.RuntimeLedger

open Adwf.Fallible Json

variable {rt : Runtime}

/-! ## Members that are in place -/

/-- A member that stands where an assignment would put it. -/
def Settled (key : String) (value : Json) (fields : Fields) : Prop :=
  ∃ earlier later, fields = earlier ++ (key, value) :: later ∧ ∀ mem ∈ earlier, mem.1 < key

section Put

variable {key other : String} {value stored : Json} {fields left right : Fields}

theorem settled_put : Settled key value (put key value fields) := by
  induction fields with
  | nil => exact ⟨[], [], rfl, by simp⟩
  | cons mem fields ih =>
      obtain ⟨name, old⟩ := mem
      simp only [put]
      split_ifs with smaller same
      · obtain ⟨earlier, later, split, before⟩ := ih
        refine ⟨(name, old) :: earlier, later, by rw [split]; rfl, ?_⟩
        rw [List.forall_mem_cons]
        exact ⟨smaller, before⟩
      · exact ⟨[], fields, rfl, by simp⟩
      · exact ⟨[], (name, old) :: fields, rfl, by simp⟩

theorem put_of_settled (settled : Settled key value fields) : put key value fields = fields := by
  obtain ⟨earlier, later, rfl, before⟩ := settled
  induction earlier with
  | nil =>
      simp [put]
  | cons mem earlier ih =>
      obtain ⟨name, old⟩ := mem
      rw [List.forall_mem_cons] at before
      rw [List.cons_append, put, if_pos before.1, ih before.2]

theorem Settled.put (settled : Settled key value fields) (different : other ≠ key) :
    Settled key value (put other stored fields) := by
  obtain ⟨earlier, later, rfl, before⟩ := settled
  induction earlier with
  | nil =>
      simp only [List.nil_append, RuntimeLedger.put]
      split_ifs with smaller same
      · exact ⟨[], RuntimeLedger.put other stored later, rfl, by simp⟩
      · exact absurd same.symm different
      · have first : other < key := (lt_trichotomy other key).resolve_right fun rest =>
          rest.elim (different ·) smaller
        exact ⟨[(other, stored)], later, rfl, by simpa using first⟩
  | cons mem earlier ih =>
      obtain ⟨name, old⟩ := mem
      rw [List.forall_mem_cons] at before
      simp only [List.cons_append, RuntimeLedger.put]
      split_ifs with smaller same
      · obtain ⟨front, back, split, inFront⟩ := ih before.2
        refine ⟨(name, old) :: front, back, by rw [split]; rfl, ?_⟩
        rw [List.forall_mem_cons]
        exact ⟨before.1, inFront⟩
      · refine ⟨(other, stored) :: earlier, later, rfl, ?_⟩
        rw [List.forall_mem_cons]
        exact ⟨same ▸ before.1, before.2⟩
      · have first : other < name := (lt_trichotomy other name).resolve_right fun rest =>
          rest.elim (fun same' => same same'.symm) smaller
        refine ⟨(other, stored) :: (name, old) :: earlier, later, rfl, ?_⟩
        rw [List.forall_mem_cons, List.forall_mem_cons]
        exact ⟨lt_trans first before.1, before⟩

/-- The members of a dictionary stand in the order of their keys. -/
def Ordered (fields : Fields) : Prop :=
  fields.Pairwise fun first second => first.1 < second.1

theorem mem_put {mem : String × Json} (inside : mem ∈ put key value fields) :
    mem = (key, value) ∨ mem ∈ fields := by
  induction fields with
  | nil => exact .inl (List.mem_singleton.mp inside)
  | cons field fields ih =>
      obtain ⟨name, old⟩ := field
      simp only [put] at inside
      split_ifs at inside with smaller same
      · rcases List.mem_cons.mp inside with rfl | later
        · exact .inr List.mem_cons_self
        · exact (ih later).imp_right (List.mem_cons_of_mem _)
      · exact (List.mem_cons.mp inside).imp_right (List.mem_cons_of_mem _)
      · exact List.mem_cons.mp inside

theorem Ordered.put (ordered : Ordered fields) : Ordered (put key value fields) := by
  induction fields with
  | nil => exact List.pairwise_singleton _ _
  | cons field fields ih =>
      obtain ⟨name, old⟩ := field
      obtain ⟨first, rest⟩ := List.pairwise_cons.mp ordered
      simp only [RuntimeLedger.put]
      split_ifs with smaller same
      · refine List.pairwise_cons.mpr ⟨fun mem inside => ?_, ih rest⟩
        rcases mem_put inside with rfl | old
        · exact smaller
        · exact first mem old
      · subst same
        exact List.pairwise_cons.mpr ⟨first, rest⟩
      · have before : key < name := (lt_trichotomy key name).resolve_right fun after =>
          after.elim (fun same' => same same'.symm) smaller
        refine List.pairwise_cons.mpr ⟨fun mem inside => ?_, ordered⟩
        rcases List.mem_cons.mp inside with rfl | later
        · exact before
        · exact lt_trans before (first mem later)

theorem mem_iff_lookup (ordered : Ordered fields) :
    (key, value) ∈ fields ↔ fields.lookup key = some value := by
  induction fields with
  | nil => simp
  | cons field fields ih =>
      obtain ⟨name, old⟩ := field
      obtain ⟨first, rest⟩ := List.pairwise_cons.mp ordered
      rw [List.mem_cons, lookup_cons]
      split_ifs with same
      · subst same
        constructor
        · rintro (⟨⟨⟩⟩ | later)
          · rfl
          · exact absurd (first _ later) (String.lt_irrefl _)
        · rintro ⟨⟨⟩⟩
          exact .inl rfl
      · rw [ih rest]
        simp [same]

/-- Dictionaries with the same members are equal. -/
theorem eq_of_lookup_eq (leftOrdered : Ordered left) (rightOrdered : Ordered right)
    (same : ∀ key, left.lookup key = right.lookup key) : left = right := by
  have members : ∀ mem : String × Json, mem ∈ left ↔ mem ∈ right := by
    rintro ⟨key, value⟩
    rw [mem_iff_lookup leftOrdered, mem_iff_lookup rightOrdered, same key]
  have different {fields : Fields} (ordered : Ordered fields) : fields.Nodup :=
    ordered.imp fun {first second} before (equal : first = second) =>
      String.lt_irrefl _ (equal ▸ before)
  have perm := (List.perm_ext_iff_of_nodup (different leftOrdered) (different rightOrdered)).mpr
    members
  exact perm.eq_of_pairwise (fun first second _ _ before after =>
    absurd (lt_trans before after) (String.lt_irrefl _)) leftOrdered rightOrdered

end Put

/-! ## Projecting once more -/

section Again

variable {source unsigned decision shown state projected : Fields} {previous head value : Json}
variable {sources events reasons : List Json}

theorem safeReasons_again (safe : safeReasons rt value = .ok reasons) :
    safeReasons rt (.arr reasons) = .ok reasons := by
  obtain ⟨items, _, ⟨⟩⟩ := bind_ok_iff.mp safe
  have listed : ∀ texts : List Json, (Json.arr texts).toList = .ok texts := by
    intro texts
    cases texts with
    | nil => rfl
    | cons first rest => rfl
  rw [safeReasons, listed, ok_bind, List.map_map]
  have texts : rt.text ∘ Json.str = id := rfl
  rw [texts, List.map_id, List.filter_filter]
  simp only [Bool.and_self]
  rfl

theorem publicField_again {mem field : String × Json} (shown : publicField rt mem = .ok field) :
    field.1 = mem.1 ∧ publicField rt field = .ok field := by
  unfold publicField at shown
  split_ifs at shown with codes
  · obtain ⟨safe, safeShown, ⟨⟩⟩ := bind_ok_iff.mp shown
    refine ⟨rfl, ?_⟩
    rw [publicField, if_pos codes, safeReasons_again safeShown]
    rfl
  · cases shown
    exact ⟨rfl, if_neg codes⟩

theorem publicMembers_again (kept : publicMembers rt decision = .ok shown) :
    publicMembers rt shown = .ok shown := by
  unfold publicMembers at kept ⊢
  induction decision generalizing shown with
  | nil =>
      rcases mapM_nil_eq_ok_iff.mp kept with rfl
      rfl
  | cons mem decision ih =>
      rw [List.filter_cons] at kept
      split_ifs at kept with isPublic
      · obtain ⟨field, rest, fieldShown, restShown, rfl⟩ := mapM_cons_eq_ok_iff.mp kept
        obtain ⟨named, again⟩ := publicField_again fieldShown
        have fieldPublic : isPublicField field = true := by
          rw [isPublicField, named]
          exact isPublic
        rw [List.filter_cons_of_pos fieldPublic, mapM_cons_eq_ok_iff]
        exact ⟨field, rest, again, ih restShown, rfl⟩
      · exact ih kept

theorem publicEvent_again (once : publicEvent rt previous source = .ok unsigned) (hash : Json) :
    publicEvent rt previous (put "event_hash" hash unsigned) = .ok unsigned := by
  simp only [publicEvent, bind_ok_iff] at once
  obtain ⟨reasons, safe, decision, decisionShown, metadata, metadataRead, ⟨⟩⟩ := once
  have decisionAgain : publicDecision rt (.obj decision) = .ok decision := by
    cases stored : get source "decision" with
    | obj fields =>
        rw [stored] at decisionShown
        exact publicMembers_again decisionShown
    | _ =>
        rw [stored] at decisionShown
        simp only [publicDecision] at decisionShown
        split_ifs at decisionShown
        cases decisionShown
        rfl
  have metadataAgain (fields : Fields) : members (.obj fields) = .ok fields := by
    cases fields <;> rfl
  simp only [publicEvent, get_put, get_cons, String.reduceEq, if_true, if_false,
    safeReasons_again safe, decisionAgain, metadataAgain, ok_bind, List.filter_filter]
  simp [pure, Except.pure]

theorem publicEvents_again (once : publicEvents rt previous sources = .ok (events, head)) :
    publicEvents rt previous events = .ok (events, head) := by
  induction sources generalizing previous events with
  | nil =>
      cases once
      rfl
  | cons source rest ih =>
      cases source with
      | obj fields =>
          simp only [publicEvents, bind_ok_iff] at once
          obtain ⟨unsigned, unsignedShown, ⟨later, last⟩, laterShown, ⟨⟩⟩ := once
          simp only [publicEvents, publicEvent_again unsignedShown, ok_bind, ih laterShown]
          rfl
      | _ => cases once

theorem listed_events {items : List Json} : (Json.arr items).toList = .ok items := by
  cases items <;> rfl

theorem publicStateProjection_again (once : publicStateProjection rt state = .ok projected) :
    publicStateProjection rt projected = .ok projected := by
  simp only [publicStateProjection, bind_ok_iff] at once
  obtain ⟨blockers, safe, sources, _, ⟨events, head⟩, shown, ⟨⟩⟩ := once
  simp only [publicStateProjection, get_put, String.reduceEq, if_true, if_false,
    safeReasons_again safe, ok_bind, listed_events, publicEvents_again shown]
  have blockersSettled : Settled "blockers" (.arr blockers)
      (put "event_head" head (put "events" (.arr events) (put "blockers" (.arr blockers) state))) :=
    (settled_put.put (by decide)).put (by decide)
  have eventsSettled : Settled "events" (.arr events)
      (put "event_head" head (put "events" (.arr events) (put "blockers" (.arr blockers) state))) :=
    settled_put.put (by decide)
  rw [put_of_settled blockersSettled, put_of_settled eventsSettled, put_of_settled settled_put]
  rfl

end Again

/-- The events of the second journal continue those of the first. -/
def Continues (state longer : Fields) : Prop :=
  ∃ items more, get state "events" = .arr items ∧ get longer "events" = .arr (items ++ more)

/-- `projected["events"]`. -/
def eventsOf (state : Fields) : List Json :=
  match get state "events" with
  | .arr items => items
  | _ => []

theorem publicEvents_append {first more events : List Json} {previous head : Json} :
    publicEvents rt previous (first ++ more) = .ok (events, head) ↔
      ∃ front middle back, publicEvents rt previous first = .ok (front, middle) ∧
        publicEvents rt middle more = .ok (back, head) ∧ events = front ++ back := by
  induction first generalizing previous events with
  | nil =>
      constructor
      · exact fun shown => ⟨[], previous, events, rfl, shown, rfl⟩
      · rintro ⟨front, middle, back, ⟨⟩, shown, rfl⟩
        exact shown
  | cons source first ih =>
      cases source with
      | obj fields =>
          simp only [List.cons_append, publicEvents, bind_ok_iff]
          constructor
          · rintro ⟨unsigned, unsignedShown, ⟨later, last⟩, laterShown, ⟨⟩⟩
            obtain ⟨front, middle, back, frontShown, backShown, rfl⟩ := ih.mp laterShown
            exact ⟨_, middle, back, ⟨unsigned, unsignedShown, (front, middle), frontShown, rfl⟩,
              backShown, rfl⟩
          · rintro ⟨_, middle, back, ⟨unsigned, unsignedShown, ⟨front, last⟩, frontShown, ⟨⟩⟩,
              backShown, rfl⟩
            exact ⟨unsigned, unsignedShown, (front ++ back, head),
              ih.mpr ⟨front, last, back, frontShown, backShown, rfl⟩, rfl⟩
      | _ =>
          constructor
          · rintro ⟨⟩
          · rintro ⟨_, _, _, ⟨⟩, _⟩

theorem eventsOf_projected {state projected : Fields} {items : List Json}
    (stored : get state "events" = .arr items)
    (shown : publicStateProjection rt state = .ok projected) :
    ∃ head, publicEvents rt .null items = .ok (eventsOf projected, head) := by
  simp only [publicStateProjection, bind_ok_iff] at shown
  obtain ⟨blockers, _, sources, listed, ⟨events, head⟩, eventsShown, ⟨⟩⟩ := shown
  rw [stored, listed_events] at listed
  cases listed
  exact ⟨head, by simpa [eventsOf] using eventsShown⟩

theorem eventsOf_isPrefix {state longer projected final : Fields} (continues : Continues state longer)
    (shown : publicStateProjection rt state = .ok projected)
    (longerShown : publicStateProjection rt longer = .ok final) :
    eventsOf projected <+: eventsOf final := by
  obtain ⟨items, more, stored, longerStored⟩ := continues
  obtain ⟨head, eventsShown⟩ := eventsOf_projected stored shown
  obtain ⟨last, allShown⟩ := eventsOf_projected longerStored longerShown
  obtain ⟨front, middle, back, frontShown, _, split⟩ := publicEvents_append.mp allShown
  rw [eventsShown] at frontShown
  cases frontShown
  exact ⟨back, split.symm⟩

/-! ## What cannot be told from the projection -/

section Alike

variable (rt)

/-- The same public field of two decisions, reason codes up to the unsafe ones. -/
def SameMember (mem other : String × Json) : Prop :=
  mem.1 = other.1 ∧
    if mem.1 = "reason_codes" then safeReasons rt mem.2 = safeReasons rt other.2
    else mem.2 = other.2

/-- Decisions that differ at most outside the public fields and in unsafe reason codes. -/
inductive AlikeDecision : Json → Json → Prop
  | refl (decision : Json) : AlikeDecision decision decision
  | fields (decision other : Fields)
      (same : List.Forall₂ (SameMember rt)
        (decision.filter isPublicField) (other.filter isPublicField)) :
      AlikeDecision (.obj decision) (.obj other)

/-- Metadata that differs at most outside the safe keys and in values that are no scalars. -/
inductive AlikeMetadata : Json → Json → Prop
  | refl (metadata : Json) : AlikeMetadata metadata metadata
  | fields (metadata other : Fields)
      (same : metadata.filter isPublicMetadata = other.filter isPublicMetadata) :
      AlikeMetadata (.obj metadata) (.obj other)

/-- Events that differ at most in what the projection leaves out and in their hashes. -/
structure AlikeEvent (source other : Fields) : Prop where
  plain : ∀ key ∈ plainEventKeys, get source key = get other key
  reasons : safeReasons rt (get source "reason_codes") =
    safeReasons rt (get other "reason_codes")
  decision : AlikeDecision rt (get source "decision") (get other "decision")
  metadata : AlikeMetadata (get source "metadata") (get other "metadata")

/-- Journals that differ at most in what the projection leaves out and in their hashes. -/
structure Alike (state other : Fields) : Prop where
  ordered : Ordered state
  otherOrdered : Ordered other
  members : ∀ key, key ∉ ["blockers", "events", "event_head"] → state.lookup key = other.lookup key
  blockers : safeReasons rt (get state "blockers") = safeReasons rt (get other "blockers")
  events : ∃ items others, get state "events" = .arr items ∧ get other "events" = .arr others ∧
    List.Forall₂ (fun item item' => ∃ source source', item = .obj source ∧ item' = .obj source' ∧
      AlikeEvent rt source source') items others

variable {rt}

theorem publicField_congr {mem other : String × Json} (same : SameMember rt mem other) :
    publicField rt mem = publicField rt other := by
  obtain ⟨name, value⟩ := mem
  obtain ⟨name', value'⟩ := other
  obtain ⟨sameName, sameValue⟩ := same
  dsimp only at sameName sameValue
  subst sameName
  by_cases codes : name = "reason_codes"
  · rw [if_pos codes] at sameValue
    simp only [publicField, if_pos codes, sameValue]
  · rw [if_neg codes] at sameValue
    rw [sameValue]

theorem publicMembers_congr {decision other : Fields} (same : List.Forall₂ (SameMember rt)
      (decision.filter isPublicField) (other.filter isPublicField)) :
    publicMembers rt decision = publicMembers rt other := by
  unfold publicMembers
  generalize decision.filter isPublicField = kept at same ⊢
  generalize other.filter isPublicField = otherKept at same ⊢
  induction same with
  | nil => rfl
  | @cons mem member' rest rest' agrees _ ih =>
      rw [List.mapM_cons, List.mapM_cons, ih, publicField_congr agrees]

theorem publicDecision_congr {decision other : Json} (alike : AlikeDecision rt decision other) :
    publicDecision rt decision = publicDecision rt other := by
  cases alike with
  | refl => rfl
  | fields decision other same => exact publicMembers_congr same

theorem publicMetadata_congr {metadata other : Json} (alike : AlikeMetadata metadata other) :
    (members metadata).map (List.filter isPublicMetadata) =
      (members other).map (List.filter isPublicMetadata) := by
  cases alike with
  | refl => rfl
  | fields metadata other same =>
      have read (fields : Fields) : members (.obj fields) = .ok fields := by
        cases fields <;> rfl
      rw [read, read, Except.map, Except.map, same]

theorem publicEvent_congr {source other : Fields} (alike : AlikeEvent rt source other)
    (previous : Json) : publicEvent rt previous source = publicEvent rt previous other := by
  have metadata := publicMetadata_congr alike.metadata
  have plain := alike.plain
  simp only [plainEventKeys, List.forall_mem_cons] at plain
  obtain ⟨cost, eventId, evidence, idempotency, occurred, outcome, phase, sequence, subject, _⟩ :=
    plain
  simp only [publicEvent, alike.reasons, publicDecision_congr alike.decision, cost, eventId,
    evidence, idempotency, occurred, outcome, phase, sequence, subject]
  cases safeReasons rt (get other "reason_codes") with
  | error error => rfl
  | ok reasons =>
      cases publicDecision rt (get other "decision") with
      | error error => rfl
      | ok decision =>
          cases read : members (get source "metadata") with
          | error error =>
              rw [read] at metadata
              cases readOther : members (get other "metadata") with
              | error error' =>
                  rw [readOther] at metadata
                  cases metadata
                  rfl
              | ok fields =>
                  rw [readOther] at metadata
                  cases metadata
          | ok fields =>
              rw [read] at metadata
              cases readOther : members (get other "metadata") with
              | error error' =>
                  rw [readOther] at metadata
                  cases metadata
              | ok fields' =>
                  rw [readOther] at metadata
                  simp only [Except.map, Except.ok.injEq] at metadata
                  simp only [ok_bind, metadata]

theorem publicEvents_congr {items others : List Json} (previous : Json)
    (alike : List.Forall₂ (fun item item' => ∃ source source', item = .obj source ∧
      item' = .obj source' ∧ AlikeEvent rt source source') items others) :
    publicEvents rt previous items = publicEvents rt previous others := by
  induction alike generalizing previous with
  | nil => rfl
  | cons agrees _ ih =>
      obtain ⟨source, source', rfl, rfl, same⟩ := agrees
      simp only [publicEvents, publicEvent_congr same, ih]

theorem publicStateProjection_congr {state other : Fields} (alike : Alike rt state other) :
    publicStateProjection rt state = publicStateProjection rt other := by
  obtain ⟨items, others, stored, otherStored, same⟩ := alike.events
  simp only [publicStateProjection, stored, otherStored, listed_events, ok_bind, alike.blockers,
    publicEvents_congr _ same]
  cases safeReasons rt (get other "blockers") with
  | error error => rfl
  | ok blockers =>
      cases publicEvents rt .null others with
      | error error => rfl
      | ok events =>
          have whole : put "event_head" events.2 (put "events" (.arr events.1)
                (put "blockers" (.arr blockers) state)) =
              put "event_head" events.2 (put "events" (.arr events.1)
                (put "blockers" (.arr blockers) other)) := by
            apply eq_of_lookup_eq alike.ordered.put.put.put alike.otherOrdered.put.put.put
            intro key
            simp only [lookup_put]
            split_ifs with isHead isEvents isBlockers
            · rfl
            · rfl
            · rfl
            · exact alike.members key (by simp [isHead, isEvents, isBlockers])
          simp only [ok_bind, whole]

end Alike

/-! ## Journals that can be projected -/

/-- `for item in value or []` does not raise. -/
def isListable : Json → Bool
  | .num value => value = 0
  | .bool value => !value
  | _ => true

/-- `(value or {}).items()` does not raise. -/
def isMembers : Json → Bool
  | .obj _ => true
  | value => !value.truthy

/-- The public fields of a decision can be read. -/
def isReadableDecision : Json → Bool
  | .obj decision => decision.all fun mem => mem.1 ≠ "reason_codes" || isListable mem.2
  | .arr items => !publicDecisionKeys.any fun key => items.contains (.str key)
  | .str text => !publicDecisionKeys.any fun key => Text.hasInfix key.toList text.toList
  | value => !value.truthy

/-- The members that the projection looks into have the types it expects. -/
structure ProjectableEvent (source : Fields) : Prop where
  reasons : isListable (get source "reason_codes") = true
  decision : isReadableDecision (get source "decision") = true
  metadata : isMembers (get source "metadata") = true

structure Projectable (state : Fields) : Prop where
  blockers : isListable (get state "blockers") = true
  events : ∀ item ∈ eventsOf state, ∃ source, item = .obj source ∧ ProjectableEvent source

section Projectable

variable {value : Json}

theorem exists_safeReasons_iff :
    (∃ reasons, safeReasons rt value = .ok reasons) ↔ isListable value = true := by
  have listed : (∃ items, value.toList = .ok items) ↔ isListable value = true := by
    cases value with
    | num number =>
        by_cases zero : number = 0 <;> simp [toList, truthy, isListable, zero]
    | bool flag => cases flag <;> simp [toList, truthy, isListable]
    | str text =>
        by_cases empty : text = "" <;> simp [toList, isListable, empty]
    | arr items => simp [listed_events, isListable]
    | obj fields =>
        cases fields <;> simp [toList, truthy, isListable]
    | null => simp [toList, isListable]
  rw [← listed]
  constructor
  · rintro ⟨reasons, safe⟩
    obtain ⟨items, read, _⟩ := bind_ok_iff.mp safe
    exact ⟨items, read⟩
  · rintro ⟨items, read⟩
    exact ⟨_, bind_ok_iff.mpr ⟨items, read, rfl⟩⟩

theorem exists_publicField_iff {mem : String × Json} : (∃ field, publicField rt mem = .ok field) ↔
      (mem.1 ≠ "reason_codes" || isListable mem.2) = true := by
  unfold publicField
  by_cases codes : mem.1 = "reason_codes"
  · rw [if_pos codes]
    simp only [codes, ne_eq, not_true_eq_false, decide_false, Bool.false_or]
    rw [← @exists_safeReasons_iff rt]
    constructor
    · rintro ⟨field, shown⟩
      obtain ⟨safe, read, _⟩ := bind_ok_iff.mp shown
      exact ⟨safe, read⟩
    · rintro ⟨safe, read⟩
      exact ⟨_, bind_ok_iff.mpr ⟨safe, read, rfl⟩⟩
  · rw [if_neg codes]
    simp only [codes, ne_eq, not_false_eq_true, decide_true, Bool.true_or, iff_true]
    exact ⟨mem, rfl⟩

theorem exists_publicMembers_iff {decision : Fields} :
    (∃ shown, publicMembers rt decision = .ok shown) ↔
      (decision.all fun mem => mem.1 ≠ "reason_codes" || isListable mem.2) = true := by
  unfold publicMembers
  induction decision with
  | nil => exact ⟨fun _ => rfl, fun _ => ⟨[], rfl⟩⟩
  | cons mem decision ih =>
      rw [List.filter_cons, List.all_cons, Bool.and_eq_true, ← ih]
      split_ifs with isPublic
      · rw [← @exists_publicField_iff rt]
        constructor
        · rintro ⟨shown, kept⟩
          obtain ⟨field, rest, fieldShown, restShown, rfl⟩ := mapM_cons_eq_ok_iff.mp kept
          exact ⟨⟨field, fieldShown⟩, rest, restShown⟩
        · rintro ⟨⟨field, fieldShown⟩, rest, restShown⟩
          exact ⟨_, mapM_cons_eq_ok_iff.mpr ⟨field, rest, fieldShown, restShown, rfl⟩⟩
      · have other : mem.1 ≠ "reason_codes" := by
          intro codes
          exact isPublic (by rw [isPublicField, codes]; rfl)
        simp [other]

theorem exists_publicDecision_iff :
    (∃ shown, publicDecision rt value = .ok shown) ↔ isReadableDecision value = true := by
  cases value with
  | obj decision => exact exists_publicMembers_iff
  | arr items =>
      simp only [publicDecision, isReadableDecision]
      cases publicDecisionKeys.any fun key => items.contains (str key) <;> simp
  | str text =>
      simp only [publicDecision, isReadableDecision]
      cases publicDecisionKeys.any fun key => Text.hasInfix key.toList text.toList <;> simp
  | null => simp [publicDecision, isReadableDecision]
  | bool flag => cases flag <;> simp [publicDecision, isReadableDecision, truthy]
  | num number =>
      by_cases zero : number = 0 <;> simp [publicDecision, isReadableDecision, truthy, zero]

theorem exists_members_iff : (∃ fields, members value = .ok fields) ↔ isMembers value = true := by
  cases value with
  | obj fields => cases fields <;> simp [members, isMembers, truthy]
  | arr items => cases items <;> simp [members, isMembers, truthy]
  | str text => by_cases empty : text = "" <;> simp [members, isMembers, empty]
  | null => simp [members, isMembers]
  | bool flag => cases flag <;> simp [members, isMembers, truthy]
  | num number => by_cases zero : number = 0 <;> simp [members, isMembers, truthy, zero]

theorem exists_publicEvent_iff {previous : Json} {source : Fields} :
    (∃ unsigned, publicEvent rt previous source = .ok unsigned) ↔ ProjectableEvent source := by
  simp only [publicEvent, bind_ok_iff]
  constructor
  · rintro ⟨unsigned, reasons, safe, decision, decisionShown, metadata, read, _⟩
    exact ⟨exists_safeReasons_iff.mp ⟨reasons, safe⟩,
      exists_publicDecision_iff.mp ⟨decision, decisionShown⟩, exists_members_iff.mp ⟨metadata, read⟩⟩
  · rintro ⟨reasons, decision, metadata⟩
    obtain ⟨safe, safeShown⟩ := exists_safeReasons_iff.mpr reasons
    obtain ⟨shown, decisionShown⟩ := exists_publicDecision_iff.mpr decision
    obtain ⟨fields, read⟩ := exists_members_iff.mpr metadata
    exact ⟨_, safe, safeShown, shown, decisionShown, fields, read, rfl⟩

theorem exists_publicEvents_iff {previous : Json} {sources : List Json} :
    (∃ shown, publicEvents rt previous sources = .ok shown) ↔
      ∀ item ∈ sources, ∃ source, item = .obj source ∧ ProjectableEvent source := by
  induction sources generalizing previous with
  | nil => simp [publicEvents]
  | cons item rest ih =>
      rw [List.forall_mem_cons]
      cases item with
      | obj fields =>
          simp only [publicEvents, bind_ok_iff]
          constructor
          · rintro ⟨shown, unsigned, unsignedShown, later, laterShown, _⟩
            exact ⟨⟨fields, rfl, exists_publicEvent_iff.mp ⟨unsigned, unsignedShown⟩⟩,
              ih.mp ⟨later, laterShown⟩⟩
          · rintro ⟨⟨source, ⟨⟩, projectable⟩, others⟩
            obtain ⟨unsigned, unsignedShown⟩ := exists_publicEvent_iff.mpr projectable
            obtain ⟨later, laterShown⟩ := ih.mpr others
            exact ⟨_, unsigned, unsignedShown, later, laterShown, rfl⟩
      | _ => simp [publicEvents]

/-- An accepted journal is projected exactly when its members can be read. -/
theorem exists_publicStateProjection_iff {state : Fields} {items : List Json}
    (stored : get state "events" = .arr items) :
    (∃ projected, publicStateProjection rt state = .ok projected) ↔ Projectable state := by
  have events : eventsOf state = items := by
    rw [eventsOf, stored]
  simp only [publicStateProjection, bind_ok_iff, stored, listed_events]
  constructor
  · rintro ⟨projected, blockers, safe, sources, ⟨⟩, shown, eventsShown, _⟩
    refine ⟨exists_safeReasons_iff.mp ⟨blockers, safe⟩, ?_⟩
    rw [events]
    exact exists_publicEvents_iff.mp ⟨shown, eventsShown⟩
  · rintro ⟨blockers, readable⟩
    rw [events] at readable
    obtain ⟨safe, safeShown⟩ := exists_safeReasons_iff.mpr blockers
    obtain ⟨shown, eventsShown⟩ := exists_publicEvents_iff.mpr readable
    exact ⟨_, safe, safeShown, items, rfl, shown, eventsShown, rfl⟩

theorem exists_events_of_valid {state : Fields} (valid : validateJournal rt state = .ok []) :
    ∃ items, get state "events" = .arr items := by
  simp only [validateJournal, bind_ok_iff] at valid
  obtain ⟨budget, _, found⟩ := valid
  cases stored : get state "events" with
  | arr items => exact ⟨items, rfl⟩
  | _ => simp [stored, pure, Except.pure] at found

/-- The digest of every value is the same text. -/
def sampleRuntime : Runtime where
  digest _ := "0"
  floatOf _ := none
  intOf _ := none
  textOf _ := ""

/-- A fresh run. -/
def sampleJournal (blockers : Json) : Fields :=
  [("blockers", blockers), ("event_head", .null), ("events", .arr []),
    ("monetary_budget_usd", .num 0), ("phase", .str "RECONCILE"), ("schema_version", .num 1)]

end Projectable

end Adwf.RuntimeLedger
