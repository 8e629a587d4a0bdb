import Adwf.LeaseStore.Chain
import Adwf.Program.Interleaving

/-!
# The provider under concurrent clients

GitHub refuses a second ref of one name and never changes a ref or a tag object.
Any call may fail, a creation also after it took effect; a refusal
(`PROVIDER_HTTP_409`, `PROVIDER_HTTP_422`) is a creation that did not happen.
The reading half of the client is specified here, against the moves of others.
-/

namespace Adwf.LeaseStore

open Adwf.Fallible Adwf.LeaseRegistry Adwf.Program

/-- The refs in the order of their creation, and the tag objects. -/
structure Store (Client : Type) where
  refs : List (Ref Client)
  objects : Objects

/-- The provider processed the creation and refused it. -/
def Refusal (text : String) : Prop :=
  text = "PROVIDER_HTTP_409" ∨ text = "PROVIDER_HTTP_422"

/-- What a call may do to the store and may answer.  The branch and the rulesets
answer anything. -/
def Served {Client : Type} (client : Client) (store : Store Client) :
    (call : Call) → Store Client → Answer call → Prop
  | .repoInfo, after, _ => after = store
  | .branch _, after, _ => after = store
  | .rulesets, after, _ => after = store
  | .matchingTagRefs, after, answer =>
      after = store ∧ ∀ rows, answer = .ok rows → rows.Perm (store.refs.map Ref.row)
  | .tagRef tag, after, answer =>
      after = store ∧ ∀ row, answer = .ok row → ∃ ref ∈ store.refs, ref.tag = tag ∧ row = ref.row
  | .tagObject sha, after, answer =>
      after = store ∧ ∀ object, answer = .ok object → store.objects sha = some object
  | .createTagObject tag target message, after, answer =>
      (after = store ∧ ∃ text, answer = .error text) ∨
        ∃ sha, (store.objects sha = none ∨
            store.objects sha = some ⟨sha, tag, target, "commit", some message⟩) ∧
          after = { store with
            objects := Function.update store.objects sha
              (some ⟨sha, tag, target, "commit", some message⟩) } ∧
          ∀ created, answer = .ok created → created = sha
  | .createTagRef tag sha, after, answer =>
      (after = store ∧ ∃ text, answer = .error text) ∨
        ((∀ ref ∈ store.refs, ref.tag ≠ tag) ∧
          after = { store with refs := store.refs ++ [⟨tag, sha, client⟩] } ∧
          ∀ text, answer = .error text → ¬Refusal text)

section Provider

variable {Client : Type} (rt : Runtime) (repo : String) (operations : Client → Operation)

/-- The refs form one chain, and no operation wrote two of them. -/
structure Chained (store : Store Client) : Prop where
  linked : store.refs = [] ∨ ∃ state previous,
    Linked rt repo operations store.objects store.refs state previous
  writers : (store.refs.map Ref.writer).Nodup

/-- The moves of the others: new refs of their own and new objects. -/
def Moved (client : Client) (store later : Store Client) : Prop :=
  (∃ more, later.refs = store.refs ++ more ∧ ∀ ref ∈ more, ref.writer ≠ client) ∧
    store.objects.Extends later.objects

theorem Moved.refl (client : Client) (store : Store Client) : Moved client store store :=
  ⟨⟨[], (List.append_nil _).symm, by simp⟩, fun _ _ stored => stored⟩

theorem Moved.trans (client : Client) {first second third : Store Client}
    (left : Moved client first second) (right : Moved client second third) :
    Moved client first third := by
  obtain ⟨⟨more, refs, others⟩, objects⟩ := left
  obtain ⟨⟨evenMore, refs', others'⟩, objects'⟩ := right
  constructor
  · refine ⟨more ++ evenMore, by rw [refs', refs, List.append_assoc], ?_⟩
    intro ref inside
    rcases List.mem_append.mp inside with old | new
    · exact others ref old
    · exact others' ref new
  · exact fun sha object stored => objects' sha object (objects sha object stored)

/-- GitHub, with the chain as its invariant. -/
def provider : World Client (Store Client) Call Answer where
  step := Served
  inv := Chained rt repo operations
  rely := Moved
  rely_refl := Moved.refl
  rely_trans := Moved.trans

variable {rt repo operations} {client : Client}

/-! ## What the moves of others keep -/

/-- The client has written no ref. -/
def Unwritten (client : Client) (store : Store Client) : Prop :=
  ∀ ref ∈ store.refs, ref.writer ≠ client

/-- The store has had the refs `seen`. -/
def Grown (seen : List (Ref Client)) (store : Store Client) : Prop :=
  seen <+: store.refs

variable (rt repo operations) in
/-- `state` and `previous` end the chain as it was at some moment since `seen`. -/
def Snapshot (seen : List (Ref Client)) (state : Registry) (previous : Option String)
    (store : Store Client) : Prop :=
  ∃ refs, seen <+: refs ∧ refs <+: store.refs ∧
    Linked rt repo operations store.objects refs state previous

/-- The tag object of a SHA is an event. -/
def Stored (sha : String) (event : AnchorEvent) (store : Store Client) : Prop :=
  ∃ object, store.objects sha = some object ∧ object.message = some (.canonical event)

theorem stable_true : Stable (provider rt repo operations) client fun _ => True :=
  fun _ _ _ _ _ => trivial

theorem stable_unwritten : Stable (provider rt repo operations) client (Unwritten client) := by
  rintro store later ⟨⟨more, refs, others⟩, _⟩ _ unwritten ref inside
  rw [refs] at inside
  rcases List.mem_append.mp inside with old | new
  · exact unwritten ref old
  · exact others ref new

variable {seen refs : List (Ref Client)} {code : String} {before : Store Client → Prop}
variable {first : Nat} {store : Store Client} {latest result : Option Registry × Option String}

theorem stable_grown : Stable (provider rt repo operations) client (Grown seen) := by
  rintro store later ⟨⟨more, refs, _⟩, _⟩ _ grown
  rw [Grown, refs]
  exact grown.trans (List.prefix_append _ _)

theorem stable_snapshot {state : Registry} {previous : Option String} :
    Stable (provider rt repo operations) client
      (Snapshot rt repo operations seen state previous) := by
  rintro store later ⟨⟨more, refs, _⟩, extends_⟩ _ ⟨front, since, upTo, linked⟩
  refine ⟨front, since, ?_, linked.mono extends_⟩
  rw [refs]
  exact upTo.trans (List.prefix_append _ _)

theorem stable_stored {sha : String} {event : AnchorEvent} :
    Stable (provider rt repo operations) client (Stored sha event) := by
  rintro store later ⟨_, extends_⟩ _ ⟨object, stored, message⟩
  exact ⟨object, extends_ sha object stored, message⟩

/-! ## Programs that only read -/

/-- An error that reports no conflict. -/
def StoreError.Plain : StoreError → Prop
  | .value (.code code) =>
      code ≠ "LEASE_PROVIDER_CAS_CONFLICT" ∧ code ≠ "LEASE_PROVIDER_CAS_CONFLICT_UNRESOLVED"
  | .value (.listing code _) => code ≠ "LEASE_PROVIDER_CAS_LOST"
  | .provider _ => True
  | .assertion => True

theorem plain_valueError (other : code ≠ "LEASE_PROVIDER_CAS_CONFLICT" ∧
    code ≠ "LEASE_PROVIDER_CAS_CONFLICT_UNRESOLVED") : (valueError code).Plain :=
  other

theorem plain_listing {findings : List String} (other : code ≠ "LEASE_PROVIDER_CAS_LOST") :
    (StoreError.value (.listing code findings)).Plain :=
  other

theorem triple_call {call : Call}
    {returns : Store Client → Value call → Prop} {raises : Store Client → StoreError → Prop}
    (stable : Stable (provider rt repo operations) client before)
    (returnsStable : ∀ value, Stable (provider rt repo operations) client (returns · value))
    (raisesStable : ∀ error, Stable (provider rt repo operations) client (raises · error))
    (served : ∀ store after answer, Chained rt repo operations store → before store →
      Served client store call after answer → Chained rt repo operations after ∧
        (∀ value, answer = .ok value → returns after value) ∧
        ∀ text, answer = .error text → raises after (.provider text)) :
    Triple (provider rt repo operations) client before (ask call) returns raises := by
  have answerStable : ∀ answer : Answer call, Stable (provider rt repo operations) client
      fun store => (∀ value, answer = .ok value → returns store value) ∧
        ∀ text, answer = .error text → raises store (.provider text) := by
    intro answer store later moved kept known
    constructor
    · exact fun value same => returnsStable value store later moved kept (known.1 value same)
    · exact fun text same => raisesStable _ store later moved kept (known.2 text same)
  apply Triple.bind (Triple.request stable answerStable served)
  intro answer
  cases answer with
  | ok value => exact Triple.done (answerStable _) fun _ _ known => known.1 value rfl
  | error text => exact Triple.fail (answerStable _) fun _ _ known => known.2 text rfl

theorem triple_ask {call : Call} {fact : Value call → Store Client → Prop}
    (stable : Stable (provider rt repo operations) client before)
    (factStable : ∀ value, Stable (provider rt repo operations) client (fact value))
    (reads : ∀ store after answer, Chained rt repo operations store → before store →
      Served client store call after answer →
      after = store ∧ ∀ value, answer = .ok value → fact value store) :
    Triple (provider rt repo operations) client before (ask call)
      (fun store value => before store ∧ fact value store)
      (fun store error => before store ∧ error.Plain) := by
  apply triple_call stable
  · exact fun value => stable.and (factStable value)
  · exact fun error => stable.and fun _ _ _ _ plain => plain
  · intro store after answer kept known served
    obtain ⟨rfl, holds⟩ := reads store after answer kept known served
    exact ⟨kept, fun value same => ⟨known, holds value same⟩, fun _ _ => ⟨known, trivial⟩⟩

variable (rt repo operations client) in
/-- The program changes nothing, keeps what the moves of others keep, and returns
with `fact`; what it raises reports no conflict. -/
def Observes {α : Type} (program : StoreProgram α) (fact : α → Store Client → Prop) : Prop :=
  ∀ before, Stable (provider rt repo operations) client before →
    Triple (provider rt repo operations) client before program
      (fun store value => before store ∧ fact value store)
      (fun store error => before store ∧ error.Plain)

namespace Observes

variable {α β : Type} {fact : α → Store Client → Prop}

theorem pure {value : α} (holds : ∀ store, fact value store) :
    Observes rt repo operations client (Pure.pure value) fact :=
  fun _ stable => Triple.done stable fun store _ known => ⟨known, holds store⟩

theorem fail {error : StoreError} (plain : error.Plain) :
    Observes rt repo operations client (.fail error) fact :=
  fun _ stable => Triple.fail stable fun _ _ known => ⟨known, plain⟩

theorem bind {first : StoreProgram β} {next : β → StoreProgram α}
    (firstObserves : Observes rt repo operations client first fun _ _ => True)
    (nextObserves : ∀ value, Observes rt repo operations client (next value) fact) :
    Observes rt repo operations client (first >>= next) fact := by
  intro before stable
  apply Triple.bind (firstObserves before stable)
  intro value
  exact (nextObserves value before stable).weaken fun _ _ reached => reached.1

theorem check {condition : Prop} [Decidable condition] {error : StoreError}
    {next : PUnit → StoreProgram α} (plain : error.Plain)
    (nextObserves : Observes rt repo operations client (next ⟨⟩) fact) :
    Observes rt repo operations client (Program.check condition error >>= next) fact := by
  intro before stable
  apply Triple.check stable
  · exact fun _ _ _ known => ⟨known, plain⟩
  · exact fun _ => nextObserves before stable

theorem ask {call : Call} {fact : Value call → Store Client → Prop}
    (factStable : ∀ value, Stable (provider rt repo operations) client (fact value))
    (reads : ∀ store after answer, Served client store call after answer →
      after = store ∧ ∀ value, answer = .ok value → fact value store) :
    Observes rt repo operations client (LeaseStore.ask call) fact :=
  fun _ stable => triple_ask stable factStable fun store after answer _ _ => reads store after answer

theorem askOr {call : Call} {code : String} {fact : Value call → Store Client → Prop}
    (plain : (valueError code).Plain)
    (asked : Observes rt repo operations client (LeaseStore.ask call) fact) :
    Observes rt repo operations client (LeaseStore.askOr call code) fact := by
  intro before stable
  apply Triple.handle (asked before stable)
  intro error
  apply Triple.assume
  intro _
  exact Triple.fail stable fun _ _ known => ⟨known, plain⟩

theorem forget {program : StoreProgram α}
    (observes : Observes rt repo operations client program fact) :
    Observes rt repo operations client program fun _ _ => True :=
  fun before stable => (observes before stable).strengthen (fun _ _ _ known => ⟨known.1, trivial⟩)
    fun _ _ _ raised => raised

/-- What follows a program that only reads starts where it started. -/
theorem andThen {before : Store Client → Prop} {returns : Store Client → α → Prop}
    {raises : Store Client → StoreError → Prop} {first : StoreProgram β} {next : β → StoreProgram α}
    (observes : Observes rt repo operations client first fun _ _ => True)
    (stable : Stable (provider rt repo operations) client before)
    (raised : ∀ store error, before store → error.Plain → raises store error)
    (nextTriple : ∀ value, Triple (provider rt repo operations) client before (next value)
      returns raises) :
    Triple (provider rt repo operations) client before (first >>= next) returns raises := by
  apply Triple.bind ((observes before stable).raising fun store error _ failed =>
    raised store error failed.1 failed.2)
  intro value
  exact (nextTriple value).weaken fun _ _ reached => reached.1

end Observes

theorem observes_defaultBranchAndMain :
    Observes rt repo operations client defaultBranchAndMain fun _ _ => True := by
  unfold defaultBranchAndMain
  apply Observes.bind
  · exact Observes.ask (fun _ => stable_true) fun _ _ _ served => ⟨served, fun _ _ => trivial⟩
  intro default
  apply Observes.check (plain_valueError (by decide))
  apply Observes.bind
  · exact Observes.ask (fun _ => stable_true) fun _ _ _ served => ⟨served, fun _ _ => trivial⟩
  intro sha
  apply Observes.check (plain_valueError (by decide))
  exact Observes.pure fun _ => trivial

theorem observes_requireMain (expectedMainSha : String) :
    Observes rt repo operations client (requireMain expectedMainSha) fun _ _ => True := by
  unfold requireMain
  apply Observes.check (plain_valueError (by decide))
  apply Observes.bind observes_defaultBranchAndMain
  intro current
  apply Observes.check (plain_valueError (by decide))
  exact Observes.pure fun _ => trivial

theorem observes_requireAnchorRuleset :
    Observes rt repo operations client requireAnchorRuleset fun _ _ => True := by
  unfold requireAnchorRuleset
  apply Observes.bind
  · apply Observes.askOr (plain_valueError (by decide))
    exact Observes.ask (fun _ => stable_true) fun _ _ _ served => ⟨served, fun _ _ => trivial⟩
  intro rulesets
  split
  · exact Observes.pure fun _ => trivial
  · exact Observes.fail (plain_listing (by decide))

/-! ## Reading an anchor -/

theorem plain_require {condition : Prop} [Decidable condition]
    (other : code ≠ "LEASE_PROVIDER_CAS_CONFLICT" ∧
      code ≠ "LEASE_PROVIDER_CAS_CONFLICT_UNRESOLVED") :
    RaisesOnly StoreError.Plain (require condition (valueError code)) :=
  RaisesOnly.require other

theorem plain_throw {α : Type} (other : code ≠ "LEASE_PROVIDER_CAS_CONFLICT" ∧
    code ≠ "LEASE_PROVIDER_CAS_CONFLICT_UNRESOLVED") :
    RaisesOnly StoreError.Plain (throw (valueError code) : Checked α) := by
  intro error raised
  cases raised
  exact other

theorem plain_requireState (rt : Runtime) (registry : Registry) :
    RaisesOnly StoreError.Plain (requireState rt registry) :=
  RaisesOnly.require (plain_listing (by decide))

theorem plain_tagName (revision : Int) : RaisesOnly StoreError.Plain (tagName revision) :=
  RaisesOnly.bind (plain_require (by decide)) fun _ => RaisesOnly.pure _

theorem plain_requireEvent (rt : Runtime) (event : AnchorEvent) :
    RaisesOnly StoreError.Plain (requireEvent rt event) := by
  apply RaisesOnly.bind (plain_require (by decide))
  intro _
  apply RaisesOnly.bind (plain_require (by decide))
  intro _
  apply RaisesOnly.bind (plain_require (by decide))
  intro _
  apply RaisesOnly.bind (plain_require (by decide))
  intro _
  apply RaisesOnly.bind (plain_requireState rt _)
  intro _
  exact plain_require (by decide)

theorem plain_parseEvent (rt : Runtime) (message : AnchorMessage) :
    RaisesOnly StoreError.Plain (parseEvent rt message) := by
  cases message with
  | canonical event =>
      exact RaisesOnly.bind (plain_requireEvent rt event) fun _ => RaisesOnly.pure _
  | uncanonical event =>
      exact RaisesOnly.bind (plain_requireEvent rt event) fun _ => plain_throw (by decide)
  | notAnEvent => exact plain_throw (by decide)
  | notJson => exact plain_throw (by decide)

theorem plain_requireRef (revision : Int) (row : RefRow) :
    RaisesOnly StoreError.Plain (requireRef revision row) := by
  apply RaisesOnly.bind (plain_tagName revision)
  intro name
  apply RaisesOnly.bind (plain_require (by decide))
  intro _
  exact plain_require (by decide)

theorem plain_eventOfObject (rt : Runtime) (repo : String) (revision : Int) (row : RefRow)
    (object : TagObject) :
    RaisesOnly StoreError.Plain (eventOfObject rt repo revision row object) := by
  apply RaisesOnly.bind (plain_require (by decide))
  intro _
  apply RaisesOnly.bind (plain_require (by decide))
  intro _
  apply RaisesOnly.bind (plain_require (by decide))
  intro _
  cases object.message with
  | none => exact plain_throw (by decide)
  | some message =>
      apply RaisesOnly.bind (plain_parseEvent rt message)
      intro event
      apply RaisesOnly.bind (plain_require (by decide))
      intro _
      apply RaisesOnly.bind (plain_require (by decide))
      intro _
      exact RaisesOnly.bind (plain_require (by decide)) fun _ => RaisesOnly.pure _

theorem parseEvent_eq_ok {message : AnchorMessage} {event : AnchorEvent}
    (parsed : parseEvent rt message = .ok event) : message = .canonical event := by
  cases message with
  | canonical event =>
      obtain ⟨_, _, same⟩ := bind_ok_iff.mp parsed
      cases same
      rfl
  | uncanonical event =>
      obtain ⟨_, _, thrown⟩ := bind_ok_iff.mp parsed
      cases thrown
  | notAnEvent => cases parsed
  | notJson => cases parsed

theorem eventOfObject_eq_ok {revision : Int} {row : RefRow} {object : TagObject}
    {anchor : AnchorRead} (found : eventOfObject rt repo revision row object = .ok anchor) :
    object.message = some (.canonical anchor.event) ∧ anchor.tagObjectSha = row.sha := by
  simp only [eventOfObject, bind_ok_iff, require_eq_ok_iff, exists_const] at found
  obtain ⟨_, _, _, rest⟩ := found
  split at rest
  · cases rest
  · rename_i message isMessage
    simp only [bind_ok_iff, require_eq_ok_iff, exists_const] at rest
    obtain ⟨event, parsed, _, _, _, same⟩ := rest
    cases same
    rw [isMessage, parseEvent_eq_ok parsed]
    exact ⟨rfl, rfl⟩

theorem observes_readAnchor (revision : Int) (row : RefRow) :
    Observes rt repo operations client (readAnchor rt repo revision row)
      fun anchor store => Stored row.sha anchor.event store ∧ anchor.tagObjectSha = row.sha := by
  intro before stable
  unfold readAnchor
  apply Triple.ofExcept_bind stable
  · exact fun error raised _ _ known => ⟨known, plain_requireRef revision row error raised⟩
  intro _ _
  have objectStable : ∀ object : TagObject, Stable (provider rt repo operations) client
      fun store => store.objects row.sha = some object :=
    fun object store later moved _ stored => moved.2 row.sha object stored
  have asked : Observes rt repo operations client (askOr (.tagObject row.sha)
      "LEASE_PROVIDER_ANCHOR_OBJECT_UNAVAILABLE")
      fun (object : TagObject) store => store.objects row.sha = some object := by
    apply Observes.askOr (plain_valueError (by decide))
    exact Observes.ask objectStable fun _ _ _ served => served
  apply Triple.bind (asked before stable)
  intro (object : TagObject)
  apply Triple.ofExcept (stable.and (objectStable object))
  · rintro anchor found store _ ⟨known, stored⟩
    obtain ⟨message, sha⟩ := eventOfObject_eq_ok found
    exact ⟨known, ⟨object, stored, message⟩, sha⟩
  · rintro error raised store _ ⟨known, _⟩
    exact ⟨known, plain_eventOfObject rt repo revision row object error raised⟩

/-! ## Reading the chain -/

/-- The refs of a chain, numbered. -/
def anchorRefs : Nat → List (Ref Client) → List AnchorRef
  | _, [] => []
  | first, ref :: rest => ⟨first, ref.row⟩ :: anchorRefs (first + 1) rest

/-- A row with the revision of its name. -/
def revisionOf (row : RefRow) : AnchorRef :=
  ⟨(tagRevision row.name).getD 0, row⟩

theorem parseRefs_eq_ok {seen : List Int} {rows : List RefRow} {parsed : List AnchorRef}
    (done : parseRefs seen rows = .ok parsed) : parsed = rows.map revisionOf := by
  induction rows generalizing seen parsed with
  | nil =>
      cases done
      rfl
  | cons row rest ih =>
      rw [parseRefs] at done
      split at done
      · cases done
      · rename_i revision named
        split_ifs at done
        cases others : parseRefs (revision :: seen) rest with
        | error raised =>
            rw [others] at done
            cases done
        | ok tail =>
            rw [others] at done
            cases done
            rw [List.map_cons, ← ih others, revisionOf, named, Option.getD_some]

theorem plain_parseRefs (seen : List Int) (rows : List RefRow) :
    RaisesOnly StoreError.Plain (parseRefs seen rows) := by
  induction rows generalizing seen with
  | nil => exact RaisesOnly.pure _
  | cons row rest ih =>
      intro error raised
      rw [parseRefs] at raised
      split at raised
      · cases raised
        exact plain_listing (by decide)
      · rename_i revision named
        split_ifs at raised
        · cases raised
          exact plain_valueError (by decide)
        · cases others : parseRefs (revision :: seen) rest with
          | error other =>
              rw [others] at raised
              cases raised
              exact ih _ _ others
          | ok tail =>
              rw [others] at raised
              cases raised

theorem revision_ge_of_mem_anchorRefs {ref : AnchorRef}
    (inside : ref ∈ anchorRefs first refs) : (first : Int) ≤ ref.revision := by
  induction refs generalizing first with
  | nil => cases inside
  | cons head rest ih =>
      rcases List.mem_cons.mp inside with rfl | later
      · exact le_refl _
      · have bound := ih later
        omega

theorem pairwise_anchorRefs (first : Nat) (refs : List (Ref Client)) :
    (anchorRefs first refs).Pairwise fun left right => left.revision < right.revision := by
  induction refs generalizing first with
  | nil => exact List.Pairwise.nil
  | cons ref rest ih =>
      apply List.Pairwise.cons
      · intro other inside
        have bound := revision_ge_of_mem_anchorRefs inside
        simp only
        omega
      · exact ih (first + 1)

theorem map_revisionOf (named : ∀ (index : Nat) (ref : Ref Client), refs[index]? = some ref →
      ref.tag = anchorTag (first + index) ∧ first + index ≤ 999999999) :
    refs.map (revisionOf ∘ Ref.row) = anchorRefs first refs := by
  induction refs generalizing first with
  | nil => rfl
  | cons ref rest ih =>
      obtain ⟨tag, bounded⟩ := named 0 ref rfl
      have rest_eq := ih fun index other found => by
        have place := named (index + 1) other found
        rwa [show first + (index + 1) = first + 1 + index by omega] at place
      rw [List.map_cons, rest_eq, anchorRefs, Function.comp_apply, revisionOf, Ref.row, tag,
        tagRevision_anchorTag bounded]
      rfl

theorem insertionSort_eq_anchorRefs {rows : List RefRow} (shuffled : rows.Perm (refs.map Ref.row))
    (named : ∀ (index : Nat) (ref : Ref Client), refs[index]? = some ref →
      ref.tag = anchorTag (1 + index) ∧ 1 + index ≤ 999999999) :
    (rows.map revisionOf).insertionSort (fun left right => left.revision ≤ right.revision) =
      anchorRefs 1 refs := by
  have perm : (rows.map revisionOf).Perm (anchorRefs 1 refs) := by
    rw [← map_revisionOf named, ← List.map_map]
    exact shuffled.map revisionOf
  have increasing := pairwise_anchorRefs 1 refs
  have distinct : ((anchorRefs 1 refs).map AnchorRef.revision).Nodup := by
    rw [List.Nodup, List.pairwise_map]
    exact increasing.imp fun less same => absurd same (Int.ne_of_lt less)
  have sorted := (List.perm_insertionSort (fun left right : AnchorRef =>
    left.revision ≤ right.revision) (rows.map revisionOf)).trans perm
  apply sorted.eq_of_pairwise
  · intro left right leftMem rightMem below above
    exact List.inj_on_of_nodup_map distinct (sorted.subset leftMem) rightMem
      (le_antisymm below above)
  · have total : Std.Total fun left right : AnchorRef => left.revision ≤ right.revision :=
      ⟨fun left right => le_total left.revision right.revision⟩
    have transitive : IsTrans AnchorRef fun left right => left.revision ≤ right.revision :=
      ⟨fun _ _ _ below above => le_trans below above⟩
    exact List.pairwise_insertionSort _ _
  · exact increasing.imp le_of_lt

variable (rt repo operations) in
/-- `refs` was the whole chain at some moment since `seen`. -/
def Listed (seen refs : List (Ref Client)) (store : Store Client) : Prop :=
  seen <+: refs ∧ refs <+: store.refs ∧ (refs = [] ∨ ∃ state previous,
    Linked rt repo operations store.objects refs state previous)

theorem stable_listed : Stable (provider rt repo operations) client
      (Listed rt repo operations seen refs) := by
  rintro store later ⟨⟨more, laterRefs, _⟩, extends_⟩ _ ⟨since, upTo, linked⟩
  refine ⟨since, ?_, ?_⟩
  · rw [laterRefs]
    exact upTo.trans (List.prefix_append _ _)
  · rcases linked with none_ | ⟨state, previous, linked⟩
    · exact Or.inl none_
    · exact Or.inr ⟨state, previous, linked.mono extends_⟩

theorem Listed.named {index : Nat}
    {ref : Ref Client} (listed : Listed rt repo operations seen refs store)
    (found : refs[index]? = some ref) :
    ref.tag = anchorTag (1 + index) ∧ 1 + index ≤ 999999999 := by
  obtain ⟨_, _, none_ | ⟨state, previous, linked⟩⟩ := listed
  · rw [none_] at found
    cases found
  · rw [Nat.add_comm]
    exact linked.tag found

theorem triple_matchingRefs (stable : Stable (provider rt repo operations) client before)
    (grown : ∀ store, before store → Grown seen store) :
    Triple (provider rt repo operations) client before matchingRefs
      (fun store anchors => ∃ refs, (before store ∧
        Listed rt repo operations seen refs store) ∧ anchors = anchorRefs 1 refs)
      (fun store error => before store ∧ error.Plain) := by
  let fact := fun (rows : Value .matchingTagRefs) (store : Store Client) =>
    ∃ refs, List.Perm rows (refs.map Ref.row) ∧ Listed rt repo operations seen refs store
  have factStable : ∀ rows, Stable (provider rt repo operations) client (fact rows) := by
    rintro rows store later moved kept ⟨refs, perm, listed⟩
    exact ⟨refs, perm, stable_listed store later moved kept listed⟩
  unfold matchingRefs
  apply Triple.bind (triple_ask stable factStable ?_)
  · intro (rows : List RefRow)
    have knownStable := stable.and (factStable rows)
    apply Triple.ofExcept_bind knownStable
    · exact fun error raised _ _ known => ⟨known.1, plain_parseRefs [] rows error raised⟩
    intro parsed done
    refine Triple.pure knownStable ?_
    rintro store _ ⟨known, refs, perm, listed⟩
    refine ⟨refs, ⟨known, listed⟩, ?_⟩
    rw [parseRefs_eq_ok done]
    exact insertionSort_eq_anchorRefs perm fun index ref found => listed.named found
  · rintro store after answer kept known ⟨rfl, listing⟩
    exact ⟨rfl, fun rows ran => ⟨_, listing rows ran, grown _ known, List.prefix_refl _,
      kept.linked⟩⟩

/-- What the loop over the refs returns: the event of the last one, if any. -/
def LastRead (latest result : Option Registry × Option String) :
    List AnchorRef → Store Client → Prop
  | [], _ => result = latest
  | [ref], store => ∃ event, Stored ref.row.sha event store ∧
      result = (some event.registry, some ref.row.sha)
  | _ :: next :: rest, store => LastRead latest result (next :: rest) store

theorem LastRead.of_cons {other : Option Registry × Option String} {ref : AnchorRef}
    {rest : List AnchorRef} (last : LastRead latest result (ref :: rest) store) :
    LastRead other result (ref :: rest) store := by
  induction rest generalizing ref with
  | nil => exact last
  | cons next rest ih => exact ih last

theorem triple_readChain {gap : Int → Int → StoreError} (plainGap : ∀ expected actual,
      (gap expected actual).Plain) {expected : Int} {refs : List AnchorRef}
    (stable : Stable (provider rt repo operations) client before) :
    Triple (provider rt repo operations) client before (readChain rt repo gap expected latest refs)
      (fun store result => before store ∧ LastRead latest result refs store)
      (fun store error => before store ∧ error.Plain) := by
  induction refs generalizing expected latest before with
  | nil => exact Triple.done stable fun _ _ known => ⟨known, rfl⟩
  | cons ref rest ih =>
      rw [readChain]
      apply Triple.check stable
      · exact fun _ _ _ known => ⟨known, plainGap _ _⟩
      intro _
      apply Triple.bind (observes_readAnchor ref.revision ref.row before stable)
      intro anchor
      have knownStable : Stable (provider rt repo operations) client fun store =>
          before store ∧ Stored ref.row.sha anchor.event store ∧
            anchor.tagObjectSha = ref.row.sha :=
        stable.and (stable_stored.and fun _ _ _ _ same => same)
      apply Triple.check knownStable
      · exact fun _ _ _ known => ⟨known.1, plain_valueError (by decide)⟩
      intro _
      apply (ih knownStable).strengthen
      · rintro store result _ ⟨⟨known, stored, sha⟩, last⟩
        refine ⟨known, ?_⟩
        cases rest with
        | nil =>
            rw [sha] at last
            exact ⟨anchor.event, stored, last⟩
        | cons next rest => exact LastRead.of_cons last
      · exact fun _ _ _ raised => ⟨raised.1.1, raised.2⟩

theorem anchorRefs_eq_nil_iff : anchorRefs first refs = [] ↔ refs = [] := by
  cases refs with
  | nil => simp [anchorRefs]
  | cons ref rest => simp [anchorRefs]

theorem LastRead.anchorRefs {init : List (Ref Client)} {ref : Ref Client}
    (last : LastRead latest result (LeaseStore.anchorRefs first (init ++ [ref])) store) :
    ∃ event, Stored ref.sha event store ∧ result = (some event.registry, some ref.sha) := by
  induction init generalizing first with
  | nil => exact last
  | cons head rest ih =>
      apply ih
      cases rest with
      | nil => exact last
      | cons next rest => exact last

/-- The loop over a whole chain ends with its state and its anchor. -/
theorem snapshot_of_lastRead {state : Registry} (listed : Listed rt repo operations seen refs store)
    (last : LastRead (none, none) result (anchorRefs 1 refs) store) (ran : result.1 = some state) :
    Snapshot rt repo operations seen state result.2 store := by
  obtain ⟨since, upTo, none_ | ⟨final, previous, linked⟩⟩ := listed
  · subst none_
    rw [last] at ran
    cases ran
  · refine ⟨refs, since, upTo, ?_⟩
    rcases List.eq_nil_or_concat' refs with rfl | ⟨init, ref, rfl⟩
    · rw [last] at ran
      cases ran
    · obtain ⟨event, ⟨object, stored, message⟩, result_eq⟩ := last.anchorRefs
      obtain ⟨_, before, _, _, _, _, _, _, anchored, previous_eq⟩ := linked.concat
      rw [anchored] at stored
      cases stored
      cases message
      rw [result_eq] at ran ⊢
      cases ran
      rw [← previous_eq]
      exact linked

theorem triple_readListed {gap : Int → Int → StoreError} (plainGap : ∀ expected actual,
      (gap expected actual).Plain) (stable : Stable (provider rt repo operations) client before) :
    Triple (provider rt repo operations) client
      (fun store => before store ∧ Listed rt repo operations seen refs store)
      (readChain rt repo gap 1 (none, none) (anchorRefs 1 refs))
      (fun store result => before store ∧ ∀ state, result.1 = some state →
        Snapshot rt repo operations seen state result.2 store)
      (fun store error => before store ∧ error.Plain) := by
  apply Triple.strengthen (triple_readChain plainGap (stable.and stable_listed))
  · rintro store result _ ⟨⟨known, listed⟩, last⟩
    exact ⟨known, fun state => snapshot_of_lastRead listed last⟩
  · exact fun store error _ raised => ⟨raised.1.1, raised.2⟩

theorem raiseValue_eq_ok_iff {α : Type} {result : LeaseRegistry.Result α} {value : α} :
    raiseValue result = .ok value ↔ result = .ok value := by
  cases result <;> simp [raiseValue, Except.mapError]

theorem plain_sequenceGap (expected actual : Int) : (sequenceGap expected actual).Plain :=
  plain_listing (by decide)

/-- `read` returns the end of the chain at some moment since `seen`. -/
theorem triple_read (binding : Binding)
    (stable : Stable (provider rt repo operations) client before)
    (grown : ∀ store, before store → Grown seen store) :
    Triple (provider rt repo operations) client before (read rt repo binding)
      (fun store result => before store ∧ Snapshot rt repo operations seen result.1 result.2 store)
      (fun store _ => before store) := by
  unfold read
  apply (observes_requireMain _).andThen stable fun _ _ known _ => known
  intro _
  apply observes_requireAnchorRuleset.andThen stable fun _ _ known _ => known
  intro _
  apply Triple.bind ((triple_matchingRefs stable grown).raising fun _ _ _ raised => raised.1)
  intro anchors
  apply Triple.ofExists
  intro refs
  apply Triple.assume
  rintro rfl
  have listedStable : Stable (provider rt repo operations) client fun store =>
      before store ∧ Listed rt repo operations seen refs store := stable.and stable_listed
  split_ifs with none_
  · rw [anchorRefs_eq_nil_iff] at none_
    apply (observes_requireMain _).andThen listedStable fun _ _ known _ => known.1
    intro _
    apply Triple.ofExcept_bind listedStable
    · exact fun _ _ _ _ known => known.1
    intro empty created
    refine Triple.pure listedStable ?_
    rintro store _ ⟨known, since, upTo, _⟩
    refine ⟨known, refs, since, upTo, ?_⟩
    rw [none_]
    exact Linked.start (raiseValue_eq_ok_iff.mp created)
  · apply Triple.bind ((triple_readListed plain_sequenceGap stable).raising
      fun _ _ _ raised => raised.1)
    intro latest
    have latestStable : Stable (provider rt repo operations) client fun store =>
        before store ∧ ∀ state, latest.1 = some state →
          Snapshot rt repo operations seen state latest.2 store :=
      stable.and fun store later moved kept known state ran =>
        stable_snapshot store later moved kept (known state ran)
    apply (observes_requireMain _).andThen latestStable fun _ _ known _ => known.1
    intro _
    split
    · exact Triple.fail latestStable fun _ _ known => known.1
    · rename_i state ran
      apply Triple.check latestStable
      · exact fun _ _ _ known => known.1
      intro _
      exact Triple.pure latestStable fun _ _ known => ⟨known.1, known.2 state ran⟩

end Provider

end Adwf.LeaseStore
