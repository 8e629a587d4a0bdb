import Adwf.RuntimeLedger.Chain

/-!
# What the ledger keeps

When comments are added one at a time, the ledger is at all times a verified chain
of events on the elected issue, anchored but for the last.
-/

namespace Adwf.RuntimeLedger

open Json Adwf.Program
open LeaseStore (RefRow leaseAnchorPrefix)

universe u

section Law

variable {Client : Type u}

namespace Hub

/-- The root tag binds the issue. -/
def RootIs (hub : Hub Client) (number : Nat) : Prop :=
  ∃ tag ∈ hub.tags, tag.ref.name = rootAnchor ∧
    hub.objects tag.ref.sha = some (rootMessage number)

/-- A comment carries an event whose tag ref has been created. -/
def PostedAnchored (rt : Runtime) (hub : Hub Client) (posted : Posted Client) : Prop :=
  ∃ event, posted.comment.remoteEvent = some event ∧ hub.IsAnchored rt event

end Hub

/-- A tag and its object are the anchor of a comment. -/
structure Anchors (rt : Runtime) (hub : Hub Client) (tag : Tag Client)
    (posted : Posted Client) : Prop where
  author : posted.author = tag.author
  sha : tag.ref.sha ≠ ""
  event : ∃ event, posted.comment.remoteEvent = some event ∧
    tagName rt event.members = .ok tag.ref.name ∧
      ∃ message, hub.objects tag.ref.sha = some message ∧
        bindingErrors rt tag.ref.name event (some message) = []

/-- The invariant of the ledger. -/
structure HubLaw (rt : Runtime) (validateCheckpoint : CheckpointCheck)
    (hub : Hub Client) : Prop where
  started : 1 ≤ hub.nextIssue
  issues : ∀ number issue, hub.issues number = some issue →
    1 ≤ number ∧ number < hub.nextIssue ∧ issue.1 = ledgerTitle
  unelected : (∀ number, ¬hub.RootIs number) → ∀ number issue,
    hub.issues number = some issue → issue.2 = true
  root : ∀ tag ∈ hub.tags, tag.ref.name = rootAnchor → tag.ref.sha ≠ "" ∧ ∃ number,
    hub.objects tag.ref.sha = some (rootMessage number) ∧
      hub.issues number = some (ledgerTitle, true)
  onRoot : ∀ number, hub.comments number ≠ [] → hub.RootIs number
  carries : ∀ number, ∀ posted ∈ hub.comments number, ∃ event,
    posted.comment.remoteEvent = some event
  verified : ∀ number,
    verifyRemoteEvents rt validateCheckpoint 1 .null .null (hub.eventsOf number) = .ok []
  short : ∀ number, (hub.comments number).length ≤ 1001
  names : (hub.tags.map fun tag => tag.ref.name).Nodup
  anchors : ∀ tag ∈ hub.tags, tag.ref.name ≠ rootAnchor → ∃ number, ∃ posted ∈ hub.comments number,
    Anchors rt hub tag posted
  earlier : ∀ number, ∀ posted ∈ (hub.comments number).dropLast, hub.PostedAnchored rt posted
  fresh : ∀ number, hub.nextObject ≤ number → hub.objects (mark number) = none

variable {rt : Runtime} {validateCheckpoint : CheckpointCheck} {hub : Hub Client}

theorem rootMessage_injective {left right : Nat} (same : rootMessage left = rootMessage right) :
    left = right := by
  simp only [rootMessage, List.cons.injEq, Prod.mk.injEq, Json.num.injEq, true_and] at same
  exact_mod_cast same.1

namespace HubLaw

theorem tag_unique (law : HubLaw rt validateCheckpoint hub) {left right : Tag Client}
    (leftIn : left ∈ hub.tags) (rightIn : right ∈ hub.tags)
    (same : left.ref.name = right.ref.name) : left = right :=
  List.inj_on_of_nodup_map law.names leftIn rightIn same

theorem root_unique (law : HubLaw rt validateCheckpoint hub) {left right : Nat}
    (leftRoot : hub.RootIs left) (rightRoot : hub.RootIs right) : left = right := by
  obtain ⟨leftTag, leftIn, leftName, leftObject⟩ := leftRoot
  obtain ⟨rightTag, rightIn, rightName, rightObject⟩ := rightRoot
  obtain rfl := law.tag_unique leftIn rightIn (leftName.trans rightName.symm)
  exact rootMessage_injective (Option.some.inj (leftObject.symm.trans rightObject))

variable {number : Nat} {posted : Posted Client} {event : RemoteEvent}

theorem root_open (law : HubLaw rt validateCheckpoint hub)
    (root : hub.RootIs number) : hub.issues number = some (ledgerTitle, true) := by
  obtain ⟨tag, tagIn, name, object⟩ := root
  obtain ⟨_, other, otherObject, isOpen⟩ := law.root tag tagIn name
  obtain rfl := rootMessage_injective (Option.some.inj (object.symm.trans otherObject))
  exact isOpen

theorem event_at (law : HubLaw rt validateCheckpoint hub) {position : Nat}
    (found : (hub.comments number)[position]? = some posted)
    (carried : posted.comment.remoteEvent = some event) :
    (hub.eventsOf number)[position]? = some event := by
  have carries := law.carries number
  unfold Hub.eventsOf Hub.texts
  generalize hub.comments number = comments at found carries
  induction comments generalizing position with
  | nil => cases found
  | cons first rest ih =>
      obtain ⟨firstEvent, firstCarried⟩ := carries first (List.mem_cons_self ..)
      rw [List.map_cons, List.filterMap_cons_some firstCarried]
      cases position with
      | zero =>
          cases found
          exact congrArg some (Option.some.inj (firstCarried.symm.trans carried))
      | succ position =>
          exact ih found fun posted later => carries posted (List.mem_cons_of_mem _ later)

theorem eventsOf_length (law : HubLaw rt validateCheckpoint hub) (number : Nat) :
    (hub.eventsOf number).length = (hub.comments number).length := by
  have carries := law.carries number
  unfold Hub.eventsOf Hub.texts
  generalize hub.comments number = comments at carries
  induction comments with
  | nil => rfl
  | cons first rest ih =>
      obtain ⟨firstEvent, firstCarried⟩ := carries first (List.mem_cons_self ..)
      rw [List.map_cons, List.filterMap_cons_some firstCarried, List.length_cons, List.length_cons,
        ih fun posted later => carries posted (List.mem_cons_of_mem _ later)]

theorem tagName_at (law : HubLaw rt validateCheckpoint hub) {position : Nat}
    (found : (hub.comments number)[position]? = some posted)
    (carried : posted.comment.remoteEvent = some event) :
    1 + position < 10 ^ 6 ∧ tagName rt event.members =
      .ok (tagOf (1 + position) (rt.text (get event.members "event_hash"))) := by
  have sequence := sequence_of_verified (law.verified number) (law.event_at found carried)
  refine ⟨?_, tagName_of_sequence sequence⟩
  have bound := law.short number
  obtain ⟨inside, _⟩ := List.getElem?_eq_some_iff.mp found
  omega

theorem tagName_ne_root (law : HubLaw rt validateCheckpoint hub) (postedIn : posted ∈ hub.comments number)
    (carried : posted.comment.remoteEvent = some event) {name : String}
    (named : tagName rt event.members = .ok name) : name ≠ rootAnchor := by
  obtain ⟨position, found⟩ := List.mem_iff_getElem?.mp postedIn
  obtain ⟨small, tag⟩ := law.tagName_at found carried
  rw [named] at tag
  cases tag
  exact tagOf_ne_rootAnchor small _

theorem posted_unique (law : HubLaw rt validateCheckpoint hub) {left right : Nat}
    {leftPosted rightPosted : Posted Client} {leftEvent rightEvent : RemoteEvent} {name : String}
    (leftIn : leftPosted ∈ hub.comments left) (rightIn : rightPosted ∈ hub.comments right)
    (leftCarried : leftPosted.comment.remoteEvent = some leftEvent)
    (rightCarried : rightPosted.comment.remoteEvent = some rightEvent)
    (leftNamed : tagName rt leftEvent.members = .ok name)
    (rightNamed : tagName rt rightEvent.members = .ok name) : leftPosted = rightPosted := by
  obtain rfl : left = right :=
    law.root_unique (law.onRoot left (List.ne_nil_of_mem leftIn))
      (law.onRoot right (List.ne_nil_of_mem rightIn))
  obtain ⟨leftPosition, leftFound⟩ := List.mem_iff_getElem?.mp leftIn
  obtain ⟨rightPosition, rightFound⟩ := List.mem_iff_getElem?.mp rightIn
  obtain ⟨leftSmall, leftTag⟩ := law.tagName_at leftFound leftCarried
  obtain ⟨rightSmall, rightTag⟩ := law.tagName_at rightFound rightCarried
  have sameTag := Except.ok.inj ((leftTag.symm.trans leftNamed).trans
    (rightNamed.symm.trans rightTag))
  have samePosition := tagOf_injective leftSmall rightSmall sameTag
  obtain rfl : leftPosition = rightPosition := by omega
  exact Option.some.inj (leftFound.symm.trans rightFound)

/-- The events are those of the elected issue. -/
theorem events_eq (law : HubLaw rt validateCheckpoint hub)
    (root : hub.RootIs number) : hub.events = hub.eventsOf number := by
  have others : ∀ other, other ≠ number → hub.eventsOf other = [] := by
    intro other different
    have empty : hub.comments other = [] := by
      by_contra posted
      exact different (law.root_unique (law.onRoot other posted) root)
    simp [Hub.eventsOf, Hub.texts, empty]
  have inside := (law.issues number _ (law.root_open root)).2.1
  unfold Hub.events
  have split : ∀ bound, (List.range bound).flatMap hub.eventsOf =
      if number < bound then hub.eventsOf number else [] := by
    intro bound
    induction bound with
    | zero => rfl
    | succ bound ih =>
        rw [List.range_succ, List.flatMap_append, ih, List.flatMap_singleton]
        by_cases same : bound = number
        · simp [same]
        · rw [others bound same, List.append_nil]
          exact if_congr (by omega) rfl rfl
  rw [split, if_pos inside]

/-- Before the election there are no events. -/
theorem events_unelected (law : HubLaw rt validateCheckpoint hub)
    (unelected : ∀ number, ¬hub.RootIs number) : hub.events = [] := by
  unfold Hub.events
  rw [List.flatMap_eq_nil_iff]
  intro number _
  have empty : hub.comments number = [] := by
    by_contra posted
    exact unelected number (law.onRoot number posted)
  simp [Hub.eventsOf, Hub.texts, empty]

theorem mem_events (law : HubLaw rt validateCheckpoint hub) (postedIn : posted ∈ hub.comments number)
    (carried : posted.comment.remoteEvent = some event) : event ∈ hub.events := by
  rw [law.events_eq (law.onRoot number (List.ne_nil_of_mem postedIn))]
  exact List.mem_filterMap.mpr ⟨posted.comment, List.mem_map_of_mem postedIn, carried⟩

end HubLaw

/-! ## Clients -/

section World

variable [DecidableEq Client] (repository : Repository)

/-- The moves of the others: what a client has seen, the election and the tag objects
stay, and a comment of the client whose event is not anchored stays the last. -/
structure OthersAct (rt : Runtime) (client : Client) (before after : Hub Client) : Prop where
  seen : after.seen client = before.seen client
  root : ∀ number, before.RootIs number → after.RootIs number
  objects : ∀ sha message, before.objects sha = some message → after.objects sha = some message
  issues : (∀ number, ¬after.RootIs number) → ∀ number issue,
    before.issues number = some issue → after.issues number = some issue
  waiting : ∀ number, ∀ posted ∈ before.comments number, posted.author = client →
    ¬before.PostedAnchored rt posted →
      after.comments number = before.comments number ∧ ¬after.PostedAnchored rt posted

variable (Client) in
/-- Clients of one ledger. -/
def ledgerWorld (rt : Runtime) (validateCheckpoint : CheckpointCheck)
    (rule : Client → Hub Client → Nat → Prop) : World Client (Hub Client) Call Answer where
  step := Serves repository rule
  inv := HubLaw rt validateCheckpoint
  rely := OthersAct rt
  rely_refl _ _ :=
    ⟨rfl, fun _ root => root, fun _ _ object => object, fun _ _ _ issue => issue,
      fun _ _ _ _ waits => ⟨rfl, waits⟩⟩
  rely_trans client first second third early late := by
    constructor
    · exact late.seen.trans early.seen
    · exact fun number root => late.root number (early.root number root)
    · exact fun sha message object => late.objects sha message (early.objects sha message object)
    · intro unelected number issue found
      have unelectedEarly : ∀ number, ¬second.RootIs number :=
        fun number root => unelected number (late.root number root)
      exact late.issues unelected number issue (early.issues unelectedEarly number issue found)
    · intro number posted postedIn author waits
      obtain ⟨sameEarly, waitsEarly⟩ := early.waiting number posted postedIn author waits
      rw [← sameEarly] at postedIn
      obtain ⟨sameLate, waitsLate⟩ := late.waiting number posted postedIn author waitsEarly
      exact ⟨sameLate.trans sameEarly, waitsLate⟩

variable {repository} {client : Client}

omit [DecidableEq Client] in
theorem othersAct_of_same {before after : Hub Client}
    (seen : after.seen client = before.seen client) (tags : after.tags = before.tags)
    (objects : after.objects = before.objects) (issues : after.issues = before.issues)
    (comments : after.comments = before.comments) : OthersAct rt client before after := by
  constructor
  · exact seen
  · intro number root
    rwa [Hub.RootIs, tags, objects]
  · exact fun sha message object => objects ▸ object
  · exact fun _ number issue found => issues ▸ found
  · intro number posted postedIn author waits
    refine ⟨by rw [comments], ?_⟩
    simpa only [Hub.PostedAnchored, Hub.IsAnchored, tags] using waits

theorem othersAct_closeIssue {actor : Client} {hub : Hub Client} {number : Nat}
    (afterLaw : HubLaw rt validateCheckpoint (hub.serve repository actor (.closeIssue number)).1) :
    OthersAct rt client hub (hub.serve repository actor (.closeIssue number)).1 := by
  cases found : hub.issues number with
  | none =>
      have same : (hub.serve repository actor (.closeIssue number)).1 = hub := by
        simp [Hub.serve, found]
      rw [same]
      exact othersAct_of_same rfl rfl rfl rfl rfl
  | some issue =>
      obtain ⟨title, isOpen⟩ := issue
      have closed : (hub.serve repository actor (.closeIssue number)).1 =
          { hub with issues := Function.update hub.issues number (some (title, false)) } := by
        simp [Hub.serve, found]
      rw [closed] at afterLaw ⊢
      refine ⟨rfl, fun _ root => root, fun _ _ object => object, ?_,
        fun _ _ _ _ waits => ⟨rfl, waits⟩⟩
      intro unelected other issue _
      exact absurd (afterLaw.unelected unelected number _ (Function.update_self ..))
        Bool.false_ne_true

theorem othersAct_createTagRef {actor : Client} {hub : Hub Client} {tag sha : String}
    (different : actor ≠ client) (afterLaw : HubLaw rt validateCheckpoint
      (hub.serve repository actor (.createTagRef tag sha)).1) :
    OthersAct rt client hub (hub.serve repository actor (.createTagRef tag sha)).1 := by
  cases found : hub.findTag repository tag with
  | some ref =>
      have same : (hub.serve repository actor (.createTagRef tag sha)).1 = hub := by
        simp [Hub.serve, found]
      rw [same]
      exact othersAct_of_same rfl rfl rfl rfl rfl
  | none =>
      have created : (hub.serve repository actor (.createTagRef tag sha)).1 =
          { hub with tags := hub.tags ++ [⟨⟨tag, sha⟩, actor⟩] } := by
        simp [Hub.serve, found]
      rw [created] at afterLaw ⊢
      refine ⟨rfl, ?_, fun _ _ object => object, fun _ _ _ found => found, ?_⟩
      · rintro number ⟨root, rootIn, name, object⟩
        exact ⟨root, List.mem_append_left _ rootIn, name, object⟩
      · intro number posted postedIn author waits
        refine ⟨rfl, ?_⟩
        rintro ⟨event, carried, anchor, anchorIn, named⟩
        rcases List.mem_append.mp anchorIn with earlier | latest
        · exact waits ⟨event, carried, anchor, earlier, named⟩
        · obtain rfl := List.mem_singleton.mp latest
          have notRoot := afterLaw.tagName_ne_root postedIn carried named
          obtain ⟨other, otherPosted, otherIn, anchors⟩ :=
            afterLaw.anchors _ anchorIn notRoot
          obtain ⟨otherEvent, otherCarried, otherNamed, _⟩ := anchors.event
          obtain rfl := afterLaw.posted_unique postedIn otherIn carried otherCarried named otherNamed
          exact different (anchors.author.symm.trans author)

theorem tolerated_ledgerWorld :
    Tolerated (ledgerWorld Client repository rt validateCheckpoint (Alone rt)) := by
  rintro actor other hub call after answer different law afterLaw
    (⟨rfl, _⟩ | ⟨rule, rfl, _⟩)
  · exact (ledgerWorld Client repository rt validateCheckpoint (Alone rt)).rely_refl _ _
  · cases call with
    | issueComments number =>
        exact othersAct_of_same (Function.update_of_ne different.symm ..) rfl rfl rfl rfl
    | createIssue title =>
        refine ⟨rfl, fun _ root => root, fun _ _ object => object, ?_,
          fun _ _ _ _ waits => ⟨rfl, waits⟩⟩
        intro _ number issue found
        have earlier : number < hub.nextIssue := (law.issues number issue found).2.1
        exact (Function.update_of_ne earlier.ne ..).trans found
    | closeIssue number => exact othersAct_closeIssue afterLaw
    | addIssueComment number body =>
        obtain ⟨_, anchored⟩ := rule number body rfl
        refine ⟨rfl, fun _ root => root, fun _ _ object => object, fun _ _ _ found => found, ?_⟩
        intro other posted postedIn _ waits
        obtain ⟨event, carried⟩ := law.carries other posted postedIn
        exact absurd ⟨event, carried, anchored event (law.mem_events postedIn carried)⟩ waits
    | createTagObject tag sha message =>
        have kept : ∀ sha found, hub.objects sha = some found →
            Function.update hub.objects (mark hub.nextObject) (some message) sha = some found := by
          intro sha found object
          have different : sha ≠ mark hub.nextObject := by
            rintro rfl
            rw [law.fresh _ le_rfl] at object
            cases object
          exact (Function.update_of_ne different ..).trans object
        refine ⟨rfl, ?_, kept, fun _ _ _ found => found, fun _ _ _ _ waits => ⟨rfl, waits⟩⟩
        rintro number ⟨root, rootIn, name, object⟩
        exact ⟨root, rootIn, name, kept _ _ object⟩
    | createTagRef tag sha => exact othersAct_createTagRef different afterLaw
    | _ => exact othersAct_of_same rfl rfl rfl rfl rfl

end World

end Law

end Adwf.RuntimeLedger
