import Adwf.RuntimeLedger.Safety

/-!
# One client alone

What a read and an append do when nobody else calls and no call fails.
-/

namespace Adwf.RuntimeLedger

open Adwf.Fallible Adwf.Program Json
open LeaseStore (RefRow verifyRuntimeAnchorRuleset leaseAnchorPrefix)

universe u

variable {Client : Type u} [DecidableEq Client]
variable {rt : Runtime} {validateCheckpoint : CheckpointCheck} {repository : Repository}
variable {client : Client} {hub after : Hub Client} {α : Type}

/-! ## Calls -/

theorem execute_ask_iff {call : Call} {value : Value call} :
    (ask call).execute (Hub.serve repository client) hub = (after, .done value) ↔
      hub.serve repository client call = (after, .ok value) := by
  unfold ask Program.invoke
  simp only [execute]
  generalize hub.serve repository client call = served
  obtain ⟨store, answer⟩ := served
  cases answer with
  | error error => simp [Program.ofExcept, execute]
  | ok other => simp [Program.ofExcept, execute]

theorem execute_of_refused {call : Call} {next : Value call → LedgerProgram α}
    {error : LedgerError} (refused : hub.serve repository client call = (after, .error error)) :
    (ask call >>= next).execute (Hub.serve repository client) hub = (after, .fail error) := by
  change execute _ (Program.ofExcept (hub.serve repository client call).2 >>= next)
    (hub.serve repository client call).1 = _
  rw [refused]
  rfl

variable {value : α} {number : Nat} {name : String} {event : RemoteEvent} {issue : IssueRow}

theorem execute_computed_iff {result : Except String α} :
    (computed result).execute (Hub.serve repository client) hub = (after, .done value) ↔
      hub = after ∧ result = .ok value := by
  cases result with
  | error text => simp [computed, Except.mapError, Program.ofExcept, execute]
  | ok other => simp [computed, Except.mapError, Program.ofExcept, execute]

theorem execute_ensure_iff {condition : Prop} [Decidable condition] {text : String}
    {value : PUnit} :
    (ensure condition text).execute (Hub.serve repository client) hub = (after, .done value) ↔
      hub = after ∧ condition :=
  execute_check_iff

theorem execute_raise_iff {text : String} :
    (raise text).execute (Hub.serve repository client) hub = (after, .done value) ↔ False :=
  execute_fail_iff

theorem execute_return_iff {result : α} :
    (pure result : LedgerProgram α).execute (Hub.serve repository client) hub =
      (after, .done value) ↔ hub = after ∧ result = value :=
  execute_done_iff

theorem execute_verified :
    anchorRulesVerified.execute (Hub.serve repository client) hub = (hub, .done true) := by
  unfold anchorRulesVerified
  apply execute_handle_eq_done_iff.mpr
  left
  apply execute_bind_eq_done_iff.mpr
  refine ⟨hub, repository.rulesets, execute_ask_iff.mpr rfl, ?_⟩
  apply execute_return_iff.mpr
  rw [repository.rulesets_verified]
  exact ⟨rfl, rfl⟩

theorem execute_mainHead :
    mainHead.execute (Hub.serve repository client) hub = (hub, .done repository.head) := by
  unfold mainHead
  apply execute_bind_eq_done_iff.mpr
  exact ⟨hub, repository.defaultBranch, execute_ask_iff.mpr rfl, execute_ask_iff.mpr rfl⟩

/-! ## The ledger issue -/

theorem execute_optionalTagRef (tag : String) :
    (optionalTagRef tag).execute (Hub.serve repository client) hub =
      (hub, .done (hub.findTag repository tag)) := by
  unfold optionalTagRef
  apply execute_handle_eq_done_iff.mpr
  cases found : hub.findTag repository tag with
  | some ref =>
      left
      apply execute_bind_eq_done_iff.mpr
      refine ⟨hub, ref, execute_ask_iff.mpr ?_, rfl⟩
      simp [Hub.serve, found]
  | none =>
      right
      refine ⟨hub, .provider "PROVIDER_HTTP_404", ?_, ?_⟩
      · apply execute_of_refused
        simp [Hub.serve, found]
      · rw [if_pos rfl]
        rfl

theorem rootNumber_rootMessage_eq (positive : 1 ≤ number) :
    rootNumber (rootMessage number) = some number := by
  have bound : (1 : Rat) ≤ number := by exact_mod_cast positive
  simp [rootNumber, rootMessage, get_cons, bound]

theorem execute_rootIssue_unelected (absent : hub.findTag repository rootAnchor = none) :
    rootIssue.execute (Hub.serve repository client) hub = (hub, .done none) := by
  unfold rootIssue
  apply execute_bind_eq_done_iff.mpr
  refine ⟨hub, none, ?_, rfl⟩
  rw [execute_optionalTagRef, absent]

omit [DecidableEq Client] in
theorem rootIs_of_findTag (law : HubLaw rt validateCheckpoint hub) {ref : RefRow}
    (found : hub.findTag repository rootAnchor = some ref) :
    ref.sha ≠ "" ∧ ∃ number, hub.RootIs number ∧
      hub.objects ref.sha = some (rootMessage number) := by
  obtain ⟨named, tag, tagIn, rfl⟩ := mem_tags_of_findTag (by decide) found
  obtain ⟨sha_ne, number, object, _⟩ := law.root tag tagIn named
  exact ⟨sha_ne, number, ⟨tag, tagIn, named, object⟩, object⟩

omit [DecidableEq Client] in
theorem unelected_of_findTag (absent : hub.findTag repository rootAnchor = none) (number : Nat) :
    ¬hub.RootIs number := by
  rintro ⟨tag, tagIn, named, _⟩
  exact ne_of_findTag absent tag tagIn named

theorem execute_boundIssue (isOpen : hub.issues number = some (ledgerTitle, true)) :
    (boundIssue number).execute (Hub.serve repository client) hub =
      (hub, .done ⟨number, ledgerTitle, true⟩) := by
  unfold boundIssue
  apply execute_bind_eq_done_iff.mpr
  refine ⟨hub, ⟨number, ledgerTitle, true⟩, ?_, ?_⟩
  · apply execute_handle_eq_done_iff.mpr
    left
    apply execute_ask_iff.mpr
    simp [Hub.serve, Hub.row, isOpen]
  · apply execute_bind_eq_done_iff.mpr
    exact ⟨hub, ⟨⟩, execute_ensure_iff.mpr ⟨rfl, rfl, rfl, rfl⟩, rfl⟩

variable (client) in
theorem execute_rootIssue (law : HubLaw rt validateCheckpoint hub) {ref : RefRow}
    (found : hub.findTag repository rootAnchor = some ref) :
    ∃ number, hub.RootIs number ∧ rootIssue.execute (Hub.serve repository client) hub =
      (hub, .done (some ⟨number, ledgerTitle, true⟩)) := by
  obtain ⟨sha_ne, number, root, object⟩ := rootIs_of_findTag law found
  have isOpen := law.root_open root
  have positive := (law.issues number _ isOpen).1
  refine ⟨number, root, ?_⟩
  have bound : (rootIssueOf ref).execute (Hub.serve repository client) hub =
      (hub, .done ⟨number, ledgerTitle, true⟩) := by
    unfold rootIssueOf
    apply execute_bind_eq_done_iff.mpr
    refine ⟨hub, ⟨⟩, execute_ensure_iff.mpr ⟨rfl, sha_ne⟩, ?_⟩
    apply execute_bind_eq_done_iff.mpr
    refine ⟨hub, some (rootMessage number), ?_, ?_⟩
    · apply execute_handle_eq_done_iff.mpr
      left
      apply execute_ask_iff.mpr
      simp [Hub.serve, object]
    · simp only [rootNumber_rootMessage_eq positive]
      exact execute_boundIssue isOpen
  unfold rootIssue
  apply execute_bind_eq_done_iff.mpr
  refine ⟨hub, some ref, ?_, ?_⟩
  · rw [execute_optionalTagRef, found]
  · apply execute_bind_eq_done_iff.mpr
    exact ⟨hub, _, bound, rfl⟩

theorem execute_openLedgerIssues_iff {found : List IssueRow} :
    openLedgerIssues.execute (Hub.serve repository client) hub = (after, .done found) ↔
      after = hub ∧ (hub.rows repository).length ≤ 1000 ∧
        found = (hub.rows repository).filter fun row => row.title = ledgerTitle && row.isOpen := by
  constructor
  · intro ended
    obtain ⟨middle, rows, asked, ran⟩ := execute_bind_eq_done_iff.mp ended
    obtain ⟨rfl, rfl⟩ := execute_return_iff.mp ran
    obtain ⟨same, listed⟩ := Prod.mk.inj (execute_ask_iff.mp asked)
    obtain ⟨short, rfl⟩ := paged_eq_ok_iff.mp listed
    exact ⟨same.symm, short, rfl⟩
  · rintro ⟨rfl, short, rfl⟩
    apply execute_bind_eq_done_iff.mpr
    refine ⟨after, after.rows repository, execute_ask_iff.mpr ?_, rfl⟩
    exact Prod.ext rfl (paged_eq_ok_iff.mpr ⟨short, rfl⟩)

/-! ## The anchors -/

theorem mem_upsert {entries : List (String × RemoteEvent)}
    {entry : String × RemoteEvent} (entryIn : entry ∈ upsert name event entries) :
    entry = (name, event) ∨ entry ∈ entries := by
  induction entries with
  | nil => exact .inl (List.mem_singleton.mp entryIn)
  | cons first rest ih =>
      unfold upsert at entryIn
      split_ifs at entryIn
      · rcases List.mem_cons.mp entryIn with same | later
        · exact .inl same
        · exact .inr (List.mem_cons_of_mem _ later)
      · rcases List.mem_cons.mp entryIn with same | later
        · exact .inr (same ▸ List.mem_cons_self ..)
        · exact (ih later).imp_right (List.mem_cons_of_mem _)

theorem keys_upsert (name : String) (event : RemoteEvent) (entries : List (String × RemoteEvent)) :
    name ∈ (upsert name event entries).map Prod.fst ∧
      ∀ key ∈ entries.map Prod.fst, key ∈ (upsert name event entries).map Prod.fst := by
  induction entries with
  | nil => simp [upsert]
  | cons first rest ih =>
      unfold upsert
      split_ifs with same
      · simp [same]
      · simp only [List.map_cons, List.mem_cons]
        refine ⟨.inr ih.1, ?_⟩
        rintro key (here | later)
        · exact .inl here
        · exact .inr (ih.2 key later)

theorem expectedAnchors_ok {events : List RemoteEvent}
    (named : ∀ event ∈ events, ∃ name, tagName rt event.members = .ok name)
    (start : List (String × RemoteEvent)) :
    ∃ expected, expectedAnchors rt start events = .ok expected ∧
      (∀ entry ∈ expected, entry ∈ start ∨
        entry.2 ∈ events ∧ tagName rt entry.2.members = .ok entry.1) ∧
      (∀ key ∈ start.map Prod.fst, key ∈ expected.map Prod.fst) ∧
      ∀ event ∈ events, ∀ name, tagName rt event.members = .ok name →
        name ∈ expected.map Prod.fst := by
  induction events generalizing start with
  | nil => exact ⟨start, rfl, fun _ => .inl, fun _ => id, nofun⟩
  | cons event rest ih =>
      obtain ⟨name, naming⟩ := named event (List.mem_cons_self ..)
      obtain ⟨expected, computed, entries, kept, complete⟩ :=
        ih (fun other later => named other (List.mem_cons_of_mem _ later)) (upsert name event start)
      obtain ⟨fresh, old⟩ := keys_upsert name event start
      refine ⟨expected, ?_, ?_, fun key keyIn => kept key (old key keyIn), ?_⟩
      · unfold expectedAnchors
        rw [naming]
        exact computed
      · intro entry entryIn
        rcases entries entry entryIn with updated | later
        · rcases mem_upsert updated with rfl | earlier
          · exact .inr ⟨List.mem_cons_self .., naming⟩
          · exact .inl earlier
        · exact .inr ⟨List.mem_cons_of_mem _ later.1, later.2⟩
      · intro other otherIn otherName otherNaming
        rcases List.mem_cons.mp otherIn with rfl | later
        · cases naming.symm.trans otherNaming
          exact kept name fresh
        · exact complete other later otherName otherNaming

theorem execute_verifyAnchors {refs : List RefRow} {expected : List (String × RemoteEvent)}
    (there : ∀ entry ∈ expected, ∃ ref message, refs.find? (·.name = entry.1) = some ref ∧
      ref.sha ≠ "" ∧ hub.objects ref.sha = some message ∧
        bindingErrors rt entry.1 entry.2 (some message) = []) :
    (verifyAnchors rt refs expected).execute (Hub.serve repository client) hub =
      (hub, .done []) := by
  induction expected with
  | nil => rfl
  | cons entry rest ih =>
      obtain ⟨name, event⟩ := entry
      obtain ⟨ref, message, found, sha_ne, object, binds⟩ := there _ (List.mem_cons_self ..)
      have later := ih fun other otherIn => there other (List.mem_cons_of_mem _ otherIn)
      unfold verifyAnchors
      simp only [found, if_neg sha_ne]
      apply execute_bind_eq_done_iff.mpr
      refine ⟨hub, some message, ?_, ?_⟩
      · apply execute_handle_eq_done_iff.mpr
        left
        apply execute_ask_iff.mpr
        simp [Hub.serve, object]
      · apply execute_bind_eq_done_iff.mpr
        refine ⟨hub, [], later, ?_⟩
        rw [binds]
        rfl

theorem execute_anchorRefs_iff {refs : List RefRow} :
    anchorRefs.execute (Hub.serve repository client) hub = (after, .done refs) ↔
      after = hub ∧ (hub.anchorRows repository).length ≤ 1000 ∧
        refs = (hub.anchorRows repository).filter fun row =>
          Text.startsWith row.name anchorPrefix && row.name ≠ rootAnchor &&
            !Text.startsWith row.name leaseAnchorPrefix := by
  constructor
  · intro ended
    obtain ⟨middle, rows, asked, ran⟩ := execute_bind_eq_done_iff.mp ended
    obtain ⟨rfl, rfl⟩ := execute_return_iff.mp ran
    obtain ⟨same, listed⟩ := Prod.mk.inj (execute_ask_iff.mp asked)
    obtain ⟨short, rfl⟩ := paged_eq_ok_iff.mp listed
    exact ⟨same.symm, short, rfl⟩
  · rintro ⟨rfl, short, rfl⟩
    apply execute_bind_eq_done_iff.mpr
    refine ⟨after, after.anchorRows repository, execute_ask_iff.mpr ?_, rfl⟩
    exact Prod.ext rfl (paged_eq_ok_iff.mpr ⟨short, rfl⟩)

omit [DecidableEq Client] in
theorem tag_of_anchorRow {row : RefRow}
    (listed : row ∈ (hub.anchorRows repository).filter fun row =>
      Text.startsWith row.name anchorPrefix && row.name ≠ rootAnchor &&
        !Text.startsWith row.name leaseAnchorPrefix) :
    row.name ≠ rootAnchor ∧ ∃ tag ∈ hub.tags, tag.ref = row := by
  obtain ⟨inRows, kept⟩ := List.mem_filter.mp listed
  simp only [Bool.and_eq_true, decide_eq_true_eq, Bool.not_eq_true'] at kept
  obtain ⟨⟨_, notRoot⟩, notLease⟩ := kept
  refine ⟨notRoot, ?_⟩
  rcases List.mem_append.mp inRows with ours | lease
  · exact List.mem_map.mp (List.mem_of_mem_filter ours)
  · rw [repository.leaseTags_name row lease] at notLease
    cases notLease

omit [DecidableEq Client] in
/-- The event of a position of the elected issue. -/
theorem posted_of_event (eventIn : event ∈ hub.eventsOf number) :
    ∃ posted ∈ hub.comments number, posted.comment.remoteEvent = some event := by
  obtain ⟨comment, commentIn, carried⟩ := List.mem_filterMap.mp eventIn
  obtain ⟨posted, postedIn, rfl⟩ := List.mem_map.mp commentIn
  exact ⟨posted, postedIn, carried⟩

omit [DecidableEq Client] in
theorem named_of_event (law : HubLaw rt validateCheckpoint hub) (eventIn : event ∈ hub.eventsOf number) :
    ∃ position, 1 + position < 10 ^ 6 ∧ tagName rt event.members =
      .ok (tagOf (1 + position) (rt.text (get event.members "event_hash"))) := by
  obtain ⟨posted, postedIn, carried⟩ := posted_of_event eventIn
  obtain ⟨position, found⟩ := List.mem_iff_getElem?.mp postedIn
  exact ⟨position, law.tagName_at found carried⟩

omit [DecidableEq Client] in
theorem anchor_found (law : HubLaw rt validateCheckpoint hub) (eventIn : event ∈ hub.eventsOf number)
    (named : tagName rt event.members = .ok name) (anchored : hub.IsAnchored rt event) :
    ∃ ref message, ((hub.anchorRows repository).filter fun row =>
        Text.startsWith row.name anchorPrefix && row.name ≠ rootAnchor &&
          !Text.startsWith row.name leaseAnchorPrefix).find? (·.name = name) = some ref ∧
      ref.sha ≠ "" ∧ hub.objects ref.sha = some message ∧
        bindingErrors rt name event (some message) = [] := by
  obtain ⟨position, small, tagged⟩ := named_of_event law eventIn
  obtain rfl := Except.ok.inj (named.symm.trans tagged)
  obtain ⟨tag, tagIn, tagNamed⟩ := anchored
  have tagName_eq := Except.ok.inj (tagNamed.symm.trans tagged)
  set refs := (hub.anchorRows repository).filter fun row =>
    Text.startsWith row.name anchorPrefix && row.name ≠ rootAnchor &&
      !Text.startsWith row.name leaseAnchorPrefix with refsEq
  have listed : tag.ref ∈ refs := by
    apply List.mem_filter.mpr
    have starts : Text.startsWith tag.ref.name anchorPrefix = true :=
      tagName_eq ▸ startsWith_tagOf _ _
    constructor
    · apply List.mem_append_left
      exact List.mem_filter.mpr ⟨List.mem_map_of_mem tagIn, starts⟩
    · rw [starts, tagName_eq, not_startsWith_tagOf small]
      simpa using tagOf_ne_rootAnchor small _
  cases search : refs.find? (·.name = tagOf (1 + position)
      (rt.text (get event.members "event_hash"))) with
  | none => exact absurd tagName_eq (by simpa using List.find?_eq_none.mp search _ listed)
  | some ref =>
      have refNamed := List.find?_some search
      simp only [decide_eq_true_eq] at refNamed
      obtain ⟨notRoot, other, otherIn, rfl⟩ := tag_of_anchorRow (List.mem_of_find?_eq_some search)
      obtain ⟨otherNumber, otherPosted, postedIn, anchors⟩ := law.anchors other otherIn notRoot
      obtain ⟨otherEvent, carried, otherNamed, message, object, binds⟩ := anchors.event
      obtain ⟨posted, ownIn, ownCarried⟩ := posted_of_event eventIn
      rw [refNamed] at otherNamed binds
      obtain rfl := law.posted_unique postedIn ownIn carried ownCarried otherNamed named
      obtain rfl := Option.some.inj (carried.symm.trans ownCarried)
      exact ⟨_, message, rfl, anchors.sha, object, binds⟩

theorem execute_verifyTagAnchors (law : HubLaw rt validateCheckpoint hub) (root : hub.RootIs number)
    (anchored : ∀ event ∈ hub.eventsOf number, hub.IsAnchored rt event)
    (short : (hub.anchorRows repository).length ≤ 1000) :
    (verifyTagAnchors rt (hub.eventsOf number)).execute (Hub.serve repository client) hub =
      (hub, .done []) := by
  have named : ∀ event ∈ hub.eventsOf number, ∃ name, tagName rt event.members = .ok name := by
    intro event eventIn
    obtain ⟨position, _, tagged⟩ := named_of_event law eventIn
    exact ⟨_, tagged⟩
  obtain ⟨expected, computed, entries, _, complete⟩ := expectedAnchors_ok named []
  unfold verifyTagAnchors
  apply execute_bind_eq_done_iff.mpr
  refine ⟨hub, _, execute_anchorRefs_iff.mpr ⟨rfl, short, rfl⟩, ?_⟩
  apply execute_bind_eq_done_iff.mpr
  refine ⟨hub, expected, execute_computed_iff.mpr ⟨rfl, computed⟩, ?_⟩
  apply execute_bind_eq_done_iff.mpr
  refine ⟨hub, [], execute_verifyAnchors ?_, ?_⟩
  · intro entry entryIn
    obtain ⟨eventIn, entryNamed⟩ := (entries entry entryIn).resolve_left List.not_mem_nil
    exact anchor_found law eventIn entryNamed (anchored _ eventIn)
  · apply execute_return_iff.mpr
    refine ⟨rfl, ?_⟩
    rw [List.append_nil, if_pos]
    rw [List.filter_eq_nil_iff]
    intro name nameIn
    obtain ⟨row, listed, rfl⟩ := List.mem_map.mp nameIn
    obtain ⟨notRoot, tag, tagIn, rfl⟩ := tag_of_anchorRow listed
    obtain ⟨other, posted, postedIn, anchors⟩ := law.anchors tag tagIn notRoot
    obtain ⟨event, carried, eventNamed, _⟩ := anchors.event
    obtain rfl := law.root_unique (law.onRoot other (List.ne_nil_of_mem postedIn)) root
    have eventIn : event ∈ hub.eventsOf other :=
      List.mem_filterMap.mpr ⟨posted.comment, List.mem_map_of_mem postedIn, carried⟩
    simpa using complete event eventIn _ eventNamed

variable (client) in
/-- The hub after the client has read the comments of an issue. -/
abbrev Hub.readBy (hub : Hub Client) (number : Nat) : Hub Client :=
  { hub with seen := Function.update hub.seen client (some (number, hub.texts number)) }

theorem execute_readIssueEvents (law : HubLaw rt validateCheckpoint hub)
    (few : (hub.comments issue.number).length ≤ 1000)
    (anchored : ∀ event ∈ hub.events, hub.IsAnchored rt event)
    (tagPages : hub.events ≠ [] → (hub.anchorRows repository).length ≤ 1000) :
    (readIssueEvents rt validateCheckpoint issue).execute (Hub.serve repository client) hub =
      (hub.readBy client issue.number, .done (hub.eventsOf issue.number)) := by
  have readerLaw : HubLaw rt validateCheckpoint (hub.readBy client issue.number) :=
    law.seen_updated
  apply execute_bind_eq_done_iff.mpr
  refine ⟨hub.readBy client issue.number, hub.texts issue.number, ?_, ?_⟩
  · apply execute_ask_iff.mpr
    exact Prod.ext rfl (paged_eq_ok_iff.mpr ⟨by simpa [Hub.texts] using few, rfl⟩)
  apply execute_bind_eq_done_iff.mpr
  refine ⟨_, [], execute_computed_iff.mpr ⟨rfl, law.verified issue.number⟩, ?_⟩
  apply execute_bind_eq_done_iff.mpr
  refine ⟨hub.readBy client issue.number, [], ?_, ?_⟩
  · unfold anchorErrorsOf
    split_ifs with empty
    · rfl
    · have root : hub.RootIs issue.number := by
        apply law.onRoot
        intro none
        exact empty (by simp [Hub.texts, none])
      have same : hub.events = hub.eventsOf issue.number := law.events_eq root
      apply execute_verifyTagAnchors readerLaw root
      · exact fun event eventIn => anchored event (same ▸ eventIn)
      · exact tagPages (same ▸ empty)
  · apply execute_bind_eq_done_iff.mpr
    refine ⟨_, true, execute_verified, ?_⟩
    apply execute_bind_eq_done_iff.mpr
    refine ⟨_, ⟨⟩, execute_ensure_iff.mpr ⟨rfl, ?_⟩, rfl⟩
    simp

theorem of_execute_readIssueEvents {events : List RemoteEvent}
    (ended : (readIssueEvents rt validateCheckpoint issue).execute
      (Hub.serve repository client) hub = (after, .done events)) :
    (hub.comments issue.number).length ≤ 1000 ∧ events = hub.eventsOf issue.number ∧
      (events ≠ [] → (hub.anchorRows repository).length ≤ 1000) := by
  obtain ⟨reader, comments, asked, continued⟩ := execute_bind_eq_done_iff.mp ended
  obtain ⟨rfl, listed⟩ := Prod.mk.inj (execute_ask_iff.mp asked)
  obtain ⟨few, rfl⟩ := paged_eq_ok_iff.mp listed
  obtain ⟨_, chainErrors, verified, anchors⟩ := execute_bind_eq_done_iff.mp continued
  obtain ⟨rfl, _⟩ := execute_computed_iff.mp verified
  obtain ⟨middle, anchorErrors, looked, rest⟩ := execute_bind_eq_done_iff.mp anchors
  obtain ⟨_, rules, _, checked⟩ := execute_bind_eq_done_iff.mp rest
  obtain ⟨_, _, _, ran⟩ := execute_bind_eq_done_iff.mp checked
  obtain ⟨_, rfl⟩ := execute_return_iff.mp ran
  refine ⟨by simpa [Hub.texts] using few, rfl, fun some => ?_⟩
  rw [anchorErrorsOf, if_neg some] at looked
  obtain ⟨_, refs, listed, _⟩ := execute_bind_eq_done_iff.mp looked
  exact (execute_anchorRefs_iff.mp listed).2.1

theorem execute_ledgerIssue_unelected_iff {found : Option IssueRow}
    (absent : hub.findTag repository rootAnchor = none) :
    ledgerIssue.execute (Hub.serve repository client) hub = (after, .done found) ↔
      after = hub ∧ (hub.rows repository).length ≤ 1000 ∧
        ((hub.rows repository).filter fun row => row.title = ledgerTitle && row.isOpen) =
          found.toList := by
  constructor
  · intro ended
    obtain ⟨middle, root, rooted, continued⟩ := execute_bind_eq_done_iff.mp ended
    rw [execute_rootIssue_unelected absent] at rooted
    cases rooted
    obtain ⟨middle, listed, opened, ran⟩ := execute_bind_eq_done_iff.mp continued
    obtain ⟨rfl, short, rfl⟩ := execute_openLedgerIssues_iff.mp opened
    generalize ((middle.rows repository).filter fun row =>
      row.title = ledgerTitle && row.isOpen) = rows at ran ⊢
    match rows with
    | [] | [_] =>
        obtain ⟨rfl, rfl⟩ := execute_return_iff.mp ran
        exact ⟨rfl, short, rfl⟩
    | _ :: _ :: _ => exact (execute_raise_iff.mp ran).elim
  · rintro ⟨rfl, short, rows⟩
    apply execute_bind_eq_done_iff.mpr
    refine ⟨after, none, execute_rootIssue_unelected absent, ?_⟩
    apply execute_bind_eq_done_iff.mpr
    refine ⟨after, found.toList, execute_openLedgerIssues_iff.mpr ⟨rfl, short, rows.symm⟩, ?_⟩
    cases found with
    | none => rfl
    | some issue => rfl

/-! ## The election -/

/-- The hub with one more tag object. -/
abbrev Hub.storing (hub : Hub Client) (message : Fields) : Hub Client :=
  { hub with
    objects := Function.update hub.objects (mark hub.nextObject) (some message)
    nextObject := hub.nextObject + 1 }

variable (client) in
/-- The hub with one more tag ref. -/
abbrev Hub.tagging (hub : Hub Client) (tag sha : String) : Hub Client :=
  { hub with tags := hub.tags ++ [⟨⟨tag, sha⟩, client⟩] }

theorem execute_createTagObject (tag sha : String) (message : Fields) :
    (ask (.createTagObject tag sha message)).execute (Hub.serve repository client) hub =
      (hub.storing message, .done (mark hub.nextObject)) :=
  execute_ask_iff.mpr rfl

theorem execute_createTagRef {tag : String} (sha : String)
    (absent : hub.findTag repository tag = none) :
    (ask (.createTagRef tag sha)).execute (Hub.serve repository client) hub =
      (hub.tagging client tag sha, .done (⟨tag, sha⟩ : RefRow)) := by
  apply execute_ask_iff.mpr
  simp only [Hub.serve, absent]

variable (client) in
theorem execute_electRoot (law : HubLaw rt validateCheckpoint hub) {candidate : IssueRow}
    (absent : hub.findTag repository rootAnchor = none)
    (isOpen : hub.issues candidate.number = some (ledgerTitle, true)) :
    ∃ after, (electRoot candidate).execute (Hub.serve repository client) hub =
        (after, .done candidate) ∧
      HubLaw rt validateCheckpoint after ∧ after.RootIs candidate.number ∧
        after.comments = hub.comments := by
  have fresh := ne_of_findTag absent
  have positive := (law.issues candidate.number _ isOpen).1
  have objectLaw : HubLaw rt validateCheckpoint
      (hub.storing (rootMessage candidate.number)) := law.createTagObject _
  have electedLaw : HubLaw rt validateCheckpoint
      ((hub.storing (rootMessage candidate.number)).tagging client rootAnchor
        (mark hub.nextObject)) :=
    objectLaw.createRoot fresh (mark_ne hub.nextObject) (Function.update_self ..) isOpen
  refine ⟨_, ?_, electedLaw, ?_, rfl⟩
  · apply execute_bind_eq_done_iff.mpr
    refine ⟨hub, true, execute_verified, ?_⟩
    apply execute_bind_eq_done_iff.mpr
    refine ⟨hub, ⟨⟩, execute_ensure_iff.mpr ⟨rfl, rfl⟩, ?_⟩
    apply execute_bind_eq_done_iff.mpr
    refine ⟨hub, repository.head, execute_mainHead, ?_⟩
    apply execute_bind_eq_done_iff.mpr
    refine ⟨hub, ⟨⟩, execute_ensure_iff.mpr ⟨rfl, repository.head_ne⟩, ?_⟩
    apply execute_bind_eq_done_iff.mpr
    refine ⟨hub, ⟨⟩, execute_ensure_iff.mpr ⟨rfl, positive⟩, ?_⟩
    apply execute_bind_eq_done_iff.mpr
    refine ⟨_, _, execute_createTagObject .., ?_⟩
    apply execute_bind_eq_done_iff.mpr
    refine ⟨_, ⟨⟩, execute_ensure_iff.mpr ⟨rfl, mark_ne _⟩, ?_⟩
    apply execute_handle_eq_done_iff.mpr
    left
    apply execute_bind_eq_done_iff.mpr
    refine ⟨_, _, execute_createTagRef _ absent, ?_⟩
    apply execute_bind_eq_done_iff.mpr
    exact ⟨_, ⟨⟩, execute_ensure_iff.mpr ⟨rfl, rfl⟩, rfl⟩
  · exact ⟨_, List.mem_append_right _ (List.mem_singleton_self _), rfl, Function.update_self ..⟩

variable (client) in
theorem execute_candidateIssue (law : HubLaw rt validateCheckpoint hub)
    (absent : hub.findTag repository rootAnchor = none)
    (short : (hub.rows repository).length ≤ 1000) (single : ((hub.rows repository).filter fun row =>
      row.title = ledgerTitle && row.isOpen).length ≤ 1) :
    ∃ after candidate, candidateIssue.execute (Hub.serve repository client) hub =
        (after, .done candidate) ∧
      HubLaw rt validateCheckpoint after ∧ after.findTag repository rootAnchor = none ∧
        after.issues candidate.1.number = some (ledgerTitle, true) ∧
          after.comments = hub.comments := by
  have opened : openLedgerIssues.execute (Hub.serve repository client) hub = (hub, .done _) :=
    execute_openLedgerIssues_iff.mpr ⟨rfl, short, rfl⟩
  match rows : ((hub.rows repository).filter fun row => row.title = ledgerTitle && row.isOpen) with
  | [] =>
      refine ⟨_, ⟨⟨hub.nextIssue, ledgerTitle, true⟩, true⟩, ?_, law.createIssue, absent,
        Function.update_self .., rfl⟩
      apply execute_bind_eq_done_iff.mpr
      refine ⟨_, _, opened, ?_⟩
      rw [rows]
      apply execute_bind_eq_done_iff.mpr
      exact ⟨_, _, execute_ask_iff.mpr rfl, rfl⟩
  | [candidate] =>
      refine ⟨hub, ⟨candidate, false⟩, ?_, law, absent, ?_, rfl⟩
      · apply execute_bind_eq_done_iff.mpr
        refine ⟨_, _, opened, ?_⟩
        rw [rows]
        rfl
      · apply candidate_of_listed
        rw [rows]
        exact List.mem_singleton_self _
  | _ :: _ :: _ =>
      rw [rows] at single
      simp at single

variable (client) in
theorem execute_ensureIssue (law : HubLaw rt validateCheckpoint hub)
    (readable : Readable repository rt hub) :
    ∃ after issue, ensureIssue.execute (Hub.serve repository client) hub = (after, .done issue) ∧
      HubLaw rt validateCheckpoint after ∧ after.RootIs issue.number ∧
        after.comments = hub.comments ∧ (hub.events = [] ∨ after = hub) := by
  cases found : hub.findTag repository rootAnchor with
  | some ref =>
      obtain ⟨number, root, rooted⟩ := execute_rootIssue client law found
      refine ⟨hub, ⟨number, ledgerTitle, true⟩, ?_, law, root, rfl, .inr rfl⟩
      apply execute_bind_eq_done_iff.mpr
      exact ⟨hub, _, rooted, rfl⟩
  | none =>
      have single := readable.elected.resolve_left (absurd found ·)
      obtain ⟨middle, candidate, chosen, middleLaw, absent, isOpen, sameComments⟩ :=
        execute_candidateIssue client law found (readable.issuePages found) single
      obtain ⟨after, elected, afterLaw, root, same⟩ :=
        execute_electRoot client middleLaw absent isOpen
      refine ⟨after, candidate.1, ?_, afterLaw, root, same.trans sameComments,
        .inl (law.events_unelected (unelected_of_findTag found))⟩
      apply execute_bind_eq_done_iff.mpr
      refine ⟨hub, none, execute_rootIssue_unelected found, ?_⟩
      apply execute_bind_eq_done_iff.mpr
      refine ⟨_, _, chosen, ?_⟩
      apply execute_bind_eq_done_iff.mpr
      refine ⟨_, _, elected, ?_⟩
      unfold settleCandidate
      rw [if_pos rfl]
      rfl

/-! ## Appending -/

/-- The hub with one more comment. -/
abbrev Hub.commenting (hub : Hub Client) (number : Nat) (comment : Comment) (client : Client) :
    Hub Client :=
  { hub with
    comments := Function.update hub.comments number (hub.comments number ++ [⟨comment, client⟩])
    nextComment := hub.nextComment + 1 }

omit [DecidableEq Client] in
theorem findTag_eq_none (notLease : Text.startsWith name leaseAnchorPrefix = false)
    (fresh : ∀ tag ∈ hub.tags, tag.ref.name ≠ name) : hub.findTag repository name = none := by
  apply List.find?_eq_none.mpr
  intro row rowIn
  rcases List.mem_append.mp rowIn with ours | lease
  · obtain ⟨tag, tagIn, rfl⟩ := List.mem_map.mp ours
    simpa using fresh tag tagIn
  · simp only [decide_eq_true_eq]
    rintro rfl
    rw [repository.leaseTags_name row lease] at notLease
    cases notLease

omit [DecidableEq Client] in
theorem eventsOf_commenting {comment : Comment} (carried : comment.remoteEvent = some event) :
    (hub.commenting number comment client).eventsOf number = hub.eventsOf number ++ [event] := by
  simp [Hub.eventsOf, Hub.texts, carried]

omit [DecidableEq Client] in
theorem law_anchored {checkpoint : Checkpoint} {id : String}
    (law : HubLaw rt validateCheckpoint hub) (events : List RemoteEvent)
    (posted : (⟨carrier repository checkpoint rt events id, client⟩ : Posted Client) ∈
      hub.comments number) (fresh : ∀ tag ∈ hub.tags, tag.ref.name ≠ checkpoint.tag rt events) :
    HubLaw rt validateCheckpoint ((hub.storing (checkpoint.anchorMessage rt events
        (carrier repository checkpoint rt events id))).tagging client
          (checkpoint.tag rt events) (mark hub.nextObject)) := by
  have stored := law.createTagObject (checkpoint.anchorMessage rt events
    (carrier repository checkpoint rt events id))
  have hash : get (checkpoint.event rt events) "event_hash" =
      .str (checkpoint.eventHash rt events) := by
    rw [get_event, if_pos rfl]
  have anchors : Anchors rt (hub.storing (checkpoint.anchorMessage rt events
      (carrier repository checkpoint rt events id)))
      ⟨⟨checkpoint.tag rt events, mark hub.nextObject⟩, client⟩
      ⟨carrier repository checkpoint rt events id, client⟩ := by
    refine ⟨rfl, mark_ne _, _, carrier_remoteEvent checkpoint events id,
      tagName_event checkpoint events, _, Function.update_self .., ?_⟩
    simp [bindingErrors, Checkpoint.anchorMessage, hash, carrier, Runtime.text]
  exact stored.createAnchor posted fresh anchors

variable (repository client) in
theorem execute_appendNext (law : HubLaw rt validateCheckpoint hub) {checkpoint : Checkpoint}
    (valid : checkpoint.Valid rt validateCheckpoint)
    (members : runMembers checkpoint.safeState = .ok ())
    (root : hub.RootIs issue.number) (few : (hub.comments issue.number).length ≤ 1000)
    (anchored : ∀ event ∈ hub.events, hub.IsAnchored rt event) :
    ∃ after event sha, (appendNext rt checkpoint issue (hub.eventsOf issue.number)).execute
        (Hub.serve repository client) hub = (after, .done (.appended issue.number event
          (checkpoint.tag rt (hub.eventsOf issue.number)) sha)) ∧
      event.members = checkpoint.event rt (hub.eventsOf issue.number) ∧
      after.events = hub.events ++ [event] ∧ (∀ event ∈ after.events, after.IsAnchored rt event) ∧
          HubLaw rt validateCheckpoint after := by
  set events := hub.eventsOf issue.number with eventsEq
  set comment := carrier repository checkpoint rt events (mark hub.nextComment)
    with commentEq
  have carried : comment.remoteEvent = some ⟨checkpoint.event rt events,
      mark hub.nextComment, repository.createdAt, repository.actor⟩ :=
    carrier_remoteEvent checkpoint events (mark hub.nextComment)
  have commentedLaw : HubLaw rt validateCheckpoint
      (hub.commenting issue.number comment client) :=
    law.addComment root few anchored (posted_carries client carried)
      (verified_next valid law issue.number hub.nextComment)
  have length : events.length = (hub.comments issue.number).length :=
    law.eventsOf_length issue.number
  have small : events.length + 1 < 10 ^ 6 := by omega
  have absent : hub.findTag repository (checkpoint.tag rt events) = none :=
    findTag_eq_none (not_startsWith_tagOf small _) (next_unanchored law checkpoint root)
  have appended : (((hub.commenting issue.number comment client).storing
      (checkpoint.anchorMessage rt events comment)).tagging client
        (checkpoint.tag rt events) (mark hub.nextObject)).events = hub.events ++
      [⟨checkpoint.event rt events, mark hub.nextComment, repository.createdAt,
        repository.actor⟩] := by
    rw [law.events_eq root, ← eventsEq, ← eventsOf_commenting carried]
    exact commentedLaw.events_eq root
  refine ⟨_, _, mark hub.nextObject, ?_, rfl, appended, ?_, ?_⟩
  · apply execute_bind_eq_done_iff.mpr
    refine ⟨_, ⟨⟩, execute_computed_iff.mpr ⟨rfl, members⟩, ?_⟩
    apply execute_bind_eq_done_iff.mpr
    refine ⟨_, true, execute_verified, ?_⟩
    apply execute_bind_eq_done_iff.mpr
    refine ⟨_, ⟨⟩, execute_ensure_iff.mpr ⟨rfl, rfl⟩, ?_⟩
    apply execute_bind_eq_done_iff.mpr
    refine ⟨_, comment, execute_ask_iff.mpr rfl, ?_⟩
    apply execute_bind_eq_done_iff.mpr
    refine ⟨_, ⟨⟩, execute_ensure_iff.mpr ⟨rfl, mark_ne _, repository.createdAt_ne,
      repository.actor_ne⟩, ?_⟩
    apply execute_bind_eq_done_iff.mpr
    refine ⟨_, _, execute_mainHead, ?_⟩
    apply execute_bind_eq_done_iff.mpr
    refine ⟨_, _, execute_createTagObject .., ?_⟩
    apply execute_bind_eq_done_iff.mpr
    refine ⟨_, ⟨⟩, execute_ensure_iff.mpr ⟨rfl, mark_ne _⟩, ?_⟩
    apply execute_bind_eq_done_iff.mpr
    refine ⟨_, _, execute_createTagRef _ absent, ?_⟩
    apply execute_bind_eq_done_iff.mpr
    exact ⟨_, ⟨⟩, execute_ensure_iff.mpr ⟨rfl, rfl⟩, rfl⟩
  · intro event eventIn
    rw [appended] at eventIn
    rcases List.mem_append.mp eventIn with earlier | latest
    · obtain ⟨tag, tagIn, named⟩ := anchored event earlier
      exact ⟨tag, List.mem_append_left _ tagIn, named⟩
    · obtain rfl := List.mem_singleton.mp latest
      exact ⟨_, List.mem_append_right _ (List.mem_singleton_self _), tagName_event checkpoint events⟩
  · apply law_anchored commentedLaw events
    · dsimp only
      rw [Function.update_self]
      exact List.mem_append_right _ (List.mem_singleton_self _)
    · exact next_unanchored law checkpoint root

variable (repository client hub) in
theorem execute_checkedRequest {request : AppendRequest} {safeState : Fields}
    (appendable : Appendable rt validateCheckpoint request safeState) :
    (checkedRequest rt validateCheckpoint request).execute (Hub.serve repository client) hub =
        (hub, .done (request.stored safeState)) ∧
      (request.stored safeState).Valid rt validateCheckpoint := by
  have publicValid := validateJournal_publicStateProjection appendable.valid appendable.projected
  constructor
  · apply execute_bind_eq_done_iff.mpr
    refine ⟨_, [], execute_computed_iff.mpr ⟨rfl, appendable.valid⟩, ?_⟩
    apply execute_bind_eq_done_iff.mpr
    refine ⟨_, ⟨⟩, execute_ensure_iff.mpr ⟨rfl, rfl⟩, ?_⟩
    apply execute_bind_eq_done_iff.mpr
    refine ⟨_, _, execute_computed_iff.mpr ⟨rfl, appendable.projected⟩, ?_⟩
    apply execute_bind_eq_done_iff.mpr
    refine ⟨_, [], execute_computed_iff.mpr ⟨rfl, publicValid⟩, ?_⟩
    apply execute_bind_eq_done_iff.mpr
    refine ⟨_, ⟨⟩, execute_ensure_iff.mpr ⟨rfl, rfl⟩, ?_⟩
    apply execute_bind_eq_done_iff.mpr
    refine ⟨hub, request.checkpoint, ?_, ?_⟩
    · cases given : request.checkpoint with
      | none => rfl
      | some checkpoint =>
          obtain ⟨⟨fields, rfl⟩, checked, _⟩ := appendable.checkpoint checkpoint given
          apply execute_bind_eq_done_iff.mpr
          exact ⟨_, ⟨⟩, execute_ensure_iff.mpr ⟨rfl, checked⟩, rfl⟩
    · cases given : request.checkpoint with
      | none =>
          apply execute_return_iff.mpr
          exact ⟨rfl, by rw [AppendRequest.stored, given]⟩
      | some checkpoint =>
          obtain ⟨_, _, bound⟩ := appendable.checkpoint checkpoint given
          apply execute_bind_eq_done_iff.mpr
          refine ⟨_, ⟨⟩, execute_ensure_iff.mpr ⟨rfl, bound⟩, ?_⟩
          apply execute_return_iff.mpr
          exact ⟨rfl, by rw [AppendRequest.stored, given]⟩
  · exact ⟨publicValid, appendable.checkpoint, request.workMemory, rfl⟩

theorem runMembers_publicStateProjection {state safeState : Fields}
    (projected : publicStateProjection rt state = .ok safeState) :
    runMembers safeState = runMembers state := by
  simp only [publicStateProjection, bind_ok_iff] at projected
  obtain ⟨blockers, _, sources, _, ⟨events, head⟩, _, ⟨⟩⟩ := projected
  have kept : ∀ name, name ∉ ["event_head", "events", "blockers"] →
      (put "event_head" head (put "events" (.arr events)
        (put "blockers" (.arr blockers) state))).lookup name = state.lookup name := by
    intro name other
    simp only [List.mem_cons, List.not_mem_nil, or_false, not_or] at other
    rw [lookup_put, if_neg other.1, lookup_put, if_neg other.2.1, lookup_put, if_neg other.2.2]
  unfold runMembers
  rw [kept "run_id" (by decide), kept "revision" (by decide)]

end Adwf.RuntimeLedger
