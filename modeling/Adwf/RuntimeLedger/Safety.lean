import Adwf.RuntimeLedger.Effects

/-!
# Every append keeps the ledger

Step by step, a read or an append knows enough of the ledger for each of its calls to
keep the invariant, whatever the other clients do.
-/

namespace Adwf.RuntimeLedger

open Json Adwf.Program
open LeaseStore (RefRow leaseAnchorPrefix)

universe u

variable {Client : Type u} [DecidableEq Client]
variable {rt : Runtime} {validateCheckpoint : CheckpointCheck} {repository : Repository}
variable {client : Client} {α β : Type}

/-- The world in which every comment is added alone. -/
abbrev aloneWorld (Client : Type u) [DecidableEq Client] (repository : Repository)
    (rt : Runtime) (validateCheckpoint : CheckpointCheck) :
    World Client (Hub Client) Call Answer :=
  ledgerWorld Client repository rt validateCheckpoint (Alone rt)

/-- A property that the others keep. -/
abbrev Lasting (repository : Repository) (rt : Runtime)
    (validateCheckpoint : CheckpointCheck) (client : Client) (property : Hub Client → Prop) :
    Prop :=
  Stable (aloneWorld Client repository rt validateCheckpoint) client property

/-- The program keeps the invariant and returns with `returns`. -/
abbrev Keeps (repository : Repository) (rt : Runtime)
    (validateCheckpoint : CheckpointCheck) (client : Client) (before : Hub Client → Prop)
    (program : LedgerProgram α) (returns : Hub Client → α → Prop) : Prop :=
  Triple (aloneWorld Client repository rt validateCheckpoint) client before program returns
    fun _ _ => True

variable {before : Hub Client → Prop}

/-! ## Rules -/

theorem keeps_ask {call : Call} {returns : Hub Client → Value call → Prop}
    (lasting : Lasting repository rt validateCheckpoint client before) (returnsLast : ∀ value,
      Lasting repository rt validateCheckpoint client (returns · value))
    (effect : ∀ hub, HubLaw rt validateCheckpoint hub → before hub →
      (∀ number body, call = .addIssueComment number body → Alone rt client hub number) →
      HubLaw rt validateCheckpoint (hub.serve repository client call).1 ∧
        ∀ value, (hub.serve repository client call).2 = .ok value →
          returns (hub.serve repository client call).1 value) :
    Keeps repository rt validateCheckpoint client before (ask call) returns := by
  have stepped : ∀ hub after answer, HubLaw rt validateCheckpoint hub → before hub →
      Serves repository (Alone rt) client hub call after answer →
      HubLaw rt validateCheckpoint after ∧ ∀ value, answer = .ok value →
        returns after value := by
    rintro hub after answer law known (⟨rfl, error, _, rfl⟩ | ⟨rule, rfl, answered⟩)
    · refine ⟨law, ?_⟩
      rintro value ⟨⟩
    · obtain ⟨afterLaw, ran⟩ := effect hub law known rule
      refine ⟨afterLaw, fun value same => ?_⟩
      rcases answered with rfl | ⟨error, _, rfl⟩
      · exact ran value same
      · cases same
  apply Triple.ask lasting stepped
  intro answer
  cases answer with
  | error error =>
      constructor
      exact fun _ _ _ _ _ _ => trivial
  | ok value =>
      constructor
      rintro hub _ reached later moved law
      exact returnsLast value hub later moved law (reached value rfl)

/-- The calls that change nothing. -/
def IsQuery : Call → Prop
  | .issues | .getIssue _ | .rulesets | .matchingTagRefs | .tagRef _ | .tagObject _ | .repoInfo
  | .branch _ => True
  | _ => False

theorem serve_query {call : Call} (query : IsQuery call) (hub : Hub Client) :
    (hub.serve repository client call).1 = hub := by
  cases call <;> first | rfl | cases query

theorem keeps_queries {program : LedgerProgram α} (queries : program.Only IsQuery)
    (lasting : Lasting repository rt validateCheckpoint client before) :
    Keeps repository rt validateCheckpoint client before program fun hub _ => before hub := by
  apply (Triple.only queries lasting _).raising
  · exact fun _ _ _ _ => trivial
  · rintro call query hub after answer law known (⟨rfl, _⟩ | ⟨_, rfl, _⟩)
    · exact ⟨law, known⟩
    · rw [serve_query query]
      exact ⟨law, known⟩

variable {returns : Hub Client → α → Prop} {hub : Hub Client} {checkpoint : Checkpoint}

theorem keeps_ensure {condition : Prop} [Decidable condition] {text : String}
    {next : PUnit → LedgerProgram α}
    (lasting : Lasting repository rt validateCheckpoint client before)
    (passed : condition → Keeps repository rt validateCheckpoint client before (next ⟨⟩) returns) :
    Keeps repository rt validateCheckpoint client before (ensure condition text >>= next) returns :=
  Triple.check lasting (fun _ _ _ _ => trivial) passed

theorem keeps_raise {text : String} :
    Keeps repository rt validateCheckpoint client before (raise text) returns :=
  ⟨fun _ _ _ _ _ _ => trivial⟩

theorem keeps_fail {error : LedgerError} :
    Keeps repository rt validateCheckpoint client before (.fail error) returns :=
  ⟨fun _ _ _ _ _ _ => trivial⟩

theorem keeps_return {value : α} (lasting : Lasting repository rt validateCheckpoint client before)
    (holds : ∀ hub, before hub → returns hub value) :
    Keeps repository rt validateCheckpoint client before (pure value) returns :=
  Triple.pure lasting fun hub _ known => holds hub known

theorem keeps_any {program : LedgerProgram α}
    (keeps : Keeps repository rt validateCheckpoint client (fun _ => True) program returns) :
    Keeps repository rt validateCheckpoint client before program returns :=
  keeps.weaken fun _ _ _ => trivial

/-! ## What lasts -/

theorem lasting_true : Lasting repository rt validateCheckpoint client fun _ => True :=
  fun _ _ _ _ _ => trivial

theorem lasting_pure (fact : Prop) :
    Lasting repository rt validateCheckpoint client fun _ => fact :=
  fun _ _ _ _ holds => holds

theorem lasting_rootIs (number : Nat) :
    Lasting repository rt validateCheckpoint client fun hub => hub.RootIs number :=
  fun _ _ moved _ root => moved.root number root

theorem lasting_object (sha : String) (message : Fields) :
    Lasting repository rt validateCheckpoint client fun hub =>
      hub.objects sha = some message :=
  fun _ _ moved _ object => moved.objects sha message object

/-- The issue may be elected, or one has been. -/
def Candidate (hub : Hub Client) (number : Nat) : Prop :=
  (∃ root, hub.RootIs root) ∨ hub.issues number = some (ledgerTitle, true)

theorem lasting_candidate (number : Nat) :
    Lasting repository rt validateCheckpoint client (Candidate · number) := by
  rintro hub later moved _ (⟨root, elected⟩ | isOpen)
  · exact .inl ⟨root, moved.root root elected⟩
  · by_cases elected : ∃ root, later.RootIs root
    · exact .inl elected
    · exact .inr (moved.issues (not_exists.mp elected) number _ isOpen)

/-- The events the client has read last. -/
structure HasRead (client : Client) (number : Nat) (events : List RemoteEvent)
    (hub : Hub Client) : Prop where
  root : hub.RootIs number
  seen : ∃ comments, hub.seen client = some (number, comments) ∧ comments.length ≤ 1000 ∧
    events = comments.filterMap Comment.remoteEvent

theorem lasting_hasRead (number : Nat) (events : List RemoteEvent) :
    Lasting repository rt validateCheckpoint client (HasRead client number events) := by
  rintro hub later moved _ ⟨root, comments, seen, short, same⟩
  exact ⟨moved.root number root, comments, moved.seen.trans seen, short, same⟩

/-- The client's comment waits for its anchor. -/
structure Waiting (rt : Runtime) (client : Client) (number : Nat) (comment : Comment)
    (hub : Hub Client) : Prop where
  posted : ⟨comment, client⟩ ∈ hub.comments number
  unanchored : ¬hub.PostedAnchored rt ⟨comment, client⟩

theorem lasting_waiting (number : Nat) (comment : Comment) :
    Lasting repository rt validateCheckpoint client (Waiting rt client number comment) := by
  rintro hub later moved _ ⟨posted, unanchored⟩
  obtain ⟨same, still⟩ := moved.waiting number _ posted rfl unanchored
  exact ⟨same ▸ posted, still⟩

theorem lasting_exists {ι : Sort*} {property : ι → Hub Client → Prop}
    (lasting : ∀ item, Lasting repository rt validateCheckpoint client (property item)) :
    Lasting repository rt validateCheckpoint client fun hub => ∃ item, property item hub := by
  rintro hub later moved law ⟨item, holds⟩
  exact ⟨item, lasting item hub later moved law holds⟩

theorem lasting_forall {ι : Sort*} {property : ι → Hub Client → Prop}
    (lasting : ∀ item, Lasting repository rt validateCheckpoint client (property item)) :
    Lasting repository rt validateCheckpoint client fun hub => ∀ item, property item hub :=
  fun hub later moved law holds item => lasting item hub later moved law (holds item)

/-! ## Electing the issue -/

omit [DecidableEq Client] in
theorem mem_tags_of_findTag {name : String} {ref : RefRow}
    (notLease : Text.startsWith name leaseAnchorPrefix = false)
    (found : hub.findTag repository name = some ref) :
    ref.name = name ∧ ∃ tag ∈ hub.tags, tag.ref = ref := by
  have named : ref.name = name := by simpa using List.find?_some found
  refine ⟨named, ?_⟩
  rcases List.mem_append.mp (List.mem_of_find?_eq_some found) with ours | lease
  · exact List.mem_map.mp ours
  · have starts := repository.leaseTags_name ref lease
    rw [named, notLease] at starts
    cases starts

omit [DecidableEq Client] in
theorem ne_of_findTag {name : String}
    (absent : hub.findTag repository name = none) : ∀ tag ∈ hub.tags, tag.ref.name ≠ name := by
  intro tag tagIn named
  have notFound := List.find?_eq_none.mp absent tag.ref
    (List.mem_append_left _ (List.mem_map_of_mem tagIn))
  simp [named] at notFound

theorem rootNumber_rootMessage {number found : Nat}
    (same : rootNumber (rootMessage number) = some found) : found = number := by
  simp only [rootNumber, rootMessage, get_cons, String.reduceEq, if_true, if_false] at same
  split_ifs at same
  simpa using same.symm

/-- A tag object that binds the elected issue. -/
def Binds (ref : RefRow) (number : Nat) (hub : Hub Client) : Prop :=
  hub.objects ref.sha = some (rootMessage number) ∧ hub.RootIs number

theorem lasting_binds (ref : RefRow) (number : Nat) :
    Lasting repository rt validateCheckpoint client (Binds ref number) :=
  (lasting_object _ _).and (lasting_rootIs number)

theorem lasting_bound (ref : RefRow) :
    Lasting repository rt validateCheckpoint client fun hub => ∃ number, Binds ref number hub :=
  lasting_exists (lasting_binds ref)

theorem keeps_optionalTagRef : Keeps repository rt validateCheckpoint client (fun _ => True)
      (optionalTagRef rootAnchor) fun hub found =>
        ∀ ref, found = some ref → ∃ number, Binds ref number hub := by
  have asked : Keeps repository rt validateCheckpoint client (fun _ => True)
      (ask (.tagRef rootAnchor)) fun hub (ref : RefRow) => ∃ number, Binds ref number hub := by
    apply keeps_ask lasting_true
    · exact fun ref => lasting_bound ref
    intro hub law _ _
    refine ⟨law, fun ref answered => ?_⟩
    cases found : hub.findTag repository rootAnchor with
    | none => simp [Hub.serve, found] at answered
    | some row =>
        simp only [Hub.serve, found] at answered
        cases answered
        obtain ⟨named, tag, tagIn, rfl⟩ := mem_tags_of_findTag (by decide) found
        obtain ⟨_, number, object, _⟩ := law.root tag tagIn named
        exact ⟨number, object, tag, tagIn, named, object⟩
  unfold optionalTagRef
  apply Triple.handle
  · apply Triple.bind asked
    intro ref
    apply keeps_return (lasting_bound ref)
    rintro hub bound _ ⟨⟩
    exact bound
  · intro error
    split_ifs
    · apply Triple.done lasting_true
      rintro hub _ _ ref ⟨⟩
    · exact keeps_fail

theorem keeps_rootObject (ref : RefRow) (number : Nat) :
    Keeps repository rt validateCheckpoint client (Binds ref number) (rootObject ref.sha)
      fun hub found => Binds ref number hub ∧ found = some (rootMessage number) := by
  unfold rootObject
  apply Triple.handle
  · apply keeps_ask (lasting_binds ref number)
    · exact fun _ => (lasting_binds ref number).and (lasting_pure _)
    · intro hub law binds _
      refine ⟨law, fun found answered => ⟨binds, ?_⟩⟩
      simp only [Hub.serve, binds.1] at answered
      cases answered
      rfl
  · intro error
    cases error with
    | other text => exact keeps_fail
    | _ => exact keeps_raise

theorem keeps_boundIssue (number : Nat) :
    Keeps repository rt validateCheckpoint client (fun hub => hub.RootIs number)
      (boundIssue number) fun hub issue => hub.RootIs issue.number := by
  have asked : Keeps repository rt validateCheckpoint client (fun hub => hub.RootIs number)
      (ask (.getIssue number)) fun hub _ => hub.RootIs number := by
    apply keeps_ask (lasting_rootIs number)
    · exact fun _ => lasting_rootIs number
    · exact fun hub law root _ => ⟨law, fun _ _ => root⟩
  unfold boundIssue
  apply Triple.bind
  · apply Triple.handle asked
    intro error
    cases error with
    | provider text => exact keeps_raise
    | _ => exact keeps_fail
  · intro issue
    apply keeps_ensure (lasting_rootIs number)
    rintro ⟨_, _, rfl⟩
    exact keeps_return (lasting_rootIs _) fun _ root => root

theorem keeps_rootIssueOf (ref : RefRow) (number : Nat) :
    Keeps repository rt validateCheckpoint client (Binds ref number) (rootIssueOf ref)
      fun hub issue => hub.RootIs issue.number := by
  unfold rootIssueOf
  apply keeps_ensure (lasting_binds ref number)
  intro _
  apply Triple.bind (keeps_rootObject ref number)
  intro object
  apply Triple.assume
  rintro rfl
  dsimp only
  cases bound : rootNumber (rootMessage number) with
  | none => exact keeps_raise
  | some found =>
      obtain rfl := rootNumber_rootMessage bound
      exact (keeps_boundIssue found).weaken fun _ _ binds => binds.2

theorem keeps_rootIssue : Keeps repository rt validateCheckpoint client (fun _ => True) rootIssue
      fun hub found => ∀ issue, found = some issue → hub.RootIs issue.number := by
  unfold rootIssue
  apply Triple.bind keeps_optionalTagRef
  intro found
  cases found with
  | none =>
      constructor
      rintro hub _ _ later _ _ issue ⟨⟩
  | some ref =>
      constructor
      intro hub law bound
      obtain ⟨number, binds⟩ := bound ref rfl
      apply (Triple.bind (keeps_rootIssueOf ref number) _).safe hub law binds
      intro issue
      apply keeps_return (lasting_rootIs issue.number)
      rintro hub root _ ⟨⟩
      exact root

/-! ### The candidate -/

omit [DecidableEq Client] in
theorem candidate_of_listed {row : IssueRow}
    (listed : row ∈ (hub.rows repository).filter fun row => row.title = ledgerTitle && row.isOpen) :
    hub.issues row.number = some (ledgerTitle, true) := by
  obtain ⟨inRows, named⟩ := List.mem_filter.mp listed
  simp only [Bool.and_eq_true, decide_eq_true_eq] at named
  rcases List.mem_append.mp inRows with ours | other
  · obtain ⟨number, _, found⟩ := List.mem_filterMap.mp ours
    unfold Hub.row at found
    obtain ⟨⟨title, isOpen⟩, stored, rfl⟩ := Option.map_eq_some_iff.mp found
    obtain ⟨rfl, rfl⟩ := named
    exact stored
  · exact absurd named.1 (repository.otherIssues_title row other)

theorem keeps_openLedgerIssues :
    Keeps repository rt validateCheckpoint client (fun _ => True) openLedgerIssues
      fun hub found => ∀ row : IssueRow, row ∈ found → Candidate hub row.number := by
  have lasting : ∀ found : List IssueRow, Lasting repository rt validateCheckpoint client
      fun hub => ∀ row : IssueRow, row ∈ found → Candidate hub row.number :=
    fun found => lasting_forall fun row => lasting_forall fun _ => lasting_candidate row.number
  have asked : Keeps repository rt validateCheckpoint client (fun _ => True) (ask .issues)
      fun hub (rows : List IssueRow) => ∀ row : IssueRow,
        row ∈ rows.filter (fun row => row.title = ledgerTitle && row.isOpen) →
          Candidate hub row.number := by
    apply keeps_ask lasting_true
    · exact fun rows => lasting _
    · intro hub law _ _
      refine ⟨law, fun rows answered row listed => .inr ?_⟩
      obtain ⟨_, rfl⟩ := paged_eq_ok_iff.mp answered
      exact candidate_of_listed listed
  unfold openLedgerIssues
  apply Triple.bind asked
  intro rows
  exact keeps_return (lasting _) fun _ known => known

theorem keeps_candidateIssue :
    Keeps repository rt validateCheckpoint client (fun _ => True) candidateIssue
      fun hub candidate => Candidate hub candidate.1.number := by
  have created : Keeps repository rt validateCheckpoint client (fun _ => True)
      (ask (.createIssue ledgerTitle)) fun hub (row : IssueRow) => Candidate hub row.number := by
    apply keeps_ask lasting_true
    · exact fun row => lasting_candidate _
    · intro hub law _ _
      refine ⟨law.createIssue, fun row answered => .inr ?_⟩
      simp only [Hub.serve] at answered
      cases answered
      exact Function.update_self ..
  unfold candidateIssue
  apply Triple.bind keeps_openLedgerIssues
  intro found
  rcases found with _ | ⟨candidate, _ | ⟨other, rest⟩⟩
  · apply Triple.bind (keeps_any created)
    intro row
    exact keeps_return (lasting_candidate _) fun _ known => known
  · apply keeps_return
    · exact lasting_forall fun row => lasting_forall fun _ => lasting_candidate row.number
    · exact fun hub known => known candidate (List.mem_singleton_self _)
  · exact keeps_raise

theorem keeps_claimRoot (candidate : IssueRow) (sha : String) (sha_ne : sha ≠ "") :
    Keeps repository rt validateCheckpoint client (fun hub => Candidate hub candidate.number ∧
        hub.objects sha = some (rootMessage candidate.number))
      (claimRoot candidate sha) fun hub winner => hub.RootIs winner.number := by
  have lasting : Lasting repository rt validateCheckpoint client fun hub =>
      Candidate hub candidate.number ∧ hub.objects sha = some (rootMessage candidate.number) :=
    (lasting_candidate _).and (lasting_object _ _)
  have asked : Keeps repository rt validateCheckpoint client
      (fun hub => Candidate hub candidate.number ∧
        hub.objects sha = some (rootMessage candidate.number))
      (ask (.createTagRef rootAnchor sha)) fun hub _ => hub.RootIs candidate.number := by
    apply keeps_ask lasting
    · exact fun _ => lasting_rootIs _
    · rintro hub law ⟨mayWin, object⟩ _
      cases found : hub.findTag repository rootAnchor with
      | some row =>
          simp only [Hub.serve, found]
          refine ⟨law, ?_⟩
          rintro ref ⟨⟩
      | none =>
          have fresh := ne_of_findTag found
          have isOpen : hub.issues candidate.number = some (ledgerTitle, true) := by
            apply mayWin.resolve_left
            rintro ⟨root, tag, tagIn, name, _⟩
            exact fresh tag tagIn name
          simp only [Hub.serve, found]
          refine ⟨law.createRoot fresh sha_ne object isOpen, fun _ _ => ?_⟩
          exact ⟨_, List.mem_append_right _ (List.mem_singleton_self _), rfl, object⟩
  unfold claimRoot
  apply Triple.handle
  · apply Triple.bind asked
    intro ref
    apply keeps_ensure (lasting_rootIs _)
    intro _
    exact keeps_return (lasting_rootIs _) fun _ root => root
  · intro error
    split_ifs
    · apply Triple.bind keeps_rootIssue
      intro winner
      cases winner with
      | none => exact keeps_raise
      | some issue =>
          apply keeps_return
          · exact lasting_forall fun row => lasting_forall fun _ => lasting_rootIs row.number
          · exact fun hub known => known issue rfl
    · exact keeps_fail

theorem anchorRulesVerified_queries : anchorRulesVerified.Only IsQuery := by
  apply Program.Only.handle
  · exact ⟨trivial, fun answer => (Program.Only.ofExcept answer).bind fun _ => trivial⟩
  · exact fun _ => trivial

theorem mainHead_queries : mainHead.Only IsQuery := by
  refine ⟨trivial, fun answer => (Program.Only.ofExcept answer).bind fun default => ?_⟩
  exact ⟨trivial, fun answer => Program.Only.ofExcept answer⟩

theorem keeps_createTagObject {tag sha : String} {message : Fields}
    (lasting : Lasting repository rt validateCheckpoint client before)
    (kept : ∀ hub : Hub Client, HubLaw rt validateCheckpoint hub → before hub → before { hub with
        objects := Function.update hub.objects (mark hub.nextObject) (some message)
        nextObject := hub.nextObject + 1 }) :
    Keeps repository rt validateCheckpoint client before
      (ask (.createTagObject tag sha message)) fun hub (created : String) =>
        before hub ∧ hub.objects created = some message := by
  apply keeps_ask lasting
  · exact fun created => lasting.and (lasting_object created message)
  · intro hub law known _
    refine ⟨law.createTagObject message, fun created answered => ?_⟩
    simp only [Hub.serve] at answered
    cases answered
    exact ⟨kept hub law known, Function.update_self ..⟩

theorem keeps_electRoot (candidate : IssueRow) :
    Keeps repository rt validateCheckpoint client (Candidate · candidate.number)
      (electRoot candidate) fun hub winner => hub.RootIs winner.number := by
  have lasting : Lasting repository rt validateCheckpoint client
      (Candidate · candidate.number) := lasting_candidate _
  unfold electRoot
  apply Triple.bind (keeps_queries anchorRulesVerified_queries lasting)
  intro verified
  apply keeps_ensure lasting
  intro _
  apply Triple.bind (keeps_queries mainHead_queries lasting)
  intro head
  apply keeps_ensure lasting
  intro _
  apply keeps_ensure lasting
  intro _
  apply Triple.bind (keeps_createTagObject lasting _)
  · intro (sha : String)
    apply keeps_ensure (lasting.and (lasting_object _ _))
    exact keeps_claimRoot candidate sha
  · rintro hub law (⟨root, tag, tagIn, name, object⟩ | isOpen)
    · exact .inl ⟨root, tag, tagIn, name, law.kept_object object⟩
    · exact .inr isOpen

theorem keeps_settleCandidate (candidate winner : IssueRow) (created : Bool) :
    Keeps repository rt validateCheckpoint client (fun hub => hub.RootIs winner.number)
      (settleCandidate candidate winner created) fun hub issue => hub.RootIs issue.number := by
  have lasting : Lasting repository rt validateCheckpoint client
      fun hub => hub.RootIs winner.number := lasting_rootIs _
  unfold settleCandidate
  split_ifs with same
  · exact keeps_return lasting fun _ root => root
  · apply keeps_ensure lasting
    intro _
    have closed : Keeps repository rt validateCheckpoint client
        (fun hub => hub.RootIs winner.number) (ask (.closeIssue candidate.number))
        fun hub _ => hub.RootIs winner.number := by
      apply keeps_ask lasting
      · exact fun _ => lasting
      · intro hub law root _
        cases found : hub.issues candidate.number with
        | none =>
            simp only [Hub.serve, found]
            exact ⟨law, fun _ _ => root⟩
        | some issue =>
            simp only [Hub.serve, found]
            exact ⟨law.closeIssue root same found, fun _ _ => root⟩
    apply Triple.bind
    · apply Triple.handle closed
      exact fun _ => keeps_raise
    · intro row
      apply keeps_ensure lasting
      intro _
      exact keeps_return lasting fun _ root => root

theorem keeps_ensureIssue :
    Keeps repository rt validateCheckpoint client (fun _ => True) ensureIssue
      fun hub issue => hub.RootIs issue.number := by
  unfold ensureIssue
  apply Triple.bind keeps_rootIssue
  intro root
  cases root with
  | some issue =>
      apply keeps_return
      · exact lasting_forall fun row => lasting_forall fun _ => lasting_rootIs row.number
      · exact fun hub known => known issue rfl
  | none =>
      apply Triple.bind (keeps_any keeps_candidateIssue)
      intro candidate
      apply Triple.bind (keeps_electRoot candidate.1)
      exact fun winner => keeps_settleCandidate candidate.1 winner candidate.2

/-! ## Reading -/

theorem verifyAnchors_queries (refs : List RefRow) (expected : List (String × RemoteEvent)) :
    (verifyAnchors rt refs expected).Only IsQuery := by
  induction expected with
  | nil => exact trivial
  | cons entry rest ih =>
      obtain ⟨name, event⟩ := entry
      unfold verifyAnchors
      cases refs.find? (·.name = name) with
      | none => exact ih.bind fun _ => trivial
      | some ref =>
          dsimp only
          split_ifs
          · exact ih.bind fun _ => trivial
          · apply Program.Only.bind
            · apply Program.Only.handle
              · exact ⟨trivial, fun answer => Program.Only.ofExcept answer⟩
              · exact fun _ => trivial
            · exact fun _ => ih.bind fun _ => trivial

theorem verifyTagAnchors_queries (events : List RemoteEvent) :
    (verifyTagAnchors rt events).Only IsQuery := by
  unfold verifyTagAnchors
  apply Program.Only.bind
  · exact ⟨trivial, fun answer => (Program.Only.ofExcept answer).bind fun _ => trivial⟩
  · intro refs
    apply Program.Only.bind (Program.Only.ofExcept _)
    exact fun expected => (verifyAnchors_queries refs expected).bind fun _ => trivial

theorem anchorErrorsOf_queries (events : List RemoteEvent) :
    (anchorErrorsOf rt events).Only IsQuery := by
  unfold anchorErrorsOf
  split_ifs
  · exact trivial
  · exact verifyTagAnchors_queries events

/-- After the comments only queries follow. -/
theorem keeps_eventsOf {issue : IssueRow} {returns : Hub Client → List RemoteEvent → Prop}
    (lasting : ∀ events, Lasting repository rt validateCheckpoint client (returns · events))
    (asked : Keeps repository rt validateCheckpoint client before
      (ask (.issueComments issue.number)) fun hub (comments : List Comment) =>
        returns hub (comments.filterMap Comment.remoteEvent)) :
    Keeps repository rt validateCheckpoint client before
      (readIssueEvents rt validateCheckpoint issue) returns := by
  unfold readIssueEvents
  apply Triple.bind asked
  intro comments
  dsimp only
  generalize comments.filterMap Comment.remoteEvent = events
  apply Triple.bind (keeps_queries (Program.Only.ofExcept _) (lasting events))
  intro chainErrors
  apply Triple.bind (keeps_queries (anchorErrorsOf_queries events) (lasting events))
  intro anchorErrors
  apply Triple.bind (keeps_queries anchorRulesVerified_queries (lasting events))
  intro verified
  apply keeps_ensure (lasting events)
  intro _
  exact keeps_return (lasting events) fun _ known => known

theorem keeps_readIssueEvents (issue : IssueRow) :
    Keeps repository rt validateCheckpoint client (fun hub => hub.RootIs issue.number)
      (readIssueEvents rt validateCheckpoint issue) fun hub events =>
        HasRead client issue.number events hub := by
  apply keeps_eventsOf
  · exact fun events => lasting_hasRead _ events
  · apply keeps_ask (lasting_rootIs _)
    · exact fun _ => lasting_hasRead _ _
    · intro hub law root _
      refine ⟨law.seen_updated, fun comments answered => ?_⟩
      obtain ⟨short, rfl⟩ := paged_eq_ok_iff.mp answered
      exact ⟨root, _, Function.update_self .., short, rfl⟩

theorem keeps_readUnelected (issue : IssueRow) :
    Keeps repository rt validateCheckpoint client before
      (readIssueEvents rt validateCheckpoint issue) fun _ _ => True := by
  apply keeps_any
  apply keeps_eventsOf
  · exact fun _ => lasting_true
  · apply keeps_ask lasting_true
    · exact fun _ => lasting_true
    · exact fun hub law _ _ => ⟨law.seen_updated, fun _ _ => trivial⟩

theorem keeps_ledgerIssue :
    Keeps repository rt validateCheckpoint client (fun _ => True) ledgerIssue fun _ _ => True := by
  unfold ledgerIssue
  apply Triple.bind keeps_rootIssue
  intro root
  apply keeps_any
  cases root with
  | some issue => exact keeps_return lasting_true fun _ _ => trivial
  | none =>
      apply Triple.bind keeps_openLedgerIssues
      intro found
      apply keeps_any
      rcases found with _ | ⟨issue, _ | ⟨other, rest⟩⟩
      · exact keeps_return lasting_true fun _ _ => trivial
      · exact keeps_return lasting_true fun _ _ => trivial
      · exact keeps_raise

/-! ## Appending -/

theorem tagName_event (checkpoint : Checkpoint) (events : List RemoteEvent) :
    tagName rt (checkpoint.event rt events) = .ok (checkpoint.tag rt events) := by
  have sequence : get (checkpoint.event rt events) "sequence" =
      .num ((events.length + 1 : Nat) : Rat) := by
    rw [get_event_sequence]
    simp
  rw [tagName_of_sequence sequence, get_event, if_pos rfl]
  rfl

/-- The comment of the next event. -/
def carrier (repository : Repository) (checkpoint : Checkpoint) (rt : Runtime)
    (events : List RemoteEvent) (id : String) : Comment :=
  ⟨id, .event (checkpoint.event rt events), repository.createdAt, repository.actor⟩

theorem event_ne_nil (checkpoint : Checkpoint) (events : List RemoteEvent) :
    checkpoint.event rt events ≠ [] := by
  intro empty
  have sequence : get (checkpoint.event rt events) "sequence" = .num (events.length + 1) :=
    get_event_sequence
  rw [empty] at sequence
  cases sequence

theorem carrier_remoteEvent (checkpoint : Checkpoint) (events : List RemoteEvent) (id : String) :
    (carrier repository checkpoint rt events id).remoteEvent =
      some ⟨checkpoint.event rt events, id, repository.createdAt, repository.actor⟩ := by
  unfold Comment.remoteEvent carrier
  exact if_neg (event_ne_nil checkpoint events)

omit [DecidableEq Client] in
theorem verified_next (valid : checkpoint.Valid rt validateCheckpoint) (law : HubLaw rt validateCheckpoint hub) (number identifier : Nat) :
    verifyRemoteEvents rt validateCheckpoint 1 .null .null (hub.eventsOf number ++
      [⟨checkpoint.event rt (hub.eventsOf number), mark identifier, repository.createdAt,
        repository.actor⟩]) = .ok [] := by
  apply verifyRemoteEvents_append.mpr ⟨law.verified number, ?_⟩
  rw [Nat.add_comm]
  exact remoteEventErrors_event valid (mark_ne identifier) repository.createdAt_ne
    repository.actor_ne

omit [DecidableEq Client] in
theorem next_unanchored (law : HubLaw rt validateCheckpoint hub)
    (checkpoint : Checkpoint) {number : Nat} (root : hub.RootIs number) :
    ∀ tag ∈ hub.tags, tag.ref.name ≠ checkpoint.tag rt (hub.eventsOf number) := by
  intro tag tagIn named
  have length := law.eventsOf_length number
  have bound := law.short number
  have small : (hub.eventsOf number).length + 1 < 10 ^ 6 := by omega
  have notRoot : tag.ref.name ≠ rootAnchor := named ▸ tagOf_ne_rootAnchor small _
  obtain ⟨other, posted, postedIn, anchors⟩ := law.anchors tag tagIn notRoot
  obtain ⟨event, carried, eventNamed, _⟩ := anchors.event
  obtain rfl : other = number :=
    law.root_unique (law.onRoot other (List.ne_nil_of_mem postedIn)) root
  obtain ⟨position, found⟩ := List.mem_iff_getElem?.mp postedIn
  obtain ⟨positionSmall, atPosition⟩ := law.tagName_at found carried
  have sameTag := Except.ok.inj (eventNamed.symm.trans atPosition)
  rw [named] at sameTag
  have samePosition := tagOf_injective small positionSmall sameTag
  obtain ⟨inside, _⟩ := List.getElem?_eq_some_iff.mp found
  omega

omit [DecidableEq Client] in
theorem posted_carries (client : Client) {comment : Comment} {event : RemoteEvent}
    (carried : comment.remoteEvent = some event) :
    (⟨comment, client⟩ : Posted Client).comment.remoteEvent = some event :=
  carried

theorem keeps_addComment (valid : checkpoint.Valid rt validateCheckpoint) (number : Nat)
    (events : List RemoteEvent) :
    Keeps repository rt validateCheckpoint client (HasRead client number events)
      (ask (.addIssueComment number (.event (checkpoint.event rt events))))
      fun hub (comment : Comment) => Waiting rt client number comment hub ∧
        ∃ id, comment = carrier repository checkpoint rt events id := by
  apply keeps_ask (lasting_hasRead number events)
  · exact fun comment => (lasting_waiting number comment).and (lasting_pure _)
  · rintro hub law ⟨root, comments, seen, short, rfl⟩ rule
    obtain ⟨current, anchored⟩ := rule number _ rfl
    rw [seen] at current
    simp only [Option.some.injEq, Prod.mk.injEq, true_and] at current
    subst current
    have carried : (carrier repository checkpoint rt (hub.eventsOf number)
        (mark hub.nextComment)).remoteEvent = some ⟨checkpoint.event rt (hub.eventsOf number),
          mark hub.nextComment, repository.createdAt, repository.actor⟩ :=
      carrier_remoteEvent checkpoint (hub.eventsOf number) (mark hub.nextComment)
    have few : (hub.comments number).length ≤ 1000 := by simpa [Hub.texts] using short
    have after := law.addComment root few anchored (posted_carries client carried)
      (verified_next valid law number hub.nextComment)
    refine ⟨after, fun comment answered => ?_⟩
    simp only [Hub.serve] at answered
    cases answered
    refine ⟨⟨?_, ?_⟩, mark hub.nextComment, rfl⟩
    · simp only [Hub.serve, Function.update_self]
      exact List.mem_append_right _ (List.mem_singleton_self _)
    · rintro ⟨event, eventCarried, tag, tagIn, named⟩
      obtain rfl := Option.some.inj (carried.symm.trans eventCarried)
      rw [tagName_event] at named
      exact next_unanchored law checkpoint root tag tagIn (Except.ok.inj named).symm

/-- The object of the anchor of a waiting comment. -/
structure Anchoring (rt : Runtime) (client : Client) (number : Nat) (checkpoint : Checkpoint)
    (events : List RemoteEvent) (comment : Comment) (sha : String) (hub : Hub Client) : Prop where
  waiting : Waiting rt client number comment hub
  object : hub.objects sha = some (checkpoint.anchorMessage rt events comment)

theorem keeps_createAnchor (checkpoint : Checkpoint) (number : Nat) (events : List RemoteEvent)
    (id sha : String) (sha_ne : sha ≠ "") : Keeps repository rt validateCheckpoint client
      (Anchoring rt client number checkpoint events
        (carrier repository checkpoint rt events id) sha)
      (ask (.createTagRef (checkpoint.tag rt events) sha)) fun _ _ => True := by
  have carried : (carrier repository checkpoint rt events id).remoteEvent =
      some ⟨checkpoint.event rt events, id, repository.createdAt, repository.actor⟩ :=
    carrier_remoteEvent checkpoint events id
  apply keeps_ask
  · rintro hub later moved law ⟨waiting, object⟩
    exact ⟨lasting_waiting _ _ hub later moved law waiting, moved.objects _ _ object⟩
  · exact fun _ => lasting_true
  · rintro hub law ⟨⟨posted, _⟩, object⟩ _
    refine ⟨?_, fun _ _ => trivial⟩
    cases found : hub.findTag repository (checkpoint.tag rt events) with
    | some row => simpa only [Hub.serve, found] using law
    | none =>
        simp only [Hub.serve, found]
        apply law.createAnchor posted (ne_of_findTag found)
        refine ⟨rfl, sha_ne, _, carried, tagName_event checkpoint events, _, object, ?_⟩
        have hash : get (checkpoint.event rt events) "event_hash" =
            .str (checkpoint.eventHash rt events) := by
          rw [get_event, if_pos rfl]
        simp [bindingErrors, Checkpoint.anchorMessage, hash, carrier, Runtime.text]

theorem keeps_anchorComment (checkpoint : Checkpoint) (issue : IssueRow)
    (events : List RemoteEvent) (id : String) : Keeps repository rt validateCheckpoint client
      (Waiting rt client issue.number (carrier repository checkpoint rt events id))
      (anchorComment rt checkpoint issue events
        (carrier repository checkpoint rt events id)) fun _ _ => True := by
  have lasting : Lasting repository rt validateCheckpoint client
      (Waiting rt client issue.number (carrier repository checkpoint rt events id)) :=
    lasting_waiting _ _
  unfold anchorComment
  apply keeps_ensure lasting
  intro _
  apply Triple.bind (keeps_queries mainHead_queries lasting)
  intro head
  apply Triple.bind (keeps_createTagObject lasting fun _ _ waiting =>
    ⟨waiting.posted, waiting.unanchored⟩)
  intro (sha : String)
  apply keeps_ensure (lasting.and (lasting_object _ _))
  intro sha_ne
  apply Triple.bind
  · apply (keeps_createAnchor checkpoint issue.number events id sha sha_ne).weaken
    exact fun _ _ known => ⟨known.1, known.2⟩
  · intro ref
    apply keeps_ensure lasting_true
    intro _
    exact keeps_return lasting_true fun _ _ => trivial

theorem keeps_appendNext (valid : checkpoint.Valid rt validateCheckpoint) (issue : IssueRow)
    (events : List RemoteEvent) :
    Keeps repository rt validateCheckpoint client (HasRead client issue.number events)
      (appendNext rt checkpoint issue events) fun _ _ => True := by
  have lasting : Lasting repository rt validateCheckpoint client
      (HasRead client issue.number events) := lasting_hasRead _ _
  unfold appendNext
  apply Triple.bind (keeps_queries (Program.Only.ofExcept _) lasting)
  intro _
  apply Triple.bind (keeps_queries anchorRulesVerified_queries lasting)
  intro verified
  apply keeps_ensure lasting
  intro _
  apply Triple.bind (keeps_addComment valid issue.number events)
  intro comment
  apply Triple.assume
  rintro ⟨id, rfl⟩
  exact keeps_anchorComment checkpoint issue events id

theorem keeps_appendChecked (valid : checkpoint.Valid rt validateCheckpoint) :
    Keeps repository rt validateCheckpoint client (fun _ => True)
      (appendChecked rt validateCheckpoint checkpoint) fun _ _ => True := by
  unfold appendChecked
  apply Triple.bind keeps_ensureIssue
  intro issue
  apply Triple.bind (keeps_readIssueEvents issue)
  intro events
  have appends : Keeps repository rt validateCheckpoint client
      (HasRead client issue.number events) (appendNext rt checkpoint issue events)
      fun _ _ => True := keeps_appendNext valid issue events
  cases events.getLast? with
  | none => exact appends
  | some last =>
      dsimp only
      split_ifs
      · exact keeps_return (lasting_hasRead _ _) fun _ _ => trivial
      · exact appends

theorem keeps_computed {result : Except String β} {next : β → LedgerProgram α}
    (lasting : Lasting repository rt validateCheckpoint client before)
    (passed : ∀ value, result = .ok value →
      Keeps repository rt validateCheckpoint client before (next value) returns) :
    Keeps repository rt validateCheckpoint client before (computed result >>= next) returns := by
  apply Triple.ofExcept_bind lasting
  · exact fun _ _ _ _ _ => trivial
  · intro value ran
    apply passed value
    cases result with
    | error text => cases ran
    | ok other =>
        cases ran
        rfl

theorem keeps_publicSessionContinuity (checkpoint : Option Json) :
    Keeps repository rt validateCheckpoint client (fun _ => True)
      (publicSessionContinuity validateCheckpoint checkpoint) fun _ found => True ∧
        ∀ continuity, found = some continuity →
          (∃ fields, continuity = .obj fields) ∧ validateCheckpoint continuity = [] := by
  unfold publicSessionContinuity
  match checkpoint with
  | none =>
      apply keeps_return lasting_true
      refine fun _ _ => ⟨trivial, ?_⟩
      rintro continuity ⟨⟩
  | some (.obj fields) =>
      apply keeps_ensure lasting_true
      intro checked
      apply keeps_return lasting_true
      refine fun _ _ => ⟨trivial, ?_⟩
      rintro continuity ⟨⟩
      exact ⟨⟨fields, rfl⟩, checked⟩
  | some .null | some (.bool _) | some (.num _) | some (.str _) | some (.arr _) =>
      exact keeps_raise

theorem keeps_checkedRequest (request : AppendRequest) :
    Keeps repository rt validateCheckpoint client (fun _ => True)
      (checkedRequest rt validateCheckpoint request) fun _ checkpoint =>
        True ∧ checkpoint.Valid rt validateCheckpoint := by
  unfold checkedRequest
  apply keeps_computed lasting_true
  intro findings validated
  apply keeps_ensure lasting_true
  intro valid
  subst valid
  apply keeps_computed lasting_true
  intro safeState projected
  apply keeps_computed lasting_true
  intro publicFindings publicValidated
  apply keeps_ensure lasting_true
  intro publicValid
  subst publicValid
  apply Triple.bind (keeps_publicSessionContinuity request.checkpoint)
  intro found
  apply Triple.assume
  intro checked
  cases found with
  | none =>
      apply keeps_return lasting_true
      refine fun _ _ => ⟨trivial, publicValidated, ?_, _, rfl⟩
      rintro continuity ⟨⟩
  | some checkpoint =>
      apply keeps_ensure lasting_true
      intro bound
      apply keeps_return lasting_true
      refine fun _ _ => ⟨trivial, publicValidated, ?_, _, rfl⟩
      rintro continuity ⟨⟩
      exact ⟨(checked _ rfl).1, (checked _ rfl).2, bound⟩

theorem keeps_read : Keeps repository rt validateCheckpoint client (fun _ => True)
      (read rt validateCheckpoint) fun _ _ => True := by
  unfold read
  apply Triple.bind keeps_ledgerIssue
  intro found
  cases found with
  | none => exact keeps_return lasting_true fun _ _ => trivial
  | some issue =>
      apply Triple.bind (keeps_readUnelected issue)
      intro events
      exact keeps_return lasting_true fun _ _ => trivial

theorem keeps_operation (operation : Operation) :
    Keeps repository rt validateCheckpoint client (fun _ => True)
      (operation.program rt validateCheckpoint) fun _ _ => True := by
  cases operation with
  | read =>
      apply Triple.bind keeps_read
      exact fun _ => keeps_return lasting_true fun _ _ => trivial
  | append request =>
      apply Triple.bind (keeps_checkedRequest request)
      intro checkpoint
      apply Triple.assume
      exact keeps_appendChecked

end Adwf.RuntimeLedger
