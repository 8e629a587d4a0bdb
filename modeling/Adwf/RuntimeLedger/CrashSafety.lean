import Adwf.RuntimeLedger.Solo

/-!
# Crash safety of the runtime ledger

A comment and its anchor are two provider objects.  Reads and appends go on exactly
in the states in which every comment has its anchor, and a client that stops between
the two, or two clients that add their comments at once, leave such a state for good.
-/

namespace Adwf.RuntimeLedger

open Adwf.Fallible Adwf.Program Json

universe u

variable {Client : Type u} [DecidableEq Client]
variable {rt : Runtime} {validateCheckpoint : CheckpointCheck} {repository : Repository}
variable {hub : Hub Client}

/-! ## Runs -/

/-- The clients before their first calls. -/
def launched (repository : Repository) (rt : Runtime) (validateCheckpoint : CheckpointCheck)
    (operations : Client → Operation) : System Client (Hub Client) Call Answer LedgerError Outcome :=
  ⟨Hub.start repository, fun client => (operations client).program rt validateCheckpoint⟩

/-- The invariant of every run in which comments are added alone. -/
theorem hubLaw_of_reachable {operations : Client → Operation}
    {system : System Client (Hub Client) Call Answer LedgerError Outcome}
    (reached : Reachable (aloneWorld Client repository rt validateCheckpoint)
      (launched repository rt validateCheckpoint operations) system) :
    HubLaw rt validateCheckpoint system.store := by
  have safe : AllSafe (aloneWorld Client repository rt validateCheckpoint)
      (fun _ _ _ => True) (fun _ _ _ => True)
      (launched repository rt validateCheckpoint operations) := by
    refine ⟨hubLaw_start, fun client => ?_⟩
    exact (keeps_operation (operations client)).safe _ hubLaw_start trivial
  exact (safe_of_reachable tolerated_ledgerWorld safe reached).1

/-! ## Readable states -/

omit [DecidableEq Client] in
theorem anchoredEvents_of_all (anchored : ∀ event ∈ hub.events, hub.IsAnchored rt event) :
    hub.anchoredEvents rt = hub.events := by
  apply List.filter_eq_self.mpr
  exact fun event eventIn => decide_eq_true (anchored event eventIn)

theorem reads_of_readable (law : HubLaw rt validateCheckpoint hub)
    (readable : Readable repository rt hub) (client : Client) :
    ∃ after issue, (Operation.read.program rt validateCheckpoint).execute
      (Hub.serve repository client) hub =
        (after, .done (.observed issue (hub.anchoredEvents rt))) := by
  rw [anchoredEvents_of_all readable.anchored]
  have eventsRead : ∀ issue : IssueRow, (readIssueEvents rt validateCheckpoint issue).execute
      (Hub.serve repository client) hub =
        (hub.readBy client issue.number, .done (hub.eventsOf issue.number)) := fun issue =>
    execute_readIssueEvents law (readable.commentPages _) readable.anchored readable.tagPages
  cases found : hub.findTag repository rootAnchor with
  | some ref =>
      obtain ⟨number, root, rooted⟩ := execute_rootIssue client law found
      refine ⟨hub.readBy client number, some ⟨number, ledgerTitle, true⟩, ?_⟩
      rw [law.events_eq root]
      apply execute_bind_eq_done_iff.mpr
      refine ⟨_, ⟨some ⟨number, ledgerTitle, true⟩, hub.eventsOf number⟩, ?_, rfl⟩
      apply execute_bind_eq_done_iff.mpr
      refine ⟨hub, some ⟨number, ledgerTitle, true⟩, ?_, ?_⟩
      · apply execute_bind_eq_done_iff.mpr
        exact ⟨hub, _, rooted, rfl⟩
      · apply execute_bind_eq_done_iff.mpr
        exact ⟨_, _, eventsRead _, rfl⟩
  | none =>
      have noEvents : hub.events = [] := law.events_unelected (unelected_of_findTag found)
      have empty : ∀ number, hub.eventsOf number = [] := by
        intro number
        have noComments : hub.comments number = [] := by
          by_contra posted
          exact unelected_of_findTag found number (law.onRoot number posted)
        simp [Hub.eventsOf, Hub.texts, noComments]
      have single := readable.elected.resolve_left (absurd found ·)
      rw [noEvents]
      have issuesRead : ∀ found : Option IssueRow, ((hub.rows repository).filter fun row =>
          row.title = ledgerTitle && row.isOpen) = found.toList →
          ledgerIssue.execute (Hub.serve repository client) hub = (hub, .done found) :=
        fun _ rows => (execute_ledgerIssue_unelected_iff found).mpr
          ⟨rfl, readable.issuePages found, rows⟩
      generalize ((hub.rows repository).filter fun row =>
        row.title = ledgerTitle && row.isOpen) = rows at single issuesRead
      rcases rows with _ | ⟨issue, _ | ⟨other, rest⟩⟩
      · refine ⟨hub, none, ?_⟩
        apply execute_bind_eq_done_iff.mpr
        refine ⟨_, ⟨none, []⟩, ?_, rfl⟩
        apply execute_bind_eq_done_iff.mpr
        exact ⟨hub, none, issuesRead none rfl, rfl⟩
      · refine ⟨hub.readBy client issue.number, some issue, ?_⟩
        apply execute_bind_eq_done_iff.mpr
        refine ⟨_, ⟨some issue, []⟩, ?_, rfl⟩
        apply execute_bind_eq_done_iff.mpr
        refine ⟨hub, some issue, issuesRead (some issue) rfl, ?_⟩
        apply execute_bind_eq_done_iff.mpr
        refine ⟨_, [], ?_, rfl⟩
        rw [eventsRead, empty]
      · simp at single

theorem readable_of_reads (law : HubLaw rt validateCheckpoint hub) {client : Client}
    {after : Hub Client} {issue : Option IssueRow}
    (ended : (Operation.read.program rt validateCheckpoint).execute
      (Hub.serve repository client) hub =
        (after, .done (.observed issue (hub.anchoredEvents rt)))) : Readable repository rt hub := by
  obtain ⟨middle, ⟨found, events⟩, reading, ran⟩ := execute_bind_eq_done_iff.mp ended
  obtain ⟨rfl, same⟩ := execute_return_iff.mp ran
  obtain ⟨rfl, rfl⟩ := Outcome.observed.inj same
  obtain ⟨looked, which, chosen, continued⟩ := execute_bind_eq_done_iff.mp reading
  cases elected : hub.findTag repository rootAnchor with
  | some ref =>
      obtain ⟨number, root, rooted⟩ := execute_rootIssue client law elected
      obtain ⟨_, _, rootedToo, picked⟩ := execute_bind_eq_done_iff.mp chosen
      cases rooted.symm.trans rootedToo
      obtain ⟨rfl, rfl⟩ := execute_return_iff.mp picked
      obtain ⟨_, _, issueRead, pair⟩ := execute_bind_eq_done_iff.mp continued
      obtain ⟨_, same⟩ := execute_return_iff.mp pair
      obtain ⟨_, rfl⟩ := Prod.mk.inj same
      obtain ⟨few, all, tagPages⟩ := of_execute_readIssueEvents issueRead
      rw [← law.events_eq root] at all
      constructor
      · intro event eventIn
        exact of_decide_eq_true (List.filter_eq_self.mp all event eventIn)
      · exact .inl (by simp [elected])
      · intro absent
        cases elected.symm.trans absent
      · intro other
        by_cases same : other = number
        · exact same ▸ few
        · have noComments : hub.comments other = [] := by
            by_contra posted
            exact same (law.root_unique (law.onRoot other posted) root)
          simp [noComments]
      · intro some
        exact tagPages (all.symm ▸ some)
  | none =>
      have unelected := fun number => unelected_of_findTag elected number
      obtain ⟨_, short, rows⟩ := (execute_ledgerIssue_unelected_iff elected).mp chosen
      have noEvents := law.events_unelected unelected
      constructor
      · intro event eventIn
        rw [noEvents] at eventIn
        cases eventIn
      · rw [rows]
        exact .inr which.length_toList_le
      · exact fun _ => short
      · intro number
        have noComments : hub.comments number = [] := by
          by_contra posted
          exact unelected number (law.onRoot number posted)
        simp [noComments]
      · exact fun some => absurd noEvents some

omit [DecidableEq Client] in
theorem comments_eq_nil (law : HubLaw rt validateCheckpoint hub) (noEvents : hub.events = [])
    (number : Nat) : hub.comments number = [] := by
  apply List.eq_nil_iff_forall_not_mem.mpr
  intro posted postedIn
  obtain ⟨event, carried⟩ := law.carries number posted postedIn
  have eventIn := law.mem_events postedIn carried
  rw [noEvents] at eventIn
  cases eventIn

/-- An append once the events of the ledger issue have been read. -/
def appendRead (rt : Runtime) (checkpoint : Checkpoint) (issue : IssueRow)
    (events : List RemoteEvent) : LedgerProgram Outcome :=
  match events.getLast? with
  | none => appendNext rt checkpoint issue events
  | some last =>
      if checkpoint.isHeldBy rt last then return .unchanged issue.number last
      else appendNext rt checkpoint issue events

theorem execute_append_read (law : HubLaw rt validateCheckpoint hub)
    (readable : Readable repository rt hub) (client : Client) {request : AppendRequest}
    {safeState : Fields} (appendable : Appendable rt validateCheckpoint request safeState) :
    ∃ reader issue, (append rt validateCheckpoint request).execute
        (Hub.serve repository client) hub =
          (appendRead rt (request.stored safeState) issue hub.events).execute
            (Hub.serve repository client) reader ∧
      HubLaw rt validateCheckpoint reader ∧ reader.RootIs issue.number ∧
      (reader.comments issue.number).length ≤ 1000 ∧ reader.events = hub.events ∧
      reader.eventsOf issue.number = hub.events ∧
      ∀ event ∈ reader.events, reader.IsAnchored rt event := by
  obtain ⟨checked, valid⟩ := execute_checkedRequest repository client hub appendable
  obtain ⟨issued, issue, ensured, issuedLaw, root, sameComments, unchanged⟩ :=
    execute_ensureIssue client law readable
  have sameEvents : issued.events = hub.events := by
    rcases unchanged with noEvents | rfl
    · rw [issuedLaw.events_eq root, noEvents, Hub.eventsOf, Hub.texts, sameComments,
        comments_eq_nil law noEvents]
      rfl
    · rfl
  have anchored : ∀ event ∈ issued.events, issued.IsAnchored rt event := by
    intro event eventIn
    rcases unchanged with noEvents | rfl
    · rw [sameEvents, noEvents] at eventIn
      cases eventIn
    · exact readable.anchored event eventIn
  have tagPages : issued.events ≠ [] → (issued.anchorRows repository).length ≤ 1000 := by
    intro some
    rcases unchanged with noEvents | rfl
    · exact absurd (sameEvents.trans noEvents) some
    · exact readable.tagPages some
  have few : (issued.comments issue.number).length ≤ 1000 := by
    rw [sameComments]
    exact readable.commentPages issue.number
  have ofIssue : issued.eventsOf issue.number = hub.events := by
    rw [← issuedLaw.events_eq root, sameEvents]
  have eventsRead : (readIssueEvents rt validateCheckpoint issue).execute
      (Hub.serve repository client) issued = (issued.readBy client issue.number,
        .done hub.events) := by
    rw [← ofIssue]
    exact execute_readIssueEvents issuedLaw few anchored tagPages
  refine ⟨issued.readBy client issue.number, issue, ?_, issuedLaw.seen_updated, root, few,
    sameEvents, ofIssue, anchored⟩
  rw [append, execute_bind_of_done checked, appendChecked, execute_bind_of_done ensured,
    execute_bind_of_done eventsRead]
  rfl

theorem appends_of_readable (law : HubLaw rt validateCheckpoint hub)
    (readable : Readable repository rt hub) (client : Client) {request : AppendRequest}
    {safeState : Fields} (appendable : Appendable rt validateCheckpoint request safeState)
    (new : ∀ last, (hub.anchoredEvents rt).getLast? = some last →
      ¬(request.stored safeState).isHeldBy rt last) : ∃ after number event tag sha,
      ((Operation.append request).program rt validateCheckpoint).execute
        (Hub.serve repository client) hub = (after, .done (.appended number event tag sha)) ∧
      after.anchoredEvents rt = hub.anchoredEvents rt ++ [event] := by
  rw [anchoredEvents_of_all readable.anchored] at new ⊢
  have valid := (execute_checkedRequest repository client hub appendable).2
  have members : runMembers (request.stored safeState).safeState = .ok () :=
    (runMembers_publicStateProjection appendable.projected).trans appendable.members
  obtain ⟨reader, issue, run, readerLaw, root, few, sameEvents, ofIssue, anchored⟩ :=
    execute_append_read law readable client appendable
  obtain ⟨after, event, sha, appended, _, grown, allAnchored, _⟩ :=
    execute_appendNext repository client readerLaw valid members root few anchored
  rw [ofIssue] at appended
  refine ⟨after, issue.number, event, (request.stored safeState).tag rt hub.events, sha, ?_, ?_⟩
  · refine run.trans ?_
    unfold appendRead
    cases last : hub.events.getLast? with
    | none => exact appended
    | some event =>
        dsimp only
        rw [if_neg (new event last)]
        exact appended
  · rw [anchoredEvents_of_all allAnchored, grown, sameEvents]

/-- A journal before its first event. -/
def firstState : Fields :=
  [("events", .arr []), ("monetary_budget_usd", .num 0), ("phase", .str "RECONCILE"),
    ("revision", .num 1), ("run_id", .str "run"), ("schema_version", .num 1)]

/-- A runtime for fixed runs. -/
def plainRuntime : Runtime where
  digest _ := "0000000000000000"
  floatOf _ := none
  intOf _ := none
  textOf _ := ""

def plainLedger : Repository where
  defaultBranch := "main"
  head := "head"
  rulesets := [⟨"ADWF immutable runtime anchors", "tag", "active", [],
    ["refs/tags/adwf-runtime-anchor-*"], ["deletion", "update"]⟩]
  otherIssues := []
  leaseTags := []
  createdAt := "2026-01-01T00:00:00Z"
  actor := "runner"
  head_ne := by decide
  createdAt_ne := by decide
  actor_ne := by decide
  rulesets_verified := by decide
  otherIssues_title := nofun
  leaseTags_name := nofun

/-- Client `false` appends and client `true` reads. -/
def appendAndRead : Bool → Operation
  | false => .append { state := firstState, now := "2026-01-01T00:00:00Z" }
  | true => .read

instance (client : Client) (number : Nat) : Decidable (Alone rt client hub number) :=
  inferInstanceAs (Decidable (_ ∧ _))

/-- The provider serves a comment only to a client that may add it. -/
def serveAlone (client : Bool) (hub : Hub Bool) (call : Call) : Option (Hub Bool × Answer call) :=
  match call with
  | .addIssueComment number body =>
      if Alone plainRuntime client hub number then
        some (hub.serve plainLedger client (.addIssueComment number body))
      else none
  | call => some (hub.serve plainLedger client call)

theorem serves_serveAlone (client : Bool) (hub : Hub Bool) (call : Call) (after : Hub Bool)
    (answer : Answer call) (served : serveAlone client hub call = some (after, answer)) :
    Serves plainLedger (Alone plainRuntime) client hub call after answer := by
  right
  cases call with
  | addIssueComment number body =>
      dsimp only [serveAlone] at served
      split_ifs at served with alone
      obtain ⟨rfl, rfl⟩ := Prod.mk.inj (Option.some.inj served)
      refine ⟨?_, rfl, .inl rfl⟩
      rintro _ _ ⟨⟩
      exact alone
  | _ =>
      obtain ⟨rfl, rfl⟩ := Prod.mk.inj (Option.some.inj served)
      refine ⟨?_, rfl, .inl rfl⟩
      rintro number body ⟨⟩

/-- The read after the append. -/
def appendedAndRead : System Bool (Hub Bool) Call Answer LedgerError Outcome :=
  (List.replicate 20 false ++ List.replicate 20 true).foldl (System.turn serveAlone)
    (launched plainLedger plainRuntime (fun _ => []) appendAndRead)

/-- The events an operation that has returned has read. -/
def eventsRead : LedgerProgram Outcome → Option (List RemoteEvent)
  | .done (.observed _ events) => some events
  | _ => none

theorem reachable_appendedAndRead : Reachable (aloneWorld Bool plainLedger plainRuntime fun _ => [])
      (launched plainLedger plainRuntime (fun _ => []) appendAndRead) appendedAndRead :=
  reachable_turns serves_serveAlone _ _

omit [DecidableEq Client] in
theorem commentPages_of_below (law : HubLaw rt validateCheckpoint hub)
    (below : ∀ number < hub.nextIssue, (hub.comments number).length ≤ 1000) (number : Nat) :
    (hub.comments number).length ≤ 1000 := by
  by_cases posted : hub.comments number = []
  · simp [posted]
  · apply below
    exact (law.issues number _ (law.root_open (law.onRoot number posted))).2.1

theorem readable_appendedAndRead : Readable plainLedger plainRuntime appendedAndRead.store := by
  constructor
  · decide +kernel
  · exact .inl (by decide +kernel)
  · decide +kernel
  · exact commentPages_of_below (hubLaw_of_reachable reachable_appendedAndRead) (by decide +kernel)
  · decide +kernel

example : eventsRead (appendedAndRead.program true) =
    some (appendedAndRead.store.anchoredEvents plainRuntime) := by
  decide +kernel

example : (appendedAndRead.store.anchoredEvents plainRuntime).length = 1 := by
  decide +kernel

/-- The only client appends. -/
def oneAppend : System Unit (Hub Unit) Call Answer LedgerError Outcome :=
  launched plainLedger plainRuntime (fun _ => [])
    fun _ => .append { state := firstState, now := "2026-01-01T00:00:00Z" }

/-- It stops after its comment, before the tag object. -/
def stoppedAfterComment : System Unit (Hub Unit) Call Answer LedgerError Outcome :=
  (List.replicate 12 ()).foldl
    (System.turn fun client hub call => some (hub.serve plainLedger client call)) oneAppend

def raisedBy : LedgerProgram Outcome → Option LedgerError
  | .fail error => some error
  | _ => none

theorem read_stoppedAfterComment :
    raisedBy ((Operation.read.program plainRuntime fun _ => []).execute
      (Hub.serve plainLedger ()) stoppedAfterComment.store).2 =
        some (.value ("REMOTE_RUNTIME_LEDGER_INVALID:REMOTE_RUNTIME_EXTERNAL_ANCHOR_MISSING:" ++
          "adwf-runtime-anchor-000001-0000000000000000")) := by
  decide +kernel

end Adwf.RuntimeLedger

/-!
## Restoring the latest state

`restore_latest` writes the state of the last event of the ledger.  Right after an
append to a readable ledger that is the state the append stored.
-/

namespace Adwf.RuntimeLedger

open Adwf.Fallible Adwf.Program Json

universe u

/-! ## The operation -/

/-- `ACTIVE` statuses of `restore_latest`. -/
def liveStatuses : List String :=
  ["RUNNING", "RETRY_WAIT", "RECOVERY", "HUMAN_REQUIRED"]

/-- `str(state.get("issue_id") or "")`. -/
def workItemText (rt : Runtime) (state : Fields) : String :=
  if (get state "issue_id").truthy then rt.text (get state "issue_id") else ""

/-- The work item that is read back: that of a live state whose issue id is a number. -/
def workItem (rt : Runtime) (state : Fields) : Option Nat :=
  let text := workItemText rt state
  if liveStatuses.any (isText (get state "status")) ∧ text ≠ "" ∧
      text.toList.all Text.isDigit then
    text.toNat?
  else none

/-- The state of a run whose work item is closed. -/
def terminalState (rt : Runtime) (now : String) (state : Fields) : Except String Fields := do
  let stored := get state "revision"
  let revision ← rt.int (if stored.truthy then stored else .num 0)
  return put "updated_at" (.str now) (put "revision" (.num (revision + 1 : Int))
    (put "blockers" (.arr [.str "REMOTE_RUNTIME_WORK_ITEM_PROVIDER_TERMINAL"])
      (put "status" (.str "BLOCKED") state)))

section Restore

variable (rt : Runtime) (validateCheckpoint : CheckpointCheck)
variable (isOpen : Nat → Except LedgerError Bool)

/-- The state `restore_latest` writes, with what reading back the work item answers. -/
def settledState (now : String) (state : Fields) : LedgerProgram Fields :=
  match workItem rt state with
  | none => return state
  | some number =>
      match isOpen number with
      | .ok true => return state
      | .ok false => computed (terminalState rt now state)
      | .error (.provider _) => raise "REMOTE_RUNTIME_WORK_ITEM_READBACK_FAILED"
      | .error error => .fail error

/-- `restore_latest`: the document it writes, if there is an event. -/
def restoreLatest (now : String) : LedgerProgram (Option Fields) := do
  let found ← read rt validateCheckpoint
  match found.2.getLast? with
  | none => return none
  | some last =>
      match get last.members "state" with
      | .obj state => do
          let settled ← settledState rt isOpen now state
          return some settled
      | _ => .fail (.other "AttributeError")

end Restore

section AfterAppend

variable {Client : Type u} [DecidableEq Client]
variable {rt : Runtime} {validateCheckpoint : CheckpointCheck} {repository : Repository}
variable {isOpen : Nat → Except LedgerError Bool} {hub : Hub Client} {safeState : Fields}

theorem execute_read (law : HubLaw rt validateCheckpoint hub)
    (readable : Readable repository rt hub) (client : Client) :
    ∃ after issue, (read rt validateCheckpoint).execute (Hub.serve repository client) hub =
      (after, .done (issue, hub.events)) := by
  obtain ⟨after, issue, ended⟩ := reads_of_readable law readable client
  obtain ⟨middle, ⟨found, events⟩, reading, ran⟩ := execute_bind_eq_done_iff.mp ended
  obtain ⟨_, same⟩ := execute_return_iff.mp ran
  obtain ⟨_, sameEvents⟩ := Outcome.observed.inj same
  refine ⟨middle, found, ?_⟩
  rw [reading, ← anchoredEvents_of_all readable.anchored, ← sameEvents]

theorem execute_restoreLatest (law : HubLaw rt validateCheckpoint hub)
    (readable : Readable repository rt hub) (client : Client) (now : String)
    {last : RemoteEvent} (latest : hub.events.getLast? = some last)
    (holds : get last.members "state" = .obj safeState)
    (opened : ∀ number, workItem rt safeState = some number → isOpen number = .ok true) :
    ∃ after, (restoreLatest rt validateCheckpoint isOpen now).execute
      (Hub.serve repository client) hub = (after, .done (some safeState)) := by
  obtain ⟨after, issue, reading⟩ := execute_read law readable client
  refine ⟨after, ?_⟩
  rw [restoreLatest, execute_bind_of_done reading]
  simp only [latest, holds, settledState]
  cases item : workItem rt safeState with
  | none => rfl
  | some number => simp only [opened number item]; rfl

/-- No two states of the ledger and of the append share a digest. -/
def Collisionless (rt : Runtime) (hub : Hub Client) (safeState : Fields) : Prop :=
  ∀ event ∈ hub.events, get event.members "state_digest" = .str (rt.digest (.obj safeState)) →
      get event.members "state" = .obj safeState

theorem restoreLatest_append (law : HubLaw rt validateCheckpoint hub)
    (readable : Readable repository rt hub) (client : Client) {request : AppendRequest}
    (appendable : Appendable rt validateCheckpoint request safeState)
    (collisionless : Collisionless rt hub safeState)
    (opened : ∀ number, workItem rt safeState = some number → isOpen number = .ok true) :
    ∃ after outcome, (append rt validateCheckpoint request).execute
        (Hub.serve repository client) hub = (after, .done outcome) ∧
      (Readable repository rt after → ∀ restorer now, ∃ final,
        (restoreLatest rt validateCheckpoint isOpen now).execute
          (Hub.serve repository restorer) after = (final, .done (some safeState))) := by
  have valid := (execute_checkedRequest repository client hub appendable).2
  have members : runMembers (request.stored safeState).safeState = .ok () :=
    (runMembers_publicStateProjection appendable.projected).trans appendable.members
  obtain ⟨reader, issue, run, readerLaw, root, few, sameEvents, ofIssue, anchored⟩ :=
    execute_append_read law readable client appendable
  obtain ⟨after, event, sha, appended, content, grown, _, afterLaw⟩ :=
    execute_appendNext repository client readerLaw valid members root few anchored
  rw [ofIssue] at appended content
  have added : ∃ after outcome, (appendNext rt (request.stored safeState) issue
        hub.events).execute (Hub.serve repository client) reader = (after, .done outcome) ∧
      (Readable repository rt after → ∀ restorer now, ∃ final,
        (restoreLatest rt validateCheckpoint isOpen now).execute
          (Hub.serve repository restorer) after = (final, .done (some safeState))) := by
    refine ⟨after, _, appended, fun stillReadable restorer now => ?_⟩
    have latest : after.events.getLast? = some event := by
      rw [grown, List.getLast?_concat]
    apply execute_restoreLatest afterLaw stillReadable restorer now latest _ opened
    rw [content, get_event_state]
    rfl
  rw [run, appendRead]
  cases last : hub.events.getLast? with
  | none => exact added
  | some event =>
      dsimp only
      split_ifs with held
      · refine ⟨reader, _, rfl, fun stillReadable restorer now => ?_⟩
        have latest : reader.events.getLast? = some event := by
          rw [sameEvents, last]
        apply execute_restoreLatest readerLaw stillReadable restorer now latest _ opened
        exact collisionless event (List.mem_of_getLast? last) held.1
      · exact added

end AfterAppend

end Adwf.RuntimeLedger
