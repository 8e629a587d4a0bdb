import Adwf.Reconciliation.Snapshot

/-!
# When the facts are coherent

What the checks of a reconciliation ask of its inputs, stated on the inputs
alone, and that they report nothing exactly when it holds.
-/

namespace Adwf.Reconciliation

@[simp]
theorem errorIf_eq_nil_iff {condition : Bool} {text : String} :
    errorIf condition text = [] ↔ condition = false := by
  cases condition <;> simp [errorIf]

theorem toList_append_filterMap {α β : Type} {read : α → Option β} {item : α} {items : List α} :
    (read item).toList ++ items.filterMap read = (item :: items).filterMap read := by
  rw [List.filterMap_cons]
  cases read item <;> rfl

/-! ## Issues -/

section Issues

variable (tools : Tools) (config : Config) (now : Int)

/-- The lease that a marker declares is alive. -/
structure LeaseAlive (marker : Marker) (heartbeat expires : Int) : Prop where
  heartbeatRead : marker.heartbeatAt.bind tools.parseTime = some heartbeat
  expiresRead : marker.expiresAt.bind tools.parseTime = some expires
  started : heartbeat ≤ now
  unexpired : now < expires
  responsive : now - heartbeat ≤ config.stallTimeoutMinutes * 60 * 1000000

/-- The contract of an issue is in order for its state. -/
structure Admissible (issue : Issue) (state : ItemState) (marker : Marker) : Prop where
  parsed : (parsedForm tools config issue state).2 = []
  sound : (tools.issueQuality (parsedForm tools config issue state).1).status ≠ "FAIL"
  sized : state.isSized = true →
    (tools.issueQuality (parsedForm tools config issue state).1).status ≠ "NEEDS_SPLIT"
  marked : state.isMarked = true → marker.valid = true ∧
    marker.roadmapId = some (parsedForm tools config issue state).1.roadmapId ∧
    marker.state = some state.name
  leased : state.isLeased = true → ∃ heartbeat expires,
    LeaseAlive tools config now marker heartbeat expires

/-- An issue whose labels, contract and marker raise no objection. -/
structure InOrder (issue : Issue) : Prop where
  closed : issue.state = "closed" → machineStates issue ≠ [] →
    (tools.parseIssueMarker issue.body).IsDone
  oneState : issue.state ≠ "closed" → ∀ state ∈ machineStates issue,
    ∀ other ∈ machineStates issue, other = state
  admissible : issue.state ≠ "closed" → ∀ state ∈ machineStates issue,
    Admissible tools config now issue state (tools.parseIssueMarker issue.body)

/-- The work item of an open issue with a machine state. -/
def liveItem (issue : Issue) : Option WorkItem :=
  if issue.state = "closed" then none
  else (machineStates issue).head?.map fun state =>
    workItem issue state (tools.parseIssueMarker issue.body)
      (parsedForm tools config issue state).1 false

/-- The `DONE` record of a closed issue. -/
def doneRecord (issue : Issue) : Option (Issue × Marker) :=
  let marker := tools.parseIssueMarker issue.body
  if issue.state = "closed" ∧ marker.IsDone ∧ present marker.roadmapId then some (issue, marker)
  else none

variable {tools config now} {ledger : Ledger} {issue : Issue} {state : ItemState} {marker : Marker}

theorem leaseErrors_eq_nil_iff : leaseErrors tools config now issue marker = [] ↔
      ∃ heartbeat expires, LeaseAlive tools config now marker heartbeat expires := by
  unfold leaseErrors
  constructor
  · intro quiet
    split at quiet
    · rename_i heartbeat expires heartbeatRead expiresRead
      simp only [errorIf_eq_nil_iff, Bool.or_eq_false_iff, decide_eq_false_iff_not] at quiet
      obtain ⟨⟨started, unexpired⟩, responsive⟩ := quiet
      exact ⟨heartbeat, expires, heartbeatRead, expiresRead, by omega, by omega, by omega⟩
    · cases quiet
  · rintro ⟨heartbeat, expires, alive⟩
    rw [alive.heartbeatRead, alive.expiresRead]
    have started := alive.started
    have unexpired := alive.unexpired
    have responsive := alive.responsive
    simp only [errorIf_eq_nil_iff, Bool.or_eq_false_iff, decide_eq_false_iff_not]
    refine ⟨⟨?_, ?_⟩, ?_⟩ <;> omega

theorem leaseFindings_eq_nil_iff : leaseFindings tools config now issue state marker = [] ↔
      (state.isLeased = true → ∃ heartbeat expires,
        LeaseAlive tools config now marker heartbeat expires) := by
  rw [leaseFindings]
  split_ifs with leased
  · rw [leaseErrors_eq_nil_iff]
    simp [leased]
  · simp [leased]

theorem appendIssue_of_admissible (admissible : Admissible tools config now issue state marker)
    (terminal : Bool) : appendIssue tools config now ledger issue state marker terminal =
      ledger.append (workItem issue state marker (parsedForm tools config issue state).1
        terminal) := by
  have marked := admissible.marked
  rw [appendIssue, if_neg, if_neg, if_neg, if_neg, leaseFindings_eq_nil_iff.mpr admissible.leased]
  · simp [Ledger.extend]
  · rintro ⟨isMarked, other | other⟩
    · exact other (marked isMarked).2.1
    · exact other (marked isMarked).2.2
  · rintro ⟨isMarked, invalid⟩
    rw [(marked isMarked).1] at invalid
    cases invalid
  · rintro ⟨split, sized⟩
    exact admissible.sized sized split
  · rintro (failed | failed)
    · exact failed admissible.parsed
    · exact admissible.sound failed

theorem Ledger.fail_errors_ne_nil {error : String} : (ledger.fail error).errors ≠ [] := by
  simp [Ledger.fail, Ledger.extend]

theorem appendIssue_errors_eq_nil_iff {terminal : Bool} :
    (appendIssue tools config now ledger issue state marker terminal).errors = [] ↔
      ledger.errors = [] ∧ Admissible tools config now issue state marker := by
  constructor
  · intro quiet
    simp only [appendIssue] at quiet
    split_ifs at quiet with contract split invalid brain
    · exact absurd quiet Ledger.fail_errors_ne_nil
    · exact absurd quiet Ledger.fail_errors_ne_nil
    · exact absurd quiet Ledger.fail_errors_ne_nil
    · exact absurd quiet Ledger.fail_errors_ne_nil
    · simp only [Ledger.append, Ledger.extend, List.append_eq_nil_iff] at quiet
      rw [not_or, not_not] at contract
      refine ⟨quiet.1, contract.1, contract.2, fun sized isSplit => split ⟨isSplit, sized⟩,
        fun isMarked => ⟨?_, ?_, ?_⟩, leaseFindings_eq_nil_iff.mp quiet.2⟩
      · by_contra unmarked
        exact invalid ⟨isMarked, Bool.eq_false_of_not_eq_true unmarked⟩
      · by_contra other
        exact brain ⟨isMarked, .inl other⟩
      · by_contra other
        exact brain ⟨isMarked, .inr other⟩
  · rintro ⟨quiet, admissible⟩
    rw [appendIssue_of_admissible admissible]
    exact quiet

@[simp]
theorem appendIssue_deferredDone {terminal : Bool} :
    (appendIssue tools config now ledger issue state marker terminal).deferredDone =
      ledger.deferredDone := by
  simp only [appendIssue]
  split_ifs <;> rfl

theorem readClosed_errors_eq_nil_iff : (readClosed ledger issue marker).errors = [] ↔
      ledger.errors = [] ∧ (machineStates issue ≠ [] → marker.IsDone) := by
  unfold readClosed
  split_ifs with done named labelled
  · exact ⟨fun quiet => ⟨quiet, fun _ => done⟩, fun quiet => quiet.1⟩
  · exact ⟨fun quiet => ⟨quiet, fun _ => done⟩, fun quiet => quiet.1⟩
  · exact ⟨fun quiet => absurd quiet Ledger.fail_errors_ne_nil,
      fun quiet => absurd (quiet.2 labelled) done⟩
  · exact ⟨fun quiet => ⟨quiet, fun other => absurd other labelled⟩, fun quiet => quiet.1⟩

theorem readIssue_errors_eq_nil_iff : (readIssue tools config now ledger issue).errors = [] ↔
      ledger.errors = [] ∧ InOrder tools config now issue := by
  unfold readIssue
  by_cases closed : issue.state = "closed"
  · rw [if_pos closed, readClosed_errors_eq_nil_iff]
    constructor
    · rintro ⟨quiet, done⟩
      exact ⟨quiet, fun _ => done, fun isOpen => absurd closed isOpen,
        fun isOpen => absurd closed isOpen⟩
    · rintro ⟨quiet, inOrder⟩
      exact ⟨quiet, inOrder.closed closed⟩
  · rw [if_neg closed]
    cases named : machineStates issue with
    | nil =>
        constructor
        · intro quiet
          refine ⟨quiet, fun isClosed => absurd isClosed closed, fun _ state inside => ?_,
            fun _ state inside => ?_⟩
          all_goals
            rw [named] at inside
            cases inside
        · exact fun quiet => quiet.1
    | cons state others =>
        dsimp only
        split_ifs with same
        · rw [appendIssue_errors_eq_nil_iff]
          have only : ∀ other ∈ machineStates issue, other = state := by
            rw [named]
            intro other inside
            rcases List.mem_cons.mp inside with rfl | later
            · rfl
            · exact of_decide_eq_true (List.all_eq_true.mp same other later)
          constructor
          · rintro ⟨quiet, admissible⟩
            refine ⟨quiet, fun isClosed => absurd isClosed closed,
              fun _ first inside other otherInside => ?_, fun _ other inside => ?_⟩
            · rw [only first inside, only other otherInside]
            · rw [only other inside]
              exact admissible
          · rintro ⟨quiet, inOrder⟩
            have first : state ∈ machineStates issue := by
              rw [named]
              exact List.mem_cons_self
            exact ⟨quiet, inOrder.admissible closed state first⟩
        · constructor
          · exact fun quiet => absurd quiet Ledger.fail_errors_ne_nil
          · rintro ⟨quiet, inOrder⟩
            refine absurd (List.all_eq_true.mpr fun other inside => decide_eq_true ?_) same
            apply inOrder.oneState closed state (named ▸ List.mem_cons_self)
            rw [named]
            exact List.mem_cons_of_mem _ inside

theorem readIssue_of_inOrder (inOrder : InOrder tools config now issue) :
    readIssue tools config now ledger issue =
      { errors := ledger.errors
        workItems := ledger.workItems ++ (liveItem tools config issue).toList
        deferredDone := ledger.deferredDone ++ (doneRecord tools issue).toList } := by
  unfold readIssue liveItem doneRecord
  by_cases closed : issue.state = "closed"
  · have evidence := inOrder.closed closed
    rw [if_pos closed, if_pos closed, readClosed]
    by_cases done : (tools.parseIssueMarker issue.body).IsDone
    · rw [if_pos done]
      by_cases named : present (tools.parseIssueMarker issue.body).roadmapId = true
      · rw [if_pos named, if_pos ⟨closed, done, named⟩]
        simp
      · rw [if_neg named, if_neg fun all => named all.2.2]
        simp
    · rw [if_neg done, if_neg (not_not.mpr (not_imp_comm.mp evidence done)),
        if_neg fun all => done all.2.1]
      simp
  · rw [if_neg closed, if_neg closed, if_neg fun all => closed all.1]
    cases named : machineStates issue with
    | nil => simp
    | cons state others =>
        have first : state ∈ machineStates issue := by
          rw [named]
          exact List.mem_cons_self
        have same : others.all (· = state) = true := by
          apply List.all_eq_true.mpr
          intro other inside
          apply decide_eq_true
          apply inOrder.oneState closed state first
          rw [named]
          exact List.mem_cons_of_mem _ inside
        dsimp only
        rw [if_pos same, appendIssue_of_admissible (inOrder.admissible closed state first)]
        simp [Ledger.append]

theorem foldl_readIssue_errors_eq_nil_iff {issues : List Issue} :
    (issues.foldl (readIssue tools config now) ledger).errors = [] ↔
      ledger.errors = [] ∧ ∀ issue ∈ issues, InOrder tools config now issue := by
  induction issues generalizing ledger with
  | nil => simp
  | cons issue issues ih =>
      rw [List.foldl_cons, ih, readIssue_errors_eq_nil_iff, List.forall_mem_cons, and_assoc]

theorem foldl_readIssue_of_inOrder {issues : List Issue}
    (inOrder : ∀ issue ∈ issues, InOrder tools config now issue) :
    issues.foldl (readIssue tools config now) ledger =
      { errors := ledger.errors
        workItems := ledger.workItems ++ issues.filterMap (liveItem tools config)
        deferredDone := ledger.deferredDone ++ issues.filterMap (doneRecord tools) } := by
  induction issues generalizing ledger with
  | nil => simp
  | cons issue issues ih =>
      rw [List.forall_mem_cons] at inOrder
      rw [List.foldl_cons, ih inOrder.2, readIssue_of_inOrder inOrder.1]
      simp only [List.append_assoc, toList_append_filterMap]

/-! ## The loop over the terminal dependencies -/

variable (tools config now)

/-- At most one closed issue records an id as done, and its contract is in order. -/
structure DoneInOrder (deferredDone : List (Issue × Marker)) (roadmapId : String) : Prop where
  oneRecord : (candidates deferredDone roadmapId).length ≤ 1
  admissible : ∀ entry ∈ candidates deferredDone roadmapId,
    Admissible tools config now entry.1 .done entry.2

/-- The work item of the one closed issue that records an id as done. -/
def doneItem (deferredDone : List (Issue × Marker)) (roadmapId : String) : Option WorkItem :=
  (candidates deferredDone roadmapId).head?.map fun entry =>
    workItem entry.1 .done entry.2 (parsedForm tools config entry.1 .done).1 true

variable {tools config now} {roadmapId : String}

theorem readDone_errors_eq_nil_iff : (readDone tools config now ledger roadmapId).errors = [] ↔
      ledger.errors = [] ∧ DoneInOrder tools config now ledger.deferredDone roadmapId := by
  unfold readDone
  split
  · rename_i none
    constructor
    · intro quiet
      refine ⟨quiet, by simp [none], fun entry inside => ?_⟩
      rw [none] at inside
      cases inside
    · exact fun quiet => quiet.1
  · rename_i closed marker one
    rw [appendIssue_errors_eq_nil_iff]
    constructor
    · rintro ⟨quiet, admissible⟩
      refine ⟨quiet, by simp [one], fun entry inside => ?_⟩
      rw [one, List.mem_singleton] at inside
      rw [inside]
      exact admissible
    · rintro ⟨quiet, inOrder⟩
      exact ⟨quiet, inOrder.admissible (closed, marker) (by simp [one])⟩
  · rename_i noneOf oneOf
    constructor
    · exact fun quiet => absurd quiet Ledger.fail_errors_ne_nil
    · rintro ⟨quiet, inOrder⟩
      have few := inOrder.oneRecord
      cases records : candidates ledger.deferredDone roadmapId with
      | nil => exact absurd records noneOf
      | cons entry others =>
          rw [records, List.length_cons] at few
          have alone : others = [] := List.length_eq_zero_iff.mp (by omega)
          rw [alone] at records
          exact absurd records (oneOf entry.1 entry.2)

theorem readDone_of_inOrder
    (inOrder : DoneInOrder tools config now ledger.deferredDone roadmapId) :
    readDone tools config now ledger roadmapId =
      { ledger with
        workItems := ledger.workItems ++
          (doneItem tools config ledger.deferredDone roadmapId).toList } := by
  have few := inOrder.oneRecord
  unfold readDone doneItem
  cases records : candidates ledger.deferredDone roadmapId with
  | nil => simp
  | cons entry others =>
      rw [records, List.length_cons] at few
      have alone : others = [] := List.length_eq_zero_iff.mp (by omega)
      subst alone
      obtain ⟨closed, marker⟩ := entry
      dsimp only
      rw [appendIssue_of_admissible (inOrder.admissible (closed, marker) (by simp [records]))]
      simp [Ledger.append]

@[simp]
theorem readDone_deferredDone :
    (readDone tools config now ledger roadmapId).deferredDone = ledger.deferredDone := by
  unfold readDone
  split
  · rfl
  · exact appendIssue_deferredDone
  · rfl

theorem foldl_readDone_errors_eq_nil_iff {ids : List String} :
    (ids.foldl (readDone tools config now) ledger).errors = [] ↔ ledger.errors = [] ∧
        ∀ roadmapId ∈ ids, DoneInOrder tools config now ledger.deferredDone roadmapId := by
  induction ids generalizing ledger with
  | nil => simp
  | cons roadmapId ids ih =>
      rw [List.foldl_cons, ih, readDone_errors_eq_nil_iff, readDone_deferredDone,
        List.forall_mem_cons, and_assoc]

theorem foldl_readDone_of_inOrder {ids : List String}
    (inOrder : ∀ roadmapId ∈ ids, DoneInOrder tools config now ledger.deferredDone roadmapId) :
    ids.foldl (readDone tools config now) ledger =
      { ledger with
        workItems := ledger.workItems ++
          ids.filterMap (doneItem tools config ledger.deferredDone) } := by
  induction ids generalizing ledger with
  | nil => simp
  | cons roadmapId ids ih =>
      rw [List.forall_mem_cons] at inOrder
      rw [List.foldl_cons, readDone_of_inOrder inOrder.1, ih]
      · simp only [List.append_assoc, toList_append_filterMap]
      · exact inOrder.2

end Issues

end Adwf.Reconciliation
