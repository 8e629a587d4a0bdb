import Adwf.Leases.Agreement
import Adwf.Workspaces.Occupancy

/-!
# A worker that keeps beating

The record of a workspace and the queue lease it was created from each carry a
heartbeat and an expiry.  The worker renews the clocks of the lease and the
heartbeat of the record; the expiry of the record stays what the lease said
when the workspace was created.
-/

namespace Adwf.Workspaces

open Fallible

/-- What is watched: a workspace, the place of its record and that of its lease. -/
structure Watch where
  config : Config
  tools : Leases.Tools
  workspaceId : String
  position : Nat
  leasePosition : Nat

/-- The registry and the queue, with the worker's last heartbeat of the workspace
and last renewal of the lease. -/
structure Watched where
  registry : Registry
  queue : Leases.Queue
  beatAt : Int
  renewedAt : Int
  leaseUntil : Int

inductive Event where
  | workspace (world : World) (operation : Operation)
  | queue (operation : Leases.Operation)

/-- The time at which an event reconciles. -/
def Event.reconciledAt : Event → Option Int
  | .workspace _ (.reconcile _ now) => some now
  | .queue (.reconcile now) => some now
  | _ => none

/-- The time of a heartbeat of the workspace that did not raise. -/
def Watch.beat (watch : Watch) (operation : Operation) (answer : Except String Unit) :
    Option Int :=
  match operation, answer with
  | .heartbeat workspaceId _ now, .ok _ =>
      if workspaceId = watch.workspaceId then some now else none
  | _, _ => none

/-- The time and the new expiry of a renewal of the lease that did not raise. -/
def Watch.renewal (watch : Watch) (operation : Leases.Operation) (answer : Except String Unit) :
    Option (Int × Int) :=
  match operation, answer with
  | .heartbeat position _ now ttlMinutes, .ok _ =>
      if position = watch.leasePosition then some (now, now + Leases.ttl ttlMinutes) else none
  | _, _ => none

/-- One event. -/
def Watch.next (watch : Watch) (state : Watched) : Event → Watched
  | .workspace world operation =>
      let result := perform watch.config state.registry (world, operation)
      { state with
        registry := result.2
        beatAt := (watch.beat operation result.1).getD state.beatAt }
  | .queue operation =>
      let result := Leases.perform watch.tools state.queue operation
      let renewal := watch.renewal operation result.1
      { state with
        queue := result.2
        renewedAt := (renewal.map Prod.fst).getD state.renewedAt
        leaseUntil := (renewal.map Prod.snd).getD state.leaseUntil }

/-- Whenever something reconciles, the worker has beaten and renewed at most one
stall timeout before. -/
def Watch.Lively (watch : Watch) (state : Watched) (event : Event) : Prop :=
  ∀ now ∈ event.reconciledAt, ∀ last ∈ [state.beatAt, state.renewedAt],
    last ≤ now ∧ now - last ≤ watch.config.stallTimeoutMinutes * minute

/-- The workspaces are reconciled before the expiry the record was created with,
and the queue before the last renewal is 45 minutes old or has expired. -/
def InTime (expires : Int) (state : Watched) : Event → Prop
  | .workspace _ (.reconcile _ now) => now < expires
  | .queue (.reconcile now) => now - state.renewedAt ≤ 45 * minute ∧ now < state.leaseUntil
  | _ => True

/-- Neither is the workspace marked STALLED nor its lease as expired. -/
def Watch.Unmarked (watch : Watch) (state : Watched) : Prop :=
  (∀ record ∈ state.registry[watch.position]?, record.status ≠ .stalled) ∧
    ∀ lease ∈ state.queue.leases[watch.leasePosition]?, lease.isDeclared = true

/-! ## The record -/

variable {config : Config} {world : World} {registry after : Registry} {record : Record}
variable {workspaceId : String} {beatAt expires now : Int}

/-- The record of the workspace shows the worker's last heartbeat and the first
expiry, or is CLEANED. -/
def Alive (workspaceId : String) (beatAt expires : Int) (record : Record) : Prop :=
  record.status = .cleaned ∨
    (record.workspaceId = workspaceId ∧ record.status ≠ .stalled ∧
      record.heartbeatAt = .at beatAt ∧ record.expiresAt = .at expires)

variable {position : Nat} {changed output : Record} {apply : Bool} {lease : Leases.Lease}

theorem changeLive_getElem? {α : Type} {change : Record → Except String (Record × α)} {output : α} (changes : changeLive workspaceId change registry = .ok (after, output))
    (found : registry[position]? = some record) : (live workspaceId record = true ∧
      ∃ changed, change record = .ok (changed, output) ∧ after[position]? = some changed) ∨
      (live workspaceId record = false ∧ after[position]? = some record) := by
  unfold changeLive at changes
  split at changes
  · rename_i only picked
    simp only [bind_ok_iff] at changes
    obtain ⟨⟨changed, output⟩, changed_eq, result⟩ := changes
    cases result
    rw [Picked.update, List.getElem?_map, found]
    cases isLive : live workspaceId record with
    | false => simp [isLive]
    | true =>
        have mem : record ∈ registry.filter (live workspaceId) :=
          List.mem_filter.mpr ⟨List.mem_of_getElem? found, isLive⟩
        rw [picked] at mem
        rcases List.mem_singleton.mp mem with rfl
        exact .inl ⟨rfl, changed, changed_eq, by simp [isLive]⟩
  · cases changes

theorem update_keeps {α : Type} {change : Record → Except String (Record × α)}
    {property : Record → Prop}
    (keeps : ∀ {record changed output}, record.status ≠ .cleaned → property record →
      change record = .ok (changed, output) → property changed)
    (found : registry[position]? = some record) (holds : property record) :
    ∃ record, (atomicRegistryUpdate world registry
      (changeLive workspaceId change)).2[position]? = some record ∧ property record := by
  rcases atomicRegistryUpdate_cases world registry (changeLive workspaceId change) with
    ⟨error, raised⟩ | ⟨updated, output, transformed, stored⟩
  · rw [raised]
    exact ⟨record, found, holds⟩
  · rw [stored]
    rcases changeLive_getElem? transformed found with ⟨isLive, changed, changed_eq, at_position⟩ | ⟨_, same⟩
    · simp only [live, Bool.and_eq_true, decide_eq_true_eq] at isLive
      exact ⟨changed, at_position, keeps isLive.2 holds changed_eq⟩
    · exact ⟨record, same, holds⟩

theorem alive_of_retry {error : String} (alive : Alive workspaceId beatAt expires record)
    (retried : retry error config now record = .ok (changed, output)) :
    Alive workspaceId beatAt expires changed := by
  simp only [retry, bind_ok_iff, require_eq_ok_iff] at retried
  obtain ⟨_, retryable, result⟩ := retried
  rcases alive with cleaned | ⟨named, _, beaten, expiry⟩
  · rcases retryable with status | status <;> rw [status] at cleaned <;> cases cleaned
  · right
    cases result
    split_ifs
    · exact ⟨named, by simp, beaten, expiry⟩
    · exact ⟨named, by simp, beaten, expiry⟩

theorem alive_of_finish (uncleaned : record.status ≠ .cleaned)
    (alive : Alive workspaceId beatAt expires record)
    (finished : finish world record = .ok (changed, output)) :
    Alive workspaceId beatAt expires changed := by
  simp only [finish, bind_ok_iff, require_eq_ok_iff] at finished
  obtain ⟨_, _, _, _, head, _, result⟩ := finished
  rcases alive with cleaned | ⟨named, _, beaten, expiry⟩
  · exact absurd cleaned uncleaned
  · cases result
    exact .inr ⟨named, by simp, beaten, expiry⟩

theorem alive_of_clean {output : String × Record} (alive : Alive workspaceId beatAt expires record)
    (cleaned : clean world config apply record = .ok (changed, output)) :
    Alive workspaceId beatAt expires changed := by
  simp only [clean, bind_ok_iff, require_eq_ok_iff] at cleaned
  obtain ⟨_, _, _, _, _, _, _, _, result⟩ := cleaned
  cases apply with
  | false =>
      cases result
      exact alive
  | true =>
      simp only [if_true, bind_ok_iff] at result
      obtain ⟨_, _, result⟩ := result
      cases result
      exact .inl rfl

theorem alive_of_beat {workerId : String}
    (uncleaned : record.status ≠ .cleaned) (alive : Alive workspaceId beatAt expires record)
    (beaten : beat workerId now record = .ok (changed, output)) :
    Alive workspaceId now expires changed := by
  simp only [beat, bind_ok_iff, require_eq_ok_iff] at beaten
  obtain ⟨_, _, _, _, result⟩ := beaten
  rcases alive with cleaned | ⟨named, _, _, expiry⟩
  · exact absurd cleaned uncleaned
  · cases result
    exact .inr ⟨named, by simp, rfl, expiry⟩

theorem alive_reconcileRecord (alive : Alive workspaceId beatAt expires record)
    (recent : now - beatAt ≤ config.stallTimeoutMinutes * minute) (early : now < expires) :
    Alive workspaceId beatAt expires (reconcileRecord world config now record).1 := by
  rcases alive with cleaned | ⟨named, unstalled, beaten, expiry⟩
  · left
    simp [reconcileRecord, cleaned]
  · right
    have fresh : isStalled config now record = false := by
      simp only [isStalled, beaten, expiry, Timestamp.parse_at, Bool.or_eq_false_iff,
        decide_eq_false_iff_not]
      omega
    unfold reconcileRecord
    split
    · simp only [fresh, Bool.false_eq_true, if_false]
      split_ifs
      · exact ⟨named, by simp, beaten, expiry⟩
      · exact ⟨named, unstalled, beaten, expiry⟩
    · split
      · exact ⟨named, unstalled, beaten, expiry⟩
      · exact ⟨named, unstalled, beaten, expiry⟩
      · exact ⟨named, by simp, beaten, expiry⟩
      · split_ifs
        · exact ⟨named, by simp, beaten, expiry⟩
        · exact ⟨named, unstalled, beaten, expiry⟩
    · exact ⟨named, unstalled, beaten, expiry⟩

theorem createWorkspace_keeps (found : registry[position]? = some record) :
    (createWorkspace world registry lease config apply now).2[position]? = some record := by
  rcases createWorkspace_cases world registry lease config apply now with
    ⟨same, _⟩ | ⟨plan, _, _, _, created⟩
  · rw [same]
    exact found
  · rw [created, List.getElem?_append_left]
    · exact found
    · exact (List.getElem?_eq_some_iff.mp found).choose

theorem alive_of_created
    (created : createWorkspace world registry lease config apply now = (.ok (.created record), after))
    (expiry : lease.expiresAt = some (.at expires)) :
    after = registry ++ [record] ∧ Alive record.workspaceId now expires record ∧
      lease.isDeclared = true := by
  rcases createWorkspace_cases world registry lease config apply now with
    ⟨_, uncreated⟩ | ⟨plan, planned, _, _, result⟩
  · exact absurd (congrArg Prod.fst created) (uncreated record)
  · rw [created] at result
    cases result
    simp only [checkedPlan, planWorkspace, validateLease, bind_ok_iff, require_eq_ok_iff]
      at planned
    obtain ⟨_, ⟨_, ⟨_, stated, _, _, bound⟩, _, _, _, _, planned⟩, _, _, _, _, _, _, same⟩ :=
      planned
    cases bound
    cases planned
    cases same
    refine ⟨rfl, .inr ⟨rfl, by simp [newRecord], rfl, by simp [newRecord, expiry]⟩, ?_⟩
    rw [NextAction.Lease.isDeclared, stated.2]
    rfl

/-! ## The lease -/

/-- The queue lease shows the worker's last renewal and the expiry it set. -/
structure LeaseAlive (renewedAt leaseUntil : Int) (lease : Leases.Lease) : Prop where
  declared : lease.isDeclared = true
  heartbeat : lease.heartbeatAt = some (.at renewedAt)
  expiry : lease.expiresAt = some (.at leaseUntil)

/-- What the watched places of the registry and the queue hold. -/
structure Watch.Kept (watch : Watch) (expires : Int) (state : Watched) : Prop where
  record : ∃ record, state.registry[watch.position]? = some record ∧
    Alive watch.workspaceId state.beatAt expires record
  lease : ∃ lease, state.queue.leases[watch.leasePosition]? = some lease ∧
    LeaseAlive state.renewedAt state.leaseUntil lease

theorem Watch.Kept.unmarked {watch : Watch} {state : Watched} (kept : watch.Kept expires state) :
    watch.Unmarked state := by
  obtain ⟨⟨record, found, alive⟩, lease, held, leaseAlive⟩ := kept
  constructor
  · intro other at_position
    rw [found, Option.mem_some_iff] at at_position
    subst at_position
    rcases alive with cleaned | ⟨_, unstalled, _⟩
    · rw [cleaned]
      decide
    · exact unstalled
  · intro other at_position
    rw [held, Option.mem_some_iff] at at_position
    subst at_position
    exact leaseAlive.declared

theorem expire_eq_self {renewedAt leaseUntil : Int}
    (alive : LeaseAlive renewedAt leaseUntil lease) (past : renewedAt ≤ now)
    (recent : now - renewedAt ≤ 45 * minute) (early : now < leaseUntil) :
    Leases.expire now lease = lease := by
  have fresh : Leases.leaseFresh now lease = true := by
    rw [Leases.leaseFresh_iff, alive.heartbeat, alive.expiry]
    exact ⟨alive.declared, ⟨leaseUntil, rfl, early⟩, renewedAt, rfl, past, recent⟩
  simp [Leases.expire, fresh]

variable {watch : Watch} {state : Watched}

theorem lease_kept (kept : watch.Kept expires state) (operation : Leases.Operation)
    (lively : watch.Lively state (.queue operation))
    (inTime : InTime expires state (.queue operation)) :
    ∃ lease, (watch.next state (.queue operation)).queue.leases[watch.leasePosition]? = some lease ∧
      LeaseAlive (watch.next state (.queue operation)).renewedAt
        (watch.next state (.queue operation)).leaseUntil lease := by
  obtain ⟨lease, held, alive⟩ := kept.lease
  cases operation with
  | claim args =>
      cases ran : Leases.claim watch.tools state.queue args with
      | error error =>
          simp only [Watch.next, Leases.perform, Leases.call, ran, Except.map]
          exact ⟨lease, held, alive⟩
      | ok result =>
          obtain ⟨issue, front, back, claimed⟩ := Leases.claimed_of_claim ran
          simp only [Watch.next, Leases.perform, Leases.call, ran, Except.map]
          refine ⟨lease, ?_, alive⟩
          rw [claimed.leases_eq, List.getElem?_append_left]
          · exact held
          · exact (List.getElem?_eq_some_iff.mp held).choose
  | heartbeat position workerId now ttlMinutes =>
      cases found : state.queue.leases[position]? with
      | none =>
          simp only [Watch.next, Leases.perform, Leases.call, found]
          exact ⟨lease, held, alive⟩
      | some old =>
          cases ran : Leases.heartbeat old workerId now ttlMinutes with
          | error error =>
              simp only [Watch.next, Leases.perform, Leases.call, found, ran, Except.map]
              exact ⟨lease, held, alive⟩
          | ok renewed =>
              obtain ⟨_, _, same⟩ := Leases.of_heartbeat ran
              simp only [Watch.next, Leases.perform, Leases.call, found, ran, Except.map,
                Watch.renewal]
              by_cases here : position = watch.leasePosition
              · subst here
                rw [found, Option.some.injEq] at held
                subst held
                have inside := (List.getElem?_eq_some_iff.mp found).choose
                refine ⟨renewed, List.getElem?_set_self inside, ?_⟩
                rw [if_pos rfl, same]
                exact ⟨alive.declared, rfl, rfl⟩
              · rw [if_neg here, List.getElem?_set_ne here]
                exact ⟨lease, held, alive⟩
  | reconcile now =>
      have recent := lively now rfl state.renewedAt (by simp)
      have unexpired := expire_eq_self alive recent.1 inTime.1 inTime.2
      refine ⟨lease, ?_, alive⟩
      change (Leases.reconcileLeases now state.queue.issues state.queue.leases).2.1[_]? = _
      rw [(Leases.reconcileLeases_eq now state.queue.issues state.queue.leases).2,
        List.getElem?_map, held]
      exact congrArg some unexpired

theorem record_kept_of_heartbeat (kept : watch.Kept expires state) (world : World)
    (workspaceId workerId : String) (now : Int) :
    let after := watch.next state (.workspace world (.heartbeat workspaceId workerId now))
    ∃ record, after.registry[watch.position]? = some record ∧
      Alive watch.workspaceId after.beatAt expires record := by
  obtain ⟨record, found, alive⟩ := kept.record
  simp only [Watch.next, perform, heartbeatWorkspace]
  rcases atomicRegistryUpdate_cases world state.registry
    (changeLive workspaceId (beat workerId now)) with
    ⟨error, raised⟩ | ⟨updated, output, transformed, stored⟩
  · rw [raised]
    exact ⟨record, found, alive⟩
  · rw [stored]
    rcases changeLive_getElem? transformed found with
      ⟨isLive, changed, beaten, at_position⟩ | ⟨dead, same⟩
    · simp only [live, Bool.and_eq_true, decide_eq_true_eq] at isLive
      refine ⟨changed, at_position, ?_⟩
      rcases alive with cleaned | ⟨named, unstalled, heartbeat, expiry⟩
      · exact absurd cleaned isLive.2
      · have here : workspaceId = watch.workspaceId := isLive.1.symm.trans named
        simp only [Prod.map, Except.map, Watch.beat, if_pos here, Option.getD_some]
        exact alive_of_beat isLive.2 (.inr ⟨named, unstalled, heartbeat, expiry⟩) beaten
    · refine ⟨record, same, ?_⟩
      by_cases here : workspaceId = watch.workspaceId
      · rcases alive with cleaned | ⟨named, _⟩
        · exact .inl cleaned
        · by_cases cleaned : record.status = .cleaned
          · exact .inl cleaned
          · simp [live, named, here, cleaned] at dead
      · simp only [Prod.map, Except.map, Watch.beat, if_neg here, Option.getD_none]
        exact alive

theorem record_kept (kept : watch.Kept expires state) (world : World) (operation : Operation)
    (lively : watch.Lively state (.workspace world operation))
    (inTime : InTime expires state (.workspace world operation)) :
    ∃ record, (watch.next state (.workspace world operation)).registry[watch.position]? =
        some record ∧
      Alive watch.workspaceId (watch.next state (.workspace world operation)).beatAt expires
        record := by
  obtain ⟨record, found, alive⟩ := kept.record
  cases operation with
  | create lease apply now => exact ⟨record, createWorkspace_keeps found, alive⟩
  | heartbeat workspaceId workerId now =>
      exact record_kept_of_heartbeat kept world workspaceId workerId now
  | reconcile apply now =>
      have recent := lively now rfl state.beatAt (by simp)
      cases apply with
      | false => exact ⟨record, found, alive⟩
      | true =>
          change ∃ record, (atomicRegistryUpdate world state.registry
            (reconcileAll world watch.config now)).2[_]? = _ ∧ _
          rcases atomicRegistryUpdate_cases world state.registry
            (reconcileAll world watch.config now) with
            ⟨error, raised⟩ | ⟨updated, output, transformed, stored⟩
          · rw [raised]
            exact ⟨record, found, alive⟩
          · rw [stored]
            cases transformed
            refine ⟨(reconcileRecord world watch.config now record).1, ?_,
              alive_reconcileRecord alive recent.2 inTime⟩
            rw [List.map_map, List.getElem?_map, found]
            rfl
  | scheduleRetry workspaceId error now =>
      exact update_keeps (fun _ => alive_of_retry) found alive
  | complete workspaceId => exact update_keeps alive_of_finish found alive
  | cleanup workspaceId apply =>
      cases apply with
      | false => exact ⟨record, found, alive⟩
      | true => exact update_keeps (fun _ => alive_of_clean) found alive

theorem kept_next (kept : watch.Kept expires state) (event : Event)
    (lively : watch.Lively state event) (inTime : InTime expires state event) :
    watch.Kept expires (watch.next state event) := by
  cases event with
  | workspace world operation => exact ⟨record_kept kept world operation lively inTime, kept.lease⟩
  | queue operation => exact ⟨kept.record, lease_kept kept operation lively inTime⟩

/-! ## Runs -/

/-- The workspace was just created from the lease at its place in the queue. -/
def Watch.JustCreated (watch : Watch) (start : Watched) : Prop :=
  ∃ world before lease record, createWorkspace world before lease watch.config true start.beatAt =
        (.ok (.created record), start.registry) ∧
      record.workspaceId = watch.workspaceId ∧ before.length = watch.position ∧
      start.queue.leases[watch.leasePosition]? = some lease ∧
      lease.heartbeatAt = some (.at start.renewedAt) ∧
      lease.expiresAt = some (.at start.leaseUntil)

theorem Watch.JustCreated.kept (created : watch.JustCreated state) :
    watch.Kept state.leaseUntil state := by
  obtain ⟨world, before, lease, record, created, named, place, held, renewed, expiry⟩ := created
  obtain ⟨appended, alive, declared⟩ := alive_of_created created expiry
  constructor
  · refine ⟨record, ?_, by rw [← named]; exact alive⟩
    rw [appended, ← place]
    exact List.getElem?_concat_length
  · exact ⟨lease, held, declared, renewed, expiry⟩

/-- A worker that keeps beating and renewing is not marked while the workspaces are
reconciled before the lease of the creation would have run out, and the queue before
the last renewal is too old. -/
theorem unmarked_of_inTime (watch : Watch) (start : Watched) (events : List Event)
    (created : watch.JustCreated start) (lively : Run.Along watch.next watch.Lively start events)
    (inTime : Run.Along watch.next (InTime start.leaseUntil) start events) :
    Run.Always watch.next watch.Unmarked start events := by
  have kept : ∀ state event, watch.Kept start.leaseUntil state →
      watch.Lively state event ∧ InTime start.leaseUntil state event →
      watch.Kept start.leaseUntil (watch.next state event) :=
    fun state event kept guard => kept_next kept event guard.1 guard.2
  exact (Run.always_of_guarded kept created.kept (lively.and inTime)).imp
    fun state kept => kept.unmarked

/-- Git and the file system of a clean checkout in `/repo`. -/
def checkout : World where
  base := ["repo"]
  resolve := fun text =>
    if text = "/repo" then ["repo"] else "repo" :: (text.toList.splitOn '/').map String.ofList
  pathExists := fun _ => false
  isDir := fun _ => true
  git := fun _ args =>
    if args = ["rev-parse", "--show-toplevel"] then { stdout := "/repo" }
    else if args.head? = some "show-ref" then { returncode := 1 }
    else {}
  fault := none

/-- A lease claimed for two hours at time 0. -/
def claimedLease : Leases.Lease where
  leaseId := some "lease"
  issueId := some "17"
  roadmapId := some "RM-42"
  workerId := some "writer"
  claimedAt := some (.at 0)
  heartbeatAt := some (.at 0)
  expiresAt := some (.at (120 * minute))
  baseSha := some "0123456789012345678901234567890123456789"
  workspaceId := some "rm-42-issue-17"
  workspacePath := some ".adwf-runtime/workspaces/rm-42-issue-17"
  branch := some "adwf/rm-42-issue-17"
  status := some "ACTIVE"

def onlyWatch : Watch where
  config := {}
  tools := Leases.asciiTools
  workspaceId := "rm-42-issue-17"
  position := 0
  leasePosition := 0

/-- The workspace of the lease, created at time 0. -/
def justCreated : Watched where
  registry := (createWorkspace checkout [] claimedLease {} true 0).2
  queue := { leases := [claimedLease] }
  beatAt := 0
  renewedAt := 0
  leaseUntil := 120 * minute

/-- The worker beats and renews at the given minute. -/
def beatsAt (minutes : Int) : List Event :=
  [.workspace checkout (.heartbeat "rm-42-issue-17" "writer" (minutes * minute)),
    .queue (.heartbeat 0 "writer" (minutes * minute) 120)]

theorem onlyWatch_justCreated : onlyWatch.JustCreated justCreated :=
  ⟨checkout, [], claimedLease, _, rfl, rfl, rfl, rfl, rfl, rfl⟩

instance (watch : Watch) (state : Watched) (event : Event) :
    Decidable (watch.Lively state event) :=
  inferInstanceAs (Decidable (∀ now ∈ event.reconciledAt, ∀ last ∈ [state.beatAt, state.renewedAt],
    last ≤ now ∧ now - last ≤ watch.config.stallTimeoutMinutes * minute))

/-- One beat, and both stores reconciled half an hour later. -/
def reconciledInTime : List Event :=
  beatsAt 40 ++
    [.workspace checkout (.reconcile true (70 * minute)), .queue (.reconcile (70 * minute))]

theorem reconciledInTime_unmarked :
    Run.Always onlyWatch.next onlyWatch.Unmarked justCreated reconciledInTime := by
  refine unmarked_of_inTime onlyWatch justCreated reconciledInTime onlyWatch_justCreated
    (by decide +kernel) ?_
  have early : (70 * minute : Int) < 120 * minute := by decide
  have recent : (70 * minute : Int) - 40 * minute ≤ 45 * minute := by decide
  have unexpired : (70 * minute : Int) < 40 * minute + Leases.ttl 120 := by decide
  exact ⟨trivial, trivial, early, ⟨recent, unexpired⟩, trivial⟩

/-- Three beats of workspace and lease, and the workspaces reconciled two minutes after
the last, when the two hours of the first lease are over. -/
def reconciledLate : List Event :=
  beatsAt 40 ++ beatsAt 80 ++ beatsAt 119 ++ [.workspace checkout (.reconcile true (121 * minute))]

/-- A worker that beats and renews in time is marked as stalled. -/
theorem live_worker_marked :
    ¬ ∀ (watch : Watch) (start : Watched) (events : List Event), watch.JustCreated start →
        Run.Along watch.next watch.Lively start events →
        Run.Always watch.next watch.Unmarked start events := by
  intro always
  have unmarked := always onlyWatch justCreated reconciledLate onlyWatch_justCreated
    (by decide +kernel)
  have stalled : ((Run.final onlyWatch.next justCreated reconciledLate).registry.map
      Record.status)[0]? = some .stalled := by decide +kernel
  rw [List.getElem?_map, Option.map_eq_some_iff] at stalled
  obtain ⟨record, found, marked⟩ := stalled
  exact unmarked.final.1 record found marked

end Adwf.Workspaces
