import Adwf.Leases.Queue

/-!
# Agreement of the queue with its leases

The issues in progress and the ACTIVE leases name each other one to one.  A
lease is ACTIVE while its status declares it; the operations decide by clocks
which of the ACTIVE leases still count.
-/

namespace Adwf.Leases

open Fallible NextAction

variable {tools : Tools} {queue after : Queue} {args : ClaimArgs} {lease : Lease}
variable {now : Int}

/-- The leases declared ACTIVE. -/
def Queue.declared (queue : Queue) : List Lease :=
  queue.leases.filter (·.isDeclared)

def Issue.inProgress (issue : Issue) : Bool :=
  issue.state = some "IN_PROGRESS"

/-- Every issue in progress has exactly one ACTIVE lease and vice versa. -/
structure Queue.Agrees (queue : Queue) : Prop where
  distinct : (queue.issues.map (·.id)).Nodup
  leased : ∀ issue ∈ queue.issues, issue.inProgress →
    queue.leases.countP (fun lease => lease.isDeclared && lease.issue = issue.id) = 1
  working : ∀ lease ∈ queue.leases, lease.isDeclared →
    queue.issues.countP (fun issue => issue.inProgress && issue.id = lease.issue) = 1

/-- The ACTIVE leases have pairwise disjoint conflict domains. -/
def Queue.Disjoint (queue : Queue) : Prop :=
  queue.declared.Pairwise fun first second =>
    first.conflictDomains.Disjoint second.conflictDomains

/-! ## The correspondence as a permutation -/

/-- The issues the ACTIVE leases name. -/
def Queue.leased (queue : Queue) : List String :=
  queue.declared.map Lease.issue

/-- The issues in progress. -/
def Queue.working (queue : Queue) : List String :=
  (queue.issues.filter Issue.inProgress).map (·.id)

theorem Queue.count_leased (queue : Queue) (name : String) : queue.leased.count name =
      queue.leases.countP fun lease => lease.isDeclared && lease.issue = name := by
  rw [leased, declared, List.count_eq_countP, List.countP_map, List.countP_filter]
  apply List.countP_congr
  intro lease _
  simp [and_comm]

theorem Queue.count_working (queue : Queue) (name : String) : queue.working.count name =
      queue.issues.countP fun issue => issue.inProgress && issue.id = name := by
  rw [working, List.count_eq_countP, List.countP_map, List.countP_filter]
  apply List.countP_congr
  intro issue _
  simp [and_comm]

theorem Queue.nodup_working (distinct : (queue.issues.map (·.id)).Nodup) : queue.working.Nodup :=
  distinct.sublist (List.filter_sublist.map _)

theorem Queue.Agrees.perm (agrees : queue.Agrees) : queue.leased.Perm queue.working := by
  rw [List.perm_iff_count]
  intro name
  by_cases named : name ∈ queue.working
  · obtain ⟨issue, mem, rfl⟩ := List.mem_map.mp named
    obtain ⟨inside, inProgress⟩ := List.mem_filter.mp mem
    rw [count_leased, agrees.leased issue inside inProgress,
      List.count_eq_one_of_mem (nodup_working agrees.distinct) named]
  · rw [List.count_eq_zero_of_not_mem named, List.count_eq_zero]
    intro held
    obtain ⟨lease, mem, rfl⟩ := List.mem_map.mp held
    obtain ⟨inside, declared⟩ := List.mem_filter.mp mem
    have once := agrees.working lease inside declared
    rw [← count_working, List.count_eq_zero_of_not_mem named] at once
    cases once

/-- The correspondence: distinct issues, and the leased ones are those in progress. -/
theorem Queue.agrees_iff (queue : Queue) :
    queue.Agrees ↔ (queue.issues.map (·.id)).Nodup ∧ queue.leased.Perm queue.working := by
  constructor
  · intro agrees
    exact ⟨agrees.distinct, agrees.perm⟩
  · rintro ⟨distinct, perm⟩
    have once : ∀ name ∈ queue.working, queue.working.count name = 1 :=
      fun name => List.count_eq_one_of_mem (nodup_working distinct)
    constructor
    · exact distinct
    · intro issue inside inProgress
      rw [← count_leased, perm.count_eq]
      exact once _ (List.mem_map_of_mem (List.mem_filter.mpr ⟨inside, inProgress⟩))
    · intro lease inside declared
      rw [← count_working]
      apply once
      rw [← perm.mem_iff]
      exact List.mem_map_of_mem (List.mem_filter.mpr ⟨inside, declared⟩)

/-! ## Claims -/

/-- What a successful claim found and what it did. -/
structure Claimed (queue : Queue) (args : ClaimArgs) (after : Queue) (lease : Lease)
    (issue : Issue) (front back : List Issue) : Prop where
  picked : Picked.Split (Issue.hasId args.issueId) queue.issues front issue back
  ready : issue.state = some "READY"
  allFresh : invalidDeclaredActiveLeases args.now queue.leases = []
  alone : args.oneActiveWriter = true → activeLeases args.now queue.held = []
  free : conflictDomains args.now issue.toIssue queue.held = []
  names : lease.issue = issue.id
  active : lease.isDeclared = true
  domains : lease.conflictDomains = issue.conflictDomains
  issues_eq : after.issues = front ++ claimed lease issue :: back
  leases_eq : after.leases = queue.leases ++ [lease]

theorem claimed_of_claim (ran : claim tools queue args = .ok (after, lease)) :
    ∃ issue front back, Claimed queue args after lease issue front back := by
  unfold claim at ran
  split at ran
  · rename_i issue picked
    obtain ⟨front, back, split⟩ := Picked.exists_split picked
    simp only [checkIssue, bind_ok_iff, require_eq_ok_iff] at ran
    obtain ⟨_, allFresh, _, alone, _, ⟨_, ready, _⟩, _, _, _, _, _, _, _, free, _, _, roadmapSlug, _,
      issueSlug, _, result⟩ := ran
    cases result
    refine ⟨issue, front, back, split, ready, allFresh, alone, free, ?_, rfl, rfl,
      split.update_eq _, rfl⟩
    have named : issue.id = args.issueId := of_decide_eq_true split.passes
    exact named.symm
  · cases ran

theorem unique_eq_nil_iff {items : List String} : unique items = [] ↔ items = [] := by
  simp [unique]

theorem leaseFreshnessErrors_eq_nil_iff {lease : NextAction.Lease} {timeoutMinutes : Int} :
    leaseFreshnessErrors lease now timeoutMinutes = [] ↔ lease.isDeclared = true ∧
        (∃ expires, instant lease.expiresAt = some expires ∧ now < expires) ∧
        ∃ heartbeat, instant lease.heartbeatAt = some heartbeat ∧ heartbeat ≤ now ∧
          now - heartbeat ≤ max 1 timeoutMinutes * minute := by
  rw [leaseFreshnessErrors, unique_eq_nil_iff, List.append_eq_nil_iff, List.append_eq_nil_iff,
    and_assoc]
  refine and_congr ?_ (and_congr ?_ ?_)
  · simp
  · cases instant lease.expiresAt <;> simp
  · cases instant lease.heartbeatAt with
    | none => simp
    | some heartbeat =>
        by_cases future : heartbeat > now
        · simp [future]
        · by_cases late : now - heartbeat > max 1 timeoutMinutes * minute
          · simp only [future, late, if_true, if_false, reduceCtorEq, Option.some.injEq,
              exists_eq_left', false_iff]
            omega
          · simpa [future, late] using ⟨not_lt.mp future, by omega⟩

theorem leaseFresh_iff : leaseFresh now lease = true ↔ lease.isDeclared = true ∧
        (∃ expires, instant lease.expiresAt = some expires ∧ now < expires) ∧
        ∃ heartbeat, instant lease.heartbeatAt = some heartbeat ∧ heartbeat ≤ now ∧
          now - heartbeat ≤ 45 * minute := by
  rw [leaseFresh, decide_eq_true_iff, leaseFreshnessErrors_eq_nil_iff]
  rfl

theorem leaseActive_of_leaseFresh (fresh : leaseFresh now lease = true) :
    leaseActive now lease.toLease = true := by
  obtain ⟨declared, ⟨expires, parsed, future⟩, _⟩ := leaseFresh_iff.mp fresh
  simp [leaseActive, parsed, future, declared]

namespace Claimed

variable {issue : Issue} {front back : List Issue}

theorem mem_activeLeases (claim : Claimed queue args after lease issue front back)
    {other : Lease} (mem : other ∈ queue.declared) :
    other.toLease ∈ activeLeases args.now queue.held := by
  obtain ⟨inside, declared⟩ := List.mem_filter.mp mem
  apply List.mem_filter.mpr
  constructor
  · exact List.mem_map_of_mem inside
  · apply leaseActive_of_leaseFresh
    by_contra stale
    have invalid : other ∈ invalidDeclaredActiveLeases args.now queue.leases :=
      List.mem_filter.mpr ⟨inside, by simp [declared, stale]⟩
    rw [claim.allFresh] at invalid
    cases invalid

theorem declared_eq (claim : Claimed queue args after lease issue front back) :
    after.declared = queue.declared ++ [lease] := by
  rw [Queue.declared, claim.leases_eq, List.filter_append]
  simp [Queue.declared, claim.active]

theorem agrees (claim : Claimed queue args after lease issue front back)
    (agrees : queue.Agrees) : after.Agrees := by
  obtain ⟨distinct, perm⟩ := queue.agrees_iff.mp agrees
  rw [Queue.agrees_iff]
  constructor
  · rw [claim.issues_eq]
    rw [claim.picked.items_eq] at distinct
    simpa [claimed] using distinct
  · have leased : after.leased = queue.leased ++ [issue.id] := by
      simp [Queue.leased, claim.declared_eq, claim.names]
    have before : queue.working =
        (front.filter Issue.inProgress).map (·.id) ++
          (back.filter Issue.inProgress).map (·.id) := by
      simp [Queue.working, claim.picked.items_eq, Issue.inProgress, claim.ready]
    have working : after.working =
        (front.filter Issue.inProgress).map (·.id) ++
          issue.id :: (back.filter Issue.inProgress).map (·.id) := by
      simp [Queue.working, claim.issues_eq, Issue.inProgress, claimed]
    rw [leased, working]
    refine List.Perm.trans ?_ List.perm_middle.symm
    rw [← before]
    exact (List.perm_append_singleton _ _).trans (perm.cons _)

theorem declared_eq_nil (claim : Claimed queue args after lease issue front back)
    (alone : args.oneActiveWriter = true) : queue.declared = [] := by
  rw [List.eq_nil_iff_forall_not_mem]
  intro other mem
  have active := claim.mem_activeLeases mem
  rw [claim.alone alone] at active
  cases active

theorem disjoint (claim : Claimed queue args after lease issue front back)
    (disjoint : queue.Disjoint) : after.Disjoint := by
  rw [Queue.Disjoint, claim.declared_eq, List.pairwise_append]
  refine ⟨disjoint, List.pairwise_singleton _ _, ?_⟩
  intro other mem new inside
  rcases List.mem_singleton.mp inside with rfl
  intro domain held wanted
  rw [claim.domains] at wanted
  have busy : domain ∈ conflictDomains args.now issue.toIssue queue.held := by
    rw [conflictDomains, Ranked.mem_sortedBy, List.mem_dedup, List.mem_flatMap]
    exact ⟨other.toLease, claim.mem_activeLeases mem, List.mem_filter.mpr ⟨wanted, by
      simpa using held⟩⟩
  rw [claim.free] at busy
  cases busy

end Claimed

/-! ## Renewals -/

/-- A renewed lease was ACTIVE and keeps everything but its clocks. -/
theorem of_heartbeat {renewed : Lease} {workerId : String} {ttlMinutes : Int}
    (ran : heartbeat lease workerId now ttlMinutes = .ok renewed) :
    leaseFresh now lease = true ∧ lease.workerId = some workerId ∧ renewed = { lease with
        heartbeatAt := some (.at now)
        expiresAt := some (.at (now + ttl ttlMinutes)) } := by
  simp only [heartbeat, bind_ok_iff, require_eq_ok_iff] at ran
  obtain ⟨_, fresh, _, owner, result⟩ := ran
  cases result
  exact ⟨decide_eq_true fresh, owner, rfl⟩

/-- What the correspondence and the conflict checks read of a lease. -/
def Lease.grip (lease : Lease) : Bool × String × List String :=
  (lease.isDeclared, lease.issue, lease.conflictDomains)

theorem Queue.declared_map_eq (queue : Queue) {α : Type} (f : String × List String → α) :
    queue.declared.map (fun lease => f (lease.issue, lease.conflictDomains)) =
      ((queue.leases.map Lease.grip).filter Prod.fst).map (f ∘ Prod.snd) := by
  rw [List.filter_map, List.map_map]
  rfl

theorem map_set_eq {α β : Type} {f : α → β} {items : List α} {position : Nat} {item other : α}
    (found : items[position]? = some item) (same : f other = f item) :
    (items.set position other).map f = items.map f := by
  have kept : (items.map f)[position]? = some (f item) := by
    rw [List.getElem?_map, found]
    rfl
  obtain ⟨inside, at_position⟩ := List.getElem?_eq_some_iff.mp kept
  rw [List.map_set, same, ← at_position]
  exact List.set_getElem_self inside

/-- The stored renewal of the lease at a position. -/
structure Renewed (queue : Queue) (position : Nat) (now : Int) (after : Queue)
    (lease renewed : Lease) : Prop where
  found : queue.leases[position]? = some lease
  fresh : leaseFresh now lease = true
  same : renewed.grip = lease.grip
  stored : after = { queue with leases := queue.leases.set position renewed }

namespace Renewed

variable {position : Nat} {renewed : Lease}

theorem declared_map_eq (renewal : Renewed queue position now after lease renewed) {α : Type}
    (f : String × List String → α) :
    after.declared.map (fun lease => f (lease.issue, lease.conflictDomains)) =
      queue.declared.map (fun lease => f (lease.issue, lease.conflictDomains)) := by
  rw [Queue.declared_map_eq, Queue.declared_map_eq, renewal.stored,
    map_set_eq renewal.found renewal.same]

theorem agrees (renewal : Renewed queue position now after lease renewed)
    (agrees : queue.Agrees) : after.Agrees := by
  have leased : after.leased = queue.leased := renewal.declared_map_eq Prod.fst
  have issues : after.issues = queue.issues := by rw [renewal.stored]
  rw [Queue.agrees_iff, leased, Queue.working, issues]
  exact queue.agrees_iff.mp agrees

theorem length_declared (renewal : Renewed queue position now after lease renewed) :
    after.declared.length = queue.declared.length := by
  simpa using congrArg List.length (renewal.declared_map_eq id)

theorem disjoint (renewal : Renewed queue position now after lease renewed)
    (disjoint : queue.Disjoint) : after.Disjoint := by
  have domains : after.declared.map (fun lease => lease.conflictDomains) =
      queue.declared.map (fun lease => lease.conflictDomains) := renewal.declared_map_eq Prod.snd
  have apart : (queue.declared.map fun lease => lease.conflictDomains).Pairwise List.Disjoint :=
    List.pairwise_map.mpr disjoint
  rw [← domains] at apart
  exact List.pairwise_map.mp apart

end Renewed

/-! ## Reconciliation -/

/-- `lease["status"] = "EXPIRED"` for a declared lease that is not fresh. -/
def expire (now : Int) (lease : Lease) : Lease :=
  if lease.isDeclared && !leaseFresh now lease then { lease with status := some "EXPIRED" }
  else lease

/-- All the stale leases recover their issue. -/
def recoverAll (stale : List Lease) (issue : Issue) : Issue :=
  stale.foldl (fun issue lease => recover lease issue) issue

theorem reconcileLeases_eq (now : Int) (issues : List Issue) (leases : List Lease) :
    (reconcileLeases now issues leases).1 =
        issues.map (recoverAll (invalidDeclaredActiveLeases now leases)) ∧
      (reconcileLeases now issues leases).2.1 = leases.map (expire now) := by
  induction leases generalizing issues with
  | nil => exact ⟨(List.map_id' issues).symm, rfl⟩
  | cons lease rest ih =>
      by_cases stale : (lease.isDeclared && !leaseFresh now lease) = true
      · obtain ⟨issuesEq, leasesEq⟩ := ih (issues.map (recover lease))
        have invalid : invalidDeclaredActiveLeases now (lease :: rest) =
            lease :: invalidDeclaredActiveLeases now rest := List.filter_cons_of_pos stale
        constructor
        · simp only [reconcileLeases, if_pos stale, issuesEq, List.map_map, invalid]
          rfl
        · simp only [reconcileLeases, if_pos stale, leasesEq, List.map_cons, expire]
      · obtain ⟨issuesEq, leasesEq⟩ := ih issues
        have invalid : invalidDeclaredActiveLeases now (lease :: rest) =
            invalidDeclaredActiveLeases now rest := List.filter_cons_of_neg stale
        constructor
        · simp only [reconcileLeases, if_neg stale, issuesEq, invalid]
        · simp only [reconcileLeases, if_neg stale, leasesEq, List.map_cons, expire]

@[simp]
theorem recover_id (lease : Lease) (issue : Issue) : (recover lease issue).id = issue.id := by
  unfold recover
  split_ifs <;> rfl

theorem inProgress_recover (lease : Lease) (issue : Issue) :
    (recover lease issue).inProgress = (issue.inProgress && !decide (issue.id = lease.issue)) := by
  unfold recover
  split_ifs with recovers
  · simp [Issue.inProgress, recovers.1]
  · by_cases named : issue.id = lease.issue
    · have idle : issue.inProgress = false := by
        by_contra working
        rw [Bool.not_eq_false] at working
        have state : issue.state = some "IN_PROGRESS" := of_decide_eq_true working
        exact recovers ⟨named, by simp [state, workingStates]⟩
      simp [idle]
    · simp [named]

theorem recoverAll_spec (stale : List Lease) (issue : Issue) :
    (recoverAll stale issue).id = issue.id ∧ (recoverAll stale issue).inProgress =
        (issue.inProgress && decide (issue.id ∉ stale.map Lease.issue)) := by
  induction stale generalizing issue with
  | nil => simp [recoverAll]
  | cons lease rest ih =>
      obtain ⟨sameId, inProgress⟩ := ih (recover lease issue)
      rw [recover_id] at sameId inProgress
      constructor
      · exact sameId
      · change (recoverAll rest (recover lease issue)).inProgress = _
        rw [inProgress, inProgress_recover, Bool.and_assoc, List.map_cons]
        congr 1
        simp

theorem declared_reconcile (queue : Queue) (now : Int) :
    (reconcile queue now).1.declared = queue.declared.filter (leaseFresh now) := by
  have leases := (reconcileLeases_eq now queue.issues queue.leases).2
  change List.filter _ (reconcileLeases now queue.issues queue.leases).2.1 = _
  rw [leases, Queue.declared]
  induction queue.leases with
  | nil => rfl
  | cons lease rest ih =>
      cases declared : lease.isDeclared with
      | false =>
          have kept : expire now lease = lease := by simp [expire, declared]
          simp [kept, declared, ih]
      | true =>
          cases fresh : leaseFresh now lease with
          | true =>
              have kept : expire now lease = lease := by simp [expire, fresh]
              simp [kept, declared, fresh, ih]
          | false =>
              have expired : (expire now lease).isDeclared = false := by
                rw [expire, declared, fresh]
                rfl
              simp [expired, declared, fresh, ih]

theorem working_reconcile (queue : Queue) (now : Int) : (reconcile queue now).1.working =
      queue.working.filter fun name =>
        name ∉ (invalidDeclaredActiveLeases now queue.leases).map Lease.issue := by
  have issues := (reconcileLeases_eq now queue.issues queue.leases).1
  change List.map _ (List.filter _ (reconcileLeases now queue.issues queue.leases).1) = _
  rw [issues, Queue.working]
  generalize invalidDeclaredActiveLeases now queue.leases = stale
  induction queue.issues with
  | nil => rfl
  | cons issue rest ih =>
      obtain ⟨sameId, inProgress⟩ := recoverAll_spec stale issue
      cases working : issue.inProgress with
      | false =>
          rw [working, Bool.false_and] at inProgress
          simpa [working, inProgress] using ih
      | true =>
          rw [working, Bool.true_and] at inProgress
          by_cases named : issue.id ∈ stale.map Lease.issue
          · rw [decide_eq_false (not_not.mpr named)] at inProgress
            rw [List.map_cons, List.filter_cons_of_neg (by simp [inProgress]),
              List.filter_cons_of_pos working, List.map_cons, List.filter_cons_of_neg (by
                simpa using named)]
            exact ih
          · rw [decide_eq_true named] at inProgress
            rw [List.map_cons, List.filter_cons_of_pos inProgress, List.map_cons, sameId,
              List.filter_cons_of_pos working, List.map_cons, List.filter_cons_of_pos (by
                simpa using named), ih]

theorem leased_reconcile (agrees : queue.Agrees) : (reconcile queue now).1.leased =
      queue.leased.filter fun name =>
        name ∉ (invalidDeclaredActiveLeases now queue.leases).map Lease.issue := by
  rw [Queue.leased, declared_reconcile, Queue.leased, List.filter_map]
  congr 1
  apply List.filter_congr
  intro lease mem
  obtain ⟨inside, declared⟩ := List.mem_filter.mp mem
  have nodup : (queue.declared.map Lease.issue).Nodup :=
    agrees.perm.nodup_iff.mpr (Queue.nodup_working agrees.distinct)
  cases fresh : leaseFresh now lease with
  | false =>
      have stale : lease ∈ invalidDeclaredActiveLeases now queue.leases :=
        List.mem_filter.mpr ⟨inside, by simp [declared, fresh]⟩
      have named : lease.issue ∈
          (invalidDeclaredActiveLeases now queue.leases).map Lease.issue :=
        List.mem_map_of_mem stale
      simpa using named
  | true =>
      have unnamed : lease.issue ∉
          (invalidDeclaredActiveLeases now queue.leases).map Lease.issue := by
        intro named
        obtain ⟨other, stale, same⟩ := List.mem_map.mp named
        obtain ⟨otherInside, otherStale⟩ := List.mem_filter.mp stale
        rw [Bool.and_eq_true] at otherStale
        have otherMember : other ∈ queue.declared :=
          List.mem_filter.mpr ⟨otherInside, otherStale.1⟩
        rcases List.inj_on_of_nodup_map nodup otherMember mem same with rfl
        simp [fresh] at otherStale
      exact (decide_eq_true unnamed).symm

theorem agrees_reconcile (agrees : queue.Agrees) : (reconcile queue now).1.Agrees := by
  have ids : (reconcile queue now).1.issues.map (·.id) = queue.issues.map (·.id) := by
    change List.map _ (reconcileLeases now queue.issues queue.leases).1 = _
    rw [(reconcileLeases_eq now queue.issues queue.leases).1, List.map_map]
    exact List.map_congr_left fun issue _ => (recoverAll_spec _ issue).1
  rw [Queue.agrees_iff]
  constructor
  · rw [ids]
    exact agrees.distinct
  · rw [leased_reconcile agrees, working_reconcile]
    exact agrees.perm.filter _

/-! ## One operation -/

theorem operate_cases (tools : Tools) (queue : Queue) (operation : Operation) :
    operate tools queue operation = queue ∨
      (∃ args lease issue front back, operation = .claim args ∧
        Claimed queue args (operate tools queue operation) lease issue front back) ∨
      (∃ position now lease renewed,
        Renewed queue position now (operate tools queue operation) lease renewed) ∨
      ∃ now, operate tools queue operation = (reconcile queue now).1 := by
  unfold operate perform
  cases operation with
  | claim args =>
      cases ran : claim tools queue args with
      | error error => simp [call, ran, Except.map]
      | ok result =>
          obtain ⟨issue, front, back, claimed⟩ := claimed_of_claim ran
          right
          left
          simp only [call, ran, Except.map]
          exact ⟨args, result.2, issue, front, back, rfl, claimed⟩
  | heartbeat position workerId now ttlMinutes =>
      cases found : queue.leases[position]? with
      | none => simp [call, found]
      | some lease =>
          cases ran : heartbeat lease workerId now ttlMinutes with
          | error error => simp [call, found, ran, Except.map]
          | ok renewed =>
              obtain ⟨fresh, _, same⟩ := of_heartbeat ran
              right
              right
              left
              simp only [call, found, ran, Except.map]
              exact ⟨position, now, lease, renewed, found, fresh, by rw [same]; rfl, rfl⟩
  | reconcile now => exact .inr (.inr (.inr ⟨now, rfl⟩))

theorem agrees_operate (agrees : queue.Agrees) (operation : Operation) :
    (operate tools queue operation).Agrees := by
  rcases operate_cases tools queue operation with
    same | ⟨args, lease, issue, front, back, _, claimed⟩ | ⟨position, now, lease, renewed, renewal⟩ |
    ⟨now, reconciled⟩
  · rw [same]
    exact agrees
  · exact claimed.agrees agrees
  · exact renewal.agrees agrees
  · rw [reconciled]
    exact agrees_reconcile agrees

/-- A call that asks for the one active writer; the other operations claim nothing. -/
def Operation.oneActiveWriter : Operation → Bool
  | .claim args => args.oneActiveWriter
  | _ => true

theorem alone_operate (alone : queue.declared.length ≤ 1) {operation : Operation}
    (one : operation.oneActiveWriter = true) :
    (operate tools queue operation).declared.length ≤ 1 := by
  rcases operate_cases tools queue operation with
    same | ⟨args, lease, issue, front, back, rfl, claimed⟩ |
    ⟨position, now, lease, renewed, renewal⟩ | ⟨now, reconciled⟩
  · rw [same]
    exact alone
  · rw [claimed.declared_eq, claimed.declared_eq_nil one]
    exact le_refl 1
  · rw [renewal.length_declared]
    exact alone
  · rw [reconciled, declared_reconcile]
    exact (List.length_filter_le _ _).trans alone

theorem disjoint_operate (disjoint : queue.Disjoint) (operation : Operation) :
    (operate tools queue operation).Disjoint := by
  rcases operate_cases tools queue operation with
    same | ⟨args, lease, issue, front, back, _, claimed⟩ | ⟨position, now, lease, renewed, renewal⟩ |
    ⟨now, reconciled⟩
  · rw [same]
    exact disjoint
  · exact claimed.disjoint disjoint
  · exact renewal.disjoint disjoint
  · rw [reconciled, Queue.Disjoint, declared_reconcile]
    exact disjoint.sublist List.filter_sublist

/-- A lease that is no longer ACTIVE is never touched again. -/
theorem inactive_operate {position : Nat} (found : queue.leases[position]? = some lease)
    (inactive : lease.isDeclared = false) (operation : Operation) :
    (operate tools queue operation).leases[position]? = some lease := by
  rcases operate_cases tools queue operation with
    same | ⟨args, new, issue, front, back, _, claimed⟩ | ⟨other, now, old, renewed, renewal⟩ |
    ⟨now, reconciled⟩
  · rw [same]
    exact found
  · rw [claimed.leases_eq, List.getElem?_append_left]
    · exact found
    · exact (List.getElem?_eq_some_iff.mp found).choose
  · have apart : other ≠ position := by
      rintro rfl
      rw [renewal.found, Option.some.injEq] at found
      have declared := (leaseFresh_iff.mp renewal.fresh).1
      rw [found, inactive] at declared
      cases declared
    rw [renewal.stored, List.getElem?_set_ne apart]
    exact found
  · have kept : expire now lease = lease := by simp [expire, inactive]
    rw [reconciled]
    change (reconcileLeases now queue.issues queue.leases).2.1[position]? = _
    rw [(reconcileLeases_eq now queue.issues queue.leases).2, List.getElem?_map, found]
    exact congrArg some kept

/-! ## Runs -/

/-- The queue after a sequence of operations. -/
def runs (tools : Tools) (start : Queue) (operations : List Operation) : Queue :=
  Run.final (operate tools) start operations

theorem inactive_runs {position : Nat} (found : queue.leases[position]? = some lease)
    (inactive : lease.isDeclared = false) (operations : List Operation) :
    (runs tools queue operations).leases[position]? = some lease := by
  induction operations generalizing queue with
  | nil => exact found
  | cons operation rest ih => exact ih (inactive_operate found inactive operation)

/-- The correspondence, the one active writer and the disjoint conflict domains
hold after every sequence of operations if they hold before it; a lease that is
no longer ACTIVE stays as it is, and a call that raises leaves the queue as it
was. -/
theorem runs_keep_agreement (tools : Tools) (start : Queue) (operations : List Operation)
    (agrees : start.Agrees) :
    let after := runs tools start operations
    after.Agrees ∧
      (start.declared.length ≤ 1 → (∀ operation ∈ operations, operation.oneActiveWriter) →
        after.declared.length ≤ 1) ∧ (start.Disjoint → after.Disjoint) ∧
      (∀ (position : Nat) (lease : Lease), after.leases[position]? = some lease →
        lease.isDeclared = false → ∀ more, (runs tools after more).leases[position]? = some lease) ∧
      ∀ operation error, (perform tools after operation).1 = .error error →
        (perform tools after operation).2 = after := by
  refine ⟨?_, ?_, ?_, ?_, ?_⟩
  · have kept : ∀ queue operation, Queue.Agrees queue → (operate tools queue operation).Agrees :=
      fun _ operation agrees => agrees_operate agrees operation
    exact (Run.always_of_invariant kept agrees operations).final
  · intro alone one
    induction operations generalizing start with
    | nil => exact alone
    | cons operation rest ih =>
        obtain ⟨first, others⟩ := List.forall_mem_cons.mp one
        exact ih _ (agrees_operate agrees operation) (alone_operate alone first) others
  · intro disjoint
    have kept : ∀ queue operation, Queue.Disjoint queue →
        (operate tools queue operation).Disjoint :=
      fun _ operation disjoint => disjoint_operate disjoint operation
    exact (Run.always_of_invariant kept disjoint operations).final
  · intro position lease found inactive more
    exact inactive_runs found inactive more
  · intro operation error raised
    unfold perform at raised ⊢
    cases answer : call tools (runs tools start operations) operation with
    | ok _ =>
        rw [answer] at raised
        cases raised
    | error _ => rfl

/-- A dated text and the ASCII letters. -/
def asciiTools : Tools where
  parseTime := fun text => if text = "2026-08-13T10:00:00Z" then some 0 else none
  lower := fun text => text.map Char.toLower

/-- A queue with one ready issue and no lease. -/
def readyQueue : Queue where
  issues :=
    [{ id := "17", state := some "READY", roadmapId := some "RM-42",
       dependenciesResolved := some true, humanRequired := some false,
       autonomyAllowed := some true, readySince := some "2026-08-13T10:00:00Z",
       conflictDomains := ["docs"] }]

/-- The ready issue is claimed, the lease is renewed, and then it runs out. -/
def claimAndLapse : List Operation :=
  [.claim
    { issueId := "17", workerId := "writer", permissionAllowed := true,
      baseSha := "0123456789012345678901234567890123456789", now := minute, leaseId := "lease" },
    .heartbeat 0 "writer" (30 * minute) 60, .reconcile (90 * minute)]

theorem readyQueue_keeps_agreement :
    (runs asciiTools readyQueue (claimAndLapse.take 2)).declared.length = 1 ∧
      (runs asciiTools readyQueue claimAndLapse).leases.length = 1 ∧
      (runs asciiTools readyQueue claimAndLapse).Agrees := by
  refine ⟨by decide +kernel, by decide +kernel, ?_⟩
  exact (runs_keep_agreement asciiTools readyQueue claimAndLapse
    ⟨by decide, by decide, by decide⟩).1

/-- A queue with two issues in progress, each with its lease, in one conflict domain. -/
def busyQueue : Queue where
  issues := [{ id := "1", state := some "IN_PROGRESS" }, { id := "2", state := some "IN_PROGRESS" }]
  leases := ["1", "2"].map fun name =>
    { leaseId := some name, issueId := some name, status := some "ACTIVE",
      conflictDomains := ["docs"], heartbeatAt := some (.at 0), expiresAt := some (.at (60 * minute)) }

/-- A queue in agreement may start with two ACTIVE leases that conflict. -/
theorem agreement_allows_conflict :
    ¬ ∀ (tools : Tools) (start : Queue) (operations : List Operation), start.Agrees →
        (∀ operation ∈ operations, operation.oneActiveWriter) →
        (runs tools start operations).declared.length ≤ 1 ∧
          (runs tools start operations).Disjoint := by
  intro always
  have one := (always asciiTools busyQueue [.reconcile minute]
    ⟨by decide, by decide, by decide⟩ (by simp [Operation.oneActiveWriter])).1
  revert one
  decide +kernel

end Adwf.Leases
