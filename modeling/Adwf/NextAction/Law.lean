import Adwf.NextAction.Queue

/-!
# What the next action promises

Work is handed out only with the permission it was asked for, the answer does
not depend on the order of the queue, and a structural conflict hands out no
work, except that the branch of one declared lease does not look for other
issues in progress.
-/

namespace Adwf.NextAction

open Policy Ranked

/-! ## Conflicts -/

/-- An issue in progress that no declared lease names. -/
structure Orphaned (queue : Queue) (issue : Issue) : Prop where
  mem : issue ∈ queue.issues
  inProgress : issue.isIn activeIssueStates = true
  unnamed : ∀ lease ∈ queue.declared, lease.names issue = false

/-- The structural conflicts of a queue. -/
inductive StructuralConflict (queue : Queue) (now timeoutMinutes : Int) : Prop
  | manyLeases (many : 1 < queue.declared.length)
  | issueMissing (lease : Lease) (declared : lease ∈ queue.declared)
      (missing : ∀ issue ∈ queue.issues, lease.names issue = false)
  | notLeasedState (lease : Lease) (declared : lease ∈ queue.declared) (issue : Issue)
      (mem : issue ∈ queue.issues) (named : lease.names issue = true)
      (state : issue.isIn leasedIssueStates = false)
  | otherLease (lease : Lease) (declared : lease ∈ queue.declared) (issue : Issue)
      (mem : issue ∈ queue.issues) (named : lease.names issue = true)
      (other : orEmpty issue.leaseId ≠ orEmpty lease.leaseId)
  | otherWorkspace (lease : Lease) (declared : lease ∈ queue.declared) (issue : Issue)
      (mem : issue ∈ queue.issues) (named : lease.names issue = true)
      (other : orEmpty issue.workspaceId ≠ orEmpty (effectiveLease lease issue).workspaceId)
  | notFresh (lease : Lease) (declared : lease ∈ queue.declared) (issue : Issue)
      (mem : issue ∈ queue.issues) (named : lease.names issue = true)
      (stale : leaseFreshnessErrors (effectiveLease lease issue) now timeoutMinutes ≠ [])
  | orphan (issue : Issue) (orphaned : Orphaned queue issue)

/-- The checks of a declared lease against the issue it names. -/
structure LeaseInOrder (lease : Lease) (issue : Issue) (now timeoutMinutes : Int) : Prop where
  state : issue.isIn leasedIssueStates = true
  sameLease : orEmpty issue.leaseId = orEmpty lease.leaseId
  workspace : Text.strip (orEmpty (effectiveLease lease issue).workspaceId) ≠ ""
  sameWorkspace : orEmpty issue.workspaceId = orEmpty (effectiveLease lease issue).workspaceId
  fresh : leaseFreshnessErrors (effectiveLease lease issue) now timeoutMinutes = []
  workspaceActive : (effectiveLease lease issue).workspaceStatus = some "ACTIVE"

/-- The one declared lease is in order and its work is permitted. -/
structure Continues (queue : Queue) (context : PolicyContext) (policyIR : Option PolicyIR)
    (now timeoutMinutes : Int) (lease : Lease) (issue : Issue) : Prop where
  contract : queueContractErrors queue = []
  declared : queue.declared = [lease]
  named : queue.issues.filter lease.names = [issue]
  inOrder : LeaseInOrder lease issue now timeoutMinutes
  permitted : (permissionFor context issue (askedToContinue issue) policyIR).1 = .allow

/-- What `_permission_for` is asked for an action on an issue. -/
def askedFor : Action → Issue → Asked
  | .continueExisting => askedToContinue
  | .continueReviewOrRecovery => askedToFinish
  | .claimOneReady | .blocked | .reconcile | .roadmapCompleteOrEmpty => askedToClaim

/-- The issue of an answer passed the safety checks and the policy, asked for
the action of the answer; only recovery work is asked without the control plane. -/
structure Authorised (context : PolicyContext) (policyIR : Option PolicyIR) (outcome : Outcome)
    (issue : Issue) : Prop where
  issue_eq : outcome.issue = some issue
  safe : commonSafetyFindings context (askedFor outcome.action issue).requireControl = []
  exempt : (askedFor outcome.action issue).requireControl = true ∨ issue.isRecovery = true
  permitted : ∃ facts, (context.asking issue (askedFor outcome.action issue).action
      (askedFor outcome.action issue).workType).toDecision = .ok facts ∧
    (evaluatePermission facts policyIR).result = .allow

/-- What the answer for a queue promises. -/
structure NextActionLaw (queue : Queue) (context : PolicyContext) (policyIR : Option PolicyIR)
    (now clock timeoutMinutes : Int) : Prop where
  authorised : (authorizeNextAction queue context policyIR now clock timeoutMinutes).action.isWork =
      true →
    (authorizeNextAction queue context policyIR now clock timeoutMinutes).result = .allow →
    ∃ issue, Authorised context policyIR
      (authorizeNextAction queue context policyIR now clock timeoutMinutes) issue
  conflicts : StructuralConflict queue now timeoutMinutes →
    (authorizeNextAction queue context policyIR now clock timeoutMinutes).action = .reconcile ∨
      (authorizeNextAction queue context policyIR now clock timeoutMinutes).action = .blocked
  ordered : ∀ issues leases, issues.Perm queue.issues → leases.Perm queue.leases →
    authorizeNextAction ⟨issues, leases⟩ context policyIR now clock timeoutMinutes =
      authorizeNextAction queue context policyIR now clock timeoutMinutes

/-! ## Permissions -/

theorem permissionFor_eq_allow {context : PolicyContext} {issue : Issue} {asked : Asked}
    {policyIR : Option PolicyIR} (allowed : (permissionFor context issue asked policyIR).1 = .allow) :
    commonSafetyFindings context asked.requireControl = [] ∧ ∃ facts,
      (context.asking issue asked.action asked.workType).toDecision = .ok facts ∧
      (evaluatePermission facts policyIR).result = .allow := by
  unfold permissionFor at allowed
  cases findings : commonSafetyFindings context asked.requireControl with
  | cons finding rest => simp [findings] at allowed
  | nil =>
      refine ⟨rfl, ?_⟩
      simp only [findings, permission] at allowed
      cases facts : (context.asking issue asked.action asked.workType).toDecision with
      | error text => simp [facts, Except.map] at allowed
      | ok value => exact ⟨value, rfl, by simpa [facts, Except.map] using allowed⟩

/-- An answer that hands out work was permitted. -/
def Granted (context : PolicyContext) (policyIR : Option PolicyIR) (outcome : Outcome) : Prop :=
  outcome.action.isWork = true → ∃ issue, Authorised context policyIR outcome issue

section Granted

variable {context : PolicyContext} {policyIR : Option PolicyIR}

variable {reason : String}

theorem granted_reconcile {issue : Option Issue} {reasonCodes : List String} :
    Granted context policyIR (reconcile reason issue reasonCodes) := by
  intro work
  simp [reconcile, Action.isWork] at work

theorem granted_blocked {issue : Option Issue} {result : Verdict} {reasonCodes : List String} :
    Granted context policyIR (blocked reason issue result reasonCodes) := by
  intro work
  simp [blocked, Action.isWork] at work

theorem granted_decideOn {issue : Issue} {asked : Asked} {action : Action}
    {refusal : String} (asked_eq : askedFor action issue = asked)
    (exempt : asked.requireControl = true ∨ issue.isRecovery = true) : Granted context policyIR
      (decideOn (permissionFor context issue asked policyIR) action reason refusal issue) := by
  unfold decideOn
  split_ifs with refused
  · exact granted_blocked
  · intro _
    have allowed := not_not.mp refused
    subst asked_eq
    obtain ⟨safe, permitted⟩ := permissionFor_eq_allow allowed
    exact ⟨issue, rfl, safe, exempt, permitted⟩

theorem granted_leaseConflict {lease : Lease} {issue : Issue} {now timeoutMinutes : Int}
    {conflict : Outcome} (found : leaseConflict lease issue now timeoutMinutes = some conflict) :
    conflict.action = .reconcile := by
  simp only [leaseConflict] at found
  split_ifs at found <;>
  · cases found
    rfl

theorem granted_continueLease (queue : Queue) (now timeoutMinutes : Int) (lease : Lease) :
    Granted context policyIR (continueLease queue context policyIR now timeoutMinutes lease) := by
  unfold continueLease
  split
  · rename_i issue _
    split_ifs
    · exact granted_reconcile
    · split
      · rename_i conflict found
        intro work
        rw [granted_leaseConflict found] at work
        cases work
      · refine granted_decideOn rfl ?_
        simp only [askedToContinue, Bool.not_eq_true']
        cases issue.isRecovery <;> simp
  · exact granted_reconcile

theorem granted_claimNext (queue : Queue) (clock : Int) :
    Granted context policyIR (claimNext queue context policyIR clock) := by
  unfold claimNext
  split
  · exact granted_blocked
  · split
    · exact granted_decideOn rfl (Or.inl rfl)
    · split
      · exact granted_blocked
      · intro work
        simp [granted, Action.isWork] at work

theorem granted_withoutLease (queue : Queue) (clock : Int) :
    Granted context policyIR (withoutLease queue context policyIR clock) := by
  unfold withoutLease
  split
  · exact granted_reconcile
  · split
    · rename_i issue _
      refine granted_decideOn rfl ?_
      simp only [askedToFinish, Bool.not_eq_true']
      cases issue.isRecovery <;> simp
    · exact granted_claimNext queue clock

theorem granted_authorizeNextAction (queue : Queue) (now clock timeoutMinutes : Int) :
    Granted context policyIR
      (authorizeNextAction queue context policyIR now clock timeoutMinutes) := by
  unfold authorizeNextAction
  split_ifs
  · exact granted_blocked
  · split
    · exact granted_withoutLease queue clock
    · exact granted_continueLease queue now timeoutMinutes _
    · exact granted_reconcile

end Granted

/-! ## The order of the queue -/

theorem badIds_perm {ids others : List String} (perm : ids.Perm others) :
    badIds ids = badIds others := by
  rw [badIds, badIds, perm.any_eq, decide_eq_decide.mpr perm.nodup_iff]

theorem queueContractErrors_perm {queue other : Queue} (issues : queue.issues.Perm other.issues)
    (leases : queue.leases.Perm other.leases) :
    queueContractErrors queue = queueContractErrors other := by
  rw [queueContractErrors, queueContractErrors, badIds_perm (issues.map Issue.id),
    badIds_perm (leases.map fun lease => lease.leaseId.getD "")]

theorem nodup_ids_of_contract {queue : Queue} (contract : queueContractErrors queue = []) :
    (queue.issues.map Issue.id).Nodup := by
  obtain ⟨issues, _⟩ := List.append_eq_nil_iff.mp contract
  by_contra repeated
  rw [if_pos (by simp [badIds, repeated])] at issues
  cases issues

theorem id_eq_of_sortKey_eq {first second : Issue} (same : sortKey first = sortKey second) :
    first.id = second.id := by
  simp only [sortKey, EmbeddingLike.apply_eq_iff_eq, Prod.mk.injEq] at same
  exact same.2.2.2.2.2.2

theorem nodup_sortKey {issues : List Issue} (distinct : (issues.map Issue.id).Nodup)
    (keep : Issue → Bool) : ((issues.filter keep).map sortKey).Nodup := by
  have kept : ((issues.filter keep).map Issue.id).Nodup :=
    distinct.sublist (List.filter_sublist.map Issue.id)
  rw [List.Nodup, List.pairwise_map] at kept ⊢
  exact kept.imp fun different same => different (id_eq_of_sortKey_eq same)

theorem firstBy_filter_perm {issues others : List Issue} (perm : issues.Perm others)
    (distinct : (issues.map Issue.id).Nodup) (keep : Issue → Bool) :
    firstBy sortKey (issues.filter keep) = firstBy sortKey (others.filter keep) :=
  firstBy_perm (perm.filter keep) (nodup_sortKey distinct keep)

theorem eq_singleton_of_perm {α : Type} {items others : List α} {item : α}
    (perm : items.Perm others) (single : items = [item]) : others = [item] := by
  rw [single] at perm
  exact (List.singleton_perm.mp perm).symm

section Order

variable {queue other : Queue} {context : PolicyContext} {policyIR : Option PolicyIR}

theorem continueLease_perm (issues : queue.issues.Perm other.issues) (now timeoutMinutes : Int)
    (lease : Lease) : continueLease queue context policyIR now timeoutMinutes lease =
      continueLease other context policyIR now timeoutMinutes lease := by
  have named := issues.filter lease.names
  unfold continueLease
  split
  · rename_i issue single
    rw [eq_singleton_of_perm named single]
  · rename_i many
    split
    · rename_i issue single
      exact absurd (eq_singleton_of_perm named.symm single) (many issue)
    · rfl

theorem activeLeases_of_none_declared (none_declared : queue.declared = []) (clock : Int) :
    activeLeases clock queue.leases = [] := by
  rw [activeLeases, List.filter_eq_nil_iff]
  intro lease mem active
  have declared : lease.isDeclared = true := by
    unfold leaseActive at active
    split at active
    · simp only [Bool.and_eq_true] at active
      exact active.2
    · cases active
  have inside : lease ∈ queue.declared := List.mem_filter.mpr ⟨mem, declared⟩
  rw [none_declared] at inside
  cases inside

theorem withoutLease_perm (issues : queue.issues.Perm other.issues)
    (leases : queue.leases.Perm other.leases) (contract : queueContractErrors queue = [])
    (none_declared : queue.declared = []) (clock : Int) :
    withoutLease queue context policyIR clock = withoutLease other context policyIR clock := by
  have distinct := nodup_ids_of_contract contract
  have errors := queueContractErrors_perm issues leases
  have none_other : other.declared = [] := by
    have declared : queue.declared.Perm other.declared := leases.filter Lease.isDeclared
    rw [none_declared] at declared
    exact List.nil_perm.mp declared
  have chosen : chooseNext queue context policyIR clock = chooseNext other context policyIR clock := by
    rw [chooseNext, chooseNext, errors, activeLeases_of_none_declared none_declared,
      activeLeases_of_none_declared none_other, firstBy_filter_perm issues distinct]
  rw [withoutLease, withoutLease, firstBy_filter_perm issues distinct,
    firstBy_filter_perm issues distinct, claimNext, claimNext, chosen, issues.any_eq]

/-- The answer does not depend on the order of the queue. -/
theorem authorizeNextAction_perm (issues : queue.issues.Perm other.issues)
    (leases : queue.leases.Perm other.leases) (now clock timeoutMinutes : Int) :
    authorizeNextAction queue context policyIR now clock timeoutMinutes =
      authorizeNextAction other context policyIR now clock timeoutMinutes := by
  have declared : queue.declared.Perm other.declared := leases.filter Lease.isDeclared
  rw [authorizeNextAction, authorizeNextAction, ← queueContractErrors_perm issues leases]
  split
  · rfl
  · rename_i contract
    cases first : queue.declared with
    | nil =>
        rw [first, List.nil_perm] at declared
        rw [declared]
        exact withoutLease_perm issues leases (not_not.mp contract) first clock
    | cons lease more =>
        cases more with
        | nil =>
            rw [eq_singleton_of_perm declared first]
            exact continueLease_perm issues now timeoutMinutes lease
        | cons second rest =>
            have long := declared.length_eq
            rw [first] at long
            cases others : other.declared with
            | nil => simp [others] at long
            | cons one two =>
                cases two with
                | nil => simp [others] at long
                | cons _ _ => rfl

end Order

/-! ## Conflicts hand out no work -/

section Conflicts

variable {queue : Queue} {context : PolicyContext} {policyIR : Option PolicyIR}
  {now clock timeoutMinutes : Int}

variable {lease : Lease} {issue : Issue}

theorem leaseConflict_eq_none_iff (state : issue.isIn leasedIssueStates = true) :
    leaseConflict lease issue now timeoutMinutes = none ↔
      LeaseInOrder lease issue now timeoutMinutes := by
  simp only [leaseConflict]
  constructor
  · intro none_found
    split_ifs at none_found with otherLease unstated otherWorkspace stale inactive
    exact ⟨state, not_not.mp otherLease, unstated, not_not.mp otherWorkspace, not_not.mp stale,
      not_not.mp inactive⟩
  · intro inOrder
    rw [if_neg (not_not.mpr inOrder.sameLease), if_neg inOrder.workspace,
      if_neg (not_not.mpr inOrder.sameWorkspace), if_neg (not_not.mpr inOrder.fresh),
      if_neg (not_not.mpr inOrder.workspaceActive)]

theorem decideOn_action {verdict : Verdict × List String} {action : Action}
    {reason refusal : String} : (decideOn verdict action reason refusal issue).action =
      if verdict.1 = .allow then action else .blocked := by
  unfold decideOn
  by_cases allowed : verdict.1 = .allow
  · rw [if_neg (not_not.mpr allowed), if_pos allowed]
    rfl
  · rw [if_pos allowed, if_neg allowed]
    rfl

theorem continueLease_action (contract : queueContractErrors queue = [])
    (declared : queue.declared = [lease]) :
    (continueLease queue context policyIR now timeoutMinutes lease).action = .reconcile ∨
      (continueLease queue context policyIR now timeoutMinutes lease).action = .blocked ∨
      (continueLease queue context policyIR now timeoutMinutes lease).action = .continueExisting ∧
        ∃ issue, Continues queue context policyIR now timeoutMinutes lease issue := by
  unfold continueLease
  split
  · rename_i issue named
    split
    · exact Or.inl rfl
    · rename_i state
      have leased : issue.isIn leasedIssueStates = true := by simpa using state
      split
      · rename_i conflict found
        exact Or.inl (granted_leaseConflict found)
      · rename_i none_found
        have inOrder := (leaseConflict_eq_none_iff leased).mp none_found
        rw [decideOn_action]
        split
        · rename_i permitted
          exact Or.inr (Or.inr ⟨rfl, issue, contract, declared, named, inOrder, permitted⟩)
        · exact Or.inr (Or.inl rfl)
  · exact Or.inl rfl

theorem action_of_continues
    (continues : Continues queue context policyIR now timeoutMinutes lease issue) :
    (authorizeNextAction queue context policyIR now clock timeoutMinutes).action =
      .continueExisting := by
  have none_found := (leaseConflict_eq_none_iff continues.inOrder.state).mpr continues.inOrder
  simp only [authorizeNextAction, continues.contract, continues.declared, continueLease,
    continues.named, continues.inOrder.state, none_found, decideOn_action, continues.permitted,
    ne_eq, not_true_eq_false, Bool.not_true, Bool.false_eq_true, if_true, if_false]

theorem orphan_of_continues
    (continues : Continues queue context policyIR now timeoutMinutes lease issue)
    (conflict : StructuralConflict queue now timeoutMinutes) : ∃ orphan, Orphaned queue orphan := by
  have inOrder := continues.inOrder
  have only_lease : ∀ held ∈ queue.declared, held = lease := by
    intro held inside
    rw [continues.declared] at inside
    exact List.mem_singleton.mp inside
  have only_issue : ∀ other ∈ queue.issues, lease.names other = true → other = issue := by
    intro other inside named
    have kept : other ∈ queue.issues.filter lease.names := List.mem_filter.mpr ⟨inside, named⟩
    rw [continues.named] at kept
    exact List.mem_singleton.mp kept
  have named : issue ∈ queue.issues ∧ lease.names issue = true := by
    rw [← List.mem_filter, continues.named]
    exact List.mem_singleton_self issue
  cases conflict with
  | manyLeases many =>
      rw [continues.declared] at many
      exact absurd many (by simp)
  | issueMissing held declared missing =>
      rw [only_lease held declared] at missing
      rw [missing issue named.1] at named
      cases named.2
  | notLeasedState held declared other mem holds state =>
      rw [only_lease held declared] at holds
      rw [only_issue other mem holds, inOrder.state] at state
      cases state
  | otherLease held declared other mem holds different =>
      rw [only_lease held declared] at holds different
      rw [only_issue other mem holds] at different
      exact absurd inOrder.sameLease different
  | otherWorkspace held declared other mem holds different =>
      rw [only_lease held declared] at holds different
      rw [only_issue other mem holds] at different
      exact absurd inOrder.sameWorkspace different
  | notFresh held declared other mem holds stale =>
      rw [only_lease held declared] at holds stale
      rw [only_issue other mem holds] at stale
      exact absurd inOrder.fresh stale
  | orphan orphan orphaned => exact ⟨orphan, orphaned⟩

theorem orphan_of_none_declared (none_declared : queue.declared = [])
    (conflict : StructuralConflict queue now timeoutMinutes) : ∃ orphan, Orphaned queue orphan := by
  have absent : ∀ held, held ∉ queue.declared := by
    rw [none_declared]
    exact fun _ => List.not_mem_nil
  cases conflict with
  | manyLeases many => exact absurd many (by simp [none_declared])
  | issueMissing held declared _ => exact absurd declared (absent held)
  | notLeasedState held declared _ _ _ _ => exact absurd declared (absent held)
  | otherLease held declared _ _ _ _ => exact absurd declared (absent held)
  | otherWorkspace held declared _ _ _ _ => exact absurd declared (absent held)
  | notFresh held declared _ _ _ _ => exact absurd declared (absent held)
  | orphan orphan orphaned => exact ⟨orphan, orphaned⟩

theorem withoutLease_of_orphaned {orphan : Issue} (orphaned : Orphaned queue orphan) :
    (withoutLease queue context policyIR clock).action = .reconcile := by
  unfold withoutLease
  split
  · rfl
  · rename_i none_chosen
    have inside : orphan ∈ queue.issues.filter fun issue => issue.isIn activeIssueStates :=
      List.mem_filter.mpr ⟨orphaned.mem, orphaned.inProgress⟩
    rw [firstBy_eq_none_iff.mp none_chosen] at inside
    cases inside

theorem refused_of_conflict (conflict : StructuralConflict queue now timeoutMinutes)
    (noOrphan : ∀ lease issue orphan,
      Continues queue context policyIR now timeoutMinutes lease issue → ¬ Orphaned queue orphan) :
    (authorizeNextAction queue context policyIR now clock timeoutMinutes).action = .reconcile ∨
      (authorizeNextAction queue context policyIR now clock timeoutMinutes).action = .blocked := by
  unfold authorizeNextAction
  split
  · exact Or.inr rfl
  · rename_i contract
    split
    · rename_i none_declared
      obtain ⟨orphan, orphaned⟩ := orphan_of_none_declared none_declared conflict
      exact Or.inl (withoutLease_of_orphaned orphaned)
    · rename_i lease declared
      rcases continueLease_action (not_not.mp contract) declared with reconciled | refused | work
      · exact Or.inl reconciled
      · exact Or.inr refused
      · obtain ⟨_, issue, continues⟩ := work
        obtain ⟨orphan, orphaned⟩ := orphan_of_continues continues conflict
        exact absurd orphaned (noOrphan lease issue orphan continues)
    · exact Or.inl rfl

end Conflicts

/-- For every queue, policy context, policy and time: work is authorised,
conflicts hand out none and the order of the queue does not matter, exactly when
no issue in progress lies beside a declared lease that is in order and permitted. -/
theorem nextActionLaw_iff (queue : Queue) (context : PolicyContext) (policyIR : Option PolicyIR)
    (now clock timeoutMinutes : Int) :
    NextActionLaw queue context policyIR now clock timeoutMinutes ↔
      ∀ lease issue orphan, Continues queue context policyIR now timeoutMinutes lease issue →
        ¬ Orphaned queue orphan := by
  constructor
  · intro law lease issue orphan continues orphaned
    have refused := law.conflicts (.orphan orphan orphaned)
    rw [action_of_continues continues] at refused
    simp at refused
  · intro noOrphan
    refine ⟨fun work _ => granted_authorizeNextAction queue now clock timeoutMinutes work,
      fun conflict => refused_of_conflict conflict noOrphan, ?_⟩
    intro issues leases issuePerm leasePerm
    exact authorizeNextAction_perm issuePerm leasePerm now clock timeoutMinutes

/-! ## An orphan beside a permitted lease -/

def fixedContext : PolicyContext where
  autonomy := some "A2"
  health := some
    [("package_integrity", "HEALTHY"), ("config_health", "HEALTHY"),
      ("control_plane_health", "HEALTHY"), ("product_health", "HEALTHY")]
  providerAllowed := some true
  providerPotentiallyPaid := some false
  projectedCost := some 0

def leasedIssue : Issue where
  id := "1"
  state := some "IN_PROGRESS"
  risk := some "R1"
  leaseId := some "lease"
  workspaceId := some "workspace"

def orphanIssue : Issue where
  id := "2"
  state := some "CLAIMED"
  risk := some "R1"

def fixedLease : Lease where
  leaseId := some "lease"
  issueId := some "1"
  heartbeatAt := some (.at 0)
  expiresAt := some (.at minute)
  workspaceStatus := some "ACTIVE"
  workspaceId := some "workspace"

/-- The claimed issue conflicts, and the answer continues the other one. -/
theorem not_nextActionLaw_orphan :
    ¬ NextActionLaw ⟨[leasedIssue, orphanIssue], [fixedLease]⟩ fixedContext none 0 0 45 := by
  intro law
  have orphaned : Orphaned ⟨[leasedIssue, orphanIssue], [fixedLease]⟩ orphanIssue :=
    ⟨by decide, by decide, by decide⟩
  have refused := law.conflicts (.orphan orphanIssue orphaned)
  revert refused
  decide +kernel

example : (authorizeNextAction ⟨[leasedIssue, orphanIssue], []⟩ fixedContext none 0 0).issue =
    some leasedIssue := by
  decide +kernel

end Adwf.NextAction
