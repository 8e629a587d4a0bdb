import Adwf.Controller.Transition

/-!
# Justified transitions

What holds whenever the controller applies a transition, and the runs in which the label
and the marker of the issue it starts from differ.
-/

namespace Adwf.Controller

open Fallible
open RemoteSaga (Saga)

/-! ## The statement -/

/-- The states that machine labels denote. -/
def labelStates : List (String × String) :=
  [("roadmap:in-progress", "IN_PROGRESS"), ("roadmap:review", "REVIEW"),
    ("roadmap:verification", "VERIFICATION"), ("recovery:active", "RECOVERY")]

/-- The predicates `main` hands over for a target state. -/
def predicatesOf : String → List String
  | "REVIEW" => ["scope_gate_pass", "tests_executed_or_na", "docs_impact_assessed", "lease_active"]
  | "VERIFICATION" => ["review_pass_exact_sha", "ci_pass_exact_sha", "evidence_fresh"]
  | _ => []

section Statement

variable (env : Surroundings) (inputs : Inputs)

/-- The checks of the head have been read and are valid. -/
def ChecksPass (facts : Facts) : Prop :=
  ∃ checks, inputs.checks = .ok checks ∧ checksValid env inputs facts checks = true

/-- The reviews of the head have been read and are valid. -/
def ReviewPasses (facts : Facts) : Prop :=
  ∃ reviews, inputs.reviews = .ok reviews ∧ reviewValid env inputs facts reviews = true

/-- The facts stand for what the provider has answered. -/
structure Established (facts : Facts) : Prop where
  success : inputs.event.conclusion = some "success"
  environment : inputs.repo ≠ "" ∧ (inputs.apply = true → inputs.hasToken = true)
  single : inputs.event.pullRequests.length = 1
  pull : inputs.pull = .ok facts.pr
  runSha : workflowShaValid facts.pr inputs.event.headSha = true
  head : exactHead facts.pr = .ok facts.head
  classification : inputs.classification = .ok facts.classification
  unblocked : facts.classification.result ≠ .block
  contract : parsePrContract env.patterns (facts.pr.body.getD "") = .ok facts.contract
  issue : inputs.issue = .ok facts.issue
  marker : parseIssueMarker env.patterns facts.issue.text = .ok facts.marker
  matching : facts.marker.roadmapId = facts.contract.roadmapId ∧
    facts.marker.leaseId = facts.contract.writerLease.toLower
  active : facts.marker.state ∈ ["IN_PROGRESS", "REVIEW"]
  human : humanAllows env inputs facts = .ok true

/-- A transition that starts from an issue whose label and marker agree, and whose target is
warranted. -/
structure Justified (facts : Facts) (saga : Saga) : Prop where
  label : roadmapLabels facts.issue = [saga.plan.fromLabel]
  marker : facts.marker.state = saga.plan.fromState
  agreed : labelStates.lookup saga.plan.fromLabel = some saga.plan.fromState
  allowed : (evaluateTransition saga.plan.fromState saga.plan.toState stateMachine
    (predicatesOf saga.plan.toState) (some saga.plan.fromState)).isAllowed = true
  review : saga.plan.toState = "REVIEW" →
    facts.pr.state ≠ some "closed" ∧ facts.pr.draft = some false ∧
      ChecksPass env inputs facts ∧
      prAttestations env.patterns (facts.pr.body.getD "") = [] ∧
      leaseTimesValid env inputs facts.marker = true
  verification : saga.plan.toState = "VERIFICATION" →
    facts.pr.merged = true ∧ ChecksPass env inputs facts ∧
      ReviewPasses env inputs facts
  human : humanRequired facts.classification = true → ∃ reviews,
    inputs.reviews = .ok (some reviews) ∧ reviews.length < 100 ∧
      reviewErrors env inputs facts reviews inputs.moments.trustReview = []

/-- Every transition that `main` applies is justified. -/
def AppliesJustified : Prop :=
  ∀ saga, main env inputs = .ok (some saga) →
    ∃ facts, Established env inputs facts ∧ Justified env inputs facts saga

/-- The single machine label and the marker denote different active states. -/
def SplitBrain (facts : Facts) : Prop :=
  roadmapLabels facts.issue = ["roadmap:in-progress"] ∧ facts.marker.state = "REVIEW" ∨
    roadmapLabels facts.issue = ["roadmap:review"] ∧ facts.marker.state = "IN_PROGRESS"

/-- The pull request sends the issue out of its active states. -/
inductive Leaves (facts : Facts) : String → Prop
  | stale : leaseTimesValid env inputs facts.marker = false → Leaves facts "RECOVERY"
  | closed : facts.pr.state = some "closed" → facts.pr.merged = false → Leaves facts "RECOVERY"
  | unchecked {checks} : facts.pr.draft = some false ∨ facts.pr.merged = true →
      inputs.checks = .ok checks → checksValid env inputs facts checks = false →
      Leaves facts "RECOVERY"
  | unreviewed {reviews} : facts.pr.merged = true → ChecksPass env inputs facts →
      inputs.reviews = .ok reviews →
      reviewValid env inputs facts reviews = false ∨ facts.marker.state ≠ "REVIEW" →
      Leaves facts "RECOVERY"
  | reviewed : leaseTimesValid env inputs facts.marker = true →
      facts.pr.merged = true → ChecksPass env inputs facts →
      ReviewPasses env inputs facts → facts.marker.state = "REVIEW" →
      Leaves facts "VERIFICATION"

/-- A plan to the state can be made and applied. -/
structure Plannable (facts : Facts) (toState : String) : Prop where
  apply : inputs.apply = true
  repo : '/' ∈ inputs.repo.toList
  number : facts.issue.number ≠ none
  updatedAt : facts.issue.updatedAt.truthy = true
  body : ∃ desired, replaceIssueMarkerState env.patterns facts.issue.text toState =
    .ok desired ∧ desired ≠ "" ∧ facts.issue.text ≠ desired
  policy : ∃ hash, inputs.policyHash = .ok hash ∧ hash.length = 64

/-- No pull request moves an issue out of its active states while its label and its marker
differ. -/
def NoSplitMove : Prop :=
  ∀ facts toState, Established env inputs facts → SplitBrain facts →
    Leaves env inputs facts toState → ¬Plannable env inputs facts toState

end Statement

variable {env : Surroundings} {inputs : Inputs}

variable {issue : Issue} {marker : Marker} {label toState : String} {saga : Saga} {facts : Facts}
variable {target : Target} {pr : PullRequest}

theorem planTransition_eq_ok {target : String}
    (planned : planTransition env inputs issue marker label target toState = .ok saga) :
    saga.plan.fromLabel = label ∧ saga.plan.fromState = marker.state ∧
      saga.plan.toState = toState ∧ '/' ∈ inputs.repo.toList ∧ issue.number ≠ none ∧
      issue.updatedAt.truthy = true ∧
      (∃ desired, replaceIssueMarkerState env.patterns issue.text toState = .ok desired ∧
        desired ≠ "" ∧ issue.text ≠ desired) ∧
      ∃ hash, inputs.policyHash = .ok hash ∧ hash.length = 64 := by
  simp only [planTransition, bind_ok_iff] at planned
  obtain ⟨desired, replaced, hash, policy, made⟩ := planned
  have passed : ∀ {condition : Prop} [Decidable condition] {error : String} {value : Unit},
      require condition error = .ok value → condition :=
    fun required => (require_eq_ok_iff _ _ _).mp required
  unfold RemoteSaga.makeTransitionPlan at made
  cases number : issue.number with
  | none => simp [number, planRequest, bind_ok_iff] at made
  | some issueNumber =>
      simp only [planRequest, number, bind_ok_iff] at made
      obtain ⟨_, repo, _, labels, _, updatedAt, _, expected, _, body, _, long, ⟨⟩⟩ := made
      exact ⟨rfl, rfl, rfl, (passed repo).2, by simp, passed updatedAt,
        ⟨desired, replaced, passed body⟩, hash, policy, passed long⟩

theorem exists_planTransition {target : String}
    (plannable : Plannable env inputs facts toState) (repo : inputs.repo ≠ "")
    (only : roadmapLabels facts.issue = [label])
    (known : target ∈ RemoteSaga.machineLabelNames) (different : label ≠ target) :
    ∃ saga, planTransition env inputs facts.issue facts.marker label target toState = .ok saga := by
  obtain ⟨desired, replaced, some, changes⟩ := plannable.body
  obtain ⟨hash, policy, long⟩ := plannable.policy
  obtain ⟨number, numbered⟩ := Option.ne_none_iff_exists'.mp plannable.number
  have labels : ∀ name, name ∈ roadmapLabels facts.issue ↔ name = label := by
    simp [only]
  have inside := (labels label).mpr rfl
  have outside : target ∉ facts.issue.labels := by
    intro given
    exact different ((labels target).mp (List.mem_filter.mpr ⟨given, by simpa using known⟩)).symm
  obtain ⟨given, machine⟩ := List.mem_filter.mp inside
  rw [planTransition, replaced, ok_bind, policy, ok_bind, RemoteSaga.makeTransitionPlan,
    require_bind_of ⟨repo, plannable.repo⟩]
  simp only [planRequest, numbered]
  rw [require_bind_of ⟨by simpa using machine, known, different⟩,
    require_bind_of plannable.updatedAt,
    require_bind_of ⟨by simpa using given, by simpa using outside⟩,
    require_bind_of ⟨some, changes⟩, require_bind_of long]
  exact ⟨_, rfl⟩

/-- What `set_label` establishes before it applies a transition. -/
structure Applied (env : Surroundings) (inputs : Inputs) (issue : Issue)
    (target : Target) (saga : Saga) (marker : Marker) (label toState : String) : Prop where
  only : roadmapLabels issue = [label]
  source : label ∈ (sourcesOf.lookup target.label).getD []
  parsed : parseIssueMarker env.patterns issue.text = .ok marker
  known : targetState.lookup target.label = some toState
  different : label ≠ target.label
  allowed : (evaluateTransition marker.state toState stateMachine target.predicates
    (some marker.state)).isAllowed = true
  apply : inputs.apply = true
  planned : planTransition env inputs issue marker label target.label toState = .ok saga

theorem changeLabel_eq_some {target : String}
    {predicates : List String} (applied : changeLabel env inputs issue
      marker label target toState predicates = .ok (some saga)) :
    (evaluateTransition marker.state toState stateMachine predicates
      (some marker.state)).isAllowed = true ∧ inputs.apply = true ∧
      planTransition env inputs issue marker label target toState = .ok saga := by
  unfold changeLabel at applied
  obtain ⟨_, allowed, applied⟩ := bind_ok_iff.mp applied
  refine ⟨(require_eq_ok_iff _ _ _).mp allowed, ?_⟩
  split_ifs at applied with dry
  · cases applied
  · cases planned : planTransition env inputs issue marker label target toState with
    | error error =>
        rw [planned] at applied
        cases applied
    | ok made =>
        rw [planned] at applied
        cases applied
        exact ⟨by simpa using dry, rfl⟩

theorem setLabel_eq_some (ran : setLabel env inputs issue target.label target.predicates =
      .ok (some saga)) :
    ∃ marker label toState, Applied env inputs issue target saga marker label toState := by
  unfold setLabel at ran
  split at ran
  · rename_i label only
    obtain ⟨_, _, ran⟩ := bind_ok_iff.mp ran
    obtain ⟨_, source, ran⟩ := bind_ok_iff.mp ran
    split at ran
    · cases ran
    · rename_i marker parsed
      split at ran
      · cases ran
      · rename_i toState found
        split_ifs at ran with same
        · obtain ⟨_, _, ⟨⟩⟩ := bind_ok_iff.mp ran
        · obtain ⟨allowed, apply, planned⟩ := changeLabel_eq_some ran
          exact ⟨marker, label, toState, only, (require_eq_ok_iff _ _ _).mp source, parsed, found,
            same, allowed, apply, planned⟩
  · cases ran

theorem setLabel_of_applied (known : label ∈ sourceLabels)
    (applied : Applied env inputs issue target saga marker label toState) :
    setLabel env inputs issue target.label target.predicates = .ok (some saga) := by
  unfold setLabel
  simp only [applied.only, applied.parsed, applied.known]
  rw [require_bind_of known, require_bind_of applied.source, if_neg applied.different, changeLabel,
    require_bind_of applied.allowed, if_neg (by simp [applied.apply]), applied.planned]
  rfl

/-! ## The target -/

/-- The label of a target state. -/
def labelOf : String → String
  | "REVIEW" => "roadmap:review"
  | "VERIFICATION" => "roadmap:verification"
  | _ => "recovery:active"

/-- The target `main` picks for a state. -/
def targetOf (toState : String) : Target :=
  ⟨labelOf toState, predicatesOf toState⟩

/-- What is known of a pull request that sends its issue to review. -/
structure Ready (env : Surroundings) (inputs : Inputs) (facts : Facts) : Prop where
  lease : leaseTimesValid env inputs facts.marker = true
  isOpen : facts.pr.state ≠ some "closed"
  draft : facts.pr.draft = some false
  checks : ChecksPass env inputs facts
  attested : prAttestations env.patterns (facts.pr.body.getD "") = []

theorem judged_of_not_draft (draft : ¬(pr.draft.getD true = true ∧ pr.merged = false)) :
    pr.draft = some false ∨ pr.merged = true := by
  cases given : pr.draft with
  | none => simpa [given] using draft
  | some value =>
      cases value with
      | false => exact .inl rfl
      | true => simpa [given] using draft

theorem checkedTarget_eq_some {checks : Option (List Check)}
    (lease : leaseTimesValid env inputs facts.marker = true)
    (shut : ¬(facts.pr.state = some "closed" ∧ facts.pr.merged = false))
    (judged : facts.pr.draft = some false ∨ facts.pr.merged = true)
    (read : inputs.checks = .ok checks)
    (picked : checkedTarget env inputs facts checks = .ok (some target)) :
    target = targetOf "REVIEW" ∧ Ready env inputs facts ∨
      ∃ toState, Leaves env inputs facts toState ∧ target = targetOf toState := by
  unfold checkedTarget at picked
  by_cases failed : checksValid env inputs facts checks = false
  · rw [if_pos failed] at picked
    cases picked
    exact .inr ⟨_, .unchecked judged read failed, rfl⟩
  rw [if_neg failed] at picked
  have checked : ChecksPass env inputs facts := ⟨checks, read, by simpa using failed⟩
  by_cases merged : facts.pr.merged = true
  · rw [if_pos merged] at picked
    obtain ⟨reviews, reviewsRead, ⟨⟩⟩ := bind_ok_iff.mp picked
    right
    unfold mergedTarget
    split_ifs with unreviewed
    · exact ⟨_, .unreviewed merged checked reviewsRead unreviewed, rfl⟩
    · obtain ⟨reviewed, state⟩ := not_or.mp unreviewed
      exact ⟨_, .reviewed lease merged checked ⟨reviews, reviewsRead, by simpa using reviewed⟩
        (not_not.mp state), rfl⟩
  · rw [if_neg merged] at picked
    obtain ⟨_, attested, ⟨⟩⟩ := bind_ok_iff.mp picked
    have unmerged : facts.pr.merged = false := by simpa using merged
    exact .inl ⟨rfl, lease, fun closed => shut ⟨closed, unmerged⟩, judged.resolve_right merged,
      checked, (require_eq_ok_iff _ _ _).mp attested⟩

/-- The target follows from the pull request. -/
theorem pickTarget_eq_some (picked : pickTarget env inputs facts = .ok (some target)) :
    target = targetOf "REVIEW" ∧ Ready env inputs facts ∨
      ∃ toState, Leaves env inputs facts toState ∧ target = targetOf toState := by
  unfold pickTarget at picked
  split_ifs at picked with stale shut draft
  · cases picked
    exact .inr ⟨_, .stale stale, rfl⟩
  · cases picked
    exact .inr ⟨_, .closed shut.1 shut.2, rfl⟩
  · cases picked
  · obtain ⟨checks, read, picked⟩ := bind_ok_iff.mp picked
    exact checkedTarget_eq_some (by simpa using stale) shut (judged_of_not_draft draft) read picked

theorem pickTarget_of_leaves (leaves : Leaves env inputs facts toState) :
    pickTarget env inputs facts = .ok (some (targetOf toState)) := by
  unfold pickTarget
  cases leaves with
  | stale stale =>
      rw [if_pos stale]
      rfl
  | closed shut unmerged =>
      split_ifs with stale closed draft
      · rfl
      · rfl
      · exact absurd ⟨shut, unmerged⟩ closed
      · exact absurd ⟨shut, unmerged⟩ closed
  | @unchecked checks judged read failed =>
      split_ifs with stale closed draft
      · rfl
      · rfl
      · simp [draft.2] at judged
        simp [judged] at draft
      · rw [read, ok_bind, checkedTarget, if_pos failed]
        rfl
  | @unreviewed reviews merged checked read unreviewed =>
      obtain ⟨checks, checksRead, passed⟩ := checked
      split_ifs with stale closed draft
      · rfl
      · rfl
      · simp [merged] at draft
      · rw [checksRead, ok_bind, checkedTarget, if_neg (by simp [passed]), if_pos merged, read,
          ok_bind, mergedTarget, if_pos unreviewed]
        rfl
  | reviewed lease merged checked reviewed state =>
      obtain ⟨checks, checksRead, passed⟩ := checked
      obtain ⟨reviews, read, valid⟩ := reviewed
      rw [if_neg (by simp [lease]), if_neg (by simp [merged]), if_neg (by simp [merged]), checksRead,
        ok_bind, checkedTarget, if_neg (by simp [passed]), if_pos merged, read, ok_bind,
        mergedTarget, if_neg (by simp [valid, state])]
      rfl

/-! ## The facts before a target is picked -/

theorem begin_eq_some_iff : begin inputs = .ok (some pr) ↔
    inputs.event.conclusion = some "success" ∧
      (inputs.repo ≠ "" ∧ (inputs.apply = true → inputs.hasToken = true)) ∧
      inputs.event.pullRequests.length = 1 ∧ inputs.pull = .ok pr ∧
      workflowShaValid pr inputs.event.headSha = true := by
  unfold begin
  split_ifs with success
  · simp [success, pure, Except.pure]
  · simp only [bind_ok_iff, require_eq_ok_iff, exists_const, not_not.mp success, true_and]
    constructor
    · rintro ⟨environment, single, given, pull, runSha, ⟨⟩⟩
      exact ⟨environment, single, pull, runSha⟩
    · rintro ⟨environment, single, pull, runSha⟩
      exact ⟨environment, single, pr, pull, runSha, rfl⟩

theorem gather_eq_ok (gathered : gather env inputs pr = .ok facts) :
    facts.pr = pr ∧ exactHead pr = .ok facts.head ∧
      inputs.classification = .ok facts.classification ∧ facts.classification.result ≠ .block ∧
      parsePrContract env.patterns (pr.body.getD "") = .ok facts.contract ∧
      inputs.issue = .ok facts.issue ∧
      parseIssueMarker env.patterns facts.issue.text = .ok facts.marker ∧
      (facts.marker.roadmapId = facts.contract.roadmapId ∧
        facts.marker.leaseId = facts.contract.writerLease.toLower) ∧
      facts.marker.state ∈ ["IN_PROGRESS", "REVIEW"] := by
  unfold gather at gathered
  obtain ⟨head, exact, gathered⟩ := bind_ok_iff.mp gathered
  obtain ⟨classification, classified, gathered⟩ := bind_ok_iff.mp gathered
  obtain ⟨_, unblocked, gathered⟩ := bind_ok_iff.mp gathered
  split at gathered
  · cases gathered
  · rename_i contract parsed
    obtain ⟨issue, read, gathered⟩ := bind_ok_iff.mp gathered
    split at gathered
    · cases gathered
    · rename_i marker marked
      obtain ⟨_, matching, gathered⟩ := bind_ok_iff.mp gathered
      obtain ⟨_, active, ⟨⟩⟩ := bind_ok_iff.mp gathered
      exact ⟨rfl, exact, classified, (require_eq_ok_iff _ _ _).mp unblocked, parsed, read, marked,
        (require_eq_ok_iff _ _ _).mp matching, (require_eq_ok_iff _ _ _).mp active⟩

theorem gather_of_established (established : Established env inputs facts) :
    gather env inputs facts.pr = .ok facts := by
  unfold gather
  rw [established.head, ok_bind, established.classification, ok_bind,
    require_bind_of established.unblocked]
  simp only [established.contract]
  rw [established.issue, ok_bind]
  simp only [established.marker]
  rw [require_bind_of established.matching, require_bind_of established.active]
  rfl

theorem review_of_humanAllows (allowed : humanAllows env inputs facts = .ok true)
    (human : humanRequired facts.classification = true) :
    ∃ reviews, inputs.reviews = .ok (some reviews) ∧ reviews.length < 100 ∧
      reviewErrors env inputs facts reviews inputs.moments.trustReview = [] := by
  unfold humanAllows at allowed
  rw [if_neg (by simp [human])] at allowed
  obtain ⟨_, _, allowed⟩ := bind_ok_iff.mp allowed
  obtain ⟨answered, read, allowed⟩ := bind_ok_iff.mp allowed
  cases answered with
  | none => cases allowed
  | some reviews =>
      obtain ⟨_, few, valid⟩ := bind_ok_iff.mp allowed
      exact ⟨reviews, read, (require_eq_ok_iff _ _ _).mp few, by
        simpa using Except.ok.inj valid⟩

theorem main_eq_some (ran : main env inputs = .ok (some saga)) :
    ∃ facts target, Established env inputs facts ∧ pickTarget env inputs facts = .ok (some target) ∧
      setLabel env inputs facts.issue target.label target.predicates = .ok (some saga) := by
  unfold main at ran
  obtain ⟨begun, started, rest⟩ := bind_ok_iff.mp ran
  cases begun with
  | none => cases rest
  | some pr =>
      obtain ⟨facts, gathered, judged⟩ := bind_ok_iff.mp rest
      obtain ⟨allowed, human, targeted⟩ := bind_ok_iff.mp judged
      split_ifs at targeted with stopped
      · cases targeted
      · obtain ⟨picked, isPicked, labelled⟩ := bind_ok_iff.mp targeted
        cases picked with
        | none => cases labelled
        | some target =>
            obtain ⟨success, environment, single, pull, runSha⟩ := begin_eq_some_iff.mp started
            obtain ⟨rfl, head, classified, unblocked, contract, issue, marker, matching, active⟩ :=
              gather_eq_ok gathered
            have goes : allowed = true := by simpa using stopped
            exact ⟨facts, target, ⟨success, environment, single, pull, runSha, head, classified,
              unblocked, contract, issue, marker, matching, active, goes ▸ human⟩, isPicked,
              labelled⟩

theorem main_of_established (established : Established env inputs facts)
    (picked : pickTarget env inputs facts = .ok (some target)) : main env inputs =
      setLabel env inputs facts.issue target.label target.predicates := by
  have begun := begin_eq_some_iff.mpr ⟨established.success, established.environment,
    established.single, established.pull, established.runSha⟩
  rw [main, begun, ok_bind]
  simp only [gather_of_established established, ok_bind, established.human, picked]
  rfl

theorem agreed_or_splitBrain (only : roadmapLabels facts.issue = [label])
    (source : label ∈ ["roadmap:in-progress", "roadmap:review"])
    (active : facts.marker.state ∈ ["IN_PROGRESS", "REVIEW"]) :
    labelStates.lookup label = some facts.marker.state ∨ SplitBrain facts := by
  simp only [List.mem_cons, List.not_mem_nil, or_false] at source active
  rcases source with rfl | rfl <;> rcases active with state | state
  · exact .inl (by rw [state]; decide)
  · exact .inr (.inl ⟨only, state⟩)
  · exact .inr (.inr ⟨only, state⟩)
  · exact .inl (by rw [state]; decide)

theorem active_of_source {target : String}
    (known : target ∈ ["roadmap:review", "roadmap:verification", "recovery:active"])
    (source : label ∈ (sourcesOf.lookup target).getD []) (different : label ≠ target) :
    label ∈ ["roadmap:in-progress", "roadmap:review"] := by
  simp only [List.mem_cons, List.not_mem_nil, or_false] at known
  rcases known with rfl | rfl | rfl
  · simpa [sourcesOf, List.lookup_cons] using source
  · have listed : label = "roadmap:in-progress" ∨ label = "roadmap:review" ∨
        label = "roadmap:verification" := by
      simpa [sourcesOf, List.lookup_cons] using source
    simpa [different] using listed
  · have listed : label = "roadmap:in-progress" ∨ label = "roadmap:review" ∨
        label = "recovery:active" := by
      simpa [sourcesOf, List.lookup_cons] using source
    simpa [different] using listed

/-- The targets outside the active states. -/
theorem leaves_toState (leaves : Leaves env inputs facts toState) :
    toState = "RECOVERY" ∨ toState = "VERIFICATION" ∧ facts.pr.merged = true ∧
      ChecksPass env inputs facts ∧ ReviewPasses env inputs facts ∧
      facts.marker.state = "REVIEW" := by
  cases leaves with
  | stale => exact .inl rfl
  | closed => exact .inl rfl
  | unchecked => exact .inl rfl
  | unreviewed => exact .inl rfl
  | reviewed _ merged checked reviewed state => exact .inr ⟨rfl, merged, checked, reviewed, state⟩

theorem applied_of_split (split : SplitBrain facts) (leaves : Leaves env inputs facts toState) :
    ∃ label, roadmapLabels facts.issue = [label] ∧
      labelStates.lookup label ≠ some facts.marker.state ∧ label ∈ sourceLabels ∧
      label ∈ (sourcesOf.lookup (labelOf toState)).getD [] ∧ label ≠ labelOf toState ∧
      labelOf toState ∈ RemoteSaga.machineLabelNames ∧
      targetState.lookup (labelOf toState) = some toState ∧
      (evaluateTransition facts.marker.state toState stateMachine (predicatesOf toState)
        (some facts.marker.state)).isAllowed = true := by
  rcases leaves_toState leaves with rfl | ⟨rfl, _, _, _, reviewing⟩
  · rcases split with ⟨only, state⟩ | ⟨only, state⟩
    · exact ⟨_, only, by rw [state]; decide, by decide, by decide, by decide, by decide, by decide,
        by rw [state]; decide⟩
    · exact ⟨_, only, by rw [state]; decide, by decide, by decide, by decide, by decide, by decide,
        by rw [state]; decide⟩
  · rcases split with ⟨only, state⟩ | ⟨only, state⟩
    · exact ⟨_, only, by rw [state]; decide, by decide, by decide, by decide, by decide, by decide,
        by rw [state]; decide⟩
    · rw [state] at reviewing
      exact absurd reviewing (by decide)

theorem not_appliesJustified (established : Established env inputs facts) (split : SplitBrain facts)
    (leaves : Leaves env inputs facts toState) (plannable : Plannable env inputs facts toState) :
    ¬AppliesJustified env inputs := by
  intro justified
  obtain ⟨label, only, apart, known, source, different, machine, target, allowed⟩ :=
    applied_of_split split leaves
  obtain ⟨saga, planned⟩ := exists_planTransition plannable established.environment.1 only machine
    different
  have applied : Applied env inputs facts.issue (targetOf toState) saga facts.marker label
      toState :=
    ⟨only, source, established.marker, target, different, allowed, plannable.apply, planned⟩
  have ran := (main_of_established established (pickTarget_of_leaves leaves)).trans
    (setLabel_of_applied known applied)
  obtain ⟨_, _, holds⟩ := justified saga ran
  obtain ⟨fromLabel, fromState, _⟩ := planTransition_eq_ok planned
  have agreed := holds.agreed
  rw [fromLabel, fromState] at agreed
  exact apart agreed

theorem agreed_of_review (active : facts.marker.state ∈ ["IN_PROGRESS", "REVIEW"])
    (applied : Applied env inputs facts.issue (targetOf "REVIEW") saga facts.marker label toState) :
    toState = "REVIEW" ∧ labelStates.lookup label = some facts.marker.state := by
  have reviewing : toState = "REVIEW" := by
    have known : some "REVIEW" = some toState := applied.known
    exact (Option.some.inj known).symm
  have source : label = "roadmap:in-progress" := by
    have listed := active_of_source (by decide) applied.source applied.different
    have different : label ≠ "roadmap:review" := applied.different
    simpa [different] using listed
  subst reviewing source
  have allowed := applied.allowed
  simp only [List.mem_cons, List.not_mem_nil, or_false] at active
  rcases active with state | state
  · exact ⟨rfl, by rw [state]; decide⟩
  · rw [state] at allowed
    exact absurd allowed (by decide)

/-- Every transition is justified exactly in the runs that move no split issue out of its
active states. -/
theorem appliesJustified_iff (env : Surroundings) (inputs : Inputs) :
    AppliesJustified env inputs ↔ NoSplitMove env inputs := by
  constructor
  · intro justified facts toState established split leaves plannable
    exact not_appliesJustified established split leaves plannable justified
  · intro noSplit saga ran
    obtain ⟨facts, target, established, picked, labelled⟩ := main_eq_some ran
    obtain ⟨marker, label, toState, applied⟩ := setLabel_eq_some labelled
    obtain rfl : facts.marker = marker :=
      Except.ok.inj (established.marker.symm.trans applied.parsed)
    obtain ⟨fromLabel, fromState, planned, repo, number, updatedAt, body, policy⟩ :=
      planTransition_eq_ok applied.planned
    have human := review_of_humanAllows established.human
    refine ⟨facts, established, ?_⟩
    rcases pickTarget_eq_some picked with ⟨rfl, ready⟩ | ⟨leaving, leaves, rfl⟩
    · obtain ⟨rfl, agreed⟩ := agreed_of_review established.active applied
      have allowed := applied.allowed
      constructor
      · rw [fromLabel, applied.only]
      · rw [fromState]
      · rw [fromLabel, fromState, agreed]
      · rw [fromState, planned]
        exact allowed
      · intro _
        exact ⟨ready.isOpen, ready.draft, ready.checks, ready.attested, ready.lease⟩
      · rw [planned]
        exact fun other => absurd other (by decide)
      · exact human
    · have same : leaving = toState := by
        have known := applied.known
        rcases leaves_toState leaves with rfl | ⟨rfl, _⟩
        · exact Option.some.inj known
        · exact Option.some.inj known
      subst same
      have listed : labelOf leaving ∈
          ["roadmap:review", "roadmap:verification", "recovery:active"] := by
        rcases leaves_toState leaves with rfl | ⟨rfl, _⟩ <;> decide
      have source := active_of_source listed applied.source applied.different
      have agreed := (agreed_or_splitBrain applied.only source established.active).resolve_right
        fun split => noSplit facts leaving established split leaves
          ⟨applied.apply, repo, number, updatedAt, body, policy⟩
      have allowed := applied.allowed
      constructor
      · rw [fromLabel, applied.only]
      · rw [fromState]
      · rw [fromLabel, fromState, agreed]
      · rw [fromState, planned]
        exact allowed
      · rw [planned]
        rcases leaves_toState leaves with rfl | ⟨rfl, _⟩
        · exact fun other => absurd other (by decide)
        · exact fun other => absurd other (by decide)
      · rw [planned]
        rcases leaves_toState leaves with rfl | ⟨rfl, merged, checked, reviewed, _⟩
        · exact fun other => absurd other (by decide)
        · exact fun _ => ⟨merged, checked, reviewed⟩
      · exact human

/-! ## An expired lease of a split issue -/

def splitMarker : Marker where
  roadmapId := "R-1"
  writerId := "w"
  leaseId := "l"
  workspaceId := "ws1"
  state := "REVIEW"
  heartbeatAt := "2026-01-01T00:00:00Z"
  expiresAt := "2026-01-01T01:00:00Z"

/-- The body of the issue is its marker alone. -/
def splitBody : String :=
  splitMarker.text "REVIEW"

def splitContract : Contract :=
  ⟨"R-1", 7, "l", "R2"⟩

def splitSurroundings : Surroundings where
  patterns := {
    markers body := if body = splitBody then [splitMarker] else []
    isRoadmapId _ := true
    replaceMarker _ text := .ok text
    count _ _ := 1
    fields
      | .roadmapId, _ => ["R-1"]
      | .issueNumber, _ => ["7"]
      | .writerLease, _ => ["l"]
      | .risk, _ => ["R2"]
    number _ := 7
    isPlaceholder _ := false
    isTicked _ _ := true
    driftsHigh _ := false }
  clockwork := {
    parseTime text := if text = "2026-01-01T00:00:00Z" then some 0 else some hour
    casefold := id }
  rt := ⟨fun _ => "", fun _ => none, fun _ => none, fun _ => ""⟩
  sha256 := id

def splitHead : String :=
  String.ofList (List.replicate 40 'a')

def splitPull : PullRequest where
  headSha := some splitHead
  state := some "open"
  draft := some false

/-- The label says in progress, the marker review, and the lease has expired. -/
def splitIssue : Issue where
  number := some 7
  updatedAt := .str "2026-01-01T00:00:00Z"
  body := some splitBody
  labels := ["roadmap:in-progress"]

def splitInputs : Inputs where
  event := ⟨some "success", some splitHead, [3]⟩
  apply := true
  repo := "owner/repo"
  hasToken := true
  pull := .ok splitPull
  classification := .ok ⟨.allow, [], [], none⟩
  issue := .ok splitIssue
  checks := .ok none
  reviews := .ok none
  settings := {}
  policyHash := .ok (String.ofList (List.replicate 64 'c'))
  moments := ⟨2 * hour, 0, 0, 0⟩

def splitFacts : Facts where
  pr := splitPull
  head := splitHead
  classification := ⟨.allow, [], [], none⟩
  contract := splitContract
  issue := splitIssue
  marker := splitMarker

/-- The issue is moved to recovery. -/
theorem not_appliesJustified_split : ¬AppliesJustified splitSurroundings splitInputs := by
  have body : splitIssue.text = splitBody := rfl
  have marker : parseIssueMarker splitSurroundings.patterns splitBody = .ok splitMarker := by
    decide +kernel
  have desired : replaceIssueMarkerState splitSurroundings.patterns splitBody "RECOVERY" =
      .ok (splitMarker.text "RECOVERY") := by
    rw [replaceIssueMarkerState, marker]
    rfl
  have established : Established splitSurroundings splitInputs splitFacts := by
    constructor
    · rfl
    · exact ⟨by decide, fun _ => rfl⟩
    · rfl
    · rfl
    · decide +kernel
    · decide +kernel
    · rfl
    · exact nofun
    · rfl
    · rfl
    · exact marker
    · exact ⟨rfl, by decide +kernel⟩
    · decide
    · rfl
  have leaves : Leaves splitSurroundings splitInputs splitFacts "RECOVERY" :=
    .stale (by decide +kernel)
  refine not_appliesJustified established (.inl ⟨rfl, rfl⟩) leaves ?_
  constructor
  · rfl
  · decide
  · exact nofun
  · rfl
  · exact ⟨_, desired, by decide +kernel, by rw [splitFacts, body]; decide +kernel⟩
  · exact ⟨_, rfl, by decide +kernel⟩

end Adwf.Controller
