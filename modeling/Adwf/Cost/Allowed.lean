import Adwf.Cost.Guard

/-!
# What an allowed request has shown

`evaluate_provider` collects reasons; a request is allowed when there are none.
The conditions under which each part of the guard finds nothing are stated here
one by one, and together they are exactly the conditions of `ALLOW`.
-/

namespace Adwf.Cost

open Fallible
open Trust (reasonIf isMember reasonIf_eq_nil_iff eraseDups_eq_nil_iff)

section Guard

variable (rt : Runtime) (tools : CostTools)

/-! ## The conditions -/

/-- The provider is enabled, free and documented. -/
structure Capable (provider : Fields) (now : Int) : Prop where
  enabled : Json.get provider "enabled" = .bool true
  classified : memberText rt provider "classification" "UNKNOWN" ∈ allowedClassifications
  unexpired : fresh rt tools (Json.get provider "verified_at")
    (Json.get provider "valid_until") now = some true

/-- Nothing of the registry or the provider is metered. -/
structure Unmetered (registry provider : Fields) : Prop where
  model : isMember (Json.get provider "billing_model") ["metered", "unknown"] = .ok false
  off : Json.get registry "allow_metered_provider" = .bool false

/-- The budget and the cost are zero and cannot grow. -/
structure ZeroBudget (registry request : Fields) : Prop where
  budget : numberAt rt registry "hard_budget_usd" = some 0
  cost : numberOrZero rt request "projected_cost" = some 0
  overage : Json.get registry "allow_overage" = .bool false
  credit : Json.get registry "allow_credit_purchase" = .bool false
  unknown : Json.get registry "allow_unknown_provider" = .bool false

/-- The provider is documented and may be used for what the request is. -/
structure UsePermitted (provider request : Fields) : Prop where
  source : Text.startsWith (memberText rt provider "official_source_url" "") "https://" = true
  withoutApi : Json.get request "mandatory_ci" = .bool true →
    Json.get provider "requires_ai_api" ≠ .bool true
  mandatory : Json.get request "mandatory_ci" = .bool true →
    Json.get provider "mandatory_ci_allowed" = .bool true
  automatic : Json.get request "automated" = .bool true →
    Json.get provider "automatic_execution_allowed" = .bool true
  requirements : requirementsListed (Json.get provider "zero_cost_requirements") = true

/-- A provider of the CI plane is the canonical one or local. -/
def CanonicalPermitted (provider : Fields) (canonicalProvider : Option String) : Prop :=
  ∀ canonical, canonicalProvider = some canonical → canonical ≠ "" →
    Json.get provider "plane" = .str "ci" →
      isMember (Json.get provider "provider_mode") ["local", canonical] = .ok true

/-- The repository is as visible as the scope of the provider asks. -/
structure VisibilityMatches (provider request : Fields) : Prop where
  known : isMember (Json.get provider "repository_visibility_scope")
    ["ANY", "PUBLIC_ONLY", "PRIVATE_ONLY", "NOT_APPLICABLE"] = .ok true
  isPublic : Json.get provider "repository_visibility_scope" = .str "PUBLIC_ONLY" →
    tools.upper (memberText rt request "repository_visibility" "") = "PUBLIC"
  isPrivate : Json.get provider "repository_visibility_scope" = .str "PRIVATE_ONLY" →
    tools.upper (memberText rt request "repository_visibility" "") = "PRIVATE"

/-- The runner is of the class that the provider runs on. -/
structure RunnerMatches (provider request : Fields) : Prop where
  known : isMember (Json.get provider "execution_class") ["LOCAL", "STANDARD_HOSTED",
    "SELF_HOSTED", "LARGER_HOSTED", "INTERACTIVE", "METERED_API", "PLATFORM_CONTROL"] = .ok true
  standard : Json.get provider "execution_class" = .str "STANDARD_HOSTED" →
    tools.lower (memberText rt request "runner_class" "") = "standard"
  selfHosted : Json.get provider "execution_class" = .str "SELF_HOSTED" →
    tools.lower (memberText rt request "runner_class" "") = "self_hosted"

/-- The quota is recent and large enough. -/
structure QuotaHolds (quota internal : Fields) (reading : QuotaReading) (hard : Rat) (now : Int) :
    Prop where
  recent : Recent now reading.ttl reading.observed
  internalLimit : number rt ((internal.lookup "hard_minutes").getD (.num reading.limit)) =
    some hard
  plan : exceedsPlan rt internal reading.limit = some false
  below : reading.used ≤ reading.limit
  enough : tools.add reading.used reading.projected ≤ min reading.limit hard
  spend : Json.get quota "hard_spend_limit_zero" = .bool true
  overage : Json.get quota "allow_overage" = .bool false

/-- The storage is recent and below its stops. -/
structure StorageHolds (internal : Fields) (reading : StorageReading) (now : Int) : Prop where
  recent : Recent now reading.ttl reading.observed
  artifact : ∃ stop, numberOrZero rt internal "artifact_stop_mb" = some stop ∧
    tools.add reading.artifact reading.projectedArtifact ≤ stop
  cache : ∃ stop, numberOrZero rt internal "cache_stop_mb" = some stop ∧
    tools.add reading.cache reading.projectedCache ≤ stop

/-- An included quota holds, and so does the storage where the provider limits it. -/
def QuotaPermitted (registry request provider : Fields) (now : Int) : Prop :=
  ∃ quota internal reading hard, readQuota rt tools registry request = some (quota, reading) ∧
      internalLimits provider = .obj internal ∧
      QuotaHolds rt tools quota internal reading hard now ∧
      (internal.lookup "artifact_stop_mb" ≠ none ∨ internal.lookup "cache_stop_mb" ≠ none →
        ∃ storage, readStorage rt tools registry request = some storage ∧
          StorageHolds rt tools internal storage now)

/-- The owner confirms a resource without a metered control plane. -/
def OwnerPermitted (request : Fields) (now : Int) : Prop :=
  ∃ resource, memberOrEmpty request "owner_resource" = .obj resource ∧
    Json.get resource "confirmed" = .bool true ∧
    Json.get resource "metered_control_plane" = .bool false ∧
    freshMembers rt tools resource now = some true

/-- A subscription without automatic purchases, for interactive use. -/
def SubscriptionPermitted (request : Fields) (now : Int) : Prop :=
  ∃ subscription, memberOrEmpty request "subscription" = .obj subscription ∧
    freshMembers rt tools subscription now = some true ∧
    Json.get subscription "auto_credit_purchase" = .bool false ∧
    Json.get request "mandatory_ci" ≠ .bool true ∧ Json.get request "automated" ≠ .bool true

/-- The evidence that the classification asks of the request. -/
structure EvidencePermitted (registry request provider : Fields) (now : Int) : Prop where
  owner : memberText rt provider "classification" "UNKNOWN" = "OWNER_PROVIDED" →
    OwnerPermitted rt tools request now
  quota : memberText rt provider "classification" "UNKNOWN" = "INCLUDED_QUOTA" →
    QuotaPermitted rt tools registry request provider now
  subscription : memberText rt provider "classification" "UNKNOWN" = "CONDITIONAL_FREE" →
    SubscriptionPermitted rt tools request now

/-- All that the guard asks of a request and a provider of the registry. -/
structure Permits (registry request provider : Fields) (now : Int)
    (canonicalProvider : Option String) : Prop where
  capable : Capable rt tools provider now
  unmetered : Unmetered registry provider
  budget : ZeroBudget rt registry request
  use : UsePermitted rt provider request
  canonical : CanonicalPermitted provider canonicalProvider
  visibility : VisibilityMatches rt tools provider request
  runner : RunnerMatches rt tools provider request
  evidence : EvidencePermitted rt tools registry request provider now

/-! ## The parts of the guard -/

variable {rt tools}
variable {registry request provider : Fields} {now : Int} {canonicalProvider : Option String}

theorem number_nonneg {value : Json} {parsed : Rat} (read : number rt value = some parsed) :
    0 ≤ parsed := by
  unfold number at read
  split at read
  · split_ifs at read with holds
    rcases Option.some.inj read with rfl
    exact holds
  · cases read

theorem capable_iff : classificationReasons rt provider = [] ∧
        evidenceReasons rt tools provider now = [] ↔ Capable rt tools provider now := by
  have evidence : evidenceReasons rt tools provider now = [] ↔
      fresh rt tools (Json.get provider "verified_at") (Json.get provider "valid_until")
        now = some true := by
    unfold evidenceReasons
    cases fresh rt tools (Json.get provider "verified_at") (Json.get provider "valid_until")
        now with
    | none => simp
    | some isFresh => simp [reasonIf_eq_nil_iff]
  rw [evidence, classificationReasons]
  simp only [List.append_eq_nil_iff, reasonIf_eq_nil_iff, not_not]
  constructor
  · rintro ⟨⟨⟨⟨enabled, _⟩, classified⟩, _⟩, unexpired⟩
    exact ⟨enabled, classified, unexpired⟩
  · rintro ⟨enabled, classified, unexpired⟩
    refine ⟨⟨⟨⟨enabled, ?_⟩, classified⟩, ?_⟩, unexpired⟩
    · revert classified
      simp only [allowedClassifications, capabilityStatuses, List.mem_cons]
      tauto
    · intro forbidden
      have apart : ∀ status ∈ ["METERED", "PAID", "UNKNOWN", "STALE"],
          status ∉ allowedClassifications := by decide
      exact apart _ forbidden classified

theorem meteredReasons_eq_iff :
    meteredReasons registry provider = .ok [] ↔ Unmetered registry provider := by
  rw [meteredReasons, bind_ok_iff]
  constructor
  · rintro ⟨metered, found, none⟩
    have passed := reasonIf_eq_nil_iff.mp (Except.ok.inj none)
    rw [not_or, not_not, Bool.not_eq_true] at passed
    exact ⟨passed.1 ▸ found, passed.2⟩
  · rintro ⟨model, off⟩
    refine ⟨false, model, congrArg Except.ok (reasonIf_eq_nil_iff.mpr ?_)⟩
    simp [off]

theorem budgetReasons_eq_iff :
    budgetReasons rt registry request = [] ↔ ZeroBudget rt registry request := by
  simp only [budgetReasons, List.append_eq_nil_iff, reasonIf_eq_nil_iff, not_or, not_not]
  constructor
  · rintro ⟨⟨⟨⟨costRead, budgetRead⟩, zero⟩, within⟩, overage, credit, unknown⟩
    rcases Option.ne_none_iff_exists'.mp costRead with ⟨cost, foundCost⟩
    rcases Option.ne_none_iff_exists'.mp budgetRead with ⟨budget, foundBudget⟩
    rw [hardBudget, foundBudget, Option.getD_some] at zero within
    rw [projectedCost, foundCost, Option.getD_some, zero] at within
    have nonneg := number_nonneg foundCost
    refine ⟨zero ▸ foundBudget, ?_, overage, credit, unknown⟩
    rw [foundCost, Rat.le_antisymm (Rat.not_lt.mp within) nonneg]
  · rintro ⟨budget, cost, overage, credit, unknown⟩
    simp [hardBudget, projectedCost, budget, cost, overage, credit, unknown]

theorem usePolicyReasons_eq_iff :
    usePolicyReasons rt provider request = [] ∧ requirementReasons provider = [] ↔
      UsePermitted rt provider request := by
  simp only [usePolicyReasons, requirementReasons, List.append_eq_nil_iff, reasonIf_eq_nil_iff,
    not_and, not_not, Bool.not_eq_false]
  constructor
  · rintro ⟨⟨⟨⟨source, withoutApi⟩, mandatory⟩, automatic⟩, requirements⟩
    exact ⟨source, withoutApi, mandatory, automatic, requirements⟩
  · rintro ⟨source, withoutApi, mandatory, automatic, requirements⟩
    exact ⟨⟨⟨⟨source, withoutApi⟩, mandatory⟩, automatic⟩, requirements⟩

theorem isMember_bind_eq_iff {value : Json} {texts : List String} {reason : String} : (do
      let known ← isMember value texts
      return reasonIf (known = false) reason : Except String (List String)) = .ok [] ↔
      isMember value texts = .ok true := by
  rw [bind_ok_iff]
  constructor
  · rintro ⟨known, found, none⟩
    have passed := reasonIf_eq_nil_iff.mp (Except.ok.inj none)
    rw [Bool.not_eq_false] at passed
    exact passed ▸ found
  · intro found
    exact ⟨true, found, rfl⟩

theorem canonicalReasons_eq_iff : canonicalReasons provider canonicalProvider = .ok [] ↔
      CanonicalPermitted provider canonicalProvider := by
  unfold canonicalReasons CanonicalPermitted
  cases canonicalProvider with
  | none => simp [pure, Except.pure]
  | some canonical =>
      simp only [Option.some.injEq, forall_eq']
      split_ifs with exempt
      · simp only [pure, Except.pure, true_iff]
        intro named plane
        rcases exempt with unnamed | elsewhere
        · exact absurd unnamed named
        · exact absurd plane elsewhere
      · rw [not_or, not_not] at exempt
        rw [isMember_bind_eq_iff]
        exact ⟨fun found _ _ => found, fun found => found exempt.1 exempt.2⟩

theorem visibilityReasons_eq_iff : visibilityReasons rt tools provider request = .ok [] ↔
      VisibilityMatches rt tools provider request := by
  unfold visibilityReasons
  simp only
  split_ifs with onlyPublic onlyPrivate
  · refine ⟨nofun, fun holds => ?_⟩
    exact absurd (holds.isPublic onlyPublic.1) onlyPublic.2
  · refine ⟨nofun, fun holds => ?_⟩
    exact absurd (holds.isPrivate onlyPrivate.1) onlyPrivate.2
  · rw [isMember_bind_eq_iff]
    rw [not_and, not_not] at onlyPublic onlyPrivate
    exact ⟨fun known => ⟨known, onlyPublic, onlyPrivate⟩, fun holds => holds.known⟩

theorem executionReasons_eq_iff : executionReasons rt tools provider request = .ok [] ↔
      RunnerMatches rt tools provider request := by
  unfold executionReasons
  simp only
  split_ifs with standard selfHosted
  · refine ⟨nofun, fun holds => ?_⟩
    exact absurd (holds.standard standard.1) standard.2
  · refine ⟨nofun, fun holds => ?_⟩
    exact absurd (holds.selfHosted selfHosted.1) selfHosted.2
  · rw [isMember_bind_eq_iff]
    rw [not_and, not_not] at standard selfHosted
    exact ⟨fun known => ⟨known, standard, selfHosted⟩, fun holds => holds.known⟩

/-! ## The evidence of the request -/

theorem ownerReasons_eq_iff :
    ownerReasons rt tools request now = .ok [] ↔ OwnerPermitted rt tools request now := by
  unfold ownerReasons OwnerPermitted
  cases memberOrEmpty request "owner_resource" with
  | obj resource =>
      simp only [Json.obj.injEq, exists_eq_left', pure, Except.pure, Except.ok.injEq,
        List.append_eq_nil_iff, reasonIf_eq_nil_iff, not_not, and_assoc]
      cases freshMembers rt tools resource now with
      | none => simp
      | some isFresh => simp [reasonIf_eq_nil_iff]
  | _ => simp

theorem subscriptionReasons_eq_iff : subscriptionReasons rt tools request now = [] ↔
      SubscriptionPermitted rt tools request now := by
  unfold subscriptionReasons SubscriptionPermitted
  cases memberOrEmpty request "subscription" with
  | obj subscription =>
      simp only [Json.obj.injEq, exists_eq_left']
      cases freshMembers rt tools subscription now with
      | none => simp
      | some isFresh => simp [reasonIf_eq_nil_iff]
  | _ => simp

theorem limitReasons_eq_iff {quota internal : Fields} {reading : QuotaReading} :
    ((limitReasons rt tools quota internal reading).1 = [] ∧
        Recent now reading.ttl reading.observed) ↔
      ∃ hard, QuotaHolds rt tools quota internal reading hard now := by
  unfold limitReasons
  cases internalLimit : number rt
      ((internal.lookup "hard_minutes").getD (.num reading.limit)) with
  | none =>
      refine ⟨fun impossible => absurd impossible.1 (List.cons_ne_nil _ _), ?_⟩
      rintro ⟨hard, holds⟩
      rw [holds.internalLimit] at internalLimit
      cases internalLimit
  | some hard =>
      cases plan : exceedsPlan rt internal reading.limit with
      | none =>
          refine ⟨fun impossible => absurd impossible.1 (List.cons_ne_nil _ _), ?_⟩
          rintro ⟨other, holds⟩
          rw [holds.plan] at plan
          cases plan
      | some exceeds =>
          simp only [List.append_eq_nil_iff, reasonIf_eq_nil_iff, not_or, not_not, Rat.not_lt,
            Bool.not_eq_true]
          constructor
          · rintro ⟨⟨⟨within, below, enough⟩, spend, overage⟩, recent⟩
            exact ⟨hard, recent, internalLimit, within ▸ plan, below, enough, spend, overage⟩
          · rintro ⟨other, holds⟩
            have same := internalLimit.symm.trans holds.internalLimit
            rcases Option.some.inj same with rfl
            have within := plan.symm.trans holds.plan
            exact ⟨⟨⟨Option.some.inj within, holds.below, holds.enough⟩, holds.spend,
              holds.overage⟩, holds.recent⟩

theorem quotaReasons_eq_iff :
    (∃ usage, quotaReasons rt tools registry request provider now = .ok ([], usage)) ↔
      ∃ quota internal reading hard, readQuota rt tools registry request = some (quota, reading) ∧
          internalLimits provider = .obj internal ∧
          QuotaHolds rt tools quota internal reading hard now := by
  unfold quotaReasons
  cases readQuota rt tools registry request with
  | none => simp [pure, Except.pure]
  | some read =>
      rcases read with ⟨quota, reading⟩
      cases internalLimits provider with
      | obj internal =>
          have limits := @limitReasons_eq_iff rt tools now quota internal reading
          simp only [pure, Except.pure, Except.ok.injEq, Prod.mk.injEq, List.append_eq_nil_iff,
            reasonIf_eq_nil_iff, not_not, exists_and_left, exists_eq', and_true,
            Option.some.injEq, Json.obj.injEq]
          rw [and_comm, limits]
          constructor
          · rintro ⟨hard, holds⟩
            exact ⟨quota, internal, reading, ⟨rfl, rfl⟩, rfl, hard, holds⟩
          · rintro ⟨_, _, _, ⟨rfl, rfl⟩, rfl, hard, holds⟩
            exact ⟨hard, holds⟩
      | _ => simp

theorem stopReasons_eq_iff {internal : Fields} {name reason : String} {total : Rat} :
    stopReasons rt internal name total reason = some [] ↔
      ∃ stop, numberOrZero rt internal name = some stop ∧ total ≤ stop := by
  unfold stopReasons
  cases numberOrZero rt internal name with
  | none => simp
  | some stop => simp [reasonIf_eq_nil_iff]

variable {usage : Usage}

theorem stopLimitReasons_eq_iff {internal : Fields} {reading : StorageReading} :
    (stopLimitReasons rt tools internal reading usage).1 = [] ↔
      (∃ stop, numberOrZero rt internal "artifact_stop_mb" = some stop ∧
        tools.add reading.artifact reading.projectedArtifact ≤ stop) ∧
      ∃ stop, numberOrZero rt internal "cache_stop_mb" = some stop ∧
        tools.add reading.cache reading.projectedCache ≤ stop := by
  rw [← @stopReasons_eq_iff rt internal "artifact_stop_mb"
      "ARTIFACT_STORAGE_WOULD_EXCEED_INTERNAL_LIMIT",
    ← @stopReasons_eq_iff rt internal "cache_stop_mb"
      "CACHE_STORAGE_WOULD_EXCEED_INTERNAL_LIMIT", stopLimitReasons]
  cases stopReasons rt internal "artifact_stop_mb"
      (tools.add reading.artifact reading.projectedArtifact)
      "ARTIFACT_STORAGE_WOULD_EXCEED_INTERNAL_LIMIT" with
  | none => simp
  | some artifact =>
      cases stopReasons rt internal "cache_stop_mb"
          (tools.add reading.cache reading.projectedCache)
          "CACHE_STORAGE_WOULD_EXCEED_INTERNAL_LIMIT" with
      | none => simp
      | some cache => simp

theorem storageReasons_eq_iff {internal : Fields} :
    (∃ after, storageReasons rt tools registry request (.obj internal) now usage =
        .ok ([], after)) ↔ ∃ storage, readStorage rt tools registry request = some storage ∧
        StorageHolds rt tools internal storage now := by
  unfold storageReasons
  cases readStorage rt tools registry request with
  | none => simp [pure, Except.pure]
  | some reading =>
      simp only [pure, Except.pure, Except.ok.injEq, Prod.mk.injEq, List.append_eq_nil_iff,
        reasonIf_eq_nil_iff, not_not, exists_and_left, exists_eq', and_true, Option.some.injEq,
        exists_eq_left', stopLimitReasons_eq_iff]
      constructor
      · rintro ⟨recent, artifact, cache⟩
        exact ⟨recent, artifact, cache⟩
      · rintro ⟨recent, artifact, cache⟩
        exact ⟨recent, artifact, cache⟩

theorem includedReasons_of_object {quota : List String × Usage} {internal : Fields}
    (checked : quotaReasons rt tools registry request provider now = .ok quota)
    (limits : internalLimits provider = .obj internal) :
    includedReasons rt tools registry request provider now =
      if internal.lookup "artifact_stop_mb" ≠ none ∨ internal.lookup "cache_stop_mb" ≠ none then do
        let storage ← storageReasons rt tools registry request (.obj internal) now quota.2
        return (quota.1 ++ storage.1, storage.2)
      else return quota := by
  simp only [includedReasons, checked, limits, ok_bind, mentions, pure, Except.pure,
    decide_eq_true_eq]

theorem exists_quota_of_included
    (included : includedReasons rt tools registry request provider now = .ok ([], usage)) :
    ∃ quotaUsage, quotaReasons rt tools registry request provider now = .ok ([], quotaUsage) := by
  simp only [includedReasons, bind_ok_iff] at included
  rcases included with ⟨quota, checked, artifact, _, cache, _, rest⟩
  have none : quota.1 = [] := by
    split_ifs at rest with limited
    · rcases bind_ok_iff.mp rest with ⟨storage, _, ran⟩
      exact (List.append_eq_nil_iff.mp (Prod.mk.inj (Except.ok.inj ran)).1).1
    · rw [Except.ok.inj rest]
  exact ⟨quota.2, checked.trans (congrArg Except.ok (Prod.ext none rfl))⟩

theorem includedReasons_eq_iff :
    (∃ usage, includedReasons rt tools registry request provider now = .ok ([], usage)) ↔
      QuotaPermitted rt tools registry request provider now := by
  constructor
  · rintro ⟨usage, included⟩
    rcases exists_quota_of_included included with ⟨quotaUsage, checked⟩
    rcases quotaReasons_eq_iff.mp ⟨_, checked⟩ with
      ⟨quota, internal, reading, hard, read, limits, holds⟩
    refine ⟨quota, internal, reading, hard, read, limits, holds, ?_⟩
    intro limited
    rw [includedReasons_of_object checked limits, if_pos limited] at included
    rcases bind_ok_iff.mp included with ⟨storage, stored, ran⟩
    have none : storage.1 = [] := (Prod.mk.inj (Except.ok.inj ran)).1
    exact storageReasons_eq_iff.mp ⟨storage.2, stored.trans (congrArg Except.ok (Prod.ext none rfl))⟩
  · rintro ⟨quota, internal, reading, hard, read, limits, holds, storage⟩
    rcases quotaReasons_eq_iff.mpr ⟨quota, internal, reading, hard, read, limits, holds⟩ with
      ⟨usage, checked⟩
    rw [includedReasons_of_object checked limits]
    split_ifs with limited
    · rcases storageReasons_eq_iff.mpr (storage limited) with ⟨after, stored⟩
      exact ⟨after, bind_ok_iff.mpr ⟨_, stored, rfl⟩⟩
    · exact ⟨usage, rfl⟩

theorem evidenceOfRequest_eq_iff :
    (∃ usage, evidenceOfRequest rt tools registry request provider now = .ok ([], usage)) ↔
      EvidencePermitted rt tools registry request provider now := by
  unfold evidenceOfRequest
  simp only
  split_ifs with owner quota subscription
  · constructor
    · rintro ⟨usage, ran⟩
      rcases bind_ok_iff.mp ran with ⟨reasons, found, ran⟩
      rcases (Prod.mk.inj (Except.ok.inj ran)).1 with rfl
      refine ⟨fun _ => ownerReasons_eq_iff.mp found, ?_, ?_⟩
      · intro other
        exact absurd (owner.symm.trans other) (by decide)
      · intro other
        exact absurd (owner.symm.trans other) (by decide)
    · intro permitted
      exact ⟨emptyUsage, bind_ok_iff.mpr
        ⟨[], ownerReasons_eq_iff.mpr (permitted.owner owner), rfl⟩⟩
  · rw [includedReasons_eq_iff]
    refine ⟨fun permitted => ⟨fun other => absurd other owner, fun _ => permitted, ?_⟩,
      fun permitted => permitted.quota quota⟩
    intro other
    exact absurd (quota.symm.trans other) (by decide)
  · constructor
    · rintro ⟨usage, ran⟩
      have none := (Prod.mk.inj (Except.ok.inj ran)).1
      exact ⟨fun other => absurd other owner, fun other => absurd other quota,
        fun _ => subscriptionReasons_eq_iff.mp none⟩
    · intro permitted
      refine ⟨emptyUsage, ?_⟩
      rw [subscriptionReasons_eq_iff.mpr (permitted.subscription subscription)]
      rfl
  · refine ⟨fun _ => ⟨fun other => absurd other owner, fun other => absurd other quota,
      fun other => absurd other subscription⟩, fun _ => ⟨emptyUsage, rfl⟩⟩

theorem decideProvider_allowed_iff {name : String} :
    (∃ decision, decideProvider rt tools registry request provider name now
        canonicalProvider = .ok decision ∧ decision.isAllowed = true) ↔
      Permits rt tools registry request provider now canonicalProvider := by
  constructor
  · rintro ⟨decision, decided, allowed⟩
    simp only [decideProvider, bind_ok_iff] at decided
    rcases decided with ⟨metered, foundMetered, canonical, foundCanonical, visibility,
      foundVisibility, execution, foundExecution, evidence, foundEvidence, ran⟩
    rcases Except.ok.inj ran with rfl
    have none := of_decide_eq_true allowed
    simp only [eraseDups_eq_nil_iff, List.append_eq_nil_iff] at none
    rcases none with ⟨⟨⟨⟨⟨⟨⟨⟨⟨classified, rfl⟩, unexpired⟩, used⟩, rfl⟩, budget⟩, rfl⟩, rfl⟩,
      requirements⟩, evidenceNone⟩
    exact ⟨capable_iff.mp ⟨classified, unexpired⟩, meteredReasons_eq_iff.mp foundMetered,
      budgetReasons_eq_iff.mp budget, usePolicyReasons_eq_iff.mp ⟨used, requirements⟩,
      canonicalReasons_eq_iff.mp foundCanonical, visibilityReasons_eq_iff.mp foundVisibility,
      executionReasons_eq_iff.mp foundExecution, evidenceOfRequest_eq_iff.mp
        ⟨evidence.2, foundEvidence.trans (congrArg Except.ok (Prod.ext evidenceNone rfl))⟩⟩
  · intro permits
    rcases capable_iff.mpr permits.capable with ⟨classified, unexpired⟩
    rcases usePolicyReasons_eq_iff.mpr permits.use with ⟨used, requirements⟩
    rcases evidenceOfRequest_eq_iff.mpr permits.evidence with ⟨usage, evidence⟩
    have decided := @decideProvider.eq_1 rt tools registry request provider name now
      canonicalProvider
    rw [meteredReasons_eq_iff.mpr permits.unmetered, canonicalReasons_eq_iff.mpr permits.canonical,
      visibilityReasons_eq_iff.mpr permits.visibility,
      executionReasons_eq_iff.mpr permits.runner, evidence] at decided
    refine ⟨_, decided, ?_⟩
    simp [Decision.isAllowed, classified, unexpired, used, requirements,
      budgetReasons_eq_iff.mpr permits.budget]

theorem evaluateProvider_allowed_iff :
    (∃ decision, evaluateProvider rt tools registry request now canonicalProvider =
        .ok decision ∧ decision.isAllowed = true) ↔
      ∃ provider, providerNamed registry (memberText rt request "provider" "") =
          .ok (some provider) ∧
        Permits rt tools registry request provider now canonicalProvider := by
  simp only [evaluateProvider]
  cases providerNamed registry (memberText rt request "provider" "") with
  | error error => simp [bind, Except.bind]
  | ok found =>
      cases found with
      | none => simp [ok_bind, pure, Except.pure, Decision.isAllowed]
      | some provider =>
          simp only [ok_bind, Except.ok.injEq, Option.some.injEq, exists_eq_left']
          exact decideProvider_allowed_iff

end Guard

end Adwf.Cost
