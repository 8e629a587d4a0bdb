import Adwf.Cost.Allowed

/-!
# Amounts of a request

The amounts that a request supplies, what becomes of a decision when they are
raised, and what an allowed request says about them.  `float` reads a truth
value or the text of a number as an amount.
-/

namespace Adwf.Cost

open Fallible

/-! ## Supplied and raised amounts -/

/-- The amounts among the members of a request; a missing one counts as zero. -/
def amountNames : List String :=
  ["projected_cost", "projected_units", "projected_artifact_mb", "projected_cache_mb"]

/-- The object under a name, empty when there is none. -/
def nested (request : Fields) (name : String) : Fields :=
  match Json.get request name with
  | .obj fields => fields
  | _ => []

/-- The amounts that a request supplies. -/
def suppliedAmounts (request : Fields) : List Json :=
  (amountNames.filterMap fun name => request.lookup name) ++
    (["used", "limit"].filterMap fun name => (nested request "quota").lookup name) ++
    ["artifact_mb", "cache_mb"].filterMap fun name => (nested request "storage").lookup name

/-- A number that is not negative. -/
def IsAmount (value : Json) : Prop :=
  ∃ amount : Rat, value = .num amount ∧ 0 ≤ amount

/-- An amount stays or grows. -/
def RaisedTo (before after : Option Json) : Prop :=
  before = after ∨ ∃ low high : Rat, before = some (.num low) ∧ after = some (.num high) ∧
    0 ≤ low ∧ low ≤ high

/-- Two objects under a name that differ at most in raised amounts. -/
def RaisedNested (request higher : Fields) (name : String) (amounts : List String) : Prop :=
  higher.lookup name = request.lookup name ∨
    ∃ before after, request.lookup name = some (.obj before) ∧
      higher.lookup name = some (.obj after) ∧
      (∀ key ∉ amounts, after.lookup key = before.lookup key) ∧
      ∀ key ∈ amounts, RaisedTo (before.lookup key) (after.lookup key)

/-- Two requests that differ at most in raised amounts. -/
structure Raised (request higher : Fields) : Prop where
  others : ∀ name ∉ "quota" :: "storage" :: amountNames, higher.lookup name = request.lookup name
  projected : ∀ name ∈ amountNames, RaisedTo (some ((request.lookup name).getD (.num 0)))
      (some ((higher.lookup name).getD (.num 0)))
  quota : RaisedNested request higher "quota" ["used"]
  storage : RaisedNested request higher "storage" ["artifact_mb", "cache_mb"]

section Guard

variable {rt : Runtime} {tools : CostTools}
variable {registry request higher provider : Fields} {now : Int}
variable {canonicalProvider : Option String}

/-! ## Reading a raised amount -/

theorem RaisedTo.number {before after : Option Json} (raised : RaisedTo before after) {high : Rat}
    (read : after.bind (number rt) = some high) :
    ∃ low, before.bind (number rt) = some low ∧ low ≤ high := by
  rcases raised with rfl | ⟨low, value, rfl, rfl, nonneg, le⟩
  · exact ⟨high, read, Rat.le_refl⟩
  · have same : value = high := by
      have nonnegHigh : 0 ≤ value := Rat.le_trans nonneg le
      simpa [Cost.number, Runtime.float, nonnegHigh] using read
    refine ⟨low, ?_, same ▸ le⟩
    simp [Cost.number, Runtime.float, nonneg]

theorem Raised.numberOrZero (raised : Raised request higher) {name : String}
    (listed : name ∈ amountNames) {high : Rat} (read : numberOrZero rt higher name = some high) :
    ∃ low, numberOrZero rt request name = some low ∧ low ≤ high :=
  (raised.projected name listed).number read

theorem Raised.get_eq (raised : Raised request higher) {name : String}
    (other : name ∉ "quota" :: "storage" :: amountNames) :
    Json.get higher name = Json.get request name := by
  rw [Json.get, Json.get, raised.others name other]

theorem Raised.memberText_eq (raised : Raised request higher) {name : String} (default : String)
    (other : name ∉ "quota" :: "storage" :: amountNames) :
    memberText rt higher name default = memberText rt request name default := by
  rw [memberText, memberText, raised.others name other]

theorem memberOrEmpty_of_lookup {name : String} {fields : Fields}
    (found : request.lookup name = some (.obj fields)) :
    memberOrEmpty request name = .obj fields := by
  have get : Json.get request name = .obj fields := by rw [Json.get, found, Option.getD_some]
  cases fields with
  | nil => simp [memberOrEmpty, get, Json.truthy]
  | cons field fields => simp [memberOrEmpty, get, Json.truthy]

theorem RaisedNested.exists_before {name : String} {amounts : List String} {after : Fields}
    (raised : RaisedNested request higher name amounts)
    (read : memberOrEmpty higher name = .obj after) :
    ∃ before, memberOrEmpty request name = .obj before ∧
      (∀ key ∉ amounts, after.lookup key = before.lookup key) ∧
      ∀ key ∈ amounts, RaisedTo (before.lookup key) (after.lookup key) := by
  rcases raised with same | ⟨before, other, foundBefore, foundAfter, agree, grown⟩
  · refine ⟨after, ?_, fun _ _ => rfl, fun _ _ => Or.inl rfl⟩
    rw [memberOrEmpty, Json.get, ← same]
    exact read
  · rw [memberOrEmpty_of_lookup foundAfter] at read
    rcases Json.obj.inj read with rfl
    exact ⟨before, memberOrEmpty_of_lookup foundBefore, agree, grown⟩

theorem memberOrEmpty_eq (raised : Raised request higher) {name : String}
    (other : name ∉ "quota" :: "storage" :: amountNames) :
    memberOrEmpty higher name = memberOrEmpty request name := by
  rw [memberOrEmpty, memberOrEmpty, raised.get_eq other]

theorem readQuota_eq_some_iff {quota : Fields} {reading : QuotaReading} :
    readQuota rt tools registry request = some (quota, reading) ↔
      memberOrEmpty request "quota" = .obj quota ∧ numberAt rt quota "used" = some reading.used ∧
        numberAt rt quota "limit" = some reading.limit ∧
        Cost.numberOrZero rt request "projected_units" = some reading.projected ∧
        observedAt rt tools quota = some reading.observed ∧
        evidenceTtl rt registry = some reading.ttl := by
  unfold readQuota
  cases memberOrEmpty request "quota" with
  | obj fields =>
      simp only [Option.bind_eq_bind, Option.bind_eq_some_iff, Json.obj.injEq]
      constructor
      · rintro ⟨used, foundUsed, limit, foundLimit, projected, foundProjected, observed,
          foundObserved, ttl, foundTtl, ⟨⟩⟩
        exact ⟨rfl, foundUsed, foundLimit, foundProjected, foundObserved, foundTtl⟩
      · rintro ⟨rfl, foundUsed, foundLimit, foundProjected, foundObserved, foundTtl⟩
        exact ⟨_, foundUsed, _, foundLimit, _, foundProjected, _, foundObserved, _, foundTtl, rfl⟩
  | _ => simp

theorem readStorage_eq_some_iff {reading : StorageReading} :
    readStorage rt tools registry request = some reading ↔
      ∃ storage, memberOrEmpty request "storage" = .obj storage ∧
        numberAt rt storage "artifact_mb" = some reading.artifact ∧
        numberAt rt storage "cache_mb" = some reading.cache ∧
        Cost.numberOrZero rt request "projected_artifact_mb" = some reading.projectedArtifact ∧
        Cost.numberOrZero rt request "projected_cache_mb" = some reading.projectedCache ∧
        observedAt rt tools storage = some reading.observed ∧
        evidenceTtl rt registry = some reading.ttl := by
  unfold readStorage
  cases memberOrEmpty request "storage" with
  | obj fields =>
      simp only [Option.bind_eq_bind, Option.bind_eq_some_iff, Json.obj.injEq, exists_eq_left']
      constructor
      · rintro ⟨artifact, foundArtifact, cache, foundCache, projectedArtifact,
          foundProjectedArtifact, projectedCache, foundProjectedCache, observed, foundObserved,
          ttl, foundTtl, ⟨⟩⟩
        exact ⟨foundArtifact, foundCache, foundProjectedArtifact, foundProjectedCache,
          foundObserved, foundTtl⟩
      · rintro ⟨foundArtifact, foundCache, foundProjectedArtifact, foundProjectedCache,
          foundObserved, foundTtl⟩
        exact ⟨_, foundArtifact, _, foundCache, _, foundProjectedArtifact, _,
          foundProjectedCache, _, foundObserved, _, foundTtl, rfl⟩
  | _ => simp

theorem Raised.storageHolds (raised : Raised request higher) {internal : Fields}
    {stored : StorageReading} (read : readStorage rt tools registry higher = some stored)
    (stops : StorageHolds rt tools internal stored now) :
    ∃ storage, readStorage rt tools registry request = some storage ∧
      StorageHolds rt tools internal storage now := by
  rcases readStorage_eq_some_iff.mp read with ⟨fields, found, foundArtifact, foundCache,
    foundProjectedArtifact, foundProjectedCache, foundObserved, foundTtl⟩
  rcases raised.storage.exists_before found with ⟨before, foundBefore, agree, grown⟩
  rcases (grown "artifact_mb" (by decide)).number foundArtifact with
    ⟨artifact, foundLowArtifact, artifactLe⟩
  rcases (grown "cache_mb" (by decide)).number foundCache with ⟨cache, foundLowCache, cacheLe⟩
  rcases raised.numberOrZero (by decide) foundProjectedArtifact with
    ⟨projectedArtifact, foundLowProjectedArtifact, projectedArtifactLe⟩
  rcases raised.numberOrZero (by decide) foundProjectedCache with
    ⟨projectedCache, foundLowProjectedCache, projectedCacheLe⟩
  rw [observedAt, agree "observed_at" (by decide)] at foundObserved
  rcases stops.artifact with ⟨artifactStop, foundArtifactStop, withinArtifact⟩
  rcases stops.cache with ⟨cacheStop, foundCacheStop, withinCache⟩
  refine ⟨⟨artifact, cache, projectedArtifact, projectedCache, stored.observed, stored.ttl⟩,
    ?_, stops.recent, ?_, ?_⟩
  · exact readStorage_eq_some_iff.mpr ⟨before, foundBefore, foundLowArtifact, foundLowCache,
      foundLowProjectedArtifact, foundLowProjectedCache, foundObserved, foundTtl⟩
  · exact ⟨artifactStop, foundArtifactStop,
      Rat.le_trans (tools.add_mono artifactLe projectedArtifactLe) withinArtifact⟩
  · exact ⟨cacheStop, foundCacheStop,
      Rat.le_trans (tools.add_mono cacheLe projectedCacheLe) withinCache⟩

theorem Raised.quotaPermitted (raised : Raised request higher)
    (permitted : QuotaPermitted rt tools registry higher provider now) :
    QuotaPermitted rt tools registry request provider now := by
  rcases permitted with ⟨quota, internal, reading, hard, read, limits, holds, storage⟩
  rcases readQuota_eq_some_iff.mp read with
    ⟨found, foundUsed, foundLimit, foundProjected, foundObserved, foundTtl⟩
  rcases raised.quota.exists_before found with ⟨before, foundBefore, agree, grown⟩
  have used := grown "used" (List.mem_singleton.mpr rfl)
  rcases used.number foundUsed with ⟨low, foundLow, lowLe⟩
  rcases raised.numberOrZero (by decide) foundProjected with
    ⟨lowProjected, foundLowProjected, projectedLe⟩
  have limitAgrees := agree "limit" (by decide)
  have observedAgrees := agree "observed_at" (by decide)
  refine ⟨before, internal, { reading with used := low, projected := lowProjected }, hard,
    ?_, limits, ?_, ?_⟩
  · rw [numberAt, limitAgrees] at foundLimit
    rw [observedAt, observedAgrees] at foundObserved
    exact readQuota_eq_some_iff.mpr
      ⟨foundBefore, foundLow, foundLimit, foundLowProjected, foundObserved, foundTtl⟩
  · exact {
      recent := holds.recent
      internalLimit := holds.internalLimit
      plan := holds.plan
      below := Rat.le_trans lowLe holds.below
      enough := Rat.le_trans (tools.add_mono lowLe projectedLe) holds.enough
      spend := by
        rw [← holds.spend, Json.get, Json.get, agree "hard_spend_limit_zero" (by decide)]
      overage := by
        rw [← holds.overage, Json.get, Json.get, agree "allow_overage" (by decide)] }
  · intro limited
    rcases storage limited with ⟨stored, readStored, stops⟩
    exact raised.storageHolds readStored stops

theorem Raised.evidencePermitted (raised : Raised request higher)
    (permitted : EvidencePermitted rt tools registry higher provider now) :
    EvidencePermitted rt tools registry request provider now := by
  refine ⟨?_, ?_, ?_⟩
  · intro owner
    have confirmed := permitted.owner owner
    rw [OwnerPermitted, memberOrEmpty_eq raised (by decide)] at confirmed
    exact confirmed
  · intro quota
    exact raised.quotaPermitted (permitted.quota quota)
  · intro subscription
    have subscribed := permitted.subscription subscription
    rw [SubscriptionPermitted, memberOrEmpty_eq raised (by decide), raised.get_eq (by decide),
      raised.get_eq (by decide)] at subscribed
    exact subscribed

theorem Raised.permits (raised : Raised request higher)
    (permits : Permits rt tools registry higher provider now canonicalProvider) :
    Permits rt tools registry request provider now canonicalProvider where
  capable := permits.capable
  unmetered := permits.unmetered
  budget := by
    rcases raised.numberOrZero (by decide) permits.budget.cost with ⟨low, found, le⟩
    have zero : low = 0 := Rat.le_antisymm le (number_nonneg found)
    exact { permits.budget with cost := zero ▸ found }
  use := by
    have mandatory : Json.get higher "mandatory_ci" = _ := raised.get_eq (by decide)
    have automated : Json.get higher "automated" = _ := raised.get_eq (by decide)
    exact ⟨permits.use.source, mandatory ▸ permits.use.withoutApi,
      mandatory ▸ permits.use.mandatory, automated ▸ permits.use.automatic,
      permits.use.requirements⟩
  canonical := permits.canonical
  visibility := by
    have text : memberText rt higher "repository_visibility" "" = _ :=
      raised.memberText_eq "" (by decide)
    exact ⟨permits.visibility.known, text ▸ permits.visibility.isPublic,
      text ▸ permits.visibility.isPrivate⟩
  runner := by
    have text : memberText rt higher "runner_class" "" = _ :=
      raised.memberText_eq "" (by decide)
    exact ⟨permits.runner.known, text ▸ permits.runner.standard, text ▸ permits.runner.selfHosted⟩
  evidence := raised.evidencePermitted permits.evidence

section Law

variable (rt : Runtime) (tools : CostTools) (registry request : Fields) (now : Int)
variable (canonicalProvider : Option String)

/-- `evaluate_provider` returns `ALLOW`. -/
def Allowed : Prop :=
  ∃ decision, evaluateProvider rt tools registry request now canonicalProvider =
    .ok decision ∧ decision.isAllowed = true

/-- The request names a provider of the registry that is permitted. -/
def Permitted : Prop :=
  ∃ provider, providerNamed registry (memberText rt request "provider" "") =
      .ok (some provider) ∧
    Permits rt tools registry request provider now canonicalProvider

/-- What `ALLOW` promises about a request. -/
structure Guarded : Prop where
  sound : Allowed rt tools registry request now canonicalProvider →
    Permitted rt tools registry request now canonicalProvider
  amounts : Allowed rt tools registry request now canonicalProvider →
    ∀ amount ∈ suppliedAmounts request, IsAmount amount
  monotone : ∀ higher, Raised request higher →
    Allowed rt tools registry higher now canonicalProvider →
      Allowed rt tools registry request now canonicalProvider

end Law

theorem allowed_iff_permitted : Allowed rt tools registry request now canonicalProvider ↔
      Permitted rt tools registry request now canonicalProvider :=
  evaluateProvider_allowed_iff

end Guard

/-- The deterministic local provider, in a registry with a budget of zero. -/
def localRegistry : Fields :=
  [("allow_credit_purchase", .bool false), ("allow_metered_provider", .bool false),
    ("allow_overage", .bool false), ("allow_unknown_provider", .bool false),
    ("hard_budget_usd", .num 0),
    ("providers", .obj [("local_deterministic", .obj
      [("billing_model", .str "none"), ("classification", .str "FREE_VERIFIED"),
        ("enabled", .bool true), ("execution_class", .str "LOCAL"),
        ("official_source_url", .str "https://docs.python.org/3/library/unittest.html"),
        ("repository_visibility_scope", .str "ANY"),
        ("valid_until", .str "2030-01-01T00:00:00Z"),
        ("verified_at", .str "2026-08-13T00:00:00Z"),
        ("zero_cost_requirements", .arr [.str "No external billing provider is invoked"])])])]

/-- A request whose projected cost is `false`. -/
def truthValueRequest : Fields :=
  [("projected_cost", .bool false), ("provider", .str "local_deterministic")]

def localRuntime : Runtime :=
  ⟨fun _ => "", fun _ => none, fun _ => none, fun _ => ""⟩

/-- The built-ins on the texts of the registry, in microseconds since the evidence. -/
def localTools : CostTools where
  parseTime text :=
    if text = "2026-08-13T00:00:00Z" then some 0
    else if text = "2030-01-01T00:00:00Z" then some 106876800000000
    else none
  upper := String.toUpper
  lower := String.toLower
  add := (· + ·)
  add_mono := fun le further =>
    Rat.le_trans (Rat.add_le_add_right.mpr le) (Rat.add_le_add_left.mpr further)

end Adwf.Cost
