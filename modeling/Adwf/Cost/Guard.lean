import Adwf.Trust.Classify
import Mathlib

/-!
# The cost guard

`evaluate_provider`: whether a request may use a provider of the registry under
a budget of zero.
-/

namespace Adwf.Cost

open Fallible
open Trust (reasonIf isMember)

/-- The built-ins on texts and times, and the addition of floats, which rounds but keeps the
order. -/
structure CostTools where
  parseTime : String → Option Int
  upper : String → String
  lower : String → String
  add : Rat → Rat → Rat
  add_mono : ∀ {first second higher further : Rat}, first ≤ higher → second ≤ further →
    add first second ≤ add higher further

/-- `CAPABILITY_STATUSES`. -/
def capabilityStatuses : List String :=
  ["FREE_VERIFIED", "INCLUDED_QUOTA", "CONDITIONAL_FREE", "OWNER_PROVIDED", "METERED", "PAID",
    "UNKNOWN", "STALE"]

/-- `ALLOWED_CLASSIFICATIONS`. -/
def allowedClassifications : List String :=
  ["FREE_VERIFIED", "INCLUDED_QUOTA", "CONDITIONAL_FREE", "OWNER_PROVIDED"]

/-- `usage`. -/
structure Usage where
  hostedMinutesUsed : Rat
  hostedMinutesInternalHard : Rat
  artifactMb : Rat
  cacheMb : Rat
  deriving DecidableEq

/-- The dictionary that `evaluate_provider` returns; an unknown provider has no details. -/
structure Decision where
  reasonCodes : List String
  provider : String
  classification : String
  effectiveClassification : String
  validUntil : Json
  projectedCostUsd : Option Rat
  usage : Option Usage

/-- `result == "ALLOW"`. -/
def Decision.isAllowed (decision : Decision) : Bool :=
  decision.reasonCodes = []

section Guard

variable (rt : Runtime) (tools : CostTools)

/-- `str(fields.get(name, default))`. -/
def memberText (fields : Fields) (name default : String) : String :=
  ((fields.lookup name).map rt.text).getD default

/-- `_number`; `none` is a `TypeError` or a `ValueError`. -/
def number (value : Json) : Option Rat :=
  match rt.float value with
  | .ok parsed => if 0 ≤ parsed then some parsed else none
  | .error _ => none

/-- `_number(fields.get(name, 0))`. -/
def numberOrZero (fields : Fields) (name : String) : Option Rat :=
  number rt ((fields.lookup name).getD (.num 0))

/-- `_number(fields[name])`. -/
def numberAt (fields : Fields) (name : String) : Option Rat :=
  (fields.lookup name).bind (number rt)

/-- `_fresh`. -/
def fresh (start stop : Json) (now : Int) : Option Bool := do
  let verified ← tools.parseTime (rt.text start)
  let validUntil ← tools.parseTime (rt.text stop)
  return verified ≤ now ∧ now < validUntil ∧ verified < validUntil

/-- `registry.get("providers", {}).get(name)`, when it is truthy. -/
def providerNamed (registry : Fields) (name : String) : Except String (Option Fields) :=
  match registry.lookup "providers" with
  | none => return none
  | some (.obj providers) =>
      if (Json.get providers name).truthy = false then return none
      else
        match Json.get providers name with
        | .obj provider => return some provider
        | _ => .error "AttributeError"
  | some _ => .error "AttributeError"

/-! ## The capability -/

/-- The reasons in the classification. -/
def classificationReasons (provider : Fields) : List String :=
  let classification := memberText rt provider "classification" "UNKNOWN"
  reasonIf (Json.get provider "enabled" ≠ .bool true) "PROVIDER_DISABLED" ++
    reasonIf (classification ∉ capabilityStatuses) "CAPABILITY_STATUS_INVALID" ++
    reasonIf (classification ∉ allowedClassifications) "UNKNOWN_OR_PAID_PROVIDER" ++
    reasonIf (classification ∈ ["METERED", "PAID", "UNKNOWN", "STALE"])
      ("CAPABILITY_" ++ classification ++ "_FORBIDDEN")

def meteredReasons (registry provider : Fields) : Except String (List String) := do
  let metered ← isMember (Json.get provider "billing_model") ["metered", "unknown"]
  return reasonIf (metered = true ∨ Json.get registry "allow_metered_provider" ≠ .bool false)
    "METERED_PROVIDER_FORBIDDEN"

/-- The reasons in the evidence of the provider. -/
def evidenceReasons (provider : Fields) (now : Int) : List String :=
  match fresh rt tools (Json.get provider "verified_at") (Json.get provider "valid_until")
      now with
  | none => ["PROVIDER_EVIDENCE_INVALID"]
  | some isFresh => reasonIf (isFresh = false) "PROVIDER_EVIDENCE_STALE"

/-- `effective_classification`. -/
def effectiveClassification (provider : Fields) (now : Int) : String :=
  let classification := memberText rt provider "classification" "UNKNOWN"
  if evidenceReasons rt tools provider now ≠ [] then "STALE"
  else if classification ∉ capabilityStatuses then "UNKNOWN"
  else classification

/-- The reasons in the source and in who runs the request. -/
def usePolicyReasons (provider request : Fields) : List String :=
  reasonIf (Text.startsWith (memberText rt provider "official_source_url" "") "https://" =
      false) "OFFICIAL_SOURCE_MISSING" ++
    reasonIf (Json.get request "mandatory_ci" = .bool true ∧
      Json.get provider "requires_ai_api" = .bool true) "AI_API_FOR_MANDATORY_CI" ++
    reasonIf (Json.get request "mandatory_ci" = .bool true ∧
      Json.get provider "mandatory_ci_allowed" ≠ .bool true)
      "CAPABILITY_NOT_ALLOWED_FOR_MANDATORY_CI" ++
    reasonIf (Json.get request "automated" = .bool true ∧
      Json.get provider "automatic_execution_allowed" ≠ .bool true)
      "AUTOMATIC_EXECUTION_NOT_ALLOWED"

def canonicalReasons (provider : Fields) (canonicalProvider : Option String) :
    Except String (List String) :=
  match canonicalProvider with
  | none => return []
  | some canonical =>
      if canonical = "" ∨ Json.get provider "plane" ≠ .str "ci" then return []
      else do
        let matching ← isMember (Json.get provider "provider_mode") ["local", canonical]
        return reasonIf (matching = false) "CANONICAL_PROVIDER_MISMATCH"

/-- `projected_cost`; an invalid one counts as 1. -/
def projectedCost (request : Fields) : Rat :=
  (numberOrZero rt request "projected_cost").getD 1

/-- `hard_budget`; an invalid one counts as 0. -/
def hardBudget (registry : Fields) : Rat :=
  (numberAt rt registry "hard_budget_usd").getD 0

def budgetReasons (registry request : Fields) : List String :=
  reasonIf (numberOrZero rt request "projected_cost" = none) "PROJECTED_COST_INVALID" ++
    reasonIf (numberAt rt registry "hard_budget_usd" = none) "MONETARY_BUDGET_INVALID" ++
    reasonIf (hardBudget rt registry ≠ 0) "ZERO_COST_POLICY_INVALID" ++
    reasonIf (hardBudget rt registry < projectedCost rt request)
      "MONETARY_BUDGET_EXCEEDED" ++
    reasonIf (Json.get registry "allow_overage" ≠ .bool false ∨
      Json.get registry "allow_credit_purchase" ≠ .bool false ∨
      Json.get registry "allow_unknown_provider" ≠ .bool false) "ZERO_COST_POLICY_INVALID"

def visibilityReasons (provider request : Fields) : Except String (List String) :=
  let visibility := tools.upper (memberText rt request "repository_visibility" "")
  let scope := Json.get provider "repository_visibility_scope"
  if scope = .str "PUBLIC_ONLY" ∧ visibility ≠ "PUBLIC" then
    return ["PUBLIC_REPOSITORY_NOT_VERIFIED"]
  else if scope = .str "PRIVATE_ONLY" ∧ visibility ≠ "PRIVATE" then
    return ["PRIVATE_REPOSITORY_NOT_VERIFIED"]
  else do
    let known ← isMember scope ["ANY", "PUBLIC_ONLY", "PRIVATE_ONLY", "NOT_APPLICABLE"]
    return reasonIf (known = false) "REPOSITORY_VISIBILITY_SCOPE_INVALID"

def executionReasons (provider request : Fields) : Except String (List String) :=
  let runnerClass := tools.lower (memberText rt request "runner_class" "")
  let execution := Json.get provider "execution_class"
  if execution = .str "STANDARD_HOSTED" ∧ runnerClass ≠ "standard" then
    return ["STANDARD_RUNNER_NOT_VERIFIED"]
  else if execution = .str "SELF_HOSTED" ∧ runnerClass ≠ "self_hosted" then
    return ["SELF_HOSTED_RUNNER_NOT_VERIFIED"]
  else do
    let known ← isMember execution ["LOCAL", "STANDARD_HOSTED", "SELF_HOSTED", "LARGER_HOSTED",
      "INTERACTIVE", "METERED_API", "PLATFORM_CONTROL"]
    return reasonIf (known = false) "EXECUTION_CLASS_INVALID"

/-- A non-empty list of texts that are not blank. -/
def requirementsListed : Json → Bool
  | .arr items => items ≠ [] ∧ items.all (Json.textSatisfies fun text => Text.strip text ≠ "")
  | _ => false

def requirementReasons (provider : Fields) : List String :=
  reasonIf (requirementsListed (Json.get provider "zero_cost_requirements") = false)
    "ZERO_COST_REQUIREMENTS_MISSING"

/-! ## Evidence of the request -/

/-- `request.get(name) or {}`. -/
def memberOrEmpty (request : Fields) (name : String) : Json :=
  if (Json.get request name).truthy then Json.get request name else .obj []

/-- The freshness of `verified_at` and `valid_until`, both of which must be there. -/
def freshMembers (fields : Fields) (now : Int) : Option Bool := do
  let start ← fields.lookup "verified_at"
  let stop ← fields.lookup "valid_until"
  fresh rt tools start stop now

def ownerReasons (request : Fields) (now : Int) : Except String (List String) :=
  match memberOrEmpty request "owner_resource" with
  | .obj resource =>
      return reasonIf (Json.get resource "confirmed" ≠ .bool true)
          "OWNER_RESOURCE_NOT_CONFIRMED" ++
        reasonIf (Json.get resource "metered_control_plane" ≠ .bool false)
          "OWNER_RESOURCE_METERED_CONTROL_PLANE_NOT_BLOCKED" ++
        match freshMembers rt tools resource now with
        | none => ["OWNER_RESOURCE_NOT_VERIFIED"]
        | some isFresh => reasonIf (isFresh = false) "OWNER_RESOURCE_EVIDENCE_STALE"
  | _ => .error "AttributeError"

/-- `quota_evidence_ttl_minutes`, when it is within a day. -/
def evidenceTtl (registry : Fields) : Option Int :=
  match (registry.lookup "quota_evidence_ttl_minutes").map rt.int with
  | some (.ok minutes) => if 1 ≤ minutes ∧ minutes ≤ 1440 then some minutes else none
  | _ => none

/-- `parse_time(str(fields["observed_at"]))`. -/
def observedAt (fields : Fields) : Option Int :=
  (fields.lookup "observed_at").bind fun value => tools.parseTime (rt.text value)

/-- The microseconds of a minute. -/
def minute : Int :=
  60 * 1000000

/-- The evidence is from the past and no older than the time to live. -/
def Recent (now ttl observed : Int) : Prop :=
  observed ≤ now ∧ now - observed ≤ ttl * minute

instance (now ttl observed : Int) : Decidable (Recent now ttl observed) :=
  inferInstanceAs (Decidable (_ ∧ _))

/-- What the first lines on the quota read. -/
structure QuotaReading where
  used : Rat
  limit : Rat
  projected : Rat
  observed : Int
  ttl : Int

/-- A quota that is no dictionary raises a `TypeError` at its first subscript. -/
def readQuota (registry request : Fields) : Option (Fields × QuotaReading) :=
  match memberOrEmpty request "quota" with
  | .obj quota => do
      let used ← numberAt rt quota "used"
      let limit ← numberAt rt quota "limit"
      let projected ← numberOrZero rt request "projected_units"
      let observed ← observedAt rt tools quota
      let ttl ← evidenceTtl rt registry
      return (quota, ⟨used, limit, projected, observed, ttl⟩)
  | _ => none

/-- `provider.get("internal_limits", {})`. -/
def internalLimits (provider : Fields) : Json :=
  (provider.lookup "internal_limits").getD (.obj [])

def emptyUsage : Usage :=
  ⟨0, 0, 0, 0⟩

/-- The plan that the limits declare is smaller than the limit of the platform; an invalid plan
raises. -/
def exceedsPlan (internal : Fields) (limit : Rat) : Option Bool :=
  if Json.get internal "platform_minutes" = .null then some false
  else do
    let declared ← number rt (Json.get internal "platform_minutes")
    return declared < limit

/-- The lines on the quota after the evidence is read. -/
def limitReasons (quota internal : Fields) (reading : QuotaReading) : List String × Usage :=
  match number rt ((internal.lookup "hard_minutes").getD (.num reading.limit)) with
  | none => (["QUOTA_NOT_VERIFIED"], emptyUsage)
  | some hard =>
      let usage := { emptyUsage with
        hostedMinutesUsed := reading.used
        hostedMinutesInternalHard := hard }
      match exceedsPlan rt internal reading.limit with
      | none => (["QUOTA_NOT_VERIFIED"], usage)
      | some exceeds =>
          (reasonIf (exceeds = true) "QUOTA_LIMIT_EXCEEDS_VERIFIED_PLAN" ++
            reasonIf (reading.limit < reading.used ∨
              min reading.limit hard < tools.add reading.used reading.projected)
              "FREE_QUOTA_WOULD_BE_EXCEEDED" ++
            reasonIf (Json.get quota "hard_spend_limit_zero" ≠ .bool true ∨
              Json.get quota "allow_overage" ≠ .bool false) "ZERO_SPEND_LIMIT_NOT_VERIFIED",
          usage)

/-- The first `try` of an included quota. -/
def quotaReasons (registry request provider : Fields) (now : Int) :
    Except String (List String × Usage) :=
  match readQuota rt tools registry request with
  | none => return (["QUOTA_NOT_VERIFIED"], emptyUsage)
  | some (quota, reading) =>
      match internalLimits provider with
      | .obj internal =>
          let limits := limitReasons rt tools quota internal reading
          return (reasonIf (¬Recent now reading.ttl reading.observed) "QUOTA_EVIDENCE_STALE" ++
            limits.1, limits.2)
      | _ => .error "AttributeError"

/-- What the lines on the storage read. -/
structure StorageReading where
  artifact : Rat
  cache : Rat
  projectedArtifact : Rat
  projectedCache : Rat
  observed : Int
  ttl : Int

def readStorage (registry request : Fields) : Option StorageReading :=
  match memberOrEmpty request "storage" with
  | .obj storage => do
      let artifact ← numberAt rt storage "artifact_mb"
      let cache ← numberAt rt storage "cache_mb"
      let projectedArtifact ← numberOrZero rt request "projected_artifact_mb"
      let projectedCache ← numberOrZero rt request "projected_cache_mb"
      let observed ← observedAt rt tools storage
      let ttl ← evidenceTtl rt registry
      return ⟨artifact, cache, projectedArtifact, projectedCache, observed, ttl⟩
  | _ => none

/-- A stop limit, when it is a number. -/
def stopReasons (internal : Fields) (name : String) (total : Rat) (reason : String) :
    Option (List String) := do
  let stop ← numberOrZero rt internal name
  return reasonIf (stop < total) reason

/-- The lines on the storage after the evidence is read. -/
def stopLimitReasons (internal : Fields) (reading : StorageReading) (usage : Usage) :
    List String × Usage :=
  match stopReasons rt internal "artifact_stop_mb"
      (tools.add reading.artifact reading.projectedArtifact)
      "ARTIFACT_STORAGE_WOULD_EXCEED_INTERNAL_LIMIT" with
  | none => (["STORAGE_USAGE_NOT_VERIFIED"], usage)
  | some artifact =>
      match stopReasons rt internal "cache_stop_mb"
          (tools.add reading.cache reading.projectedCache)
          "CACHE_STORAGE_WOULD_EXCEED_INTERNAL_LIMIT" with
      | none => (artifact ++ ["STORAGE_USAGE_NOT_VERIFIED"], usage)
      | some cache =>
          (artifact ++ cache,
            { usage with artifactMb := reading.artifact, cacheMb := reading.cache })

/-- The second `try` of an included quota. -/
def storageReasons (registry request : Fields) (internal : Json) (now : Int) (usage : Usage) :
    Except String (List String × Usage) :=
  match readStorage rt tools registry request with
  | none => return (["STORAGE_USAGE_NOT_VERIFIED"], usage)
  | some reading =>
      match internal with
      | .obj limits =>
          let stops := stopLimitReasons rt tools limits reading usage
          return (reasonIf (¬Recent now reading.ttl reading.observed) "STORAGE_EVIDENCE_STALE" ++
            stops.1, stops.2)
      | _ => .error "AttributeError"

/-- `name in value`. -/
def mentions (value : Json) (name : String) : Except String Bool :=
  match value with
  | .obj fields => return fields.lookup name ≠ none
  | .arr items => return Json.str name ∈ items
  | .str text => return Text.hasInfix name.toList text.toList
  | _ => .error "TypeError"

/-- `if classification == "INCLUDED_QUOTA"`. -/
def includedReasons (registry request provider : Fields) (now : Int) :
    Except String (List String × Usage) := do
  let quota ← quotaReasons rt tools registry request provider now
  let internal := internalLimits provider
  let artifact ← mentions internal "artifact_stop_mb"
  let cache ← mentions internal "cache_stop_mb"
  if artifact = true ∨ cache = true then do
    let storage ← storageReasons rt tools registry request internal now quota.2
    return (quota.1 ++ storage.1, storage.2)
  else return quota

/-- `if classification == "CONDITIONAL_FREE"`. -/
def subscriptionReasons (request : Fields) (now : Int) : List String :=
  match memberOrEmpty request "subscription" with
  | .obj subscription =>
      match freshMembers rt tools subscription now with
      | none => ["SUBSCRIPTION_NOT_VERIFIED"]
      | some isFresh =>
          reasonIf (isFresh = false) "SUBSCRIPTION_EVIDENCE_STALE" ++
            reasonIf (Json.get subscription "auto_credit_purchase" ≠ .bool false)
              "AUTO_CREDIT_PURCHASE_NOT_BLOCKED" ++
            reasonIf (Json.get request "mandatory_ci" = .bool true ∨
              Json.get request "automated" = .bool true) "SUBSCRIPTION_INTERACTIVE_ONLY"
  | _ => ["SUBSCRIPTION_NOT_VERIFIED"]

/-- The lines that depend on the classification. -/
def evidenceOfRequest (registry request provider : Fields) (now : Int) :
    Except String (List String × Usage) :=
  let classification := memberText rt provider "classification" "UNKNOWN"
  if classification = "OWNER_PROVIDED" then do
    let owner ← ownerReasons rt tools request now
    return (owner, emptyUsage)
  else if classification = "INCLUDED_QUOTA" then
    includedReasons rt tools registry request provider now
  else if classification = "CONDITIONAL_FREE" then
    return (subscriptionReasons rt tools request now, emptyUsage)
  else return ([], emptyUsage)

/-- The decision on a provider of the registry. -/
def decideProvider (registry request provider : Fields) (name : String) (now : Int)
    (canonicalProvider : Option String) : Except String Decision := do
  let metered ← meteredReasons registry provider
  let canonical ← canonicalReasons provider canonicalProvider
  let visibility ← visibilityReasons rt tools provider request
  let execution ← executionReasons rt tools provider request
  let evidence ← evidenceOfRequest rt tools registry request provider now
  let reasons := classificationReasons rt provider ++ metered ++
    evidenceReasons rt tools provider now ++ usePolicyReasons rt provider request ++
    canonical ++ budgetReasons rt registry request ++ visibility ++ execution ++
    requirementReasons provider ++ evidence.1
  return {
    reasonCodes := reasons.eraseDups
    provider := name
    classification := memberText rt provider "classification" "UNKNOWN"
    effectiveClassification := effectiveClassification rt tools provider now
    validUntil := Json.get provider "valid_until"
    projectedCostUsd := some (projectedCost rt request)
    usage := some evidence.2 }

def evaluateProvider (registry request : Fields) (now : Int)
    (canonicalProvider : Option String) : Except String Decision := do
  let name := memberText rt request "provider" ""
  match ← providerNamed registry name with
  | none => return ⟨["UNKNOWN_PROVIDER"], name, "UNKNOWN", "UNKNOWN", .null, none, none⟩
  | some provider => decideProvider rt tools registry request provider name now canonicalProvider

end Guard

end Adwf.Cost
