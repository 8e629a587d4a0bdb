import Adwf.ManagedSurface.Detach

/-!
# Adopting the framework

`plan_adoption`, the checks `apply_adoption` makes of a plan before it writes, and the
snapshot a committed adoption publishes.
-/

namespace Adwf.ManagedSurface

variable {digests : Digests}
variable (inventory : Inventory)

/-! ## Plans -/

inductive AdoptionAction where
  | createPlanned
  | keepExact
  | preserveShared
  | block
  deriving DecidableEq, Repr

structure AdoptionItem where
  path : Path
  ownership : Ownership
  sourceSha : String
  targetState : TargetState
  targetSha : Option String
  action : AdoptionAction
  deriving DecidableEq, Repr

/-- A plan of kind `ADOPTION`. -/
structure AdoptionPlan where
  status : Readiness
  sourceRevision : String
  sourceManifestSha : String
  entries : List AdoptionItem
  blockers : List String
  deriving DecidableEq, Repr

/-- A digit of a hexadecimal digest. -/
def isHex (char : Char) : Bool :=
  char.isDigit || ('a' ≤ char && char ≤ 'f')

/-- `SHA40.fullmatch`. -/
def isSha40 (text : String) : Bool :=
  text.toList.length = 40 && text.toList.all isHex

/-- `SHA256.fullmatch`. -/
def isSha256 (text : String) : Bool :=
  text.toList.length = 64 && text.toList.all isHex

/-- The action `plan_adoption` finds for an inventory path, and its blocker. -/
def adoptionActionOf (ownership : Ownership) (state : TargetState) (rel : Path) :
    AdoptionAction × List String :=
  match state with
  | .absent => (.createPlanned, [])
  | .exact => (.keepExact, [])
  | .symlink => (.block, ["TARGET_SYMLINK_FORBIDDEN:" ++ rel.text])
  | .nonFile => (.block, ["TARGET_NON_FILE_COLLISION:" ++ rel.text])
  | .collision =>
      if ownership = .sharedGuarded then (.preserveShared, [])
      else (.block, ["TARGET_CONTENT_COLLISION:" ++ rel.text])

/-- The entry `plan_adoption` makes of an inventory path, and its blocker. -/
def adoptionItemOf (rel : Path) (state : TargetState × Option String) :
    AdoptionItem × List String :=
  let ownership := ownershipFor rel inventory
  let action := adoptionActionOf ownership state.1 rel
  (⟨rel, ownership, inventory.sums rel, state.1, state.2, action.1⟩, action.2)

/-- The loop of `plan_adoption`. -/
def planAdoptionItems (inventory : Inventory) :
    List Path → SurfaceProgram digests (List AdoptionItem × List String)
  | [] => return ([], [])
  | rel :: rest => do
      let state ← targetState (.target rel) (inventory.sums rel)
      let later ← planAdoptionItems inventory rest
      return ((adoptionItemOf inventory rel state).1 :: later.1,
        (adoptionItemOf inventory rel state).2 ++ later.2)

/-- `_validate_plan`. -/
def validateAdoptionPaths (plan : AdoptionPlan) : Except String Unit :=
  require (plan.entries.map AdoptionItem.path).Nodup "PLAN_PATH_DUPLICATE"

/-- `plan_adoption`. -/
def planAdoption (source : Source digests) (sourceRevision : String) :
    SurfaceProgram digests AdoptionPlan := do
  ensure (isSha40 sourceRevision = true) "SOURCE_REVISION_INVALID"
  let inventory : Inventory ← ask (.sourceInventory source)
  let items ← planAdoptionItems inventory inventory.files
  let plan : AdoptionPlan :=
    ⟨if items.2 = [] then .ready else .block, sourceRevision, inventory.manifestSha, items.1,
      items.2⟩
  computed (validateAdoptionPaths plan)
  return plan

/-- What `validate_canonical_contract` reads of the policy besides the ownership of the
inventory. -/
structure PolicyContract where
  defaultUnlistedOwnership : Ownership
  detachTransactionSchema : String
  /-- The schema is a regular file of the checkout. -/
  hasDetachSchema : Bool
  invariants : List String

/-- The invariants every policy names. -/
def requiredInvariants : List String :=
  ["PROJECT_MUST_OUTLIVE_FRAMEWORK", "READ_ONLY_PLANNER_V1", "DRIFT_BLOCKS_DESTRUCTIVE_DETACH",
    "SHARED_GUARDED_PRESERVED", "SHARED_GUARDED_ADOPTION_PRESERVE_V1",
    "TRANSACTIONAL_ADOPTION_APPLY_V1", "EXPLICIT_APPLY_ONLY",
    "NO_OVERWRITE_EXISTING_CONSUMER_PATH", "TRANSACTIONAL_GUARDED_DETACH_V1",
    "DESTRUCTIVE_AUTHORITY_REQUIRES_PROVENANCE"]

/-- The invariants a policy does not name, sorted. -/
def PolicyContract.missing (contract : PolicyContract) : List String :=
  (requiredInvariants.filter (· ∉ contract.invariants)).mergeSort

/-- `validate_canonical_contract`. -/
def validateCanonicalContract (contract : PolicyContract) :
    Except String Unit := do
  require (inventory.defaultOwnership = .frameworkPrivate)
    "SURFACE_DEFAULT_MANIFEST_OWNERSHIP_INVALID"
  require (contract.defaultUnlistedOwnership = .consumerOwned)
    "SURFACE_DEFAULT_UNLISTED_OWNERSHIP_INVALID"
  require (contract.detachTransactionSchema =
      ".adwf/schemas/managed-surface-detach-transaction.schema.json")
    "DETACH_TRANSACTION_SCHEMA_POLICY_INVALID"
  require (contract.hasDetachSchema = true) "DETACH_TRANSACTION_SCHEMA_MISSING"
  require (contract.missing = [])
    ("SURFACE_INVARIANT_MISSING:" ++ ",".intercalate contract.missing)

/-- What `_validate_adoption_plan` demands of a plan entry in its target state. -/
def validateAdoptionState (rel : Path) (item : AdoptionItem) :
    Except String Unit :=
  match item.targetState with
  | .absent =>
      require (item.action = .createPlanned ∧ item.targetSha = none)
        ("PLAN_ABSENT_ACTION_INVALID:" ++ rel.text)
  | .exact =>
      require (item.action = .keepExact ∧ item.targetSha = some (inventory.sums rel))
        ("PLAN_EXACT_ACTION_INVALID:" ++ rel.text)
  | .collision =>
      require (item.ownership = .sharedGuarded ∧ item.action = .preserveShared ∧
          (item.targetSha.any isSha256) = true ∧ item.targetSha ≠ some (inventory.sums rel))
        ("PLAN_SHARED_PRESERVE_INVALID:" ++ rel.text)
  | _ => .error ("READY_PLAN_CONTAINS_BLOCKED_STATE:" ++ rel.text)

/-- The checks `_validate_adoption_plan` makes of one inventory path. -/
def validateAdoptionItem (entries : List AdoptionItem) (rel : Path) :
    Except String Unit :=
  match entries.find? (·.path = rel) with
  | none => .error ("KeyError:" ++ rel.text)
  | some item => do
      require (item.ownership = ownershipFor rel inventory)
        ("PLAN_OWNERSHIP_MISMATCH:" ++ rel.text)
      require (item.sourceSha = inventory.sums rel) ("PLAN_SOURCE_DIGEST_MISMATCH:" ++ rel.text)
      validateAdoptionState inventory rel item

/-- The checks `_validate_adoption_plan` makes against the inventory of a checkout. -/
def validateAdoptionAgainst (plan : AdoptionPlan) :
    Except String Unit := do
  require (plan.sourceManifestSha = inventory.manifestSha) "PLAN_SOURCE_MANIFEST_MISMATCH"
  require ((∀ rel ∈ plan.entries.map AdoptionItem.path, rel ∈ inventory.files) ∧
      ∀ rel ∈ inventory.files, rel ∈ plan.entries.map AdoptionItem.path)
    "PLAN_INVENTORY_SET_MISMATCH"
  inventory.files.forM (validateAdoptionItem inventory plan.entries)

/-- `_validate_adoption_plan`. -/
def validateAdoptionPlan (source : Source digests) (contract : PolicyContract)
    (plan : AdoptionPlan) : SurfaceProgram digests Inventory := do
  computed (validateAdoptionPaths plan)
  ensure (plan.status = .ready ∧ plan.blockers = []) "APPLY_REQUIRES_READY_ADOPTION_PLAN"
  let inventory : Inventory ← ask (.sourceInventory source)
  computed (validateCanonicalContract inventory contract)
  computed (validateAdoptionAgainst inventory plan)
  let _ ← ask (.verifySourceRevision source plan.sourceRevision)
  return inventory

/-! ## Snapshots -/

/-- The snapshot entry of a plan entry. -/
def snapshotItemOf (item : AdoptionItem) : Except String SnapshotItem :=
  if item.targetState = .absent then
    .ok ⟨item.path, item.ownership, item.sourceSha, true, none⟩
  else if item.targetSha.any isSha256 = true then
    .ok ⟨item.path, item.ownership, item.sourceSha, false, item.targetSha⟩
  else .error ("SNAPSHOT_PREEXISTING_DIGEST_REQUIRED:" ++ item.path.text)

/-- The transaction a snapshot is bound to. -/
structure SnapshotBinding where
  transactionId : Option String
  planSha : Option String
  consumerRootSha : Option String

/-- All of the binding is given, or nothing of it. -/
def SnapshotBinding.IsComplete (binding : SnapshotBinding) : Prop :=
  binding.transactionId.isSome = binding.planSha.isSome ∧
    binding.planSha.isSome = binding.consumerRootSha.isSome

instance (binding : SnapshotBinding) : Decidable binding.IsComplete :=
  inferInstanceAs (Decidable (_ ∧ _))

/-- `snapshot_from_adoption_plan` against the inventory of a framework checkout. -/
def snapshotFromPlan (plan : AdoptionPlan) (binding : SnapshotBinding) :
    Except String Snapshot := do
  validateAdoptionPaths plan
  require (plan.status = .ready) "SNAPSHOT_REQUIRES_READY_ADOPTION_PLAN"
  let entries ← plan.entries.mapM snapshotItemOf
  require binding.IsComplete "SNAPSHOT_TRANSACTION_BINDING_INCOMPLETE"
  let snapshot : Snapshot :=
    ⟨plan.sourceRevision, plan.sourceManifestSha, entries, binding.transactionId,
      binding.planSha, binding.consumerRootSha⟩
  validateSnapshotAgainst inventory snapshot
  return snapshot

/-- `snapshot_from_adoption_plan`. -/
def snapshotFromAdoptionPlan (source : Source digests) (plan : AdoptionPlan)
    (binding : SnapshotBinding) : SurfaceProgram digests Snapshot := do
  let inventory : Inventory ← ask (.sourceInventory source)
  computed (snapshotFromPlan inventory plan binding)

/-- The journal of an adoption that has committed the plan and published the snapshot. -/
def committedAdoption (digests : Digests) (plan : AdoptionPlan) (planSha : String)
    (createdDirs : List Path) (snapshot : Snapshot) : AdoptionRecord where
  status := .committed
  sourceRevision := plan.sourceRevision
  sourceManifestSha := plan.sourceManifestSha
  planSha := planSha
  consumerRootSha := digests.root
  createdDirs := createdDirs
  snapshot := some snapshot

end Adwf.ManagedSurface
