import Adwf.Installation.Record

/-!
# Published installations

How a snapshot and its record come to be: the end of an adoption, and the projection of a
committed upgrade.  Each writes the snapshot file in its own way; a chain of them, carried
from directory to directory, is a derivation of `Installed`.
-/

namespace Adwf.Installation

open Files ManagedSurface
open ConsumerUpgrade (UpgradeItem targetSnapshotItems)

variable (tools : Tools)

/-! ## Adoption -/

/-- The entry `snapshot_from_adoption_plan` writes. -/
def adoptedEntry (item : SnapshotItem) : Entry where
  keys := ["path", "ownership", "installed_sha256", "managed_by_adwf"] ++
    if item.managed = false then ["preserved_sha256"] else []
  item := item

/-- The document `snapshot_from_adoption_plan` writes; what it is bound to comes last. -/
def adoptedDocument (snapshot : Snapshot) : Document where
  keys := ["$schema", "schema_version", "role", "source_revision", "source_manifest_sha256",
      "entries"] ++
    (snapshot.transactionId.map fun _ => "transaction_id").toList ++
      (snapshot.planSha.map fun _ => "plan_sha256").toList ++
        (snapshot.consumerRootSha.map fun _ => "consumer_root_sha256").toList
  sourceRevision := snapshot.sourceRevision
  sourceManifestSha := snapshot.sourceManifestSha
  entries := snapshot.entries.map adoptedEntry
  transactionId := snapshot.transactionId
  planSha := snapshot.planSha
  consumerRootSha := snapshot.consumerRootSha

/-- The digest an adoption expects of an entry afterwards. -/
def adoptedSha (item : AdoptionItem) : Option String :=
  if item.action = .preserveShared then item.targetSha else some item.sourceSha

/-- The target of an entry is exactly as the adoption leaves it. -/
def checkAdopted (files : Path → Node) (code : String) (item : AdoptionItem) :
    Except String Unit :=
  match files item.path with
  | .file _ content =>
      require (some (tools.content content) = adoptedSha item) (code ++ item.path.text)
  | _ => .error (code ++ item.path.text)

/-- `_verify_committed` of an adoption. -/
def verifyAdoption (framework : Framework) (checkout : Checkout) (plan : AdoptionPlan)
    (transaction : String) (stored : StoredTransaction) : Except String Document := do
  require (stored.status = .committed) "TRANSACTION_NOT_COMMITTED"
  match stored.file with
  | none => .error "COMMITTED_SNAPSHOT_MISSING"
  | some document => do
      require (some (tools.document document) = stored.snapshotSha)
        "COMMITTED_SNAPSHOT_DIGEST_MISMATCH"
      validateSnapshotAgainst framework.inventory document.snapshot
      require (document.transactionId = some transaction)
        "COMMITTED_SNAPSHOT_TRANSACTION_MISMATCH"
      plan.entries.forM (checkAdopted tools checkout.files "COMMITTED_TARGET_DRIFT:")
      return document

/-- `_validate_adoption_plan` for a clean framework checkout. -/
def validatePlan (framework : Framework) (plan : AdoptionPlan) : Except String Unit := do
  validateAdoptionPaths plan
  require (plan.status = .ready ∧ plan.blockers = []) "APPLY_REQUIRES_READY_ADOPTION_PLAN"
  validateCanonicalContract framework.inventory framework.contract
  validateAdoptionAgainst framework.inventory plan
  require (framework.headSha = plan.sourceRevision) "SOURCE_REVISION_MISMATCH"

/-- `apply_adoption` around the writing of its entries: the plan is checked, the snapshot is
published and the journal says that the adoption is committed. -/
def commitAdoption (framework : Framework) (checkout : Checkout) (plan : AdoptionPlan)
    (transaction planSha : String) : Except String (Checkout × CommitResult) := do
  validatePlan framework plan
  plan.entries.forM (checkAdopted tools checkout.files "ADOPTION_POSTCONDITION_FAILED:")
  let snapshot ← snapshotFromPlan framework.inventory plan
    ⟨some transaction, some planSha, some (tools.root checkout.root)⟩
  let document := adoptedDocument snapshot
  let stored : StoredTransaction :=
    { status := .committed
      revision := plan.sourceRevision
      manifestSha := plan.sourceManifestSha
      snapshotSha := some (tools.document document)
      file := some document }
  let verified ← verifyAdoption tools framework checkout plan transaction stored
  return ({ checkout with
      runtime := { checkout.runtime with
        adoptions := Function.update checkout.runtime.adoptions transaction (some stored) } },
    { status := .committed
      snapshot := some verified
      transactionId := some transaction
      snapshotSha := stored.snapshotSha
      published := stored.file })

/-! ## Connected upgrades -/

/-- The entry `_target_snapshot` writes. -/
def upgradedEntry (item : SnapshotItem) : Entry where
  keys := ["path", "ownership", "installed_sha256", "managed_by_adwf"] ++
    if item.managed = false then ["preserved_sha256"] else []
  item := item

/-- What a connected upgrade reads of its plan, and what its executor and the projection of
the other sidecars make of the files. -/
structure UpgradeRun where
  transaction : String
  targetRevision : String
  targetManifestSha : String
  planSha : String
  entries : List UpgradeItem
  files : Path → Node
  projected : Path → Node
  /-- The checks of the operational binding and of the gates. -/
  bindings : Except String Unit

/-- `_target_snapshot`. -/
def targetDocument (target : Framework) (root : String) (source : Document) (run : UpgradeRun) :
    Except String Document := do
  let entries ← targetSnapshotItems source.snapshot run.entries
  let document : Document :=
    { keys := ["$schema", "schema_version", "role", "source_revision", "source_manifest_sha256",
        "entries", "transaction_id", "plan_sha256", "consumer_root_sha256"]
      sourceRevision := run.targetRevision
      sourceManifestSha := run.targetManifestSha
      entries := entries.map upgradedEntry
      transactionId := some run.transaction
      planSha := some run.planSha
      consumerRootSha := some (tools.root root) }
  (validateSnapshotAgainst target.inventory document.snapshot).mapError fun text =>
    "UPGRADE_TARGET_SNAPSHOT_INVALID:" ++ ConsumerUpgrade.errorCode text
  return document

/-- `_target_snapshot_result`. -/
def targetSnapshotResult (checkout : Checkout) (transaction : String) :
    Except String CommitResult :=
  match checkout.runtime.upgrades transaction with
  | none => .error "UPGRADE_PROJECTION_CORE_NOT_COMMITTED"
  | some stored => do
      require (stored.status = .committed) "UPGRADE_PROJECTION_CORE_NOT_COMMITTED"
      match stored.file with
      | none => .error "UPGRADE_PROJECTION_CORE_SNAPSHOT_REQUIRED"
      | some document =>
          return {
            status := .committed
            snapshot := some document
            transactionId := some transaction
            snapshotSha := stored.snapshotSha
            published := stored.file }

/-- `project_committed_upgrade` with the names the source record has for the consumer. -/
def projectCommittedUpgrade (target : Framework) (checkout : Checkout) (run : UpgradeRun)
    (install : Record) : Except String Checkout := do
  let core ← targetSnapshotResult checkout run.transaction
  let record ← buildRecord tools target checkout core install.repository install.baseSha
    install.baseTree
  let projected := { checkout with record := .written record, files := run.projected }
  let _ ← validateFreshSession tools target projected none
  run.bindings
  return projected

/-- The journal and the snapshot file of a committed upgrade. -/
def storedUpgrade (run : UpgradeRun) (document : Document) : StoredTransaction where
  status := .committed
  revision := run.targetRevision
  manifestSha := run.targetManifestSha
  snapshotSha := some (tools.document document)
  file := some document

/-- `apply_connected_upgrade` around an executor that has committed: the snapshot it is
called with, and the one it publishes. -/
def connectedUpgrade (source target : Framework) (checkout : Checkout) (snapshot : Document)
    (run : UpgradeRun) : Except String (Checkout × Document) := do
  let install ← loadRecord tools checkout
  trustedSourceSnapshot tools source checkout snapshot none
  let document ← targetDocument tools target checkout.root snapshot run
  let committed : Checkout :=
    { checkout with
      files := run.files
      runtime := { checkout.runtime with
        upgrades := Function.update checkout.runtime.upgrades run.transaction
          (some (storedUpgrade tools run document)) } }
  let projected ← projectCommittedUpgrade tools target committed run install
  return (projected, document)

/-- A consumer with the record of the published snapshot: adopted, upgraded any number of
times, carried to other directories on the way, and worked on where the record does not
look. -/
inductive Installed : Framework → Checkout → Document → Prop
  | adopted {framework : Framework} {before after checkout : Checkout} {plan : AdoptionPlan}
      {transaction planSha repository : String} {baseSha baseTree : Option String}
      {result : CommitResult} {document : Document} {record : Record}
      (committed : commitAdoption tools framework before plan transaction planSha =
        .ok (after, result))
      (published : result.snapshot = some document)
      (untouched : ∀ item ∈ plan.entries, checkout.files item.path = after.files item.path)
      (built : buildRecord tools framework checkout result repository baseSha baseTree =
        .ok record)
      (written : checkout.record = .written record) : Installed framework checkout document
  | upgraded {source target : Framework} {checkout later : Checkout}
      {published snapshot document : Document} {run : UpgradeRun}
      (installed : Installed source checkout published)
      (ran : connectedUpgrade tools source target checkout snapshot run = .ok (later, document)) :
      Installed target later document
  | carried {framework : Framework} {checkout : Checkout} {published : Document}
      (installed : Installed framework checkout published) (root : String)
      (repository : Option String) :
      Installed framework (checkout.copyTo root repository) published
  | worked {framework : Framework} {checkout : Checkout} {published : Document}
      {files : Path → Node} (installed : Installed framework checkout published)
      (kept : ∀ rel, (rel = ConsumerUpgrade.profileRel ∨
        ∃ entry ∈ published.entries, entry.item.path = rel) → files rel = checkout.files rel)
      (pack : tools.loadProfile files = tools.loadProfile checkout.files) :
      Installed framework (checkout.withFiles files) published

end Adwf.Installation
