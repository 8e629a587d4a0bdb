import Adwf.ManagedSurface.Adoption
import Adwf.Installation.UpgradeSnapshot

/-!
# Installation records

The record that proves an installation without the runtime directory of its transactions.
A snapshot is written twice, once as a file and once as members of the record; what is
rebuilt from the record has the digest of the file only if every member comes in the same
place, so documents carry the order of their keys.
-/

namespace Adwf.Installation

open Files ManagedSurface

/-! ## Documents -/

/-- An entry of a snapshot as it is written, its keys in the order of the text. -/
structure Entry where
  keys : List String
  item : SnapshotItem
  deriving DecidableEq, Repr

/-- A snapshot as it is written. -/
structure Document where
  keys : List String
  sourceRevision : String
  sourceManifestSha : String
  entries : List Entry
  transactionId : Option String
  planSha : Option String
  consumerRootSha : Option String
  deriving DecidableEq, Repr

/-- The object a document stands for: two documents are equal objects when these are. -/
def Document.snapshot (document : Document) : Snapshot where
  sourceRevision := document.sourceRevision
  sourceManifestSha := document.sourceManifestSha
  entries := document.entries.map Entry.item
  transactionId := document.transactionId
  planSha := document.planSha
  consumerRootSha := document.consumerRootSha

/-- `CONSUMER_INSTALLATION_RECORD`. -/
structure Record where
  frameworkSha : String
  frameworkTree : String
  manifestSha : String
  repository : String
  baseSha : Option String
  baseTree : Option String
  transactionId : String
  planSha : String
  snapshotSha : String
  sourceRevision : String
  sourceManifestSha : String
  consumerRootSha : String
  entries : List Entry
  profileSha : String
  packId : String
  packDigest : String
  recordSha : String
  deriving DecidableEq, Repr

/-- The record without its own digest. -/
def Record.unsealed (record : Record) : Record :=
  { record with recordSha := "" }

/-! ## Checkouts -/

/-- A framework checkout: its verified inventory, and what `git rev-parse` says. -/
structure Framework where
  inventory : Inventory
  contract : PolicyContract
  headSha : String
  headTree : String

/-- The file of the installation record. -/
inductive RecordFile where
  | missing
  | unreadable (error : String)
  | written (record : Record)

/-- The journal of a transaction and the snapshot file it has published. -/
structure StoredTransaction where
  status : TransactionStatus
  /-- The revision the transaction has installed. -/
  revision : String
  manifestSha : String
  snapshotSha : Option String
  file : Option Document

/-- `.adwf-runtime`. -/
structure Runtime where
  upgrades : String → Option StoredTransaction
  adoptions : String → Option StoredTransaction

/-- A directory of a fresh clone has no runtime. -/
def Runtime.none : Runtime :=
  ⟨fun _ => .none, fun _ => .none⟩

/-- A consumer repository at a directory. -/
structure Checkout where
  root : String
  /-- `detect_repository`. -/
  repository : Option String
  files : Path → Node
  record : RecordFile
  runtime : Runtime

/-- The files in another directory, without `.adwf-runtime`. -/
def Checkout.copyTo (checkout : Checkout) (root : String) (repository : Option String) :
    Checkout :=
  { checkout with root := root, repository := repository, runtime := .none }

/-- Other files in place of those of the consumer. -/
def Checkout.withFiles (checkout : Checkout) (files : Path → Node) : Checkout :=
  { checkout with files := files }

/-- The project pack a consumer profile selects. -/
structure Pack where
  id : String
  digest : String
  deriving DecidableEq, Repr

/-- SHA-256 of the bytes of a file, of the text of a snapshot document, of the name of a
directory and of the canonical text of a record without its digest;
`load_consumer_profile` on the files of a consumer; the pattern of a repository name. -/
structure Tools where
  content : String → String
  document : Document → String
  root : String → String
  record : Record → String
  loadProfile : (Path → Node) → Except String Pack
  isRepository : String → Bool

variable (tools : Tools)

/-- `_file_sha`. -/
def fileSha (node : Node) : Except String String :=
  node.bytes.map tools.content

/-! ## Records -/

/-- The keys of a snapshot document that a transaction is bound to. -/
def snapshotKeys : List String :=
  ["$schema", "schema_version", "role", "source_revision", "source_manifest_sha256", "entries",
    "transaction_id", "plan_sha256", "consumer_root_sha256"]

/-- `_snapshot_from_record`. -/
def snapshotFromRecord (record : Record) : Document where
  keys := snapshotKeys
  sourceRevision := record.sourceRevision
  sourceManifestSha := record.sourceManifestSha
  entries := record.entries
  transactionId := some record.transactionId
  planSha := some record.planSha
  consumerRootSha := some record.consumerRootSha

/-- `^[a-z][a-z0-9-]{1,31}$`. -/
def isPackId (text : String) : Bool :=
  match text.toList with
  | [] => false
  | first :: rest =>
      first.isLower && decide (1 ≤ rest.length ∧ rest.length ≤ 31) &&
        rest.all fun char => char.isLower || char.isDigit || char = '-'

/-- What the schema of installation records demands of the texts of a record. -/
def Record.Formed (record : Record) : Prop :=
  (∀ text ∈ [record.frameworkSha, record.frameworkTree, record.sourceRevision] ++
      record.baseSha.toList ++ record.baseTree.toList, isSha40 text = true) ∧
    (∀ text ∈ [record.manifestSha, record.transactionId, record.planSha, record.snapshotSha,
        record.sourceManifestSha, record.consumerRootSha, record.profileSha, record.packDigest,
        record.recordSha], isSha256 text = true) ∧
      (∀ entry ∈ record.entries, isSha256 entry.item.installedSha = true ∧
        ∀ sha ∈ entry.item.preservedSha, isSha256 sha = true) ∧
        record.entries ≠ [] ∧ tools.isRepository record.repository = true ∧
          isPackId record.packId = true

instance (record : Record) : Decidable (record.Formed tools) :=
  inferInstanceAs (Decidable (_ ∧ _))

/-- The paths of a record are distinct and sorted. -/
def OrderedPaths (paths : List Path) : Prop :=
  paths.Nodup ∧ (paths.map Path.text).Pairwise (· ≤ ·)

instance (paths : List Path) : Decidable (OrderedPaths paths) :=
  inferInstanceAs (Decidable (_ ∧ _))

/-- What `validate_record_schema` demands of an entry. -/
def validateRecordItem (item : SnapshotItem) : Except String Unit := do
  require (item.managed = true → item.preservedSha = none)
    ("INSTALLATION_MANAGED_PRESERVED_FORBIDDEN:" ++ item.path.text)
  require (item.managed = false → item.preservedSha.any isSha256 = true)
    ("INSTALLATION_PRESERVED_DIGEST_REQUIRED:" ++ item.path.text)

/-- `validate_record_schema`. -/
def validateRecordSchema (record : Record) : Except String Unit := do
  require (record.Formed tools) "INSTALLATION_SCHEMA_MISMATCH"
  require (record.recordSha = tools.record record.unsealed) "INSTALLATION_RECORD_DIGEST_MISMATCH"
  require (OrderedPaths (record.entries.map fun entry => entry.item.path))
    "INSTALLATION_MANAGED_ENTRIES_INVALID"
  (record.entries.map Entry.item).forM validateRecordItem

/-- `seal_record`. -/
def sealRecord (record : Record) : Record :=
  { record with recordSha := tools.record record.unsealed }

/-- The status of an adoption or an upgrade as its result names it. -/
inductive CommitStatus where
  | committed
  | alreadyCommitted
  | other (text : String)
  deriving DecidableEq, Repr

/-- What an adoption or an upgrade answers. -/
structure CommitResult where
  status : CommitStatus
  snapshot : Option Document
  transactionId : Option String
  snapshotSha : Option String
  /-- The file the result names. -/
  published : Option Document

/-- The digest of the snapshot file, from the result or from the file it names. -/
def CommitResult.fileDigest (result : CommitResult) : Except String String :=
  match result.snapshotSha.filter isSha256 with
  | some sha => .ok sha
  | none =>
      match result.published with
      | none => .error "INSTALLATION_SNAPSHOT_DIGEST_REQUIRED"
      | some document =>
          if isSha256 (tools.document document) = true then .ok (tools.document document)
          else .error "INSTALLATION_SNAPSHOT_DIGEST_REQUIRED"

/-- `value[key]`. -/
def mem (value : Option String) (key : String) : Except String String :=
  match value with
  | none => .error ("KeyError:" ++ key)
  | some text => .ok text

/-- `build_record` for the snapshot of a result. -/
def recordOf (framework : Framework) (checkout : Checkout) (result : CommitResult)
    (snapshot : Document) (repository : String) (baseSha baseTree : Option String) :
    Except String Record := do
  validateSnapshotAgainst framework.inventory snapshot.snapshot
  let transaction := (result.transactionId.orElse fun _ => snapshot.transactionId).getD ""
  require (isSha256 transaction = true ∧ snapshot.transactionId = some transaction)
    "INSTALLATION_TRANSACTION_BINDING_INVALID"
  require (snapshot.sourceRevision = framework.headSha) "INSTALLATION_SOURCE_REVISION_MISMATCH"
  require (snapshot.sourceManifestSha = framework.inventory.manifestSha)
    "INSTALLATION_SOURCE_MANIFEST_MISMATCH"
  let pack ← tools.loadProfile checkout.files
  let snapshotSha ← result.fileDigest tools
  let planSha ← mem snapshot.planSha "plan_sha256"
  let consumerRootSha ← mem snapshot.consumerRootSha "consumer_root_sha256"
  let profileSha ← fileSha tools (checkout.files ConsumerUpgrade.profileRel)
  let record : Record := sealRecord tools
    { frameworkSha := framework.headSha
      frameworkTree := framework.headTree
      manifestSha := framework.inventory.manifestSha
      repository := repository
      baseSha := baseSha
      baseTree := baseTree
      transactionId := transaction
      planSha := planSha
      snapshotSha := snapshotSha
      sourceRevision := snapshot.sourceRevision
      sourceManifestSha := snapshot.sourceManifestSha
      consumerRootSha := consumerRootSha
      entries := snapshot.entries
      profileSha := profileSha
      packId := pack.id
      packDigest := pack.digest
      recordSha := "" }
  validateRecordSchema tools record
  return record

/-- `build_record`. -/
def buildRecord (framework : Framework) (checkout : Checkout) (result : CommitResult)
    (repository : String) (baseSha baseTree : Option String) : Except String Record := do
  require (tools.isRepository repository = true) "INSTALLATION_CONSUMER_REPOSITORY_INVALID"
  require (∀ sha ∈ baseSha, isSha40 sha = true) "INSTALLATION_CONSUMER_BASE_SHA_INVALID"
  require (∀ tree ∈ baseTree, isSha40 tree = true) "INSTALLATION_CONSUMER_BASE_TREE_INVALID"
  require (result.status = .committed ∨ result.status = .alreadyCommitted)
    "INSTALLATION_REQUIRES_COMMITTED_ADOPTION"
  match result.snapshot with
  | none => .error "INSTALLATION_SNAPSHOT_REQUIRED"
  | some snapshot =>
      recordOf tools framework checkout result snapshot repository baseSha baseTree

/-- `load_record`. -/
def loadRecord (checkout : Checkout) : Except String Record :=
  match checkout.record with
  | .missing => .error "INSTALLATION_RECORD_REQUIRED"
  | .unreadable error => .error ("INSTALLATION_RECORD_INVALID:" ++ error)
  | .written record => do
      validateRecordSchema tools record
      return record

/-! ## Fresh sessions -/

/-- What `validate_fresh_session` answers. -/
structure Verified where
  frameworkSha : String
  frameworkTree : String
  repository : String
  entriesVerified : Nat
  deriving DecidableEq, Repr

/-- The digest a fresh session expects at the path of an entry. -/
def expectedSha (item : SnapshotItem) : Option String :=
  if item.managed = false then item.preservedSha else some item.installedSha

/-- A regular file with the digest is at the path. -/
def verifyEntry (files : Path → Node) (item : SnapshotItem) : Except String Unit :=
  match files item.path with
  | .file _ content =>
      require (some (tools.content content) = expectedSha item)
        ("INSTALLATION_MANAGED_BYTES_MISMATCH:" ++ item.path.text)
  | _ => .error ("INSTALLATION_MANAGED_BYTES_MISMATCH:" ++ item.path.text)

/-- The profile of the consumer is the recorded one. -/
def verifyProfile (record : Record) (files : Path → Node) : Except String Unit := do
  let pack ← (tools.loadProfile files).mapError ("INSTALLATION_PROFILE_INVALID:" ++ ·)
  let profileSha ← fileSha tools (files ConsumerUpgrade.profileRel)
  require (profileSha = record.profileSha) "INSTALLATION_PROFILE_DIGEST_MISMATCH"
  require (pack = ⟨record.packId, record.packDigest⟩) "INSTALLATION_PROFILE_PACK_MISMATCH"

/-- `validate_fresh_session` for a loaded record. -/
def verifyRecord (framework : Framework) (files : Path → Node) (record : Record)
    (expectedRepository : Option String) : Except String Verified := do
  require (∀ repository ∈ expectedRepository, record.repository = repository)
    "INSTALLATION_CONSUMER_REPOSITORY_MISMATCH"
  require (framework.headSha = record.frameworkSha) "INSTALLATION_FRAMEWORK_SHA_MISMATCH"
  require (framework.headTree = record.frameworkTree) "INSTALLATION_FRAMEWORK_TREE_MISMATCH"
  require (framework.inventory.manifestSha = record.manifestSha)
    "INSTALLATION_FRAMEWORK_MANIFEST_MISMATCH"
  let snapshot := snapshotFromRecord record
  validateSnapshotAgainst framework.inventory snapshot.snapshot
  require (tools.document snapshot = record.snapshotSha) "INSTALLATION_SNAPSHOT_DIGEST_MISMATCH"
  verifyProfile tools record files
  (snapshot.entries.map Entry.item).forM (verifyEntry tools files)
  return ⟨record.frameworkSha, record.frameworkTree, record.repository, snapshot.entries.length⟩

/-- `validate_fresh_session`. -/
def validateFreshSession (framework : Framework) (checkout : Checkout)
    (expectedRepository : Option String) : Except String Verified := do
  let record ← loadRecord tools checkout
  verifyRecord tools framework checkout.files record expectedRepository

/-- The repository a session works for: the given one, or the one that is detected. -/
def sessionRepository (checkout : Checkout) (given : Option String)
    (undetected invalid : String) : Except String String :=
  match given with
  | none =>
      match checkout.repository with
      | none => .error undetected
      | some repository => .ok repository
  | some repository =>
      if tools.isRepository repository = true then .ok repository else .error invalid

/-- `rebind_snapshot_for_fresh_session`. -/
def rebindSnapshotForFreshSession (checkout : Checkout) (framework : Framework)
    (expectedRepository : Option String) : Except String Document := do
  let repository ← sessionRepository tools checkout expectedRepository
    "INSTALLATION_CONSUMER_REPOSITORY_NOT_VERIFIABLE" "INSTALLATION_CONSUMER_REPOSITORY_INVALID"
  let _ ← validateFreshSession tools framework checkout (some repository)
  let record ← loadRecord tools checkout
  return { snapshotFromRecord record with consumerRootSha := some (tools.root checkout.root) }

/-- A snapshot that a transaction of the runtime has published. -/
def trustTransaction (stored : StoredTransaction) (snapshot : Document) (code : String) :
    Except String Unit := do
  require (stored.status = .committed) (code ++ "_NOT_COMMITTED")
  require (stored.revision = snapshot.sourceRevision) (code ++ "_REVISION_MISMATCH")
  require (stored.manifestSha = snapshot.sourceManifestSha) (code ++ "_MANIFEST_MISMATCH")
  match stored.file with
  | none => .error (code ++ "_SNAPSHOT_MISSING")
  | some file =>
      require (file.snapshot = snapshot.snapshot ∧ stored.snapshotSha = some (tools.document file))
        (code ++ "_SNAPSHOT_PROVENANCE_MISMATCH")

/-- A snapshot that the installation record stands for. -/
def trustInstallation (framework : Framework) (checkout : Checkout) (snapshot : Document)
    (consumerRepository : Option String) : Except String Unit := do
  let repository ← sessionRepository tools checkout consumerRepository
    "UPGRADE_APPLY_INSTALLATION_REPOSITORY_NOT_VERIFIABLE"
    "UPGRADE_APPLY_INSTALLATION_REPOSITORY_INVALID"
  let installation ← (do
    let _ ← validateFreshSession tools framework checkout (some repository)
    loadRecord tools checkout).mapError fun text =>
      "UPGRADE_APPLY_SOURCE_INSTALLATION_PROVENANCE_INVALID:" ++ ConsumerUpgrade.errorCode text
  let installed : Document :=
    { snapshotFromRecord installation with consumerRootSha := some (tools.root checkout.root) }
  require (installed.snapshot = snapshot.snapshot)
    "UPGRADE_APPLY_SOURCE_INSTALLATION_SNAPSHOT_PROVENANCE_MISMATCH"

/-- `_trusted_source_snapshot`. -/
def trustedSourceSnapshot (framework : Framework) (checkout : Checkout) (snapshot : Document)
    (consumerRepository : Option String) : Except String Unit := do
  (validateSnapshotAgainst framework.inventory snapshot.snapshot).mapError fun text =>
    "UPGRADE_APPLY_SOURCE_SNAPSHOT_INVALID:" ++ ConsumerUpgrade.errorCode text
  require (snapshot.consumerRootSha = some (tools.root checkout.root))
    "UPGRADE_APPLY_SOURCE_SNAPSHOT_ROOT_MISMATCH"
  let transaction := snapshot.transactionId.getD ""
  require (transaction.toList.length = 64) "UPGRADE_APPLY_TRUSTED_SOURCE_SNAPSHOT_REQUIRED"
  match checkout.runtime.upgrades transaction with
  | some stored => trustTransaction tools stored snapshot "UPGRADE_APPLY_SOURCE_UPGRADE"
  | none =>
      match checkout.runtime.adoptions transaction with
      | some stored => trustTransaction tools stored snapshot "UPGRADE_APPLY_SOURCE_ADOPTION"
      | none => trustInstallation tools framework checkout snapshot consumerRepository

end Adwf.Installation
