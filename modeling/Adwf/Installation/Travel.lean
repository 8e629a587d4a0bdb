import Adwf.Installation.Published
import Adwf.Value.Fallible

/-!
# The proof travels with the checkout

Whatever wrote the published snapshot, the record rebuilds it key by key; what the record
proves depends on the files alone, so it is proved again in every copy of them, and in no
directory where a listed file has other bytes.
-/

namespace Adwf.Installation

open Files ManagedSurface
open Fallible (bind_ok_iff)

variable {tools : Tools} {framework : Framework} {checkout : Checkout} {published : Document}
variable {record : Record}

theorem mapError_eq_ok_iff {α : Type} {result : Except String α} {change : String → String}
    {value : α} : result.mapError change = .ok value ↔ result = .ok value := by
  cases result with
  | error text => exact ⟨nofun, nofun⟩
  | ok found => exact Iff.rfl

theorem fileSha_eq_ok_iff {node : Node} {sha : String} :
    fileSha tools node = .ok sha ↔ ∃ content, node.bytes = .ok content ∧
      tools.content content = sha := by
  unfold fileSha
  cases node.bytes with
  | error text => exact ⟨nofun, fun ⟨_, same, _⟩ => nomatch same⟩
  | ok content => simp [Except.map]

theorem length_of_isSha256 {text : String} (formed : isSha256 text = true) :
    text.toList.length = 64 := by
  have both : text.toList.length = 64 ∧ text.toList.all isHex = true := by
    simpa only [isSha256, Bool.and_eq_true, decide_eq_true_eq] using formed
  exact both.1

/-! ## Records and what they are built from -/

/-- What `build_record` has checked of the snapshot it makes a record of. -/
structure BuiltFrom (tools : Tools) (framework : Framework) (checkout : Checkout)
    (result : CommitResult) (snapshot : Document) (record : Record) : Prop where
  validSnapshot : validateSnapshotAgainst framework.inventory snapshot.snapshot = .ok ()
  transaction : snapshot.transactionId = some record.transactionId
  isTransaction : isSha256 record.transactionId = true
  head : record.frameworkSha = framework.headSha ∧ record.frameworkTree = framework.headTree ∧
    record.manifestSha = framework.inventory.manifestSha
  source : record.sourceRevision = snapshot.sourceRevision ∧
    record.sourceManifestSha = snapshot.sourceManifestSha
  bound : snapshot.planSha = some record.planSha ∧
    snapshot.consumerRootSha = some record.consumerRootSha
  entries : record.entries = snapshot.entries
  pack : tools.loadProfile checkout.files = .ok ⟨record.packId, record.packDigest⟩
  profile : fileSha tools (checkout.files ConsumerUpgrade.profileRel) = .ok record.profileSha
  fileDigest : result.fileDigest tools = .ok record.snapshotSha
  validRecord : validateRecordSchema tools record = .ok ()

theorem member_eq_ok_iff {value : Option String} {key text : String} :
    mem value key = .ok text ↔ value = some text := by
  cases value with
  | none => exact ⟨nofun, nofun⟩
  | some found => simp [mem]

variable {result : CommitResult} {snapshot document : Document} {repository : String}
variable {baseSha baseTree given : Option String} {files : Path → Node} {item : AdoptionItem}
variable {plan : AdoptionPlan}

theorem builtFrom_of_recordOf
    (built : recordOf tools framework checkout result snapshot repository baseSha baseTree =
      .ok record) : BuiltFrom tools framework checkout result snapshot record := by
  obtain ⟨⟨⟩, validSnapshot, rest⟩ := bind_ok_iff.mp built
  obtain ⟨⟨isTransaction, transaction⟩, rest⟩ := require_bind_eq_ok_iff.mp rest
  obtain ⟨_, rest⟩ := require_bind_eq_ok_iff.mp rest
  obtain ⟨_, rest⟩ := require_bind_eq_ok_iff.mp rest
  obtain ⟨pack, loaded, rest⟩ := bind_ok_iff.mp rest
  obtain ⟨snapshotSha, fileDigest, rest⟩ := bind_ok_iff.mp rest
  obtain ⟨planSha, planBound, rest⟩ := bind_ok_iff.mp rest
  obtain ⟨rootSha, rootBound, rest⟩ := bind_ok_iff.mp rest
  obtain ⟨profileSha, profile, rest⟩ := bind_ok_iff.mp rest
  obtain ⟨⟨⟩, validRecord, rest⟩ := bind_ok_iff.mp rest
  cases rest
  exact {
    validSnapshot := validSnapshot
    transaction := transaction
    isTransaction := isTransaction
    head := ⟨rfl, rfl, rfl⟩
    source := ⟨rfl, rfl⟩
    bound := ⟨member_eq_ok_iff.mp planBound, member_eq_ok_iff.mp rootBound⟩
    entries := rfl
    pack := loaded
    profile := profile
    fileDigest := fileDigest
    validRecord := validRecord }

theorem builtFrom_of_buildRecord
    (built : buildRecord tools framework checkout result repository baseSha baseTree = .ok record)
    (published : result.snapshot = some snapshot) :
    BuiltFrom tools framework checkout result snapshot record := by
  obtain ⟨_, rest⟩ := require_bind_eq_ok_iff.mp built
  obtain ⟨_, rest⟩ := require_bind_eq_ok_iff.mp rest
  obtain ⟨_, rest⟩ := require_bind_eq_ok_iff.mp rest
  obtain ⟨_, rest⟩ := require_bind_eq_ok_iff.mp rest
  rw [published] at rest
  exact builtFrom_of_recordOf rest

theorem BuiltFrom.rebuilt (built : BuiltFrom tools framework checkout result snapshot record)
    (ordered : snapshot.keys = snapshotKeys) : snapshotFromRecord record = snapshot := by
  obtain ⟨keys, revision, manifest, entries, transaction, plan, root⟩ := snapshot
  cases ordered
  rw [snapshotFromRecord, built.source.1, built.source.2, built.entries]
  rw [← built.transaction, ← built.bound.1, ← built.bound.2]
  rfl

theorem fileDigest_eq {sha : String} (named : result.snapshotSha = some (tools.document document))
    (file : result.published = some document) (found : result.fileDigest tools = .ok sha) :
    sha = tools.document document := by
  unfold CommitResult.fileDigest at found
  rw [named, file] at found
  by_cases formed : isSha256 (tools.document document) = true
  · simp only [Option.filter, formed, if_true] at found
    cases found
    rfl
  · simp only [Option.filter, formed] at found
    cases found

/-- The record at its place proves the published snapshot. -/
structure Proven (tools : Tools) (framework : Framework) (checkout : Checkout)
    (published : Document) (record : Record) : Prop where
  written : checkout.record = .written record
  validRecord : validateRecordSchema tools record = .ok ()
  rebuilt : snapshotFromRecord record = published
  isTransaction : isSha256 record.transactionId = true
  verified : verifyRecord tools framework checkout.files record none =
    .ok ⟨record.frameworkSha, record.frameworkTree, record.repository, published.entries.length⟩

/-- What a verified record says of the files. -/
structure Shown (tools : Tools) (framework : Framework) (files : Path → Node) (record : Record) :
    Prop where
  head : framework.headSha = record.frameworkSha ∧ framework.headTree = record.frameworkTree ∧
    framework.inventory.manifestSha = record.manifestSha
  valid : validateSnapshotAgainst framework.inventory (snapshotFromRecord record).snapshot = .ok ()
  digest : tools.document (snapshotFromRecord record) = record.snapshotSha
  profile : verifyProfile tools record files = .ok ()
  entries : ∀ entry ∈ record.entries, verifyEntry tools files entry.item = .ok ()

theorem verifyRecord_eq_ok_iff {expected : Option String} {verified : Verified} :
    verifyRecord tools framework files record expected = .ok verified ↔
      (∀ repository ∈ expected, record.repository = repository) ∧
        Shown tools framework files record ∧
          verified = ⟨record.frameworkSha, record.frameworkTree, record.repository,
            record.entries.length⟩ := by
  constructor
  · intro passed
    obtain ⟨repository, rest⟩ := require_bind_eq_ok_iff.mp passed
    obtain ⟨headSha, rest⟩ := require_bind_eq_ok_iff.mp rest
    obtain ⟨headTree, rest⟩ := require_bind_eq_ok_iff.mp rest
    obtain ⟨manifest, rest⟩ := require_bind_eq_ok_iff.mp rest
    obtain ⟨⟨⟩, valid, rest⟩ := bind_ok_iff.mp rest
    obtain ⟨digest, rest⟩ := require_bind_eq_ok_iff.mp rest
    obtain ⟨⟨⟩, profile, rest⟩ := bind_ok_iff.mp rest
    obtain ⟨⟨⟩, entries, rest⟩ := bind_ok_iff.mp rest
    cases rest
    refine ⟨repository, ⟨⟨headSha, headTree, manifest⟩, valid, digest, profile, ?_⟩, rfl⟩
    intro entry listed
    exact ok_of_forM_eq_ok entries entry.item (List.mem_map_of_mem listed)
  · rintro ⟨repository, shown, rfl⟩
    refine require_bind_eq_ok_iff.mpr ⟨repository, require_bind_eq_ok_iff.mpr ⟨shown.head.1,
      require_bind_eq_ok_iff.mpr ⟨shown.head.2.1, require_bind_eq_ok_iff.mpr ⟨shown.head.2.2,
        bind_ok_iff.mpr ⟨(), shown.valid, require_bind_eq_ok_iff.mpr ⟨shown.digest,
          bind_ok_iff.mpr ⟨(), shown.profile, bind_ok_iff.mpr ⟨(), ?_, rfl⟩⟩⟩⟩⟩⟩⟩⟩
    refine forM_eq_ok fun item listed => ?_
    obtain ⟨entry, mem, rfl⟩ := List.mem_map.mp listed
    exact shown.entries entry mem

theorem verifyEntry_eq_ok_iff {item : SnapshotItem} :
    verifyEntry tools files item = .ok () ↔ ∃ inode content, files item.path = .file inode content ∧
        some (tools.content content) = expectedSha item := by
  unfold verifyEntry
  cases files item.path with
  | file inode content =>
      rw [require_eq_ok_iff]
      exact ⟨fun same => ⟨inode, content, rfl, same⟩, fun ⟨_, _, node, same⟩ => by
        cases node
        exact same⟩
  | _ => exact ⟨nofun, fun ⟨_, _, node, _⟩ => nomatch node⟩

/-! ## Adoption -/

theorem path_of_snapshotItemOf {kept : SnapshotItem}
    (made : snapshotItemOf item = .ok kept) : kept.path = item.path := by
  unfold snapshotItemOf at made
  split_ifs at made
  · cases made
    rfl
  · cases made
    rfl

theorem adoptedSha_eq_expectedSha {inventory : Inventory} {rel : Path}
    {kept : SnapshotItem} (state : validateAdoptionState inventory rel item = .ok ())
    (source : item.sourceSha = inventory.sums rel) (made : snapshotItemOf item = .ok kept) :
    adoptedSha item = expectedSha kept := by
  unfold validateAdoptionState at state
  unfold snapshotItemOf at made
  cases target : item.targetState with
  | absent =>
      rw [target] at state made
      obtain ⟨action, _⟩ := require_eq_ok_iff.mp state
      cases made
      simp [adoptedSha, expectedSha, action]
  | exact =>
      rw [target] at state made
      obtain ⟨action, sha⟩ := require_eq_ok_iff.mp state
      simp only [reduceCtorEq, if_false] at made
      split_ifs at made
      cases made
      simp [adoptedSha, expectedSha, action, sha, source]
  | collision =>
      rw [target] at state made
      obtain ⟨_, action, _, _⟩ := require_eq_ok_iff.mp state
      simp only [reduceCtorEq, if_false] at made
      split_ifs at made
      cases made
      simp [adoptedSha, expectedSha, action]
  | symlink =>
      rw [target] at state
      cases state
  | nonFile =>
      rw [target] at state
      cases state

theorem exists_of_mapM_ok {α β : Type} {compute : α → Except String β} {items : List α}
    {results : List β} (made : items.mapM compute = .ok results) {result : β}
    (listed : result ∈ results) : ∃ item ∈ items, compute item = .ok result := by
  induction items generalizing results with
  | nil =>
      cases made
      cases listed
  | cons item rest ih =>
      rw [List.mapM_cons] at made
      obtain ⟨first, computed, others⟩ := bind_ok_iff.mp made
      obtain ⟨later, computedLater, ended⟩ := bind_ok_iff.mp others
      cases ended
      rcases List.mem_cons.mp listed with rfl | inLater
      · exact ⟨item, List.mem_cons_self, computed⟩
      · obtain ⟨other, mem, same⟩ := ih computedLater inLater
        exact ⟨other, List.mem_cons_of_mem item mem, same⟩

theorem state_of_validated {inventory : Inventory}
    (distinct : (plan.entries.map AdoptionItem.path).Nodup)
    (validated : validateAdoptionAgainst inventory plan = .ok ()) (listed : item ∈ plan.entries) :
    item.sourceSha = inventory.sums item.path ∧
      validateAdoptionState inventory item.path item = .ok () := by
  obtain ⟨_, rest⟩ := require_bind_eq_ok_iff.mp validated
  obtain ⟨⟨covered, _⟩, checked⟩ := require_bind_eq_ok_iff.mp rest
  have passed := ok_of_forM_eq_ok checked item.path
    (covered item.path (List.mem_map_of_mem listed))
  unfold validateAdoptionItem at passed
  cases found : plan.entries.find? (·.path = item.path) with
  | none =>
      rw [found] at passed
      cases passed
  | some other =>
      rw [found] at passed
      have same : other.path = item.path := by simpa using List.find?_some found
      obtain rfl := List.inj_on_of_nodup_map distinct (List.mem_of_find?_eq_some found) listed same
      obtain ⟨_, rest⟩ := require_bind_eq_ok_iff.mp passed
      exact require_bind_eq_ok_iff.mp rest

/-- What a committed adoption has published, and what it has left at every path. -/
structure Adopted (tools : Tools) (framework : Framework) (files : Path → Node)
    (plan : AdoptionPlan) (result : CommitResult) (document : Document) : Prop where
  keys : document.keys = snapshotKeys
  digest : result.snapshotSha = some (tools.document document)
  file : result.published = some document
  entries : ∀ entry ∈ document.entries, ∃ item ∈ plan.entries,
    entry.item.path = item.path ∧ verifyEntry tools files entry.item = .ok ()

theorem adopted_of_commit {before after : Checkout} {transaction planSha : String}
    (committed : commitAdoption tools framework before plan transaction planSha =
      .ok (after, result)) (published : result.snapshot = some document) :
    Adopted tools framework after.files plan result document := by
  obtain ⟨⟨⟩, planned, rest⟩ := bind_ok_iff.mp committed
  obtain ⟨⟨⟩, _, rest⟩ := bind_ok_iff.mp rest
  obtain ⟨snapshot, made, rest⟩ := bind_ok_iff.mp rest
  obtain ⟨verified, checked, rest⟩ := bind_ok_iff.mp rest
  cases rest
  obtain rfl := Option.some.inj published
  obtain ⟨distinct, rest⟩ := require_bind_eq_ok_iff.mp planned
  obtain ⟨_, rest⟩ := require_bind_eq_ok_iff.mp rest
  obtain ⟨⟨⟩, _, rest⟩ := bind_ok_iff.mp rest
  obtain ⟨⟨⟩, validated, _⟩ := bind_ok_iff.mp rest
  obtain ⟨_, rest⟩ := require_bind_eq_ok_iff.mp checked
  obtain ⟨_, rest⟩ := require_bind_eq_ok_iff.mp rest
  obtain ⟨⟨⟩, _, rest⟩ := bind_ok_iff.mp rest
  obtain ⟨_, rest⟩ := require_bind_eq_ok_iff.mp rest
  obtain ⟨⟨⟩, exactly, rest⟩ := bind_ok_iff.mp rest
  cases rest
  obtain ⟨_, rest⟩ := require_bind_eq_ok_iff.mp made
  obtain ⟨_, rest⟩ := require_bind_eq_ok_iff.mp rest
  obtain ⟨items, kept, rest⟩ := bind_ok_iff.mp rest
  obtain ⟨_, rest⟩ := require_bind_eq_ok_iff.mp rest
  obtain ⟨⟨⟩, _, ended⟩ := bind_ok_iff.mp rest
  cases ended
  refine ⟨rfl, rfl, rfl, fun entry listed => ?_⟩
  obtain ⟨snapshotItem, mem, rfl⟩ := List.mem_map.mp listed
  obtain ⟨item, inPlan, makes⟩ := exists_of_mapM_ok kept mem
  have path : snapshotItem.path = item.path := path_of_snapshotItemOf makes
  obtain ⟨source, state⟩ := state_of_validated distinct validated inPlan
  have same := adoptedSha_eq_expectedSha state source makes
  have passed := ok_of_forM_eq_ok exactly item inPlan
  refine ⟨item, inPlan, path, ?_⟩
  unfold verifyEntry
  unfold checkAdopted at passed
  rw [show (adoptedEntry snapshotItem).item = snapshotItem from rfl, path]
  cases found : before.files item.path with
  | file inode content =>
      rw [found] at passed
      rw [require_eq_ok_iff, ← same]
      exact require_eq_ok_iff.mp passed
  | _ =>
      rw [found] at passed
      cases passed

theorem proven_of_adopted {before after : Checkout} {transaction planSha : String}
    (committed : commitAdoption tools framework before plan transaction planSha =
      .ok (after, result)) (snapshot : result.snapshot = some published)
    (untouched : ∀ item ∈ plan.entries, checkout.files item.path = after.files item.path)
    (made : buildRecord tools framework checkout result repository baseSha baseTree = .ok record)
    (written : checkout.record = .written record) :
    Proven tools framework checkout published record := by
  have adopted := adopted_of_commit committed snapshot
  have built := builtFrom_of_buildRecord made snapshot
  have rebuilt := built.rebuilt adopted.keys
  refine ⟨written, built.validRecord, rebuilt, built.isTransaction,
    verifyRecord_eq_ok_iff.mpr ⟨nofun, ?_, by rw [built.entries]⟩⟩
  constructor
  · exact ⟨built.head.1.symm, built.head.2.1.symm, built.head.2.2.symm⟩
  · rw [rebuilt]
    exact built.validSnapshot
  · rw [rebuilt, fileDigest_eq adopted.digest adopted.file built.fileDigest]
  · refine bind_ok_iff.mpr ⟨⟨record.packId, record.packDigest⟩,
      mapError_eq_ok_iff.mpr built.pack, bind_ok_iff.mpr ⟨record.profileSha, built.profile, ?_⟩⟩
    exact require_bind_eq_ok_iff.mpr ⟨rfl, require_eq_ok_iff.mpr rfl⟩
  · intro entry listed
    rw [built.entries] at listed
    obtain ⟨item, inPlan, path, exactly⟩ := adopted.entries entry listed
    rw [verifyEntry_eq_ok_iff] at exactly ⊢
    rw [path] at exactly ⊢
    rw [untouched item inPlan]
    exact exactly

theorem proven_of_upgraded {source target : Framework} {later : Checkout} {run : UpgradeRun}
    (ran : connectedUpgrade tools source target checkout snapshot run = .ok (later, document)) :
    ∃ record, Proven tools target later document record := by
  obtain ⟨install, _, rest⟩ := bind_ok_iff.mp ran
  obtain ⟨⟨⟩, _, rest⟩ := bind_ok_iff.mp rest
  obtain ⟨made, targetMade, rest⟩ := bind_ok_iff.mp rest
  obtain ⟨projected, projecting, rest⟩ := bind_ok_iff.mp rest
  cases rest
  obtain ⟨core, committed, rest⟩ := bind_ok_iff.mp projecting
  obtain ⟨record, recordMade, rest⟩ := bind_ok_iff.mp rest
  obtain ⟨verified, session, rest⟩ := bind_ok_iff.mp rest
  obtain ⟨⟨⟩, _, ended⟩ := bind_ok_iff.mp rest
  cases ended
  simp only [targetSnapshotResult, Function.update_self] at committed
  cases committed
  obtain ⟨entries, _, rest⟩ := bind_ok_iff.mp targetMade
  obtain ⟨⟨⟩, _, ended⟩ := bind_ok_iff.mp rest
  cases ended
  have built := builtFrom_of_buildRecord recordMade rfl
  have rebuilt := built.rebuilt rfl
  obtain ⟨loaded, loading, verifying⟩ := bind_ok_iff.mp session
  obtain ⟨⟨⟩, _, same⟩ := bind_ok_iff.mp loading
  cases same
  have shown := verifyRecord_eq_ok_iff.mp verifying
  exact ⟨record, rfl, built.validRecord, rebuilt, built.isTransaction,
    verifyRecord_eq_ok_iff.mpr ⟨shown.1, shown.2.1, by rw [built.entries]⟩⟩

theorem Proven.copyTo (proven : Proven tools framework checkout published record) (root : String)
    (repository : Option String) :
    Proven tools framework (checkout.copyTo root repository) published record :=
  ⟨proven.written, proven.validRecord, proven.rebuilt, proven.isTransaction, proven.verified⟩

/-- Work of the consumer elsewhere leaves the proof as it is. -/
theorem Proven.withFiles (proven : Proven tools framework checkout published record) (kept : ∀ rel, (rel = ConsumerUpgrade.profileRel ∨
      ∃ entry ∈ published.entries, entry.item.path = rel) → files rel = checkout.files rel)
    (pack : tools.loadProfile files = tools.loadProfile checkout.files) :
    Proven tools framework (checkout.withFiles files) published record := by
  have shown := verifyRecord_eq_ok_iff.mp proven.verified
  have entries : record.entries = published.entries := by
    rw [← proven.rebuilt]
    rfl
  refine ⟨proven.written, proven.validRecord, proven.rebuilt, proven.isTransaction,
    verifyRecord_eq_ok_iff.mpr ⟨shown.1, ?_, shown.2.2⟩⟩
  refine ⟨shown.2.1.head, shown.2.1.valid, shown.2.1.digest, ?_, ?_⟩
  · have profile := shown.2.1.profile
    rw [verifyProfile, ← pack, ← kept _ (.inl rfl)] at profile
    exact profile
  · intro entry listed
    have verified := shown.2.1.entries entry listed
    rw [verifyEntry, ← kept _ (.inr ⟨entry, entries ▸ listed, rfl⟩)] at verified
    exact verified

theorem proven_of_installed (installed : Installed tools framework checkout published) :
    ∃ record, Proven tools framework checkout published record := by
  induction installed with
  | adopted committed snapshot untouched built written =>
      exact ⟨_, proven_of_adopted committed snapshot untouched built written⟩
  | upgraded _ ran _ => exact proven_of_upgraded ran
  | carried _ root repository ih =>
      obtain ⟨record, proven⟩ := ih
      exact ⟨record, proven.copyTo root repository⟩
  | worked _ kept pack ih =>
      obtain ⟨record, proven⟩ := ih
      exact ⟨record, proven.withFiles kept pack⟩

/-! ## Copies -/

/-- The snapshot a session in the directory works with. -/
def reboundTo (tools : Tools) (published : Document) (root : String) : Document :=
  { published with consumerRootSha := some (tools.root root) }

theorem Proven.loaded (proven : Proven tools framework checkout published record) :
    loadRecord tools checkout = .ok record := by
  rw [loadRecord, proven.written]
  exact bind_ok_iff.mpr ⟨(), proven.validRecord, rfl⟩

/-- The result of a fresh session at the recorded revision. -/
def verifiedOf (published : Document) (record : Record) : Verified :=
  ⟨record.frameworkSha, record.frameworkTree, record.repository, published.entries.length⟩

theorem Proven.fresh (proven : Proven tools framework checkout published record) (same : ∀ repository ∈ given, record.repository = repository) :
    validateFreshSession tools framework checkout given = .ok (verifiedOf published record) := by
  refine bind_ok_iff.mpr ⟨record, proven.loaded, ?_⟩
  have shown := verifyRecord_eq_ok_iff.mp proven.verified
  exact verifyRecord_eq_ok_iff.mpr ⟨same, shown.2⟩

theorem Proven.freshFor (proven : Proven tools framework checkout published record) :
    validateFreshSession tools framework checkout (some record.repository) =
      .ok (verifiedOf published record) :=
  proven.fresh fun _ given => Option.some.inj given

/-- The repository of a session is the recorded one, given or detected. -/
def OfRepository (checkout : Checkout) (given : Option String) (record : Record) : Prop :=
  given = some record.repository ∨ given = none ∧ checkout.repository = some record.repository

theorem isRepository_of_valid (valid : validateRecordSchema tools record = .ok ()) :
    tools.isRepository record.repository = true :=
  (require_bind_eq_ok_iff.mp valid).1.2.2.2.2.1

theorem sessionRepository_of {undetected invalid : String}
    (proven : Proven tools framework checkout published record)
    (identity : OfRepository checkout given record) :
    sessionRepository tools checkout given undetected invalid = .ok record.repository := by
  rcases identity with rfl | ⟨rfl, detected⟩
  · exact if_pos (isRepository_of_valid proven.validRecord)
  · rw [sessionRepository, detected]

theorem Proven.rebinds (proven : Proven tools framework checkout published record) (identity : OfRepository checkout given record) :
    rebindSnapshotForFreshSession tools checkout framework given =
      .ok (reboundTo tools published checkout.root) := by
  refine bind_ok_iff.mpr ⟨record.repository, sessionRepository_of proven identity,
    bind_ok_iff.mpr ⟨_, proven.freshFor, bind_ok_iff.mpr ⟨record, proven.loaded, ?_⟩⟩⟩
  rw [proven.rebuilt]
  rfl

theorem Proven.trusts (proven : Proven tools framework checkout published record)
    (fresh : checkout.runtime = .none) (identity : OfRepository checkout given record) :
    trustedSourceSnapshot tools framework checkout (reboundTo tools published checkout.root)
      given = .ok () := by
  have shown := (verifyRecord_eq_ok_iff.mp proven.verified).2.1
  have valid := shown.valid
  rw [proven.rebuilt] at valid
  have transaction : published.transactionId = some record.transactionId := by
    rw [← proven.rebuilt]
    rfl
  refine bind_ok_iff.mpr ⟨(), mapError_eq_ok_iff.mpr valid, ?_⟩
  refine require_bind_eq_ok_iff.mpr ⟨rfl, ?_⟩
  refine require_bind_eq_ok_iff.mpr ⟨?_, ?_⟩
  · rw [show (reboundTo tools published checkout.root).transactionId = _ from transaction]
    exact length_of_isSha256 proven.isTransaction
  · rw [fresh]
    refine bind_ok_iff.mpr ⟨record.repository, sessionRepository_of proven identity,
      bind_ok_iff.mpr ⟨record, mapError_eq_ok_iff.mpr ?_, require_eq_ok_iff.mpr ?_⟩⟩
    · exact bind_ok_iff.mpr
        ⟨_, proven.freshFor, proven.loaded⟩
    · rw [proven.rebuilt]
      rfl

/-! ## Other bytes -/

/-- The computation raises. -/
def Refused {α : Type} (result : Except String α) : Prop :=
  ∃ error, result = .error error

theorem refused_of_forall_ne_ok {α : Type} {result : Except String α}
    (never : ∀ value, result ≠ .ok value) : Refused result := by
  cases result with
  | error text => exact ⟨text, rfl⟩
  | ok value => exact absurd rfl (never value)

/-- A file that the record is about, or the profile, has other bytes; no two contents of
one path at hand have the same digest. -/
structure Damaged (tools : Tools) (record : Record) (before after : Path → Node) : Prop where
  differs : ∃ rel, (rel = ConsumerUpgrade.profileRel ∨
    ∃ entry ∈ record.entries, entry.item.path = rel) ∧ (after rel).bytes ≠ (before rel).bytes
  apart : ∀ rel first second, (before rel).bytes = .ok first → (after rel).bytes = .ok second →
    tools.content first = tools.content second → first = second

theorem not_shown_of_damaged {before after : Path → Node}
    (shown : Shown tools framework before record) (damaged : Damaged tools record before after) :
    ¬Shown tools framework after record := by
  intro again
  obtain ⟨rel, listed, other⟩ := damaged.differs
  refine other ?_
  rcases listed with rfl | ⟨entry, mem, rfl⟩
  · obtain ⟨_, _, rest⟩ := bind_ok_iff.mp shown.profile
    obtain ⟨sha, found, rest⟩ := bind_ok_iff.mp rest
    obtain ⟨recorded, _⟩ := require_bind_eq_ok_iff.mp rest
    obtain ⟨first, bytes, digest⟩ := fileSha_eq_ok_iff.mp found
    obtain ⟨_, _, rest⟩ := bind_ok_iff.mp again.profile
    obtain ⟨shaAgain, foundAgain, rest⟩ := bind_ok_iff.mp rest
    obtain ⟨recordedAgain, _⟩ := require_bind_eq_ok_iff.mp rest
    obtain ⟨second, bytesAgain, digestAgain⟩ := fileSha_eq_ok_iff.mp foundAgain
    have same : first = second := damaged.apart _ first second bytes bytesAgain
      (by rw [digest, digestAgain, recorded, recordedAgain])
    rw [bytes, bytesAgain, same]
  · obtain ⟨inode, first, node, digest⟩ := verifyEntry_eq_ok_iff.mp (shown.entries entry mem)
    obtain ⟨inodeAgain, second, nodeAgain, digestAgain⟩ :=
      verifyEntry_eq_ok_iff.mp (again.entries entry mem)
    have same : first = second := damaged.apart _ first second (by rw [node]; rfl)
      (by rw [nodeAgain]; rfl) (Option.some.inj (digest.trans digestAgain.symm))
    rw [node, nodeAgain, same]
    rfl

theorem Proven.refuses (proven : Proven tools framework checkout published record) (damaged : Damaged tools record checkout.files files)
    (given : Option String) :
    Refused (validateFreshSession tools framework (checkout.withFiles files) given) := by
  refine refused_of_forall_ne_ok fun verified passed => ?_
  obtain ⟨loaded, loading, verifying⟩ := bind_ok_iff.mp passed
  have same : loadRecord tools (checkout.withFiles files) = .ok record := proven.loaded
  obtain rfl := Except.ok.inj (same.symm.trans loading)
  have shown := (verifyRecord_eq_ok_iff.mp proven.verified).2.1
  exact not_shown_of_damaged shown damaged (verifyRecord_eq_ok_iff.mp verifying).2.1

theorem refused_rebind
    (refuses : ∀ repository, Refused (validateFreshSession tools framework checkout repository)) :
    Refused (rebindSnapshotForFreshSession tools checkout framework given) := by
  refine refused_of_forall_ne_ok fun document rebound => ?_
  obtain ⟨repository, _, rest⟩ := bind_ok_iff.mp rebound
  obtain ⟨verified, passed, _⟩ := bind_ok_iff.mp rest
  obtain ⟨error, refused⟩ := refuses (some repository)
  cases refused.symm.trans passed

theorem refused_trust (fresh : checkout.runtime = .none)
    (refuses : ∀ repository, Refused (validateFreshSession tools framework checkout repository)) :
    Refused (trustedSourceSnapshot tools framework checkout snapshot given) := by
  refine refused_of_forall_ne_ok fun ⟨⟩ trusted => ?_
  obtain ⟨⟨⟩, _, rest⟩ := bind_ok_iff.mp trusted
  obtain ⟨_, rest⟩ := require_bind_eq_ok_iff.mp rest
  obtain ⟨_, rest⟩ := require_bind_eq_ok_iff.mp rest
  rw [fresh] at rest
  obtain ⟨repository, _, rest⟩ := bind_ok_iff.mp rest
  obtain ⟨installation, proved, _⟩ := bind_ok_iff.mp rest
  obtain ⟨verified, passed, _⟩ := bind_ok_iff.mp (mapError_eq_ok_iff.mp proved)
  obtain ⟨error, refused⟩ := refuses (some repository)
  cases refused.symm.trans passed

/-- In every copy the record proves the published snapshot, and in no copy with a damaged
file. -/
structure Travels (tools : Tools) (framework : Framework) (checkout : Checkout)
    (published : Document) (record : Record) : Prop where
  fresh (root : String) (repository given : Option String)
    (same : ∀ name ∈ given, record.repository = name) :
    validateFreshSession tools framework (checkout.copyTo root repository) given =
      .ok (verifiedOf published record)
  rebound (root : String) (repository given : Option String)
    (identity : OfRepository (checkout.copyTo root repository) given record) :
    rebindSnapshotForFreshSession tools (checkout.copyTo root repository) framework given =
      .ok (reboundTo tools published root)
  trusted (root : String) (repository given : Option String)
    (identity : OfRepository (checkout.copyTo root repository) given record) :
    trustedSourceSnapshot tools framework (checkout.copyTo root repository)
      (reboundTo tools published root) given = .ok ()
  refused (root : String) (repository given : Option String) (files : Path → Node)
    (damaged : Damaged tools record checkout.files files) (snapshot : Document) :
    let copy := (checkout.copyTo root repository).withFiles files
    Refused (validateFreshSession tools framework copy given) ∧
      Refused (rebindSnapshotForFreshSession tools copy framework given) ∧
        Refused (trustedSourceSnapshot tools framework copy snapshot given)

/-- The proof of an installation travels with the checkout, after every chain of upgrades. -/
theorem proof_travels (installed : Installed tools framework checkout published) :
    ∃ record, checkout.record = .written record ∧
      Travels tools framework checkout published record := by
  obtain ⟨record, proven⟩ := proven_of_installed installed
  refine ⟨record, proven.written, ?_, ?_, ?_, ?_⟩
  · intro root repository given same
    exact (proven.copyTo root repository).fresh same
  · intro root repository given identity
    exact (proven.copyTo root repository).rebinds identity
  · intro root repository given identity
    exact (proven.copyTo root repository).trusts rfl identity
  · intro root repository given files damaged snapshot
    have refuses := (proven.copyTo root repository).refuses damaged
    exact ⟨refuses given, refused_rebind refuses, refused_trust rfl refuses⟩

/-! ## An adopted consumer -/

/-- A hexadecimal text. -/
def marked (char : Char) (length : Nat) : String :=
  "".pushn char length

/-- Digests that tell the contents of the example apart. -/
def markedTools : Tools where
  content content := marked (if content = "framework" then 'f' else '0') 64
  document _ := marked 'd' 64
  root _ := marked 'e' 64
  record _ := marked '1' 64
  loadProfile _ := .ok ⟨"python-cli", marked '2' 64⟩
  isRepository text := text = "owner/product"

/-- A framework checkout with one file. -/
def oneFile : Framework where
  inventory :=
    { manifestSha := marked '3' 64
      files := [["adwf.py"]]
      sums := fun _ => marked 'f' 64
      shared := []
      defaultOwnership := .frameworkPrivate }
  contract :=
    { defaultUnlistedOwnership := .consumerOwned
      detachTransactionSchema := ".adwf/schemas/managed-surface-detach-transaction.schema.json"
      hasDetachSchema := true
      invariants := requiredInvariants }
  headSha := marked 'a' 40
  headTree := marked 'b' 40

/-- The plan that creates the file. -/
def createPlan : AdoptionPlan where
  status := .ready
  sourceRevision := marked 'a' 40
  sourceManifestSha := marked '3' 64
  entries := [⟨["adwf.py"], .frameworkPrivate, marked 'f' 64, .absent, none, .createPlanned⟩]
  blockers := []

/-- The consumer with the file and a profile. -/
def adoptedFiles (rel : Path) : Node :=
  if rel = ["adwf.py"] then .file 1 "framework"
  else if rel = ConsumerUpgrade.profileRel then .file 2 "profile"
  else .absent

/-- The snapshot of the adoption. -/
def adoptedSnapshot : Snapshot where
  sourceRevision := marked 'a' 40
  sourceManifestSha := marked '3' 64
  entries := [⟨["adwf.py"], .frameworkPrivate, marked 'f' 64, true, none⟩]
  transactionId := some (marked '4' 64)
  planSha := some (marked '5' 64)
  consumerRootSha := some (marked 'e' 64)

/-- The record of the adoption. -/
def adoptedRecord : Record where
  frameworkSha := marked 'a' 40
  frameworkTree := marked 'b' 40
  manifestSha := marked '3' 64
  repository := "owner/product"
  baseSha := none
  baseTree := none
  transactionId := marked '4' 64
  planSha := marked '5' 64
  snapshotSha := marked 'd' 64
  sourceRevision := marked 'a' 40
  sourceManifestSha := marked '3' 64
  consumerRootSha := marked 'e' 64
  entries := (adoptedDocument adoptedSnapshot).entries
  profileSha := marked '0' 64
  packId := "python-cli"
  packDigest := marked '2' 64
  recordSha := marked '1' 64

/-- The consumer with its record in place. -/
def adoptedConsumer : Checkout where
  root := "/consumer"
  repository := some "owner/product"
  files := adoptedFiles
  record := .written adoptedRecord
  runtime := .none

/-- The result of the adoption. -/
def adoptedResult : CommitResult where
  status := .committed
  snapshot := some (adoptedDocument adoptedSnapshot)
  transactionId := some (marked '4' 64)
  snapshotSha := some (marked 'd' 64)
  published := some (adoptedDocument adoptedSnapshot)

theorem toList_marked (char : Char) (length : Nat) :
    (marked char length).toList = List.replicate length char := by
  unfold marked
  rw [String.pushn_eq_repeat_push]
  induction length with
  | zero => rfl
  | succ length inductionHypothesis =>
      rw [Nat.repeat, String.toList_push, inductionHypothesis, List.replicate_succ']

theorem isSha256_marked {char : Char} (hex : isHex char = true) :
    isSha256 (marked char 64) = true := by
  unfold isSha256
  rw [toList_marked, List.length_replicate, List.all_replicate, hex]
  rfl

theorem isSha40_marked {char : Char} (hex : isHex char = true) :
    isSha40 (marked char 40) = true := by
  unfold isSha40
  rw [toList_marked, List.length_replicate, List.all_replicate, hex]
  rfl

theorem formed_adoptedRecord : adoptedRecord.Formed markedTools := by
  refine ⟨?_, ?_, ?_, by decide, by decide, by decide⟩
  · intro text listed
    have letters : text ∈ ['a', 'b', 'a'].map (marked · 40) := listed
    obtain ⟨char, mem, rfl⟩ := List.mem_map.mp letters
    have hex : ['a', 'b', 'a'].all isHex = true := rfl
    exact isSha40_marked (List.all_eq_true.mp hex char mem)
  · intro text listed
    have letters : text ∈ "345d3e021".toList.map (marked · 64) := listed
    obtain ⟨char, mem, rfl⟩ := List.mem_map.mp letters
    have hex : "345d3e021".toList.all isHex = true := rfl
    exact isSha256_marked (List.all_eq_true.mp hex char mem)
  · intro entry listed
    rw [List.mem_singleton.mp listed]
    exact ⟨isSha256_marked (by decide), fun sha isSome => by cases isSome⟩

theorem validateRecordSchema_adoptedRecord :
    validateRecordSchema markedTools adoptedRecord = .ok () :=
  bind_ok_iff.mpr ⟨(), (require_eq_ok_iff).mpr formed_adoptedRecord,
    bind_ok_iff.mpr ⟨(), rfl, bind_ok_iff.mpr ⟨(), by decide, by decide⟩⟩⟩

theorem installed_adoptedConsumer :
    Installed markedTools oneFile adoptedConsumer (adoptedDocument adoptedSnapshot) := by
  have planned : validatePlan oneFile createPlan = .ok () := by decide +kernel
  have checked : createPlan.entries.forM
      (checkAdopted markedTools adoptedFiles "ADOPTION_POSTCONDITION_FAILED:") = .ok () := by
    decide +kernel
  have snapshot : snapshotFromPlan oneFile.inventory createPlan
      ⟨some (marked '4' 64), some (marked '5' 64), some (marked 'e' 64)⟩ =
        .ok adoptedSnapshot := by
    decide +kernel
  have verified : verifyAdoption markedTools oneFile adoptedConsumer createPlan (marked '4' 64)
      ⟨.committed, marked 'a' 40, marked '3' 64, some (marked 'd' 64),
        some (adoptedDocument adoptedSnapshot)⟩ = .ok (adoptedDocument adoptedSnapshot) := by
    decide +kernel
  have committed : commitAdoption markedTools oneFile adoptedConsumer createPlan (marked '4' 64)
      (marked '5' 64) = .ok (_, adoptedResult) :=
    bind_ok_iff.mpr ⟨(), planned, bind_ok_iff.mpr ⟨(), checked, bind_ok_iff.mpr
      ⟨adoptedSnapshot, snapshot, bind_ok_iff.mpr ⟨_, verified, rfl⟩⟩⟩⟩
  have built : buildRecord markedTools oneFile adoptedConsumer adoptedResult "owner/product" none
      none = .ok adoptedRecord := by
    have transaction := @isSha256_marked '4' (by decide)
    have snapshotSha := @isSha256_marked 'd' (by decide)
    refine bind_ok_iff.mpr ⟨(), by decide, bind_ok_iff.mpr ⟨(), by decide,
      bind_ok_iff.mpr ⟨(), by decide, bind_ok_iff.mpr ⟨(), by decide, ?_⟩⟩⟩⟩
    refine bind_ok_iff.mpr ⟨(), ?_, bind_ok_iff.mpr ⟨(),
      require_eq_ok_iff.mpr ⟨transaction, rfl⟩, bind_ok_iff.mpr ⟨(), rfl,
      bind_ok_iff.mpr ⟨(), rfl, bind_ok_iff.mpr ⟨_, rfl, bind_ok_iff.mpr
      ⟨marked 'd' 64, ?_, bind_ok_iff.mpr ⟨_, rfl, bind_ok_iff.mpr ⟨_, rfl,
      bind_ok_iff.mpr ⟨_, rfl, bind_ok_iff.mpr ⟨(), ?_, rfl⟩⟩⟩⟩⟩⟩⟩⟩⟩⟩
    · decide +kernel
    · have kept : (some (marked 'd' 64)).filter isSha256 = some (marked 'd' 64) :=
        Option.filter_some_pos snapshotSha
      unfold CommitResult.fileDigest
      rw [show adoptedResult.snapshotSha = some (marked 'd' 64) from rfl, kept]
    · exact validateRecordSchema_adoptedRecord
  exact .adopted committed rfl (fun _ _ => rfl) built rfl

theorem proof_travels_adoptedConsumer : ∃ record, adoptedConsumer.record = .written record ∧
      Travels markedTools oneFile adoptedConsumer (adoptedDocument adoptedSnapshot) record :=
  proof_travels installed_adoptedConsumer

end Adwf.Installation
