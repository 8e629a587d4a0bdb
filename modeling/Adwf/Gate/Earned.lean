import Mathlib.Data.List.Dedup
import Adwf.Gate.Evaluate

/-!
# What a verdict rests on

The facts that the answers must show for a success to be earned, and that the
evaluation returns a success only with them.  Only the governance verdict does
not ask whether the pull request was found and still has the head.
-/

namespace Adwf.Gate

open Trust Fallible Program

/-! ## Exact SHAs -/

theorem toLower_of_isLowerHex {char : Char} (hex : Text.isLowerHex char = true) :
    char.toLower = char := by
  delta Char.toLower
  rw [dif_neg]
  rintro ⟨low, high⟩
  simp only [Text.isLowerHex, Bool.or_eq_true, Bool.and_eq_true, decide_eq_true_eq, Char.le_def,
    ge_iff_le, UInt32.le_iff_toNat_le] at hex low high
  simp only [Char.reduceVal, UInt32.reduceToNat] at hex low high
  omega

theorem exactSha_of_isSha40 {sha code : String} (exact : Text.isSha40 sha = true) :
    exactSha (some sha) code = .ok sha := by
  have lower : sha.toLower = sha := by
    apply String.toList_injective
    delta String.toLower
    rw [String.toList_map]
    conv_rhs => rw [← List.map_id sha.toList]
    apply List.map_congr_left
    intro char inside
    simp only [Text.isSha40, Text.fullmatch, Bool.and_eq_true, List.all_eq_true] at exact
    exact toLower_of_isLowerHex (exact.2 char inside)
  rw [exactSha, Option.getD_some, lower, demand, require_bind_of exact]
  rfl

theorem isSha40_of_exactSha {value : Option String} {code sha : String}
    (read : exactSha value code = .ok sha) : Text.isSha40 sha = true := by
  simp only [exactSha, demand, bind_ok_iff, require_eq_ok_iff] at read
  obtain ⟨_, valid, ⟨⟩⟩ := read
  exact valid

/-! ## The facts -/

section Facts

variable (saw : Event → Prop) (tools : Tools)

/-- The text of a file at a commit. -/
def ReadsText (path sha text : String) : Prop :=
  ∃ normalized payload, normalizeRepoPath path = .ok normalized ∧
    saw ⟨.content normalized sha, .ok payload⟩ ∧ blobText tools payload = .ok text

def ReadsNode (node : CommitNode) : Prop :=
  ∃ payload, saw ⟨.commit node.sha, .ok payload⟩ ∧ commitNode node.sha payload = .ok node

def ReadsFiles (treeSha : String) (files : Files) : Prop :=
  ∃ payload, saw ⟨.tree treeSha, .ok payload⟩ ∧ treeFiles treeSha payload = .ok files

/-- The files of a commit. -/
def ReadsCommitFiles (sha : String) (files : Files) : Prop :=
  ∃ node, node.sha = sha ∧ ReadsNode saw node ∧ ReadsFiles saw node.treeSha files

/-- The two trees are those of the commits. -/
structure TreesRead (baseSha headSha : String) (trees : Trees) : Prop where
  baseSha_eq : trees.baseSha = baseSha
  headSha_eq : trees.headSha = headSha
  base : ReadsCommitFiles saw baseSha trees.base
  head : ReadsCommitFiles saw headSha trees.head

/-- A record of a path that differs, with its texts where the path is sensitive. -/
structure RecordRead (trees : Trees) (patterns : List Json) (record : RawRecord) : Prop where
  status : record.status = trees.statusOf record.path
  oldPath : record.oldPath = none
  texts : ∃ sensitive, isTrustSensitivePath tools record.path patterns = .ok sensitive ∧
    (sensitive = true → record.status ≠ "A" →
      ∃ text, record.oldText = some text ∧ ReadsText saw tools record.path trees.baseSha text) ∧
    (sensitive = true → record.status ≠ "D" →
      ∃ text, record.newText = some text ∧ ReadsText saw tools record.path trees.headSha text)

/-- The records are the complete difference between the trees of two commits. -/
structure CompleteDiff (baseSha headSha : String) (patterns : List Json)
    (records : List RawRecord) (trees : Trees) : Prop where
  commits : TreesRead saw baseSha headSha trees
  complete : ∀ path, trees.base.lookup path ≠ trees.head.lookup path ↔
    ∃ record ∈ records, record.path = path
  read : ∀ record ∈ records, RecordRead saw tools trees patterns record

/-- The policy of a commit. -/
def ReadsPolicy (baseSha : String) (policy : Fields) (patterns : List Json) : Prop :=
  ∃ text value, ReadsText saw tools trustBoundaryPath baseSha text ∧ tools.loads text = .ok value ∧
    basePolicy value = .ok (policy, patterns)

/-- The classification is that of the pull request under the policy of its base. -/
structure Classifies (pr : Pull) (classified : Classified) : Prop where
  base : exactSha pr.baseSha "PR_BASE_SHA_INVALID" = .ok classified.baseSha
  head : exactSha pr.headSha "PR_HEAD_SHA_INVALID" = .ok classified.headSha
  diff : ∃ policy patterns records trees, ReadsPolicy saw tools classified.baseSha policy patterns ∧
    CompleteDiff saw tools classified.baseSha classified.headSha patterns records trees ∧
    classifyDiff tools.rt tools.texts (records.map .record) policy =
      .ok classified.classification
  current : ∃ current, saw ⟨.ref (pr.baseRef.getD ""), .ok current⟩ ∧
    exactSha current "CURRENT_BASE_SHA_INVALID" = .ok classified.currentBaseSha

/-- An administrator. -/
def ReadsAdmin (login : String) : Prop :=
  ∃ permission, saw ⟨.permission login, .ok permission⟩ ∧ (permission.getD "").toLower = "admin"

/-- Another administrator has approved exactly this SHA. -/
def ApprovedByAdmin (number : Int) (pr : Pull) (sha : String) : Prop :=
  ∃ reviews, saw ⟨.pullReviews number, .ok reviews⟩ ∧ ∃ review ∈ reviews,
    (review.state.getD "").toUpper = "APPROVED" ∧ review.commitId.getD "" = sha ∧
    review.login.getD "" ≠ "" ∧ review.login.getD "" ≠ pr.author.getD "" ∧
    ReadsAdmin saw (review.login.getD "")

/-- The author is an administrator and has attested exactly this SHA. -/
def AttestedByOwner (pr : Pull) (sha : String) : Prop :=
  pr.author.getD "" ≠ "" ∧ tools.ownerAttestations (pr.body.getD "") = [sha] ∧
    ReadsAdmin saw (pr.author.getD "")

/-- The change touches nothing protected, or is authorized on the current base. -/
structure Authorized (number : Int) (pr : Pull) (sha : String) (classified : Classified) :
    Prop where
  notBlocked : classified.classification.result ≠ .block
  authority : protectedFiles classified.classification = [] ∨
    (classified.currentBaseSha = classified.baseSha ∧
      (classified.classification.details.map ClassificationDetails.authorizationMode =
          some .standingOwnerPolicy ∨
        ApprovedByAdmin saw number pr sha ∨ AttestedByOwner saw tools pr sha))

/-- The classification of the pull request as it was read, and its authorization. -/
structure GovernanceOf (number : Int) (pr : Pull) (sha : String) (classified : Classified) :
    Prop where
  read : saw ⟨.pull number, .ok pr⟩
  classifies : Classifies saw tools pr classified
  authorized : Authorized saw tools number pr sha classified

/-- The evidence that the changed files ask for is certified. -/
def EvidenceVerified (sha baseSha : String) (changedPaths : List String) : Prop :=
  (∃ names, changedPaths.mapM normalizeRepoPath = .ok names ∧
    names.any guardedFiles.contains = false) ∨
  ∃ registryText registry traceText trace schemaText schema certificates,
    ReadsText saw tools ".adwf/capability-live-evidence.json" sha registryText ∧
    tools.loads registryText = .ok registry ∧
    ReadsText saw tools ".adwf/capability-traceability.json" sha traceText ∧
    tools.loads traceText = .ok trace ∧
    ReadsText saw tools ".adwf/schemas/capability-live-evidence-certification.schema.json"
      baseSha schemaText ∧
    tools.loads schemaText = .ok schema ∧
    tools.certificationErrors registry trace schema = .ok [] ∧
    tools.certifications registry = .ok certificates ∧
    ∀ certificate ∈ certificates, ∃ result,
      saw ⟨.certification certificate, .ok result⟩ ∧ result.verified = true

/-- What a green governance gate on a SHA claims. -/
def GovernanceEarned (sha : String) : Prop :=
  ∃ number pr classified, pr.headSha = some sha ∧ classified.headSha = sha ∧
    GovernanceOf saw tools number pr sha classified

/-- What a green trusted gate on a SHA claims. -/
def GateEarned (sha : String) : Prop :=
  ∃ number pr classified, pr.headSha = some sha ∧ classified.headSha = sha ∧
    GovernanceOf saw tools number pr sha classified ∧
    EvidenceVerified saw tools sha classified.baseSha classified.classification.changedFiles ∧
    (∃ runId live, saw ⟨.run runId, .ok live⟩ ∧ runReasons live sha = []) ∧
    ∃ checks, saw ⟨.checkRuns sha, .ok checks⟩ ∧ checks.any (attestsFastFeedback sha) = true

end Facts

/-! ## Reading commits, trees and texts -/

section Reading

variable {saw : Event → Prop} {tools : Tools}

theorem learns_request (call : Call) :
    Learns saw (request call) fun value => saw ⟨call, .ok value⟩ := by
  apply Learns.ask
  intro answer seen
  cases answer with
  | ok value => exact Learns.done seen
  | error error => exact Learns.fail

theorem learns_ofExcept {α : Type} (result : Except Raised α) :
    Learns saw (.ofExcept result : GateM α) fun value => result = .ok value :=
  Learns.ofExcept fun _ ran => ran

theorem asValueError_eq_ok_iff {α : Type} {result : Except String α} {value : α} :
    asValueError result = .ok value ↔ result = .ok value := by
  cases result <;> simp [asValueError, Except.mapError]

variable {path sha : String} {cache : Cache}

theorem learns_githubBlob (exact : Text.isSha40 sha = true) :
    Learns saw (githubBlob tools path sha) (ReadsText saw tools path sha) := by
  unfold githubBlob
  rw [exactSha_of_isSha40 exact]
  refine Learns.bind (learns_ofExcept _) fun normalized normalizes => ?_
  refine Learns.bind (learns_ofExcept _) fun same isSame => ?_
  cases isSame
  refine Learns.bind (learns_request _) fun payload seen => ?_
  exact Learns.ofExcept fun text read =>
    ⟨normalized, payload, asValueError_eq_ok_iff.mp normalizes, seen, read⟩

theorem commitNode_eq_ok {payload : Commit} {node : CommitNode}
    (read : commitNode sha payload = .ok node) :
    node.sha = sha ∧ Text.isSha40 node.treeSha = true := by
  simp only [commitNode, bind_ok_iff] at read
  obtain ⟨_, _, _, _, treeSha, treeRead, rest⟩ := read
  cases parents : payload.parents with
  | none =>
      rw [parents] at rest
      cases rest
  | some others =>
      rw [parents] at rest
      obtain ⟨parentShas, _, ⟨⟩⟩ := bind_ok_iff.mp rest
      exact ⟨rfl, isSha40_of_exactSha treeRead⟩

/-- Every cached commit was read. -/
def CacheRead (saw : Event → Prop) (cache : Cache) : Prop :=
  ∀ node ∈ cache, ReadsNode saw node

theorem learns_providerCommitNode (cached : CacheRead saw cache) :
    Learns saw (providerCommitNode sha cache) fun read =>
      exactSha (some sha) "GIT_COMMIT_SHA_INVALID" = .ok read.1.sha ∧ ReadsNode saw read.1 ∧
        CacheRead saw read.2 := by
  refine Learns.bind (learns_ofExcept _) fun commitSha exact => ?_
  split
  · rename_i node found
    have named : node.sha = commitSha := by simpa using List.find?_some found
    have inside := List.mem_of_find?_eq_some found
    exact Learns.done ⟨named ▸ exact, cached node inside, cached⟩
  · refine Learns.bind (learns_request _) fun payload seen => ?_
    refine Learns.bind (learns_ofExcept _) fun node read => ?_
    have named := (commitNode_eq_ok read).1
    have readsNode : ReadsNode saw node := ⟨payload, named ▸ seen, named ▸ read⟩
    refine Learns.done ⟨named ▸ exact, readsNode, ?_⟩
    intro other inside
    rcases List.mem_cons.mp inside with rfl | earlier
    · exact readsNode
    · exact cached other earlier

theorem learns_proveAncestor {base : String} {room : Nat} {pending seen : List String} (cached : CacheRead saw cache) :
    Learns saw (proveAncestor base room pending seen cache) (CacheRead saw) := by
  induction room generalizing pending seen cache with
  | zero =>
      unfold proveAncestor
      split
      · exact Learns.fail
      · split_ifs
        · exact Learns.bind (learns_providerCommitNode cached) fun read reads =>
            Learns.done reads.2.2
        · exact Learns.fail
  | succ room ih =>
      unfold proveAncestor
      split
      · exact Learns.fail
      · split_ifs
        · exact Learns.bind (learns_providerCommitNode cached) fun read reads =>
            Learns.done reads.2.2
        · exact Learns.bind (learns_providerCommitNode cached) fun read reads => ih reads.2.2

theorem learns_providerTreeFiles {treeSha : String} (exact : Text.isSha40 treeSha = true) :
    Learns saw (providerTreeFiles treeSha) (ReadsFiles saw treeSha) := by
  unfold providerTreeFiles
  rw [exactSha_of_isSha40 exact]
  refine Learns.bind (learns_ofExcept _) fun same isSame => ?_
  cases isSame
  refine Learns.bind (learns_request _) fun payload seen => ?_
  exact Learns.ofExcept fun files read => ⟨payload, seen, read⟩

theorem learns_commitFiles {α : Type} {shows : α → Prop}
    {next : CommitNode × Cache → Files → GateM α} (exact : Text.isSha40 sha = true)
    (cached : CacheRead saw cache)
    (goesOn : ∀ read files, CacheRead saw read.2 → ReadsCommitFiles saw sha files →
      Learns saw (next read files) shows) :
    Learns saw (do
      let node ← providerCommitNode sha cache
      let files ← providerTreeFiles node.1.treeSha
      next node files) shows := by
  refine Learns.bind (learns_providerCommitNode cached) ?_
  rintro read ⟨named, reads, stillCached⟩
  rw [exactSha_of_isSha40 exact] at named
  have same : read.1.sha = sha := (Except.ok.inj named).symm
  obtain ⟨payload, _, nodeRead⟩ := id reads
  refine Learns.bind (learns_providerTreeFiles (commitNode_eq_ok nodeRead).2) fun files filesRead => ?_
  exact goesOn read files stillCached ⟨read.1, same, reads, filesRead⟩

theorem learns_providerTrees {baseSha headSha : String} (baseExact : Text.isSha40 baseSha = true)
    (headExact : Text.isSha40 headSha = true) :
    Learns saw (providerTrees baseSha headSha) (TreesRead saw baseSha headSha) := by
  refine Learns.bind (learns_proveAncestor fun node inside => by cases inside) fun cache cached => ?_
  refine learns_commitFiles baseExact cached fun baseNode base stillCached baseRead => ?_
  refine learns_commitFiles headExact stillCached fun headNode head _ headRead => ?_
  exact Learns.done ⟨rfl, rfl, baseRead, headRead⟩

theorem learns_textIf {needed : Bool} (exact : Text.isSha40 sha = true) :
    Learns saw (textIf tools needed path sha) fun read =>
      needed = true → ∃ text, read = some text ∧ ReadsText saw tools path sha text := by
  unfold textIf
  split_ifs with isNeeded
  · exact Learns.bind (learns_githubBlob exact) fun text read => Learns.done fun _ => ⟨text, rfl, read⟩
  · exact Learns.done fun needs => absurd needs isNeeded

variable {trees : Trees} {patterns : List Json}

theorem learns_diffRecord (baseExact : Text.isSha40 trees.baseSha = true)
    (headExact : Text.isSha40 trees.headSha = true) :
    Learns saw (diffRecord tools trees patterns path) fun record =>
      record.path = path ∧ RecordRead saw tools trees patterns record := by
  refine Learns.bind (learns_ofExcept _) fun sensitive inspected => ?_
  refine Learns.bind (learns_textIf baseExact) fun oldText oldRead => ?_
  refine Learns.bind (learns_textIf headExact) fun newText newRead => ?_
  refine Learns.done ⟨rfl, rfl, rfl, sensitive, asValueError_eq_ok_iff.mp inspected, ?_, ?_⟩
  · intro isSensitive status
    exact oldRead (by rw [isSensitive, Bool.true_and]; exact decide_eq_true status)
  · intro isSensitive status
    exact newRead (by rw [isSensitive, Bool.true_and]; exact decide_eq_true status)

/-- The loop adds a record for each path that differs, in their order. -/
theorem learns_collectRecords {paths : List String} {records : List RawRecord}
    (baseExact : Text.isSha40 trees.baseSha = true) (headExact : Text.isSha40 trees.headSha = true)
    (earlier : ∀ record ∈ records, RecordRead saw tools trees patterns record) :
    Learns saw (collectRecords tools trees patterns records paths) fun result =>
      (∀ record ∈ result, RecordRead saw tools trees patterns record) ∧
        result.map RawRecord.path = records.map RawRecord.path ++
          paths.filter fun path => trees.base.lookup path ≠ trees.head.lookup path := by
  induction paths generalizing records with
  | nil => exact Learns.done ⟨earlier, by simp⟩
  | cons path paths ih =>
      unfold collectRecords
      split_ifs with same
      · refine (ih earlier).mono fun result found => ⟨found.1, ?_⟩
        rw [found.2, List.filter_cons_of_neg (by simpa using same)]
      · refine Learns.bind (learns_diffRecord baseExact headExact) ?_
        rintro record ⟨named, read⟩
        refine Learns.check fun _ => ?_
        refine (ih ?_).mono fun result found => ⟨found.1, ?_⟩
        · intro other inside
          rcases List.mem_append.mp inside with before | last
          · exact earlier other before
          · rw [List.mem_singleton.mp last]
            exact read
        · rw [found.2, List.filter_cons_of_pos (by simpa using same), List.map_append]
          simp [named]

theorem mem_keys_of_lookup {files : Files} (found : files.lookup path ≠ none) :
    path ∈ files.map Prod.fst := by
  induction files with
  | nil => exact absurd rfl found
  | cons file files ih =>
      obtain ⟨name, entry⟩ := file
      rw [List.lookup_cons] at found
      by_cases same : path = name
      · rw [same]
        exact List.mem_cons_self
      · rw [beq_eq_false_iff_ne.mpr same] at found
        exact List.mem_cons_of_mem _ (ih found)

theorem learns_providerDiffRecords {baseSha headSha : String}
    (baseExact : Text.isSha40 baseSha = true) (headExact : Text.isSha40 headSha = true) :
    Learns saw (providerDiffRecords tools baseSha headSha patterns) fun records =>
      ∃ trees, CompleteDiff saw tools baseSha headSha patterns records trees := by
  refine Learns.bind (learns_providerTrees baseExact headExact) fun trees commits => ?_
  refine Learns.bind (learns_collectRecords (commits.baseSha_eq ▸ baseExact)
    (commits.headSha_eq ▸ headExact) (by simp)) ?_
  rintro records ⟨read, named⟩
  refine Learns.check fun _ => Learns.done ⟨trees, commits, fun path => ?_, read⟩
  rw [List.map_nil, List.nil_append] at named
  have listed : path ∈ records.map RawRecord.path ↔
      path ∈ sortedSet (trees.base.map Prod.fst ++ trees.head.map Prod.fst) ∧
        trees.base.lookup path ≠ trees.head.lookup path := by
    rw [named, List.mem_filter, decide_eq_true_eq]
  rw [← List.mem_map, listed, mem_sortedSet, List.mem_append]
  constructor
  · intro differs
    refine ⟨?_, differs⟩
    by_cases old : trees.base.lookup path = none
    · exact .inr (mem_keys_of_lookup fun none => differs (old.trans none.symm))
    · exact .inl (mem_keys_of_lookup old)
  · exact fun differs => differs.2

theorem learns_providerTrustClassification (pr : Pull) :
    Learns saw (providerTrustClassification tools pr) (Classifies saw tools pr) := by
  refine Learns.check fun _ => ?_
  refine Learns.bind (learns_ofExcept _) fun baseSha base => ?_
  refine Learns.bind (learns_ofExcept _) fun headSha head => ?_
  refine Learns.check fun _ => ?_
  have baseExact := isSha40_of_exactSha base
  have headExact := isSha40_of_exactSha head
  refine Learns.bind (learns_githubBlob baseExact) fun text textRead => ?_
  refine Learns.bind (learns_ofExcept _) fun value loaded => ?_
  refine Learns.bind (learns_ofExcept _) fun policy policyRead => ?_
  refine Learns.bind (learns_providerDiffRecords baseExact headExact) ?_
  rintro records ⟨trees, diff⟩
  refine Learns.bind (learns_ofExcept _) fun classification classified => ?_
  refine Learns.bind (learns_request _) fun current seen => ?_
  refine Learns.bind (learns_ofExcept _) fun currentBaseSha currentRead => ?_
  have classifiedOk : classifyDiff tools.rt tools.texts (records.map .record) policy.1 =
      .ok classification := by
    cases found : classifyDiff tools.rt tools.texts (records.map .record) policy.1 with
    | ok result =>
        rw [found] at classified
        cases classified
        rfl
    | error error =>
        rw [found] at classified
        cases classified
  exact Learns.done ⟨base, head, ⟨policy.1, policy.2, records, trees,
    ⟨text, value, textRead, loaded, policyRead⟩, diff, classifiedOk⟩, current, seen, currentRead⟩

theorem learns_tryClassification (pr : Pull) : Learns saw (tryClassification tools pr) fun read =>
      ∀ classified, read = some classified → Classifies saw tools pr classified := by
  refine Learns.handle ?_ fun error => ?_
  · refine Learns.bind (learns_providerTrustClassification pr) fun classified classifies => ?_
    refine Learns.done fun other same => ?_
    cases same
    exact classifies
  · split_ifs
    · exact Learns.done fun classified same => by cases same
    · exact Learns.fail

end Reading

/-! ## Authorization -/

section Authorization

variable {saw : Event → Prop} {tools : Tools}

theorem learns_isAdmin (login : String) :
    Learns saw (isAdmin login) fun admin => admin = true → ReadsAdmin saw login := by
  refine Learns.handle ?_ fun _ => Learns.done fun admin => by cases admin
  refine Learns.bind (learns_request _) fun permission seen => ?_
  exact Learns.done fun admin => ⟨permission, seen, of_decide_eq_true admin⟩

/-- The review is an approval of the SHA by an administrator other than the author. -/
structure Approves (saw : Event → Prop) (sha author : String) (review : Review) : Prop where
  approved : (review.state.getD "").toUpper = "APPROVED"
  commit : review.commitId.getD "" = sha
  named : review.login.getD "" ≠ ""
  other : review.login.getD "" ≠ author
  admin : ReadsAdmin saw (review.login.getD "")

variable {sha : String}

theorem learns_adminApproval {author : String} {found : Bool} {reviews : List Review} :
    Learns saw (adminApproval sha author found reviews) fun approved =>
      approved = true → found = true ∨ ∃ review ∈ reviews, Approves saw sha author review := by
  induction reviews generalizing found with
  | nil => exact Learns.done fun approved => .inl approved
  | cons review reviews ih =>
      have later {approved : Bool} (holds : approved = true → found = true ∨
          ∃ review ∈ reviews, Approves saw sha author review) (isApproved : approved = true) :
          found = true ∨ ∃ other ∈ review :: reviews, Approves saw sha author other := by
        rcases holds isApproved with before | ⟨other, inside, approves⟩
        · exact .inl before
        · exact .inr ⟨other, List.mem_cons_of_mem _ inside, approves⟩
      simp only [adminApproval]
      split_ifs with skipped
      · exact ih.mono fun approved holds => later holds
      · simp only [not_or, not_not] at skipped
        obtain ⟨approved, commit, named, other⟩ := skipped
        refine Learns.bind (learns_isAdmin _) fun admin isAdmin => ?_
        refine ih.mono fun result holds isApproved => ?_
        rcases holds isApproved with before | ⟨later, inside, approves⟩
        · rcases Bool.or_eq_true_iff.mp before with earlier | now
          · exact .inl earlier
          · exact .inr ⟨review, List.mem_cons_self, approved, commit, named, other, isAdmin now⟩
        · exact .inr ⟨later, List.mem_cons_of_mem _ inside, approves⟩

theorem learns_ownerAttestation {pr : Pull} :
    Learns saw (ownerAttestation tools pr sha) fun attested =>
      attested = true → AttestedByOwner saw tools pr sha := by
  unfold ownerAttestation
  split_ifs with anonymous other
  · exact Learns.done fun attested => by cases attested
  · exact Learns.done fun attested => by cases attested
  · exact (learns_isAdmin _).mono fun attested admin isAttested =>
      ⟨anonymous, not_not.mp other, admin isAttested⟩

theorem learns_governanceAuthorization {number : Int} {pr : Pull} :
    Learns saw (governanceAuthorization tools number pr sha) fun mode =>
      mode ≠ none → ApprovedByAdmin saw number pr sha ∨ AttestedByOwner saw tools pr sha := by
  refine Learns.bind (learns_request _) fun reviews seen => ?_
  refine Learns.bind learns_adminApproval fun approved holds => ?_
  split_ifs with isApproved
  · refine Learns.done fun _ => .inl ?_
    rcases holds isApproved with before | ⟨review, inside, approves⟩
    · cases before
    · exact ⟨reviews, seen, review, inside, approves.approved, approves.commit, approves.named,
        approves.other, approves.admin⟩
  · refine Learns.bind learns_ownerAttestation fun attested isAttested => Learns.done fun given => ?_
    cases attested with
    | true => exact .inr (isAttested rfl)
    | false => exact absurd rfl given

theorem mode_of_classifyDiff {items : List DiffItem} {policy : Fields}
    {classification : Classification}
    (classified : classifyDiff tools.rt tools.texts items policy = .ok classification)
    (notBlocked : classification.result ≠ .block) (touches : protectedFiles classification ≠ []) :
    classification.details.map ClassificationDetails.authorizationMode = some .standingOwnerPolicy ∨
      classification.details.map ClassificationDetails.humanRequired = some true := by
  obtain ⟨records, _, rest⟩ := bind_ok_iff.mp classified
  cases patterns : basePatterns tools.rt policy with
  | none =>
      rw [patterns] at rest
      cases rest
      exact absurd rfl notBlocked
  | some globs =>
      simp only [patterns] at rest
      split_ifs at rest with empty
      · cases rest
        exact absurd rfl notBlocked
      · obtain ⟨inspected, _, rest⟩ := bind_ok_iff.mp rest
        obtain ⟨standing, _, ⟨⟩⟩ := bind_ok_iff.mp rest
        have paths : protectedPaths inspected ≠ [] := by
          intro none
          apply touches
          simp [protectedFiles, Trust.classification, none, sortedSet]
        rw [classification_result] at notBlocked
        by_cases standingHolds : standingAuto standing inspected = true
        · have result : resultOf policy standing inspected = .allow := by
            unfold resultOf at notBlocked ⊢
            dsimp only at notBlocked ⊢
            split_ifs at notBlocked ⊢ with blocked
            · exact absurd rfl notBlocked
            · rfl
            · rename_i neither
              exact absurd ⟨paths, standingHolds⟩ neither
          exact .inl (by simp [Trust.classification, result, standingHolds])
        · have result : resultOf policy standing inspected = .humanRequired := by
            unfold resultOf at notBlocked ⊢
            dsimp only at notBlocked ⊢
            split_ifs at notBlocked ⊢ with blocked both
            · exact absurd rfl notBlocked
            · exact absurd both.2 standingHolds
            · rfl
          exact .inr (by simp [Trust.classification, result])

end Authorization

end Adwf.Gate
