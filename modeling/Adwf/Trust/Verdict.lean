import Adwf.Trust.Classify

/-!
# What the result of a classification depends on

The result of `classify_diff` in terms of the records of the diff: which of
them touch a protected path, and what the content of these shows.
-/

namespace Adwf.Trust

open Fallible

section Records

variable (rt : Runtime) (tools : TextTools) (patterns : List String)

/-- The record touches a protected path. -/
def Sensitive (record : ChangeRecord) : Prop :=
  touchesProtected patterns record = .ok true

/-- The record is one of a feature. -/
def Ordinary (record : ChangeRecord) : Prop :=
  touchesProtected patterns record = .ok false

/-- The record touches a protected path and is no generated projection. -/
def Authoritative (record : ChangeRecord) : Prop :=
  Sensitive patterns record ∧ record.path ∉ generatedTrustProjections

/-- What `detect_gate_weakening` finds in the record. -/
def ChangeRecord.detected (record : ChangeRecord) : Except String (List String) :=
  detectGateWeakening rt tools record.path record.oldText record.newText record.status

/-- An authoritative protected file next to a feature file. -/
def Mixed (records : List ChangeRecord) : Prop :=
  (∃ record ∈ records, Authoritative patterns record) ∧
    ∃ record ∈ records, Ordinary patterns record

/-- The standing authorization speaks for every protected file of the diff. -/
structure StandingCovers (standing : StandingPolicy) (records : List ChangeRecord) : Prop where
  active : standing.status = .active
  intact : ∀ record ∈ records, Sensitive patterns record → record.detected rt tools = .ok []
  unreserved : ∀ record ∈ records, Sensitive patterns record →
    ∀ pattern ∈ standing.manualRequiredPaths, patternMatches record.path pattern = false
  verified : ∀ record ∈ records,
    (∃ other ∈ records, Sensitive patterns other ∧ other.path = record.path) →
      record.isVerified = true

end Records

/-- The base policy is no reason to block a diff without protected files. -/
structure PolicyAccepted (policy : Fields) (standing : StandingPolicy) : Prop where
  forbidden : Json.get policy "self_modification_in_feature_pr" = .str "FORBIDDEN"
  standing : standing.present = true → standing.valid = true

/-- The base policy asks for a human and for the risk R4. -/
structure PolicyGates (policy : Fields) : Prop where
  human : Json.get policy "weakening_requires_human" = .bool true
  risk : Json.get policy "weakening_is_risk" = .str "R4"

@[simp]
theorem mem_reasonIf_iff {condition : Prop} [Decidable condition] {reason other : String} :
    other ∈ reasonIf condition reason ↔ condition ∧ other = reason := by
  unfold reasonIf
  split_ifs with holds
  · simp [holds]
  · simp [holds]

theorem standing_of_active {rt : Runtime} {policy : Fields} {standing : StandingPolicy}
    (read : standingAuthorizationPolicyMetadata rt policy = .ok standing)
    (active : standing.status = .active) : standing.present = true ∧ standing.valid = true := by
  unfold standingAuthorizationPolicyMetadata at read
  split at read
  · cases read
    cases active
  · rcases bind_ok_iff.mp read with ⟨valid, _, ⟨⟩⟩
    cases valid with
    | true => exact ⟨rfl, rfl⟩
    | false => cases active
  · cases read
    cases active

/-! ## The lists of a survey -/

section Survey

variable {rt : Runtime} {tools : TextTools} {patterns : List String}
variable {records : List ChangeRecord} {inspected : List Inspected}

variable {record : ChangeRecord} {item : Inspected} {changedFiles : List DiffItem}

theorem inspect_eq_ok_iff : inspect rt tools patterns record = .ok item ↔
      (Ordinary patterns record ∧ item = ⟨record, false, []⟩) ∨
      (Sensitive patterns record ∧ ∃ detected, record.detected rt tools = .ok detected ∧
        item = ⟨record, true, detected⟩) := by
  simp only [inspect, bind_ok_iff, Ordinary, Sensitive, ChangeRecord.detected]
  constructor
  · rintro ⟨touched, touches, rest⟩
    cases touched with
    | false =>
        cases rest
        exact Or.inl ⟨touches, rfl⟩
    | true =>
        rw [if_pos rfl] at rest
        rcases bind_ok_iff.mp rest with ⟨detected, found, ⟨⟩⟩
        exact Or.inr ⟨touches, detected, found, rfl⟩
  · rintro (⟨touches, rfl⟩ | ⟨touches, detected, found, rfl⟩)
    · exact ⟨false, touches, rfl⟩
    · exact ⟨true, touches, bind_ok_iff.mpr ⟨detected, found, rfl⟩⟩

theorem touches_of_inspect (found : inspect rt tools patterns record = .ok item) :
    ∃ touched, touchesProtected patterns record = .ok touched := by
  rcases inspect_eq_ok_iff.mp found with ⟨ordinary, _⟩ | ⟨sensitive, _⟩
  · exact ⟨false, ordinary⟩
  · exact ⟨true, sensitive⟩

theorem exists_inspect_of_touches {touched : Bool}
    (touches : touchesProtected patterns record = .ok touched)
    (detects : ∃ reasons, record.detected rt tools = .ok reasons) :
    ∃ item, inspect rt tools patterns record = .ok item := by
  cases touched with
  | false => exact ⟨_, inspect_eq_ok_iff.mpr (Or.inl ⟨touches, rfl⟩)⟩
  | true =>
      rcases detects with ⟨reasons, detected⟩
      exact ⟨_, inspect_eq_ok_iff.mpr (Or.inr ⟨touches, reasons, detected, rfl⟩)⟩

theorem not_ordinary_of_sensitive (sensitive : Sensitive patterns record) :
    ¬Ordinary patterns record := by
  intro ordinary
  rw [Sensitive, ordinary] at sensitive
  cases sensitive

theorem ordinary_iff_of_surveyed
    (surveyed : records.mapM (inspect rt tools patterns) = .ok inspected) (inside : record ∈ records) :
    Ordinary patterns record ↔ ¬Sensitive patterns record := by
  constructor
  · intro ordinary sensitive
    exact not_ordinary_of_sensitive sensitive ordinary
  · intro ordinary
    rcases exists_of_mem_of_mapM surveyed inside with ⟨item, _, found⟩
    rcases inspect_eq_ok_iff.mp found with ⟨holds, _⟩ | ⟨sensitive, _⟩
    · exact holds
    · exact absurd sensitive ordinary

theorem record_of_inspect
    (found : inspect rt tools patterns record = .ok item) : item.record = record := by
  rcases inspect_eq_ok_iff.mp found with ⟨_, rfl⟩ | ⟨_, _, _, rfl⟩
  · rfl
  · rfl

theorem exists_protected_iff (surveyed : records.mapM (inspect rt tools patterns) = .ok inspected)
    (holds : ChangeRecord → Prop) :
    (∃ item ∈ inspected, item.isProtected = true ∧ holds item.record) ↔
      ∃ record ∈ records, Sensitive patterns record ∧ holds record := by
  rw [exists_mem_mapM_iff surveyed]
  constructor
  · rintro ⟨record, inside, item, found, isProtected, held⟩
    rcases inspect_eq_ok_iff.mp found with ⟨_, rfl⟩ | ⟨sensitive, _, _, rfl⟩
    · cases isProtected
    · exact ⟨record, inside, sensitive, held⟩
  · rintro ⟨record, inside, sensitive, held⟩
    rcases exists_of_mem_of_mapM surveyed inside with ⟨item, _, found⟩
    refine ⟨record, inside, item, found, ?_, (record_of_inspect found).symm ▸ held⟩
    rcases inspect_eq_ok_iff.mp found with ⟨ordinary, _⟩ | ⟨_, _, _, rfl⟩
    · exact absurd ordinary (not_ordinary_of_sensitive sensitive)
    · rfl

theorem mem_protectedPaths_iff
    (surveyed : records.mapM (inspect rt tools patterns) = .ok inspected) {path : String} :
    path ∈ protectedPaths inspected ↔
      ∃ record ∈ records, Sensitive patterns record ∧ record.path = path := by
  rw [← exists_protected_iff surveyed (·.path = path)]
  simp [protectedPaths, and_assoc]

theorem protectedPaths_ne_nil_iff
    (surveyed : records.mapM (inspect rt tools patterns) = .ok inspected) :
    protectedPaths inspected ≠ [] ↔ ∃ record ∈ records, Sensitive patterns record := by
  rw [Ne, List.eq_nil_iff_forall_not_mem, not_forall_not]
  simp [mem_protectedPaths_iff surveyed]

theorem authoritativeProtected_ne_nil_iff
    (surveyed : records.mapM (inspect rt tools patterns) = .ok inspected) :
    authoritativeProtected inspected ≠ [] ↔ ∃ record ∈ records, Authoritative patterns record := by
  rw [Ne, List.eq_nil_iff_forall_not_mem, not_forall_not]
  simp only [authoritativeProtected, List.mem_filter, mem_protectedPaths_iff surveyed]
  constructor
  · rintro ⟨path, ⟨record, inside, sensitive, rfl⟩, authoritative⟩
    exact ⟨record, inside, sensitive, of_decide_eq_true authoritative⟩
  · rintro ⟨record, inside, sensitive, authoritative⟩
    exact ⟨record.path, ⟨record, inside, sensitive, rfl⟩, decide_eq_true authoritative⟩

theorem featurePaths_ne_nil_iff
    (surveyed : records.mapM (inspect rt tools patterns) = .ok inspected) :
    featurePaths inspected ≠ [] ↔ ∃ record ∈ records, Ordinary patterns record := by
  have listed : featurePaths inspected ≠ [] ↔ ∃ item ∈ inspected, item.isProtected = false := by
    simp [featurePaths]
  rw [listed, exists_mem_mapM_iff surveyed]
  constructor
  · rintro ⟨record, inside, item, found, unprotected⟩
    rcases inspect_eq_ok_iff.mp found with ⟨ordinary, _⟩ | ⟨_, _, _, rfl⟩
    · exact ⟨record, inside, ordinary⟩
    · cases unprotected
  · rintro ⟨record, inside, ordinary⟩
    exact ⟨record, inside, _, inspect_eq_ok_iff.mpr (Or.inl ⟨ordinary, rfl⟩), rfl⟩

theorem isMixed_iff (surveyed : records.mapM (inspect rt tools patterns) = .ok inspected) :
    isMixed inspected = true ↔ Mixed patterns records := by
  rw [isMixed, decide_eq_true_iff, authoritativeProtected_ne_nil_iff surveyed,
    featurePaths_ne_nil_iff surveyed, Mixed]

theorem weakenings_eq_nil_iff
    (surveyed : records.mapM (inspect rt tools patterns) = .ok inspected) :
    weakenings inspected = [] ↔
      ∀ record ∈ records, Sensitive patterns record → record.detected rt tools = .ok [] := by
  have listed : weakenings inspected = [] ↔ ¬∃ item ∈ inspected, item.weakening ≠ [] := by
    simp [weakenings]
  rw [listed, exists_mem_mapM_iff surveyed]
  constructor
  · intro none record inside sensitive
    rcases exists_of_mem_of_mapM surveyed inside with ⟨item, _, found⟩
    rcases inspect_eq_ok_iff.mp found with ⟨ordinary, _⟩ | ⟨_, detected, found', rfl⟩
    · exact absurd ordinary (not_ordinary_of_sensitive sensitive)
    · by_cases empty : detected = []
      · rw [found', empty]
      · exact absurd ⟨record, inside, _, found, empty⟩ none
  · rintro intact ⟨record, inside, item, found, weakened⟩
    rcases inspect_eq_ok_iff.mp found with ⟨_, rfl⟩ | ⟨sensitive, detected, found', rfl⟩
    · exact weakened rfl
    · rw [intact record inside sensitive] at found'
      cases found'
      exact weakened rfl

theorem map_record_eq (surveyed : records.mapM (inspect rt tools patterns) = .ok inspected) :
    inspected.map (·.record) = records := by
  induction records generalizing inspected with
  | nil =>
      rcases mapM_nil_eq_ok_iff.mp surveyed with rfl
      rfl
  | cons record records ih =>
      rcases mapM_cons_eq_ok_iff.mp surveyed with ⟨item, others, found, foundOthers, rfl⟩
      rw [List.map_cons, record_of_inspect found, ih foundOthers]

theorem inspectionUnverified_eq_nil_iff
    (surveyed : records.mapM (inspect rt tools patterns) = .ok inspected) :
    inspectionUnverified inspected = [] ↔ ∀ record ∈ records,
        (∃ other ∈ records, Sensitive patterns other ∧ other.path = record.path) →
          record.isVerified = true := by
  rw [inspectionUnverified, map_record_eq surveyed]
  simp [mem_protectedPaths_iff surveyed]

theorem manualRequired_eq_nil_iff {standing : StandingPolicy}
    (surveyed : records.mapM (inspect rt tools patterns) = .ok inspected)
    (present : standing.present = true) (valid : standing.valid = true) :
    manualRequired standing inspected = [] ↔ ∀ record ∈ records, Sensitive patterns record →
        ∀ pattern ∈ standing.manualRequiredPaths, patternMatches record.path pattern = false := by
  rw [manualRequired, if_pos ⟨valid, present⟩]
  simp only [List.filter_eq_nil_iff, mem_protectedPaths_iff surveyed, List.any_eq_true, not_exists,
    not_and, Bool.not_eq_true]
  constructor
  · intro unreserved record inside sensitive
    exact unreserved record.path ⟨record, inside, sensitive, rfl⟩
  · rintro unreserved _ ⟨record, inside, sensitive, rfl⟩
    exact unreserved record inside sensitive

variable {policy : Fields} {standing : StandingPolicy}

theorem standingAuto_iff (surveyed : records.mapM (inspect rt tools patterns) = .ok inspected)
    (read : standingAuthorizationPolicyMetadata rt policy = .ok standing) :
    standingAuto standing inspected = true ↔ (∃ record ∈ records, Sensitive patterns record) ∧
        StandingCovers rt tools patterns standing records ∧ ¬Mixed patterns records := by
  rw [standingAuto, decide_eq_true_iff, protectedPaths_ne_nil_iff surveyed,
    weakenings_eq_nil_iff surveyed, inspectionUnverified_eq_nil_iff surveyed,
    ← isMixed_iff surveyed, Bool.not_eq_true]
  constructor
  · rintro ⟨touched, valid, active, intact, unreserved, verified, unmixed⟩
    have present := (standing_of_active read active).1
    exact ⟨touched, ⟨active, intact,
      (manualRequired_eq_nil_iff surveyed present valid).mp unreserved, verified⟩, unmixed⟩
  · rintro ⟨touched, covers, unmixed⟩
    rcases standing_of_active read covers.active with ⟨present, valid⟩
    exact ⟨touched, valid, covers.active, covers.intact,
      (manualRequired_eq_nil_iff surveyed present valid).mpr covers.unreserved, covers.verified,
      unmixed⟩

theorem policy_reason_iff (surveyed : records.mapM (inspect rt tools patterns) = .ok inspected) :
    ("BASE_TRUST_POLICY_INVALID" ∈ classificationReasons policy standing inspected ∨
        "BASE_STANDING_AUTHORIZATION_POLICY_INVALID" ∈
          classificationReasons policy standing inspected) ↔ ¬PolicyAccepted policy standing ∨
        ((∃ record ∈ records, Sensitive patterns record) ∧ ¬PolicyGates policy) := by
  have accepted : PolicyAccepted policy standing ↔
      Json.get policy "self_modification_in_feature_pr" = .str "FORBIDDEN" ∧
        (standing.present = true → standing.valid = true) :=
    ⟨fun holds => ⟨holds.forbidden, holds.standing⟩, fun holds => ⟨holds.1, holds.2⟩⟩
  have gates : PolicyGates policy ↔ Json.get policy "weakening_requires_human" = .bool true ∧
      Json.get policy "weakening_is_risk" = .str "R4" :=
    ⟨fun holds => ⟨holds.human, holds.risk⟩, fun holds => ⟨holds.1, holds.2⟩⟩
  rw [accepted, gates, ← protectedPaths_ne_nil_iff surveyed]
  simp only [classificationReasons, List.mem_append, mem_reasonIf_iff]
  cases standing.present <;> cases standing.valid <;> simp <;> tauto

theorem resultOf_eq_block_iff
    (surveyed : records.mapM (inspect rt tools patterns) = .ok inspected) :
    resultOf policy standing inspected = .block ↔ ¬PolicyAccepted policy standing ∨
        ((∃ record ∈ records, Sensitive patterns record) ∧ ¬PolicyGates policy) ∨
          Mixed patterns records := by
  rw [← or_assoc, ← policy_reason_iff surveyed, ← isMixed_iff surveyed, or_assoc]
  simp only [resultOf]
  split_ifs with blocked
  · simp [blocked]
  · simp [blocked]
  · simp [blocked]
  · simp [blocked]

theorem resultOf_eq_allow_iff (surveyed : records.mapM (inspect rt tools patterns) = .ok inspected)
    (read : standingAuthorizationPolicyMetadata rt policy = .ok standing) :
    resultOf policy standing inspected = .allow ↔ resultOf policy standing inspected ≠ .block ∧
        ((∃ record ∈ records, Sensitive patterns record) →
          StandingCovers rt tools patterns standing records ∧ ¬Mixed patterns records) := by
  have auto := standingAuto_iff surveyed read
  rw [← protectedPaths_ne_nil_iff surveyed] at auto ⊢
  simp only [resultOf]
  split_ifs with blocked allowed touched
  · simp
  · simp [(auto.mp allowed.2).2.1, (auto.mp allowed.2).2.2]
  · have refused : ¬(StandingCovers rt tools patterns standing records ∧
        ¬Mixed patterns records) := fun covers => allowed ⟨touched, auto.mpr ⟨touched, covers⟩⟩
    simp [touched, refused]
  · simp [touched]

theorem classifyDiff_eq_ok_iff {result : Classification}
    (valid : basePatterns rt policy = some patterns) (filled : changedFiles ≠ []) :
    classifyDiff rt tools changedFiles policy = .ok result ↔
      ∃ records inspected standing, changedFiles.mapM changeRecord = .ok records ∧
        records.mapM (inspect rt tools patterns) = .ok inspected ∧
        standingAuthorizationPolicyMetadata rt policy = .ok standing ∧
        result = classification policy standing inspected := by
  have records_ne_nil : ∀ records, changedFiles.mapM changeRecord = .ok records → records ≠ [] := by
    rintro _ read rfl
    rcases List.exists_mem_of_ne_nil _ filled with ⟨item, inside⟩
    rcases exists_of_mem_of_mapM read inside with ⟨_, ⟨⟩, _⟩
  simp only [classifyDiff, valid, bind_ok_iff]
  constructor
  · rintro ⟨records, read, rest⟩
    rw [if_neg (records_ne_nil records read), bind_ok_iff] at rest
    rcases rest with ⟨inspected, surveyed, rest⟩
    rcases bind_ok_iff.mp rest with ⟨standing, metadata, ⟨⟩⟩
    exact ⟨records, inspected, standing, read, surveyed, metadata, rfl⟩
  · rintro ⟨records, inspected, standing, read, surveyed, metadata, rfl⟩
    refine ⟨records, read, ?_⟩
    rw [if_neg (records_ne_nil records read), surveyed, ok_bind, metadata]
    rfl

theorem classifyDiff_of_surveyed
    (valid : basePatterns rt policy = some patterns) (filled : changedFiles ≠ [])
    (read : changedFiles.mapM changeRecord = .ok records)
    (surveyed : records.mapM (inspect rt tools patterns) = .ok inspected)
    (metadata : standingAuthorizationPolicyMetadata rt policy = .ok standing) :
    classifyDiff rt tools changedFiles policy = .ok (classification policy standing inspected) :=
  (classifyDiff_eq_ok_iff valid filled).mpr ⟨_, _, _, read, surveyed, metadata, rfl⟩

theorem classifyDiff_eq_ok_iff_of_invalid {result : Classification}
    (invalid : basePatterns rt policy = none) :
    classifyDiff rt tools changedFiles policy = .ok result ↔
      (∃ records, changedFiles.mapM changeRecord = .ok records) ∧
        result = .blocked "BASE_TRUST_POLICY_INVALID" := by
  simp only [classifyDiff, invalid, bind_ok_iff]
  constructor
  · rintro ⟨records, read, ⟨⟩⟩
    exact ⟨⟨records, read⟩, rfl⟩
  · rintro ⟨⟨records, read⟩, rfl⟩
    exact ⟨records, read, rfl⟩

end Survey

end Adwf.Trust
