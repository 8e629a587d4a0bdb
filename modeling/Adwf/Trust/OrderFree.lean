import Adwf.Trust.Renames
import Mathlib.Data.List.Perm.Basic

/-!
# Classification of more records, in any order

Two runs of `classify_diff` under one base policy: of a diff and of a larger
one, and of a diff and of the same records in another order.
-/

namespace Adwf.Fallible

section Lists

variable {ε : Type} {α β : Type} {f : α → Except ε β}

theorem exists_mapM_of_subset {items larger : List α} {values : List β}
    (mapped : larger.mapM f = .ok values) (among : items ⊆ larger) :
    ∃ some, items.mapM f = .ok some ∧ some ⊆ values := by
  induction items with
  | nil => exact ⟨[], rfl, List.nil_subset _⟩
  | cons item items ih =>
      rcases List.cons_subset.mp among with ⟨inside, others⟩
      rcases exists_of_mem_of_mapM mapped inside with ⟨value, listed, found⟩
      rcases ih others with ⟨rest, foundRest, restListed⟩
      exact ⟨value :: rest, mapM_cons_eq_ok_iff.mpr ⟨value, rest, found, foundRest, rfl⟩,
        List.cons_subset.mpr ⟨listed, restListed⟩⟩

/-- A loop over the same items in another order returns the same values in another order. -/
theorem exists_mapM_of_perm {items others : List α} (same : items.Perm others) :
    ∀ {values : List β}, items.mapM f = .ok values →
      ∃ moved, others.mapM f = .ok moved ∧ values.Perm moved := by
  induction same with
  | nil =>
      intro values mapped
      exact ⟨values, mapped, List.Perm.refl _⟩
  | cons item same ih =>
      intro values mapped
      rcases mapM_cons_eq_ok_iff.mp mapped with ⟨value, rest, found, foundRest, rfl⟩
      rcases ih foundRest with ⟨moved, foundMoved, perm⟩
      exact ⟨value :: moved, mapM_cons_eq_ok_iff.mpr ⟨value, moved, found, foundMoved, rfl⟩,
        perm.cons value⟩
  | swap first second items =>
      intro values mapped
      rcases mapM_cons_eq_ok_iff.mp mapped with ⟨one, rest, foundOne, foundRest, rfl⟩
      rcases mapM_cons_eq_ok_iff.mp foundRest with ⟨two, last, foundTwo, foundLast, rfl⟩
      refine ⟨two :: one :: last, ?_, List.Perm.swap two one last⟩
      exact mapM_cons_eq_ok_iff.mpr ⟨two, one :: last, foundTwo,
        mapM_cons_eq_ok_iff.mpr ⟨one, last, foundOne, foundLast, rfl⟩, rfl⟩
  | trans _ _ firstIh secondIh =>
      intro values mapped
      rcases firstIh mapped with ⟨between, foundBetween, firstPerm⟩
      rcases secondIh foundBetween with ⟨moved, foundMoved, secondPerm⟩
      exact ⟨moved, foundMoved, firstPerm.trans secondPerm⟩

end Lists

end Adwf.Fallible

namespace Adwf.Trust

open Fallible

/-! ## More records -/

section Larger

variable {rt : Runtime} {tools : TextTools} {patterns : List String}
variable {policy : Fields} {standing : StandingPolicy}
variable {records larger : List ChangeRecord} {inspected all : List Inspected}

theorem Mixed.of_subset (mixed : Mixed patterns records) (among : records ⊆ larger) :
    Mixed patterns larger := by
  rcases mixed with ⟨⟨first, firstIn, authoritative⟩, second, secondIn, ordinary⟩
  exact ⟨⟨first, among firstIn, authoritative⟩, second, among secondIn, ordinary⟩

/-- An authorization that speaks for a diff speaks for each part of it. -/
theorem StandingCovers.of_subset (covers : StandingCovers rt tools patterns standing larger)
    (among : records ⊆ larger) : StandingCovers rt tools patterns standing records where
  active := covers.active
  intact := fun record inside => covers.intact record (among inside)
  unreserved := fun record inside => covers.unreserved record (among inside)
  verified := by
    rintro record inside ⟨other, otherIn, sensitive, same⟩
    exact covers.verified record (among inside) ⟨other, among otherIn, sensitive, same⟩

theorem resultOf_block_of_subset
    (surveyed : records.mapM (inspect rt tools patterns) = .ok inspected)
    (surveyedAll : larger.mapM (inspect rt tools patterns) = .ok all)
    (among : records ⊆ larger) (blocked : resultOf policy standing inspected = .block) :
    resultOf policy standing all = .block := by
  rw [resultOf_eq_block_iff surveyedAll]
  rcases (resultOf_eq_block_iff surveyed).mp blocked with
    refused | ⟨⟨record, inside, sensitive⟩, ungated⟩ | mixed
  · exact Or.inl refused
  · exact Or.inr (Or.inl ⟨⟨record, among inside, sensitive⟩, ungated⟩)
  · exact Or.inr (Or.inr (mixed.of_subset among))

theorem resultOf_allow_of_subset
    (surveyed : records.mapM (inspect rt tools patterns) = .ok inspected)
    (surveyedAll : larger.mapM (inspect rt tools patterns) = .ok all)
    (read : standingAuthorizationPolicyMetadata rt policy = .ok standing)
    (among : records ⊆ larger) (allowed : resultOf policy standing all = .allow) :
    resultOf policy standing inspected = .allow := by
  rw [resultOf_eq_allow_iff surveyed read]
  rcases (resultOf_eq_allow_iff surveyedAll read).mp allowed with ⟨unblocked, covered⟩
  refine ⟨?_, ?_⟩
  · intro blocked
    exact unblocked (resultOf_block_of_subset surveyed surveyedAll among blocked)
  · rintro ⟨record, inside, sensitive⟩
    rcases covered ⟨record, among inside, sensitive⟩ with ⟨covers, unmixed⟩
    exact ⟨covers.of_subset among, fun mixed => unmixed (mixed.of_subset among)⟩

/-- The result never moves down. -/
theorem rank_resultOf_le_of_subset
    (surveyed : records.mapM (inspect rt tools patterns) = .ok inspected)
    (surveyedAll : larger.mapM (inspect rt tools patterns) = .ok all)
    (read : standingAuthorizationPolicyMetadata rt policy = .ok standing)
    (among : records ⊆ larger) :
    (resultOf policy standing inspected).rank ≤ (resultOf policy standing all).rank := by
  have blocks : resultOf policy standing inspected = .block →
      resultOf policy standing all = .block :=
    resultOf_block_of_subset surveyed surveyedAll among
  have allows := resultOf_allow_of_subset surveyed surveyedAll read among
  cases before : resultOf policy standing inspected with
  | allow => exact Nat.zero_le _
  | block => rw [blocks before]
  | humanRequired =>
      cases after : resultOf policy standing all with
      | allow =>
          rw [allows after] at before
          cases before
      | humanRequired => exact Nat.le_refl _
      | block => exact Nat.le_succ _

end Larger

/-! ## Another order -/

/-- The returned path sets after `changed_files`. -/
def ClassificationDetails.pathSets (details : ClassificationDetails) : List (List String) :=
  [details.protectedFiles, details.generatedProjectionFiles, details.authoritativeProtectedFiles,
    details.featureFiles, details.inspectionUnverifiedFiles, details.manualRequiredFiles]

/-- Two classifications differ at most in the order of their weakening entries. -/
structure SameFindings (first second : Classification) : Prop where
  result : first.result = second.result
  reasonCodes : first.reasonCodes = second.reasonCodes
  changedFiles : first.changedFiles = second.changedFiles
  pathSets : first.details.map ClassificationDetails.pathSets =
    second.details.map ClassificationDetails.pathSets
  weakening : ∀ entry, (∃ details ∈ first.details, entry ∈ details.weakening) ↔
    ∃ details ∈ second.details, entry ∈ details.weakening

theorem SameFindings.refl (result : Classification) : SameFindings result result :=
  ⟨rfl, rfl, rfl, rfl, fun _ => Iff.rfl⟩

theorem insertionSort_eq_of_perm {paths moved : List String} (same : paths.Perm moved) :
    paths.insertionSort (· ≤ ·) = moved.insertionSort (· ≤ ·) :=
  List.Perm.eq_of_pairwise' (List.pairwise_insertionSort _ _) (List.pairwise_insertionSort _ _)
    ((List.perm_insertionSort _ _).trans (same.trans (List.perm_insertionSort _ _).symm))

theorem sortedSet_eq_of_perm {paths moved : List String} (same : paths.Perm moved) :
    sortedSet paths = sortedSet moved :=
  insertionSort_eq_of_perm same.dedup

theorem eq_nil_iff_of_perm {α : Type} {items moved : List α} (same : items.Perm moved) :
    items = [] ↔ moved = [] := by
  rw [← List.length_eq_zero_iff, same.length_eq, List.length_eq_zero_iff]

section Moved

variable {inspected moved : List Inspected} (same : inspected.Perm moved)
include same

theorem protectedPaths_perm : (protectedPaths inspected).Perm (protectedPaths moved) :=
  (same.filter _).map _

theorem generatedProjections_perm :
    (generatedProjections inspected).Perm (generatedProjections moved) :=
  (protectedPaths_perm same).filter _

theorem authoritativeProtected_perm :
    (authoritativeProtected inspected).Perm (authoritativeProtected moved) :=
  (protectedPaths_perm same).filter _

theorem featurePaths_perm : (featurePaths inspected).Perm (featurePaths moved) :=
  (same.filter _).map _

theorem weakenings_perm : (weakenings inspected).Perm (weakenings moved) :=
  (same.filter _).map _

theorem inspectionUnverified_perm :
    (inspectionUnverified inspected).Perm (inspectionUnverified moved) := by
  simp only [inspectionUnverified, (protectedPaths_perm same).mem_iff]
  exact ((same.map _).filter _).map _

theorem manualRequired_perm (standing : StandingPolicy) :
    (manualRequired standing inspected).Perm (manualRequired standing moved) := by
  unfold manualRequired
  split_ifs
  · exact (protectedPaths_perm same).filter _
  · exact List.Perm.nil

theorem isMixed_eq_of_perm : isMixed inspected = isMixed moved := by
  simp only [isMixed, Ne, eq_nil_iff_of_perm (authoritativeProtected_perm same),
    eq_nil_iff_of_perm (featurePaths_perm same)]

/-- Each reason asks whether a list is empty. -/
theorem classificationReasons_eq_of_perm (policy : Fields) (standing : StandingPolicy) :
    classificationReasons policy standing inspected =
      classificationReasons policy standing moved := by
  simp only [classificationReasons, Ne, isMixed_eq_of_perm same, eq_nil_iff_of_perm (weakenings_perm same),
    eq_nil_iff_of_perm (protectedPaths_perm same), eq_nil_iff_of_perm (manualRequired_perm same standing),
    eq_nil_iff_of_perm (inspectionUnverified_perm same)]

theorem standingAuto_eq_of_perm (standing : StandingPolicy) :
    standingAuto standing inspected = standingAuto standing moved := by
  simp only [standingAuto, Ne, isMixed_eq_of_perm same, eq_nil_iff_of_perm (weakenings_perm same),
    eq_nil_iff_of_perm (protectedPaths_perm same), eq_nil_iff_of_perm (manualRequired_perm same standing),
    eq_nil_iff_of_perm (inspectionUnverified_perm same)]

theorem resultOf_eq_of_perm (policy : Fields) (standing : StandingPolicy) :
    resultOf policy standing inspected = resultOf policy standing moved := by
  simp only [resultOf, Ne, classificationReasons_eq_of_perm same policy standing,
    isMixed_eq_of_perm same, standingAuto_eq_of_perm same standing,
    eq_nil_iff_of_perm (protectedPaths_perm same)]

theorem classification_sameFindings (policy : Fields) (standing : StandingPolicy) :
    SameFindings (classification policy standing inspected)
      (classification policy standing moved) where
  result := by
    rw [classification_result, classification_result, resultOf_eq_of_perm same policy standing]
  reasonCodes := by
    simp only [classification, classificationReasons_eq_of_perm same policy standing]
  changedFiles := by
    simp only [classification]
    exact insertionSort_eq_of_perm (same.map _)
  pathSets := by
    simp only [classification, Option.map_some, ClassificationDetails.pathSets,
      sortedSet_eq_of_perm (protectedPaths_perm same),
      sortedSet_eq_of_perm (generatedProjections_perm same),
      sortedSet_eq_of_perm (authoritativeProtected_perm same),
      sortedSet_eq_of_perm (featurePaths_perm same),
      sortedSet_eq_of_perm (inspectionUnverified_perm same),
      sortedSet_eq_of_perm (manualRequired_perm same standing)]
  weakening := by
    intro entry
    simp only [classification, Option.mem_some_iff, exists_eq_left', (weakenings_perm same).mem_iff]

end Moved

section Runs

variable {rt : Runtime} {tools : TextTools} {policy : Fields}
variable {changedFiles other : List DiffItem} {result : Classification}

theorem exists_classifyDiff_of_subset (filled : changedFiles ≠ []) (among : changedFiles ⊆ other)
    (classified : classifyDiff rt tools other policy = .ok result) :
    ∃ before, classifyDiff rt tools changedFiles policy = .ok before ∧
      before.result.rank ≤ result.result.rank := by
  have otherFilled : other ≠ [] := by
    rintro rfl
    exact filled (List.subset_nil.mp among)
  cases valid : basePatterns rt policy with
  | none =>
      rcases (classifyDiff_eq_ok_iff_of_invalid valid).mp classified with ⟨⟨records, read⟩, rfl⟩
      rcases exists_mapM_of_subset read among with ⟨some, readSome, _⟩
      exact ⟨_, (classifyDiff_eq_ok_iff_of_invalid valid).mpr ⟨⟨some, readSome⟩, rfl⟩,
        Nat.le_refl _⟩
  | some patterns =>
      rcases (classifyDiff_eq_ok_iff valid otherFilled).mp classified with
        ⟨larger, all, standing, read, surveyedAll, metadata, rfl⟩
      rcases exists_mapM_of_subset read among with ⟨records, readSome, listed⟩
      rcases exists_mapM_of_subset surveyedAll listed with ⟨inspected, surveyed, _⟩
      have classifiedSome := classifyDiff_of_surveyed valid filled readSome surveyed metadata
      refine ⟨_, classifiedSome, ?_⟩
      rw [classification_result, classification_result]
      exact rank_resultOf_le_of_subset surveyed surveyedAll metadata listed

theorem exists_classifyDiff_of_perm (same : changedFiles.Perm other)
    (classified : classifyDiff rt tools changedFiles policy = .ok result) :
    ∃ after, classifyDiff rt tools other policy = .ok after ∧ SameFindings result after := by
  by_cases filled : changedFiles = []
  · subst filled
    rw [List.nil_perm] at same
    exact ⟨result, same ▸ classified, SameFindings.refl result⟩
  have otherFilled : other ≠ [] := fun empty => filled (List.perm_nil.mp (empty ▸ same))
  cases valid : basePatterns rt policy with
  | none =>
      rcases (classifyDiff_eq_ok_iff_of_invalid valid).mp classified with ⟨⟨records, read⟩, rfl⟩
      rcases exists_mapM_of_perm same read with ⟨moved, readMoved, _⟩
      exact ⟨_, (classifyDiff_eq_ok_iff_of_invalid valid).mpr ⟨⟨moved, readMoved⟩, rfl⟩,
        SameFindings.refl _⟩
  | some patterns =>
      rcases (classifyDiff_eq_ok_iff valid filled).mp classified with
        ⟨records, inspected, standing, read, surveyed, metadata, rfl⟩
      rcases exists_mapM_of_perm same read with ⟨movedRecords, readMoved, samePaths⟩
      rcases exists_mapM_of_perm samePaths surveyed with ⟨moved, surveyedMoved, sameInspected⟩
      exact ⟨_, classifyDiff_of_surveyed valid otherFilled readMoved surveyedMoved metadata,
        classification_sameFindings sameInspected policy standing⟩

end Runs

/-- The classification of a diff is monotone in its records and does not depend on
their order. -/
theorem classifyDiff_monotone_orderFree (rt : Runtime) (tools : TextTools) (policy : Fields)
    (changedFiles : List DiffItem) (filled : changedFiles ≠ []) :
    (∀ larger result, changedFiles ⊆ larger → classifyDiff rt tools larger policy = .ok result →
        ∃ before, classifyDiff rt tools changedFiles policy = .ok before ∧
          before.result.rank ≤ result.result.rank) ∧ ∀ permuted result, changedFiles.Perm permuted →
      classifyDiff rt tools changedFiles policy = .ok result →
        ∃ after, classifyDiff rt tools permuted policy = .ok after ∧ SameFindings result after := by
  refine ⟨?_, ?_⟩
  · intro larger result among classified
    exact exists_classifyDiff_of_subset filled among classified
  · intro permuted result same classified
    exact exists_classifyDiff_of_perm same classified

/-- The README alone ranks no higher than next to a protected file. -/
theorem classifyDiff_monotone_readme : ∃ before after,
    classifyDiff sourceRuntime sourceTools [.path "README.md"] reservedPolicy = .ok before ∧
      classifyDiff sourceRuntime sourceTools [.path ".adwf/lib/trust.py", .path "README.md"]
        reservedPolicy = .ok after ∧ after.result = .block ∧
      before.result.rank ≤ after.result.rank := by
  have blocks : (classifyDiff sourceRuntime sourceTools
      [.path ".adwf/lib/trust.py", .path "README.md"] reservedPolicy).map (·.result) =
        .ok .block := by
    decide +kernel
  rcases exists_of_map_eq_ok blocks with ⟨after, classified, blocked⟩
  rcases (classifyDiff_monotone_orderFree sourceRuntime sourceTools reservedPolicy
    [.path "README.md"] (List.cons_ne_nil _ _)).1 _ after (List.subset_cons_self _ _) classified with
    ⟨before, classifiedBefore, lower⟩
  exact ⟨before, after, classifiedBefore, classified, blocked, lower⟩

end Adwf.Trust
