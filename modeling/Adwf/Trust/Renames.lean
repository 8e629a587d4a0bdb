import Adwf.Trust.Verdict

/-!
# Renames against deletions and additions

A rename record has one new path, and `classify_diff` keeps the record under
that path alone.  The same change as a deletion and an addition has two.
-/

namespace Adwf.Trust

open Fallible

/-! ## Two forms of one change -/

/-- `R[0-9]*`. -/
def isRenameStatus (status : String) : Bool :=
  match status.toList with
  | [] => false
  | code :: score => code = 'R' ∧ score.all Text.isDigit = true

/-- A rename with the contents of both paths. -/
structure Rename where
  path : String
  oldPath : String
  status : String
  oldText : Option String
  newText : Option String
  renames : isRenameStatus status.toUpper = true
  named : oldPath ≠ ""

namespace Rename

variable (rename : Rename) (old new : String)

/-- The rename as one record. -/
def item : DiffItem :=
  .record ⟨rename.path, rename.status, some rename.oldPath, rename.oldText, rename.newText⟩

/-- The deletion of the old path. -/
def deletion : DiffItem :=
  .record ⟨rename.oldPath, "D", none, rename.oldText, none⟩

/-- The addition of the new path. -/
def addition : DiffItem :=
  .record ⟨rename.path, "A", none, none, rename.newText⟩

/-- The rename between normal forms. -/
def whole : ChangeRecord :=
  ⟨new, rename.status.toUpper, some old, rename.oldText, rename.newText⟩

/-- The deletion of a normal form. -/
def deleted : ChangeRecord :=
  ⟨old, "D", none, rename.oldText, none⟩

/-- The addition of a normal form. -/
def added : ChangeRecord :=
  ⟨new, "A", none, none, rename.newText⟩

end Rename

section Loosening

variable (rt : Runtime) (tools : TextTools) (patterns : List String) (policy : Fields)
variable (standing : StandingPolicy) (front back : List ChangeRecord) (rename : Rename)
variable (old new : String)

/-- The ways in which a rename between two other parts of a diff is classified less strictly
than the deletion and the addition. -/
inductive Loosening : Prop where
  /-- The old path is blank, and the new one is sensitive before the old one is read. -/
  | blank (unread : ∀ path, normalizeRepoPath old ≠ .ok path)
      (onto : Sensitive patterns (rename.added new))
  /-- An integrity projection is moved away, and nothing else in the diff is sensitive. -/
  | unseen (accepted : PolicyAccepted policy standing)
      (away : Sensitive patterns (rename.deleted old))
      (missed : ¬Sensitive patterns (rename.whole old new))
      (alone : ∀ record ∈ front ++ back, ¬Sensitive patterns record)
  /-- The rename crosses the border, and its ordinary end is the only feature file. -/
  | crossing (accepted : PolicyAccepted policy standing) (gates : PolicyGates policy)
      (touched : Sensitive patterns (rename.whole old new))
      (crosses : ¬Sensitive patterns (rename.deleted old) ∨ ¬Sensitive patterns (rename.added new))
      (single : ∀ record ∈ front ++ back, ¬Ordinary patterns record)
      (authoritative : Authoritative patterns (rename.deleted old) ∨
        Authoritative patterns (rename.added new) ∨
        ∃ record ∈ front ++ back, Authoritative patterns record)
  /-- The only authoritative file is moved away, next to a feature file. -/
  | projected (accepted : PolicyAccepted policy standing) (gates : PolicyGates policy)
      (away : Authoritative patterns (rename.deleted old))
      (generated : ¬Authoritative patterns (rename.whole old new))
      (single : ∀ record ∈ front ++ back, ¬Authoritative patterns record)
      (feature : ¬Sensitive patterns (rename.whole old new) ∨
        ∃ record ∈ front ++ back, Ordinary patterns record)
  /-- A sensitive file is moved away, and the standing authorization covers the rename. -/
  | away (accepted : PolicyAccepted policy standing) (gates : PolicyGates policy)
      (away : Sensitive patterns (rename.deleted old))
      (unmixed : ¬Mixed patterns (front ++ rename.whole old new :: back))
      (covers : StandingCovers rt tools patterns standing
        (front ++ rename.whole old new :: back))
  /-- The old path is also that of a sensitive record, and its content is not there. -/
  | uninspected (accepted : PolicyAccepted policy standing) (gates : PolicyGates policy)
      (ordinary : ¬Sensitive patterns (rename.deleted old))
      (missing : rename.oldText = none)
      (shared : ∃ record ∈ front ++ back, Sensitive patterns record ∧ record.path = old)
      (unmixed : ¬Mixed patterns (front ++ rename.whole old new :: back))
      (covers : StandingCovers rt tools patterns standing
        (front ++ rename.whole old new :: back))

end Loosening

/-- The rename in a diff is one of these, under a policy with valid patterns. -/
def Loosens (rt : Runtime) (tools : TextTools) (policy : Fields) (before after : List DiffItem)
    (rename : Rename) : Prop :=
  ∃ patterns standing front back old new, basePatterns rt policy = some patterns ∧
    standingAuthorizationPolicyMetadata rt policy = .ok standing ∧
    before.mapM changeRecord = .ok front ∧ after.mapM changeRecord = .ok back ∧
    normalizeRepoPath rename.oldPath = .ok old ∧ normalizeRepoPath rename.path = .ok new ∧
    Loosening rt tools patterns policy standing front back rename old new

section Forms

variable {rt : Runtime} {tools : TextTools} {patterns : List String} {rename : Rename}
variable {old new : String}

theorem isChangeStatus_of_isRenameStatus {status : String} (renames : isRenameStatus status = true) :
    isChangeStatus status = true := by
  unfold isRenameStatus at renames
  unfold isChangeStatus
  cases chars : status.toList with
  | nil => simp [chars] at renames
  | cons code score =>
      simp only [chars, decide_eq_true_eq] at renames ⊢
      exact ⟨renames.1 ▸ (by decide), renames.2⟩

theorem changeRecord_item_eq_ok_iff {record : ChangeRecord} :
    changeRecord rename.item = .ok record ↔ ∃ new old, normalizeRepoPath rename.path = .ok new ∧
        normalizeRepoPath rename.oldPath = .ok old ∧ record = rename.whole old new := by
  have status := isChangeStatus_of_isRenameStatus rename.renames
  simp only [Rename.item, changeRecord, require_bind_of status, normalizeOldPath,
    if_neg rename.named, bind_ok_iff]
  constructor
  · rintro ⟨new, readNew, found, readOld, ⟨⟩⟩
    cases reading : normalizeRepoPath rename.oldPath with
    | error error =>
        rw [reading] at readOld
        cases readOld
    | ok old =>
        rw [reading] at readOld
        cases readOld
        exact ⟨new, old, readNew, rfl, rfl⟩
  · rintro ⟨new, old, readNew, readOld, rfl⟩
    exact ⟨new, readNew, some old, by rw [readOld]; rfl, rfl⟩

theorem changeRecord_deletion (readOld : normalizeRepoPath rename.oldPath = .ok old) :
    changeRecord rename.deletion = .ok (rename.deleted old) := by
  have upper : "D".toUpper = "D" := by decide +kernel
  simp only [Rename.deletion, changeRecord, readOld, normalizeOldPath, upper]
  rfl

theorem changeRecord_addition (readNew : normalizeRepoPath rename.path = .ok new) :
    changeRecord rename.addition = .ok (rename.added new) := by
  have upper : "A".toUpper = "A" := by decide +kernel
  simp only [Rename.addition, changeRecord, readNew, normalizeOldPath, upper]
  rfl

theorem isProtectedPath_eq_ok_iff {path : String} {found : Bool} :
    isProtectedPath path patterns = .ok found ↔
      ∃ normalized, normalizeRepoPath path = .ok normalized ∧
        found = patterns.any (patternMatches normalized) := by
  simp only [isProtectedPath, bind_ok_iff]
  constructor
  · rintro ⟨normalized, read, ⟨⟩⟩
    exact ⟨normalized, read, rfl⟩
  · rintro ⟨normalized, read, rfl⟩
    exact ⟨normalized, read, rfl⟩

theorem touches_whole_eq_ok_iff {touched : Bool} :
    touchesProtected patterns (rename.whole old new) = .ok touched ↔
      (Sensitive patterns (rename.added new) ∧ touched = true) ∨
        (Ordinary patterns (rename.added new) ∧ isProtectedPath old patterns = .ok touched) := by
  unfold Sensitive Ordinary touchesProtected
  by_cases integrity : new ∈ integrityProjections
  · simp [Rename.whole, Rename.added, integrity, pure, Except.pure, eq_comm]
  · cases read : isProtectedPath new patterns with
    | error error => simp [Rename.whole, Rename.added, integrity, read, bind, Except.bind]
    | ok found =>
        cases found <;>
          simp [Rename.whole, Rename.added, integrity, read, ok_bind, pure, Except.pure, eq_comm]

theorem sensitive_whole_of_added (onto : Sensitive patterns (rename.added new)) :
    Sensitive patterns (rename.whole old new) :=
  touches_whole_eq_ok_iff.mpr (Or.inl ⟨onto, rfl⟩)

theorem touches_deleted_of_read {found : Bool} (read : isProtectedPath old patterns = .ok found) :
    touchesProtected patterns (rename.deleted old) =
      .ok (decide (old ∈ integrityProjections) || found) := by
  unfold touchesProtected
  by_cases integrity : old ∈ integrityProjections
  · simp [Rename.deleted, integrity, pure, Except.pure]
  · cases found with
    | true => simp [Rename.deleted, integrity, read, ok_bind, pure, Except.pure]
    | false => simp [Rename.deleted, integrity, read, ok_bind, pure, Except.pure]

/-! ### What is found in the two forms -/

theorem detected_deleted_ne_nil : (rename.deleted old).detected rt tools ≠ .ok [] := by
  intro intact
  exact (kept_of_detect_eq_nil intact).2.2 rfl

theorem detected_added_of_whole (intact : (rename.whole old new).detected rt tools = .ok []) :
    (rename.added new).detected rt tools = .ok [] := by
  rcases kept_of_detect_eq_nil intact with ⟨⟨normalized, read⟩, _, present⟩
  rcases Option.ne_none_iff_exists'.mp present with ⟨text, content⟩
  have adds : Text.startsWith "A".toUpper "D" = false := by decide +kernel
  change detectGateWeakening rt tools new none rename.newText "A" = .ok []
  rw [show rename.newText = some text from content]
  exact detect_of_new read adds

theorem isVerified_iff {record : ChangeRecord} : record.isVerified = true ↔
    (record.status.toList.headD 'M' = 'A' ∨ record.oldText ≠ none) ∧
      (record.status.toList.headD 'M' = 'D' ∨ record.newText ≠ none) :=
  decide_eq_true_iff

theorem isVerified_whole_iff : (rename.whole old new).isVerified = true ↔
    rename.oldText ≠ none ∧ rename.newText ≠ none := by
  have code : (rename.whole old new).status.toList.headD 'M' = 'R' := by
    have renames := rename.renames
    unfold isRenameStatus at renames
    change rename.status.toUpper.toList.headD 'M' = 'R'
    cases chars : rename.status.toUpper.toList with
    | nil => simp [chars] at renames
    | cons code score =>
        simp only [chars, decide_eq_true_eq] at renames
        exact renames.1
  rw [isVerified_iff, code]
  simp [Rename.whole]

theorem isVerified_deleted_iff :
    (rename.deleted old).isVerified = true ↔ rename.oldText ≠ none := by
  rw [isVerified_iff]
  simp [Rename.deleted]

theorem isVerified_added_iff : (rename.added new).isVerified = true ↔ rename.newText ≠ none := by
  rw [isVerified_iff]
  simp [Rename.added]

end Forms

/-! ## The two results -/

theorem exists_mem_middle_iff {α : Type} {front back : List α} {middle : α} {holds : α → Prop} :
    (∃ item ∈ front ++ middle :: back, holds item) ↔
      holds middle ∨ ∃ item ∈ front ++ back, holds item := by
  rw [← List.exists_mem_cons_iff]
  constructor
  · rintro ⟨item, inside, held⟩
    exact ⟨item, List.perm_middle.mem_iff.mp inside, held⟩
  · rintro ⟨item, inside, held⟩
    exact ⟨item, List.perm_middle.mem_iff.mpr inside, held⟩

theorem TrustResult.rank_le_iff (first second : TrustResult) : first.rank ≤ second.rank ↔
      (first = .block → second = .block) ∧ (second = .allow → first = .allow) := by
  cases first <;> cases second <;> decide

section Comparison

variable {rt : Runtime} {tools : TextTools} {patterns : List String} {policy : Fields}
variable {standing : StandingPolicy} {front back : List ChangeRecord} {rename : Rename}
variable {old new : String}

theorem not_covers_of_deleted (away : Sensitive patterns (rename.deleted old)) :
    ¬StandingCovers rt tools patterns standing
      (front ++ rename.deleted old :: rename.added new :: back) := by
  intro covers
  exact detected_deleted_ne_nil (covers.intact _ (by simp) away)

theorem covers_split_iff (ordinary : ¬Sensitive patterns (rename.deleted old))
    (covers : StandingCovers rt tools patterns standing (front ++ rename.whole old new :: back)) :
    StandingCovers rt tools patterns standing
        (front ++ rename.deleted old :: rename.added new :: back) ↔ ¬(rename.oldText = none ∧
        ∃ record ∈ front ++ back, Sensitive patterns record ∧ record.path = old) := by
  -- each sensitive record of the split form has its path in the rename form
  have kept : ∀ path, (∃ other ∈ front ++ rename.deleted old :: rename.added new :: back,
      Sensitive patterns other ∧ other.path = path) →
      ∃ other ∈ front ++ rename.whole old new :: back,
        Sensitive patterns other ∧ other.path = path := by
    intro path found
    rcases exists_mem_middle_iff.mp found with ⟨sensitive, _⟩ | found
    · exact absurd sensitive ordinary
    · rcases exists_mem_middle_iff.mp found with ⟨sensitive, named⟩ | found
      · exact exists_mem_middle_iff.mpr (Or.inl ⟨sensitive_whole_of_added sensitive, named⟩)
      · exact exists_mem_middle_iff.mpr (Or.inr found)
  have among : ∀ record ∈ front ++ back, record ∈ front ++ rename.whole old new :: back :=
    fun record inside => List.perm_middle.mem_iff.mpr (List.mem_cons_of_mem _ inside)
  have wholeAmong : rename.whole old new ∈ front ++ rename.whole old new :: back := by simp
  have parts : ∀ record ∈ front ++ rename.deleted old :: rename.added new :: back,
      record = rename.deleted old ∨ record = rename.added new ∨ record ∈ front ++ back := by
    intro record inside
    simp only [List.mem_append, List.mem_cons] at inside ⊢
    tauto
  constructor
  · rintro split ⟨missing, record, inside, shared⟩
    have verified := split.verified (rename.deleted old) (by simp)
      ⟨record, by simp only [List.mem_append, List.mem_cons] at inside ⊢; tauto, shared⟩
    exact isVerified_deleted_iff.mp verified missing
  · intro inspected
    constructor
    · exact covers.active
    · intro record inside sensitive
      rcases parts record inside with rfl | rfl | inside
      · exact absurd sensitive ordinary
      · exact detected_added_of_whole
          (covers.intact _ wholeAmong (sensitive_whole_of_added sensitive))
      · exact covers.intact record (among record inside) sensitive
    · intro record inside sensitive
      rcases parts record inside with rfl | rfl | inside
      · exact absurd sensitive ordinary
      · exact covers.unreserved (rename.whole old new) wholeAmong (sensitive_whole_of_added sensitive)
      · exact covers.unreserved record (among record inside) sensitive
    · intro record inside shared
      have shared := kept record.path shared
      rcases parts record inside with rfl | rfl | inside
      · rcases exists_mem_middle_iff.mp shared with ⟨sensitive, _⟩ | shared
        · have verified := covers.verified _ wholeAmong ⟨_, wholeAmong, sensitive, rfl⟩
          exact isVerified_deleted_iff.mpr (isVerified_whole_iff.mp verified).1
        · exact isVerified_deleted_iff.mpr fun missing => inspected ⟨missing, shared⟩
      · have verified := covers.verified (rename.whole old new) wholeAmong shared
        exact isVerified_added_iff.mpr (isVerified_whole_iff.mp verified).2
      · exact covers.verified record (among record inside) shared

theorem loosening_iff_of_read (read : ∃ path, normalizeRepoPath old = .ok path) :
    Loosening rt tools patterns policy standing front back rename old new ↔
      PolicyAccepted policy standing ∧
        ((Sensitive patterns (rename.deleted old) ∧ ¬Sensitive patterns (rename.whole old new) ∧
            ¬∃ record ∈ front ++ back, Sensitive patterns record) ∨ PolicyGates policy ∧
            (((Sensitive patterns (rename.whole old new) ∧
                (¬Sensitive patterns (rename.deleted old) ∨
                  ¬Sensitive patterns (rename.added new)) ∧
                (¬∃ record ∈ front ++ back, Ordinary patterns record) ∧
                (Authoritative patterns (rename.deleted old) ∨
                  Authoritative patterns (rename.added new) ∨
                  ∃ record ∈ front ++ back, Authoritative patterns record)) ∨
              (Authoritative patterns (rename.deleted old) ∧
                ¬Authoritative patterns (rename.whole old new) ∧
                (¬∃ record ∈ front ++ back, Authoritative patterns record) ∧
                (¬Sensitive patterns (rename.whole old new) ∨
                  ∃ record ∈ front ++ back, Ordinary patterns record))) ∨
              (¬Mixed patterns (front ++ rename.whole old new :: back) ∧
                StandingCovers rt tools patterns standing (front ++ rename.whole old new :: back) ∧
                (Sensitive patterns (rename.deleted old) ∨ rename.oldText = none ∧
                    ∃ record ∈ front ++ back,
                      Sensitive patterns record ∧ record.path = old)))) := by
  constructor
  · intro loosening
    cases loosening with
    | blank unread =>
        rcases read with ⟨path, reads⟩
        exact absurd reads (unread path)
    | unseen accepted away missed alone =>
        exact ⟨accepted, Or.inl ⟨away, missed, by simpa using alone⟩⟩
    | crossing accepted gates touched crosses single authoritative =>
        exact ⟨accepted, Or.inr ⟨gates, Or.inl (Or.inl ⟨touched, crosses, by simpa using single,
          authoritative⟩)⟩⟩
    | projected accepted gates away generated single feature =>
        exact ⟨accepted, Or.inr ⟨gates, Or.inl (Or.inr ⟨away, generated, by simpa using single,
          feature⟩)⟩⟩
    | away accepted gates away unmixed covers =>
        exact ⟨accepted, Or.inr ⟨gates, Or.inr ⟨unmixed, covers, Or.inl away⟩⟩⟩
    | uninspected accepted gates ordinary missing shared unmixed covers =>
        exact ⟨accepted, Or.inr ⟨gates, Or.inr ⟨unmixed, covers, Or.inr ⟨missing, shared⟩⟩⟩⟩
  · rintro ⟨accepted, ⟨away, missed, alone⟩ |
      ⟨gates, (⟨touched, crosses, single, authoritative⟩ | ⟨away, generated, single, feature⟩) |
        ⟨unmixed, covers, lost⟩⟩⟩
    · exact .unseen accepted away missed (by simpa using alone)
    · exact .crossing accepted gates touched crosses (by simpa using single) authoritative
    · exact .projected accepted gates away generated (by simpa using single) feature
    · by_cases away : Sensitive patterns (rename.deleted old)
      · exact .away accepted gates away unmixed covers
      · rcases lost.resolve_left away with ⟨missing, shared⟩
        exact .uninspected accepted gates away missing shared unmixed covers

variable {inspectedWhole inspectedSplit : List Inspected}

theorem mixed_split_iff
    (surveyedWhole : (front ++ rename.whole old new :: back).mapM (inspect rt tools patterns) =
      .ok inspectedWhole)
    (surveyedSplit : (front ++ rename.deleted old :: rename.added new :: back).mapM
      (inspect rt tools patterns) = .ok inspectedSplit) :
    (Mixed patterns (front ++ rename.deleted old :: rename.added new :: back) ∧
        ¬Mixed patterns (front ++ rename.whole old new :: back)) ↔
      (Sensitive patterns (rename.whole old new) ∧
          (¬Sensitive patterns (rename.deleted old) ∨ ¬Sensitive patterns (rename.added new)) ∧
          (¬∃ record ∈ front ++ back, Ordinary patterns record) ∧
          (Authoritative patterns (rename.deleted old) ∨ Authoritative patterns (rename.added new) ∨
            ∃ record ∈ front ++ back, Authoritative patterns record)) ∨
        (Authoritative patterns (rename.deleted old) ∧
          ¬Authoritative patterns (rename.whole old new) ∧
          (¬∃ record ∈ front ++ back, Authoritative patterns record) ∧
          (¬Sensitive patterns (rename.whole old new) ∨
            ∃ record ∈ front ++ back, Ordinary patterns record)) := by
  have whole : Ordinary patterns (rename.whole old new) ↔ _ :=
    ordinary_iff_of_surveyed surveyedWhole (by simp)
  have deleted : Ordinary patterns (rename.deleted old) ↔ _ :=
    ordinary_iff_of_surveyed surveyedSplit (by simp)
  have added : Ordinary patterns (rename.added new) ↔ _ :=
    ordinary_iff_of_surveyed surveyedSplit (by simp)
  have onto : Sensitive patterns (rename.added new) → Sensitive patterns (rename.whole old new) :=
    sensitive_whole_of_added
  have authority : Authoritative patterns (rename.added new) →
      Sensitive patterns (rename.added new) ∧ Authoritative patterns (rename.whole old new) :=
    fun holds => ⟨holds.1, onto holds.1, holds.2⟩
  simp only [Mixed, exists_mem_middle_iff, whole, deleted, added]
  constructor
  · rintro ⟨⟨authorities, ordinary⟩, unmixed⟩
    by_cases feature : ¬Sensitive patterns (rename.whole old new) ∨
        ∃ record ∈ front ++ back, Ordinary patterns record
    · have none := fun authority => unmixed ⟨authority, feature⟩
      rcases authorities with moved | covered | others
      · exact Or.inr ⟨moved, fun holds => none (Or.inl holds), fun holds => none (Or.inr holds),
          feature⟩
      · exact absurd (Or.inl (authority covered).2) none
      · exact absurd (Or.inr others) none
    · rcases not_or.mp feature with ⟨touched, single⟩
      rw [← or_assoc] at ordinary
      exact Or.inl ⟨not_not.mp touched, ordinary.resolve_right single, single, authorities⟩
  · rintro (⟨touched, crosses, single, authorities⟩ | ⟨moved, hidden, single, feature⟩)
    · constructor
      · exact ⟨authorities, or_assoc.mp (Or.inl crosses)⟩
      · rintro ⟨_, untouched | others⟩
        · exact untouched touched
        · exact single others
    · constructor
      · refine ⟨Or.inl moved, Or.inr (feature.imp_left ?_)⟩
        exact fun untouched covered => untouched (onto covered)
      · rintro ⟨covered | others, _⟩
        · exact hidden covered
        · exact single others

/-- The two results compare by the ways in which a rename is classified less strictly. -/
theorem rank_le_rank_iff (read : ∃ path, normalizeRepoPath old = .ok path)
    (metadata : standingAuthorizationPolicyMetadata rt policy = .ok standing)
    (surveyedWhole : (front ++ rename.whole old new :: back).mapM (inspect rt tools patterns) =
      .ok inspectedWhole)
    (surveyedSplit : (front ++ rename.deleted old :: rename.added new :: back).mapM
      (inspect rt tools patterns) = .ok inspectedSplit) :
    (resultOf policy standing inspectedSplit).rank ≤ (resultOf policy standing inspectedWhole).rank ↔
      ¬Loosening rt tools patterns policy standing front back rename old new := by
  have onto : Sensitive patterns (rename.added new) → Sensitive patterns (rename.whole old new) :=
    sensitive_whole_of_added
  have touchedWhole : Mixed patterns (front ++ rename.whole old new :: back) →
      ∃ record ∈ front ++ rename.whole old new :: back, Sensitive patterns record := by
    rintro ⟨⟨record, inside, authoritative⟩, _⟩
    exact ⟨record, inside, authoritative.1⟩
  have touchedSplit : Mixed patterns (front ++ rename.deleted old :: rename.added new :: back) →
      ∃ record ∈ front ++ rename.deleted old :: rename.added new :: back,
        Sensitive patterns record := by
    rintro ⟨⟨record, inside, authoritative⟩, _⟩
    exact ⟨record, inside, authoritative.1⟩
  have unseen : (Sensitive patterns (rename.deleted old) ∧
      ¬Sensitive patterns (rename.whole old new) ∧
      ¬∃ record ∈ front ++ back, Sensitive patterns record) ↔
      (∃ record ∈ front ++ rename.deleted old :: rename.added new :: back,
        Sensitive patterns record) ∧
      ¬∃ record ∈ front ++ rename.whole old new :: back, Sensitive patterns record := by
    simp only [exists_mem_middle_iff]
    constructor
    · rintro ⟨away, untouched, alone⟩
      exact ⟨Or.inl away, not_or.mpr ⟨untouched, alone⟩⟩
    · rintro ⟨away | covered | others, none⟩
      · exact ⟨away, not_or.mp none⟩
      · exact absurd (Or.inl (sensitive_whole_of_added covered)) none
      · exact absurd (Or.inr others) none
  have hidden : (∃ record ∈ front ++ rename.deleted old :: rename.added new :: back,
      Sensitive patterns record) →
      (¬∃ record ∈ front ++ rename.whole old new :: back, Sensitive patterns record) →
      ¬StandingCovers rt tools patterns standing
        (front ++ rename.deleted old :: rename.added new :: back) :=
    fun reached missed => not_covers_of_deleted (unseen.mpr ⟨reached, missed⟩).1
  have reaches : (Sensitive patterns (rename.deleted old) ∨ rename.oldText = none ∧
      ∃ record ∈ front ++ back, Sensitive patterns record ∧ record.path = old) →
      ∃ record ∈ front ++ rename.deleted old :: rename.added new :: back,
        Sensitive patterns record := by
    simp only [exists_mem_middle_iff]
    rintro (away | ⟨_, record, inside, sensitive, _⟩)
    · exact Or.inl away
    · exact Or.inr (Or.inr ⟨record, inside, sensitive⟩)
  have covers : StandingCovers rt tools patterns standing
        (front ++ rename.whole old new :: back) →
      (StandingCovers rt tools patterns standing
          (front ++ rename.deleted old :: rename.added new :: back) ↔
        ¬(Sensitive patterns (rename.deleted old) ∨ rename.oldText = none ∧
          ∃ record ∈ front ++ back, Sensitive patterns record ∧ record.path = old)) := by
    intro covered
    by_cases away : Sensitive patterns (rename.deleted old)
    · simp [not_covers_of_deleted away, away]
    · rw [covers_split_iff away covered, or_iff_right away]
  rw [loosening_iff_of_read read, ← mixed_split_iff surveyedWhole surveyedSplit, unseen,
    TrustResult.rank_le_iff, resultOf_eq_allow_iff surveyedWhole metadata,
    resultOf_eq_allow_iff surveyedSplit metadata, Ne, Ne, resultOf_eq_block_iff surveyedWhole,
    resultOf_eq_block_iff surveyedSplit]
  clear surveyedWhole surveyedSplit metadata read unseen
  generalize (∃ record ∈ front ++ rename.whole old new :: back, Sensitive patterns record) = whole at *
  generalize (∃ record ∈ front ++ rename.deleted old :: rename.added new :: back,
    Sensitive patterns record) = split at *
  generalize Mixed patterns (front ++ rename.deleted old :: rename.added new :: back) = mixedSplit at *
  generalize Mixed patterns (front ++ rename.whole old new :: back) = mixedWhole at *
  generalize StandingCovers rt tools patterns standing
    (front ++ rename.deleted old :: rename.added new :: back) = coversSplit at *
  generalize StandingCovers rt tools patterns standing
    (front ++ rename.whole old new :: back) = coversWhole at *
  generalize (Sensitive patterns (rename.deleted old) ∨ rename.oldText = none ∧
    ∃ record ∈ front ++ back, Sensitive patterns record ∧ record.path = old) = lost at *
  -- what is left compares two tables of truth values
  by_cases accepts : PolicyAccepted policy standing
  · by_cases touched : whole
    · by_cases gated : PolicyGates policy
      · by_cases mixes : mixedWhole
        · simp [accepts, gated, mixes, touched]
        · by_cases covered : coversWhole <;> by_cases away : lost <;> simp_all
      · simp [accepts, gated, touched]
    · by_cases reached : split <;> simp_all
  · simp [accepts]

theorem read_of_inspect_deleted {item : Inspected}
    (found : inspect rt tools patterns (rename.deleted old) = .ok item) :
    ∃ path, normalizeRepoPath old = .ok path := by
  by_cases integrity : old ∈ integrityProjections
  · simp only [integrityProjections, List.mem_cons, List.not_mem_nil, or_false] at integrity
    rcases integrity with rfl | rfl | rfl
    · exact ⟨"MANIFEST.json", by decide +kernel⟩
    · exact ⟨"SHA256SUMS.txt", by decide +kernel⟩
    · exact ⟨".gitattributes", by decide +kernel⟩
  · rcases touches_of_inspect found with ⟨touched, touches⟩
    cases read : normalizeRepoPath old with
    | ok path => exact ⟨path, rfl⟩
    | error error =>
        simp [touchesProtected, Rename.deleted, integrity, isProtectedPath, read, bind,
          Except.bind] at touches

theorem exists_inspect_deleted (read : ∃ path, normalizeRepoPath old = .ok path) :
    ∃ item, inspect rt tools patterns (rename.deleted old) = .ok item := by
  rcases read with ⟨path, read⟩
  have protection : isProtectedPath old patterns = .ok (patterns.any (patternMatches path)) :=
    isProtectedPath_eq_ok_iff.mpr ⟨path, read, rfl⟩
  exact exists_inspect_of_touches (touches_deleted_of_read protection)
    (exists_detect_of_read read (Or.inr rfl))

/-- The addition is surveyed wherever the rename is. -/
theorem exists_inspect_added {item : Inspected}
    (found : inspect rt tools patterns (rename.whole old new) = .ok item) :
    ∃ item, inspect rt tools patterns (rename.added new) = .ok item := by
  rcases touches_of_inspect found with ⟨touched, touches⟩
  rcases touches_whole_eq_ok_iff.mp touches with ⟨onto, rfl⟩ | ⟨ordinary, _⟩
  · rcases inspect_eq_ok_iff.mp found with ⟨ordinary, _⟩ | ⟨_, reasons, detected, _⟩
    · exact absurd ordinary (not_ordinary_of_sensitive touches)
    · rcases bind_ok_iff.mp detected with ⟨normalized, readNew, _⟩
      exact exists_inspect_of_touches onto (exists_detect_of_read readNew (Or.inl rfl))
  · exact ⟨_, inspect_eq_ok_iff.mpr (Or.inl ⟨ordinary, rfl⟩)⟩

theorem sensitive_added_of_unread {item : Inspected}
    (found : inspect rt tools patterns (rename.whole old new) = .ok item)
    (unread : ¬∃ path, normalizeRepoPath old = .ok path) :
    Sensitive patterns (rename.added new) := by
  rcases touches_of_inspect found with ⟨touched, touches⟩
  rcases touches_whole_eq_ok_iff.mp touches with ⟨onto, _⟩ | ⟨_, protection⟩
  · exact onto
  · rcases isProtectedPath_eq_ok_iff.mp protection with ⟨path, read, _⟩
    exact absurd ⟨path, read⟩ unread

end Comparison

/-! ## The two classifications -/

section Classifications

variable (rt : Runtime) (tools : TextTools) (policy : Fields) (before after : List DiffItem)
variable (rename : Rename)

/-- The deletion and the addition in place of the rename are classified, and not more strictly
than `whole`. -/
def NotStricter (whole : Classification) : Prop :=
  ∃ split, classifyDiff rt tools (before ++ rename.deletion :: rename.addition :: after) policy =
      .ok split ∧ split.result.rank ≤ whole.result.rank

variable {rt tools policy before after rename}

theorem mapM_item_eq_ok_iff {records : List ChangeRecord} :
    (before ++ rename.item :: after).mapM changeRecord = .ok records ↔
      ∃ front back old new, before.mapM changeRecord = .ok front ∧
        after.mapM changeRecord = .ok back ∧ normalizeRepoPath rename.oldPath = .ok old ∧
        normalizeRepoPath rename.path = .ok new ∧
        records = front ++ rename.whole old new :: back := by
  rw [mapM_append_eq_ok_iff]
  constructor
  · rintro ⟨front, others, readFront, readOthers, rfl⟩
    rcases mapM_cons_eq_ok_iff.mp readOthers with ⟨record, back, readItem, readBack, rfl⟩
    rcases changeRecord_item_eq_ok_iff.mp readItem with ⟨new, old, readNew, readOld, rfl⟩
    exact ⟨front, back, old, new, readFront, readBack, readOld, readNew, rfl⟩
  · rintro ⟨front, back, old, new, readFront, readBack, readOld, readNew, rfl⟩
    exact ⟨front, _, readFront, mapM_cons_eq_ok_iff.mpr ⟨_, back,
      changeRecord_item_eq_ok_iff.mpr ⟨new, old, readNew, readOld, rfl⟩, readBack, rfl⟩, rfl⟩

theorem mapM_split {front back : List ChangeRecord} {old new : String}
    (readFront : before.mapM changeRecord = .ok front)
    (readBack : after.mapM changeRecord = .ok back)
    (readOld : normalizeRepoPath rename.oldPath = .ok old)
    (readNew : normalizeRepoPath rename.path = .ok new) :
    (before ++ rename.deletion :: rename.addition :: after).mapM changeRecord =
      .ok (front ++ rename.deleted old :: rename.added new :: back) :=
  mapM_append_eq_ok_iff.mpr ⟨front, _, readFront, mapM_cons_eq_ok_iff.mpr
    ⟨_, _, changeRecord_deletion readOld, mapM_cons_eq_ok_iff.mpr
      ⟨_, back, changeRecord_addition readNew, readBack, rfl⟩, rfl⟩, rfl⟩

theorem loosens_iff {patterns : List String} {standing : StandingPolicy}
    {front back : List ChangeRecord} {old new : String}
    (valid : basePatterns rt policy = some patterns)
    (metadata : standingAuthorizationPolicyMetadata rt policy = .ok standing)
    (readFront : before.mapM changeRecord = .ok front)
    (readBack : after.mapM changeRecord = .ok back)
    (readOld : normalizeRepoPath rename.oldPath = .ok old)
    (readNew : normalizeRepoPath rename.path = .ok new) :
    Loosens rt tools policy before after rename ↔
      Loosening rt tools patterns policy standing front back rename old new := by
  constructor
  · rintro ⟨_, _, _, _, _, _, valid', metadata', readFront', readBack', readOld', readNew', holds⟩
    cases valid.symm.trans valid'
    cases metadata.symm.trans metadata'
    cases readFront.symm.trans readFront'
    cases readBack.symm.trans readBack'
    cases readOld.symm.trans readOld'
    cases readNew.symm.trans readNew'
    exact holds
  · intro holds
    exact ⟨_, _, _, _, _, _, valid, metadata, readFront, readBack, readOld, readNew, holds⟩

theorem exists_survey_split_iff {patterns : List String} {front back : List ChangeRecord}
    {old new : String} {inspected : List Inspected}
    (surveyed : (front ++ rename.whole old new :: back).mapM (inspect rt tools patterns) =
      .ok inspected) :
    (∃ inspectedSplit, (front ++ rename.deleted old :: rename.added new :: back).mapM
        (inspect rt tools patterns) = .ok inspectedSplit) ↔
      ∃ path, normalizeRepoPath old = .ok path := by
  constructor
  · rintro ⟨inspectedSplit, surveyedSplit⟩
    have inside : rename.deleted old ∈ front ++ rename.deleted old :: rename.added new :: back := by
      simp
    rcases exists_of_mem_of_mapM surveyedSplit inside with ⟨_, _, found⟩
    exact read_of_inspect_deleted found
  · intro readable
    rcases mapM_append_eq_ok_iff.mp surveyed with ⟨fronts, _, surveyedFront, surveyedRest, _⟩
    rcases mapM_cons_eq_ok_iff.mp surveyedRest with ⟨_, backs, found, surveyedBack, _⟩
    rcases exists_inspect_added found with ⟨added, foundAdded⟩
    rcases exists_inspect_deleted readable with ⟨deleted, foundDeleted⟩
    have surveyedAdded := mapM_cons_eq_ok_iff.mpr ⟨_, _, foundAdded, surveyedBack, rfl⟩
    have surveyedPair := mapM_cons_eq_ok_iff.mpr ⟨_, _, foundDeleted, surveyedAdded, rfl⟩
    exact ⟨_, mapM_append_eq_ok_iff.mpr ⟨_, _, surveyedFront, surveyedPair, rfl⟩⟩

/-- A classified rename is no less strict than its deletion and addition exactly where none of
the listed ways applies. -/
theorem notStricter_iff {whole : Classification}
    (classified : classifyDiff rt tools (before ++ rename.item :: after) policy = .ok whole) :
    NotStricter rt tools policy before after rename whole ↔
      ¬Loosens rt tools policy before after rename := by
  cases valid : basePatterns rt policy with
  | none =>
      rcases (classifyDiff_eq_ok_iff_of_invalid valid).mp classified with ⟨⟨records, read⟩, rfl⟩
      rcases mapM_item_eq_ok_iff.mp read with
        ⟨front, back, old, new, readFront, readBack, readOld, readNew, rfl⟩
      constructor
      · rintro _ ⟨_, _, _, _, _, _, valid', _⟩
        cases valid.symm.trans valid'
      · intro _
        exact ⟨_, (classifyDiff_eq_ok_iff_of_invalid valid).mpr
          ⟨⟨_, mapM_split readFront readBack readOld readNew⟩, rfl⟩, Nat.le_refl _⟩
  | some patterns =>
      rcases (classifyDiff_eq_ok_iff valid (by simp)).mp classified with
        ⟨_, inspected, standing, read, surveyed, metadata, rfl⟩
      rcases mapM_item_eq_ok_iff.mp read with
        ⟨front, back, old, new, readFront, readBack, readOld, readNew, rfl⟩
      have split := mapM_split readFront readBack readOld readNew
      rw [loosens_iff valid metadata readFront readBack readOld readNew]
      by_cases readable : ∃ path, normalizeRepoPath old = .ok path
      · rcases (exists_survey_split_iff surveyed).mpr readable with ⟨inspectedSplit, surveyedSplit⟩
        have classifiedSplit : classifyDiff rt tools
            (before ++ rename.deletion :: rename.addition :: after) policy = _ :=
          classifyDiff_of_surveyed valid (by simp) split surveyedSplit metadata
        rw [← rank_le_rank_iff readable metadata surveyed surveyedSplit, NotStricter, classifiedSplit,
          classification_result]
        constructor
        · rintro ⟨result, same, le⟩
          rcases Except.ok.inj same with rfl
          rw [classification_result] at le
          exact le
        · intro le
          refine ⟨_, rfl, ?_⟩
          rw [classification_result]
          exact le
      · constructor
        · rintro ⟨_, classifiedSplit, _⟩
          rcases (classifyDiff_eq_ok_iff valid (by simp)).mp classifiedSplit with
            ⟨_, inspectedSplit, _, read', surveyed', _⟩
          cases split.symm.trans read'
          exact absurd ((exists_survey_split_iff surveyed).mp ⟨_, surveyed'⟩) readable
        · intro tight
          have inside : rename.whole old new ∈ front ++ rename.whole old new :: back := by simp
          rcases exists_of_mem_of_mapM surveyed inside with ⟨_, _, found⟩
          exact absurd (.blank (not_exists.mp readable) (sensitive_added_of_unread found readable))
            tight

end Classifications

/-! ## A reserved file moved away -/

/-- A base policy with an active standing authorization that reserves `trust.py`. -/
def reservedPolicy : Fields :=
  [("paths", .arr [.str ".adwf/**", .str "AGENTS.md"]),
    ("self_modification_in_feature_pr", .str "FORBIDDEN"),
    ("standing_authorization", .obj
      [("issued_by", .str "REPOSITORY_OWNER"),
        ("manual_required_paths", .arr [.str ".adwf/policies/**", .str ".adwf/lib/trust.py"]),
        ("mode", .str "HUMAN_BY_EXCEPTION"),
        ("non_overridable_invariants", .arr [.str "FREE_ONLY", .str "NO_BYPASS",
          .str "EVIDENCE_INTEGRITY", .str "NO_SELF_AUTHORIZATION"]),
        ("require_exact_current_base", .bool true),
        ("revision", .num 1),
        ("revocation", .str "HUMAN_GATED_BASE_POLICY_CHANGE"),
        ("schema_version", .num 1),
        ("scope", .str "PULL_REQUEST_TRUST_CHANGES"),
        ("status", .str "ACTIVE")]),
    ("weakening_is_risk", .str "R4"),
    ("weakening_requires_human", .bool true)]

/-- The trust classification itself, moved out of the protected tree. -/
def movedAway : Rename where
  path := "src/trust.py"
  oldPath := ".adwf/lib/trust.py"
  status := "R100"
  oldText := some "x = 1"
  newText := some "x = 1"
  renames := by decide +kernel
  named := by decide

/-- The built-ins on the texts of the rename, which are no JSON documents. -/
def sourceTools : TextTools :=
  ⟨fun _ => .malformed, String.toLower⟩

def sourceRuntime : Runtime :=
  ⟨fun _ => "", fun _ => none, fun _ => none, fun _ => ""⟩

theorem result_movedAway : (classifyDiff sourceRuntime sourceTools [movedAway.item]
    reservedPolicy).map (·.result) = .ok .allow := by
  decide +kernel

theorem result_movedAway_split : (classifyDiff sourceRuntime sourceTools
    [movedAway.deletion, movedAway.addition] reservedPolicy).map (·.result) = .ok .block := by
  decide +kernel

theorem not_notStricter_movedAway {whole : Classification} (allowed : whole.result = .allow) :
    ¬NotStricter sourceRuntime sourceTools reservedPolicy [] [] movedAway whole := by
  rintro ⟨split, classified, le⟩
  rcases exists_of_map_eq_ok result_movedAway_split with ⟨other, found, blocked⟩
  cases found.symm.trans classified
  rw [allowed, blocked] at le
  exact absurd le (by decide)

theorem notStricter_iff_movedAway :
    Loosens sourceRuntime sourceTools reservedPolicy [] [] movedAway := by
  rcases exists_of_map_eq_ok result_movedAway with ⟨whole, classified, allowed⟩
  by_contra tight
  exact not_notStricter_movedAway allowed ((notStricter_iff classified).mpr tight)

/-- The move is allowed by the standing authorization, its two halves are blocked. -/
theorem not_always_notStricter :
    ¬ ∀ (rt : Runtime) (tools : TextTools) (policy : Fields) (before after : List DiffItem)
      (rename : Rename) (whole : Classification),
      classifyDiff rt tools (before ++ rename.item :: after) policy = .ok whole →
      NotStricter rt tools policy before after rename whole := by
  intro law
  rcases exists_of_map_eq_ok result_movedAway with ⟨whole, classified, allowed⟩
  exact not_notStricter_movedAway allowed (law _ _ _ [] [] movedAway whole classified)

end Adwf.Trust
