import Mathlib.Data.List.Perm.Basic
import Adwf.LeaseRegistry.Resource

/-!
# Overlapping resources

Scopes are compared as texts with a slash appended.  Here the comparison is
read over the segments of the scopes, and the conflict keys over the pairs of
resources that have a segment prefix or a global member in common.
-/

namespace Adwf.Text

section Parts

variable {α : Type} {separator : α} {left right : List α}

theorem intercalate_append {first last : List (List α)} (filled : first ≠ []) (others : last ≠ []) :
    [separator].intercalate (first ++ last) =
      [separator].intercalate first ++ separator :: [separator].intercalate last := by
  induction first with
  | nil => exact absurd rfl filled
  | cons part parts ih =>
      by_cases alone : parts = []
      · rw [alone, List.singleton_append, List.intercalate_cons_of_ne_nil others,
          List.intercalate_singleton, List.append_assoc, List.singleton_append]
      · have joined : parts ++ last ≠ [] := fun empty => alone (List.append_eq_nil_iff.mp empty).1
        rw [List.cons_append, List.intercalate_cons_of_ne_nil joined, ih alone,
          List.intercalate_cons_of_ne_nil alone, List.append_assoc, List.append_assoc,
          List.append_assoc]

/-- The parts of a text begin with the parts of another exactly when the text
is the other or goes on after it with a separator. -/
theorem splitOn_prefix_iff [DecidableEq α] : left.splitOn separator <+: right.splitOn separator ↔
      left = right ∨ left ++ [separator] <+: right := by
  have whole : ∀ path : List _, [separator].intercalate (path.splitOn separator) = path :=
    fun _ => List.intercalate_splitOn separator
  constructor
  · rintro ⟨rest, parts⟩
    by_cases alone : rest = []
    · rw [alone, List.append_nil] at parts
      left
      rw [← whole left, parts, List.intercalate_splitOn]
    · right
      refine ⟨[separator].intercalate rest, ?_⟩
      rw [← whole right, ← parts, intercalate_append (List.splitOn_ne_nil _ _) alone,
        List.intercalate_splitOn, List.append_assoc, List.singleton_append]
  · rintro (rfl | ⟨rest, rfl⟩)
    · exact List.prefix_refl _
    · rw [List.append_assoc, List.singleton_append, List.splitOn_append_cons_self]
      exact List.prefix_append _ _

end Parts

end Adwf.Text

namespace Adwf.LeaseRegistry

open Adwf.Fallible

/-! ## Scopes by segments -/

theorem startsWith_slash_iff {left right : String} :
    Text.startsWith left (right ++ "/") = true ↔ right.toList ++ ['/'] <+: left.toList := by
  rw [Text.startsWith, List.isPrefixOf_iff_prefix, String.toList_append]
  rfl

theorem scopeOverlap_iff {left right : String} : scopeOverlap left right = true ↔
      scopeParts left <+: scopeParts right ∨ scopeParts right <+: scopeParts left := by
  rw [scopeOverlap, Bool.or_eq_true, Bool.or_eq_true, decide_eq_true_iff, startsWith_slash_iff,
    startsWith_slash_iff, scopeParts, scopeParts, Text.splitOn_prefix_iff,
    Text.splitOn_prefix_iff, String.toList_inj, String.toList_inj]
  constructor
  · rintro ((same | back) | ahead)
    · exact Or.inl (Or.inl same)
    · exact Or.inr (Or.inr back)
    · exact Or.inl (Or.inr ahead)
  · rintro ((same | ahead) | (same | back))
    · exact Or.inl (Or.inl same)
    · exact Or.inr ahead
    · exact Or.inl (Or.inl same.symm)
    · exact Or.inl (Or.inr back)

theorem eq_of_scopeOverlap {left right : String} (overlap : scopeOverlap left right = true)
    (same : left.length = right.length) : left = right := by
  rw [scopeOverlap, Bool.or_eq_true, Bool.or_eq_true, decide_eq_true_iff, startsWith_slash_iff,
    startsWith_slash_iff] at overlap
  rw [← String.length_toList, ← String.length_toList] at same
  rcases overlap with (equal | back) | ahead
  · exact equal
  · have shorter := back.length_le
    rw [List.length_append, List.length_singleton] at shorter
    omega
  · have shorter := ahead.length_le
    rw [List.length_append, List.length_singleton] at shorter
    omega

/-- Two declarations that collide: a global one, or two of one kind whose
segments are a prefix of each other. -/
def Related (left right : Resource) : Prop :=
  left.isGlobal = true ∨ right.isGlobal = true ∨
    left.kind = right.kind ∧
      (scopeParts left.scope <+: scopeParts right.scope ∨
        scopeParts right.scope <+: scopeParts left.scope)

theorem conflictKey_ne_none_iff {left right : Resource} :
    conflictKey left right ≠ none ↔ Related left right := by
  rw [Ne, conflictKey_eq_none_iff, Related, ← scopeOverlap_iff]
  cases left.isGlobal <;> cases right.isGlobal <;> simp

/-- The key of two declarations does not depend on their order. -/
theorem conflictKey_comm (left right : Resource) :
    conflictKey left right = conflictKey right left := by
  have symmetric : (decide (right.kind = left.kind) && scopeOverlap right.scope left.scope) =
      (decide (left.kind = right.kind) && scopeOverlap left.scope right.scope) := by
    rw [scopeOverlap_comm, decide_eq_decide.mpr eq_comm]
  unfold conflictKey
  rw [Bool.or_comm right.isGlobal, symmetric]
  split
  · rfl
  · split
    · rename_i collide
      rw [Bool.and_eq_true, decide_eq_true_iff] at collide
      rw [collide.1]
      congr 2
      by_cases same : left.scope.length = right.scope.length
      · rw [eq_of_scopeOverlap collide.2 same]
      · split_ifs
        all_goals first | rfl | omega
    · rfl

section Lists

variable {left right : Json} {leftItems rightItems : List Resource}

/-- The keys of all pairs, sorted and without repetition. -/
def conflictKeys (leftItems rightItems : List Resource) : List String :=
  (leftItems.flatMap fun item => rightItems.filterMap (conflictKey item)).dedup.insertionSort
    (· ≤ ·)

theorem conflictingResourceKeys_eq (leftCanonical : requireCanonical left = .ok leftItems)
    (rightCanonical : requireCanonical right = .ok rightItems) :
    conflictingResourceKeys left right = .ok (conflictKeys leftItems rightItems) := by
  rw [conflictingResourceKeys, leftCanonical, rightCanonical]
  rfl

theorem mem_conflictKeys {key : String} : key ∈ conflictKeys leftItems rightItems ↔
      ∃ first ∈ leftItems, ∃ second ∈ rightItems, conflictKey first second = some key := by
  rw [conflictKeys, List.mem_insertionSort, List.mem_dedup, List.mem_flatMap]
  simp only [List.mem_filterMap]

theorem conflictKeys_comm (leftItems rightItems : List Resource) :
    conflictKeys leftItems rightItems = conflictKeys rightItems leftItems := by
  have same (key : String) :
      key ∈ conflictKeys leftItems rightItems ↔ key ∈ conflictKeys rightItems leftItems := by
    rw [mem_conflictKeys, mem_conflictKeys]
    constructor
    · rintro ⟨first, firstIn, second, secondIn, found⟩
      exact ⟨second, secondIn, first, firstIn, (conflictKey_comm second first).trans found⟩
    · rintro ⟨first, firstIn, second, secondIn, found⟩
      exact ⟨second, secondIn, first, firstIn, (conflictKey_comm second first).trans found⟩
  have distinct (items others : List Resource) : (conflictKeys items others).Nodup :=
    (List.perm_insertionSort _ _).nodup_iff.mpr (List.nodup_dedup _)
  exact List.Perm.eq_of_pairwise' (List.pairwise_insertionSort _ _)
    (List.pairwise_insertionSort _ _)
    ((List.perm_ext_iff_of_nodup (distinct _ _) (distinct _ _)).mpr same)

/-- Keys are found exactly when some pair of declarations collides. -/
theorem conflictKeys_ne_nil_iff : conflictKeys leftItems rightItems ≠ [] ↔
      ∃ first ∈ leftItems, ∃ second ∈ rightItems, Related first second := by
  rw [Ne, ← List.isEmpty_iff, Bool.not_eq_true, List.isEmpty_eq_false_iff_exists_mem]
  simp only [mem_conflictKeys, ← conflictKey_ne_none_iff, Option.ne_none_iff_exists']
  constructor
  · rintro ⟨key, first, firstIn, second, secondIn, found⟩
    exact ⟨first, firstIn, second, secondIn, key, found⟩
  · rintro ⟨first, firstIn, second, secondIn, key, found⟩
    exact ⟨key, first, firstIn, second, secondIn, found⟩

end Lists

/-! ## Narrower declarations -/

/-- A declaration of the same kind whose scope goes on after the other's. -/
def Within (narrow wide : Resource) : Prop :=
  narrow.kind = wide.kind ∧ narrow.isGlobal = wide.isGlobal ∧
    scopeParts wide.scope <+: scopeParts narrow.scope

/-- Declarations dropped, or extended by further segments. -/
def Narrowed (narrow wide : List Resource) : Prop :=
  ∀ item ∈ narrow, ∃ other ∈ wide, Within item other

/-- What collides with a part of a scope collides with the scope. -/
theorem Related.of_within {narrow wide other : Resource} (within : Within narrow wide)
    (related : Related narrow other) : Related wide other := by
  rcases within with ⟨kind, isGlobal, extended⟩
  rcases related with isGlobalToo | otherGlobal | ⟨sameKind, ahead | back⟩
  · exact Or.inl (isGlobal ▸ isGlobalToo)
  · exact Or.inr (Or.inl otherGlobal)
  · exact Or.inr (Or.inr ⟨kind ▸ sameKind, Or.inl (extended.trans ahead)⟩)
  · exact Or.inr (Or.inr ⟨kind ▸ sameKind, List.prefix_or_prefix_of_prefix extended back⟩)

theorem conflictKeys_narrowed {narrow wide others : List Resource} (narrowed : Narrowed narrow wide)
    (free : conflictKeys wide others = []) : conflictKeys narrow others = [] := by
  by_contra found
  rcases conflictKeys_ne_nil_iff.mp found with ⟨item, listed, other, otherIn, related⟩
  rcases narrowed item listed with ⟨whole, wholeIn, within⟩
  exact conflictKeys_ne_nil_iff.mpr ⟨whole, wholeIn, other, otherIn, related.of_within within⟩ free

/-- The conflict keys of canonical declarations are the same in both orders,
are found exactly when two declarations collide, and none appear when either
side is narrowed. -/
theorem conflictingResourceKeys_spec {left right : Json} {leftItems rightItems : List Resource}
    (leftCanonical : requireCanonical left = .ok leftItems)
    (rightCanonical : requireCanonical right = .ok rightItems) : ∃ keys,
      conflictingResourceKeys left right = .ok keys ∧
      conflictingResourceKeys right left = .ok keys ∧
      (keys ≠ [] ↔ ∃ first ∈ leftItems, ∃ second ∈ rightItems, Related first second) ∧
      ∀ narrow narrowItems, requireCanonical narrow = .ok narrowItems → keys = [] →
        (Narrowed narrowItems leftItems → conflictingResourceKeys narrow right = .ok []) ∧
        (Narrowed narrowItems rightItems → conflictingResourceKeys left narrow = .ok []) := by
  refine ⟨conflictKeys leftItems rightItems,
    conflictingResourceKeys_eq leftCanonical rightCanonical, ?_, conflictKeys_ne_nil_iff, ?_⟩
  · rw [conflictKeys_comm]
    exact conflictingResourceKeys_eq rightCanonical leftCanonical
  · intro narrow narrowItems narrowCanonical free
    constructor
    · intro narrowed
      rw [conflictingResourceKeys_eq narrowCanonical rightCanonical,
        conflictKeys_narrowed narrowed free]
    · intro narrowed
      rw [conflictKeys_comm] at free
      rw [conflictingResourceKeys_eq leftCanonical narrowCanonical, conflictKeys_comm,
        conflictKeys_narrowed narrowed free]

/-- A directory and a file in it. -/
def libraryResource : Resource :=
  { kind := .source, scope := "src/lib", shared := false, isGlobal := false }

def sourceResource : Resource :=
  { kind := .source, scope := "src", shared := false, isGlobal := false }

theorem conflicting_source_library :
    ∃ keys, conflictingResourceKeys (resourcesJson [sourceResource])
        (resourcesJson [libraryResource]) = .ok keys ∧ keys ≠ [] := by
  have declared : requireCanonical (resourcesJson [sourceResource]) = .ok [sourceResource] := rfl
  have inside : requireCanonical (resourcesJson [libraryResource]) = .ok [libraryResource] := rfl
  rcases conflictingResourceKeys_spec declared inside with ⟨keys, found, _, collide, _⟩
  refine ⟨keys, found, collide.mpr ⟨sourceResource, List.mem_singleton_self _,
    libraryResource, List.mem_singleton_self _, Or.inr (Or.inr ⟨rfl, Or.inl ?_⟩)⟩⟩
  decide

end Adwf.LeaseRegistry
