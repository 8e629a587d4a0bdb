import Mathlib.Data.List.Basic
import Mathlib.Data.List.Sort

/-!
# The first of a list in the order of a key

Selecting by a key depends on the members of a list alone when no two of them
have the same key.
-/

namespace Adwf.Ranked

universe u v

variable {α : Type u} {κ : Type v} [LinearOrder κ]

/-- `sorted(items, key=key)`. -/
def sortedBy (key : α → κ) (items : List α) : List α :=
  items.insertionSort fun left right => key left ≤ key right

/-- `sorted(items, key=key)[0] if items else None`. -/
def firstBy (key : α → κ) (items : List α) : Option α :=
  (sortedBy key items).head?

variable {key : α → κ} {items others : List α} {first : α}

theorem mem_sortedBy {item : α} : item ∈ sortedBy key items ↔ item ∈ items :=
  List.mem_insertionSort _

theorem firstBy_eq_none_iff : firstBy key items = none ↔ items = [] := by
  rw [firstBy, List.head?_eq_none_iff, sortedBy, ← List.length_eq_zero_iff,
    List.length_insertionSort, List.length_eq_zero_iff]

theorem mem_of_firstBy (chosen : firstBy key items = some first) : first ∈ items :=
  mem_sortedBy.mp (List.mem_of_head? chosen)

theorem le_of_firstBy (chosen : firstBy key items = some first) {item : α} (mem : item ∈ items) :
    key first ≤ key item := by
  have total : Std.Total fun left right : α => key left ≤ key right :=
    ⟨fun left right => le_total (key left) (key right)⟩
  have trans : IsTrans α fun left right => key left ≤ key right :=
    ⟨fun _ _ _ => le_trans⟩
  have sorted := List.pairwise_insertionSort (fun left right : α => key left ≤ key right) items
  have inside : item ∈ sortedBy key items := mem_sortedBy.mpr mem
  obtain ⟨rest, sorted_eq⟩ := List.head?_eq_some_iff.mp chosen
  rw [sorted_eq] at inside
  change (sortedBy key items).Pairwise _ at sorted
  rw [sorted_eq, List.pairwise_cons] at sorted
  rcases List.mem_cons.mp inside with rfl | later
  · exact le_refl _
  · exact sorted.1 item later

/-- The first member is the same for every order of a list without equal keys. -/
theorem firstBy_perm (perm : items.Perm others) (distinct : (items.map key).Nodup) :
    firstBy key items = firstBy key others := by
  cases chosen : firstBy key items with
  | none =>
      rw [firstBy_eq_none_iff] at chosen
      rw [chosen, List.nil_perm] at perm
      rw [perm]
      rfl
  | some first =>
      cases other : firstBy key others with
      | none =>
          rw [firstBy_eq_none_iff] at other
          rw [other, List.perm_nil] at perm
          rw [perm] at chosen
          cases chosen
      | some second =>
          have firstMem := mem_of_firstBy chosen
          have secondMem := perm.mem_iff.mpr (mem_of_firstBy other)
          have same := le_antisymm (le_of_firstBy chosen secondMem)
            (le_of_firstBy other (perm.mem_iff.mp firstMem))
          rw [List.inj_on_of_nodup_map distinct firstMem secondMem same]

/-! ## The last one -/

/-- `sorted(items, key=key)[-1] if items else None`. -/
def lastBy (key : α → κ) (items : List α) : Option α :=
  (sortedBy key items).getLast?

variable {last : α}

theorem lastBy_eq_none_iff : lastBy key items = none ↔ items = [] := by
  rw [lastBy, List.getLast?_eq_none_iff, sortedBy, ← List.length_eq_zero_iff,
    List.length_insertionSort, List.length_eq_zero_iff]

theorem mem_of_lastBy (chosen : lastBy key items = some last) : last ∈ items :=
  mem_sortedBy.mp (List.mem_of_getLast? chosen)

theorem le_of_lastBy (chosen : lastBy key items = some last) {item : α} (mem : item ∈ items) :
    key item ≤ key last := by
  have total : Std.Total fun left right : α => key left ≤ key right :=
    ⟨fun left right => le_total (key left) (key right)⟩
  have trans : IsTrans α fun left right => key left ≤ key right :=
    ⟨fun _ _ _ => le_trans⟩
  have sorted := List.pairwise_insertionSort (fun left right : α => key left ≤ key right) items
  have inside : item ∈ sortedBy key items := mem_sortedBy.mpr mem
  rcases List.getLast?_eq_some_iff.mp chosen with ⟨front, sorted_eq⟩
  rw [sorted_eq] at inside
  change (sortedBy key items).Pairwise _ at sorted
  rw [sorted_eq, List.pairwise_append] at sorted
  rcases List.mem_append.mp inside with earlier | same
  · exact sorted.2.2 item earlier last (List.mem_singleton.mpr rfl)
  · rw [List.mem_singleton.mp same]

/-- A member behind all others is the last one. -/
theorem lastBy_append_singleton (greatest : ∀ item ∈ items, key item < key last) :
    lastBy key (items ++ [last]) = some last := by
  cases chosen : lastBy key (items ++ [last]) with
  | none => simp [lastBy_eq_none_iff] at chosen
  | some found =>
      have least := le_of_lastBy chosen (List.mem_append_right _ (List.mem_singleton.mpr rfl))
      rcases List.mem_append.mp (mem_of_lastBy chosen) with earlier | same
      · exact absurd (greatest found earlier) (not_lt.mpr least)
      · rw [List.mem_singleton.mp same]

end Adwf.Ranked

/-!
## The one member of a list that a test picks

A record is looked up by a test, the operation fails unless exactly one member
passes it, and that member is changed in its place.
-/

namespace Adwf.Picked

universe u v

variable {α : Type u} {β : Type v} {test : α → Bool} {items front back : List α} {item : α}

/-- The members that pass the test are changed in their places. -/
def update (test : α → Bool) (change : α → α) (items : List α) : List α :=
  items.map fun item => if test item then change item else item

/-- `item` is the one member that passes the test, between `front` and `back`. -/
structure Split (test : α → Bool) (items front : List α) (item : α) (back : List α) : Prop where
  items_eq : items = front ++ item :: back
  passes : test item = true
  before : ∀ other ∈ front, ¬test other = true
  later : ∀ other ∈ back, ¬test other = true

theorem exists_split (picked : items.filter test = [item]) :
    ∃ front back, Split test items front item back := by
  obtain ⟨front, back, items_eq, before, passes, rest⟩ := List.filter_eq_cons_iff.mp picked
  exact ⟨front, back, items_eq, passes, before, List.filter_eq_nil_iff.mp rest⟩

theorem update_eq_self {change : α → α} (none : ∀ item ∈ items, ¬test item = true) :
    update test change items = items := by
  have same : ∀ item ∈ items, (if test item then change item else item) = item :=
    fun item mem => if_neg (none item mem)
  exact (List.map_congr_left same).trans (List.map_id' items)

namespace Split

theorem update_eq (split : Split test items front item back) (change : α → α) :
    update test change items = front ++ change item :: back := by
  have picked : (if test item then change item else item) = change item := if_pos split.passes
  rw [split.items_eq, update, List.map_append, List.map_cons, picked]
  congr 1
  · exact update_eq_self split.before
  · exact congrArg _ (update_eq_self split.later)

end Split

end Adwf.Picked
