import Mathlib.Data.List.Basic

/-!
# Computations that raise

A Python function that may raise is modelled in `Except String`, the error
being the text of the exception or, for a built-in, its class.
-/

namespace Adwf.Fallible

/-- The text of a raised error: a code, or a code with the findings it lists. -/
inductive Raised where
  | code (text : String)
  | listing (code : String) (findings : List String)
  deriving DecidableEq, Repr

/-- `str(exc)`. -/
def Raised.text : Raised → String
  | .code text => text
  | .listing name findings => name ++ ":" ++ ",".intercalate findings

universe u v

theorem bind_ok_iff {ε : Type u} {α : Type v} {β : Type v} {first : Except ε α}
    {next : α → Except ε β} {result : β} :
    first >>= next = .ok result ↔ ∃ value, first = .ok value ∧ next value = .ok result := by
  cases first with
  | error error =>
      constructor
      · intro ran
        cases ran
      · rintro ⟨value, raised, _⟩
        cases raised
  | ok value =>
      constructor
      · intro ran
        exact ⟨value, rfl, ran⟩
      · rintro ⟨other, same, ran⟩
        cases same
        exact ran

theorem ok_bind {ε : Type u} {α : Type v} {β : Type v} (value : α) (next : α → Except ε β) :
    (Except.ok value >>= next) = next value :=
  rfl

theorem exists_of_map_eq_ok {ε α β : Type} {f : α → β} {result : Except ε α} {value : β}
    (mapped : result.map f = .ok value) : ∃ found, result = .ok found ∧ f found = value := by
  cases result with
  | error error => cases mapped
  | ok found =>
      cases mapped
      exact ⟨found, rfl, rfl⟩

/-- `if not condition: raise error`. -/
def require {ε : Type u} (condition : Prop) [Decidable condition] (error : ε) : Except ε Unit :=
  if condition then .ok () else .error error

@[simp]
theorem require_eq_ok_iff {ε : Type u} (condition : Prop) [Decidable condition] (error : ε)
    (result : Unit) : require condition error = .ok result ↔ condition := by
  unfold require
  split_ifs with holds
  · simp [holds]
  · simp [holds]

theorem require_bind_of {ε : Type u} {α : Type} {condition : Prop} [Decidable condition]
    {error : ε} {next : Unit → Except ε α} (holds : condition) :
    (require condition error >>= next) = next () := by
  rw [require, if_pos holds]
  rfl

theorem require_bind_of_not {ε : Type u} {α : Type} {condition : Prop} [Decidable condition]
    {error : ε} {next : Unit → Except ε α} (fails : ¬condition) :
    (require condition error >>= next) = .error error := by
  rw [require, if_neg fails]
  rfl

theorem forM_eq_ok_iff {ε : Type u} {α : Type v} {items : List α} {check : α → Except ε PUnit}
    {result : PUnit} : forM items check = .ok result ↔ ∀ item ∈ items, check item = .ok () := by
  induction items with
  | nil => simp [pure, Except.pure]
  | cons item rest ih =>
      rw [List.forM_cons, bind_ok_iff, List.forall_mem_cons, ← ih]
      constructor
      · rintro ⟨⟨⟩, passed, others⟩
        exact ⟨passed, others⟩
      · rintro ⟨passed, others⟩
        exact ⟨(), passed, others⟩

/-! ## Lists of computations that raise -/

section Lists

variable {ε : Type u} {α β : Type} {f : α → Except ε β}

variable {values : List β} {items : List α}

theorem mapM_nil_eq_ok_iff : [].mapM f = .ok values ↔ values = [] := by
  constructor
  · rintro ⟨⟩
    rfl
  · rintro rfl
    rfl

theorem mapM_cons_eq_ok_iff {item : α} : (item :: items).mapM f = .ok values ↔
      ∃ value others, f item = .ok value ∧ items.mapM f = .ok others ∧ values = value :: others := by
  rw [List.mapM_cons, bind_ok_iff]
  constructor
  · rintro ⟨value, found, rest⟩
    rcases bind_ok_iff.mp rest with ⟨others, foundOthers, ⟨⟩⟩
    exact ⟨value, others, found, foundOthers, rfl⟩
  · rintro ⟨value, others, found, foundOthers, rfl⟩
    exact ⟨value, found, bind_ok_iff.mpr ⟨others, foundOthers, rfl⟩⟩

theorem mapM_append_eq_ok_iff {first second : List α} : (first ++ second).mapM f = .ok values ↔
      ∃ front back, first.mapM f = .ok front ∧ second.mapM f = .ok back ∧
        values = front ++ back := by
  rw [List.mapM_append, bind_ok_iff]
  constructor
  · rintro ⟨front, foundFront, rest⟩
    rcases bind_ok_iff.mp rest with ⟨back, foundBack, ⟨⟩⟩
    exact ⟨front, back, foundFront, foundBack, rfl⟩
  · rintro ⟨front, back, foundFront, foundBack, rfl⟩
    exact ⟨front, foundFront, bind_ok_iff.mpr ⟨back, foundBack, rfl⟩⟩

theorem exists_mem_mapM_iff (mapped : items.mapM f = .ok values) (holds : β → Prop) :
    (∃ value ∈ values, holds value) ↔ ∃ item ∈ items, ∃ value, f item = .ok value ∧ holds value := by
  induction items generalizing values with
  | nil =>
      rcases mapM_nil_eq_ok_iff.mp mapped with rfl
      simp
  | cons item items ih =>
      rcases mapM_cons_eq_ok_iff.mp mapped with ⟨value, others, found, foundOthers, rfl⟩
      simp only [List.exists_mem_cons_iff, ih foundOthers]
      simp [found]

theorem exists_of_mem_of_mapM
    (mapped : items.mapM f = .ok values) {item : α} (inside : item ∈ items) :
    ∃ value ∈ values, f item = .ok value := by
  induction items generalizing values with
  | nil => cases inside
  | cons first items ih =>
      rcases mapM_cons_eq_ok_iff.mp mapped with ⟨value, others, found, foundOthers, rfl⟩
      rcases List.mem_cons.mp inside with rfl | later
      · exact ⟨value, List.mem_cons_self, found⟩
      · rcases ih foundOthers later with ⟨other, otherInside, foundOther⟩
        exact ⟨other, List.mem_cons_of_mem _ otherInside, foundOther⟩

end Lists

/-- Every error the computation raises satisfies `allowed`. -/
def RaisesOnly {ε : Type u} {α : Type v} (allowed : ε → Prop) (result : Except ε α) : Prop :=
  ∀ error, result = .error error → allowed error

namespace RaisesOnly

variable {ε : Type u} {α β : Type v} {allowed : ε → Prop}

theorem pure (value : α) : RaisesOnly allowed (Pure.pure value : Except ε α) := by
  intro error raised
  cases raised

theorem bind {first : Except ε α} {next : α → Except ε β} (firstRaises : RaisesOnly allowed first)
    (nextRaises : ∀ value, RaisesOnly allowed (next value)) :
    RaisesOnly allowed (first >>= next) := by
  intro error raised
  cases first with
  | error other =>
      cases raised
      exact firstRaises _ rfl
  | ok value => exact nextRaises value error raised

theorem require {condition : Prop} [Decidable condition] {error : ε} (holds : allowed error) :
    RaisesOnly allowed (Fallible.require condition error) := by
  intro other raised
  unfold Fallible.require at raised
  split_ifs at raised
  cases raised
  exact holds

theorem forM {items : List α} {check : α → Except ε PUnit}
    (checkRaises : ∀ item, RaisesOnly allowed (check item)) :
    RaisesOnly allowed (ForM.forM items check) := by
  induction items with
  | nil => exact RaisesOnly.pure _
  | cons item rest ih =>
      rw [List.forM_cons]
      exact RaisesOnly.bind (checkRaises item) fun _ => ih

end RaisesOnly

end Adwf.Fallible
