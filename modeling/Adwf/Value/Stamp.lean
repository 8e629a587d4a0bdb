import Mathlib

/-!
# The texts of a clock

`datetime.isoformat` writes fields of fixed width and leaves the microseconds
out when they are zero.  Texts compare by their characters.
-/

namespace Adwf.Stamp

/-! ## Numbers of fixed width -/

/-- The decimal digit of a number below ten. -/
def digit (value : Nat) : Char :=
  Char.ofNat (48 + value)

/-- `f"{value:0{width}d}"` of a number with at most so many digits. -/
def pad : Nat → Nat → List Char
  | 0, _ => []
  | width + 1, value => pad width (value / 10) ++ [digit (value % 10)]

@[simp]
theorem length_pad (width value : Nat) : (pad width value).length = width := by
  induction width generalizing value with
  | zero => rfl
  | succ width ih => rw [pad, List.length_append, ih, List.length_singleton]

theorem append_lt_append_iff {front other back rest : List Char}
    (same : front.length = other.length) :
    front ++ back < other ++ rest ↔ front < other ∨ front = other ∧ back < rest := by
  induction front generalizing other with
  | nil =>
      rw [List.eq_nil_of_length_eq_zero same.symm]
      simp
  | cons char front ih =>
      cases other with
      | nil => cases same
      | cons first other =>
          have lengths : front.length = other.length := Nat.succ.inj same
          rw [List.cons_append, List.cons_append, List.cons_lt_cons_iff, List.cons_lt_cons_iff,
            ih lengths, List.cons.injEq]
          tauto

theorem digit_lt_iff {value other : Nat} (small : value < 10) (smallOther : other < 10) :
    digit value < digit other ↔ value < other := by
  have all : ∀ value other : Fin 10, digit value < digit other ↔ value < other := by decide
  exact all ⟨value, small⟩ ⟨other, smallOther⟩

theorem digit_inj {value other : Nat} (small : value < 10) (smallOther : other < 10) :
    digit value = digit other ↔ value = other := by
  have all : ∀ value other : Fin 10, digit value = digit other ↔ value.val = other.val := by decide
  exact all ⟨value, small⟩ ⟨other, smallOther⟩

theorem pad_inj {width value other : Nat} (fits : value < 10 ^ width)
    (fitsOther : other < 10 ^ width) : pad width value = pad width other ↔ value = other := by
  induction width generalizing value other with
  | zero =>
      rw [Nat.lt_one_iff.mp fits, Nat.lt_one_iff.mp fitsOther]
      simp
  | succ width ih =>
      rw [Nat.pow_succ] at fits fitsOther
      rw [pad, pad, List.append_eq_append_iff_of_size_eq_left (by simp), ih (by omega) (by omega),
        List.singleton_inj, digit_inj (by omega) (by omega)]
      omega

/-- Padded numbers compare as numbers do. -/
theorem pad_lt_iff {width value other : Nat} (fits : value < 10 ^ width)
    (fitsOther : other < 10 ^ width) : pad width value < pad width other ↔ value < other := by
  induction width generalizing value other with
  | zero =>
      rw [Nat.lt_one_iff.mp fits, Nat.lt_one_iff.mp fitsOther]
      simp [pad]
  | succ width ih =>
      rw [Nat.pow_succ] at fits fitsOther
      have last : [digit (value % 10)] < [digit (other % 10)] ↔ value % 10 < other % 10 := by
        rw [List.cons_lt_cons_iff, digit_lt_iff (by omega) (by omega)]
        simp
      rw [pad, pad, append_lt_append_iff (by simp), ih (by omega) (by omega),
        pad_inj (by omega) (by omega), last]
      omega

/-- Numbers with their widths, each followed by its separator. -/
def renderFields : List (Nat × List Char) → List Nat → List Char
  | (width, separator) :: formats, value :: values =>
      pad width value ++ separator ++ renderFields formats values
  | _, _ => []

/-- Each number has at most as many digits as its field. -/
def Fit : List (Nat × List Char) → List Nat → Prop :=
  List.Forall₂ fun format value => value < 10 ^ format.1

theorem renderFields_lt_iff {formats : List (Nat × List Char)} {values others : List Nat}
    (fits : Fit formats values) (fitsOthers : Fit formats others) (back rest : List Char) :
    renderFields formats values ++ back < renderFields formats others ++ rest ↔
      values < others ∨ values = others ∧ back < rest := by
  induction fits generalizing others with
  | nil =>
      cases fitsOthers
      simp [renderFields]
  | @cons format value formats values fit _ ih =>
      cases fitsOthers with
      | @cons _ other _ others fitOther fitsOthers =>
          rw [renderFields, renderFields]
          simp only [List.append_assoc]
          rw [append_lt_append_iff (by simp), append_lt_append_iff rfl, ih fitsOthers,
            pad_lt_iff fit fitOther, pad_inj fit fitOther, List.cons_lt_cons_iff,
            List.cons.injEq]
          have irreflexive : ¬format.2 < format.2 := List.lt_irrefl _
          tauto

/-! ## Moments -/

/-- A `datetime` in UTC. -/
structure Moment where
  year : Nat
  month : Nat
  day : Nat
  hour : Nat
  minute : Nat
  second : Nat
  microsecond : Nat
  year_lt : year < 10000
  month_lt : month < 100
  day_lt : day < 100
  hour_lt : hour < 100
  minute_lt : minute < 100
  second_lt : second < 100
  microsecond_lt : microsecond < 1000000
  deriving DecidableEq

namespace Moment

/-- The fields down to the second. -/
def fields (moment : Moment) : List Nat :=
  [moment.year, moment.month, moment.day, moment.hour, moment.minute, moment.second]

/-- `earlier < later`. -/
def Before (earlier later : Moment) : Prop :=
  earlier.fields < later.fields ∨
    earlier.fields = later.fields ∧ earlier.microsecond < later.microsecond

instance (earlier later : Moment) : Decidable (Before earlier later) :=
  inferInstanceAs (Decidable (_ ∨ _))

def formats : List (Nat × List Char) :=
  [(4, ['-']), (2, ['-']), (2, ['T']), (2, [':']), (2, [':']), (2, [])]

/-- `.ffffff`, which is left out at a whole second, and the zone. -/
def fraction (microsecond : Nat) : List Char :=
  if microsecond = 0 then ['Z'] else '.' :: (pad 6 microsecond ++ ['Z'])

/-- `isoformat().replace("+00:00", "Z")`. -/
def isoText (moment : Moment) : List Char :=
  renderFields formats moment.fields ++ fraction moment.microsecond

theorem fit (moment : Moment) : Fit formats moment.fields :=
  .cons moment.year_lt (.cons moment.month_lt (.cons moment.day_lt (.cons moment.hour_lt
    (.cons moment.minute_lt (.cons moment.second_lt .nil)))))

variable {earlier later : Moment}

theorem fraction_lt_iff {first second : Nat} (order : first < second)
    (small : second < 1000000) : fraction first < fraction second ↔ first ≠ 0 := by
  have positive : second ≠ 0 := by omega
  rw [fraction, fraction, if_neg positive]
  split_ifs with whole
  · have behind : ¬ 'Z' < '.' := by decide
    have other : 'Z' ≠ '.' := by decide
    simp [List.cons_lt_cons_iff, behind, other, whole]
  · rw [List.cons_lt_cons_iff, append_lt_append_iff (by simp), pad_lt_iff (by omega) (by omega)]
    simp [order, whole]

/-- Texts of the clock are in its order, except behind a whole second. -/
theorem isoText_lt_iff (before : Before earlier later) : earlier.isoText < later.isoText ↔
      ¬(earlier.fields = later.fields ∧ earlier.microsecond = 0) := by
  rw [isoText, isoText, renderFields_lt_iff earlier.fit later.fit]
  rcases before with whole | ⟨same, order⟩
  · have other : earlier.fields ≠ later.fields := by
      intro same
      rw [same] at whole
      exact List.lt_irrefl _ whole
    simp [whole, other]
  · rw [same, fraction_lt_iff order later.microsecond_lt]
    simp

/-- A whole second is behind the moments that follow it within the second. -/
theorem isoText_lt_of_whole (before : Before earlier later) (same : earlier.fields = later.fields)
    (whole : earlier.microsecond = 0) : later.isoText < earlier.isoText := by
  have positive : later.microsecond ≠ 0 := by
    rcases before with less | ⟨_, order⟩
    · rw [same] at less
      exact absurd less (List.lt_irrefl _)
    · omega
  have dot : '.' < 'Z' := by decide
  rw [isoText, isoText, renderFields_lt_iff later.fit earlier.fit]
  right
  rw [fraction, fraction, if_neg positive, if_pos whole, List.cons_lt_cons_iff]
  exact ⟨same.symm, Or.inl dot⟩

end Moment

end Adwf.Stamp
