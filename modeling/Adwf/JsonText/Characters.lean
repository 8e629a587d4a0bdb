import Adwf.JsonText.RoundTrip

/-!
# The characters of a written value

A compact text is made of printable ASCII characters and, unless the writer
escapes them, of the characters of the texts of the value.
-/

namespace Adwf.JsonText

/-! ## The texts of a value -/

mutual

/-- The texts a value holds: its strings and the keys of its objects. -/
def Value.texts : Value → List String
  | .str text => [text]
  | .list items => textsOfItems items
  | .dict fields => textsOfMembers fields
  | _ => []

def Value.textsOfItems : List Value → List String
  | [] => []
  | item :: items => item.texts ++ textsOfItems items

def Value.textsOfMembers : Members → List String
  | [] => []
  | (key, value) :: fields => key :: (value.texts ++ textsOfMembers fields)

end

/-- `char` occurs in a text of the value. -/
def Value.Holds (value : Value) (char : Char) : Prop :=
  ∃ text ∈ value.texts, char ∈ text.toList

variable {char : Char} {allowed : Char → Prop}

theorem Value.holds_list {items : List Value} :
    (Value.list items).Holds char ↔ ∃ item ∈ items, item.Holds char := by
  unfold Holds
  simp only [texts]
  induction items with
  | nil => simp [textsOfItems]
  | cons item items ih =>
      simp only [textsOfItems, List.mem_append, List.exists_mem_cons_iff, ← ih]
      simp only [or_and_right, exists_or]

theorem Value.holds_dict {fields : Members} : (Value.dict fields).Holds char ↔
      ∃ field ∈ fields, char ∈ field.1.toList ∨ field.2.Holds char := by
  unfold Holds
  simp only [texts]
  induction fields with
  | nil => simp [textsOfMembers]
  | cons field fields ih =>
      obtain ⟨key, value⟩ := field
      simp only [textsOfMembers, List.mem_cons, List.mem_append]
      simp only [or_and_right, exists_or, exists_eq_left, or_assoc, ih]

/-- A character that the writer may put into a text: one of `allowed`, or an ASCII
character that is not a control character. -/
def Written (allowed : Char → Prop) (char : Char) : Prop :=
  32 ≤ char.toNat ∧ (char.toNat < 128 ∨ allowed char)

theorem Written.mono {first second : Char → Prop}
    (written : Written first char) (implies : ∀ other, first other → second other) :
    Written second char :=
  ⟨written.1, written.2.imp id (implies char)⟩

theorem written_digitChar {value : Nat} (small : value < 16) :
    Written allowed (Nat.digitChar value) := by
  have digits : (List.range 16).all (fun digit =>
      32 ≤ (Nat.digitChar digit).toNat && (Nat.digitChar digit).toNat < 128) = true := by decide
  have plain := List.all_eq_true.mp digits value (List.mem_range.mpr small)
  simp only [Bool.and_eq_true, decide_eq_true_eq] at plain
  exact ⟨plain.1, .inl plain.2⟩

theorem written_unicodeEscape {code : Nat} (small : code < 0x10000)
    {written : Char} (mem : written ∈ unicodeEscape code) : Written allowed written := by
  simp only [unicodeEscape, hexDigits, List.mem_cons, List.not_mem_nil, or_false] at mem
  rcases mem with rfl | rfl | rfl | rfl | rfl | rfl
  · exact ⟨by decide, .inl (by decide)⟩
  · exact ⟨by decide, .inl (by decide)⟩
  · exact written_digitChar (by omega)
  · exact written_digitChar (by omega)
  · exact written_digitChar (by omega)
  · exact written_digitChar (by omega)

theorem written_escapeChar {ascii : Bool} {written : Char} (mem : written ∈ escapeChar ascii char) :
    Written (fun other => ascii = false ∧ other = char) written := by
  unfold escapeChar at mem
  split at mem
  · rename_i letter found
    have letters : escapes.all (fun entry => 32 ≤ entry.2.toNat && entry.2.toNat < 128) = true := by
      decide
    have plain := List.all_eq_true.mp letters _ (mem_of_lookup found)
    simp only [Bool.and_eq_true, decide_eq_true_eq] at plain
    rcases List.mem_pair.mp mem with rfl | rfl
    · exact ⟨by decide, .inl (by decide)⟩
    · exact ⟨plain.1, .inl plain.2⟩
  · dsimp only at mem
    have bound := toNat_ranges char
    split_ifs at mem with escaped small
    · exact written_unicodeEscape small mem
    · rcases List.mem_append.mp mem with first | second
      · exact written_unicodeEscape (by omega) first
      · exact written_unicodeEscape (by omega) second
    · rcases List.mem_singleton.mp mem with rfl
      simp only [not_or, not_lt] at escaped
      refine ⟨escaped.1, ?_⟩
      cases ascii with
      | false => exact .inr ⟨rfl, rfl⟩
      | true =>
          have printable : ¬126 < written.toNat := fun beyond => escaped.2 ⟨rfl, beyond⟩
          exact .inl (by omega)

theorem written_renderText {ascii : Bool} {text : String} (mem : char ∈ renderText ascii text) :
    Written (fun other => ascii = false ∧ other ∈ text.toList) char := by
  simp only [renderText, escapeText, List.mem_cons, List.mem_append, List.mem_flatMap,
    List.not_mem_nil, or_false] at mem
  rcases mem with rfl | ⟨source, inside, escaped⟩ | rfl
  · exact ⟨by decide, .inl (by decide)⟩
  · refine (written_escapeChar escaped).mono ?_
    rintro other ⟨plain, rfl⟩
    exact ⟨plain, inside⟩
  · exact ⟨by decide, .inl (by decide)⟩

theorem written_of_isTokenChar (token : isTokenChar char = true) : Written allowed char := by
  simp only [isTokenChar, Text.isAlphanumeric, Text.isUpper, Text.isDigit, Bool.or_eq_true,
    Bool.and_eq_true, decide_eq_true_eq, Char.le_def, UInt32.le_iff_toNat_le] at token
  rcases token with ((⟨low, high⟩ | ⟨low, high⟩) | ⟨low, high⟩) | mark
  · exact ⟨le_trans (by decide) low, .inl (lt_of_le_of_lt high (by decide))⟩
  · exact ⟨le_trans (by decide) low, .inl (lt_of_le_of_lt high (by decide))⟩
  · exact ⟨le_trans (by decide) low, .inl (lt_of_le_of_lt high (by decide))⟩
  · have marks : ['+', '-', '.'].all (fun mark => 32 ≤ mark.toNat && mark.toNat < 128) = true := by
      decide
    have plain := List.all_eq_true.mp marks char (by simpa using mark)
    simp only [Bool.and_eq_true, decide_eq_true_eq] at plain
    exact ⟨plain.1, .inl plain.2⟩

/-- The characters the writer puts between the parts of a value. -/
theorem written_mark
    (mark : char ∈ ['[', ']', '\x7b', '\x7d', ',', ':']) : Written allowed char := by
  have marks : ['[', ']', '\x7b', '\x7d', ',', ':'].all
      (fun mark => 32 ≤ mark.toNat && mark.toNat < 128) = true := by decide
  have plain := List.all_eq_true.mp marks char mark
  simp only [Bool.and_eq_true, decide_eq_true_eq] at plain
  exact ⟨plain.1, .inl plain.2⟩

section Written

variable {style : Style} {char : Char}

theorem written_separator (spaces : ∀ other ∈ style.pad, other = ' ') {mark : Char}
    (mem : char ∈ mark :: style.pad) (listed : mark ∈ ['[', ']', '\x7b', '\x7d', ',', ':']) :
    Written allowed char := by
  rcases List.mem_cons.mp mem with rfl | pad
  · exact written_mark listed
  · rw [spaces char pad]
    exact ⟨by decide, .inl (by decide)⟩

mutual

theorem written_render (spaces : ∀ other ∈ style.pad, other = ' ') :
    (value : Value) → char ∈ render style value →
      Written (fun other => style.ascii = false ∧ value.Holds other) char
  | .null, mem => by
      have name : "null".toList.all isTokenChar = true := by decide
      exact written_of_isTokenChar (List.all_eq_true.mp name char mem)
  | .bool true, mem => by
      have name : "true".toList.all isTokenChar = true := by decide
      exact written_of_isTokenChar (List.all_eq_true.mp name char mem)
  | .bool false, mem => by
      have name : "false".toList.all isTokenChar = true := by decide
      exact written_of_isTokenChar (List.all_eq_true.mp name char mem)
  | .int value, mem => written_of_isTokenChar (isTokenChar_of_mem_renderInt char mem)
  | .float token, mem => written_of_isTokenChar (isTokenChar_of_mem_float token char mem)
  | .str text, mem => by
      refine (written_renderText mem).mono ?_
      rintro other ⟨plain, inside⟩
      exact ⟨plain, text, by simp [Value.texts], inside⟩
  | .list items, mem => by
      simp only [render, List.mem_cons, List.mem_append, List.not_mem_nil, or_false] at mem
      rcases mem with rfl | inside | rfl
      · exact written_mark (by simp)
      · refine (written_renderItems spaces items inside).mono ?_
        rintro other ⟨plain, held⟩
        exact ⟨plain, Value.holds_list.mpr held⟩
      · exact written_mark (by simp)
  | .dict fields, mem => by
      simp only [render, List.mem_cons, List.mem_append, List.not_mem_nil, or_false] at mem
      rcases mem with rfl | inside | rfl
      · exact written_mark (by simp)
      · refine (written_renderMembers spaces fields inside).mono ?_
        rintro other ⟨plain, held⟩
        exact ⟨plain, Value.holds_dict.mpr held⟩
      · exact written_mark (by simp)

theorem written_renderItems (spaces : ∀ other ∈ style.pad, other = ' ') :
    (items : List Value) → char ∈ renderItems style items →
      Written (fun other => style.ascii = false ∧ ∃ item ∈ items, item.Holds other) char
  | [], mem => by cases mem
  | [item], mem => by
      refine (written_render spaces item mem).mono ?_
      rintro other ⟨plain, held⟩
      exact ⟨plain, item, List.mem_cons_self, held⟩
  | item :: next :: items, mem => by
      simp only [renderItems, List.mem_append] at mem
      rcases mem with (first | mark) | later
      · refine (written_render spaces item first).mono ?_
        rintro other ⟨plain, held⟩
        exact ⟨plain, item, List.mem_cons_self, held⟩
      · exact written_separator spaces mark (by simp)
      · refine (written_renderItems spaces (next :: items) later).mono ?_
        rintro other ⟨plain, value, inside, held⟩
        exact ⟨plain, value, List.mem_cons_of_mem _ inside, held⟩

theorem written_renderMembers (spaces : ∀ other ∈ style.pad, other = ' ') :
    (fields : Members) → char ∈ renderMembers style fields →
      Written (fun other => style.ascii = false ∧
        ∃ field ∈ fields, other ∈ field.1.toList ∨ field.2.Holds other) char
  | [], mem => by cases mem
  | [(key, value)], mem => by
      simp only [renderMembers, List.mem_append] at mem
      rcases mem with (name | mark) | stored
      · refine (written_renderText name).mono ?_
        rintro other ⟨plain, held⟩
        exact ⟨plain, _, List.mem_cons_self, .inl held⟩
      · exact written_separator spaces mark (by simp)
      · refine (written_render spaces value stored).mono ?_
        rintro other ⟨plain, held⟩
        exact ⟨plain, _, List.mem_cons_self, .inr held⟩
  | (key, value) :: next :: fields, mem => by
      simp only [renderMembers, List.mem_append] at mem
      rcases mem with (((name | first) | stored) | second) | later
      · refine (written_renderText name).mono ?_
        rintro other ⟨plain, held⟩
        exact ⟨plain, _, List.mem_cons_self, .inl held⟩
      · exact written_separator spaces first (by simp)
      · refine (written_render spaces value stored).mono ?_
        rintro other ⟨plain, held⟩
        exact ⟨plain, _, List.mem_cons_self, .inr held⟩
      · exact written_separator spaces second (by simp)
      · refine (written_renderMembers spaces (next :: fields) later).mono ?_
        rintro other ⟨plain, field, inside, held⟩
        exact ⟨plain, field, List.mem_cons_of_mem _ inside, held⟩

end

end Written

theorem printable_asciiText {value : Value} (mem : char ∈ asciiText value) :
    32 ≤ char.toNat ∧ char.toNat < 128 := by
  obtain ⟨low, high | ⟨escaped, _⟩⟩ := written_render (by simp [compact]) value mem
  · exact ⟨low, high⟩
  · cases escaped

end Adwf.JsonText
