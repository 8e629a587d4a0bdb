import Mathlib
import Adwf.JsonText.Value
import Adwf.JsonText.Parse
import Adwf.Value.Fallible

/-!
# Reading back what was written

The loader returns every well-formed value from the text the writer makes of
it.  A scalar ends where a character follows that no scalar has, which is true
of the closing brackets, the separators and the end of the text.
-/

namespace Adwf.JsonText

open Value

variable {floats : Floats} {style : Style} {rest : List Char}

/-! ## Texts -/

theorem hexValue_digitChar {digit : Nat} (small : digit < 16) :
    hexValue (Nat.digitChar digit) = some digit := by
  revert digit
  decide

theorem readChars_hexDigits {high : Option Nat} {code : Nat} (small : code < 0x10000)
    (rest : List Char) : readChars (.hex high 4 0) (hexDigits code ++ rest) =
      readChars (.hex high 1 (code / 16)) (Nat.digitChar (code % 16) :: rest) := by
  have first : code / 4096 < 16 := by omega
  have second : code / 256 % 16 < 16 := Nat.mod_lt _ (by decide)
  have third : code / 16 % 16 < 16 := Nat.mod_lt _ (by decide)
  have value : 16 * (16 * (code / 4096) + code / 256 % 16) + code / 16 % 16 = code / 16 := by omega
  simp only [hexDigits, List.cons_append, List.nil_append]
  rw [readChars]
  simp only [hexValue_digitChar first]
  rw [if_pos (by decide), readChars]
  simp only [hexValue_digitChar second]
  rw [if_pos (by decide), readChars]
  simp only [hexValue_digitChar third]
  rw [if_pos (by decide)]
  simp [value]

theorem toNat_ranges (char : Char) :
    char.toNat < 0xd800 ∨ (0xdfff < char.toNat ∧ char.toNat < 0x110000) :=
  char.valid

variable {char : Char} {token : List Char}

theorem readChars_unicodeEscape (small : char.toNat < 0x10000) (rest : List Char) :
    readChars .plain (unicodeEscape char.toNat ++ rest) =
      (readChars .plain rest).map fun read => (char :: read.1, read.2) := by
  have last : char.toNat % 16 < 16 := Nat.mod_lt _ (by decide)
  have code : 16 * (char.toNat / 16) + char.toNat % 16 = char.toNat := Nat.div_add_mod _ _
  have notHigh : ¬(0xd800 ≤ char.toNat ∧ char.toNat < 0xdc00) := by
    have := toNat_ranges char
    omega
  have valid : char.toNat.isValidChar := char.valid
  have start : readChars .plain (unicodeEscape char.toNat ++ rest) =
      readChars (.hex none 4 0) (hexDigits char.toNat ++ rest) := by
    simp [unicodeEscape, readChars]
  rw [start, readChars_hexDigits small, readChars]
  simp only [hexValue_digitChar last, code]
  rw [if_neg (by decide)]
  simp only [if_neg notHigh, scalar, if_pos valid, Char.ofNat_toNat]

theorem readChars_pair {high low : Nat} (isHigh : 0xd800 ≤ high ∧ high < 0xdc00)
    (small : low < 0x10000) (pair : pairScalar high low = some char) (rest : List Char) :
    readChars .plain (unicodeEscape high ++ unicodeEscape low ++ rest) =
      (readChars .plain rest).map fun read => (char :: read.1, read.2) := by
  have firstDigit : high % 16 < 16 := Nat.mod_lt _ (by decide)
  have lastDigit : low % 16 < 16 := Nat.mod_lt _ (by decide)
  have start : readChars .plain (unicodeEscape high ++ unicodeEscape low ++ rest) =
      readChars (.hex none 4 0) (hexDigits high ++ (unicodeEscape low ++ rest)) := by
    simp [unicodeEscape, readChars]
  have next : readChars (.pair high) (unicodeEscape low ++ rest) =
      readChars (.hex (some high) 4 0) (hexDigits low ++ rest) := by
    simp [unicodeEscape, readChars]
  rw [start, readChars_hexDigits (by omega), readChars]
  simp only [hexValue_digitChar firstDigit, Nat.div_add_mod]
  rw [if_neg (by decide)]
  simp only [if_pos isHigh]
  rw [next, readChars_hexDigits small, readChars]
  simp only [hexValue_digitChar lastDigit, Nat.div_add_mod]
  rw [if_neg (by decide)]
  simp only [pair]

theorem pairScalar_surrogates (large : 0x10000 ≤ char.toNat) :
    pairScalar (0xd800 + (char.toNat - 0x10000) / 0x400)
      (0xdc00 + (char.toNat - 0x10000) % 0x400) = some char := by
  have valid : char.toNat.isValidChar := char.valid
  have isLow : 0xdc00 ≤ 0xdc00 + (char.toNat - 0x10000) % 0x400 ∧
      0xdc00 + (char.toNat - 0x10000) % 0x400 < 0xe000 := by omega
  have whole : 0x10000 + (0xd800 + (char.toNat - 0x10000) / 0x400 - 0xd800) * 0x400 +
      (0xdc00 + (char.toNat - 0x10000) % 0x400 - 0xdc00) = char.toNat := by omega
  rw [pairScalar, if_pos isLow, whole, scalar, if_pos valid, Char.ofNat_toNat]

theorem readChars_surrogates (large : 0x10000 ≤ char.toNat) (rest : List Char) :
    readChars .plain (unicodeEscape (0xd800 + (char.toNat - 0x10000) / 0x400) ++
        unicodeEscape (0xdc00 + (char.toNat - 0x10000) % 0x400) ++ rest) =
      (readChars .plain rest).map fun read => (char :: read.1, read.2) := by
  have bound := toNat_ranges char
  exact readChars_pair (by omega) (by omega) (pairScalar_surrogates large) rest

theorem readChars_escapeChar (ascii : Bool) (char : Char) (rest : List Char) :
    readChars .plain (escapeChar ascii char ++ rest) =
      (readChars .plain rest).map fun read => (char :: read.1, read.2) := by
  unfold escapeChar
  cases found : escapes.lookup char with
  | some letter =>
      have back : ∀ entry ∈ escapes,
          entry.2 ≠ 'u' ∧ unescapes.lookup entry.2 = some entry.1 := by decide
      obtain ⟨notHex, unescaped⟩ := back _ (mem_of_lookup found)
      simp [readChars, notHex, unescaped]
  | none =>
      dsimp only
      split_ifs with escaped small
      · exact readChars_unicodeEscape small rest
      · exact readChars_surrogates (not_lt.mp small) rest
      · have other : ∀ entry ∈ escapes, ¬char = entry.1 := by
          intro entry mem same
          rw [List.lookup_eq_none_iff] at found
          simpa [same] using found entry mem
        have notQuote : char ≠ '"' := other ('"', '"') (by decide)
        have notSlash : char ≠ '\\' := other ('\\', '\\') (by decide)
        have printed : ¬char.toNat < 32 := fun control => escaped (.inl control)
        simp [readChars, printed, notQuote, notSlash]

theorem readChars_escapeText (ascii : Bool) (chars rest : List Char) :
    readChars .plain (escapeText ascii chars ++ '"' :: rest) = some (chars, rest) := by
  induction chars with
  | nil => simp [escapeText, readChars]
  | cons char chars ih =>
      have split : escapeText ascii (char :: chars) =
          escapeChar ascii char ++ escapeText ascii chars := by
        simp [escapeText]
      rw [split, List.append_assoc, readChars_escapeChar, ih]
      rfl

theorem readText_renderText (ascii : Bool) (text : String) (rest : List Char) :
    readText (escapeText ascii text.toList ++ '"' :: rest) = .ok (text, rest) := by
  rw [readText, readChars_escapeText]
  simp

/-! ## Scalars -/

/-- No character that could continue a scalar follows. -/
def Stops (rest : List Char) : Prop :=
  ∀ char ∈ rest.head?, isTokenChar char = false

theorem stops_cons (stop : isTokenChar char = false) (rest : List Char) : Stops (char :: rest) := by
  intro first head
  cases head
  exact stop

theorem isTokenChar_of_isDigit (digit : Text.isDigit char = true) : isTokenChar char = true := by
  simp [isTokenChar, Text.isAlphanumeric, digit]

theorem isDigit_of_mem_toDigits {n : Nat} (mem : char ∈ Nat.toDigits 10 n) :
    Text.isDigit char = true := by
  have digit := Nat.isDigit_of_mem_toDigits (by decide) (by decide) mem
  simpa [Text.isDigit, Char.isDigit, UInt32.le_iff_toNat_le, Char.le_def] using digit

theorem toDigits_head_ne_zero {n : Nat} (positive : 0 < n) : (Nat.toDigits 10 n).head? ≠ some '0' := by
  induction n using Nat.strong_induction_on with
  | h n ih =>
      by_cases small : n < 10
      · rw [Nat.toDigits_of_lt_base small]
        have digits : ∀ digit < 10, 0 < digit → (some (Nat.digitChar digit)) ≠ some '0' := by decide
        exact digits n small positive
      · rw [Nat.toDigits_of_base_le (by decide) (not_lt.mp small), List.head?_append]
        have shorter := ih (n / 10) (by omega) (by omega)
        cases head : (Nat.toDigits 10 (n / 10)).head? with
        | none => exact absurd (List.head?_eq_none_iff.mp head) Nat.toDigits_ne_nil
        | some first =>
            rw [head] at shorter
            simpa using shorter

theorem isNatural_toDigits (n : Nat) : isNatural (Nat.toDigits 10 n) = true := by
  have digits : ∀ char ∈ Nat.toDigits 10 n, Text.isDigit char = true :=
    fun _ => isDigit_of_mem_toDigits
  cases written : Nat.toDigits 10 n with
  | nil => exact absurd written Nat.toDigits_ne_nil
  | cons first more =>
      rw [written] at digits
      cases more with
      | nil => exact digits first List.mem_cons_self
      | cons second more =>
          have positive : 0 < n := by
            by_contra zero
            have none : n = 0 := by omega
            rw [none, Nat.toDigits_zero] at written
            cases written
          have nonzero := toDigits_head_ne_zero positive
          rw [written] at nonzero
          simp only [isNatural, Bool.and_eq_true, List.all_eq_true, decide_eq_true_eq]
          refine ⟨⟨digits first List.mem_cons_self, ?_⟩, fun char mem =>
            digits char (List.mem_cons_of_mem _ mem)⟩
          simpa using nonzero

theorem magnitude_of_isDigit {first : Char} (digit : Text.isDigit first = true) (more : List Char) :
    magnitude (first :: more) = first :: more := by
  unfold magnitude
  split
  · rename_i signed
    cases signed
    cases digit
  · rfl

theorem magnitude_toDigits (n : Nat) : magnitude (Nat.toDigits 10 n) = Nat.toDigits 10 n := by
  cases written : Nat.toDigits 10 n with
  | nil => rfl
  | cons first more =>
      exact magnitude_of_isDigit (isDigit_of_mem_toDigits (written ▸ List.mem_cons_self)) more

theorem isIntToken_renderInt (value : Int) : isIntToken (renderInt value) = true := by
  cases value with
  | ofNat n =>
      change isNatural (magnitude (Nat.toDigits 10 n)) = true
      rw [magnitude_toDigits]
      exact isNatural_toDigits n
  | negSucc n => exact isNatural_toDigits (n + 1)

theorem readInt_renderInt (value : Int) : readInt (renderInt value) = value := by
  cases value with
  | ofNat n =>
      change readInt (Nat.toDigits 10 n) = (n : Int)
      unfold readInt
      split
      · rename_i signed
        have mem : '-' ∈ Nat.toDigits 10 n := signed ▸ List.mem_cons_self
        have digit := isDigit_of_mem_toDigits mem
        cases digit
      · rw [Nat.ofDigitChars_ten_toDigits]
  | negSucc n =>
      change -((Nat.ofDigitChars 10 (Nat.toDigits 10 (n + 1)) 0 : Nat) : Int) = _
      rw [Nat.ofDigitChars_ten_toDigits]
      rfl

theorem readToken_renderInt (value : Int) :
    readToken floats (renderInt value) = .ok (.int value) := by
  have names : ∀ name ∈ ["null", "true", "false"], isIntToken name.toList = false := by decide
  have other : ∀ name ∈ ["null", "true", "false"], renderInt value ≠ name.toList := by
    intro name mem same
    have named := names name mem
    rw [← same, isIntToken_renderInt] at named
    cases named
  rw [readToken, if_neg (other "null" (by simp)), if_neg (other "true" (by simp)),
    if_neg (other "false" (by simp)), if_pos (isIntToken_renderInt value), readInt_renderInt]

theorem all_isDigit_of_isNatural {chars : List Char} (natural : isNatural chars = true) :
    ∀ char ∈ chars, Text.isDigit char = true := by
  unfold isNatural at natural
  split at natural
  · cases natural
  · simpa using natural
  · simp only [Bool.and_eq_true, List.all_eq_true] at natural
    exact List.forall_mem_cons.mpr ⟨natural.1.1, natural.2⟩

/-- An integer literal is not a float literal. -/
theorem isIntToken_eq_false_of_isFloatToken (float : isFloatToken token = true) :
    isIntToken token = false := by
  simp only [isFloatToken, Bool.or_eq_true, Bool.and_eq_true] at float
  rcases float with named | ⟨⟨_, more⟩, _⟩
  · have names : ∀ name ∈ nonFinite, isIntToken name = false := by decide
    exact names token (by simpa using named)
  · by_contra int
    rw [Bool.not_eq_false] at int
    have digits := all_isDigit_of_isNatural int
    rw [List.dropWhile_eq_nil_iff.mpr digits] at more
    cases more

theorem readToken_float (token : FloatToken) :
    readToken floats token.chars = .ok (.float (floats.normal token)) := by
  have names : ∀ name ∈ ["null", "true", "false"], isFloatToken name.toList = false := by decide
  have other : ∀ name ∈ ["null", "true", "false"], token.chars ≠ name.toList := by
    intro name mem same
    have named := names name mem
    rw [← same, token.valid] at named
    cases named
  rw [readToken, if_neg (other "null" (by simp)), if_neg (other "true" (by simp)),
    if_neg (other "false" (by simp)),
    if_neg (by simp [isIntToken_eq_false_of_isFloatToken token.valid]), dif_pos token.valid]

theorem isTokenChar_of_mem_magnitude (chars : ∀ char ∈ magnitude token, isTokenChar char = true) :
    ∀ char ∈ token, isTokenChar char = true := by
  unfold magnitude at chars
  split at chars
  · exact List.forall_mem_cons.mpr ⟨by decide, chars⟩
  · exact chars

theorem isTokenChar_of_digits {digits : List Char}
    (all : Text.nonemptyOf Text.isDigit digits = true) :
    ∀ char ∈ digits, isTokenChar char = true := by
  simp only [Text.nonemptyOf, Bool.and_eq_true, List.all_eq_true] at all
  exact fun char mem => isTokenChar_of_isDigit (all.2 char mem)

theorem isTokenChar_of_letter {letter : Char} (exponent : ['e', 'E'].contains letter = true) :
    isTokenChar letter = true := by
  have letters : ['e', 'E'].all isTokenChar = true := by decide
  exact List.all_eq_true.mp letters letter (by simpa using exponent)

theorem isTokenChar_of_isExponent {chars : List Char} (exponent : isExponent chars = true) :
    ∀ char ∈ chars, isTokenChar char = true := by
  unfold isExponent at exponent
  split at exponent
  · simp
  · rw [Bool.and_eq_true] at exponent
    exact List.forall_mem_cons.mpr ⟨isTokenChar_of_letter exponent.1,
      List.forall_mem_cons.mpr ⟨by decide, isTokenChar_of_digits exponent.2⟩⟩
  · rw [Bool.and_eq_true] at exponent
    exact List.forall_mem_cons.mpr ⟨isTokenChar_of_letter exponent.1,
      List.forall_mem_cons.mpr ⟨by decide, isTokenChar_of_digits exponent.2⟩⟩
  · rw [Bool.and_eq_true] at exponent
    exact List.forall_mem_cons.mpr ⟨isTokenChar_of_letter exponent.1,
      isTokenChar_of_digits exponent.2⟩

theorem isTokenChar_of_isFraction {chars : List Char} (fraction : isFraction chars = true) :
    ∀ char ∈ chars, isTokenChar char = true := by
  unfold isFraction at fraction
  split at fraction
  · rename_i more
    rw [Bool.and_eq_true] at fraction
    rw [List.forall_mem_cons]
    refine ⟨by decide, ?_⟩
    have parts : more.takeWhile Text.isDigit ++ more.dropWhile Text.isDigit = more :=
      List.takeWhile_append_dropWhile
    rw [← parts]
    intro char mem
    rcases List.mem_append.mp mem with digit | exponent
    · exact isTokenChar_of_isDigit (List.mem_takeWhile_imp digit)
    · exact isTokenChar_of_isExponent fraction.2 char exponent
  · exact isTokenChar_of_isExponent fraction

theorem isTokenChar_of_mem_float (token : FloatToken) :
    ∀ char ∈ token.chars, isTokenChar char = true := by
  have valid := token.valid
  simp only [isFloatToken, Bool.or_eq_true, Bool.and_eq_true] at valid
  rcases valid with named | ⟨_, fraction⟩
  · have names : nonFinite.all (fun name => name.all isTokenChar) = true := by decide
    rw [List.all_eq_true] at names
    exact List.all_eq_true.mp (names token.chars (by simpa using named))
  · apply isTokenChar_of_mem_magnitude
    have parts : (magnitude token.chars).takeWhile Text.isDigit ++
        (magnitude token.chars).dropWhile Text.isDigit = magnitude token.chars :=
      List.takeWhile_append_dropWhile
    rw [← parts]
    intro char mem
    rcases List.mem_append.mp mem with digit | more
    · exact isTokenChar_of_isDigit (List.mem_takeWhile_imp digit)
    · exact isTokenChar_of_isFraction fraction char more

theorem isTokenChar_of_mem_renderInt {value : Int} :
    ∀ char ∈ renderInt value, isTokenChar char = true := by
  cases value with
  | ofNat n => exact fun char mem => isTokenChar_of_isDigit (isDigit_of_mem_toDigits mem)
  | negSucc n =>
      exact List.forall_mem_cons.mpr ⟨by decide, fun char mem =>
        isTokenChar_of_isDigit (isDigit_of_mem_toDigits mem)⟩

theorem takeWhile_token (chars : ∀ char ∈ token, isTokenChar char = true)
    (stops : Stops rest) : (token ++ rest).takeWhile isTokenChar = token := by
  rw [List.takeWhile_append_of_pos chars]
  cases rest with
  | nil => simp
  | cons first more => simp [stops first rfl]

theorem dropWhile_token (chars : ∀ char ∈ token, isTokenChar char = true)
    (stops : Stops rest) : (token ++ rest).dropWhile isTokenChar = rest := by
  rw [List.dropWhile_append_of_pos chars]
  cases rest with
  | nil => rfl
  | cons first more => simp [stops first rfl]

/-- A written scalar is read to its end. -/
theorem readValue_token {value : Value} (fuel : Nat) (nonempty : token ≠ [])
    (chars : ∀ char ∈ token, isTokenChar char = true) (stops : Stops rest)
    (read : readToken floats token = .ok value) :
    readValue floats (fuel + 1) (token ++ rest) = .ok (value, rest) := by
  obtain ⟨first, more, rfl⟩ := List.exists_cons_of_ne_nil nonempty
  have tokenChar := chars first List.mem_cons_self
  have taken := takeWhile_token chars stops
  have dropped := dropWhile_token chars stops
  rw [List.cons_append] at taken dropped ⊢
  have other : ∀ mark ∈ ['"', '[', '\x7b'], first ≠ mark := by
    have marks : ['"', '[', '\x7b'].all (fun mark => !isTokenChar mark) = true := by decide
    rw [List.all_eq_true] at marks
    rintro mark mem rfl
    simpa [tokenChar] using marks first mem
  rw [readValue]
  · rw [taken, dropped, read]
    rfl
  all_goals
    rintro more same
    rw [List.cons.injEq] at same
    exact other _ (by simp) same.1

/-! ## Values -/

theorem skipBlanks_append (style : Style) (rest : List Char) :
    skipBlanks (style.pad ++ rest) = skipBlanks rest :=
  List.dropWhile_append_of_pos style.blanks

theorem skipBlanks_cons (solid : isBlank char = false) (rest : List Char) :
    skipBlanks (char :: rest) = char :: rest := by
  simp [skipBlanks, solid]

/-- A written value starts with a character that is neither blank nor a closing bracket. -/
theorem exists_render_eq_cons (style : Style) (value : Value) :
    ∃ first more, render style value = first :: more ∧ isBlank first = false ∧ first ≠ ']' := by
  have token : ∀ char, isTokenChar char = true → isBlank char = false ∧ char ≠ ']' := by
    intro char tokenChar
    have marks : [' ', '\t', '\n', '\r', ']'].all (fun mark => !isTokenChar mark) = true := by
      decide
    rw [List.all_eq_true] at marks
    have other : ∀ mark ∈ [' ', '\t', '\n', '\r', ']'], char ≠ mark := by
      rintro mark mem rfl
      simpa [tokenChar] using marks char mem
    have solid : char ∉ [' ', '\t', '\n', '\r'] := fun blank =>
      other char (List.mem_append_left [']'] blank) rfl
    exact ⟨by simpa [isBlank] using solid, other ']' (by simp)⟩
  cases value with
  | null => exact ⟨'n', _, rfl, by decide, by decide⟩
  | bool value => cases value <;> exact ⟨_, _, rfl, by decide, by decide⟩
  | int value =>
      have nonempty : renderInt value ≠ [] := by
        intro empty
        have int := isIntToken_renderInt value
        rw [empty] at int
        cases int
      obtain ⟨first, more, written⟩ := List.exists_cons_of_ne_nil nonempty
      have first_token := isTokenChar_of_mem_renderInt first (written ▸ List.mem_cons_self)
      exact ⟨first, more, written, token first first_token⟩
  | float float =>
      have nonempty : float.chars ≠ [] := by
        intro empty
        have valid := float.valid
        rw [empty] at valid
        cases valid
      obtain ⟨first, more, written⟩ := List.exists_cons_of_ne_nil nonempty
      have first_token := isTokenChar_of_mem_float float first (written ▸ List.mem_cons_self)
      exact ⟨first, more, written, token first first_token⟩
  | str text => exact ⟨'"', _, rfl, by decide, by decide⟩
  | list items => exact ⟨'[', _, rfl, by decide, by decide⟩
  | dict fields => exact ⟨'\x7b', _, rfl, by decide, by decide⟩

theorem exists_renderItems_eq_cons (style : Style) (item : Value) (items : List Value) :
    ∃ first more, renderItems style (item :: items) = first :: more ∧ isBlank first = false ∧
      first ≠ ']' := by
  obtain ⟨first, more, written, solid, open_⟩ := exists_render_eq_cons style item
  cases items with
  | nil => exact ⟨first, more, written, solid, open_⟩
  | cons next items =>
      exact ⟨first, _, by rw [renderItems, written]; rfl, solid, open_⟩

theorem exists_renderMembers_eq_cons (style : Style) (field : String × Value) (fields : Members) :
    ∃ more, renderMembers style (field :: fields) = '"' :: more := by
  cases fields with
  | nil => exact ⟨_, rfl⟩
  | cons next fields => exact ⟨_, rfl⟩

theorem repeatedKey_eq_none {seen keys : List String} (distinct : keys.Nodup)
    (fresh : ∀ key ∈ keys, key ∉ seen) : repeatedKey seen keys = none := by
  induction keys generalizing seen with
  | nil => rfl
  | cons key keys ih =>
      obtain ⟨notLater, distinct⟩ := List.nodup_cons.mp distinct
      obtain ⟨unseen, others⟩ := List.forall_mem_cons.mp fresh
      rw [repeatedKey, if_neg unseen]
      apply ih distinct
      intro other mem seen
      rcases List.mem_cons.mp seen with rfl | before
      · exact notLater mem
      · exact others other mem before

/-- The keys of a well-formed object are read without a repetition, in order. -/
theorem objectOf_eq_ok {fields : Members} (sorted : (fields.map Prod.fst).Pairwise (· < ·)) :
    objectOf fields = .ok (.dict fields) := by
  have distinct : (fields.map Prod.fst).Nodup := sorted.imp fun less => ne_of_lt less
  have ordered : fields.Pairwise fun first second => first.1 ≤ second.1 :=
    (List.pairwise_map.mp sorted).imp fun less => le_of_lt less
  rw [objectOf, repeatedKey_eq_none distinct (by simp)]
  exact congrArg (fun fields => Except.ok (Value.dict fields)) ordered.insertionSort_eq

section Steps

variable {fuel : Nat} {chars more : List Char} {item : Value} {items : List Value}

theorem readItems_last (read : readValue floats fuel chars = .ok (item, ']' :: rest)) :
    readItems floats (fuel + 1) chars = .ok ([item], rest) := by
  rw [readItems, read]
  rfl

theorem readItems_next (read : readValue floats fuel chars = .ok (item, ',' :: more))
    (others : readItems floats fuel (skipBlanks more) = .ok (items, rest)) :
    readItems floats (fuel + 1) chars = .ok (item :: items, rest) := by
  have separator : skipBlanks (',' :: more) = ',' :: more := skipBlanks_cons (by decide) more
  simp only [readItems, read, Fallible.ok_bind, separator, others]
  rfl

variable {key : String} {value : Value} {fields : Members}

theorem readMembers_last (solid : skipBlanks (style.pad ++ chars) = chars)
    (read : readValue floats fuel chars = .ok (value, '\x7d' :: rest)) :
    readMembers floats (fuel + 1) (renderText style.ascii key ++ (':' :: style.pad) ++ chars) =
      .ok ([(key, value)], rest) := by
  have separator : skipBlanks (':' :: (style.pad ++ chars)) = ':' :: (style.pad ++ chars) :=
    skipBlanks_cons (by decide) _
  simp only [renderText, List.cons_append, List.append_assoc, List.nil_append, readMembers,
    readText_renderText, Fallible.ok_bind, separator, solid, read]
  rfl

theorem readMembers_next (solid : skipBlanks (style.pad ++ chars) = chars)
    (read : readValue floats fuel chars = .ok (value, ',' :: more))
    (others : readMembers floats fuel (skipBlanks more) = .ok (fields, rest)) :
    readMembers floats (fuel + 1) (renderText style.ascii key ++ (':' :: style.pad) ++ chars) =
      .ok ((key, value) :: fields, rest) := by
  have separator : skipBlanks (':' :: (style.pad ++ chars)) = ':' :: (style.pad ++ chars) :=
    skipBlanks_cons (by decide) _
  have comma : skipBlanks (',' :: more) = ',' :: more := skipBlanks_cons (by decide) more
  simp only [renderText, List.cons_append, List.append_assoc, List.nil_append, readMembers,
    readText_renderText, Fallible.ok_bind, separator, solid, read, comma, others]
  rfl

theorem readValue_list (start : skipBlanks chars = chars) (notEnd : chars.head? ≠ some ']')
    (read : readItems floats fuel chars = .ok (items, rest)) :
    readValue floats (fuel + 1) ('[' :: chars) = .ok (.list items, rest) := by
  simp only [readValue, start]
  split
  · exact absurd rfl notEnd
  · rw [read]
    rfl

theorem readValue_dict (start : skipBlanks chars = chars) (notEnd : chars.head? ≠ some '\x7d')
    (read : readMembers floats fuel chars = .ok (fields, rest))
    (sorted : (fields.map Prod.fst).Pairwise (· < ·)) :
    readValue floats (fuel + 1) ('\x7b' :: chars) = .ok (.dict fields, rest) := by
  simp only [readValue, start]
  split
  · exact absurd rfl notEnd
  · simp only [read, Fallible.ok_bind, objectOf_eq_ok sorted]
    rfl

end Steps

/-! ## The round trip -/

theorem skipBlanks_pad_render (value : Value) (rest : List Char) :
    skipBlanks (style.pad ++ (render style value ++ rest)) = render style value ++ rest := by
  obtain ⟨first, more, written, solid, _⟩ := exists_render_eq_cons style value
  rw [skipBlanks_append style, written, List.cons_append, skipBlanks_cons solid]

theorem skipBlanks_pad_renderItems (item : Value) (items : List Value) (rest : List Char) :
    skipBlanks (style.pad ++ (renderItems style (item :: items) ++ rest)) =
      renderItems style (item :: items) ++ rest := by
  obtain ⟨first, more, written, solid, _⟩ := exists_renderItems_eq_cons style item items
  rw [skipBlanks_append style, written, List.cons_append, skipBlanks_cons solid]

theorem skipBlanks_pad_renderMembers
    (field : String × Value) (fields : Members) (rest : List Char) :
    skipBlanks (style.pad ++ (renderMembers style (field :: fields) ++ rest)) =
      renderMembers style (field :: fields) ++ rest := by
  obtain ⟨more, written⟩ := exists_renderMembers_eq_cons style field fields
  rw [skipBlanks_append style, written, List.cons_append, skipBlanks_cons (by decide)]

/-- With this much fuel every written value is read. -/
def ReadsValues (floats : Floats) (style : Style) (fuel : Nat) : Prop :=
  ∀ value rest, WellFormed floats value → (render style value).length < fuel → Stops rest →
    readValue floats fuel (render style value ++ rest) = .ok (value, rest)

def ReadsItems (floats : Floats) (style : Style) (fuel : Nat) : Prop :=
  ∀ item items rest, WellFormedItems floats (item :: items) →
    (renderItems style (item :: items)).length + 1 < fuel →
    readItems floats fuel (renderItems style (item :: items) ++ ']' :: rest) =
      .ok (item :: items, rest)

def ReadsMembers (floats : Floats) (style : Style) (fuel : Nat) : Prop :=
  ∀ key value fields rest, WellFormedMembers floats ((key, value) :: fields) →
    (renderMembers style ((key, value) :: fields)).length < fuel →
    readMembers floats fuel (renderMembers style ((key, value) :: fields) ++ '\x7d' :: rest) =
      .ok ((key, value) :: fields, rest)

theorem readsItems_succ {fuel : Nat}
    (values : ReadsValues floats style fuel) (others : ReadsItems floats style fuel) :
    ReadsItems floats style (fuel + 1) := by
  intro item items rest wellFormed enough
  cases items with
  | nil =>
      simp only [renderItems] at enough ⊢
      exact readItems_last (values item _ wellFormed.1 (by omega) (stops_cons (by decide) rest))
  | cons next items =>
      simp only [renderItems, List.append_assoc, List.cons_append, List.length_append,
        List.length_cons] at enough ⊢
      apply readItems_next
      · exact values item _ wellFormed.1 (by omega) (stops_cons (by decide) _)
      · rw [skipBlanks_pad_renderItems]
        exact others next items rest wellFormed.2 (by omega)

theorem readsMembers_succ {fuel : Nat}
    (values : ReadsValues floats style fuel) (others : ReadsMembers floats style fuel) :
    ReadsMembers floats style (fuel + 1) := by
  intro key value fields rest wellFormed enough
  cases fields with
  | nil =>
      rw [renderMembers, List.append_assoc]
      simp only [renderMembers, List.length_append, List.length_cons] at enough
      apply readMembers_last (skipBlanks_pad_render value _)
      exact values value _ wellFormed.1 (by omega) (stops_cons (by decide) rest)
  | cons next fields =>
      obtain ⟨name, other⟩ := next
      rw [renderMembers, List.append_assoc, List.append_assoc, List.append_assoc]
      simp only [renderMembers, List.length_append, List.length_cons] at enough
      apply readMembers_next (skipBlanks_pad_render value _)
      · exact values value _ wellFormed.1 (by omega) (stops_cons (by decide) _)
      · have inner := others name other fields rest wellFormed.2 (by omega)
        rw [← skipBlanks_pad_renderMembers] at inner
        exact inner

theorem readValue_scalar {value : Value} (fuel : Nat) (stops : Stops rest)
    (chars : ∀ char ∈ render style value, isTokenChar char = true)
    (read : readToken floats (render style value) = .ok value) :
    readValue floats (fuel + 1) (render style value ++ rest) = .ok (value, rest) := by
  obtain ⟨first, more, written, _⟩ := exists_render_eq_cons style value
  exact readValue_token fuel (by simp [written]) chars stops read

theorem readsValues_succ {fuel : Nat} (items : ReadsItems floats style fuel) (members : ReadsMembers floats style fuel) :
    ReadsValues floats style (fuel + 1) := by
  intro value rest wellFormed enough stops
  cases value with
  | null => exact readValue_scalar fuel stops (by simp [render]; decide) rfl
  | bool value =>
      cases value with
      | false => exact readValue_scalar fuel stops (by simp [render]; decide) rfl
      | true => exact readValue_scalar fuel stops (by simp [render]; decide) rfl
  | int value =>
      apply readValue_scalar fuel stops
      · simpa [render] using isTokenChar_of_mem_renderInt
      · simpa [render] using readToken_renderInt value
  | float token =>
      apply readValue_scalar fuel stops
      · simpa [render] using isTokenChar_of_mem_float token
      · have normal : floats.normal token = token := wellFormed
        have read : readToken floats token.chars = .ok (.float (floats.normal token)) :=
          readToken_float token
        rw [normal] at read
        simpa [render] using read
  | str text =>
      simp only [render, renderText, List.cons_append, List.append_assoc, List.nil_append,
        readValue, readText_renderText, Fallible.ok_bind]
      rfl
  | list entries =>
      cases entries with
      | nil => rfl
      | cons item entries =>
          simp only [render, List.length_cons, List.length_append, List.length_nil] at enough
          have inner := items item entries rest wellFormed (by omega)
          obtain ⟨first, more, written, solid, notEnd⟩ :=
            exists_renderItems_eq_cons style item entries
          rw [render, List.cons_append, List.append_assoc]
          rw [written] at inner ⊢
          exact readValue_list (skipBlanks_cons solid _) (by simpa using notEnd) inner
  | dict fields =>
      cases fields with
      | nil => rfl
      | cons field fields =>
          obtain ⟨key, value⟩ := field
          simp only [render, List.length_cons, List.length_append, List.length_nil] at enough
          have inner := members key value fields rest wellFormed.2 (by omega)
          obtain ⟨more, written⟩ := exists_renderMembers_eq_cons style (key, value) fields
          rw [render, List.cons_append, List.append_assoc]
          rw [written] at inner ⊢
          exact readValue_dict (skipBlanks_cons (by decide) _) (by simp) inner wellFormed.1

theorem reads (style : Style) (floats : Floats) (fuel : Nat) :
    ReadsValues floats style fuel ∧ ReadsItems floats style fuel ∧ ReadsMembers floats style fuel := by
  induction fuel with
  | zero =>
      refine ⟨fun _ _ _ enough => ?_, fun _ _ _ _ enough => ?_, fun _ _ _ _ _ enough => ?_⟩
      · exact absurd enough (Nat.not_lt_zero _)
      · exact absurd enough (Nat.not_lt_zero _)
      · exact absurd enough (Nat.not_lt_zero _)
  | succ fuel ih =>
      obtain ⟨values, items, members⟩ := ih
      exact ⟨readsValues_succ items members, readsItems_succ values items,
        readsMembers_succ values members⟩

theorem loads_render (style : Style) {value : Value}
    (wellFormed : WellFormed floats value) : loads floats (render style value) = .ok value := by
  obtain ⟨first, more, written, solid, _⟩ := exists_render_eq_cons style value
  have start : skipBlanks (render style value) = render style value := by
    rw [written, skipBlanks_cons solid]
  have read := (reads style floats ((render style value).length + 1)).1 value [] wellFormed
    (Nat.lt_succ_self _) (by simp [Stops])
  rw [List.append_nil] at read
  rw [loads, start, read]
  rfl

theorem loads_canonicalText {value : Value} (wellFormed : WellFormed floats value) :
    loads floats (canonicalText value) = .ok value :=
  loads_render _ wellFormed

theorem render_injective (style : Style) {first second : Value}
    (firstFormed : WellFormed floats first) (secondFormed : WellFormed floats second)
    (same : render style first = render style second) : first = second := by
  have read := loads_render style firstFormed
  rw [same, loads_render style secondFormed] at read
  exact (Except.ok.inj read).symm

end Adwf.JsonText
