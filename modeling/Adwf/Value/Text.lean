import Mathlib.Data.List.Basic

/-!
# Text patterns and timestamps

The regular expressions of the modelled code are character classes with length
bounds, matched against the whole text (`re.fullmatch`).
-/

namespace Adwf.Text

/-- `[class]{low,high}` against the whole text. -/
def fullmatch (charClass : Char → Bool) (low high : Nat) (text : String) : Bool :=
  let chars := text.toList
  low ≤ chars.length && chars.length ≤ high && chars.all charClass

/-- `[0-9a-f]`. -/
def isLowerHex (char : Char) : Bool :=
  ('0' ≤ char && char ≤ '9') || ('a' ≤ char && char ≤ 'f')

/-- `[0-9]`. -/
def isDigit (char : Char) : Bool :=
  '0' ≤ char && char ≤ '9'

/-- `[A-Z]`. -/
def isUpper (char : Char) : Bool :=
  'A' ≤ char && char ≤ 'Z'

/-- `[A-Za-z0-9]`. -/
def isAlphanumeric (char : Char) : Bool :=
  isUpper char || ('a' ≤ char && char ≤ 'z') || isDigit char

/-- `[0-9a-f]{40}`. -/
def isSha40 (text : String) : Bool :=
  fullmatch isLowerHex 40 40 text

/-- `[0-9a-f]{64}`. -/
def isSha256 (text : String) : Bool :=
  fullmatch isLowerHex 64 64 text

/-- `str.startswith`. -/
def startsWith (text start : String) : Bool :=
  start.toList.isPrefixOf text.toList

theorem fullmatch_replicate {charClass : Char → Bool} {char : Char} (mem : charClass char = true)
    (count : Nat) :
    fullmatch charClass count count (String.ofList (List.replicate count char)) = true := by
  simp [fullmatch, mem]

theorem ne_empty_of_isSha40 {text : String} (sha : isSha40 text = true) : text ≠ "" := by
  rintro rfl
  simp [isSha40, fullmatch] at sha

/-- `[class]+`. -/
def nonemptyOf (charClass : Char → Bool) (chars : List Char) : Bool :=
  !chars.isEmpty && chars.all charClass

/-- `pattern in text`. -/
def hasInfix (pattern : List Char) : List Char → Bool
  | [] => pattern.isEmpty
  | char :: rest => pattern.isPrefixOf (char :: rest) || hasInfix pattern rest

theorem hasInfix_iff {pattern chars : List Char} :
    hasInfix pattern chars = true ↔ pattern <:+: chars := by
  induction chars with
  | nil => rw [hasInfix, List.isEmpty_iff, List.infix_nil]
  | cons char rest inductionHypothesis =>
      rw [hasInfix, Bool.or_eq_true, List.isPrefixOf_iff_prefix, inductionHypothesis,
        List.infix_cons_iff]

/-- `\s` of a text pattern. -/
def isSpace (char : Char) : Bool :=
  let code := char.toNat
  (9 ≤ code && code ≤ 13) || (28 ≤ code && code ≤ 32) || code = 0x85 || code = 0xa0 ||
    code = 0x1680 || (0x2000 ≤ code && code ≤ 0x200a) || code = 0x2028 || code = 0x2029 ||
    code = 0x202f || code = 0x205f || code = 0x3000

/-- `str.strip`. -/
def strip (text : String) : String :=
  String.ofList ((text.toList.dropWhile isSpace).reverse.dropWhile isSpace).reverse

/-- Equality of texts as lists, for membership among them. -/
instance lawfulChars : LawfulBEq (List Char) :=
  inferInstance

/-! ## Separated texts -/

section Separated

variable {α : Type} {separator : α} {pattern front back : List α}

theorem mem_intercalate {parts : List (List α)} {item : α}
    (mem : item ∈ [separator].intercalate parts) :
    item = separator ∨ ∃ part ∈ parts, item ∈ part := by
  induction parts with
  | nil => cases mem
  | cons first rest ih =>
      by_cases alone : rest = []
      · rw [alone, List.intercalate_singleton] at mem
        exact Or.inr ⟨first, List.mem_cons_self, mem⟩
      · rw [List.intercalate_cons_of_ne_nil alone] at mem
        rcases List.mem_append.mp mem with mem | mem
        · rcases List.mem_append.mp mem with mem | mem
          · exact Or.inr ⟨first, List.mem_cons_self, mem⟩
          · exact Or.inl (List.mem_singleton.mp mem)
        · rcases ih mem with same | ⟨part, listed, inside⟩
          · exact Or.inl same
          · exact Or.inr ⟨part, List.mem_cons_of_mem _ listed, inside⟩

end Separated

end Adwf.Text

/-!
## Lines of a text

A store of one record per line is read by splitting its text at line breaks.
Which characters break a line depends on the reader.
-/

namespace Adwf.Lines

/-- The lines after `current`, the start of a line in reverse; a line feed that
follows a carriage return breaks no further line. -/
def linesFrom (isBreak : Char → Bool) : Bool → List Char → List Char → List (List Char)
  | _, current, [] => if current.isEmpty then [] else [current.reverse]
  | afterReturn, current, char :: rest =>
      if afterReturn && char = '\n' then linesFrom isBreak false current rest
      else if isBreak char then current.reverse :: linesFrom isBreak (char = '\r') [] rest
      else linesFrom isBreak false (char :: current) rest

def splitLines (isBreak : Char → Bool) (text : List Char) : List (List Char) :=
  linesFrom isBreak false [] text

/-- The breaks of `str.splitlines`. -/
def textBreaks : List Char :=
  ['\n', '\r', '\x0b', '\x0c', '\x1c', '\x1d', '\x1e', '\u0085', '\u2028', '\u2029']

/-- `str.splitlines`. -/
def splitText (text : List Char) : List (List Char) :=
  splitLines textBreaks.contains text

/-- `bytes.splitlines` of a text in UTF-8. -/
def splitBytes (text : List Char) : List (List Char) :=
  splitLines ['\n', '\r'].contains text

/-- Every line followed by a line feed. -/
def joinLines (lines : List (List Char)) : List Char :=
  lines.flatMap fun line => line ++ ['\n']

@[simp]
theorem joinLines_nil : joinLines [] = [] :=
  rfl

@[simp]
theorem joinLines_cons (line : List Char) (lines : List (List Char)) :
    joinLines (line :: lines) = line ++ '\n' :: joinLines lines := by
  simp [joinLines]

theorem joinLines_append (lines more : List (List Char)) :
    joinLines (lines ++ more) = joinLines lines ++ joinLines more :=
  List.flatMap_append

variable {isBreak : Char → Bool} {line : List Char} {lines : List (List Char)}

theorem linesFrom_line (feeds : isBreak '\n' = true) (whole : ∀ char ∈ line, isBreak char = false)
    (current rest : List Char) : linesFrom isBreak false current (line ++ '\n' :: rest) =
      (current.reverse ++ line) :: linesFrom isBreak false [] rest := by
  induction line generalizing current with
  | nil => simp [linesFrom, feeds]
  | cons char line ih =>
      obtain ⟨here, others⟩ := List.forall_mem_cons.mp whole
      rw [List.cons_append, linesFrom, if_neg (by simp), here, if_neg (by simp), ih others]
      simp

theorem splitLines_joinLines (feeds : isBreak '\n' = true)
    (whole : ∀ line ∈ lines, ∀ char ∈ line, isBreak char = false) :
    splitLines isBreak (joinLines lines) = lines := by
  induction lines with
  | nil => rfl
  | cons line lines ih =>
      obtain ⟨here, others⟩ := List.forall_mem_cons.mp whole
      rw [joinLines_cons, splitLines, linesFrom_line feeds here]
      exact congrArg (line :: ·) (ih others)

end Adwf.Lines
