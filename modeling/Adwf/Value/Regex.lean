import Mathlib.Data.List.Basic

/-!
# Backtracking regular expressions

The fragment of Python's `re` that repeats single characters only: a match at
the start of a text is a list of rests in the order in which a backtracking
engine tries them.
-/

namespace Adwf

/-- A regular expression over characters. -/
inductive Regex where
  | empty
  | one (accepts : Char → Bool)
  | many (low : Nat) (high : Option Nat) (accepts : Char → Bool)
  | seq (first second : Regex)
  | alt (first second : Regex)

namespace Regex

/-! ## Patterns -/

/-- The text itself. -/
def literal (text : String) : Regex :=
  text.toList.foldr (fun char rest => seq (one (· = char)) rest) empty

/-- The letter that a character stands for under `re.IGNORECASE`. -/
def foldCase (char : Char) : Char :=
  if char = 'İ' ∨ char = 'ı' then 'i'
  else if char = 'ſ' then 's'
  else if char.toNat = 0x212a then 'k'
  else char.toLower

/-- The text in any case. -/
def folded (text : String) : Regex :=
  text.toList.foldr (fun char rest => seq (one (foldCase · = foldCase char)) rest) empty

/-- `first|second|…`; no choice is never met. -/
def anyOf : List Regex → Regex
  | [] => one fun _ => false
  | [last] => last
  | first :: others => alt first (anyOf others)

/-- `pattern?`. -/
def optional (accepts : Char → Bool) : Regex :=
  many 0 (some 1) accepts

/-! ## Matching -/

/-- How many characters the longest repetition takes. -/
def longest (high : Option Nat) (accepts : Char → Bool) (chars : List Char) : Nat :=
  let reach := (chars.takeWhile accepts).length
  match high with
  | none => reach
  | some bound => min reach bound

/-- The rests after a match at the start of the text, the preferred one first. -/
def rests : Regex → List Char → List (List Char)
  | empty, chars => [chars]
  | one _, [] => []
  | one accepts, char :: chars => if accepts char then [chars] else []
  | many low high accepts, chars =>
      let top := longest high accepts chars
      (List.range' low (top + 1 - low)).reverse.map fun count => chars.drop count
  | seq first second, chars => (rests first chars).flatMap (rests second)
  | alt first second, chars => rests first chars ++ rests second chars

/-- `re.search`. -/
def occursIn (regex : Regex) : List Char → Bool
  | [] => !(regex.rests []).isEmpty
  | char :: chars => !(regex.rests (char :: chars)).isEmpty || occursIn regex chars

/-- `re.search` in a text. -/
def search (regex : Regex) (text : String) : Bool :=
  regex.occursIn text.toList

/-- The matches of `re.finditer` once `skip` more characters are passed, for an
expression without empty matches. -/
def matchesFrom (regex : Regex) : Nat → List Char → List String
  | _, [] => []
  | skip + 1, _ :: chars => matchesFrom regex skip chars
  | 0, char :: chars =>
      match (regex.rests (char :: chars)).head? with
      | none => matchesFrom regex 0 chars
      | some rest =>
          let taken := chars.length + 1 - rest.length
          String.ofList ((char :: chars).take taken) :: matchesFrom regex (taken - 1) chars

/-- `match.group(0) for match in re.finditer(text)`. -/
def findAll (regex : Regex) (text : String) : List String :=
  regex.matchesFrom 0 text.toList

end Regex

end Adwf
