import Adwf.JsonText.Value

/-!
# Equality of JSON values

Python compares booleans as the numbers 0 and 1; JSON Schema does not.  The two
equalities differ in nothing else, so both are one comparison with a view of
the numbers.
-/

namespace Adwf.Contracts

open JsonText

/-- The finite numbers of JSON: integers and floats. -/
def jsonNumber (floats : Floats) : Value → Option Rat
  | .int number => some number
  | .float token => floats.value token
  | _ => none

/-- The finite numbers of Python, the booleans among them. -/
def pythonNumber (floats : Floats) : Value → Option Rat
  | .bool value => some (if value then 1 else 0)
  | value => jsonNumber floats value

section Comparison

variable (number : Value → Option Rat)

/-- Equality of values that are not containers; `NaN` equals nothing. -/
def equalScalar (first second : Value) : Bool :=
  match number first, number second with
  | some one, some other => one = other
  | none, none =>
      match first, second with
      | .null, .null => true
      | .bool one, .bool other => one = other
      | .float one, .float other => one = other && one.chars ≠ ['N', 'a', 'N']
      | .str one, .str other => one = other
      | _, _ => false
  | _, _ => false

mutual

def equalBy : Value → Value → Bool
  | .list items, .list others => equalItems items others
  | .dict fields, .dict others => equalMembers fields others
  | first, second => equalScalar number first second

def equalItems : List Value → List Value → Bool
  | [], [] => true
  | item :: items, other :: others => equalBy item other && equalItems items others
  | _, _ => false

def equalMembers : Members → Members → Bool
  | [], [] => true
  | (key, value) :: fields, (name, other) :: others =>
      key = name && equalBy value other && equalMembers fields others
  | _, _ => false

end

end Comparison

/-- `==`. -/
def pythonEqual (floats : Floats) : Value → Value → Bool :=
  equalBy (pythonNumber floats)

/-- Equality of JSON Schema. -/
def jsonEqual (floats : Floats) : Value → Value → Bool :=
  equalBy (jsonNumber floats)

end Adwf.Contracts
