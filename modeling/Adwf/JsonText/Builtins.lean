import Adwf.JsonText.Value
import Adwf.Value.Fallible

/-!
# Built-ins on JSON values

`bool`, `str`, `or` and iteration, as the code applies them to values it has
not checked yet.
-/

namespace Adwf.JsonText

open Fallible

/-- The built-ins whose result on a value is only passed on or compared. -/
structure Builtins where
  floats : Floats
  /-- `str` of a value that is not a text. -/
  textOf : Value → String

namespace Builtins

variable (builtins : Builtins)

/-- `bool(value)`. -/
def truthy : Value → Bool
  | .null => false
  | .bool value => value
  | .int value => value ≠ 0
  | .float token => builtins.floats.value token ≠ some 0
  | .str text => text ≠ ""
  | .list items => !items.isEmpty
  | .dict fields => !fields.isEmpty

/-- `str(value)`. -/
def text : Value → String
  | .str text => text
  | value => builtins.textOf value

/-- `str(value or "")`. -/
def textOr (value : Value) : String :=
  if builtins.truthy value then builtins.text value else ""

/-- `value or {}`, whose members are read. -/
def membersOr : Value → Except String Members
  | .dict fields => .ok fields
  | value => if builtins.truthy value then .error "AttributeError" else .ok []

/-- The items of a loop over `value or []`. -/
def itemsOr (value : Value) : Except String (List Value) :=
  if builtins.truthy value then
    match value with
    | .list items => .ok items
    | .str text => .ok (text.toList.map fun char => .str (String.ofList [char]))
    | .dict fields => .ok (fields.map fun field => .str field.1)
    | _ => .error "TypeError"
  else .ok []

theorem textOr_str (text : String) : builtins.textOr (.str text) = text := by
  by_cases empty : text = ""
  · simp [textOr, truthy, empty]
  · simp [textOr, truthy, Builtins.text, empty]

end Builtins

namespace Value

/-- `value if isinstance(value, dict) else {}`. -/
def dictOr : Value → Members
  | dict fields => fields
  | _ => []

/-- `value.get`, of a value that has to be a dictionary. -/
def members : Value → Except String Members
  | dict fields => .ok fields
  | _ => .error "AttributeError"

/-- `isinstance(value, int) and not isinstance(value, bool) and value > 0`. -/
def isPositive : Value → Bool
  | int value => 0 < value
  | _ => false

/-- A value that may be an element of a set. -/
def isHashable : Value → Bool
  | list _ | dict _ => false
  | _ => true

/-- The value is this text. -/
def isText (text : String) : Value → Bool
  | str other => other = text
  | _ => false

theorem isText_iff {text : String} {value : Value} : value.isText text = true ↔ value = str text := by
  cases value <;> simp [isText]

end Value

end Adwf.JsonText
