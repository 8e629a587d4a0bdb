import Mathlib.Data.List.Basic
import Mathlib.Data.Rat.Defs

/-!
# JSON values as the Python code reads them

Step results, agent claims and provider answers reach the code as the output of
the strict JSON loader.  Objects are association lists sorted by key: the
loader rejects duplicate keys and Python compares dictionaries without regard
to their order, so this representation makes dictionary equality equality.
Numbers are the rational values of the parsed literals.
-/

namespace Adwf

/-- A JSON value. -/
inductive Json where
  | null
  | bool (value : Bool)
  | num (value : Rat)
  | str (value : String)
  | arr (items : List Json)
  | obj (fields : List (String × Json))
  deriving Inhabited

/-- The members of a JSON object, sorted by key. -/
abbrev Fields := List (String × Json)

namespace Json

/-! ## Decidable equality -/

mutual

/-- Structural comparison (Python's `==` on parsed values). -/
def beq : Json → Json → Bool
  | null, null => true
  | bool left, bool right => left == right
  | num left, num right => left == right
  | str left, str right => left == right
  | arr left, arr right => beqItems left right
  | obj left, obj right => beqFields left right
  | _, _ => false

def beqItems : List Json → List Json → Bool
  | [], [] => true
  | left :: lefts, right :: rights => beq left right && beqItems lefts rights
  | _, _ => false

def beqFields : Fields → Fields → Bool
  | [], [] => true
  | (key, left) :: lefts, (name, right) :: rights =>
      key == name && beq left right && beqFields lefts rights
  | _, _ => false

end

mutual

theorem beq_iff_eq : (left right : Json) → (beq left right = true ↔ left = right)
  | null, right => by cases right <;> simp [beq]
  | bool _, right => by cases right <;> simp [beq]
  | num _, right => by cases right <;> simp [beq]
  | str _, right => by cases right <;> simp [beq]
  | arr items, right => by
      cases right with
      | arr others => simpa [beq] using beqItems_iff_eq items others
      | _ => simp [beq]
  | obj fields, right => by
      cases right with
      | obj others => simpa [beq] using beqFields_iff_eq fields others
      | _ => simp [beq]

theorem beqItems_iff_eq : (left right : List Json) → (beqItems left right = true ↔ left = right)
  | [], right => by cases right <;> simp [beqItems]
  | item :: items, right => by
      cases right with
      | nil => simp [beqItems]
      | cons other others =>
          simp [beqItems, beq_iff_eq item other, beqItems_iff_eq items others]

theorem beqFields_iff_eq : (left right : Fields) → (beqFields left right = true ↔ left = right)
  | [], right => by cases right <;> simp [beqFields]
  | (key, value) :: fields, right => by
      cases right with
      | nil => simp [beqFields]
      | cons other others =>
          obtain ⟨name, otherValue⟩ := other
          simp [beqFields, beq_iff_eq value otherValue, beqFields_iff_eq fields others]

end

instance : DecidableEq Json := fun left right =>
  decidable_of_iff (beq left right = true) (beq_iff_eq left right)

/-! ## Reading members -/

/-- `dict.get(key)`: a missing member reads as `None`. -/
def get (fields : Fields) (key : String) : Json :=
  (fields.lookup key).getD null

/-- Python truth value of a parsed JSON value. -/
def truthy : Json → Bool
  | null => false
  | bool value => value
  | num value => value ≠ 0
  | str value => value ≠ ""
  | arr items => !items.isEmpty
  | obj fields => !fields.isEmpty

/-- The value as a string, when it is one (`isinstance(value, str)`). -/
def asText : Json → Option String
  | str value => some value
  | _ => none

/-- `list(value or [])`; a number or `true` is not iterable. -/
def toList (value : Json) : Except String (List Json) :=
  if value.truthy then
    match value with
    | arr items => .ok items
    | str text => .ok (text.toList.map fun char => str (String.ofList [char]))
    | obj fields => .ok (fields.map fun field => str field.1)
    | _ => .error "TypeError"
  else .ok []

/-- `None` or a text. -/
def ofText : Option String → Json
  | none => null
  | some text => str text

/-- One item of the iterable form of `dict(pairs)`. -/
def asPair : Json → Option (String × Json)
  | arr [str key, value] => some (key, value)
  | _ => none

/-- `dict(value or {})` on a parsed JSON value. -/
def toDict (value : Json) : Except String Fields :=
  if value.truthy then
    match value with
    | obj fields => .ok fields
    | arr items =>
        match items.mapM asPair with
        | some pairs => .ok pairs.reverse
        | none => .error "TypeError"
    | _ => .error "TypeError"
  else .ok []

@[simp]
theorem get_nil (key : String) : get [] key = null :=
  rfl

@[simp]
theorem get_cons (key name : String) (value : Json) (rest : Fields) :
    get ((name, value) :: rest) key = if key = name then value else get rest key := by
  unfold get
  rw [List.lookup_cons]
  by_cases same : key = name
  · simp [same]
  · simp [same, beq_eq_false_iff_ne.mpr same]

@[simp]
theorem truthy_null : truthy null = false :=
  rfl

@[simp]
theorem truthy_str (text : String) : truthy (str text) = decide (text ≠ "") :=
  rfl

/-- The value is a text that satisfies `check`. -/
def textSatisfies (check : String → Bool) : Json → Bool
  | str text => check text
  | _ => false

theorem textSatisfies_iff {check : String → Bool} {value : Json} :
    value.textSatisfies check = true ↔ ∃ text, value = str text ∧ check text = true := by
  cases value <;> simp [textSatisfies]

end Json

/-- The Python built-ins whose result on arbitrary values the code only passes
on: SHA-256 of the canonical JSON text, `float` and `int` on a value that is
not a plain number, and `str` on a value that is not a text. -/
structure Runtime where
  digest : Json → String
  floatOf : Json → Option Rat
  intOf : Json → Option Int
  textOf : Json → String

namespace Runtime

/-- `float(value)`; a missing member defaults to 0 before it gets here. -/
def float (rt : Runtime) : Json → Except String Rat
  | .num value => .ok value
  | .bool value => .ok (if value then 1 else 0)
  | .null => .error "TypeError"
  | value =>
      match rt.floatOf value with
      | some number => .ok number
      | none => .error "ValueError"

/-- `int(value)`. -/
def int (rt : Runtime) (value : Json) : Except String Int :=
  match rt.intOf value with
  | some number => .ok number
  | none => .error "ValueError"

/-- `str(value)`. -/
def text (rt : Runtime) : Json → String
  | .str value => value
  | value => rt.textOf value

end Runtime

end Adwf

/-!
## Timestamps

The code stores instants as ISO texts and parses them back before it compares
them.
-/

namespace Adwf

/-- A timestamp member of a stored document: microseconds of the UTC instant it
parses to, or a text that `datetime.fromisoformat` rejects.  Formatting an
instant and parsing it back returns the same instant. -/
inductive Timestamp where
  | at (instant : Int)
  | malformed (raw : String)
  deriving DecidableEq, Inhabited, Repr

namespace Timestamp

/-- `parse_time`: `none` stands for the raised `ValueError`. -/
def parse : Timestamp → Option Int
  | .at instant => some instant
  | .malformed _ => none

/-- The stored member. -/
def toJson : Timestamp → Json
  | .at instant => .num instant
  | .malformed raw => .str raw

@[simp]
theorem parse_at (instant : Int) : parse (.at instant) = some instant :=
  rfl

@[simp]
theorem parse_malformed (raw : String) : parse (.malformed raw) = none :=
  rfl

end Timestamp

/-- Microseconds of one minute. -/
def minute : Int :=
  60000000

end Adwf
