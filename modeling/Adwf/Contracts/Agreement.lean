import Adwf.Contracts.Draft
import Adwf.Contracts.Evaluation

/-!
# Where the validator and the standard decide alike

The validator compares with `==`, searches with `re` and looks for duplicates by
text.  What a test does wrong matters where its result counts: a finding too few
everywhere, a finding too many only below `oneOf`.
-/

namespace Adwf.Contracts

open JsonText

/-- What becomes of the findings of a schema: they are kept, tried by `anyOf` or counted by `oneOf`. -/
inductive Mode where
  | kept
  | tried
  | counted
  deriving DecidableEq

/-- The mode of the branches of `allOf`, `anyOf` or `oneOf`. -/
def Mode.under : Mode → String → Mode
  | mode, "allOf" => mode
  | .counted, _ => .counted
  | _, "anyOf" => .tried
  | _, _ => .counted

/-- The schemas that are evaluated, with the mode and the value they are evaluated at. -/
inductive Reaches (tools : Tools) (schema value : Value) : Mode → Value → Value → Prop
  | root : Reaches tools schema value .kept schema value
  | branch {mode : Mode} {keywords : Members} {item branch : Value} {name : String}
      {branches : List Value} (parent : Reaches tools schema value mode (.dict keywords) item)
      (typed : typeProblem tools keywords item = none) (keyword : name ∈ ["allOf", "anyOf", "oneOf"])
      (present : keywords.lookup name = some (.list branches)) (mem : branch ∈ branches) :
      Reaches tools schema value (mode.under name) branch item
  | property {mode : Mode} {keywords fields schemas : Members} {field : String × Value}
      {inner : Value} (parent : Reaches tools schema value mode (.dict keywords) (.dict fields))
      (typed : typeProblem tools keywords (.dict fields) = none) (mem : field ∈ fields)
      (present : keywords.lookup "properties" = some (.dict schemas))
      (own : schemas.lookup field.1 = some inner) : Reaches tools schema value mode inner field.2
  | additional {mode : Mode} {keywords fields inner : Members} {field : String × Value}
      (parent : Reaches tools schema value mode (.dict keywords) (.dict fields))
      (typed : typeProblem tools keywords (.dict fields) = none) (mem : field ∈ fields)
      (undeclared : field.1 ∉ Draft.declared keywords)
      (present : keywords.lookup "additionalProperties" = some (.dict inner)) :
      Reaches tools schema value mode (.dict inner) field.2
  | item {mode : Mode} {keywords inner : Members} {items : List Value} {item : Value}
      (parent : Reaches tools schema value mode (.dict keywords) (.list items))
      (typed : typeProblem tools keywords (.list items) = none) (mem : item ∈ items)
      (present : keywords.lookup "items" = some (.dict inner)) :
      Reaches tools schema value mode (.dict inner) item

/-- The keywords that bound a count. -/
def countKeywords : List String :=
  ["minItems", "maxItems", "minLength", "maxLength"]

/-- What the meta-schema asks of the keywords that take no subschemas. -/
structure IsNode (floats : Floats) (keywords : Members) : Prop where
  types : ∀ argument, keywords.lookup "type" = some argument →
    ∀ item ∈ typeList argument, ∃ name, item = .str name
  counts : ∀ keyword ∈ countKeywords, ∀ argument, keywords.lookup keyword = some argument →
    ∃ bound : Nat, jsonNumber floats argument = some (bound : Rat)
  limits : ∀ keyword ∈ ["minimum", "maximum"], ∀ argument,
    keywords.lookup keyword = some argument → ∃ bound, jsonNumber floats argument = some bound
  unique : ∀ argument, keywords.lookup "uniqueItems" = some argument → ∃ unique, argument = .bool unique

/-- No test finds too much. -/
structure Counts (tools : Tools) (regex : String → String → Bool) (keywords : Members)
    (value : Value) : Prop where
  type : ∀ argument, keywords.lookup "type" = some argument → ∀ name ∈ Draft.typeNames argument,
    Draft.hasType tools.floats value name = true →
      ∃ other ∈ Draft.typeNames argument, matchesType tools.floats value other = true
  unique : ∀ items, value = .list items → ∀ item ∈ items, jsonEqual tools.floats item item = true
  pattern : ∀ pattern text, keywords.lookup "pattern" = some (.str pattern) → value = .str text →
    regex pattern text = true → tools.search pattern text = some true
  format : ∀ text path, value = .str text → formatFindings tools keywords text path = .ok []

/-- No test finds too little, and none too much where findings are counted. -/
structure Agrees (tools : Tools) (regex : String → String → Bool) (mode : Mode)
    (keywords : Members) (value : Value) : Prop where
  supported : mode ≠ .kept → ∀ name ∈ keywords.map Prod.fst, name ∈ supportedKeywords
  const : ∀ expected, keywords.lookup "const" = some expected →
    pythonEqual tools.floats value expected = true → jsonEqual tools.floats value expected = true
  enum : ∀ values, keywords.lookup "enum" = some (.list values) →
    (∃ expected ∈ values, pythonEqual tools.floats value expected = true) →
      ∃ expected ∈ values, jsonEqual tools.floats value expected = true
  unique : ∀ items, value = .list items → keywords.lookup "uniqueItems" = some (.bool true) →
    items.Nodup → items.Pairwise fun first second => jsonEqual tools.floats first second = false
  items : ∀ items, value = .list items → keywords.lookup "items" = some (.bool false) → items = []
  pattern : ∀ pattern text, keywords.lookup "pattern" = some (.str pattern) → value = .str text →
    tools.search pattern text = some true → regex pattern text = true
  counted : mode = .counted → Counts tools regex keywords value

/-! ## Tests of a value -/

section Tests

variable {floats : Floats} {value : Value} {name : String}

theorem hasType_of_matchesType (matched : matchesType floats value name = true) :
    Draft.hasType floats value name = true := by
  unfold matchesType at matched
  split at matched
  · rfl
  · rfl
  · simp [Draft.hasType, jsonNumber]
  · exact matched
  · rfl
  · rfl
  · rfl
  · cases matched

theorem pythonNumber_of_jsonNumber {number : Rat} (isNumber : jsonNumber floats value = some number) :
    pythonNumber floats value = some number := by
  cases value with
  | bool value => cases isNumber
  | _ => exact isNumber

theorem equalScalar_python {first second : Value}
    (equal : equalScalar (jsonNumber floats) first second = true) :
    equalScalar (pythonNumber floats) first second = true := by
  unfold equalScalar at equal ⊢
  split at equal
  · rename_i one other isOne isOther
    rw [pythonNumber_of_jsonNumber isOne, pythonNumber_of_jsonNumber isOther]
    exact equal
  · rename_i noNumber notEither
    split at equal
    · rfl
    · rename_i one other
      simp only [pythonNumber, decide_eq_true_eq] at equal ⊢
      rw [equal]
    · rename_i one other
      have same : pythonNumber floats (.float one) = jsonNumber floats (.float one) := rfl
      have sameOther : pythonNumber floats (.float other) = jsonNumber floats (.float other) := rfl
      rw [same, sameOther, noNumber, notEither]
      exact equal
    · exact equal
    · cases equal
  · cases equal

mutual

theorem pythonEqual_of_jsonEqual : (first second : Value) →
    equalBy (jsonNumber floats) first second = true →
    equalBy (pythonNumber floats) first second = true
  | .list items, .list others, equal => equalItems_python items others equal
  | .dict fields, .dict others, equal => equalMembers_python fields others equal
  | .list _, .null, equal | .list _, .bool _, equal | .list _, .int _, equal | .list _, .float _, equal
  | .list _, .str _, equal | .list _, .dict _, equal => by
      unfold equalBy at equal ⊢
      exact equalScalar_python equal
  | .dict _, .null, equal | .dict _, .bool _, equal | .dict _, .int _, equal | .dict _, .float _, equal
  | .dict _, .str _, equal | .dict _, .list _, equal => by
      unfold equalBy at equal ⊢
      exact equalScalar_python equal
  | .null, _, equal | .bool _, _, equal | .int _, _, equal | .float _, _, equal
  | .str _, _, equal => by
      unfold equalBy at equal ⊢
      exact equalScalar_python equal

theorem equalItems_python : (items others : List Value) →
    equalItems (jsonNumber floats) items others = true →
    equalItems (pythonNumber floats) items others = true
  | [], [], _ => rfl
  | item :: items, other :: others, equal => by
      rw [equalItems, Bool.and_eq_true] at equal ⊢
      exact ⟨pythonEqual_of_jsonEqual item other equal.1, equalItems_python items others equal.2⟩

theorem equalMembers_python : (fields others : Members) →
    equalMembers (jsonNumber floats) fields others = true →
    equalMembers (pythonNumber floats) fields others = true
  | [], [], _ => rfl
  | (key, value) :: fields, (name, other) :: others, equal => by
      rw [equalMembers, Bool.and_eq_true, Bool.and_eq_true] at equal ⊢
      exact ⟨⟨equal.1.1, pythonEqual_of_jsonEqual value other equal.1.2⟩,
        equalMembers_python fields others equal.2⟩

end

end Tests

end Adwf.Contracts
