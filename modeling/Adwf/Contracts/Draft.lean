import Adwf.Contracts.Equality

/-!
# JSON Schema Draft 2020-12

Validity of a value under the keywords that assert something of it and that the
validator supports.  Every keyword asserts on its own; only
`additionalProperties` looks at another one.
-/

namespace Adwf.Contracts.Draft

open JsonText

/-- The members of an object. -/
def membersOf : Value → Members
  | .dict fields => fields
  | _ => []

/-- The items of an array. -/
def itemsOf : Value → List Value
  | .list items => items
  | _ => []

/-- The names that `properties` declares. -/
def declared (keywords : Members) : List String :=
  (membersOf (Value.get keywords "properties")).map Prod.fst

/-- A value has a type; an integer is a number without a fractional part. -/
def hasType (floats : Floats) (value : Value) : String → Bool
  | "null" => (value matches .null)
  | "boolean" => (value matches .bool _)
  | "object" => (value matches .dict _)
  | "array" => (value matches .list _)
  | "string" => (value matches .str _)
  | "number" => (jsonNumber floats value).isSome
  | "integer" => (jsonNumber floats value).any fun number => number.den = 1
  | _ => false

/-- The types a `type` keyword names. -/
def typeNames : Value → List String
  | .str name => [name]
  | .list names => names.filterMap Value.asText
  | _ => []

section

variable (floats : Floats) (regex : String → String → Bool)

/-- What a keyword without subschemas asserts of a value. -/
def Asserts (keyword : String) (argument value : Value) : Prop :=
  match keyword with
  | "type" => ∃ name ∈ typeNames argument, hasType floats value name = true
  | "const" => jsonEqual floats value argument = true
  | "enum" => ∃ expected ∈ itemsOf argument, jsonEqual floats value expected = true
  | "required" => ∀ fields, value = .dict fields →
      ∀ name ∈ (itemsOf argument).filterMap Value.asText, (fields.lookup name).isSome = true
  | "minItems" => ∀ items, value = .list items → ∀ bound, jsonNumber floats argument = some bound →
      bound ≤ items.length
  | "maxItems" => ∀ items, value = .list items → ∀ bound, jsonNumber floats argument = some bound →
      items.length ≤ bound
  | "uniqueItems" => ∀ items, value = .list items → argument = .bool true →
      items.Pairwise fun first second => jsonEqual floats first second = false
  | "minLength" => ∀ text, value = .str text → ∀ bound, jsonNumber floats argument = some bound →
      bound ≤ text.length
  | "maxLength" => ∀ text, value = .str text → ∀ bound, jsonNumber floats argument = some bound →
      text.length ≤ bound
  | "minimum" => ∀ number, jsonNumber floats value = some number →
      ∀ bound, jsonNumber floats argument = some bound → bound ≤ number
  | "maximum" => ∀ number, jsonNumber floats value = some number →
      ∀ bound, jsonNumber floats argument = some bound → number ≤ bound
  | "pattern" => ∀ text, value = .str text → ∀ pattern, argument = .str pattern →
      regex pattern text = true
  | _ => True

mutual

/-- The value is valid under the schema. -/
def Valid : Value → Value → Prop
  | .bool allowed, _ => allowed = true
  | .dict keywords, value => ValidUnder keywords keywords value
  | _, _ => False
termination_by structural schema => schema

/-- The keywords assert nothing that fails; `all` are the keywords of the schema. -/
def ValidUnder (all : Members) : Members → Value → Prop
  | [], _ => True
  | (name, argument) :: keywords, value =>
      Applies all name argument value ∧ ValidUnder all keywords value
termination_by structural keywords => keywords

/-- What a keyword asserts of a value. -/
def Applies (all : Members) (name : String) : Value → Value → Prop
  | .list branches, value =>
      if name = "allOf" then EveryBranch branches value
      else if name = "anyOf" then SomeBranch branches value
      else if name = "oneOf" then OneBranch branches value
      else Asserts floats regex name (.list branches) value
  | .dict fields, value =>
      if name = "properties" then ValidMembers fields value
      else if name = "additionalProperties" then
        ∀ mem ∈ membersOf value, mem.1 ∉ declared all → ValidUnder fields fields mem.2
      else if name = "items" then ∀ item ∈ itemsOf value, ValidUnder fields fields item
      else Asserts floats regex name (.dict fields) value
  | .bool allowed, value =>
      if name = "additionalProperties" then
        allowed = true ∨ ∀ mem ∈ membersOf value, mem.1 ∈ declared all
      else if name = "items" then allowed = true ∨ itemsOf value = []
      else Asserts floats regex name (.bool allowed) value
  | argument, value => Asserts floats regex name argument value
termination_by structural argument => argument

def EveryBranch : List Value → Value → Prop
  | [], _ => True
  | branch :: branches, value => Valid branch value ∧ EveryBranch branches value
termination_by structural branches => branches

def SomeBranch : List Value → Value → Prop
  | [], _ => False
  | branch :: branches, value => Valid branch value ∨ SomeBranch branches value
termination_by structural branches => branches

def NoBranch : List Value → Value → Prop
  | [], _ => True
  | branch :: branches, value => ¬Valid branch value ∧ NoBranch branches value
termination_by structural branches => branches

/-- Exactly one branch is valid. -/
def OneBranch : List Value → Value → Prop
  | [], _ => False
  | branch :: branches, value =>
      (Valid branch value ∧ NoBranch branches value) ∨ (¬Valid branch value ∧ OneBranch branches value)
termination_by structural branches => branches

/-- Every declared member of an object is valid. -/
def ValidMembers : Members → Value → Prop
  | [], _ => True
  | (name, schema) :: schemas, value =>
      (∀ mem ∈ membersOf value, mem.1 = name → Valid schema mem.2) ∧
        ValidMembers schemas value
termination_by structural schemas => schemas

end

attribute [local simp] Asserts Valid ValidUnder Applies EveryBranch SomeBranch NoBranch OneBranch
  ValidMembers

/-! ## One condition for each part of a schema -/

variable {floats regex} {all keywords fields schemas : Members} {branches : List Value} {value : Value}
  {name : String}

theorem validUnder_iff : ValidUnder floats regex all keywords value ↔
      ∀ entry ∈ keywords, Applies floats regex all entry.1 entry.2 value := by
  induction keywords with
  | nil => simp
  | cons entry keywords ih =>
      obtain ⟨name, argument⟩ := entry
      rw [ValidUnder, ih, List.forall_mem_cons]

theorem validMembers_iff : ValidMembers floats regex schemas value ↔
      ∀ entry ∈ schemas, ∀ mem ∈ membersOf value, mem.1 = entry.1 →
        Valid floats regex entry.2 mem.2 := by
  induction schemas with
  | nil => simp
  | cons entry schemas ih =>
      obtain ⟨name, schema⟩ := entry
      rw [ValidMembers, ih, List.forall_mem_cons]

theorem everyBranch_iff :
    EveryBranch floats regex branches value ↔ ∀ branch ∈ branches, Valid floats regex branch value := by
  induction branches with
  | nil => simp
  | cons branch branches ih => rw [EveryBranch, ih, List.forall_mem_cons]

theorem someBranch_iff :
    SomeBranch floats regex branches value ↔ ∃ branch ∈ branches, Valid floats regex branch value := by
  induction branches with
  | nil => simp
  | cons branch branches ih => rw [SomeBranch, ih, List.exists_mem_cons_iff]

/-- The keywords that take subschemas. -/
def applicators : List String :=
  ["allOf", "anyOf", "oneOf", "properties", "additionalProperties", "items"]

theorem applies_iff_asserts {argument : Value} (plain : name ∉ applicators) :
    Applies floats regex all name argument value ↔ Asserts floats regex name argument value := by
  simp only [applicators, List.mem_cons, List.not_mem_nil, or_false, not_or] at plain
  obtain ⟨notAll, notAny, notOne, notProperties, notAdditional, notItems⟩ := plain
  cases argument with
  | list branches => rw [Applies, if_neg notAll, if_neg notAny, if_neg notOne]
  | dict fields => rw [Applies, if_neg notProperties, if_neg notAdditional, if_neg notItems]
  | bool allowed => rw [Applies, if_neg notAdditional, if_neg notItems]
  | _ => exact Iff.rfl

/-! ## What single keywords assert -/

section Keywords

variable {argument : Value} {text : String} {items : List Value}

theorem applies_of_no_schema (keyword : name ∈ ["properties", "additionalProperties", "items"])
    (notDict : ∀ schema, argument ≠ .dict schema) (notBool : ∀ allowed, argument ≠ .bool allowed) :
    Applies floats regex all name argument value := by
  simp only [List.mem_cons, List.not_mem_nil, or_false] at keyword
  cases argument with
  | dict schema => exact absurd rfl (notDict schema)
  | bool allowed => exact absurd rfl (notBool allowed)
  | _ => obtain rfl | rfl | rfl := keyword <;> simp

theorem applies_properties_bool {allowed : Bool} :
    Applies floats regex all "properties" (.bool allowed) value := by
  simp

theorem asserts_minLength : Asserts floats regex "minLength" argument (.str text) ↔
      ∀ bound, jsonNumber floats argument = some bound → bound ≤ text.length := by
  simp

theorem asserts_maxLength : Asserts floats regex "maxLength" argument (.str text) ↔
      ∀ bound, jsonNumber floats argument = some bound → text.length ≤ bound := by
  simp

theorem asserts_minItems : Asserts floats regex "minItems" argument (.list items) ↔
      ∀ bound, jsonNumber floats argument = some bound → bound ≤ items.length := by
  simp

theorem asserts_maxItems : Asserts floats regex "maxItems" argument (.list items) ↔
      ∀ bound, jsonNumber floats argument = some bound → items.length ≤ bound := by
  simp

theorem asserts_minimum : Asserts floats regex "minimum" argument value ↔
      ∀ number, jsonNumber floats value = some number →
        ∀ bound, jsonNumber floats argument = some bound → bound ≤ number :=
  Iff.rfl

theorem asserts_maximum : Asserts floats regex "maximum" argument value ↔
      ∀ number, jsonNumber floats value = some number →
        ∀ bound, jsonNumber floats argument = some bound → number ≤ bound :=
  Iff.rfl

theorem asserts_uniqueItems_false : Asserts floats regex "uniqueItems" (.bool false) value := by
  simp

theorem applies_allOf : Applies floats regex all "allOf" (.list branches) value ↔
      ∀ branch ∈ branches, Valid floats regex branch value := by
  rw [Applies, if_pos rfl, everyBranch_iff]

theorem applies_anyOf : Applies floats regex all "anyOf" (.list branches) value ↔
      ∃ branch ∈ branches, Valid floats regex branch value := by
  rw [Applies, if_neg (by simp), if_pos rfl, someBranch_iff]

theorem applies_oneOf : Applies floats regex all "oneOf" (.list branches) value ↔
      OneBranch floats regex branches value := by
  rw [Applies, if_neg (by simp), if_neg (by simp), if_pos rfl]

theorem applies_properties : Applies floats regex all "properties" (.dict schemas) value ↔
      ∀ entry ∈ schemas, ∀ mem ∈ membersOf value, mem.1 = entry.1 →
        Valid floats regex entry.2 mem.2 := by
  rw [Applies, if_pos rfl, validMembers_iff]

theorem applies_additional : Applies floats regex all "additionalProperties" (.dict fields) value ↔
      ∀ mem ∈ membersOf value, mem.1 ∉ declared all → Valid floats regex (.dict fields) mem.2 := by
  rw [Applies, if_neg (by simp), if_pos rfl]
  rfl

theorem applies_additional_bool {allowed : Bool} :
    Applies floats regex all "additionalProperties" (.bool allowed) value ↔
      allowed = true ∨ ∀ mem ∈ membersOf value, mem.1 ∈ declared all := by
  rw [Applies, if_pos rfl]

theorem applies_items : Applies floats regex all "items" (.dict fields) value ↔
      ∀ item ∈ itemsOf value, Valid floats regex (.dict fields) item := by
  rw [Applies, if_neg (by simp), if_neg (by simp), if_pos rfl]
  rfl

theorem applies_items_bool {allowed : Bool} :
    Applies floats regex all "items" (.bool allowed) value ↔ allowed = true ∨ itemsOf value = [] := by
  rw [Applies, if_neg (by simp), if_pos rfl]

end Keywords

theorem lookup_of_mem {argument : Value} (distinct : (keywords.map Prod.fst).Nodup)
    (mem : (name, argument) ∈ keywords) : keywords.lookup name = some argument := by
  induction keywords with
  | nil => cases mem
  | cons entry keywords ih =>
      obtain ⟨first, stored⟩ := entry
      rw [List.map_cons, List.nodup_cons] at distinct
      rw [List.lookup_cons]
      obtain same | later := List.mem_cons.mp mem
      · obtain ⟨rfl, rfl⟩ := Prod.mk.inj same
        rw [beq_self_eq_true]
      · have other : name ≠ first := by
          rintro rfl
          exact distinct.1 (List.mem_map.mpr ⟨_, later, rfl⟩)
        rw [beq_eq_false_iff_ne.mpr other]
        exact ih distinct.2 later

/-- A keyword that a schema has asserts nothing false of a value. -/
def Holds (floats : Floats) (regex : String → String → Bool) (keywords : Members) (name : String)
    (value : Value) : Prop :=
  ∀ argument, keywords.lookup name = some argument → Applies floats regex keywords name argument value

theorem valid_dict_iff (distinct : (keywords.map Prod.fst).Nodup) :
    Valid floats regex (.dict keywords) value ↔ ∀ name, Holds floats regex keywords name value := by
  rw [Valid, validUnder_iff]
  constructor
  · intro all name argument present
    exact all (name, argument) (mem_of_lookup present)
  · intro all entry mem
    exact all entry.1 entry.2 (lookup_of_mem distinct mem)

end

end Adwf.Contracts.Draft
