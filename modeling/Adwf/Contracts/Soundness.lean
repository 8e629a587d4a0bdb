import Adwf.Contracts.Decisions

/-!
# Soundness of the validator

By induction on the schema, every schema that is evaluated decides its value;
the schema itself is evaluated in the mode where no findings mean validity.
-/

namespace Adwf.Contracts

open Draft (Holds Valid Applies)
open JsonText
open Value (WellFormed)

variable {tools : Tools} {regex : String → String → Bool} {mode : Mode}
  {keywords fields : Members} {schema value : Value} {path name : String} {found : List Finding}

/-! ## The keywords of a schema -/

/-- The keywords that look at values of every kind. -/
def commonKeywords : List String :=
  ["type", "const", "enum", "allOf", "anyOf", "oneOf"]

/-- The keywords that look at values of one kind. -/
def kindKeywords : Value → List String
  | .dict _ => ["required", "properties", "additionalProperties"]
  | .list _ => ["minItems", "maxItems", "uniqueItems", "items"]
  | .str _ => ["minLength", "maxLength", "pattern"]
  | .int _ | .float _ => ["minimum", "maximum"]
  | _ => []

variable {floats : Floats} {argument item : Value} {field : String × Value}

theorem not_jsonNumber_of_idle {number : Rat}
    (limit : name ∈ ["minimum", "maximum"]) (kind : name ∉ kindKeywords value) :
    jsonNumber floats value ≠ some number := by
  intro isNumber
  cases value with
  | int stored => exact kind limit
  | float token => exact kind limit
  | _ => cases isNumber

theorem asserts_of_idle (common : name ∉ commonKeywords)
    (kind : name ∉ kindKeywords value) : Draft.Asserts floats regex name argument value := by
  unfold Draft.Asserts
  split
  · exact absurd (by simp [commonKeywords]) common
  · exact absurd (by simp [commonKeywords]) common
  · exact absurd (by simp [commonKeywords]) common
  · rintro fields rfl
    exact absurd (by simp [kindKeywords]) kind
  · rintro items rfl
    exact absurd (by simp [kindKeywords]) kind
  · rintro items rfl
    exact absurd (by simp [kindKeywords]) kind
  · rintro items rfl
    exact absurd (by simp [kindKeywords]) kind
  · rintro text rfl
    exact absurd (by simp [kindKeywords]) kind
  · rintro text rfl
    exact absurd (by simp [kindKeywords]) kind
  · intro number isNumber
    exact absurd isNumber (not_jsonNumber_of_idle (by simp) kind)
  · intro number isNumber
    exact absurd isNumber (not_jsonNumber_of_idle (by simp) kind)
  · rintro text rfl
    exact absurd (by simp [kindKeywords]) kind
  · trivial

theorem applies_of_no_members
    (isMember : name ∈ ["properties", "additionalProperties"]) (none : Draft.membersOf value = []) :
    Applies floats regex keywords name argument value := by
  simp only [List.mem_cons, List.not_mem_nil, or_false] at isMember
  obtain rfl | rfl := isMember
  · cases argument with
    | dict schemas => simp [Draft.applies_properties, none]
    | bool allowed => exact Draft.applies_properties_bool
    | _ => exact Draft.applies_of_no_schema (by simp) (by simp) (by simp)
  · cases argument with
    | dict schema => simp [Draft.applies_additional, none]
    | bool allowed => simp [Draft.applies_additional_bool, none]
    | _ => exact Draft.applies_of_no_schema (by simp) (by simp) (by simp)

theorem applies_of_no_items (none : Draft.itemsOf value = []) :
    Applies floats regex keywords "items" argument value := by
  cases argument with
  | dict schema => simp [Draft.applies_items, none]
  | bool allowed => simp [Draft.applies_items_bool, none]
  | _ => exact Draft.applies_of_no_schema (by simp) (by simp) (by simp)

theorem holds_of_idle (common : name ∉ commonKeywords)
    (kind : name ∉ kindKeywords value) : Holds floats regex keywords name value := by
  intro argument present
  by_cases isMember : name ∈ ["properties", "additionalProperties"]
  · apply applies_of_no_members isMember
    cases value with
    | dict fields =>
        simp only [kindKeywords, List.mem_cons, List.not_mem_nil, or_false, not_or] at isMember kind
        obtain rfl | rfl := isMember
        · exact absurd rfl kind.2.1
        · exact absurd rfl kind.2.2
    | _ => rfl
  · by_cases isItems : name = "items"
    · subst isItems
      apply applies_of_no_items
      cases value with
      | list items => simp [kindKeywords] at kind
      | _ => rfl
    · refine (Draft.applies_iff_asserts ?_).mpr (asserts_of_idle common kind)
      simp_all [commonKeywords, Draft.applicators]

theorem valid_iff (wellFormed : WellFormed floats (.dict keywords)) :
    Valid floats regex (.dict keywords) value ↔
      (∀ name ∈ commonKeywords, Holds floats regex keywords name value) ∧
        ∀ name ∈ kindKeywords value, Holds floats regex keywords name value := by
  rw [Draft.valid_dict_iff (wellFormed.1.imp fun {_ _} less => less.ne)]
  constructor
  · intro all
    exact ⟨fun name _ => all name, fun name _ => all name⟩
  · rintro ⟨common, kind⟩ name
    by_cases isCommon : name ∈ commonKeywords
    · exact common name isCommon
    · by_cases isKind : name ∈ kindKeywords value
      · exact kind name isKind
      · exact holds_of_idle isCommon isKind

/-- The schemas below a schema decide the values they are evaluated at. -/
structure Below (tools : Tools) (regex : String → String → Bool) (mode : Mode)
    (keywords : Members) (value : Value) : Prop where
  branches : ∀ name ∈ ["allOf", "anyOf", "oneOf"], ∀ branches,
    keywords.lookup name = some (.list branches) → ∀ branch ∈ branches,
      Decides tools regex (mode.under name) branch value
  properties : ∀ fields, value = .dict fields → ∀ field ∈ fields, ∀ schemas schema,
    keywords.lookup "properties" = some (.dict schemas) → schemas.lookup field.1 = some schema →
      Decides tools regex mode schema field.2
  additional : ∀ fields, value = .dict fields → ∀ field ∈ fields, ∀ schema,
    field.1 ∉ Draft.declared keywords →
    keywords.lookup "additionalProperties" = some (.dict schema) →
      Decides tools regex mode (.dict schema) field.2
  items : ∀ items, value = .list items → ∀ schema,
    keywords.lookup "items" = some (.dict schema) → ∀ item ∈ items,
      Decides tools regex mode (.dict schema) item

theorem decided_kind (wellFormed : WellFormed tools.floats (.dict keywords))
    (formed : WellFormed tools.floats value) (node : IsNode tools.floats keywords)
    (agrees : Agrees tools regex mode keywords value) (below : Below tools regex mode keywords value)
    (ran : kindFindings tools keywords value path (fun key => property tools key keywords)
      (fun name => subschema tools name keywords) = .ok found) :
    Decided (mode = .counted) (found = [])
      (∀ name ∈ kindKeywords value, Holds tools.floats regex keywords name value) := by
  cases value with
  | dict fields =>
      have decided := decided_object wellFormed (below.properties fields rfl)
        (below.additional fields rfl) ran
      exact decided.congr Iff.rfl (by simp [kindKeywords])
  | list items =>
      have decided := decided_array node formed agrees (below.items items rfl) ran
      exact decided.congr Iff.rfl (by simp [kindKeywords])
  | str text =>
      exact (decided_text node agrees ran).congr Iff.rfl (by simp [kindKeywords])
  | int number =>
      have decided : Decided (mode = .counted) (found = [])
        (Holds tools.floats regex keywords "minimum" (.int number) ∧
          Holds tools.floats regex keywords "maximum" (.int number)) :=
        decided_number node rfl ran
      exact decided.congr Iff.rfl (by simp [kindKeywords])
  | float token =>
      cases isNumber : jsonNumber tools.floats (.float token) with
      | some number =>
          simp only [kindFindings, isNumber] at ran
          have decided : Decided (mode = .counted) (found = [])
            (Holds tools.floats regex keywords "minimum" (.float token) ∧
              Holds tools.floats regex keywords "maximum" (.float token)) :=
            decided_number node isNumber ran
          exact decided.congr Iff.rfl (by simp [kindKeywords])
      | none =>
          simp only [kindFindings, isNumber] at ran
          refine .of_true (Except.ok.inj ran).symm fun name mem => ?_
          simp only [kindKeywords, List.mem_cons, List.not_mem_nil, or_false] at mem
          obtain rfl | rfl := mem
          · rw [holds_iff_of_plain (by decide)]
            simp [Draft.asserts_minimum, isNumber]
          · rw [holds_iff_of_plain (by decide)]
            simp [Draft.asserts_maximum, isNumber]
  | _ =>
      cases ran
      exact .of_true rfl (by simp [kindKeywords])

theorem decides_node (wellFormed : WellFormed tools.floats (.dict keywords))
    (formed : WellFormed tools.floats value) (node : IsNode tools.floats keywords)
    (agrees : Agrees tools regex mode keywords value)
    (below : typeProblem tools keywords value = none → Below tools regex mode keywords value) :
    Decides tools regex mode (.dict keywords) value := by
  intro path found ran
  have typed := decided_type node agrees
  rw [valid_iff wellFormed]
  obtain ⟨problem, isProblem, someFound⟩ |
    ⟨passed, enum, all, any, one, kind, isEnum, isAll, isAny, isOne, isKind, same⟩ :=
    validate_eq_ok ran
  · refine ⟨fun none => absurd none someFound, fun count valid => ?_⟩
    have passed := typed.complete count (valid.1 "type" (by decide))
    rw [isProblem] at passed
    cases passed
  · have inner := below passed
    have const : Decided (mode = .counted) (constFindings tools keywords value path = [])
      (Holds tools.floats regex keywords "const" value) := decided_const agrees
    have enumerated := decided_enum agrees isEnum
    have allOf := decided_combined isAll fun branches _ present =>
      decided_allOf present (inner.branches "allOf" (by decide) branches present)
    have anyOf := decided_combined isAny fun branches _ present =>
      decided_anyOf present (inner.branches "anyOf" (by decide) branches present)
    have oneOf := decided_combined isOne fun branches _ present =>
      decided_oneOf present (inner.branches "oneOf" (by decide) branches present)
    have own := decided_kind wellFormed formed node agrees inner isKind
    rw [same, unknownFindings_eq_nil_iff]
    simp only [commonKeywords, List.forall_mem_cons]
    constructor
    · rintro ⟨-, noConst, noEnum, noAll, noAny, noOne, noKind⟩
      refine ⟨⟨typed.sound passed, const.sound noConst, enumerated.sound noEnum, allOf.sound noAll,
        anyOf.sound noAny, oneOf.sound noOne, ?_⟩, own.sound noKind⟩
      exact fun name mem => absurd mem List.not_mem_nil
    · rintro count ⟨⟨_, isConst, isEnumerated, allValid, anyValid, oneValid, _⟩, kindValid⟩
      have supported := agrees.supported (by simp [count])
      exact ⟨supported, const.complete count isConst, enumerated.complete count isEnumerated,
        allOf.complete count allValid, anyOf.complete count anyValid, oneOf.complete count oneValid,
        own.complete count kindValid⟩

theorem sizeOf_lookup {members : Members}
    (present : members.lookup name = some argument) : sizeOf argument < sizeOf members := by
  have entry := List.sizeOf_lt_of_mem (mem_of_lookup present)
  simp only [Prod.mk.sizeOf_spec] at entry
  omega

/-- The conditions on every schema that is evaluated. -/
def Conforms (tools : Tools) (regex : String → String → Bool) (schema value : Value) : Prop :=
  ∀ mode keywords item, Reaches tools schema value mode (.dict keywords) item →
    IsNode tools.floats keywords ∧ Agrees tools regex mode keywords item

theorem decides_of_reaches (conforms : Conforms tools regex schema value) (size : Nat) :
    ∀ {mode node item}, sizeOf node < size → Reaches tools schema value mode node item →
      WellFormed tools.floats node → WellFormed tools.floats item →
      Decides tools regex mode node item := by
  induction size with
  | zero => exact fun small => absurd small (Nat.not_lt_zero _)
  | succ size ih =>
      intro mode node item small reached wellFormed formed
      cases node with
      | dict keywords =>
          obtain ⟨isNode, agrees⟩ := conforms mode keywords item reached
          have members := Value.wellFormedMembers_iff.mp wellFormed.2
          have smaller {name : String} {argument : Value}
              (present : keywords.lookup name = some argument) : sizeOf argument < size := by
            have less := sizeOf_lookup present
            simp only [Value.dict.sizeOf_spec] at small
            omega
          refine decides_node wellFormed formed isNode agrees fun typed => ⟨?_, ?_, ?_, ?_⟩
          · intro name keyword branches present branch mem
            have less := smaller present
            have inner := List.sizeOf_lt_of_mem mem
            simp only [Value.list.sizeOf_spec] at less
            exact ih (by omega) (.branch reached typed keyword present mem)
              (Value.wellFormedItems_iff.mp (members _ (mem_of_lookup present)) branch mem) formed
          · intro fields isDict field mem schemas own present given
            subst isDict
            have less := smaller present
            have inner := sizeOf_lookup given
            simp only [Value.dict.sizeOf_spec] at less
            exact ih (by omega) (.property reached typed mem present given)
              (Value.wellFormedMembers_iff.mp (members _ (mem_of_lookup present)).2 _
                (mem_of_lookup given)) (Value.wellFormedMembers_iff.mp formed.2 field mem)
          · intro fields isDict field mem own undeclared present
            subst isDict
            exact ih (smaller present) (.additional reached typed mem undeclared present)
              (members _ (mem_of_lookup present)) (Value.wellFormedMembers_iff.mp formed.2 field mem)
          · intro items isList own present each mem
            subst isList
            exact ih (smaller present) (.item reached typed mem present)
              (members _ (mem_of_lookup present)) (Value.wellFormedItems_iff.mp formed each mem)
      | _ =>
          intro path found ran
          cases ran

/-! ## Findings that are kept -/

theorem parts_of_accepted (accepted : validate tools (.dict keywords) value path = .ok []) :
    (∀ name ∈ keywords.map Prod.fst, name ∈ supportedKeywords) ∧
      combined tools "allOf" keywords value path = .ok [] ∧
      kindFindings tools keywords value path (fun key => property tools key keywords)
        (fun name => subschema tools name keywords) = .ok [] := by
  obtain ⟨problem, _, someFound⟩ |
    ⟨_, enum, all, any, one, kind, _, isAll, _, _, isKind, same⟩ := validate_eq_ok accepted
  · exact absurd rfl someFound
  · obtain ⟨unknown, _, _, rfl, _, _, rfl⟩ := same.mp rfl
    exact ⟨unknownFindings_eq_nil_iff.mp unknown, isAll, isKind⟩

theorem branch_of_accepted {branches : List Value} {branch : Value}
    (accepted : validate tools (.dict keywords) value path = .ok [])
    (present : keywords.lookup "allOf" = some (.list branches)) (mem : branch ∈ branches) :
    validate tools branch value path = .ok [] := by
  obtain ⟨missing, _⟩ | ⟨others, results, given, branched, same⟩ :=
    combined_eq_ok (parts_of_accepted accepted).2.1
  · rw [present] at missing
    cases missing
  · rw [present] at given
    cases given
    rw [branchFindings, if_pos rfl] at same
    exact (branches_flatten_eq_nil_iff branched).mp same.symm branch mem

theorem member_of_accepted
    (accepted : validate tools (.dict keywords) (.dict fields) path = .ok []) (mem : field ∈ fields) :
    memberFindings keywords path (fun key => property tools key keywords)
      (subschema tools "additionalProperties" keywords) field = .ok [] := by
  obtain ⟨required, _, _, same⟩ := objectFindings_eq_ok (parts_of_accepted accepted).2.2
  exact (same.mp rfl).2 field mem

theorem property_of_accepted {schemas : Members} {inner : Value}
    (accepted : memberFindings keywords path (fun key => property tools key keywords)
      (subschema tools "additionalProperties" keywords) field = .ok [])
    (present : keywords.lookup "properties" = some (.dict schemas))
    (own : schemas.lookup field.1 = some inner) :
    ∃ place, validate tools inner field.2 place = .ok [] := by
  have evaluated {result : Option (List Finding)}
      (evaluated : property tools field.1 keywords field.2 (path ++ "." ++ field.1) = .ok result) :
      ∃ found, validate tools inner field.2 (path ++ "." ++ field.1) = .ok found ∧
        result = some found := by
    obtain ⟨missing, _⟩ | ⟨others, given, further⟩ := property_eq_ok evaluated
    · rw [present] at missing
      cases missing
    · rw [present] at given
      cases given
      exact subschema_of_lookup own further
  obtain whole | ⟨none, _⟩ := memberFindings_eq_ok accepted
  · obtain ⟨found, validated, same⟩ := evaluated whole
    cases same
    exact ⟨_, validated⟩
  · obtain ⟨_, _, same⟩ := evaluated none
    cases same

theorem additional_of_accepted {inner : Members}
    (accepted : memberFindings keywords path (fun key => property tools key keywords)
      (subschema tools "additionalProperties" keywords) field = .ok [])
    (undeclared : field.1 ∉ Draft.declared keywords)
    (present : keywords.lookup "additionalProperties" = some (.dict inner)) :
    ∃ place, validate tools (.dict inner) field.2 place = .ok [] := by
  obtain whole | ⟨_, ⟨refused, _⟩ | ⟨schema, findings, given, evaluated, same⟩ | ⟨_, notSchema, _⟩⟩ :=
    memberFindings_eq_ok accepted
  · obtain ⟨_, same⟩ | ⟨schemas, given, further⟩ := property_eq_ok whole
    · cases same
    · rw [undeclared_iff given] at undeclared
      obtain ⟨_, same⟩ | ⟨schema, _, own, _, _⟩ := subschema_eq_ok further
      · cases same
      · rw [undeclared] at own
        cases own
  · rw [get_of_lookup present] at refused
    cases refused
  · obtain ⟨found, validated, rfl⟩ := subschema_of_lookup present evaluated
    cases same
    exact ⟨_, validated⟩
  · exact absurd (get_of_lookup present) (notSchema inner)

theorem item_of_accepted {items : List Value} {inner : Members}
    (accepted : validate tools (.dict keywords) (.list items) path = .ok [])
    (present : keywords.lookup "items" = some (.dict inner)) (mem : item ∈ items) :
    ∃ place, validate tools (.dict inner) item place = .ok [] := by
  obtain ⟨few, many, each, _, _, isEach, same⟩ :=
    arrayFindings_eq_ok (parts_of_accepted accepted).2.2
  obtain ⟨_, _, _, rfl⟩ := same.mp rfl
  obtain ⟨place, evaluated, none⟩ := itemFindings_eq_ok (get_of_lookup present) isEach
  rw [← List.zipIdx_map_fst 0 items] at mem
  obtain ⟨indexed, there, rfl⟩ := List.mem_map.mp mem
  obtain ⟨result, known⟩ := evaluated indexed there
  obtain ⟨found, validated, rfl⟩ := subschema_of_lookup present known
  have empty := none.mp rfl indexed there _ known
  cases empty
  exact ⟨_, validated⟩

/-- A schema whose findings are kept finds nothing when the whole finds nothing. -/
theorem accepted_of_reaches (accepted : validate tools schema value path = .ok [])
    {node : Value} (reached : Reaches tools schema value mode node item) (kept : mode = .kept) :
    ∃ place, validate tools node item place = .ok [] := by
  induction reached with
  | root => exact ⟨path, accepted⟩
  | @branch mode keywords item branch name branches parent typed keyword present mem ih =>
      simp only [List.mem_cons, List.not_mem_nil, or_false] at keyword
      obtain rfl | rfl | rfl := keyword
      · obtain ⟨place, found⟩ := ih (by cases mode <;> first | rfl | cases kept)
        exact ⟨place, branch_of_accepted found present mem⟩
      · cases mode <;> cases kept
      · cases mode <;> cases kept
  | property parent typed mem present own ih =>
      obtain ⟨place, found⟩ := ih kept
      exact property_of_accepted (member_of_accepted found mem) present own
  | additional parent typed mem undeclared present ih =>
      obtain ⟨place, found⟩ := ih kept
      exact additional_of_accepted (member_of_accepted found mem) undeclared present
  | item parent typed mem present ih =>
      obtain ⟨place, found⟩ := ih kept
      exact item_of_accepted found present mem

/-- A library without regular expressions, dates and finite floats. -/
def bareTools : Tools where
  floats := { normal := id, value := fun _ => none, normal_normal := normal_id }
  search := fun _ _ => none
  isIsoFormat := fun _ => false
  repr := fun _ => ""

/-- An object whose member has a constant. -/
def constantSchema : Value :=
  .dict [("properties", .dict [("a", .dict [("const", .str "x")])])]

theorem constantSchema_reaches {node : Value}
    (reached : Reaches bareTools constantSchema (.dict [("a", .str "x")]) mode node item) :
    mode = .kept ∧ ((node = constantSchema ∧ item = .dict [("a", .str "x")]) ∨
      (node = .dict [("const", .str "x")] ∧ item = .str "x")) := by
  induction reached with
  | root => exact ⟨rfl, .inl ⟨rfl, rfl⟩⟩
  | branch parent typed keyword present mem ih =>
      simp only [List.mem_cons, List.not_mem_nil, or_false] at keyword
      obtain ⟨rfl, ⟨same, rfl⟩ | ⟨same, rfl⟩⟩ := ih
      · cases same
        obtain rfl | rfl | rfl := keyword <;> simp [List.lookup] at present
      · cases same
        obtain rfl | rfl | rfl := keyword <;> simp [List.lookup] at present
  | property parent typed mem present own ih =>
      obtain ⟨rfl, ⟨same, isDict⟩ | ⟨same, isText⟩⟩ := ih
      · cases same
        cases isDict
        simp only [List.lookup_cons, beq_self_eq_true, Option.some.injEq, Value.dict.injEq] at present
        cases List.mem_singleton.mp mem
        rw [← present] at own
        simp only [List.lookup_cons, beq_self_eq_true, Option.some.injEq] at own
        exact ⟨rfl, .inr ⟨own.symm, rfl⟩⟩
      · cases isText
  | additional parent typed mem undeclared present ih =>
      obtain ⟨rfl, ⟨same, isDict⟩ | ⟨same, isText⟩⟩ := ih
      · cases same
        simp [List.lookup] at present
      · cases isText
  | item parent typed mem present ih =>
      obtain ⟨rfl, ⟨same, isDict⟩ | ⟨same, isText⟩⟩ := ih
      · cases isDict
      · cases isText

theorem constantSchema_conforms :
    Conforms bareTools (fun _ _ => false) constantSchema (.dict [("a", .str "x")]) := by
  intro mode keywords item reached
  obtain ⟨rfl, ⟨same, rfl⟩ | ⟨same, rfl⟩⟩ := constantSchema_reaches reached
  · cases same
    refine ⟨⟨?_, ?_, ?_, ?_⟩, ⟨?_, ?_, ?_, ?_, ?_, ?_, ?_⟩⟩ <;> simp [countKeywords, List.lookup]
  · cases same
    refine ⟨⟨?_, ?_, ?_, ?_⟩, ⟨?_, ?_, ?_, ?_, ?_, ?_, ?_⟩⟩ <;> simp [countKeywords, List.lookup]
    simp [jsonEqual, equalBy, equalScalar, jsonNumber]

end Adwf.Contracts
