import Adwf.Contracts.Validate

/-!
# What an evaluation comes to

Each part of the validator that returns findings does so in one of a few ways;
the lemmas say what is known when there are none.
-/

namespace Adwf.Contracts

open Fallible JsonText

variable {tools : Tools} {floats : Floats} {keywords fields schemas : Members} {value : Value}
  {path : String} {found : List Finding}

@[simp]
theorem demand_eq_nil_iff {condition : Bool} {code message : String} :
    demand condition path code message = [] ↔ condition = true := by
  cases condition <;> simp [demand]

section Loops

variable {α : Type} {step : α → Except String (List Finding)} {items : List α}
  {results : List (List Finding)}

theorem exists_of_mapM (ran : items.mapM step = .ok results) :
    ∀ item ∈ items, ∃ found, step item = .ok found := by
  induction items generalizing results with
  | nil => simp
  | cons item items ih =>
      rw [List.mapM_cons, bind_ok_iff] at ran
      obtain ⟨first, here, rest⟩ := ran
      obtain ⟨others, later, _⟩ := bind_ok_iff.mp rest
      exact List.forall_mem_cons.mpr ⟨⟨first, here⟩, ih later⟩

/-- A loop finds nothing exactly when no step does. -/
theorem flatten_eq_nil_iff (ran : items.mapM step = .ok results) :
    results.flatten = [] ↔ ∀ item ∈ items, step item = .ok [] := by
  induction items generalizing results with
  | nil =>
      cases ran
      simp
  | cons item items ih =>
      rw [List.mapM_cons, bind_ok_iff] at ran
      obtain ⟨first, here, rest⟩ := ran
      obtain ⟨others, later, same⟩ := bind_ok_iff.mp rest
      cases same
      rw [List.flatten_cons, List.append_eq_nil_iff, ih later, List.forall_mem_cons, here,
        Except.ok.injEq]

end Loops

/-! ## Bounds -/

theorem leastFindings_eq_ok {keyword message : String} {count : Nat}
    (ran : leastFindings floats keywords keyword count path message = .ok found) :
    (keywords.lookup keyword = none ∧ found = []) ∨
      ∃ argument bound, keywords.lookup keyword = some argument ∧
        truncate floats argument = .ok bound ∧ (found = [] ↔ bound ≤ count) := by
  unfold leastFindings at ran
  split at ran
  · rename_i missing
    cases ran
    exact .inl ⟨missing, rfl⟩
  · rename_i argument present
    obtain ⟨bound, truncated, same⟩ := bind_ok_iff.mp ran
    cases same
    exact .inr ⟨argument, bound, present, truncated, by simp⟩

theorem mostFindings_eq_ok {keyword message : String} {count : Nat}
    (ran : mostFindings floats keywords keyword count path message = .ok found) :
    (keywords.lookup keyword = none ∧ found = []) ∨
      ∃ argument bound, keywords.lookup keyword = some argument ∧
        truncate floats argument = .ok bound ∧ (found = [] ↔ count ≤ bound) := by
  unfold mostFindings at ran
  split at ran
  · rename_i missing
    cases ran
    exact .inl ⟨missing, rfl⟩
  · rename_i argument present
    obtain ⟨bound, truncated, same⟩ := bind_ok_iff.mp ran
    cases same
    exact .inr ⟨argument, bound, present, truncated, by simp⟩

theorem boundFindings_eq_ok {keyword message : String} {within : Rat → Bool}
    (ran : boundFindings tools keywords keyword within path message = .ok found) :
    (keywords.lookup keyword = none ∧ found = []) ∨
      ∃ argument limit, keywords.lookup keyword = some argument ∧
        pythonNumber tools.floats argument = some limit ∧ (found = [] ↔ within limit = true) := by
  unfold boundFindings at ran
  split at ran
  · rename_i missing
    cases ran
    exact .inl ⟨missing, rfl⟩
  · rename_i argument present
    split at ran
    · rename_i limit number
      cases ran
      exact .inr ⟨argument, limit, present, number, by simp⟩
    · cases ran

/-! ## Texts and members -/

theorem patternFindings_eq_ok {text : String}
    (ran : patternFindings tools keywords text path = .ok found) :
    (keywords.lookup "pattern" = none ∧ found = []) ∨
      ∃ pattern result, keywords.lookup "pattern" = some (.str pattern) ∧
        tools.search pattern text = some result ∧ (found = [] ↔ result = true) := by
  unfold patternFindings at ran
  split at ran
  · rename_i missing
    cases ran
    exact .inl ⟨missing, rfl⟩
  · rename_i pattern present
    split at ran
    · rename_i result searched
      cases ran
      exact .inr ⟨pattern, result, present, searched, by simp⟩
    · cases ran
  · cases ran

theorem unknownFindings_eq_nil_iff : unknownFindings keywords path = [] ↔
      ∀ name ∈ keywords.map Prod.fst, name ∈ supportedKeywords := by
  rw [unknownFindings, List.map_eq_nil_iff, List.filter_eq_nil_iff]
  simp only [Bool.not_eq_true', Bool.not_eq_false, List.contains_iff_mem]

theorem enumFindings_eq_ok (ran : enumFindings tools keywords value path = .ok found) :
    (keywords.lookup "enum" = none ∧ found = []) ∨
      ∃ values, keywords.lookup "enum" = some (.list values) ∧
        (found = [] ↔ values.any (pythonEqual tools.floats value) = true) := by
  unfold enumFindings at ran
  split at ran
  · rename_i missing
    cases ran
    exact .inl ⟨missing, rfl⟩
  · rename_i values present
    cases ran
    exact .inr ⟨values, present, by simp⟩
  · cases ran

theorem constFindings_eq_nil_iff : constFindings tools keywords value path = [] ↔
      ∀ expected, keywords.lookup "const" = some expected →
        pythonEqual tools.floats value expected = true := by
  unfold constFindings
  split
  · rename_i missing
    simp [missing]
  · rename_i expected present
    simp [present]

theorem requiredFindings_eq_ok (ran : requiredFindings keywords fields path = .ok found) :
    (keywords.lookup "required" = none ∧ found = []) ∨
      ∃ names, keywords.lookup "required" = some (.list names) ∧
        (∀ name ∈ names, ∃ key, name = .str key) ∧
        (found = [] ↔ ∀ key, .str key ∈ names → (fields.lookup key).isSome = true) := by
  unfold requiredFindings at ran
  split at ran
  · rename_i missing
    cases ran
    exact .inl ⟨missing, rfl⟩
  · rename_i names present
    obtain ⟨results, loop, same⟩ := bind_ok_iff.mp ran
    cases same
    have texts : ∀ name ∈ names, ∃ key, name = .str key := by
      intro name mem
      obtain ⟨_, result⟩ := exists_of_mapM loop name mem
      cases name with
      | str key => exact ⟨key, rfl⟩
      | _ => cases result
    refine .inr ⟨names, present, texts, ?_⟩
    rw [flatten_eq_nil_iff loop]
    constructor
    · intro all key mem
      have here := all (.str key) mem
      rw [Except.ok.injEq] at here
      exact demand_eq_nil_iff.mp here
    · intro all name mem
      obtain ⟨key, rfl⟩ := texts name mem
      exact congrArg Except.ok (demand_eq_nil_iff.mpr (all key mem))
  · cases ran

theorem uniqueFindings_eq_nil_iff {items : List Value} :
    uniqueFindings floats keywords items path = [] ↔
      (isTrue floats (Value.get keywords "uniqueItems") = true →
        (items.map (render spaced)).Nodup) := by
  unfold uniqueFindings
  rw [demand_eq_nil_iff, Bool.or_eq_true, Bool.not_eq_true', decide_eq_true_eq]
  cases isTrue floats (Value.get keywords "uniqueItems") <;> simp

theorem subschema_eq_ok {key : String} {result : Option (List Finding)}
    (ran : subschema tools key schemas value path = .ok result) :
    (schemas.lookup key = none ∧ result = none) ∨ ∃ schema found, schemas.lookup key = some schema ∧
        validate tools schema value path = .ok found ∧ result = some found := by
  induction schemas with
  | nil =>
      cases ran
      exact .inl ⟨rfl, rfl⟩
  | cons entry schemas ih =>
      obtain ⟨name, schema⟩ := entry
      rw [subschema] at ran
      rw [List.lookup_cons]
      split_ifs at ran with same
      · obtain ⟨found, validated, rest⟩ := bind_ok_iff.mp ran
        cases rest
        refine .inr ⟨schema, found, ?_, validated, rfl⟩
        simp [same]
      · have other : (key == name) = false := beq_eq_false_iff_ne.mpr fun equal => same equal.symm
        rw [other]
        exact ih ran

theorem property_eq_ok {key : String} {result : Option (List Finding)}
    (ran : property tools key keywords value path = .ok result) :
    (keywords.lookup "properties" = none ∧ result = none) ∨
      ∃ schemas, keywords.lookup "properties" = some (.dict schemas) ∧
        subschema tools key schemas value path = .ok result := by
  induction keywords with
  | nil =>
      cases ran
      exact .inl ⟨rfl, rfl⟩
  | cons entry keywords ih =>
      obtain ⟨name, argument⟩ := entry
      rw [List.lookup_cons]
      by_cases same : name = "properties"
      · subst same
        cases argument with
        | dict schemas =>
            rw [property, if_pos rfl] at ran
            exact .inr ⟨schemas, by simp, ran⟩
        | _ => simp [property] at ran
      · have other : ("properties" == name) = false :=
          beq_eq_false_iff_ne.mpr fun equal => same equal.symm
        rw [other]
        apply ih
        cases argument <;> rw [property, if_neg same] at ran
        all_goals first | exact ran | simp

theorem combined_eq_ok {keyword : String}
    (ran : combined tools keyword keywords value path = .ok found) :
    (keywords.lookup keyword = none ∧ found = []) ∨
      ∃ branches results, keywords.lookup keyword = some (.list branches) ∧
        branchResults tools branches value path = .ok results ∧
        found = branchFindings keyword path results := by
  induction keywords with
  | nil =>
      cases ran
      exact .inl ⟨rfl, rfl⟩
  | cons entry keywords ih =>
      obtain ⟨name, argument⟩ := entry
      rw [List.lookup_cons]
      by_cases same : name = keyword
      · subst same
        cases argument with
        | list branches =>
            rw [combined, if_pos rfl] at ran
            obtain ⟨results, branched, rest⟩ := bind_ok_iff.mp ran
            cases rest
            exact .inr ⟨branches, results, by simp, branched, rfl⟩
        | _ => simp [combined] at ran
      · have other : (keyword == name) = false :=
          beq_eq_false_iff_ne.mpr fun equal => same equal.symm
        rw [other]
        apply ih
        cases argument <;> rw [combined, if_neg same] at ran
        all_goals first | exact ran | simp

section Branches

variable {branches : List Value} {results : List (List Finding)}

theorem exists_of_branchResults (ran : branchResults tools branches value path = .ok results) :
    ∀ branch ∈ branches, ∃ found, validate tools branch value path = .ok found := by
  induction branches generalizing results with
  | nil => simp
  | cons branch branches ih =>
      rw [branchResults, bind_ok_iff] at ran
      obtain ⟨first, here, rest⟩ := ran
      obtain ⟨others, later, _⟩ := bind_ok_iff.mp rest
      exact List.forall_mem_cons.mpr ⟨⟨first, here⟩, ih later⟩

theorem branches_flatten_eq_nil_iff (ran : branchResults tools branches value path = .ok results) :
    results.flatten = [] ↔ ∀ branch ∈ branches, validate tools branch value path = .ok [] := by
  induction branches generalizing results with
  | nil =>
      cases ran
      simp
  | cons branch branches ih =>
      rw [branchResults, bind_ok_iff] at ran
      obtain ⟨first, here, rest⟩ := ran
      obtain ⟨others, later, same⟩ := bind_ok_iff.mp rest
      cases same
      rw [List.flatten_cons, List.append_eq_nil_iff, ih later, List.forall_mem_cons, here,
        Except.ok.injEq]

theorem branches_passed_ne_zero_iff (ran : branchResults tools branches value path = .ok results) :
    results.countP List.isEmpty ≠ 0 ↔
      ∃ branch ∈ branches, validate tools branch value path = .ok [] := by
  induction branches generalizing results with
  | nil =>
      cases ran
      simp
  | cons branch branches ih =>
      rw [branchResults, bind_ok_iff] at ran
      obtain ⟨first, here, rest⟩ := ran
      obtain ⟨others, later, same⟩ := bind_ok_iff.mp rest
      cases same
      rw [List.countP_cons, List.exists_mem_cons_iff, ← ih later, here, Except.ok.injEq]
      cases first <;> simp

end Branches

/-! ## Objects, arrays, texts and numbers -/

theorem memberFindings_eq_ok {keywords : Members} {field : String × Value}
    {property : String → Subschema} {additional : Subschema}
    (ran : memberFindings keywords path property additional field = .ok found) :
    (property field.1 field.2 (path ++ "." ++ field.1) = .ok (some found)) ∨
      (property field.1 field.2 (path ++ "." ++ field.1) = .ok none ∧
        ((Value.get keywords "additionalProperties" = .bool false ∧ found ≠ []) ∨
        (∃ schema findings, Value.get keywords "additionalProperties" = .dict schema ∧
          additional field.2 (path ++ "." ++ field.1) = .ok findings ∧ found = findings.getD []) ∨
        (Value.get keywords "additionalProperties" ≠ .bool false ∧
          (∀ schema, Value.get keywords "additionalProperties" ≠ .dict schema) ∧ found = []))) := by
  obtain ⟨own, evaluated, rest⟩ := bind_ok_iff.mp ran
  cases own with
  | some findings =>
      cases rest
      exact .inl evaluated
  | none =>
      refine .inr ⟨evaluated, ?_⟩
      dsimp only at rest
      split at rest
      · rename_i refused
        cases rest
        exact .inl ⟨refused, by simp⟩
      · rename_i schema given
        obtain ⟨findings, further, same⟩ := bind_ok_iff.mp rest
        cases same
        exact .inr (.inl ⟨schema, findings, given, further, rfl⟩)
      · rename_i notFalse notSchema
        cases rest
        exact .inr (.inr ⟨fun refused => notFalse refused, fun schema given => notSchema schema given,
          rfl⟩)

theorem objectFindings_eq_ok {property : String → Subschema} {additional : Subschema}
    (ran : objectFindings keywords fields path property additional = .ok found) :
    ∃ required, requiredFindings keywords fields path = .ok required ∧
      (∀ field ∈ fields, ∃ found, memberFindings keywords path property additional field = .ok found) ∧
      (found = [] ↔ required = [] ∧
        ∀ field ∈ fields, memberFindings keywords path property additional field = .ok []) := by
  obtain ⟨required, isRequired, rest⟩ := bind_ok_iff.mp ran
  obtain ⟨results, loop, same⟩ := bind_ok_iff.mp rest
  cases same
  exact ⟨required, isRequired, exists_of_mapM loop, by
    rw [List.append_eq_nil_iff, flatten_eq_nil_iff loop]⟩

theorem itemFindings_eq_ok {items : List Value} {schema : Members} {subschema : Subschema}
    (given : Value.get keywords "items" = .dict schema)
    (ran : itemFindings keywords items path subschema = .ok found) : ∃ place : Value × Nat → String,
      (∀ item ∈ items.zipIdx, ∃ findings, subschema item.1 (place item) = .ok findings) ∧
      (found = [] ↔ ∀ item ∈ items.zipIdx, ∀ findings,
        subschema item.1 (place item) = .ok findings → findings.getD [] = []) := by
  unfold itemFindings at ran
  rw [given] at ran
  obtain ⟨results, loop, same⟩ := bind_ok_iff.mp ran
  cases same
  refine ⟨fun item => path ++ "[" ++ toString item.2 ++ "]", ?_, ?_⟩
  · intro item mem
    obtain ⟨each, here⟩ := exists_of_mapM loop item mem
    obtain ⟨findings, evaluated, _⟩ := bind_ok_iff.mp here
    exact ⟨findings, evaluated⟩
  · rw [flatten_eq_nil_iff loop]
    constructor
    · intro all item mem findings evaluated
      obtain ⟨other, sameFindings, none⟩ := bind_ok_iff.mp (all item mem)
      rw [evaluated] at sameFindings
      cases sameFindings
      exact Except.ok.inj none
    · intro all item mem
      obtain ⟨each, here⟩ := exists_of_mapM loop item mem
      obtain ⟨findings, evaluated, _⟩ := bind_ok_iff.mp here
      exact bind_ok_iff.mpr
        ⟨findings, evaluated, congrArg Except.ok (all item mem findings evaluated)⟩

theorem arrayFindings_eq_ok {items : List Value} {subschema : Subschema}
    (ran : arrayFindings floats keywords items path subschema = .ok found) : ∃ few many each,
      leastFindings floats keywords "minItems" items.length path "слишком мало элементов" = .ok few ∧
      mostFindings floats keywords "maxItems" items.length path "слишком много элементов" =
        .ok many ∧ itemFindings keywords items path subschema = .ok each ∧ (found = [] ↔
        few = [] ∧ many = [] ∧ uniqueFindings floats keywords items path = [] ∧ each = []) := by
  obtain ⟨few, isFew, rest⟩ := bind_ok_iff.mp ran
  obtain ⟨many, isMany, rest⟩ := bind_ok_iff.mp rest
  obtain ⟨each, isEach, same⟩ := bind_ok_iff.mp rest
  cases same
  exact ⟨few, many, each, isFew, isMany, isEach, by simp⟩

theorem textFindings_eq_ok {text : String}
    (ran : textFindings tools keywords text path = .ok found) : ∃ short long pattern format,
      leastFindings tools.floats keywords "minLength" text.length path "строка слишком короткая" =
        .ok short ∧
      mostFindings tools.floats keywords "maxLength" text.length path "строка слишком длинная" =
        .ok long ∧ patternFindings tools keywords text path = .ok pattern ∧
      formatFindings tools keywords text path = .ok format ∧
      (found = [] ↔ short = [] ∧ long = [] ∧ pattern = [] ∧ format = []) := by
  obtain ⟨short, isShort, rest⟩ := bind_ok_iff.mp ran
  obtain ⟨long, isLong, rest⟩ := bind_ok_iff.mp rest
  obtain ⟨pattern, isPattern, rest⟩ := bind_ok_iff.mp rest
  obtain ⟨format, isFormat, same⟩ := bind_ok_iff.mp rest
  cases same
  exact ⟨short, long, pattern, format, isShort, isLong, isPattern, isFormat, by simp⟩

theorem numberFindings_eq_ok {number : Rat}
    (ran : numberFindings tools keywords number path = .ok found) : ∃ low high,
      boundFindings tools keywords "minimum" (fun limit => limit ≤ number) path "минимум" = .ok low ∧
      boundFindings tools keywords "maximum" (fun limit => number ≤ limit) path "максимум" =
        .ok high ∧ (found = [] ↔ low = [] ∧ high = []) := by
  obtain ⟨low, isLow, rest⟩ := bind_ok_iff.mp ran
  obtain ⟨high, isHigh, same⟩ := bind_ok_iff.mp rest
  cases same
  exact ⟨low, high, isLow, isHigh, by simp⟩

/-- What an evaluation of a schema that returns consists of. -/
theorem validate_eq_ok (ran : validate tools (.dict keywords) value path = .ok found) :
    (∃ problem, typeProblem tools keywords value = some problem ∧ found ≠ []) ∨
      (typeProblem tools keywords value = none ∧ ∃ enum all any one kind,
        enumFindings tools keywords value path = .ok enum ∧
        combined tools "allOf" keywords value path = .ok all ∧
        combined tools "anyOf" keywords value path = .ok any ∧
        combined tools "oneOf" keywords value path = .ok one ∧
        kindFindings tools keywords value path (fun key => property tools key keywords)
          (fun name => subschema tools name keywords) = .ok kind ∧
        (found = [] ↔ unknownFindings keywords path = [] ∧
          constFindings tools keywords value path = [] ∧ enum = [] ∧ all = [] ∧ any = [] ∧ one = [] ∧
          kind = [])) := by
  rw [validate] at ran
  dsimp only at ran
  split at ran
  · rename_i code message problem
    cases ran
    exact .inl ⟨_, problem, by simp⟩
  · rename_i passed
    obtain ⟨enum, isEnum, rest⟩ := bind_ok_iff.mp ran
    obtain ⟨all, isAll, rest⟩ := bind_ok_iff.mp rest
    obtain ⟨any, isAny, rest⟩ := bind_ok_iff.mp rest
    obtain ⟨one, isOne, rest⟩ := bind_ok_iff.mp rest
    obtain ⟨kind, isKind, same⟩ := bind_ok_iff.mp rest
    cases same
    exact .inr ⟨passed, enum, all, any, one, kind, isEnum, isAll, isAny, isOne, isKind, by simp⟩

end Adwf.Contracts
