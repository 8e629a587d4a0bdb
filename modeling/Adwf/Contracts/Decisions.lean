import Mathlib.Algebra.Order.Ring.Rat
import Mathlib.Data.Nat.Cast.Order.Basic
import Adwf.Contracts.Agreement
import Adwf.JsonText.RoundTrip

/-!
# What each keyword decides

A part of the validator decides a keyword: no findings of it mean that the
keyword holds, and where findings are counted the converse as well.
-/

namespace Adwf.Contracts

open Draft (Holds Valid Applies)
open JsonText
open Value (WellFormed)

/-- No findings mean that the condition holds, and where findings are counted it means no findings. -/
structure Decided (counted none valid : Prop) : Prop where
  sound : none → valid
  complete : counted → valid → none

section Combination

variable {counted none valid : Prop}

theorem Decided.of_iff (same : none ↔ valid) : Decided counted none valid :=
  ⟨same.mp, fun _ => same.mpr⟩

theorem Decided.of_true (isNone : none) (isValid : valid) : Decided counted none valid :=
  ⟨fun _ => isValid, fun _ _ => isNone⟩

theorem Decided.and {otherNone otherValid : Prop} (first : Decided counted none valid)
    (second : Decided counted otherNone otherValid) :
    Decided counted (none ∧ otherNone) (valid ∧ otherValid) :=
  ⟨fun both => ⟨first.sound both.1, second.sound both.2⟩,
    fun count both => ⟨first.complete count both.1, second.complete count both.2⟩⟩

theorem Decided.congr {otherNone otherValid : Prop} (decided : Decided counted none valid)
    (sameNone : otherNone ↔ none) (sameValid : otherValid ↔ valid) :
    Decided counted otherNone otherValid := by
  rw [sameNone, sameValid]
  exact decided

theorem Decided.forall {α : Type} {items : List α} {none valid : α → Prop}
    (each : ∀ item ∈ items, Decided counted (none item) (valid item)) :
    Decided counted (∀ item ∈ items, none item) (∀ item ∈ items, valid item) :=
  ⟨fun all item mem => (each item mem).sound (all item mem),
    fun count all item mem => (each item mem).complete count (all item mem)⟩

theorem Decided.exists {α : Type} {items : List α} {none valid : α → Prop}
    (each : ∀ item ∈ items, Decided counted (none item) (valid item)) :
    Decided counted (∃ item ∈ items, none item) (∃ item ∈ items, valid item) := by
  constructor
  · rintro ⟨item, mem, isNone⟩
    exact ⟨item, mem, (each item mem).sound isNone⟩
  · rintro count ⟨item, mem, isValid⟩
    exact ⟨item, mem, (each item mem).complete count isValid⟩

end Combination

variable {tools : Tools} {regex : String → String → Bool} {mode : Mode} {keywords fields : Members}
  {value : Value} {path name : String} {found : List Finding}

/-! ## Keywords of a schema -/

variable {floats : Floats} {argument : Value} {keyword message : String} {items : List Value}

theorem holds_of_missing (missing : keywords.lookup name = none) :
    Holds floats regex keywords name value := by
  intro argument present
  rw [missing] at present
  cases present

theorem holds_iff_of_lookup (present : keywords.lookup name = some argument) :
    Holds floats regex keywords name value ↔ Applies floats regex keywords name argument value := by
  constructor
  · intro holds
    exact holds argument present
  · intro applies other same
    rw [present] at same
    cases same
    exact applies

theorem get_of_lookup (present : keywords.lookup name = some argument) :
    Value.get keywords name = argument := by
  rw [Value.get, present]
  rfl

theorem get_of_missing (missing : keywords.lookup name = none) : Value.get keywords name = .null := by
  rw [Value.get, missing]
  rfl

theorem lookup_of_get (given : Value.get keywords name = argument)
    (notNull : argument ≠ .null) : keywords.lookup name = some argument := by
  cases present : keywords.lookup name with
  | none =>
      rw [get_of_missing present] at given
      exact absurd given.symm notNull
  | some other => rw [← get_of_lookup present, given]

theorem holds_iff_asserts (plain : name ∉ Draft.applicators)
    (present : keywords.lookup name = some argument) :
    Holds floats regex keywords name value ↔ Draft.Asserts floats regex name argument value := by
  rw [holds_iff_of_lookup present, Draft.applies_iff_asserts plain]

theorem holds_iff_of_plain (plain : name ∉ Draft.applicators) :
    Holds floats regex keywords name value ↔ ∀ argument, keywords.lookup name = some argument →
        Draft.Asserts floats regex name argument value :=
  forall_congr' fun _ => imp_congr_right fun _ => Draft.applies_iff_asserts plain

theorem typeList_eq_map (texts : ∀ item ∈ typeList argument, ∃ name, item = .str name) :
    typeList argument = (Draft.typeNames argument).map .str := by
  cases argument with
  | list items =>
      simp only [typeList, Draft.typeNames] at texts ⊢
      induction items with
      | nil => rfl
      | cons item items ih =>
          obtain ⟨⟨name, rfl⟩, others⟩ := List.forall_mem_cons.mp texts
          have first : Value.asText (.str name) = some name := rfl
          rw [List.filterMap_cons_some first, List.map_cons, ← ih others]
  | str name => rfl
  | _ =>
      obtain ⟨name, same⟩ := texts _ (List.mem_singleton_self _)
      cases same

theorem typeProblem_eq_none_iff (node : IsNode tools.floats keywords)
    (present : keywords.lookup "type" = some argument) : typeProblem tools keywords value = none ↔
      ∃ name ∈ Draft.typeNames argument, matchesType tools.floats value name = true := by
  have names := typeList_eq_map (node.types argument present)
  have notNull : argument ≠ .null := by
    rintro rfl
    obtain ⟨name, same⟩ := node.types _ present _ (List.mem_singleton_self _)
    cases same
  have allTexts : (typeList argument).any (fun item => item.asText.isNone) = false := by
    rw [names, List.any_map, List.any_eq_false]
    simp [Value.asText]
  have matched : ((typeList argument).any fun item =>
      item.asText.any (matchesType tools.floats value)) =
      (Draft.typeNames argument).any (matchesType tools.floats value) := by
    rw [names, List.any_map]
    rfl
  unfold typeProblem
  rw [get_of_lookup present]
  split
  · exact absurd rfl notNull
  · dsimp only
    rw [allTexts, matched, Bool.or_false, names, List.isEmpty_map, ← List.any_eq_true]
    cases given : Draft.typeNames argument with
    | nil => simp
    | cons first others => split_ifs <;> simp_all

theorem decided_type (node : IsNode tools.floats keywords)
    (agrees : Agrees tools regex mode keywords value) :
    Decided (mode = .counted) (typeProblem tools keywords value = none)
      (Holds tools.floats regex keywords "type" value) := by
  cases present : keywords.lookup "type" with
  | none =>
      refine .of_true ?_ (holds_of_missing present)
      rw [typeProblem, get_of_missing present]
  | some argument =>
      rw [typeProblem_eq_none_iff node present, holds_iff_asserts (by decide) present]
      constructor
      · rintro ⟨name, mem, matched⟩
        exact ⟨name, mem, hasType_of_matchesType matched⟩
      · rintro count ⟨name, mem, typed⟩
        exact (agrees.counted count).type argument present name mem typed

theorem decided_const (agrees : Agrees tools regex mode keywords value) :
    Decided (mode = .counted) (constFindings tools keywords value path = [])
      (Holds tools.floats regex keywords "const" value) := by
  rw [constFindings_eq_nil_iff]
  cases present : keywords.lookup "const" with
  | none => exact .of_true (by simp) (holds_of_missing present)
  | some expected =>
      rw [holds_iff_asserts (by decide) present]
      constructor
      · intro equal
        exact agrees.const expected present (equal expected rfl)
      · rintro - equal other same
        cases same
        exact pythonEqual_of_jsonEqual value expected equal

theorem decided_enum (agrees : Agrees tools regex mode keywords value)
    (ran : enumFindings tools keywords value path = .ok found) :
    Decided (mode = .counted) (found = []) (Holds tools.floats regex keywords "enum" value) := by
  obtain ⟨missing, rfl⟩ | ⟨values, present, same⟩ := enumFindings_eq_ok ran
  · exact .of_true rfl (holds_of_missing missing)
  · rw [same, holds_iff_asserts (by decide) present, List.any_eq_true]
    constructor
    · exact agrees.enum values present
    · rintro - ⟨expected, mem, equal⟩
      exact ⟨expected, mem, pythonEqual_of_jsonEqual value expected equal⟩

theorem truncate_of_count {bound : Nat} {truncated : Int}
    (count : jsonNumber floats argument = some (bound : Rat))
    (ran : truncate floats argument = .ok truncated) : truncated = bound := by
  cases argument with
  | int number =>
      cases ran
      exact_mod_cast Option.some.inj count
  | float token =>
      have given : floats.value token = some (bound : Rat) := count
      simp only [truncate, given] at ran
      cases ran
      simp
  | _ => cases count

theorem leastFindings_eq_nil_iff (node : IsNode tools.floats keywords)
    {count : Nat} (isCount : keyword ∈ countKeywords)
    (ran : leastFindings tools.floats keywords keyword count path message = .ok found) :
    found = [] ↔ ∀ argument, keywords.lookup keyword = some argument →
      ∀ bound, jsonNumber tools.floats argument = some bound → bound ≤ count := by
  obtain ⟨missing, rfl⟩ | ⟨argument, truncated, present, isBound, same⟩ := leastFindings_eq_ok ran
  · simp [missing]
  · obtain ⟨bound, number⟩ := node.counts keyword isCount argument present
    rw [same, truncate_of_count number isBound]
    simp [present, number, Nat.cast_le]

theorem mostFindings_eq_nil_iff (node : IsNode tools.floats keywords)
    {count : Nat} (isCount : keyword ∈ countKeywords)
    (ran : mostFindings tools.floats keywords keyword count path message = .ok found) :
    found = [] ↔ ∀ argument, keywords.lookup keyword = some argument →
      ∀ bound, jsonNumber tools.floats argument = some bound → count ≤ bound := by
  obtain ⟨missing, rfl⟩ | ⟨argument, truncated, present, isBound, same⟩ := mostFindings_eq_ok ran
  · simp [missing]
  · obtain ⟨bound, number⟩ := node.counts keyword isCount argument present
    rw [same, truncate_of_count number isBound]
    simp [present, number, Nat.cast_le]

theorem boundFindings_eq_nil_iff (node : IsNode tools.floats keywords)
    {within : Rat → Bool} (isLimit : keyword ∈ ["minimum", "maximum"])
    (ran : boundFindings tools keywords keyword within path message = .ok found) :
    found = [] ↔ ∀ argument, keywords.lookup keyword = some argument →
      ∀ bound, jsonNumber tools.floats argument = some bound → within bound = true := by
  obtain ⟨missing, rfl⟩ | ⟨argument, limit, present, isBound, same⟩ := boundFindings_eq_ok ran
  · simp [missing]
  · obtain ⟨bound, number⟩ := node.limits keyword isLimit argument present
    rw [pythonNumber_of_jsonNumber number] at isBound
    cases isBound
    simp [same, present, number]

theorem decided_pattern {text : String} (agrees : Agrees tools regex mode keywords (.str text))
    (ran : patternFindings tools keywords text path = .ok found) :
    Decided (mode = .counted) (found = [])
      (Holds tools.floats regex keywords "pattern" (.str text)) := by
  obtain ⟨missing, rfl⟩ | ⟨pattern, result, present, searched, same⟩ :=
    patternFindings_eq_ok ran
  · exact .of_true rfl (holds_of_missing missing)
  · rw [same, holds_iff_asserts (by decide) present]
    constructor
    · rintro rfl other isText another isPattern
      cases isText
      cases isPattern
      exact agrees.pattern pattern text present rfl searched
    · intro count asserted
      have further := (agrees.counted count).pattern pattern text present rfl
        (asserted text rfl pattern rfl)
      rw [searched] at further
      exact Option.some.inj further

theorem decided_text {text : String} (node : IsNode tools.floats keywords)
    (agrees : Agrees tools regex mode keywords (.str text))
    (ran : textFindings tools keywords text path = .ok found) :
    Decided (mode = .counted) (found = [])
      (Holds tools.floats regex keywords "minLength" (.str text) ∧
        Holds tools.floats regex keywords "maxLength" (.str text) ∧
        Holds tools.floats regex keywords "pattern" (.str text)) := by
  obtain ⟨short, long, pattern, format, isShort, isLong, isPattern, isFormat, same⟩ :=
    textFindings_eq_ok ran
  have least : short = [] ↔ Holds tools.floats regex keywords "minLength" (.str text) := by
    rw [leastFindings_eq_nil_iff node (by decide) isShort, holds_iff_of_plain (by decide)]
    simp only [Draft.asserts_minLength]
  have most : long = [] ↔ Holds tools.floats regex keywords "maxLength" (.str text) := by
    rw [mostFindings_eq_nil_iff node (by decide) isLong, holds_iff_of_plain (by decide)]
    simp only [Draft.asserts_maxLength]
  have searched := decided_pattern agrees isPattern
  rw [same]
  constructor
  · rintro ⟨noShort, noLong, noPattern, -⟩
    exact ⟨least.mp noShort, most.mp noLong, searched.sound noPattern⟩
  · rintro count ⟨minLength, maxLength, matched⟩
    have formatted := (agrees.counted count).format text path rfl
    rw [isFormat] at formatted
    exact ⟨least.mpr minLength, most.mpr maxLength, searched.complete count matched,
      Except.ok.inj formatted⟩

theorem decided_number {number : Rat} (node : IsNode tools.floats keywords)
    (isNumber : jsonNumber tools.floats value = some number)
    (ran : numberFindings tools keywords number path = .ok found) {counted : Prop} :
    Decided counted (found = []) (Holds tools.floats regex keywords "minimum" value ∧
      Holds tools.floats regex keywords "maximum" value) := by
  obtain ⟨low, high, isLow, isHigh, same⟩ := numberFindings_eq_ok ran
  have least : low = [] ↔ Holds tools.floats regex keywords "minimum" value := by
    rw [boundFindings_eq_nil_iff node (by decide) isLow, holds_iff_of_plain (by decide)]
    simp [Draft.asserts_minimum, isNumber]
  have most : high = [] ↔ Holds tools.floats regex keywords "maximum" value := by
    rw [boundFindings_eq_nil_iff node (by decide) isHigh, holds_iff_of_plain (by decide)]
    simp [Draft.asserts_maximum, isNumber]
  rw [same, least, most]
  exact .of_iff Iff.rfl

/-! ## Subschemas -/

/-- A schema decides a value, wherever it is evaluated. -/
def Decides (tools : Tools) (regex : String → String → Bool) (mode : Mode) (schema value : Value) :
    Prop :=
  ∀ path found, validate tools schema value path = .ok found →
    Decided (mode = .counted) (found = []) (Valid tools.floats regex schema value)

theorem Decides.result {schema : Value} (decides : Decides tools regex mode schema value)
    (ran : ∃ found, validate tools schema value path = .ok found) :
    Decided (mode = .counted) (validate tools schema value path = .ok [])
      (Valid tools.floats regex schema value) := by
  obtain ⟨found, evaluated⟩ := ran
  exact (decides path found evaluated).congr (by rw [evaluated, Except.ok.injEq]) Iff.rfl

section Branches

variable {branches : List Value} {results : List (List Finding)}

theorem passed_eq_zero_iff (ran : branchResults tools branches value path = .ok results)
    (exact : ∀ branch ∈ branches,
      validate tools branch value path = .ok [] ↔ Valid tools.floats regex branch value) :
    results.countP List.isEmpty = 0 ↔ Draft.NoBranch tools.floats regex branches value := by
  induction branches generalizing results with
  | nil =>
      cases ran
      simp [Draft.NoBranch]
  | cons branch branches ih =>
      rw [branchResults, Fallible.bind_ok_iff] at ran
      obtain ⟨first, here, rest⟩ := ran
      obtain ⟨others, later, same⟩ := Fallible.bind_ok_iff.mp rest
      cases same
      obtain ⟨own, exactLater⟩ := List.forall_mem_cons.mp exact
      rw [here, Except.ok.injEq] at own
      rw [Draft.NoBranch, List.countP_cons, ← ih later exactLater, ← own]
      cases first <;> simp

theorem passed_eq_one_iff (ran : branchResults tools branches value path = .ok results)
    (exact : ∀ branch ∈ branches,
      validate tools branch value path = .ok [] ↔ Valid tools.floats regex branch value) :
    results.countP List.isEmpty = 1 ↔ Draft.OneBranch tools.floats regex branches value := by
  induction branches generalizing results with
  | nil =>
      cases ran
      simp [Draft.OneBranch]
  | cons branch branches ih =>
      rw [branchResults, Fallible.bind_ok_iff] at ran
      obtain ⟨first, here, rest⟩ := ran
      obtain ⟨others, later, same⟩ := Fallible.bind_ok_iff.mp rest
      cases same
      obtain ⟨own, exactLater⟩ := List.forall_mem_cons.mp exact
      rw [here, Except.ok.injEq] at own
      rw [Draft.OneBranch, List.countP_cons, ← ih later exactLater,
        ← passed_eq_zero_iff later exactLater, ← own]
      cases first <;> simp

theorem decided_allOf (present : keywords.lookup "allOf" = some (.list branches))
    (decides : ∀ branch ∈ branches, Decides tools regex mode branch value)
    (ran : branchResults tools branches value path = .ok results) :
    Decided (mode = .counted) (branchFindings "allOf" path results = [])
      (Holds tools.floats regex keywords "allOf" value) := by
  have evaluated := exists_of_branchResults ran
  have each := Decided.forall fun branch mem => (decides branch mem).result
    (evaluated branch mem)
  refine each.congr ?_ ?_
  · rw [branchFindings, if_pos rfl, branches_flatten_eq_nil_iff ran]
  · rw [holds_iff_of_lookup present, Draft.applies_allOf]

theorem decided_anyOf (present : keywords.lookup "anyOf" = some (.list branches))
    (decides : ∀ branch ∈ branches, Decides tools regex (mode.under "anyOf") branch value)
    (ran : branchResults tools branches value path = .ok results) :
    Decided (mode = .counted) (branchFindings "anyOf" path results = [])
      (Holds tools.floats regex keywords "anyOf" value) := by
  have evaluated := exists_of_branchResults ran
  have each := Decided.exists fun branch mem => (decides branch mem).result
    (evaluated branch mem)
  have same : branchFindings "anyOf" path results = [] ↔
      ∃ branch ∈ branches, validate tools branch value path = .ok [] := by
    rw [← branches_passed_ne_zero_iff ran, branchFindings, if_neg (by simp), if_pos rfl,
      demand_eq_nil_iff, decide_eq_true_eq]
  have valid : Holds tools.floats regex keywords "anyOf" value ↔
      ∃ branch ∈ branches, Valid tools.floats regex branch value := by
    rw [holds_iff_of_lookup present, Draft.applies_anyOf]
  rw [same, valid]
  refine ⟨each.sound, fun count => each.complete ?_⟩
  rw [count]
  rfl

theorem decided_oneOf (present : keywords.lookup "oneOf" = some (.list branches))
    (decides : ∀ branch ∈ branches, Decides tools regex (mode.under "oneOf") branch value)
    (ran : branchResults tools branches value path = .ok results) :
    Decided (mode = .counted) (branchFindings "oneOf" path results = [])
      (Holds tools.floats regex keywords "oneOf" value) := by
  have counts : mode.under "oneOf" = .counted := by cases mode <;> rfl
  have exact : ∀ branch ∈ branches,
      validate tools branch value path = .ok [] ↔ Valid tools.floats regex branch value := by
    intro branch mem
    have decided := (decides branch mem).result (exists_of_branchResults ran branch mem)
    exact ⟨decided.sound, decided.complete counts⟩
  apply Decided.of_iff
  rw [holds_iff_of_lookup present, Draft.applies_oneOf, ← passed_eq_one_iff ran exact,
    branchFindings, if_neg (by simp), if_neg (by simp), demand_eq_nil_iff, decide_eq_true_eq]

theorem decided_combined {keyword : String} {counted : Prop}
    (ran : combined tools keyword keywords value path = .ok found)
    (decided : ∀ branches results, keywords.lookup keyword = some (.list branches) →
      branchResults tools branches value path = .ok results →
      Decided counted (branchFindings keyword path results = [])
        (Holds tools.floats regex keywords keyword value)) :
    Decided counted (found = []) (Holds tools.floats regex keywords keyword value) := by
  obtain ⟨missing, rfl⟩ | ⟨branches, results, present, branched, rfl⟩ := combined_eq_ok ran
  · exact .of_true rfl (holds_of_missing missing)
  · exact decided branches results present branched

end Branches

theorem decided_unique (node : IsNode tools.floats keywords)
    (wellFormed : WellFormed tools.floats (.list items))
    (agrees : Agrees tools regex mode keywords (.list items)) :
    Decided (mode = .counted) (uniqueFindings tools.floats keywords items path = [])
      (Holds tools.floats regex keywords "uniqueItems" (.list items)) := by
  rw [uniqueFindings_eq_nil_iff]
  cases present : keywords.lookup "uniqueItems" with
  | none =>
      refine .of_true ?_ (holds_of_missing present)
      simp [get_of_missing present, isTrue]
  | some argument =>
      obtain ⟨unique, rfl⟩ := node.unique argument present
      have formed := Value.wellFormedItems_iff.mp wellFormed
      have distinct : (items.map (render spaced)).Nodup ↔ items.Nodup := by
        refine ⟨List.Nodup.of_map _, List.Nodup.map_on fun first mem other also same => ?_⟩
        exact render_injective spaced (formed first mem) (formed other also) same
      rw [get_of_lookup present, distinct, holds_iff_asserts (by decide) present]
      cases unique with
      | false => exact .of_true (by simp [isTrue]) Draft.asserts_uniqueItems_false
      | true =>
          constructor
          · intro nodup others same _
            cases same
            exact agrees.unique items rfl present (nodup rfl)
          · intro count different _
            have refl := (agrees.counted count).unique items rfl
            refine (different items rfl rfl).imp_of_mem fun {first other} mem _ unequal same => ?_
            rw [← same, refl first mem] at unequal
            cases unequal

theorem subschema_of_lookup {schemas : Members} {schema : Value} {result : Option (List Finding)}
    (present : schemas.lookup name = some schema)
    (ran : subschema tools name schemas value path = .ok result) :
    ∃ found, validate tools schema value path = .ok found ∧ result = some found := by
  obtain ⟨missing, _⟩ | ⟨other, found, given, validated, same⟩ := subschema_eq_ok ran
  · rw [present] at missing
    cases missing
  · rw [present] at given
    cases given
    exact ⟨found, validated, same⟩

theorem decided_items (agrees : Agrees tools regex mode keywords (.list items))
    (decides : ∀ schema, keywords.lookup "items" = some (.dict schema) → ∀ item ∈ items,
      Decides tools regex mode (.dict schema) item)
    (ran : itemFindings keywords items path (subschema tools "items" keywords) = .ok found) :
    Decided (mode = .counted) (found = [])
      (Holds tools.floats regex keywords "items" (.list items)) := by
  cases present : keywords.lookup "items" with
  | none =>
      refine .of_true ?_ (holds_of_missing present)
      rw [itemFindings, get_of_missing present] at ran
      exact (Except.ok.inj ran).symm
  | some argument =>
      rw [holds_iff_of_lookup present]
      cases argument with
      | dict schema =>
          obtain ⟨place, evaluated, same⟩ := itemFindings_eq_ok (get_of_lookup present) ran
          have each : ∀ item ∈ items.zipIdx, Decided (mode = .counted)
              (∀ findings, subschema tools "items" keywords item.1 (place item) = .ok findings →
                findings.getD [] = []) (Valid tools.floats regex (.dict schema) item.1) := by
            intro item mem
            obtain ⟨result, known⟩ := evaluated item mem
            obtain ⟨found, validated, rfl⟩ := subschema_of_lookup present known
            have decided := decides schema present item.1 (List.fst_mem_of_mem_zipIdx mem) _ _
              validated
            exact decided.congr (by simp [known]) Iff.rfl
          rw [same]
          refine (Decided.forall each).congr Iff.rfl ?_
          rw [Draft.applies_items]
          constructor
          · intro all item mem
            exact all item.1 (List.fst_mem_of_mem_zipIdx mem)
          · intro all item mem
            rw [← List.zipIdx_map_fst 0 items] at mem
            obtain ⟨indexed, there, rfl⟩ := List.mem_map.mp mem
            exact all indexed there
      | bool allowed =>
          rw [itemFindings, get_of_lookup present] at ran
          refine .of_true (Except.ok.inj ran).symm ?_
          rw [Draft.applies_items_bool]
          cases allowed with
          | true => exact .inl rfl
          | false => exact .inr (agrees.items items rfl present)
      | _ =>
          rw [itemFindings, get_of_lookup present] at ran
          exact .of_true (Except.ok.inj ran).symm
            (Draft.applies_of_no_schema (by simp) (by simp) (by simp))

theorem decided_array (node : IsNode tools.floats keywords)
    (wellFormed : WellFormed tools.floats (.list items))
    (agrees : Agrees tools regex mode keywords (.list items))
    (decides : ∀ schema, keywords.lookup "items" = some (.dict schema) → ∀ item ∈ items,
      Decides tools regex mode (.dict schema) item)
    (ran : arrayFindings tools.floats keywords items path (subschema tools "items" keywords) =
      .ok found) : Decided (mode = .counted) (found = [])
      (Holds tools.floats regex keywords "minItems" (.list items) ∧
        Holds tools.floats regex keywords "maxItems" (.list items) ∧
        Holds tools.floats regex keywords "uniqueItems" (.list items) ∧
        Holds tools.floats regex keywords "items" (.list items)) := by
  obtain ⟨few, many, each, isFew, isMany, isEach, same⟩ := arrayFindings_eq_ok ran
  have least : few = [] ↔ Holds tools.floats regex keywords "minItems" (.list items) := by
    rw [leastFindings_eq_nil_iff node (by decide) isFew, holds_iff_of_plain (by decide)]
    simp only [Draft.asserts_minItems]
  have most : many = [] ↔ Holds tools.floats regex keywords "maxItems" (.list items) := by
    rw [mostFindings_eq_nil_iff node (by decide) isMany, holds_iff_of_plain (by decide)]
    simp only [Draft.asserts_maxItems]
  have distinct : Decided (mode = .counted) (uniqueFindings tools.floats keywords items path = [])
      (Holds tools.floats regex keywords "uniqueItems" (.list items)) :=
    decided_unique node wellFormed agrees
  rw [same]
  exact (Decided.of_iff least).and ((Decided.of_iff most).and
    (distinct.and (decided_items agrees decides isEach)))

/-! ## Objects -/

theorem decided_required {counted : Prop}
    (ran : requiredFindings keywords fields path = .ok found) :
    Decided counted (found = []) (Holds tools.floats regex keywords "required" (.dict fields)) := by
  obtain ⟨missing, rfl⟩ | ⟨names, present, texts, same⟩ := requiredFindings_eq_ok ran
  · exact .of_true rfl (holds_of_missing missing)
  · apply Decided.of_iff
    rw [same, holds_iff_asserts (by decide) present]
    constructor
    · intro all others isDict key mem
      cases isDict
      obtain ⟨name, listed, isKey⟩ := List.mem_filterMap.mp mem
      obtain ⟨text, rfl⟩ := texts name listed
      cases isKey
      exact all key listed
    · intro all key mem
      exact all fields rfl key (List.mem_filterMap.mpr ⟨.str key, mem, rfl⟩)

/-- What `properties` and `additionalProperties` ask of one member of an object. -/
def MemberHolds (floats : Floats) (regex : String → String → Bool) (keywords : Members)
    (field : String × Value) : Prop :=
  (∀ schemas, keywords.lookup "properties" = some (.dict schemas) →
    ∀ schema, schemas.lookup field.1 = some schema → Valid floats regex schema field.2) ∧
  (field.1 ∉ Draft.declared keywords →
    keywords.lookup "additionalProperties" ≠ some (.bool false) ∧
      ∀ schema, keywords.lookup "additionalProperties" = some (.dict schema) →
        Valid floats regex (.dict schema) field.2)

theorem undeclared_iff {schemas : Members} {key : String}
    (present : keywords.lookup "properties" = some (.dict schemas)) :
    key ∉ Draft.declared keywords ↔ schemas.lookup key = none := by
  rw [Draft.declared, get_of_lookup present, Draft.membersOf, List.lookup_eq_none_iff]
  constructor
  · intro fresh entry mem
    exact bne_iff_ne.mpr fun same => fresh (List.mem_map.mpr ⟨entry, mem, same.symm⟩)
  · intro fresh mem
    obtain ⟨entry, listed, same⟩ := List.mem_map.mp mem
    exact bne_iff_ne.mp (fresh entry listed) same.symm

theorem undeclared_of_missing {key : String} (missing : keywords.lookup "properties" = none) :
    key ∉ Draft.declared keywords := by
  rw [Draft.declared, get_of_missing missing]
  exact List.not_mem_nil

theorem holds_properties_iff (wellFormed : WellFormed floats (.dict keywords)) :
    Holds floats regex keywords "properties" (.dict fields) ↔
      ∀ field ∈ fields, ∀ schemas, keywords.lookup "properties" = some (.dict schemas) →
        ∀ schema, schemas.lookup field.1 = some schema → Valid floats regex schema field.2 := by
  cases present : keywords.lookup "properties" with
  | none => exact iff_of_true (holds_of_missing present) (by simp)
  | some argument =>
      rw [holds_iff_of_lookup present]
      cases argument with
      | dict schemas =>
          have formed := Value.wellFormedMembers_iff.mp wellFormed.2 _ (mem_of_lookup present)
          have distinct : (schemas.map Prod.fst).Nodup := formed.1.imp (fun {_ _} less => less.ne)
          rw [Draft.applies_properties]
          constructor
          · intro all field mem others same schema own
            cases same
            exact all _ (mem_of_lookup own) field mem rfl
          · intro all entry listed field mem same
            refine all field mem schemas rfl entry.2 ?_
            rw [same]
            exact Draft.lookup_of_mem distinct listed
      | bool allowed => exact iff_of_true Draft.applies_properties_bool (by simp)
      | _ =>
          exact iff_of_true (Draft.applies_of_no_schema (by simp) (by simp) (by simp)) (by simp)

theorem holds_additional_iff : Holds floats regex keywords "additionalProperties" (.dict fields) ↔
      ∀ field ∈ fields, field.1 ∉ Draft.declared keywords →
        keywords.lookup "additionalProperties" ≠ some (.bool false) ∧
          ∀ schema, keywords.lookup "additionalProperties" = some (.dict schema) →
            Valid floats regex (.dict schema) field.2 := by
  cases present : keywords.lookup "additionalProperties" with
  | none => exact iff_of_true (holds_of_missing present) (by simp)
  | some argument =>
      rw [holds_iff_of_lookup present]
      cases argument with
      | dict schema =>
          rw [Draft.applies_additional]
          constructor
          · intro all field mem undeclared
            refine ⟨by simp, fun other same => ?_⟩
            cases same
            exact all field mem undeclared
          · intro all field mem undeclared
            exact (all field mem undeclared).2 schema rfl
      | bool allowed =>
          rw [Draft.applies_additional_bool]
          cases allowed with
          | true => simp
          | false => simp [Draft.membersOf]
      | _ =>
          exact iff_of_true (Draft.applies_of_no_schema (by simp) (by simp) (by simp)) (by simp)

theorem decided_additional {field : String × Value}
    (additional : ∀ schema, keywords.lookup "additionalProperties" = some (.dict schema) →
      Decides tools regex mode (.dict schema) field.2)
    (rest : (Value.get keywords "additionalProperties" = .bool false ∧ found ≠ []) ∨
      (∃ schema findings, Value.get keywords "additionalProperties" = .dict schema ∧
        subschema tools "additionalProperties" keywords field.2 path = .ok findings ∧
        found = findings.getD []) ∨ (Value.get keywords "additionalProperties" ≠ .bool false ∧
        (∀ schema, Value.get keywords "additionalProperties" ≠ .dict schema) ∧ found = [])) :
    Decided (mode = .counted) (found = [])
      (keywords.lookup "additionalProperties" ≠ some (.bool false) ∧
        ∀ schema, keywords.lookup "additionalProperties" = some (.dict schema) →
          Valid tools.floats regex (.dict schema) field.2) := by
  obtain ⟨refused, someFound⟩ | ⟨schema, findings, given, evaluated, rfl⟩ |
    ⟨notFalse, notSchema, rfl⟩ := rest
  · have present := lookup_of_get refused (fun same => by cases same)
    exact .of_iff (iff_of_false someFound fun both => both.1 present)
  · have present := lookup_of_get given (fun same => by cases same)
    obtain ⟨found, validated, rfl⟩ := subschema_of_lookup present evaluated
    refine (additional schema present path found validated).congr Iff.rfl ?_
    rw [present]
    simp
  · refine .of_true rfl ⟨fun present => notFalse (get_of_lookup present), fun schema present => ?_⟩
    exact absurd (get_of_lookup present) (notSchema schema)

theorem decided_member {field : String × Value}
    (own : ∀ schemas schema, keywords.lookup "properties" = some (.dict schemas) →
      schemas.lookup field.1 = some schema → Decides tools regex mode schema field.2)
    (additional : ∀ schema, field.1 ∉ Draft.declared keywords →
      keywords.lookup "additionalProperties" = some (.dict schema) →
      Decides tools regex mode (.dict schema) field.2)
    (ran : memberFindings keywords path (fun key => property tools key keywords)
      (subschema tools "additionalProperties" keywords) field = .ok found) :
    Decided (mode = .counted) (found = []) (MemberHolds tools.floats regex keywords field) := by
  obtain evaluated | ⟨evaluated, rest⟩ := memberFindings_eq_ok ran
  · obtain ⟨_, same⟩ | ⟨schemas, present, inner⟩ := property_eq_ok evaluated
    · cases same
    obtain ⟨_, same⟩ | ⟨schema, others, given, validated, same⟩ := subschema_eq_ok inner
    · cases same
    cases same
    refine (own schemas schema present given _ _ validated).congr Iff.rfl ?_
    have declared : ¬field.1 ∉ Draft.declared keywords := by
      rw [undeclared_iff present, given]
      simp
    constructor
    · intro holds
      exact holds.1 schemas present schema given
    · intro valid
      refine ⟨fun others same other also => ?_, fun undeclared => absurd undeclared declared⟩
      rw [present] at same
      cases same
      rw [given] at also
      cases also
      exact valid
  · have undeclared : field.1 ∉ Draft.declared keywords ∧
        ∀ schemas, keywords.lookup "properties" = some (.dict schemas) →
          schemas.lookup field.1 = none := by
      obtain ⟨missing, _⟩ | ⟨schemas, present, inner⟩ := property_eq_ok evaluated
      · exact ⟨undeclared_of_missing missing, by simp [missing]⟩
      · obtain ⟨missing, _⟩ | ⟨schema, others, _, _, same⟩ := subschema_eq_ok inner
        · refine ⟨(undeclared_iff present).mpr missing, fun others same => ?_⟩
          rw [present] at same
          cases same
          exact missing
        · cases same
    have decided := decided_additional (fun schema => additional schema undeclared.1) rest
    refine decided.congr Iff.rfl ⟨fun holds => holds.2 undeclared.1, fun holds => ?_⟩
    refine ⟨fun schemas present schema given => ?_, fun _ => holds⟩
    rw [undeclared.2 schemas present] at given
    cases given

theorem members_hold_iff (wellFormed : WellFormed floats (.dict keywords)) :
    (Holds floats regex keywords "properties" (.dict fields) ∧
      Holds floats regex keywords "additionalProperties" (.dict fields)) ↔
    ∀ field ∈ fields, MemberHolds floats regex keywords field := by
  rw [holds_properties_iff wellFormed, holds_additional_iff]
  exact ⟨fun both field mem => ⟨both.1 field mem, both.2 field mem⟩,
    fun all => ⟨fun field mem => (all field mem).1, fun field mem => (all field mem).2⟩⟩

theorem decided_object (wellFormed : WellFormed tools.floats (.dict keywords))
    (own : ∀ field ∈ fields, ∀ schemas schema, keywords.lookup "properties" = some (.dict schemas) →
      schemas.lookup field.1 = some schema → Decides tools regex mode schema field.2)
    (additional : ∀ field ∈ fields, ∀ schema, field.1 ∉ Draft.declared keywords →
      keywords.lookup "additionalProperties" = some (.dict schema) →
      Decides tools regex mode (.dict schema) field.2)
    (ran : objectFindings keywords fields path (fun key => property tools key keywords)
      (subschema tools "additionalProperties" keywords) = .ok found) :
    Decided (mode = .counted) (found = [])
      (Holds tools.floats regex keywords "required" (.dict fields) ∧
        Holds tools.floats regex keywords "properties" (.dict fields) ∧
        Holds tools.floats regex keywords "additionalProperties" (.dict fields)) := by
  obtain ⟨required, isRequired, evaluated, same⟩ := objectFindings_eq_ok ran
  rw [same, members_hold_iff wellFormed]
  refine (decided_required isRequired).and (.forall fun field mem => ?_)
  obtain ⟨found, here⟩ := evaluated field mem
  exact (decided_member (own field mem) (additional field mem) here).congr
    (by rw [here, Except.ok.injEq]) Iff.rfl

end Adwf.Contracts
