import Adwf.Trust.Weakening
import Adwf.JsonText.Value

/-!
# Controls that are switched off

A safety control of a document is a member that is true and whose key matches
`_SAFE_TRUE_KEYS`.  `detect_gate_weakening` compares the members that two
documents share; what it finds is stated here as a relation between the
documents, next to what it means that a control is switched off.
-/

namespace Adwf.Trust

open Fallible

/-! ## Places in a document -/

inductive Place where
  | key (name : String)
  | item (index : Nat)
  deriving DecidableEq, Repr

/-- The value at a place. -/
def valueAt : Json → List Place → Option Json
  | value, [] => some value
  | .obj fields, .key name :: rest => (fields.lookup name).bind (valueAt · rest)
  | .arr items, .item index :: rest => items[index]?.bind (valueAt · rest)
  | _, _ => none

/-- A safety control is true in the old document and anything else in the new one. -/
def SwitchedOff (old new : Json) : Prop :=
  ∃ path key, safeTrueKeys.search key = true ∧
    valueAt old (path ++ [.key key]) = some (.bool true) ∧
    valueAt new (path ++ [.key key]) ≠ some (.bool true)

/-! ## What the comparison finds -/

/-- The members whose values are levels of autonomy. -/
def autonomyKeys : List String :=
  ["requested_autonomy", "active_autonomy"]

/-- The members whose values are levels of risk. -/
def riskKeys : List String :=
  ["max_autonomous_risk"]

/-- A level of the member is no key of a table: the comparison raises and all its reasons
are dropped. -/
def Unranked (key : String) (old new : Json) : Prop :=
  (key ∈ autonomyKeys ∧ rankIncreased autonomyLevels old new = none) ∨
    (key ∈ riskKeys ∧ rankIncreased riskLevels old new = none)

/-- The new budget is higher, or one of the two is no number. -/
def BudgetRaised (rt : Runtime) (old new : Json) : Prop :=
  ∀ after before, rt.float new = .ok after → rt.float old = .ok before → before < after

/-- What is found about a member that both objects have. -/
def MemberWeakened (rt : Runtime) (key : String) (old new : Json) : Prop :=
  (old = .bool true ∧ new = .bool false ∧ safeTrueKeys.search key = true) ∨
    (old = .bool false ∧ new = .bool true ∧ dangerousTrueKeys.search key = true) ∨
    (key ∈ ["hard_budget_usd", "monetary_budget"] ∧ BudgetRaised rt old new) ∨
    (key ∈ autonomyKeys ∧ rankIncreased autonomyLevels old new = some true) ∨
    (key ∈ riskKeys ∧ rankIncreased riskLevels old new = some true)

/-- The comparison of the documents raises. -/
inductive Raises : Json → Json → Prop where
  | here {key : String} {old new : Json} {olds news : Fields} (inside : (key, old) ∈ olds)
      (shared : news.lookup key = some new) (unranked : Unranked key old new) :
      Raises (.obj olds) (.obj news)
  | inner {key : String} {old new : Json} {olds news : Fields} (inside : (key, old) ∈ olds)
      (shared : news.lookup key = some new) (raises : Raises old new) :
      Raises (.obj olds) (.obj news)

/-- The comparison of the documents, at a path of the file, has something to report. -/
inductive Weakened (rt : Runtime) : Json → Json → String → Prop where
  | removed {key path : String} {old : Json} {olds news : Fields} (inside : (key, old) ∈ olds)
      (gone : news.lookup key = none)
      (control : safeTrueKeys.search key = true ∨
        key ∈ ["tests", "checks", "required_status_checks"]) :
      Weakened rt (.obj olds) (.obj news) path
  | changed {key path : String} {old new : Json} {olds news : Fields} (inside : (key, old) ∈ olds)
      (shared : news.lookup key = some new) (weakened : MemberWeakened rt key old new) :
      Weakened rt (.obj olds) (.obj news) path
  | inner {key path : String} {old new : Json} {olds news : Fields} (inside : (key, old) ∈ olds)
      (shared : news.lookup key = some new)
      (weakened : Weakened rt old new (path ++ "." ++ key)) :
      Weakened rt (.obj olds) (.obj news) path
  | items {path : String} {olds news : List Json} (fewer : news.foldl List.erase olds ≠ [])
      (requirement : requirementLists.search path = true) :
      Weakened rt (.arr olds) (.arr news) path

/-! ## One member -/

theorem levelReasons_eq_none_iff {keys levels : List String} {reason key child : String}
    {old new : Json} : levelReasons keys levels reason key child old new = none ↔
      key ∈ keys ∧ rankIncreased levels old new = none := by
  unfold levelReasons
  split_ifs with listed
  · cases rankIncreased levels old new with
    | none => simp [listed]
    | some increased => simp
  · simp [listed]

theorem levelReasons_ne_nil_iff {keys levels : List String} {reason key child : String}
    {old new : Json} {reasons : List String}
    (found : levelReasons keys levels reason key child old new = some reasons) :
    reasons ≠ [] ↔ key ∈ keys ∧ rankIncreased levels old new = some true := by
  unfold levelReasons at found
  split_ifs at found with listed
  · cases ranked : rankIncreased levels old new with
    | none =>
        rw [ranked] at found
        cases found
    | some increased =>
        rw [ranked] at found
        rcases Option.some.inj found with rfl
        simp [reasonIf_ne_nil_iff, listed]
  · cases found
    simp [listed]

theorem budgetReasons_ne_nil_iff {rt : Runtime} {key child : String} {old new : Json} :
    budgetReasons rt key child old new ≠ [] ↔
      key ∈ ["hard_budget_usd", "monetary_budget"] ∧ BudgetRaised rt old new := by
  unfold budgetReasons BudgetRaised
  by_cases budget : key ∈ ["hard_budget_usd", "monetary_budget"]
  · rw [if_pos budget]
    cases rt.float new with
    | error error => simp [budget]
    | ok after =>
        cases rt.float old with
        | error error => simp [budget]
        | ok before => simp [budget, reasonIf_ne_nil_iff]
  · simp [budget]

theorem memberReasons_eq_none_iff {rt : Runtime} {key child : String} {old new : Json} :
    memberReasons rt key child old new = none ↔ Unranked key old new := by
  have autonomy : levelReasons autonomyKeys autonomyLevels "AUTONOMY_INCREASED:" key child old
      new = none ↔ _ := levelReasons_eq_none_iff
  have risk : levelReasons riskKeys riskLevels "AUTONOMOUS_RISK_INCREASED:" key child old
      new = none ↔ _ := levelReasons_eq_none_iff
  rw [Unranked, ← autonomy, ← risk, memberReasons, autonomyKeys, riskKeys]
  cases levelReasons ["requested_autonomy", "active_autonomy"] autonomyLevels
      "AUTONOMY_INCREASED:" key child old new with
  | none => simp
  | some autonomyReasons =>
      cases levelReasons ["max_autonomous_risk"] riskLevels "AUTONOMOUS_RISK_INCREASED:" key child
          old new with
      | none => simp
      | some riskReasons => simp

theorem memberReasons_ne_nil_iff {rt : Runtime} {key child : String} {old new : Json}
    {reasons : List String} (found : memberReasons rt key child old new = some reasons) :
    reasons ≠ [] ↔ MemberWeakened rt key old new := by
  rw [memberReasons, Option.bind_eq_bind, Option.bind_eq_some_iff] at found
  rcases found with ⟨autonomy, foundAutonomy, found⟩
  rcases Option.bind_eq_some_iff.mp found with ⟨risk, foundRisk, found⟩
  rcases Option.some.inj found with rfl
  rw [MemberWeakened, autonomyKeys, riskKeys, ← levelReasons_ne_nil_iff foundAutonomy,
    ← levelReasons_ne_nil_iff foundRisk, ← @budgetReasons_ne_nil_iff rt key child]
  simp only [Ne, List.append_eq_nil_iff, not_and_or, or_assoc]
  rw [← Ne, ← Ne, reasonIf_ne_nil_iff, reasonIf_ne_nil_iff]

theorem removalReasons_ne_nil_iff {key child : String} : removalReasons key child ≠ [] ↔
      safeTrueKeys.search key = true ∨ key ∈ ["tests", "checks", "required_status_checks"] :=
  reasonIf_ne_nil_iff

/-! ## The walk -/

section Members

variable {rt : Runtime} {key path : String} {old : Json} {olds news : Fields}

theorem not_raises_nil (news : Fields) : ¬Raises (.obj []) (.obj news) := by
  rintro (⟨⟨⟩, _, _⟩ | ⟨⟨⟩, _, _⟩)

theorem not_weakened_nil (news : Fields) : ¬Weakened rt (.obj []) (.obj news) path := by
  rintro (⟨⟨⟩, _, _⟩ | ⟨⟨⟩, _, _⟩ | ⟨⟨⟩, _, _⟩)

theorem raises_cons_iff : Raises (.obj ((key, old) :: olds)) (.obj news) ↔
      (∃ new, news.lookup key = some new ∧ (Unranked key old new ∨ Raises old new)) ∨
        Raises (.obj olds) (.obj news) := by
  constructor
  · rintro (⟨inside, shared, unranked⟩ | ⟨inside, shared, raises⟩)
    · rcases List.mem_cons.mp inside with ⟨⟨⟩⟩ | later
      · exact Or.inl ⟨_, shared, Or.inl unranked⟩
      · exact Or.inr (.here later shared unranked)
    · rcases List.mem_cons.mp inside with ⟨⟨⟩⟩ | later
      · exact Or.inl ⟨_, shared, Or.inr raises⟩
      · exact Or.inr (.inner later shared raises)
  · rintro (⟨new, shared, unranked | raises⟩ | raises)
    · exact .here List.mem_cons_self shared unranked
    · exact .inner List.mem_cons_self shared raises
    · rcases raises with ⟨inside, shared, unranked⟩ | ⟨inside, shared, raises⟩
      · exact .here (List.mem_cons_of_mem _ inside) shared unranked
      · exact .inner (List.mem_cons_of_mem _ inside) shared raises

/-- The loop finds something at its first key or at a later one. -/
theorem weakened_cons_iff : Weakened rt (.obj ((key, old) :: olds)) (.obj news) path ↔
      (news.lookup key = none ∧ (safeTrueKeys.search key = true ∨
          key ∈ ["tests", "checks", "required_status_checks"])) ∨
        (∃ new, news.lookup key = some new ∧ (MemberWeakened rt key old new ∨
            Weakened rt old new (path ++ "." ++ key))) ∨
        Weakened rt (.obj olds) (.obj news) path := by
  constructor
  · rintro (⟨inside, gone, control⟩ | ⟨inside, shared, weakened⟩ | ⟨inside, shared, weakened⟩)
    · rcases List.mem_cons.mp inside with ⟨⟨⟩⟩ | later
      · exact Or.inl ⟨gone, control⟩
      · exact Or.inr (Or.inr (.removed later gone control))
    · rcases List.mem_cons.mp inside with ⟨⟨⟩⟩ | later
      · exact Or.inr (Or.inl ⟨_, shared, Or.inl weakened⟩)
      · exact Or.inr (Or.inr (.changed later shared weakened))
    · rcases List.mem_cons.mp inside with ⟨⟨⟩⟩ | later
      · exact Or.inr (Or.inl ⟨_, shared, Or.inr weakened⟩)
      · exact Or.inr (Or.inr (.inner later shared weakened))
  · rintro (⟨gone, control⟩ | ⟨new, shared, weakened | weakened⟩ | weakened)
    · exact .removed List.mem_cons_self gone control
    · exact .changed List.mem_cons_self shared weakened
    · exact .inner List.mem_cons_self shared weakened
    · rcases weakened with ⟨inside, gone, control⟩ | ⟨inside, shared, weakened⟩ |
        ⟨inside, shared, weakened⟩
      · exact .removed (List.mem_cons_of_mem _ inside) gone control
      · exact .changed (List.mem_cons_of_mem _ inside) shared weakened
      · exact .inner (List.mem_cons_of_mem _ inside) shared weakened

end Members

/-- What the loop of `walkMembers` computes at one key. -/
def memberFindings (rt : Runtime) (key child : String) (old : Json) :
    Option Json → Option (List String)
  | none => some (removalReasons key child)
  | some new => do
      let here ← memberReasons rt key child old new
      let inner ← walkChanges rt old new child
      return here ++ inner

theorem walkMembers_cons (rt : Runtime) (key path : String) (old : Json) (olds news : Fields) :
    walkMembers rt ((key, old) :: olds) news path = (do
      let first ← memberFindings rt key (path ++ "." ++ key) old (news.lookup key)
      let others ← walkMembers rt olds news path
      return first ++ others) := by
  rw [walkMembers]
  cases news.lookup key with
  | none => rfl
  | some new => rfl

/-- The comparison and the relations agree on a pair of documents. -/
def Agrees (rt : Runtime) (old new : Json) (path : String)
    (found : Option (List String)) : Prop :=
  (found = none ↔ Raises old new) ∧
    ∀ reasons, found = some reasons → (reasons ≠ [] ↔ Weakened rt old new path)

theorem agrees_of_unlike {rt : Runtime} {old new : Json} {path : String}
    (objects : ∀ olds news, old = .obj olds → new ≠ .obj news)
    (lists : ∀ olds news, old = .arr olds → new ≠ .arr news) :
    Agrees rt old new path (walkChanges rt old new path) := by
  have empty : walkChanges rt old new path = some [] := by
    rw [walkChanges]
    · rintro olds news rfl same
      exact objects olds news rfl same
    · rintro olds news rfl same
      exact lists olds news rfl same
  rw [empty]
  refine ⟨⟨nofun, ?_⟩, ?_⟩
  · rintro (_ | _)
    · exact absurd rfl (objects _ _ rfl)
    · exact absurd rfl (objects _ _ rfl)
  · rintro _ ⟨⟩
    refine ⟨fun filled => absurd rfl filled, ?_⟩
    rintro (_ | _ | _ | _)
    · exact absurd rfl (objects _ _ rfl)
    · exact absurd rfl (objects _ _ rfl)
    · exact absurd rfl (objects _ _ rfl)
    · exact absurd rfl (lists _ _ rfl)

theorem agrees_lists {rt : Runtime} {olds news : List Json} {path : String} :
    Agrees rt (.arr olds) (.arr news) path (walkChanges rt (.arr olds) (.arr news) path) := by
  rw [walkChanges]
  refine ⟨⟨nofun, nofun⟩, ?_⟩
  rintro _ ⟨⟩
  rw [reasonIf_ne_nil_iff]
  constructor
  · rintro ⟨fewer, requirement⟩
    exact .items fewer requirement
  · intro weakened
    cases weakened with
    | items fewer requirement => exact ⟨fewer, requirement⟩

/-- What one turn of the loop adds. -/
theorem memberFindings_spec {rt : Runtime} {key path : String} {old : Json} {news : Fields}
    (inner : ∀ new, Agrees rt old new (path ++ "." ++ key)
      (walkChanges rt old new (path ++ "." ++ key))) :
    (memberFindings rt key (path ++ "." ++ key) old (news.lookup key) = none ↔
        ∃ new, news.lookup key = some new ∧ (Unranked key old new ∨ Raises old new)) ∧
      ∀ reasons, memberFindings rt key (path ++ "." ++ key) old (news.lookup key) = some reasons →
        (reasons ≠ [] ↔ (news.lookup key = none ∧ (safeTrueKeys.search key = true ∨
              key ∈ ["tests", "checks", "required_status_checks"])) ∨
            ∃ new, news.lookup key = some new ∧ (MemberWeakened rt key old new ∨
                Weakened rt old new (path ++ "." ++ key))) := by
  cases shared : news.lookup key with
  | none =>
      refine ⟨by simp [memberFindings], ?_⟩
      rintro _ ⟨⟩
      simp [removalReasons_ne_nil_iff]
  | some new =>
      rcases inner new with ⟨raises, weakened⟩
      simp only [memberFindings, Option.bind_eq_bind, Option.some.injEq, exists_eq_left']
      refine ⟨?_, ?_⟩
      · rw [← raises, ← @memberReasons_eq_none_iff rt key (path ++ "." ++ key)]
        cases memberReasons rt key (path ++ "." ++ key) old new with
        | none => simp
        | some here =>
            cases walkChanges rt old new (path ++ "." ++ key) with
            | none => simp
            | some deeper => simp
      · intro reasons found
        rcases Option.bind_eq_some_iff.mp found with ⟨here, foundHere, found⟩
        rcases Option.bind_eq_some_iff.mp found with ⟨deeper, foundDeeper, found⟩
        rcases Option.some.inj found with rfl
        rw [Ne, List.append_eq_nil_iff, not_and_or, ← Ne, ← Ne,
          memberReasons_ne_nil_iff foundHere, weakened deeper foundDeeper]
        simp

/-- One turn of the loop, then the other turns. -/
theorem agrees_cons {rt : Runtime} {key path : String} {old : Json} {olds news : Fields}
    (inner : ∀ new, Agrees rt old new (path ++ "." ++ key)
      (walkChanges rt old new (path ++ "." ++ key)))
    (others : Agrees rt (.obj olds) (.obj news) path (walkMembers rt olds news path)) :
    Agrees rt (.obj ((key, old) :: olds)) (.obj news) path
      (walkMembers rt ((key, old) :: olds) news path) := by
  rcases @memberFindings_spec rt key path old news inner with ⟨firstRaises, firstWeakened⟩
  rcases others with ⟨othersRaise, othersWeakened⟩
  rw [walkMembers_cons, Option.bind_eq_bind]
  refine ⟨?_, ?_⟩
  · rw [raises_cons_iff, ← firstRaises, ← othersRaise]
    cases memberFindings rt key (path ++ "." ++ key) old (news.lookup key) with
    | none => simp
    | some first =>
        cases walkMembers rt olds news path with
        | none => simp
        | some rest => simp
  · intro reasons found
    rcases Option.bind_eq_some_iff.mp found with ⟨first, foundFirst, found⟩
    rcases Option.bind_eq_some_iff.mp found with ⟨rest, foundRest, found⟩
    rcases Option.some.inj found with rfl
    rw [Ne, List.append_eq_nil_iff, not_and_or, ← Ne, ← Ne, firstWeakened first foundFirst,
      othersWeakened rest foundRest, weakened_cons_iff, or_assoc]

mutual

theorem agrees_walkChanges (rt : Runtime) : (old new : Json) → (path : String) →
      Agrees rt old new path (walkChanges rt old new path)
  | .obj olds, new, path => by
      cases new with
      | obj news =>
          rw [walkChanges]
          exact agrees_walkMembers rt olds news path
      | _ => exact agrees_of_unlike (by simp) (by simp)
  | .arr olds, new, path => by
      cases new with
      | arr news => exact agrees_lists
      | _ => exact agrees_of_unlike (by simp) (by simp)
  | .null, _, _ => agrees_of_unlike (by simp) (by simp)
  | .bool _, _, _ => agrees_of_unlike (by simp) (by simp)
  | .num _, _, _ => agrees_of_unlike (by simp) (by simp)
  | .str _, _, _ => agrees_of_unlike (by simp) (by simp)

theorem agrees_walkMembers (rt : Runtime) : (olds news : Fields) → (path : String) →
      Agrees rt (.obj olds) (.obj news) path (walkMembers rt olds news path)
  | [], news, path => by
      refine ⟨by simp [walkMembers, not_raises_nil], ?_⟩
      rintro _ ⟨⟩
      simp [not_weakened_nil]
  | (key, old) :: olds, news, path =>
      agrees_cons (fun new => agrees_walkChanges rt old new (path ++ "." ++ key))
        (agrees_walkMembers rt olds news path)

end

/-- The texts lose a protective phrase, gain a permission to write or fail open. -/
def PhrasesWeakened (tools : TextTools) (old new : String) : Prop :=
  (∃ marker ∈ tools.markers old, marker ∉ tools.markers new) ∨
    (writePermission.search new = true ∧ writePermission.search old = false) ∨
    openFailMode.search new = true

theorem phraseReasons_ne_nil_iff {tools : TextTools} {normalized old new : String} :
    phraseReasons tools normalized old new ≠ [] ↔ PhrasesWeakened tools old new := by
  simp only [phraseReasons, PhrasesWeakened, Ne, List.append_eq_nil_iff, not_and_or, or_assoc]
  rw [← Ne, ← Ne, ← Ne, reasonIf_ne_nil_iff, reasonIf_ne_nil_iff, reasonIf_ne_nil_iff]

/-- The check has something to say about a pair of documents. -/
def Noticed (rt : Runtime) (tools : TextTools) (status old new : String)
    (before after : Json) : Prop :=
  Text.startsWith status.toUpper "D" = true ∨
    (¬Raises before after ∧ Weakened rt before after "$") ∨ PhrasesWeakened tools old new

section Check

variable {rt : Runtime} {tools : TextTools} {path normalized status old new : String}
variable {before after : Json}

theorem exists_reason_iff (admitted : normalizeRepoPath path = .ok normalized)
    (readOld : tools.loads old = .value before) (readNew : tools.loads new = .value after) :
    (∃ reasons, detectGateWeakening rt tools path (some old) (some new) status =
        .ok reasons ∧ reasons ≠ []) ↔ Noticed rt tools status old new before after := by
  rcases agrees_walkChanges rt before after "$" with ⟨raises, weakened⟩
  rw [detectGateWeakening, admitted, ok_bind, Noticed]
  split_ifs with deleted
  · exact ⟨fun _ => Or.inl deleted, fun _ => ⟨_, rfl, List.cons_ne_nil _ _⟩⟩
  have documents : documentReasons rt tools old new =
      .ok ((walkChanges rt before after "$").getD []) := by
    simp only [documentReasons, readOld, readNew]
  simp only [documents, deleted, false_or, ok_bind, pure, Except.pure, Except.ok.injEq,
    exists_eq_left', Ne, eraseDups_eq_nil_iff, Bool.false_eq_true]
  rw [List.append_eq_nil_iff, not_and_or, ← Ne, ← Ne, phraseReasons_ne_nil_iff, ← raises]
  cases found : walkChanges rt before after "$" with
  | none => simp
  | some reasons => simp [weakened reasons found]

end Check

/-! ## A control replaced by `null` -/

/-- The trust boundary with its human gate. -/
def gatedText : String :=
  "\x7b\"weakening_requires_human\":true\x7d"

/-- The same file with `null` in place of the gate. -/
def ungatedText : String :=
  "\x7b\"weakening_requires_human\":null\x7d"

def gated : Json :=
  .obj [("weakening_requires_human", .bool true)]

def ungated : Json :=
  .obj [("weakening_requires_human", .null)]

/-- The loader on the two texts. -/
def gateTools : TextTools where
  loads text :=
    if text = gatedText then .value gated
    else if text = ungatedText then .value ungated
    else .malformed
  lower := String.toLower

def gateRuntime : Runtime :=
  ⟨fun _ => "", fun _ => none, fun _ => none, fun _ => ""⟩

theorem switchedOff_gated : SwitchedOff gated ungated :=
  ⟨[], "weakening_requires_human", by decide +kernel, by decide +kernel, by decide +kernel⟩

theorem detect_ungated : detectGateWeakening gateRuntime gateTools
    ".adwf/policies/trust-boundary.json" (some gatedText) (some ungatedText) "M" = .ok [] := by
  decide +kernel

end Adwf.Trust
