import Mathlib.Data.Prod.Lex
import Adwf.Graph.Search
import Adwf.Roadmap.Graph
import Adwf.Value.Fallible
import Adwf.Value.Ranked

/-!
# Scores along the roadmap

How much unverified work follows an item, computed with a memo, and the path of
the greatest score. On a graph that passes the check the score is the length of
the longest chain.
-/

namespace Adwf.Roadmap

open Adwf.Graph (Height Lengths)
open Ranked (firstBy)

section Source

variable (rt : Runtime)

abbrev Children := String → List String

abbrev Memo := String → Option Nat

/-- `children[str(dependency)].append(node)`. -/
def addChild (ids : List String) (children : Children) (edge : String × String) :
    Except String Children :=
  if edge.1 ∈ ids then
    .ok fun node => if node = edge.1 then children node ++ [edge.2] else children node
  else .error "KeyError"

/-- Each dependency with the item that lists it. -/
def edgesOf (tasks : List RoadmapItem) : List (String × String) :=
  tasks.flatMap fun item =>
    (dependencyIds rt item).map fun dependency => (dependency, itemId rt item)

def childTable (tasks : List RoadmapItem) : Except String Children :=
  (edgesOf rt tasks).foldlM (addChild (idsOf rt tasks)) fun _ => []

/-- The children that are left to do. -/
def openChildren (children : Children) (verified : List String) (node : String) : List String :=
  (children node).filter (· ∉ verified)

/-- `score`; `fuel` bounds the depth of the recursion. -/
def score (children : Children) (verified : List String) : Nat → String → Memo → Nat × Memo
  | 0, _, memo => (0, memo)
  | fuel + 1, node, memo =>
      match memo node with
      | some value => (value, memo)
      | none =>
          let downstream := (openChildren children verified node).foldl
            (fun found child =>
              let scored := score children verified fuel child found.2
              (found.1 ++ [scored.1], scored.2)) ([], memo)
          let value := if node ∈ verified then 0 else 1 + downstream.1.max?.getD 0
          (value, fun other => if other = node then some value else downstream.2 other)

/-- The scores of a list of nodes, one after the other. -/
def scoreAll (children : Children) (verified : List String) (fuel : Nat) (found : List Nat × Memo)
    (nodes : List String) : List Nat × Memo :=
  nodes.foldl (fun found child =>
    let scored := score children verified fuel child found.2
    (found.1 ++ [scored.1], scored.2)) found

/-- `critical_path_scores`. -/
def criticalPathScores (tasks : List RoadmapItem) (verified : List String) :
    Except String (List (String × Nat)) := do
  if (validateRoadmapGraph rt tasks).status ≠ .pass then
    return (idsOf rt tasks).dedup.map fun node => (node, 0)
  let children ← childTable rt tasks
  let nodes := sortedIds (idsOf rt tasks)
  return nodes.zip (scoreAll children verified (nodes.length + 1) ([], fun _ => none) nodes).1

/-- `scores.get(value, 0)`. -/
def scoreIn (scores : List (String × Nat)) (node : String) : Nat :=
  (scores.lookup node).getD 0

def rankKey (scores : List (String × Nat)) (node : String) : Int ×ₗ String :=
  toLex (-(scoreIn scores node : Int), node)

/-- The loop of `_critical_path`; no node is entered twice. -/
def follow (children : Children) (verified : List String) (scores : List (String × Nat)) :
    Nat → String → List String → List String
  | 0, _, path => path
  | fuel + 1, node, path =>
      if node = "" ∨ node ∈ path then path
      else
        follow children verified scores fuel
          ((firstBy (rankKey scores) (openChildren children verified node)).getD "")
          (path ++ [node])

/-- `_critical_path`. -/
def criticalPath (tasks : List RoadmapItem) (verified : List String) :
    Except String (List String) := do
  let scores ← criticalPathScores rt tasks verified
  let children ← childTable rt tasks
  let ids := (idsOf rt tasks).dedup
  match firstBy (rankKey scores) (ids.filter (· ∉ verified)) with
  | none => return []
  | some node => return follow children verified scores (ids.length + 1) node []

end Source

section Score

variable (children : Children) (verified : List String)

/-- The step of a chain: the next item is left to do and depends on the one before. -/
def OpenChild (node child : String) : Prop :=
  child ∈ openChildren children verified node

/-- The score that a node should have. -/
structure Scored (node : String) (value : Nat) : Prop where
  done : node ∈ verified → value = 0
  pending : node ∉ verified → Height (OpenChild children verified) node value

/-- Every score in the memo is the right one. -/
def MemoScored (memo : Memo) : Prop :=
  ∀ node value, memo node = some value → Scored children verified node value

/-- Chains from the node take fewer than `fuel` steps. -/
def Shallow (fuel : Nat) (node : String) : Prop :=
  ∀ rest, (node :: rest).IsChain (OpenChild children verified) → rest.length < fuel

variable {children verified}
variable {fuel : Nat} {node child : String} {memo : Memo}

theorem score_succ : score children verified (fuel + 1) node memo = match memo node with
      | some value => (value, memo)
      | none =>
          let downstream :=
            scoreAll children verified fuel ([], memo) (openChildren children verified node)
          let value := if node ∈ verified then 0 else 1 + downstream.1.max?.getD 0
          (value, fun other => if other = node then some value else downstream.2 other) :=
  rfl

theorem Shallow.step (shallow : Shallow children verified (fuel + 1) node)
    (edge : OpenChild children verified node child) : Shallow children verified fuel child := by
  intro rest chain
  have longer := shallow (child :: rest) (List.isChain_cons_cons.mpr ⟨edge, chain⟩)
  exact Nat.lt_of_succ_lt_succ longer

/-- What the score of a node establishes. -/
def Scores (children : Children) (verified : List String) (fuel : Nat) : Prop :=
  ∀ node memo, MemoScored children verified memo → Shallow children verified fuel node →
    Scored children verified node (score children verified fuel node memo).1 ∧
      MemoScored children verified (score children verified fuel node memo).2

theorem scoreAll_spec (scores : Scores children verified fuel) (nodes : List String)
    (shallow : ∀ node ∈ nodes, Shallow children verified fuel node)
    {done : List String} {values : List Nat}
    (scored : List.Forall₂ (Scored children verified) done values)
    (memoScored : MemoScored children verified memo) :
    List.Forall₂ (Scored children verified) (done ++ nodes)
        (scoreAll children verified fuel (values, memo) nodes).1 ∧
      MemoScored children verified (scoreAll children verified fuel (values, memo) nodes).2 := by
  induction nodes generalizing done values memo with
  | nil =>
      rw [List.append_nil]
      exact ⟨scored, memoScored⟩
  | cons node rest ih =>
      rcases scores node memo memoScored (shallow node List.mem_cons_self) with ⟨first, kept⟩
      have more : List.Forall₂ (Scored children verified) (done ++ [node])
          (values ++ [(score children verified fuel node memo).1]) :=
        List.rel_append scored (.cons first .nil)
      have rested := ih
        (fun other inside => shallow other (List.mem_cons_of_mem _ inside)) more kept
      rw [List.append_assoc] at rested
      exact rested

theorem height_of_openChildren {values : List Nat}
    (scored : List.Forall₂ (Scored children verified) (openChildren children verified node)
      values) : Height (OpenChild children verified) node (1 + values.max?.getD 0) := by
  refine Graph.height_of_children (fun child => Iff.rfl) ?_
  have isOpen : ∀ child ∈ openChildren children verified node, child ∉ verified := by
    intro child inside
    exact of_decide_eq_true (List.mem_filter.mp inside).2
  generalize openChildren children verified node = nodes at scored isOpen
  induction scored with
  | nil => exact .nil
  | cons first _ ih =>
      exact .cons (first.pending (isOpen _ List.mem_cons_self))
        (ih fun child inside => isOpen child (List.mem_cons_of_mem _ inside))

theorem score_spec (fuel : Nat) : Scores children verified fuel := by
  induction fuel with
  | zero =>
      intro node memo _ shallow
      exact absurd (shallow [] (List.isChain_singleton node)) (Nat.not_lt_zero _)
  | succ fuel ih =>
      intro node memo memoScored shallow
      rw [score_succ]
      cases found : memo node with
      | some value => exact ⟨memoScored node value found, memoScored⟩
      | none =>
          rcases scoreAll_spec ih (openChildren children verified node)
            (fun child edge => shallow.step edge) .nil memoScored with ⟨scored, kept⟩
          have height := height_of_openChildren scored
          generalize scoreAll children verified fuel ([], memo)
            (openChildren children verified node) = downstream at kept height
          have right : Scored children verified node
              (if node ∈ verified then 0 else 1 + downstream.1.max?.getD 0) := by
            constructor
            · intro isVerified
              rw [if_pos isVerified]
            · intro isOpen
              rw [if_neg isOpen]
              exact height
          refine ⟨right, ?_⟩
          intro other value entry
          by_cases same : other = node
          · subst same
            simp only [if_true, Option.some.injEq] at entry
            exact entry ▸ right
          · simp only [if_neg same] at entry
            exact kept other value entry

end Score

end Adwf.Roadmap

/-!
## The longest chain of a roadmap

On a graph that passes the check both computations end, the scores are the
lengths of the longest chains, and the path is one of the longest of all.
-/

namespace Adwf.Roadmap

open Adwf.Graph (Height Lengths)
open Ranked (firstBy)

variable (rt : Runtime)

/-- Items that are left to do, each dependent on the one before. -/
structure OpenChain (tasks : List RoadmapItem) (verified : List String) (chain : List String) :
    Prop where
  items : ∀ node ∈ chain, node ∈ idsOf rt tasks ∧ node ∉ verified
  steps : chain.IsChain fun node next => DependsOn rt tasks next node

/-- The lengths of the open chains that start at an item. -/
def chainLengths (tasks : List RoadmapItem) (verified : List String) (node : String) : Set Nat :=
  fun length => ∃ chain, chain.head? = some node ∧ OpenChain rt tasks verified chain ∧
    length = chain.length

variable {rt} {tasks : List RoadmapItem} {verified : List String}

/-! ## The table of children -/

/-- The children of a node are the items that list it. -/
def IsTable (rt : Runtime) (tasks : List RoadmapItem) (children : Children) : Prop :=
  ∀ node child, child ∈ children node ↔ DependsOn rt tasks child node

theorem foldlM_addChild {ids : List String} (edges : List (String × String))
    (known : ∀ edge ∈ edges, edge.1 ∈ ids) (children : Children) :
    ∃ table, edges.foldlM (addChild ids) children = .ok table ∧
      ∀ node child, child ∈ table node ↔ child ∈ children node ∨ (node, child) ∈ edges := by
  induction edges generalizing children with
  | nil => exact ⟨children, rfl, by simp⟩
  | cons edge rest ih =>
      rcases ih (fun other inside => known other (List.mem_cons_of_mem _ inside))
        (fun node => if node = edge.1 then children node ++ [edge.2] else children node) with
        ⟨table, folded, mem⟩
      refine ⟨table, ?_, ?_⟩
      · rw [List.foldlM_cons, addChild, if_pos (known edge List.mem_cons_self)]
        exact folded
      · intro node child
        rw [mem, List.mem_cons]
        by_cases same : node = edge.1
        · have isEdge : (node, child) = edge ↔ child = edge.2 := by
            rw [Prod.ext_iff]
            exact and_iff_right same
          rw [if_pos same, List.mem_append, List.mem_singleton, isEdge, or_assoc]
        · have isEdge : (node, child) ≠ edge := fun equal => same (congrArg Prod.fst equal)
          rw [if_neg same]
          simp [isEdge]

theorem mem_edgesOf {node child : String} :
    (node, child) ∈ edgesOf rt tasks ↔ DependsOn rt tasks child node := by
  simp only [edgesOf, List.mem_flatMap, List.mem_map, Prod.mk.injEq]
  constructor
  · rintro ⟨item, mem, dependency, listed, rfl, rfl⟩
    exact ⟨item, mem, rfl, listed⟩
  · rintro ⟨item, mem, rfl, listed⟩
    exact ⟨item, mem, node, listed, rfl, rfl⟩

theorem childTable_spec (dag : IsDag rt tasks) :
    ∃ children, childTable rt tasks = .ok children ∧ IsTable rt tasks children := by
  have known : ∀ edge ∈ edgesOf rt tasks, edge.1 ∈ idsOf rt tasks := by
    rintro ⟨node, child⟩ edge
    exact dag.known child node (mem_edgesOf.mp edge)
  rcases foldlM_addChild (edgesOf rt tasks) known (fun _ => []) with ⟨table, folded, mem⟩
  refine ⟨table, folded, ?_⟩
  intro node child
  rw [mem, mem_edgesOf]
  simp

/-! ## Chains of children -/

section Table

variable {children : Children}

theorem openChild_iff (table : IsTable rt tasks children) {node child : String} :
    OpenChild children verified node child ↔ DependsOn rt tasks child node ∧ child ∉ verified := by
  unfold OpenChild openChildren
  rw [List.mem_filter, table, decide_eq_true_iff]

theorem mem_ids_of_dependsOn {node dependency : String}
    (edge : DependsOn rt tasks node dependency) : node ∈ idsOf rt tasks := by
  rcases edge with ⟨item, mem, rfl, _⟩
  exact List.mem_map_of_mem mem

theorem isChain_iff (table : IsTable rt tasks children) {node : String} {rest : List String}
    (item : node ∈ idsOf rt tasks) (isOpen : node ∉ verified) :
    (node :: rest).IsChain (OpenChild children verified) ↔
      OpenChain rt tasks verified (node :: rest) := by
  induction rest generalizing node with
  | nil =>
      refine iff_of_true (List.isChain_singleton node) ⟨?_, List.isChain_singleton node⟩
      intro other inside
      rw [List.mem_singleton.mp inside]
      exact ⟨item, isOpen⟩
  | cons child rest ih =>
      rw [List.isChain_cons_cons, openChild_iff table]
      constructor
      · rintro ⟨⟨edge, childOpen⟩, chain⟩
        have later := (ih (mem_ids_of_dependsOn edge) childOpen).mp chain
        refine ⟨?_, List.isChain_cons_cons.mpr ⟨edge, later.steps⟩⟩
        intro other inside
        rcases List.mem_cons.mp inside with rfl | inRest
        · exact ⟨item, isOpen⟩
        · exact later.items other inRest
      · rintro ⟨items, steps⟩
        rcases List.isChain_cons_cons.mp steps with ⟨edge, later⟩
        have childItem := items child (List.mem_cons_of_mem _ List.mem_cons_self)
        refine ⟨⟨edge, childItem.2⟩, (ih childItem.1 childItem.2).mpr ⟨?_, later⟩⟩
        exact fun other inside => items other (List.mem_cons_of_mem _ inside)

theorem lengths_eq (table : IsTable rt tasks children) {node : String}
    (item : node ∈ idsOf rt tasks) (isOpen : node ∉ verified) :
    Lengths (OpenChild children verified) node = chainLengths rt tasks verified node := by
  ext length
  constructor
  · rintro ⟨rest, chain, rfl⟩
    exact ⟨node :: rest, rfl, (isChain_iff table item isOpen).mp chain, rfl⟩
  · rintro ⟨chain, starts, isChain, rfl⟩
    rcases List.head?_eq_some_iff.mp starts with ⟨rest, rfl⟩
    exact ⟨rest, (isChain_iff table item isOpen).mpr isChain, rfl⟩

/-- No chain of children comes back. -/
theorem acyclic_openChild (dag : IsDag rt tasks) (table : IsTable rt tasks children)
    (node : String) : ¬Relation.TransGen (OpenChild children verified) node node := by
  intro cycle
  have listed : OpenChild children verified ≤ Function.swap (DependsOn rt tasks) :=
    fun _ _ edge => ((openChild_iff table).mp edge).1
  have back := Relation.TransGen.mono listed node node cycle
  exact dag.acyclic node (Relation.transGen_swap.mp back)

theorem mem_ids_of_isChain (table : IsTable rt tasks children) {node : String}
    {rest : List String} (chain : (node :: rest).IsChain (OpenChild children verified)) :
    ∀ other ∈ rest, other ∈ idsOf rt tasks := by
  have isItem : ∀ ⦃node child⦄, OpenChild children verified node child →
      child ∈ idsOf rt tasks := fun _ _ edge =>
    mem_ids_of_dependsOn ((openChild_iff table).mp edge).1
  cases rest with
  | nil => exact fun _ inside => absurd inside List.not_mem_nil
  | cons child rest =>
      rcases List.isChain_cons_cons.mp chain with ⟨edge, later⟩
      intro other inside
      rcases List.mem_cons.mp inside with rfl | inRest
      · exact isItem edge
      · exact later.cons_induction (· ∈ idsOf rt tasks) rest (fun _ _ edge _ => isItem edge)
          (isItem edge) other inRest

theorem shallow_of_dag (dag : IsDag rt tasks) (table : IsTable rt tasks children) (node : String) :
    Shallow children verified ((sortedIds (idsOf rt tasks)).length + 1) node := by
  intro rest chain
  refine Nat.lt_succ_of_le
    (Graph.length_le_of_isChain (acyclic_openChild dag table) chain.tail fun other inside => ?_)
  exact mem_sortedIds.mpr (mem_ids_of_isChain table chain other inside)

end Table

theorem memoScored_empty {children : Children} : MemoScored children verified fun _ => none := by
  rintro node value ⟨⟩

theorem criticalPathScores_spec (dag : IsDag rt tasks) (verified : List String) :
    ∃ children scores, childTable rt tasks = .ok children ∧ IsTable rt tasks children ∧
      criticalPathScores rt tasks verified = .ok scores ∧
      scores.map Prod.fst = sortedIds (idsOf rt tasks) ∧
      ∀ entry ∈ scores, Scored children verified entry.1 entry.2 := by
  rcases childTable_spec dag with ⟨children, built, table⟩
  rcases @scoreAll_spec children verified _ _ (score_spec _) (sortedIds (idsOf rt tasks))
    (fun node _ => shallow_of_dag dag table node) [] [] .nil memoScored_empty with ⟨scored, _⟩
  refine ⟨children, _, built, table, ?_, List.map_fst_zip (Nat.le_of_eq scored.length_eq), ?_⟩
  · simp only [criticalPathScores, validateRoadmapGraph_pass_iff.mpr dag, built]
    rfl
  · rintro ⟨node, value⟩ inside
    exact List.forall₂_zip scored inside

section Path

variable {children : Children} {scores : List (String × Nat)} {node : String}

theorem scored_scoreIn (scored : ∀ entry ∈ scores, Scored children verified entry.1 entry.2)
    (entered : node ∈ scores.map Prod.fst) :
    Scored children verified node (scoreIn scores node) := by
  induction scores with
  | nil => cases entered
  | cons entry rest ih =>
      rcases entry with ⟨name, value⟩
      unfold scoreIn
      by_cases same : node = name
      · subst same
        rw [List.lookup_cons_self]
        exact scored (node, value) List.mem_cons_self
      · rw [List.lookup_cons, beq_false_of_ne same]
        refine ih (fun other inside => scored other (List.mem_cons_of_mem _ inside))
          ?_
        exact (List.mem_cons.mp entered).resolve_left same

theorem le_of_first {nodes : List String} {first other : String}
    (chosen : firstBy (rankKey scores) nodes = some first) (mem : other ∈ nodes) :
    scoreIn scores other ≤ scoreIn scores first := by
  rcases Prod.Lex.le_iff.mp (Ranked.le_of_firstBy chosen mem) with before | ⟨same, _⟩
  · exact Nat.le_of_lt (Int.ofNat_lt.mp (Int.neg_lt_neg_iff.mp before))
  · exact Nat.le_of_eq (Int.ofNat.inj (Int.neg_inj.mp same)).symm

theorem follow_spec (named : "" ∉ idsOf rt tasks) (table : IsTable rt tasks children)
    (acyclic : ∀ node, ¬Relation.TransGen (OpenChild children verified) node node)
    (right : ∀ node ∈ idsOf rt tasks, node ∉ verified →
      Height (OpenChild children verified) node (scoreIn scores node))
    (fuel : Nat) {path : List String} (enough : scoreIn scores node ≤ fuel)
    (item : node ∈ idsOf rt tasks) (isOpen : node ∉ verified)
    (chain : (path ++ [node]).IsChain (OpenChild children verified)) :
    ∃ rest, follow children verified scores fuel node path = path ++ node :: rest ∧
      (node :: rest).IsChain (OpenChild children verified) ∧
      rest.length + 1 = scoreIn scores node := by
  have height := right node item isOpen
  induction fuel generalizing node path with
  | zero =>
      have positive := height.2 Graph.one_mem_lengths
      exact absurd (Nat.le_trans positive enough) (Nat.not_succ_le_zero 0)
  | succ fuel ih =>
      have fresh : ¬(node = "" ∨ node ∈ path) := by
        rintro (rfl | inside)
        · exact named item
        · exact List.disjoint_of_nodup_append (Graph.nodup_of_isChain acyclic chain) inside
            (List.mem_singleton_self node)
      rw [follow, if_neg fresh]
      have isChild : ∀ child ∈ openChildren children verified node,
          child ∈ idsOf rt tasks ∧ child ∉ verified := by
        intro child edge
        have listed := (openChild_iff table).mp edge
        exact ⟨mem_ids_of_dependsOn listed.1, listed.2⟩
      cases chosen : firstBy (rankKey scores) (openChildren children verified node) with
      | none =>
          have alone : ∀ child, ¬OpenChild children verified node child := by
            intro child edge
            unfold OpenChild at edge
            rw [Ranked.firstBy_eq_none_iff.mp chosen] at edge
            cases edge
          refine ⟨[], ?_, List.isChain_singleton node,
            Graph.height_eq (Graph.height_of_none alone) height⟩
          cases fuel with
          | zero => rfl
          | succ fuel => simp [follow]
      | some child =>
          have edge := Ranked.mem_of_firstBy chosen
          have best := Graph.height_of_best (fun _ => Iff.rfl)
            (fun other inside => right other (isChild other inside).1 (isChild other inside).2) edge
            fun other inside => le_of_first chosen inside
          have same := Graph.height_eq best height
          have longer : (path ++ [node] ++ [child]).IsChain (OpenChild children verified) := by
            refine List.isChain_append.mpr ⟨chain, List.isChain_singleton child, ?_⟩
            intro last isLast first isFirst
            rw [List.getLast?_concat] at isLast
            cases isLast
            cases isFirst
            exact edge
          rcases ih (Nat.le_of_succ_le_succ (Nat.le_trans (Nat.le_of_eq same) enough)) (isChild child edge).1
            (isChild child edge).2 longer (right child (isChild child edge).1 (isChild child edge).2)
            with ⟨rest, followed, isChain, length⟩
          refine ⟨child :: rest, ?_, List.isChain_cons_cons.mpr ⟨edge, isChain⟩, ?_⟩
          · rw [Option.getD_some, followed, List.append_assoc]
            rfl
          · rw [List.length_cons, length, same]

end Path

theorem criticalPath_of_first {children : Children} {scores : List (String × Nat)}
    {first : Option String} (built : childTable rt tasks = .ok children)
    (computed : criticalPathScores rt tasks verified = .ok scores)
    (chosen : firstBy (rankKey scores) ((idsOf rt tasks).dedup.filter (· ∉ verified)) = first) :
    criticalPath rt tasks verified = .ok (first.elim [] fun node =>
      follow children verified scores ((idsOf rt tasks).dedup.length + 1) node []) := by
  simp only [criticalPath, computed, built, Fallible.ok_bind, chosen]
  cases first <;> rfl

theorem criticalPath_spec (dag : IsDag rt tasks) (verified : List String) :
    ∃ path, criticalPath rt tasks verified = .ok path ∧ OpenChain rt tasks verified path ∧
      ∀ chain, OpenChain rt tasks verified chain → chain.length ≤ path.length := by
  rcases criticalPathScores_spec dag verified with
    ⟨children, scores, built, table, computed, entries, scored⟩
  have right : ∀ node ∈ idsOf rt tasks, node ∉ verified →
      Height (OpenChild children verified) node (scoreIn scores node) := by
    intro node item isOpen
    refine (scored_scoreIn scored ?_).pending isOpen
    rw [entries, mem_sortedIds]
    exact item
  have mem_candidates : ∀ node, node ∈ (idsOf rt tasks).dedup.filter (· ∉ verified) ↔
      node ∈ idsOf rt tasks ∧ node ∉ verified := by
    intro node
    rw [List.mem_filter, List.mem_dedup, decide_eq_true_iff]
  cases chosen : firstBy (rankKey scores)
      ((idsOf rt tasks).dedup.filter (· ∉ verified)) with
  | none =>
      have done := Ranked.firstBy_eq_none_iff.mp chosen
      refine ⟨[], criticalPath_of_first built computed chosen,
        ⟨fun _ inside => absurd inside List.not_mem_nil, List.isChain_nil⟩, ?_⟩
      intro chain isChain
      cases chain with
      | nil => exact Nat.le_refl _
      | cons node rest =>
          have candidate := (mem_candidates node).mpr (isChain.items node List.mem_cons_self)
          rw [done] at candidate
          cases candidate
  | some node =>
      rcases (mem_candidates node).mp (Ranked.mem_of_firstBy chosen) with ⟨item, isOpen⟩
      have few : scoreIn scores node ≤ (idsOf rt tasks).dedup.length + 1 := by
        rcases (right node item isOpen).1 with ⟨rest, chain, length⟩
        rw [length]
        refine Nat.succ_le_succ (Graph.length_le_of_isChain (acyclic_openChild dag table)
          chain.tail fun other inside => ?_)
        exact List.mem_dedup.mpr (mem_ids_of_isChain table chain other inside)
      rcases @follow_spec _ _ _ _ _ node dag.named table (acyclic_openChild dag table) right _ []
        few item isOpen (List.isChain_singleton node) with ⟨rest, followed, chain, length⟩
      refine ⟨node :: rest, ?_, (isChain_iff table item isOpen).mp chain, ?_⟩
      · rw [criticalPath_of_first built computed chosen]
        exact congrArg Except.ok followed
      · intro other isChain
        cases other with
        | nil => exact Nat.zero_le _
        | cons first later =>
            have candidate := isChain.items first List.mem_cons_self
            have longest := (right first candidate.1 candidate.2).2
              ⟨later, (isChain_iff table candidate.1 candidate.2).mpr isChain, rfl⟩
            have best := le_of_first chosen ((mem_candidates first).mpr candidate)
            rw [List.length_cons, List.length_cons, length]
            exact Nat.le_trans longest best

/-- The check accepts the acyclic roadmaps, and on these the scores and the path are the
longest chains. -/
theorem roadmap_longestChains (rt : Runtime) (tasks : List RoadmapItem) :
    ((validateRoadmapGraph rt tasks).status = .pass ↔ IsDag rt tasks) ∧
      ((validateRoadmapGraph rt tasks).status = .pass → ∀ verified,
        (∃ scores, criticalPathScores rt tasks verified = .ok scores ∧
          (∀ node, node ∈ scores.map Prod.fst ↔ node ∈ idsOf rt tasks) ∧
          ∀ entry ∈ scores, if entry.1 ∈ verified then entry.2 = 0
            else IsGreatest (chainLengths rt tasks verified entry.1) entry.2) ∧
        ∃ path, criticalPath rt tasks verified = .ok path ∧ OpenChain rt tasks verified path ∧
          ∀ chain, OpenChain rt tasks verified chain → chain.length ≤ path.length) := by
  refine ⟨validateRoadmapGraph_pass_iff, ?_⟩
  intro pass verified
  have dag := validateRoadmapGraph_pass_iff.mp pass
  refine ⟨?_, criticalPath_spec dag verified⟩
  rcases criticalPathScores_spec dag verified with
    ⟨children, scores, _, table, computed, entries, scored⟩
  have isItem : ∀ node, node ∈ scores.map Prod.fst ↔ node ∈ idsOf rt tasks := by
    intro node
    rw [entries, mem_sortedIds]
  refine ⟨scores, computed, isItem, ?_⟩
  intro entry inside
  have right := scored entry inside
  split
  next isVerified => exact right.done isVerified
  next isOpen =>
    rw [← lengths_eq table ((isItem entry.1).mp (List.mem_map_of_mem inside)) isOpen]
    exact right.pending isOpen

end Adwf.Roadmap
