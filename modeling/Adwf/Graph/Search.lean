import Mathlib.Data.List.Chain
import Mathlib.Data.List.Nodup
import Mathlib.Data.List.Perm.Subperm
import Mathlib.Logic.Relation
import Mathlib.Order.Bounds.Basic

/-!
# Depth-first search for cycles

The search with three colours over a graph given by the successors of a node.
A successor on the stack closes a cycle; the search finds one exactly when
there is one.
-/

namespace Adwf.Graph

inductive Color where
  | white
  | gray
  | black
  deriving DecidableEq, Repr

/-- The colours, the stack with the current node at its end, and the cycles found so far. -/
structure Search (Node : Type) where
  color : Node → Color
  stack : List Node
  cycles : List (List Node)

variable {Node : Type}

/-- Nothing is visited. -/
def Search.start : Search Node :=
  ⟨fun _ => .white, [], []⟩

section Invariant

variable (next : Node → List Node) (nodes : List Node)

/-- The successors that are nodes. -/
def Edge (node successor : Node) : Prop :=
  successor ∈ next node ∧ successor ∈ nodes

/-- The stack is a path, what is black is behind no cycle, and a noted cycle is one. -/
structure Sound (search : Search Node) : Prop where
  gray_iff : ∀ node, search.color node = .gray ↔ node ∈ search.stack
  distinct : search.stack.Nodup
  path : search.stack.IsChain (Edge next nodes)
  acc : search.cycles = [] → ∀ node, search.color node = .black →
    Acc (fun successor node => Edge next nodes node successor) node
  real : search.cycles ≠ [] → ∃ node, Relation.TransGen (Edge next nodes) node node

/-- What a search keeps while it goes on. -/
structure Later (before after : Search Node) : Prop where
  stack : after.stack = before.stack
  black : ∀ node, before.color node = .black → after.color node = .black
  white : ∀ node, after.color node = .white → before.color node = .white
  cycles : after.cycles = [] → before.cycles = []

/-- How many nodes are still white. -/
def whites (search : Search Node) : Nat :=
  (nodes.filter fun node => search.color node = .white).length

/-- The node may be put on the stack. -/
def Follows (search : Search Node) (node : Node) : Prop :=
  ∀ top ∈ search.stack.getLast?, Edge next nodes top node

variable {next nodes}
variable {before between after : Search Node} {node successor : Node}

theorem Later.refl (search : Search Node) : Later search search :=
  ⟨rfl, fun _ black => black, fun _ white => white, fun none => none⟩

theorem Later.trans (first : Later before between) (second : Later between after) :
    Later before after where
  stack := second.stack.trans first.stack
  black := fun node black => second.black node (first.black node black)
  white := fun node white => first.white node (second.white node white)
  cycles := fun none => first.cycles (second.cycles none)

theorem whites_sublist (white : ∀ node, after.color node = .white → before.color node = .white) :
    (nodes.filter fun node => after.color node = .white).Sublist
      (nodes.filter fun node => before.color node = .white) := by
  refine List.monotone_filter_right nodes ?_
  intro node isWhite
  exact decide_eq_true (white node (of_decide_eq_true isWhite))

theorem Later.whites_le (later : Later before after) : whites nodes after ≤ whites nodes before :=
  (whites_sublist later.white).length_le

theorem sound_start : Sound next nodes Search.start where
  gray_iff := by simp [Search.start]
  distinct := List.nodup_nil
  path := List.isChain_nil
  acc := by
    rintro _ node ⟨⟩
  real := fun some => absurd rfl some

theorem reaches_top {stack : List Node} (path : (stack ++ [node]).IsChain (Edge next nodes))
    (inside : successor ∈ stack ++ [node]) :
    Relation.ReflTransGen (Edge next nodes) successor node := by
  rcases List.append_of_mem inside with ⟨above, below, parts⟩
  rw [parts] at path
  refine List.relationReflTransGen_of_exists_isChain_cons below path.right_of_append ?_
  have last : (stack ++ [node]).getLast? = (above ++ successor :: below).getLast? :=
    congrArg List.getLast? parts
  rw [List.getLast?_concat, List.getLast?_append_of_ne_nil _ (List.cons_ne_nil _ _),
    List.getLast?_eq_some_getLast (List.cons_ne_nil _ _)] at last
  exact (Option.some.inj last).symm

theorem not_cycle_of_acc (acc : Acc (fun successor node => Edge next nodes node successor) node) :
    ¬Relation.TransGen (Edge next nodes) node node := by
  induction acc with
  | intro node _ ih =>
      intro cycle
      rcases Relation.TransGen.head'_iff.mp cycle with ⟨successor, edge, back⟩
      exact ih successor edge (Relation.TransGen.tail' back edge)

end Invariant

variable [DecidableEq Node]

namespace Search

def paint (search : Search Node) (node : Node) (color : Color) : Search Node :=
  { search with color := fun other => if other = node then color else search.color other }

/-- A node is put on the stack. -/
def enter (node : Node) (search : Search Node) : Search Node :=
  { search.paint node .gray with stack := search.stack ++ [node] }

/-- The node at the end of the stack is done. -/
def leave (node : Node) (search : Search Node) : Search Node :=
  { search.paint node .black with stack := search.stack.dropLast }

/-- The stack from the successor on is a cycle, noted once. -/
def note (successor : Node) (search : Search Node) : Search Node :=
  let cycle := search.stack.dropWhile (· ≠ successor) ++ [successor]
  if cycle ∈ search.cycles then search
  else { search with cycles := search.cycles ++ [cycle] }

end Search

section Visit

variable (next : Node → List Node) (nodes : List Node)

/-- The visit of a white node; `fuel` bounds the depth of the recursion. -/
def visit : Nat → Node → Search Node → Search Node
  | 0, _, search => search
  | fuel + 1, node, search =>
      ((next node).foldl (fun search successor =>
        if successor ∉ nodes then search
        else
          match search.color successor with
          | .white => visit fuel successor search
          | .gray => search.note successor
          | .black => search) (search.enter node)).leave node

/-- What the visit of a node does about one successor. -/
def consider (fuel : Nat) (search : Search Node) (successor : Node) : Search Node :=
  if successor ∉ nodes then search
  else
    match search.color successor with
    | .white => visit next nodes fuel successor search
    | .gray => search.note successor
    | .black => search

theorem visit_succ (fuel : Nat) (node : Node) (search : Search Node) :
    visit next nodes (fuel + 1) node search =
      ((next node).foldl (consider next nodes fuel) (search.enter node)).leave node :=
  rfl

/-- The visits of the nodes that are still white, in the order of `roots`. -/
def visitAll (fuel : Nat) (roots : List Node) (search : Search Node) : Search Node :=
  roots.foldl (fun search node =>
    if search.color node = .white then visit next nodes fuel node search else search) search

variable {next nodes}
variable {search after : Search Node} {node successor : Node}

/-! ## Entering a node -/

theorem color_enter (other : Node) :
    (search.enter node).color other = if other = node then .gray else search.color other :=
  rfl

theorem Sound.enter (sound : Sound next nodes search) (white : search.color node = .white)
    (follows : Follows next nodes search node) : Sound next nodes (search.enter node) := by
  have outside : node ∉ search.stack := by
    intro inside
    rw [(sound.gray_iff node).mpr inside] at white
    cases white
  refine ⟨?_, ?_, ?_, ?_, sound.real⟩
  · intro other
    by_cases same : other = node
    · simp [Search.enter, Search.paint, same]
    · simp [Search.enter, Search.paint, same, sound.gray_iff]
  · exact List.Nodup.append sound.distinct (List.nodup_singleton node)
      (List.disjoint_singleton.mpr outside)
  · refine List.isChain_append.mpr ⟨sound.path, List.isChain_singleton node, ?_⟩
    intro top isTop first isFirst
    cases isFirst
    exact follows top isTop
  · intro none other black
    by_cases same : other = node
    · simp [color_enter, same] at black
    · exact sound.acc none other (by simpa [color_enter, same] using black)

theorem white_of_enter (other : Node) (white : (search.enter node).color other = .white) :
    search.color other = .white := by
  by_cases same : other = node
  · simp [color_enter, same] at white
  · simpa [color_enter, same] using white

theorem whites_enter_lt (inside : node ∈ nodes) (white : search.color node = .white) :
    whites nodes (search.enter node) < whites nodes search := by
  have fewer := @whites_sublist Node nodes _ _ (@white_of_enter Node _ search node)
  refine Nat.lt_of_le_of_ne fewer.length_le ?_
  intro same
  have kept : node ∈ nodes.filter fun node => search.color node = .white :=
    List.mem_filter.mpr ⟨inside, decide_eq_true white⟩
  rw [← fewer.eq_of_length same] at kept
  simp [color_enter] at kept

theorem cycles_note_ne_nil : (search.note successor).cycles ≠ [] := by
  simp only [Search.note]
  split
  next known => exact List.ne_nil_of_mem known
  next => simp

theorem note_color : (search.note successor).color = search.color := by
  simp only [Search.note]
  split <;> rfl

theorem note_stack : (search.note successor).stack = search.stack := by
  simp only [Search.note]
  split <;> rfl

theorem Sound.note {stack : List Node} (sound : Sound next nodes search)
    (top : search.stack = stack ++ [node]) (edge : Edge next nodes node successor)
    (gray : search.color successor = .gray) :
    Sound next nodes (search.note successor) ∧ Later search (search.note successor) := by
  have inside := (sound.gray_iff successor).mp gray
  have path := sound.path
  rw [top] at inside path
  have cycle : Relation.TransGen (Edge next nodes) successor successor :=
    Relation.TransGen.tail' (reaches_top path inside) edge
  constructor
  · refine ⟨?_, ?_, ?_, ?_, fun _ => ⟨successor, cycle⟩⟩
    · intro other
      rw [note_color, note_stack, sound.gray_iff other]
    · rw [note_stack]
      exact sound.distinct
    · rw [note_stack]
      exact sound.path
    · intro none
      exact absurd none cycles_note_ne_nil
  · refine ⟨note_stack, ?_, ?_, fun none => absurd none cycles_note_ne_nil⟩
    · intro other black
      rwa [note_color]
    · intro other white
      rwa [note_color] at white

theorem Sound.leave {stack : List Node} (sound : Sound next nodes search)
    (top : search.stack = stack ++ [node])
    (done : search.cycles = [] → ∀ successor, Edge next nodes node successor →
      search.color successor = .black) : Sound next nodes (search.leave node) := by
  have rest : (search.leave node).stack = stack := by
    simp [Search.leave, top]
  have distinct := sound.distinct
  rw [top] at distinct
  have outside : node ∉ stack := fun inside =>
    List.disjoint_of_nodup_append distinct inside (List.mem_singleton_self node)
  refine ⟨?_, ?_, ?_, ?_, sound.real⟩
  · intro other
    rw [rest]
    by_cases same : other = node
    · simp [Search.leave, Search.paint, same, outside]
    · simp [Search.leave, Search.paint, same, sound.gray_iff, top]
  · rw [rest]
    exact distinct.of_append_left
  · rw [rest]
    have path := sound.path
    rw [top] at path
    exact path.left_of_append
  · intro none other black
    by_cases same : other = node
    · subst same
      refine Acc.intro other fun successor edge => ?_
      exact sound.acc none successor (done none successor edge)
    · exact sound.acc none other (by simpa [Search.leave, Search.paint, same] using black)

/-! ## The visit of a node -/

/-- What the visit of a white node establishes. -/
def Visits (next : Node → List Node) (nodes : List Node) (fuel : Nat) : Prop :=
  ∀ node search, Sound next nodes search → search.color node = .white → node ∈ nodes →
    whites nodes search ≤ fuel → Follows next nodes search node →
      Sound next nodes (visit next nodes fuel node search) ∧
        Later search (visit next nodes fuel node search) ∧
        (visit next nodes fuel node search).color node = .black

theorem consider_spec {fuel : Nat} {stack : List Node} (visits : Visits next nodes fuel)
    (sound : Sound next nodes search) (top : search.stack = stack ++ [node])
    (few : whites nodes search ≤ fuel) (isNext : successor ∈ next node) :
    Sound next nodes (consider next nodes fuel search successor) ∧
      Later search (consider next nodes fuel search successor) ∧
      ((consider next nodes fuel search successor).cycles = [] → successor ∈ nodes →
        (consider next nodes fuel search successor).color successor = .black) := by
  unfold consider
  by_cases inside : successor ∈ nodes
  · have edge : Edge next nodes node successor := ⟨isNext, inside⟩
    rw [if_neg (not_not_intro inside)]
    cases color : search.color successor with
    | white =>
        have follows : Follows next nodes search successor := by
          intro last isLast
          rw [top, List.getLast?_concat] at isLast
          cases isLast
          exact edge
        rcases visits successor search sound color inside few follows with
          ⟨visited, later, black⟩
        exact ⟨visited, later, fun _ _ => black⟩
    | gray =>
        rcases sound.note top edge color with ⟨noted, later⟩
        exact ⟨noted, later, fun none => absurd none cycles_note_ne_nil⟩
    | black => exact ⟨sound, Later.refl search, fun _ _ => color⟩
  · rw [if_pos inside]
    exact ⟨sound, Later.refl search, fun _ isNode => absurd isNode inside⟩

theorem foldl_consider_spec {fuel : Nat} {stack : List Node} (visits : Visits next nodes fuel)
    (successors : List Node) (sub : ∀ successor ∈ successors, successor ∈ next node)
    (sound : Sound next nodes search) (top : search.stack = stack ++ [node])
    (few : whites nodes search ≤ fuel) :
    Sound next nodes (successors.foldl (consider next nodes fuel) search) ∧
      Later search (successors.foldl (consider next nodes fuel) search) ∧
      ((successors.foldl (consider next nodes fuel) search).cycles = [] →
        ∀ successor ∈ successors, successor ∈ nodes →
          (successors.foldl (consider next nodes fuel) search).color successor = .black) := by
  induction successors generalizing search with
  | nil => exact ⟨sound, Later.refl search, fun _ _ inside => absurd inside List.not_mem_nil⟩
  | cons successor rest ih =>
      rcases consider_spec visits sound top few (sub successor List.mem_cons_self) with
        ⟨considered, first, firstBlack⟩
      rcases ih (fun other inside => sub other (List.mem_cons_of_mem _ inside))
          considered (first.stack.trans top) (Nat.le_trans first.whites_le few) with
        ⟨folded, second, secondBlack⟩
      refine ⟨folded, first.trans second, ?_⟩
      intro none other inside isNode
      rcases List.mem_cons.mp inside with rfl | later
      · exact second.black _ (firstBlack (second.cycles none) isNode)
      · exact secondBlack none other later isNode

theorem visit_spec (fuel : Nat) : Visits next nodes fuel := by
  induction fuel with
  | zero =>
      intro node search sound white inside few follows
      have some := Nat.lt_of_le_of_lt (Nat.zero_le _) (whites_enter_lt inside white)
      exact absurd few (Nat.not_le_of_lt some)
  | succ fuel ih =>
      intro node search sound white inside few follows
      rw [visit_succ]
      have entered := sound.enter white follows
      have fewer := Nat.le_of_lt_succ (Nat.lt_of_lt_of_le (whites_enter_lt inside white) few)
      have top : (search.enter node).stack = search.stack ++ [node] := rfl
      rcases foldl_consider_spec ih (next node) (fun _ isNext => isNext) entered
          top fewer with ⟨folded, later, black⟩
      refine ⟨folded.leave (later.stack.trans top) fun none successor edge =>
        black none successor edge.1 edge.2, ⟨?_, ?_, ?_, ?_⟩, ?_⟩
      · simp [Search.leave, later.stack, top]
      · intro other isBlack
        by_cases same : other = node
        · simp [Search.leave, Search.paint, same]
        · have before : (search.enter node).color other = .black := by
            simpa [color_enter, same] using isBlack
          simpa [Search.leave, Search.paint, same] using later.black other before
      · intro other isWhite
        by_cases same : other = node
        · simp [Search.leave, Search.paint, same] at isWhite
        · have after := later.white other (by simpa [Search.leave, Search.paint, same] using isWhite)
          exact white_of_enter other after
      · intro none
        exact later.cycles none
      · simp [Search.leave, Search.paint]

theorem visitAll_spec {fuel : Nat} (roots : List Node) (sub : ∀ node ∈ roots, node ∈ nodes)
    (sound : Sound next nodes search) (empty : search.stack = [])
    (few : whites nodes search ≤ fuel) : Sound next nodes (visitAll next nodes fuel roots search) ∧
      Later search (visitAll next nodes fuel roots search) ∧
      ∀ node ∈ roots, (visitAll next nodes fuel roots search).color node = .black := by
  induction roots generalizing search with
  | nil => exact ⟨sound, Later.refl search, fun _ inside => absurd inside List.not_mem_nil⟩
  | cons node rest ih =>
      have step : ∃ middle, Sound next nodes middle ∧ Later search middle ∧
          middle.color node = .black ∧
          visitAll next nodes fuel (node :: rest) search = visitAll next nodes fuel rest middle := by
        cases color : search.color node with
        | white =>
            have follows : Follows next nodes search node := by
              intro last isLast
              rw [empty] at isLast
              cases isLast
            rcases visit_spec fuel node search sound color (sub node List.mem_cons_self) few
              follows with ⟨visited, later, black⟩
            exact ⟨_, visited, later, black, by simp [visitAll, color]⟩
        | gray =>
            have inside := (sound.gray_iff node).mp color
            rw [empty] at inside
            cases inside
        | black => exact ⟨search, sound, Later.refl search, color, by simp [visitAll, color]⟩
      rcases step with ⟨middle, first, firstLater, firstBlack, same⟩
      rw [same]
      rcases ih (fun other inside => sub other (List.mem_cons_of_mem _ inside))
          first (firstLater.stack.trans empty) (Nat.le_trans firstLater.whites_le few) with
        ⟨second, secondLater, secondBlack⟩
      refine ⟨second, firstLater.trans secondLater, ?_⟩
      intro other inside
      rcases List.mem_cons.mp inside with rfl | later
      · exact secondLater.black _ firstBlack
      · exact secondBlack other later

theorem cycles_visitAll_eq_nil_iff {fuel : Nat} {roots : List Node}
    (same : ∀ node, node ∈ roots ↔ node ∈ nodes) (few : nodes.length ≤ fuel) :
    (visitAll next nodes fuel roots Search.start).cycles = [] ↔
      ∀ node, ¬Relation.TransGen (Edge next nodes) node node := by
  have enough : whites nodes Search.start ≤ fuel :=
    Nat.le_trans (List.length_filter_le _ nodes) few
  rcases visitAll_spec roots (fun node => (same node).mp) (@sound_start Node next nodes) rfl enough
    with ⟨sound, _, black⟩
  constructor
  · intro none node cycle
    rcases Relation.TransGen.tail'_iff.mp cycle with ⟨last, _, edge⟩
    have acc := sound.acc none node (black node ((same node).mpr edge.2))
    exact not_cycle_of_acc acc cycle
  · intro acyclic
    by_contra some
    rcases sound.real some with ⟨node, cycle⟩
    exact acyclic node cycle

end Visit

end Adwf.Graph

/-!
## Longest chains

The length of the longest chain of a relation that starts at a node, from the
lengths of those that start one step further.
-/

namespace Adwf.Graph

variable {Node : Type} {R : Node → Node → Prop} {node : Node}

/-- The lengths of the chains that start at a node. -/
def Lengths (R : Node → Node → Prop) (node : Node) : Set Nat :=
  fun length => ∃ rest, (node :: rest).IsChain R ∧ length = rest.length + 1

/-- The length of the longest chain that starts at a node. -/
def Height (R : Node → Node → Prop) (node : Node) (height : Nat) : Prop :=
  IsGreatest (Lengths R node) height

theorem one_mem_lengths : 1 ∈ Lengths R node :=
  ⟨[], List.isChain_singleton node, rfl⟩

theorem succ_mem_lengths {child : Node} {length : Nat} (edge : R node child)
    (chain : length ∈ Lengths R child) : length + 1 ∈ Lengths R node := by
  rcases chain with ⟨rest, isChain, rfl⟩
  exact ⟨child :: rest, List.isChain_cons_cons.mpr ⟨edge, isChain⟩, rfl⟩

theorem lengths_cases {length : Nat} (chain : length ∈ Lengths R node) :
    length = 1 ∨ ∃ child before, R node child ∧ before ∈ Lengths R child ∧ length = before + 1 := by
  rcases chain with ⟨rest, isChain, rfl⟩
  cases rest with
  | nil => exact .inl rfl
  | cons child rest =>
      rcases List.isChain_cons_cons.mp isChain with ⟨edge, isChain⟩
      exact .inr ⟨child, rest.length + 1, edge, ⟨rest, isChain, rfl⟩, rfl⟩

section Forall₂

variable {α β : Type} {P : α → β → Prop} {lefts : List α} {rights : List β}

theorem exists_right_of_mem (each : List.Forall₂ P lefts rights) {left : α}
    (inside : left ∈ lefts) : ∃ right ∈ rights, P left right := by
  induction each with
  | nil => cases inside
  | @cons first value _ _ holds _ ih =>
      rcases List.mem_cons.mp inside with rfl | later
      · exact ⟨value, List.mem_cons_self, holds⟩
      · rcases ih later with ⟨right, mem, found⟩
        exact ⟨right, List.mem_cons_of_mem _ mem, found⟩

theorem exists_left_of_mem (each : List.Forall₂ P lefts rights) {right : β}
    (inside : right ∈ rights) : ∃ left ∈ lefts, P left right :=
  exists_right_of_mem each.flip inside

end Forall₂

/-- One more than the greatest height of the successors. -/
theorem height_of_children {children : List Node} {heights : List Nat}
    (edges : ∀ child, R node child ↔ child ∈ children)
    (each : List.Forall₂ (Height R) children heights) :
    Height R node (1 + heights.max?.getD 0) := by
  constructor
  · cases greatest : heights.max? with
    | none => exact one_mem_lengths
    | some top =>
        rcases exists_left_of_mem each (List.max?_eq_some_iff.mp greatest).1 with
          ⟨child, isChild, height⟩
        rw [Nat.add_comm]
        exact succ_mem_lengths ((edges child).mpr isChild) height.1
  · intro length chain
    rcases lengths_cases chain with rfl | ⟨child, before, edge, shorter, rfl⟩
    · exact Nat.le_add_right 1 _
    · rcases exists_right_of_mem each ((edges child).mp edge) with ⟨height, mem, isHeight⟩
      have bound : before ≤ heights.max?.getD 0 :=
        Nat.le_trans (isHeight.2 shorter) (List.le_max?_getD_of_mem mem)
      rw [Nat.add_comm]
      exact Nat.add_le_add_left bound 1

theorem height_eq {first second : Nat} (left : Height R node first)
    (right : Height R node second) : first = second :=
  IsGreatest.unique left right

/-- One more than the height of the highest successor. -/
theorem height_of_best {children : List Node} {height : Node → Nat} {best : Node}
    (edges : ∀ child, R node child ↔ child ∈ children)
    (each : ∀ child ∈ children, Height R child (height child)) (isChild : best ∈ children)
    (greatest : ∀ child ∈ children, height child ≤ height best) :
    Height R node (height best + 1) := by
  refine ⟨succ_mem_lengths ((edges best).mpr isChild) (each best isChild).1, ?_⟩
  intro length chain
  rcases lengths_cases chain with rfl | ⟨child, before, edge, shorter, rfl⟩
  · exact Nat.le_add_left 1 _
  · have inside := (edges child).mp edge
    exact Nat.succ_le_succ (Nat.le_trans ((each child inside).2 shorter) (greatest child inside))

theorem height_of_none (edges : ∀ child, ¬R node child) : Height R node 1 := by
  refine ⟨one_mem_lengths, ?_⟩
  intro length chain
  rcases lengths_cases chain with rfl | ⟨child, _, edge, _, _⟩
  · exact Nat.le_refl 1
  · exact absurd edge (edges child)

theorem nodup_of_isChain {nodes : List Node}
    (acyclic : ∀ node, ¬Relation.TransGen R node node) (chain : nodes.IsChain R) : nodes.Nodup := by
  have pairwise : nodes.Pairwise (Relation.TransGen R) :=
    List.isChain_iff_pairwise.mp (chain.imp fun _ _ edge => Relation.TransGen.single edge)
  refine pairwise.imp ?_
  rintro left _ path rfl
  exact acyclic left path

theorem length_le_of_isChain {nodes known : List Node}
    (acyclic : ∀ node, ¬Relation.TransGen R node node) (chain : nodes.IsChain R)
    (inside : ∀ node ∈ nodes, node ∈ known) : nodes.length ≤ known.length :=
  (List.Nodup.subperm (nodup_of_isChain acyclic chain) inside).length_le

end Adwf.Graph
