import Mathlib.Data.Rat.Floor
import Adwf.Roadmap.Graph
import Adwf.RuntimeLedger.Event
import Adwf.Trust.Weakening

/-!
# The decision traceability graph

Records and references are the nodes, in four groups of the document; the edges
join them by type.  `_node_index` collects the nodes and `_validate_edges`
judges the edges.
-/

namespace Adwf.Traceability

open Adwf.Graph (Search)
open Json (get)
open Roadmap (sortedIds)
open RuntimeLedger (textOrEmpty)
open Trust (reasonIf)

/-! ## Reading the document -/

/-- The members of an object. -/
def asObject : Json → Option Fields
  | .obj fields => some fields
  | _ => none

/-- `graph.get(field) or []`, whose items are objects. -/
def rows (graph : Fields) (field : String) : List Fields :=
  match get graph field with
  | .arr items => items.filterMap asObject
  | _ => []

/-- The loops over the member do not raise. -/
def isReadable (graph : Fields) (field : String) : Bool :=
  match get graph field with
  | .arr items => items.all fun item => (asObject item).isSome
  | value => !value.truthy

/-- The groups of nodes and the kind that a reference has. -/
def nodeGroups : List (String × Option String) :=
  [("records", none), ("capability_refs", some "CAPABILITY_REF"),
    ("work_unit_refs", some "WORK_UNIT_REF"), ("evidence_refs", some "EVIDENCE_REF")]

structure Node where
  field : String
  id : String
  kind : String

structure Edge where
  id : String
  type : String
  source : String
  target : String

def Edge.triple (edge : Edge) : String × String × String :=
  (edge.type, edge.source, edge.target)

section Source

variable (rt : Runtime)

def idOf (item : Fields) : String :=
  textOrEmpty rt (get item "id")

def nodeOf (group : String × Option String) (item : Fields) : Node where
  field := group.1
  id := idOf rt item
  kind := group.2.getD (textOrEmpty rt (get item "kind"))

/-- The nodes of the four groups, in the order of the loops. -/
def nodesOf (graph : Fields) : List Node :=
  nodeGroups.flatMap fun group => (rows graph group.1).map (nodeOf rt group)

def edgeOf (item : Fields) : Edge where
  id := idOf rt item
  type := textOrEmpty rt (get item "type")
  source := textOrEmpty rt (get item "from")
  target := textOrEmpty rt (get item "to")

def edgesOf (graph : Fields) : List Edge :=
  (rows graph "edges").map (edgeOf rt)

/-- The kinds by id, in the order of entry, and the errors. -/
structure Index where
  kinds : List (String × String)
  errors : List String

def Index.names (index : Index) : List String :=
  index.kinds.map Prod.fst

def addNode (index : Index) (node : Node) : Index :=
  if node.id = "" then
    { index with errors := index.errors ++ ["TRACE_NODE_ID_MISSING:" ++ node.field] }
  else if node.id ∈ index.names then
    { index with errors := index.errors ++ ["TRACE_NODE_DUPLICATE:" ++ node.id] }
  else { index with kinds := index.kinds ++ [(node.id, node.kind)] }

/-- `_node_index`. -/
def nodeIndex (graph : Fields) : Index :=
  (nodesOf rt graph).foldl addNode ⟨[], []⟩

/-! ## One edge -/

/-- `EDGE_ENDPOINTS`. -/
def edgeEndpoints : List (String × String × String) :=
  [("INTENT_TO_REQUIREMENT", "OWNER_INTENT_REF", "REQUIREMENT"),
    ("REQUIREMENT_TO_DECISION", "REQUIREMENT", "DECISION"),
    ("DECISION_TO_CAPABILITY", "DECISION", "CAPABILITY_REF"),
    ("CAPABILITY_TO_WORK", "CAPABILITY_REF", "WORK_UNIT_REF"),
    ("WORK_TO_EVIDENCE", "WORK_UNIT_REF", "EVIDENCE_REF"),
    ("REQUIREMENT_SUPERSEDES_REQUIREMENT", "REQUIREMENT", "REQUIREMENT"),
    ("DECISION_SUPERSEDES_DECISION", "DECISION", "DECISION")]

/-- `SUPERSESSION_EDGES`. -/
def supersessionEdges : List String :=
  ["REQUIREMENT_SUPERSEDES_REQUIREMENT", "DECISION_SUPERSEDES_DECISION"]

/-- What the loop over the edges knows; `supersededBy` lists targets and sources. -/
structure EdgeState where
  errors : List String
  seenIds : List String
  seenTuples : List (String × String × String)
  adjacency : String → List String
  supersededBy : List (String × String)

/-- The expected kinds of the ends against the found ones. -/
def endpointErrors (kinds : List (String × String)) (edge : Edge) : List String :=
  match edgeEndpoints.lookup edge.type with
  | none => ["TRACE_EDGE_TYPE_INVALID:" ++ edge.id]
  | some expected =>
      match kinds.lookup edge.source, kinds.lookup edge.target with
      | some source, some target =>
          reasonIf ((source, target) ≠ expected)
            ("TRACE_EDGE_ENDPOINT_TYPE_INVALID:" ++ edge.id ++ ":" ++ source ++ "->" ++ target)
      | _, _ => []

def edgeErrors (kinds : List (String × String)) (state : EdgeState) (edge : Edge) : List String :=
  reasonIf (edge.id ∈ state.seenIds) ("TRACE_EDGE_ID_DUPLICATE:" ++ edge.id) ++
  reasonIf (edge.triple ∈ state.seenTuples) ("TRACE_EDGE_DUPLICATE:" ++ edge.id) ++
  reasonIf (edge.source = edge.target) ("TRACE_EDGE_SELF_REFERENCE:" ++ edge.id) ++
  reasonIf (kinds.lookup edge.source = none)
    ("TRACE_EDGE_DANGLING_FROM:" ++ edge.id ++ ":" ++ edge.source) ++
  reasonIf (kinds.lookup edge.target = none)
    ("TRACE_EDGE_DANGLING_TO:" ++ edge.id ++ ":" ++ edge.target) ++
  endpointErrors kinds edge

/-- `int(value)`: a number loses its fraction. -/
def intOf : Json → Except String Int
  | .num value => .ok (if 0 ≤ value then ⌊value⌋ else ⌈value⌉)
  | .bool value => .ok (if value then 1 else 0)
  | .null => .error "TypeError"
  | value => rt.int value

/-- `int(record.get("version", 0))`. -/
def versionOf (record : Fields) : Except String Int :=
  intOf rt ((record.lookup "version").getD (.num 0))

/-- The first record with the id. -/
def recordOf (graph : Fields) (id : String) : Option Fields :=
  (rows graph "records").find? fun item => get item "id" = .str id

def versionErrors (graph : Fields) (edge : Edge) : Except String (List String) :=
  match recordOf graph edge.source, recordOf graph edge.target with
  | some source, some target => do
      let newer ← versionOf rt source
      let older ← versionOf rt target
      return reasonIf (newer ≤ older) ("TRACE_SUPERSESSION_VERSION_NOT_INCREASING:" ++ edge.id)
  | _, _ => return []

/-- `source in nodes and target in nodes`. -/
def Joined (kinds : List (String × String)) (edge : Edge) : Prop :=
  kinds.lookup edge.source ≠ none ∧ kinds.lookup edge.target ≠ none

instance (kinds : List (String × String)) (edge : Edge) : Decidable (Joined kinds edge) :=
  inferInstanceAs (Decidable (_ ∧ _))

/-- The edge supersedes a node by another one. -/
def Supersedes (kinds : List (String × String)) (edge : Edge) : Prop :=
  edge.type ∈ supersessionEdges ∧ Joined kinds edge

instance (kinds : List (String × String)) (edge : Edge) : Decidable (Supersedes kinds edge) :=
  inferInstanceAs (Decidable (_ ∧ _))

def risingErrors (graph : Fields) (kinds : List (String × String)) (edge : Edge) :
    Except String (List String) :=
  if Supersedes kinds edge then versionErrors rt graph edge else return []

/-- What the loop does about one edge. -/
def checkEdge (graph : Fields) (kinds : List (String × String)) (state : EdgeState) (edge : Edge) :
    Except String EdgeState := do
  let rising ← risingErrors rt graph kinds edge
  return {
    errors := state.errors ++ (edgeErrors kinds state edge ++ rising)
    seenIds := state.seenIds ++ [edge.id]
    seenTuples := state.seenTuples ++ [edge.triple]
    adjacency := fun node =>
      if node = edge.source ∧ Joined kinds edge then state.adjacency node ++ [edge.target]
      else state.adjacency node
    supersededBy :=
      state.supersededBy ++ if Supersedes kinds edge then [(edge.target, edge.source)] else [] }

def EdgeState.start : EdgeState :=
  ⟨[], [], [], fun _ => [], []⟩

/-! ## The edges together -/

/-- The targets with more than one replacement. -/
def ambiguities (supersededBy : List (String × String)) : List String :=
  (supersededBy.map Prod.fst).eraseDups.flatMap fun target =>
    reasonIf (1 < (supersededBy.filter fun pair => pair.1 = target).length)
      ("TRACE_SUPERSESSION_AMBIGUOUS:" ++ target)

end Source

/-- `errors.append` of the stack from the node on. -/
def report (next : String) (search : Search String) : Search String :=
  { search with cycles := search.cycles ++ [search.stack.dropWhile (· ≠ next) ++ [next]] }

/-- `visit`; the depth of the recursion is bounded by the number of nodes. -/
def visit (adjacency : String → List String) : Nat → String → Search String → Search String
  | 0, _, search => search
  | fuel + 1, node, search =>
      ((adjacency node).foldl (fun search next =>
        match search.color next with
        | .white => visit adjacency fuel next search
        | .gray => report next search
        | .black => search) (search.enter node)).leave node

def visitAll (adjacency : String → List String) (fuel : Nat) (roots : List String)
    (search : Search String) : Search String :=
  roots.foldl (fun search node =>
    if search.color node = .white then visit adjacency fuel node search else search) search

def cycleErrors (names : List String) (adjacency : String → List String) : List String :=
  (visitAll adjacency names.length (sortedIds names) Search.start).cycles.map fun cycle =>
    "TRACE_CYCLE:" ++ "->".intercalate cycle

/-- `_validate_edges`. -/
def validateEdges (rt : Runtime) (graph : Fields) (index : Index) :
    Except String (List String) := do
  let state ← (edgesOf rt graph).foldlM (checkEdge rt graph index.kinds) .start
  return state.errors ++ ambiguities state.supersededBy ++ cycleErrors index.names state.adjacency

end Adwf.Traceability

/-!
## The search for cycles among the edges

The search of the edge judgement notes a cycle as often as it meets it.  Apart
from that it is the general search, so that it finds a cycle exactly when there
is one.
-/

namespace Adwf.Traceability

open Adwf.Graph (Search)
open Roadmap (sortedIds)

/-- The searches agree but for the number of times a cycle is noted. -/
structure Alike (one two : Search String) : Prop where
  color : one.color = two.color
  stack : one.stack = two.stack
  cycles : one.cycles = [] ↔ two.cycles = []

section Search

variable {one two : Search String} {node next : String}

theorem Alike.enter (alike : Alike one two) (node : String) :
    Alike (one.enter node) (two.enter node) where
  color := by rw [Search.enter, Search.enter, Search.paint, Search.paint, alike.color]
  stack := by rw [Search.enter, Search.enter, alike.stack]
  cycles := alike.cycles

theorem Alike.leave (alike : Alike one two) (node : String) :
    Alike (one.leave node) (two.leave node) where
  color := by rw [Search.leave, Search.leave, Search.paint, Search.paint, alike.color]
  stack := by rw [Search.leave, Search.leave, alike.stack]
  cycles := alike.cycles

theorem Alike.note (alike : Alike one two) (next : String) :
    Alike (report next one) (two.note next) where
  color := alike.color.trans Graph.note_color.symm
  stack := alike.stack.trans Graph.note_stack.symm
  cycles := iff_of_false (List.append_ne_nil_of_right_ne_nil _ (List.cons_ne_nil _ _))
    Graph.cycles_note_ne_nil

theorem Alike.foldl {step step' : Search String → String → Search String} {items : List String}
    (keeps : ∀ item ∈ items, ∀ one two, Alike one two → Alike (step one item) (step' two item))
    (alike : Alike one two) : Alike (items.foldl step one) (items.foldl step' two) := by
  induction items generalizing one two with
  | nil => exact alike
  | cons item rest ih =>
      exact ih (fun other inside => keeps other (List.mem_cons_of_mem _ inside))
        (keeps item List.mem_cons_self one two alike)

end Search

section Visits

variable {adjacency : String → List String} {names : List String}

theorem Alike.visit (closed : ∀ node, ∀ next ∈ adjacency node, next ∈ names) (fuel : Nat)
    (node : String) (one two : Search String) (alike : Alike one two) :
    Alike (visit adjacency fuel node one) (Graph.visit adjacency names fuel node two) := by
  induction fuel generalizing node one two with
  | zero => exact alike
  | succ fuel ih =>
      rw [Graph.visit_succ, Traceability.visit]
      refine (Alike.foldl ?_ (alike.enter node)).leave node
      intro next isNext one two alike
      rw [Graph.consider, if_neg (not_not_intro (closed node next isNext)), alike.color]
      cases two.color next with
      | white => exact ih next one two alike
      | gray => exact alike.note next
      | black => exact alike

theorem Alike.visitAll (closed : ∀ node, ∀ next ∈ adjacency node, next ∈ names) (fuel : Nat)
    (roots : List String) : Alike (visitAll adjacency fuel roots Search.start)
      (Graph.visitAll adjacency names fuel roots Search.start) := by
  refine Alike.foldl ?_ ⟨rfl, rfl, Iff.rfl⟩
  intro node _ one two alike
  rw [alike.color]
  split_ifs
  · exact Alike.visit closed fuel node one two alike
  · exact alike

theorem cycleErrors_eq_nil_iff (closed : ∀ node, ∀ next ∈ adjacency node, next ∈ names) :
    cycleErrors names adjacency = [] ↔
      ∀ node, ¬Relation.TransGen (Graph.Edge adjacency names) node node := by
  have same (node : String) : node ∈ sortedIds names ↔ node ∈ names := by
    rw [sortedIds, List.mem_insertionSort, List.mem_dedup]
  rw [cycleErrors, List.map_eq_nil_iff, (Alike.visitAll closed _ _).cycles,
    Graph.cycles_visitAll_eq_nil_iff same (Nat.le_refl _)]

end Visits

end Adwf.Traceability
