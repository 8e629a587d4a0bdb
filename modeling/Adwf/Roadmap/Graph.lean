import Mathlib.Data.List.Dedup
import Mathlib.Data.List.Sort
import Mathlib.Data.String.Basic
import Adwf.Graph.Search
import Adwf.Value.Json

/-!
# The roadmap as a graph

The check of ids and dependencies before anything is ordered by them, with the
errors it reports.
-/

namespace Adwf.Roadmap

open Adwf.Graph (Search Edge visitAll)

/-- A task: its ids as they are found, and what `dependencies` lists. -/
structure RoadmapItem where
  roadmapId : Json
  id : Json
  dependencies : List Json

section Source

variable (rt : Runtime)

/-- `str(item.get("roadmap_id") or item.get("id") or "")`. -/
def itemId (item : RoadmapItem) : String :=
  if item.roadmapId.truthy then rt.text item.roadmapId
  else if item.id.truthy then rt.text item.id
  else ""

def dependencyIds (item : RoadmapItem) : List String :=
  item.dependencies.map rt.text

def idsOf (tasks : List RoadmapItem) : List String :=
  tasks.map (itemId rt)

/-- What the pass over the ids knows. -/
structure Seen where
  errors : List String
  seen : List String
  duplicate : List String

def seeId (state : Seen) (roadmapId : String) : Seen :=
  let noted :=
    if roadmapId = "" then { state with errors := state.errors ++ ["ROADMAP_ID_MISSING"] }
    else if roadmapId ∈ state.seen then
      { state with duplicate := roadmapId :: state.duplicate }
    else state
  { noted with seen := roadmapId :: noted.seen }

def seeIds (tasks : List RoadmapItem) : Seen :=
  (idsOf rt tasks).foldl seeId ⟨[], [], []⟩

def sortedIds (ids : List String) : List String :=
  ids.dedup.insertionSort (· ≤ ·)

/-- `graph[roadmap_id]`; of two items with one id the later counts. -/
def graphAt (tasks : List RoadmapItem) (node : String) : List String :=
  match tasks.reverse.find? fun item => itemId rt item = node with
  | some item => dependencyIds rt item
  | none => []

def edgeError (tasks : List RoadmapItem) (item : RoadmapItem) (dependency : String) :
    List String :=
  if dependency = itemId rt item then ["SELF_DEPENDENCY:" ++ itemId rt item]
  else if dependency ∉ (idsOf rt tasks).filter (· ≠ "") then
    ["UNKNOWN_DEPENDENCY:" ++ itemId rt item ++ ":" ++ dependency]
  else []

def edgeErrors (tasks : List RoadmapItem) : List String :=
  tasks.flatMap fun item => (dependencyIds rt item).flatMap (edgeError rt tasks item)

/-- The visits from the sorted ids on. -/
def searchCycles (tasks : List RoadmapItem) : Search String :=
  let nodes := sortedIds (idsOf rt tasks)
  visitAll (graphAt rt tasks) nodes nodes.length (nodes.filter (· ≠ "")) Search.start

inductive GraphStatus where
  | pass
  | fail
  deriving DecidableEq, Repr

structure GraphCheck where
  status : GraphStatus
  errors : List String
  cycles : List (List String)

def graphErrors (tasks : List RoadmapItem) : List String :=
  let seen := seeIds rt tasks
  seen.errors ++ (sortedIds seen.duplicate).map ("DUPLICATE_ID:" ++ ·) ++
    edgeErrors rt tasks ++
    (searchCycles rt tasks).cycles.map fun cycle =>
      "DEPENDENCY_CYCLE:" ++ "->".intercalate cycle

/-- `validate_roadmap_graph`. -/
def validateRoadmapGraph (tasks : List RoadmapItem) : GraphCheck :=
  let errors := graphErrors rt tasks
  { status := if errors = [] then .pass else .fail
    errors := sortedIds errors
    cycles := (searchCycles rt tasks).cycles }

end Source

section Dag

variable (rt : Runtime)

/-- One item lists the other among its dependencies. -/
def DependsOn (tasks : List RoadmapItem) (dependent dependency : String) : Prop :=
  ∃ item ∈ tasks, itemId rt item = dependent ∧ dependency ∈ dependencyIds rt item

/-- Ids that name one item each, and dependencies that lead back to none of them. -/
structure IsDag (tasks : List RoadmapItem) : Prop where
  named : "" ∉ idsOf rt tasks
  distinct : (idsOf rt tasks).Nodup
  known : ∀ dependent dependency, DependsOn rt tasks dependent dependency →
    dependency ∈ idsOf rt tasks
  notSelf : ∀ node, ¬DependsOn rt tasks node node
  acyclic : ∀ node, ¬Relation.TransGen (DependsOn rt tasks) node node

variable {rt} {tasks : List RoadmapItem}

theorem foldl_seeId (ids : List String) (state : Seen) :
    (ids.foldl seeId state).errors = [] ∧ (ids.foldl seeId state).duplicate = [] ↔
      state.errors = [] ∧ state.duplicate = [] ∧ "" ∉ ids ∧ ids.Nodup ∧
        ∀ roadmapId ∈ ids, roadmapId ∉ state.seen := by
  induction ids generalizing state with
  | nil => simp
  | cons roadmapId rest ih =>
      rw [List.foldl_cons, ih]
      by_cases missing : roadmapId = ""
      · simp [seeId, missing]
      · by_cases known : roadmapId ∈ state.seen
        · simp [seeId, missing, known]
        · simp only [seeId, if_neg missing, if_neg known, List.mem_cons, List.nodup_cons, not_or]
          constructor
          · rintro ⟨errors, duplicate, named, distinct, fresh⟩
            refine ⟨errors, duplicate, ⟨Ne.symm missing, named⟩,
              ⟨fun again => (fresh _ again).1 rfl, distinct⟩, ?_⟩
            rintro other (rfl | later)
            · exact known
            · exact (fresh other later).2
          · rintro ⟨errors, duplicate, ⟨_, named⟩, ⟨once, distinct⟩, fresh⟩
            refine ⟨errors, duplicate, named, distinct, ?_⟩
            intro other later
            exact ⟨fun same => once (same ▸ later), fresh other (.inr later)⟩

theorem seeIds_iff : (seeIds rt tasks).errors = [] ∧ (seeIds rt tasks).duplicate = [] ↔
      "" ∉ idsOf rt tasks ∧ (idsOf rt tasks).Nodup := by
  unfold seeIds
  rw [foldl_seeId]
  simp

theorem mem_sortedIds {roadmapId : String} {ids : List String} :
    roadmapId ∈ sortedIds ids ↔ roadmapId ∈ ids := by
  rw [sortedIds, List.mem_insertionSort, List.mem_dedup]

theorem sortedIds_eq_nil_iff {ids : List String} : sortedIds ids = [] ↔ ids = [] := by
  simp only [List.eq_nil_iff_forall_not_mem, mem_sortedIds]

theorem edgeErrors_eq_nil_iff (named : "" ∉ idsOf rt tasks) : edgeErrors rt tasks = [] ↔
      (∀ dependent dependency, DependsOn rt tasks dependent dependency →
        dependency ∈ idsOf rt tasks) ∧ ∀ node, ¬DependsOn rt tasks node node := by
  have each : edgeErrors rt tasks = [] ↔
      ∀ item ∈ tasks, ∀ dependency ∈ dependencyIds rt item,
        dependency ≠ itemId rt item ∧ dependency ∈ idsOf rt tasks := by
    simp only [edgeErrors, List.flatMap_eq_nil_iff]
    refine forall₂_congr fun item _ => forall₂_congr fun dependency _ => ?_
    unfold edgeError
    by_cases self : dependency = itemId rt item
    · simp [self]
    · by_cases known : dependency ∈ idsOf rt tasks
      · have some : dependency ≠ "" := fun empty => named (empty ▸ known)
        simp [self, known, some]
      · simp [self, known]
  rw [each]
  constructor
  · intro checks
    constructor
    · rintro dependent dependency ⟨item, mem, _, listed⟩
      exact (checks item mem dependency listed).2
    · rintro node ⟨item, mem, isNode, listed⟩
      exact (checks item mem node listed).1 isNode.symm
  · rintro ⟨known, notSelf⟩ item mem dependency listed
    refine ⟨?_, known _ dependency ⟨item, mem, rfl, listed⟩⟩
    rintro rfl
    exact notSelf _ ⟨item, mem, rfl, listed⟩

theorem mem_graphAt_iff (distinct : (idsOf rt tasks).Nodup) {node dependency : String} :
    dependency ∈ graphAt rt tasks node ↔ DependsOn rt tasks node dependency := by
  unfold graphAt
  cases found : tasks.reverse.find? fun item => itemId rt item = node with
  | none =>
      have none : ∀ item ∈ tasks, itemId rt item ≠ node := by
        simpa using found
      constructor
      · intro inside
        cases inside
      · rintro ⟨item, mem, isNode, _⟩
        exact absurd isNode (none item mem)
  | some item =>
      have mem : item ∈ tasks := List.mem_reverse.mp (List.mem_of_find?_eq_some found)
      have isNode : itemId rt item = node := by
        simpa using List.find?_some found
      constructor
      · intro listed
        exact ⟨item, mem, isNode, listed⟩
      · rintro ⟨other, otherMember, isOther, listed⟩
        have same : other = item :=
          List.inj_on_of_nodup_map distinct otherMember mem (isOther.trans isNode.symm)
        exact same ▸ listed

theorem edge_iff (distinct : (idsOf rt tasks).Nodup)
    (known : ∀ dependent dependency, DependsOn rt tasks dependent dependency →
      dependency ∈ idsOf rt tasks) :
    Edge (graphAt rt tasks) (sortedIds (idsOf rt tasks)) = DependsOn rt tasks := by
  funext node dependency
  refine propext ?_
  unfold Edge
  rw [mem_graphAt_iff distinct, mem_sortedIds]
  exact and_iff_left_of_imp (known node dependency)

theorem cycles_eq_nil_iff (named : "" ∉ idsOf rt tasks) (distinct : (idsOf rt tasks).Nodup)
    (known : ∀ dependent dependency, DependsOn rt tasks dependent dependency →
      dependency ∈ idsOf rt tasks) : (searchCycles rt tasks).cycles = [] ↔
      ∀ node, ¬Relation.TransGen (DependsOn rt tasks) node node := by
  rw [← edge_iff distinct known]
  refine Graph.cycles_visitAll_eq_nil_iff ?_ (Nat.le_refl _)
  intro node
  rw [List.mem_filter, decide_eq_true_iff, mem_sortedIds]
  refine and_iff_left_of_imp ?_
  rintro inside rfl
  exact named inside

theorem graphErrors_eq_nil_iff : graphErrors rt tasks = [] ↔ IsDag rt tasks := by
  have parts : graphErrors rt tasks = [] ↔
      ((seeIds rt tasks).errors = [] ∧ (seeIds rt tasks).duplicate = []) ∧
        edgeErrors rt tasks = [] ∧ (searchCycles rt tasks).cycles = [] := by
    simp only [graphErrors, List.append_eq_nil_iff, List.map_eq_nil_iff, sortedIds_eq_nil_iff,
      and_assoc]
  rw [parts, seeIds_iff]
  constructor
  · rintro ⟨⟨named, distinct⟩, edges, cycles⟩
    rcases (edgeErrors_eq_nil_iff named).mp edges with ⟨known, notSelf⟩
    exact ⟨named, distinct, known, notSelf, (cycles_eq_nil_iff named distinct known).mp cycles⟩
  · intro dag
    exact ⟨⟨dag.named, dag.distinct⟩,
      (edgeErrors_eq_nil_iff dag.named).mpr ⟨dag.known, dag.notSelf⟩,
      (cycles_eq_nil_iff dag.named dag.distinct dag.known).mpr dag.acyclic⟩

theorem validateRoadmapGraph_pass_iff :
    (validateRoadmapGraph rt tasks).status = .pass ↔ IsDag rt tasks := by
  rw [← graphErrors_eq_nil_iff]
  simp [validateRoadmapGraph]

/-- Two items that depend on each other, and one on an id that is not there. -/
example :
    (validateRoadmapGraph ⟨fun _ => "", fun _ => none, fun _ => none, fun _ => ""⟩
      [⟨.str "b", .null, [.str "a", .str "c"]⟩, ⟨.null, .str "a", [.str "b"]⟩]).errors =
      ["DEPENDENCY_CYCLE:a->b->a", "UNKNOWN_DEPENDENCY:b:c"] := by
  decide +kernel

end Dag

end Adwf.Roadmap
