import Adwf.JsonText.Value
import Adwf.Traceability.Graph
import Adwf.Value.Fallible

/-!
# Coherent graphs

What the index of the nodes and the judgement of the edges let pass: unique and
named nodes, unique edges between nodes of the demanded kinds, no cycle, and at
most one successor of higher version for each superseded node.
-/

namespace Adwf.Traceability

open Adwf.Graph (Search)
open Fallible (bind_ok_iff)
open Json (get)
open JsonText (lookup_eq_some_iff_mem)
open Roadmap (sortedIds)
open Trust (reasonIf reasonIf_eq_nil_iff)

/-! ## Definition -/

section Definition

variable (rt : Runtime) (graph : Fields)

/-- The document has a node with the id and the kind. -/
def HasNode (id kind : String) : Prop :=
  ∃ node ∈ nodesOf rt graph, node.id = id ∧ node.kind = kind

/-- An edge leads from the one node to the other. -/
def Leads (source target : String) : Prop :=
  ∃ edge ∈ edgesOf rt graph, edge.source = source ∧ edge.target = target

/-- Both ends are of the kinds that the type demands. -/
def Fits (edge : Edge) : Prop :=
  ∃ source target, edgeEndpoints.lookup edge.type = some (source, target) ∧
    HasNode rt graph edge.source source ∧ HasNode rt graph edge.target target

/-- Nothing is superseded twice. -/
def Once (edges : List Edge) : Prop :=
  ∀ first ∈ edges, ∀ second ∈ edges, first.type ∈ supersessionEdges →
    second.type ∈ supersessionEdges → first.target = second.target → first.source = second.source

/-- The records of the superseding edge have rising versions. -/
def Rising (edge : Edge) : Prop :=
  ∀ newer ∈ rows graph "records", ∀ older ∈ rows graph "records", ∀ new old : Int,
    get newer "id" = .str edge.source → get older "id" = .str edge.target →
      get newer "version" = .num new → get older "version" = .num old → old < new

structure Coherent : Prop where
  named : ∀ node ∈ nodesOf rt graph, node.id ≠ ""
  nodes : ((nodesOf rt graph).map Node.id).Nodup
  ids : ((edgesOf rt graph).map Edge.id).Nodup
  triples : ((edgesOf rt graph).map Edge.triple).Nodup
  joins : ∀ edge ∈ edgesOf rt graph, Fits rt graph edge
  acyclic : ∀ node, ¬Relation.TransGen (Leads rt graph) node node
  once : Once (edgesOf rt graph)
  rising : ∀ edge ∈ edgesOf rt graph, edge.type ∈ supersessionEdges → Rising graph edge

/-- The ids of nodes and edges are texts and the versions of records are integers. -/
structure Typed : Prop where
  readable : ∀ field ∈ "edges" :: nodeGroups.map Prod.fst, isReadable graph field = true
  ids : ∀ field ∈ "edges" :: nodeGroups.map Prod.fst, ∀ item ∈ rows graph field,
    ∃ id, get item "id" = .str id
  versions : ∀ record ∈ rows graph "records", ∃ version : Int, get record "version" = .num version

end Definition

variable {rt : Runtime} {graph : Fields}

/-! ## The index of the nodes -/

section Nodes

variable {index : Index} {nodes : List Node}

/-- The ids in the index and those of the nodes are all named and all different. -/
def Distinct (index : Index) (nodes : List Node) : Prop :=
  (∀ node ∈ nodes, node.id ≠ "") ∧ (index.names ++ nodes.map Node.id).Nodup

theorem foldl_addNode_errors (nodes : List Node) (index : Index) :
    index.errors <+: (nodes.foldl addNode index).errors := by
  induction nodes generalizing index with
  | nil => exact List.prefix_rfl
  | cons node rest ih =>
      have first : index.errors <+: (addNode index node).errors := by
        unfold addNode
        split_ifs
        · exact List.prefix_append _ _
        · exact List.prefix_append _ _
        · exact List.prefix_rfl
      exact first.trans (ih _)

theorem addNode_of_new {node : Node} (named : node.id ≠ "") (fresh : node.id ∉ index.names) :
    addNode index node = { index with kinds := index.kinds ++ [(node.id, node.kind)] } := by
  rw [addNode, if_neg named, if_neg fresh]

theorem addNode_errors_ne_nil {node : Node} (bad : node.id = "" ∨ node.id ∈ index.names) :
    (addNode index node).errors ≠ [] := by
  unfold addNode
  split_ifs with unnamed known
  · exact List.append_ne_nil_of_right_ne_nil _ (List.cons_ne_nil _ _)
  · exact List.append_ne_nil_of_right_ne_nil _ (List.cons_ne_nil _ _)
  · rcases bad with bad | bad
    · exact absurd bad unnamed
    · exact absurd bad known

theorem foldl_addNode_iff (different : index.names.Nodup) (clean : index.errors = []) :
    (nodes.foldl addNode index).errors = [] ↔ Distinct index nodes := by
  induction nodes generalizing index with
  | nil => simp [Distinct, different, clean]
  | cons node rest ih =>
      rw [List.foldl_cons]
      by_cases new : node.id ≠ "" ∧ node.id ∉ index.names
      · have step := addNode_of_new new.1 new.2
        have names : (addNode index node).names = index.names ++ [node.id] := by
          rw [step, Index.names, Index.names, List.map_append, List.map_cons, List.map_nil]
        have stillDifferent : (addNode index node).names.Nodup := by
          rw [names, ← List.concat_eq_append]
          exact different.concat new.2
        rw [ih stillDifferent (by rw [step]; exact clean), Distinct, Distinct,
          names, List.append_assoc, List.forall_mem_cons]
        exact ⟨fun both => ⟨⟨new.1, both.1⟩, both.2⟩, fun both => ⟨both.1.2, both.2⟩⟩
      · have bad : node.id = "" ∨ node.id ∈ index.names := by
          rwa [not_and_or, not_not, not_not] at new
        refine iff_of_false ?_ ?_
        · intro none
          have first := foldl_addNode_errors rest (addNode index node)
          rw [none] at first
          exact addNode_errors_ne_nil bad (List.prefix_nil.mp first)
        · rintro ⟨named, distinct⟩
          rcases bad with unnamed | known
          · exact named node List.mem_cons_self unnamed
          · exact (List.nodup_append.mp distinct).2.2 _ known _ List.mem_cons_self rfl

theorem foldl_addNode_kinds (distinct : Distinct index nodes) : (nodes.foldl addNode index).kinds =
      index.kinds ++ nodes.map fun node => (node.id, node.kind) := by
  induction nodes generalizing index with
  | nil => exact (List.append_nil _).symm
  | cons node rest ih =>
      rcases distinct with ⟨named, different⟩
      have fresh : node.id ∉ index.names := fun known =>
        (List.nodup_append.mp different).2.2 _ known _ List.mem_cons_self rfl
      have step := addNode_of_new (named node List.mem_cons_self) fresh
      have later : Distinct (addNode index node) rest := by
        refine ⟨fun other inside => named other (List.mem_cons_of_mem _ inside), ?_⟩
        rw [step, Index.names, List.map_append, List.append_assoc]
        exact different
      rw [List.foldl_cons, ih later, step, List.append_assoc, List.map_cons]
      rfl

end Nodes

theorem nodeIndex_errors_iff : (nodeIndex rt graph).errors = [] ↔
    (∀ node ∈ nodesOf rt graph, node.id ≠ "") ∧ ((nodesOf rt graph).map Node.id).Nodup :=
  foldl_addNode_iff List.nodup_nil rfl

/-- The index of the nodes is what the document has. -/
structure Indexed (rt : Runtime) (graph : Fields) (kinds : List (String × String)) : Prop where
  nodes : ((nodesOf rt graph).map Node.id).Nodup
  kinds : kinds = (nodesOf rt graph).map fun node => (node.id, node.kind)

theorem indexed_nodeIndex (clean : (nodeIndex rt graph).errors = []) :
    Indexed rt graph (nodeIndex rt graph).kinds where
  nodes := (nodeIndex_errors_iff.mp clean).2
  kinds := foldl_addNode_kinds (nodeIndex_errors_iff.mp clean)

section Indexed

variable {kinds : List (String × String)} {edge : Edge}

theorem Indexed.names (indexed : Indexed rt graph kinds) :
    kinds.map Prod.fst = (nodesOf rt graph).map Node.id := by
  rw [indexed.kinds, List.map_map]
  rfl

theorem Indexed.lookup_eq_some_iff (indexed : Indexed rt graph kinds) {id kind : String} :
    kinds.lookup id = some kind ↔ HasNode rt graph id kind := by
  have distinct : (kinds.map Prod.fst).Nodup := by
    rw [indexed.names]
    exact indexed.nodes
  rw [lookup_eq_some_iff_mem distinct, indexed.kinds, List.mem_map]
  simp only [HasNode, Prod.mk.injEq]

theorem Indexed.joined (indexed : Indexed rt graph kinds) (fits : Fits rt graph edge) :
    Joined kinds edge := by
  rcases fits with ⟨source, target, _, hasSource, hasTarget⟩
  rw [← indexed.lookup_eq_some_iff] at hasSource hasTarget
  rw [Joined, hasSource, hasTarget]
  exact ⟨Option.some_ne_none _, Option.some_ne_none _⟩

/-- The ends exist and no error is found about them exactly when they fit. -/
theorem Indexed.endpointErrors_eq_nil_iff (indexed : Indexed rt graph kinds) :
    (kinds.lookup edge.source ≠ none ∧ kinds.lookup edge.target ≠ none) ∧
      endpointErrors kinds edge = [] ↔ Fits rt graph edge := by
  constructor
  · rintro ⟨⟨hasSource, hasTarget⟩, none⟩
    rcases Option.ne_none_iff_exists'.mp hasSource with ⟨source, isSource⟩
    rcases Option.ne_none_iff_exists'.mp hasTarget with ⟨target, isTarget⟩
    unfold endpointErrors at none
    cases expected : edgeEndpoints.lookup edge.type with
    | none =>
        rw [expected] at none
        cases none
    | some ends =>
        rw [expected, isSource, isTarget] at none
        have same := not_not.mp (reasonIf_eq_nil_iff.mp none)
        exact ⟨source, target, same ▸ expected, indexed.lookup_eq_some_iff.mp isSource,
          indexed.lookup_eq_some_iff.mp isTarget⟩
  · intro fits
    refine ⟨indexed.joined fits, ?_⟩
    rcases fits with ⟨source, target, expected, hasSource, hasTarget⟩
    rw [← indexed.lookup_eq_some_iff] at hasSource hasTarget
    rw [endpointErrors, expected, hasSource, hasTarget]
    exact reasonIf_eq_nil_iff.mpr (not_not.mpr rfl)

/-! ## The loop over the edges -/

/-- The edge fits, joins two nodes and does not supersede a newer record. -/
structure Passes (rt : Runtime) (graph : Fields) (kinds : List (String × String))
    (edge : Edge) : Prop where
  fits : Fits rt graph edge
  distinct : edge.source ≠ edge.target
  rising : risingErrors rt graph kinds edge = .ok []

variable {state next : EdgeState}

theorem Indexed.edgeErrors_eq_nil_iff (indexed : Indexed rt graph kinds) :
    edgeErrors kinds state edge = [] ↔
      edge.id ∉ state.seenIds ∧ edge.triple ∉ state.seenTuples ∧ edge.source ≠ edge.target ∧
        Fits rt graph edge := by
  rw [← indexed.endpointErrors_eq_nil_iff]
  simp only [edgeErrors, List.append_eq_nil_iff, reasonIf_eq_nil_iff, ne_eq, and_assoc]

theorem Indexed.checkEdge_iff (indexed : Indexed rt graph kinds)
    (checked : checkEdge rt graph kinds state edge = .ok next) :
    next.errors = [] ↔ state.errors = [] ∧ edge.id ∉ state.seenIds ∧
      edge.triple ∉ state.seenTuples ∧ Passes rt graph kinds edge := by
  rcases bind_ok_iff.mp checked with ⟨rising, found, ⟨⟩⟩
  rw [List.append_eq_nil_iff, List.append_eq_nil_iff, indexed.edgeErrors_eq_nil_iff]
  constructor
  · rintro ⟨clean, ⟨freshId, freshTriple, distinct, fits⟩, rises⟩
    exact ⟨clean, freshId, freshTriple, fits, distinct, rises ▸ found⟩
  · rintro ⟨clean, freshId, freshTriple, passes⟩
    have none := passes.rising
    rw [found] at none
    cases none
    exact ⟨clean, ⟨freshId, freshTriple, passes.distinct, passes.fits⟩, rfl⟩

theorem checkEdge_of_passes (passes : Passes rt graph kinds edge) :
    ∃ next, checkEdge rt graph kinds state edge = .ok next := by
  rw [checkEdge, passes.rising]
  exact ⟨_, rfl⟩

theorem checkEdge_seen (checked : checkEdge rt graph kinds state edge = .ok next) :
    ∃ errors, next = {
      errors := state.errors ++ errors
      seenIds := state.seenIds ++ [edge.id]
      seenTuples := state.seenTuples ++ [edge.triple]
      adjacency := fun node =>
        if node = edge.source ∧ Joined kinds edge then state.adjacency node ++ [edge.target]
        else state.adjacency node
      supersededBy := state.supersededBy ++
        if Supersedes kinds edge then [(edge.target, edge.source)] else [] } := by
  rcases bind_ok_iff.mp checked with ⟨rising, _, ⟨⟩⟩
  exact ⟨_, rfl⟩

theorem mem_adjacency_of_checkEdge {node target : String}
    (checked : checkEdge rt graph kinds state edge = .ok next) :
    target ∈ next.adjacency node ↔ target ∈ state.adjacency node ∨
      Joined kinds edge ∧ edge.source = node ∧ edge.target = target := by
  rcases checkEdge_seen checked with ⟨_, rfl⟩
  dsimp only
  split_ifs with new
  · rw [List.mem_append, List.mem_singleton]
    simp only [new.1, new.2, true_and, eq_comm]
  · refine ⟨Or.inl, ?_⟩
    rintro (known | ⟨joined, rfl, _⟩)
    · exact known
    · exact absurd ⟨rfl, joined⟩ new

/-- What the whole loop adds to the state. -/
theorem foldlM_checkEdge_final {edges : List Edge} {final : EdgeState}
    (run : edges.foldlM (checkEdge rt graph kinds) state = .ok final) :
    state.errors <+: final.errors ∧
      (∀ node target, target ∈ final.adjacency node ↔ target ∈ state.adjacency node ∨
        ∃ edge ∈ edges, Joined kinds edge ∧ edge.source = node ∧ edge.target = target) ∧
      final.supersededBy = state.supersededBy ++
        (edges.filter (Supersedes kinds ·)).map fun edge => (edge.target, edge.source) := by
  induction edges generalizing state with
  | nil =>
      cases run
      simp
  | cons edge rest ih =>
      rw [List.foldlM_cons] at run
      rcases bind_ok_iff.mp run with ⟨next, checked, later⟩
      rcases ih later with ⟨errors, adjacency, superseded⟩
      rcases checkEdge_seen checked with ⟨found, same⟩
      refine ⟨?_, ?_, ?_⟩
      · rw [same] at errors
        exact (List.prefix_append _ _).trans errors
      · intro node target
        rw [adjacency, mem_adjacency_of_checkEdge checked, or_assoc]
        simp only [List.mem_cons, exists_eq_or_imp]
      · rw [superseded, same, List.append_assoc]
        by_cases supersedes : Supersedes kinds edge
        · simp [supersedes]
        · simp [supersedes]

theorem nodup_append_cons_iff {α : Type} {front back : List α} {item : α} :
    item ∉ front ∧ (front ++ [item] ++ back).Nodup ↔ (front ++ item :: back).Nodup := by
  rw [List.append_assoc, List.singleton_append]
  refine ⟨And.right, fun whole => ⟨?_, whole⟩⟩
  intro inside
  exact (List.nodup_append.mp whole).2.2 item inside item List.mem_cons_self rfl

theorem Indexed.foldlM_checkEdge_iff (indexed : Indexed rt graph kinds) (edges : List Edge) (ids : state.seenIds.Nodup) (triples : state.seenTuples.Nodup) :
    (∃ final, edges.foldlM (checkEdge rt graph kinds) state = .ok final ∧ final.errors = []) ↔
      state.errors = [] ∧ (state.seenIds ++ edges.map Edge.id).Nodup ∧
        (state.seenTuples ++ edges.map Edge.triple).Nodup ∧
        ∀ edge ∈ edges, Passes rt graph kinds edge := by
  induction edges generalizing state with
  | nil =>
      simp only [List.foldlM_nil, List.map_nil, List.append_nil]
      constructor
      · rintro ⟨final, ⟨⟩, clean⟩
        exact ⟨clean, ids, triples, fun _ inside => absurd inside List.not_mem_nil⟩
      · rintro ⟨clean, _⟩
        exact ⟨state, rfl, clean⟩
  | cons edge rest ih =>
      rw [List.foldlM_cons, List.map_cons, List.map_cons, List.forall_mem_cons,
        ← nodup_append_cons_iff, ← nodup_append_cons_iff]
      have step {next : EdgeState} (checked : checkEdge rt graph kinds state edge = .ok next)
          (freshId : edge.id ∉ state.seenIds) (freshTriple : edge.triple ∉ state.seenTuples) :
          (∃ final, rest.foldlM (checkEdge rt graph kinds) next = .ok final ∧
            final.errors = []) ↔
          next.errors = [] ∧ (state.seenIds ++ [edge.id] ++ rest.map Edge.id).Nodup ∧
            (state.seenTuples ++ [edge.triple] ++ rest.map Edge.triple).Nodup ∧
            ∀ edge ∈ rest, Passes rt graph kinds edge := by
        have moreIds := ids.concat freshId
        have moreTriples := triples.concat freshTriple
        rw [List.concat_eq_append] at moreIds moreTriples
        rcases checkEdge_seen checked with ⟨_, rfl⟩
        exact ih moreIds moreTriples
      constructor
      · rintro ⟨final, run, none⟩
        rcases bind_ok_iff.mp run with ⟨next, checked, later⟩
        have clean : next.errors = [] := by
          have grown := (foldlM_checkEdge_final later).1
          rw [none] at grown
          exact List.prefix_nil.mp grown
        rcases (indexed.checkEdge_iff checked).mp clean with ⟨before, freshId, freshTriple, passes⟩
        rcases (step checked freshId freshTriple).mp ⟨final, later, none⟩ with
          ⟨_, laterIds, laterTriples, others⟩
        exact ⟨before, ⟨freshId, laterIds⟩, ⟨freshTriple, laterTriples⟩, passes, others⟩
      · rintro ⟨clean, ⟨freshId, laterIds⟩, ⟨freshTriple, laterTriples⟩, passes, others⟩
        rcases checkEdge_of_passes passes with ⟨next, checked⟩
        have nextClean := (indexed.checkEdge_iff checked).mpr ⟨clean, freshId, freshTriple, passes⟩
        rcases (step checked freshId freshTriple).mpr
          ⟨nextClean, laterIds, laterTriples, others⟩ with ⟨final, run, none⟩
        exact ⟨final, bind_ok_iff.mpr ⟨next, checked, run⟩, none⟩

end Indexed

/-- No target is ambiguous exactly when no two pairs have one target. -/
theorem ambiguities_eq_nil_iff {supersededBy : List (String × String)} :
    ambiguities supersededBy = [] ↔ (supersededBy.map Prod.fst).Nodup := by
  have count (target : String) : (supersededBy.filter fun pair => pair.1 = target).length =
      (supersededBy.map Prod.fst).count target := by
    rw [List.count_eq_countP, List.countP_map, List.countP_eq_length_filter]
    rfl
  rw [ambiguities, List.flatMap_eq_nil_iff, List.nodup_iff_count_le_one]
  simp only [reasonIf_eq_nil_iff, Nat.not_lt, List.mem_eraseDups, count]
  constructor
  · intro few target
    by_cases listed : target ∈ supersededBy.map Prod.fst
    · exact few target listed
    · rw [List.count_eq_zero_of_not_mem listed]
      exact Nat.zero_le 1
  · exact fun few target _ => few target

theorem type_unique {first second kind : String} {one other : String}
    (firstListed : first ∈ supersessionEdges) (secondListed : second ∈ supersessionEdges)
    (firstEnds : edgeEndpoints.lookup first = some (kind, one))
    (secondEnds : edgeEndpoints.lookup second = some (kind, other)) : first = second := by
  have requirement : edgeEndpoints.lookup "REQUIREMENT_SUPERSEDES_REQUIREMENT" =
      some ("REQUIREMENT", "REQUIREMENT") := rfl
  have decision : edgeEndpoints.lookup "DECISION_SUPERSEDES_DECISION" =
      some ("DECISION", "DECISION") := rfl
  have different : "REQUIREMENT" ≠ "DECISION" := by decide
  simp only [supersessionEdges, List.mem_cons, List.not_mem_nil, or_false]
    at firstListed secondListed
  rcases firstListed with rfl | rfl
  · rcases secondListed with rfl | rfl
    · rfl
    · rw [requirement, Option.some.injEq, Prod.mk.injEq] at firstEnds
      rw [decision, Option.some.injEq, Prod.mk.injEq] at secondEnds
      exact absurd (firstEnds.1.trans secondEnds.1.symm) different
  · rcases secondListed with rfl | rfl
    · rw [decision, Option.some.injEq, Prod.mk.injEq] at firstEnds
      rw [requirement, Option.some.injEq, Prod.mk.injEq] at secondEnds
      exact absurd (secondEnds.1.trans firstEnds.1.symm) different
    · rfl

theorem hasNode_unique {id kind other : String}
    (nodes : ((nodesOf rt graph).map Node.id).Nodup) (one : HasNode rt graph id kind)
    (two : HasNode rt graph id other) : kind = other := by
  rcases one with ⟨node, inside, rfl, rfl⟩
  rcases two with ⟨second, insideToo, sameId, rfl⟩
  rw [List.inj_on_of_nodup_map nodes insideToo inside sameId]

theorem Indexed.once_iff {kinds : List (String × String)} {edges : List Edge}
    (indexed : Indexed rt graph kinds) (fits : ∀ edge ∈ edges, Fits rt graph edge)
    (triples : (edges.map Edge.triple).Nodup) :
    ((edges.filter (Supersedes kinds ·)).map Edge.target).Nodup ↔ Once edges := by
  have mem (edge : Edge) : edge ∈ edges.filter (Supersedes kinds ·) ↔
      edge ∈ edges ∧ edge.type ∈ supersessionEdges := by
    rw [List.mem_filter, decide_eq_true_iff]
    exact and_congr_right fun inside => and_iff_left (indexed.joined (fits edge inside))
  constructor
  · intro different first inFirst second inSecond firstType secondType sameTarget
    have same := List.inj_on_of_nodup_map different ((mem first).mpr ⟨inFirst, firstType⟩)
      ((mem second).mpr ⟨inSecond, secondType⟩) sameTarget
    rw [same]
  · intro once
    refine List.Nodup.map_on ?_ (List.Nodup.filter _ (List.Nodup.of_map _ triples))
    intro first inFirst second inSecond sameTarget
    rcases (mem first).mp inFirst with ⟨inFirst, firstType⟩
    rcases (mem second).mp inSecond with ⟨inSecond, secondType⟩
    have sameSource := once first inFirst second inSecond firstType secondType sameTarget
    rcases fits first inFirst with ⟨kind, _, firstEnds, hasFirst, _⟩
    rcases fits second inSecond with ⟨other, _, secondEnds, hasSecond, _⟩
    rw [sameSource] at hasFirst
    cases hasNode_unique indexed.nodes hasFirst hasSecond
    have sameType := type_unique firstType secondType firstEnds secondEnds
    apply List.inj_on_of_nodup_map triples inFirst inSecond
    rw [Edge.triple, Edge.triple, sameType, sameSource, sameTarget]

/-! ## Versions -/

section Versions

variable {kinds : List (String × String)} {edge : Edge}

theorem intOf_integer (value : Int) : intOf rt (.num value) = .ok value := by
  rw [intOf, Int.floor_intCast, Int.ceil_intCast, ite_self]

theorem versionOf_integer {record : Fields} {version : Int}
    (isVersion : get record "version" = .num version) : versionOf rt record = .ok version := by
  have found : record.lookup "version" = some (.num version) := by
    unfold Json.get at isVersion
    cases found : record.lookup "version" with
    | none =>
        rw [found] at isVersion
        cases isVersion
    | some value =>
        rw [found] at isVersion
        exact congrArg some isVersion
  rw [versionOf, found]
  exact intOf_integer version

theorem record_unique (nodes : ((nodesOf rt graph).map Node.id).Nodup)
    {first second : Fields} {id : String} (inFirst : first ∈ rows graph "records")
    (inSecond : second ∈ rows graph "records") (isFirst : get first "id" = .str id)
    (isSecond : get second "id" = .str id) : first = second := by
  have records : ((rows graph "records").map (idOf rt)).Nodup := by
    have whole := nodes
    rw [nodesOf, nodeGroups, List.flatMap_cons, List.map_append, List.map_map] at whole
    exact whole.of_append_left
  apply List.inj_on_of_nodup_map records inFirst inSecond
  rw [idOf, idOf, isFirst, isSecond]

theorem recordOf_eq_some {id : String} {record : Fields} (found : recordOf graph id = some record) :
    record ∈ rows graph "records" ∧ get record "id" = .str id :=
  ⟨List.mem_of_find?_eq_some found, by simpa using List.find?_some found⟩

theorem versionErrors_of_records {newer older : Fields} {new old : Int}
    (source : recordOf graph edge.source = some newer)
    (target : recordOf graph edge.target = some older) (isNew : get newer "version" = .num new)
    (isOld : get older "version" = .num old) :
    versionErrors rt graph edge = .ok [] ↔ old < new := by
  rw [versionErrors, source, target]
  dsimp only
  rw [versionOf_integer isNew, versionOf_integer isOld]
  constructor
  · intro none
    exact Int.not_le.mp (reasonIf_eq_nil_iff.mp (Except.ok.inj none))
  · intro less
    exact congrArg Except.ok (reasonIf_eq_nil_iff.mpr (Int.not_le.mpr less))

theorem versionErrors_eq_nil_iff (typed : Typed graph)
    (nodes : ((nodesOf rt graph).map Node.id).Nodup) :
    versionErrors rt graph edge = .ok [] ↔ Rising graph edge := by
  cases source : recordOf graph edge.source with
  | none =>
      have nothing : versionErrors rt graph edge = .ok [] := by
        rw [versionErrors, source]
        rfl
      refine iff_of_true nothing fun newer inNewer _ _ _ _ isNewer => ?_
      have missing := List.find?_eq_none.mp source newer inNewer
      simp [isNewer] at missing
  | some newer =>
      cases target : recordOf graph edge.target with
      | none =>
          have nothing : versionErrors rt graph edge = .ok [] := by
            rw [versionErrors, source, target]
            rfl
          refine iff_of_true nothing fun _ _ older inOlder _ _ _ isOlder => ?_
          have missing := List.find?_eq_none.mp target older inOlder
          simp [isOlder] at missing
      | some older =>
          rcases recordOf_eq_some source with ⟨inNewer, isNewer⟩
          rcases recordOf_eq_some target with ⟨inOlder, isOlder⟩
          rcases typed.versions newer inNewer with ⟨new, isNew⟩
          rcases typed.versions older inOlder with ⟨old, isOld⟩
          rw [versionErrors_of_records source target isNew isOld]
          constructor
          · intro less first inFirst second inSecond one other isFirst isSecond isOne isOther
            rw [record_unique nodes inFirst inNewer isFirst isNewer, isNew] at isOne
            rw [record_unique nodes inSecond inOlder isSecond isOlder, isOld] at isOther
            cases isOne
            cases isOther
            exact less
          · intro rising
            exact rising newer inNewer older inOlder new old isNewer isOlder isNew isOld

end Versions

end Adwf.Traceability
