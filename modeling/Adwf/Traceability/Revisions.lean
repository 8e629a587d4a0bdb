import Adwf.Traceability.Coherence

/-!
# Accepted graphs are the coherent ones

The index of the nodes and the judgement of the edges find nothing exactly when
the graph is coherent.
-/

namespace Adwf.Traceability

open Fallible (bind_ok_iff)

variable {rt : Runtime} {graph : Fields} {kinds : List (String × String)}

theorem validateEdges_eq_nil_iff {index : Index} : validateEdges rt graph index = .ok [] ↔
      ∃ final, (edgesOf rt graph).foldlM (checkEdge rt graph index.kinds) .start = .ok final ∧
        final.errors = [] ∧ ambiguities final.supersededBy = [] ∧
        cycleErrors index.names final.adjacency = [] := by
  rw [validateEdges, bind_ok_iff]
  constructor
  · rintro ⟨final, run, none⟩
    have none := Except.ok.inj none
    rw [List.append_eq_nil_iff, List.append_eq_nil_iff] at none
    exact ⟨final, run, none.1.1, none.1.2, none.2⟩
  · rintro ⟨final, run, errors, ambiguous, cycles⟩
    refine ⟨final, run, ?_⟩
    rw [errors, ambiguous, cycles]
    rfl

theorem Indexed.run_iff (indexed : Indexed rt graph kinds) :
    (∃ final, (edgesOf rt graph).foldlM (checkEdge rt graph kinds) .start = .ok final ∧
        final.errors = []) ↔ ((edgesOf rt graph).map Edge.id).Nodup ∧
        ((edgesOf rt graph).map Edge.triple).Nodup ∧
        ∀ edge ∈ edgesOf rt graph, Passes rt graph kinds edge := by
  rw [indexed.foldlM_checkEdge_iff _ List.nodup_nil List.nodup_nil]
  exact and_iff_right rfl

/-! ## The state after the loop -/

section Final

variable {final : EdgeState}

/-- The successors after the loop are where the edges lead. -/
theorem Indexed.mem_adjacency_iff (indexed : Indexed rt graph kinds)
    (fits : ∀ edge ∈ edgesOf rt graph, Fits rt graph edge)
    (run : (edgesOf rt graph).foldlM (checkEdge rt graph kinds) .start = .ok final)
    {node target : String} : target ∈ final.adjacency node ↔ Leads rt graph node target := by
  rw [(foldlM_checkEdge_final run).2.1]
  constructor
  · rintro (known | ⟨edge, inside, _, source, target⟩)
    · exact absurd known List.not_mem_nil
    · exact ⟨edge, inside, source, target⟩
  · rintro ⟨edge, inside, source, target⟩
    exact Or.inr ⟨edge, inside, indexed.joined (fits edge inside), source, target⟩

theorem Indexed.mem_names_of_leads (indexed : Indexed rt graph kinds)
    (fits : ∀ edge ∈ edgesOf rt graph, Fits rt graph edge) {node target : String}
    (leads : Leads rt graph node target) : target ∈ kinds.map Prod.fst := by
  rcases leads with ⟨edge, inside, _, rfl⟩
  rcases fits edge inside with ⟨_, kind, _, _, found, listed, isTarget, _⟩
  rw [indexed.names, ← isTarget]
  exact List.mem_map_of_mem listed

theorem Indexed.cycles_iff (indexed : Indexed rt graph kinds)
    (fits : ∀ edge ∈ edgesOf rt graph, Fits rt graph edge)
    (run : (edgesOf rt graph).foldlM (checkEdge rt graph kinds) .start = .ok final) :
    cycleErrors (kinds.map Prod.fst) final.adjacency = [] ↔
      ∀ node, ¬Relation.TransGen (Leads rt graph) node node := by
  have closed : ∀ node, ∀ next ∈ final.adjacency node, next ∈ kinds.map Prod.fst :=
    fun _ _ isNext =>
      indexed.mem_names_of_leads fits ((indexed.mem_adjacency_iff fits run).mp isNext)
  have same : Graph.Edge final.adjacency (kinds.map Prod.fst) = Leads rt graph := by
    funext node target
    rw [Graph.Edge, ← indexed.mem_adjacency_iff fits run]
    exact propext (and_iff_left_of_imp (closed node target))
  rw [cycleErrors_eq_nil_iff closed, same]

theorem Indexed.ambiguities_iff (indexed : Indexed rt graph kinds)
    (fits : ∀ edge ∈ edgesOf rt graph, Fits rt graph edge)
    (triples : ((edgesOf rt graph).map Edge.triple).Nodup)
    (run : (edgesOf rt graph).foldlM (checkEdge rt graph kinds) .start = .ok final) :
    ambiguities final.supersededBy = [] ↔ Once (edgesOf rt graph) := by
  rw [ambiguities_eq_nil_iff, (foldlM_checkEdge_final run).2.2, EdgeState.start, List.nil_append,
    List.map_map, ← indexed.once_iff fits triples]
  rfl

end Final

theorem Indexed.passes_iff (indexed : Indexed rt graph kinds) (typed : Typed graph)
    {edge : Edge} (fits : Fits rt graph edge) : risingErrors rt graph kinds edge = .ok [] ↔
      (edge.type ∈ supersessionEdges → Rising graph edge) := by
  unfold risingErrors
  by_cases supersession : edge.type ∈ supersessionEdges
  · rw [if_pos ⟨supersession, indexed.joined fits⟩, versionErrors_eq_nil_iff typed indexed.nodes]
    exact ⟨fun rising _ => rising, fun rising => rising supersession⟩
  · rw [if_neg fun supersedes => supersession supersedes.1]
    exact iff_of_true rfl fun listed => absurd listed supersession

theorem noErrors_iff (typed : Typed graph) : (nodeIndex rt graph).errors = [] ∧
        validateEdges rt graph (nodeIndex rt graph) = .ok [] ↔ Coherent rt graph := by
  constructor
  · rintro ⟨clean, valid⟩
    have indexed := indexed_nodeIndex clean
    rcases validateEdges_eq_nil_iff.mp valid with ⟨final, run, errors, ambiguous, cycles⟩
    rcases indexed.run_iff.mp ⟨final, run, errors⟩ with ⟨ids, triples, passes⟩
    have fits : ∀ edge ∈ edgesOf rt graph, Fits rt graph edge :=
      fun edge inside => (passes edge inside).fits
    exact {
      named := (nodeIndex_errors_iff.mp clean).1
      nodes := indexed.nodes
      ids := ids
      triples := triples
      joins := fits
      acyclic := (indexed.cycles_iff fits run).mp cycles
      once := (indexed.ambiguities_iff fits triples run).mp ambiguous
      rising := fun edge inside =>
        (indexed.passes_iff typed (fits edge inside)).mp (passes edge inside).rising }
  · intro coherent
    have clean := nodeIndex_errors_iff.mpr ⟨coherent.named, coherent.nodes⟩
    have indexed := indexed_nodeIndex clean
    have passes : ∀ edge ∈ edgesOf rt graph, Passes rt graph (nodeIndex rt graph).kinds edge := by
      intro edge inside
      refine ⟨coherent.joins edge inside, ?_, ?_⟩
      · intro loop
        exact coherent.acyclic edge.source (Relation.TransGen.single ⟨edge, inside, rfl, loop.symm⟩)
      · rw [indexed.passes_iff typed (coherent.joins edge inside)]
        exact coherent.rising edge inside
    rcases indexed.run_iff.mpr ⟨coherent.ids, coherent.triples, passes⟩ with ⟨final, run, errors⟩
    exact ⟨clean, validateEdges_eq_nil_iff.mpr ⟨final, run, errors,
      (indexed.ambiguities_iff coherent.joins coherent.triples run).mpr coherent.once,
      (indexed.cycles_iff coherent.joins run).mpr coherent.acyclic⟩⟩

end Adwf.Traceability

/-!
## Revisions of the graph

`validate_revision_transition` and `validate_traceability_graph`.  Over a chain
of accepted revisions nothing that was ever recorded is lost or changed.
-/

namespace Adwf.Traceability

open Fallible (bind_ok_iff require)
open Json (get)
open RuntimeLedger (textOrEmpty)
open Trust (reasonIf reasonIf_eq_nil_iff eraseDups_eq_nil_iff)

/-! ## The parts of the validation -/

/-- What the validation reads beside the graph: the schema findings, the digest of a file
below the root, whether a path leaves the root, the ids of capabilities and roadmap where
they are readable, and the projection. -/
structure Surroundings where
  schemaFindings : Fields → Except String (List (String × String))
  fileDigest : String → Option String
  escapes : String → Bool
  capabilities : Option (List String)
  roadmapIds : Option (List String)
  projection : Fields → Except String Json

/-- `_without`. -/
def without (fields : Fields) (name : String) : Fields :=
  fields.filter fun field => field.1 ≠ name

/-- `RECORD_PREFIX`. -/
def recordPrefix : List (String × String) :=
  [("OWNER_INTENT_REF", "INTENT-"), ("REQUIREMENT", "REQ-"), ("DECISION", "DEC-")]

/-- `RECORD_STATUS`. -/
def recordStatus : List (String × List String) :=
  [("OWNER_INTENT_REF", ["ACTIVE"]), ("REQUIREMENT", ["ACTIVE", "WITHDRAWN"]),
    ("DECISION", ["ACCEPTED", "REJECTED", "DEFERRED"])]

/-- `_safe_relative`. -/
def safeRelative (value : String) : Bool :=
  value ≠ "" && !Text.startsWith value "/" && '\\' ∉ value.toList &&
    ['.', '.'] ∉ value.toList.splitOn '/'

section Parts

variable (rt : Runtime)

/-- `str(item.get("id") or "?")`. -/
def idOrUnknown (item : Fields) : String :=
  if (get item "id").truthy then rt.text (get item "id") else "?"

/-- The member is not the digest of the others. -/
def sealError (item : Fields) (name error : String) : List String :=
  reasonIf (get item name ≠ .str (rt.digest (.obj (without item name)))) error

/-- `_validate_digests`. -/
def validateDigests (graph : Fields) : List String :=
  ((rows graph "records").flatMap fun record =>
    sealError rt record "record_sha256"
      ("TRACE_RECORD_DIGEST_MISMATCH:" ++ idOrUnknown rt record)) ++
  (["capability_refs", "work_unit_refs", "evidence_refs"].flatMap fun field =>
    (rows graph field).flatMap fun ref =>
      sealError rt ref "ref_sha256"
        ("TRACE_REF_DIGEST_MISMATCH:" ++ idOrUnknown rt ref)) ++
  ((rows graph "edges").flatMap fun edge =>
    sealError rt edge "edge_sha256"
      ("TRACE_EDGE_DIGEST_MISMATCH:" ++ idOrUnknown rt edge)) ++
  sealError rt graph "graph_sha256" "TRACE_GRAPH_DIGEST_MISMATCH"

/-- The value is an integer of at least one. -/
def isPositive : Json → Bool
  | .num value => value.den = 1 && 1 ≤ value
  | _ => false

/-- The source of an owner intent. -/
def sourceErrors (world : Surroundings) (id : String) (record : Fields) : List String :=
  match get record "source_path" with
  | .str path =>
      if safeRelative path = false then ["TRACE_INTENT_SOURCE_PATH_INVALID:" ++ id]
      else if world.escapes path then ["TRACE_INTENT_SOURCE_ESCAPES_ROOT:" ++ id]
      else
        match world.fileDigest path with
        | none => ["TRACE_INTENT_SOURCE_MISSING:" ++ id ++ ":" ++ path]
        | some digest =>
            reasonIf (get record "source_sha256" ≠ .str digest)
              ("TRACE_INTENT_SOURCE_DIGEST_MISMATCH:" ++ id)
  | _ => ["TRACE_INTENT_SOURCE_PATH_INVALID:" ++ id]

/-- `status not in statuses`; a list or an object has no hash. -/
def statusErrors (id kind : String) (record : Fields) : Except String (List String) :=
  match get record "status" with
  | .arr _ | .obj _ => .error "TypeError"
  | .str status =>
      return reasonIf (status ∉ (recordStatus.lookup kind).getD [])
        ("TRACE_RECORD_STATUS_INVALID:" ++ id)
  | _ => return ["TRACE_RECORD_STATUS_INVALID:" ++ id]

/-- The loop body of `_validate_records`. -/
def recordErrors (world : Surroundings) (record : Fields) : Except String (List String) := do
  let id := idOf rt record
  let kind := textOrEmpty rt (get record "kind")
  let status ← statusErrors id kind record
  return reasonIf (((recordPrefix.lookup kind).map (Text.startsWith id)) ≠ some true)
      ("TRACE_RECORD_KIND_ID_MISMATCH:" ++ id ++ ":" ++ kind) ++
    status ++
    reasonIf (isPositive (get record "version") = false) ("TRACE_RECORD_VERSION_INVALID:" ++ id) ++
    if kind = "OWNER_INTENT_REF" then sourceErrors world id record
    else reasonIf (get record "source_path" ≠ .null ∨ get record "source_sha256" ≠ .null)
      ("TRACE_NON_INTENT_SOURCE_FIELDS_FORBIDDEN:" ++ id)

/-- `_validate_records`. -/
def validateRecords (world : Surroundings) (graph : Fields) : Except String (List String) := do
  let errors ← (rows graph "records").mapM (recordErrors rt world)
  return errors.flatten

/-- `AIWP-` and 24 hexadecimal digits. -/
def isPackageId (text : String) : Bool :=
  Text.startsWith text "AIWP-" &&
    Text.fullmatch Text.isLowerHex 24 24 (String.ofList (text.toList.drop 5))

/-- One work unit against the roadmap. -/
def workErrors (roadmapIds : List String) (ref : Fields) : List String :=
  reasonIf (textOrEmpty rt (get ref "roadmap_id") ∉ roadmapIds)
    ("TRACE_WORK_REF_UNKNOWN_ROADMAP:" ++ idOrUnknown rt ref) ++
  reasonIf (get ref "issue_number" ≠ .null ∧ isPositive (get ref "issue_number") = false)
    ("TRACE_WORK_REF_ISSUE_INVALID:" ++ idOrUnknown rt ref) ++
  reasonIf (get ref "ai_work_package_id" ≠ .null ∧
      isPackageId (rt.text (get ref "ai_work_package_id")) = false)
    ("TRACE_WORK_REF_PACKAGE_INVALID:" ++ idOrUnknown rt ref)

/-- `_validate_external_refs`. -/
def validateExternalRefs (world : Surroundings) (graph : Fields) : List String :=
  reasonIf (world.capabilities = none) "TRACE_CAPABILITY_TRUTH_UNREADABLE" ++
  ((rows graph "capability_refs").flatMap fun ref =>
    reasonIf (textOrEmpty rt (get ref "capability_id") ∉ world.capabilities.getD [])
      ("TRACE_CAPABILITY_REF_UNKNOWN:" ++ idOrUnknown rt ref)) ++
  reasonIf (world.roadmapIds = none) "TRACE_ROADMAP_UNREADABLE" ++
  (rows graph "work_unit_refs").flatMap (workErrors rt (world.roadmapIds.getD []))

/-! ## The transition -/

/-- The members that hold what is immutable. -/
def recordedFields : List String :=
  ["records", "capability_refs", "work_unit_refs", "evidence_refs", "edges"]

/-- `{str(item.get("id") or ""): item for item in items}` at an id. -/
def itemAt (items : List Fields) (id : String) : Option Fields :=
  items.reverse.find? fun item => idOf rt item = id

/-- One id of the previous items against the current ones. -/
def itemError (field : String) (old new : List Fields) (id : String) : List String :=
  match itemAt rt new id with
  | none => ["TRACE_IMMUTABLE_ITEM_REMOVED:" ++ field ++ ":" ++ id]
  | some item =>
      reasonIf (some item ≠ itemAt rt old id)
        ("TRACE_IMMUTABLE_ITEM_CHANGED:" ++ field ++ ":" ++ id)

/-- `int(graph.get("revision", 0))`. -/
def revisionOf (graph : Fields) : Except String Int :=
  intOf rt ((graph.lookup "revision").getD (.num 0))

/-- `validate_revision_transition`. -/
def validateRevisionTransition (previous current : Fields) : Except String (List String) :=
  if current = previous then return []
  else do
    let revision ← revisionOf rt current
    let before ← revisionOf rt previous
    return reasonIf (revision ≤ before) "TRACE_REVISION_NOT_INCREASING" ++
      recordedFields.flatMap fun field =>
        ((rows previous field).map (idOf rt)).eraseDups.flatMap
          (itemError rt field (rows previous field) (rows current field))

/-- The errors about the transition, if there is a previous graph. -/
def transitionErrors (previous : Option Fields) (graph : Fields) : Except String (List String) :=
  match previous with
  | none => return []
  | some previous => validateRevisionTransition rt previous graph

/-- `validate_traceability_graph`: the errors and the projection. -/
def validateTraceabilityGraph (world : Surroundings) (previous : Option Fields)
    (graph : Fields) : Except String (List String × Json) := do
  let findings ← world.schemaFindings graph
  let _ ← require (recordedFields.all (isReadable graph) = true) "AttributeError"
  let index := nodeIndex rt graph
  let records ← validateRecords rt world graph
  let edges ← validateEdges rt graph index
  let transition ← transitionErrors rt previous graph
  let projection ← world.projection graph
  return (((findings.map fun finding => "SCHEMA:" ++ finding.1 ++ ":" ++ finding.2) ++
    reasonIf (get graph "schema_version" ≠ .num 1 ∨
      get graph "role" ≠ .str "CANONICAL_DECISION_REQUIREMENT_TRACEABILITY")
      "TRACE_GRAPH_ROLE_OR_VERSION_INVALID" ++
    index.errors ++ validateDigests rt graph ++ records ++
    validateExternalRefs rt world graph ++ edges ++ transition).eraseDups, projection)

/-- `result["valid"]`. -/
def Accepted (world : Surroundings) (previous : Option Fields) (graph : Fields) : Prop :=
  ∃ projection, validateTraceabilityGraph rt world previous graph = .ok ([], projection)

/-- Revisions, the latest first, each accepted after the one before it. -/
inductive History : List Fields → Prop where
  | first {world : Surroundings} {previous : Option Fields} {graph : Fields}
      (accepted : Accepted rt world previous graph) : History [graph]
  | next {world : Surroundings} {graph previous : Fields} {earlier : List Fields}
      (history : History (previous :: earlier))
      (accepted : Accepted rt world (some previous) graph) :
      History (graph :: previous :: earlier)

end Parts

section Acceptance

variable {rt : Runtime} {world : Surroundings} {previous : Option Fields} {graph : Fields}

theorem Accepted.parts (accepted : Accepted rt world previous graph) :
    (nodeIndex rt graph).errors = [] ∧ validateEdges rt graph (nodeIndex rt graph) = .ok [] ∧
      transitionErrors rt previous graph = .ok [] := by
  rcases accepted with ⟨projection, valid⟩
  rcases bind_ok_iff.mp valid with ⟨findings, _, valid⟩
  rcases bind_ok_iff.mp valid with ⟨_, _, valid⟩
  rcases bind_ok_iff.mp valid with ⟨records, _, valid⟩
  rcases bind_ok_iff.mp valid with ⟨edges, judged, valid⟩
  rcases bind_ok_iff.mp valid with ⟨transition, moved, valid⟩
  rcases bind_ok_iff.mp valid with ⟨_, _, valid⟩
  have none := congrArg Prod.fst (Except.ok.inj valid)
  dsimp only at none
  rw [eraseDups_eq_nil_iff] at none
  simp only [List.append_eq_nil_iff] at none
  rcases none with ⟨⟨⟨⟨⟨⟨_, nodes⟩, _⟩, _⟩, _⟩, noEdges⟩, noTransition⟩
  exact ⟨nodes, noEdges ▸ judged, noTransition ▸ moved⟩

theorem Accepted.ids_nodup (accepted : Accepted rt world previous graph) {field : String}
    (recorded : field ∈ recordedFields) : ((rows graph field).map (idOf rt)).Nodup := by
  rcases accepted.parts with ⟨clean, judged, _⟩
  have indexed := indexed_nodeIndex clean
  by_cases isEdges : field = "edges"
  · rcases validateEdges_eq_nil_iff.mp judged with ⟨final, run, errors, _⟩
    have ids := (indexed.run_iff.mp ⟨final, run, errors⟩).1
    rw [edgesOf, List.map_map] at ids
    rw [isEdges]
    exact ids
  · have group : ∃ kind, (field, kind) ∈ nodeGroups := by
      simp only [recordedFields, List.mem_cons, List.not_mem_nil, or_false] at recorded
      rcases recorded with rfl | rfl | rfl | rfl | rfl
      · exact ⟨none, by simp [nodeGroups]⟩
      · exact ⟨some "CAPABILITY_REF", by simp [nodeGroups]⟩
      · exact ⟨some "WORK_UNIT_REF", by simp [nodeGroups]⟩
      · exact ⟨some "EVIDENCE_REF", by simp [nodeGroups]⟩
      · exact absurd rfl isEdges
    rcases group with ⟨kind, listed⟩
    have ids := indexed.nodes
    rw [nodesOf, List.map_flatMap] at ids
    have part := (List.nodup_flatMap.mp ids).1 (field, kind) listed
    rw [List.map_map] at part
    exact part

end Acceptance

/-! ## Nothing is lost -/

section Kept

variable {rt : Runtime} {world : Surroundings} {previous graph : Fields} {field : String}
  {item : Fields}

theorem itemAt_eq_some_iff {items : List Fields}
    (distinct : (items.map (idOf rt)).Nodup) {id : String} :
    itemAt rt items id = some item ↔ item ∈ items ∧ idOf rt item = id := by
  constructor
  · intro found
    have isId := List.find?_some found
    exact ⟨List.mem_reverse.mp (List.mem_of_find?_eq_some found), of_decide_eq_true isId⟩
  · rintro ⟨inside, rfl⟩
    cases found : itemAt rt items (idOf rt item) with
    | none =>
        have missing := List.find?_eq_none.mp found item (List.mem_reverse.mpr inside)
        simp at missing
    | some other =>
        have isId := List.find?_some found
        have known := List.mem_reverse.mp (List.mem_of_find?_eq_some found)
        rw [List.inj_on_of_nodup_map distinct known inside (of_decide_eq_true isId)]

theorem transition_keeps (moved : validateRevisionTransition rt previous graph = .ok [])
    (recorded : field ∈ recordedFields) (before : ((rows previous field).map (idOf rt)).Nodup)
    (after : ((rows graph field).map (idOf rt)).Nodup) (inside : item ∈ rows previous field) :
    item ∈ rows graph field := by
  unfold validateRevisionTransition at moved
  by_cases same : graph = previous
  · rw [same]
    exact inside
  · rw [if_neg same] at moved
    rcases bind_ok_iff.mp moved with ⟨revision, _, moved⟩
    rcases bind_ok_iff.mp moved with ⟨earlier, _, moved⟩
    have none := (List.append_eq_nil_iff.mp (Except.ok.inj moved)).2
    have inField := List.flatMap_eq_nil_iff.mp none field recorded
    have noError := List.flatMap_eq_nil_iff.mp inField (idOf rt item)
      (List.mem_eraseDups.mpr (List.mem_map_of_mem inside))
    have old := (itemAt_eq_some_iff before).mpr ⟨inside, rfl⟩
    rw [itemError, old] at noError
    cases new : itemAt rt (rows graph field) (idOf rt item) with
    | none =>
        rw [new] at noError
        cases noError
    | some other =>
        rw [new] at noError
        have kept := not_not.mp (reasonIf_eq_nil_iff.mp noError)
        rw [kept] at new
        exact ((itemAt_eq_some_iff after).mp new).1

theorem Accepted.keeps {earlier : Option Fields} {before : Surroundings}
    (accepted : Accepted rt world (some previous) graph)
    (acceptedBefore : Accepted rt before earlier previous) (recorded : field ∈ recordedFields)
    (inside : item ∈ rows previous field) : item ∈ rows graph field :=
  transition_keeps accepted.parts.2.2 recorded (acceptedBefore.ids_nodup recorded)
    (accepted.ids_nodup recorded) inside

theorem History.accepted {earlier : List Fields} (history : History rt (graph :: earlier)) :
    ∃ world previous, Accepted rt world previous graph := by
  cases history with
  | first accepted => exact ⟨_, _, accepted⟩
  | next _ accepted => exact ⟨_, _, accepted⟩

theorem History.keeps {revisions : List Fields} (history : History rt revisions)
    {latest : Fields} (isLatest : revisions.head? = some latest) (inHistory : graph ∈ revisions)
    (recorded : field ∈ recordedFields) (inside : item ∈ rows graph field) :
    item ∈ rows latest field := by
  induction history generalizing latest with
  | first _ =>
      cases isLatest
      rw [List.mem_singleton.mp inHistory] at inside
      exact inside
  | next history accepted ih =>
      cases isLatest
      rcases List.mem_cons.mp inHistory with rfl | before
      · exact inside
      · rcases history.accepted with ⟨_, _, acceptedBefore⟩
        exact accepted.keeps acceptedBefore recorded (ih rfl before)

end Kept

/-- The checks find nothing exactly in coherent graphs, and accepted revisions only add. -/
theorem coherent_and_kept (rt : Runtime) : (∀ graph, Typed graph →
      ((nodeIndex rt graph).errors = [] ∧ validateEdges rt graph (nodeIndex rt graph) = .ok [] ↔
        Coherent rt graph)) ∧ ∀ latest earlier, History rt (latest :: earlier) →
        ∀ graph ∈ latest :: earlier, ∀ field ∈ recordedFields, ∀ item ∈ rows graph field,
          item ∈ rows latest field :=
  ⟨fun _ typed => noErrors_iff typed, fun _ _ history _ inHistory _ recorded _ inside =>
    history.keeps rfl inHistory recorded inside⟩

end Adwf.Traceability
