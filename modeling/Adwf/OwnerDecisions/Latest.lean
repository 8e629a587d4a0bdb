import Adwf.OwnerDecisions.Store

/-!
# The latest owner decision

Decisions are recorded at increasing times.  The latest one is read back unless
the text of an earlier time is behind that of a later one.
-/

namespace Adwf.OwnerDecisions

open Fallible JsonText
open Stamp (Moment)

/-! ## Reading a recorded comment back -/

section Comments

variable {tools : Tools} {call : Call}

theorem wellFormed_payload : Value.WellFormed tools.floats (.dict (call.payload tools)) := by
  constructor
  · simp only [Call.payload, digestKey, List.map_cons, List.map_nil]
    rw [← List.isChain_iff_pairwise]
    decide +kernel
  · simp [Call.payload, Value.WellFormedMembers, Value.WellFormed]

/-- A body that was written is read back. -/
theorem parse_bodyOf : parse tools (bodyOf (call.payload tools)) = some (call.payload tools) := by
  have starts : bodyStart.isPrefixOf (bodyOf (call.payload tools)) = true := by
    rw [List.isPrefixOf_iff_prefix, bodyOf, List.append_assoc]
    exact List.prefix_append _ _
  have ends : bodyEnd.isSuffixOf (bodyOf (call.payload tools)) = true := by
    rw [List.isSuffixOf_iff_suffix, bodyOf]
    exact List.suffix_append _ _
  have inner : ((bodyOf (call.payload tools)).take
      ((bodyOf (call.payload tools)).length - bodyEnd.length)).drop bodyStart.length =
        canonicalText (.dict (call.payload tools)) := by
    rw [bodyOf, List.length_append, Nat.add_sub_cancel, List.take_left, List.drop_left]
  rw [parse, starts, ends, inner, loads_canonicalText wellFormed_payload]
  rfl

theorem unsigned_payload : unsigned (call.payload tools) = call.unsigned := by
  simp [unsigned, Call.payload, Call.unsigned, digestKey]

end Comments

/-! ## Runs -/

/-- The decisions that a sequence of calls records, each accepted, and the provider afterwards. -/
def recordAll (tools : Tools) (forge : Forge) : List Call → Except String (Forge × List Decision)
  | [] => .ok (forge, [])
  | call :: calls => do
      let first ← record tools forge call
      let rest ← recordAll tools first.1 calls
      return (rest.1, first.2 :: rest.2)

/-- A call with the number of its comment. -/
abbrev Entry := Call × Int

/-- The decision of an entry. -/
def decisionOf (tools : Tools) (entry : Entry) : Decision :=
  ⟨entry.2, entry.1.payload tools⟩

/-- The comment of an entry. -/
def commentOf (tools : Tools) (entry : Entry) : Comment :=
  ⟨entry.2, entry.1.actor, bodyOf (entry.1.payload tools)⟩

section Runs

variable {tools : Tools} {forge after : Forge} {call : Call} {calls : List Call} {issue : Issue}
variable {decision : Decision} {decisions : List Decision} {entry : Entry} {entries : List Entry}
variable {headSha : String}

/-- What `record` does where there is one open issue for decisions. -/
structure Records (forge : Forge) (issue : Issue) (tools : Tools) (entry : Entry)
    (after : Forge) : Prop where
  named : entry.1.actor ≠ ""
  allowed : mayDecide forge entry.1.actor = true
  issues : after.decisionIssues = [issue]
  permission : after.permission = forge.permission
  comments : after.comments issue.number = forge.comments issue.number ++ [commentOf tools entry]

theorem records_of_record (single : forge.decisionIssues = [issue])
    (recorded : record tools forge call = .ok (after, decision)) :
    ∃ id, Records forge issue tools (call, id) after ∧ decision = decisionOf tools (call, id) := by
  have ensured : ensureIssue forge = .ok (forge, issue) := by
    rw [ensureIssue, single]
  simp only [record, bind_ok_iff, require_eq_ok_iff, ensured] at recorded
  rcases recorded with ⟨_, _, _, _, _, named, level, permitted, _, allowed, _, ⟨⟩, _, _, ⟨⟩⟩
  refine ⟨forge.nextComment, ⟨named, ?_, single, rfl, ?_⟩, rfl⟩
  · rw [mayDecide, permitted]
    exact allowed
  · simp [Forge.addComment, commentOf]

/-- The comments of a run are its entries, in order. -/
structure Recorded (forge : Forge) (issue : Issue) (tools : Tools) (entries : List Entry)
    (after : Forge) : Prop where
  named : ∀ entry ∈ entries, entry.1.actor ≠ ""
  allowed : ∀ entry ∈ entries, mayDecide after entry.1.actor = true
  issues : after.decisionIssues = [issue]
  permission : after.permission = forge.permission
  comments : after.comments issue.number =
    forge.comments issue.number ++ entries.map (commentOf tools)

theorem recorded_of_recordAll (single : forge.decisionIssues = [issue])
    (run : recordAll tools forge calls = .ok (after, decisions)) :
    ∃ entries, Recorded forge issue tools entries after ∧ entries.map Prod.fst = calls ∧
      decisions = entries.map (decisionOf tools) := by
  induction calls generalizing forge decisions with
  | nil =>
      cases run
      exact ⟨[], ⟨by simp, by simp, single, rfl, by simp⟩, rfl, rfl⟩
  | cons call calls ih =>
      simp only [recordAll, bind_ok_iff] at run
      rcases run with ⟨⟨middle, first⟩, recorded, ⟨last, others⟩, rest, ⟨⟩⟩
      rcases records_of_record single recorded with ⟨id, records, rfl⟩
      rcases ih records.issues rest with ⟨entries, later, rfl, rfl⟩
      refine ⟨(call, id) :: entries, ⟨?_, ?_, later.issues, ?_, ?_⟩, rfl, rfl⟩
      · exact List.forall_mem_cons.mpr ⟨records.named, later.named⟩
      · refine List.forall_mem_cons.mpr ⟨?_, later.allowed⟩
        have same : mayDecide last call.actor = mayDecide forge call.actor := by
          rw [mayDecide, mayDecide, later.permission, records.permission]
        rw [same]
        exact records.allowed
      · rw [later.permission, records.permission]
      · rw [later.comments, records.comments, List.map_cons, List.append_assoc]
        rfl

theorem candidate_commentOf (named : entry.1.actor ≠ "")
    (allowed : mayDecide forge entry.1.actor = true) :
    candidate tools forge headSha (commentOf tools entry) =
      if entry.1.request.headSha = headSha then some (decisionOf tools entry) else none := by
  unfold candidate commentOf
  simp only [parse_bodyOf, unsigned_payload, allowed]
  simp [Call.payload, decisionOf, Value.asText, digestKey, named]

/-- The entries of one commit. -/
def entriesFor (headSha : String) (entries : List Entry) : List Entry :=
  entries.filter fun entry => entry.1.request.headSha = headSha

theorem recordedAt_decisionOf :
    recordedAt tools (decisionOf tools entry) = entry.1.now.isoText := by
  simp [recordedAt, decisionOf, Call.payload, digestKey]

theorem latestForSha_of_recorded (recorded : Recorded forge issue tools entries after)
    (fresh : ∀ comment ∈ forge.comments issue.number, parse tools comment.body = none) :
    latestForSha tools after headSha =
      Ranked.lastBy (recordedAt tools) ((entriesFor headSha entries).map (decisionOf tools)) := by
  have before : (forge.comments issue.number).filterMap (candidate tools after headSha) = [] := by
    apply List.filterMap_eq_nil_iff.mpr
    intro comment inside
    rw [candidate, fresh comment inside]
  have own : (entries.map (commentOf tools)).filterMap (candidate tools after headSha) =
      (entriesFor headSha entries).map (decisionOf tools) := by
    rw [List.filterMap_map, entriesFor, ← List.filterMap_eq_map, List.filterMap_filter]
    apply List.filterMap_congr
    intro entry inside
    rw [Function.comp_apply, candidate_commentOf (recorded.named entry inside)
      (recorded.allowed entry inside)]
    simp
  rw [latestForSha, recorded.issues]
  simp only
  rw [recorded.comments, List.filterMap_append, before, own, List.nil_append]

/-! ## The latest decision wins -/

/-- The decision is one for the commit. -/
def isFor (headSha : String) (decision : Decision) : Bool :=
  (Value.get decision.value "head_sha").asText = some headSha

/-- After every call the store returns the last decision that was recorded for each commit. -/
def LatestWins (tools : Tools) (forge : Forge) (calls : List Call) : Prop :=
  ∀ front back after decisions, calls = front ++ back →
    recordAll tools forge front = .ok (after, decisions) →
      ∀ headSha, latestForSha tools after headSha = (decisions.filter (isFor headSha)).getLast?

/-- Nothing is recorded for a commit in a second in whose first instant something was recorded for
the same commit. -/
def NoWholeSecond (calls : List Call) : Prop :=
  calls.Pairwise fun earlier later => earlier.request.headSha = later.request.headSha →
    ¬(earlier.now.fields = later.now.fields ∧ earlier.now.microsecond = 0)

theorem filter_isFor : (entries.map (decisionOf tools)).filter (isFor headSha) =
      (entriesFor headSha entries).map (decisionOf tools) := by
  rw [List.filter_map, entriesFor]
  congr 1
  apply List.filter_congr
  intro entry _
  simp [isFor, decisionOf, Call.payload, digestKey, Value.asText]

/-- What is accepted as a whole is accepted in its beginning. -/
theorem exists_recordAll_of_append {front back : List Call} {result : Forge × List Decision}
    (run : recordAll tools forge (front ++ back) = .ok result) :
    ∃ after decisions, recordAll tools forge front = .ok (after, decisions) := by
  induction front generalizing forge result with
  | nil => exact ⟨forge, [], rfl⟩
  | cons call front ih =>
      rw [List.cons_append] at run
      simp only [recordAll, bind_ok_iff] at run
      rcases run with ⟨first, recorded, rest, others, _⟩
      rcases ih others with ⟨after, decisions, found⟩
      refine ⟨after, first.2 :: decisions, ?_⟩
      simp only [recordAll, recorded, ok_bind, found]
      rfl

/-- There is one open issue for decisions, and no decision in it yet. -/
structure Ready (tools : Tools) (forge : Forge) (issue : Issue) : Prop where
  single : forge.decisionIssues = [issue]
  fresh : ∀ comment ∈ forge.comments issue.number, parse tools comment.body = none

/-- The clock of the calls increases. -/
def Increasing (calls : List Call) : Prop :=
  calls.Pairwise fun earlier later => earlier.now.Before later.now

theorem pairwise_entriesFor {relates : Call → Call → Prop}
    (ordered : (entries.map Prod.fst).Pairwise relates) :
    (entriesFor headSha entries).Pairwise fun earlier later => relates earlier.1 later.1 :=
  (List.pairwise_map.mp ordered).sublist List.filter_sublist

/-- An entry behind the others of its commit is read back. -/
theorem lastBy_eq_getLast? (increasing : Increasing (entries.map Prod.fst))
    (apart : NoWholeSecond (entries.map Prod.fst)) :
    Ranked.lastBy (recordedAt tools) ((entriesFor headSha entries).map (decisionOf tools)) =
      ((entriesFor headSha entries).map (decisionOf tools)).getLast? := by
  have order := @pairwise_entriesFor _ headSha _ increasing
  have noWhole := @pairwise_entriesFor _ headSha _ apart
  have own : ∀ entry ∈ entriesFor headSha entries, entry.1.request.headSha = headSha :=
    fun entry inside => of_decide_eq_true (List.mem_filter.mp inside).2
  rcases List.eq_nil_or_concat (entriesFor headSha entries) with empty | ⟨front, last, split⟩
  · rw [empty]
    rfl
  rw [List.concat_eq_append] at split
  rw [split] at order noWhole own ⊢
  rw [List.map_append, List.map_singleton, List.getLast?_concat]
  apply Ranked.lastBy_append_singleton
  intro decision inside
  rcases List.mem_map.mp inside with ⟨entry, listed, rfl⟩
  have before := (List.pairwise_append.mp order).2.2 entry listed last List.mem_cons_self
  have apartHere := (List.pairwise_append.mp noWhole).2.2 entry listed last List.mem_cons_self
  rw [recordedAt_decisionOf, recordedAt_decisionOf, Moment.isoText_lt_iff before]
  apply apartHere
  rw [own entry (List.mem_append_left _ listed),
    own last (List.mem_append_right _ List.mem_cons_self)]

theorem not_whole_of_lastBy {last : Entry} (read : Ranked.lastBy (recordedAt tools)
      ((entriesFor headSha entries).map (decisionOf tools)) = some (decisionOf tools last))
    (inside : entry ∈ entriesFor headSha entries) (before : entry.1.now.Before last.1.now) :
    ¬(entry.1.now.fields = last.1.now.fields ∧ entry.1.now.microsecond = 0) := by
  rintro ⟨same, whole⟩
  have behind := Ranked.le_of_lastBy read (List.mem_map_of_mem inside)
  rw [recordedAt_decisionOf, recordedAt_decisionOf] at behind
  exact absurd (Moment.isoText_lt_of_whole before same whole) (not_lt.mpr behind)

theorem noWholeSecond_of_latestWins (ready : Ready tools forge issue)
    (wins : LatestWins tools forge calls) {result : Forge × List Decision}
    (accepted : recordAll tools forge calls = .ok result) (increasing : Increasing calls) :
    NoWholeSecond calls := by
  have beginnings : ∀ front back, calls = front ++ back → NoWholeSecond front := by
    intro front
    induction front using List.reverseRecOn with
    | nil => exact fun _ _ => List.Pairwise.nil
    | append_singleton front call ih =>
        intro back split
        have shorter := ih (call :: back) (by rw [split, List.append_assoc]; rfl)
        refine List.pairwise_append.mpr ⟨shorter, List.pairwise_singleton _ _, ?_⟩
        intro earlier inside later isLast
        rcases List.mem_singleton.mp isLast with rfl
        intro sameHead
        rw [split] at accepted increasing
        rcases exists_recordAll_of_append accepted with ⟨after, decisions, run⟩
        rcases recorded_of_recordAll ready.single run with ⟨entries, recorded, calls_eq, rfl⟩
        have read := wins _ back _ _ split run later.request.headSha
        rw [latestForSha_of_recorded recorded ready.fresh, filter_isFor] at read
        have order := (List.pairwise_append.mp increasing).1
        have before := (List.pairwise_append.mp order).2.2 earlier inside later List.mem_cons_self
        -- The last entry is the one of the last call.
        rcases List.map_eq_append_iff.mp calls_eq with ⟨others, final, rfl, fronts, finals⟩
        rcases List.map_eq_singleton_iff.mp finals with ⟨last, rfl, rfl⟩
        rw [← fronts] at inside
        rcases List.mem_map.mp inside with ⟨entry, listed, rfl⟩
        have own : entriesFor last.1.request.headSha (others ++ [last]) =
            entriesFor last.1.request.headSha others ++ [last] := by
          simp [entriesFor, List.filter_append]
        have final : ((entriesFor last.1.request.headSha (others ++ [last])).map
            (decisionOf tools)).getLast? = some (decisionOf tools last) := by
          rw [own, List.map_append, List.map_singleton, List.getLast?_concat]
        have mem : entry ∈ entriesFor last.1.request.headSha (others ++ [last]) :=
          List.mem_filter.mpr ⟨List.mem_append_left _ listed, decide_eq_true sameHead⟩
        exact not_whole_of_lastBy (read.trans final) mem before
  exact beginnings calls [] (List.append_nil _).symm

theorem decisionIssues_addComment (number : Int) (login : String) (body : List Char) :
    (forge.addComment number login body).decisionIssues = forge.decisionIssues :=
  rfl

/-- The conditions of `record` where there is one open issue for decisions. -/
structure Accepts (forge : Forge) (call : Call) : Prop where
  decision : ["ACCEPTED", "CHANGES_REQUESTED", "DEFERRED"].contains call.request.decision = true
  bound : Text.isSha40 call.request.headSha = true ∧
    Text.isSha256 call.request.previewDigest = true ∧ Text.isSha256 call.request.policyHash = true
  named : call.actor ≠ ""
  permitted : forge.permission call.actor = .ok "admin"
  numbered : forge.nextComment ≠ 0

theorem record_of_accepts (single : forge.decisionIssues = [issue]) (accepts : Accepts forge call) :
    record tools forge call =
      .ok (forge.addComment issue.number call.actor (bodyOf (call.payload tools)),
        ⟨forge.nextComment, call.payload tools⟩) := by
  have ensured : ensureIssue forge = .ok (forge, issue) := by
    rw [ensureIssue, single]
  have level : ["admin", "maintain"].contains "admin" = true := by decide
  simp only [record]
  rw [require_bind_of accepts.decision, require_bind_of accepts.bound,
    require_bind_of accepts.named, accepts.permitted, ok_bind, require_bind_of level, ensured,
    ok_bind, require_bind_of accepts.numbered]
  rfl

end Runs

/-! ## A change of mind within a second -/

section WithinSecond

def plainTools : Tools where
  floats := ⟨id, fun _ => none, normal_id⟩
  digest _ := ""
  textOf _ := ""

def decisionIssue : Issue :=
  ⟨1, title, "open"⟩

/-- A repository with the issue, whose members are administrators. -/
def plainForge : Forge where
  issues := [decisionIssue]
  comments _ := []
  permission _ := .ok "admin"
  nextIssue := 2
  nextComment := 1

def instant (microsecond : Nat) (small : microsecond < 1000000) : Moment where
  year := 2026
  month := 9
  day := 1
  hour := 10
  minute := 0
  second := 0
  microsecond
  year_lt := by decide
  month_lt := by decide
  day_lt := by decide
  hour_lt := by decide
  minute_lt := by decide
  second_lt := by decide
  microsecond_lt := small

def requestOf (decision : String) : Request where
  decision
  headSha := String.ofList (List.replicate 40 'a')
  previewDigest := String.ofList (List.replicate 64 'b')
  policyHash := String.ofList (List.replicate 64 'c')
  nonce := none

def accepting : Call :=
  ⟨requestOf "ACCEPTED", "owner", instant 0 (by decide), "n1"⟩

def objecting : Call :=
  ⟨requestOf "CHANGES_REQUESTED", "owner", instant 1 (by decide), "n2"⟩

theorem ready_plainForge : Ready plainTools plainForge decisionIssue where
  single := by
    simp [Forge.decisionIssues, plainForge, decisionIssue]
  fresh comment inside := by cases inside

theorem bound_requestOf (decision : String) : Text.isSha40 (requestOf decision).headSha = true ∧
      Text.isSha256 (requestOf decision).previewDigest = true ∧
        Text.isSha256 (requestOf decision).policyHash = true := by
  have hexA : Text.isLowerHex 'a' = true := by decide
  have hexB : Text.isLowerHex 'b' = true := by decide
  have hexC : Text.isLowerHex 'c' = true := by decide
  exact ⟨Text.fullmatch_replicate hexA 40, Text.fullmatch_replicate hexB 64,
    Text.fullmatch_replicate hexC 64⟩

theorem accepted_both :
    ∃ result, recordAll plainTools plainForge [accepting, objecting] = .ok result := by
  have first : Accepts plainForge accepting :=
    ⟨by decide, bound_requestOf _, by decide, rfl, by decide⟩
  have second : Accepts (plainForge.addComment decisionIssue.number accepting.actor
      (bodyOf (accepting.payload plainTools))) objecting :=
    ⟨by decide, bound_requestOf _, by decide, rfl, by simp [Forge.addComment, plainForge]⟩
  have single : (plainForge.addComment decisionIssue.number accepting.actor
      (bodyOf (accepting.payload plainTools))).decisionIssues = [decisionIssue] := by
    rw [decisionIssues_addComment, ready_plainForge.single]
  rw [recordAll, record_of_accepts ready_plainForge.single first, ok_bind, recordAll,
    record_of_accepts single second]
  exact ⟨_, rfl⟩

theorem increasing_both : Increasing [accepting, objecting] := by
  unfold Increasing
  simp [accepting, objecting, Moment.Before, Moment.fields, instant]

end WithinSecond

end Adwf.OwnerDecisions
