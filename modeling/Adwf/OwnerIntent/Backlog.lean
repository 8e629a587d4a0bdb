import Adwf.Contracts.Validate
import Adwf.Incidents.Runs
import Adwf.JsonText.Builtins

/-!
# The owner backlog

While a run is active, a further task of the owner becomes a product brief that
is appended to a file with one JSON object a line.
-/

namespace Adwf.OwnerIntent

open Fallible JsonText
open Contracts (spaced)
open Incidents (Tools Clock Unbroken plainTools sanitizeMembers)
open Value (WellFormed)

/-! ## Product briefs -/

/-- The payload of `create_intent`. -/
def intentPayload (task : String) : Members :=
  [("goal_ru", .str task), ("value_ru", .str "Получить полезный результат, описанный владельцем."),
    ("outcome_ru", .str task),
    ("acceptance_criteria_ru",
      .list [.str "Результат соответствует исходному намерению владельца."]),
    ("visual_expectation_ru", .str ("Если изменение визуальное — показать before/after " ++
      "desktop/mobile; иначе показать проверяемое резюме результата.")),
    ("constraints_ru",
      .list [.str "FREE_ONLY mandatory path; fail-closed; no trust-boundary self-approval."]),
    ("owner_request_original", .str task)]

/-- What `create_product_brief` returns. -/
structure Brief where
  briefId : String
  goal : String
  value : String
  outcome : String
  criteria : List String
  visual : String
  constraints : List String
  original : String
  createdAt : String
  findings : Nat

section Create

variable (tools : Tools)

def builtins : Builtins where
  floats := tools.floats
  textOf := tools.textOf

/-- `str(value or default).strip()`. -/
def stripOr (value : Value) (default : String) : String :=
  Text.strip (if (builtins tools).truthy value then (builtins tools).text value else default)

/-- The texts of a list of texts. -/
def asTexts : Value → Option (List String)
  | .list items => items.mapM Value.asText
  | _ => none

/-- `brief_source`. -/
def briefSource (brief : Brief) : Members :=
  [("acceptance_criteria_ru", .list (brief.criteria.map .str)),
    ("constraints_ru", .list (brief.constraints.map .str)), ("goal_ru", .str brief.goal),
    ("outcome_ru", .str brief.outcome), ("owner_request_original", .str brief.original),
    ("value_ru", .str brief.value), ("visual_expectation_ru", .str brief.visual)]

/-- `BRIEF_ID`. -/
def isBriefId (text : String) : Bool :=
  Text.startsWith text "BRIEF-" &&
    Text.fullmatch Text.isLowerHex 16 16 (String.ofList (text.toList.drop 6))

/-- `create_product_brief`. -/
def createProductBrief (payload : Members) (now : Clock) : Except String Brief := do
  let (cleaned, findings) := sanitizeMembers tools "$" payload
  let get := Value.get cleaned
  ["goal_ru", "value_ru", "outcome_ru"].forM fun key =>
    require (10 ≤ (stripOr tools (get key) "").length) ("PRODUCT_BRIEF_FIELD_MISSING:" ++ key)
  let criteria := (asTexts (get "acceptance_criteria_ru")).getD []
  require (criteria ≠ [] ∧ ∀ item ∈ criteria, 5 ≤ (Text.strip item).length)
    "PRODUCT_BRIEF_ACCEPTANCE_INVALID"
  let constraints ← (builtins tools).itemsOr (get "constraints_ru")
  let goal := stripOr tools (get "goal_ru") ""
  let brief : Brief :=
    { goal
      briefId := ""
      value := stripOr tools (get "value_ru") ""
      outcome := stripOr tools (get "outcome_ru") ""
      criteria := criteria.map Text.strip
      visual := stripOr tools (get "visual_expectation_ru") "Визуальная приёмка не требуется."
      constraints := (constraints.map fun item => Text.strip ((builtins tools).text item)).filter
        (· ≠ "")
      original := stripOr tools (get "owner_request_original") goal
      createdAt := now.text
      findings := findings.length }
  let digest := tools.digestOf (.dict (briefSource brief))
  let given := get "brief_id"
  let briefId := if (builtins tools).truthy given then (builtins tools).text given
    else "BRIEF-" ++ String.ofList (digest.toList.take 16)
  require (isBriefId briefId = true) "PRODUCT_BRIEF_ID_INVALID"
  return { brief with briefId }

/-- `create_intent`. -/
def createIntent (task : String) (now : Clock) : Except String Brief := do
  require (5 ≤ (Text.strip task).length) "OWNER_INTENT_TOO_SHORT"
  createProductBrief tools (intentPayload (Text.strip task)) now

end Create

/-! ## The file -/

/-- The record of a brief in the backlog. -/
def Brief.record (brief : Brief) : Value :=
  .dict
    [("acceptance_criteria_ru", .list (brief.criteria.map .str)), ("brief_id", .str brief.briefId),
      ("constraints_ru", .list (brief.constraints.map .str)), ("created_at", .str brief.createdAt),
      ("goal_ru", .str brief.goal), ("outcome_ru", .str brief.outcome),
      ("owner_request_original", .str brief.original),
      ("redaction", .dict
        [("findings_count", .int brief.findings), ("status", .str "SANITIZED")]),
      ("schema_version", .int 1), ("status", .str "QUEUED"), ("value_ru", .str brief.value),
      ("visual_expectation_ru", .str brief.visual)]

/-- The line of a record. -/
def Brief.line (brief : Brief) : List Char :=
  render spaced brief.record

/-- The text of `briefs.jsonl`, when there is one. -/
abbrev Backlog :=
  Option (List Char)

inductive Answer where
  | alreadyQueued (brief : Brief)
  | queuedNewTask (brief : Brief) (position : Nat)

section Queue

variable (tools : Tools)

/-- `strict_loads` of a line. -/
def readLine (line : List Char) : Except String Value :=
  match loads tools.floats line with
  | .error .decode => .error "JSONDecodeError"
  | .error (.duplicateKey key) => .error ("DUPLICATE_JSON_KEY:" ++ key)
  | .ok value => .ok value

/-- The records of the backlog. -/
def readRecords : Backlog → Except String (List Value)
  | none => .ok []
  | some text =>
      ((Lines.splitText text).filter fun line => !line.all Text.isSpace).mapM (readLine tools)

/-- `any(x.get('brief_id') == brief_id for x in existing)`. -/
def anyQueued (briefId : String) : List Value → Except String Bool
  | [] => .ok false
  | .dict fields :: records =>
      if (Value.get fields "brief_id").isText briefId then .ok true else anyQueued briefId records
  | _ :: _ => .error "AttributeError"

/-- `_queue_brief`. -/
def queueBrief (backlog : Backlog) (brief : Brief) : Except String (Backlog × Answer) := do
  let existing ← readRecords tools backlog
  let queued ← anyQueued brief.briefId existing
  if queued then return (backlog, .alreadyQueued brief)
  else
    return (some (backlog.getD [] ++ (brief.line ++ ['\n'])),
      .queuedNewTask brief (existing.length + 1))

/-- A task of the owner and its time. -/
structure Call where
  task : String
  now : Clock

/-- `start_or_queue` while one run is active. -/
def startOrQueue (backlog : Backlog) (call : Call) : Except String (Backlog × Answer) := do
  let brief ← createIntent tools call.task call.now
  queueBrief tools backlog brief

/-- The backlog, and the briefs that were answered as queued. -/
structure Queue where
  backlog : Backlog := none
  queued : List Brief := []

/-- One call; a call that raises changes nothing. -/
def enqueue (queue : Queue) (call : Call) : Queue :=
  match startOrQueue tools queue.backlog call with
  | .ok (backlog, .queuedNewTask brief _) => ⟨backlog, queue.queued ++ [brief]⟩
  | .ok (backlog, .alreadyQueued _) => ⟨backlog, queue.queued⟩
  | .error _ => queue

/-- The backlog holds one record for each brief id, in the order of the answers. -/
structure Complete (queue : Queue) : Prop where
  records : readRecords tools queue.backlog = .ok (queue.queued.map Brief.record)
  distinct : (queue.queued.map Brief.briefId).Nodup

/-- A task that is accepted is queued, or found in the backlog, which then stays. -/
def Answered (queue : Queue) (call : Call) : Prop :=
  ∀ brief, createIntent tools call.task call.now = .ok brief →
    if brief.briefId ∈ queue.queued.map Brief.briefId then
      startOrQueue tools queue.backlog call = .ok (queue.backlog, .alreadyQueued brief)
    else
      ∃ backlog, startOrQueue tools queue.backlog call =
        .ok (backlog, .queuedNewTask brief (queue.queued.length + 1))

/-- No text of the brief breaks a line. -/
def Whole (call : Call) : Prop :=
  ∀ brief, createIntent tools call.task call.now = .ok brief → Unbroken brief.record

end Queue

/-! ## Reading back -/

section Sound

variable {tools : Tools} {queue : Queue} {call : Call} {brief : Brief} {briefs : List Brief}

theorem wellFormed_record : WellFormed tools.floats brief.record := by
  refine ⟨by simp only [List.map]; decide, Incidents.wellFormed_strs _, trivial,
    Incidents.wellFormed_strs _, trivial, trivial, trivial, trivial, ?_, trivial, trivial, trivial,
    trivial, trivial⟩
  exact ⟨by simp only [List.map]; decide, trivial, trivial, trivial⟩

theorem readLine_line : readLine tools brief.line = .ok brief.record := by
  rw [readLine, Brief.line, loads_render spaced wellFormed_record]

theorem line_not_blank : brief.line.all Text.isSpace = false := by
  have solid : Text.isSpace '\x7b' = false := by decide
  simp [Brief.line, Brief.record, render, solid]

theorem mapM_readLine : (briefs.map Brief.line).mapM (readLine tools) =
    .ok (briefs.map Brief.record) := by
  induction briefs with
  | nil => rfl
  | cons brief briefs ih =>
      rw [List.map_cons, List.mapM_cons, readLine_line, ok_bind, ih]
      rfl

theorem readRecords_joinLines (whole : ∀ brief ∈ briefs, Unbroken brief.record) :
    readRecords tools (some (Lines.joinLines (briefs.map Brief.line))) =
      .ok (briefs.map Brief.record) := by
  have unbroken : ∀ line ∈ briefs.map Brief.line, ∀ char ∈ line,
      Lines.textBreaks.contains char = false := by
    intro line mem
    rcases List.mem_map.mp mem with ⟨brief, inside, rfl⟩
    exact Incidents.render_whole (by simp [spaced]) (whole brief inside)
  have solid : ∀ line ∈ briefs.map Brief.line, (!line.all Text.isSpace) = true := by
    intro line mem
    rcases List.mem_map.mp mem with ⟨brief, _, rfl⟩
    rw [line_not_blank]
    rfl
  rw [readRecords, Lines.splitText, Lines.splitLines_joinLines (by decide) unbroken,
    List.filter_eq_self.mpr solid]
  exact mapM_readLine

theorem anyQueued_records (briefId : String) : anyQueued briefId (briefs.map Brief.record) =
    .ok (decide (briefId ∈ briefs.map Brief.briefId)) := by
  induction briefs with
  | nil => rfl
  | cons brief briefs ih =>
      have stored : anyQueued briefId (brief.record :: briefs.map Brief.record) =
          if (Value.str brief.briefId).isText briefId then .ok true
          else anyQueued briefId (briefs.map Brief.record) := rfl
      rw [List.map_cons, stored, ih]
      by_cases same : briefId = brief.briefId
      · simp [Value.isText, same]
      · simp [Value.isText, same, Ne.symm same]

/-- The backlog is the lines of the queued briefs, whose ids differ. -/
structure Sound (tools : Tools) (queue : Queue) : Prop where
  stored : queue.backlog.getD [] = Lines.joinLines (queue.queued.map Brief.line)
  absent : queue.backlog = none → queue.queued = []
  whole : ∀ brief ∈ queue.queued, Unbroken brief.record
  distinct : (queue.queued.map Brief.briefId).Nodup

theorem Sound.readRecords (sound : Sound tools queue) :
    readRecords tools queue.backlog = .ok (queue.queued.map Brief.record) := by
  cases found : queue.backlog with
  | none =>
      rw [sound.absent found]
      rfl
  | some text =>
      have stored := sound.stored
      rw [found, Option.getD_some] at stored
      rw [stored]
      exact readRecords_joinLines sound.whole

theorem Sound.startOrQueue (sound : Sound tools queue)
    (created : createIntent tools call.task call.now = .ok brief) :
    startOrQueue tools queue.backlog call =
      .ok (if brief.briefId ∈ queue.queued.map Brief.briefId then
        (queue.backlog, .alreadyQueued brief)
      else (some (queue.backlog.getD [] ++ (brief.line ++ ['\n'])),
        .queuedNewTask brief (queue.queued.length + 1))) := by
  rw [OwnerIntent.startOrQueue, created, ok_bind, queueBrief, sound.readRecords, ok_bind,
    anyQueued_records, ok_bind, List.length_map]
  by_cases known : brief.briefId ∈ queue.queued.map Brief.briefId
  · simp only [known, decide_true, if_true]
    rfl
  · simp only [known, decide_false, Bool.false_eq_true, if_false]
    rfl

theorem Sound.answered (sound : Sound tools queue) : Answered tools queue call := by
  intro brief created
  rw [sound.startOrQueue created]
  split_ifs
  · rfl
  · exact ⟨_, rfl⟩

theorem Sound.enqueue (sound : Sound tools queue) (whole : Whole tools call) :
    Sound tools (enqueue tools queue call) := by
  cases created : createIntent tools call.task call.now with
  | error text =>
      have refused : OwnerIntent.startOrQueue tools queue.backlog call = .error text := by
        rw [OwnerIntent.startOrQueue, created]
        rfl
      rw [OwnerIntent.enqueue, refused]
      exact sound
  | ok brief =>
      rw [OwnerIntent.enqueue, sound.startOrQueue created]
      by_cases known : brief.briefId ∈ queue.queued.map Brief.briefId
      · rw [if_pos known]
        exact sound
      · rw [if_neg known]
        constructor
        · rw [Option.getD_some, sound.stored, List.map_append, Lines.joinLines_append]
          simp
        · simp
        · intro other mem
          rcases List.mem_append.mp mem with old | new
          · exact sound.whole other old
          · rcases List.mem_singleton.mp new with rfl
            exact whole _ created
        · rw [List.map_append, List.nodup_append]
          refine ⟨sound.distinct, by simp, ?_⟩
          intro first mem second new
          rcases List.mem_singleton.mp new with rfl
          rintro rfl
          exact known mem

end Sound

/-- In every run of calls whose briefs break no line, each accepted task is queued
or known, and the backlog reads back as the records of the queued briefs. -/
theorem backlog_complete {tools : Tools} (calls : List Call)
    (whole : Run.Along (enqueue tools) (fun _ call => Whole tools call) {} calls) :
    Run.Always (enqueue tools) (Complete tools) {} calls ∧
      Run.Along (enqueue tools) (Answered tools) {} calls := by
  have start : Sound tools {} := ⟨rfl, fun _ => rfl, by simp, by simp⟩
  have sound : Run.Always (enqueue tools) (Sound tools) {} calls :=
    Run.always_of_guarded (fun _ _ sound whole => sound.enqueue whole) start whole
  exact ⟨sound.imp fun _ sound => ⟨sound.readRecords, sound.distinct⟩,
    Run.Along.of_always (fun _ call sound => sound.answered) sound⟩

/-! ## A plain task -/

/-- A task at a fixed time. -/
def plainCall (task : String) : Call where
  task := task
  now := { text := "2025-01-31T12:00:00Z", iso := Incidents.iso_plainTime }

section Literal

-- Decoding a literal is slow in the kernel, so a literal is replaced by its characters.
variable {text first second : String} {chars others : List Char} {task : String} {now : Clock}

theorem toList_of_eq (same : text = String.ofList chars) : text.toList = chars := by
  rw [same, String.toList_ofList]

theorem append_of_eq (same : first = String.ofList chars) (also : second = String.ofList others) :
    first ++ second = String.ofList (chars ++ others) := by
  rw [same, also, String.ofList_append]

theorem strip_of_eq (same : text = String.ofList chars)
    (bare : ((chars.dropWhile Text.isSpace).reverse.dropWhile Text.isSpace).reverse = chars) :
    Text.strip text = text := by
  rw [Text.strip, toList_of_eq same, bare, same]

theorem unbroken_of_eq (same : text = String.ofList chars)
    (whole : (chars.all fun char => !Incidents.wideBreaks.contains char) = true) :
    Unbroken (.str text) := by
  intro char wide other mem inside
  rcases List.mem_singleton.mp mem with rfl
  rw [toList_of_eq same] at inside
  have kept := List.all_eq_true.mp whole char inside
  simp [wide] at kept

/-- The brief of a task that needs no cleaning. -/
def plainBrief (task : String) (now : Clock) : Brief where
  briefId := "BRIEF-0000000000000000"
  goal := task
  value := "Получить полезный результат, описанный владельцем."
  outcome := task
  criteria := ["Результат соответствует исходному намерению владельца."]
  visual := "Если изменение визуальное — показать before/after " ++
    "desktop/mobile; иначе показать проверяемое резюме результата."
  constraints := ["FREE_ONLY mandatory path; fail-closed; no trust-boundary self-approval."]
  original := task
  createdAt := now.text
  findings := 0

theorem createIntent_plain (bare : Text.strip task = task) (long : 10 ≤ task.length) :
    createIntent plainTools task now = .ok (plainBrief task now) := by
  have value : Text.strip (plainBrief task now).value = _ := strip_of_eq rfl (by decide +kernel)
  have criterion : Text.strip "Результат соответствует исходному намерению владельца." = _ :=
    strip_of_eq rfl (by decide +kernel)
  have visual : Text.strip (plainBrief task now).visual = _ :=
    strip_of_eq (append_of_eq rfl rfl) (by decide +kernel)
  have limit : Text.strip
      "FREE_ONLY mandatory path; fail-closed; no trust-boundary self-approval." = _ :=
    strip_of_eq rfl (by decide +kernel)
  have wide : 10 ≤ "Получить полезный результат, описанный владельцем.".length ∧
      5 ≤ "Результат соответствует исходному намерению владельца.".length := by
    rw [← String.length_toList, toList_of_eq rfl, ← String.length_toList, toList_of_eq rfl]
    decide
  have short : 5 ≤ task.length := le_trans (by decide) long
  have stated : task ≠ "" := by
    rintro rfl
    simp at long
  have digest : ∀ value, "BRIEF-" ++ String.ofList ((plainTools.digestOf value).toList.take 16) =
      "BRIEF-0000000000000000" := by
    intro value
    rw [show plainTools.digestOf value = String.ofList (List.replicate 64 '0') from rfl,
      String.toList_ofList]
    decide +kernel
  have named : isBriefId "BRIEF-0000000000000000" = true := by decide +kernel
  have clean : sanitizeMembers plainTools "$" (intentPayload task) = (intentPayload task, []) := rfl
  rw [createIntent, bare, require_bind_of short, createProductBrief, clean]
  simp only [plainBrief] at value visual
  simp [intentPayload, Value.get, List.lookup, stripOr, Builtins.truthy, Builtins.text, Value.asText,
    asTexts, Builtins.itemsOr, plainBrief, stated, bare, long, wide, value, criterion, visual, limit,
    digest, named, require_bind_of, ok_bind, -String.reduceAppend]
  rfl

theorem enqueue_plain {call : Call} (bare : Text.strip call.task = call.task)
    (long : 10 ≤ call.task.length) : enqueue plainTools {} call =
      ⟨some ((plainBrief call.task call.now).line ++ ['\n']),
        [plainBrief call.task call.now]⟩ := by
  rw [enqueue, startOrQueue, createIntent_plain bare long]
  rfl

theorem whole_plainCall : Whole plainTools (plainCall "Paint the door green") := by
  intro brief created
  rw [plainCall, createIntent_plain (strip_of_eq rfl (by decide)) (by decide)] at created
  cases created
  have item : ∀ text, Unbroken (.str text) → Unbroken (.list [.str text]) := fun text whole => by
    simpa [Unbroken, Value.texts, Value.textsOfItems] using whole
  have number : ∀ value, Unbroken (.int value) := by simp [Unbroken, Value.texts]
  simp only [Brief.record, plainBrief, Incidents.unbroken_dict, List.forall_mem_cons, number,
    List.map]
  and_intros
  all_goals
    first
    | exact unbroken_of_eq rfl (by decide)
    | exact unbroken_of_eq (append_of_eq rfl rfl) (by decide)
    | exact item _ (unbroken_of_eq rfl (by decide))
    | simp

end Literal

theorem backlog_twice :
    let calls := [plainCall "Paint the door green", plainCall "Paint the door green"]
    Run.Always (enqueue Incidents.plainTools) (Complete Incidents.plainTools) {} calls ∧
      Run.Along (enqueue Incidents.plainTools) (Answered Incidents.plainTools) {} calls :=
  backlog_complete _ ⟨whole_plainCall, whole_plainCall, trivial⟩

/-- A task with a line separator is queued, and the backlog is unreadable from then on. -/
theorem lineSeparator_wedges :
    ¬ ∀ (tools : Tools) (calls : List Call), Run.Always (enqueue tools) (Complete tools) {} calls ∧
      Run.Along (enqueue tools) (Answered tools) {} calls := by
  intro complete
  have unreadable : (readRecords Incidents.plainTools (enqueue Incidents.plainTools {}
      (plainCall "Paint the door\u2028and the wall")).backlog).isOk = false := by
    rw [enqueue_plain (strip_of_eq rfl (by decide)) (by decide)]
    decide +kernel
  have read := (complete Incidents.plainTools
    [plainCall "Paint the door\u2028and the wall"]).1.2
  simp only [Run.Always] at read
  rw [read.records] at unreadable
  cases unreadable

end Adwf.OwnerIntent
