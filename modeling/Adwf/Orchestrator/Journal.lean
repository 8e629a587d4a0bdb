import Adwf.Value.Json
import Adwf.Value.Text
import Adwf.Policy.Permission

/-!
# The durable journal of one run

A journal is the whole state of an orchestration run: its phase and status, the
revisions bound to it, its budgets and the hash chain of its events.
`validateJournal` is the check every load performs; `WellFormed` names the
facts it establishes.
-/

namespace Adwf.Orchestrator

open Adwf.Policy

/-- The phases of a run.  `unknown` holds a stored name outside `PHASES`. -/
inductive Phase where
  | reconcile | authorize | claim | workspace | execute | openPr | ci | review | preview
  | ownerAcceptance | merge | promote | observe | done | cleanup | next | recovery
  | unknown (name : String)
  deriving DecidableEq, Repr

namespace Phase

def name : Phase → String
  | reconcile => "RECONCILE"
  | authorize => "AUTHORIZE"
  | claim => "CLAIM"
  | workspace => "WORKSPACE"
  | execute => "EXECUTE"
  | openPr => "OPEN_PR"
  | ci => "CI"
  | review => "REVIEW"
  | preview => "PREVIEW"
  | ownerAcceptance => "OWNER_ACCEPTANCE"
  | merge => "MERGE"
  | promote => "PROMOTE"
  | observe => "OBSERVE"
  | done => "DONE"
  | cleanup => "CLEANUP"
  | next => "NEXT"
  | recovery => "RECOVERY"
  | unknown name => name

/-- Membership in `PHASES`. -/
def isKnown : Phase → Bool
  | unknown _ => false
  | _ => true

/-- `ACTION_BY_PHASE`; only looked up for a phase of `PHASES`. -/
def action : Phase → String
  | reconcile => "reconcile"
  | authorize => "plan"
  | claim => "claim"
  | workspace => "edit"
  | execute => "edit"
  | openPr => "open_pr"
  | ci => "test"
  | review => "review"
  | preview => "verify"
  | ownerAcceptance => "owner_accept"
  | merge => "merge"
  | promote => "promote"
  | observe => "observe"
  | done => "close_issue"
  | cleanup => "cleanup"
  | next => "reconcile"
  | recovery => "repair"
  | unknown _ => ""

/-- `NEXT_PHASE.get(phase, phase)`. -/
def following : Phase → Phase
  | reconcile => authorize
  | authorize => claim
  | claim => workspace
  | workspace => execute
  | execute => openPr
  | openPr => ci
  | ci => review
  | review => preview
  | preview => ownerAcceptance
  | ownerAcceptance => merge
  | merge => promote
  | promote => observe
  | observe => done
  | done => cleanup
  | cleanup => next
  | next => next
  | recovery => recovery
  | unknown name => unknown name

/-- `EVIDENCE_PHASES`. -/
def needsEvidence : Phase → Bool
  | ci | review | preview | merge | promote | observe | done => true
  | _ => false

/-- `SHA_PHASES`. -/
def needsSha : Phase → Bool
  | openPr | ci | review | preview | ownerAcceptance | merge | promote | observe | done => true
  | _ => false

/-- `DELIVERY_RESULT_PHASES`. -/
def isDeliveryResult : Phase → Bool
  | promote | observe | done => true
  | _ => false

/-- `DELIVERY_STATE_PHASES`. -/
def isDeliveryState : Phase → Bool
  | promote | observe | done | cleanup | next => true
  | _ => false

end Phase

/-- Run statuses.  `block` is the verdict name `BLOCK`, as opposed to the status
`BLOCKED`; `other` holds any further stored text. -/
inductive Status where
  | running | retryWait | recovery | humanRequired | block | blocked | complete
  | other (name : String)
  deriving DecidableEq, Repr

namespace Status

/-- `ACTIVE_STATUSES`. -/
def isActive : Status → Bool
  | running | retryWait | recovery | humanRequired => true
  | _ => false

/-- The statuses on which `advance_run` returns at once. -/
def isTerminal : Status → Bool
  | complete | blocked => true
  | _ => false

end Status

/-- `OUTCOMES`. -/
inductive Outcome where
  | pass | fail | block | humanRequired | retry | changesRequested | roadmapComplete | nextReady
  deriving DecidableEq, Repr

namespace Outcome

def name : Outcome → String
  | pass => "PASS"
  | fail => "FAIL"
  | block => "BLOCK"
  | humanRequired => "HUMAN_REQUIRED"
  | retry => "RETRY"
  | changesRequested => "CHANGES_REQUESTED"
  | roadmapComplete => "ROADMAP_COMPLETE"
  | nextReady => "NEXT_READY"

def all : List Outcome :=
  [pass, fail, block, humanRequired, retry, changesRequested, roadmapComplete, nextReady]

/-- The outcome a member denotes, if it is one of `OUTCOMES`. -/
def ofJson (value : Json) : Option Outcome :=
  all.find? fun outcome => value = .str outcome.name

end Outcome

/-- The members of an event that its hash covers. -/
structure EventBody where
  sequence : Int
  eventId : String
  idempotencyKey : String
  phase : Phase
  outcome : Outcome
  subjectSha : Json
  evidenceRefs : List Json
  reasonCodes : List Json
  decision : Decision
  costUsd : Rat
  metadata : Fields
  occurredAt : Timestamp
  previousEventHash : Option String
  deriving DecidableEq

structure Event extends EventBody where
  eventHash : String
  deriving DecidableEq

def verdictName : Verdict → String
  | .allow => "ALLOW"
  | .block => "BLOCK"
  | .humanRequired => "HUMAN_REQUIRED"

/-- `Decision.to_dict`. -/
def decisionJson (decision : Decision) : Json :=
  .obj [("message_ru", .str decision.messageRu), ("policy_hash", Json.ofText decision.policyHash),
    ("reason_codes", .arr (decision.reasonCodes.map .str)),
    ("result", .str (verdictName decision.result))]

/-- The unsigned event object. -/
def EventBody.toJson (body : EventBody) : Json :=
  .obj [("cost_usd", .num body.costUsd), ("decision", decisionJson body.decision),
    ("event_id", .str body.eventId),
    ("evidence_refs", .arr body.evidenceRefs),
    ("idempotency_key", .str body.idempotencyKey),
    ("metadata", .obj body.metadata),
    ("occurred_at", body.occurredAt.toJson),
    ("outcome", .str body.outcome.name),
    ("phase", .str body.phase.name),
    ("previous_event_hash", Json.ofText body.previousEventHash),
    ("reason_codes", .arr body.reasonCodes),
    ("sequence", .num body.sequence),
    ("subject_sha", body.subjectSha)]

/-- `_event_hash`. -/
def eventHash (rt : Runtime) (body : EventBody) : String :=
  rt.digest body.toJson

/-- One orchestration run as its journal file stores it. -/
structure Journal where
  schemaVersion : Int := 1
  runId : String
  roadmapId : String
  issueId : String
  risk : String
  workType : String
  productImpact : Bool
  ownerRequestDigest : String
  phase : Phase
  status : Status
  cycle : Int
  subjectSha : Json
  previewDigest : Json
  ownerAcceptanceSha : Json
  deliverySha : Json
  pullRequestNumber : Option Int
  previewAttestationId : Option String
  workBranch : Option String
  policyHash : String
  attempts : List (Phase × Int)
  maxAttempts : Int
  maxCycles : Int
  deadlineAt : Timestamp
  lastFailedPhase : Option Phase
  blockers : List Json
  monetaryBudgetUsd : Rat
  events : List Event
  eventHead : Option String
  revision : Int
  createdAt : Timestamp
  updatedAt : Timestamp
  deriving DecidableEq

/-- The event loop of `validate_journal`: the findings of the remaining events
and the hash the head must equal. -/
def validateEvents (rt : Runtime) (index : Nat) (previous : Option String) :
    List Event → List String × Option String
  | [] => ([], previous)
  | event :: rest =>
      let later := validateEvents rt (index + 1) (some event.eventHash) rest
      ((if event.sequence ≠ index + 1 then ["EVENT_SEQUENCE:" ++ toString index] else []) ++
        (if event.previousEventHash ≠ previous then ["EVENT_CHAIN:" ++ toString index] else []) ++
        (if event.eventHash ≠ eventHash rt event.toEventBody then
          ["EVENT_HASH:" ++ toString index] else []) ++
        later.1, later.2)

/-- A 40-hex text. -/
def isSha (value : Json) : Bool :=
  value.textSatisfies Text.isSha40

theorem truthy_of_isSha {value : Json} (sha : isSha value = true) : value.truthy = true := by
  obtain ⟨text, rfl, hex⟩ := Json.textSatisfies_iff.mp sha
  simpa using Text.ne_empty_of_isSha40 hex

/-- `validate_journal`: the findings, none for an accepted journal. -/
def validateJournal (rt : Runtime) (value : Journal) : List String :=
  let events := validateEvents rt 0 none value.events
  (if value.schemaVersion ≠ 1 then ["SCHEMA_VERSION"] else []) ++
  (if !value.phase.isKnown && value.status ≠ .complete then ["PHASE"] else []) ++
  (if value.monetaryBudgetUsd ≠ 0 then ["MONETARY_BUDGET"] else []) ++
  events.1 ++
  (if value.eventHead ≠ events.2 then ["EVENT_HEAD"] else []) ++
  (if value.deliverySha ≠ .null && !isSha value.deliverySha then ["DELIVERY_SHA"] else []) ++
  (if value.phase.isDeliveryState then
    if !isSha value.deliverySha then ["DELIVERY_SHA_REQUIRED"]
    else if value.subjectSha ≠ value.deliverySha then ["DELIVERY_SUBJECT_MISMATCH"]
    else []
  else [])

/-- The hash chain of a journal: numbered from one, each event naming the hash
of its predecessor and carrying its own. -/
inductive Chain (rt : Runtime) : Nat → Option String → List Event → Option String → Prop
  | nil (index : Nat) (previous : Option String) : Chain rt index previous [] previous
  | cons {index : Nat} {previous head : Option String} {event : Event} {rest : List Event} :
      event.sequence = index + 1 → event.previousEventHash = previous →
      event.eventHash = eventHash rt event.toEventBody →
      Chain rt (index + 1) (some event.eventHash) rest head →
      Chain rt index previous (event :: rest) head

theorem validateEvents_eq_iff (rt : Runtime) (index : Nat) (previous head : Option String)
    (events : List Event) : validateEvents rt index previous events = ([], head) ↔
      Chain rt index previous events head := by
  induction events generalizing index previous with
  | nil =>
      simp only [validateEvents, Prod.mk.injEq, true_and]
      constructor
      · rintro rfl
        exact Chain.nil index previous
      · intro chain
        cases chain
        rfl
  | cons event rest ih =>
      have later := ih (index + 1) (some event.eventHash)
      constructor
      · intro validated
        simp only [validateEvents, Prod.mk.injEq, List.append_eq_nil_iff, ite_eq_right_iff,
          List.cons_ne_nil, imp_false, Decidable.not_not] at validated
        obtain ⟨⟨⟨⟨sequence, previousHash⟩, hash⟩, rest_ok⟩, head_eq⟩ := validated
        exact Chain.cons sequence previousHash hash (later.mp (Prod.ext rest_ok head_eq))
      · intro chain
        cases chain with
        | cons sequence previousHash hash rest_chain =>
            simp [validateEvents, later.mpr rest_chain, sequence, previousHash, ← hash]

theorem Chain.append {rt : Runtime} {index : Nat} {previous head : Option String}
    {events : List Event} {event : Event} (chain : Chain rt index previous events head)
    (sequence : event.sequence = (index + events.length : Nat) + 1)
    (previousHash : event.previousEventHash = head)
    (hash : event.eventHash = eventHash rt event.toEventBody) :
    Chain rt index previous (events ++ [event]) (some event.eventHash) := by
  induction chain with
  | nil index previous =>
      exact Chain.cons (by simpa using sequence) previousHash hash (Chain.nil _ _)
  | @cons index previous head first rest firstSequence firstPrevious firstHash _ ih =>
      refine Chain.cons firstSequence firstPrevious firstHash (ih ?_ previousHash)
      rw [sequence, List.length_cons]
      omega

/-- The delivery binding: in the phases after the merge the subject is the
40-hex delivery revision. -/
def DeliveryBound (phase : Phase) (subjectSha deliverySha : Json) : Prop :=
  phase.isDeliveryState = true → isSha deliverySha = true ∧ subjectSha = deliverySha

/-- What a journal accepted by `validateJournal` satisfies. -/
structure WellFormed (rt : Runtime) (value : Journal) : Prop where
  schemaVersion : value.schemaVersion = 1
  phase : value.phase.isKnown = true ∨ value.status = .complete
  budget : value.monetaryBudgetUsd = 0
  chain : Chain rt 0 none value.events value.eventHead
  deliverySha : value.deliverySha = .null ∨ isSha value.deliverySha = true
  delivery : DeliveryBound value.phase value.subjectSha value.deliverySha

theorem validateJournal_eq_nil_iff (rt : Runtime) (value : Journal) :
    validateJournal rt value = [] ↔ WellFormed rt value := by
  have chain_iff := validateEvents_eq_iff rt 0 none value.eventHead value.events
  constructor
  · intro accepted
    simp only [validateJournal, List.append_eq_nil_iff] at accepted
    obtain ⟨⟨⟨⟨⟨⟨schema, phase⟩, budget⟩, events⟩, head⟩, sha⟩, delivery⟩ := accepted
    refine ⟨by simpa using schema, ?_, by simpa using budget, ?_, ?_, ?_⟩
    · by_contra neither
      simp_all
    · refine chain_iff.mp (Prod.ext events ?_)
      simpa [eq_comm] using head
    · by_contra neither
      simp_all
    · intro deliveryState
      rw [if_pos deliveryState] at delivery
      split_ifs at delivery with sha_bad mismatch
      exact ⟨by simpa using sha_bad, by simpa using mismatch⟩
  · intro wellFormed
    have events := chain_iff.mpr wellFormed.chain
    have phase := wellFormed.phase
    have sha := wellFormed.deliverySha
    have delivery := wellFormed.delivery
    unfold DeliveryBound at delivery
    simp only [validateJournal, events, wellFormed.schemaVersion, wellFormed.budget]
    by_cases state : value.phase.isDeliveryState = true
    · obtain ⟨hex, subject⟩ := delivery state
      rcases phase with known | complete <;> simp_all
    · rcases phase with known | complete <;> rcases sha with absent | hex <;> simp_all

instance (rt : Runtime) (value : Journal) : Decidable (WellFormed rt value) :=
  decidable_of_iff _ (validateJournal_eq_nil_iff rt value)

end Adwf.Orchestrator
