import Adwf.Program.Interleaving
import Adwf.RuntimeLedger.Client

/-!
# The provider of the runtime ledger

The issues, comments and tags of one repository as the calls of the store change
them.  A call may fail before or after its effect, and a client may stop for good
between any two calls.
-/

namespace Adwf.RuntimeLedger

open Json Adwf.Program
open LeaseStore (RefRow Ruleset verifyRuntimeAnchorRuleset leaseAnchorPrefix)

universe u

/-- What the ledger finds in its repository: an active tag ruleset, a main branch,
and issues and lease tags of others. -/
structure Repository where
  defaultBranch : String
  head : String
  rulesets : List Ruleset
  otherIssues : List IssueRow
  leaseTags : List RefRow
  createdAt : String
  actor : String
  head_ne : head ≠ ""
  createdAt_ne : createdAt ≠ ""
  actor_ne : actor ≠ ""
  rulesets_verified : verifyRuntimeAnchorRuleset [] rulesets = none
  otherIssues_title : ∀ row ∈ otherIssues, row.title ≠ ledgerTitle
  leaseTags_name : ∀ row ∈ leaseTags, Text.startsWith row.name leaseAnchorPrefix = true

/-- A comment and the client that added it. -/
structure Posted (Client : Type u) where
  comment : Comment
  author : Client

/-- A tag ref and the client that created it. -/
structure Tag (Client : Type u) where
  ref : RefRow
  author : Client

/-- What the repository holds of the ledger, and the comments every client has read
last. -/
structure Hub (Client : Type u) where
  issues : Nat → Option (String × Bool)
  nextIssue : Nat
  comments : Nat → List (Posted Client)
  nextComment : Nat
  tags : List (Tag Client)
  objects : String → Option Fields
  nextObject : Nat
  seen : Client → Option (Nat × List Comment)

/-- The name of the object or comment with a number. -/
def mark (number : Nat) : String :=
  String.ofList (List.replicate (number + 1) '1')

theorem mark_ne (number : Nat) : mark number ≠ "" := by
  intro empty
  have length := congrArg String.length empty
  simp [mark] at length

theorem mark_injective {left right : Nat} (same : mark left = mark right) : left = right := by
  have length := congrArg String.length same
  simpa [mark] using length

/-- A listing of at most ten pages. -/
def paged {α : Type} (items : List α) : Except LedgerError (List α) :=
  if items.length ≤ 1000 then .ok items
  else .error (.provider "PROVIDER_PAGINATION_BUDGET_EXCEEDED")

theorem paged_eq_ok_iff {α : Type} {items listed : List α} :
    paged items = .ok listed ↔ items.length ≤ 1000 ∧ listed = items := by
  unfold paged
  split_ifs with short
  · simp [short, eq_comm]
  · simp [short]

section Hub

variable {Client : Type u} (repository : Repository)

namespace Hub

/-- Before the first call. -/
def start : Hub Client where
  issues _ := none
  nextIssue := repository.otherIssues.length + 1
  comments _ := []
  nextComment := 0
  tags := []
  objects _ := none
  nextObject := 0
  seen _ := none

def row (hub : Hub Client) (number : Nat) : Option IssueRow :=
  (hub.issues number).map fun issue => ⟨number, issue.1, issue.2⟩

/-- All issues of the repository. -/
def rows (hub : Hub Client) : List IssueRow :=
  (List.range hub.nextIssue).filterMap hub.row ++ repository.otherIssues

def texts (hub : Hub Client) (number : Nat) : List Comment :=
  (hub.comments number).map Posted.comment

/-- The tags whose names begin with the anchor prefix. -/
def anchorRows (hub : Hub Client) : List RefRow :=
  (hub.tags.map Tag.ref).filter (fun ref => Text.startsWith ref.name anchorPrefix) ++
    repository.leaseTags

def findTag (hub : Hub Client) (name : String) : Option RefRow :=
  (hub.tags.map Tag.ref ++ repository.leaseTags).find? (·.name = name)

variable [DecidableEq Client]

/-- The repository does what a call asks for. -/
def serve (client : Client) (hub : Hub Client) : (call : Call) → Hub Client × Answer call
  | .issues => (hub, paged (hub.rows repository))
  | .getIssue number => (hub, match hub.row number with
      | some row => .ok row
      | none => .error (.provider "PROVIDER_HTTP_404"))
  | .createIssue title =>
      ({ hub with
          issues := Function.update hub.issues hub.nextIssue (some (title, true))
          nextIssue := hub.nextIssue + 1 }, .ok ⟨hub.nextIssue, title, true⟩)
  | .closeIssue number =>
      match hub.issues number with
      | some (title, _) =>
          ({ hub with issues := Function.update hub.issues number (some (title, false)) },
            .ok ⟨number, title, false⟩)
      | none => (hub, .error (.provider "PROVIDER_HTTP_404"))
  | .issueComments number =>
      ({ hub with seen := Function.update hub.seen client (some (number, hub.texts number)) },
        paged (hub.texts number))
  | .addIssueComment number body =>
      let comment : Comment :=
        ⟨mark hub.nextComment, body, repository.createdAt, repository.actor⟩
      ({ hub with
          comments := Function.update hub.comments number
            (hub.comments number ++ [⟨comment, client⟩])
          nextComment := hub.nextComment + 1 }, .ok comment)
  | .rulesets => (hub, .ok repository.rulesets)
  | .matchingTagRefs => (hub, paged (hub.anchorRows repository))
  | .tagRef tag => (hub, match hub.findTag repository tag with
      | some ref => .ok ref
      | none => .error (.provider "PROVIDER_HTTP_404"))
  | .tagObject sha => (hub, match hub.objects sha with
      | some message => .ok (some message)
      | none => .error (.provider "PROVIDER_HTTP_404"))
  | .repoInfo => (hub, .ok repository.defaultBranch)
  | .branch _ => (hub, .ok repository.head)
  | .createTagObject _ _ message =>
      ({ hub with
          objects := Function.update hub.objects (mark hub.nextObject) (some message)
          nextObject := hub.nextObject + 1 }, .ok (mark hub.nextObject))
  | .createTagRef tag sha =>
      match hub.findTag repository tag with
      | some _ => (hub, .error (.provider "PROVIDER_HTTP_422"))
      | none => ({ hub with tags := hub.tags ++ [⟨⟨tag, sha⟩, client⟩] }, .ok ⟨tag, sha⟩)

/-! ## The events -/

def eventsOf (hub : Hub Client) (number : Nat) : List RemoteEvent :=
  (hub.texts number).filterMap Comment.remoteEvent

/-- Every event of the ledger, in order. -/
def events (hub : Hub Client) : List RemoteEvent :=
  (List.range hub.nextIssue).flatMap hub.eventsOf

/-- The tag ref of the event has been created. -/
def IsAnchored (rt : Runtime) (hub : Hub Client) (event : RemoteEvent) : Prop :=
  ∃ tag ∈ hub.tags, tagName rt event.members = .ok tag.ref.name

instance (rt : Runtime) (hub : Hub Client) (event : RemoteEvent) :
    Decidable (hub.IsAnchored rt event) :=
  inferInstanceAs (Decidable (∃ tag ∈ hub.tags, _))

def anchoredEvents (rt : Runtime) (hub : Hub Client) : List RemoteEvent :=
  hub.events.filter (hub.IsAnchored rt ·)

end Hub

/-- An error that says nothing about the state of the repository. -/
def Outage (error : LedgerError) : Prop :=
  ∀ status ∈ ["PROVIDER_HTTP_404", "PROVIDER_HTTP_409", "PROVIDER_HTTP_422"],
    error ≠ .provider status

variable [DecidableEq Client]

/-- What a call may lead to: nothing but an outage, or its effect, the answer being
lost or not.  `rule` says when a comment may be added. -/
def Serves (rule : Client → Hub Client → Nat → Prop) (client : Client) (hub : Hub Client)
    (call : Call) (after : Hub Client) (answer : Answer call) : Prop :=
  (after = hub ∧ ∃ error, Outage error ∧ answer = .error error) ∨
    (∀ number body, call = .addIssueComment number body → rule client hub number) ∧
      after = (hub.serve repository client call).1 ∧
        (answer = (hub.serve repository client call).2 ∨
          ∃ error, Outage error ∧ answer = .error error)

/-- A comment is only added by a client that has read all comments of the issue, once
every event of the ledger is anchored. -/
def Alone (rt : Runtime) (client : Client) (hub : Hub Client) (number : Nat) : Prop :=
  hub.seen client = some (number, hub.texts number) ∧
    ∀ event ∈ hub.events, hub.IsAnchored rt event

/-- The append's request passes its checks, whatever the ledger holds. -/
structure Appendable (rt : Runtime) (validateCheckpoint : CheckpointCheck)
    (request : AppendRequest) (safeState : Fields) : Prop where
  valid : validateJournal rt request.state = .ok []
  projected : publicStateProjection rt request.state = .ok safeState
  members : runMembers request.state = .ok ()
  checkpoint : ∀ checkpoint, request.checkpoint = some checkpoint →
    (∃ fields, checkpoint = .obj fields) ∧ validateCheckpoint checkpoint = [] ∧
      checkpointStateBindingErrors rt checkpoint safeState = []

/-- What an append of a request stores. -/
def AppendRequest.stored (request : AppendRequest) (safeState : Fields) : Checkpoint :=
  ⟨safeState, request.checkpoint, publicMemoryProjection request.workMemory, request.now⟩

/-- A read returns exactly the events whose tag ref was created, and an append of a
new state succeeds. -/
structure LedgerLaw (rt : Runtime) (validateCheckpoint : CheckpointCheck)
    (hub : Hub Client) : Prop where
  reads : ∀ client, ∃ after issue,
    (Operation.read.program rt validateCheckpoint).execute (Hub.serve repository client) hub =
      (after, .done (.observed issue (hub.anchoredEvents rt)))
  appends : ∀ client request safeState, Appendable rt validateCheckpoint request safeState →
    (∀ last, (hub.anchoredEvents rt).getLast? = some last →
      ¬(request.stored safeState).isHeldBy rt last) →
    ∃ after number event tag sha, ((Operation.append request).program rt validateCheckpoint).execute
        (Hub.serve repository client) hub = (after, .done (.appended number event tag sha)) ∧
      after.anchoredEvents rt = hub.anchoredEvents rt ++ [event]

/-- Every event is anchored, the ledger issue is elected or the only one, and no
listing has more than ten pages. -/
structure Readable (rt : Runtime) (hub : Hub Client) : Prop where
  anchored : ∀ event ∈ hub.events, hub.IsAnchored rt event
  elected : hub.findTag repository rootAnchor ≠ none ∨
    ((hub.rows repository).filter fun row => row.title = ledgerTitle && row.isOpen).length ≤ 1
  issuePages : hub.findTag repository rootAnchor = none → (hub.rows repository).length ≤ 1000
  commentPages : ∀ number, (hub.comments number).length ≤ 1000
  tagPages : hub.events ≠ [] → (hub.anchorRows repository).length ≤ 1000

end Hub

end Adwf.RuntimeLedger
