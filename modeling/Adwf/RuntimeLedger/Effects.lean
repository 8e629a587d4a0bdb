import Adwf.RuntimeLedger.Invariant

/-!
# Effects of calls

What each call of the store does to the ledger keeps the invariant, given what the
client knows when it makes the call.
-/

namespace Adwf.RuntimeLedger

open Json Adwf.Program
open LeaseStore (RefRow leaseAnchorPrefix)

universe u

variable {Client : Type u}
variable {rt : Runtime} {validateCheckpoint : CheckpointCheck}
variable {repository : Repository} {hub : Hub Client}

theorem hubLaw_start : HubLaw rt validateCheckpoint (Hub.start repository : Hub Client) := by
  constructor
  · exact Nat.succ_le_succ (Nat.zero_le _)
  · rintro number issue ⟨⟩
  · rintro _ number issue ⟨⟩
  · rintro tag ⟨⟩
  · intro number posted
    exact absurd rfl posted
  · rintro number posted ⟨⟩
  · intro number
    rfl
  · exact fun number => Nat.zero_le _
  · exact List.nodup_nil
  · rintro tag ⟨⟩
  · rintro number posted ⟨⟩
  · exact fun number _ => rfl

theorem Anchors.mono {after : Hub Client} {tag : Tag Client} {posted : Posted Client}
    (anchors : Anchors rt hub tag posted)
    (objects : ∀ sha message, hub.objects sha = some message → after.objects sha = some message) :
    Anchors rt after tag posted := by
  obtain ⟨event, carried, named, message, object, bound⟩ := anchors.event
  exact ⟨anchors.author, anchors.sha, event, carried, named, message, objects _ _ object, bound⟩

namespace HubLaw

theorem anchors_kept (law : HubLaw rt validateCheckpoint hub) {after : Hub Client}
    {tag : Tag Client} (tagIn : tag ∈ hub.tags) (notRoot : tag.ref.name ≠ rootAnchor)
    (comments : ∀ number, ∀ posted ∈ hub.comments number, posted ∈ after.comments number)
    (objects : ∀ sha message, hub.objects sha = some message → after.objects sha = some message) :
    ∃ number, ∃ posted ∈ after.comments number, Anchors rt after tag posted := by
  obtain ⟨number, posted, postedIn, anchors⟩ := law.anchors tag tagIn notRoot
  exact ⟨number, posted, comments number posted postedIn, anchors.mono objects⟩

theorem seen_updated (law : HubLaw rt validateCheckpoint hub)
    {seen : Client → Option (Nat × List Comment)} :
    HubLaw rt validateCheckpoint { hub with seen := seen } :=
  { law with
    anchors := fun _ tagIn notRoot =>
      law.anchors_kept tagIn notRoot (fun _ _ posted => posted) fun _ _ object => object }

theorem createIssue (law : HubLaw rt validateCheckpoint hub) :
    HubLaw rt validateCheckpoint
      { hub with
        issues := Function.update hub.issues hub.nextIssue (some (ledgerTitle, true))
        nextIssue := hub.nextIssue + 1 } := by
  refine { law with
    started := law.started.trans (Nat.le_succ _), issues := ?_, unelected := ?_, root := ?_
    anchors := fun tag tagIn notRoot =>
      law.anchors_kept tagIn notRoot (fun _ _ posted => posted) fun _ _ object => object }
  · intro number issue found
    by_cases same : number = hub.nextIssue
    · subst same
      obtain rfl : (ledgerTitle, true) = issue := by simpa using found
      exact ⟨law.started, Nat.lt_succ_self _, rfl⟩
    · dsimp only at found
      rw [Function.update_of_ne same] at found
      obtain ⟨positive, bound, title⟩ := law.issues number issue found
      exact ⟨positive, bound.trans (Nat.lt_succ_self _), title⟩
  · intro unelected number issue found
    by_cases same : number = hub.nextIssue
    · subst same
      obtain rfl : (ledgerTitle, true) = issue := by simpa using found
      rfl
    · dsimp only at found
      rw [Function.update_of_ne same] at found
      exact law.unelected unelected number issue found
  · intro tag tagIn name
    obtain ⟨sha, number, object, isOpen⟩ := law.root tag tagIn name
    have earlier := (law.issues number _ isOpen).2.1
    exact ⟨sha, number, object, (Function.update_of_ne earlier.ne ..).trans isOpen⟩

theorem closeIssue (law : HubLaw rt validateCheckpoint hub) {root candidate : Nat}
    (isRoot : hub.RootIs root) (lost : root ≠ candidate) {issue : String × Bool}
    (found : hub.issues candidate = some issue) : HubLaw rt validateCheckpoint
      { hub with issues := Function.update hub.issues candidate (some (issue.1, false)) } := by
  refine { law with
    issues := ?_, unelected := ?_, root := ?_
    anchors := fun tag tagIn notRoot =>
      law.anchors_kept tagIn notRoot (fun _ _ posted => posted) fun _ _ object => object }
  · intro number other foundOther
    by_cases same : number = candidate
    · subst same
      obtain rfl : (issue.1, false) = other := by simpa using foundOther
      exact law.issues number issue found
    · dsimp only at foundOther
      rw [Function.update_of_ne same] at foundOther
      exact law.issues number other foundOther
  · exact fun unelected => absurd isRoot (unelected root)
  · intro tag tagIn name
    obtain ⟨sha, number, object, isOpen⟩ := law.root tag tagIn name
    obtain rfl := law.root_unique isRoot ⟨tag, tagIn, name, object⟩
    exact ⟨sha, root, object, (Function.update_of_ne lost ..).trans isOpen⟩

/-- A new object replaces none. -/
theorem kept_object (law : HubLaw rt validateCheckpoint hub) {message found : Fields}
    {sha : String} (object : hub.objects sha = some found) :
    Function.update hub.objects (mark hub.nextObject) (some message) sha = some found := by
  have different : sha ≠ mark hub.nextObject := by
    rintro rfl
    rw [law.fresh _ le_rfl] at object
    cases object
  exact (Function.update_of_ne different ..).trans object

theorem createTagObject (law : HubLaw rt validateCheckpoint hub) (message : Fields) :
    HubLaw rt validateCheckpoint
      { hub with
        objects := Function.update hub.objects (mark hub.nextObject) (some message)
        nextObject := hub.nextObject + 1 } := by
  have kept : ∀ sha found, hub.objects sha = some found →
      Function.update hub.objects (mark hub.nextObject) (some message) sha = some found :=
    fun sha found object => law.kept_object object
  have rooted : ∀ number, hub.RootIs number → Hub.RootIs
      { hub with
        objects := Function.update hub.objects (mark hub.nextObject) (some message)
        nextObject := hub.nextObject + 1 } number := by
    rintro number ⟨tag, tagIn, name, object⟩
    exact ⟨tag, tagIn, name, kept _ _ object⟩
  refine { law with
    unelected := ?_, root := ?_, onRoot := ?_, fresh := ?_
    anchors := fun tag tagIn notRoot =>
      law.anchors_kept tagIn notRoot (fun _ _ posted => posted) kept }
  · exact fun unelected => law.unelected fun number root => unelected number (rooted number root)
  · intro tag tagIn name
    obtain ⟨sha, number, object, isOpen⟩ := law.root tag tagIn name
    exact ⟨sha, number, kept _ _ object, isOpen⟩
  · exact fun number posted => rooted number (law.onRoot number posted)
  · intro number later
    have different : mark number ≠ mark hub.nextObject :=
      fun same => (Nat.lt_of_succ_le later).ne (mark_injective same).symm
    exact (Function.update_of_ne different ..).trans
      (law.fresh number (Nat.le_of_succ_le later))

theorem nodup_names {ref : RefRow} {author : Client} (law : HubLaw rt validateCheckpoint hub)
    (fresh : ∀ tag ∈ hub.tags, tag.ref.name ≠ ref.name) :
    ((hub.tags ++ [(⟨ref, author⟩ : Tag Client)]).map fun tag => tag.ref.name).Nodup := by
  rw [List.map_append, List.nodup_append]
  refine ⟨law.names, List.nodup_singleton _, ?_⟩
  rintro left leftIn right rightIn rfl
  obtain ⟨tag, tagIn, rfl⟩ := List.mem_map.mp leftIn
  exact fresh tag tagIn (List.mem_singleton.mp rightIn)

theorem createRoot (law : HubLaw rt validateCheckpoint hub) {client : Client} {sha : String}
    {candidate : Nat} (fresh : ∀ tag ∈ hub.tags, tag.ref.name ≠ rootAnchor) (sha_ne : sha ≠ "")
    (object : hub.objects sha = some (rootMessage candidate))
    (isOpen : hub.issues candidate = some (ledgerTitle, true)) :
    HubLaw rt validateCheckpoint
      { hub with tags := hub.tags ++ [⟨⟨rootAnchor, sha⟩, client⟩] } := by
  have noComments : ∀ number, hub.comments number = [] := by
    intro number
    by_contra posted
    obtain ⟨tag, tagIn, name, _⟩ := law.onRoot number posted
    exact fresh tag tagIn name
  refine { law with
    unelected := ?_, root := ?_, onRoot := ?_, names := ?_, anchors := ?_, earlier := ?_ }
  · intro unelected
    exact absurd ⟨_, List.mem_append_right _ (List.mem_singleton_self _), rfl, object⟩
      (unelected candidate)
  · intro tag tagIn name
    rcases List.mem_append.mp tagIn with earlier | latest
    · exact absurd name (fresh tag earlier)
    · obtain rfl := List.mem_singleton.mp latest
      exact ⟨sha_ne, candidate, object, isOpen⟩
  · exact fun number posted => absurd (noComments number) posted
  · exact law.nodup_names fresh
  · intro tag tagIn notRoot
    rcases List.mem_append.mp tagIn with earlier | latest
    · exact law.anchors_kept earlier notRoot (fun _ _ posted => posted) fun _ _ object => object
    · obtain rfl := List.mem_singleton.mp latest
      exact absurd rfl notRoot
  · intro number posted postedIn
    have none : posted ∈ ([] : List (Posted Client)).dropLast := noComments number ▸ postedIn
    cases none

theorem createAnchor (law : HubLaw rt validateCheckpoint hub) {number : Nat}
    {posted : Posted Client} {ref : RefRow} (postedIn : posted ∈ hub.comments number)
    (fresh : ∀ tag ∈ hub.tags, tag.ref.name ≠ ref.name)
    (anchors : Anchors rt hub ⟨ref, posted.author⟩ posted) :
    HubLaw rt validateCheckpoint
      { hub with tags := hub.tags ++ [⟨ref, posted.author⟩] } := by
  obtain ⟨event, carried, named, _⟩ := anchors.event
  have notRoot := law.tagName_ne_root postedIn carried named
  have rooted : ∀ number, hub.RootIs number →
      Hub.RootIs { hub with tags := hub.tags ++ [⟨ref, posted.author⟩] } number := by
    rintro number ⟨tag, tagIn, name, object⟩
    exact ⟨tag, List.mem_append_left _ tagIn, name, object⟩
  refine { law with
    unelected := ?_, root := ?_, onRoot := ?_, names := ?_, anchors := ?_, earlier := ?_ }
  · exact fun unelected => law.unelected fun number root => unelected number (rooted number root)
  · intro tag tagIn name
    rcases List.mem_append.mp tagIn with earlier | latest
    · exact law.root tag earlier name
    · obtain rfl := List.mem_singleton.mp latest
      exact absurd name notRoot
  · exact fun number posted => rooted number (law.onRoot number posted)
  · exact law.nodup_names fresh
  · intro tag tagIn notRootTag
    rcases List.mem_append.mp tagIn with earlier | latest
    · exact law.anchors_kept earlier notRootTag (fun _ _ posted => posted) fun _ _ object => object
    · obtain rfl := List.mem_singleton.mp latest
      exact ⟨number, posted, postedIn, anchors.mono fun _ _ found => found⟩
  · intro other otherPosted otherIn
    obtain ⟨otherEvent, otherCarried, tag, tagIn, otherNamed⟩ := law.earlier other otherPosted otherIn
    exact ⟨otherEvent, otherCarried, tag, List.mem_append_left _ tagIn, otherNamed⟩

theorem addComment (law : HubLaw rt validateCheckpoint hub) {root : Nat}
    {posted : Posted Client} {event : RemoteEvent} (isRoot : hub.RootIs root)
    (short : (hub.comments root).length ≤ 1000)
    (anchored : ∀ event ∈ hub.events, hub.IsAnchored rt event)
    (carried : posted.comment.remoteEvent = some event)
    (verified : verifyRemoteEvents rt validateCheckpoint 1 .null .null
      (hub.eventsOf root ++ [event]) = .ok []) :
    HubLaw rt validateCheckpoint
      { hub with
        comments := Function.update hub.comments root (hub.comments root ++ [posted])
        nextComment := hub.nextComment + 1 } := by
  have kept : ∀ number, ∀ other ∈ hub.comments number,
      other ∈ Function.update hub.comments root (hub.comments root ++ [posted]) number := by
    intro number other otherIn
    by_cases same : number = root
    · subst same
      rw [Function.update_self]
      exact List.mem_append_left _ otherIn
    · rwa [Function.update_of_ne same]
  refine { law with
    onRoot := ?_, carries := ?_, verified := ?_, short := ?_, earlier := ?_
    anchors := fun tag tagIn notRoot =>
      law.anchors_kept tagIn notRoot kept fun _ _ object => object }
  · intro number others
    by_cases same : number = root
    · exact same ▸ isRoot
    · dsimp only at others
      rw [Function.update_of_ne same] at others
      exact law.onRoot number others
  · intro number other otherIn
    by_cases same : number = root
    · subst same
      dsimp only at otherIn
      rw [Function.update_self] at otherIn
      rcases List.mem_append.mp otherIn with earlier | latest
      · exact law.carries number other earlier
      · obtain rfl := List.mem_singleton.mp latest
        exact ⟨event, carried⟩
    · dsimp only at otherIn
      rw [Function.update_of_ne same] at otherIn
      exact law.carries number other otherIn
  · intro number
    by_cases same : number = root
    · subst same
      simpa [Hub.eventsOf, Hub.texts, carried] using verified
    · have others := law.verified number
      simpa [Hub.eventsOf, Hub.texts, Function.update_of_ne same] using others
  · intro number
    by_cases same : number = root
    · subst same
      simp only [Function.update_self, List.length_append, List.length_singleton]
      omega
    · dsimp only
      rw [Function.update_of_ne same]
      exact law.short number
  · intro number other otherIn
    by_cases same : number = root
    · subst same
      dsimp only at otherIn
      rw [Function.update_self, List.dropLast_concat] at otherIn
      obtain ⟨otherEvent, otherCarried⟩ := law.carries number other otherIn
      exact ⟨otherEvent, otherCarried, anchored otherEvent (law.mem_events otherIn otherCarried)⟩
    · dsimp only at otherIn
      rw [Function.update_of_ne same] at otherIn
      exact law.earlier number other otherIn

end HubLaw

end Adwf.RuntimeLedger
