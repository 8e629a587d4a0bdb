import Adwf.Controller.ReviewOrder
import Adwf.Gate.Published
import Adwf.Program.Alone

/-!
# Human authorization

The trusted gate and the provider gateway look for an approval of the exact
head among all reviews.  `validate_review_provenance` looks at the latest
review of each login.
-/

namespace Adwf.Controller

open Gate (GateM Call Raised Pull isAdmin readsAdmin request adminApproval ownerAttestation
  governanceAuthorization)
open Program (Yields Throws)
open Trust (mem_sortedSet)

/-- What the two gates read of a review. -/
def Review.seen (review : Review) : Gate.Review where
  state := review.state
  commitId := some review.commitId
  login := some review.login

/-! ## The two gates -/

/-- The loop of `_human_authorization`: it ends at the first administrator. -/
def firstAdminApproval (sha author : String) : List Gate.Review → GateM Bool
  | [] => return false
  | review :: reviews =>
      let login := review.login.getD ""
      if (review.state.getD "").toUpper ≠ "APPROVED" ∨ review.commitId.getD "" ≠ sha ∨
          login = "" ∨ login = author then
        firstAdminApproval sha author reviews
      else do
        let admin ← isAdmin login
        if admin then return true else firstAdminApproval sha author reviews

/-- `_human_authorization`: the mode, if it is verified. -/
def humanAuthorization (tools : Gate.Tools) (number : Int) (pr : Pull) (sha : String) :
    GateM (Option String) := do
  let author := pr.author.getD ""
  let reviews ← request (.pullReviews number)
  let approved ← firstAdminApproval sha author reviews
  if approved then return some "ADMIN_REVIEW"
  else if tools.ownerAttestations (pr.body.getD "") ≠ [sha] ∨ author = "" then return none
  else do
    let admin ← isAdmin author
    return if admin then some "SOLO_MAINTAINER_OWNER_ATTESTATION" else none

/-- What the provider holds while a pull request is judged. -/
structure Readback where
  reviews : List Review
  permission : String → Except Raised (Option String)

namespace Readback

variable (readback : Readback)

/-- The provider answers from what it holds. -/
def answer : (call : Call) → Gate.Answer call
  | .pullReviews _ => .ok (readback.reviews.map Review.seen)
  | .permission login => readback.permission login
  | .runs | .run _ | .pulls | .checkRuns _ | .pull _ | .content _ _ | .commit _ | .tree _
  | .ref _ | .certification _ | .status _ _ _ | .checkRun _ _ _ => .error .providerContractError

def provide (store : Unit) (call : Call) : Unit × Gate.Answer call :=
  (store, readback.answer call)

/-- What a gate reports. -/
def report (gate : GateM (Option String)) : Option (Option String) :=
  (gate.execute readback.provide ()).2.returned?

/-- The login has the permission of an administrator. -/
def hasAdmin (login : String) : Bool :=
  match readback.permission login with
  | .ok permission => (permission.getD "").toLower = "admin"
  | .error _ => false

/-- An approval of the head by an administrator other than the author. -/
def approves (sha author : String) (review : Review) : Bool :=
  (review.state.getD "").toUpper = "APPROVED" ∧ review.commitId = sha ∧ review.login ≠ "" ∧
    review.login ≠ author ∧ readback.hasAdmin review.login

/-- The author attests the head and is an administrator. -/
def attests (tools : Gate.Tools) (pr : Pull) (sha : String) : Bool :=
  pr.author.getD "" ≠ "" ∧ tools.ownerAttestations (pr.body.getD "") = [sha] ∧
    readback.hasAdmin (pr.author.getD "")

/-- The mode that the reviews and the attestation give. -/
def modeOf (tools : Gate.Tools) (pr : Pull) (sha : String) : Option String :=
  if readback.reviews.any (readback.approves sha (pr.author.getD "")) then some "ADMIN_REVIEW"
  else if readback.attests tools pr sha then some "SOLO_MAINTAINER_OWNER_ATTESTATION"
  else none

variable {readback} {tools : Gate.Tools} {number : Int} {pr : Pull} {sha author : String}

theorem yields_readsAdmin {login : String} {permission : Option String}
    (held : readback.permission login = .ok permission) :
    Yields readback.provide (readsAdmin login) () ()
      (decide ((permission.getD "").toLower = "admin")) := by
  have answered : Yields readback.provide (request (.permission login)) () () permission :=
    Yields.invoke (congrArg (Prod.mk ()) held)
  exact Yields.bind answered Yields.done

theorem throws_readsAdmin {login : String} {error : Raised}
    (held : readback.permission login = .error error) :
    Throws readback.provide (readsAdmin login) () () error := by
  have raised : Throws readback.provide (request (.permission login)) () () error :=
    Throws.invoke (congrArg (Prod.mk ()) held)
  exact Throws.bind raised

theorem yields_isAdmin (login : String) :
    Yields readback.provide (isAdmin login) () () (readback.hasAdmin login) := by
  unfold hasAdmin
  cases held : readback.permission login with
  | error error => exact Throws.handle (throws_readsAdmin held) Yields.done
  | ok permission => exact Yields.handle (yields_readsAdmin held)

theorem yields_adminApproval (found : Bool) (reviews : List Review) :
    Yields readback.provide (adminApproval sha author found (reviews.map Review.seen)) () ()
      (found || reviews.any (readback.approves sha author)) := by
  induction reviews generalizing found with
  | nil =>
      rw [List.any_nil, Bool.or_false]
      exact Yields.done
  | cons review reviews ih =>
      rw [List.map_cons, adminApproval, List.any_cons]
      by_cases skipped : (review.state.getD "").toUpper ≠ "APPROVED" ∨ review.commitId ≠ sha ∨
          review.login = "" ∨ review.login = author
      · have passed : readback.approves sha author review = false := by
          unfold approves
          grind
        rw [if_pos (by exact skipped), passed, Bool.false_or]
        exact ih found
      · have counted : readback.approves sha author review = readback.hasAdmin review.login := by
          unfold approves
          grind
        rw [if_neg (by exact skipped), counted, ← Bool.or_assoc]
        exact Yields.bind (yields_isAdmin review.login) (ih _)

theorem yields_firstAdminApproval (reviews : List Review) :
    Yields readback.provide (firstAdminApproval sha author (reviews.map Review.seen)) () ()
      (reviews.any (readback.approves sha author)) := by
  induction reviews with
  | nil => exact Yields.done
  | cons review reviews ih =>
      rw [List.map_cons, firstAdminApproval, List.any_cons]
      by_cases skipped : (review.state.getD "").toUpper ≠ "APPROVED" ∨ review.commitId ≠ sha ∨
          review.login = "" ∨ review.login = author
      · have passed : readback.approves sha author review = false := by
          unfold approves
          grind
        rw [if_pos (by exact skipped), passed, Bool.false_or]
        exact ih
      · have counted : readback.approves sha author review = readback.hasAdmin review.login := by
          unfold approves
          grind
        rw [if_neg (by exact skipped), counted]
        apply Yields.bind (yields_isAdmin review.login)
        cases readback.hasAdmin review.login with
        | true => exact Yields.done
        | false => exact ih

theorem yields_request : Yields readback.provide (request (.pullReviews number)) () ()
      (readback.reviews.map Review.seen) :=
  Yields.invoke rfl

theorem approves_iff {review : Review} : readback.approves sha author review = true ↔
      (review.state.getD "").toUpper = "APPROVED" ∧ review.commitId = sha ∧ review.login ≠ "" ∧
        review.login ≠ author ∧ readback.hasAdmin review.login = true := by
  simp [approves]

theorem report_eq_of_yields {gate : GateM (Option String)} {mode : Option String}
    (yields : Yields readback.provide gate () () mode) : readback.report gate = some mode := by
  rw [report, yields]
  rfl

theorem yields_ownerAttestation : Yields readback.provide (ownerAttestation tools pr sha) () ()
      (readback.attests tools pr sha) := by
  unfold ownerAttestation attests
  split_ifs with missing other
  · simpa [missing] using Yields.done
  · simpa [other] using Yields.done
  · have named := @yields_isAdmin readback (pr.author.getD "")
    simpa [missing, not_not.mp other] using named

theorem report_governanceAuthorization :
    readback.report (governanceAuthorization tools number pr sha) =
      some (readback.modeOf tools pr sha) := by
  apply report_eq_of_yields
  apply Yields.bind yields_request
  apply Yields.bind (yields_adminApproval false readback.reviews)
  rw [Bool.false_or, modeOf]
  split_ifs with approved attested
  · exact Yields.done
  · apply Yields.bind yields_ownerAttestation
    rw [attested]
    exact Yields.done
  · apply Yields.bind yields_ownerAttestation
    rw [Bool.eq_false_iff.mpr attested]
    exact Yields.done

theorem report_humanAuthorization : readback.report (humanAuthorization tools number pr sha) =
      some (readback.modeOf tools pr sha) := by
  apply report_eq_of_yields
  apply Yields.bind yields_request
  apply Yields.bind (yields_firstAdminApproval readback.reviews)
  rw [modeOf]
  split_ifs with approved unattested attested attested
  · exact Yields.done
  · have same : readback.attests tools pr sha = false := by
      unfold attests
      grind
    rw [same] at attested
    cases attested
  · exact Yields.done
  · apply Yields.bind (yields_isAdmin _)
    have same : readback.hasAdmin (pr.author.getD "") = true := by
      unfold attests at attested
      grind
    rw [same]
    exact Yields.done
  · apply Yields.bind (yields_isAdmin _)
    have same : readback.hasAdmin (pr.author.getD "") = false := by
      unfold attests at attested
      grind
    rw [same]
    exact Yields.done

end Readback

/-! ## The latest reviews -/

theorem toUpper_approved : "APPROVED".toUpper = "APPROVED" := by
  apply String.toList_inj.mp
  delta String.toUpper
  rw [String.toList_map]
  rfl

/-- An approval, a change request or a dismissal. -/
def Review.isOpinion (review : Review) : Bool :=
  review.state = some "APPROVED" || review.state = some "CHANGES_REQUESTED" ||
    review.state = some "DISMISSED"

section Latest

variable (clockwork : Clockwork) (reviews : List Review) (sha author : String)

/-- None of the opinions of the same login is later than the review. -/
def IsLatestOpinion (review : Review) : Prop :=
  ∃ time, timeOf clockwork review = some time ∧
    ∀ other ∈ reviews, other.login = review.login → other.isOpinion = true →
      ∀ later ∈ timeOf clockwork other, later ≤ time

/-- `validate_review_provenance` counts the latest review of the login, when it is fresh. -/
def LatestCounts (login : String) : Prop :=
  ∃ now ttlHours, clockwork.casefold login ∈
    (reviewProvenance clockwork reviews sha author [login] now ttlHours 1).reviewers

/-- The review is the latest one of its login, or the first of those with its time. -/
def IsLatest (review : Review) : Prop :=
  ∃ time, (timed clockwork reviews (clockwork.casefold review.login)).argmax Prod.fst =
    some (time, review)

/-- The form in which the provider returns reviews: commits in lower case, approvals in capitals
and with a time, and each login in one spelling. -/
structure Provided : Prop where
  state : ∀ review ∈ reviews, (review.state.getD "").toUpper = "APPROVED" →
    review.state = some "APPROVED"
  commit : ∀ review ∈ reviews, review.commitId.toLower = review.commitId
  time : ∀ review ∈ reviews, review.state = some "APPROVED" → review.login ≠ "" →
    (timeOf clockwork review).isSome = true
  named : ∀ review ∈ reviews, clockwork.casefold review.login = "" → review.login = ""
  spelled : ∀ review ∈ reviews, ∀ other ∈ reviews,
    clockwork.casefold review.login = clockwork.casefold other.login → review.login = other.login
  spelledAuthor : ∀ review ∈ reviews,
    clockwork.casefold review.login = clockwork.casefold author → review.login = author

variable {clockwork reviews sha author}

theorem latestCounts_iff {login : String} : LatestCounts clockwork reviews sha author login ↔
      login ≠ "" ∧ clockwork.casefold login ≠ clockwork.casefold author ∧
        ∃ entry ∈ (timed clockwork reviews (clockwork.casefold login)).argmax Prod.fst,
          Approves sha entry.2 := by
  simp only [LatestCounts, reviewers_eq, reviewersOf, List.mem_filter, mem_sortedSet,
    Option.any_eq_true, decide_eq_true_eq, accepts_iff]
  constructor
  · rintro ⟨now, ttlHours, allowed, entry, latest, other, approves, _⟩
    refine ⟨?_, other, entry, latest, approves⟩
    rintro rfl
    cases allowed
  · rintro ⟨named, other, entry, latest, approves⟩
    refine ⟨entry.1, 1, ?_, entry, latest, other, approves, ?_⟩
    · simp [allowedLogins, named]
    · simp [isFresh, hour]

theorem IsLatest.isLatestOpinion {review : Review} (latest : IsLatest clockwork reviews review) :
    IsLatestOpinion clockwork reviews review := by
  rcases latest with ⟨time, found⟩
  rcases mem_timed_iff.mp (List.argmax_mem found) with ⟨_, named, _, timedAt⟩
  refine ⟨time, timedAt, ?_⟩
  intro other inside same _ later timedOther
  apply List.le_of_mem_argmax (a := (later, other)) ?_ found
  exact mem_timed_iff.mpr ⟨inside, named, congrArg clockwork.casefold same.symm, timedOther⟩

end Latest

section Revocation

variable (clockwork : Clockwork) (readback : Readback) (tools : Gate.Tools) (number : Int)
variable (pr : Pull) (sha : String)

/-- Both gates report an administrator's review only for a latest opinion, report the same, and
agree with the rule of the latest review. -/
structure Revocable : Prop where
  current : ∀ gate ∈ [governanceAuthorization tools number pr sha,
      humanAuthorization tools number pr sha],
    readback.report gate = some (some "ADMIN_REVIEW") →
      ∃ review ∈ readback.reviews, readback.approves sha (pr.author.getD "") review = true ∧
        IsLatestOpinion clockwork readback.reviews review
  same : readback.report (governanceAuthorization tools number pr sha) =
    readback.report (humanAuthorization tools number pr sha)
  latestRule : readback.report (governanceAuthorization tools number pr sha) =
      some (some "ADMIN_REVIEW") ↔
    ∃ review ∈ readback.reviews, readback.hasAdmin review.login = true ∧
      LatestCounts clockwork readback.reviews sha (pr.author.getD "") review.login

/-- Where an administrator other than the author approved the head, one such approval is the
latest review of its login. -/
def Standing : Prop :=
  (∃ review ∈ readback.reviews, readback.approves sha (pr.author.getD "") review = true) →
    ∃ review ∈ readback.reviews, readback.approves sha (pr.author.getD "") review = true ∧
      IsLatest clockwork readback.reviews review

variable {clockwork readback tools number pr sha}

theorem reportsAdmin_iff : readback.modeOf tools pr sha = some "ADMIN_REVIEW" ↔
      ∃ review ∈ readback.reviews, readback.approves sha (pr.author.getD "") review = true := by
  rw [← List.any_eq_true, Readback.modeOf]
  split_ifs with approved attested
  · simp [approved]
  · simp [approved]
  · simp [approved]

theorem exists_latestCounts_iff
    (provided : Provided clockwork readback.reviews (pr.author.getD "")) :
    (∃ review ∈ readback.reviews, readback.hasAdmin review.login = true ∧
        LatestCounts clockwork readback.reviews sha (pr.author.getD "") review.login) ↔
      ∃ review ∈ readback.reviews, readback.approves sha (pr.author.getD "") review = true ∧
        IsLatest clockwork readback.reviews review := by
  constructor
  · rintro ⟨review, inside, admin, counts⟩
    rcases latestCounts_iff.mp counts with ⟨named, other, ⟨time, latest⟩, found, state, commit⟩
    rcases mem_timed_iff.mp (List.argmax_mem found) with ⟨listed, _, same, _⟩
    have login := provided.spelled review inside latest listed same
    rw [provided.commit latest listed] at commit
    refine ⟨latest, listed,
      Readback.approves_iff.mpr ⟨?_, commit, login ▸ named, ?_, login ▸ admin⟩, time, same ▸ found⟩
    · rw [state]
      exact toUpper_approved
    · intro own
      exact other (by rw [same, own])
  · rintro ⟨review, inside, approves, time, found⟩
    rcases Readback.approves_iff.mp approves with ⟨state, commit, named, other, admin⟩
    refine ⟨review, inside, admin, latestCounts_iff.mpr ⟨named, ?_, _, found, ?_, ?_⟩⟩
    · intro own
      exact other (provided.spelledAuthor review inside own)
    · exact provided.state review inside state
    · rw [provided.commit review inside]
      exact commit

/-- Both gates take any approval of the head: they are right exactly when one still stands. -/
theorem revocable_iff (provided : Provided clockwork readback.reviews (pr.author.getD "")) :
    Revocable clockwork readback tools number pr sha ↔ Standing clockwork readback pr sha := by
  have reported : readback.report (governanceAuthorization tools number pr sha) =
      some (some "ADMIN_REVIEW") ↔
        ∃ review ∈ readback.reviews, readback.approves sha (pr.author.getD "") review = true := by
    rw [Readback.report_governanceAuthorization, Option.some_inj, reportsAdmin_iff]
  have same : readback.report (governanceAuthorization tools number pr sha) =
      readback.report (humanAuthorization tools number pr sha) :=
    Readback.report_governanceAuthorization.trans Readback.report_humanAuthorization.symm
  constructor
  · intro revocable approved
    exact (exists_latestCounts_iff provided).mp (revocable.latestRule.mp (reported.mpr approved))
  · intro standing
    have current (approved : readback.report (governanceAuthorization tools number pr sha) =
        some (some "ADMIN_REVIEW")) := standing (reported.mp approved)
    refine ⟨?_, same, ?_⟩
    · intro gate listed approved
      have governance : readback.report (governanceAuthorization tools number pr sha) =
          some (some "ADMIN_REVIEW") := by
        rcases List.mem_pair.mp listed with rfl | rfl
        · exact approved
        · exact same.trans approved
      rcases current governance with ⟨review, inside, approves, latest⟩
      exact ⟨review, inside, approves, latest.isLatestOpinion⟩
    · rw [exists_latestCounts_iff provided]
      constructor
      · exact current
      · rintro ⟨review, inside, approves, _⟩
        exact reported.mpr ⟨review, inside, approves⟩

end Revocation

/-! ## An approval that is taken back -/

section Withdrawn

/-- A provider with two members, one of them an administrator. -/
def readbackOf (reviews : List Review) : Readback where
  reviews
  permission login := .ok (if login = "alice" then some "admin" else some "write")

/-- A time is its number of strokes. -/
def strokeClock : Clockwork where
  parseTime text := some text.length
  casefold := id

def headSha : String :=
  String.ofList (List.replicate 40 'a')

def approval : Review where
  login := "alice"
  state := "APPROVED"
  commitId := headSha
  submittedAt := "|"

/-- The same login asks for changes later. -/
def changeRequest : Review :=
  { approval with state := "CHANGES_REQUESTED", submittedAt := "||" }

def bobsPull : Pull where
  author := "bob"

theorem toLower_replicate (count : Nat) : (String.ofList (List.replicate count 'a')).toLower =
      String.ofList (List.replicate count 'a') := by
  have lower : 'a'.toLower = 'a' := by decide
  apply String.toList_inj.mp
  delta String.toLower
  rw [String.toList_map, String.toList_ofList, List.map_replicate, lower]

theorem toLower_headSha : headSha.toLower = headSha :=
  toLower_replicate 40

theorem provided_withdrawn : Provided strokeClock [approval, changeRequest] "bob" where
  state := by
    intro review inside state
    rcases List.mem_pair.mp inside with rfl | rfl
    · rfl
    · exact absurd state (by decide +kernel)
  commit := by
    intro review inside
    rcases List.mem_pair.mp inside with rfl | rfl
    · exact toLower_headSha
    · exact toLower_headSha
  time := by
    intro review inside _ _
    rcases List.mem_pair.mp inside with rfl | rfl
    · rfl
    · rfl
  named := fun _ _ same => same
  spelled := fun _ _ _ _ same => same
  spelledAuthor := fun _ _ same => same

theorem approves_approval (reviews : List Review) :
    (readbackOf reviews).approves headSha "bob" approval = true := by
  have admin : (readbackOf reviews).hasAdmin approval.login = true := by
    have lower : "admin".toLower = "admin" := by decide +kernel
    simp [Readback.hasAdmin, readbackOf, approval, lower]
  exact Readback.approves_iff.mpr ⟨toUpper_approved, rfl, by decide, by decide, admin⟩

/-- The approval stands alone. -/
theorem revocable_iff_approval :
    Revocable strokeClock (readbackOf [approval]) Gate.sampleTools 7 bobsPull headSha ↔
      Standing strokeClock (readbackOf [approval]) bobsPull headSha :=
  revocable_iff
    { state := fun review inside _ => by
        rcases List.mem_singleton.mp inside with rfl
        rfl
      commit := fun review inside => by
        rcases List.mem_singleton.mp inside with rfl
        exact toLower_headSha
      time := fun review inside _ _ => by
        rcases List.mem_singleton.mp inside with rfl
        rfl
      named := fun _ _ same => same
      spelled := fun _ _ _ _ same => same
      spelledAuthor := fun _ _ same => same }

/-- The approval was replaced by a change request. -/
theorem changeRequest_authorizes :
    ¬∀ (clockwork : Clockwork) (readback : Readback) (tools : Gate.Tools) (number : Int)
      (pr : Pull) (sha : String), Provided clockwork readback.reviews (pr.author.getD "") →
        Revocable clockwork readback tools number pr sha := by
  intro revocable
  have both := revocable strokeClock (readbackOf [approval, changeRequest]) Gate.sampleTools 7
    bobsPull headSha provided_withdrawn
  have reported : (readbackOf [approval, changeRequest]).report
      (governanceAuthorization Gate.sampleTools 7 bobsPull headSha) =
        some (some "ADMIN_REVIEW") := by
    rw [Readback.report_governanceAuthorization, Option.some_inj, reportsAdmin_iff]
    exact ⟨approval, List.mem_cons_self, approves_approval _⟩
  rcases both.current _ List.mem_cons_self reported with
    ⟨review, inside, approves, time, timedAt, last⟩
  rcases List.mem_pair.mp inside with rfl | rfl
  · cases timedAt
    have later := last changeRequest (by simp [readbackOf]) rfl (by decide +kernel) 2 rfl
    exact absurd later (by decide)
  · exact absurd (Readback.approves_iff.mp approves).1 (by decide +kernel)

end Withdrawn

end Adwf.Controller
