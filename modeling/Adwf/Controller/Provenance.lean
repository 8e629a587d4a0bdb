import Adwf.Gate.Provider

/-!
# Provenance of checks and reviews

`validate_check_provenance` and `validate_review_provenance`: the checks and the
approvals that count for one head.
-/

namespace Adwf.Controller

open Trust (reasonIf sortedSet)

/-- A check run of the head. -/
structure Check where
  name : Option String := none
  headSha : Option String := none
  status : Option String := none
  conclusion : Option String := none
  appSlug : Option String := none
  completedAt : Option String := none
  deriving DecidableEq

/-- A review; an author without a login is `""`. -/
structure Review where
  login : String := ""
  state : Option String := none
  commitId : String := ""
  submittedAt : Option String := none
  deriving DecidableEq

/-- The parser of times, in microseconds, and `str.casefold`. -/
structure Clockwork where
  parseTime : String → Option Int
  casefold : String → String

/-- The microseconds of an hour. -/
def hour : Int :=
  3600 * 1000000

section Provenance

variable (clockwork : Clockwork)

/-- A time from the past that is not older than `ttlHours`. -/
def isFresh (now ttlHours time : Int) : Prop :=
  time ≤ now ∧ 1 ≤ ttlHours ∧ now - time ≤ ttlHours * hour

instance (now ttlHours time : Int) : Decidable (isFresh now ttlHours time) :=
  inferInstanceAs (Decidable (_ ∧ _))

/-- What is wrong with the only check of a name. -/
def checkErrors (sha name : String) (slugs : List String) (now ttlHours : Int) (item : Check) :
    List String :=
  reasonIf ((item.headSha.getD "").toLower ≠ sha) ("CHECK_HEAD_MISMATCH:" ++ name) ++
    reasonIf (item.status ≠ some "completed" ∨ item.conclusion ≠ some "success")
      ("CHECK_NOT_SUCCESSFUL:" ++ name) ++
    reasonIf (item.appSlug.all fun slug => slug ∉ slugs) ("CHECK_APP_UNTRUSTED:" ++ name) ++
    match item.completedAt.bind clockwork.parseTime with
    | none => ["CHECK_TIME_INVALID:" ++ name]
    | some completed => reasonIf (¬isFresh now ttlHours completed) ("CHECK_STALE:" ++ name)

/-- What is wrong with the checks of one name. -/
def namedErrors (checks : List Check) (sha : String) (slugs : List String) (now ttlHours : Int)
    (name : String) : List String :=
  match checks.filter fun item => item.name = some name with
  | [item] => checkErrors clockwork sha name slugs now ttlHours item
  | items => ["CHECK_CARDINALITY:" ++ name ++ ":" ++ toString items.length]

/-- `validate_check_provenance` of an exact head: its errors. -/
def validateCheckProvenance (checks : List Check) (sha : String) (names slugs : List String)
    (now ttlHours : Int) : List String :=
  (reasonIf (names = [] ∨ ¬names.Nodup) "EXPECTED_CHECK_NAMES_INVALID" ++
    reasonIf (slugs = []) "TRUSTED_CHECK_APPS_EMPTY" ++
    reasonIf (ttlHours < 1) "CHECK_TTL_INVALID" ++
    names.flatMap (namedErrors clockwork checks sha slugs now ttlHours)).eraseDups

/-- The latest review of a login: one that is not later does not replace it. -/
def noteReview (latest : List (String × Int × Review)) (login : String) (submitted : Int)
    (review : Review) : List (String × Int × Review) :=
  match latest.lookup login with
  | none => latest ++ [(login, submitted, review)]
  | some (before, _) =>
      if before < submitted then
        latest.map fun entry => if entry.1 = login then (login, submitted, review) else entry
      else latest

/-- The loop over the reviews: the latest of each login and the errors. -/
def latestReviews (latest : List (String × Int × Review)) :
    List Review → List (String × Int × Review) × List String
  | [] => (latest, [])
  | review :: reviews =>
      let login := clockwork.casefold review.login
      if login = "" then latestReviews latest reviews
      else
        match review.submittedAt.bind clockwork.parseTime with
        | none =>
            let later := latestReviews latest reviews
            (later.1, ("REVIEW_TIME_INVALID:" ++ login) :: later.2)
        | some submitted => latestReviews (noteReview latest login submitted review) reviews

/-- What the latest review of a trusted login counts for: an approval or its errors. -/
def approvalOf (sha author : String) (now ttlHours : Int)
    (latest : List (String × Int × Review)) (login : String) : Bool × List String :=
  match latest.lookup login with
  | none => (false, [])
  | some (submitted, review) =>
      if login = author then (false, ["REVIEW_NOT_INDEPENDENT:" ++ login])
      else if review.state ≠ some "APPROVED" then (false, [])
      else if review.commitId.toLower ≠ sha then (false, ["REVIEW_HEAD_MISMATCH:" ++ login])
      else if ¬isFresh now ttlHours submitted then (false, ["REVIEW_STALE:" ++ login])
      else (true, [])

/-- `validate_review_provenance` of an exact head with one required approval: its errors. -/
def validateReviewProvenance (reviews : List Review) (sha author : String)
    (trustedLogins : List String) (now ttlHours : Int) : List String :=
  let allowed := (trustedLogins.filter (· ≠ "")).map clockwork.casefold
  let found := latestReviews clockwork [] reviews
  let approvals := (sortedSet allowed).map
    (approvalOf sha (clockwork.casefold author) now ttlHours found.1)
  (reasonIf (allowed = []) "TRUSTED_REVIEWERS_EMPTY" ++
    reasonIf (ttlHours < 1) "REVIEW_TTL_INVALID" ++ found.2 ++ approvals.flatMap Prod.snd ++
    reasonIf ((approvals.filter Prod.fst).length < 1) "REQUIRED_APPROVALS_MISSING:0/1").eraseDups

end Provenance

end Adwf.Controller
