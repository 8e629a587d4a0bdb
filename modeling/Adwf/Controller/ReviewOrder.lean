import Adwf.Controller.Provenance
import Mathlib

/-!
# Reviews in any order

`validate_review_provenance` with its reviewers and any number of required
approvals.  The provider returns the reviews in some order; a review does not
replace an earlier one of the same login and time.
-/

namespace Adwf.Controller

open Trust (reasonIf sortedSet mem_sortedSet reasonIf_eq_nil_iff eraseDups_eq_nil_iff)

/-- What `validate_review_provenance` returns. -/
structure ReviewVerdict where
  errors : List String
  reviewers : List String
  deriving DecidableEq

/-- `valid`. -/
def ReviewVerdict.isValid (verdict : ReviewVerdict) : Bool :=
  verdict.errors = []

section Reviews

variable (clockwork : Clockwork)

/-- `allowed`. -/
def allowedLogins (trustedLogins : List String) : List String :=
  (trustedLogins.filter (· ≠ "")).map clockwork.casefold

/-- The reason that too few reviewers were accepted. -/
def missingApprovals (required : Int) (accepted : Nat) : List String :=
  reasonIf (1 ≤ required ∧ accepted < required)
    ("REQUIRED_APPROVALS_MISSING:" ++ toString accepted ++ "/" ++ toString required)

/-- `validate_review_provenance` of an exact head. -/
def reviewProvenance (reviews : List Review) (sha author : String) (trustedLogins : List String)
    (now ttlHours required : Int) : ReviewVerdict :=
  let allowed := allowedLogins clockwork trustedLogins
  let found := latestReviews clockwork [] reviews
  let approval := approvalOf sha (clockwork.casefold author) now ttlHours found.1
  let accepted := (sortedSet allowed).filter fun login => (approval login).1
  { errors := (reasonIf (allowed = []) "TRUSTED_REVIEWERS_EMPTY" ++
      reasonIf (ttlHours < 1) "REVIEW_TTL_INVALID" ++
      reasonIf (required < 1) "REQUIRED_APPROVAL_COUNT_INVALID" ++ found.2 ++
      (sortedSet allowed).flatMap (fun login => (approval login).2) ++
      missingApprovals required accepted.length).eraseDups
    reviewers := accepted }

/-! ## The reviews of one login -/

/-- The time of a review, when it has one. -/
def timeOf (review : Review) : Option Int :=
  review.submittedAt.bind clockwork.parseTime

/-- The review with its time, when it is one of the login and has a time. -/
def entryOf (login : String) (review : Review) : Option (Int × Review) :=
  if login ≠ "" ∧ login = clockwork.casefold review.login then
    (timeOf clockwork review).map fun time => (time, review)
  else none

/-- The reviews of a login that have a time, in the order of the provider. -/
def timed (reviews : List Review) (login : String) : List (Int × Review) :=
  reviews.filterMap (entryOf clockwork login)

/-- The reviews of a login that no other one of the login is later than. -/
def newest (reviews : List Review) (login : String) : List (Int × Review) :=
  (timed clockwork reviews login).filter fun entry =>
    ∀ other ∈ timed clockwork reviews login, other.1 ≤ entry.1

/-- A review of somebody without a time. -/
def isUntimed (review : Review) : Bool :=
  clockwork.casefold review.login ≠ "" ∧ timeOf clockwork review = none

variable {clockwork}

variable {login : String} {entry : Int × Review}

theorem lookup_replaced_of_ne {other : String} (different : other ≠ login)
    (latest : List (String × Int × Review)) (entry : Int × Review) :
    (latest.map fun item => if item.1 = login then (login, entry) else item).lookup other =
      latest.lookup other := by
  induction latest with
  | nil => rfl
  | cons item latest ih =>
      rw [List.map_cons]
      split_ifs with same
      · rw [List.lookup_cons, List.lookup_cons, ih, same, beq_eq_false_iff_ne.mpr different]
      · rw [List.lookup_cons, List.lookup_cons, ih]

theorem lookup_replaced_self {latest : List (String × Int × Review)}
    {before : Int × Review} (found : latest.lookup login = some before) (entry : Int × Review) :
    (latest.map fun item => if item.1 = login then (login, entry) else item).lookup login =
      some entry := by
  induction latest with
  | nil => cases found
  | cons item latest ih =>
      rw [List.map_cons]
      rw [List.lookup_cons] at found
      split_ifs with same
      · exact List.lookup_cons_self
      · rw [beq_eq_false_iff_ne.mpr (Ne.symm same)] at found
        rw [List.lookup_cons, beq_eq_false_iff_ne.mpr (Ne.symm same)]
        exact ih found

theorem lookup_noteReview (latest : List (String × Int × Review)) (login other : String)
    (submitted : Int) (review : Review) : (noteReview latest login submitted review).lookup other =
      if other = login then
        List.argAux (fun later earlier => earlier.1 < later.1) (latest.lookup login)
          (submitted, review) else latest.lookup other := by
  unfold noteReview
  cases found : latest.lookup login with
  | none =>
      split_ifs with same
      · subst same
        simp [List.lookup_append, found, List.argAux]
      · simp [List.lookup_append, List.lookup_cons, beq_eq_false_iff_ne.mpr same]
  | some entry =>
      rcases entry with ⟨before, earlier⟩
      by_cases newer : before < submitted
      · simp only [newer, if_true, List.argAux]
        split_ifs with same
        · rw [same, lookup_replaced_self found]
        · exact lookup_replaced_of_ne same _ _
      · simp only [newer, if_false, List.argAux]
        split_ifs with same
        · rw [same, found]
        · rfl

/-- The entry of a login after the loop. -/
theorem lookup_latestReviews (named : login ≠ "") (reviews : List Review)
    (latest : List (String × Int × Review)) :
    (latestReviews clockwork latest reviews).1.lookup login = (timed clockwork reviews login).foldl
        (List.argAux fun later earlier => earlier.1 < later.1) (latest.lookup login) := by
  induction reviews generalizing latest with
  | nil => rfl
  | cons review reviews ih =>
      rw [latestReviews, timed, List.filterMap_cons, entryOf, timeOf]
      by_cases anonymous : clockwork.casefold review.login = ""
      · have other : ¬(login ≠ "" ∧ login = clockwork.casefold review.login) := by
          rintro ⟨_, same⟩
          exact named (same.trans anonymous)
        rw [if_neg other, if_pos anonymous]
        exact ih latest
      rw [if_neg anonymous]
      cases review.submittedAt.bind clockwork.parseTime with
      | none =>
          rw [Option.map_none, ite_self]
          exact ih latest
      | some time =>
          rw [ih, lookup_noteReview]
          by_cases same : login = clockwork.casefold review.login
          · rw [if_pos same, if_pos ⟨named, same⟩, Option.map_some, ← same]
            rfl
          · rw [if_neg same, if_neg fun both => same both.2]
            rfl

/-- No entry is kept without a login. -/
theorem lookup_latestReviews_anonymous (reviews : List Review)
    (latest : List (String × Int × Review)) :
    (latestReviews clockwork latest reviews).1.lookup "" = latest.lookup "" := by
  induction reviews generalizing latest with
  | nil => rfl
  | cons review reviews ih =>
      rw [latestReviews]
      by_cases anonymous : clockwork.casefold review.login = ""
      · rw [if_pos anonymous]
        exact ih latest
      rw [if_neg anonymous]
      cases review.submittedAt.bind clockwork.parseTime with
      | none => exact ih latest
      | some time => rw [ih, lookup_noteReview, if_neg (Ne.symm anonymous)]

theorem lookup_latestReviews_nil (reviews : List Review) (login : String) :
    (latestReviews clockwork [] reviews).1.lookup login =
      (timed clockwork reviews login).argmax Prod.fst := by
  by_cases named : login = ""
  · have none : timed clockwork reviews "" = [] := by
      simp [timed, entryOf, List.filterMap_eq_nil_iff]
    rw [named, lookup_latestReviews_anonymous, none]
    rfl
  · exact lookup_latestReviews named reviews []

/-- The loop reports the reviews without a time. -/
theorem latestReviews_errors_eq_nil_iff (reviews : List Review)
    (latest : List (String × Int × Review)) : (latestReviews clockwork latest reviews).2 = [] ↔
      ∀ review ∈ reviews, isUntimed clockwork review = false := by
  induction reviews generalizing latest with
  | nil => simp [latestReviews]
  | cons review reviews ih =>
      rw [latestReviews, List.forall_mem_cons, isUntimed, timeOf]
      by_cases anonymous : clockwork.casefold review.login = ""
      · rw [if_pos anonymous, ih]
        simp [anonymous]
      rw [if_neg anonymous]
      cases review.submittedAt.bind clockwork.parseTime with
      | none => simp [anonymous]
      | some time => simp [ih]

/-! ## Choices among reviews of the same time -/

variable (clockwork) in
/-- A newest review of each login that has reviews. -/
def Choice (reviews : List Review) (pick : String → Option (Int × Review)) : Prop :=
  ∀ login, (timed clockwork reviews login = [] ∧ pick login = none) ∨
    ∃ entry ∈ newest clockwork reviews login, pick login = some entry

variable {reviews permuted : List Review} {pick : String → Option (Int × Review)}

theorem mem_newest_iff : entry ∈ newest clockwork reviews login ↔
      entry ∈ timed clockwork reviews login ∧
        ∀ other ∈ timed clockwork reviews login, other.1 ≤ entry.1 := by
  simp [newest]

theorem timed_perm (same : reviews.Perm permuted) (login : String) :
    (timed clockwork reviews login).Perm (timed clockwork permuted login) :=
  same.filterMap _

theorem mem_newest_iff_of_perm (same : reviews.Perm permuted) :
    entry ∈ newest clockwork permuted login ↔ entry ∈ newest clockwork reviews login := by
  simp only [mem_newest_iff, (timed_perm same login).mem_iff]

theorem Choice.of_perm (choice : Choice clockwork permuted pick) (same : reviews.Perm permuted) :
    Choice clockwork reviews pick := by
  intro login
  rcases choice login with ⟨none, unpicked⟩ | ⟨entry, listed, picked⟩
  · exact Or.inl ⟨(List.perm_nil.mp (none ▸ timed_perm same login)), unpicked⟩
  · exact Or.inr ⟨entry, (mem_newest_iff_of_perm same).mp listed, picked⟩

/-- The loop chooses a newest review. -/
theorem choice_latest (reviews : List Review) :
    Choice clockwork reviews fun login => (timed clockwork reviews login).argmax Prod.fst := by
  intro login
  cases found : (timed clockwork reviews login).argmax Prod.fst with
  | none => exact Or.inl ⟨List.argmax_eq_none.mp found, found⟩
  | some entry =>
      refine Or.inr ⟨entry, mem_newest_iff.mpr ⟨List.argmax_mem found, ?_⟩, found⟩
      intro other listed
      exact List.le_of_mem_argmax listed found

theorem foldl_keeps {back : List (Int × Review)} (newest : ∀ other ∈ back, other.1 ≤ entry.1) :
    back.foldl (List.argAux fun later earlier => earlier.1 < later.1) (some entry) =
      some entry := by
  induction back with
  | nil => rfl
  | cons other back ih =>
      rcases List.forall_mem_cons.mp newest with ⟨first, others⟩
      have kept : List.argAux (fun later earlier : Int × Review => earlier.1 < later.1)
          (some entry) other = some entry :=
        if_neg (Int.not_lt.mpr first)
      rw [List.foldl_cons, kept]
      exact ih others

theorem argmax_append_of_only {front back : List (Int × Review)}
    (filled : entry ∈ front) (only : ∀ other ∈ front, other = entry)
    (newest : ∀ other ∈ back, other.1 ≤ entry.1) :
    (front ++ back).argmax Prod.fst = some entry := by
  have kept : front.argmax Prod.fst = some entry := by
    cases found : front.argmax Prod.fst with
    | none =>
        rw [List.argmax_eq_none.mp found] at filled
        cases filled
    | some other => rw [only other (List.argmax_mem found)]
  rw [List.argmax] at kept
  rw [List.argmax, List.foldl_append, kept]
  exact foldl_keeps newest

/-- The review is the one that is picked for its login. -/
def isPicked (clockwork : Clockwork) (pick : String → Option (Int × Review))
    (review : Review) : Bool :=
  pick (clockwork.casefold review.login) =
    (timeOf clockwork review).map fun time => (time, review)

theorem mem_timed_iff : entry ∈ timed clockwork reviews login ↔
      entry.2 ∈ reviews ∧ login ≠ "" ∧ login = clockwork.casefold entry.2.login ∧
        timeOf clockwork entry.2 = some entry.1 := by
  rcases entry with ⟨time, review⟩
  rw [timed, List.mem_filterMap]
  constructor
  · rintro ⟨other, inside, read⟩
    unfold entryOf at read
    split_ifs at read with named
    rcases Option.map_eq_some_iff.mp read with ⟨_, timedAt, ⟨⟩⟩
    exact ⟨inside, named.1, named.2, timedAt⟩
  · rintro ⟨inside, named, same, timedAt⟩
    refine ⟨review, inside, ?_⟩
    rw [entryOf, if_pos ⟨named, same⟩, timedAt]
    rfl

theorem exists_perm_of_choice (choice : Choice clockwork reviews pick) :
    ∃ permuted, reviews.Perm permuted ∧
      ∀ login, (timed clockwork permuted login).argmax Prod.fst = pick login := by
  have same : reviews.Perm (reviews.filter (isPicked clockwork pick) ++
      reviews.filter fun review => !isPicked clockwork pick review) :=
    (List.filter_append_perm _ reviews).symm
  refine ⟨_, same, ?_⟩
  intro login
  rcases choice login with ⟨none, unpicked⟩ | ⟨entry, listed, picked⟩
  · rw [unpicked, List.argmax_eq_none]
    exact List.nil_perm.mp (none ▸ timed_perm same login)
  · rcases mem_newest_iff.mp listed with ⟨inside, greatest⟩
    rcases mem_timed_iff.mp inside with ⟨given, named, ofLogin, timedAt⟩
    rw [picked, timed, List.filterMap_append]
    refine argmax_append_of_only ?_ ?_ ?_
    · refine mem_timed_iff.mpr ⟨List.mem_filter.mpr ⟨given, ?_⟩, named, ofLogin, timedAt⟩
      rw [isPicked, ← ofLogin, picked, timedAt]
      exact decide_eq_true rfl
    · intro other listedOther
      rcases mem_timed_iff.mp listedOther with ⟨givenOther, _, ofOther, timedOther⟩
      have chosen := of_decide_eq_true (List.mem_filter.mp givenOther).2
      rw [← ofOther, picked, timedOther] at chosen
      exact (Option.some.inj chosen).symm
    · intro other listedOther
      rcases mem_timed_iff.mp listedOther with ⟨givenOther, rest⟩
      exact greatest other (mem_timed_iff.mpr ⟨(List.mem_filter.mp givenOther).1, rest⟩)

/-! ## What a review counts for -/

section Rule

variable (clockwork : Clockwork) (sha author : String) (trustedLogins : List String)
variable (now ttlHours required : Int)

/-- What the review counts for as the latest one of its login. -/
def countsFor (login : String) (entry : Int × Review) : Bool × List String :=
  approvalOf sha (clockwork.casefold author) now ttlHours [(login, entry)] login

/-- An approval of the head. -/
def Approves (review : Review) : Prop :=
  review.state = some "APPROVED" ∧ review.commitId.toLower = sha

/-- The review counts as an approval. -/
def Accepts (login : String) (entry : Int × Review) : Prop :=
  (countsFor clockwork sha author now ttlHours login entry).1 = true

instance (login : String) (entry : Int × Review) :
    Decidable (Accepts clockwork sha author now ttlHours login entry) :=
  inferInstanceAs (Decidable (_ = _))

/-- The review makes the whole list invalid. -/
def Fails (login : String) (entry : Int × Review) : Prop :=
  (countsFor clockwork sha author now ttlHours login entry).2 ≠ []

/-- The reviewers that some choice accepts. -/
def reviewersOf (pick : String → Option (Int × Review)) : List String :=
  (sortedSet (allowedLogins clockwork trustedLogins)).filter fun login =>
    (pick login).any fun entry => Accepts clockwork sha author now ttlHours login entry

/-- The list is valid with the chosen reviews as the latest ones. -/
structure Passes (reviews : List Review) (pick : String → Option (Int × Review)) : Prop where
  reviewers : allowedLogins clockwork trustedLogins ≠ []
  ttl : 1 ≤ ttlHours
  count : 1 ≤ required
  timely : ∀ review ∈ reviews, isUntimed clockwork review = false
  sound : ∀ login ∈ allowedLogins clockwork trustedLogins, ∀ entry ∈ pick login,
    ¬Fails clockwork sha author now ttlHours login entry
  enough : required ≤ (reviewersOf clockwork sha author trustedLogins now ttlHours pick).length

variable {clockwork sha author trustedLogins now ttlHours required}

theorem accepts_iff {login : String} {entry : Int × Review} :
    Accepts clockwork sha author now ttlHours login entry ↔
      login ≠ clockwork.casefold author ∧ Approves sha entry.2 ∧ isFresh now ttlHours entry.1 := by
  rcases entry with ⟨time, review⟩
  unfold Accepts countsFor approvalOf Approves
  rw [List.lookup_cons_self]
  by_cases own : login = clockwork.casefold author
  · simp [own]
  by_cases state : review.state = some "APPROVED"
  · by_cases head : review.commitId.toLower = sha
    · by_cases fresh : isFresh now ttlHours time
      · simp [own, state, head, fresh]
      · simp [own, state, head, fresh]
    · simp [own, state, head]
  · simp [own, state]

theorem approvalOf_eq (latest : List (String × Int × Review)) (login : String) :
    approvalOf sha (clockwork.casefold author) now ttlHours latest login =
      ((latest.lookup login).map (countsFor clockwork sha author now ttlHours login)).getD
        (false, []) := by
  cases found : latest.lookup login with
  | none => simp [approvalOf, found]
  | some entry => simp [approvalOf, countsFor, found]

theorem approval_eq (reviews : List Review) (login : String) :
    approvalOf sha (clockwork.casefold author) now ttlHours
        (latestReviews clockwork [] reviews).1 login =
      (((timed clockwork reviews login).argmax Prod.fst).map
        (countsFor clockwork sha author now ttlHours login)).getD (false, []) := by
  rw [approvalOf_eq, lookup_latestReviews_nil]

theorem reviewers_eq (reviews : List Review) :
    (reviewProvenance clockwork reviews sha author trustedLogins now ttlHours required).reviewers =
      reviewersOf clockwork sha author trustedLogins now ttlHours
        fun login => (timed clockwork reviews login).argmax Prod.fst := by
  simp only [reviewProvenance, reviewersOf, approval_eq]
  refine List.filter_congr fun login _ => ?_
  cases (timed clockwork reviews login).argmax Prod.fst with
  | none => rfl
  | some entry => exact Bool.decide_eq_true.symm

theorem approvalErrors_eq_nil_iff (reviews : List Review) :
    (sortedSet (allowedLogins clockwork trustedLogins)).flatMap (fun login =>
        (approvalOf sha (clockwork.casefold author) now ttlHours
          (latestReviews clockwork [] reviews).1 login).2) = [] ↔
      ∀ login ∈ allowedLogins clockwork trustedLogins,
        ∀ entry ∈ (timed clockwork reviews login).argmax Prod.fst,
          ¬Fails clockwork sha author now ttlHours login entry := by
  simp only [List.flatMap_eq_nil_iff, mem_sortedSet, approval_eq]
  refine forall₂_congr fun login _ => ?_
  cases (timed clockwork reviews login).argmax Prod.fst with
  | none => simp
  | some entry => simp [Fails]

theorem isValid_iff (reviews : List Review) :
    (reviewProvenance clockwork reviews sha author trustedLogins now ttlHours
        required).isValid = true ↔
      Passes clockwork sha author trustedLogins now ttlHours required reviews
        fun login => (timed clockwork reviews login).argmax Prod.fst := by
  have counted := @reviewers_eq clockwork sha author trustedLogins now ttlHours required reviews
  rw [ReviewVerdict.isValid, decide_eq_true_iff]
  simp only [reviewProvenance] at counted ⊢
  rw [counted, eraseDups_eq_nil_iff]
  simp only [List.append_eq_nil_iff, reasonIf_eq_nil_iff, missingApprovals,
    latestReviews_errors_eq_nil_iff, approvalErrors_eq_nil_iff, Int.not_lt]
  constructor
  · rintro ⟨⟨⟨⟨⟨reviewers, ttl⟩, count⟩, timely⟩, sound⟩, enough⟩
    exact ⟨reviewers, ttl, count, timely, sound, Int.not_lt.mp fun few => enough ⟨count, few⟩⟩
  · rintro ⟨reviewers, ttl, count, timely, sound, enough⟩
    exact ⟨⟨⟨⟨⟨reviewers, ttl⟩, count⟩, timely⟩, sound⟩,
      fun few => absurd few.2 (Int.not_lt.mpr enough)⟩

/-! ## The order of the provider -/

section Law

variable (clockwork : Clockwork) (sha author : String) (trustedLogins : List String)
variable (now ttlHours required : Int) (reviews : List Review)

/-- The result does not depend on the order, and counts what it says it counts. -/
structure Faithful : Prop where
  orderFree : ∀ permuted, reviews.Perm permuted →
    (reviewProvenance clockwork permuted sha author trustedLogins now ttlHours
      required).isValid =
        (reviewProvenance clockwork reviews sha author trustedLogins now ttlHours
          required).isValid ∧
      (reviewProvenance clockwork permuted sha author trustedLogins now ttlHours
        required).reviewers =
        (reviewProvenance clockwork reviews sha author trustedLogins now ttlHours
          required).reviewers
  counted : ∀ login ∈ (reviewProvenance clockwork reviews sha author trustedLogins now ttlHours
      required).reviewers,
    login ∈ allowedLogins clockwork trustedLogins ∧ login ≠ clockwork.casefold author ∧
      ∃ entry ∈ newest clockwork reviews login, Approves sha entry.2
  unanimous : ∀ login ∈ (reviewProvenance clockwork reviews sha author trustedLogins now ttlHours
      required).reviewers,
    ∀ entry ∈ newest clockwork reviews login, Approves sha entry.2

/-- The reviewers of whom some newest review counts as an approval. -/
def approvers : List String :=
  (sortedSet (allowedLogins clockwork trustedLogins)).filter fun login =>
    (newest clockwork reviews login).any fun entry =>
      Accepts clockwork sha author now ttlHours login entry

/-- The list is invalid whichever of the newest reviews are taken. -/
def Doomed : Prop :=
  allowedLogins clockwork trustedLogins = [] ∨ ttlHours < 1 ∨ required < 1 ∨
    (∃ review ∈ reviews, isUntimed clockwork review = true) ∨
    (∃ login ∈ allowedLogins clockwork trustedLogins, newest clockwork reviews login ≠ [] ∧
      ∀ entry ∈ newest clockwork reviews login,
        Fails clockwork sha author now ttlHours login entry) ∨
    (approvers clockwork sha author trustedLogins now ttlHours reviews).length < required

/-- Reviews of one login and time do not contradict each other. -/
structure Unambiguous : Prop where
  approvals : ∀ login ∈ allowedLogins clockwork trustedLogins,
    ∀ first ∈ newest clockwork reviews login, ∀ second ∈ newest clockwork reviews login,
      Accepts clockwork sha author now ttlHours login first →
        Accepts clockwork sha author now ttlHours login second
  failures : (∀ login ∈ allowedLogins clockwork trustedLogins,
      ∀ entry ∈ newest clockwork reviews login,
        ¬Fails clockwork sha author now ttlHours login entry) ∨
    Doomed clockwork sha author trustedLogins now ttlHours required reviews

variable {clockwork sha author trustedLogins now ttlHours required reviews}
variable {pick : String → Option (Int × Review)}

variable {login : String} {entry : Int × Review}

theorem Choice.mem_newest (choice : Choice clockwork reviews pick) (picked : entry ∈ pick login) :
    entry ∈ newest clockwork reviews login := by
  rcases choice login with ⟨_, unpicked⟩ | ⟨other, listed, chosen⟩
  · rw [unpicked] at picked
    cases picked
  · rw [chosen] at picked
    rcases Option.mem_some_iff.mp picked with rfl
    exact listed

theorem Choice.exists_pick (choice : Choice clockwork reviews pick) (listed : entry ∈ newest clockwork reviews login) :
    ∃ other ∈ pick login, other ∈ newest clockwork reviews login := by
  rcases choice login with ⟨none, _⟩ | ⟨other, listedOther, chosen⟩
  · rw [mem_newest_iff, none] at listed
    cases listed.1
  · exact ⟨other, chosen, listedOther⟩

theorem mem_reviewersOf_iff :
    login ∈ reviewersOf clockwork sha author trustedLogins now ttlHours pick ↔
      login ∈ allowedLogins clockwork trustedLogins ∧
        ∃ entry ∈ pick login, Accepts clockwork sha author now ttlHours login entry := by
  simp only [reviewersOf, List.mem_filter, mem_sortedSet, Option.any_eq_true, decide_eq_true_eq,
    Option.mem_def]

theorem reviewersOf_eq_approvers (choice : Choice clockwork reviews pick)
    (approvals : ∀ login ∈ allowedLogins clockwork trustedLogins,
      ∀ first ∈ newest clockwork reviews login, ∀ second ∈ newest clockwork reviews login,
        Accepts clockwork sha author now ttlHours login first →
          Accepts clockwork sha author now ttlHours login second) :
    reviewersOf clockwork sha author trustedLogins now ttlHours pick =
      approvers clockwork sha author trustedLogins now ttlHours reviews := by
  refine List.filter_congr fun login listed => ?_
  rw [Bool.eq_iff_iff, Option.any_eq_true, List.any_eq_true]
  simp only [decide_eq_true_eq]
  constructor
  · rintro ⟨entry, picked, accepted⟩
    exact ⟨entry, choice.mem_newest picked, accepted⟩
  · rintro ⟨entry, newestEntry, accepted⟩
    rcases choice.exists_pick newestEntry with ⟨other, picked, newestOther⟩
    exact ⟨other, picked, approvals login (mem_sortedSet.mp listed) entry newestEntry other
      newestOther accepted⟩

theorem Doomed.not_passes
    (doomed : Doomed clockwork sha author trustedLogins now ttlHours required reviews)
    (choice : Choice clockwork reviews pick)
    (same : reviewersOf clockwork sha author trustedLogins now ttlHours pick =
      approvers clockwork sha author trustedLogins now ttlHours reviews) :
    ¬Passes clockwork sha author trustedLogins now ttlHours required reviews pick := by
  intro passes
  rcases doomed with none | expired | uncounted | ⟨review, inside, untimed⟩ |
    ⟨login, listed, filled, fails⟩ | few
  · exact passes.reviewers none
  · exact absurd passes.ttl (Int.not_le.mpr expired)
  · exact absurd passes.count (Int.not_le.mpr uncounted)
  · rw [passes.timely review inside] at untimed
    cases untimed
  · rcases List.exists_mem_of_ne_nil _ filled with ⟨entry, newestEntry⟩
    rcases choice.exists_pick newestEntry with ⟨other, picked, newestOther⟩
    exact passes.sound login listed other picked (fails other newestOther)
  · rw [← same] at few
    exact absurd passes.enough (Int.not_le.mpr few)

theorem Unambiguous.passes_iff
    (unambiguous : Unambiguous clockwork sha author trustedLogins now ttlHours required reviews)
    {other : String → Option (Int × Review)} (choice : Choice clockwork reviews pick)
    (otherChoice : Choice clockwork reviews other) :
    Passes clockwork sha author trustedLogins now ttlHours required reviews pick →
      Passes clockwork sha author trustedLogins now ttlHours required reviews other := by
  intro passes
  have same := reviewersOf_eq_approvers choice unambiguous.approvals
  have otherSame := reviewersOf_eq_approvers otherChoice unambiguous.approvals
  rcases unambiguous.failures with sound | doomed
  · refine ⟨passes.reviewers, passes.ttl, passes.count, passes.timely, ?_, ?_⟩
    · intro login listed entry picked
      exact sound login listed entry (otherChoice.mem_newest picked)
    · rw [otherSame, ← same]
      exact passes.enough
  · exact absurd passes (doomed.not_passes choice same)

theorem Passes.of_perm (same : reviews.Perm permuted)
    (passes : Passes clockwork sha author trustedLogins now ttlHours required reviews pick) :
    Passes clockwork sha author trustedLogins now ttlHours required permuted pick :=
  ⟨passes.reviewers, passes.ttl, passes.count,
    fun review inside => passes.timely review (same.mem_iff.mpr inside), passes.sound,
    passes.enough⟩

/-- Reviews in another order count as some choice among the newest ones. -/
theorem choice_of_perm (same : reviews.Perm permuted) :
    Choice clockwork reviews fun login => (timed clockwork permuted login).argmax Prod.fst :=
  (choice_latest permuted).of_perm same

theorem isValid_iff_of_perm (same : reviews.Perm permuted) :
    (reviewProvenance clockwork permuted sha author trustedLogins now ttlHours
        required).isValid = true ↔
      Passes clockwork sha author trustedLogins now ttlHours required reviews
        fun login => (timed clockwork permuted login).argmax Prod.fst := by
  rw [isValid_iff]
  exact ⟨Passes.of_perm same.symm, Passes.of_perm same⟩

theorem Choice.update (choice : Choice clockwork reviews pick) (listed : entry ∈ newest clockwork reviews login) :
    Choice clockwork reviews (Function.update pick login (some entry)) := by
  intro other
  by_cases same : other = login
  · subst same
    exact Or.inr ⟨entry, listed, Function.update_self ..⟩
  · rw [Function.update_of_ne same]
    exact choice other

theorem exists_sound_choice
    (hopeful : ¬Doomed clockwork sha author trustedLogins now ttlHours required reviews) :
    ∃ pick, Choice clockwork reviews pick ∧
      ∀ login ∈ allowedLogins clockwork trustedLogins, ∀ entry ∈ pick login,
        ¬Fails clockwork sha author now ttlHours login entry := by
  have each : ∀ login, ∃ picked : Option (Int × Review),
      ((timed clockwork reviews login = [] ∧ picked = none) ∨
        ∃ entry ∈ newest clockwork reviews login, picked = some entry) ∧
      (login ∈ allowedLogins clockwork trustedLogins → ∀ entry ∈ picked,
        ¬Fails clockwork sha author now ttlHours login entry) := by
    intro login
    rcases @choice_latest clockwork reviews login with
      ⟨silent, _⟩ | ⟨entry, listed, _⟩
    · exact ⟨none, Or.inl ⟨silent, rfl⟩, fun _ _ picked => by cases picked⟩
    · by_cases sound : ∃ other ∈ newest clockwork reviews login,
          ¬Fails clockwork sha author now ttlHours login other
      · rcases sound with ⟨other, listedOther, holds⟩
        refine ⟨some other, Or.inr ⟨other, listedOther, rfl⟩, ?_⟩
        rintro _ _ ⟨⟩
        exact holds
      · refine ⟨some entry, Or.inr ⟨entry, listed, rfl⟩, ?_⟩
        intro allowed
        refine absurd (Or.inr (Or.inr (Or.inr (Or.inr (Or.inl ⟨login, allowed,
          List.ne_nil_of_mem listed, ?_⟩))))) hopeful
        intro other listedOther
        by_contra holds
        exact sound ⟨other, listedOther, holds⟩
  choose pick chosen sound using each
  exact ⟨pick, chosen, sound⟩

theorem passes_of_sound
    (hopeful : ¬Doomed clockwork sha author trustedLogins now ttlHours required reviews)
    (sound : ∀ login ∈ allowedLogins clockwork trustedLogins, ∀ entry ∈ pick login,
      ¬Fails clockwork sha author now ttlHours login entry)
    (same : reviewersOf clockwork sha author trustedLogins now ttlHours pick =
      approvers clockwork sha author trustedLogins now ttlHours reviews) :
    Passes clockwork sha author trustedLogins now ttlHours required reviews pick := by
  unfold Doomed at hopeful
  push Not at hopeful
  rcases hopeful with ⟨reviewers, ttl, count, timely, _, enough⟩
  refine ⟨reviewers, ttl, count, ?_, sound, same.symm ▸ enough⟩
  intro review inside
  exact Bool.eq_false_iff.mpr (timely review inside)

/-- Whatever the order chooses, the result is the same. -/
theorem Faithful.choices_agree
    (faithful : Faithful clockwork sha author trustedLogins now ttlHours required reviews)
    (choice : Choice clockwork reviews pick) :
    (Passes clockwork sha author trustedLogins now ttlHours required reviews pick ↔
        (reviewProvenance clockwork reviews sha author trustedLogins now ttlHours
          required).isValid = true) ∧
      reviewersOf clockwork sha author trustedLogins now ttlHours pick =
        (reviewProvenance clockwork reviews sha author trustedLogins now ttlHours
          required).reviewers := by
  rcases exists_perm_of_choice choice with ⟨permuted, moved, kept⟩
  rcases faithful.orderFree permuted moved with ⟨valid, reviewers⟩
  rw [← valid, ← reviewers, isValid_iff_of_perm moved, reviewers_eq, funext kept]
  exact ⟨Iff.rfl, rfl⟩

theorem Faithful.approvals
    (faithful : Faithful clockwork sha author trustedLogins now ttlHours required reviews) :
    ∀ login ∈ allowedLogins clockwork trustedLogins,
      ∀ first ∈ newest clockwork reviews login, ∀ second ∈ newest clockwork reviews login,
        Accepts clockwork sha author now ttlHours login first →
          Accepts clockwork sha author now ttlHours login second := by
  intro login allowed first listedFirst second listedSecond accepted
  have latest := @choice_latest clockwork reviews
  have firstAgrees := (faithful.choices_agree (latest.update listedFirst)).2
  have secondAgrees := (faithful.choices_agree (latest.update listedSecond)).2
  have inside : login ∈ (reviewProvenance clockwork reviews sha author trustedLogins now ttlHours
      required).reviewers := by
    rw [← firstAgrees]
    exact mem_reviewersOf_iff.mpr ⟨allowed, first, Function.update_self .., accepted⟩
  rw [← secondAgrees] at inside
  rcases mem_reviewersOf_iff.mp inside with ⟨_, entry, picked, acceptedEntry⟩
  rw [Function.update_self] at picked
  rcases Option.mem_some_iff.mp picked with rfl
  exact acceptedEntry

/-- The result is independent of the order of the reviews exactly when reviews of one login
and time do not contradict each other. -/
theorem faithful_iff_unambiguous :
    Faithful clockwork sha author trustedLogins now ttlHours required reviews ↔
      Unambiguous clockwork sha author trustedLogins now ttlHours required reviews := by
  constructor
  · intro faithful
    refine ⟨faithful.approvals, ?_⟩
    by_cases doomed : Doomed clockwork sha author trustedLogins now ttlHours required reviews
    · exact Or.inr doomed
    refine Or.inl ?_
    intro login allowed entry listed fails
    -- With a sound choice the list is valid, so it stays valid when the failure comes first.
    rcases exists_sound_choice doomed with ⟨pick, choice, sound⟩
    have passes := passes_of_sound doomed sound
      (reviewersOf_eq_approvers choice faithful.approvals)
    have valid := (faithful.choices_agree choice).1.mp passes
    have failing := (faithful.choices_agree (choice.update listed)).1.mpr valid
    exact failing.sound login allowed entry (Function.update_self ..) fails
  · intro unambiguous
    have latest := @choice_latest clockwork reviews
    refine ⟨?_, ?_, ?_⟩
    · intro permuted moved
      have choice : Choice clockwork reviews _ := choice_of_perm moved
      refine ⟨?_, ?_⟩
      · rw [Bool.eq_iff_iff, isValid_iff_of_perm moved, isValid_iff]
        exact ⟨unambiguous.passes_iff choice latest, unambiguous.passes_iff latest choice⟩
      · rw [reviewers_eq, reviewers_eq, reviewersOf_eq_approvers choice unambiguous.approvals,
          reviewersOf_eq_approvers latest unambiguous.approvals]
    · intro login inside
      rw [reviewers_eq] at inside
      rcases mem_reviewersOf_iff.mp inside with ⟨allowed, entry, picked, accepted⟩
      rcases accepts_iff.mp accepted with ⟨independent, approves, _⟩
      exact ⟨allowed, independent, entry, latest.mem_newest picked, approves⟩
    · intro login inside entry listed
      rw [reviewers_eq] at inside
      rcases mem_reviewersOf_iff.mp inside with ⟨allowed, other, picked, accepted⟩
      exact (accepts_iff.mp (unambiguous.approvals login allowed other (latest.mem_newest picked)
        entry listed accepted)).2.1

end Law

end Rule

end Reviews

/-- An approval and a request for changes, submitted in the same second. -/
def approvalReview : Review where
  login := "reviewer"
  state := some "APPROVED"
  commitId := "aaaaaaaaaaaaaaaaaaaaaaaaaaaaaaaaaaaaaaaa"
  submittedAt := some "2026-08-13T10:00:00Z"

def objectionReview : Review :=
  { approvalReview with state := some "CHANGES_REQUESTED" }

/-- The built-ins on the texts of the two reviews. -/
def secondClockwork : Clockwork where
  parseTime text := if text = "2026-08-13T10:00:00Z" then some 0 else none
  casefold := String.toLower

/-- The approval counts when it comes first. -/
theorem not_always_faithful :
    ¬ ∀ (clockwork : Clockwork) (sha author : String) (trustedLogins : List String)
      (now ttlHours required : Int) (reviews : List Review),
      Faithful clockwork sha author trustedLogins now ttlHours required reviews := by
  intro faithful
  have approved : (reviewProvenance secondClockwork [approvalReview, objectionReview]
      "aaaaaaaaaaaaaaaaaaaaaaaaaaaaaaaaaaaaaaaa" "writer" ["reviewer"] 0 168 1).isValid =
        true := by
    decide +kernel
  have refused : (reviewProvenance secondClockwork [objectionReview, approvalReview]
      "aaaaaaaaaaaaaaaaaaaaaaaaaaaaaaaaaaaaaaaa" "writer" ["reviewer"] 0 168 1).isValid =
        false := by
    decide +kernel
  have same := ((faithful secondClockwork "aaaaaaaaaaaaaaaaaaaaaaaaaaaaaaaaaaaaaaaa" "writer"
    ["reviewer"] 0 168 1 [approvalReview, objectionReview]).orderFree
      [objectionReview, approvalReview] (List.Perm.swap _ _ _)).1
  rw [approved, refused] at same
  cases same

end Adwf.Controller
