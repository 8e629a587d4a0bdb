import Mathlib.Data.List.Nodup
import Mathlib.Logic.Relation
import Adwf.Value.Fallible
import Adwf.Value.Json
import Adwf.Value.Text

/-!
# The ancestor proof

The gateway walks the parent links of the provider breadth first from the head
until it meets the base.  A commit that was read stays in the cache, so the
links of a walk are those of its cache, whatever the provider answers later.
-/

namespace Adwf.ProviderRequests

open Fallible Json Relation

/-- What the walk raises: a code of the gateway, the error of a member that is
not a mapping, or the error of the provider. -/
inductive CommitError where
  | code (text : String)
  | attributeError
  | provider (error : String)
  deriving DecidableEq

/-- `GitHubClient.git_commit`: a JSON object, or the error of the request. -/
structure CommitProvider (σ : Type) where
  gitCommit : σ → String → Except String Fields × σ

structure Person where
  name : String
  email : String

/-- What `_commit_node` keeps of a commit. -/
structure CommitNode where
  sha : String
  treeSha : String
  parents : List String
  message : String
  verified : Bool
  reason : String
  author : Person
  committer : Person

/-- The commits read so far, the latest first. -/
abbrev CommitCache := List (String × CommitNode)

/-- `_MAX_ANCESTRY_COMMITS`. -/
def maxAncestryCommits : Nat :=
  512

/-! ## One commit -/

section Reading

variable (rt : Runtime)

/-- `str(value or "")`. -/
def textOr (value : Json) : String :=
  if value.truthy then rt.text value else ""

/-- `value if isinstance(value, dict) else {}`. -/
def dictOr : Json → Fields
  | .obj fields => fields
  | _ => []

/-- `str((tree or {}).get("sha") or "")`. -/
def treeShaOf (tree : Json) : Except CommitError String :=
  if tree.truthy then
    match tree with
    | .obj fields => .ok (textOr rt (get fields "sha"))
    | _ => .error .attributeError
  else .ok ""

/-- The SHA of one item of `parents`. -/
def readParent (item : Json) : Except CommitError String := do
  let value := textOr rt (get (dictOr item) "sha")
  require (Text.isSha40 value) (.code "PROVIDER_OPS_COMMIT_PARENT_INVALID")
  return value

def readPerson (person : Json) : Person where
  name := textOr rt (get (dictOr person) "name")
  email := textOr rt (get (dictOr person) "email")

/-- The checks of `_commit_node` on an answer of the provider. -/
def readCommit (sha : String) (payload : Fields) : Except CommitError CommitNode := do
  require (textOr rt (get payload "sha") = sha)
    (.code "PROVIDER_OPS_COMMIT_READBACK_MISMATCH")
  let treeSha ← treeShaOf rt (get payload "tree")
  match get payload "parents" with
  | .arr items =>
      require (Text.isSha40 treeSha) (.code "PROVIDER_OPS_COMMIT_PAYLOAD_INVALID")
      let parents ← items.mapM (readParent rt)
      let verification := dictOr (get payload "verification")
      return {
        sha, treeSha, parents
        message := textOr rt (get payload "message")
        verified := get verification "verified" = .bool true
        reason := textOr rt (get verification "reason")
        author := readPerson rt (get payload "author")
        committer := readPerson rt (get payload "committer") }
  | _ => .error (.code "PROVIDER_OPS_COMMIT_PAYLOAD_INVALID")

end Reading

/-- The provider and the cache, with the commits `_commit_node` was called for. -/
structure Walk (σ : Type) where
  provider : σ
  cache : CommitCache
  visited : List String

section Walking

variable {σ : Type} (client : CommitProvider σ) (rt : Runtime)

/-- `_commit_node`. -/
def commitNode (sha : String) (walk : Walk σ) : Except CommitError CommitNode × Walk σ :=
  let walk := { walk with visited := walk.visited ++ [sha] }
  if Text.isSha40 sha = false then (.error (.code "PROVIDER_OPS_COMMIT_SHA_INVALID"), walk)
  else
    match walk.cache.lookup sha with
    | some node => (.ok node, walk)
    | none =>
        match client.gitCommit walk.provider sha with
        | (.error error, provider) => (.error (.provider error), { walk with provider })
        | (.ok payload, provider) =>
            match readCommit rt sha payload with
            | .error error => (.error error, { walk with provider })
            | .ok node => (.ok node, { walk with provider, cache := (sha, node) :: walk.cache })

def ancestryLimit : CommitError :=
  .code "PROVIDER_OPS_ANCESTRY_LIMIT"

def baseNotAncestor : CommitError :=
  .code "PROVIDER_OPS_BASE_NOT_ANCESTOR"

/-- The loop of `_prove_ancestor`. -/
def proveFrom (base : String) (pending seen : List String) (walk : Walk σ) :
    Except CommitError Unit × Walk σ :=
  match pending with
  | [] => (.error baseNotAncestor, walk)
  | current :: pending =>
      if current = base then
        match commitNode client rt current walk with
        | (.error error, walk) => (.error error, walk)
        | (.ok _, walk) => (.ok (), walk)
      else if current ∈ seen then proveFrom base pending seen walk
      else if maxAncestryCommits ≤ seen.length then (.error ancestryLimit, walk)
      else
        match commitNode client rt current walk with
        | (.error error, walk) => (.error error, walk)
        | (.ok node, walk) =>
            proveFrom base (pending ++ node.parents.filter (· ∉ current :: seen)) (current :: seen)
              walk
termination_by (maxAncestryCommits - seen.length, pending.length)

/-- `_prove_ancestor`. -/
def proveAncestor (base head : String) (walk : Walk σ) : Except CommitError Unit × Walk σ :=
  proveFrom client rt base [head] [] walk

/-! ## What one commit can do -/

/-- The parent links of the commits in a cache. -/
def Parent (cache : CommitCache) (child parent : String) : Prop :=
  ∃ node, cache.lookup child = some node ∧ parent ∈ node.parents

/-- The errors of reading a commit: the provider's own, or a code for an answer
that is not a commit. -/
def CommitError.OfCommit : CommitError → Prop
  | .code text =>
      text ∈ ["PROVIDER_OPS_COMMIT_SHA_INVALID", "PROVIDER_OPS_COMMIT_READBACK_MISMATCH",
        "PROVIDER_OPS_COMMIT_PAYLOAD_INVALID", "PROVIDER_OPS_COMMIT_PARENT_INVALID"]
  | .attributeError | .provider _ => True

/-- A larger cache keeps what a smaller one holds. -/
def Extends (larger smaller : CommitCache) : Prop :=
  ∀ sha node, smaller.lookup sha = some node → larger.lookup sha = some node

variable {client rt}
variable {base head sha : String} {pending seen : List String} {walk after : Walk σ}

theorem Parent.mono {larger smaller : CommitCache} (extended : Extends larger smaller)
    {child parent : String} (link : Parent smaller child parent) : Parent larger child parent := by
  rcases link with ⟨node, found, listed⟩
  exact ⟨node, extended _ _ found, listed⟩

theorem extends_cons {node : CommitNode} (fresh : walk.cache.lookup sha = none) :
    Extends ((sha, node) :: walk.cache) walk.cache := by
  intro other kept found
  have different : other ≠ sha := by
    rintro rfl
    rw [fresh] at found
    cases found
  rw [List.lookup_cons, beq_eq_false_iff_ne.mpr different]
  exact found

theorem treeShaOf_raises (tree : Json) : RaisesOnly CommitError.OfCommit (treeShaOf rt tree) := by
  intro error raised
  unfold treeShaOf at raised
  split at raised
  · split at raised
    · cases raised
    · cases raised
      exact trivial
  · cases raised

theorem readParents_raises (items : List Json) :
    RaisesOnly CommitError.OfCommit (items.mapM (readParent rt)) := by
  induction items with
  | nil => exact RaisesOnly.pure _
  | cons item items ih =>
      rw [List.mapM_cons]
      refine RaisesOnly.bind ?_ fun _ => RaisesOnly.bind ih fun _ =>
        RaisesOnly.pure _
      exact RaisesOnly.bind (RaisesOnly.require (by simp [CommitError.OfCommit])) fun _ =>
        RaisesOnly.pure _

theorem readCommit_raises (sha : String) (payload : Fields) :
    RaisesOnly CommitError.OfCommit (readCommit rt sha payload) := by
  refine RaisesOnly.bind (RaisesOnly.require (by simp [CommitError.OfCommit])) fun _ =>
    RaisesOnly.bind (treeShaOf_raises _) fun _ => ?_
  split
  · refine RaisesOnly.bind (RaisesOnly.require (by simp [CommitError.OfCommit])) fun _ =>
      RaisesOnly.bind (readParents_raises _) fun _ => RaisesOnly.pure _
  · intro error raised
    cases raised
    simp [CommitError.OfCommit]

/-- What a call for one commit leaves: one more visit, a cache that holds what
it held, and the commit in it when it was read. -/
structure Visited (client : CommitProvider σ) (rt : Runtime) (sha : String) (walk : Walk σ)
    (result : Except CommitError CommitNode × Walk σ) : Prop where
  visited : result.2.visited = walk.visited ++ [sha]
  kept : Extends result.2.cache walk.cache
  read : ∀ node, result.1 = .ok node → result.2.cache.lookup sha = some node
  raises : RaisesOnly CommitError.OfCommit result.1
  added : ∀ name node, result.2.cache.lookup name = some node →
    walk.cache.lookup name = some node ∨
      ∃ payload, (client.gitCommit walk.provider name).1 = .ok payload ∧
        readCommit rt name payload = .ok node

theorem visited_commitNode (sha : String) (walk : Walk σ) :
    Visited client rt sha walk (commitNode client rt sha walk) := by
  rw [commitNode]
  split
  · exact ⟨rfl, fun _ _ found => found, by simp, by
      rintro _ ⟨⟩
      simp [CommitError.OfCommit], fun _ _ found => Or.inl found⟩
  · split
    · rename_i node found
      refine ⟨rfl, fun _ _ found => found, ?_, by rintro _ ⟨⟩, fun _ _ found => Or.inl found⟩
      rintro _ ⟨⟩
      exact found
    · rename_i fresh
      split
      · exact ⟨rfl, fun _ _ found => found, by simp, by rintro _ ⟨⟩; exact trivial,
          fun _ _ found => Or.inl found⟩
      · rename_i payload provider answered
        split
        · rename_i error raised
          refine ⟨rfl, fun _ _ found => found, by simp, ?_, fun _ _ found => Or.inl found⟩
          rintro _ ⟨⟩
          exact readCommit_raises _ _ _ raised
        · rename_i node read
          refine ⟨rfl, extends_cons fresh, ?_, by rintro _ ⟨⟩, ?_⟩
          · rintro _ ⟨⟩
            exact List.lookup_cons_self
          · intro name other found
            by_cases same : name = sha
            · rw [same, List.lookup_cons_self] at found
              cases found
              rw [same]
              exact Or.inr ⟨payload, by rw [answered], read⟩
            · rw [List.lookup_cons, beq_eq_false_iff_ne.mpr same] at found
              exact Or.inl found

/-! ## The walk -/

/-- What holds between two steps of the loop. -/
structure Walking (base head : String) (pending seen : List String) (walk : Walk σ) : Prop where
  reached : ∀ sha ∈ pending, ReflTransGen (Parent walk.cache) head sha
  closed : ∀ sha ∈ seen, ∃ node, walk.cache.lookup sha = some node ∧
    ∀ parent ∈ node.parents, parent ∈ seen ∨ parent ∈ pending
  begun : head ∈ seen ∨ head ∈ pending
  away : base ∉ seen
  visited : walk.visited = seen.reverse
  distinct : seen.Nodup
  bounded : seen.length ≤ maxAncestryCommits

theorem walking_start (base head : String) (provider : σ) (cache : CommitCache) :
    Walking base head [head] [] ⟨provider, cache, []⟩ where
  reached := by
    intro sha listed
    rw [List.mem_singleton.mp listed]
  closed := by simp
  begun := Or.inr (List.mem_singleton_self head)
  away := List.not_mem_nil
  visited := rfl
  distinct := List.nodup_nil
  bounded := Nat.zero_le _

section Step

variable {current : String} (walking : Walking base head (current :: pending) seen walk)
include walking

theorem Walking.skip (again : current ∈ seen) : Walking base head pending seen walk where
  reached := fun sha listed => walking.reached sha (List.mem_cons_of_mem _ listed)
  closed := by
    intro sha listed
    rcases walking.closed sha listed with ⟨node, found, parents⟩
    refine ⟨node, found, fun parent among => ?_⟩
    rcases parents parent among with old | ahead
    · exact Or.inl old
    · rcases List.mem_cons.mp ahead with rfl | later
      · exact Or.inl again
      · exact Or.inr later
  begun := by
    rcases walking.begun with old | ahead
    · exact Or.inl old
    · rcases List.mem_cons.mp ahead with rfl | later
      · exact Or.inl again
      · exact Or.inr later
  away := walking.away
  visited := walking.visited
  distinct := walking.distinct
  bounded := walking.bounded

theorem Walking.enter {node : CommitNode} (other : current ≠ base) (fresh : current ∉ seen)
    (room : seen.length < maxAncestryCommits)
    (read : commitNode client rt current walk = (.ok node, after)) :
    Walking base head (pending ++ node.parents.filter (· ∉ current :: seen)) (current :: seen)
      after := by
  have step : Visited client rt current walk _ := visited_commitNode current walk
  rw [read] at step
  have extended := step.kept
  have found : after.cache.lookup current = some node := step.read node rfl
  have upTo (sha : String) (path : ReflTransGen (Parent walk.cache) head sha) :
      ReflTransGen (Parent after.cache) head sha := by
    apply ReflTransGen.mono _ _ _ path
    intro child parent link
    exact link.mono extended
  have covered (sha : String) (listed : sha ∈ current :: pending) :
      sha ∈ current :: seen ∨ sha ∈ pending ++ node.parents.filter (· ∉ current :: seen) := by
    rcases List.mem_cons.mp listed with rfl | later
    · exact Or.inl List.mem_cons_self
    · exact Or.inr (List.mem_append_left _ later)
  refine ⟨?_, ?_, ?_, ?_, ?_, ?_, ?_⟩
  · intro sha listed
    rcases List.mem_append.mp listed with later | parent
    · exact upTo sha (walking.reached sha (List.mem_cons_of_mem _ later))
    · exact (upTo current (walking.reached current List.mem_cons_self)).tail
        ⟨node, found, List.mem_of_mem_filter parent⟩
  · intro sha listed
    rcases List.mem_cons.mp listed with rfl | old
    · refine ⟨node, found, fun parent among => ?_⟩
      by_cases again : parent ∈ sha :: seen
      · exact Or.inl again
      · exact Or.inr (List.mem_append_right _
          (List.mem_filter.mpr ⟨among, decide_eq_true again⟩))
    · rcases walking.closed sha old with ⟨earlier, kept, parents⟩
      refine ⟨earlier, extended _ _ kept, fun parent among => ?_⟩
      rcases parents parent among with old | ahead
      · exact Or.inl (List.mem_cons_of_mem _ old)
      · exact covered parent ahead
  · rcases walking.begun with old | ahead
    · exact Or.inl (List.mem_cons_of_mem _ old)
    · exact covered head ahead
  · exact List.not_mem_cons_of_ne_of_not_mem other.symm walking.away
  · rw [step.visited, walking.visited, List.reverse_cons]
  · exact List.nodup_cons.mpr ⟨fresh, walking.distinct⟩
  · exact room

end Step

theorem Walking.seen_of_reached (walking : Walking base head [] seen walk)
    (path : ReflTransGen (Parent walk.cache) head sha) : sha ∈ seen := by
  induction path with
  | refl => exact walking.begun.resolve_right List.not_mem_nil
  | tail _ link ih =>
      rcases link with ⟨node, found, listed⟩
      rcases walking.closed _ ih with ⟨other, foundToo, parents⟩
      rw [found] at foundToo
      cases foundToo
      exact (parents _ listed).resolve_right List.not_mem_nil

/-- What a finished walk says. -/
structure Proved (base head : String) (result : Except CommitError Unit × Walk σ) : Prop where
  ancestor : result.1 = .ok () → ReflTransGen (Parent result.2.cache) head base
  notAncestor : result.1 = .error baseNotAncestor →
    ∀ sha, ReflTransGen (Parent result.2.cache) head sha →
      sha ≠ base ∧ (result.2.cache.lookup sha).isSome
  otherwise : ∀ error, result.1 = .error error → error = baseNotAncestor ∨
    error = ancestryLimit ∧ result.2.visited.length = maxAncestryCommits ∨ error.OfCommit
  once : result.2.visited.Nodup

theorem not_ofCommit_baseNotAncestor : ¬baseNotAncestor.OfCommit := by
  simp [baseNotAncestor, CommitError.OfCommit]

theorem proved_of_raised {current : String} {error : CommitError}
    {result : Except CommitError CommitNode}
    (walking : Walking base head (current :: pending) seen walk) (fresh : current ∉ seen)
    (read : commitNode client rt current walk = (result, after))
    (raised : result = .error error) : Proved base head (.error error, after) := by
  have step : Visited client rt current walk _ := visited_commitNode current walk
  rw [read] at step
  have ofCommit := step.raises error raised
  refine ⟨by rintro ⟨⟩, ?_, ?_, ?_⟩
  · rintro ⟨⟩
    exact absurd ofCommit not_ofCommit_baseNotAncestor
  · rintro _ ⟨⟩
    exact Or.inr (Or.inr ofCommit)
  · rw [step.visited, walking.visited, ← List.reverse_cons, List.nodup_reverse]
    exact List.nodup_cons.mpr ⟨fresh, walking.distinct⟩

/-- The loop keeps what holds between its steps until it stops. -/
theorem proved_proveFrom (walking : Walking base head pending seen walk) :
    Proved base head (proveFrom client rt base pending seen walk) := by
  fun_induction proveFrom client rt base pending seen walk with
  | case1 seen walk =>
      refine ⟨by rintro ⟨⟩, ?_, by rintro _ ⟨⟩; exact Or.inl rfl, ?_⟩
      · intro _ sha path
        have old := walking.seen_of_reached path
        rcases walking.closed sha old with ⟨node, found, _⟩
        refine ⟨fun same => walking.away (same ▸ old), ?_⟩
        rw [found]
        rfl
      · rw [walking.visited, List.nodup_reverse]
        exact walking.distinct
  | case2 seen walk pending error after read =>
      exact proved_of_raised walking walking.away read rfl
  | case3 seen walk pending node after read =>
      have step : Visited client rt base walk _ := visited_commitNode base walk
      rw [read] at step
      refine ⟨fun _ => ?_, by rintro ⟨⟩, by rintro _ ⟨⟩, ?_⟩
      · apply ReflTransGen.mono _ _ _ (walking.reached base List.mem_cons_self)
        intro child parent link
        exact link.mono step.kept
      · rw [step.visited, walking.visited, ← List.reverse_cons, List.nodup_reverse]
        exact List.nodup_cons.mpr ⟨walking.away, walking.distinct⟩
  | case4 seen walk current pending other again ih =>
      exact ih (walking.skip again)
  | case5 seen walk current pending other fresh full =>
      refine ⟨by rintro ⟨⟩, by simp [ancestryLimit, baseNotAncestor], ?_, ?_⟩
      · rintro _ ⟨⟩
        refine Or.inr (Or.inl ⟨rfl, ?_⟩)
        rw [walking.visited, List.length_reverse]
        exact le_antisymm walking.bounded full
      · rw [walking.visited, List.nodup_reverse]
        exact walking.distinct
  | case6 seen walk current pending other fresh room error after read =>
      exact proved_of_raised walking fresh read rfl
  | case7 seen walk current pending other fresh room node after read ih =>
      exact ih (walking.enter other fresh (Nat.lt_of_not_le room) read)

/-! ## A provider that shows one graph -/

/-- The cached commits have the parents of a graph. -/
def Shows (graph : String → List String) (cache : CommitCache) : Prop :=
  ∀ sha node, cache.lookup sha = some node → node.parents = graph sha

/-- Each commit the provider answers with has the parents of a graph. -/
def Answers (client : CommitProvider σ) (rt : Runtime) (graph : String → List String) : Prop :=
  ∀ provider sha payload node, (client.gitCommit provider sha).1 = .ok payload →
    readCommit rt sha payload = .ok node → node.parents = graph sha

section Consistent

variable {graph : String → List String} (answers : Answers client rt graph)
include answers

theorem shows_commitNode (shown : Shows graph walk.cache) (sha : String) :
    Shows graph (commitNode client rt sha walk).2.cache := by
  intro name node found
  rcases (visited_commitNode sha walk).added name node found with old | ⟨payload, answered, read⟩
  · exact shown name node old
  · exact answers walk.provider name payload node answered read

theorem shows_proveFrom (shown : Shows graph walk.cache) :
    Shows graph (proveFrom client rt base pending seen walk).2.cache := by
  fun_induction proveFrom client rt base pending seen walk with
  | case1 seen walk => exact shown
  | case2 seen walk pending error after read =>
      have kept := shows_commitNode answers shown base
      rwa [read] at kept
  | case3 seen walk pending node after read =>
      have kept := shows_commitNode answers shown base
      rwa [read] at kept
  | case4 seen walk current pending other again ih =>
      exact ih shown
  | case5 seen walk current pending other fresh full => exact shown
  | case6 seen walk current pending other fresh room error after read =>
      have kept := shows_commitNode answers shown current
      rwa [read] at kept
  | case7 seen walk current pending other fresh room node after read ih =>
      have kept := shows_commitNode answers shown current
      rw [read] at kept
      exact ih kept

end Consistent

theorem Shows.graph_of_parent {graph : String → List String} {cache : CommitCache}
    (shown : Shows graph cache) {child parent : String} (link : Parent cache child parent) :
    parent ∈ graph child := by
  rcases link with ⟨node, found, listed⟩
  rw [← shown child node found]
  exact listed

theorem Shows.reached {graph : String → List String} {cache : CommitCache}
    (shown : Shows graph cache)
    (read : ∀ sha, ReflTransGen (Parent cache) head sha → (cache.lookup sha).isSome)
    (path : ReflTransGen (fun child parent => parent ∈ graph child) head sha) :
    ReflTransGen (Parent cache) head sha := by
  induction path with
  | refl => exact .refl
  | tail _ edge ih =>
      rcases Option.isSome_iff_exists.mp (read _ ih) with ⟨node, found⟩
      refine ih.tail ⟨node, found, ?_⟩
      rw [shown _ node found]
      exact edge

/-- Every walk stops.  It succeeds only when the links it read lead from the
head to the base, denies the base only when all that can be reached was read
and the base is not among it, and stops otherwise at the limit or at a commit
it cannot read; no commit is visited twice.  Where the provider shows one
graph, success and denial speak of that graph. -/
theorem proveAncestor_spec (client : CommitProvider σ) (rt : Runtime) (base head : String)
    (provider : σ) (cache : CommitCache) :
    let run := proveAncestor client rt base head ⟨provider, cache, []⟩
    (run.1 = .ok () → ReflTransGen (Parent run.2.cache) head base) ∧
    (run.1 = .error baseNotAncestor →
      ¬ReflTransGen (Parent run.2.cache) head base ∧
        ∀ sha, ReflTransGen (Parent run.2.cache) head sha → (run.2.cache.lookup sha).isSome) ∧
    (∀ error, run.1 = .error error → error = baseNotAncestor ∨
      error = ancestryLimit ∧ run.2.visited.length = maxAncestryCommits ∨ error.OfCommit) ∧
    run.2.visited.Nodup ∧
    ∀ graph : String → List String, Shows graph cache → Answers client rt graph →
      (run.1 = .ok () → ReflTransGen (fun child parent => parent ∈ graph child) head base) ∧
      (run.1 = .error baseNotAncestor →
        ¬ReflTransGen (fun child parent => parent ∈ graph child) head base) := by
  intro run
  have proved : Proved base head run :=
    proved_proveFrom (walking_start base head provider cache)
  have denied (refused : run.1 = .error baseNotAncestor) :
      ¬ReflTransGen (Parent run.2.cache) head base :=
    fun path => (proved.notAncestor refused base path).1 rfl
  have complete (refused : run.1 = .error baseNotAncestor) (sha : String)
      (path : ReflTransGen (Parent run.2.cache) head sha) : (run.2.cache.lookup sha).isSome :=
    (proved.notAncestor refused sha path).2
  refine ⟨proved.ancestor, fun refused => ⟨denied refused, complete refused⟩, proved.otherwise,
    proved.once, fun graph shown answers => ?_⟩
  have all : Shows graph run.2.cache := shows_proveFrom answers shown
  constructor
  · intro succeeded
    apply ReflTransGen.mono _ _ _ (proved.ancestor succeeded)
    intro child parent link
    exact all.graph_of_parent link
  · intro refused path
    exact denied refused (all.reached (complete refused) path)

end Walking

end Adwf.ProviderRequests
