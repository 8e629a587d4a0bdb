import Adwf.CreativeAdapters.Cleanup

/-!
# Publishing the changes

What both adapters do after the changes are applied ends with one commit of
exactly these changes, or with an exception and nothing but the changes.
-/

namespace Adwf.CreativeAdapters

open Program (Meets)
open Supervisor (buildWorkResult namesOf pathIsAllowed safePath textsOf)

variable {Outside : Type} {OutsideValue : Outside → Type}
variable {answer : (call : Outside) → Except Raised (OutsideValue call)}
variable {env : Surroundings} {before repo after : Repo} {changed : List String}

/-! ## Calls on the root -/

/-- The call is one that times out. -/
def TimesOut (env : Surroundings) (call : RootCall) : Prop :=
  ∃ left, env.fault call = some ⟨left, .raises .timeout⟩

variable {known : Repo → Prop} {path : String} {package : Fields} {work : Supervisor.ClaimedWork}
variable {setting : Setting}

theorem meets_onRoot (call : RootCall) : Meets (supply OutsideValue env answer) known (onRoot call)
      (fun after value => ∃ repo, known repo ∧ serve env repo call = (after, .ok value))
      fun after raised => ∃ repo, known repo ∧ serve env repo call = (after, .error raised) :=
  Meets.invoke (fun repo _ held served => ⟨repo, held, Prod.ext rfl served⟩)
    fun repo _ held served => ⟨repo, held, Prod.ext rfl served⟩

/-- An answer of something else leaves the root alone. -/
theorem meets_ask (call : Outside) : Meets (supply OutsideValue env answer) known (ask call)
      (fun after value => known after ∧ answer call = .ok value)
      fun after raised => known after ∧ answer call = .error raised :=
  Meets.invoke (fun _ _ held served => ⟨held, served⟩) fun _ _ held served => ⟨held, served⟩

/-- The calls that only look. -/
def isReading : RootCall → Bool
  | .revParse _ => true
  | .status _ => true
  | .inspect _ => true
  | .makeParents _ => true
  | .diffNames => true
  | .otherNames => true
  | .gitDirectory => true
  | _ => false

theorem perform_reading {call : RootCall} (reading : isReading call = true) :
    (perform env repo call).1 = repo := by
  cases call <;> first | rfl | cases reading

theorem serve_reading {call : RootCall} (reading : isReading call = true) :
    (serve env repo call).1 = repo := by
  unfold serve
  cases env.fault call with
  | none => exact perform_reading reading
  | some fault =>
      dsimp only
      cases left : fault.left with
      | nothing => rfl
      | everything => exact perform_reading reading
      | cut length => cases call <;> first | rfl | cases reading

theorem error_ne_timeout (text : String) : Raised.error text ≠ .timeout :=
  fun same => by cases same

theorem writeAt_ne_timeout {bytes : List UInt8} :
    (writeAt env repo path bytes).2 ≠ .error .timeout := by
  unfold writeAt
  split_ifs
  · exact fun same => absurd (Except.error.inj same) (by decide)
  · cases landing env repo path with
    | none => exact fun same => by cases same
    | some target => exact fun same => by cases same

theorem unlinkAt_ne_timeout : (unlinkAt env repo path).2 ≠ .error .timeout := by
  unfold unlinkAt
  split_ifs
  · cases env.destination path with
    | none => exact fun same => by cases same
    | some target => exact fun same => by cases same
  · exact fun same => absurd (Except.error.inj same) (by decide)
  · exact fun same => by cases same

theorem commitStaged_ne_timeout : (commitStaged env repo).2 ≠ .error .timeout := by
  unfold commitStaged
  split_ifs
  · exact fun same => by cases same
  · exact fun same => by cases same

theorem perform_ne_timeout (call : RootCall) : (perform env repo call).2 ≠ .error .timeout := by
  cases call with
  | makeParents path =>
      have kinds (blocked : Bool) : (if blocked = true then
          (.error (.error "FileExistsError") : Except Raised Unit) else .ok ()) ≠
            .error .timeout := by
        cases blocked with
        | true => exact fun same => absurd (Except.error.inj same) (by decide)
        | false => exact fun same => by cases same
      exact kinds _
  | write path bytes => exact writeAt_ne_timeout
  | unlink path => exact unlinkAt_ne_timeout
  | commit => exact commitStaged_ne_timeout
  | _ => exact fun same => by cases same

theorem timesOut_of_serve {call : RootCall}
    (served : serve env repo call = (after, .error .timeout)) : TimesOut env call := by
  unfold serve at served
  cases held : env.fault call with
  | none =>
      rw [held] at served
      have raised : (perform env repo call).2 = .error .timeout :=
        congrArg Prod.snd served
      exact absurd raised (perform_ne_timeout call)
  | some fault =>
      rw [held] at served
      have raised : refusal fault.ending call = .error .timeout := congrArg Prod.snd served
      refine ⟨fault.left, ?_⟩
      have ending : fault.ending = .raises .timeout := by
        cases ended : fault.ending with
        | raises other =>
            rw [ended] at raised
            cases call <;> (cases raised; rfl)
        | exits =>
            rw [ended] at raised
            cases call <;> cases raised
      rw [← ending]
      exact held

/-- A call with an answer whose failure has none was not hindered. -/
theorem perform_of_ok {call : RootCall} {value : RootValue call}
    (raises : ∀ ending other, refusal ending call ≠ .ok other)
    (served : serve env repo call = (after, .ok value)) :
    perform env repo call = (after, .ok value) := by
  unfold serve at served
  cases held : env.fault call with
  | none =>
      rw [held] at served
      exact served
  | some fault =>
      rw [held] at served
      exact absurd (congrArg Prod.snd served) (raises fault.ending value)

theorem refusal_reading {call : RootCall} (reading : isReading call = true) (ending : Ending)
    (value : RootValue call) : refusal ending call ≠ .ok value := by
  intro answered
  cases call <;> first | (cases ending <;> cases answered; done) | cases reading

theorem meets_reading {call : RootCall} (reading : isReading call = true) :
    Meets (supply OutsideValue env answer) known (onRoot call)
      (fun after value => known after ∧ perform env after call = (after, .ok value))
      fun after raised => known after ∧ (raised = .timeout → TimesOut env call) := by
  refine (meets_onRoot call).mono (fun _ held => held) ?_ ?_
  · rintro after value ⟨repo, held, served⟩
    have same : repo = after := (serve_reading reading).symm.trans (congrArg Prod.fst served)
    subst same
    exact ⟨held, perform_of_ok (refusal_reading reading) served⟩
  · rintro after raised ⟨repo, held, served⟩
    have same : repo = after := (serve_reading reading).symm.trans (congrArg Prod.fst served)
    subst same
    exact ⟨held, fun timeout => timesOut_of_serve (timeout ▸ served)⟩

/-! ## The stages of the root -/

/-- The changes are applied and nothing else is done. -/
structure Applied (env : Surroundings) (changed : List String) (before after : Repo) :
    Prop where
  touched : Touched env changed before after
  history : after.history = before.history
  index : ∀ path, after.index.lookup path = before.index.lookup path

/-- The names that git gives are the changed paths. -/
def NamesChanged (env : Surroundings) (changed : List String) (repo : Repo) : Prop :=
  Trust.sortedSet (namesOf (printedNames repo.changedTracked) ++
    namesOf (printedNames (repo.untracked env.ignored))) = changed

def staged (env : Surroundings) (changed : List String) (repo : Repo) : Repo :=
  repo.add env.ignored (env.isMatched changed)

def committed (env : Surroundings) (repo : Repo) : Repo :=
  { repo with history := ⟨env.newId, repo.index⟩ :: repo.history }

theorem touched_staged (started : Started env before) (undoable : Undoable env changed before)
    (applied : Applied env changed before repo) :
    Touched env changed before (staged env changed repo) := by
  have clean := Repo.clean_of_isClean started.clean
  refine ⟨.inl applied.history, ?_, applied.touched.work, applied.touched.links⟩
  intro path old
  rw [staged, Repo.lookup_index_add]
  split_ifs with matched
  · have tracked := (undoable.pathspecs path (Bool.and_eq_true_iff.mp matched).1).resolve_left old
    rw [applied.touched.work path old, clean.tracked path tracked, clean.index]
  · exact applied.index path

theorem touched_committed (touched : Touched env changed before repo)
    (same : repo.history = before.history) : Touched env changed before (committed env repo) :=
  ⟨.inr ⟨repo.index, congrArg _ same⟩, touched.index, touched.work, touched.links⟩

theorem changed_of_clean (started : Started env before) (undoable : Undoable env changed before)
    (safe : ∀ path ∈ changed, safePath (.str path) = true)
    (applied : Applied env changed before repo) (named : NamesChanged env changed repo)
    (clean : (committed env (staged env changed repo)).isClean env.ignored = true) (path : String) :
    before.head.lookup path ≠ (staged env changed repo).index.lookup path ↔ path ∈ changed := by
  have old := Repo.clean_of_isClean started.clean
  have new := Repo.clean_of_isClean clean
  have isHead : repo.head = before.head := by
    rw [Repo.head, applied.history, Repo.head]
  have inside (path : String) (differs : before.head.lookup path ≠
      (staged env changed repo).index.lookup path) : path ∈ changed := by
    by_contra missing
    rw [(touched_staged started undoable applied).index path missing, old.index] at differs
    exact differs rfl
  refine ⟨inside path, ?_⟩
  intro listed
  have read : path ∈ Trust.sortedSet (namesOf (printedNames repo.changedTracked) ++
      namesOf (printedNames (repo.untracked env.ignored))) := by
    rw [named]
    exact listed
  -- The path is the printed name of a path that differs.
  have source : ∃ other, before.head.lookup other ≠
      (staged env changed repo).index.lookup other ∧
        Text.strip (String.ofList (Supervisor.printedPath other)) = path := by
    rw [Trust.mem_sortedSet, List.mem_append, mem_namesOf_printedNames,
      mem_namesOf_printedNames] at read
    rcases read with ⟨_, other, differs, printed⟩ | ⟨_, other, shown, printed⟩
    · refine ⟨other, ?_, printed⟩
      rw [Repo.changedTracked, List.mem_filter, decide_eq_true_iff, isHead, Repo.trackedNode,
        applied.index, old.index] at differs
      rcases differs with ⟨_, differs⟩
      intro same
      cases held : before.head.lookup other with
      | none =>
          rw [held] at differs
          exact differs rfl
      | some node =>
          rw [held, Option.isSome_some, if_pos rfl] at differs
          rw [held] at same
          have kept := new.tracked other
            (show (staged env changed repo).index.lookup other ≠ none by simp [← same])
          exact differs (same.trans kept.symm)
    · refine ⟨other, ?_, printed⟩
      rw [Repo.untracked, List.mem_filter, Bool.and_eq_true, Option.isNone_iff_eq_none,
        Bool.not_eq_true', applied.index, old.index] at shown
      rcases shown with ⟨inWork, noHead, visible⟩
      intro same
      rw [noHead] at same
      have ignored := new.others other same.symm (by
        rw [Ne, AList.lookup_eq_none, not_not]
        exact AList.mem_keys.mpr inWork)
      exact Bool.false_ne_true (visible.symm.trans ignored)
  rcases source with ⟨other, differs, printed⟩
  have plain := (Supervisor.plain_of_safePath (safe path listed)).2
  rw [← eq_of_printed (safe other (inside other differs)) plain printed]
  exact differs

/-! ## The run of `publish` -/

theorem serve_cases (call : RootCall) : (serve env repo call).1 = repo ∨
      (serve env repo call).1 = (perform env repo call).1 ∨
        ∃ path bytes length, call = .write path bytes ∧ (serve env repo call).1 =
            (writeAt env repo path (bytes.take length)).1 := by
  unfold serve
  cases env.fault call with
  | none => exact .inr (.inl rfl)
  | some fault =>
      dsimp only
      cases fault.left with
      | nothing => exact .inl rfl
      | everything => exact .inr (.inl rfl)
      | cut length =>
          cases call with
          | write path bytes => exact .inr (.inr ⟨path, bytes, length, rfl, rfl⟩)
          | _ => exact .inl rfl

theorem serve_add_cases {raised : Except Raised Unit}
    (served : serve env repo (.add changed) = (after, raised)) :
    after = repo ∨ after = staged env changed repo := by
  have left : (serve env repo (.add changed)).1 = after := congrArg Prod.fst served
  rcases @serve_cases env repo (.add changed) with same | same | ⟨_, _, _, ⟨⟩, _⟩
  · exact .inl (left.symm.trans same)
  · exact .inr (left.symm.trans same)

theorem serve_commit_cases {code : Except Raised Int}
    (served : serve env repo .commit = (after, code)) :
    after = repo ∨ after = committed env repo := by
  have left : (serve env repo .commit).1 = after := congrArg Prod.fst served
  rcases @serve_cases env repo .commit with same | same | ⟨_, _, _, ⟨⟩, _⟩
  · exact .inl (left.symm.trans same)
  · rw [left, perform, commitStaged] at same
    split_ifs at same
    · exact .inr same
    · exact .inl same

theorem serve_commit_zero (served : serve env repo .commit = (after, .ok (0 : Int))) :
    after = committed env repo := by
  unfold serve at served
  cases held : env.fault .commit with
  | none =>
      rw [held] at served
      have performed : commitStaged env repo = (after, .ok 0) := served
      unfold commitStaged at performed
      split_ifs at performed
      · exact (congrArg Prod.fst performed).symm
      · exact absurd (Except.ok.inj (congrArg Prod.snd performed)) (by decide)
  | some fault =>
      rw [held] at served
      have refused : refusal fault.ending .commit = .ok (0 : Int) := congrArg Prod.snd served
      cases ended : fault.ending with
      | raises raised =>
          rw [ended] at refused
          cases refused
      | exits =>
          rw [ended] at refused
          have one : (1 : Int) = 0 := Except.ok.inj refused
          exact absurd one (by decide)

/-- The calls that follow the changes. -/
def isLate : RootCall → Bool
  | .revParse again => again
  | .status again => again
  | .diffNames => true
  | .otherNames => true
  | .add _ => true
  | .commit => true
  | .writeResult _ => true
  | _ => false

/-- One of the calls that follow the changes times out. -/
def LateTimeout (env : Surroundings) : Prop :=
  ∃ call, isLate call = true ∧ TimesOut env call

/-- The head is one new commit on the old one, the result reports its changed paths, they
are allowed, and the root is clean. -/
def Committed (env : Surroundings) (hardForbidden : String → Bool) (package : Fields)
    (before after : Repo) : Prop :=
  ∃ commit result, after.history = commit :: before.history ∧ after.result = some result ∧
    (∀ path, before.head.lookup path ≠ commit.tree.lookup path ↔
      path ∈ textsOf (Json.get result "changed_paths")) ∧
    (∀ path ∈ textsOf (Json.get result "changed_paths"),
      pathIsAllowed path package = true ∧ hardForbidden path = false) ∧
    after.isClean env.ignored = true

theorem changedPaths_of_buildWorkResult {rt : Runtime} {isInstant : String → Bool}
    {result : Fields} {paths : List String} (listed : work.changedPaths = paths.map .str)
    (built : buildWorkResult rt isInstant package work = .ok result) :
    textsOf (Json.get result "changed_paths") = paths := by
  simp only [buildWorkResult, Fallible.bind_ok_iff, Fallible.require_eq_ok_iff] at built
  rcases built with ⟨_, _, _, _, _, _, _, _, ran⟩
  have got : Json.get result "changed_paths" = .arr work.changedPaths := by
    rw [← Except.ok.inj ran]
    rfl
  rw [got, listed, textsOf, List.filterMap_map]
  exact List.filterMap_some

theorem buildWorkResult_of_buildResult {result : Fields} (built : buildResult setting package work = .ok result) :
    buildWorkResult setting.rt setting.isInstant package work = .ok result := by
  unfold buildResult at built
  cases ran : buildWorkResult setting.rt setting.isInstant package work with
  | ok other =>
      rw [ran] at built
      cases built
      rfl
  | error error =>
      rw [ran] at built
      cases error with
      | value text => cases built
      | type => cases built

theorem buildResult_ne_timeout : buildResult setting package work ≠ .error .timeout := by
  unfold buildResult
  cases buildWorkResult setting.rt setting.isInstant package work with
  | ok result => exact fun same => by cases same
  | error error =>
      cases error with
      | value text => exact fun same => by cases same
      | type => exact fun same => absurd (Except.error.inj same) (error_ne_timeout _)

theorem safePath_of_allowed
    (allowed : pathIsAllowed path package = true) : safePath (.str path) = true := by
  rw [pathIsAllowed, Bool.and_eq_true, Bool.and_eq_true] at allowed
  exact allowed.1.1

/-- The names are compared and the index has taken over the changes. -/
def Staged (env : Surroundings) (changed : List String) (before after : Repo) : Prop :=
  ∃ repo, Applied env changed before repo ∧ NamesChanged env changed repo ∧
    after = staged env changed repo

/-- The index was committed. -/
def Recorded (env : Surroundings) (changed : List String) (before after : Repo) : Prop :=
  ∃ repo, Staged env changed before repo ∧ after = committed env repo

section Stages

variable (started : Started env before) (undoable : Undoable env changed before)

include started undoable

theorem Staged.touched (isStaged : Staged env changed before after) :
    Touched env changed before after := by
  rcases isStaged with ⟨repo, applied, _, rfl⟩
  exact touched_staged started undoable applied

theorem Recorded.touched (recorded : Recorded env changed before after) :
    Touched env changed before after := by
  rcases recorded with ⟨_, ⟨repo, applied, named, rfl⟩, rfl⟩
  exact touched_committed (touched_staged started undoable applied) applied.history

theorem meets_add : Meets (supply OutsideValue env answer)
      (fun repo => Applied env changed before repo ∧ NamesChanged env changed repo)
      (onRoot (.add changed)) (fun after _ => Staged env changed before after)
      fun after raised => Touched env changed before after ∧
        (raised = .timeout → TimesOut env (.add changed)) := by
  refine (meets_onRoot (.add changed)).mono (fun _ held => held) ?_ ?_
  · rintro after value ⟨repo, ⟨applied, named⟩, served⟩
    refine ⟨repo, applied, named, ?_⟩
    have performed := perform_of_ok (fun ending other answered => by
      cases ending <;> cases answered) served
    exact (congrArg Prod.fst performed).symm
  · rintro after raised ⟨repo, ⟨applied, named⟩, served⟩
    refine ⟨?_, fun timeout => timesOut_of_serve (timeout ▸ served)⟩
    rcases serve_add_cases served with rfl | rfl
    · exact applied.touched
    · exact touched_staged started undoable applied

theorem meets_commit : Meets (supply OutsideValue env answer) (Staged env changed before)
      (onRoot .commit) (fun after (code : Int) => Touched env changed before after ∧
        (code = 0 → Recorded env changed before after))
      fun after raised => Touched env changed before after ∧
        (raised = .timeout → TimesOut env .commit) := by
  have either {repo after : Repo} {code : Except Raised Int}
      (isStaged : Staged env changed before repo)
      (served : serve env repo .commit = (after, code)) :
      Touched env changed before after := by
    rcases serve_commit_cases served with rfl | rfl
    · exact isStaged.touched started undoable
    · exact Recorded.touched started undoable ⟨repo, isStaged, rfl⟩
  refine (meets_onRoot .commit).mono (fun _ held => held) ?_ ?_
  · rintro after code ⟨repo, isStaged, served⟩
    refine ⟨either isStaged served, ?_⟩
    intro zero
    have zero : code = (0 : Int) := zero
    subst zero
    exact ⟨repo, isStaged, serve_commit_zero served⟩
  · rintro after raised ⟨repo, isStaged, served⟩
    exact ⟨either isStaged served, fun timeout => timesOut_of_serve (timeout ▸ served)⟩

theorem meets_writeResult (result : Fields) : Meets (supply OutsideValue env answer)
      (fun repo => Recorded env changed before repo ∧ repo.isClean env.ignored = true)
      (onRoot (.writeResult result)) (fun after _ => ∃ repo, (Recorded env changed before repo ∧
        repo.isClean env.ignored = true) ∧ after = { repo with result := some result })
      fun after raised => Touched env changed before after ∧
        (raised = .timeout → TimesOut env (.writeResult result)) := by
  refine (meets_onRoot (.writeResult result)).mono (fun _ held => held) ?_ ?_
  · rintro after value ⟨repo, held, served⟩
    have performed := perform_of_ok (fun ending other answered => by
      cases ending <;> cases answered) served
    exact ⟨repo, held, (congrArg Prod.fst performed).symm⟩
  · rintro after raised ⟨repo, ⟨recorded, _⟩, served⟩
    refine ⟨?_, fun timeout => timesOut_of_serve (timeout ▸ served)⟩
    have touched := recorded.touched started undoable
    have left : (serve env repo (.writeResult result)).1 = after :=
      congrArg Prod.fst served
    rcases @serve_cases env repo (.writeResult result) with
      same | same | ⟨_, _, _, ⟨⟩, _⟩
    · rw [← left, same]
      exact touched
    · rw [← left, same]
      exact ⟨touched.history, touched.index, touched.work, touched.links⟩

end Stages

theorem meets_publish {hardForbidden : String → Bool}
    {label current summary : String} {claims : List String}
    (started : Started env before) (undoable : Undoable env changed before)
    (allowed : ∀ path ∈ changed, pathIsAllowed path package = true ∧ hardForbidden path = false) :
    Meets (supply OutsideValue env answer) (Applied env changed before)
      (publish setting label current package changed claims summary)
      (fun after exit => exit = .passed ∧ Committed env hardForbidden package before after)
      fun after raised => Touched env changed before after ∧
        (raised = .timeout → LateTimeout env) := by
  have safe : ∀ path ∈ changed, safePath (.str path) = true :=
    fun path listed => safePath_of_allowed (allowed path listed).1
  have late {call : RootCall} {raised : Raised} (isLate : isLate call = true)
      (timeout : raised = .timeout → TimesOut env call) (same : raised = .timeout) :
      LateTimeout env :=
    ⟨call, isLate, timeout same⟩
  have whole {raised : Raised} (other : raised ≠ .timeout) (same : raised = .timeout) :
      LateTimeout env :=
    absurd same other
  unfold publish
  refine Meets.bind ((meets_reading rfl).mono (fun _ held => held) (fun _ _ held => held)
    fun _ _ held => ⟨held.1.touched, late rfl held.2⟩) fun tracked => ?_
  refine Meets.bind ((meets_reading rfl).mono (fun _ held => held) (fun _ _ held => held)
    fun _ _ held => ⟨held.1.1.touched, late rfl held.2⟩) fun others => ?_
  refine Meets.bind (Meets.check fun _ _ held => ⟨held.1.1.touched, whole (error_ne_timeout _)⟩)
    fun _ => ?_
  refine Meets.bind ((meets_add started undoable).mono ?_ (fun _ _ held => held)
    fun _ _ held => ⟨held.1, late rfl held.2⟩) fun _ => ?_
  · rintro repo ⟨⟨⟨applied, isTracked⟩, isOther⟩, named⟩
    have trackedNames : printedNames repo.changedTracked = tracked :=
      Except.ok.inj (congrArg Prod.snd isTracked)
    have otherNames : printedNames (repo.untracked env.ignored) = others :=
      Except.ok.inj (congrArg Prod.snd isOther)
    refine ⟨applied, ?_⟩
    rw [NamesChanged, trackedNames, otherNames]
    exact named
  refine Meets.bind ((meets_commit started undoable).mono (fun _ held => held)
    (fun _ _ held => held) fun _ _ held => ⟨held.1, late rfl held.2⟩) fun code => ?_
  refine Meets.bind (Meets.check fun _ _ held => ⟨held.1, whole (error_ne_timeout _)⟩) fun _ => ?_
  refine Meets.bind ((meets_reading rfl).mono (fun _ held => held) (fun _ _ held => held)
    fun _ _ held => ⟨held.1.1.1, late rfl held.2⟩) fun head => ?_
  refine Meets.bind (Meets.check fun _ _ held => ⟨held.1.1.1, whole (error_ne_timeout _)⟩)
    fun _ => ?_
  refine Meets.bind ((meets_reading rfl).mono (fun _ held => held) (fun _ _ held => held)
    fun _ _ held => ⟨held.1.1.1.1.1, late rfl held.2⟩) fun dirty => ?_
  refine Meets.bind (Meets.check fun _ _ held => ⟨held.1.1.1.1.1, whole (error_ne_timeout _)⟩)
    fun _ => ?_
  refine Meets.bind (Meets.ofExcept fun error raised _ held => ⟨held.1.1.1.1.1.1, ?_⟩)
    fun result => Meets.assuming fun built => ?_
  · rintro rfl
    exact absurd raised buildResult_ne_timeout
  refine Meets.bind ((meets_writeResult started undoable result).mono ?_ (fun _ _ held => held)
    fun _ _ held => ⟨held.1, late rfl held.2⟩) fun _ => Meets.done ?_
  · rintro repo ⟨⟨⟨⟨⟨⟨_, recorded⟩, zero⟩, _⟩, _⟩, status⟩, clean⟩
    have isDirty : (!repo.isClean env.ignored) = dirty :=
      Except.ok.inj (congrArg Prod.snd status)
    rw [clean, Bool.not_eq_false'] at isDirty
    exact ⟨recorded zero, isDirty⟩
  · rintro after ⟨_, ⟨⟨_, ⟨repo, applied, named, rfl⟩, rfl⟩, clean⟩, rfl⟩
    have listed := changedPaths_of_buildWorkResult rfl (buildWorkResult_of_buildResult built)
    have history : (committed env (staged env changed repo)).history =
        ⟨env.newId, (staged env changed repo).index⟩ :: before.history :=
      congrArg _ applied.history
    refine ⟨rfl, _, result, history, rfl, ?_, ?_, clean⟩
    · rw [listed]
      exact changed_of_clean started undoable safe applied named clean
    · rw [listed]
      exact allowed

end Adwf.CreativeAdapters
