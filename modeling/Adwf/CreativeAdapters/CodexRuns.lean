import Adwf.CreativeAdapters.OpenHandsRuns

/-!
# Runs of the Codex adapter

The adapter undoes what it applied unless the application is cut short or a later
call times out.
-/

namespace Adwf.CreativeAdapters

open Program (Meets)

section Faultless

variable {Outside : Type} {OutsideValue : Outside → Type}
variable {answer : (call : Outside) → Except Raised (OutsideValue call)}
variable {env : Surroundings}

theorem meets_faultless {known : Repo → Prop} {call : RootCall}
    {returns : Repo → RootValue call → Prop} {raises : Repo → Raised → Prop}
    (faultless : env.fault call = none) (performs : ∀ repo, known repo → ∃ after value,
      perform env repo call = (after, .ok value) ∧ returns after value) :
    Meets (supply OutsideValue env answer) known (onRoot call) returns raises := by
  have served (repo : Repo) : serve env repo call = perform env repo call := by
    rw [serve, faultless]
  refine (meets_onRoot call).mono (fun _ held => held) ?_ ?_
  · rintro after value ⟨repo, held, ended⟩
    rcases performs repo held with ⟨next, answered, performed, ran⟩
    rw [served, performed] at ended
    cases ended
    exact ran
  · rintro after raised ⟨repo, held, ended⟩
    rcases performs repo held with ⟨next, answered, performed, _⟩
    rw [served, performed] at ended
    cases ended

theorem meets_answered {known : Repo → Prop} {call : Outside} {value : OutsideValue call}
    {raises : Repo → Raised → Prop} (answered : answer call = .ok value) :
    Meets (supply OutsideValue env answer) known (ask call)
      (fun after got => known after ∧ got = value) raises := by
  refine (meets_ask call).mono (fun _ held => held) ?_ ?_
  · rintro after got ⟨held, given⟩
    rw [answered] at given
    exact ⟨held, (Except.ok.inj given).symm⟩
  · rintro after raised ⟨_, given⟩
    rw [answered] at given
    cases given

end Faultless

namespace Codex

open Program (Yields)
open Supervisor (pathIsAllowed validateWorkPackage)

variable {answer : (call : Outside) → Except Raised (OutsideValue call)}
variable {env : Surroundings} {before repo : Repo} {changed : List String}
variable {path : String}

/-- The changed paths as the answers give them. -/
def changedOf (answer : (call : Outside) → Except Raised (OutsideValue call)) : List String :=
  match answer .cloneDiff, answer .cloneOthers with
  | .ok tracked, .ok untracked => changedPaths tracked untracked
  | _, _ => []

/-- Nothing cuts the application short: its calls do not fail, the clone stays as it was
looked at, with no file below another, and in the root a changed path is a file or free. -/
structure Applies (env : Surroundings)
    (answer : (call : Outside) → Except Raised (OutsideValue call)) (before : Repo)
    (changed : List String) : Prop where
  inspects : ∀ path ∈ changed, env.fault (.inspect path) = none
  makes : ∀ path ∈ changed, env.fault (.makeParents path) = none
  writes : ∀ path ∈ changed, ∀ bytes, env.fault (.write path bytes) = none
  unlinks : ∀ path ∈ changed, env.fault (.unlink path) = none
  same : ∀ path ∈ changed, ∀ looked, answer (.looked path) = .ok looked →
    answer (.source path) = .ok looked.place
  reads : ∀ path ∈ changed, ∃ bytes, answer (.readSource path) = .ok bytes
  apart : ∀ path ∈ changed, ∀ other ∈ changed, ∀ looked beyond,
    answer (.looked path) = .ok looked → answer (.looked other) = .ok beyond →
      isBelow other path = true → isFile beyond.place.node = true → looked.place.isPresent = false
  direct : ∀ path ∈ changed, Direct env before path
  free : ∀ path ∈ changed, env.directory path = false ∧
    (placeOf env before.work path).fileAbove = false

/-- The changes can be undone, they are applied whole, and no later call times out. -/
structure Safe (env : Surroundings)
    (answer : (call : Outside) → Except Raised (OutsideValue call)) (before : Repo) : Prop where
  undoable : Undoable env (changedOf answer) before
  applies : Applies env answer before (changedOf answer)
  prompt : ¬LateTimeout env
  drops : answer .dropTemporary ≠ .error .timeout

/-- A path that passed the validation. -/
structure Validated (answer : (call : Outside) → Except Raised (OutsideValue call))
    (package : Fields) (path : String) : Prop where
  allowed : pathIsAllowed path package = true ∧ hardForbidden path = false
  looked : ∃ looked, answer (.looked path) = .ok looked ∧
    safeTarget looked.place path = .ok () ∧
      (looked.place.isPresent = true → isFile looked.place.node = true)

theorem meets_validateChangedPath (package : Fields) (path : String) :
    Meets (supply OutsideValue env answer) (· = before) (validateChangedPath package path)
      (fun after _ => after = before ∧ Validated answer package path)
      fun after _ => after = before := by
  unfold validateChangedPath
  refine Meets.bind (Meets.check fun _ _ held => held) fun _ => Meets.assuming fun surface => ?_
  refine Meets.bind ((meets_ask _).mono (fun _ held => held) (fun _ _ held => held.1)
    fun _ _ held => held.1) fun (ignored : Bool) => ?_
  refine Meets.bind ((Meets.check fun _ _ held => held).mono (fun _ held => held)
    (fun _ _ held => held.1) fun _ _ held => held) fun _ => ?_
  refine Meets.bind ((meets_ask _).mono (fun _ held => held) (fun _ _ held => held)
    fun _ _ held => held.1) fun (looked : Sized) => Meets.assuming fun found => ?_
  refine Meets.bind (Meets.ofExcept fun _ _ _ held => held) fun _ => Meets.assuming fun safe => ?_
  refine Meets.bind (Meets.check fun _ _ held => held) fun _ => Meets.assuming fun file => ?_
  refine (Meets.check fun _ _ held => held).mono (fun _ held => held) ?_ fun _ _ held => held
  exact fun after _ held => ⟨held.1, ⟨surface.2, surface.1⟩, looked, found, safe, file⟩

theorem meets_validateChangedPaths (package : Fields) (changed : List String) :
    Meets (supply OutsideValue env answer) (· = before) (validateChangedPaths package changed)
      (fun after _ => after = before ∧ ∀ path ∈ changed, Validated answer package path)
      fun after _ => after = before := by
  induction changed with
  | nil => exact Meets.done fun _ same => ⟨same, fun _ inside => absurd inside List.not_mem_nil⟩
  | cons path rest ih =>
      refine Meets.bind (meets_validateChangedPath package path) fun _ =>
        Meets.assuming fun validated => ?_
      exact ih.mono (fun _ held => held)
        (fun _ _ held => ⟨held.1, List.forall_mem_cons.mpr ⟨validated, held.2⟩⟩)
        fun _ _ held => held

/-- While the changes are applied a file is an old one or one of the clone. -/
structure Applying (env : Surroundings)
    (answer : (call : Outside) → Except Raised (OutsideValue call)) (changed : List String)
    (before repo : Repo) : Prop where
  applied : Applied env changed before repo
  files : ∀ path, isFile (repo.work.lookup path) = true →
    isFile (before.work.lookup path) = true ∨ path ∈ changed ∧
      ∃ looked, answer (.looked path) = .ok looked ∧ isFile looked.place.node = true

theorem Applying.refl : Applying env answer changed before before :=
  ⟨Applied.refl before, fun _ file => .inl file⟩

theorem Applying.put (applying : Applying env answer changed before repo)
    (listed : path ∈ changed) {looked : Sized} (found : answer (.looked path) = .ok looked)
    (file : isFile looked.place.node = true) (bytes : List UInt8) :
    Applying env answer changed before { repo with work := putBytes repo.work path bytes } := by
  refine ⟨applying.applied.put listed bytes, ?_⟩
  intro other isFile
  by_cases same : other = path
  · rw [same]
    exact .inr ⟨listed, looked, found, file⟩
  · have kept : (putBytes repo.work path bytes).lookup other = repo.work.lookup other :=
      AList.lookup_insert_ne same
    rw [kept] at isFile
    exact applying.files other isFile

theorem Applying.erase (applying : Applying env answer changed before repo)
    (listed : path ∈ changed) :
    Applying env answer changed before { repo with work := repo.work.erase path } := by
  refine ⟨applying.applied.erase listed, ?_⟩
  intro other isFile
  by_cases same : other = path
  · rw [same, AList.lookup_erase] at isFile
    cases isFile
  · have kept : (repo.work.erase path).lookup other = repo.work.lookup other :=
      AList.lookup_erase_ne same
    rw [kept] at isFile
    exact applying.files other isFile

theorem Applying.fileAbove (applies : Applies env answer before changed)
    (applying : Applying env answer changed before repo) (listed : path ∈ changed)
    {looked : Sized} (found : answer (.looked path) = .ok looked)
    (present : looked.place.isPresent = true) : (placeOf env repo.work path).fileAbove = false := by
  rw [placeOf, List.any_eq_false]
  intro other _ above
  rw [Bool.and_eq_true] at above
  rcases applying.files other above.2 with old | ⟨inside, beyond, foundOver, file⟩
  · have free := (applies.free path listed).2
    rw [placeOf, List.any_eq_false] at free
    refine free other ?_ ?_
    · rw [← AList.mem_keys, ← AList.lookup_isSome, Option.isSome_iff_ne_none]
      intro none
      rw [none] at old
      cases old
    · rw [Bool.and_eq_true]
      exact ⟨above.1, old⟩
  · have absent := applies.apart path listed other inside looked beyond found foundOver above.1 file
    rw [present] at absent
    cases absent

theorem safeTarget_of_direct {looked place : Place} (safe : safeTarget looked path = .ok ())
    (above : place.linkAbove = false) (here : isLink place.node = false) :
    safeTarget place path = .ok () := by
  unfold safeTarget at safe ⊢
  split_ifs at safe with shape
  rw [if_neg shape, above, here, if_neg Bool.false_ne_true, if_neg Bool.false_ne_true]

theorem isFile_of_isLink {node : Option Node} (present : node.isSome = true)
    (here : isLink node = false) : isFile node = true := by
  cases node with
  | none => cases present
  | some node =>
      cases node with
      | file bytes executable => rfl
      | link target => cases here

theorem meets_applyChange {package : Fields} (applies : Applies env answer before changed)
    (listed : path ∈ changed) (validated : Validated answer package path) :
    Meets (supply OutsideValue env answer) (Applying env answer changed before)
      (applyChange path) (fun after _ => Applying env answer changed before after)
      fun _ _ => False := by
  rcases validated.looked with ⟨looked, found, safe, file⟩
  have noDirectory := (applies.free path listed).1
  unfold applyChange
  refine Meets.bind (meets_answered (applies.same path listed looked found))
    fun (source : Place) => Meets.assuming fun same => ?_
  subst same
  refine Meets.bind (Meets.ofExcept fun raised refused _ _ => ?_) fun _ => ?_
  · rw [safe] at refused
    cases refused
  -- The place in the root has no link, as before.
  let inspected (repo : Repo) (target : Place) : Prop :=
    Applying env answer changed before repo ∧
      target = placeOf env repo.work path
  have inspects : Meets (supply OutsideValue env answer)
      (fun repo => Applying env answer changed before repo ∧
        safeTarget looked.place path = .ok ())
      (onRoot (.inspect path)) inspected fun _ _ => False :=
    meets_faultless (applies.inspects path listed) fun repo held =>
      ⟨repo, placeOf env repo.work path, rfl, held.1, rfl⟩
  refine Meets.bind inspects fun (target : Place) => ?_
  have direct (repo : Repo) (held : inspected repo target) :
      target.linkAbove = false ∧ isLink target.node = false := by
    rcases held with ⟨applying, rfl⟩
    have direct := applying.applied.direct (applies.direct path listed)
    exact ⟨direct.above, direct.here⟩
  have accepts : Meets (supply OutsideValue env answer) (fun repo => inspected repo target)
      (Program.ofExcept (safeTarget target path)) (fun repo _ => inspected repo target)
      fun _ _ => False := by
    refine (Meets.ofExcept fun raised refused repo held => ?_).mono (fun _ held => held)
      (fun _ _ held => held.1) fun _ _ held => held
    rw [safeTarget_of_direct safe (direct repo held).1 (direct repo held).2] at refused
    cases refused
  refine Meets.bind accepts fun _ => ?_
  by_cases present : looked.place.isPresent = true
  · rw [if_pos present]
    refine Meets.bind (Meets.check fun refused => absurd (file present) refused) fun _ => ?_
    refine Meets.bind (Meets.check fun refused repo held => ?_) fun _ => ?_
    · rcases held with ⟨held, _⟩
      refine refused fun isPresent => isFile_of_isLink ?_ (direct repo held).2
      rw [Place.isPresent, held.2] at isPresent
      rw [held.2]
      exact (Bool.or_eq_true_iff.mp isPresent).resolve_right
        fun isDirectory => Bool.false_ne_true (noDirectory.symm.trans isDirectory)
    have makes : Meets (supply OutsideValue env answer)
        (fun repo => inspected repo target) (onRoot (.makeParents path))
        (fun repo _ => Applying env answer changed before repo) fun _ _ => False := by
      refine meets_faultless (applies.makes path listed) fun repo held => ?_
      refine ⟨repo, (), ?_, held.1⟩
      rw [perform, held.1.fileAbove applies listed found present, if_neg Bool.false_ne_true]
    refine Meets.bind (makes.mono (fun _ held => held.1.1) (fun _ _ held => held)
      fun _ _ impossible => impossible) fun _ => ?_
    rcases applies.reads path listed with ⟨bytes, read⟩
    refine Meets.bind (meets_answered read) fun (got : List UInt8) => Meets.assuming fun same => ?_
    subst same
    refine meets_faultless (applies.writes path listed got) fun repo applying => ?_
    refine ⟨_, (), ?_, applying.put listed found (file present) got⟩
    rw [perform, writeAt_of_direct (applying.applied.direct (applies.direct path listed)),
      noDirectory, if_neg Bool.false_ne_true]
    rfl
  rw [if_neg present]
  by_cases isFile : CreativeAdapters.isFile target.node = true
  · rw [if_pos isFile]
    refine meets_faultless (applies.unlinks path listed) fun repo held => ?_
    refine ⟨_, (), ?_, held.1.erase listed⟩
    rw [perform, unlinkAt_of_direct (held.1.applied.direct (applies.direct path listed)), if_neg]
    · rfl
    · rw [held.2] at isFile
      intro none
      rw [placeOf, Option.isNone_iff_eq_none.mp none] at isFile
      cases isFile
  · rw [if_neg isFile]
    refine (Meets.check fun refused repo held => ?_).mono (fun _ held => held)
      (fun _ _ held => held.1.1) fun _ _ held => held
    refine refused ?_
    rw [Place.isPresent, Bool.or_eq_false_iff]
    constructor
    · refine eq_false_of_ne_true fun isPresent => ?_
      exact isFile (isFile_of_isLink isPresent (direct repo held).2)
    · rw [held.2]
      exact noDirectory

theorem meets_applyChanges {package : Fields} {paths : List String}
    (applies : Applies env answer before changed) (listed : ∀ path ∈ paths, path ∈ changed)
    (validated : ∀ path ∈ paths, Validated answer package path) :
    Meets (supply OutsideValue env answer) (Applying env answer changed before)
      (applyChanges paths) (fun after _ => Applying env answer changed before after)
      fun _ _ => False := by
  induction paths with
  | nil => exact Meets.done fun _ held => held
  | cons path rest ih =>
      rcases List.forall_mem_cons.mp listed with ⟨here, others⟩
      rcases List.forall_mem_cons.mp validated with ⟨valid, validOthers⟩
      exact Meets.bind (meets_applyChange applies here valid) fun _ =>
        ih others validOthers

/-! ## The run -/

/-- The changes are applied, and each of them is allowed. -/
def LeftClone (env : Surroundings)
    (answer : (call : Outside) → Except Raised (OutsideValue call)) (package : Fields)
    (before after : Repo) (changed : List String) : Prop :=
  Applied env (changedOf answer) before after ∧ changed = changedOf answer ∧
    ∀ path ∈ changed, pathIsAllowed path package = true ∧ hardForbidden path = false

theorem meets_inClone {package : Fields} {base : String}
    (applies : Applies env answer before (changedOf answer)) :
    Meets (supply OutsideValue env answer) (· = before) (inClone package base)
      (LeftClone env answer package before) fun after _ => after = before := by
  unfold inClone
  refine Meets.bind ((meets_ask _).mono (fun _ held => held) (fun _ _ held => held.1)
    fun _ _ held => held.1) fun _ => ?_
  refine Meets.bind ((meets_ask _).mono (fun _ held => held) (fun _ _ held => held.1)
    fun _ _ held => held.1) fun _ => ?_
  refine Meets.bind ((meets_ask _).mono (fun _ held => held) (fun _ _ held => held.1)
    fun _ _ held => held.1) fun (head : String) => ?_
  refine Meets.bind ((Meets.check fun _ _ held => held).mono (fun _ held => held)
    (fun _ _ held => held.1) fun _ _ held => held) fun _ => ?_
  refine Meets.bind ((meets_ask _).mono (fun _ held => held) (fun _ _ held => held.1)
    fun _ _ held => held.1) fun (remotes : String) => ?_
  refine Meets.bind ((Meets.check fun _ _ held => held).mono (fun _ held => held)
    (fun _ _ held => held.1) fun _ _ held => held) fun _ => ?_
  refine Meets.bind ((meets_ask _).mono (fun _ held => held) (fun _ _ held => held)
    fun _ _ held => held.1) fun (tracked : String) => Meets.assuming fun answeredTracked => ?_
  refine Meets.bind ((meets_ask _).mono (fun _ held => held) (fun _ _ held => held)
    fun _ _ held => held.1) fun (untracked : String) => Meets.assuming fun answeredOthers => ?_
  have changed : changedOf answer = changedPaths tracked untracked := by
    rw [changedOf, answeredTracked, answeredOthers]
  dsimp only
  rw [← changed]
  refine Meets.bind ((Meets.check fun _ _ held => held).mono (fun _ held => held)
    (fun _ _ held => held.1) fun _ _ held => held) fun _ => ?_
  refine Meets.bind (meets_validateChangedPaths package _) fun _ =>
    Meets.assuming fun validated => ?_
  refine Meets.bind ((meets_applyChanges applies (fun _ listed => listed) validated).mono ?_
    (fun _ _ held => held) fun _ _ impossible => impossible.elim) fun _ => Meets.done ?_
  · rintro after rfl
    exact Applying.refl
  · intro after applying
    exact ⟨applying.applied, rfl, fun path listed => (validated path listed).allowed⟩

/-- What is known of the root when the `try` block is left by an exception. -/
def Interrupted (env : Surroundings) (changed : List String) (base : String)
    (before after : Repo) (progress : Progress) : Prop :=
  (progress.2 = false → after = before) ∧
    (progress.2 = true → Touched env changed before after ∧
      progress.1 ≠ .timeout ∧ base = before.headId)

theorem meets_attempt {setting : Setting} {package : Fields} {base : String}
    (started : Started env before) (safe : Safe env answer before) :
    Meets (supply OutsideValue env answer) (· = before) (attempt setting package base)
      (AllOrNothing env hardForbidden package before)
      (Interrupted env (changedOf answer) base before) := by
  have early {after : Repo} {raised : Raised} (same : after = before) :
      Interrupted env (changedOf answer) base before after (raised, false) :=
    ⟨fun _ => same, fun applied => by cases applied⟩
  have late {after : Repo} {raised : Raised}
      (touched : Touched env (changedOf answer) before after)
      (other : raised ≠ .timeout) (same : base = before.headId) :
      Interrupted env (changedOf answer) base before after (raised, true) :=
    ⟨fun notApplied => (by cases notApplied), fun _ => ⟨touched, other, same⟩⟩
  unfold attempt
  refine Meets.bind (Meets.raising ((meets_reading rfl).mono (fun _ held => held)
    (fun _ _ held => held) fun _ _ held => held.1) fun _ _ same => early same)
    fun (current : String) => ?_
  have isCurrent {after : Repo} (known : after = before ∧ perform env after
      (.revParse false) = (after, .ok current)) : after = before ∧ current = before.headId := by
    rcases known with ⟨rfl, answered⟩
    exact ⟨rfl, (Except.ok.inj (congrArg Prod.snd answered)).symm⟩
  refine Meets.mono (Meets.assuming fun isHead : current = before.headId => ?_)
    (fun _ known => isCurrent known) (fun _ _ held => held) fun _ _ held => held
  refine Meets.bind (Meets.raising (meets_startErrors _ _) fun _ _ same => early same)
    fun errors => ?_
  cases errors with
  | some exit =>
      refine Meets.done ?_
      rintro after ⟨rfl, failed, _⟩
      exact ⟨fun passed => absurd (congrArg some passed) failed, fun _ => Untouched.refl after⟩
  | none =>
      dsimp only
      refine Meets.mono (Meets.assuming fun goesOn => ?_) (fun _ known => ⟨known.1, known.2.2⟩)
        (fun _ _ held => held) fun _ _ held => held
      have isBase : base = before.headId := by
        have fresh := of_decide_eq_false (goesOn rfl)
        rw [← isHead]
        exact (not_not.mp fresh).symm
      have ready : Meets (supply OutsideValue env answer) (· = before) readyAgent
          (fun after _ => after = before) fun after _ => after = before := by
        unfold readyAgent
        refine Meets.bind ((meets_ask _).mono (fun _ held => held) (fun _ _ held => held.1)
          fun _ _ held => held.1) fun _ => ?_
        refine Meets.bind ((meets_ask _).mono (fun _ held => held) (fun _ _ held => held.1)
          fun _ _ held => held.1) fun _ => ?_
        refine Meets.bind ((meets_ask _).mono (fun _ held => held) (fun _ _ held => held.1)
          fun _ _ held => held.1) fun _ => Meets.done fun _ held => held
      refine Meets.bind (Meets.raising ready fun _ _ same => early same) fun version => ?_
      refine Meets.bind (Meets.raising ((meets_ask _).mono (fun _ held => held)
        (fun _ _ held => held.1) fun _ _ held => held.1) fun _ _ same => early same) fun _ => ?_
      refine Meets.bind (Meets.attempt (meets_inClone safe.applies) fun raised => ?_)
        fun changed => ?_
      · refine Meets.bind (Meets.raising ((meets_ask _).mono (fun _ held => held)
          (fun _ _ held => held.1) fun _ _ held => held.1) fun _ _ same => early same) fun _ => ?_
        exact Meets.fail fun _ same => early same
      refine Meets.mono (Meets.assuming fun known : changed = changedOf answer ∧
        ∀ path ∈ changed, pathIsAllowed path package = true ∧ hardForbidden path = false => ?_)
        (fun _ left => left) (fun _ _ held => held) fun _ _ held => held
      rcases known with ⟨rfl, allowed⟩
      refine Meets.bind (Meets.raising (meets_ask _) ?_) fun _ => ?_
      · rintro after raised ⟨applied, answered⟩
        refine late applied.touched ?_ isBase
        rintro rfl
        exact safe.drops answered
      refine (Meets.raising (meets_publish started safe.undoable allowed) ?_).mono
        (fun _ held => held.1) ?_ fun _ _ held => held
      · rintro after raised ⟨touched, timeout⟩
        exact late touched (fun same => safe.prompt (timeout same)) isBase
      · rintro after exit ⟨rfl, committed⟩
        exact ⟨fun _ => committed, fun failed => absurd rfl failed⟩

/-- What was applied is undone, and the execution fails. -/
theorem meets_recover {package : Fields} {base : String} (started : Started env before)
    (safe : Safe env answer before) (progress : Progress) : Meets (supply OutsideValue env answer)
      (fun repo => Interrupted env (changedOf answer) base before repo progress)
      (recover base progress) (AllOrNothing env hardForbidden package before) fun _ _ => True := by
  have failed {after : Repo} {exit : Exit} (other : exit ≠ .passed)
      (untouched : Untouched before after) :
      AllOrNothing env hardForbidden package before after exit :=
    ⟨fun passed => absurd passed other, fun _ => untouched⟩
  unfold recover
  rcases progress with ⟨raised, applied⟩
  cases applied with
  | false =>
      have same {after : Repo} (known : Interrupted env (changedOf answer) base before
          after (raised, false)) : Untouched before after :=
        known.1 rfl ▸ Untouched.refl before
      by_cases timeout : raised = .timeout
      · rw [if_pos timeout]
        exact Meets.done fun after known => failed (fun passed => by cases passed) (same known)
      · rw [if_neg timeout, if_neg Bool.false_ne_true]
        have skips : Meets (supply OutsideValue env answer)
            (fun repo => Interrupted env (changedOf answer) base before repo
              (raised, false))
            ((pure () : CodexStep Raised Unit).handle fun _ => (pure () : CodexStep Raised Unit))
            (fun after _ => Untouched before after) fun _ _ => True :=
          Meets.done fun _ known => same known
        refine Meets.bind skips fun _ => ?_
        exact (meets_report raised).mono (fun _ held => held)
          (fun _ _ held => failed held.2 held.1) fun _ _ held => held
  | true =>
      by_cases timeout : raised = .timeout
      · rw [if_pos timeout]
        exact Meets.done fun after known => absurd timeout (known.2 rfl).2.1
      · rw [if_neg timeout, if_pos rfl]
        refine Meets.bind ((meets_cleanUp started safe.undoable).mono ?_
          (fun _ _ held => held) fun _ _ impossible => impossible.elim) fun _ => ?_
        · intro repo known
          exact ⟨(known.2 rfl).1, .inl (known.2 rfl).2.2⟩
        · exact (meets_report raised).mono (fun _ held => held)
            (fun _ _ held => failed held.2 held.1) fun _ _ held => held

theorem package_of_preflight {setting : Setting} {upper : String → String} {environ : Environ}
    {request : Request} {package : Fields} {base : String}
    (admitted : preflight setting upper environ request = .ok (package, base)) :
    request.package = package := by
  unfold preflight at admitted
  rcases Fallible.bind_ok_iff.mp admitted with ⟨_, _, admitted⟩
  rcases Fallible.bind_ok_iff.mp admitted with ⟨_, _, admitted⟩
  rcases Fallible.bind_ok_iff.mp admitted with ⟨_, _, admitted⟩
  rcases Fallible.bind_ok_iff.mp admitted with ⟨_, _, admitted⟩
  cases request with
  | missing => cases admitted
  | invalid => cases admitted
  | loaded value =>
      cases value with
      | obj request =>
          rw [Request.package]
          dsimp only at admitted
          cases held : Json.get request "work_package" with
          | obj found =>
              rw [held] at admitted
              rcases Fallible.bind_ok_iff.mp admitted with ⟨_, _, admitted⟩
              cases errors : validateWorkPackage setting.rt setting.isInstant found with
              | error error =>
                  rw [errors] at admitted
                  cases admitted
              | ok errorsFound =>
                  rw [errors] at admitted
                  rcases Fallible.bind_ok_iff.mp admitted with ⟨_, _, admitted⟩
                  rcases Fallible.bind_ok_iff.mp admitted with ⟨_, _, admitted⟩
                  rcases Fallible.bind_ok_iff.mp admitted with ⟨_, _, admitted⟩
                  rcases Fallible.bind_ok_iff.mp admitted with ⟨_, _, ⟨⟩⟩
                  rfl
          | _ =>
              rw [held] at admitted
              cases admitted
      | _ => cases admitted

/-- Where the changes are applied whole and can be undone, and no later call times out, an
execution commits them all or changes nothing. -/
theorem allOrNothing_of_safe {setting : Setting} {upper : String → String} {environ : Environ}
    {request : Request} {after : Repo} {exit : Exit} (started : Started env before)
    (safe : Safe env answer before) (ended : Yields (supply OutsideValue env answer)
      (execute setting upper environ request) before after exit) :
    AllOrNothing env hardForbidden request.package before after exit := by
  unfold execute at ended
  cases admitted : preflight setting upper environ request with
  | error refusal =>
      rw [admitted] at ended
      cases refusal with
      | fails code =>
          cases ended
          exact ⟨fun passed => (by cases passed), fun _ => Untouched.refl before⟩
      | raises error => cases ended
  | ok admission =>
      rcases admission with ⟨package, base⟩
      rw [admitted] at ended
      rw [package_of_preflight admitted]
      have runs := Meets.attempt (@meets_attempt _ _ _ setting package base started safe)
        (meets_recover started safe)
      exact runs.yields before after exit rfl ended

end Codex

end Adwf.CreativeAdapters
