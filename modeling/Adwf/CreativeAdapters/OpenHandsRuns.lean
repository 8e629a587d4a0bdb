import Adwf.CreativeAdapters.Apply

/-!
# Runs of the OpenHands adapter

Whatever call fails, the adapter undoes what it applied.
-/

namespace Adwf.CreativeAdapters.OpenHands

open Program (Meets Yields)
open Supervisor (pathIsAllowed validateWorkPackage)

variable {answer : (call : Outside) → Except Raised (OutsideValue call)}
variable {env : Surroundings} {before : Repo}

/-- The changed paths as the answers give them. -/
def changedOf (answer : (call : Outside) → Except Raised (OutsideValue call)) : List String :=
  match answer (.filesBefore false), answer (.filesAfter false) with
  | .ok before, .ok after => changedPaths before after
  | _, _ => []

/-- The changes can be undone, and no changed path leads through a link of the root. -/
structure Safe (env : Surroundings)
    (answer : (call : Outside) → Except Raised (OutsideValue call)) (before : Repo) : Prop where
  undoable : Undoable env (changedOf answer) before
  direct : ∀ path ∈ changedOf answer, Direct env before path

theorem only_applyChanges (snapshot work : Rows) (changed : List String) :
    (applyChanges snapshot work changed).Only (IsApplying changed) := by
  have one (path : String) (listed : path ∈ changed) :
      (applyChange snapshot work path).Only (IsApplying changed) := by
    unfold applyChange
    refine Program.Only.bind Program.Only.check fun _ => ?_
    cases work.lookup path with
    | none =>
        refine Program.Only.bind ⟨trivial, fun _ => Program.Only.ofExcept _⟩ fun target => ?_
        by_cases present : target.node.isSome = true
        · rw [if_pos present]
          exact ⟨listed, fun _ => Program.Only.ofExcept _⟩
        · rw [if_neg present]
          exact Program.Only.check
    | some row =>
        cases row with
        | file bytes =>
            refine Program.Only.bind ⟨trivial, fun _ => Program.Only.ofExcept _⟩ fun _ => ?_
            exact ⟨listed, fun _ => Program.Only.ofExcept _⟩
        | symlink target => exact trivial
  have all (paths : List String) (inside : ∀ path ∈ paths, path ∈ changed) :
      (applyChanges snapshot work paths).Only (IsApplying changed) := by
    induction paths with
    | nil => exact trivial
    | cons path rest ih =>
        rcases List.forall_mem_cons.mp inside with ⟨here, others⟩
        exact Program.Only.bind (one path here) fun _ => ih others
  exact all changed fun _ listed => listed

/-- What is known when the snapshot is left. -/
structure LeftSnapshot (env : Surroundings)
    (answer : (call : Outside) → Except Raised (OutsideValue call)) (package : Fields)
    (before after : Repo) (ended : Exit ⊕ List String) : Prop where
  exits : ∀ exit, ended = .inl exit → after = before ∧ exit ≠ .passed
  applies : ∀ changed, ended = .inr changed → changed = changedOf answer ∧
    Applied env (changedOf answer) before after ∧
      ∀ path ∈ changed, pathIsAllowed path package = true ∧ hardForbidden path = false

variable {package : Fields} {setting : Setting}

theorem LeftSnapshot.exit {exit : Exit} (failed : exit ≠ .passed) :
    LeftSnapshot env answer package before before (.inl exit) :=
  ⟨fun _ same => ⟨rfl, Sum.inl.inj same ▸ failed⟩, fun _ same => (by cases same)⟩

theorem meets_inSnapshot (package : Fields) (safe : Safe env answer before) :
    Meets (supply OutsideValue env answer) (· = before) (inSnapshot package)
      (LeftSnapshot env answer package before)
      fun after _ => Applied env (changedOf answer) before after := by
  have early {after : Repo} (same : after = before) :
      Applied env (changedOf answer) before after := by
    rw [same]
    exact Applied.refl before
  have failed (text : String) : Exit.failed text ≠ .passed := fun same => by cases same
  unfold inSnapshot
  refine Meets.bind ((meets_ask _).mono (fun _ held => held) (fun _ _ held => held.1)
    fun _ _ held => early held.1) fun _ => ?_
  refine Meets.bind ((meets_ask _).mono (fun _ held => held) (fun _ _ held => held.1)
    fun _ _ held => early held.1) fun _ => ?_
  refine Meets.bind ((meets_ask _).mono (fun _ held => held) (fun _ _ held => held.1)
    fun _ _ held => early held.1) fun cost => ?_
  by_cases nonzero : cost ≠ 0
  · rw [if_pos nonzero]
    refine Meets.done ?_
    rintro after rfl
    exact LeftSnapshot.exit (failed _)
  rw [if_neg nonzero]
  refine Meets.bind ((meets_ask _).mono (fun _ held => held) (fun _ _ held => held)
    fun _ _ held => early held.1) fun rows => Meets.assuming fun answeredBefore => ?_
  refine Meets.bind ((meets_ask _).mono (fun _ held => held) (fun _ _ held => held)
    fun _ _ held => early held.1) fun others => Meets.assuming fun answeredAfter => ?_
  have changed : changedOf answer = changedPaths rows others := by
    rw [changedOf, answeredBefore, answeredAfter]
  dsimp only
  rw [← changed]
  by_cases none : changedOf answer = []
  · rw [if_pos none]
    refine Meets.done ?_
    rintro after rfl
    exact LeftSnapshot.exit (failed _)
  rw [if_neg none]
  cases found : (changedOf answer).find? (isForbidden package) with
  | some path =>
      refine Meets.done ?_
      rintro after rfl
      exact LeftSnapshot.exit (failed _)
  | none =>
      have allowed : ∀ path ∈ changedOf answer,
          pathIsAllowed path package = true ∧ hardForbidden path = false := by
        intro path listed
        have accepted := List.find?_eq_none.mp found path listed
        rw [isForbidden, Bool.or_eq_true, Bool.not_eq_true', not_or] at accepted
        exact ⟨eq_true_of_ne_false accepted.2, eq_false_of_ne_true accepted.1⟩
      dsimp only
      refine Meets.bind ((meets_ask _).mono (fun _ held => held) (fun _ _ held => held.1)
        fun _ _ held => early held.1) fun snapshot => ?_
      refine Meets.bind ((meets_ask _).mono (fun _ held => held) (fun _ _ held => held.1)
        fun _ _ held => early held.1) fun work => ?_
      have kept : ∀ call, IsApplying (changedOf answer) call → ∀ repo,
          Applied env (changedOf answer) before repo →
            Applied env (changedOf answer) before
              (supply OutsideValue env answer repo call).1 :=
        fun call applying repo applied => applied_supply safe.direct call applying applied
      refine Meets.bind ((Meets.only (only_applyChanges snapshot work _) kept).mono
        (fun _ held => early held) (fun _ _ held => held) fun _ _ held => held) fun _ => ?_
      refine Meets.done ?_
      intro after applied
      refine ⟨fun _ same => (by cases same), ?_⟩
      rintro changed ⟨⟩
      exact ⟨rfl, applied, allowed⟩

theorem LeftSnapshot.touched {after : Repo} {ended : Exit ⊕ List String}
    (left : LeftSnapshot env answer package before after ended) :
    Touched env (changedOf answer) before after := by
  cases ended with
  | inl exit =>
      rw [(left.exits exit rfl).1]
      exact Touched.refl before
  | inr changed => exact (left.applies changed rfl).2.1.touched

theorem publishes {changed claims : List String}
    {label current summary : String} (started : Started env before) (safe : Safe env answer before)
    (known : changed = changedOf answer ∧
      ∀ path ∈ changed, pathIsAllowed path package = true ∧ hardForbidden path = false) :
    Meets (supply OutsideValue env answer) (Applied env (changedOf answer) before)
      (publish setting label current package changed claims summary)
      (AllOrNothing env hardForbidden package before)
      fun after _ => Touched env (changedOf answer) before after := by
  rcases known with ⟨rfl, allowed⟩
  refine (meets_publish started safe.undoable allowed).mono (fun _ held => held) ?_
    fun _ _ held => held.1
  rintro after exit ⟨rfl, committed⟩
  exact ⟨fun _ => committed, fun failed => absurd rfl failed⟩

theorem meets_attempt {current : String}
    (started : Started env before) (safe : Safe env answer before) :
    Meets (supply OutsideValue env answer) (· = before) (attempt setting package current)
      (AllOrNothing env hardForbidden package before)
      fun after _ => Touched env (changedOf answer) before after := by
  have early {after : Repo} (same : after = before) :
      Touched env (changedOf answer) before after := by
    rw [same]
    exact Touched.refl before
  have untouched {after : Repo} {exit : Exit} (same : after = before) (failed : exit ≠ .passed) :
      AllOrNothing env hardForbidden package before after exit :=
    ⟨fun passed => absurd passed failed, fun _ => same ▸ Untouched.refl before⟩
  unfold attempt
  refine Meets.bind ((meets_startErrors _ _).mono (fun _ held => held) (fun _ _ held => held)
    fun _ _ held => early held) fun errors => ?_
  cases errors with
  | some exit =>
      refine Meets.done ?_
      rintro after ⟨same, failed, _⟩
      exact untouched same fun passed => failed (congrArg some passed)
  | none =>
      dsimp only
      refine Meets.bind ((meets_ask _).mono (fun _ held => held.1) (fun _ _ held => held.1)
        fun _ _ held => early held.1) fun _ => ?_
      refine Meets.bind ((meets_ask _).mono (fun _ held => held) (fun _ _ held => held.1)
        fun _ _ held => early held.1) fun (ignored : Bool) => ?_
      by_cases shown : ignored = false
      · rw [if_pos shown]
        refine Meets.done ?_
        exact fun after same => untouched same fun passed => by cases passed
      rw [if_neg shown]
      refine Meets.bind ((meets_ask _).mono (fun _ held => held) (fun _ _ held => held.1)
        fun _ _ held => early held.1) fun _ => ?_
      have left : Meets (supply OutsideValue env answer) (· = before)
          ((inSnapshot package).ensuring (call .dropTemporary))
          (LeftSnapshot env answer package before)
          fun after _ => Touched env (changedOf answer) before after :=
        Meets.ensuring (meets_inSnapshot package safe)
          (fun value => (meets_ask _).mono (fun _ held => held) (fun _ _ held => held.1)
            fun _ _ held => held.1.touched)
          fun error => (meets_ask _).mono (fun _ held => held) (fun _ _ held => held.1.touched)
            fun _ _ held => held.1.touched
      refine Meets.bind left fun ended => ?_
      cases ended with
      | inl exit =>
          refine Meets.done ?_
          intro after known
          exact untouched (known.exits exit rfl).1 (known.exits exit rfl).2
      | inr changed =>
          refine (Meets.assuming (publishes started safe)).mono ?_ (fun _ _ held => held)
            fun _ _ held => held
          intro after known
          rcases known.applies changed rfl with ⟨same, applied, allowed⟩
          exact ⟨applied, same, allowed⟩

/-- Reset and clean undo whatever was done, and the execution fails. -/
theorem meets_recover (started : Started env before)
    (safe : Safe env answer before) (progress : Raised × String) :
    Meets (supply OutsideValue env answer) (fun repo => Touched env (changedOf answer) before repo ∧
        Targets before repo (if progress.2 = "" then "HEAD" else progress.2))
      (recover progress) (AllOrNothing env hardForbidden package before) fun _ _ => True := by
  unfold recover
  refine Meets.bind ((meets_cleanUp started safe.undoable).mono (fun _ held => held)
    (fun _ _ held => held) fun _ _ impossible => impossible.elim) fun _ => ?_
  refine (meets_report progress.1).mono (fun _ held => held) ?_ fun _ _ held => held
  exact fun after exit known => ⟨fun passed => absurd passed known.2, fun _ => known.1⟩

theorem package_of_preflight {upper : String → String} {environ : Environ} {request : Request}
    (admitted : preflight setting upper environ request = .ok package) : request.package = package := by
  unfold preflight at admitted
  rcases Fallible.bind_ok_iff.mp admitted with ⟨_, _, admitted⟩
  rcases Fallible.bind_ok_iff.mp admitted with ⟨_, _, admitted⟩
  rcases Fallible.bind_ok_iff.mp admitted with ⟨_, _, admitted⟩
  cases request with
  | missing => cases admitted
  | invalid => cases admitted
  | loaded value =>
      cases value with
      | obj request =>
          rw [Request.package]
          dsimp only at admitted
          cases held : Json.get request "work_package" with
          | obj found =>
              rw [held] at admitted
              rcases Fallible.bind_ok_iff.mp admitted with ⟨_, _, admitted⟩
              cases errors : validateWorkPackage setting.rt setting.isInstant found with
              | error error =>
                  rw [errors] at admitted
                  cases admitted
              | ok errorsFound =>
                  rw [errors] at admitted
                  rcases Fallible.bind_ok_iff.mp admitted with ⟨_, _, admitted⟩
                  rcases Fallible.bind_ok_iff.mp admitted with ⟨_, _, admitted⟩
                  rcases Fallible.bind_ok_iff.mp admitted with ⟨_, _, admitted⟩
                  rcases Fallible.bind_ok_iff.mp admitted with ⟨_, _, ⟨⟩⟩
                  rfl
          | _ =>
              rw [held] at admitted
              cases admitted
      | _ => cases admitted

theorem allOrNothing_of_safe {upper : String → String} {environ : Environ}
    {request : Request} {after : Repo} {exit : Exit} (started : Started env before)
    (safe : Safe env answer before) (ended : Yields (supply OutsideValue env answer)
      (execute setting upper environ request) before after exit) :
    AllOrNothing env hardForbidden request.package before after exit := by
  have headed : before.headId ≠ "" := by
    intro same
    have commit := started.commit
    rw [same] at commit
    exact absurd commit (by decide)
  unfold execute at ended
  cases admitted : preflight setting upper environ request with
  | error refusal =>
      rw [admitted] at ended
      cases refusal with
      | fails code =>
          cases ended
          exact ⟨fun passed => (by cases passed), fun _ => Untouched.refl before⟩
      | raises error => cases ended
  | ok package =>
      rw [admitted] at ended
      rw [package_of_preflight admitted]
      have starts : Meets (supply OutsideValue env answer) (· = before)
          ((onRoot (.revParse false)).raising (·, ""))
          (fun after (current : String) => after = before ∧ current = before.headId)
          fun after (progress : Raised × String) => Touched env (changedOf answer)
            before after ∧
              Targets before after (if progress.2 = "" then "HEAD" else progress.2) := by
        refine Meets.raising ((meets_reading rfl).mono (fun _ held => held) ?_
          (fun _ _ held => held.1)) ?_
        · rintro after current ⟨rfl, answered⟩
          exact ⟨rfl, (Except.ok.inj (congrArg Prod.snd answered)).symm⟩
        · rintro after raised rfl
          exact ⟨Touched.refl after, .inr ⟨rfl, rfl⟩⟩
      have goesOn (current : String) (same : current = before.headId) :
          Meets (supply OutsideValue env answer) (· = before)
            ((attempt setting package current).raising (·, current))
            (AllOrNothing env hardForbidden package before)
            fun after (progress : Raised × String) => Touched env (changedOf answer)
              before after ∧
                Targets before after (if progress.2 = "" then "HEAD" else progress.2) := by
        refine Meets.raising (meets_attempt started safe) ?_
        intro after raised touched
        rw [same, if_neg headed]
        exact ⟨touched, .inl rfl⟩
      have runs := Meets.attempt (Meets.bind starts fun current => Meets.assuming (goesOn current))
        (meets_recover started safe)
      exact runs.yields before after exit rfl ended

end Adwf.CreativeAdapters.OpenHands
