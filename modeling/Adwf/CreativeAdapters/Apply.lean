import Adwf.CreativeAdapters.Publish

/-!
# Applying the changes

What is written to the root while the changes are applied stays at the changed
paths, as long as none of them leads through a symbolic link.
-/

namespace Adwf.CreativeAdapters

open Program (Meets)

variable {Outside : Type} {OutsideValue : Outside → Type}
variable {answer : (call : Outside) → Except Raised (OutsideValue call)}
variable {env : Surroundings} {before repo after : Repo} {changed : List String}
variable {path : String}

/-- The path is no symbolic link and does not lead through one. -/
structure Direct (env : Surroundings) (repo : Repo) (path : String) : Prop where
  above : (placeOf env repo.work path).linkAbove = false
  here : isLink (repo.work.lookup path) = false

theorem Applied.refl (repo : Repo) : Applied env changed repo repo :=
  ⟨Touched.refl repo, rfl, fun _ => rfl⟩

theorem Applied.direct (applied : Applied env changed before repo)
    (direct : Direct env before path) : Direct env repo path := by
  constructor
  · rw [placeOf, List.any_eq_false]
    intro other _ link
    rw [Bool.and_eq_true] at link
    have same := applied.touched.links other link.2
    have above := direct.above
    rw [placeOf, List.any_eq_false] at above
    refine above other ?_ ?_
    · have present : before.work.lookup other ≠ none := by
        rw [← same]
        intro none
        rw [none] at link
        exact Bool.false_ne_true link.2
      rw [← AList.mem_keys, ← AList.lookup_isSome]
      exact Option.isSome_iff_ne_none.mpr present
    · rw [← same, Bool.and_eq_true]
      exact link
  · by_contra link
    have link := eq_true_of_ne_false link
    rw [applied.touched.links path link] at link
    exact Bool.false_ne_true (direct.here.symm.trans link)

theorem Applied.put (applied : Applied env changed before repo) (listed : path ∈ changed)
    (bytes : List UInt8) :
    Applied env changed before { repo with work := putBytes repo.work path bytes } := by
  refine ⟨⟨applied.touched.history, applied.touched.index, ?_, ?_⟩, applied.history, applied.index⟩
  · intro other missing
    have different : other ≠ path := fun same => missing (same ▸ listed)
    exact (AList.lookup_insert_ne different).trans (applied.touched.work other missing)
  · intro other link
    by_cases same : other = path
    · rw [same, putBytes, AList.lookup_insert] at link
      cases link
    · have kept : (putBytes repo.work path bytes).lookup other = repo.work.lookup other :=
        AList.lookup_insert_ne same
      rw [kept] at link ⊢
      exact applied.touched.links other link

theorem Applied.erase (applied : Applied env changed before repo) (listed : path ∈ changed) :
    Applied env changed before { repo with work := repo.work.erase path } := by
  refine ⟨⟨applied.touched.history, applied.touched.index, ?_, ?_⟩, applied.history, applied.index⟩
  · intro other missing
    have different : other ≠ path := fun same => missing (same ▸ listed)
    exact (AList.lookup_erase_ne different).trans (applied.touched.work other missing)
  · intro other link
    by_cases same : other = path
    · rw [same, AList.lookup_erase] at link
      cases link
    · have kept : (repo.work.erase path).lookup other = repo.work.lookup other :=
        AList.lookup_erase_ne same
      rw [kept] at link ⊢
      exact applied.touched.links other link

theorem writeAt_of_direct (direct : Direct env repo path) (bytes : List UInt8) :
    writeAt env repo path bytes =
      if env.directory path then (repo, .error (.error "IsADirectoryError"))
      else ({ repo with work := putBytes repo.work path bytes }, .ok ()) := by
  have landed : landing env repo path = some path := by
    rw [landing, direct.above, direct.here, Bool.or_false, if_neg Bool.false_ne_true]
  rw [writeAt, landed]

theorem unlinkAt_of_direct (direct : Direct env repo path) : unlinkAt env repo path =
      if (repo.work.lookup path).isNone then (repo, .error (.error "FileNotFoundError"))
      else ({ repo with work := repo.work.erase path }, .ok ()) := by
  rw [unlinkAt, direct.above, if_neg Bool.false_ne_true]

theorem Applied.writeAt (applied : Applied env changed before repo)
    (direct : Direct env before path) (listed : path ∈ changed) (bytes : List UInt8) :
    Applied env changed before (writeAt env repo path bytes).1 := by
  rw [writeAt_of_direct (applied.direct direct)]
  split_ifs
  · exact applied
  · exact applied.put listed bytes

theorem Applied.unlinkAt (applied : Applied env changed before repo)
    (direct : Direct env before path) (listed : path ∈ changed) :
    Applied env changed before (unlinkAt env repo path).1 := by
  rw [unlinkAt_of_direct (applied.direct direct)]
  split_ifs
  · exact applied
  · exact applied.erase listed

/-- The calls that apply the changes. -/
def IsApplying (changed : List String) : Call Outside → Prop
  | .outside _ => True
  | .root (.inspect _) => True
  | .root (.makeParents _) => True
  | .root (.write path _) => path ∈ changed
  | .root (.unlink path) => path ∈ changed
  | .root _ => False

/-- They keep to the changed paths, whether they fail or not. -/
theorem applied_supply (direct : ∀ path ∈ changed, Direct env before path)
    (call : Call Outside) (applying : IsApplying changed call)
    (applied : Applied env changed before repo) : Applied env changed before
      (supply OutsideValue env answer repo call).1 := by
  cases call with
  | outside call => exact applied
  | root call =>
      change Applied env changed before (serve env repo call).1
      cases call with
      | inspect path =>
          rw [serve_reading rfl]
          exact applied
      | makeParents path =>
          rw [serve_reading rfl]
          exact applied
      | write path bytes =>
          have inside : path ∈ changed := applying
          rcases @serve_cases env repo (.write path bytes) with
            same | same | ⟨_, _, length, ⟨⟩, same⟩
          · rw [same]
            exact applied
          · rw [same]
            exact applied.writeAt (direct path inside) inside bytes
          · rw [same]
            exact applied.writeAt (direct _ inside) inside _
      | unlink path =>
          have inside : path ∈ changed := applying
          rcases @serve_cases env repo (.unlink path) with
            same | same | ⟨_, _, _, ⟨⟩, _⟩
          · rw [same]
            exact applied
          · rw [same]
            exact applied.unlinkAt (direct path inside) inside
      | _ => exact absurd applying id

/-! ## The ends of an execution -/

/-- With 0 the changes are committed, else the head and the files are as before. -/
def AllOrNothing (env : Surroundings) (hardForbidden : String → Bool) (package : Fields)
    (before after : Repo) (exit : Exit) : Prop :=
  (exit = .passed → Committed env hardForbidden package before after) ∧
    (exit ≠ .passed → Untouched before after)

/-- The work package of a request. -/
def Request.package : Request → Fields
  | .loaded (.obj request) =>
      match Json.get request "work_package" with
      | .obj package => package
      | _ => []
  | _ => []

theorem meets_startErrors (label : String) (isStale : Bool) :
    Meets (supply OutsideValue env answer) (· = before) (startErrors label isStale)
      (fun after exit => after = before ∧ exit ≠ some .passed ∧ (exit = none → isStale = false))
      fun after _ => after = before := by
  unfold startErrors
  cases isStale with
  | true =>
      refine Meets.done fun _ same => ⟨same, ?_, ?_⟩
      · exact fun passed => by cases passed
      · exact fun goesOn => by cases goesOn
  | false =>
      refine Meets.bind ((meets_reading rfl).mono (fun _ held => held) (fun _ _ held => held)
        fun _ _ held => held.1) fun (dirty : Bool) => Meets.done ?_
      rintro after ⟨same, _⟩
      refine ⟨same, ?_, fun _ => rfl⟩
      cases dirty with
      | true => exact fun passed => by cases passed
      | false => exact fun passed => by cases passed

theorem meets_report {known : Repo → Prop} (raised : Raised) :
    Meets (supply OutsideValue env answer) known (report raised)
      (fun after exit => known after ∧ exit ≠ .passed) fun _ _ => True := by
  unfold report
  cases (Lines.splitText raised.text.toList).head? with
  | none => exact Meets.fail fun _ _ => trivial
  | some line => exact Meets.done fun _ held => ⟨held, fun passed => by cases passed⟩

/-- Reset and clean bring the root back, and nothing is raised. -/
theorem meets_resetAndClean {target : String} (started : Started env before)
    (undoable : Undoable env changed before) : Meets (supply OutsideValue env answer)
      (fun repo => Touched env changed before repo ∧ Targets before repo target)
      (resetAndClean target) (fun after _ => Untouched before after) fun _ _ => False := by
  have resets (repo : Repo) : serve env repo (.resetHard target) =
      (repo.resetHard target, .ok ()) := by
    rw [serve, undoable.resets]
    rfl
  have cleans (repo : Repo) : serve env repo .clean =
      (repo.clean env.ignored, .ok ()) := by
    rw [serve, undoable.cleans]
    rfl
  refine Meets.bind ((meets_onRoot (.resetHard target)).mono (fun _ held => held)
    (fun _ _ held => held) ?_) fun _ => ?_
  · rintro after raised ⟨repo, _, served⟩
    rw [resets] at served
    cases served
  · refine (meets_onRoot .clean).mono (fun _ held => held) ?_ ?_
    · rintro after value ⟨middle, ⟨repo, ⟨touched, targets⟩, reset⟩, served⟩
      rw [resets] at reset
      cases reset
      rw [cleans] at served
      cases served
      exact untouched_resetAndClean started undoable touched targets
    · rintro after raised ⟨middle, _, served⟩
      rw [cleans] at served
      cases served

theorem meets_cleanUp {target : String} (started : Started env before)
    (undoable : Undoable env changed before) : Meets (supply OutsideValue env answer)
      (fun repo => Touched env changed before repo ∧ Targets before repo target)
      ((cleanUp target).handle fun _ => pure ()) (fun after _ => Untouched before after)
      fun _ _ => False := by
  have sees (repo : Repo) : serve env repo .gitDirectory = (repo, .ok true) := by
    rw [serve, undoable.sees, ← undoable.inRoot]
    rfl
  have body : Meets (supply OutsideValue env answer)
      (fun repo => Touched env changed before repo ∧ Targets before repo target)
      (cleanUp target) (fun after _ => Untouched before after) fun _ _ => False := by
    have present : Meets (supply OutsideValue env answer)
        (fun repo => Touched env changed before repo ∧ Targets before repo target)
        (onRoot .gitDirectory)
        (fun repo (present : Bool) => (Touched env changed before repo ∧
          Targets before repo target) ∧ present = true) fun _ _ => False := by
      refine (meets_onRoot .gitDirectory).mono (fun _ held => held) ?_ ?_
      · rintro after present ⟨repo, held, served⟩
        rw [sees] at served
        cases served
        exact ⟨held, rfl⟩
      · rintro after raised ⟨repo, _, served⟩
        rw [sees] at served
        cases served
    refine Meets.bind present fun (present : Bool) => Meets.assuming fun isPresent => ?_
    rw [if_pos isPresent]
    exact meets_resetAndClean started undoable
  exact Meets.handle body fun _ => Meets.done fun _ impossible => impossible.elim

end Adwf.CreativeAdapters
