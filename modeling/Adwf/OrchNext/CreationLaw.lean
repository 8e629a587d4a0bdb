import Adwf.OrchNext.Atomic
import Adwf.OrchNext.Creation
import Adwf.Program.Interleaving

/-!
# One run at a time

Kept apart, at most one execution is in a critical section, so what it has read
there stays true until it leaves.  Created is a run only over a directory
without a live one, and its work memory is saved before the section is left.
-/

namespace Adwf.OrchNext

open Adwf.Fallible Adwf.Program Orchestrator

section Law

variable {Client : Type} {rt : Runtime}

/-! ## The invariant -/

/-- No file stops a new run. -/
def Unoccupied (rt : Runtime) (journals : FileDirectory) : Prop :=
  ∀ runId file, journals.lookup runId = some file → ¬Stopping rt file

structure Kept (rt : Runtime) (site : Site Client) : Prop where
  apart : site.holder .ownerIntent = none ∨ site.holder .orchNext = none
  memoryLock : ∀ client, site.holder .workContext = some client → site.Inside client
  respected : site.trespassed = false
  one : OneLive rt site.journals
  ready : Unoccupied rt site.journals → Accepting rt site.memory
  bound : site.Idle → MemoryBound rt site.journals site.memory site.created

/-- What the others may do: they take no lock from the client and give it none, and while
the client is in its section they write nothing. -/
structure OthersWork (client : Client) (site later : Site Client) : Prop where
  holder : ∀ lock, site.holder lock = some client ↔ later.holder lock = some client
  files : site.Inside client → later.journals = site.journals ∧ later.memory = site.memory ∧
    later.created = site.created

theorem OthersWork.refl (client : Client) (site : Site Client) : OthersWork client site site :=
  ⟨fun _ => Iff.rfl, fun _ => ⟨rfl, rfl, rfl⟩⟩

variable {site : Site Client}

theorem OthersWork.inside {client : Client} {later : Site Client}
    (work : OthersWork client site later) : site.Inside client ↔ later.Inside client :=
  or_congr (work.holder _) (work.holder _)

theorem OthersWork.trans {client : Client} {first second third : Site Client}
    (one : OthersWork client first second) (two : OthersWork client second third) :
    OthersWork client first third := by
  refine ⟨fun lock => (one.holder lock).trans (two.holder lock), fun inside => ?_⟩
  obtain ⟨journals, memory, created⟩ := one.files inside
  obtain ⟨journals', memory', created'⟩ := two.files (one.inside.mp inside)
  exact ⟨journals'.trans journals, memory'.trans memory, created'.trans created⟩

theorem Kept.alone (kept : Kept rt site) {one two : Client}
    (first : site.Inside one) (second : site.Inside two) : one = two := by
  have apart := kept.apart
  rcases first with first | first <;> rcases second with second | second <;>
    simp_all

theorem not_idle_of_inside {client : Client} (inside : site.Inside client) : ¬site.Idle := by
  rintro ⟨noIntent, noNext⟩
  rcases inside with holds | holds
  · rw [noIntent] at holds
    cases holds
  · rw [noNext] at holds
    cases holds

theorem inside_of_holder {client : Client} {lock : LockFile}
    (entry : lock ≠ .workContext) (holder : site.holder lock = some client) :
    site.Inside client := by
  cases lock with
  | ownerIntent => exact .inl holder
  | orchNext => exact .inr holder
  | workContext => exact absurd rfl entry

theorem Kept.memoryHolder (kept : Kept rt site) {holder : Option Client}
    (inside : ∀ client, holder = some client → site.Inside client) :
    Kept rt { site with holder := Function.update site.holder .workContext holder } where
  apart := by simpa using kept.apart
  memoryLock client held := by simpa [Site.Inside] using inside client (by simpa using held)
  respected := kept.respected
  one := kept.one
  ready := kept.ready
  bound idle := kept.bound (by simpa [Site.Idle] using idle)

variable [DecidableEq Client]

variable (Client rt) in
/-- Executions on one root. -/
def siteWorld (apart : Bool) : World Client (Site Client) RootCall RootAnswer where
  step := Serves rt apart
  inv := Kept rt
  rely := OthersWork
  rely_refl := OthersWork.refl
  rely_trans _ := OthersWork.trans

theorem tolerated_siteWorld {apart : Bool} : Tolerated (siteWorld Client rt apart) := by
  intro actor other site call after answer different kept keptAfter stepped
  have written : ∀ journals memory created,
      after = site.wrote actor journals memory created → OthersWork other site after := by
    rintro journals memory created rfl
    refine ⟨fun _ => Iff.rfl, fun inside => ?_⟩
    have acted : site.Inside actor := by
      have respected := keptAfter.respected
      simpa [Site.wrote, kept.respected] using respected
    exact absurd (kept.alone acted inside) different
  cases call with
  | acquire lock =>
      rcases stepped with ⟨free, _, rfl, _⟩ | ⟨_, rfl, _⟩
      · refine ⟨fun name => ?_, fun _ => ⟨rfl, rfl, rfl⟩⟩
        by_cases same : name = lock
        · subst same
          simp [Site.held, free, different]
        · simp [Site.held, Function.update_of_ne same]
      · exact OthersWork.refl _ _
  | release lock =>
      obtain ⟨rfl, _⟩ := stepped
      split_ifs with holds
      · refine ⟨fun name => ?_, fun _ => ⟨rfl, rfl, rfl⟩⟩
        by_cases same : name = lock
        · subst same
          simp [Site.released, holds, different]
        · simp [Site.released, Function.update_of_ne same]
      · exact OthersWork.refl _ _
  | glob =>
      obtain ⟨rfl, _⟩ := stepped
      exact OthersWork.refl _ _
  | readJournal name =>
      obtain ⟨rfl, _⟩ := stepped
      exact OthersWork.refl _ _
  | saveJournal value savedAt =>
      simp only [siteWorld, Serves] at stepped
      split at stepped
      · obtain ⟨rfl, _⟩ := stepped
        exact OthersWork.refl _ _
      · exact written _ _ _ stepped.1
  | readMemory =>
      obtain ⟨rfl, _⟩ := stepped
      exact OthersWork.refl _ _
  | replaceMemory file => exact written _ _ _ stepped.1

/-- What an execution knows in its section: its locks and the files. -/
structure At (client : Client) (lock : LockFile) (memoryHeld : Prop) (journals : FileDirectory)
    (memory : MemoryFile) (created : List String) (site : Site Client) : Prop where
  inside : site.holder lock = some client
  memoryLock : site.holder .workContext = some client ↔ memoryHeld
  journals : site.journals = journals
  memory : site.memory = memory
  created : site.created = created

theorem Live.stopping {file : JournalFile} (live : Live rt file) : Stopping rt file := by
  cases file with
  | unreadable => exact trivial
  | document value =>
      obtain ⟨accepted, active⟩ := live
      intro findings validated
      rw [accepted] at validated
      cases validated
      exact ⟨rfl, by rw [active]; simp⟩

theorem eq_of_liveRun_write {journals : FileDirectory} (unoccupied : Unoccupied rt journals)
    {runId other : String} {file : JournalFile}
    (live : LiveRun rt (journals.write runId file) other) : other = runId := by
  by_contra differs
  obtain ⟨found, stored, accepted⟩ := live
  rw [lookup_write_of_ne differs] at stored
  exact unoccupied other found stored accepted.stopping

theorem oneLive_write {journals : FileDirectory} (unoccupied : Unoccupied rt journals)
    (runId : String) (file : JournalFile) : OneLive rt (journals.write runId file) := by
  intro first second firstLive secondLive
  rw [eq_of_liveRun_write unoccupied firstLive, eq_of_liveRun_write unoccupied secondLive]

theorem not_unoccupied_write (rt : Runtime) (journals : FileDirectory)
    (request : RunRequest) (policyHash : String) (revision : Int) (runId : String) :
    ¬Unoccupied rt (journals.write runId
      (.document (request.stored policyHash revision).toJson)) := fun unoccupied =>
  unoccupied runId _ (lookup_write_self ..) (stopping_stored rt request policyHash revision)

theorem Kept.wrote (kept : Kept rt site) {client : Client}
    (inside : site.Inside client) {journals : FileDirectory} {memory : MemoryFile}
    {created : List String} (one : OneLive rt journals)
    (ready : Unoccupied rt journals → Accepting rt memory) :
    Kept rt (site.wrote client journals memory created) where
  apart := kept.apart
  memoryLock := kept.memoryLock
  respected := by simp [Site.wrote, kept.respected, inside]
  one := one
  ready := ready
  bound idle := absurd idle (not_idle_of_inside inside)

omit [DecidableEq Client] in
/-- A section is entered while the other is empty. -/
theorem Kept.entered (kept : Kept rt site) {client : Client}
    {lock : LockFile} (entry : lock ≠ .workContext) (idle : site.Idle) :
    Kept rt (site.held lock client) where
  apart := by cases lock <;> simp_all [Site.held, Site.Idle]
  memoryLock owner holder := by
    have held : site.holder .workContext = some owner := by
      simpa [Site.held, Function.update_of_ne entry.symm] using holder
    exact absurd idle (not_idle_of_inside (kept.memoryLock owner held))
  respected := kept.respected
  one := kept.one
  ready := kept.ready
  bound later := by
    have inside : (site.held lock client).Inside client :=
      inside_of_holder entry (Function.update_self ..)
    exact absurd later (not_idle_of_inside inside)

omit [DecidableEq Client] in
theorem Kept.left (kept : Kept rt site) {client : Client}
    {lock : LockFile} (entry : lock ≠ .workContext) (holder : site.holder lock = some client)
    (free : site.holder .workContext ≠ some client)
    (bound : MemoryBound rt site.journals site.memory site.created) :
    Kept rt (site.released lock) where
  apart := by
    have apart := kept.apart
    cases lock <;> simp_all [Site.released]
  memoryLock owner holderAfter := by
    have held : site.holder .workContext = some owner := by
      simpa [Site.released, Function.update_of_ne entry.symm] using holderAfter
    have same := kept.alone (kept.memoryLock owner held) (inside_of_holder entry holder)
    subst same
    exact absurd held free
  respected := kept.respected
  one := kept.one
  ready := kept.ready
  bound _ := bound

section Inside

variable {client : Client} {lock : LockFile} {memoryHeld : Prop} {journals : FileDirectory}
  {memory : MemoryFile} {created : List String}

omit [DecidableEq Client] in
theorem At.isInside {site : Site Client} (entry : lock ≠ .workContext)
    (known : At client lock memoryHeld journals memory created site) : site.Inside client :=
  inside_of_holder entry known.inside

theorem stable_at (entry : lock ≠ .workContext) : Stable (siteWorld Client rt true) client
    (At client lock memoryHeld journals memory created) := by
  intro site later moved _ known
  obtain ⟨sameJournals, sameMemory, sameCreated⟩ := moved.files (known.isInside entry)
  exact ⟨(moved.holder lock).mp known.inside, (moved.holder _).symm.trans known.memoryLock,
    sameJournals.trans known.journals, sameMemory.trans known.memory,
    sameCreated.trans known.created⟩

theorem under_send {call : RootCall} {returns : RootValue call → Prop} {raises : String → Prop}
    (entry : lock ≠ .workContext)
    (reads : ∀ site after answer, At client lock memoryHeld journals memory created site →
      Serves rt true client site call after answer →
      after = site ∧ (∀ value, answer = .ok value → returns value) ∧
        ∀ error, answer = .error error → raises error) : Under (siteWorld Client rt true) client
      (At client lock memoryHeld journals memory created) call.send returns raises := by
  apply Triple.invoke (stable_at entry)
  · exact fun value => (stable_at entry).and fun _ _ _ _ holds => holds
  · exact fun error => (stable_at entry).and fun _ _ _ _ holds => holds
  · intro site after answer kept known stepped
    obtain ⟨rfl, ran, raised⟩ := reads site after answer known stepped
    exact ⟨kept, fun value same => ⟨known, ran value same⟩,
      fun error same => ⟨known, raised error same⟩⟩

theorem under_activeAmong (entry : lock ≠ .workContext) (names : List String) :
    Under (siteWorld Client rt true) client
      (At client lock memoryHeld journals memory created) (activeAmong rt names)
      (fun found => found = [] → ∀ name ∈ names, ∀ file, journals.lookup name = some file →
        ¬Stopping rt file) fun _ => True := by
  induction names with
  | nil => exact Under.done (stable_at entry) fun _ name inside => absurd inside List.not_mem_nil
  | cons name rest ih =>
      have read : Under (siteWorld Client rt true) client
          (At client lock memoryHeld journals memory created) (RootCall.readJournal name).send
          (fun file => ∀ stored, journals.lookup name = some stored → file = stored)
          fun _ => True := by
        apply under_send entry
        rintro site after answer known ⟨rfl, rfl⟩
        refine ⟨rfl, ?_, fun _ _ => trivial⟩
        rintro file ⟨⟩ stored held
        rw [known.journals, held]
        rfl
      apply Under.bind read
      intro file same
      apply Under.bind (Under.ofExcept (stable_at entry) (fun _ computed => computed)
        fun _ _ => trivial)
      intro found computed
      apply Under.bind ih
      intro others clear
      apply Under.done (stable_at entry)
      intro none_found other inside stored held
      obtain ⟨noEntry, noOthers⟩ := List.append_eq_nil_iff.mp none_found
      rcases List.mem_cons.mp inside with rfl | later
      · cases same stored held
        rw [Option.toList_eq_nil_iff] at noEntry
        rw [noEntry] at computed
        exact (activeEntry_eq_none_iff other).mp computed
      · exact clear noOthers other later stored held

/-- Without a listed run, no file stops a new one. -/
theorem under_listActive (entry : lock ≠ .workContext) : Under (siteWorld Client rt true) client
      (At client lock memoryHeld journals memory created) (listActive rt)
      (fun found => found = [] → Unoccupied rt journals) fun _ => True := by
  have read : Under (siteWorld Client rt true) client
      (At client lock memoryHeld journals memory created) RootCall.glob.send
      (fun names : List String => ∀ name, name ∈ names ↔ (journals.lookup name).isSome)
      fun _ => True := by
    apply under_send entry
    rintro site after answer known ⟨rfl, names, rfl, listed⟩
    refine ⟨rfl, ?_, fun _ _ => trivial⟩
    rintro names ⟨⟩
    rw [← known.journals]
    exact listed
  apply Under.bind read
  intro names listed
  apply (under_activeAmong entry names).mono
  · intro found clear none_found runId file held
    exact clear none_found runId ((listed runId).mpr (by rw [held]; rfl)) file held
  · exact fun _ holds => holds

/-! ## Writing -/

theorem eq_ok_of_saveNewRun {after : FileDirectory} {request : RunRequest} {policyHash : String}
    {run : Journal} (stored : journals.save rt (request.journal policyHash) none request.savedAt =
      .ok (after, run)) : ∃ revision, run = request.stored policyHash revision ∧
      after = journals.write run.runId (.document run.toJson) := by
  simp only [FileDirectory.save, bind_ok_iff, require_eq_ok_iff, exists_const] at stored
  rcases stored with ⟨_, actual, _, _, written⟩
  cases written
  exact ⟨actual + 1, rfl, rfl⟩

/-- `new_run` raises and leaves the files, or stores its run over a directory without a live
one. -/
theorem triple_createRun (entry : lock ≠ .workContext) (request : RunRequest) :
    Triple (siteWorld Client rt true) client
      (At client lock memoryHeld journals memory created) (createRun rt request)
      (fun site run => At client lock memoryHeld
          (journals.write run.runId (.document run.toJson)) memory (created ++ [run.runId]) site ∧
        Unoccupied rt journals ∧ Accepting rt memory ∧
        ∃ policyHash revision, run = request.stored policyHash revision)
      (fun site _ => At client lock memoryHeld journals memory created site) := by
  apply Triple.bind (Triple.raising (under_listActive entry) fun _ _ _ known => known.1)
  intro active
  apply Triple.assume
  intro clear
  apply Triple.check (stable_at entry) fun _ _ _ known => known
  intro inactive
  have unoccupied := clear inactive
  cases loaded : request.effectivePolicy with
  | none => exact Triple.fail (stable_at entry) fun _ _ known => known
  | some policy =>
      apply Triple.invoke (stable_at entry)
      · exact fun run => (stable_at entry).and fun _ _ _ _ holds => holds
      · exact fun _ => stable_at entry
      · intro site after answer kept known stepped
        simp only [siteWorld, Serves] at stepped
        split at stepped
        · obtain ⟨rfl, rfl⟩ := stepped
          exact ⟨kept, (fun _ same => nomatch same), fun _ _ => known⟩
        · rename_i after run stored
          obtain ⟨rfl, rfl⟩ := stepped
          rw [known.journals] at stored
          obtain ⟨revision, rfl, rfl⟩ := eq_ok_of_saveNewRun stored
          have occupied := not_unoccupied_write rt journals request
            policy.policyHash revision (request.stored policy.policyHash revision).runId
          refine ⟨kept.wrote (known.isInside entry) (oneLive_write unoccupied _ _)
            (absurd · occupied), ?_, fun _ same => nomatch same⟩
          rintro _ ⟨⟩
          refine ⟨⟨known.inside, known.memoryLock, rfl, known.memory, ?_⟩, unoccupied, ?_, _, _,
            rfl⟩
          · rw [← known.created]
            rfl
          · rw [← known.memory]
            exact kept.ready (by rwa [known.journals])

theorem triple_acquireMemory (entry : lock ≠ .workContext) :
    Triple (siteWorld Client rt true) client (At client lock False journals memory created)
      (RootCall.acquire .workContext).send
      (fun site _ => At client lock True journals memory created site) fun _ _ => False := by
  apply Triple.invoke (stable_at entry)
  · exact fun _ => stable_at entry
  · exact fun _ _ _ _ _ none_raised => none_raised
  · intro site after answer kept known stepped
    rcases stepped with ⟨_, _, rfl, rfl⟩ | ⟨taken, _, _⟩
    · refine ⟨kept.memoryHolder ?_, ?_, fun _ same => nomatch same⟩
      · rintro _ ⟨⟩
        exact known.isInside entry
      · rintro _ _
        refine ⟨?_, by simp [Site.held], known.journals, known.memory, known.created⟩
        simpa [Site.held, Function.update_of_ne entry] using known.inside
    · obtain ⟨owner, holder⟩ := Option.isSome_iff_exists.mp taken
      have same := kept.alone (kept.memoryLock owner holder) (known.isInside entry)
      subst same
      exact (known.memoryLock.mp holder).elim

theorem triple_releaseMemory (entry : lock ≠ .workContext) :
    Triple (siteWorld Client rt true) client (At client lock True journals memory created)
      (RootCall.release .workContext).send
      (fun site _ => At client lock False journals memory created site) fun _ _ => False := by
  apply Triple.invoke (stable_at entry)
  · exact fun _ => stable_at entry
  · exact fun _ _ _ _ _ none_raised => none_raised
  · rintro site after answer kept known ⟨rfl, rfl⟩
    rw [if_pos (known.memoryLock.mpr trivial)]
    refine ⟨kept.memoryHolder (by simp), ?_, fun _ same => nomatch same⟩
    rintro _ _
    refine ⟨?_, by simp [Site.released], known.journals, known.memory, known.created⟩
    simpa [Site.released, Function.update_of_ne entry] using known.inside

theorem triple_replaceMemory (entry : lock ≠ .workContext)
    (occupied : ¬Unoccupied rt journals) (file : MemoryFile) :
    Triple (siteWorld Client rt true) client
      (At client lock memoryHeld journals memory created) (RootCall.replaceMemory file).send
      (fun site _ => At client lock memoryHeld journals file created site) fun _ _ => False := by
  apply Triple.invoke (stable_at entry)
  · exact fun _ => stable_at entry
  · exact fun _ _ _ _ _ none_raised => none_raised
  · rintro site after answer kept known ⟨rfl, rfl⟩
    refine ⟨kept.wrote (known.isInside entry) kept.one fun free => ?_, ?_, fun _ same =>
      nomatch same⟩
    · rw [known.journals] at free
      exact absurd free occupied
    · exact fun _ _ => ⟨known.inside, known.memoryLock, known.journals, rfl, known.created⟩

theorem triple_saveMemory (entry : lock ≠ .workContext) (occupied : ¬Unoccupied rt journals)
    {value : WorkMemory} {savedAt : Int} {saved : MemoryFile × WorkMemory}
    (saving : memory.save rt value savedAt = .ok saved) :
    Triple (siteWorld Client rt true) client (At client lock False journals memory created)
      (saveMemory rt value savedAt)
      (fun site _ => At client lock False journals saved.1 created site) fun _ _ => False := by
  apply Triple.bind (triple_acquireMemory entry)
  intro _
  have body : Triple (siteWorld Client rt true) client
      (At client lock True journals memory created)
      (do
        let file : MemoryFile ← RootCall.readMemory.send
        let saved ← Program.ofExcept (file.save rt value savedAt)
        (RootCall.replaceMemory saved.1).send)
      (fun site _ => At client lock True journals saved.1 created site) fun _ _ => False := by
    have read : Under (siteWorld Client rt true) client
        (At client lock True journals memory created) RootCall.readMemory.send
        (fun file => file = memory) fun _ => False := by
      apply under_send entry
      rintro site after answer known ⟨rfl, rfl⟩
      refine ⟨rfl, ?_, fun _ same => nomatch same⟩
      rintro _ ⟨⟩
      exact known.memory
    apply Triple.bind (Triple.raising read fun _ _ _ raised => raised.2)
    intro file
    apply Triple.assume
    rintro rfl
    apply Triple.ofExcept_bind (stable_at entry)
    · intro error raised
      rw [saving] at raised
      cases raised
    · intro written computed
      rw [saving] at computed
      cases computed
      exact triple_replaceMemory entry occupied _
  apply body.ensuring
  · exact fun _ => triple_releaseMemory entry
  · exact fun _ => ⟨fun _ _ none_raised => none_raised.elim⟩
  · exact fun _ => stable_at entry
  · exact fun _ _ _ _ _ none_raised => none_raised

/-! ## Sections -/

variable (rt client lock) in
/-- An execution in its section, with the work memory of every run that has been created. -/
structure Settled (site : Site Client) : Prop where
  inside : site.holder lock = some client
  free : site.holder .workContext ≠ some client
  bound : MemoryBound rt site.journals site.memory site.created

/-- An execution outside of every section. -/
def Outside (client : Client) (site : Site Client) : Prop :=
  ∀ lock, site.holder lock ≠ some client

theorem stable_settled (entry : lock ≠ .workContext) :
    Stable (siteWorld Client rt true) client (Settled rt client lock) := by
  intro site later moved _ known
  obtain ⟨sameJournals, sameMemory, sameCreated⟩ :=
    moved.files (inside_of_holder entry known.inside)
  refine ⟨(moved.holder lock).mp known.inside, (moved.holder _).not.mp known.free, ?_⟩
  rw [sameJournals, sameMemory, sameCreated]
  exact known.bound

theorem stable_outside : Stable (siteWorld Client rt true) client (Outside client) :=
  fun _ _ moved _ known lock => (moved.holder lock).not.mp (known lock)

omit [DecidableEq Client] in
theorem At.settled {site : Site Client} (known : At client lock False journals memory created site)
    (bound : MemoryBound rt journals memory created) : Settled rt client lock site := by
  refine ⟨known.inside, known.memoryLock.mp, ?_⟩
  rw [known.journals, known.memory, known.created]
  exact bound

theorem exists_save (accepting : Accepting rt memory) (value : WorkMemory) (savedAt : Int) :
    ∃ fields saved, memory.save rt value savedAt = .ok (.document (.obj fields), saved) ∧
      Json.get fields "run_id" = Json.ofText value.runId := by
  obtain ⟨free, current, revision, loaded, read⟩ := accepting
  obtain ⟨fields, encoded, named⟩ := get_runId_toJson (WorkMemory.signed rt
    { value with revision := revision + 1, updatedAt := savedAt })
  exact ⟨fields, _, save_eq_ok_iff.mpr ⟨free, current, revision, loaded, read, by rw [encoded]⟩,
    named⟩

theorem triple_createWithMemory (entry : lock ≠ .workContext)
    (bound : MemoryBound rt journals memory created) (request : RunRequest)
    {build : String → Except String WorkMemory} {savedAt : Int}
    (built : ∀ runId, ∃ value, build runId = .ok value ∧ value.runId = some runId) :
    Triple (siteWorld Client rt true) client (At client lock False journals memory created)
      (createWithMemory rt request build savedAt) (fun site _ => Settled rt client lock site)
      fun site _ => Settled rt client lock site := by
  apply Triple.bind ((triple_createRun entry request).raising fun _ _ _ known =>
    known.settled bound)
  intro run
  apply Triple.assume
  rintro ⟨unoccupied, accepting, policyHash, revision, rfl⟩
  obtain ⟨value, value_eq, ofRun⟩ := built (request.stored policyHash revision).runId
  obtain ⟨fields, saved, saving, named⟩ := exists_save accepting value savedAt
  apply Triple.ofExcept_bind (stable_at entry)
  · intro error raised
    rw [value_eq] at raised
    cases raised
  · intro computedValue computed
    rw [value_eq] at computed
    cases computed
    have occupied := not_unoccupied_write rt journals request
      policyHash revision (request.stored policyHash revision).runId
    apply Triple.bind ((triple_saveMemory entry occupied saving).raising
      fun _ _ _ none_raised => none_raised.elim)
    intro _
    apply Triple.done (stable_at entry)
    intro site _ known
    apply known.settled
    intro runId _ live
    rw [eq_of_liveRun_write unoccupied live]
    exact ⟨fields, rfl, by rw [named, ofRun]; rfl⟩

end Inside

theorem triple_locked {α : Type} {client : Client} {lock : LockFile} (entry : lock ≠ .workContext)
    {body : RootProgram α}
    (bodyTriple : ∀ journals memory created, MemoryBound rt journals memory created →
      Triple (siteWorld Client rt true) client (At client lock False journals memory created)
        body (fun site _ => Settled rt client lock site)
        fun site _ => Settled rt client lock site) :
    Triple (siteWorld Client rt true) client (Outside client) (locked lock body)
      (fun site _ => Outside client site) fun site _ => Outside client site := by
  have acquire : Triple (siteWorld Client rt true) client (Outside client)
      (RootCall.acquire lock).send (fun site _ => Settled rt client lock site)
      fun site _ => Outside client site := by
    apply Triple.invoke stable_outside
    · exact fun _ => stable_settled entry
    · exact fun _ => stable_outside
    · intro site after answer kept outside stepped
      rcases stepped with ⟨_, free, rfl, rfl⟩ | ⟨_, rfl, rfl⟩
      · have idle := free rfl entry
        refine ⟨kept.entered entry idle, fun _ _ => ?_, fun _ same => nomatch same⟩
        refine ⟨Function.update_self .., ?_, kept.bound idle⟩
        simpa [Site.held, Function.update_of_ne entry.symm] using outside .workContext
      · exact ⟨kept, (fun _ same => nomatch same), fun _ _ => outside⟩
  have release : Triple (siteWorld Client rt true) client (Settled rt client lock)
      (RootCall.release lock).send (fun site _ => Outside client site)
      fun site _ => Outside client site := by
    apply Triple.invoke (stable_settled entry)
    · exact fun _ => stable_outside
    · exact fun _ => stable_outside
    · rintro site after answer kept known ⟨rfl, rfl⟩
      rw [if_pos known.inside]
      refine ⟨kept.left entry known.inside known.free known.bound, fun _ _ => ?_,
        fun _ same => nomatch same⟩
      intro other
      by_cases same : other = lock
      · subst same
        simp [Site.released]
      · have apart := kept.apart
        have holder := known.inside
        have free := known.free
        simp only [Site.released, Function.update_of_ne same]
        cases other <;> cases lock <;> simp_all
  have inside : Triple (siteWorld Client rt true) client (Settled rt client lock) body
      (fun site _ => Settled rt client lock site)
      fun site _ => Settled rt client lock site :=
    ⟨fun site kept known => (bodyTriple _ _ _ known.bound).safe site kept
      ⟨known.inside, iff_of_false known.free not_false, rfl, rfl, rfl⟩⟩
  apply Triple.bind acquire
  intro _
  exact inside.ensuring (fun _ => release) (fun _ => release) (fun _ => stable_outside)
    fun _ => stable_outside

/-! ## The entry points -/

theorem triple_bootstrap {client : Client} {facts : Facts}
    (long : ∀ next, selectSuccessor rt facts = .ok (.inr next) →
      5 ≤ (Text.strip (taskOf next.issue)).toList.length) :
    Triple (siteWorld Client rt true) client (Outside client) (bootstrap rt facts)
      (fun site _ => Outside client site) fun site _ => Outside client site := by
  have entry : LockFile.orchNext ≠ .workContext := by simp
  apply triple_locked entry
  intro journals memory created bound
  apply Triple.bind (Triple.raising (under_listActive entry) fun _ _ _ known =>
    known.1.settled bound)
  intro active
  apply Triple.assume
  intro _
  split_ifs
  · apply Triple.ofExcept_bind (stable_at entry) fun _ _ _ _ known => known.settled bound
    intro selected computed
    cases selected with
    | inl response => exact Triple.done (stable_at entry) fun _ _ known => known.settled bound
    | inr next =>
        have built : ∀ runId, ∃ value, successorMemory rt facts next runId = .ok value ∧
            value.runId = some runId := by
          intro runId
          obtain ⟨value, value_eq⟩ :=
            (successorMemory_eq_ok_iff rt facts runId).mpr (long next computed)
          exact ⟨value, value_eq, runId_of_successorMemory value_eq⟩
        apply Triple.bind (triple_createWithMemory entry bound next.request built)
        exact fun _ => Triple.done (stable_settled entry) fun _ _ known => known
  · exact Triple.done (stable_at entry) fun _ _ known => known.settled bound

/-- The task of an intent has been checked when its work memory is built. -/
theorem exists_intentMemory {facts : IntentFacts} {brief : Fields}
    (created : createIntent facts = .ok brief) (runId : String) :
    ∃ value, intentMemory rt facts brief runId = .ok value ∧ value.runId = some runId := by
  simp only [createIntent, bind_ok_iff, require_eq_ok_iff, exists_const] at created
  simp only [intentMemory, newWorkMemory, bind_ok_iff, require_eq_ok_iff, exists_const]
  exact ⟨_, ⟨_, ⟨created.1, rfl⟩, rfl⟩, rfl⟩

theorem triple_startOrQueue {client : Client} (facts : IntentFacts) :
    Triple (siteWorld Client rt true) client (Outside client) (startOrQueue rt facts)
      (fun site _ => Outside client site) fun site _ => Outside client site := by
  have entry : LockFile.ownerIntent ≠ .workContext := by simp
  apply triple_locked entry
  intro journals memory created bound
  apply Triple.bind (Triple.raising (under_listActive entry) fun _ _ _ known =>
    known.1.settled bound)
  intro active
  apply Triple.assume
  intro _
  split_ifs
  · apply Triple.ofExcept_bind (stable_at entry) fun _ _ _ _ known => known.settled bound
    intro brief brief_eq
    apply Triple.ofExcept_bind (stable_at entry) fun _ _ _ _ known => known.settled bound
    intro issue _
    cases issue with
    | none => exact Triple.done (stable_at entry) fun _ _ known => known.settled bound
    | some issueId =>
        apply Triple.bind (triple_createWithMemory entry bound _ (exists_intentMemory brief_eq))
        intro run
        apply Triple.ofExcept_bind (stable_settled entry) fun _ _ _ _ known => known
        exact fun _ _ => Triple.done (stable_settled entry) fun _ _ known => known
  · exact Triple.ofExcept (stable_at entry) (fun _ _ _ _ known => known.settled bound)
      fun _ _ _ _ known => known.settled bound

/-- What every execution keeps to. -/
theorem triple_program {client : Client} {creation : Creation}
    (long : ∀ facts next, creation = .bootstrap facts → selectSuccessor rt facts = .ok (.inr next) →
      5 ≤ (Text.strip (taskOf next.issue)).toList.length) :
    Triple (siteWorld Client rt true) client (Outside client) (creation.program rt)
      (fun site _ => Outside client site) fun site _ => Outside client site := by
  cases creation with
  | bootstrap facts =>
      apply Triple.bind (triple_bootstrap fun next => long facts next rfl)
      exact fun _ => Triple.done stable_outside fun _ _ known => known
  | intent facts =>
      apply Triple.bind (triple_startOrQueue facts)
      exact fun _ => Triple.done stable_outside fun _ _ known => known

omit [DecidableEq Client] in
theorem kept_start {journals : FileDirectory} {memory : MemoryFile} (one : OneLive rt journals)
    (ready : Unoccupied rt journals → Accepting rt memory) :
    Kept rt (Site.start journals memory : Site Client) where
  apart := .inl rfl
  memoryLock _ holder := by simp [Site.start] at holder
  respected := rfl
  one := one
  ready := ready
  bound _ runId inside := absurd inside List.not_mem_nil

/-- Any number of executions before their first call. -/
def startOf (rt : Runtime) (executions : Client → Creation) (journals : FileDirectory)
    (memory : MemoryFile) : System Client (Site Client) RootCall RootAnswer String Unit :=
  ⟨Site.start journals memory, fun client => (executions client).program rt⟩

/-- Run creation is exclusive where no entry point is entered while the other is in its
section, the work memory can be saved where a run may be created, and every selected
successor has a task of five characters. -/
theorem creationLaw_of_apart (rt : Runtime) (executions : Client → Creation)
    (journals : FileDirectory) (memory : MemoryFile) (one : OneLive rt journals)
    (ready : Unoccupied rt journals → Accepting rt memory)
    (long : ∀ client facts next, executions client = .bootstrap facts →
      selectSuccessor rt facts = .ok (.inr next) →
      5 ≤ (Text.strip (taskOf next.issue)).toList.length)
    {system : System Client (Site Client) RootCall RootAnswer String Unit}
    (reached : Reachable (siteWorld Client rt true)
      (startOf rt executions journals memory) system) : CreationLaw rt system.store := by
  have initial : AllSafe (siteWorld Client rt true) (fun client site _ => Outside client site)
      (fun client site _ => Outside client site) (startOf rt executions journals memory) := by
    refine ⟨kept_start one ready, fun client => ?_⟩
    apply (triple_program (long client)).safe _ (kept_start one ready)
    exact fun _ => by simp [Site.start]
  have kept := (safe_of_reachable tolerated_siteWorld initial reached).1
  exact ⟨kept.one, kept.bound⟩

end Law

/-! ## An intent and a bootstrap -/

/-- What a call is answered, if it is not kept waiting. -/
def serve {Client : Type} [DecidableEq Client] (rt : Runtime) (apart : Bool) (client : Client)
    (site : Site Client) : (call : RootCall) → Option (Site Client × RootAnswer call)
  | .acquire lock =>
      if site.holder lock = none then
        if apart = true ∧ lock ≠ .workContext ∧ ¬site.Idle then none
        else some (site.held lock client, .ok ())
      else some (site, .error "TimeoutError:FILE_LOCK_TIMEOUT")
  | .release lock =>
      some (if site.holder lock = some client then site.released lock else site, .ok ())
  | .glob => some (site, .ok (site.journals.map Prod.fst))
  | .readJournal name => some (site, .ok ((site.journals.lookup name).getD .unreadable))
  | .saveJournal value savedAt =>
      match site.journals.save rt value none savedAt with
      | .error error => some (site, .error error)
      | .ok (journals, saved) =>
          some (site.wrote client journals site.memory (site.created ++ [saved.runId]), .ok saved)
  | .readMemory => some (site, .ok site.memory)
  | .replaceMemory file => some (site.wrote client site.journals file site.created, .ok ())

theorem serves_serve {Client : Type} [DecidableEq Client] {rt : Runtime} {apart : Bool}
    {client : Client} {site after : Site Client} {call : RootCall} {answer : RootAnswer call}
    (served : serve rt apart client site call = some (after, answer)) :
    Serves rt apart client site call after answer := by
  cases call with
  | acquire lock =>
      simp only [serve] at served
      split_ifs at served with free waits
      · cases served
        refine .inl ⟨free, fun kept entry => ?_, rfl, rfl⟩
        by_contra busy
        exact waits ⟨kept, entry, busy⟩
      · cases served
        exact .inr ⟨Option.isSome_iff_ne_none.mpr free, rfl, rfl⟩
  | glob =>
      cases served
      refine ⟨rfl, _, rfl, fun name => ?_⟩
      simp [List.lookup_isSome_iff]
  | saveJournal value savedAt =>
      simp only [serve] at served
      simp only [Serves]
      split at served
      · cases served
        simp_all
      · cases served
        simp_all
  | release lock =>
      cases served
      exact ⟨rfl, rfl⟩
  | readJournal name =>
      cases served
      exact ⟨rfl, rfl⟩
  | readMemory =>
      cases served
      exact ⟨rfl, rfl⟩
  | replaceMemory file =>
      cases served
      exact ⟨rfl, rfl⟩

/-- An intent that asks for a report. -/
def reportIntent : IntentFacts where
  task := "Build a report"
  brief := .ok [("brief_id", .str "BRIEF")]
  queued := .ok "QUEUED_NEW_TASK"
  issue := .ok (some "PENDING")
  ownerRequestDigest := ""
  reloadedPolicy := some plainPolicy
  projected := .ok ()
  uuid := "run-0002"
  runCreatedAt := 5
  runSavedAt := 5
  memoryCreatedAt := 5
  memorySavedAt := 5

/-- The intent and the bootstrap of the ready issue. -/
def reportAndIssue : Bool → Creation
  | true => .intent reportIntent
  | false => .bootstrap readyFacts

/-- Both on an empty root, call by call. -/
def playedOn (apart : Bool) (schedule : List Bool) :
    System Bool (Site Bool) RootCall RootAnswer String Unit :=
  schedule.foldl (System.turn (serve plainRuntime apart))
    (startOf plainRuntime reportAndIssue [] .absent)

theorem reachable_playedOn (apart : Bool) (schedule : List Bool) :
    Reachable (siteWorld Bool plainRuntime apart)
      (startOf plainRuntime reportAndIssue [] .absent) (playedOn apart schedule) := by
  apply reachable_turns
  exact fun _ _ _ _ _ served => serves_serve served

theorem oneLive_nil (rt : Runtime) : OneLive rt [] := by
  rintro first second ⟨_, stored, _⟩
  cases stored

theorem accepting_absent (rt : Runtime) : Accepting rt .absent :=
  ⟨by simp, none, -1, rfl, rfl⟩

/-- The task of a selected successor is long enough for a run. -/
def hasLongTask : Except String (Response ⊕ Successor) → Bool
  | .ok (.inr next) => decide (5 ≤ (Text.strip (taskOf next.issue)).toList.length)
  | _ => true

/-- The intent runs to its end, and the bootstrap finds its run. -/
theorem creationLaw_inTurn : CreationLaw plainRuntime
      (playedOn true (List.replicate 9 true ++ List.replicate 4 false)).store := by
  apply creationLaw_of_apart plainRuntime reportAndIssue [] .absent (oneLive_nil _)
    (fun _ => accepting_absent _) _ (reachable_playedOn true _)
  intro client facts next same selected
  have long : hasLongTask (selectSuccessor plainRuntime readyFacts) = true := by
    decide +kernel
  cases client with
  | true => cases same
  | false =>
      cases same
      simpa [selected, hasLongTask] using long

/-- Both look for an active run before either stores its own, and two runs are live. -/
theorem not_always_creationLaw :
    ¬ ∀ (rt : Runtime) (executions : Bool → Creation) (journals : FileDirectory)
      (memory : MemoryFile) (system : System Bool (Site Bool) RootCall RootAnswer String Unit),
      OneLive rt journals → Accepting rt memory →
      Reachable (siteWorld Bool rt false) (startOf rt executions journals memory) system →
      CreationLaw rt system.store := by
  intro law
  have one := (law plainRuntime reportAndIssue [] .absent _ (oneLive_nil _) (accepting_absent _)
    (reachable_playedOn false [true, true, true, false, false, false, false, true])).one
  have report : LiveRun plainRuntime (playedOn false
      [true, true, true, false, false, false, false, true]).store.journals "run-0002" := by
    decide +kernel
  have issue : LiveRun plainRuntime (playedOn false
      [true, true, true, false, false, false, false, true]).store.journals "run-0001" := by
    decide +kernel
  exact absurd (one _ _ report issue) (by decide)

end Adwf.OrchNext
