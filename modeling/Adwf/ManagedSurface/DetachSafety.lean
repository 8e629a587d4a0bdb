import Adwf.ManagedSurface.DetachLaw
import Adwf.ManagedSurface.Consumer

/-!
# Every detach keeps the consumer's files

Call by call, an apply or a recovery knows enough of the quarantine for each of its
calls to keep the law, whatever the consumer does to its files meanwhile.
-/

namespace Adwf.ManagedSurface

open Files Adwf.Program

universe u

variable {digests : Digests}
variable (place : Place)
variable (entry : DetachEntry)

namespace Detach

variable {Client : Type u} {detach : Detach digests} {client : Client}

/-! ## Files that stay -/

variable {tree after : FileTree Place} {store : Watched Client} {call : Call digests}

theorem mem_heldFiles {transaction : String} {rel : Path} {file : Nat × String} :
    file ∈ heldFiles tree transaction rel ↔ tree.node (.target rel) = .file file.1 file.2 ∨
        tree.node (.quarantine transaction rel) = .file file.1 file.2 := by
  simp [heldFiles, List.mem_filterMap, Node.asFile_eq_some_iff]

/-- No file with other bytes than the installed ones leaves its path and the
quarantine. -/
def Kept (detach : Detach digests) (before after : FileTree Place) : Prop :=
  ∀ item ∈ detach.snapshot.entries, ∀ file ∈ heldFiles before detach.transaction item.path,
    digests.content file.2 ≠ item.installedSha →
      file ∈ heldFiles after detach.transaction item.path

theorem lostFiles_eq_nil_iff {before : FileTree Place} :
    lostFiles digests detach.snapshot detach.transaction before after = [] ↔
      detach.Kept before after := by
  unfold lostFiles Kept
  rw [List.flatMap_eq_nil_iff]
  apply forall₂_congr
  intro item _
  rw [List.map_eq_nil_iff, List.filter_eq_nil_iff]
  apply forall₂_congr
  intro file _
  simp

theorem kept_refl (tree : FileTree Place) : detach.Kept tree tree :=
  fun _ _ _ mem _ => mem

theorem kept_of_same {before : FileTree Place}
    (targets : ∀ rel, after.node (.target rel) = before.node (.target rel))
    (quarantine : ∀ rel, after.node (.quarantine detach.transaction rel) =
      before.node (.quarantine detach.transaction rel)) : detach.Kept before after := by
  intro item _ file mem _
  rw [mem_heldFiles] at mem ⊢
  rwa [targets, quarantine]

theorem kept_of_set {place : Place} {node : Node}
    (free : ∀ inode content, tree.node place ≠ .file inode content) :
    detach.Kept tree (tree.set place node) := by
  have elsewhere (other : Place) (file : Nat × String)
      (holds : tree.node other = .file file.1 file.2) :
      (tree.set place node).node other = .file file.1 file.2 := by
    rw [tree.node_set_of_ne node, holds]
    rintro rfl
    exact free _ _ holds
  intro item _ file mem _
  rw [mem_heldFiles] at mem ⊢
  exact mem.imp (elsewhere _ file) (elsewhere _ file)

theorem kept_of_rename {source target : Place} {rel : Path}
    (renamed : tree.rename source target = .ok after) (free : tree.node target = .absent)
    (own : source = .target rel ∧ target = .quarantine detach.transaction rel ∨
      source = .quarantine detach.transaction rel ∧ target = .target rel) :
    detach.Kept tree after := by
  obtain ⟨found, _, _, rfl⟩ := FileTree.rename_eq_ok_iff.mp renamed
  have notLinks : FileTree.areLinks (tree.look source) (tree.node target) = false := by
    rw [free]
    cases tree.look source <;> rfl
  have looked : tree.look source = tree.node source := by
    unfold FileTree.look at found ⊢
    split_ifs at found ⊢ with reaches
    · rfl
    · exact absurd rfl found
  rw [notLinks, looked]
  intro item _ file mem _
  rw [mem_heldFiles] at mem ⊢
  simp only [Bool.false_eq_true, if_false]
  by_cases same : item.path = rel
  · rcases own with ⟨rfl, rfl⟩ | ⟨rfl, rfl⟩
    · rw [same, free] at mem
      rcases mem with holds | ⟨⟨⟩⟩
      exact .inr (by rw [same, FileTree.node_set_self, holds])
    · rw [same, free] at mem
      rcases mem with ⟨⟨⟩⟩ | holds
      exact .inl (by rw [same, FileTree.node_set_self, holds])
  · rcases own with ⟨rfl, rfl⟩ | ⟨rfl, rfl⟩
    · simpa [FileTree.node_set, same] using mem
    · simpa [FileTree.node_set, same] using mem

theorem kept_of_purge {rel : Path} {inode : Nat} {content : String}
    (unlinked : tree.unlink (.quarantine detach.transaction rel) = .ok after)
    (holds : tree.node (.quarantine detach.transaction rel) = .file inode content)
    (installed : ∀ item ∈ detach.snapshot.entries, item.path = rel →
      digests.content content = item.installedSha) : detach.Kept tree after := by
  obtain ⟨_, _, rfl⟩ := FileTree.unlink_eq_ok_iff.mp unlinked
  intro item listed file mem foreign
  rw [mem_heldFiles] at mem ⊢
  by_cases same : item.path = rel
  · rw [same, holds] at mem
    rcases mem with target | ⟨⟨⟩⟩
    · exact .inl (by simpa [same, FileTree.node_set] using target)
    · exact absurd (installed item listed same) foreign
  · simpa [FileTree.node_set, same] using mem

theorem kept_of_rewrite {inode : Nat} {content : String}
    (unnamed : ∀ item ∈ detach.snapshot.entries, ∀ file ∈ heldFiles tree detach.transaction item.path,
      file.1 ≠ inode) : detach.Kept tree (tree.rewrite inode content) := by
  intro item listed file mem _
  have other := unnamed item listed file mem
  rw [mem_heldFiles] at mem ⊢
  have keeps (place : Place) (holds : tree.node place = .file file.1 file.2) :
      (tree.rewrite inode content).node place = .file file.1 file.2 := by
    rw [FileTree.node_rewrite, holds, Node.rewrite, if_neg other]
  exact mem.imp (keeps _) (keeps _)

theorem law_after (law : detach.Law store)
    (saved : ∀ journal, call = .saveDetachJournal journal → detach.Recorded journal)
    (kept : (store.after detach.snapshot detach.transaction client call).disturbed = false →
      detach.Kept store.consumer.tree (store.consumer.serve call).1.tree ∨
        ∃ path edit, call = .consumer path edit) :
    detach.Law (store.after detach.snapshot detach.transaction client call) := by
  constructor
  · rw [after_consumer]
    cases call <;> exact law.adoptions
  · rw [after_consumer]
    intro journal found
    cases call with
    | saveDetachJournal own =>
        by_cases same : detach.transaction = own.transactionId
        · simp only [Consumer.serve, same, Function.update_self] at found
          cases found
          exact saved _ rfl
        · simp only [Consumer.serve, Function.update_of_ne same] at found
          exact law.recorded journal found
    | _ => exact law.recorded journal found
  · intro undisturbed
    have before := law.safe (undisturbed_of_after undisturbed)
    rcases kept undisturbed with stays | ⟨path, edit, rfl⟩
    · have none := lostFiles_eq_nil_iff.mpr stays
      cases call with
      | lock transaction => exact before
      | consumer path edit => exact before
      | _ => exact List.append_eq_nil_iff.mpr ⟨before, none⟩
    · exact before

/-- Calls that keep the law whatever the store is: they look, link, remove a directory or
a staging file, save a journal, or move a quarantined file back. -/
def IsGentle (detach : Detach digests) : Call digests → Prop
  | .file (.rename (.quarantine transaction rel) (.target path)) =>
      transaction = detach.transaction ∧ rel = path
  | .file (.unlink (.stage _ _)) => True
  | .file (.rename _ _) | .file (.unlink _) | .file (.create _) | .file (.write _ _)
  | .file (.mkdir _) => False
  | .saveDetachJournal journal => detach.Recorded journal
  | _ => True

theorem kept_of_changed {result : Except OsError (FileTree Place)}
    (kept : ∀ after, result = .ok after → detach.Kept tree after) :
    detach.Kept tree (tree.changed result).1 := by
  rcases tree.changed_cases result with ⟨after, changed, same⟩ | ⟨error, same⟩
  · rw [same]
    exact kept after changed
  · rw [same]
    exact kept_refl tree

theorem kept_of_gentle (gentle : detach.IsGentle call) (undisturbed :
      (store.after detach.snapshot detach.transaction client call).disturbed = false) :
    detach.Kept store.consumer.tree (store.consumer.serve call).1.tree ∨
      ∃ path edit, call = .consumer path edit := by
  cases call with
  | consumer path edit => exact .inr ⟨path, edit, rfl⟩
  | file call =>
      left
      cases call with
      | rename source target =>
          cases source with
          | quarantine transaction rel =>
              cases target with
              | target path =>
                  obtain ⟨rfl, rfl⟩ := gentle
                  have calm := (Bool.or_eq_false_iff.mp undisturbed).2
                  apply kept_of_changed
                  intro after renamed
                  apply kept_of_rename renamed _ (.inr ⟨rfl, rfl⟩)
                  simpa [overwrites, Consumer.serve, FileTree.serve, FileTree.changed, renamed,
                    Except.mapError, Except.isOk, Except.toBool] using calm
              | _ => exact absurd gentle id
          | _ => exact absurd gentle id
      | link source target =>
          apply kept_of_changed
          intro after linked
          obtain ⟨_, _, _, free, rfl⟩ := FileTree.link_eq_ok_iff.mp linked
          exact kept_of_set (by simp [free])
      | unlink place =>
          cases place with
          | stage transaction rel =>
              apply kept_of_changed
              intro after unlinked
              obtain ⟨_, _, rfl⟩ := FileTree.unlink_eq_ok_iff.mp unlinked
              apply kept_of_same
              · exact fun rel => FileTree.node_set_of_ne _ _ Place.target_ne_stage
              · exact fun rel => FileTree.node_set_of_ne _ _ Place.quarantine_ne_stage
          | _ => exact absurd gentle id
      | rmdir place =>
          apply kept_of_changed
          intro after removed
          obtain ⟨found, _, rfl⟩ := FileTree.rmdir_eq_ok_iff.mp removed
          apply kept_of_set
          intro inode content file
          unfold FileTree.look at found
          split_ifs at found
          rw [file] at found
          cases found
      | create place => exact absurd gentle id
      | write inode content => exact absurd gentle id
      | mkdir place => exact absurd gentle id
      | _ => exact kept_refl store.consumer.tree
  | _ => exact .inl (kept_refl store.consumer.tree)

theorem law_of_gentle (law : detach.Law store) (gentle : detach.IsGentle call) :
    detach.Law (store.after detach.snapshot detach.transaction client call) := by
  apply law_after law
  · rintro journal rfl
    exact gentle
  · exact kept_of_gentle gentle

/-! ## Rules -/

/-- The program keeps the law, and returns and raises values with a property. -/
abbrev Upholds {ε α : Type} (detach : Detach digests) (client : Client)
    (program : Program (Call digests) Answer ε α) (returns : α → Prop) (raises : ε → Prop) :
    Prop :=
  Triple (detach.world Client) client (fun _ => True) program (fun _ value => returns value)
    fun _ error => raises error

section Rules

variable {ε α β : Type} {returns : α → Prop} {raises : ε → Prop}

theorem stable_true : Stable (detach.world Client) client fun _ => True :=
  fun _ _ _ _ _ => trivial

theorem upholds_done {value : α} (holds : returns value) :
    detach.Upholds client (.done value : Program (Call digests) Answer ε α) returns raises :=
  Triple.done stable_true fun _ _ _ => holds

theorem upholds_fail {error : ε} (holds : raises error) :
    detach.Upholds client (.fail error : Program (Call digests) Answer ε α) returns raises :=
  Triple.fail stable_true fun _ _ _ => holds

theorem upholds_bind {middle : α → Prop} {after : β → Prop}
    {first : Program (Call digests) Answer ε α} {next : α → Program (Call digests) Answer ε β}
    (firstUpholds : detach.Upholds client first middle raises)
    (nextUpholds : ∀ value, middle value → detach.Upholds client (next value) after raises) :
    detach.Upholds client (first >>= next) after raises := by
  apply Triple.bind firstUpholds
  intro value
  exact ⟨fun store law holds => (nextUpholds value holds).safe store law trivial⟩

theorem upholds_check {condition : Prop} [Decidable condition] {error : ε}
    {next : PUnit → Program (Call digests) Answer ε α} (refused : ¬condition → raises error)
    (passed : condition → detach.Upholds client (next ⟨⟩) returns raises) :
    detach.Upholds client (Program.check condition error >>= next) returns raises :=
  Triple.check stable_true (fun fails _ _ _ => refused fails) passed

theorem upholds_attempt {ε' : Type} {middle : ε → Prop} {raises : ε' → Prop}
    {body : Program (Call digests) Answer ε α} {handler : ε → Program (Call digests) Answer ε' α}
    (bodyUpholds : detach.Upholds client body returns middle)
    (handlerUpholds : ∀ error, middle error → detach.Upholds client (handler error) returns raises) :
    detach.Upholds client (body.attempt handler) returns raises := by
  apply Triple.attempt bodyUpholds
  intro error
  exact ⟨fun store law holds => (handlerUpholds error holds).safe store law trivial⟩

theorem upholds_handle {middle : ε → Prop} {body : Program (Call digests) Answer ε α}
    {handler : ε → Program (Call digests) Answer ε α}
    (bodyUpholds : detach.Upholds client body returns middle)
    (handlerUpholds : ∀ error, middle error → detach.Upholds client (handler error) returns raises) :
    detach.Upholds client (body.handle handler) returns raises := by
  apply Triple.handle bodyUpholds
  intro error
  exact ⟨fun store law holds => (handlerUpholds error holds).safe store law trivial⟩

theorem upholds_mono {finer : α → Prop} {rarer : ε → Prop}
    {program : Program (Call digests) Answer ε α}
    (upholds : detach.Upholds client program finer rarer)
    (ran : ∀ value, finer value → returns value) (raised : ∀ error, rarer error → raises error) :
    detach.Upholds client program returns raises :=
  upholds.strengthen (fun _ value _ holds => ran value holds)
    fun _ error _ holds => raised error holds

theorem upholds_gentle {program : Program (Call digests) Answer ε α}
    (gentle : program.Only detach.IsGentle) :
    detach.Upholds client program (fun _ => True) fun _ => True := by
  apply Triple.only gentle stable_true
  intro call allowed store later answer law _ step
  refine ⟨?_, trivial⟩
  cases step with
  | served _ effect _ => exact effect ▸ law_of_gentle law allowed
  | failed unchanged _ _ => exact unchanged ▸ law
  | landed _ _ effect _ _ => exact effect ▸ law_of_gentle law allowed
  | unsteady _ unchanged => exact unchanged ▸ law

theorem triple_ask {call : Call digests} {before : Watched Client → Prop}
    {returns : Watched Client → Value call → Prop}
    (stable : Stable (detach.world Client) client before)
    (returnsStable : ∀ value, Stable (detach.world Client) client (returns · value))
    (steady : readsSource call = false) (served : ∀ store, detach.Law store → before store →
      (needsLock call = true → store.holder = some client) →
      detach.Law (store.after detach.snapshot detach.transaction client call) ∧
        ∀ value, (store.consumer.serve call).2 = .ok value →
          returns (store.after detach.snapshot detach.transaction client call) value) :
    Triple (detach.world Client) client before (ask call) returns fun _ _ => True := by
  have stepped : ∀ store later answer, detach.Law store → before store →
      Watched.Serves detach.snapshot detach.transaction client store call later answer →
      detach.Law later ∧ ∀ value, answer = .ok value → returns later value := by
    intro store later answer law known step
    cases step with
    | served locked effect same =>
        subst effect same
        exact served store law known locked
    | failed unchanged error same =>
        refine ⟨unchanged ▸ law, ?_⟩
        rintro value rfl
        cases same
    | landed locked _ effect error same =>
        refine ⟨effect ▸ (served store law known locked).1, ?_⟩
        rintro value rfl
        cases same
    | unsteady reads _ =>
        rw [steady] at reads
        cases reads
  apply Triple.ask stable stepped
  intro answer
  cases answer with
  | error error => exact ⟨fun _ _ _ _ _ _ => trivial⟩
  | ok value =>
      constructor
      intro store _ known later moved law
      exact returnsStable value store later moved law (known value rfl)

theorem upholds_ask {call : Call digests} {returns : Value call → Prop}
    (gentle : detach.IsGentle call)
    (answered : ∀ store : Watched Client, detach.Law store → ∀ value,
      (store.consumer.serve call).2 = .ok value → returns value)
    (steady : readsSource call = false) :
    detach.Upholds client (ask call) returns fun _ => True := by
  apply triple_ask stable_true (fun _ _ _ _ _ holds => holds) steady
  intro store law _ _
  exact ⟨law_of_gentle law gentle, answered store law⟩

theorem upholds_computed {α : Type} {result : Except String α} {returns : α → Prop}
    (ok : ∀ value, result = .ok value → returns value) :
    detach.Upholds client (computed result : SurfaceProgram digests α) returns fun _ => True := by
  cases result with
  | ok value => exact upholds_done (ok value rfl)
  | error text => exact upholds_fail trivial

theorem upholds_ensure {condition : Prop} [Decidable condition] {text : String} {α : Type}
    {next : PUnit → SurfaceProgram digests α} {returns : α → Prop}
    (passed : condition → detach.Upholds client (next ⟨⟩) returns fun _ => True) :
    detach.Upholds client (ensure condition text >>= next) returns fun _ => True :=
  upholds_check (fun _ => trivial) passed

theorem upholds_raise {text : String} {α : Type} {returns : α → Prop} :
    detach.Upholds client (raise text : SurfaceProgram digests α) returns fun _ => True :=
  upholds_fail trivial

end Rules

/-! ## Programs that only look -/

/-- Calls that change nothing. -/
def IsLook : Call digests → Prop
  | .file (.rename _ _) | .file (.unlink _) | .file (.create _) | .file (.write _ _)
  | .file (.mkdir _) | .file (.rmdir _) | .file (.link _ _) | .saveDetachJournal _
  | .lock _ | .consumer _ _ => False
  | _ => True

theorem gentle_of_look (looks : IsLook call) : detach.IsGentle call := by
  cases call with
  | file call => cases call <;> trivial
  | saveDetachJournal journal => exact looks.elim
  | _ => trivial

theorem upholds_looks {ε α : Type} {program : Program (Call digests) Answer ε α}
    (looks : program.Only IsLook) : detach.Upholds client program (fun _ => True) fun _ => True :=
  upholds_gentle (looks.mono fun _ => gentle_of_look)

section Looks

theorem looks_ask {call : Call digests} (looks : IsLook call) : (ask call).Only IsLook :=
  ⟨looks, fun answer => Program.Only.ofExcept answer⟩

theorem looks_bind {α β : Type} {first : SurfaceProgram digests α}
    {next : α → SurfaceProgram digests β} (firstLooks : first.Only IsLook)
    (nextLooks : ∀ value, (next value).Only IsLook) : (first >>= next).Only IsLook :=
  firstLooks.bind nextLooks

theorem looks_ensure {condition : Prop} [Decidable condition] {text : String} :
    (ensure condition text : SurfaceProgram digests PUnit).Only IsLook :=
  Program.Only.check

theorem looks_isSymlink : (isSymlink place : SurfaceProgram digests Bool).Only IsLook :=
  looks_ask trivial

theorem looks_isPresent : (isPresent place : SurfaceProgram digests Bool).Only IsLook :=
  looks_ask trivial

theorem looks_isFile : (isFile place : SurfaceProgram digests Bool).Only IsLook :=
  looks_ask trivial

theorem looks_isDirectory : (isDirectory place : SurfaceProgram digests Bool).Only IsLook :=
  looks_ask trivial

theorem looks_readBytes :
    (ask (.file (.readBytes place)) : SurfaceProgram digests String).Only IsLook :=
  looks_ask trivial

theorem looks_digest : (digest place : SurfaceProgram digests String).Only IsLook :=
  looks_bind (looks_readBytes place) fun _ => trivial

theorem looks_targetState (expected : String) :
    (targetState place expected : SurfaceProgram digests (TargetState × Option String)).Only IsLook := by
  apply looks_bind (looks_isSymlink place)
  intro linked
  split_ifs
  · trivial
  apply looks_bind (looks_isPresent place)
  intro present
  split_ifs
  · trivial
  apply looks_bind (looks_isFile place)
  intro regular
  split_ifs
  · trivial
  · exact looks_bind (looks_digest place) fun _ => trivial

theorem looks_fsyncDirectory :
    (fsyncDirectory place : SurfaceProgram digests Unit).Only IsLook := by
  have synced : (ask (.file (.sync place)) : SurfaceProgram digests Unit).Only IsLook :=
    looks_ask trivial
  exact synced.handle fun _ => trivial

theorem looks_assertDetachParents (directories : List Path) :
    (assertDetachParents directories : SurfaceProgram digests Unit).Only IsLook := by
  induction directories with
  | nil => trivial
  | cons directory rest ih =>
      apply looks_bind (looks_isSymlink _)
      intro linked
      apply looks_bind looks_ensure
      intro _
      apply looks_bind (looks_isPresent _)
      intro present
      apply looks_bind looks_ensure
      intro _
      apply looks_bind (looks_isDirectory _)
      intro isDir
      exact looks_bind looks_ensure fun _ => ih

theorem looks_ensureTargetAbsent (text : String) :
    (ensureTargetAbsent entry text : SurfaceProgram digests Unit).Only IsLook :=
  looks_bind (looks_targetState _ _) fun _ => looks_bind looks_ensure fun _ => trivial

theorem looks_ensureQuarantineGone (text : String) :
    (ensureQuarantineGone entry text : SurfaceProgram digests Unit).Only IsLook := by
  unfold ensureQuarantineGone
  split
  · trivial
  · exact looks_bind (looks_isPresent _) fun _ => looks_bind looks_ensure fun _ => trivial

theorem looks_verifyDetachedEntry :
    (verifyDetachedEntry entry : SurfaceProgram digests Unit).Only IsLook := by
  have target : (verifyDetachedTarget entry : SurfaceProgram digests Unit).Only IsLook := by
    unfold verifyDetachedTarget
    split_ifs
    · exact looks_ensureTargetAbsent _ _
    · exact looks_bind (looks_targetState _ _) fun _ => looks_bind looks_ensure fun _ => trivial
    · trivial
  exact looks_bind target fun _ => looks_ensureQuarantineGone _ _

theorem looks_checkDetached :
    (checkDetached entry : SurfaceProgram digests Unit).Only IsLook := by
  have target : (checkDetachedTarget entry : SurfaceProgram digests Unit).Only IsLook := by
    unfold checkDetachedTarget
    split_ifs
    · exact looks_ensureTargetAbsent _ _
    · trivial
  exact looks_bind target fun _ => looks_ensureQuarantineGone _ _

theorem looks_forM {α : Type} {check : α → SurfaceProgram digests PUnit} (items : List α)
    (looks : ∀ item, (check item).Only IsLook) : (items.forM check).Only IsLook := by
  induction items with
  | nil => trivial
  | cons item rest ih => exact looks_bind (looks item) fun _ => ih

theorem looks_verifyDetachCommitted (journal : DetachJournal) :
    (verifyDetachCommitted journal : SurfaceProgram digests Unit).Only IsLook :=
  looks_bind looks_ensure fun _ => looks_forM _ looks_verifyDetachedEntry

end Looks

/-! ## What a plan is checked for -/

variable {α : Type}

/-- What a program of the transaction returns, whatever it raises. -/
abbrev Returns (detach : Detach digests) (client : Client) (program : SurfaceProgram digests α)
    (returns : α → Prop) : Prop :=
  detach.Upholds client program returns fun _ => True

theorem returns_any {program : SurfaceProgram digests α} (looks : program.Only IsLook) :
    detach.Returns client program fun _ => True :=
  upholds_looks looks

theorem returns_inventory :
    detach.Returns client (ask (.sourceInventory detach.source)) fun inventory =>
      inventory = detach.source.inventory := by
  apply upholds_ask (by trivial) _ rfl
  rintro store _ value ⟨⟩
  rfl

theorem returns_adoption (transaction : String) :
    detach.Returns client (ask (.adoption transaction)) fun found =>
      found = detach.adoptions transaction := by
  apply upholds_ask (by trivial) _ rfl
  rintro store law value ⟨⟩
  rw [law.adoptions]

theorem returns_verifySourceRevision (expected : String) :
    detach.Returns client (ask (.verifySourceRevision detach.source expected)) fun _ =>
      detach.source.revision = expected := by
  apply upholds_ask (by trivial) _ rfl
  intro store _ value answered
  by_contra other
  simp [Consumer.serve, other] at answered

theorem returns_validateSnapshot (snapshot : Snapshot) :
    detach.Returns client (validateSnapshot detach.source snapshot) fun _ =>
      validateSnapshotAgainst detach.source.inventory snapshot = .ok () := by
  apply upholds_bind returns_inventory
  rintro inventory rfl
  exact upholds_computed fun _ ok => ok

theorem returns_planDetachItems (items : List SnapshotItem) :
    detach.Returns client (planDetachItems items) fun planned => planned.2 = [] →
      List.Forall₂ (fun item entry => ∃ state, detachItemOf item state = (entry, [])) items
        planned.1 := by
  induction items with
  | nil => exact upholds_done fun _ => .nil
  | cons item rest ih =>
      apply upholds_bind (returns_any (looks_targetState _ _))
      intro state _
      apply upholds_bind ih
      intro later known
      apply upholds_done
      intro none
      obtain ⟨noBlocker, noLater⟩ := List.append_eq_nil_iff.mp none
      exact .cons ⟨state, Prod.ext rfl noBlocker⟩ (known noLater)

theorem returns_assertDetachPlanMatchesCurrent (ready : detach.plan.blockers = []) :
    detach.Returns client
      (assertDetachPlanMatchesCurrent detach.source detach.snapshot detach.plan) fun _ =>
        List.Forall₂ (fun item entry => ∃ state, detachItemOf item state = (entry, []))
          detach.snapshot.entries detach.plan.entries := by
  have planned : detach.Returns client (planDetach detach.source detach.snapshot) fun plan =>
      plan.blockers = [] →
        List.Forall₂ (fun item entry => ∃ state, detachItemOf item state = (entry, []))
          detach.snapshot.entries plan.entries := by
    apply upholds_bind (returns_validateSnapshot detach.snapshot)
    intro _ _
    apply upholds_bind (returns_planDetachItems detach.snapshot.entries)
    intro items known
    apply upholds_bind (upholds_computed fun _ _ => trivial)
    intro _ _
    exact upholds_done known
  apply upholds_bind planned
  intro expected known
  apply upholds_ensure
  rintro rfl
  exact upholds_done (known ready)

theorem returns_loadAdoption (transaction : String) :
    detach.Returns client (loadAdoption transaction) fun adoption =>
      detach.adoptions transaction = some adoption := by
  apply upholds_bind (returns_adoption transaction)
  rintro found rfl
  cases known : detach.adoptions transaction with
  | none => exact upholds_raise
  | some adoption => exact upholds_done rfl

theorem returns_loadPublished (adoption : AdoptionRecord) :
    detach.Returns client (loadPublished adoption) fun snapshot =>
      adoption.snapshot = some snapshot := by
  unfold loadPublished
  cases known : adoption.snapshot with
  | none => exact upholds_raise
  | some snapshot => exact upholds_done rfl

theorem returns_loadTrusted :
    detach.Returns client (loadTrustedAdoptionSnapshot detach.source detach.snapshot) fun found =>
      detach.Trusted found.1 ∧ found.2 = detach.snapshot := by
  apply upholds_bind (returns_validateSnapshot detach.snapshot)
  intro _ validated
  rcases transactionIs : detach.snapshot.transactionId with _ | transaction
  · exact upholds_raise
  rcases planIs : detach.snapshot.planSha with _ | planSha
  · exact upholds_raise
  rcases rootIs : detach.snapshot.consumerRootSha with _ | root
  · exact upholds_raise
  apply upholds_ensure
  rintro rfl
  apply upholds_bind (returns_verifySourceRevision _)
  intro _ revision
  apply upholds_bind (returns_loadAdoption transaction)
  intro adoption adopted
  apply upholds_ensure
  intro committed
  apply upholds_ensure
  intro adoptionRevision
  apply upholds_ensure
  intro adoptionManifest
  apply upholds_ensure
  intro adoptionPlan
  apply upholds_ensure
  intro adoptionRoot
  apply upholds_bind (returns_loadPublished adoption)
  intro stored published
  apply upholds_bind (returns_validateSnapshot stored)
  intro _ _
  apply upholds_ensure
  rintro rfl
  apply upholds_done
  constructor
  · exact
      { adopted := ⟨transaction, transactionIs, adopted⟩
        revision, validated, committed, adoptionRevision, adoptionManifest
        adoptionPlan := by rw [planIs, adoptionPlan]
        root := rootIs
        adoptionRoot, published }
  · rfl

theorem returns_validateDetachInputs :
    detach.Returns client (validateDetachInputs detach.source detach.snapshot detach.plan)
      fun inputs => detach.plan.blockers = [] ∧ detach.Trusted inputs.2.1 ∧
        inputs.2.2 = detach.snapshot := by
  apply upholds_bind (upholds_computed fun _ _ => trivial)
  intro _ _
  apply upholds_ensure
  intro ready
  apply upholds_bind returns_loadTrusted
  intro trusted known
  apply upholds_bind (upholds_computed fun _ _ => trivial)
  intro _ _
  apply upholds_bind returns_inventory
  intro inventory _
  exact upholds_done ⟨ready.2, known⟩

/-! ## The quarantine of the holder of the lock -/

/-- As long as the client holds the lock and the watch is undisturbed, the quarantine of
the path holds such a node. -/
def Quarantined (detach : Detach digests) (client : Client) (rel : Path) (holds : Node → Prop)
    (store : Watched Client) : Prop :=
  store.holder = some client → store.disturbed = false →
    holds (store.consumer.tree.node (.quarantine detach.transaction rel))

/-- The path is one of the snapshot. -/
def Listed (detach : Detach digests) (rel : Path) : Prop :=
  ∃ item ∈ detach.snapshot.entries, item.path = rel

section Quarantine

variable {rel : Path} {holds : Node → Prop}

theorem stable_quarantined (listed : detach.Listed rel) :
    Stable (detach.world Client) client (detach.Quarantined client rel holds) := by
  intro store later moved _ known held undisturbed
  obtain ⟨item, mem, rfl⟩ := listed
  obtain ⟨before, same⟩ := moved.undisturbed held undisturbed
  rw [same item mem]
  exact known (moved.holder held) before

theorem quarantined_after {store : Watched Client} {call : Call digests} (looks : IsLook call)
    (known : detach.Quarantined client rel holds store) : detach.Quarantined client rel holds
      (store.after detach.snapshot detach.transaction client call) := by
  have unlocked : needsLock call = false := by
    cases call with
    | file call => cases call <;> first | rfl | exact looks.elim
    | saveDetachJournal journal => exact looks.elim
    | _ => rfl
  have own : ∀ path edit, call ≠ .consumer path edit := by
    rintro path edit rfl
    exact looks
  have free : ∀ transaction, call ≠ .lock transaction := by
    rintro transaction rfl
    exact looks
  unfold Quarantined
  rw [after_holder free, after_consumer, serve_tree_of_unlocked store.consumer unlocked own]
  exact fun held undisturbed => known held (undisturbed_of_after undisturbed)

/-- Looking elsewhere changes nothing. -/
theorem quarantined_looks {ε α : Type} {program : Program (Call digests) Answer ε α}
    (listed : detach.Listed rel) (looks : program.Only IsLook) :
    Triple (detach.world Client) client (detach.Quarantined client rel holds) program
      (fun store _ => detach.Quarantined client rel holds store) fun _ _ => True := by
  apply (Triple.only looks (stable_quarantined listed) _).raising fun _ _ _ _ => trivial
  intro call allowed store later answer law known step
  cases step with
  | served _ effect _ =>
      subst effect
      exact ⟨law_of_gentle law (gentle_of_look allowed), quarantined_after allowed known⟩
  | failed unchanged _ _ => exact unchanged ▸ ⟨law, known⟩
  | landed _ saves effect _ _ =>
      cases call with
      | saveDetachJournal journal => exact allowed.elim
      | _ => cases saves
  | unsteady _ unchanged => exact unchanged ▸ ⟨law, known⟩

theorem quarantined_look (call : FileCall Place) (result : Node → Except OsError call.Value)
    (listed : detach.Listed rel) (looks : IsLook (.file call : Call digests))
    (reads : ∀ tree : FileTree Place,
      tree.serve call = (tree, result (tree.node (.quarantine detach.transaction rel)))) :
    Triple (detach.world Client) client (detach.Quarantined client rel holds)
      (ask (.file call) : SurfaceProgram digests call.Value)
      (fun store value => detach.Quarantined client rel
        (fun node => holds node ∧ result node = .ok value) store) fun _ _ => True := by
  apply triple_ask (stable_quarantined listed) (fun _ => stable_quarantined listed) rfl
  intro store law known _
  refine ⟨law_of_gentle law (gentle_of_look looks), fun value answered => ?_⟩
  have told : result (store.consumer.tree.node (.quarantine detach.transaction rel)) =
      .ok value := by
    simp only [Consumer.serve, reads] at answered
    cases found : result (store.consumer.tree.node (.quarantine detach.transaction rel)) with
    | error error => simp [found, Except.mapError] at answered
    | ok other =>
        simp only [found, Except.mapError] at answered
        cases answered
        rfl
  have both : detach.Quarantined client rel
      (fun node => holds node ∧ result node = .ok value) store :=
    fun held undisturbed => ⟨known held undisturbed, told⟩
  exact quarantined_after looks both

theorem quarantined_isSymlink (listed : detach.Listed rel) :
    Triple (detach.world Client) client (detach.Quarantined client rel holds)
      (isSymlink (.quarantine detach.transaction rel) : SurfaceProgram digests Bool)
      (fun store value => detach.Quarantined client rel
        (fun node => holds node ∧ node.isSymlink = value) store) fun _ _ => True := by
  apply Triple.strengthen (quarantined_look (.isSymlink _) (fun node => .ok node.isSymlink) listed
    trivial fun tree => by simp only [FileTree.serve, look_quarantine])
  · intro store value _ known held undisturbed
    exact (known held undisturbed).imp_right Except.ok.inj
  · exact fun _ _ _ _ => trivial

theorem quarantined_isPresent (listed : detach.Listed rel) :
    Triple (detach.world Client) client (detach.Quarantined client rel holds)
      (isPresent (.quarantine detach.transaction rel) : SurfaceProgram digests Bool)
      (fun store value => detach.Quarantined client rel
        (fun node => holds node ∧ node.isPresent = value) store) fun _ _ => True := by
  apply Triple.strengthen (quarantined_look (.isPresent _) (fun node => .ok node.isPresent) listed
    trivial fun tree => by simp only [FileTree.serve, look_quarantine])
  · intro store value _ known held undisturbed
    exact (known held undisturbed).imp_right Except.ok.inj
  · exact fun _ _ _ _ => trivial

theorem quarantined_isFile (listed : detach.Listed rel) :
    Triple (detach.world Client) client (detach.Quarantined client rel holds)
      (isFile (.quarantine detach.transaction rel) : SurfaceProgram digests Bool)
      (fun store value => detach.Quarantined client rel
        (fun node => holds node ∧ node.isFile = value) store) fun _ _ => True := by
  apply Triple.strengthen (quarantined_look (.isFile _) (fun node => .ok node.isFile) listed
    trivial fun tree => by simp only [FileTree.serve, look_quarantine])
  · intro store value _ known held undisturbed
    exact (known held undisturbed).imp_right Except.ok.inj
  · exact fun _ _ _ _ => trivial

/-- The digest of a node that is a regular file. -/
def HasDigest (digests : Digests) (found : String) (node : Node) : Prop :=
  ∀ inode content, node = .file inode content → digests.content content = found

theorem quarantined_digest (listed : detach.Listed rel) :
    Triple (detach.world Client) client (detach.Quarantined client rel holds)
      (digest (.quarantine detach.transaction rel) : SurfaceProgram digests String)
      (fun store value => detach.Quarantined client rel
        (fun node => holds node ∧ HasDigest digests value node) store) fun _ _ => True := by
  have bytes : Triple (detach.world Client) client (detach.Quarantined client rel holds)
      (ask (.file (.readBytes (.quarantine detach.transaction rel))) : SurfaceProgram digests String)
      (fun store value => detach.Quarantined client rel
        (fun node => holds node ∧ ∀ inode content, node = .file inode content → content = value)
        store) fun _ _ => True := by
    apply Triple.strengthen (quarantined_look (.readBytes _) Node.bytes listed trivial
      fun tree => by simp only [FileTree.serve, FileTree.read, look_quarantine])
    · intro store value _ known held undisturbed
      obtain ⟨holding, told⟩ := known held undisturbed
      refine ⟨holding, ?_⟩
      rintro inode content same
      rw [same] at told
      exact Except.ok.inj told
    · exact fun _ _ _ _ => trivial
  apply Triple.bind bytes
  intro value
  apply Triple.done (stable_quarantined listed)
  intro store _ known held undisturbed
  obtain ⟨holding, told⟩ := known held undisturbed
  exact ⟨holding, fun inode content same => congrArg digests.content (told inode content same)⟩

theorem quarantined_change {call : FileCall Place} (listed : detach.Listed rel)
    (locks : needsLock (.file call : Call digests) = true)
    (kept : ∀ store : Watched Client, holds (store.consumer.tree.node
        (.quarantine detach.transaction rel)) →
      detach.Kept store.consumer.tree (store.consumer.tree.serve call).1) :
    Triple (detach.world Client) client (detach.Quarantined client rel holds)
      (ask (.file call) : SurfaceProgram digests call.Value) (fun _ _ => True) fun _ _ => True := by
  apply triple_ask (stable_quarantined listed) (fun _ => stable_true) rfl
  intro store law known locked
  refine ⟨?_, fun _ _ => trivial⟩
  apply law_after law
  · rintro journal ⟨⟩
  · intro undisturbed
    exact .inl (kept store (known (locked locks) (undisturbed_of_after undisturbed)))

theorem returns_moveAside (listed : detach.Listed rel) :
    Triple (detach.world Client) client (detach.Quarantined client rel (· = .absent))
      (ask (.file (.rename (.target rel) (.quarantine detach.transaction rel))) :
        SurfaceProgram digests Unit) (fun _ _ => True) fun _ _ => True := by
  apply quarantined_change listed rfl
  intro store free
  apply kept_of_changed
  exact fun after renamed => kept_of_rename renamed free (.inl ⟨rfl, rfl⟩)

/-- The quarantined file is the installed one. -/
def Installed (detach : Detach digests) (rel : Path) (node : Node) : Prop :=
  ∃ inode content, node = .file inode content ∧
    ∀ item ∈ detach.snapshot.entries, item.path = rel → digests.content content = item.installedSha

theorem returns_purge (listed : detach.Listed rel) :
    Triple (detach.world Client) client (detach.Quarantined client rel (detach.Installed rel))
      (unlink (.quarantine detach.transaction rel) : SurfaceProgram digests Unit)
      (fun _ _ => True) fun _ _ => True := by
  apply quarantined_change listed rfl
  rintro store ⟨inode, content, same, installed⟩
  apply kept_of_changed
  exact fun after unlinked => kept_of_purge unlinked same installed

end Quarantine

/-- As long as the client holds the lock, nothing but a staging file has the inode. -/
def Fresh (client : Client) (inode : Nat) (store : Watched Client) : Prop :=
  store.holder = some client → 0 < inode ∧ inode < store.consumer.tree.freshInode ∧
    ∀ place, (∀ transaction rel, place ≠ .stage transaction rel) →
      (store.consumer.tree.node place).inode ≠ inode

theorem stable_fresh (inode : Nat) : Stable (detach.world Client) client (Fresh client inode) := by
  intro store later moved _ known held
  obtain ⟨positive, old, unnamed⟩ := known (moved.holder held)
  refine ⟨positive, Nat.lt_of_lt_of_le old (moved.inodes held), fun place notStage named => ?_⟩
  rcases moved.names held place (named ▸ old) with same | none
  · exact unnamed place notStage (same ▸ named)
  · omega

theorem returns_create (transaction : String) (rel : Path) :
    Triple (detach.world Client) client (fun _ => True)
      (ask (.file (.create (.stage transaction rel))) : SurfaceProgram digests Nat)
      (fun store inode => Fresh client inode store) fun _ _ => True := by
  apply triple_ask stable_true _ rfl _
  · exact stable_fresh
  intro store law _ _
  cases created : store.consumer.tree.attach (.stage transaction rel)
      (.file store.consumer.tree.freshInode "") with
  | error error =>
      have unchanged : (store.consumer.serve
          (.file (.create (.stage transaction rel)) : Call digests)).1.tree =
          store.consumer.tree := by
        simp only [Consumer.serve, FileTree.serve, created]
      constructor
      · apply law_after law
        · rintro journal ⟨⟩
        · exact fun _ => .inl (unchanged ▸ kept_refl _)
      · intro inode answered
        simp only [Consumer.serve, FileTree.serve, created] at answered
        cases answered
  | ok after =>
      obtain ⟨_, _, rfl⟩ := FileTree.attach_eq_ok_iff.mp created
      have changed : (store.consumer.serve
          (.file (.create (.stage transaction rel)) : Call digests)).1.tree =
          store.consumer.tree.set (.stage transaction rel)
            (.file store.consumer.tree.freshInode "") := by
        simp only [Consumer.serve, FileTree.serve, created]
      constructor
      · apply law_after law
        · rintro journal ⟨⟩
        · intro _
          left
          rw [changed]
          apply kept_of_same
          · exact fun _ => FileTree.node_set_of_ne _ _ Place.target_ne_stage
          · exact fun _ => FileTree.node_set_of_ne _ _ Place.quarantine_ne_stage
      · intro inode answered _
        simp only [Consumer.serve, FileTree.serve, created] at answered
        cases answered
        rw [after_consumer, changed]
        refine ⟨Nat.succ_pos _, ?_, fun place notStage => ?_⟩
        · have named := FileTree.inode_lt_freshInode (store.consumer.tree.set
            (.stage transaction rel) (.file store.consumer.tree.freshInode ""))
            (.stage transaction rel)
          rwa [FileTree.node_set_self] at named
        · rw [FileTree.node_set_of_ne _ _ (notStage transaction rel)]
          exact Nat.ne_of_lt (FileTree.inode_lt_freshInode _ place)

theorem returns_write (inode : Nat) (content : String) :
    Triple (detach.world Client) client (Fresh client inode)
      (ask (.file (.write inode content)) : SurfaceProgram digests Unit) (fun _ _ => True)
      fun _ _ => True := by
  apply triple_ask (stable_fresh inode) (fun _ => stable_true) rfl
  intro store law known locked
  refine ⟨?_, fun _ _ => trivial⟩
  obtain ⟨_, _, unnamed⟩ := known (locked rfl)
  apply law_after law
  · rintro journal ⟨⟩
  · intro _
    left
    apply kept_of_rewrite
    intro item _ file mem
    rcases mem_heldFiles.mp mem with target | quarantined
    · have other := unnamed (.target item.path) nofun
      rwa [target] at other
    · have other := unnamed (.quarantine detach.transaction item.path) nofun
      rwa [quarantined] at other

end Detach

end Adwf.ManagedSurface
