import Adwf.ManagedSurface.DetachRuns

/-!
# When a blocked detach is recovered

A recovery that has been blocked is tried again when nothing is in its way any more.
-/

namespace Adwf.ManagedSurface

open Files Adwf.Program

universe u

variable {digests : Digests}

namespace Detach

variable {detach : Detach digests} {adoption : AdoptionRecord} {journal : DetachJournal}
variable {consumer : Consumer}

/-! ## The provenance of a recorded journal -/

theorem forM_eq_ok_of_forall {α : Type} {check : α → Except String PUnit} {items : List α}
    (passes : ∀ item ∈ items, check item = .ok ⟨⟩) : items.forM check = .ok ⟨⟩ := by
  induction items with
  | nil => rfl
  | cons first rest ih =>
      have later := ih fun item mem => passes item (List.mem_cons_of_mem _ mem)
      change (check first >>= fun _ => rest.forM check) = .ok ⟨⟩
      rw [passes first List.mem_cons_self]
      exact later

theorem action_allowed {item : SnapshotItem} {state : TargetState} {action : DetachAction}
    (made : detachActionOf item state = (action, [])) : action ∈ allowedActions item := by
  unfold detachActionOf at made
  unfold allowedActions
  split_ifs at made ⊢ with unmanaged shared other
  · cases made
    exact List.mem_singleton_self _
  · cases made
    rw [shared]
    exact List.mem_singleton_self _
  · cases made
    cases owner : item.ownership with
    | frameworkPrivate => exact absurd owner other
    | sharedGuarded => exact absurd owner shared
    | consumerOwned => exact List.mem_singleton_self _
  · have owner : item.ownership = .frameworkPrivate := by simpa using other
    rw [owner]
    cases state with
    | absent => cases made; simp
    | exact => cases made; simp
    | _ => cases made

theorem paths_of_planned {items : List SnapshotItem} {entries : List DetachItem}
    (planned : List.Forall₂ (fun item entry => ∃ state, detachItemOf item state = (entry, []))
      items entries) : entries.map DetachItem.path = items.map SnapshotItem.path := by
  induction planned with
  | nil => rfl
  | @cons item entry _ _ first _ ih =>
      obtain ⟨state, made⟩ := first
      obtain rfl : entry = (detachItemOf item state).1 := by rw [made]
      exact congrArg (item.path :: ·) ih

theorem JournalOf.paths (authority : detach.Authority adoption)
    (known : detach.JournalOf adoption journal) :
    journal.entries.map DetachEntry.path = detach.snapshot.entries.map SnapshotItem.path := by
  have mapped := congrArg (List.map DetachEntry.path) known.entries
  rw [List.map_map, List.map_map] at mapped
  exact Eq.trans mapped (paths_of_planned authority.planned)

theorem entryProvenance_of_recorded (authority : detach.Authority adoption)
    (known : detach.JournalOf adoption journal) {item : SnapshotItem}
    (listed : item ∈ detach.snapshot.entries) :
    validateEntryProvenance journal.transactionId journal.entries item = .ok () := by
  have named : item.path ∈ journal.entries.map DetachEntry.path :=
    known.paths authority ▸ List.mem_map_of_mem listed
  unfold validateEntryProvenance
  cases found : journal.entries.find? (·.path = item.path) with
  | none =>
      obtain ⟨entry, mem, same⟩ := List.mem_map.mp named
      have missing := List.find?_eq_none.mp found entry mem
      simp [same] at missing
  | some entry =>
      have mem := List.mem_of_find?_eq_some found
      have samePath : entry.path = item.path := by simpa using List.find?_some found
      obtain ⟨other, otherListed, planned, state, made, origin⟩ :=
        known.item_of_entry authority mem
      obtain rfl : planned = (detachItemOf other state).1 := by rw [made]
      have otherPath : entry.path = other.path := congrArg DetachEntry.path origin
      obtain rfl := List.inj_on_of_nodup_map authority.nodup otherListed listed
        (otherPath.symm.trans samePath)
      obtain ⟨_, _, plainPreserved⟩ := item_of_validated authority.validated listed
      apply require_bind_eq_ok_iff.mpr
      refine ⟨⟨congrArg DetachEntry.installedSha origin, ?_,
        congrArg DetachEntry.ownership origin, congrArg DetachEntry.managed origin⟩, ?_⟩
      · have preserved : entry.preservedSha = if other.managed then none else other.preservedSha :=
          congrArg DetachEntry.preservedSha origin
        rw [preserved]
        split_ifs with managed
        · exact (plainPreserved managed).symm
        · rfl
      apply require_bind_eq_ok_iff.mpr
      constructor
      · have action : entry.plannedAction = (detachActionOf other state.1).1 :=
          congrArg DetachEntry.plannedAction origin
        rw [action]
        have unblocked : (detachActionOf other state.1).2 = [] := congrArg Prod.snd made
        exact action_allowed (Prod.ext rfl unblocked)
      · apply require_eq_ok_iff.mpr
        rw [known.transactionId, ← samePath]
        exact known.quarantine entry mem

theorem provenance_of_recorded (authority : detach.Authority adoption)
    (known : detach.JournalOf adoption journal) :
    validateJournalProvenance digests journal adoption detach.snapshot = .ok () := by
  obtain ⟨transaction, transactionIs, _⟩ := authority.adopted
  have adoptionId : journal.adoptionTransactionId = detach.snapshot.transactionId.getD "" :=
    congrArg DetachIdentity.adoptionTransactionId known.identity
  have root : journal.consumerRootSha = digests.root :=
    congrArg DetachIdentity.consumerRootSha known.identity
  have snapshot : journal.snapshotSha = digests.snapshot detach.snapshot :=
    congrArg DetachIdentity.snapshotSha known.identity
  have paths := known.paths authority
  apply require_bind_eq_ok_iff.mpr
  refine ⟨by rw [adoptionId, transactionIs]; rfl, ?_⟩
  apply require_bind_eq_ok_iff.mpr
  refine ⟨authority.adoptionPlan, ?_⟩
  apply require_bind_eq_ok_iff.mpr
  refine ⟨by rw [authority.root, root], ?_⟩
  apply require_bind_eq_ok_iff.mpr
  refine ⟨snapshot.symm, ?_⟩
  apply require_bind_eq_ok_iff.mpr
  refine ⟨⟨fun rel mem => paths ▸ mem, fun rel mem => paths ▸ mem⟩, ?_⟩
  have entries : detach.snapshot.entries.forM
      (validateEntryProvenance journal.transactionId journal.entries) = .ok ⟨⟩ :=
    forM_eq_ok_of_forall fun _ listed => entryProvenance_of_recorded authority known listed
  rw [entries]
  apply require_bind_eq_ok_iff.mpr
  refine ⟨known.provenance, ?_⟩
  exact require_eq_ok_iff.mpr known.removed

theorem runs_loadAdoption {transaction : String}
    (adopted : consumer.adoptions transaction = some adoption) :
    Runs (loadAdoption transaction : SurfaceProgram digests AdoptionRecord) consumer consumer
      adoption := by
  have found : Runs (ask (.adoption transaction) :
      SurfaceProgram digests (Option AdoptionRecord)) consumer consumer (some adoption) :=
    runs_ask (by rw [Consumer.serve, adopted])
  exact runs_bind found runs_done

theorem runs_validateProvenance (adoptions : consumer.adoptions = detach.adoptions)
    (authority : detach.Authority adoption) (known : detach.JournalOf adoption journal) :
    Runs (validateDetachRecoveryProvenance detach.source journal) consumer consumer () := by
  obtain ⟨transaction, transactionIs, adopted⟩ := authority.adopted
  have adoptionId : journal.adoptionTransactionId = transaction := by
    have own := congrArg DetachIdentity.adoptionTransactionId known.identity
    exact Eq.trans own (by simp [identity, detachIdentity, transactionIs])
  have identityIs : journal.transactionId = digests.detach journal.identity := by
    rw [known.identity]
    exact known.transactionId
  apply runs_ensure identityIs
  apply runs_bind (runs_loadAdoption (by rw [adoptions, adoptionId, adopted]))
  apply runs_ensure authority.committed
  apply runs_ensure (authority.adoptionRevision.trans
    (congrArg DetachIdentity.sourceRevision known.identity).symm)
  apply runs_ensure (authority.adoptionManifest.trans
    (congrArg DetachIdentity.sourceManifestSha known.identity).symm)
  apply runs_ensure (authority.adoptionRoot.trans
    (congrArg DetachIdentity.consumerRootSha known.identity).symm)
  have published : Runs (loadPublished adoption : SurfaceProgram digests Snapshot) consumer
      consumer detach.snapshot := by
    unfold loadPublished
    rw [authority.published]
    exact runs_done
  apply runs_bind published
  have validated : Runs (validateSnapshot detach.source detach.snapshot) consumer consumer () :=
    runs_bind (runs_ask rfl) (runs_computed authority.validated)
  apply runs_bind validated
  exact runs_computed (provenance_of_recorded authority known)

/-! ## One entry -/

variable {entry : DetachEntry} {transaction : String}

variable (digests) in
/-- Nothing is in the way of an entry: its parents are directories, and its path has no
other bytes than the installed ones. -/
def Unobstructed (tree : FileTree Place) (entry : DetachEntry) : Prop :=
  ParentsReady tree entry.path ∧ (tree.node (.target entry.path) = .absent ∨
    Exact digests entry.installedSha (tree.node (.target entry.path)))

variable (digests) in
/-- The file of an entry is at its path or in the quarantine, and the quarantine has
nothing else. -/
def Recoverable (tree : FileTree Place) (entry : DetachEntry) : Prop :=
  (∀ place ∈ entry.quarantinePath,
    tree.node place = .absent ∨ Exact digests entry.installedSha (tree.node place)) ∧
    (Exact digests entry.installedSha (tree.node (.target entry.path)) ∨
      ∃ place ∈ entry.quarantinePath, Exact digests entry.installedSha (tree.node place))

theorem not_exact_absent {expected : String} : ¬Exact digests expected .absent := by
  rintro ⟨_, _, ⟨⟩, _⟩

theorem recoverMissing_runs (source : Source digests)
    (settled : entry.state = .restored ∨ entry.state = .recoveryBlocked)
    (clear : Unobstructed digests consumer.tree entry) :
    ∃ recovered, Runs (recoverMissing source transaction entry) consumer consumer recovered ∧
      (recovered.blockers = [] ↔
        Exact digests entry.installedSha (consumer.tree.node (.target entry.path))) := by
  obtain ⟨ready, absent | found⟩ := clear
  · refine ⟨entry.blocked ("DETACH_RECOVERY_TARGET_DRIFT:" ++ entry.path.text), ?_, ?_⟩
    · apply runs_bind (runs_targetState_absent (by rw [ready.look, absent]))
      rcases settled with state | state
      all_goals
        simp only [state, DetachState.isMissing, reduceCtorEq, if_false, Bool.false_eq_true,
          and_false]
        exact runs_done
    · rw [absent]
      exact ⟨nofun, fun exact_ => absurd exact_ not_exact_absent⟩
  · obtain ⟨inode, content, file, same⟩ := found
    refine ⟨{ entry := entry.restored }, ?_, fun _ => ⟨inode, content, file, same⟩, fun _ => rfl⟩
    apply runs_bind (runs_targetState_exact (by rw [ready.look, file]) same)
    rfl

/-- What the recovery of an entry alone comes to. -/
structure EntryRun (digests : Digests) (transaction : String) (entry : DetachEntry)
    (before after : FileTree Place) (blockers : List String) : Prop where
  unblocked : blockers = [] ↔ Recoverable digests before entry
  restored : Recoverable digests before entry →
    Exact digests entry.installedSha (after.node (.target entry.path))
  elsewhere : ∀ place, place ≠ .target entry.path → place ≠ .quarantine transaction entry.path →
    after.node place = before.node place

theorem entryRun_of_unchanged {tree : FileTree Place} {blockers : List String}
    (unblocked : blockers = [] ↔ Recoverable digests tree entry)
    (exact_ : Recoverable digests tree entry →
      Exact digests entry.installedSha (tree.node (.target entry.path))) :
    EntryRun digests transaction entry tree tree blockers :=
  ⟨unblocked, exact_, fun _ _ _ => rfl⟩

theorem not_recoverable_of_foreign {tree : FileTree Place} {quarantine : Place}
    (place : entry.quarantinePath = some quarantine) (present : tree.node quarantine ≠ .absent)
    (foreign : ¬Exact digests entry.installedSha (tree.node quarantine)) :
    ¬Recoverable digests tree entry := by
  rintro ⟨own, _⟩
  rcases own quarantine (by rw [place]; rfl) with absent | exact_
  · exact present absent
  · exact foreign exact_

variable {inode : Nat} {content : String}

theorem moveBack_runs {found : String} (ready : ParentsReady consumer.tree entry.path)
    (free : consumer.tree.node (.target entry.path) = .absent)
    (file : consumer.tree.node (.quarantine transaction entry.path) = .file inode content) :
    Runs (moveBack entry (.quarantine transaction entry.path) found : SurfaceProgram digests _)
      consumer { consumer with
        tree := (consumer.tree.set (.quarantine transaction entry.path) .absent).set
          (.target entry.path) (.file inode content) }
      (entry.movedBack found) := by
  have renamed : consumer.tree.rename (.quarantine transaction entry.path) (.target entry.path) =
      .ok ((consumer.tree.set (.quarantine transaction entry.path) .absent).set
        (.target entry.path) (.file inode content)) := by
    apply FileTree.rename_eq_ok_iff.mpr
    rw [look_quarantine, file, free]
    exact ⟨nofun, nofun, ready.reaches, rfl⟩
  apply runs_handle
  apply runs_bind (runs_assertDetachParentChain ready)
  apply runs_bind (runs_rename renamed)
  apply runs_bind (runs_fsyncDirectory _)
  exact runs_bind (runs_fsyncDirectory _) runs_done

theorem dropQuarantined_runs
    (file : consumer.tree.node (.quarantine transaction entry.path) = .file inode content) :
    Runs (dropQuarantined entry (.quarantine transaction entry.path) entry.installedSha :
        SurfaceProgram digests _) consumer
      { consumer with tree := consumer.tree.set (.quarantine transaction entry.path) .absent }
      { entry := entry.restored } := by
  have unlinked : consumer.tree.unlink (.quarantine transaction entry.path) =
      .ok (consumer.tree.set (.quarantine transaction entry.path) .absent) := by
    apply FileTree.unlink_eq_ok_iff.mpr
    rw [look_quarantine, file]
    exact ⟨nofun, nofun, rfl⟩
  unfold dropQuarantined
  rw [if_pos rfl]
  apply runs_exceptOs
  apply runs_bind (runs_unlink unlinked)
  exact runs_bind (runs_fsyncDirectory _) runs_done

theorem entryRun_of_blocked {tree : FileTree Place} {blocker : String}
    (lost : ¬Recoverable digests tree entry) :
    EntryRun digests transaction entry tree tree [blocker] :=
  entryRun_of_unchanged ⟨nofun, fun recoverable => absurd recoverable lost⟩
    fun recoverable => absurd recoverable lost

theorem not_recoverable_of_bytes {tree : FileTree Place}
    (place : entry.quarantinePath = some (.quarantine transaction entry.path))
    (file : tree.node (.quarantine transaction entry.path) = .file inode content)
    (foreign : digests.content content ≠ entry.installedSha) : ¬Recoverable digests tree entry := by
  apply not_recoverable_of_foreign place (by rw [file]; nofun)
  rw [file]
  rintro ⟨_, _, ⟨⟩, same⟩
  exact foreign same

theorem recoverable_of_bytes {tree : FileTree Place}
    (place : entry.quarantinePath = some (.quarantine transaction entry.path))
    (file : tree.node (.quarantine transaction entry.path) = .file inode content)
    (same : digests.content content = entry.installedSha) : Recoverable digests tree entry := by
  have quarantined : Exact digests entry.installedSha
      (tree.node (.quarantine transaction entry.path)) := ⟨inode, content, file, same⟩
  constructor
  · intro other mem
    rw [place] at mem
    cases mem
    exact .inr quarantined
  · exact .inr ⟨_, place, quarantined⟩

theorem entryRun_of_movedBack {tree : FileTree Place}
    (place : entry.quarantinePath = some (.quarantine transaction entry.path))
    (file : tree.node (.quarantine transaction entry.path) = .file inode content) :
    EntryRun digests transaction entry tree
      ((tree.set (.quarantine transaction entry.path) .absent).set (.target entry.path)
        (.file inode content)) (entry.movedBack (digests.content content)).blockers := by
  constructor
  · unfold DetachEntry.movedBack
    split_ifs with same
    · exact ⟨fun _ => recoverable_of_bytes place file same, fun _ => rfl⟩
    · exact ⟨nofun, fun recoverable =>
        absurd recoverable (not_recoverable_of_bytes place file same)⟩
  · intro recoverable
    rw [FileTree.node_set_self]
    by_contra foreign
    apply not_recoverable_of_bytes place file _ recoverable
    exact fun same => foreign ⟨inode, content, rfl, same⟩
  · intro other notTarget notQuarantine
    rw [FileTree.node_set_of_ne _ _ notTarget, FileTree.node_set_of_ne _ _ notQuarantine]

theorem recoverQuarantined_runs
    (place : entry.quarantinePath = some (.quarantine transaction entry.path))
    (clear : Unobstructed digests consumer.tree entry)
    (file : consumer.tree.node (.quarantine transaction entry.path) = .file inode content) :
    ∃ tree recovered, Runs (recoverQuarantined entry (.quarantine transaction entry.path) :
        SurfaceProgram digests _) consumer { consumer with tree } recovered ∧
      EntryRun digests transaction entry consumer.tree tree recovered.blockers := by
  have looked : consumer.tree.look (.quarantine transaction entry.path) = .file inode content :=
    (look_quarantine ..).trans file
  have regular : Runs (isFile (.quarantine transaction entry.path) : SurfaceProgram digests Bool)
      consumer consumer true := by
    have runs : Runs (isFile (.quarantine transaction entry.path) : SurfaceProgram digests Bool)
      consumer consumer _ := runs_isFile _
    rwa [looked] at runs
  have read : Runs (digest (.quarantine transaction entry.path) : SurfaceProgram digests String)
      consumer consumer (digests.content content) := runs_digest looked
  obtain ⟨ready, absent | ⟨target, bytes, targetFile, exact_⟩⟩ := clear
  · refine ⟨(consumer.tree.set (.quarantine transaction entry.path) .absent).set
      (.target entry.path) (.file inode content), entry.movedBack (digests.content content), ?_,
      entryRun_of_movedBack place file⟩
    apply runs_bind regular
    apply runs_bind read
    apply runs_bind (runs_targetState_absent (by rw [ready.look, absent]))
    exact moveBack_runs ready absent file
  have state : Runs (targetState (.target entry.path) entry.installedSha :
      SurfaceProgram digests (TargetState × Option String)) consumer consumer
      (.exact, some entry.installedSha) :=
    runs_targetState_exact (by rw [ready.look, targetFile]) exact_
  by_cases same : digests.content content = entry.installedSha
  · refine ⟨consumer.tree.set (.quarantine transaction entry.path) .absent,
      { entry := entry.restored }, ?_, ?_⟩
    · apply runs_bind regular
      apply runs_bind read
      apply runs_bind state
      rw [same]
      exact dropQuarantined_runs file
    · constructor
      · exact ⟨fun _ => recoverable_of_bytes place file same, fun _ => rfl⟩
      · intro _
        have different : Place.target entry.path ≠ .quarantine transaction entry.path := nofun
        rw [FileTree.node_set_of_ne _ _ different]
        exact ⟨target, bytes, targetFile, exact_⟩
      · exact fun other _ notQuarantine => FileTree.node_set_of_ne _ _ notQuarantine
  · refine ⟨consumer.tree,
      entry.blocked ("DETACH_RECOVERY_FOREIGN_QUARANTINE_PRESERVED:" ++ entry.path.text), ?_,
      entryRun_of_blocked (not_recoverable_of_bytes place file same)⟩
    apply runs_bind regular
    apply runs_bind read
    apply runs_bind state
    unfold dropQuarantined
    rw [if_neg same]
    exact runs_done

theorem entryRun_of_missing {tree : FileTree Place} {blockers : List String}
    (empty : ∀ place ∈ entry.quarantinePath, tree.node place = .absent) (atPath : blockers = [] ↔
      Exact digests entry.installedSha (tree.node (.target entry.path))) :
    EntryRun digests transaction entry tree tree blockers := by
  have target (recoverable : Recoverable digests tree entry) :
      Exact digests entry.installedSha (tree.node (.target entry.path)) := by
    rcases recoverable.2 with exact_ | ⟨place, mem, exact_⟩
    · exact exact_
    · rw [empty place mem] at exact_
      exact absurd exact_ not_exact_absent
  apply entryRun_of_unchanged _ target
  exact atPath.trans ⟨fun exact_ => ⟨fun place mem => .inl (empty place mem), .inl exact_⟩, target⟩

theorem recoverEntry_runs (source : Source digests)
    (eligible : entry.plannedAction = .removeEligible) (own : entry.OwnQuarantine transaction)
    (settled : entry.state = .restored ∨ entry.state = .recoveryBlocked)
    (clear : Unobstructed digests consumer.tree entry) :
    ∃ tree recovered, Runs (recoverEntry source transaction entry) consumer
        { consumer with tree } recovered ∧
      EntryRun digests transaction entry consumer.tree tree recovered.blockers := by
  obtain ⟨recovered, missing, atPath⟩ :
      ∃ recovered, Runs (recoverMissing source transaction entry) consumer consumer recovered ∧
        (recovered.blockers = [] ↔
          Exact digests entry.installedSha (consumer.tree.node (.target entry.path))) :=
    recoverMissing_runs source settled clear
  unfold recoverEntry
  rw [if_neg (not_not.mpr eligible)]
  unfold recoverEligible
  cases place : entry.quarantinePath with
  | none =>
      refine ⟨consumer.tree, recovered, missing, entryRun_of_missing ?_ atPath⟩
      rw [place]
      nofun
  | some quarantine =>
      obtain rfl := own quarantine place
      have present : Runs (isPresent (.quarantine transaction entry.path) :
          SurfaceProgram digests Bool) consumer consumer _ := runs_isPresent _
      have linked : Runs (isSymlink (.quarantine transaction entry.path) :
          SurfaceProgram digests Bool) consumer consumer _ := runs_isSymlink _
      have regular : Runs (isFile (.quarantine transaction entry.path) :
          SurfaceProgram digests Bool) consumer consumer _ := runs_isFile _
      rw [look_quarantine] at present linked regular
      have foreign (other : ∀ inode content, consumer.tree.node
          (.quarantine transaction entry.path) ≠ .file inode content)
          (there : consumer.tree.node (.quarantine transaction entry.path) ≠ .absent) :
          ¬Recoverable digests consumer.tree entry := by
        apply not_recoverable_of_foreign place there
        rintro ⟨inode, content, file, _⟩
        exact other inode content file
      cases found : consumer.tree.node (.quarantine transaction entry.path) with
      | absent =>
          rw [found] at present linked
          refine ⟨consumer.tree, recovered, ?_, entryRun_of_missing ?_ atPath⟩
          · exact runs_bind present (runs_bind linked missing)
          · intro other mem
            rw [place] at mem
            cases mem
            exact found
      | file inode content =>
          rw [found] at present linked
          obtain ⟨tree, outcome, runs, run⟩ := recoverQuarantined_runs place clear found
          exact ⟨tree, outcome, runs_bind present (runs_bind linked runs), run⟩
      | symlink target =>
          rw [found] at present linked
          refine ⟨consumer.tree,
            entry.blocked ("DETACH_RECOVERY_QUARANTINE_SYMLINK:" ++ entry.path.text), ?_,
            entryRun_of_blocked (foreign ?_ ?_)⟩
          · exact runs_bind present (runs_bind linked runs_done)
          · rw [found]
            nofun
          · rw [found]
            nofun
      | directory | special =>
          rw [found] at present linked regular
          refine ⟨consumer.tree,
            entry.blocked ("DETACH_RECOVERY_QUARANTINE_NON_FILE:" ++ entry.path.text), ?_,
            entryRun_of_blocked (foreign ?_ ?_)⟩
          · exact runs_bind present (runs_bind linked (runs_bind regular runs_done))
          · rw [found]
            nofun
          · rw [found]
            nofun

theorem recoverable_congr {first second : FileTree Place}
    (target : second.node (.target entry.path) = first.node (.target entry.path))
    (quarantine : ∀ place ∈ entry.quarantinePath, second.node place = first.node place) :
    Recoverable digests second entry ↔ Recoverable digests first entry := by
  unfold Recoverable
  rw [target]
  constructor
  · rintro ⟨own, found⟩
    refine ⟨fun place mem => quarantine place mem ▸ own place mem, found.imp_right ?_⟩
    exact fun ⟨place, mem, exact_⟩ => ⟨place, mem, quarantine place mem ▸ exact_⟩
  · rintro ⟨own, found⟩
    refine ⟨fun place mem => (quarantine place mem).symm ▸ own place mem, found.imp_right ?_⟩
    exact fun ⟨place, mem, exact_⟩ => ⟨place, mem, (quarantine place mem).symm ▸ exact_⟩

/-- The recovery of entries changes their places only. -/
def ElsewhereSame (transaction : String) (entries : List DetachEntry) (before after : FileTree Place) :
    Prop :=
  ∀ place, (∀ entry ∈ entries, entry.plannedAction = .removeEligible →
      place ≠ .target entry.path ∧ place ≠ .quarantine transaction entry.path) →
    after.node place = before.node place

/-- What the recovery of entries alone comes to. -/
structure EntriesRun (digests : Digests) (transaction : String) (entries : List DetachEntry)
    (before after : FileTree Place) (blockers : List String) : Prop where
  unblocked : blockers = [] ↔ ∀ entry ∈ entries, entry.plannedAction = .removeEligible →
    Recoverable digests before entry
  restored : ∀ entry ∈ entries, entry.plannedAction = .removeEligible →
    Recoverable digests before entry →
      Exact digests entry.installedSha (after.node (.target entry.path))
  elsewhere : ElsewhereSame transaction entries before after

theorem Unobstructed.later {rest : List DetachEntry} {before after : FileTree Place}
    (clear : Unobstructed digests before entry)
    (others : ∀ other ∈ rest, other.plannedAction = .removeEligible →
      Unobstructed digests before other) (distinct : ∀ other ∈ rest, other.path ≠ entry.path)
    (elsewhere : ElsewhereSame transaction rest before after) :
    Unobstructed digests after entry := by
  constructor
  · intro directory above
    rw [elsewhere, clear.1 directory above]
    intro other mem eligible
    constructor
    · rintro ⟨⟩
      have isDirectory := clear.1 other.path above
      rcases (others other mem eligible).2 with absent | ⟨_, _, file, _⟩
      · rw [absent] at isDirectory
        cases isDirectory
      · rw [file] at isDirectory
        cases isDirectory
    · nofun
  · rw [elsewhere]
    · exact clear.2
    · intro other mem _
      constructor
      · exact fun same => distinct other mem (Place.target.inj same).symm
      · nofun

theorem recoverEntries_runs (source : Source digests) (entries : List DetachEntry)
    (own : ∀ entry ∈ entries, entry.OwnQuarantine transaction)
    (settled : ∀ entry ∈ entries, entry.Settled) (distinct : (entries.map DetachEntry.path).Nodup)
    (clear : ∀ entry ∈ entries, entry.plannedAction = .removeEligible →
      Unobstructed digests consumer.tree entry) :
    ∃ tree recovered, Runs (recoverEntries source transaction entries) consumer
        { consumer with tree } recovered ∧
      EntriesRun digests transaction entries consumer.tree tree recovered.2.1 := by
  induction entries with
  | nil =>
      refine ⟨consumer.tree, ([], [], false), rfl, ?_, ?_, fun _ _ => rfl⟩
      · exact ⟨fun _ _ mem => absurd mem List.not_mem_nil, fun _ => rfl⟩
      · exact fun _ mem => absurd mem List.not_mem_nil
  | cons entry rest ih =>
      obtain ⟨fresh, restDistinct⟩ := List.nodup_cons.mp distinct
      have apart : ∀ other ∈ rest, other.path ≠ entry.path :=
        fun other mem same => fresh (same ▸ List.mem_map_of_mem mem)
      obtain ⟨middle, later, runsLater, run⟩ :=
        ih (fun other mem => own other (List.mem_cons_of_mem _ mem))
          (fun other mem => settled other (List.mem_cons_of_mem _ mem)) restDistinct
          fun other mem => clear other (List.mem_cons_of_mem _ mem)
      by_cases eligible : entry.plannedAction = .removeEligible
      · have still := (clear entry List.mem_cons_self eligible).later
          (fun other mem => clear other (List.mem_cons_of_mem _ mem)) apart run.elsewhere
        obtain ⟨tree, recovered, runs, entryRun⟩ :
            ∃ tree recovered, Runs (recoverEntry source transaction entry)
              { consumer with tree := middle } { consumer with tree } recovered ∧
              EntryRun digests transaction entry middle tree recovered.blockers :=
          recoverEntry_runs source eligible (own entry List.mem_cons_self)
            (settled entry List.mem_cons_self eligible) still
        have same : Recoverable digests middle entry ↔ Recoverable digests consumer.tree entry := by
          apply recoverable_congr
          · apply run.elsewhere
            intro other mem _
            exact ⟨fun target => apart other mem (Place.target.inj target).symm, nofun⟩
          · intro place mem
            obtain rfl := own entry List.mem_cons_self place mem
            apply run.elsewhere
            intro other otherMember _
            refine ⟨nofun, fun quarantine => ?_⟩
            exact apart other otherMember (Place.quarantine.inj quarantine).2.symm
        refine ⟨tree, _, runs_bind runsLater (runs_bind runs runs_done), ?_, ?_, ?_⟩
        · rw [List.append_eq_nil_iff, run.unblocked, entryRun.unblocked, same]
          constructor
          · rintro ⟨others, first⟩ item mem itemEligible
            rcases List.mem_cons.mp mem with rfl | tailMember
            · exact first
            · exact others item tailMember itemEligible
          · intro all
            exact ⟨fun item mem => all item (List.mem_cons_of_mem _ mem),
              all entry List.mem_cons_self eligible⟩
        · intro item mem itemEligible recoverable
          rcases List.mem_cons.mp mem with rfl | tailMember
          · exact entryRun.restored (same.mpr recoverable)
          · rw [entryRun.elsewhere]
            · exact run.restored item tailMember itemEligible recoverable
            · exact fun target => apart item tailMember (Place.target.inj target)
            · nofun
        · intro place outside
          obtain ⟨notTarget, notQuarantine⟩ := outside entry List.mem_cons_self eligible
          rw [entryRun.elsewhere place notTarget notQuarantine]
          exact run.elsewhere place fun other mem =>
            outside other (List.mem_cons_of_mem _ mem)
      · have skipped : Runs (recoverEntry source transaction entry) { consumer with tree := middle }
            { consumer with tree := middle } { entry := entry } := by
          unfold recoverEntry
          rw [if_pos eligible]
          exact runs_done
        refine ⟨middle, _, runs_bind runsLater (runs_bind skipped runs_done), ?_, ?_, ?_⟩
        · rw [List.append_nil, run.unblocked]
          constructor
          · intro others item mem itemEligible
            rcases List.mem_cons.mp mem with rfl | tailMember
            · exact absurd itemEligible eligible
            · exact others item tailMember itemEligible
          · exact fun all item mem => all item (List.mem_cons_of_mem _ mem)
        · intro item mem itemEligible recoverable
          rcases List.mem_cons.mp mem with rfl | tailMember
          · exact absurd itemEligible eligible
          · exact run.restored item tailMember itemEligible recoverable
        · exact fun place outside => run.elsewhere place fun other mem =>
            outside other (List.mem_cons_of_mem _ mem)

theorem JournalOf.entry_of_item (known : detach.JournalOf adoption journal) {item : DetachItem}
    (listed : item ∈ detach.plan.entries) :
    ∃ entry ∈ journal.entries, entry.path = item.path ∧ entry.installedSha = item.installedSha ∧
      entry.plannedAction = item.action := by
  have mapped : item.entry.origin ∈ journal.entries.map DetachEntry.origin :=
    known.entries ▸ List.mem_map_of_mem listed
  obtain ⟨entry, mem, same⟩ := List.mem_map.mp mapped
  exact ⟨entry, mem, congrArg DetachEntry.path same, congrArg DetachEntry.installedSha same,
    congrArg DetachEntry.plannedAction same⟩

theorem recoverDetach_runs (adoptions : consumer.adoptions = detach.adoptions)
    (found : consumer.detaches detach.transaction = some journal)
    (recorded : detach.Recorded journal) (blocked : journal.status = .recoveryBlocked)
    (clear : ∀ entry ∈ journal.entries, entry.plannedAction = .removeEligible →
      Unobstructed digests consumer.tree entry) :
    ∃ tree detaches blockers, Runs (recoverDetach detach.source detach.transaction) consumer
        { consumer with tree, detaches }
        (.recovered (if blockers = [] then .rolledBack else .recoveryBlocked) blockers) ∧
      EntriesRun digests detach.transaction journal.entries consumer.tree tree blockers := by
  obtain ⟨adoption, authority, known, settled⟩ := recorded
  have distinct : (journal.entries.map DetachEntry.path).Nodup := by
    rw [known.paths authority]
    exact authority.nodup
  obtain ⟨tree, recovered, runs, run⟩ := recoverEntries_runs detach.source journal.entries
    known.quarantine (settled blocked) distinct clear
  have root : journal.consumerRootSha = digests.root :=
    congrArg DetachIdentity.consumerRootSha known.identity
  have revision : detach.source.revision = journal.sourceRevision :=
    authority.revision.trans (congrArg DetachIdentity.sourceRevision known.identity).symm
  have loaded : Runs (ask (.detachJournal detach.transaction) :
      SurfaceProgram digests (Option DetachJournal)) consumer consumer (some journal) :=
    runs_ask (by rw [Consumer.serve, found])
  have verified : Runs (ask (.verifySourceRevision detach.source journal.sourceRevision) :
      SurfaceProgram digests Unit) consumer consumer () :=
    runs_ask (by rw [Consumer.serve, if_pos revision])
  rw [← known.transactionId] at runs
  refine ⟨tree, Function.update consumer.detaches journal.transactionId
    (some (journal.recovered none recovered.1 recovered.2.1)), recovered.2.1, ?_, run⟩
  apply runs_bind (runs_ask rfl)
  apply runs_bind loaded
  apply runs_ensure root
  apply runs_bind verified
  apply runs_bind (runs_validateProvenance adoptions authority known)
  rw [blocked]
  have locked : Runs (recoverDetachLocked detach.source journal none) consumer
      { consumer with tree }
      (journal.recovered none recovered.1 recovered.2.1, recovered.2.1, recovered.2.2) :=
    runs_bind runs runs_done
  apply runs_bind locked
  exact runs_bind (runs_ask rfl) runs_done

variable {Client : Type u} [DecidableEq Client] {tree : FileTree Place}
variable {others : String → Option DetachJournal} {operation : Client → DetachOperation}
variable {system : System Client (Watched Client) (Call digests) Answer SurfaceError DetachOutcome}

/-- A blocked detach whose obstacles are gone is rolled back, with every removed file at
its path, exactly if each of these files is still at its path or in the quarantine. -/
theorem recovers_iff_recoverable
    (reached : Reachable (detach.world Client) (detach.start tree others operation) system)
    (found : system.store.consumer.detaches detach.transaction = some journal)
    (blocked : journal.status = .recoveryBlocked)
    (clear : ∀ entry ∈ journal.entries, entry.plannedAction = .removeEligible →
      Unobstructed digests system.store.consumer.tree entry) :
    (∃ after, Runs (recoverDetach detach.source detach.transaction) system.store.consumer after
        (.recovered .rolledBack []) ∧ ∀ item ∈ detach.plan.entries, item.action = .removeEligible →
        Exact digests item.installedSha (after.tree.node (.target item.path))) ↔
      ∀ entry ∈ journal.entries, entry.plannedAction = .removeEligible →
        Recoverable digests system.store.consumer.tree entry := by
  have law := law_of_reachable reached
  have recorded := law.recorded journal found
  obtain ⟨after, detaches, blockers, runs, run⟩ :=
    recoverDetach_runs law.adoptions found recorded blocked clear
  rw [← run.unblocked]
  constructor
  · rintro ⟨other, otherRuns, _⟩
    have same := (Prod.ext_iff.mp (runs.symm.trans otherRuns)).2
    simp only [Program.done.injEq, DetachOutcome.recovered.injEq] at same
    exact same.2
  · rintro rfl
    refine ⟨_, runs, fun item listed eligible => ?_⟩
    obtain ⟨adoption, authority, known, _⟩ := recorded
    obtain ⟨entry, mem, path, installed, action⟩ := known.entry_of_item listed
    rw [← path, ← installed]
    have entryEligible := action.trans eligible
    exact run.restored entry mem entryEligible (run.unblocked.mp rfl entry mem entryEligible)

end Detach

/-! ## Obstacles -/

/-- Calls are served, but some meet an obstacle. -/
def Detach.provideWith (detach : Detach digests)
    (obstacle : (call : Call digests) → Option (Answer call)) (client : Nat)
    (store : Watched Nat) (call : Call digests) : Option (Watched Nat × Answer call) :=
  match obstacle call with
  | some answer => some (store, answer)
  | none => detach.provide client store call

/-- The system after a schedule of clients with an obstacle. -/
def Detach.scheduledWith (detach : Detach digests)
    (obstacle : (call : Call digests) → Option (Answer call)) (tree : FileTree Place)
    (operation : Nat → DetachOperation) (schedule : List Nat) :
    System Nat (Watched Nat) (Call digests) Answer SurfaceError DetachOutcome :=
  schedule.foldl (System.turn (detach.provideWith obstacle))
    (detach.start tree (fun _ => none) operation)

theorem Detach.reachable_scheduledWith (detach : Detach digests)
    {obstacle : (call : Call digests) → Option (Answer call)}
    (external : ∀ call answer, obstacle call = some answer →
      readsSource call = true ∨ ∃ error, answer = .error error)
    (tree : FileTree Place) (operation : Nat → DetachOperation) (schedule : List Nat) :
    Reachable (detach.world Nat) (detach.start tree (fun _ => none) operation)
      (detach.scheduledWith obstacle tree operation schedule) := by
  apply reachable_turns
  intro client store call after answer provided
  unfold provideWith at provided
  split at provided
  · rename_i met
    cases provided
    rcases external _ _ met with reads | ⟨error, rfl⟩
    · exact .unsteady reads rfl
    · exact .failed rfl error rfl
  · exact step_of_provide provided

/-- The working tree of the framework lacks its files. -/
def missingSource : (call : Call plainDigests) → Option (Answer call)
  | .sourceIsFile _ _ => some (.ok false)
  | _ => none

/-- Nothing can be moved out of the quarantine. -/
def failingRename : (call : Call plainDigests) → Option (Answer call)
  | .file (.rename (.quarantine _ _) _) => some (.error (.os "PermissionError"))
  | _ => none

/-- An apply that fails after its first delete, and recoveries. -/
def failingOperation : Nat → DetachOperation
  | 0 => .apply (some 1)
  | _ => .recover

/-- The delete fails while the framework is missing: the recovery is blocked. -/
def blockedSystem :
    System Nat (Watched Nat) (Call plainDigests) Answer SurfaceError DetachOutcome :=
  oneDetach.scheduledWith missingSource oneTree failingOperation (List.replicate 100 0)

/-- With the framework there again, the file is not restored: the recovery finds the
target missing and is blocked once more. -/
theorem blocked_of_missing_source :
    Reachable (oneDetach.world Nat) (oneDetach.start oneTree (fun _ => none) failingOperation)
        blockedSystem ∧
      (blockedSystem.store.consumer.detaches oneDetach.transaction).map DetachJournal.status =
        some .recoveryBlocked ∧ blockedSystem.store.consumer.tree.node (.target onePath) = .absent ∧
      ((recoverDetach oneSource oneDetach.transaction).execute Consumer.serve
          blockedSystem.store.consumer).2.returned? =
        some (.recovered .recoveryBlocked ["DETACH_RECOVERY_TARGET_DRIFT:managed"]) := by
  refine ⟨oneDetach.reachable_scheduledWith ?_ _ _ _, by decide +kernel, by decide +kernel,
    by decide +kernel⟩
  intro call answer met
  cases call with
  | sourceIsFile source rel => exact .inl rfl
  | _ => cases met

/-- An apply that stops once the file is in the quarantine, and a recovery that cannot
move it back. -/
def stuckSystem :
    System Nat (Watched Nat) (Call plainDigests) Answer SurfaceError DetachOutcome :=
  oneDetach.scheduledWith failingRename oneTree failingOperation
    (List.replicate 24 0 ++ List.replicate 30 1)

/-- The journal of the blocked recovery. -/
def stuckJournal : DetachJournal where
  transactionId := "detach"
  status := .recoveryBlocked
  adoptionTransactionId := "adoption"
  sourceRevision := "revision"
  sourceManifestSha := "manifest"
  snapshotSha := "snapshot"
  planSha := "plan"
  consumerRootSha := "root"
  attempts := 1
  entries := [⟨onePath, "sha:body", none, .frameworkPrivate, true, .removeEligible,
    .recoveryBlocked, some (.quarantine "detach" onePath)⟩]
  provenanceDirs := []
  removedDirs := []
  lastError := some "DETACH_RECOVERY_QUARANTINE_RESTORE_FAILED:managed:PermissionError"

/-- Once files can be moved again, the file is put back. -/
theorem recovered_of_stuck :
    ∃ after, Runs (recoverDetach oneSource oneDetach.transaction) stuckSystem.store.consumer after
        (.recovered .rolledBack []) ∧ ∀ item ∈ onePlan.entries, item.action = .removeEligible →
        Detach.Exact plainDigests item.installedSha (after.tree.node (.target item.path)) := by
  have reached : Reachable (oneDetach.world Nat)
      (oneDetach.start oneTree (fun _ => none) failingOperation) stuckSystem := by
    apply oneDetach.reachable_scheduledWith
    intro call answer met
    unfold failingRename at met
    split at met
    · cases met
      exact .inr ⟨_, rfl⟩
    · cases met
  have found : stuckSystem.store.consumer.detaches oneDetach.transaction = some stuckJournal := by
    decide +kernel
  have target : stuckSystem.store.consumer.tree.node (.target onePath) = .absent := by
    decide +kernel
  have quarantine : stuckSystem.store.consumer.tree.node (.quarantine "detach" onePath) =
      .file 1 "body" := by
    decide +kernel
  apply (Detach.recovers_iff_recoverable reached found rfl _).mpr
  · intro entry mem _
    obtain rfl := List.mem_singleton.mp mem
    have exact_ : Detach.Exact plainDigests "sha:body"
        (stuckSystem.store.consumer.tree.node (.quarantine "detach" onePath)) :=
      ⟨1, "body", quarantine, by decide⟩
    refine ⟨?_, .inr ⟨_, rfl, exact_⟩⟩
    rintro place ⟨⟩
    exact .inr exact_
  · intro entry mem _
    obtain rfl := List.mem_singleton.mp mem
    refine ⟨fun directory above => ?_, .inl target⟩
    have none : onePath.above = [] := by decide
    rw [none] at above
    cases above

end Adwf.ManagedSurface
