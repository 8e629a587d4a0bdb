import Adwf.ManagedSurface.DetachSafety

/-!
# The operations of a detach keep its law

Every journal an apply or a recovery saves is one of the transaction, and the bytes of
every file it purges are the installed ones.
-/

namespace Adwf.ManagedSurface

open Files Adwf.Program

universe u

variable {digests : Digests}
variable (transaction : String)

namespace Detach

variable {Client : Type u} {detach : Detach digests} {client : Client} {α : Type}
variable {adoption : AdoptionRecord} {journal : DetachJournal} {rel : Path}

/-! ## Journals of the transaction -/

theorem mem_of_forall₂ {β : Type} {related : α → β → Prop} {left : List α} {right : List β}
    (all : List.Forall₂ related left right) {found : β} (mem : found ∈ right) :
    ∃ item ∈ left, related item found := by
  induction all with
  | nil => cases mem
  | cons first rest ih =>
      rcases List.mem_cons.mp mem with rfl | later
      · exact ⟨_, List.mem_cons_self, first⟩
      · obtain ⟨item, listed, holds⟩ := ih later
        exact ⟨item, List.mem_cons_of_mem _ listed, holds⟩

theorem item_of_validated {inventory : Inventory} {snapshot : Snapshot}
    (validated : validateSnapshotAgainst inventory snapshot = .ok ()) {item : SnapshotItem}
    (listed : item ∈ snapshot.entries) : item.path ∈ inventory.files ∧
      item.installedSha = inventory.sums item.path ∧
      (item.managed = true → item.preservedSha = none) := by
  obtain ⟨distinct, rest⟩ := require_bind_eq_ok_iff.mp validated
  obtain ⟨_, rest⟩ := require_bind_eq_ok_iff.mp rest
  obtain ⟨⟨covered, _⟩, checked⟩ := require_bind_eq_ok_iff.mp rest
  have inInventory := covered item.path (List.mem_map_of_mem listed)
  have passed := ok_of_forM_eq_ok checked item.path inInventory
  unfold validateSnapshotItem at passed
  cases found : snapshot.entries.find? (·.path = item.path) with
  | none =>
      rw [found] at passed
      cases passed
  | some other =>
      rw [found] at passed
      have same : other.path = item.path := by simpa using List.find?_some found
      obtain rfl := List.inj_on_of_nodup_map distinct (List.mem_of_find?_eq_some found) listed same
      obtain ⟨_, rest⟩ := require_bind_eq_ok_iff.mp passed
      obtain ⟨installed, preserved⟩ := require_bind_eq_ok_iff.mp rest
      exact ⟨inInventory, installed, require_eq_ok_iff.mp preserved⟩

theorem Trusted.nodup (trusted : detach.Trusted adoption) :
    (detach.snapshot.entries.map SnapshotItem.path).Nodup :=
  (require_bind_eq_ok_iff.mp trusted.validated).1

theorem JournalOf.item_of_entry (authority : detach.Authority adoption)
    (known : detach.JournalOf adoption journal) {entry : DetachEntry}
    (mem : entry ∈ journal.entries) : ∃ item ∈ detach.snapshot.entries, ∃ planned state,
      detachItemOf item state = (planned, []) ∧ entry.origin = planned.entry.origin := by
  have mapped : entry.origin ∈ detach.plan.entries.map fun item => item.entry.origin :=
    known.entries ▸ List.mem_map_of_mem mem
  obtain ⟨planned, listed, same⟩ := List.mem_map.mp mapped
  obtain ⟨item, itemListed, state, made⟩ := mem_of_forall₂ authority.planned listed
  exact ⟨item, itemListed, planned, state, made, same.symm⟩

theorem JournalOf.installed (authority : detach.Authority adoption)
    (known : detach.JournalOf adoption journal) {entry : DetachEntry}
    (mem : entry ∈ journal.entries) :
    detach.Listed entry.path ∧ ∀ item ∈ detach.snapshot.entries, item.path = entry.path →
      item.installedSha = entry.installedSha := by
  obtain ⟨item, listed, planned, state, made, same⟩ := known.item_of_entry authority mem
  have plannedIs : planned = (detachItemOf item state).1 := by rw [made]
  subst plannedIs
  have ownPath : entry.path = item.path := congrArg DetachEntry.path same
  have ownSha : entry.installedSha = item.installedSha := congrArg DetachEntry.installedSha same
  refine ⟨⟨item, listed, ownPath.symm⟩, fun other otherListed otherPath => ?_⟩
  have unique := List.inj_on_of_nodup_map authority.nodup otherListed listed
    (otherPath.trans ownPath)
  rw [unique, ownSha]

theorem JournalOf.update {change : DetachEntry → DetachEntry}
    (known : detach.JournalOf adoption journal)
    (origin : ∀ entry, (change entry).origin = entry.origin)
    (own : ∀ entry, entry.path = rel → entry.OwnQuarantine detach.transaction →
      (change entry).OwnQuarantine detach.transaction) :
    detach.JournalOf adoption (journal.update rel change) where
  transactionId := known.transactionId
  identity := known.identity
  entries := by
    rw [← known.entries, DetachJournal.update, List.map_map]
    apply List.map_congr_left
    intro entry _
    simp only [Function.comp]
    split_ifs
    · exact origin entry
    · rfl
  quarantine := by
    intro entry mem
    obtain ⟨before, listed, rfl⟩ := List.mem_map.mp mem
    split_ifs with here
    · exact own before here (known.quarantine before listed)
    · exact known.quarantine before listed
  provenance := known.provenance
  removed := known.removed

theorem journalOf_new : detach.JournalOf adoption
    (newDetachTransaction digests detach.identity detach.plan adoption) where
  transactionId := rfl
  identity := rfl
  entries := by rw [newDetachTransaction, List.map_map]; rfl
  quarantine := by
    intro entry mem
    obtain ⟨item, _, rfl⟩ := List.mem_map.mp mem
    rintro place ⟨⟩
  provenance := rfl
  removed := nofun

/-- A journal of a transaction that is not blocked. -/
def Ongoing (detach : Detach digests) (adoption : AdoptionRecord) (journal : DetachJournal) :
    Prop :=
  detach.JournalOf adoption journal ∧ journal.status ≠ .recoveryBlocked

theorem Ongoing.recorded (authority : detach.Authority adoption)
    (ongoing : detach.Ongoing adoption journal) : detach.Recorded journal :=
  ⟨adoption, authority, ongoing.1, fun blocked => absurd blocked ongoing.2⟩

variable {state : DetachState} {expected : String} {body : SurfaceProgram digests α}
variable {returns : α → Prop}

theorem Ongoing.setState (ongoing : detach.Ongoing adoption journal) :
    detach.Ongoing adoption (journal.setState rel state) :=
  ⟨ongoing.1.update (fun _ => rfl) fun _ _ own => own, ongoing.2⟩

theorem Ongoing.settle (ongoing : detach.Ongoing adoption journal) :
    detach.Ongoing adoption (journal.settle rel state) :=
  ⟨ongoing.1.update (fun _ => rfl) fun _ _ _ => nofun, ongoing.2⟩

theorem Ongoing.restart (known : detach.JournalOf adoption journal) :
    detach.Ongoing adoption journal.restart where
  left :=
    { transactionId := known.transactionId
      identity := known.identity
      entries := by rw [← known.entries, DetachJournal.restart, List.map_map]; rfl
      quarantine := by
        intro entry mem
        obtain ⟨before, _, rfl⟩ := List.mem_map.mp mem
        rintro place ⟨⟩
      provenance := known.provenance
      removed := nofun }
  right := nofun

theorem mem_of_entryAt {entry : DetachEntry} (found : journal.entryAt rel = some entry) :
    entry ∈ journal.entries ∧ entry.path = rel :=
  ⟨List.mem_of_find?_eq_some found, by simpa using List.find?_some found⟩

/-! ## Sections under the lock -/

/-- A regular file with the expected bytes. -/
def Exact (digests : Digests) (expected : String) (node : Node) : Prop :=
  ∃ inode content, node = .file inode content ∧ digests.content content = expected

theorem exact_of_looks {node : Node} (plain : node.isSymlink = false)
    (regular : node.isFile = true) (digest : HasDigest digests expected node) :
    Exact digests expected node := by
  obtain ⟨inode, content, same⟩ := (Node.isFile_iff_of_plain plain).mp regular
  exact ⟨inode, content, same, digest inode content same⟩

theorem returns_exceptOs
    {handler : OsError → SurfaceProgram digests α} {before : Watched Client → Prop}
    (bodyTriple : Triple (detach.world Client) client before body (fun _ value => returns value)
      fun _ _ => True) (handlerReturns : ∀ name, detach.Returns client (handler name) returns) :
    Triple (detach.world Client) client before (exceptOs body handler)
      (fun _ value => returns value) fun _ _ => True := by
  apply Triple.handle bodyTriple
  intro error
  cases error with
  | os name => exact handlerReturns name
  | surface text => exact upholds_raise

/-- A look at the quarantine, and what follows from a store of which nothing is known. -/
theorem returns_of_quarantined {program : SurfaceProgram digests α}
    (triple : Triple (detach.world Client) client
      (detach.Quarantined client rel fun _ => True) program (fun _ value => returns value)
      fun _ _ => True) : detach.Returns client program returns :=
  triple.weaken fun _ _ _ _ _ => trivial

theorem returns_moveToDetachQuarantine (listed : detach.Listed rel) (expected : String) :
    detach.Returns client
      (moveToDetachQuarantine rel expected (.quarantine detach.transaction rel)) fun _ => True := by
  apply upholds_bind (returns_any (looks_assertDetachParents _))
  intro _ _
  apply upholds_bind (returns_any (looks_targetState _ _))
  intro state _
  apply upholds_ensure
  intro _
  apply upholds_ensure
  intro _
  apply upholds_ensure
  intro _
  apply upholds_ensure
  intro _
  apply returns_of_quarantined
  apply Triple.bind (quarantined_isSymlink listed)
  intro linked
  apply Triple.check (stable_quarantined listed) fun _ _ _ _ => trivial
  intro plain
  apply Triple.bind (quarantined_isPresent listed)
  intro present
  apply Triple.check (stable_quarantined listed) fun _ _ _ _ => trivial
  intro missing
  have moved : Triple (detach.world Client) client (detach.Quarantined client rel (· = .absent))
      (exceptOs (do
        let _ ← ask (.file (.rename (.target rel) (.quarantine detach.transaction rel)))
        fsyncDirectory (.target rel)
        fsyncDirectory (.quarantine detach.transaction rel)) fun name =>
          raise ("DETACH_ATOMIC_QUARANTINE_MOVE_FAILED:" ++ rel.text ++ ":" ++ name) :
        SurfaceProgram digests Unit) (fun _ _ => True) fun _ _ => True := by
    apply returns_exceptOs
    · apply Triple.bind (returns_moveAside listed)
      intro _
      exact upholds_bind (returns_any (looks_fsyncDirectory _)) fun _ _ =>
        returns_any (looks_fsyncDirectory _)
    · exact fun _ => upholds_raise
  apply Triple.bind (moved.weaken _)
  · intro _
    apply returns_any
    apply looks_bind (looks_isSymlink _)
    intro _
    apply looks_bind looks_ensure
    intro _
    apply looks_bind (looks_isFile _)
    intro _
    apply looks_bind looks_ensure
    intro _
    apply looks_bind (looks_digest _)
    intro _
    apply looks_bind looks_ensure
    intro _
    apply looks_bind (looks_targetState _ _)
    intro _
    exact looks_bind looks_ensure fun _ => trivial
  · intro store _ known held undisturbed
    obtain ⟨⟨_, link⟩, presence⟩ := known held undisturbed
    exact Node.eq_absent_of_not_isPresent (link.trans plain) (presence.trans missing)

theorem quarantined_ensureQuarantined (listed : detach.Listed rel)
    (expected missing drifted : String) :
    Triple (detach.world Client) client (detach.Quarantined client rel fun _ => True)
      (ensureQuarantined expected (.quarantine detach.transaction rel) missing drifted :
        SurfaceProgram digests Unit)
      (fun store _ => detach.Quarantined client rel (Exact digests expected) store)
      fun _ _ => True := by
  apply Triple.bind (quarantined_isSymlink listed)
  intro linked
  apply Triple.check (stable_quarantined listed) fun _ _ _ _ => trivial
  intro plain
  apply Triple.bind (quarantined_isFile listed)
  intro regular
  apply Triple.check (stable_quarantined listed) fun _ _ _ _ => trivial
  intro file
  apply Triple.bind (quarantined_digest listed)
  intro found
  apply Triple.check (stable_quarantined listed) fun _ _ _ _ => trivial
  intro same
  apply Triple.done (stable_quarantined listed)
  intro store _ known held undisturbed
  obtain ⟨⟨⟨_, link⟩, kind⟩, digest⟩ := known held undisturbed
  exact exact_of_looks (link.trans plain) (kind.trans file) (same ▸ digest)

theorem purges_exact (listed : detach.Listed rel)
    (installed : ∀ item ∈ detach.snapshot.entries, item.path = rel → item.installedSha = expected) :
    Triple (detach.world Client) client (detach.Quarantined client rel (Exact digests expected))
      (unlink (.quarantine detach.transaction rel) : SurfaceProgram digests Unit)
      (fun _ _ => True) fun _ _ => True := by
  apply (returns_purge listed).weaken
  intro store _ known held undisturbed
  obtain ⟨inode, content, same, digest⟩ := known held undisturbed
  exact ⟨inode, content, same, fun item mem path =>
    digest.trans (installed item mem path).symm⟩

/-! ## Restoring from the framework -/

theorem gentle_exceptOs
    {handler : OsError → SurfaceProgram digests α} {allowed : Call digests → Prop}
    (bodyOnly : body.Only allowed) (handlerOnly : ∀ name, (handler name).Only allowed) :
    (exceptOs body handler).Only allowed := by
  apply bodyOnly.handle
  intro error
  cases error with
  | os name => exact handlerOnly name
  | surface text => trivial

theorem gentle_of_looks {ε : Type} {program : Program (Call digests) Answer ε α}
    (looks : program.Only IsLook) : program.Only detach.IsGentle :=
  looks.mono fun _ => gentle_of_look

theorem gentle_unlinkStage :
    (unlink (.stage transaction rel) : SurfaceProgram digests Unit).Only detach.IsGentle :=
  ⟨trivial, fun answer => Program.Only.ofExcept answer⟩

theorem gentle_linkStageNoReplace (stage target : Place) (expected : String) :
    (linkStageNoReplace stage target expected : SurfaceProgram digests Unit).Only
      detach.IsGentle := by
  have linked : (ask (.file (.link stage target)) : SurfaceProgram digests Unit).Only
      detach.IsGentle :=
    ⟨trivial, fun answer => Program.Only.ofExcept answer⟩
  apply Program.Only.bind (gentle_of_looks (looks_targetState _ _))
  intro state
  cases state.1 with
  | absent =>
      apply gentle_exceptOs
      · exact linked.bind fun _ => gentle_of_looks (looks_fsyncDirectory _)
      · intro name
        split_ifs <;> trivial
  | exact =>
      have asked : (ask (.file (.sameFile stage target)) : SurfaceProgram digests Bool).Only
          IsLook := looks_ask trivial
      have compared : (exceptOs (ask (.file (.sameFile stage target))) fun _ => .done false :
          SurfaceProgram digests Bool).Only IsLook := gentle_exceptOs asked fun _ => trivial
      apply gentle_of_looks
      exact looks_bind compared fun (_ : Bool) => looks_bind looks_ensure fun _ => trivial
  | _ => trivial

theorem gentle_dropStage :
    (dropStage (.stage transaction rel) : SurfaceProgram digests Unit).Only detach.IsGentle := by
  apply Program.Only.bind (gentle_of_looks (looks_isPresent _))
  intro present
  split_ifs
  · trivial
  apply Program.Only.bind (gentle_of_looks (looks_isSymlink _))
  intro linked
  split_ifs
  · trivial
  apply gentle_exceptOs
  · exact (gentle_unlinkStage transaction).bind fun _ => gentle_of_looks (looks_fsyncDirectory _)
  · exact fun _ => trivial

theorem returns_prepareStage (expected : String) : detach.Returns client
      (prepareStage detach.source rel (.stage transaction rel) expected) fun _ => True := by
  apply upholds_bind (returns_any (looks_isSymlink _))
  intro linked _
  apply upholds_ensure
  intro _
  apply upholds_bind (returns_any (looks_isPresent _))
  intro present _
  split_ifs
  · apply returns_any
    apply looks_bind (looks_isFile _)
    intro _
    apply looks_bind looks_ensure
    intro _
    apply looks_bind (looks_digest _)
    exact fun _ => looks_bind looks_ensure fun _ => trivial
  · have source : (ask (.sourceBytes detach.source rel) : SurfaceProgram digests String).Only
        IsLook := looks_ask trivial
    apply upholds_bind (returns_any source)
    intro bytes _
    apply upholds_ensure
    intro _
    apply Triple.bind (returns_create transaction rel)
    intro inode
    apply Triple.handle
    · apply Triple.bind (returns_write inode bytes)
      intro _
      have synced : (ask (.file (.sync (.stage transaction rel))) :
          SurfaceProgram digests Unit).Only IsLook := looks_ask trivial
      exact returns_any (looks_bind synced fun _ => trivial)
    · intro error
      apply upholds_bind
      · exact upholds_gentle (gentle_exceptOs (gentle_unlinkStage transaction) fun _ => trivial)
      · exact fun _ _ => upholds_fail trivial

theorem returns_restoreExactSource (expected : String) :
    detach.Returns client (restoreExactSourceNoReplace detach.source transaction rel expected)
      fun _ => True := by
  apply upholds_bind (returns_any (looks_assertDetachParents _))
  intro _ _
  apply upholds_bind (returns_any (looks_targetState _ _))
  intro state _
  split_ifs
  · exact upholds_done trivial
  apply upholds_ensure
  intro _
  have symlink : (ask (.sourceIsSymlink detach.source rel) : SurfaceProgram digests Bool).Only
      IsLook := looks_ask trivial
  apply upholds_bind (returns_any symlink)
  intro (linked : Bool) _
  apply upholds_ensure
  intro _
  have file : (ask (.sourceIsFile detach.source rel) : SurfaceProgram digests Bool).Only
      IsLook := looks_ask trivial
  apply upholds_bind (returns_any file)
  intro (regular : Bool) _
  apply upholds_ensure
  intro _
  have source : (ask (.sourceBytes detach.source rel) : SurfaceProgram digests String).Only
      IsLook := looks_ask trivial
  apply upholds_bind (returns_any source)
  intro bytes _
  apply upholds_ensure
  intro _
  apply upholds_bind (returns_prepareStage transaction expected)
  intro _ _
  apply upholds_bind
  · exact upholds_gentle ((gentle_linkStageNoReplace _ _ _).ensuring (gentle_dropStage transaction))
  intro _ _
  apply returns_any
  exact looks_bind (looks_targetState _ _) fun _ => looks_bind looks_ensure fun _ => trivial

/-! ## Recovery -/

/-- What the recovery of an entry may make of it. -/
structure Settles (detach : Detach digests) (before after : DetachEntry) : Prop where
  origin : after.origin = before.origin
  quarantine : after.OwnQuarantine detach.transaction
  settled : after.Settled

variable {entry : DetachEntry}

theorem settles_blocked (own : entry.OwnQuarantine detach.transaction) (blocker : String) :
    detach.Settles entry (entry.blocked blocker).entry :=
  ⟨rfl, own, fun _ => .inr rfl⟩

theorem settles_restored : detach.Settles entry entry.restored :=
  ⟨rfl, nofun, fun _ => .inl rfl⟩

theorem settles_movedBack (found : String) :
    detach.Settles entry (entry.movedBack found).entry := by
  unfold DetachEntry.movedBack
  split_ifs
  · exact settles_restored
  · exact ⟨rfl, nofun, fun _ => .inr rfl⟩

theorem returns_moveBack (own : entry.OwnQuarantine detach.transaction) (found : String) :
    detach.Returns client
      (moveBack entry (.quarantine detach.transaction entry.path) found) fun recovered =>
        detach.Settles entry recovered.entry := by
  apply upholds_handle
  · apply upholds_bind (returns_any (looks_assertDetachParents _))
    intro _ _
    have renamed : (ask (.file (.rename (.quarantine detach.transaction entry.path)
        (.target entry.path))) : SurfaceProgram digests Unit).Only detach.IsGentle :=
      ⟨⟨rfl, rfl⟩, fun answer => Program.Only.ofExcept answer⟩
    apply upholds_bind (upholds_gentle renamed)
    intro _ _
    apply upholds_bind (returns_any (looks_fsyncDirectory _))
    intro _ _
    apply upholds_bind (returns_any (looks_fsyncDirectory _))
    intro _ _
    exact upholds_done (settles_movedBack found)
  · exact fun error _ => upholds_done (settles_blocked own _)

theorem returns_dropQuarantined (own : entry.OwnQuarantine detach.transaction)
    (listed : detach.Listed entry.path)
    (installed : ∀ item ∈ detach.snapshot.entries, item.path = entry.path →
      item.installedSha = entry.installedSha) {found : String} : Triple (detach.world Client) client
      (detach.Quarantined client entry.path (Exact digests found))
      (dropQuarantined entry (.quarantine detach.transaction entry.path) found)
      (fun _ recovered => detach.Settles entry recovered.entry) fun _ _ => True := by
  unfold dropQuarantined
  split_ifs with same
  · subst same
    apply returns_exceptOs
    · apply Triple.bind (purges_exact listed installed)
      intro _
      apply upholds_bind (returns_any (looks_fsyncDirectory _))
      exact fun _ _ => upholds_done settles_restored
    · exact fun _ => upholds_done (settles_blocked own _)
  · exact Triple.done (stable_quarantined listed) fun _ _ _ => settles_blocked own _

theorem returns_recoverQuarantined (own : entry.OwnQuarantine detach.transaction)
    (listed : detach.Listed entry.path)
    (installed : ∀ item ∈ detach.snapshot.entries, item.path = entry.path →
      item.installedSha = entry.installedSha) : Triple (detach.world Client) client
      (detach.Quarantined client entry.path fun node => node.isSymlink = false)
      (recoverQuarantined entry (.quarantine detach.transaction entry.path))
      (fun _ recovered => detach.Settles entry recovered.entry) fun _ _ => True := by
  apply Triple.bind (quarantined_isFile listed)
  intro regular
  split_ifs with kind
  · exact Triple.done (stable_quarantined listed) fun _ _ _ => settles_blocked own _
  apply Triple.bind (quarantined_digest listed)
  intro found
  apply Triple.bind (quarantined_looks listed (looks_targetState _ _))
  intro state
  cases state.1 with
  | absent => exact (returns_moveBack own found).weaken fun _ _ _ => trivial
  | exact =>
      apply (returns_dropQuarantined own listed installed).weaken
      intro store _ known held undisturbed
      obtain ⟨⟨plain, regularIs⟩, digest⟩ := known held undisturbed
      exact exact_of_looks plain (regularIs.trans (by simpa using kind)) digest
  | _ => exact Triple.done (stable_quarantined listed) fun _ _ _ => settles_blocked own _

theorem returns_recoverMissing (own : entry.OwnQuarantine detach.transaction)
    (transaction : String) :
    detach.Returns client (recoverMissing detach.source transaction entry) fun recovered =>
      detach.Settles entry recovered.entry := by
  apply upholds_bind (returns_any (looks_targetState _ _))
  intro state _
  split_ifs with exact_ missing pending
  · exact upholds_done settles_restored
  · apply upholds_handle
    · apply upholds_bind (returns_restoreExactSource _ _)
      exact fun _ _ => upholds_done settles_restored
    · intro error _
      cases error with
      | surface text => exact upholds_done (settles_blocked own text)
      | os name => exact upholds_fail trivial
  · exact upholds_done ⟨rfl, own, fun _ => .inl rfl⟩
  · exact upholds_done (settles_blocked own _)

theorem returns_recoverEntry (own : entry.OwnQuarantine detach.transaction)
    (listed : detach.Listed entry.path)
    (installed : ∀ item ∈ detach.snapshot.entries, item.path = entry.path →
      item.installedSha = entry.installedSha) (transaction : String) :
    detach.Returns client (recoverEntry detach.source transaction entry) fun recovered =>
      detach.Settles entry recovered.entry := by
  unfold recoverEntry
  split_ifs with other
  · exact upholds_done ⟨rfl, own, fun eligible => absurd eligible other⟩
  unfold recoverEligible
  cases place : entry.quarantinePath with
  | none => exact returns_recoverMissing own transaction
  | some quarantine =>
      obtain rfl := own quarantine place
      apply upholds_bind (returns_any (looks_isPresent _))
      intro present _
      apply returns_of_quarantined
      apply Triple.bind (quarantined_isSymlink listed)
      intro linked
      split_ifs with symlink there
      · exact Triple.done (stable_quarantined listed) fun _ _ _ => settles_blocked own _
      · apply (returns_recoverQuarantined own listed installed).weaken
        intro store _ known held undisturbed
        obtain ⟨_, link⟩ := known held undisturbed
        exact link.trans (by simpa using symlink)
      · exact (returns_recoverMissing own transaction).weaken fun _ _ _ => trivial

theorem returns_recoverEntries (entries : List DetachEntry)
    (own : ∀ entry ∈ entries, entry.OwnQuarantine detach.transaction)
    (installed : ∀ entry ∈ entries, detach.Listed entry.path ∧
      ∀ item ∈ detach.snapshot.entries, item.path = entry.path →
        item.installedSha = entry.installedSha) :
    detach.Returns client (recoverEntries detach.source transaction entries) fun recovered =>
      List.Forall₂ detach.Settles entries recovered.1 := by
  induction entries with
  | nil => exact upholds_done .nil
  | cons entry rest ih =>
      apply upholds_bind (ih (fun item mem => own item (List.mem_cons_of_mem _ mem))
        fun item mem => installed item (List.mem_cons_of_mem _ mem))
      intro later settled
      obtain ⟨listed, same⟩ := installed entry List.mem_cons_self
      apply upholds_bind (returns_recoverEntry (own entry List.mem_cons_self) listed same _)
      intro recovered settles
      exact upholds_done (.cons settles settled)

theorem map_origin_of_settles {before after : List DetachEntry}
    (settled : List.Forall₂ detach.Settles before after) :
    after.map DetachEntry.origin = before.map DetachEntry.origin := by
  induction settled with
  | nil => rfl
  | cons first _ ih => rw [List.map_cons, List.map_cons, ih, first.origin]

theorem JournalOf.recovered {after : DetachJournal} (known : detach.JournalOf adoption journal)
    (settled : List.Forall₂ detach.Settles journal.entries after.entries)
    (transactionId : after.transactionId = journal.transactionId)
    (identity : after.identity = journal.identity)
    (provenance : after.provenanceDirs = journal.provenanceDirs)
    (removed : after.removedDirs = journal.removedDirs) : detach.JournalOf adoption after where
  transactionId := transactionId.trans known.transactionId
  identity := identity.trans known.identity
  entries := (map_origin_of_settles settled).trans known.entries
  quarantine := by
    intro entry mem
    obtain ⟨before, _, settles⟩ := mem_of_forall₂ settled mem
    exact settles.quarantine
  provenance := provenance.trans known.provenance
  removed := by
    rw [removed]
    exact known.removed

theorem returns_recoverDetachLocked (authority : detach.Authority adoption)
    (known : detach.JournalOf adoption journal) (errorBefore : Option String) :
    detach.Returns client (recoverDetachLocked detach.source journal errorBefore) fun recovered =>
      detach.JournalOf adoption recovered.1 ∧ detach.Recorded recovered.1 := by
  apply upholds_bind (returns_recoverEntries _ journal.entries known.quarantine
    fun entry mem => known.installed authority mem)
  intro recovered settled
  apply upholds_done
  constructor
  · exact known.recovered settled rfl rfl rfl rfl
  · refine ⟨adoption, authority, known.recovered settled rfl rfl rfl rfl, ?_⟩
    intro _ entry mem
    obtain ⟨before, _, settles⟩ := mem_of_forall₂ settled mem
    exact settles.settled

theorem returns_saveDetach (recorded : detach.Recorded journal) :
    detach.Returns client (saveDetach journal) fun _ => True :=
  upholds_ask recorded (fun _ _ _ _ => trivial) rfl

theorem returns_removeProvenanceDirs (removed directories : List Path) :
    detach.Returns client (removeProvenanceDirs removed directories) fun result =>
      ∀ rel ∈ result.1, rel ∈ removed ∨ rel ∈ directories := by
  induction directories generalizing removed with
  | nil => exact upholds_done fun _ => .inl
  | cons directory rest ih =>
      have skipped : detach.Returns client (removeProvenanceDirs removed rest) fun result =>
          ∀ rel ∈ result.1, rel ∈ removed ∨ rel ∈ directory :: rest :=
        upholds_mono (ih removed)
          (fun _ known rel mem => (known rel mem).imp_right (List.mem_cons_of_mem _))
          fun _ _ => trivial
      unfold removeProvenanceDirs
      split_ifs
      · exact skipped
      have found : (provenanceDir directory : SurfaceProgram digests (Option Bool)).Only
          IsLook := by
        apply looks_bind (looks_isSymlink _)
        intro linked
        split_ifs
        · trivial
        apply looks_bind (looks_isPresent _)
        intro present
        split_ifs
        · trivial
        · exact looks_bind (looks_isDirectory _) fun _ => trivial
      apply upholds_bind (returns_any found)
      rintro (_ | _ | _) _
      · exact skipped
      · exact upholds_bind skipped fun _ known => upholds_done known
      · have removing : (ask (.file (.rmdir (.target directory))) :
            SurfaceProgram digests Unit).Only detach.IsGentle :=
          ⟨trivial, fun answer => Program.Only.ofExcept answer⟩
        apply upholds_bind
        · apply upholds_gentle
          apply gentle_exceptOs
          · apply removing.bind
            intro _
            exact (gentle_of_looks (looks_fsyncDirectory _)).bind fun _ => trivial
          · exact fun _ => trivial
        intro gone _
        split_ifs
        · apply upholds_mono (ih (removed ++ [directory])) _ fun _ _ => trivial
          intro result known rel mem
          rcases known rel mem with before | later
          · rcases List.mem_append.mp before with earlier | here
            · exact .inl earlier
            · exact .inr (List.mem_singleton.mp here ▸ List.mem_cons_self)
          · exact .inr (List.mem_cons_of_mem _ later)
        · exact upholds_bind skipped fun _ known => upholds_done known

theorem returns_cleanup (ongoing : detach.Ongoing adoption journal) :
    detach.Returns client (cleanupDetachProvenanceDirs journal) fun cleaned =>
      detach.Ongoing adoption cleaned.1 := by
  apply upholds_bind (returns_removeProvenanceDirs _ _)
  intro result known
  apply upholds_done
  refine ⟨?_, ongoing.2⟩
  exact
    { ongoing.1 with
      removed := by
        intro rel mem
        rcases known rel mem with before | created
        · exact ongoing.1.removed rel before
        · rw [← ongoing.1.provenance]
          simpa [deepestFirst] using created }

/-! ## Applying -/

/-- An attempt returns values with a property, and shows a journal of the transaction
when it fails. -/
abbrev Attempts (detach : Detach digests) (adoption : AdoptionRecord) (client : Client)
    (program : DetachAttempt digests α) (returns : α → Prop) : Prop :=
  detach.Upholds client program returns fun failure => detach.JournalOf adoption failure.2

theorem attempts_holding
    (known : detach.JournalOf adoption journal) (upholds : detach.Returns client body returns) :
    detach.Attempts adoption client (holding journal body) returns :=
  upholds_attempt upholds fun _ _ => upholds_fail known

theorem attempts_saving (authority : detach.Authority adoption)
    (ongoing : detach.Ongoing adoption journal) :
    detach.Attempts adoption client (saving journal) fun saved =>
      detach.Ongoing adoption saved := by
  apply attempts_holding ongoing.1
  apply upholds_bind (returns_saveDetach (ongoing.recorded authority))
  exact fun _ _ => upholds_done ongoing

theorem attempts_quarantineEntry (authority : detach.Authority adoption)
    (ongoing : detach.Ongoing adoption journal) (listed : detach.Listed rel) (expected : String) :
    detach.Attempts adoption client
      (quarantineEntry journal rel expected (.quarantine detach.transaction rel)) fun saved =>
        detach.Ongoing adoption saved := by
  apply upholds_bind
  · apply attempts_holding ongoing.1
    apply upholds_bind (returns_any (looks_isPresent _))
    intro present _
    split_ifs
    · apply returns_any
      exact looks_bind (looks_targetState _ _) fun _ => looks_bind looks_ensure fun _ => trivial
    · exact returns_moveToDetachQuarantine listed expected
  · exact fun _ _ => attempts_saving authority ongoing.setState

theorem attempts_verifyQuarantined (authority : detach.Authority adoption)
    (ongoing : detach.Ongoing adoption journal) (listed : detach.Listed rel) (expected : String) :
    detach.Attempts adoption client
      (verifyQuarantined journal rel expected (.quarantine detach.transaction rel)) fun saved =>
        detach.Ongoing adoption saved := by
  apply upholds_bind
  · apply attempts_holding ongoing.1
    apply upholds_bind
    · apply returns_of_quarantined
      exact (quarantined_ensureQuarantined listed _ _ _).strengthen (fun _ _ _ _ => trivial)
        fun _ _ _ _ => trivial
    · intro _ _
      apply returns_any
      exact looks_bind (looks_targetState _ _) fun _ => looks_bind looks_ensure fun _ => trivial
  · exact fun _ _ => attempts_saving authority ongoing.setState

theorem attempts_purgeQuarantined (authority : detach.Authority adoption)
    (ongoing : detach.Ongoing adoption journal) (listed : detach.Listed rel)
    (installed : ∀ item ∈ detach.snapshot.entries, item.path = rel → item.installedSha = expected) :
    detach.Attempts adoption client
      (purgeQuarantined journal rel expected (.quarantine detach.transaction rel)) fun saved =>
        detach.Ongoing adoption saved := by
  apply upholds_bind
  · apply attempts_holding ongoing.1
    apply returns_of_quarantined
    apply Triple.bind (quarantined_ensureQuarantined listed _ _ _)
    intro _
    apply returns_exceptOs
    · apply Triple.bind (purges_exact listed installed)
      exact fun _ => returns_any (looks_fsyncDirectory _)
    · exact fun _ => upholds_raise
  · exact fun _ _ => attempts_saving authority ongoing.settle

theorem attempts_whenState {step : DetachAttempt digests DetachJournal}
    (ongoing : detach.Ongoing adoption journal)
    (steps : detach.Attempts adoption client step fun saved => detach.Ongoing adoption saved) :
    detach.Attempts adoption client (whenState rel state journal step) fun saved =>
      detach.Ongoing adoption saved := by
  unfold whenState
  split_ifs
  · exact steps
  · exact upholds_done ongoing

theorem attempts_removeEntry (authority : detach.Authority adoption)
    (ongoing : detach.Ongoing adoption journal) {entry : DetachEntry}
    (found : journal.entryAt rel = some entry) (faultAfter : Option Nat) (deletes : Nat) :
    detach.Attempts adoption client (removeEntry faultAfter entry rel journal deletes)
      fun result => detach.Ongoing adoption result.1 := by
  obtain ⟨mem, rfl⟩ := mem_of_entryAt found
  obtain ⟨listed, installed⟩ := ongoing.1.installed authority mem
  unfold removeEntry
  rw [ongoing.1.transactionId]
  apply upholds_bind (attempts_holding ongoing.1 (returns_any looks_ensure))
  intro _ _
  have located : detach.Ongoing adoption (journal.update entry.path fun own =>
      { own with quarantinePath := some (.quarantine detach.transaction entry.path) }) := by
    refine ⟨ongoing.1.update (fun _ => rfl) ?_, ongoing.2⟩
    rintro own here _ place ⟨⟩
    rw [here]
  apply upholds_bind (attempts_whenState located (attempts_saving authority located.setState))
  intro planned ongoing
  apply upholds_bind (attempts_whenState ongoing
    (attempts_quarantineEntry authority ongoing listed _))
  intro moved ongoing
  apply upholds_bind (attempts_whenState ongoing
    (attempts_verifyQuarantined authority ongoing listed _))
  intro verified ongoing
  split_ifs
  · apply upholds_bind (attempts_purgeQuarantined authority ongoing listed installed)
    intro purged ongoing
    apply upholds_bind (attempts_holding ongoing.1 (returns_any looks_ensure))
    exact fun _ _ => upholds_done ongoing
  · exact upholds_done ongoing

theorem attempts_detachEntry (authority : detach.Authority adoption)
    (ongoing : detach.Ongoing adoption journal) (faultAfter : Option Nat) (deletes : Nat) :
    detach.Attempts adoption client (detachEntry faultAfter rel journal deletes) fun result =>
      detach.Ongoing adoption result.1 := by
  unfold detachEntry
  cases found : journal.entryAt rel with
  | none => exact upholds_fail ongoing.1
  | some entry =>
      have settled (state : DetachState) : detach.Attempts adoption client
          (do
            let saved ← saving (journal.settle rel state)
            return (saved, deletes)) fun result => detach.Ongoing adoption result.1 := by
        apply upholds_bind (attempts_saving authority ongoing.settle)
        exact fun _ saved => upholds_done saved
      have looked (expected : String) : detach.Attempts adoption client
          (holding journal (targetState (.target rel) expected)) fun _ => True :=
        attempts_holding ongoing.1 (returns_any (looks_targetState _ _))
      have ensured {condition : Prop} [Decidable condition] (text : String) :
          detach.Attempts adoption client (holding journal (ensure condition text))
            fun _ => True :=
        attempts_holding ongoing.1 (returns_any looks_ensure)
      dsimp only
      cases action : entry.plannedAction with
      | preservePreexisting | preserveShared | preserveConsumer => exact settled _
      | alreadyAbsent =>
          apply upholds_bind (looked _)
          intro state _
          exact upholds_bind (ensured _) fun _ _ => settled _
      | removeEligible =>
          split_ifs
          · apply upholds_bind (looked _)
            intro state _
            exact upholds_bind (ensured _) fun _ _ => upholds_done ongoing
          · exact attempts_removeEntry authority ongoing found faultAfter deletes
      | preserveBlock => exact attempts_holding ongoing.1 upholds_raise

theorem attempts_detachEntries (authority : detach.Authority adoption)
    (faultAfter : Option Nat) (paths : List Path)
    (ongoing : detach.Ongoing adoption journal) (deletes : Nat) :
    detach.Attempts adoption client (detachEntries faultAfter paths journal deletes)
      fun result => detach.Ongoing adoption result.1 := by
  induction paths generalizing journal deletes with
  | nil => exact upholds_done ongoing
  | cons rel rest ih =>
      apply upholds_bind (attempts_detachEntry authority ongoing faultAfter deletes)
      exact fun next ongoing => ih ongoing next.2

theorem attempts_detachBody (authority : detach.Authority adoption)
    (ongoing : detach.Ongoing adoption journal) (faultAfter : Option Nat) :
    detach.Attempts adoption client (detachBody faultAfter detach.plan journal) fun _ => True := by
  apply upholds_bind (attempts_detachEntries authority faultAfter _ ongoing 0)
  intro detached ongoing
  apply upholds_bind (attempts_holding ongoing.1 (returns_any (looks_forM _ looks_checkDetached)))
  intro _ _
  have committed : detach.Ongoing adoption
      { detached.1 with
        entries := detached.1.entries.map fun entry => { entry with quarantinePath := none }
        status := .committed
        lastError := none } := by
    refine ⟨?_, nofun⟩
    exact
      { transactionId := ongoing.1.transactionId
        identity := ongoing.1.identity
        entries := by rw [← ongoing.1.entries, List.map_map]; rfl
        quarantine := by
          intro entry mem
          obtain ⟨before, _, rfl⟩ := List.mem_map.mp mem
          rintro place ⟨⟩
        provenance := ongoing.1.provenance
        removed := ongoing.1.removed }
  apply upholds_bind (attempts_saving authority committed)
  intro _ _
  apply upholds_bind (attempts_holding committed.1 (returns_any (looks_verifyDetachCommitted _)))
  intro _ _
  apply upholds_bind (attempts_holding committed.1 (returns_cleanup committed))
  intro cleaned ongoing
  apply upholds_bind (attempts_saving authority ongoing)
  exact fun _ _ => upholds_done trivial

theorem returns_detachFailed (authority : detach.Authority adoption)
    (known : detach.JournalOf adoption journal) (error : SurfaceError) :
    detach.Returns client (detachFailed detach.source error journal) fun _ => True := by
  have failed : detach.Ongoing adoption
      { journal with
        status := .recoveryRequired
        lastError := some (error.typeName ++ ":" ++ error.text) } :=
    ⟨{ known with }, nofun⟩
  apply upholds_bind (returns_saveDetach (failed.recorded authority))
  intro _ _
  apply upholds_bind (returns_recoverDetachLocked authority failed.1 _)
  rintro recovered ⟨_, recorded⟩
  apply upholds_bind (returns_saveDetach recorded)
  exact fun _ _ => upholds_done trivial

theorem returns_runDetach (authority : detach.Authority adoption)
    (known : detach.JournalOf adoption journal) (faultAfter : Option Nat) :
    detach.Returns client (runDetach detach.source faultAfter detach.plan journal)
      fun _ => True := by
  have started : detach.Ongoing adoption
      { journal with status := .applying, attempts := journal.attempts + 1, lastError := none } :=
    ⟨{ known with }, nofun⟩
  apply upholds_bind (returns_saveDetach (started.recorded authority))
  intro _ _
  apply upholds_attempt (attempts_detachBody authority started faultAfter)
  exact fun failure shown => returns_detachFailed authority shown failure.1

theorem returns_restartDetach (authority : detach.Authority adoption)
    (ready : detach.plan.blockers = []) (known : detach.JournalOf adoption journal)
    (faultAfter : Option Nat) : detach.Returns client
      (restartDetach detach.source faultAfter detach.snapshot detach.plan journal)
      fun _ => True := by
  apply upholds_bind (returns_assertDetachPlanMatchesCurrent ready)
  intro _ _
  have restarted := Ongoing.restart known
  apply upholds_bind (returns_saveDetach (restarted.recorded authority))
  exact fun _ _ => returns_runDetach authority restarted.1 faultAfter

theorem returns_resumeDetach (authority : detach.Authority adoption)
    (ready : detach.plan.blockers = []) (known : detach.JournalOf adoption journal)
    (faultAfter : Option Nat) : detach.Returns client
      (resumeDetach detach.source faultAfter detach.snapshot detach.plan journal)
      fun _ => True := by
  unfold resumeDetach
  cases status : journal.status with
  | committed =>
      apply upholds_bind (returns_any (looks_verifyDetachCommitted _))
      intro _ _
      apply upholds_bind (returns_cleanup ⟨known, by simp [status]⟩)
      intro cleaned ongoing
      apply upholds_bind (returns_saveDetach (ongoing.recorded authority))
      exact fun _ _ => upholds_done trivial
  | recoveryBlocked => exact upholds_raise
  | recoveryRequired =>
      apply upholds_bind (returns_recoverDetachLocked authority known none)
      rintro recovered ⟨still, recorded⟩
      apply upholds_bind (returns_saveDetach recorded)
      intro _ _
      apply upholds_ensure
      exact fun _ => returns_restartDetach authority ready still faultAfter
  | rolledBack => exact returns_restartDetach authority ready known faultAfter
  | planned =>
      apply upholds_bind (returns_assertDetachPlanMatchesCurrent ready)
      exact fun _ _ => returns_runDetach authority known faultAfter
  | applying => exact returns_runDetach authority known faultAfter

/-! ## The operations -/

theorem returns_detachJournal :
    detach.Returns client (ask (.detachJournal detach.transaction)) fun found =>
      ∀ journal, found = some journal → detach.Recorded journal := by
  apply upholds_ask (by trivial) _ rfl
  rintro store law value ⟨⟩
  exact law.recorded

theorem returns_lock : detach.Returns client (ask (.lock detach.transaction)) fun _ => True :=
  upholds_ask (by trivial) (fun _ _ _ _ => trivial) rfl

theorem looks_validateProvenance (source : Source digests) (journal : DetachJournal) :
    (validateDetachRecoveryProvenance source journal).Only IsLook := by
  have loaded (transaction : String) :
      (loadAdoption transaction : SurfaceProgram digests AdoptionRecord).Only IsLook := by
    have asked : (ask (.adoption transaction) :
        SurfaceProgram digests (Option AdoptionRecord)).Only IsLook := looks_ask trivial
    apply looks_bind asked
    rintro (_ | adoption) <;> trivial
  have inventory : (ask (.sourceInventory source) : SurfaceProgram digests Inventory).Only
      IsLook := looks_ask trivial
  apply looks_bind looks_ensure
  intro _
  apply looks_bind (loaded _)
  intro adoption
  apply looks_bind looks_ensure
  intro _
  apply looks_bind looks_ensure
  intro _
  apply looks_bind looks_ensure
  intro _
  apply looks_bind looks_ensure
  intro _
  apply looks_bind
  · unfold loadPublished
    split <;> trivial
  intro snapshot
  apply looks_bind
  · exact looks_bind inventory fun _ => Program.Only.ofExcept _
  · exact fun _ => Program.Only.ofExcept _

theorem returns_applyDetach (faultAfter : Option Nat) : detach.Returns client
      (applyDetach detach.source detach.snapshot detach.plan faultAfter) fun _ => True := by
  apply upholds_ensure
  intro _
  apply upholds_bind returns_validateDetachInputs
  rintro ⟨inventory, adoption, stored⟩ ⟨ready, trusted, rfl⟩
  have created : detach.Returns client (ask (.createRuntime detach.transaction)) fun _ => True :=
    upholds_ask (by trivial) (fun _ _ _ _ => trivial) rfl
  apply upholds_bind created
  intro _ _
  apply upholds_bind returns_lock
  intro _ _
  apply upholds_bind returns_detachJournal
  rintro (_ | journal) recorded
  · apply upholds_bind (returns_assertDetachPlanMatchesCurrent ready)
    intro _ planned
    have authority : detach.Authority adoption := { trusted with planned }
    have new : detach.Ongoing adoption
        (newDetachTransaction digests detach.identity detach.plan adoption) :=
      ⟨journalOf_new, nofun⟩
    apply upholds_bind (returns_saveDetach (new.recorded authority))
    exact fun _ _ => returns_runDetach authority new.1 faultAfter
  · obtain ⟨own, authority, known, _⟩ := recorded journal rfl
    apply upholds_bind (returns_any (looks_validateProvenance _ _))
    intro _ _
    apply upholds_bind (upholds_computed fun _ _ => trivial)
    exact fun _ _ => returns_resumeDetach authority ready known faultAfter

theorem returns_recoverDetach :
    detach.Returns client (recoverDetach detach.source detach.transaction) fun _ => True := by
  apply upholds_bind returns_lock
  intro _ _
  apply upholds_bind returns_detachJournal
  rintro (_ | journal) recorded
  · exact upholds_raise
  obtain ⟨adoption, authority, known, _⟩ := recorded journal rfl
  apply upholds_ensure
  intro _
  have verified : (ask (.verifySourceRevision detach.source journal.sourceRevision) :
      SurfaceProgram digests Unit).Only IsLook := looks_ask trivial
  apply upholds_bind (returns_any verified)
  intro _ _
  apply upholds_bind (returns_any (looks_validateProvenance _ _))
  intro _ _
  have recovery : detach.Returns client (do
      let recovered ← recoverDetachLocked detach.source journal none
      saveDetach recovered.1
      return DetachOutcome.recovered recovered.1.status recovered.2.1) fun _ => True := by
    apply upholds_bind (returns_recoverDetachLocked authority known none)
    rintro recovered ⟨_, recorded⟩
    apply upholds_bind (returns_saveDetach recorded)
    exact fun _ _ => upholds_done trivial
  cases status : journal.status with
  | committed =>
      apply upholds_bind (returns_any (looks_verifyDetachCommitted _))
      exact fun _ _ => upholds_done trivial
  | rolledBack => exact upholds_done trivial
  | _ => exact recovery

theorem returns_program (operation : DetachOperation) :
    detach.Returns client (operation.program detach.source detach.snapshot detach.plan)
      fun _ => True := by
  cases operation with
  | apply faultAfter => exact returns_applyDetach faultAfter
  | recover => exact returns_recoverDetach
  | edit path change =>
      have edited : detach.Returns client (ask (.consumer path change)) fun _ => True :=
        upholds_ask (by trivial) (fun _ _ _ _ => trivial) rfl
      exact upholds_bind edited fun _ _ => upholds_done trivial

end Detach

end Adwf.ManagedSurface
