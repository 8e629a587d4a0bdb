import Adwf.ManagedSurface.Consumer

/-!
# The law of a detach

What a journal of a detach says once `apply_detach` has checked its snapshot and its
plan, and what every call must keep: undisturbed, no file of the consumer is lost.
-/

namespace Adwf.ManagedSurface

open Files Adwf.Program

universe u

variable {digests : Digests}

/-- What `apply_detach` is called with, and the adoptions of the consumer. -/
structure Detach (digests : Digests) where
  source : Source digests
  snapshot : Snapshot
  plan : DetachPlan
  adoptions : String → Option AdoptionRecord

namespace Detach

def identity (detach : Detach digests) : DetachIdentity :=
  detachIdentity digests (detach.snapshot.transactionId.getD "") detach.snapshot detach.plan

def transaction (detach : Detach digests) : String :=
  detachTransaction digests detach.snapshot detach.plan

/-- A snapshot that an adoption stands behind. -/
structure Trusted (detach : Detach digests) (adoption : AdoptionRecord) : Prop where
  adopted : ∃ transaction, detach.snapshot.transactionId = some transaction ∧
    detach.adoptions transaction = some adoption
  revision : detach.source.revision = detach.snapshot.sourceRevision
  validated : validateSnapshotAgainst detach.source.inventory detach.snapshot = .ok ()
  committed : adoption.status = .committed
  adoptionRevision : adoption.sourceRevision = detach.snapshot.sourceRevision
  adoptionManifest : adoption.sourceManifestSha = detach.snapshot.sourceManifestSha
  adoptionPlan : detach.snapshot.planSha = some adoption.planSha
  root : detach.snapshot.consumerRootSha = some digests.root
  adoptionRoot : adoption.consumerRootSha = digests.root
  published : adoption.snapshot = some detach.snapshot

/-- A trusted snapshot, and the plan for it. -/
structure Authority (detach : Detach digests) (adoption : AdoptionRecord) : Prop extends
    detach.Trusted adoption where
  planned : List.Forall₂ (fun item entry => ∃ state, detachItemOf item state = (entry, []))
    detach.snapshot.entries detach.plan.entries

end Detach

/-- What no step changes of an entry. -/
def DetachEntry.origin (entry : DetachEntry) : DetachEntry :=
  { entry with state := .pending, quarantinePath := none }

/-- The quarantined object of an entry is its own. -/
def DetachEntry.OwnQuarantine (transaction : String) (entry : DetachEntry) : Prop :=
  ∀ place ∈ entry.quarantinePath, place = .quarantine transaction entry.path

/-- After a recovery an entry is restored or blocked. -/
def DetachEntry.Settled (entry : DetachEntry) : Prop :=
  entry.plannedAction = .removeEligible →
    entry.state = .restored ∨ entry.state = .recoveryBlocked

namespace Detach

/-- A journal of the transaction, whatever has been done so far. -/
structure JournalOf (detach : Detach digests) (adoption : AdoptionRecord)
    (journal : DetachJournal) : Prop where
  transactionId : journal.transactionId = detach.transaction
  identity : journal.identity = detach.identity
  entries : journal.entries.map DetachEntry.origin =
    detach.plan.entries.map fun item => item.entry.origin
  quarantine : ∀ entry ∈ journal.entries, entry.OwnQuarantine detach.transaction
  provenance : journal.provenanceDirs = adoption.createdDirs
  removed : ∀ rel ∈ journal.removedDirs, rel ∈ adoption.createdDirs

/-- A saved journal of the transaction. -/
def Recorded (detach : Detach digests) (journal : DetachJournal) : Prop :=
  ∃ adoption, detach.Authority adoption ∧ detach.JournalOf adoption journal ∧
    (journal.status = .recoveryBlocked → ∀ entry ∈ journal.entries, entry.Settled)

/-! ## The world of a detach -/

section World

variable {Client : Type u} (detach : Detach digests)

/-- What every call keeps. -/
structure Law (store : Watched Client) : Prop where
  adoptions : store.consumer.adoptions = detach.adoptions
  recorded : ∀ journal, store.consumer.detaches detach.transaction = some journal →
    detach.Recorded journal
  safe : store.disturbed = false → store.lost = []

/-- What the holder of the lock may rely on. -/
structure Relies (client : Client) (before after : Watched Client) : Prop where
  holder : after.holder = some client → before.holder = some client
  undisturbed : after.holder = some client → after.disturbed = false →
    before.disturbed = false ∧ ∀ item ∈ detach.snapshot.entries,
      after.consumer.tree.node (.quarantine detach.transaction item.path) =
        before.consumer.tree.node (.quarantine detach.transaction item.path)
  inodes : after.holder = some client →
    before.consumer.tree.freshInode ≤ after.consumer.tree.freshInode
  names : after.holder = some client → ∀ place,
    (after.consumer.tree.node place).inode < before.consumer.tree.freshInode →
    (after.consumer.tree.node place).inode = (before.consumer.tree.node place).inode ∨
      (after.consumer.tree.node place).inode = 0

def world (Client : Type u) (detach : Detach digests) :
    World Client (Watched Client) (Call digests) Answer where
  step := Watched.Serves detach.snapshot detach.transaction
  inv := detach.Law
  rely := detach.Relies
  rely_refl client store := by
    constructor
    · exact fun held => held
    · exact fun _ undisturbed => ⟨undisturbed, fun _ _ => rfl⟩
    · exact fun _ => Nat.le_refl _
    · exact fun _ _ _ => .inl rfl
  rely_trans := by
    intro client first second third early late
    constructor
    · exact fun held => early.holder (late.holder held)
    · intro held undisturbed
      obtain ⟨middle, same⟩ := late.undisturbed held undisturbed
      obtain ⟨before, still⟩ := early.undisturbed (late.holder held) middle
      exact ⟨before, fun item listed => (same item listed).trans (still item listed)⟩
    · exact fun held => Nat.le_trans (early.inodes (late.holder held)) (late.inodes held)
    · intro held place known
      have seen := Nat.lt_of_lt_of_le known (early.inodes (late.holder held))
      rcases late.names held place seen with same | none
      · rw [same] at known ⊢
        exact early.names (late.holder held) place known
      · exact .inr none

end World

/-! ## What others do -/

section Others

variable {Client : Type u} {detach : Detach digests} {client : Client} {store : Watched Client}

theorem serve_tree_of_unlocked {call : Call digests} (consumer : Consumer)
    (unlocked : needsLock call = false) (own : ∀ path edit, call ≠ .consumer path edit) :
    (consumer.serve call).1.tree = consumer.tree := by
  cases call with
  | file call => cases call <;> first | rfl | cases unlocked
  | consumer path edit => exact absurd rfl (own path edit)
  | _ => rfl

theorem after_holder {call : Call digests} (own : ∀ transaction, call ≠ .lock transaction) :
    (store.after detach.snapshot detach.transaction client call).holder = store.holder := by
  cases call with
  | lock transaction => exact absurd rfl (own transaction)
  | _ => rfl

theorem after_consumer {call : Call digests} :
    (store.after detach.snapshot detach.transaction client call).consumer =
      (store.consumer.serve call).1 := by
  cases call <;> rfl

/-- The watch is disturbed once and for all. -/
theorem undisturbed_of_after {call : Call digests} (undisturbed :
      (store.after detach.snapshot detach.transaction client call).disturbed = false) :
    store.disturbed = false := by
  cases call with
  | lock transaction => exact undisturbed
  | _ => exact (Bool.or_eq_false_iff.mp undisturbed).1

theorem quarantine_of_edit {path : Path} {edit : Edit}
    (undisturbed : (store.after detach.snapshot detach.transaction client
      (.consumer path edit : Call digests)).disturbed = false) : ∀ item ∈ detach.snapshot.entries,
      (store.consumer.tree.edit (.target path) edit).node
          (.quarantine detach.transaction item.path) =
        store.consumer.tree.node (.quarantine detach.transaction item.path) := by
  have unchanged := (Bool.or_eq_false_iff.mp undisturbed).2
  simp only [quarantineChanged, List.any_eq_false, decide_eq_true_eq, not_not] at unchanged
  exact fun item listed => (unchanged item listed).symm

theorem relies_of_edit {path : Path} {edit : Edit} : detach.Relies client store
      (store.after detach.snapshot detach.transaction client
        (.consumer path edit : Call digests)) := by
  constructor
  · exact fun held => held
  · exact fun _ undisturbed => ⟨undisturbed_of_after undisturbed, quarantine_of_edit undisturbed⟩
  · exact fun _ => store.consumer.tree.freshInode_edit_le (.target path) edit
  · exact fun _ place known => store.consumer.tree.inode_edit (.target path) place edit known

theorem relies_of_vacant {later : Watched Client} (other : later.holder ≠ some client) :
    detach.Relies client store later :=
  ⟨fun held => absurd held other, fun held => absurd held other, fun held => absurd held other,
    fun held => absurd held other⟩

theorem relies_of_unlocked {call : Call digests} {actor : Client}
    (unlocked : needsLock call = false) (own : ∀ path edit, call ≠ .consumer path edit)
    (free : ∀ transaction, call ≠ .lock transaction) : detach.Relies client store
      (store.after detach.snapshot detach.transaction actor call) := by
  have same := serve_tree_of_unlocked store.consumer unlocked own
  constructor
  · rw [after_holder free]
    exact fun held => held
  · rw [after_consumer, same]
    exact fun _ undisturbed => ⟨undisturbed_of_after undisturbed, fun _ _ => rfl⟩
  · rw [after_consumer, same]
    exact fun _ => Nat.le_refl _
  · rw [after_consumer, same]
    exact fun _ _ _ => .inl rfl

/-- Whoever does not hold the lock leaves its holder what it relies on. -/
theorem tolerated : Tolerated (detach.world Client) := by
  rintro actor other store call later answer different kept _ step
  have locked : needsLock call = true → store.holder = some actor →
      (store.after detach.snapshot detach.transaction actor call).holder ≠ some other := by
    intro needed holds
    rw [after_holder (by rintro transaction rfl; cases needed), holds]
    exact fun same => different (Option.some.inj same)
  cases step with
  | served holding effect _ =>
      subst effect
      by_cases needed : needsLock call = true
      · exact relies_of_vacant (locked needed (holding needed))
      · have unlocked : needsLock call = false := by simpa using needed
        cases call with
        | consumer path edit => exact relies_of_edit
        | lock transaction =>
            exact relies_of_vacant fun same => different (Option.some.inj same)
        | _ => exact relies_of_unlocked unlocked nofun nofun
  | failed unchanged _ _ =>
      rw [unchanged]
      exact (detach.world Client).rely_refl other store
  | landed holding saves effect _ _ =>
      subst effect
      have needed : needsLock call = true := by
        cases call with
        | saveDetachJournal journal => rfl
        | _ => cases saves
      exact relies_of_vacant (locked needed (holding needed))
  | unsteady _ unchanged =>
      rw [unchanged]
      exact (detach.world Client).rely_refl other store

end Others

end Detach

end Adwf.ManagedSurface
