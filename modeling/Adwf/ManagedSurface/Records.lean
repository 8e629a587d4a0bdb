import Adwf.Files.Tree

/-!
# Records of the managed surface

The inventory of a framework revision, plans, snapshots and transaction journals.  A
journal entry carries everything an interrupted transaction needs to go on from.
-/

namespace Adwf.ManagedSurface

open Files

/-- A path relative to the consumer root, part by part. -/
abbrev Path := List String

/-- Equality of paths is equality of their parts. -/
instance : LawfulBEq Path :=
  inferInstanceAs (LawfulBEq (List String))

/-- `as_posix`. -/
def Path.text (path : Path) : String :=
  "/".intercalate path

/-- The directories above a path, nearest first. -/
def Path.above (path : Path) : List Path :=
  (path.inits.dropLast.drop 1).reverse

/-- What the transactions of a consumer touch.  A staging file lies beside its target
under a name made from the transaction, a quarantined file in a directory of the
transaction under a name made from the path. -/
inductive Place where
  | target (path : Path)
  | stage (transaction : String) (path : Path)
  | quarantine (transaction : String) (path : Path)
  deriving DecidableEq

@[simp]
theorem Place.target_ne_stage {rel path : Path} {transaction : String} :
    Place.target rel ≠ .stage transaction path := by
  rintro ⟨⟩

@[simp]
theorem Place.quarantine_ne_stage {rel path : Path} {transaction other : String} :
    Place.quarantine other rel ≠ .stage transaction path := by
  rintro ⟨⟩

instance : Layout Place where
  above
    | .target path => path.above.map .target
    | .stage _ path => path.above.map .target
    | .quarantine _ _ => []

/-! ## The framework -/

inductive Ownership where
  | frameworkPrivate
  | sharedGuarded
  | consumerOwned
  deriving DecidableEq, Repr

/-- `load_source_inventory`: the manifest with its checksums and the ownership policy. -/
structure Inventory where
  manifestSha : String
  files : List Path
  sums : Path → String
  shared : List Path
  defaultOwnership : Ownership

/-- `ownership_for`. -/
def ownershipFor (rel : Path) (inventory : Inventory) : Ownership :=
  if rel ∉ inventory.files then .consumerOwned
  else if rel ∈ inventory.shared then .sharedGuarded
  else inventory.defaultOwnership

/-- What `_target_state` finds. -/
inductive TargetState where
  | absent
  | exact
  | collision
  | symlink
  | nonFile
  deriving DecidableEq, Repr

inductive Readiness where
  | ready
  | block
  deriving DecidableEq, Repr

inductive DetachAction where
  | preservePreexisting
  | preserveShared
  | preserveConsumer
  | alreadyAbsent
  | removeEligible
  | preserveBlock
  deriving DecidableEq, Repr

structure DetachItem where
  path : Path
  ownership : Ownership
  installedSha : String
  preservedSha : Option String
  managed : Bool
  targetState : TargetState
  targetSha : Option String
  action : DetachAction
  deriving DecidableEq, Repr

/-- A plan of kind `DETACH`. -/
structure DetachPlan where
  status : Readiness
  sourceRevision : String
  sourceManifestSha : String
  entries : List DetachItem
  blockers : List String
  deriving DecidableEq, Repr

structure SnapshotItem where
  path : Path
  ownership : Ownership
  installedSha : String
  managed : Bool
  preservedSha : Option String
  deriving DecidableEq, Repr

structure Snapshot where
  sourceRevision : String
  sourceManifestSha : String
  entries : List SnapshotItem
  transactionId : Option String
  planSha : Option String
  consumerRootSha : Option String
  deriving DecidableEq, Repr

/-- What makes a detach transaction. -/
structure DetachIdentity where
  adoptionTransactionId : String
  sourceRevision : String
  sourceManifestSha : String
  snapshotSha : String
  planSha : String
  consumerRootSha : String
  deriving DecidableEq

/-- SHA-256 of the bytes of a file, of the canonical texts of records, and of the name
of the consumer root. -/
structure Digests where
  content : String → String
  snapshot : Snapshot → String
  detachPlan : DetachPlan → String
  detach : DetachIdentity → String
  root : String

/-- A framework revision: its files are the bytes its inventory has been verified
against. -/
structure Source (digests : Digests) where
  revision : String
  inventory : Inventory
  files : Path → String
  files_nodup : inventory.files.Nodup
  files_exact : ∀ rel ∈ inventory.files, digests.content (files rel) = inventory.sums rel
  files_apart : ∀ rel ∈ inventory.files, ∀ other ∈ inventory.files, rel ∉ other.above

/-! ## Journals -/

inductive TransactionStatus where
  | planned
  | applying
  | recoveryRequired
  | recoveryBlocked
  | committed
  | rolledBack
  deriving DecidableEq, Repr

/-- What a detach reads of an adoption journal. -/
structure AdoptionRecord where
  status : TransactionStatus
  sourceRevision : String
  sourceManifestSha : String
  planSha : String
  consumerRootSha : String
  createdDirs : List Path
  snapshot : Option Snapshot
  deriving DecidableEq, Repr

inductive DetachState where
  | pending
  | preserved
  | alreadyAbsent
  | quarantinePlanned
  | quarantined
  | verifiedAbsent
  | purged
  | restored
  | recoveryBlocked
  deriving DecidableEq, Repr

structure DetachEntry where
  path : Path
  installedSha : String
  preservedSha : Option String
  ownership : Ownership
  managed : Bool
  plannedAction : DetachAction
  state : DetachState
  quarantinePath : Option Place
  deriving DecidableEq

structure DetachJournal where
  transactionId : String
  status : TransactionStatus
  adoptionTransactionId : String
  sourceRevision : String
  sourceManifestSha : String
  snapshotSha : String
  planSha : String
  consumerRootSha : String
  attempts : Nat
  entries : List DetachEntry
  provenanceDirs : List Path
  removedDirs : List Path
  lastError : Option String
  deriving DecidableEq

end Adwf.ManagedSurface

/-!
## Places and their parents

The directories above a path are its proper prefixes below the consumer root.
-/

namespace Adwf.ManagedSurface

open Files

theorem map_inits_ne_nil {α β : Type} (convert : List α → β) (items : List α) :
    items.inits.map convert ≠ [] :=
  List.ne_nil_of_mem (List.mem_map_of_mem ((List.mem_inits [] items).mpr List.nil_prefix))

theorem mem_dropLast_inits_iff {α : Type} {start items : List α} :
    start ∈ items.inits.dropLast ↔ start <+: items ∧ start ≠ items := by
  induction items generalizing start with
  | nil => simp
  | cons item rest ih =>
      rw [List.inits_cons, List.dropLast_cons_of_ne_nil (map_inits_ne_nil _ _), ← List.map_dropLast,
        List.mem_cons, List.mem_map, List.prefix_cons_iff]
      constructor
      · rintro (rfl | ⟨tail, mem, rfl⟩)
        · exact ⟨.inl rfl, nofun⟩
        · obtain ⟨before, different⟩ := ih.mp mem
          exact ⟨.inr ⟨tail, rfl, before⟩, fun same => different (List.cons.inj same).2⟩
      · rintro ⟨rfl | ⟨tail, rfl, before⟩, different⟩
        · exact .inl rfl
        · exact .inr ⟨tail, ih.mpr ⟨before, fun same => different (by rw [same])⟩, rfl⟩

theorem mem_above_iff {directory path : Path} :
    directory ∈ path.above ↔ directory <+: path ∧ directory ≠ path ∧ directory ≠ [] := by
  unfold Path.above
  rw [List.mem_reverse]
  cases path with
  | nil => simp
  | cons part rest =>
      rw [List.inits_cons, List.dropLast_cons_of_ne_nil (map_inits_ne_nil _ _), List.drop_one, List.tail_cons,
        ← List.map_dropLast, List.mem_map]
      constructor
      · rintro ⟨tail, mem, rfl⟩
        obtain ⟨before, different⟩ := mem_dropLast_inits_iff.mp mem
        exact ⟨List.cons_prefix_cons.mpr ⟨rfl, before⟩,
          fun same => different (List.cons.inj same).2, nofun⟩
      · rintro ⟨before, different, nonempty⟩
        rcases List.prefix_cons_iff.mp before with rfl | ⟨tail, rfl, later⟩
        · exact absurd rfl nonempty
        · exact ⟨tail, mem_dropLast_inits_iff.mpr
            ⟨later, fun same => different (by rw [same])⟩, rfl⟩

theorem above_of_above {outer inner path : Path} (outerAbove : outer ∈ inner.above)
    (innerAbove : inner ∈ path.above) : outer ∈ path.above := by
  obtain ⟨outerPrefix, outerNe, nonempty⟩ := mem_above_iff.mp outerAbove
  obtain ⟨innerPrefix, innerNe, _⟩ := mem_above_iff.mp innerAbove
  refine mem_above_iff.mpr ⟨outerPrefix.trans innerPrefix, ?_, nonempty⟩
  rintro rfl
  exact outerNe (outerPrefix.eq_of_length_le innerPrefix.length_le)

/-- All directories above a path are there. -/
def ParentsReady (tree : FileTree Place) (rel : Path) : Prop :=
  ∀ directory ∈ rel.above, tree.node (.target directory) = .directory

theorem ParentsReady.reaches {tree : FileTree Place} {rel : Path} (ready : ParentsReady tree rel) :
    tree.Reaches (.target rel) := by
  intro place above
  obtain ⟨directory, mem, rfl⟩ := List.mem_map.mp above
  rw [ready directory mem]
  rfl

theorem ParentsReady.look {tree : FileTree Place} {rel : Path} (ready : ParentsReady tree rel) :
    tree.look (.target rel) = tree.node (.target rel) :=
  FileTree.look_of_reaches ready.reaches

theorem ParentsReady.above {tree : FileTree Place} {rel directory : Path}
    (ready : ParentsReady tree rel) (mem : directory ∈ rel.above) : ParentsReady tree directory :=
  fun _ above => ready _ (above_of_above above mem)

theorem look_quarantine (tree : FileTree Place) (transaction : String) (rel : Path) :
    tree.look (.quarantine transaction rel) = tree.node (.quarantine transaction rel) :=
  FileTree.look_of_reaches (by simp [FileTree.Reaches, Layout.above])

end Adwf.ManagedSurface
