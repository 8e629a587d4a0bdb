import Adwf.ManagedSurface.Adoption
import Adwf.ManagedSurface.Consumer
import Adwf.Program.Alone
import Adwf.Value.Fallible

/-!
# Planners and validators agree

What the planners make of an inventory, a snapshot and a consumer tree, written down
without calls; the validators accept it entry by entry.
-/

namespace Adwf.ManagedSurface

open Files Adwf.Program
open Fallible (bind_ok_iff)

variable {digests : Digests} {consumer : Consumer}

/-! ## What is at a path -/

/-- What `_target_state` finds at a node. -/
def targetStateOf (digests : Digests) (node : Node) (expected : String) :
    TargetState × Option String :=
  match node with
  | .symlink _ => (.symlink, none)
  | .absent => (.absent, none)
  | .file _ content =>
      (if digests.content content = expected then .exact else .collision,
        some (digests.content content))
  | _ => (.nonFile, none)

theorem runs_targetState (place : Place) (expected : String) :
    Runs (targetState place expected : SurfaceProgram digests (TargetState × Option String))
      consumer consumer (targetStateOf digests (consumer.tree.look place) expected) := by
  cases found : consumer.tree.look place with
  | absent => exact runs_targetState_absent found
  | file inode content => exact runs_targetState_file found
  | symlink target =>
      apply runs_bind (runs_isSymlink place)
      rw [found]
      rfl
  | directory =>
      apply runs_bind (runs_isSymlink place)
      rw [found]
      apply runs_bind (runs_isPresent place)
      rw [found]
      apply runs_bind (runs_isFile place)
      rw [found]
      rfl
  | special =>
      apply runs_bind (runs_isSymlink place)
      rw [found]
      apply runs_bind (runs_isPresent place)
      rw [found]
      apply runs_bind (runs_isFile place)
      rw [found]
      rfl

/-- A target state and the digest that goes with it. -/
structure Fits (digests : Digests) (expected : String) (seen : TargetState × Option String) :
    Prop where
  absent : seen.1 = .absent → seen.2 = none
  exact : seen.1 = .exact → seen.2 = some expected
  collision : seen.1 = .collision → seen.2 ≠ some expected
  isFile : seen.1 = .exact ∨ seen.1 = .collision →
    ∃ content, seen.2 = some (digests.content content)

theorem fits_targetStateOf (digests : Digests) (node : Node) (expected : String) :
    Fits digests expected (targetStateOf digests node expected) := by
  cases node with
  | file inode content =>
      by_cases same : digests.content content = expected
      · exact ⟨by simp [targetStateOf, same], by simp [targetStateOf, same],
          by simp [targetStateOf, same], fun _ => ⟨content, rfl⟩⟩
      · exact ⟨by simp [targetStateOf, same], by simp [targetStateOf, same],
          by simp [targetStateOf, same], fun _ => ⟨content, rfl⟩⟩
  | _ => constructor <;> simp [targetStateOf]

theorem absent_of_targetStateOf {node : Node} {expected : String}
    (absent : (targetStateOf digests node expected).1 = .absent) : node = .absent := by
  cases node with
  | absent => rfl
  | file inode content =>
      simp only [targetStateOf] at absent
      split_ifs at absent
  | _ => cases absent

/-! ## Plans of adoption -/

section Adoption

variable {source : Source digests} {inventory : Inventory} {plan : AdoptionPlan}

/-- What `plan_adoption` sees of an inventory path. -/
def seenAt (digests : Digests) (tree : FileTree Place) (inventory : Inventory) (rel : Path) :
    TargetState × Option String :=
  targetStateOf digests (tree.look (.target rel)) (inventory.sums rel)

theorem runs_planAdoptionItems (inventory : Inventory) (files : List Path) :
    Runs (planAdoptionItems inventory files :
        SurfaceProgram digests (List AdoptionItem × List String)) consumer consumer
      (files.map fun rel =>
          (adoptionItemOf inventory rel (seenAt digests consumer.tree inventory rel)).1,
        files.flatMap fun rel =>
          (adoptionItemOf inventory rel (seenAt digests consumer.tree inventory rel)).2) := by
  induction files with
  | nil => exact runs_done
  | cons rel rest ih => exact runs_bind (runs_targetState _ _) (runs_bind ih runs_done)

/-- The plan `plan_adoption` makes of a tree. -/
def adoptionPlanOf (digests : Digests) (inventory : Inventory) (sourceRevision : String)
    (tree : FileTree Place) : AdoptionPlan :=
  let blockers := inventory.files.flatMap fun rel =>
    (adoptionItemOf inventory rel (seenAt digests tree inventory rel)).2
  { status := if blockers = [] then .ready else .block
    sourceRevision := sourceRevision
    sourceManifestSha := inventory.manifestSha
    entries := inventory.files.map fun rel =>
      (adoptionItemOf inventory rel (seenAt digests tree inventory rel)).1
    blockers := blockers }

theorem paths_adoptionPlanOf (sourceRevision : String) (tree : FileTree Place) :
    (adoptionPlanOf digests inventory sourceRevision tree).entries.map AdoptionItem.path =
      inventory.files := by
  simp only [adoptionPlanOf, List.map_map]
  exact List.map_id' inventory.files

theorem validateAdoptionPaths_adoptionPlanOf (source : Source digests) (sourceRevision : String)
    (tree : FileTree Place) :
    validateAdoptionPaths (adoptionPlanOf digests source.inventory sourceRevision tree) =
      .ok () := by
  rw [validateAdoptionPaths, require_eq_ok_iff, paths_adoptionPlanOf]
  exact source.files_nodup

theorem runs_planAdoption {sourceRevision : String} (wellFormed : isSha40 sourceRevision = true) :
    Runs (planAdoption source sourceRevision) consumer consumer
      (adoptionPlanOf digests source.inventory sourceRevision consumer.tree) := by
  apply runs_ensure wellFormed
  apply runs_bind (runs_ask rfl)
  apply runs_bind (runs_planAdoptionItems source.inventory source.inventory.files)
  exact runs_bind
    (runs_computed (validateAdoptionPaths_adoptionPlanOf source sourceRevision consumer.tree))
    runs_done

theorem eq_of_planned {sourceRevision : String} {after : Consumer}
    (planned : Runs (planAdoption source sourceRevision) consumer after plan) :
    after = consumer ∧ plan = adoptionPlanOf digests source.inventory sourceRevision
      consumer.tree := by
  by_cases wellFormed : isSha40 sourceRevision = true
  · exact Yields.unique (runs_planAdoption wellFormed) planned
  · exact absurd (raises_ensure wellFormed) (Yields.not_throws planned)

theorem adoptionPlanOf_ready_iff {sourceRevision : String} {tree : FileTree Place} :
    (adoptionPlanOf digests inventory sourceRevision tree).status = .ready ↔
      (adoptionPlanOf digests inventory sourceRevision tree).blockers = [] := by
  simp only [adoptionPlanOf]
  split_ifs with free
  · exact ⟨fun _ => free, fun _ => rfl⟩
  · exact ⟨nofun, fun empty => absurd empty free⟩

theorem free_of_ready {sourceRevision : String} {tree : FileTree Place}
    (ready : (adoptionPlanOf digests inventory sourceRevision tree).status = .ready) {rel : Path}
    (listed : rel ∈ inventory.files) :
    (adoptionItemOf inventory rel (seenAt digests tree inventory rel)).2 = [] :=
  List.flatMap_eq_nil_iff.mp (adoptionPlanOf_ready_iff.mp ready) rel listed

theorem find_of_mem {files : List Path} {rel : Path} (listed : rel ∈ files) :
    files.find? (· = rel) = some rel := by
  cases search : files.find? (· = rel) with
  | none => exact absurd (List.find?_eq_none.mp search rel listed) (by simp)
  | some other =>
      have same : other = rel := by simpa using List.find?_some search
      rw [same]

theorem find_adoptionPlanOf {sourceRevision : String} {tree : FileTree Place} {rel : Path}
    (listed : rel ∈ inventory.files) :
    (adoptionPlanOf digests inventory sourceRevision tree).entries.find? (·.path = rel) =
      some (adoptionItemOf inventory rel (seenAt digests tree inventory rel)).1 := by
  have found : inventory.files.find? (· = rel) = some rel := find_of_mem listed
  simp only [adoptionPlanOf, List.find?_map, Function.comp_def, adoptionItemOf, found,
    Option.map_some]

theorem validateAdoptionState_ok
    (hexadecimal : ∀ content, isSha256 (digests.content content) = true) {rel : Path}
    {seen : TargetState × Option String} (fits : Fits digests (inventory.sums rel) seen)
    (free : (adoptionItemOf inventory rel seen).2 = []) :
    validateAdoptionState inventory rel (adoptionItemOf inventory rel seen).1 = .ok () := by
  obtain ⟨state, sha⟩ := seen
  cases state with
  | absent => exact require_eq_ok_iff.mpr ⟨rfl, fits.absent rfl⟩
  | exact => exact require_eq_ok_iff.mpr ⟨rfl, fits.exact rfl⟩
  | collision =>
      obtain ⟨content, found⟩ := fits.isFile (.inr rfl)
      by_cases shared : ownershipFor rel inventory = .sharedGuarded
      · refine require_eq_ok_iff.mpr ⟨shared, ?_, ?_, fits.collision rfl⟩
        · simp [adoptionItemOf, adoptionActionOf, shared]
        · rw [show sha = some (digests.content content) from found]
          exact hexadecimal content
      · simp [adoptionItemOf, adoptionActionOf, shared] at free
  | symlink => simp [adoptionItemOf, adoptionActionOf] at free
  | nonFile => simp [adoptionItemOf, adoptionActionOf] at free

theorem validateAdoptionAgainst_ok
    (hexadecimal : ∀ content, isSha256 (digests.content content) = true) {sourceRevision : String}
    {tree : FileTree Place}
    (ready : (adoptionPlanOf digests inventory sourceRevision tree).status = .ready) :
    validateAdoptionAgainst inventory (adoptionPlanOf digests inventory sourceRevision tree) =
      .ok () := by
  have sameFiles : (adoptionPlanOf digests inventory sourceRevision tree).entries.map
      AdoptionItem.path = inventory.files :=
    paths_adoptionPlanOf sourceRevision tree
  refine require_bind_eq_ok_iff.mpr ⟨rfl, require_bind_eq_ok_iff.mpr ⟨?_, ?_⟩⟩
  · rw [sameFiles]
    exact ⟨fun _ mem => mem, fun _ mem => mem⟩
  · refine forM_eq_ok fun rel listed => ?_
    rw [validateAdoptionItem, find_adoptionPlanOf listed]
    exact require_bind_eq_ok_iff.mpr ⟨rfl, require_bind_eq_ok_iff.mpr
      ⟨rfl, validateAdoptionState_ok hexadecimal (fits_targetStateOf digests _ _)
        (free_of_ready ready listed)⟩⟩

/-! ## Snapshots of adoption -/

/-- The snapshot entry of an inventory path that was in such a state. -/
def snapshotItemAt (inventory : Inventory) (rel : Path) (state : TargetState × Option String) :
    SnapshotItem :=
  if state.1 = .absent then ⟨rel, ownershipFor rel inventory, inventory.sums rel, true, none⟩
  else ⟨rel, ownershipFor rel inventory, inventory.sums rel, false, state.2⟩

@[simp]
theorem path_snapshotItemAt (rel : Path) (state : TargetState × Option String) :
    (snapshotItemAt inventory rel state).path = rel := by
  unfold snapshotItemAt
  split_ifs <;> rfl

theorem managed_snapshotItemAt {rel : Path} {state : TargetState × Option String} :
    (snapshotItemAt inventory rel state).managed = true ↔ state.1 = .absent := by
  unfold snapshotItemAt
  split_ifs with absent <;> simp [absent]

theorem snapshotItemOf_ok
    (hexadecimal : ∀ content, isSha256 (digests.content content) = true) {rel : Path}
    {seen : TargetState × Option String} (fits : Fits digests (inventory.sums rel) seen)
    (free : (adoptionItemOf inventory rel seen).2 = []) :
    snapshotItemOf (adoptionItemOf inventory rel seen).1 =
      .ok (snapshotItemAt inventory rel seen) := by
  obtain ⟨state, sha⟩ := seen
  have kept : state = .exact ∨ state = .collision → sha.any isSha256 = true := by
    intro isFile
    obtain ⟨content, found⟩ := fits.isFile isFile
    rw [show sha = some (digests.content content) from found]
    exact hexadecimal content
  cases state with
  | absent => rfl
  | exact => simp [adoptionItemOf, snapshotItemOf, snapshotItemAt, kept (.inl rfl)]
  | collision => simp [adoptionItemOf, snapshotItemOf, snapshotItemAt, kept (.inr rfl)]
  | symlink => simp [adoptionItemOf, adoptionActionOf] at free
  | nonFile => simp [adoptionItemOf, adoptionActionOf] at free

theorem mapM_map_eq_ok {α β γ : Type} {first : α → β} {second : β → Except String γ} {both : α → γ}
    {items : List α} (each : ∀ item ∈ items, second (first item) = .ok (both item)) :
    (items.map first).mapM second = .ok (items.map both) := by
  induction items with
  | nil => rfl
  | cons item rest ih =>
      rw [List.map_cons, List.mapM_cons, each item List.mem_cons_self,
        ih fun other mem => each other (List.mem_cons_of_mem item mem)]
      rfl

/-- The snapshot of the plan of a tree. -/
def snapshotOf (digests : Digests) (inventory : Inventory) (sourceRevision : String)
    (tree : FileTree Place) (binding : SnapshotBinding) : Snapshot where
  sourceRevision := sourceRevision
  sourceManifestSha := inventory.manifestSha
  entries := inventory.files.map fun rel =>
    snapshotItemAt inventory rel (seenAt digests tree inventory rel)
  transactionId := binding.transactionId
  planSha := binding.planSha
  consumerRootSha := binding.consumerRootSha

variable {sourceRevision : String} {tree : FileTree Place} {binding : SnapshotBinding}

theorem paths_snapshotOf :
    (snapshotOf digests inventory sourceRevision tree binding).entries.map SnapshotItem.path =
      inventory.files := by
  simp only [snapshotOf, List.map_map, Function.comp_def, path_snapshotItemAt]
  exact List.map_id' inventory.files

theorem find_snapshotOf {rel : Path} (listed : rel ∈ inventory.files) :
    (snapshotOf digests inventory sourceRevision tree binding).entries.find? (·.path = rel) =
      some (snapshotItemAt inventory rel (seenAt digests tree inventory rel)) := by
  have found : inventory.files.find? (· = rel) = some rel := find_of_mem listed
  simp only [snapshotOf, List.find?_map, Function.comp_def, path_snapshotItemAt, found,
    Option.map_some]

theorem validateSnapshotItem_ok {rel : Path} (listed : rel ∈ inventory.files) :
    validateSnapshotItem inventory
      (snapshotOf digests inventory sourceRevision tree binding).entries rel = .ok () := by
  rw [validateSnapshotItem, find_snapshotOf listed]
  unfold snapshotItemAt
  split_ifs with absent
  · simp [require]
    rfl
  · simp [require]
    rfl

theorem validateSnapshotAgainst_ok (distinct : inventory.files.Nodup) :
    validateSnapshotAgainst inventory (snapshotOf digests inventory sourceRevision tree binding) =
      .ok () := by
  unfold validateSnapshotAgainst
  rw [paths_snapshotOf]
  refine require_bind_eq_ok_iff.mpr ⟨distinct, require_bind_eq_ok_iff.mpr ⟨rfl,
    require_bind_eq_ok_iff.mpr ⟨⟨fun _ mem => mem, fun _ mem => mem⟩, ?_⟩⟩⟩
  exact forM_eq_ok fun rel listed => validateSnapshotItem_ok listed

theorem runs_validateSnapshot {snapshot : Snapshot}
    (valid : validateSnapshotAgainst source.inventory snapshot = .ok ()) :
    Runs (validateSnapshot source snapshot) consumer consumer () :=
  runs_bind (runs_ask rfl) (runs_computed valid)

theorem snapshotFromPlan_ok (hexadecimal : ∀ content, isSha256 (digests.content content) = true)
    (ready : (adoptionPlanOf digests source.inventory sourceRevision tree).status = .ready)
    (complete : binding.IsComplete) : snapshotFromPlan source.inventory
        (adoptionPlanOf digests source.inventory sourceRevision tree) binding =
      .ok (snapshotOf digests source.inventory sourceRevision tree binding) := by
  have entries : (adoptionPlanOf digests source.inventory sourceRevision tree).entries.mapM
      snapshotItemOf = .ok _ :=
    mapM_map_eq_ok fun rel listed =>
      snapshotItemOf_ok hexadecimal (fits_targetStateOf digests _ _) (free_of_ready ready listed)
  refine require_bind_eq_ok_iff.mpr ⟨?_, require_bind_eq_ok_iff.mpr ⟨ready, ?_⟩⟩
  · exact require_eq_ok_iff.mp (validateAdoptionPaths_adoptionPlanOf source sourceRevision tree)
  · rw [entries]
    refine require_bind_eq_ok_iff.mpr ⟨complete, ?_⟩
    exact bind_ok_iff.mpr ⟨(), validateSnapshotAgainst_ok source.files_nodup, rfl⟩

theorem runs_snapshotFromAdoptionPlan
    (hexadecimal : ∀ content, isSha256 (digests.content content) = true)
    (ready : (adoptionPlanOf digests source.inventory sourceRevision tree).status = .ready)
    (complete : binding.IsComplete) : Runs (snapshotFromAdoptionPlan source
        (adoptionPlanOf digests source.inventory sourceRevision tree) binding) consumer consumer
      (snapshotOf digests source.inventory sourceRevision tree binding) :=
  runs_bind (runs_ask rfl) (runs_computed (snapshotFromPlan_ok hexadecimal ready complete))

theorem complete_of_snapshotFromPlan {plan : AdoptionPlan} {snapshot : Snapshot}
    (made : snapshotFromPlan inventory plan binding = .ok snapshot) : binding.IsComplete := by
  obtain ⟨_, rest⟩ := require_bind_eq_ok_iff.mp made
  obtain ⟨_, rest⟩ := require_bind_eq_ok_iff.mp rest
  obtain ⟨entries, _, rest⟩ := bind_ok_iff.mp rest
  exact (require_bind_eq_ok_iff.mp rest).1

theorem complete_of_published {plan : AdoptionPlan} {before after : Consumer} {snapshot : Snapshot}
    (published : Runs (snapshotFromAdoptionPlan source plan binding) before after snapshot) :
    binding.IsComplete := by
  cases made : snapshotFromPlan source.inventory plan binding with
  | ok made' => exact complete_of_snapshotFromPlan made
  | error text =>
      have refused : Raises (snapshotFromAdoptionPlan source plan binding) before before
          (.surface text) := by
        apply raises_bind (runs_ask rfl)
        rw [made]
        rfl
      exact absurd refused (Yields.not_throws published)

end Adoption

/-! ## Plans of detaching -/

section Detach

variable {source : Source digests} {snapshot : Snapshot} {tree : FileTree Place}

/-- The entry `plan_detach` makes of a snapshot entry in a tree, and its blocker. -/
def detachItemAt (digests : Digests) (tree : FileTree Place) (item : SnapshotItem) :
    DetachItem × List String :=
  detachItemOf item (targetStateOf digests (tree.look (.target item.path)) item.expectedSha)

theorem runs_planDetachItems (items : List SnapshotItem) :
    Runs (planDetachItems items : SurfaceProgram digests (List DetachItem × List String))
      consumer consumer (items.map fun item => (detachItemAt digests consumer.tree item).1,
        items.flatMap fun item => (detachItemAt digests consumer.tree item).2) := by
  induction items with
  | nil => exact runs_done
  | cons item rest ih => exact runs_bind (runs_targetState _ _) (runs_bind ih runs_done)

/-- The plan `plan_detach` makes of a snapshot in a tree. -/
def detachPlanOf (digests : Digests) (snapshot : Snapshot) (tree : FileTree Place) : DetachPlan :=
  let blockers := snapshot.entries.flatMap fun item => (detachItemAt digests tree item).2
  { status := if blockers = [] then .ready else .block
    sourceRevision := snapshot.sourceRevision
    sourceManifestSha := snapshot.sourceManifestSha
    entries := snapshot.entries.map fun item => (detachItemAt digests tree item).1
    blockers := blockers }

theorem paths_detachPlanOf : (detachPlanOf digests snapshot tree).entries.map DetachItem.path =
    snapshot.entries.map SnapshotItem.path := by
  simp [detachPlanOf, detachItemAt, detachItemOf]

theorem validateDetachPlan_ok (valid : validateSnapshotAgainst source.inventory snapshot = .ok ()) :
    validateDetachPlan (detachPlanOf digests snapshot tree) = .ok () := by
  rw [validateDetachPlan, require_eq_ok_iff, paths_detachPlanOf]
  exact (require_bind_eq_ok_iff.mp valid).1

theorem runs_planDetach (valid : validateSnapshotAgainst source.inventory snapshot = .ok ()) :
    Runs (planDetach source snapshot) consumer consumer
      (detachPlanOf digests snapshot consumer.tree) := by
  apply runs_bind (runs_validateSnapshot valid)
  apply runs_bind (runs_planDetachItems snapshot.entries)
  exact runs_bind (runs_computed (validateDetachPlan_ok valid)) runs_done

theorem detachPlanOf_ready_iff : (detachPlanOf digests snapshot tree).status = .ready ↔
      (detachPlanOf digests snapshot tree).blockers = [] := by
  simp only [detachPlanOf]
  split_ifs with free
  · exact ⟨fun _ => free, fun _ => rfl⟩
  · exact ⟨nofun, fun empty => absurd empty free⟩

theorem removable_of_action {item : SnapshotItem} {seen : TargetState × Option String}
    (removed : (detachItemOf item seen).1.action = .removeEligible) :
    item.managed = true ∧ item.ownership = .frameworkPrivate ∧ seen.1 = .exact := by
  obtain ⟨state, sha⟩ := seen
  simp only [detachItemOf, detachActionOf] at removed
  split_ifs at removed with foreign shared other
  cases state with
  | exact => exact ⟨by simpa using foreign, by simpa using other, rfl⟩
  | _ => cases removed

/-- An entry without a blocker passes its check. -/
theorem validateDetachItem_ok {item : SnapshotItem} {seen : TargetState × Option String}
    (fits : Fits digests item.expectedSha seen) (free : (detachItemOf item seen).2 = []) :
    validateDetachItem (detachItemOf item seen).1 = .ok () := by
  unfold validateDetachItem
  cases action : (detachItemOf item seen).1.action with
  | removeEligible =>
      obtain ⟨managed, owned, exact⟩ := removable_of_action action
      have found := fits.exact exact
      rw [SnapshotItem.expectedSha, if_pos managed] at found
      exact require_eq_ok_iff.mpr ⟨owned, managed, exact, found⟩
  | alreadyAbsent =>
      obtain ⟨state, sha⟩ := seen
      simp only [detachItemOf, detachActionOf] at action
      split_ifs at action with foreign shared other
      have managed : item.managed = true := by simpa using foreign
      cases state with
      | absent => exact require_eq_ok_iff.mpr ⟨managed, rfl⟩
      | _ => cases action
  | preserveBlock =>
      obtain ⟨state, sha⟩ := seen
      simp only [detachItemOf, detachActionOf] at action free
      split_ifs at action free with foreign shared other
      cases state with
      | absent | exact => cases action
      | _ => cases free
  | _ => rfl

theorem runs_verifySourceRevision {expected : String} (same : source.revision = expected) :
    Runs (ask (.verifySourceRevision source expected) : SurfaceProgram digests Unit) consumer
      consumer () := by
  apply runs_ask
  rw [Consumer.serve, if_pos same]

theorem raises_verifySourceRevision {expected : String} (other : source.revision ≠ expected) :
    Raises (ask (.verifySourceRevision source expected) : SurfaceProgram digests Unit) consumer
      consumer (.surface "SOURCE_REVISION_MISMATCH") := by
  apply Throws.invoke
  rw [Consumer.serve, if_neg other]

theorem runs_loadTrusted {adoption : AdoptionRecord} {transaction planSha : String}
    (valid : validateSnapshotAgainst source.inventory snapshot = .ok ())
    (atRevision : source.revision = snapshot.sourceRevision)
    (bound : snapshot.transactionId = some transaction ∧ snapshot.planSha = some planSha ∧
      snapshot.consumerRootSha = some digests.root)
    (stored : consumer.adoptions transaction = some adoption)
    (committed : adoption = ⟨.committed, snapshot.sourceRevision, snapshot.sourceManifestSha,
      planSha, digests.root, adoption.createdDirs, some snapshot⟩) :
    Runs (loadTrustedAdoptionSnapshot source snapshot) consumer consumer (adoption, snapshot) := by
  unfold loadTrustedAdoptionSnapshot
  apply runs_bind (runs_validateSnapshot valid)
  rw [bound.1, bound.2.1, bound.2.2]
  apply runs_ensure rfl
  apply runs_bind (runs_verifySourceRevision atRevision)
  have loaded : Runs (loadAdoption transaction : SurfaceProgram digests AdoptionRecord) consumer
      consumer adoption := by
    apply runs_bind (runs_ask rfl)
    rw [stored]
    exact runs_done
  apply runs_bind loaded
  rw [committed]
  apply runs_ensure rfl
  apply runs_ensure rfl
  apply runs_ensure rfl
  apply runs_ensure rfl
  apply runs_ensure rfl
  apply runs_bind runs_done
  apply runs_bind (runs_validateSnapshot valid)
  apply runs_ensure rfl
  exact runs_done

theorem runs_validateDetachInputs {adoption : AdoptionRecord}
    (valid : validateSnapshotAgainst source.inventory snapshot = .ok ())
    (ready : (detachPlanOf digests snapshot tree).status = .ready)
    (trusted : Runs (loadTrustedAdoptionSnapshot source snapshot) consumer consumer
      (adoption, snapshot)) :
    Runs (validateDetachInputs source snapshot (detachPlanOf digests snapshot tree)) consumer
      consumer (source.inventory, adoption, snapshot) := by
  have free := detachPlanOf_ready_iff.mp ready
  apply runs_bind (runs_computed (validateDetachPlan_ok valid))
  apply runs_ensure ⟨ready, free⟩
  apply runs_bind trusted
  have entries : (detachPlanOf digests snapshot tree).entries.forM validateDetachItem = .ok () := by
    refine forM_eq_ok fun entry listed => ?_
    obtain ⟨item, mem, rfl⟩ := List.mem_map.mp listed
    exact validateDetachItem_ok (fits_targetStateOf digests _ _)
      (List.flatMap_eq_nil_iff.mp free item mem)
  apply runs_bind (runs_computed entries)
  exact runs_bind (runs_ask rfl) runs_done

end Detach

/-- What a ready plan of adoption leads to: the executor's checks of it turn on the
framework checkout alone, its snapshot is valid, and a plan that detaches the snapshot
passes the checks of its inputs and removes nothing that was there before. -/
structure PlannersAgree (source : Source digests) (contract : PolicyContract)
    (consumer : Consumer) (plan : AdoptionPlan) : Prop where
  adoption : Runs (validateAdoptionPlan source contract plan) consumer consumer source.inventory ↔
    validateCanonicalContract source.inventory contract = .ok () ∧
      source.revision = plan.sourceRevision
  snapshot (binding : SnapshotBinding) (complete : binding.IsComplete) (later : Consumer) :
    ∃ snapshot, Runs (snapshotFromAdoptionPlan source plan binding) later later snapshot ∧
      Runs (validateSnapshot source snapshot) later later ()
  inputs (transaction planSha : String) (createdDirs : List Path) (snapshot : Snapshot)
    (before after later changed : Consumer) (detach : DetachPlan)
    (published : Runs (snapshotFromAdoptionPlan source plan
      ⟨some transaction, some planSha, some digests.root⟩) before after snapshot)
    (committed : later.adoptions transaction =
      some (committedAdoption digests plan planSha createdDirs snapshot))
    (atRevision : source.revision = plan.sourceRevision)
    (planned : Runs (planDetach source snapshot) later changed detach)
    (ready : detach.status = .ready) :
    Runs (validateDetachInputs source snapshot detach) later later
      (source.inventory, committedAdoption digests plan planSha createdDirs snapshot, snapshot)
  created (binding : SnapshotBinding) (snapshot : Snapshot) (before after later changed : Consumer)
    (detach : DetachPlan)
    (published : Runs (snapshotFromAdoptionPlan source plan binding) before after snapshot)
    (planned : Runs (planDetach source snapshot) later changed detach) (item : DetachItem)
    (listed : item ∈ detach.entries) (removed : item.action = .removeEligible) :
    consumer.tree.look (.target item.path) = .absent ∧
      ∃ entry ∈ plan.entries, entry.path = item.path ∧ entry.action = .createPlanned

section Agree

variable {source : Source digests} {contract : PolicyContract} {sourceRevision : String}
variable {tree : FileTree Place} {binding : SnapshotBinding}

/-- The executor's checks of a ready plan turn on the framework checkout alone. -/
theorem runs_validateAdoptionPlan_iff
    (hexadecimal : ∀ content, isSha256 (digests.content content) = true)
    (ready : (adoptionPlanOf digests source.inventory sourceRevision tree).status = .ready) :
    Runs (validateAdoptionPlan source contract
        (adoptionPlanOf digests source.inventory sourceRevision tree)) consumer consumer
        source.inventory ↔ validateCanonicalContract source.inventory contract = .ok () ∧
        source.revision = sourceRevision := by
  have paths : Runs (computed (validateAdoptionPaths
      (adoptionPlanOf digests source.inventory sourceRevision tree)) : SurfaceProgram digests Unit)
      consumer consumer () :=
    runs_computed (validateAdoptionPaths_adoptionPlanOf source sourceRevision tree)
  have free := adoptionPlanOf_ready_iff.mp ready
  constructor
  · intro accepted
    cases canonical : validateCanonicalContract source.inventory contract with
    | error text =>
        have refused : Raises (validateAdoptionPlan source contract
            (adoptionPlanOf digests source.inventory sourceRevision tree)) consumer consumer
            (.surface text) := by
          apply raises_bind paths
          apply Throws.ofCheck ⟨ready, free⟩
          apply raises_bind (runs_ask rfl)
          apply raises_bind_of_raises
          rw [canonical]
          rfl
        exact absurd refused (Yields.not_throws accepted)
    | ok passed =>
        refine ⟨rfl, Classical.byContradiction fun other => ?_⟩
        have refused : Raises (validateAdoptionPlan source contract
            (adoptionPlanOf digests source.inventory sourceRevision tree)) consumer consumer
            (.surface "SOURCE_REVISION_MISMATCH") := by
          apply raises_bind paths
          apply Throws.ofCheck ⟨ready, free⟩
          apply raises_bind (runs_ask rfl)
          apply raises_bind (runs_computed canonical)
          apply raises_bind (runs_computed (validateAdoptionAgainst_ok hexadecimal ready))
          exact raises_bind_of_raises (raises_verifySourceRevision other)
        exact Yields.not_throws accepted refused
  · rintro ⟨canonical, atRevision⟩
    apply runs_bind paths
    apply runs_ensure ⟨ready, free⟩
    apply runs_bind (runs_ask rfl)
    apply runs_bind (runs_computed canonical)
    apply runs_bind (runs_computed (validateAdoptionAgainst_ok hexadecimal ready))
    exact runs_bind (runs_verifySourceRevision atRevision) runs_done

theorem absent_of_removable {later : FileTree Place} {item : DetachItem}
    (listed : item ∈ (detachPlanOf digests
      (snapshotOf digests source.inventory sourceRevision tree binding) later).entries)
    (removed : item.action = .removeEligible) : tree.look (.target item.path) = .absent ∧
      ∃ entry ∈ (adoptionPlanOf digests source.inventory sourceRevision tree).entries,
        entry.path = item.path ∧ entry.action = .createPlanned := by
  obtain ⟨kept, mem, rfl⟩ := List.mem_map.mp listed
  obtain ⟨rel, inFiles, rfl⟩ := List.mem_map.mp mem
  have absent := managed_snapshotItemAt.mp (removable_of_action removed).1
  have path : (detachItemAt digests later (snapshotItemAt source.inventory rel
      (seenAt digests tree source.inventory rel))).1.path = rel :=
    path_snapshotItemAt rel _
  rw [path]
  refine ⟨absent_of_targetStateOf absent, _, List.mem_map_of_mem inFiles, rfl, ?_⟩
  simp only [adoptionItemOf, absent, adoptionActionOf]

/-- Planners and validators agree on every inventory and every consumer tree. -/
theorem planners_agree (hexadecimal : ∀ content, isSha256 (digests.content content) = true)
    (source : Source digests) (contract : PolicyContract) (sourceRevision : String)
    (consumer after : Consumer) (plan : AdoptionPlan)
    (planned : Runs (planAdoption source sourceRevision) consumer after plan)
    (ready : plan.status = .ready) : PlannersAgree source contract consumer plan := by
  obtain ⟨_, rfl⟩ := eq_of_planned planned
  have valid (binding : SnapshotBinding) : validateSnapshotAgainst source.inventory
      (snapshotOf digests source.inventory sourceRevision consumer.tree binding) = .ok () :=
    validateSnapshotAgainst_ok source.files_nodup
  have isSnapshot {binding : SnapshotBinding} {before after : Consumer} {snapshot : Snapshot}
      (complete : binding.IsComplete)
      (published : Runs (snapshotFromAdoptionPlan source (adoptionPlanOf digests source.inventory
        sourceRevision consumer.tree) binding) before after snapshot) :
      snapshot = snapshotOf digests source.inventory sourceRevision consumer.tree binding :=
    (Yields.unique (runs_snapshotFromAdoptionPlan hexadecimal ready complete) published).2
  refine ⟨runs_validateAdoptionPlan_iff hexadecimal ready, ?_, ?_, ?_⟩
  · intro binding complete later
    exact ⟨_, runs_snapshotFromAdoptionPlan hexadecimal ready complete,
      runs_validateSnapshot (valid binding)⟩
  · intro transaction planSha createdDirs snapshot before after later changed detach published
      committed atRevision plannedDetach readyDetach
    obtain rfl := isSnapshot ⟨rfl, rfl⟩ published
    obtain ⟨_, rfl⟩ := Yields.unique (runs_planDetach (valid _)) plannedDetach
    exact runs_validateDetachInputs (valid _) readyDetach
      (runs_loadTrusted (valid _) atRevision ⟨rfl, rfl, rfl⟩ committed rfl)
  · intro binding snapshot before after later changed detach published plannedDetach item listed
      removed
    have complete : binding.IsComplete := complete_of_published published
    obtain rfl := isSnapshot complete published
    obtain ⟨_, rfl⟩ := Yields.unique (runs_planDetach (valid _)) plannedDetach
    exact absent_of_removable listed removed

end Agree

/-! ## A checkout with one file -/

/-- Digests that tell one content from the others. -/
def markedDigests : Digests where
  content content := "".pushn (if content = "framework" then 'f' else '0') 64
  snapshot _ := "snapshot"
  detachPlan _ := "detach-plan"
  detach _ := "detach"
  root := "root"

/-- A checkout with one file. -/
def oneFile : Source markedDigests where
  revision := "".pushn 'a' 40
  inventory :=
    { manifestSha := "manifest"
      files := [["adwf.py"]]
      sums := fun _ => "".pushn 'f' 64
      shared := []
      defaultOwnership := .frameworkPrivate }
  files _ := "framework"
  files_nodup := by decide
  files_exact := by
    intro rel listed
    rfl
  files_apart := by decide

/-- A policy that names what it has to. -/
def fullContract : PolicyContract where
  defaultUnlistedOwnership := .consumerOwned
  detachTransactionSchema := ".adwf/schemas/managed-surface-detach-transaction.schema.json"
  hasDetachSchema := true
  invariants := requiredInvariants

/-- A consumer without files. -/
def emptyConsumer : Consumer where
  tree := ⟨[]⟩
  adoptions _ := none
  detaches _ := none

theorem isSha256_markedDigests (content : String) :
    isSha256 (markedDigests.content content) = true := by
  simp only [markedDigests]
  split_ifs <;> decide

/-- The only file is planned for an empty consumer. -/
theorem planners_agree_oneFile : PlannersAgree oneFile fullContract emptyConsumer
    (adoptionPlanOf markedDigests oneFile.inventory oneFile.revision emptyConsumer.tree) :=
  planners_agree isSha256_markedDigests oneFile fullContract oneFile.revision emptyConsumer
    emptyConsumer _ (runs_planAdoption (by decide)) (by decide)

/-- A plan for another revision than that of the checkout is ready, and it is refused. -/
theorem not_always_accepted :
    ¬ ∀ (source : Source markedDigests) (contract : PolicyContract) (sourceRevision : String)
      (consumer after : Consumer) (plan : AdoptionPlan),
      Runs (planAdoption source sourceRevision) consumer after plan → plan.status = .ready →
      ∃ inventory, Runs (validateAdoptionPlan source contract plan) consumer consumer
        inventory := by
  intro always
  have planned : Runs (planAdoption oneFile ("".pushn 'b' 40)) emptyConsumer emptyConsumer
      (adoptionPlanOf markedDigests oneFile.inventory ("".pushn 'b' 40) emptyConsumer.tree) :=
    runs_planAdoption (by decide)
  have ready : (adoptionPlanOf markedDigests oneFile.inventory ("".pushn 'b' 40)
      emptyConsumer.tree).status = .ready := by decide
  have canonical : validateCanonicalContract oneFile.inventory fullContract = .ok () := by
    decide +kernel
  obtain ⟨inventory, accepted⟩ := always oneFile fullContract _ _ _ _ planned ready
  have refused : Raises (validateAdoptionPlan oneFile fullContract
      (adoptionPlanOf markedDigests oneFile.inventory ("".pushn 'b' 40) emptyConsumer.tree))
      emptyConsumer emptyConsumer (.surface "SOURCE_REVISION_MISMATCH") := by
    apply raises_bind (runs_computed (validateAdoptionPaths_adoptionPlanOf oneFile _ _))
    apply Throws.ofCheck ⟨ready, adoptionPlanOf_ready_iff.mp ready⟩
    apply raises_bind (runs_ask rfl)
    apply raises_bind (runs_computed canonical)
    apply raises_bind (runs_computed (validateAdoptionAgainst_ok isSha256_markedDigests ready))
    exact raises_bind_of_raises (raises_verifySourceRevision (by decide))
  exact Yields.not_throws accepted refused

end Adwf.ManagedSurface
