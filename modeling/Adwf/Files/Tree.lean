import Mathlib

/-!
# A file tree

Places hold nodes: a file is a name of an inode, and hard links are further names of
one inode.  A place is reached through its parent directories.  The calls are those
of a POSIX file system as a program sees them; each either has its effect or raises
and changes nothing.
-/

namespace Adwf.Files

/-! ## Nodes -/

inductive Node where
  | absent
  | file (inode : Nat) (content : String)
  | directory
  | special
  | symlink (target : Node)
  deriving DecidableEq, Repr

namespace Node

/-- What a path leads to. -/
def follow : Node → Node
  | symlink target => target.follow
  | node => node

def isSymlink : Node → Bool
  | symlink _ => true
  | _ => false

def isFile (node : Node) : Bool :=
  match node.follow with
  | file _ _ => true
  | _ => false

def isDirectory (node : Node) : Bool :=
  match node.follow with
  | directory => true
  | _ => false

/-- `Path.exists`. -/
def isPresent (node : Node) : Bool :=
  node.follow ≠ absent

/-- The bytes a path with the node leads to. -/
def bytes (node : Node) : Except String String :=
  match node.follow with
  | file _ content => .ok content
  | directory => .error "IsADirectoryError"
  | absent => .error "FileNotFoundError"
  | _ => .error "OSError"

/-- A regular file with the bytes. -/
def Holds (node : Node) (content : String) : Prop :=
  ∃ inode, node = file inode content

/-- The inode a name stands for. -/
def inode : Node → Nat
  | file inode _ => inode
  | _ => 0

/-- The inode and the bytes of a regular file. -/
def asFile : Node → Option (Nat × String)
  | file inode content => some (inode, content)
  | _ => none

theorem asFile_eq_some_iff {node : Node} {found : Nat × String} :
    node.asFile = some found ↔ node = file found.1 found.2 := by
  cases node <;> simp [asFile, Prod.ext_iff]

/-- Writing to an inode changes every name of it. -/
def rewrite (inode : Nat) (content : String) : Node → Node
  | file other old => file other (if other = inode then content else old)
  | node => node

@[simp]
theorem inode_rewrite (inode : Nat) (content : String) (node : Node) :
    (node.rewrite inode content).inode = node.inode := by
  cases node <;> rfl

theorem eq_absent_of_not_isPresent {node : Node} (plain : node.isSymlink = false)
    (missing : node.isPresent = false) : node = absent := by
  cases node with
  | absent => rfl
  | symlink target => cases plain
  | _ => simp [isPresent, follow] at missing

theorem isFile_iff_of_plain {node : Node} (plain : node.isSymlink = false) :
    node.isFile = true ↔ ∃ inode content, node = file inode content := by
  cases node with
  | symlink target => cases plain
  | _ => simp [isFile, follow]

end Node

/-! ## Places -/

/-- Where the places of a tree lie: the directories above a place, nearest first. -/
class Layout (Place : Type) where
  above : Place → List Place

variable {Place : Type}

/-- The last node stored for a place is the one that counts. -/
structure FileTree (Place : Type) where
  entries : List (Place × Node)

/-- What a call raises, by the name of the exception. -/
abbrev OsError := String

inductive FileCall (Place : Type) where
  | isSymlink (place : Place)
  | isPresent (place : Place)
  | isFile (place : Place)
  | isDirectory (place : Place)
  | readBytes (place : Place)
  | sameFile (first second : Place)
  | create (place : Place)
  | write (inode : Nat) (content : String)
  | rename (source target : Place)
  | link (source target : Place)
  | unlink (place : Place)
  | mkdir (place : Place)
  | rmdir (place : Place)
  | sync (place : Place)

namespace FileCall

/-- What a call returns; a file that has been created is written through its inode. -/
def Value : FileCall Place → Type
  | isSymlink _ | isPresent _ | isFile _ | isDirectory _ | sameFile _ _ => Bool
  | readBytes _ => String
  | create _ => Nat
  | _ => Unit

end FileCall

/-- What a program elsewhere does to a place: new content, content changed in place, or
another object. -/
inductive Edit where
  | replace (content : String)
  | rewrite (content : String)
  | remove
  | makeDirectory
  | makeSpecial
  | makeSymlink (target : Node)

section Serve

variable [DecidableEq Place]

namespace FileTree

/-- The node stored for a place. -/
def node (tree : FileTree Place) (place : Place) : Node :=
  (tree.entries.lookup place).getD .absent

def set (tree : FileTree Place) (place : Place) (node : Node) : FileTree Place :=
  ⟨(place, node) :: tree.entries⟩

@[simp]
theorem node_set_self (tree : FileTree Place) (place : Place) (node : Node) :
    (tree.set place node).node place = node := by
  simp [set, FileTree.node]

variable {place : Place} {tree after : FileTree Place}

@[simp]
theorem node_set_of_ne (tree : FileTree Place) {other : Place} (node : Node)
    (different : other ≠ place) : (tree.set place node).node other = tree.node other := by
  simp [set, FileTree.node, List.lookup_cons, beq_eq_false_iff_ne.mpr different]

theorem node_set (tree : FileTree Place) (place other : Place) (node : Node) :
    (tree.set place node).node other = if other = place then node else tree.node other := by
  by_cases same : other = place
  · rw [if_pos same, same, node_set_self]
  · rw [if_neg same, node_set_of_ne tree node same]

/-- An inode no name has had. -/
def freshInode (tree : FileTree Place) : Nat :=
  (tree.entries.map fun entry => entry.2.inode).foldr max 0 + 1

variable [Layout Place]

/-- All directories above a place are there. -/
def Reaches (tree : FileTree Place) (place : Place) : Prop :=
  ∀ directory ∈ Layout.above place, (tree.node directory).isDirectory = true

instance (tree : FileTree Place) (place : Place) : Decidable (tree.Reaches place) :=
  inferInstanceAs (Decidable (∀ directory ∈ Layout.above place, _))

/-- The node a path finds. -/
def look (tree : FileTree Place) (place : Place) : Node :=
  if tree.Reaches place then tree.node place else .absent

theorem look_of_reaches (reaches : tree.Reaches place) : tree.look place = tree.node place :=
  if_pos reaches

/-- No name is in the directory. -/
def IsEmpty (tree : FileTree Place) (directory : Place) : Prop :=
  ∀ entry ∈ tree.entries, directory ∈ Layout.above entry.1 → tree.look entry.1 = .absent

instance (tree : FileTree Place) (directory : Place) : Decidable (tree.IsEmpty directory) :=
  inferInstanceAs (Decidable (∀ entry ∈ tree.entries, _))

/-! ## Calls -/

/-- The bytes a path leads to. -/
def read (tree : FileTree Place) (place : Place) : Except OsError String :=
  (tree.look place).bytes

def compare (tree : FileTree Place) (first second : Place) : Except OsError Bool :=
  match (tree.look first).follow, (tree.look second).follow with
  | .absent, _ | _, .absent => .error "FileNotFoundError"
  | .file left _, .file right _ => .ok (left = right)
  | _, _ => .ok false

/-- A new name, which must not be there yet. -/
def attach (tree : FileTree Place) (place : Place) (node : Node) : Except OsError (FileTree Place) :=
  if tree.Reaches place then
    if tree.node place = .absent then .ok (tree.set place node) else .error "FileExistsError"
  else .error "FileNotFoundError"

/-- Two names of one file. -/
def areLinks : Node → Node → Bool
  | .file left _, .file right _ => left = right
  | _, _ => false

/-- The source takes the place of the target. -/
def rename (tree : FileTree Place) (source target : Place) : Except OsError (FileTree Place) :=
  match tree.look source, tree.node target with
  | .absent, _ => .error "FileNotFoundError"
  | _, .directory => .error "IsADirectoryError"
  | node, old =>
      if tree.Reaches target then
        if areLinks node old then .ok tree else .ok ((tree.set source .absent).set target node)
      else .error "FileNotFoundError"

def link (tree : FileTree Place) (source target : Place) : Except OsError (FileTree Place) :=
  match tree.look source with
  | .absent => .error "FileNotFoundError"
  | .directory => .error "PermissionError"
  | node => tree.attach target node

def unlink (tree : FileTree Place) (place : Place) : Except OsError (FileTree Place) :=
  match tree.look place with
  | .absent => .error "FileNotFoundError"
  | .directory => .error "IsADirectoryError"
  | _ => .ok (tree.set place .absent)

/-- A new directory is empty. -/
def emptied (tree : FileTree Place) (directory : Place) : FileTree Place :=
  ⟨((tree.entries.filter fun entry => directory ∈ Layout.above entry.1).map
    fun entry => (entry.1, .absent)) ++ tree.entries⟩

def mkdir (tree : FileTree Place) (place : Place) : Except OsError (FileTree Place) :=
  (tree.emptied place).attach place .directory

def rmdir (tree : FileTree Place) (place : Place) : Except OsError (FileTree Place) :=
  match tree.look place with
  | .directory =>
      if tree.IsEmpty place then .ok (tree.set place .absent) else .error "OSError"
  | .absent => .error "FileNotFoundError"
  | _ => .error "NotADirectoryError"

def rewrite (tree : FileTree Place) (inode : Nat) (content : String) : FileTree Place :=
  ⟨tree.entries.map fun entry => (entry.1, entry.2.rewrite inode content)⟩

/-- The result of a call that changes the tree. -/
def changed (tree : FileTree Place) : Except OsError (FileTree Place) → FileTree Place × Except OsError Unit
  | .ok after => (after, .ok ())
  | .error error => (tree, .error error)

/-- What a call does when nothing is in its way. -/
def serve (tree : FileTree Place) :
    (call : FileCall Place) → FileTree Place × Except OsError call.Value
  | .isSymlink place => (tree, .ok (tree.look place).isSymlink)
  | .isPresent place => (tree, .ok (tree.look place).isPresent)
  | .isFile place => (tree, .ok (tree.look place).isFile)
  | .isDirectory place => (tree, .ok (tree.look place).isDirectory)
  | .readBytes place => (tree, tree.read place)
  | .sameFile first second => (tree, tree.compare first second)
  | .create place =>
      match tree.attach place (.file tree.freshInode "") with
      | .ok after => (after, .ok tree.freshInode)
      | .error error => (tree, .error error)
  | .write inode content => (tree.rewrite inode content, .ok ())
  | .rename source target => tree.changed (tree.rename source target)
  | .link source target => tree.changed (tree.link source target)
  | .unlink place => tree.changed (tree.unlink place)
  | .mkdir place => tree.changed (tree.mkdir place)
  | .rmdir place => tree.changed (tree.rmdir place)
  | .sync _ => (tree, .ok ())

/-! ## What the calls lead to -/

theorem node_emptied (tree : FileTree Place) (directory place : Place) :
    (tree.emptied directory).node place =
      if directory ∈ Layout.above place then .absent else tree.node place := by
  obtain ⟨entries⟩ := tree
  simp only [emptied, node, List.lookup_append]
  induction entries with
  | nil => simp
  | cons entry rest ih =>
      obtain ⟨other, stored⟩ := entry
      by_cases same : place = other
      · subst same
        by_cases below : directory ∈ Layout.above place
        · simp [below]
        · simp only [below, decide_false, Bool.false_eq_true, not_false_eq_true,
            List.filter_cons_of_neg, List.lookup_cons_self, if_false] at ih ⊢
          have none : (((rest.filter fun entry => directory ∈ Layout.above entry.1).map
              fun entry => (entry.1, Node.absent)).lookup place) = none := by
            rw [List.lookup_eq_none_iff]
            simp only [List.mem_map, List.mem_filter, decide_eq_true_eq, bne_iff_ne,
              forall_exists_index, and_imp]
            rintro item found mem above rfl same
            rw [same] at below
            exact below above
          simp [none]
      · have apart : (place == other) = false := beq_eq_false_iff_ne.mpr same
        by_cases below : directory ∈ Layout.above other
        · simpa [below, List.lookup_cons, apart] using ih
        · simpa [below, List.lookup_cons, apart] using ih

omit [Layout Place] in
theorem node_rewrite (tree : FileTree Place) (inode : Nat) (content : String) (place : Place) :
    (tree.rewrite inode content).node place = (tree.node place).rewrite inode content := by
  obtain ⟨entries⟩ := tree
  simp only [rewrite, node]
  induction entries with
  | nil => rfl
  | cons entry rest ih =>
      obtain ⟨other, stored⟩ := entry
      by_cases same : place = other
      · simp [same]
      · have apart : (place == other) = false := beq_eq_false_iff_ne.mpr same
        simpa [List.lookup_cons, apart] using ih

omit [DecidableEq Place] [Layout Place] in
theorem freshInode_set_le (tree : FileTree Place) (place : Place) (node : Node) :
    tree.freshInode ≤ (tree.set place node).freshInode := by
  simp only [freshInode, set, List.map_cons, List.foldr_cons]
  omega

omit [Layout Place] in
theorem inode_lt_freshInode (tree : FileTree Place) (place : Place) :
    (tree.node place).inode < tree.freshInode := by
  obtain ⟨entries⟩ := tree
  simp only [node, freshInode]
  induction entries with
  | nil => simp [Node.inode]
  | cons entry rest ih =>
      obtain ⟨other, stored⟩ := entry
      by_cases same : place = other
      · simp only [same, List.lookup_cons_self, Option.getD_some, List.map_cons, List.foldr_cons]
        omega
      · have apart : (place == other) = false := beq_eq_false_iff_ne.mpr same
        simp only [List.lookup_cons, apart, List.map_cons, List.foldr_cons]
        omega

theorem attach_eq_ok_iff {node : Node} : tree.attach place node = .ok after ↔
      tree.Reaches place ∧ tree.node place = .absent ∧ after = tree.set place node := by
  unfold attach
  split_ifs with reaches free
  · simp [reaches, free, eq_comm]
  · simp [free]
  · simp [reaches]

theorem unlink_eq_ok_iff : tree.unlink place = .ok after ↔
      tree.look place ≠ .absent ∧ tree.look place ≠ .directory ∧
        after = tree.set place .absent := by
  unfold unlink
  cases found : tree.look place <;> simp [eq_comm]

theorem link_eq_ok_iff {source target : Place} : tree.link source target = .ok after ↔
      tree.look source ≠ .absent ∧ tree.look source ≠ .directory ∧ tree.Reaches target ∧
        tree.node target = .absent ∧ after = tree.set target (tree.look source) := by
  unfold link
  cases found : tree.look source <;> simp [attach_eq_ok_iff]

theorem rmdir_eq_ok_iff : tree.rmdir place = .ok after ↔
      tree.look place = .directory ∧ tree.IsEmpty place ∧ after = tree.set place .absent := by
  unfold rmdir
  cases found : tree.look place <;> simp
  split_ifs with empty
  · simp [empty, eq_comm]
  · simp [empty]

/-- A rename of one file onto another name of it does nothing. -/
theorem rename_eq_ok_iff {source target : Place} : tree.rename source target = .ok after ↔
      tree.look source ≠ .absent ∧ tree.node target ≠ .directory ∧ tree.Reaches target ∧
        after = if areLinks (tree.look source) (tree.node target) then tree
          else (tree.set source .absent).set target (tree.look source) := by
  unfold rename
  split
  · simp [*]
  · simp [*]
  · rename_i node old missing occupied
    by_cases reaches : tree.Reaches target
    · have found : tree.look source ≠ .absent := missing
      have free : tree.node target ≠ .directory := occupied
      simp only [reaches, if_true, ne_eq, found, not_false_eq_true, free, true_and]
      split_ifs with links
      · exact ⟨fun same => (Except.ok.inj same).symm, fun same => same ▸ rfl⟩
      · exact ⟨fun same => (Except.ok.inj same).symm, fun same => same ▸ rfl⟩
    · simp [reaches]

omit [DecidableEq Place] [Layout Place] in
theorem changed_of_ok {result : Except OsError (FileTree Place)}
    (changed : result = .ok after) : tree.changed result = (after, .ok ()) := by
  rw [changed, FileTree.changed]

omit [DecidableEq Place] [Layout Place] in
/-- A call that fails changes nothing. -/
theorem changed_cases (tree : FileTree Place) (result : Except OsError (FileTree Place)) :
    (∃ after, result = .ok after ∧ tree.changed result = (after, .ok ())) ∨
      ∃ error, tree.changed result = (tree, .error error) := by
  cases result with
  | ok after => exact .inl ⟨after, rfl, rfl⟩
  | error error => exact .inr ⟨error, rfl⟩

/-! ## Edits from outside -/

/-- The place holds another object, with nothing below it. -/
def put (tree : FileTree Place) (place : Place) (node : Node) : FileTree Place :=
  (tree.emptied place).set place node

/-- An edit of a place that is reached. -/
def editReached (tree : FileTree Place) (place : Place) : Edit → FileTree Place
  | .replace content => tree.put place (.file tree.freshInode content)
  | .rewrite content =>
      match tree.node place with
      | .file inode _ => tree.rewrite inode content
      | _ => tree
  | .remove => tree.put place .absent
  | .makeDirectory =>
      if (tree.node place).isDirectory then tree else tree.put place .directory
  | .makeSpecial => tree.put place .special
  | .makeSymlink target => tree.put place (.symlink target)

def edit (tree : FileTree Place) (place : Place) (edit : Edit) : FileTree Place :=
  if tree.Reaches place then tree.editReached place edit else tree

theorem edit_cases (tree : FileTree Place) (place : Place) (edit : Edit) :
    tree.edit place edit = tree ∨ (∃ inode old content, tree.node place = .file inode old ∧
        tree.edit place edit = tree.rewrite inode content) ∨
      ∃ node, tree.edit place edit = tree.put place node ∧
        ∀ inode content, node = .file inode content → inode = tree.freshInode := by
  unfold FileTree.edit
  split_ifs with reaches
  · cases edit with
    | replace content =>
        right; right
        refine ⟨_, rfl, ?_⟩
        rintro inode text ⟨⟩
        rfl
    | rewrite content =>
        cases found : tree.node place with
        | file inode old =>
            right; left
            exact ⟨inode, old, content, rfl, by simp [editReached, found]⟩
        | _ => exact .inl (by simp [editReached, found])
    | makeDirectory =>
        by_cases directory : (tree.node place).isDirectory = true
        · exact .inl (by simp [editReached, directory])
        · right; right
          exact ⟨.directory, by simp [editReached, directory], nofun⟩
    | remove => exact .inr (.inr ⟨.absent, rfl, nofun⟩)
    | makeSpecial => exact .inr (.inr ⟨.special, rfl, nofun⟩)
    | makeSymlink target => exact .inr (.inr ⟨.symlink target, rfl, nofun⟩)
  · exact .inl rfl

theorem node_put (tree : FileTree Place) (place other : Place) (node : Node) :
    (tree.put place node).node other = if other = place then node
      else if place ∈ Layout.above other then .absent else tree.node other := by
  rw [put, node_set, node_emptied]

theorem freshInode_put_le (tree : FileTree Place) (place : Place) (node : Node) :
    tree.freshInode ≤ (tree.put place node).freshInode := by
  apply Nat.le_trans _ (freshInode_set_le _ place node)
  simp only [emptied, freshInode, List.map_append, List.foldr_append, Nat.add_le_add_iff_right]
  generalize (tree.entries.map fun entry => entry.2.inode).foldr max 0 = highest
  induction ((tree.entries.filter _).map _).map _ with
  | nil => exact Nat.le_refl _
  | cons inode rest ih => exact Nat.le_trans ih (Nat.le_max_right _ _)

omit [DecidableEq Place] [Layout Place] in
theorem freshInode_rewrite (tree : FileTree Place) (inode : Nat) (content : String) :
    (tree.rewrite inode content).freshInode = tree.freshInode := by
  simp [freshInode, rewrite, Function.comp_def]

theorem freshInode_edit_le (tree : FileTree Place) (place : Place) (edit : Edit) :
    tree.freshInode ≤ (tree.edit place edit).freshInode := by
  rcases tree.edit_cases place edit with same | ⟨inode, old, content, _, written⟩ | ⟨node, put, _⟩
  · exact Nat.le_of_eq (by rw [same])
  · exact Nat.le_of_eq (by rw [written, freshInode_rewrite])
  · rw [put]
    exact tree.freshInode_put_le place node

theorem inode_edit (tree : FileTree Place) (place other : Place) (edit : Edit)
    (known : ((tree.edit place edit).node other).inode < tree.freshInode) :
    ((tree.edit place edit).node other).inode = (tree.node other).inode ∨
      ((tree.edit place edit).node other).inode = 0 := by
  rcases tree.edit_cases place edit with
    same | ⟨inode, old, content, _, written⟩ | ⟨node, put, fresh⟩
  · rw [same]
    exact .inl rfl
  · rw [written, node_rewrite, Node.inode_rewrite]
    exact .inl rfl
  · rw [put, node_put] at known ⊢
    split_ifs at known ⊢ with here below
    · cases node with
      | file inode content =>
          cases fresh inode content rfl
          exact absurd known (Nat.lt_irrefl _)
      | _ => exact .inr rfl
    · exact .inr rfl
    · exact .inl rfl

end FileTree

end Serve

end Adwf.Files
