import Mathlib.Data.List.Dedup
import Mathlib.Data.List.Sort
import Adwf.Value.Fallible
import Adwf.Value.Json
import Adwf.Value.Text

/-!
# Conflict resources

A writer declares the resources it will touch.  Two writers conflict when one
declares a global resource or both declare overlapping scopes of one kind.
Every comparison first requires the declarations in canonical form.
-/

namespace Adwf.LeaseRegistry

open Adwf.Fallible

variable (left right : Resource)

/-- `LEASE_RESOURCE_KINDS`. -/
inductive ResourceKind where
  | source | projection | rt | data | provider | release | governance
  deriving DecidableEq, Repr

namespace ResourceKind

def name : ResourceKind → String
  | source => "source"
  | projection => "projection"
  | rt => "runtime"
  | data => "data"
  | provider => "provider"
  | release => "release"
  | governance => "governance"

def all : List ResourceKind :=
  [source, projection, rt, data, provider, release, governance]

def ofName (text : String) : Option ResourceKind :=
  all.find? fun kind => kind.name = text

end ResourceKind

/-- A validated declaration. -/
structure Resource where
  kind : ResourceKind
  scope : String
  shared : Bool
  isGlobal : Bool
  deriving DecidableEq

def Resource.toJson (resource : Resource) : Json :=
  .obj [("global", .bool resource.isGlobal), ("kind", .str resource.kind.name),
    ("scope", .str resource.scope), ("shared", .bool resource.shared)]

def resourcesJson (resources : List Resource) : Json :=
  .arr (resources.map Resource.toJson)

/-- `[A-Za-z0-9_.:@+\-]`. -/
def isScopeChar (char : Char) : Bool :=
  Text.isAlphanumeric char || ['_', '.', ':', '@', '+', '-'].contains char

/-- The parts of a scope between its slashes. -/
def scopeParts (scope : String) : List (List Char) :=
  scope.toList.splitOn '/'

/-- `_RESOURCE_SCOPE_RE`, with the length bound. -/
def isScope (scope : String) : Bool :=
  scope.length ≤ 240 && (scopeParts scope).all (Text.nonemptyOf isScopeChar)

/-- The scope checks after the pattern, on flags already known to be booleans. -/
def checkFlags (kind : ResourceKind) (scope : String) (shared isGlobal : Bool) :
    Except String Resource := do
  require (isGlobal = true → scope = "global") "CONFLICT_RESOURCE_GLOBAL_SCOPE_INVALID"
  require (isGlobal = true → shared = true) "CONFLICT_RESOURCE_GLOBAL_MUST_BE_SHARED"
  require (isGlobal = false → scope ≠ "global") "CONFLICT_RESOURCE_SCOPE_AMBIGUOUS"
  return { kind, scope, shared, isGlobal }

def readKind : Json → Except String ResourceKind
  | .str name =>
      match ResourceKind.ofName name with
      | some kind => .ok kind
      | none => .error "CONFLICT_RESOURCE_KIND_INVALID"
  | .arr _ | .obj _ => .error "TypeError"
  | _ => .error "CONFLICT_RESOURCE_KIND_INVALID"

def readScope : Json → Except String String
  | .str scope => do
      require (isScope scope = true) "CONFLICT_RESOURCE_SCOPE_INVALID"
      require (∀ part ∈ scopeParts scope, part ≠ ['.'] ∧ part ≠ ['.', '.'])
        "CONFLICT_RESOURCE_SCOPE_AMBIGUOUS"
      return scope
  | _ => .error "CONFLICT_RESOURCE_SCOPE_INVALID"

/-- `_validate_conflict_resource`. -/
def validateConflictResource : Json → Except String Resource
  | .obj [("global", isGlobal), ("kind", kind), ("scope", scope), ("shared", shared)] => do
      let kind ← readKind kind
      let scope ← readScope scope
      match shared, isGlobal with
      | .bool shared, .bool isGlobal => checkFlags kind scope shared isGlobal
      | _, _ => .error "CONFLICT_RESOURCE_FLAGS_INVALID"
  | _ => .error "CONFLICT_RESOURCE_FIELDS_INVALID"

/-- The order of `sorted` on kind, scope and the flags. -/
def resourceLe : Bool :=
  ((compare left.kind.name right.kind.name).then
    ((compare left.scope right.scope).then
      ((compare left.shared right.shared).then
        (compare left.isGlobal right.isGlobal)))).isLE

/-- `canonical_conflict_resources`. -/
def canonicalConflictResources : Json → Except String (List Resource)
  | .arr (item :: items) => do
      let validated ← (item :: items).mapM validateConflictResource
      require (validated.map fun resource => (resource.kind, resource.scope)).Nodup
        "CONFLICT_RESOURCE_DUPLICATE"
      return validated.insertionSort fun first second => resourceLe first second = true
  | _ => .error "CONFLICT_RESOURCES_REQUIRED"

/-- `require_canonical_conflict_resources`. -/
def requireCanonical (resources : Json) : Except String (List Resource) := do
  let canonical ← canonicalConflictResources resources
  require (resourcesJson canonical = resources) "CONFLICT_RESOURCES_NOT_CANONICAL"
  return canonical

/-- `_scope_overlap`. -/
def scopeOverlap (left right : String) : Bool :=
  left = right || Text.startsWith left (right ++ "/") || Text.startsWith right (left ++ "/")

/-- The collision of two declarations, if they collide. -/
def conflictKey : Option String :=
  if left.isGlobal || right.isGlobal then some "global:global"
  else if left.kind = right.kind && scopeOverlap left.scope right.scope then
    some (left.kind.name ++ ":" ++
      if left.scope.length ≤ right.scope.length then left.scope else right.scope)
  else none

/-- `conflicting_resource_keys`. -/
def conflictingResourceKeys (left right : Json) : Except String (List String) := do
  let leftItems ← requireCanonical left
  let rightItems ← requireCanonical right
  let conflicts := leftItems.flatMap fun item => rightItems.filterMap (conflictKey item)
  return conflicts.dedup.insertionSort (· ≤ ·)

/-! ## What canonical declarations satisfy -/

theorem ResourceKind.name_injective : Function.Injective ResourceKind.name := by
  intro left right same
  cases left <;> cases right <;> first | rfl | exact absurd same (by decide)

theorem Resource.toJson_injective : Function.Injective Resource.toJson := by
  intro left right same
  simp only [Resource.toJson, Json.obj.injEq, List.cons.injEq, Prod.mk.injEq, Json.bool.injEq,
    Json.str.injEq, true_and, and_true] at same
  obtain ⟨isGlobal, kindName, scope, shared⟩ := same
  have kind := ResourceKind.name_injective kindName
  cases left
  cases right
  simp_all

theorem resourcesJson_injective : Function.Injective resourcesJson := by
  intro left right same
  exact Resource.toJson_injective.list_map (Json.arr.inj same)

theorem requireCanonical_eq_ok {resources : Json} {canonical : List Resource}
    (required : requireCanonical resources = .ok canonical) :
    resourcesJson canonical = resources := by
  simp only [requireCanonical, bind_ok_iff, require_eq_ok_iff] at required
  obtain ⟨sorted, _, _, same, sorted_eq⟩ := required
  cases sorted_eq
  exact same

/-- Canonical declarations stay canonical when they are stored and read back. -/
theorem requireCanonical_resourcesJson {resources : Json} {canonical : List Resource}
    (required : requireCanonical resources = .ok canonical) :
    requireCanonical (resourcesJson canonical) = .ok canonical := by
  rw [requireCanonical_eq_ok required]
  exact required

theorem scopeOverlap_comm (left right : String) : scopeOverlap left right = scopeOverlap right left := by
  unfold scopeOverlap
  rw [Bool.or_assoc, Bool.or_assoc, Bool.or_comm (Text.startsWith left _), decide_eq_decide.mpr eq_comm]

theorem conflictKey_eq_none_iff : conflictKey left right = none ↔
      left.isGlobal = false ∧ right.isGlobal = false ∧
        (left.kind = right.kind → scopeOverlap left.scope right.scope = false) := by
  unfold conflictKey
  cases left.isGlobal <;> cases right.isGlobal <;> simp

/-- Collision does not depend on the order of the two declarations. -/
theorem conflictKey_eq_none_comm :
    conflictKey left right = none ↔ conflictKey right left = none := by
  rw [conflictKey_eq_none_iff, conflictKey_eq_none_iff, scopeOverlap_comm, and_left_comm]
  simp only [eq_comm]

/-- Two canonical declarations are free of collisions. -/
def Separate (left right : List Resource) : Prop :=
  ∀ first ∈ left, ∀ second ∈ right, conflictKey first second = none

theorem Separate.symm {left right : List Resource} (separate : Separate left right) :
    Separate right left := by
  intro first firstMem second secondMem
  exact (conflictKey_eq_none_comm second first).mp (separate second secondMem first firstMem)

theorem conflictingResourceKeys_eq_ok_nil_iff {left right : Json}
    {leftItems rightItems : List Resource} (leftCanonical : requireCanonical left = .ok leftItems)
    (rightCanonical : requireCanonical right = .ok rightItems) :
    conflictingResourceKeys left right = .ok [] ↔ Separate leftItems rightItems := by
  simp only [conflictingResourceKeys, leftCanonical, rightCanonical, bind_ok_iff,
    Except.ok.injEq, exists_eq_left']
  simp only [pure, Except.pure, Except.ok.injEq]
  rw [← List.length_eq_zero_iff, List.length_insertionSort, List.length_eq_zero_iff,
    List.dedup_eq_nil, List.flatMap_eq_nil_iff]
  simp only [List.filterMap_eq_nil_iff, Separate]

end Adwf.LeaseRegistry
