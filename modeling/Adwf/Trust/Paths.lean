import Adwf.Value.Fallible
import Adwf.Value.Text
import Mathlib.Data.List.Basic

/-!
# Repository paths and protected patterns

Normal forms of repository paths and the globs of the base trust policy.
-/

namespace Adwf.Trust

open Fallible

/-- `_INTEGRITY_PROJECTIONS`. -/
def integrityProjections : List String :=
  ["MANIFEST.json", "SHA256SUMS.txt", ".gitattributes"]

/-- `_GENERATED_TRUST_PROJECTIONS`. -/
def generatedTrustProjections : List String :=
  ["MANIFEST.json", "SHA256SUMS.txt", ".adwf/docs-registry.json"]

/-! ## Paths -/

/-- `PurePosixPath(raw).parts` of a relative path. -/
def posixParts (raw : List Char) : List (List Char) :=
  (raw.splitOn '/').filter fun part => part ≠ [] ∧ part ≠ ['.']

/-- `PurePosixPath(raw).as_posix()` of a relative path. -/
def asPosix (parts : List (List Char)) : String :=
  if parts = [] then "." else String.ofList (['/'].intercalate parts)

/-- The value without one leading `./`. -/
def withoutDot (value : String) : List Char :=
  if Text.startsWith value "./" then value.toList.drop 2 else value.toList

def normalizeRepoPath (value : String) : Except String String := do
  require (Text.strip value ≠ "" ∧ '\\' ∉ value.toList) "unsafe repository path"
  let parts := posixParts (withoutDot value)
  require ((withoutDot value).head? ≠ some '/' ∧ ['.', '.'] ∉ parts) "unsafe repository path"
  return asPosix parts

theorem of_mem_splitOn {separator : Char} {chars part : List Char}
    (mem : part ∈ chars.splitOn separator) : separator ∉ part ∧ part ⊆ chars := by
  induction chars generalizing part with
  | nil =>
      rw [List.splitOn_nil, List.mem_singleton] at mem
      rw [mem]
      exact ⟨List.not_mem_nil, List.Subset.refl _⟩
  | cons char chars ih =>
      rw [List.splitOn_cons_eq_if_modifyHead] at mem
      split_ifs at mem with same
      · rcases List.mem_cons.mp mem with rfl | mem
        · exact ⟨List.not_mem_nil, List.nil_subset _⟩
        · rcases ih mem with ⟨fresh, among⟩
          exact ⟨fresh, List.Subset.trans among (List.subset_cons_self _ _)⟩
      · cases parts : chars.splitOn separator with
        | nil => exact absurd parts (List.splitOn_ne_nil _ _)
        | cons first rest =>
            rw [parts, List.modifyHead_cons] at mem
            rcases List.mem_cons.mp mem with rfl | mem
            · rcases ih (parts ▸ List.mem_cons_self) with ⟨fresh, among⟩
              have other : separator ≠ char := fun eq => same (by rw [eq]; exact beq_self_eq_true _)
              exact ⟨by simp [other, fresh], List.cons_subset_cons _ among⟩
            · rcases ih (parts ▸ List.mem_cons_of_mem _ mem) with ⟨fresh, among⟩
              exact ⟨fresh, List.Subset.trans among (List.subset_cons_self _ _)⟩

theorem posixParts_intercalate {parts : List (List Char)} (filled : parts ≠ [])
    (plain : ∀ part ∈ parts, '/' ∉ part ∧ part ≠ [] ∧ part ≠ ['.']) :
    posixParts (['/'].intercalate parts) = parts := by
  rw [posixParts, List.splitOn_intercalate '/' (fun part mem => (plain part mem).1) filled]
  exact List.filter_eq_self.mpr fun part mem => by simpa using (plain part mem).2

/-! ## Globs -/

/-- One piece of a glob. -/
inductive Glob where
  /-- `**`, the expression `.*`. -/
  | text
  /-- `*`, the expression `[^/]*`. -/
  | segment
  /-- `?`, the expression `[^/]`. -/
  | char
  | literal (value : Char)
  deriving DecidableEq, Repr

/-- The pieces of a normal form. -/
def globPieces : List Char → List Glob
  | '*' :: '*' :: rest => .text :: globPieces rest
  | '*' :: rest => .segment :: globPieces rest
  | '?' :: rest => .char :: globPieces rest
  | value :: rest => .literal value :: globPieces rest
  | [] => []

/-- `_glob_regex`. -/
def globRegex (pattern : String) : Except String (List Glob) := do
  let normalized ← normalizeRepoPath pattern
  return globPieces normalized.toList

/-- Any number of accepted characters, then what `next` matches. -/
def matchesMany (accepts : Char → Bool) (next : List Char → Bool) : List Char → Bool
  | [] => next []
  | char :: chars => next (char :: chars) || (accepts char && matchesMany accepts next chars)

/-- One accepted character, then what `next` matches. -/
def matchesOne (accepts : Char → Bool) (next : List Char → Bool) : List Char → Bool
  | [] => false
  | char :: chars => accepts char && next chars

/-- `re.fullmatch`; the dot of `.*` is no line feed. -/
def globMatches : List Glob → List Char → Bool
  | [] => List.isEmpty
  | .text :: rest => matchesMany (· ≠ '\n') (globMatches rest)
  | .segment :: rest => matchesMany (· ≠ '/') (globMatches rest)
  | .char :: rest => matchesOne (· ≠ '/') (globMatches rest)
  | .literal value :: rest => matchesOne (· = value) (globMatches rest)

/-- The pattern compiles and matches the whole path. -/
def patternMatches (normalized pattern : String) : Bool :=
  match globRegex pattern with
  | .ok glob => globMatches glob normalized.toList
  | .error _ => false

def isProtectedPath (path : String) (protectedPatterns : List String) : Except String Bool := do
  let normalized ← normalizeRepoPath path
  return protectedPatterns.any (patternMatches normalized)

example : isProtectedPath ".adwf/lib/trust.py" [".adwf/**"] = .ok true := by decide +kernel

end Adwf.Trust
