import Adwf.JsonText.Value
import Adwf.Value.Fallible

/-!
# Reading JSON text

`json.loads` with duplicate keys refused.  A scalar is read as the longest run
of characters that a number or a name is made of.
-/

namespace Adwf.JsonText

inductive ParseError where
  | decode
  | duplicateKey (key : String)
  deriving DecidableEq, Repr

def skipBlanks (chars : List Char) : List Char :=
  chars.dropWhile isBlank

/-! ## Texts -/

/-- The letters of the escapes of one letter, with their characters. -/
def unescapes : List (Char × Char) :=
  [('"', '"'), ('\\', '\\'), ('n', '\n'), ('r', '\r'), ('t', '\t'), ('b', '\x08'), ('f', '\x0c'),
    ('/', '/')]

/-- A hexadecimal digit. -/
def hexValue (char : Char) : Option Nat :=
  if Text.isDigit char then some (char.toNat - 48)
  else if 'a' ≤ char ∧ char ≤ 'f' then some (char.toNat - 87)
  else if 'A' ≤ char ∧ char ≤ 'F' then some (char.toNat - 55)
  else none

/-- What is being read inside a text: a character, an escape, the digits of a code
point, or the escape that completes a surrogate pair. -/
inductive Mode where
  | plain
  | escape (high : Option Nat)
  | hex (high : Option Nat) (left code : Nat)
  | pair (high : Nat)

/-- The character of a code point. -/
def scalar (code : Nat) : Option Char :=
  if Nat.isValidChar code then some (Char.ofNat code) else none

/-- The character of a surrogate pair. -/
def pairScalar (high low : Nat) : Option Char :=
  if 0xdc00 ≤ low ∧ low < 0xe000 then
    scalar (0x10000 + (high - 0xd800) * 0x400 + (low - 0xdc00))
  else none

/-- The text before the closing quotation mark, and what follows it.  A surrogate
without its pair is not a character. -/
def readChars : Mode → List Char → Option (List Char × List Char)
  | _, [] => none
  | .plain, char :: rest =>
      if char = '"' then some ([], rest)
      else if char = '\\' then readChars (.escape none) rest
      else if char.toNat < 32 then none
      else (readChars .plain rest).map fun read => (char :: read.1, read.2)
  | .escape none, char :: rest =>
      if char = 'u' then readChars (.hex none 4 0) rest
      else
        match unescapes.lookup char with
        | some escaped => (readChars .plain rest).map fun read => (escaped :: read.1, read.2)
        | none => none
  | .escape (some high), char :: rest =>
      if char = 'u' then readChars (.hex (some high) 4 0) rest else none
  | .hex high left code, char :: rest =>
      match hexValue char with
      | none => none
      | some digit =>
          let code := 16 * code + digit
          if 1 < left then readChars (.hex high (left - 1) code) rest
          else
            match high with
            | none =>
                if 0xd800 ≤ code ∧ code < 0xdc00 then readChars (.pair code) rest
                else
                  match scalar code with
                  | some read => (readChars .plain rest).map fun more => (read :: more.1, more.2)
                  | none => none
            | some high =>
                match pairScalar high code with
                | some read => (readChars .plain rest).map fun more => (read :: more.1, more.2)
                | none => none
  | .pair high, char :: rest =>
      if char = '\\' then readChars (.escape (some high)) rest else none

/-- A text after its opening quotation mark. -/
def readText (chars : List Char) : Except ParseError (String × List Char) :=
  match readChars .plain chars with
  | some (text, rest) => .ok (String.ofList text, rest)
  | none => .error .decode

/-- A character of a number or of a name. -/
def isTokenChar (char : Char) : Bool :=
  Text.isAlphanumeric char || ['+', '-', '.'].contains char

/-- `int(token)`. -/
def readInt : List Char → Int
  | '-' :: digits => -(Nat.ofDigitChars 10 digits 0 : Nat)
  | digits => (Nat.ofDigitChars 10 digits 0 : Nat)

/-- A number or a name. -/
def readToken (floats : Floats) (token : List Char) : Except ParseError Value :=
  if token = "null".toList then .ok .null
  else if token = "true".toList then .ok (.bool true)
  else if token = "false".toList then .ok (.bool false)
  else if isIntToken token then .ok (.int (readInt token))
  else if valid : isFloatToken token = true then .ok (.float (floats.normal ⟨token, valid⟩))
  else .error .decode

/-! ## Values -/

/-- The first key that was seen before. -/
def repeatedKey (seen : List String) : List String → Option String
  | [] => none
  | key :: rest => if key ∈ seen then some key else repeatedKey (key :: seen) rest

/-- `_pairs`: the object of the members read. -/
def objectOf (fields : Members) : Except ParseError Value :=
  match repeatedKey [] (fields.map Prod.fst) with
  | some key => .error (.duplicateKey key)
  | none => .ok (Value.dictOf fields)

mutual

/-- A value at its first character; `fuel` bounds the depth of the calls. -/
def readValue (floats : Floats) : Nat → List Char → Except ParseError (Value × List Char)
  | 0, _ => .error .decode
  | _ + 1, '"' :: rest => do
      let (text, rest) ← readText rest
      return (.str text, rest)
  | fuel + 1, '[' :: rest =>
      match skipBlanks rest with
      | ']' :: rest => .ok (.list [], rest)
      | rest => do
          let (items, rest) ← readItems floats fuel rest
          return (.list items, rest)
  | fuel + 1, '\x7b' :: rest =>
      match skipBlanks rest with
      | '\x7d' :: rest => .ok (.dict [], rest)
      | rest => do
          let (fields, rest) ← readMembers floats fuel rest
          let object ← objectOf fields
          return (object, rest)
  | _ + 1, chars => do
      let value ← readToken floats (chars.takeWhile isTokenChar)
      return (value, chars.dropWhile isTokenChar)

/-- The items of an array from its first one, to the closing bracket. -/
def readItems (floats : Floats) : Nat → List Char → Except ParseError (List Value × List Char)
  | 0, _ => .error .decode
  | fuel + 1, chars => do
      let (item, rest) ← readValue floats fuel chars
      match skipBlanks rest with
      | ']' :: rest => return ([item], rest)
      | ',' :: rest =>
          let (items, rest) ← readItems floats fuel (skipBlanks rest)
          return (item :: items, rest)
      | _ => .error .decode

/-- The members of an object from its first one, to the closing brace. -/
def readMembers (floats : Floats) : Nat → List Char → Except ParseError (Members × List Char)
  | 0, _ => .error .decode
  | fuel + 1, '"' :: chars => do
      let (key, rest) ← readText chars
      match skipBlanks rest with
      | ':' :: rest =>
          let (value, rest) ← readValue floats fuel (skipBlanks rest)
          match skipBlanks rest with
          | '\x7d' :: rest => return ([(key, value)], rest)
          | ',' :: rest =>
              let (fields, rest) ← readMembers floats fuel (skipBlanks rest)
              return ((key, value) :: fields, rest)
          | _ => .error .decode
      | _ => .error .decode
  | _ + 1, _ => .error .decode

end

/-- `strict_json.loads`. -/
def loads (floats : Floats) (text : List Char) : Except ParseError Value := do
  let (value, rest) ← readValue floats (text.length + 1) (skipBlanks text)
  if skipBlanks rest = [] then return value else .error .decode

end Adwf.JsonText

/-!
## Loaded values

What the loader returns is well-formed: the keys of an object are distinct and
sorted, and floats are spelled as the writer spells them.
-/

namespace Adwf.JsonText

open Fallible Value

variable {floats : Floats} {value : Value} {rest : List Char}

theorem wellFormed_readToken {token : List Char} (read : readToken floats token = .ok value) :
    WellFormed floats value := by
  unfold readToken at read
  split_ifs at read with null isTrue isFalse isInt isFloat
  · cases read
    trivial
  · cases read
    trivial
  · cases read
    trivial
  · cases read
    trivial
  · cases read
    exact floats.normal_normal _

theorem nodup_of_repeatedKey {seen keys : List String} (fresh : repeatedKey seen keys = none) :
    keys.Nodup ∧ ∀ key ∈ keys, key ∉ seen := by
  induction keys generalizing seen with
  | nil => exact ⟨List.nodup_nil, by simp⟩
  | cons key keys ih =>
      rw [repeatedKey] at fresh
      split_ifs at fresh with known
      obtain ⟨distinct, others⟩ := ih fresh
      refine ⟨List.nodup_cons.mpr ⟨?_, distinct⟩, List.forall_mem_cons.mpr ⟨known, ?_⟩⟩
      · exact fun mem => others key mem List.mem_cons_self
      · exact fun other mem before => others other mem (List.mem_cons_of_mem _ before)

theorem wellFormed_objectOf {fields : Members} (read : objectOf fields = .ok value)
    (members : WellFormedMembers floats fields) : WellFormed floats value := by
  unfold objectOf at read
  split at read
  · cases read
  · rename_i fresh
    cases read
    have same := List.perm_insertionSort (fun first second : String × Value => first.1 ≤ second.1)
      fields
    refine ⟨?_, wellFormedMembers_iff.mpr fun field mem =>
      wellFormedMembers_iff.mp members field (same.mem_iff.mp mem)⟩
    have ordered := List.pairwise_insertionSort
      (fun first second : String × Value => first.1 ≤ second.1) fields
    have distinct := (same.map Prod.fst).nodup_iff.mpr (nodup_of_repeatedKey fresh).1
    exact ((List.pairwise_map.mpr ordered).and distinct).imp
      fun both => lt_of_le_of_ne both.1 both.2

/-- What is read with this much fuel is well-formed. -/
structure Loads (floats : Floats) (fuel : Nat) : Prop where
  values : ∀ chars value rest, readValue floats fuel chars = .ok (value, rest) →
    WellFormed floats value
  items : ∀ chars items rest, readItems floats fuel chars = .ok (items, rest) →
    WellFormedItems floats items
  members : ∀ chars fields rest, readMembers floats fuel chars = .ok (fields, rest) →
    WellFormedMembers floats fields

theorem wellFormed_readValue {fuel : Nat} (inner : Loads floats fuel) {chars : List Char}
    (read : readValue floats (fuel + 1) chars = .ok (value, rest)) : WellFormed floats value := by
  unfold readValue at read
  split at read
  · rename_i impossible
    cases impossible
  · obtain ⟨⟨text, others⟩, _, ran⟩ := bind_ok_iff.mp read
    cases ran
    trivial
  · rename_i same
    cases same
    split at read
    · cases read
      trivial
    · obtain ⟨⟨items, others⟩, readItems, ran⟩ := bind_ok_iff.mp read
      cases ran
      exact inner.items _ _ _ readItems
  · rename_i same
    cases same
    split at read
    · cases read
      exact ⟨List.Pairwise.nil, trivial⟩
    · obtain ⟨⟨fields, others⟩, readFields, readObject⟩ := bind_ok_iff.mp read
      obtain ⟨object, made, ran⟩ := bind_ok_iff.mp readObject
      cases ran
      exact wellFormed_objectOf made (inner.members _ _ _ readFields)
  · obtain ⟨scalar, token, ran⟩ := bind_ok_iff.mp read
    cases ran
    exact wellFormed_readToken token

theorem wellFormed_readItems {fuel : Nat} (inner : Loads floats fuel) {chars : List Char}
    {items : List Value} (read : readItems floats (fuel + 1) chars = .ok (items, rest)) :
    WellFormedItems floats items := by
  unfold readItems at read
  obtain ⟨⟨item, others⟩, readItem, more⟩ := bind_ok_iff.mp read
  have first := inner.values _ _ _ readItem
  dsimp only at more
  split at more
  · cases more
    exact ⟨first, trivial⟩
  · obtain ⟨⟨later, remaining⟩, readLater, ran⟩ := bind_ok_iff.mp more
    cases ran
    exact ⟨first, inner.items _ _ _ readLater⟩
  · cases more

theorem wellFormed_readMembers {fuel : Nat} (inner : Loads floats fuel) {chars : List Char}
    {fields : Members} (read : readMembers floats (fuel + 1) chars = .ok (fields, rest)) :
    WellFormedMembers floats fields := by
  unfold readMembers at read
  split at read
  · rename_i impossible
    cases impossible
  · rename_i same
    cases same
    obtain ⟨⟨key, others⟩, _, named⟩ := bind_ok_iff.mp read
    dsimp only at named
    split at named
    · obtain ⟨⟨value, following⟩, stored, more⟩ := bind_ok_iff.mp named
      have first := inner.values _ _ _ stored
      dsimp only at more
      split at more
      · cases more
        exact ⟨first, trivial⟩
      · obtain ⟨⟨later, remaining⟩, readLater, ran⟩ := bind_ok_iff.mp more
        cases ran
        exact ⟨first, inner.members _ _ _ readLater⟩
      · cases more
    · cases named
  · cases read

theorem loads_all (floats : Floats) (fuel : Nat) : Loads floats fuel := by
  induction fuel with
  | zero =>
      constructor
      · intro chars value rest read
        simp [readValue] at read
      · intro chars items rest read
        simp [readItems] at read
      · intro chars fields rest read
        simp [readMembers] at read
  | succ fuel ih =>
      exact ⟨fun _ _ _ read => wellFormed_readValue ih read,
        fun _ _ _ read => wellFormed_readItems ih read,
        fun _ _ _ read => wellFormed_readMembers ih read⟩

theorem wellFormed_of_loads {text : List Char} (read : loads floats text = .ok value) :
    WellFormed floats value := by
  obtain ⟨⟨loaded, others⟩, readAll, ran⟩ := bind_ok_iff.mp read
  dsimp only at ran
  split_ifs at ran
  cases ran
  exact (loads_all floats _).values _ _ _ readAll

end Adwf.JsonText
