import Mathlib.Data.List.Sort
import Mathlib.Data.Rat.Defs
import Mathlib.Data.String.Basic
import Adwf.Value.Text

/-!
# JSON values with their number texts

The values of the JSON loader that are written back as text: an integer is not
a float, and a float is known by the text it is written with.  Objects are
sorted by key, as a canonical writer lists them.
-/

namespace Adwf.JsonText

/-- The blanks of JSON. -/
def isBlank (char : Char) : Bool :=
  [' ', '\t', '\n', '\r'].contains char

/-! ## Number tokens -/

/-- `0|[1-9][0-9]*`. -/
def isNatural : List Char → Bool
  | [] => false
  | [digit] => Text.isDigit digit
  | first :: rest => Text.isDigit first && first ≠ '0' && rest.all Text.isDigit

/-- `([eE][-+]?[0-9]+)?`. -/
def isExponent : List Char → Bool
  | [] => true
  | letter :: '-' :: digits => ['e', 'E'].contains letter && Text.nonemptyOf Text.isDigit digits
  | letter :: '+' :: digits => ['e', 'E'].contains letter && Text.nonemptyOf Text.isDigit digits
  | letter :: digits => ['e', 'E'].contains letter && Text.nonemptyOf Text.isDigit digits

/-- `(\.[0-9]+)?([eE][-+]?[0-9]+)?`. -/
def isFraction : List Char → Bool
  | '.' :: rest =>
      !(rest.takeWhile Text.isDigit).isEmpty && isExponent (rest.dropWhile Text.isDigit)
  | rest => isExponent rest

/-- The token without its sign. -/
def magnitude : List Char → List Char
  | '-' :: rest => rest
  | rest => rest

/-- An integer literal. -/
def isIntToken (token : List Char) : Bool :=
  isNatural (magnitude token)

/-- The names of the numbers that are not finite. -/
def nonFinite : List (List Char) :=
  [['N', 'a', 'N'], ['I', 'n', 'f', 'i', 'n', 'i', 't', 'y'],
    ['-', 'I', 'n', 'f', 'i', 'n', 'i', 't', 'y']]

/-- A literal with a fraction or an exponent, or the name of a number that is not finite. -/
def isFloatToken (token : List Char) : Bool :=
  nonFinite.contains token ||
    (isNatural ((magnitude token).takeWhile Text.isDigit) &&
      !((magnitude token).dropWhile Text.isDigit).isEmpty &&
      isFraction ((magnitude token).dropWhile Text.isDigit))

/-- A float literal. -/
structure FloatToken where
  chars : List Char
  valid : isFloatToken chars = true
  deriving DecidableEq

/-- Floating point as the loader and the writer use it. -/
structure Floats where
  /-- `repr(float(token))`. -/
  normal : FloatToken → FloatToken
  /-- The value of a finite float. -/
  value : FloatToken → Option Rat
  normal_normal : ∀ token, normal (normal token) = normal token

/-- Floats that are all written as they are. -/
theorem normal_id (token : FloatToken) : id (id token) = id token :=
  rfl

theorem mem_of_lookup {α β : Type} [BEq α] [LawfulBEq α] {table : List (α × β)} {key : α} {value : β}
    (found : table.lookup key = some value) : (key, value) ∈ table := by
  induction table with
  | nil => cases found
  | cons entry table ih =>
      obtain ⟨name, stored⟩ := entry
      rw [List.lookup_cons] at found
      by_cases same : key = name
      · simp only [same, beq_self_eq_true, Option.some.injEq] at found
        simp [same, found]
      · simp only [beq_eq_false_iff_ne.mpr same] at found
        exact List.mem_cons_of_mem _ (ih found)

theorem lookup_eq_some_iff_mem {α β : Type} [BEq α] [LawfulBEq α] {table : List (α × β)} {key : α}
    {value : β} (distinct : (table.map Prod.fst).Nodup) :
    table.lookup key = some value ↔ (key, value) ∈ table := by
  refine ⟨mem_of_lookup, ?_⟩
  intro inside
  induction table with
  | nil => cases inside
  | cons entry table inductionHypothesis =>
      rcases List.nodup_cons.mp distinct with ⟨fresh, later⟩
      rcases List.mem_cons.mp inside with rfl | inside
      · exact List.lookup_cons_self
      · have other : key ≠ entry.1 := by
          rintro rfl
          exact fresh (List.mem_map.mpr ⟨_, inside, rfl⟩)
        rw [List.lookup_cons, beq_eq_false_iff_ne.mpr other]
        exact inductionHypothesis later inside

/-! ## Values -/

inductive Value where
  | null
  | bool (value : Bool)
  | int (value : Int)
  | float (token : FloatToken)
  | str (text : String)
  | list (items : List Value)
  | dict (fields : List (String × Value))
  deriving Inhabited

/-- The members of an object. -/
abbrev Members :=
  List (String × Value)

namespace Value

/-- `dict.get(key)`; a missing member reads as `None`. -/
def get (fields : Members) (key : String) : Value :=
  (fields.lookup key).getD null

/-- `isinstance(value, str)`. -/
def asText : Value → Option String
  | str text => some text
  | _ => none

/-- `isinstance(value, dict)`. -/
def asDict : Value → Option Members
  | dict fields => some fields
  | _ => none

/-- `isinstance(value, list)`. -/
def asList : Value → Option (List Value)
  | list items => some items
  | _ => none

/-- `value == number`; a boolean is the number 0 or 1. -/
def equalsInt (floats : Floats) (number : Int) : Value → Bool
  | int value => value = number
  | bool value => (if value then 1 else 0) = number
  | float token => floats.value token = some (number : Rat)
  | _ => false

/-- A dictionary with one more member, in the order of the keys. -/
def insert (key : String) (value : Value) (fields : Members) : Members :=
  List.orderedInsert (fun first second => first.1 ≤ second.1) (key, value) fields

/-- A dictionary of the members in any order. -/
def dictOf (fields : Members) : Value :=
  dict (fields.insertionSort fun first second => first.1 ≤ second.1)

@[simp]
theorem get_nil (key : String) : get [] key = null :=
  rfl

@[simp]
theorem get_cons (key name : String) (value : Value) (rest : Members) :
    get ((name, value) :: rest) key = if key = name then value else get rest key := by
  unfold get
  rw [List.lookup_cons]
  by_cases same : key = name
  · simp [same]
  · simp [same, beq_eq_false_iff_ne.mpr same]

mutual

/-- Floats as the writer spells them, and the members of every object sorted by key. -/
def WellFormed (floats : Floats) : Value → Prop
  | null | bool _ | int _ | str _ => True
  | float token => floats.normal token = token
  | list items => WellFormedItems floats items
  | dict fields => (fields.map Prod.fst).Pairwise (· < ·) ∧ WellFormedMembers floats fields

def WellFormedItems (floats : Floats) : List Value → Prop
  | [] => True
  | item :: items => WellFormed floats item ∧ WellFormedItems floats items

def WellFormedMembers (floats : Floats) : Members → Prop
  | [] => True
  | (_, value) :: fields => WellFormed floats value ∧ WellFormedMembers floats fields

end

theorem wellFormedItems_iff {floats : Floats} {items : List Value} :
    WellFormedItems floats items ↔ ∀ item ∈ items, WellFormed floats item := by
  induction items with
  | nil => simp [WellFormedItems]
  | cons item items ih => simp [WellFormedItems, ih]

theorem wellFormedMembers_iff {floats : Floats} {fields : Members} :
    WellFormedMembers floats fields ↔ ∀ field ∈ fields, WellFormed floats field.2 := by
  induction fields with
  | nil => simp [WellFormedMembers]
  | cons field fields ih =>
      obtain ⟨key, value⟩ := field
      simp [WellFormedMembers, ih]

end Value

end Adwf.JsonText

/-!
## Members of an object

The assignments of a dictionary, in the order of its keys.
-/

namespace Adwf.JsonText.Value

/-- `fields[key] = value`. -/
def put (key : String) (value : Value) : Members → Members
  | [] => [(key, value)]
  | (name, old) :: fields =>
      if key = name then (key, value) :: fields
      else if key < name then (key, value) :: (name, old) :: fields
      else (name, old) :: put key value fields

/-- `fields.setdefault(key, value)`. -/
def getOr (fields : Members) (key : String) (default : Value) : Value :=
  (fields.lookup key).getD default

variable {fields : Members} {key name : String} {value default : Value}

@[simp]
theorem lookup_put_self : (put key value fields).lookup key = some value := by
  induction fields with
  | nil => simp [put]
  | cons field fields ih =>
      obtain ⟨name, old⟩ := field
      rw [put]
      split_ifs with same before
      · simp
      · simp
      · rw [List.lookup_cons, beq_eq_false_iff_ne.mpr same]
        exact ih

theorem lookup_put_of_ne (other : name ≠ key) : (put key value fields).lookup name = fields.lookup name := by
  induction fields with
  | nil => simp [put, List.lookup_cons, beq_eq_false_iff_ne.mpr other]
  | cons field fields ih =>
      obtain ⟨first, old⟩ := field
      rw [put]
      split_ifs with same before
      · subst same
        rw [List.lookup_cons, List.lookup_cons, beq_eq_false_iff_ne.mpr other]
      · rw [List.lookup_cons, beq_eq_false_iff_ne.mpr other]
      · rw [List.lookup_cons, List.lookup_cons, ih]

@[simp]
theorem get_put_self : get (put key value fields) key = value := by
  rw [get, lookup_put_self]
  rfl

theorem get_put_of_ne (other : name ≠ key) : get (put key value fields) name = get fields name := by
  rw [get, lookup_put_of_ne other, get]

end Adwf.JsonText.Value

/-!
## Writing JSON text

`json.dumps`: a text is written as it is, except the quotation mark, the
backslash and the control characters below the blank; with `ensure_ascii` every
other character that is not printable ASCII is escaped too.  A writer may put
blanks after its separators.
-/

namespace Adwf.JsonText

/-- The escapes of one letter. -/
def escapes : List (Char × Char) :=
  [('"', '"'), ('\\', '\\'), ('\n', 'n'), ('\r', 'r'), ('\t', 't'), ('\x08', 'b'), ('\x0c', 'f')]

/-- How a writer separates parts and spells texts. -/
structure Style where
  /-- What follows a separator. -/
  pad : List Char
  /-- `ensure_ascii`. -/
  ascii : Bool
  blanks : ∀ char ∈ pad, isBlank char = true

/-- Four hexadecimal digits. -/
def hexDigits (code : Nat) : List Char :=
  [Nat.digitChar (code / 4096), Nat.digitChar (code / 256 % 16), Nat.digitChar (code / 16 % 16),
    Nat.digitChar (code % 16)]

/-- The escape of a code unit. -/
def unicodeEscape (code : Nat) : List Char :=
  '\\' :: 'u' :: hexDigits code

/-- One character of a text. -/
def escapeChar (ascii : Bool) (char : Char) : List Char :=
  match escapes.lookup char with
  | some letter => ['\\', letter]
  | none =>
      let code := char.toNat
      if code < 32 ∨ (ascii = true ∧ 126 < code) then
        if code < 0x10000 then unicodeEscape code
        else unicodeEscape (0xd800 + (code - 0x10000) / 0x400) ++
          unicodeEscape (0xdc00 + (code - 0x10000) % 0x400)
      else [char]

/-- The characters of a text between its quotation marks. -/
def escapeText (ascii : Bool) (chars : List Char) : List Char :=
  chars.flatMap (escapeChar ascii)

def renderText (ascii : Bool) (text : String) : List Char :=
  '"' :: (escapeText ascii text.toList ++ ['"'])

def renderInt : Int → List Char
  | .ofNat n => Nat.toDigits 10 n
  | .negSucc n => '-' :: Nat.toDigits 10 (n + 1)

mutual

/-- A value as the style writes it. -/
def render (style : Style) : Value → List Char
  | .null => "null".toList
  | .bool true => "true".toList
  | .bool false => "false".toList
  | .int value => renderInt value
  | .float token => token.chars
  | .str text => renderText style.ascii text
  | .list items => '[' :: (renderItems style items ++ [']'])
  | .dict fields => '\x7b' :: (renderMembers style fields ++ ['\x7d'])

def renderItems (style : Style) : List Value → List Char
  | [] => []
  | [item] => render style item
  | item :: next :: items => render style item ++ (',' :: style.pad) ++ renderItems style (next :: items)

def renderMembers (style : Style) : Members → List Char
  | [] => []
  | [(key, value)] => renderText style.ascii key ++ (':' :: style.pad) ++ render style value
  | (key, value) :: next :: fields =>
      renderText style.ascii key ++ (':' :: style.pad) ++ render style value ++ (',' :: style.pad) ++
        renderMembers style (next :: fields)

end

/-- Nothing after the separators. -/
def compact (ascii : Bool) : Style :=
  { pad := [], ascii, blanks := by simp }

/-- `json.dumps(value, ensure_ascii=False, sort_keys=True, separators=(",", ":"))`. -/
def canonicalText (value : Value) : List Char :=
  render (compact false) value

/-- `json.dumps(value, ensure_ascii=True, sort_keys=True, separators=(",", ":"))`. -/
def asciiText (value : Value) : List Char :=
  render (compact true) value

end Adwf.JsonText
