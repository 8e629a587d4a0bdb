import Adwf.JsonText.Characters

/-!
# Members of a request

The checks the gateways make of the members of a JSON object, and what the
object is once they have passed.
-/

namespace Adwf.ProviderRequests

open JsonText

/-- `isinstance(value, str) and matches(value)`. -/
def isText (pattern : String → Bool) : Value → Bool
  | .str text => pattern text
  | _ => false

/-- `isinstance(value, int) and not isinstance(value, bool) and value >= 1`. -/
def isPositive : Value → Bool
  | .int number => 1 ≤ number
  | _ => false

/-- `not isinstance(budget, bool) and budget == 0`. -/
def isZeroBudget (floats : Floats) : Value → Bool
  | .bool _ => false
  | budget => budget.equalsInt floats 0

/-- `set(request) == fields`. -/
def hasFields (fields : List String) (request : Members) : Bool :=
  request.all (fun mem => fields.contains mem.1) &&
    fields.all fun name => (request.map Prod.fst).contains name

theorem isText_iff {pattern : String → Bool} {value : Value} :
    isText pattern value = true ↔ ∃ text, value = .str text ∧ pattern text = true := by
  cases value <;> simp [isText]

theorem isPositive_iff {value : Value} :
    isPositive value = true ↔ ∃ number, value = .int number ∧ 1 ≤ number := by
  cases value <;> simp [isPositive]

theorem keys_eq_of_hasFields {fields : List String} {request : Members}
    (sorted : fields.Pairwise (· < ·)) (formed : (request.map Prod.fst).Pairwise (· < ·))
    (has : hasFields fields request = true) : request.map Prod.fst = fields := by
  simp only [hasFields, Bool.and_eq_true, List.all_eq_true, List.contains_iff_mem] at has
  have distinct : ∀ {keys : List String}, keys.Pairwise (· < ·) → keys.Nodup :=
    fun pairwise => pairwise.imp fun less => ne_of_lt less
  have same : (request.map Prod.fst).Perm fields := by
    rw [List.perm_ext_iff_of_nodup (distinct formed) (distinct sorted)]
    intro name
    constructor
    · intro mem
      obtain ⟨field, inside, rfl⟩ := List.mem_map.mp mem
      exact has.1 field inside
    · exact has.2 name
  exact same.eq_of_pairwise (fun first second _ _ less greater => absurd greater (lt_asymm less))
    formed sorted

theorem eq_map_get {request : Members} (formed : (request.map Prod.fst).Pairwise (· < ·)) :
    request = (request.map Prod.fst).map fun name => (name, Value.get request name) := by
  induction request with
  | nil => rfl
  | cons field request ih =>
      obtain ⟨key, value⟩ := field
      obtain ⟨before, formed⟩ := List.pairwise_cons.mp formed
      have others : ∀ name ∈ request.map Prod.fst,
          Value.get ((key, value) :: request) name = Value.get request name := by
        intro name mem
        rw [Value.get_cons, if_neg (ne_of_gt (before name mem))]
      rw [List.map_cons, List.map_cons, List.map_congr_left fun name mem => by rw [others name mem],
        ← ih formed]
      simp

end Adwf.ProviderRequests

/-!
## Request comments

A request is an issue comment of two lines: a marker, and one JSON object in
canonical form that carries the digest of its other members.
-/

namespace Adwf.ProviderRequests

open Fallible JsonText
open Value (WellFormed WellFormedMembers wellFormedMembers_iff)

/-- The parts of the standard library a gateway reads requests with. -/
structure Tools where
  floats : Floats
  /-- SHA-256 of a text, in hexadecimal. -/
  digest : List Char → String
  digest_hex : ∀ text, Text.isSha256 (digest text) = true

/-! ## Lines -/

/-- `text.replace("\r\n", "\n")`. -/
def unifyBreaks : List Char → List Char
  | '\r' :: '\n' :: rest => '\n' :: unifyBreaks rest
  | char :: rest => char :: unifyBreaks rest
  | [] => []

/-- The comment as the parser reads it. -/
def normalized (body : String) : List Char :=
  (Text.strip (String.ofList (unifyBreaks body.toList))).toList

/-- The second line of a comment whose first line is the marker. -/
def envelope (marker error : String) (body : String) : Except String (List Char) :=
  match (normalized body).splitOn '\n' with
  | [first, line] => if first = marker.toList ∧ line ≠ [] then .ok line else .error error
  | _ => .error error

/-- The two lines of a comment. -/
def comment (marker : String) (line : List Char) : List Char :=
  marker.toList ++ '\n' :: line

theorem splitOn_eq_pair_iff {chars first second : List Char} {separator : Char} :
    chars.splitOn separator = [first, second] ↔
      chars = first ++ separator :: second ∧ separator ∉ first ∧ separator ∉ second := by
  constructor
  · intro split
    by_cases found : separator ∈ chars
    · obtain ⟨front, back, rfl, fresh⟩ := List.eq_append_cons_of_mem found
      rw [List.splitOn_append_cons_self_of_not_mem fresh, List.cons.injEq] at split
      obtain ⟨rfl, rest⟩ := split
      by_cases again : separator ∈ back
      · obtain ⟨middle, last, rfl, clean⟩ := List.eq_append_cons_of_mem again
        rw [List.splitOn_append_cons_self_of_not_mem clean, List.cons.injEq] at rest
        exact absurd rest.2 (List.splitOn_ne_nil _ _)
      · rw [List.splitOn_eq_singleton again, List.cons.injEq] at rest
        obtain ⟨rfl, _⟩ := rest
        exact ⟨rfl, fresh, again⟩
    · rw [List.splitOn_eq_singleton found] at split
      cases split
  · rintro ⟨rfl, fresh, clean⟩
    rw [List.splitOn_append_cons_self_of_not_mem fresh, List.splitOn_eq_singleton clean]

theorem envelope_eq_ok_iff {marker error body : String} {line : List Char}
    (oneLine : '\n' ∉ marker.toList) : envelope marker error body = .ok line ↔
      normalized body = comment marker line ∧ line ≠ [] ∧ '\n' ∉ line := by
  unfold envelope
  constructor
  · intro read
    split at read
    · rename_i first second split
      split_ifs at read with both
      cases read
      obtain ⟨same, _, single⟩ := splitOn_eq_pair_iff.mp split
      rw [both.1] at same
      exact ⟨same, both.2, single⟩
    · cases read
  · rintro ⟨same, nonempty, single⟩
    rw [splitOn_eq_pair_iff.mpr ⟨same, oneLine, single⟩]
    simp [nonempty]

theorem unifyBreaks_eq_self {chars : List Char} (fresh : '\r' ∉ chars) :
    unifyBreaks chars = chars := by
  induction chars with
  | nil => rfl
  | cons char rest ih =>
      rw [List.mem_cons, not_or] at fresh
      obtain ⟨other, later⟩ := fresh
      rw [unifyBreaks]
      · rw [ih later]
      · rintro more rfl
        exact absurd rfl other

theorem strip_eq_self {chars : List Char} {first last : Char} {middle : List Char}
    (ends : chars = first :: (middle ++ [last])) (start : Text.isSpace first = false)
    (stop : Text.isSpace last = false) : Text.strip (String.ofList chars) = String.ofList chars := by
  subst ends
  have front : (first :: (middle ++ [last])).dropWhile Text.isSpace = first :: (middle ++ [last]) := by
    simp [start]
  have back : (first :: (middle ++ [last])).reverse.dropWhile Text.isSpace =
      (first :: (middle ++ [last])).reverse := by
    simp [stop]
  rw [Text.strip, String.toList_ofList, front, back, List.reverse_reverse]

/-! ## Canonical form -/

/-- `_canonical`. -/
def canonical (request : Members) : List Char :=
  asciiText (.dict request)

/-- The request without its digest. -/
def unsigned (request : Members) : Members :=
  request.filter fun mem => mem.1 ≠ "request_digest"

/-- `_digest_payload`. -/
def digestPayload (tools : Tools) (request : Members) : String :=
  tools.digest (canonical (unsigned request))

/-- A request with the digest of its other members. -/
def sign (tools : Tools) (members : Option String → Members) : Members :=
  members (some (tools.digest (canonical (members none))))

/-- A parser of request comments: the marker of the first line, the code its errors start with,
and the checks of the object in the second line. -/
def parseComment (tools : Tools) (marker code : String) (check : Members → Except String Unit)
    (body : String) : Except String Members := do
  let line ← envelope marker (code ++ "_ENVELOPE_INVALID") body
  let value ← (loads tools.floats line).mapError fun _ => code ++ "_JSON_INVALID"
  let request ← value.asDict.elim (.error (code ++ "_FIELDS_INVALID")) .ok
  check request
  require (line = canonical request) (code ++ "_NOT_CANONICAL")
  return request

theorem normalized_comment {marker : String} {first : Char} {name : List Char}
    (named : marker.toList = first :: name) (start : Text.isSpace first = false)
    (plain : '\r' ∉ marker.toList) (request : Members) :
    normalized (String.ofList (comment marker (canonical request))) =
      comment marker (canonical request) := by
  have clean : '\r' ∉ comment marker (canonical request) := by
    simp only [comment, List.mem_append, List.mem_cons, not_or]
    refine ⟨plain, by decide, fun inside => ?_⟩
    exact absurd (printable_asciiText inside).1 (by decide)
  have ends : comment marker (canonical request) =
      first :: ((name ++ '\n' :: '\x7b' :: renderMembers (compact true) request) ++ ['\x7d']) := by
    simp [comment, named, canonical, asciiText, render]
  rw [normalized, String.toList_ofList, unifyBreaks_eq_self clean,
    strip_eq_self ends start (by decide), String.toList_ofList]

theorem parseComment_eq_ok_iff {tools : Tools} {marker code body : String}
    {check : Members → Except String Unit} (oneLine : '\n' ∉ marker.toList) {request : Members} :
    parseComment tools marker code check body = .ok request ↔
      WellFormed tools.floats (.dict request) ∧ check request = .ok () ∧
        normalized body = comment marker (canonical request) := by
  unfold parseComment
  constructor
  · intro parsed
    obtain ⟨line, read, parsed⟩ := bind_ok_iff.mp parsed
    obtain ⟨value, loaded, parsed⟩ := bind_ok_iff.mp parsed
    obtain ⟨object, isObject, parsed⟩ := bind_ok_iff.mp parsed
    obtain ⟨_, checked, parsed⟩ := bind_ok_iff.mp parsed
    obtain ⟨_, same, ran⟩ := bind_ok_iff.mp parsed
    cases ran
    rw [require_eq_ok_iff] at same
    subst same
    cases source : loads tools.floats (canonical request) with
    | error error =>
        rw [source] at loaded
        cases loaded
    | ok object =>
        rw [source] at loaded
        cases loaded
        cases value with
        | dict members =>
            cases isObject
            exact ⟨wellFormed_of_loads source, checked, ((envelope_eq_ok_iff oneLine).mp read).1⟩
        | _ => cases isObject
  · rintro ⟨formed, checked, same⟩
    have single : '\n' ∉ canonical request := fun inside =>
      absurd (printable_asciiText inside).1 (by decide)
    have read := (@envelope_eq_ok_iff _ (code ++ "_ENVELOPE_INVALID") _ _ oneLine).mpr
      ⟨same, by simp [canonical, asciiText, render], single⟩
    have loaded : loads tools.floats (canonical request) = .ok (.dict request) :=
      loads_render _ formed
    rw [read, ok_bind, loaded]
    change (check request >>= _) = _
    rw [checked, ok_bind, require_bind_of rfl]
    rfl

end Adwf.ProviderRequests

/-!
## Codecs of request comments

What a builder and a parser of request comments have to agree on, and what
follows for every text: the parser accepts the comments the builder writes,
those with another spelling of the schema version or of the budget, and no
others.
-/

namespace Adwf.ProviderRequests

open Fallible JsonText
open Value (WellFormed)

/-- A spelling of the schema version: a loaded value equal to 1. -/
def Version (tools : Tools) (value : Value) : Prop :=
  value.equalsInt tools.floats 1 = true ∧ WellFormed tools.floats value

/-- A spelling of the budget: a loaded value equal to 0 that is no boolean. -/
def Budget (tools : Tools) (value : Value) : Prop :=
  isZeroBudget tools.floats value = true ∧ WellFormed tools.floats value

/-- A builder and a parser.  The members of a request depend on its arguments, on the value in
the place of the schema version and on the value in the place of the budget. -/
structure Codec (tools : Tools) (Args : Type) where
  marker : String
  code : String
  check : Members → Except String Unit
  members : Value → Value → Args → Option String → Members
  Admissible : Args → Prop
  marked : ∃ first name, marker.toList = first :: name ∧ Text.isSpace first = false
  oneLine : '\n' ∉ marker.toList ∧ '\r' ∉ marker.toList
  formed : ∀ {version budget : Value} (args : Args) (signature : Option String),
    WellFormed tools.floats version → WellFormed tools.floats budget →
      WellFormed tools.floats (.dict (members version budget args signature))
  injective : ∀ {version budget version' budget' : Value} {args args' : Args}
    {signature : Option String}, members version budget args signature =
      members version' budget' args' signature → version = version' ∧ budget = budget' ∧ args = args'
  unsigned_members : ∀ (version budget : Value) (args : Args) (signature : Option String),
    unsigned (members version budget args signature) = members version budget args none
  get_digest : ∀ (version budget : Value) (args : Args) (digest : String),
    Value.get (members version budget args (some digest)) "request_digest" = .str digest
  check_iff : ∀ {request : Members}, WellFormed tools.floats (.dict request) →
    (check request = .ok () ↔ ∃ args version budget, Admissible args ∧ Version tools version ∧
      Budget tools budget ∧ request = sign tools (members version budget args))

namespace Codec

variable {tools : Tools} {Args : Type} (codec : Codec tools Args)

def parse (body : String) : Except String Members :=
  parseComment tools codec.marker codec.code codec.check body

/-- The request of the arguments, with a version and a budget. -/
def request (version budget : Value) (args : Args) : Members :=
  sign tools (codec.members version budget args)

/-- The comment of the arguments. -/
def build (args : Args) : List Char :=
  comment codec.marker (canonical (codec.request (.int 1) (.int 0) args))

/-- The comment of admissible arguments with a schema version that is not written `1`, or a budget
that is not written `0`. -/
def Foreign (body : String) : Prop :=
  ∃ args version budget, codec.Admissible args ∧ Version tools version ∧ Budget tools budget ∧
    ¬(version = .int 1 ∧ budget = .int 0) ∧
    normalized body = comment codec.marker (canonical (codec.request version budget args))

theorem version_one : Version tools (.int 1) :=
  ⟨by simp [Value.equalsInt], trivial⟩

theorem budget_zero : Budget tools (.int 0) :=
  ⟨by simp [isZeroBudget, Value.equalsInt], trivial⟩

variable {codec} {version budget version' budget' : Value} {args args' : Args} {body : String}

theorem wellFormed_request (one : Version tools version) (zero : Budget tools budget) :
    WellFormed tools.floats (.dict (codec.request version budget args)) :=
  codec.formed _ _ one.2 zero.2

theorem eq_of_request_eq
    (same : codec.request version budget args = codec.request version' budget' args') :
    version = version' ∧ budget = budget' ∧ args = args' := by
  have digests := congrArg (Value.get · "request_digest") same
  simp only [request, sign, codec.get_digest, Value.str.injEq] at digests
  unfold request sign at same
  rw [digests] at same
  exact codec.injective same

/-- The texts the parser accepts, and what it returns of them. -/
theorem parse_eq_ok_iff {read : Members} : codec.parse body = .ok read ↔
      ∃ args version budget, codec.Admissible args ∧ Version tools version ∧ Budget tools budget ∧
        read = codec.request version budget args ∧
        normalized body = comment codec.marker (canonical read) := by
  rw [parse, parseComment_eq_ok_iff codec.oneLine.1]
  constructor
  · rintro ⟨formed, checked, same⟩
    obtain ⟨args, version, budget, admissible, one, zero, rfl⟩ := (codec.check_iff formed).mp checked
    exact ⟨args, version, budget, admissible, one, zero, rfl, same⟩
  · rintro ⟨args, version, budget, admissible, one, zero, rfl, same⟩
    have formed : WellFormed tools.floats (.dict (codec.request version budget args)) :=
      wellFormed_request one zero
    exact ⟨formed, (codec.check_iff formed).mpr ⟨args, version, budget, admissible, one, zero, rfl⟩,
      same⟩

theorem parse_build (admissible : codec.Admissible args) :
    codec.parse (String.ofList (codec.build args)) = .ok (codec.request (.int 1) (.int 0) args) := by
  obtain ⟨first, name, named, start⟩ := codec.marked
  exact parse_eq_ok_iff.mpr ⟨args, _, _, admissible, version_one, budget_zero, rfl,
    normalized_comment named start codec.oneLine.2 _⟩

theorem canonical_injective {first second : Members} (formed : WellFormed tools.floats (.dict first))
    (otherFormed : WellFormed tools.floats (.dict second))
    (same : canonical first = canonical second) : first = second :=
  Value.dict.inj (render_injective _ formed otherFormed same)

theorem accepted_iff_built_iff (body : String) : ((∃ read, codec.parse body = .ok read) ↔
      ∃ args, codec.Admissible args ∧ normalized body = codec.build args) ↔ ¬codec.Foreign body := by
  constructor
  · rintro exact_ ⟨args, version, budget, admissible, one, zero, foreign, same⟩
    have accepted : ∃ read, codec.parse body = .ok read :=
      ⟨_, parse_eq_ok_iff.mpr ⟨args, version, budget, admissible, one, zero, rfl, same⟩⟩
    obtain ⟨other, _, built⟩ := exact_.mp accepted
    rw [same, build, comment, comment, List.append_cancel_left_eq, List.cons.injEq] at built
    have requests := canonical_injective (wellFormed_request one zero)
      (wellFormed_request version_one budget_zero) built.2
    obtain ⟨rfl, rfl, _⟩ := eq_of_request_eq requests
    exact foreign ⟨rfl, rfl⟩
  · intro native
    constructor
    · rintro ⟨read, parsed⟩
      obtain ⟨args, version, budget, admissible, one, zero, rfl, same⟩ := parse_eq_ok_iff.mp parsed
      by_cases plain : version = .int 1 ∧ budget = .int 0
      · obtain ⟨rfl, rfl⟩ := plain
        exact ⟨args, admissible, same⟩
      · exact absurd ⟨args, version, budget, admissible, one, zero, plain, same⟩ native
    · rintro ⟨args, admissible, same⟩
      exact ⟨_, parse_eq_ok_iff.mpr ⟨args, _, _, admissible, version_one, budget_zero, rfl, same⟩⟩

/-- Two payloads with one digest. -/
def Collision (tools : Tools) (first second : Members) : Prop :=
  canonical (unsigned first) ≠ canonical (unsigned second) ∧
    digestPayload tools first = digestPayload tools second

theorem get_request_digest : Value.get (codec.request version budget args) "request_digest" =
      .str (digestPayload tools (codec.request version budget args)) := by
  simp only [request, sign, codec.get_digest, digestPayload, codec.unsigned_members]

theorem parsed {read : Members} (accepted : codec.parse body = .ok read) :
    WellFormed tools.floats (.dict read) ∧
      Value.get read "request_digest" = .str (digestPayload tools read) ∧
      ∃ version budget args, unsigned read = codec.members version budget args none := by
  obtain ⟨args, version, budget, _, one, zero, rfl, _⟩ := parse_eq_ok_iff.mp accepted
  exact ⟨wellFormed_request one zero, get_request_digest, version, budget, args,
    codec.unsigned_members _ _ _ _⟩

/-- Comments with one digest are the same, or their payloads collide. -/
theorem eq_or_collision {first second : String} {read other : Members}
    (one : codec.parse first = .ok read) (two : codec.parse second = .ok other)
    (digests : Value.get read "request_digest" = Value.get other "request_digest") :
    normalized first = normalized second ∨ Collision tools read other := by
  obtain ⟨args, version, budget, _, isOne, isZero, rfl, written⟩ := parse_eq_ok_iff.mp one
  obtain ⟨args', version', budget', _, isOne', isZero', rfl, written'⟩ := parse_eq_ok_iff.mp two
  rw [get_request_digest, get_request_digest, Value.str.injEq] at digests
  by_cases same : canonical (unsigned (codec.request version budget args)) =
      canonical (unsigned (codec.request version' budget' args'))
  · left
    simp only [request, sign, codec.unsigned_members] at same
    have members := canonical_injective (codec.formed _ _ isOne.2 isZero.2)
      (codec.formed _ _ isOne'.2 isZero'.2) same
    obtain ⟨rfl, rfl, rfl⟩ := codec.injective members
    rw [written, written']
  · exact .inr ⟨same, digests⟩

end Codec

end Adwf.ProviderRequests
