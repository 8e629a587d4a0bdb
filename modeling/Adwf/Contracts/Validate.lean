import Adwf.Contracts.Equality
import Adwf.JsonText.Value
import Adwf.Value.Fallible

/-!
# The contract validator

`contracts.validate`: a recursive evaluator of the schema keywords the project
uses.  A schema it cannot evaluate raises.
-/

namespace Adwf.Contracts

open Fallible JsonText

variable (floats : Floats) (tools : Tools)
variable (keywords : Members)

/-- The parts of the standard library the validator uses. -/
structure Tools where
  floats : Floats
  /-- `re.search`; nothing where the pattern is no regular expression. -/
  search : String → String → Option Bool
  /-- `datetime.fromisoformat` reads the text, with `+00:00` for `Z`. -/
  isIsoFormat : String → Bool
  /-- `repr`. -/
  repr : Value → String

/-- `ValidationFinding`. -/
structure Finding where
  path : String
  code : String
  message : String
  deriving DecidableEq

/-- `SUPPORTED_KEYWORDS`. -/
def supportedKeywords : List String :=
  ["$schema", "$id", "title", "description", "default", "examples", "type", "required",
    "properties", "additionalProperties", "enum", "const", "items", "minItems", "maxItems",
    "uniqueItems", "minLength", "maxLength", "minimum", "maximum", "pattern", "format", "anyOf",
    "oneOf", "allOf"]

/-! ## Keywords without subschemas -/

/-- The findings of the keywords that are not supported. -/
def unknownFindings (path : String) : List Finding :=
  ((keywords.map Prod.fst).filter fun name => !supportedKeywords.contains name).map fun name =>
    { path, code := "unsupported_schema_keyword", message := name }

/-- `_matches_type`. -/
def matchesType (value : Value) (expected : String) : Bool :=
  match expected, value with
  | "null", .null => true
  | "boolean", .bool _ => true
  | "integer", .int _ => true
  | "number", value => (jsonNumber floats value).isSome
  | "string", .str _ => true
  | "array", .list _ => true
  | "object", .dict _ => true
  | _, _ => false

/-- `expected if isinstance(expected, list) else [expected]`. -/
def typeList : Value → List Value
  | .list types => types
  | expected => [expected]

/-- The code and the message of the finding that ends the evaluation of a schema, if there is one. -/
def typeProblem (value : Value) : Option (String × String) :=
  match Value.get keywords "type" with
  | .null => none
  | expected =>
      let types := typeList expected
      if types.isEmpty || types.any (fun item => item.asText.isNone) then
        some ("invalid_schema_type", tools.repr expected)
      else if types.any fun item => item.asText.any (matchesType tools.floats value) then none
      else some ("type", "ожидалось " ++ tools.repr (.list types))

/-- A finding when the condition fails. -/
def demand (condition : Bool) (path code message : String) : List Finding :=
  if condition then [] else [{ path, code, message }]

def constFindings (value : Value) (path : String) :
    List Finding :=
  match keywords.lookup "const" with
  | none => []
  | some expected =>
      demand (pythonEqual tools.floats value expected) path "const"
        ("ожидалось " ++ tools.repr expected)

def enumFindings (value : Value) (path : String) :
    Except String (List Finding) :=
  match keywords.lookup "enum" with
  | none => .ok []
  | some (.list values) =>
      .ok (demand (values.any (pythonEqual tools.floats value)) path "enum"
        ("значение " ++ tools.repr value ++ " не разрешено"))
  | some _ => .error "TypeError"

/-- `int` of a number. -/
def truncate : Value → Except String Int
  | .int number => .ok number
  | .bool value => .ok (if value then 1 else 0)
  | .float token =>
      match floats.value token with
      | some number => .ok (number.num.tdiv number.den)
      | none => .error "OverflowError"
  | _ => .error "TypeError"

/-- The finding of a lower bound on a count. -/
def leastFindings (keyword : String) (count : Nat)
    (path message : String) : Except String (List Finding) :=
  match keywords.lookup keyword with
  | none => .ok []
  | some bound => do
      let bound ← truncate floats bound
      return demand (bound ≤ count) path keyword message

/-- The finding of an upper bound on a count. -/
def mostFindings (keyword : String) (count : Nat)
    (path message : String) : Except String (List Finding) :=
  match keywords.lookup keyword with
  | none => .ok []
  | some bound => do
      let bound ← truncate floats bound
      return demand (count ≤ bound) path keyword message

/-- `bool(value)`. -/
def isTrue : Value → Bool
  | .null => false
  | .bool value => value
  | .int number => number ≠ 0
  | .float token => floats.value token ≠ some 0
  | .str text => text ≠ ""
  | .list items => !items.isEmpty
  | .dict fields => !fields.isEmpty

/-- The separators of `json.dumps`. -/
def spaced : Style :=
  { pad := [' '], ascii := false, blanks := by simp [isBlank] }

def uniqueFindings (items : List Value) (path : String) :
    List Finding :=
  demand (!isTrue floats (Value.get keywords "uniqueItems") || (items.map (render spaced)).Nodup)
    path "uniqueItems" "найдены дубликаты"

/-- `"T" in value` and the date is readable. -/
def isDateTime (text : String) : Bool :=
  tools.isIsoFormat text && text.toList.contains 'T'

def patternFindings (text path : String) :
    Except String (List Finding) :=
  match keywords.lookup "pattern" with
  | none => .ok []
  | some (.str pattern) =>
      match tools.search pattern text with
      | some found => .ok (demand found path "pattern" "строка не соответствует шаблону")
      | none => .error "re.error"
  | some _ => .error "TypeError"

def formatFindings (text path : String) :
    Except String (List Finding) :=
  match keywords.lookup "format" with
  | none => .ok []
  | some (.str "date-time") =>
      .ok (demand (isDateTime tools text) path "format" "требуется RFC 3339 date-time")
  | some (.str "sha256") =>
      .ok (demand (Text.isSha256 text) path "format" "требуется SHA-256 в lower-case hex")
  | some (.str other) => .ok [{ path, code := "unsupported_format", message := other }]
  | some _ => .error "TypeError"

/-- The findings of a text. -/
def textFindings (text path : String) :
    Except String (List Finding) := do
  let short ← leastFindings tools.floats keywords "minLength" text.length path
    "строка слишком короткая"
  let long ← mostFindings tools.floats keywords "maxLength" text.length path "строка слишком длинная"
  let pattern ← patternFindings tools keywords text path
  let format ← formatFindings tools keywords text path
  return short ++ long ++ pattern ++ format

/-- The finding of a bound on a number. -/
def boundFindings (keyword : String)
    (within : Rat → Bool) (path message : String) : Except String (List Finding) :=
  match keywords.lookup keyword with
  | none => .ok []
  | some bound =>
      match pythonNumber tools.floats bound with
      | some limit => .ok (demand (within limit) path keyword (message ++ " " ++ tools.repr bound))
      | none => .error "TypeError"

/-- The findings of a number. -/
def numberFindings (number : Rat) (path : String) :
    Except String (List Finding) := do
  let low ← boundFindings tools keywords "minimum" (fun limit => limit ≤ number) path "минимум"
  let high ← boundFindings tools keywords "maximum" (fun limit => number ≤ limit) path "максимум"
  return low ++ high

/-- The required members that are missing. -/
def requiredFindings (keywords fields : Members) (path : String) : Except String (List Finding) :=
  match keywords.lookup "required" with
  | none => .ok []
  | some (.list names) => do
      let missing ← names.mapM fun name =>
        match name with
        | .str key =>
            .ok (demand (fields.lookup key).isSome (path ++ "." ++ key) "required"
              "обязательное поле отсутствует")
        | _ => .error "TypeError"
      return missing.flatten
  | some _ => .error "TypeError"

/-- What `allOf`, `anyOf` and `oneOf` make of the findings of their branches. -/
def branchFindings (keyword path : String) (results : List (List Finding)) : List Finding :=
  let passed := results.countP List.isEmpty
  if keyword = "allOf" then results.flatten
  else if keyword = "anyOf" then
    demand (passed ≠ 0) path "anyOf" "ни один вариант не прошёл"
  else
    demand (passed = 1) path "oneOf"
      ("прошло вариантов: " ++ toString passed ++ ", требуется 1")

/-- A subschema, as a function from a value and its path to findings; nothing where there is none. -/
abbrev Subschema :=
  Value → String → Except String (Option (List Finding))

/-- The findings of a member of an object. -/
def memberFindings (path : String) (property : String → Subschema)
    (additional : Subschema) (field : String × Value) : Except String (List Finding) := do
  let childPath := path ++ "." ++ field.1
  match ← property field.1 field.2 childPath with
  | some findings => return findings
  | none =>
      match Value.get keywords "additionalProperties" with
      | .bool false =>
          return [{ path := childPath, code := "additionalProperties",
                    message := "неизвестное поле запрещено" }]
      | .dict _ => do
          let findings ← additional field.2 childPath
          return findings.getD []
      | _ => return []

/-- The findings of an object. -/
def objectFindings (keywords fields : Members) (path : String) (property : String → Subschema)
    (additional : Subschema) : Except String (List Finding) := do
  let required ← requiredFindings keywords fields path
  let found ← fields.mapM (memberFindings keywords path property additional)
  return required ++ found.flatten

/-- The findings of the items of an array. -/
def itemFindings (items : List Value) (path : String)
    (subschema : Subschema) : Except String (List Finding) :=
  match Value.get keywords "items" with
  | .dict _ => do
      let found ← items.zipIdx.mapM fun item => do
        let findings ← subschema item.1 (path ++ "[" ++ toString item.2 ++ "]")
        return findings.getD []
      return found.flatten
  | _ => .ok []

/-- The findings of an array. -/
def arrayFindings (items : List Value) (path : String)
    (subschema : Subschema) : Except String (List Finding) := do
  let few ← leastFindings floats keywords "minItems" items.length path "слишком мало элементов"
  let many ← mostFindings floats keywords "maxItems" items.length path "слишком много элементов"
  let found ← itemFindings keywords items path subschema
  return few ++ many ++ uniqueFindings floats keywords items path ++ found

/-- The findings that depend on the kind of the value. -/
def kindFindings (value : Value) (path : String)
    (property : String → Subschema) (subschema : String → Subschema) :
    Except String (List Finding) :=
  match value with
  | .dict fields =>
      objectFindings keywords fields path property (subschema "additionalProperties")
  | .list items => arrayFindings tools.floats keywords items path (subschema "items")
  | .str text => textFindings tools keywords text path
  | value =>
      match jsonNumber tools.floats value with
      | some number => numberFindings tools keywords number path
      | none => .ok []

/-! ## The evaluator -/

mutual

/-- `validate`. -/
def validate (tools : Tools) : Value → Value → String → Except String (List Finding)
  | .dict keywords, value, path => do
      let unknown := unknownFindings keywords path
      match typeProblem tools keywords value with
      | some (code, message) => return unknown ++ [{ path, code, message }]
      | none =>
          let const := constFindings tools keywords value path
          let enum ← enumFindings tools keywords value path
          let all ← combined tools "allOf" keywords value path
          let any ← combined tools "anyOf" keywords value path
          let one ← combined tools "oneOf" keywords value path
          let kind ← kindFindings tools keywords value path
            (fun key => property tools key keywords) (fun name => subschema tools name keywords)
          return unknown ++ const ++ enum ++ all ++ any ++ one ++ kind
  | _, _, _ => .error "TypeError"
termination_by structural schema => schema

/-- The findings of `allOf`, `anyOf` or `oneOf`. -/
def combined (tools : Tools) (keyword : String) :
    Members → Value → String → Except String (List Finding)
  | [], _, _ => .ok []
  | (name, .list branches) :: keywords, value, path =>
      if name = keyword then do
        let results ← branchResults tools branches value path
        return branchFindings keyword path results
      else combined tools keyword keywords value path
  | (name, _) :: keywords, value, path =>
      if name = keyword then .error "TypeError" else combined tools keyword keywords value path
termination_by structural keywords => keywords

/-- `[validate(instance, branch, path) for branch in branches]`. -/
def branchResults (tools : Tools) :
    List Value → Value → String → Except String (List (List Finding))
  | [], _, _ => .ok []
  | branch :: branches, value, path => do
      let findings ← validate tools branch value path
      let results ← branchResults tools branches value path
      return findings :: results
termination_by structural branches => branches

/-- The findings of the schema of a member in `properties`, if it has one. -/
def property (tools : Tools) (key : String) :
    Members → Value → String → Except String (Option (List Finding))
  | [], _, _ => .ok none
  | (name, .dict schemas) :: keywords, value, path =>
      if name = "properties" then subschema tools key schemas value path
      else property tools key keywords value path
  | (name, _) :: keywords, value, path =>
      if name = "properties" then .error "TypeError" else property tools key keywords value path
termination_by structural keywords => keywords

/-- The findings of the schema under a name, if there is one. -/
def subschema (tools : Tools) (key : String) :
    Members → Value → String → Except String (Option (List Finding))
  | [], _, _ => .ok none
  | (name, schema) :: schemas, value, path =>
      if name = key then do
        let findings ← validate tools schema value path
        return some findings
      else subschema tools key schemas value path
termination_by structural schemas => schemas

end

end Adwf.Contracts
