import Mathlib.Data.List.Basic
import Adwf.Gate.Earned

/-!
# Base64 texts

Strict decoding of a padded base64 text, and the texts the contents API serves.
-/

namespace Adwf.Controller

/-- The value of a letter of the alphabet. -/
def sextet (char : Char) : Option Nat :=
  if 'A' ≤ char ∧ char ≤ 'Z' then some (char.toNat - 'A'.toNat)
  else if 'a' ≤ char ∧ char ≤ 'z' then some (char.toNat - 'a'.toNat + 26)
  else if '0' ≤ char ∧ char ≤ '9' then some (char.toNat - '0'.toNat + 52)
  else if char = '+' then some 62
  else if char = '/' then some 63
  else none

/-- The letter of a value. -/
def letter (value : Nat) : Char :=
  if value < 26 then Char.ofNat ('A'.toNat + value)
  else if value < 52 then Char.ofNat ('a'.toNat + (value - 26))
  else if value < 62 then Char.ofNat ('0'.toNat + (value - 52))
  else if value = 62 then '+'
  else '/'

/-- `b64decode(text, validate=True)`: other characters than letters raise, and padding
stands at the end only. -/
def b64decode : List Char → Option (List UInt8)
  | [] => some []
  | first :: second :: third :: fourth :: rest => do
      let high ← sextet first
      let low ← sextet second
      let leading := UInt8.ofNat (high * 4 + low / 16)
      if fourth = '=' then
        if rest ≠ [] then none
        else if third = '=' then some [leading]
        else do
          let next ← sextet third
          some [leading, UInt8.ofNat (low % 16 * 16 + next / 4)]
      else do
        let next ← sextet third
        let last ← sextet fourth
        let others ← b64decode rest
        some (leading :: UInt8.ofNat (low % 16 * 16 + next / 4) ::
          UInt8.ofNat (next % 4 * 64 + last) :: others)
  | _ => none

/-- The base64 text of bytes. -/
def b64encode : List UInt8 → List Char
  | first :: second :: third :: rest =>
      letter (first.toNat / 4) :: letter (first.toNat % 4 * 16 + second.toNat / 16) ::
        letter (second.toNat % 16 * 4 + third.toNat / 64) :: letter (third.toNat % 64) ::
        b64encode rest
  | [first, second] =>
      [letter (first.toNat / 4), letter (first.toNat % 4 * 16 + second.toNat / 16),
        letter (second.toNat % 16 * 4), '=']
  | [first] => [letter (first.toNat / 4), letter (first.toNat % 4 * 16), '=', '=']
  | [] => []

theorem ne_of_sextet {char : Char} {value : Nat} (known : sextet char = some value) :
    '\n' ≠ char := by
  rintro rfl
  cases known

theorem not_mem_of_b64decode {text : List Char} {raw : List UInt8}
    (decoded : b64decode text = some raw) : '\n' ∉ text := by
  induction text using b64decode.induct generalizing raw with
  | case1 => simp
  | case2 first second third fourth rest ih =>
      simp only [b64decode, Option.bind_eq_bind, Option.bind_eq_some_iff] at decoded
      obtain ⟨high, isHigh, low, isLow, decoded⟩ := decoded
      have start := And.intro (ne_of_sextet isHigh) (ne_of_sextet isLow)
      split_ifs at decoded with padded ends short
      · simp [start, padded, short, not_not.mp ends]
      · obtain ⟨next, isNext, _⟩ := Option.bind_eq_some_iff.mp decoded
        simp [start, padded, ne_of_sextet isNext, not_not.mp ends]
      · obtain ⟨next, isNext, decoded⟩ := Option.bind_eq_some_iff.mp decoded
        obtain ⟨last, isLast, decoded⟩ := Option.bind_eq_some_iff.mp decoded
        obtain ⟨others, decodedRest, _⟩ := Option.bind_eq_some_iff.mp decoded
        simp [start, ne_of_sextet isNext, ne_of_sextet isLast, ih decodedRest]
  | case3 => simp_all [b64decode]

/-- The content of a file as the API documents it: base64 with line breaks. -/
structure Wrapped (raw : List UInt8) (content : String) : Prop where
  letters : content.toList.filter (· ≠ '\n') = b64encode raw
  broken : raw ≠ [] → '\n' ∈ content.toList

end Adwf.Controller

/-!
## The classifications of the controller and of a clone

`github_trust_classification` reads the file list of a pull request and the contents
API, `classify_git_diff` the output of a local git.
-/

namespace Adwf.Controller

open Trust
open Gate (Raised Content Pull Classified Tools exactSha valueError demand asValueError basePolicy
  raisedBy trustBoundaryPath)

/-! ## The provider -/

/-- A record of the file list of a pull request. -/
structure FileRecord where
  filename : Option String := none
  previousFilename : Option String := none
  status : Option String := none

/-- What the API answers; a value that is not of the type that is read is `none`. -/
structure Provider where
  content : String → String → Except Raised (Option Content)
  files : Int → Nat → Except Raised (Option (List (Option FileRecord)))
  ref : String → Except Raised (Option String)

section Controller

variable (tools : Tools) (utf8 : List UInt8 → String) (provider : Provider)

/-- The text of a file the contents API returned. -/
def blobText (payload : Option Content) : Except Raised String := do
  let content := payload.getD {}
  demand (content.type = some "file" ∧ content.encoding = some "base64") "GITHUB_BLOB_NOT_INLINE"
  match b64decode (content.content.getD "").toList with
  | none => valueError "GITHUB_BLOB_BASE64_INVALID"
  | some raw => do
      demand (raw.length ≤ 2 * 1024 * 1024) "GITHUB_BLOB_INSPECTION_LIMIT"
      return utf8 raw

/-- `_github_blob`. -/
def githubBlob (path sha : String) : Except Raised String := do
  let normalized ← asValueError (normalizeRepoPath path)
  let exact ← exactSha (some sha) "BLOB_SHA_INVALID"
  let payload ← provider.content normalized exact
  blobText utf8 payload

/-- The pages of the file list from the given ones on. -/
def collectFiles (number : Int) (files : List (Option FileRecord)) :
    List Nat → Except Raised (List (Option FileRecord))
  | [] => valueError "PR_DIFF_PAGINATION_INCONCLUSIVE"
  | page :: pages => do
      let answered ← provider.files number page
      match answered with
      | none => valueError "PR_FILES_RESPONSE_INVALID"
      | some batch => do
          demand ((files ++ batch).length ≤ 3000) "PR_DIFF_INSPECTION_LIMIT"
          if batch.length < 100 then return files ++ batch
          else collectFiles number (files ++ batch) pages

/-- `status_map`. -/
def statusMap : List (String × String) :=
  [("added", "A"), ("removed", "D"), ("modified", "M"), ("renamed", "R"), ("copied", "C")]

/-- The text of a file, where it is needed. -/
def textIf (needed : Bool) (path sha : String) : Except Raised (Option String) :=
  if needed then do
    let text ← githubBlob utf8 provider path sha
    return some text
  else return none

/-- The normal form of a name that is there. -/
def normalizedName (name : Option String) : Except Raised (Option String) :=
  match name with
  | none => return none
  | some "" => return none
  | some name => do
      let normalized ← asValueError (normalizeRepoPath name)
      return some normalized

/-- `any(is_protected_path(candidate, patterns) for candidate in (path, old_path) if candidate)`. -/
def isInspected (patterns : List String) (path : String) (oldPath : Option String) :
    Except String Bool := do
  let named ← isProtectedPath path patterns
  match named, oldPath with
  | true, _ => return true
  | false, none => return false
  | false, some oldPath => isProtectedPath oldPath patterns

/-- The record of an item of the file list. -/
def fileRecord (baseSha headSha : String) (patterns : List String) :
    Option FileRecord → Except Raised RawRecord
  | none => valueError "PR_FILE_RECORD_INVALID"
  | some item => do
      let path ← asValueError (normalizeRepoPath (item.filename.getD ""))
      let oldPath ← normalizedName item.previousFilename
      match statusMap.lookup (item.status.getD "") with
      | none => valueError "PR_FILE_STATUS_UNKNOWN"
      | some status => do
          let inspected ← asValueError (isInspected patterns path oldPath)
          let oldText ← textIf utf8 provider (inspected && status ≠ "A") (oldPath.getD path) baseSha
          let newText ← textIf utf8 provider (inspected && status ≠ "D") path headSha
          return { path, status, oldPath, oldText, newText }

/-- A standing authorization does not hold on a base that has moved. -/
def blockDrift (classification : Classification) : Classification :=
  { classification with
    result := .block
    reasonCodes := (classification.reasonCodes ++ ["TRUST_POLICY_BASE_DRIFT"]).eraseDups
    details := classification.details.map fun details =>
      { details with humanRequired := false, authorizationMode := .normal } }

/-- `result.get("authorization_mode")`. -/
def authorizationMode (classification : Classification) : Option AuthorizationMode :=
  classification.details.map (·.authorizationMode)

/-- `github_trust_classification`. -/
def githubTrustClassification (pr : Pull) : Except Raised Classified := do
  let number := pr.number.getD 0
  demand (1 ≤ number) "PR_NUMBER_INVALID"
  let baseSha ← exactSha pr.baseSha "PR_BASE_SHA_INVALID"
  let headSha ← exactSha pr.headSha "PR_HEAD_SHA_INVALID"
  let text ← githubBlob utf8 provider trustBoundaryPath baseSha
  let value ← tools.loads text
  let policy ← basePolicy value
  let files ← collectFiles provider number [] (List.range' 1 31)
  let records ← files.mapM
    (fileRecord utf8 provider baseSha headSha (policy.2.map tools.rt.text))
  let classification ←
    (classifyDiff tools.rt tools.texts (records.map .record) policy.1).mapError raisedBy
  let baseRef := pr.baseRef.getD ""
  demand (baseRef ≠ "") "PR_BASE_REF_INVALID"
  let current ← provider.ref baseRef
  let currentBaseSha ← exactSha current "CURRENT_BASE_SHA_INVALID"
  if authorizationMode classification = some .standingOwnerPolicy ∧ currentBaseSha ≠ baseSha then
    return ⟨blockDrift classification, baseSha, headSha, currentBaseSha⟩
  else return ⟨classification, baseSha, headSha, currentBaseSha⟩

end Controller

/-! ## The clone -/

/-- What `git show` and `git diff --name-status -z` of a clone answer; a failed command is
`none`.  The output of the diff is its list of texts. -/
structure Clone where
  blob : String → String → Except Raised (Option (List UInt8))
  diff : String → String → Except Raised (Option (List String))

section Clone

variable (tools : Tools) (utf8 : List UInt8 → String) (clone : Clone)

/-- `_require_sha`. -/
def requireSha (value : String) : Except Raised String :=
  exactSha (some value) "exact 40-character commit SHA required"

/-- `_git_blob`. -/
def gitBlob (sha path : String) : Except Raised (Option String) := do
  let exact ← requireSha sha
  let normalized ← asValueError (normalizeRepoPath path)
  let shown ← clone.blob exact normalized
  match shown with
  | none => return none
  | some raw => do
      demand (raw.length ≤ 2 * 1024 * 1024) "protected file exceeds inspection limit"
      return some (utf8 raw)

/-- `load_base_trust_policy`. -/
def loadBaseTrustPolicy (baseSha : String) : Except Raised Fields := do
  let raw ← gitBlob utf8 clone baseSha trustBoundaryPath
  match raw with
  | none => valueError "base trust policy missing"
  | some text => do
      let value ← tools.loads text
      match value with
      | .obj policy => return policy
      | _ => valueError "base trust policy invalid"

/-- The items of a value that a loop goes through. -/
def iterated : Json → Except String (List Json)
  | .arr items => .ok items
  | .str text => .ok (text.toList.map fun char => .str (String.ofList [char]))
  | .obj fields => .ok (fields.map fun field => .str field.1)
  | _ => .error "TypeError"

/-- `is_trust_sensitive_path`. -/
def isTrustSensitivePath (path : String) (patterns : Json) : Except String Bool := do
  let normalized ← normalizeRepoPath path
  if normalized ∈ integrityProjections then return true
  else do
    let items ← iterated patterns
    isProtectedPath normalized (items.map tools.rt.text)

/-- The content of a changed path is read; without patterns that of every path. -/
def inspectsContent (patterns : Option Json) (path oldPath : String) : Except String Bool :=
  match patterns with
  | none => return true
  | some patterns => do
      let sensitive ← isTrustSensitivePath tools path patterns
      if sensitive then return true else isTrustSensitivePath tools oldPath patterns

/-- The record of one change. -/
def changeOf (base head : String) (patterns : Option Json) (status : String)
    (oldPath : Option String) (path : String) : Except Raised RawRecord := do
  let normalized ← asValueError (normalizeRepoPath path)
  let renamed ← normalizedName oldPath
  let inspected ← (inspectsContent tools patterns normalized (renamed.getD normalized)).mapError
    raisedBy
  let added := Text.startsWith status "A"
  let deleted := Text.startsWith status "D"
  let oldText ←
    if inspected && !added then gitBlob utf8 clone base (renamed.getD normalized) else pure none
  let newText ← if inspected && !deleted then gitBlob utf8 clone head normalized else pure none
  demand (inspected = false ∨ added = true ∨ oldText ≠ none) "unable to inspect base blob"
  demand (inspected = false ∨ deleted = true ∨ newText ≠ none) "unable to inspect head blob"
  return { path := normalized, status, oldPath := renamed, oldText, newText }

/-- The loop of `git_diff_records` over the output of the diff. -/
def changesOf (base head : String) (patterns : Option Json) (records : List RawRecord) :
    List String → Except Raised (List RawRecord)
  | [] => return records
  | [_] => valueError "malformed git diff"
  | status :: first :: rest =>
      if Text.startsWith status "R" ∨ Text.startsWith status "C" then
        match rest with
        | [] => valueError "malformed git rename"
        | path :: rest => do
            let record ← changeOf tools utf8 clone base head patterns status (some first) path
            demand ((records ++ [record]).length ≤ 10000) "diff exceeds inspection limit"
            changesOf base head patterns (records ++ [record]) rest
      else do
        let record ← changeOf tools utf8 clone base head patterns status none first
        demand ((records ++ [record]).length ≤ 10000) "diff exceeds inspection limit"
        changesOf base head patterns (records ++ [record]) rest

/-- `git_diff_records`. -/
def gitDiffRecords (baseSha headSha : String) (patterns : Option Json) :
    Except Raised (List RawRecord) := do
  let base ← requireSha baseSha
  let head ← requireSha headSha
  let output ← clone.diff base head
  match output with
  | none => valueError "unable to inspect exact base...head diff"
  | some tokens => changesOf tools utf8 clone base head patterns [] tokens

/-- `policy.get("paths", [])` as `protected_patterns`. -/
def protectedPatterns (policy : Fields) : Option Json :=
  match policy.lookup "paths" with
  | none => some (.arr [])
  | some .null => none
  | some patterns => some patterns

/-- `classify_git_diff`. -/
def classifyGitDiff (baseSha headSha : String) : Except Raised Classification := do
  let policy ← loadBaseTrustPolicy tools utf8 clone baseSha
  let records ← gitDiffRecords tools utf8 clone baseSha headSha (protectedPatterns policy)
  (classifyDiff tools.rt tools.texts (records.map .record) policy).mapError raisedBy

end Clone

end Adwf.Controller

/-!
## The evaluators of a trust change

The classifications of the gate, of the controller and of a clone on one pull request.
-/

namespace Adwf.Controller

open Trust
open Gate (Raised Content Pull Classified Tools)

/-- One pull request with all that the evaluators read of it. -/
structure Evaluation where
  tools : Tools
  utf8 : List UInt8 → String
  gate : (call : Gate.Call) → Gate.Answer call
  provider : Provider
  clone : Clone
  pr : Pull

namespace Evaluation

variable (evaluation : Evaluation)

/-- `_provider_trust_classification` of `publish_trusted_gate`. -/
def ofGate : Gate.GateM Classified :=
  ((Gate.providerTrustClassification evaluation.tools evaluation.pr).execute
    (fun (_ : Unit) call => ((), evaluation.gate call)) ()).2

/-- `github_trust_classification` of `orchestrate_event`. -/
def ofController : Except Raised Classified :=
  githubTrustClassification evaluation.tools evaluation.utf8 evaluation.provider evaluation.pr

/-- `classify_git_diff` on the clone. -/
def ofClone : Except Raised Classification :=
  classifyGitDiff evaluation.tools evaluation.utf8 evaluation.clone
    (evaluation.pr.baseSha.getD "") (evaluation.pr.headSha.getD "")

/-- The result and `human_required`. -/
def verdict (classification : Classification) : TrustResult × Option Bool :=
  (classification.result, classification.details.map (·.humanRequired))

/-- No evaluator raises, and all return one result and one `human_required`. -/
def Agrees : Prop :=
  ∃ gate controller clone, evaluation.ofGate = .done gate ∧
    evaluation.ofController = .ok controller ∧ evaluation.ofClone = .ok clone ∧
    verdict gate.classification = verdict controller.classification ∧
    verdict controller.classification = verdict clone

/-- The contents API answers for the files of the clone in the documented format. -/
structure Documented : Prop where
  contents : ∀ path sha raw, evaluation.clone.blob sha path = .ok (some raw) →
    ∃ content, Wrapped raw content ∧
      evaluation.provider.content path sha = .ok (some ⟨some "file", some "base64", some content⟩)
  policy : ∃ raw ≠ [], evaluation.clone.blob (evaluation.pr.baseSha.getD "").toLower
    Gate.trustBoundaryPath = .ok (some raw)

end Evaluation

section Strict

variable {tools : Tools} {utf8 : List UInt8 → String} {provider : Provider}

theorem not_mem_of_blobText {payload : Content} {text : String}
    (read : blobText utf8 (some payload) = .ok text) : '\n' ∉ (payload.content.getD "").toList := by
  obtain ⟨_, _, read⟩ := Fallible.bind_ok_iff.mp read
  simp only [Option.getD_some] at read
  split at read
  · cases read
  · rename_i raw decoded
    exact not_mem_of_b64decode decoded

/-- The controller raises on a policy whose content has a line break. -/
theorem not_ok_of_broken {pr : Pull} {content : String}
    (served : provider.content Gate.trustBoundaryPath (pr.baseSha.getD "").toLower =
      .ok (some ⟨some "file", some "base64", some content⟩))
    (broken : '\n' ∈ content.toList) (classified : Classified) :
    githubTrustClassification tools utf8 provider pr ≠ .ok classified := by
  intro ran
  simp only [githubTrustClassification, Fallible.bind_ok_iff] at ran
  obtain ⟨_, _, baseSha, exact, _, _, text, read, _⟩ := ran
  have lower : baseSha = (pr.baseSha.getD "").toLower := by
    obtain ⟨_, _, same⟩ := Fallible.bind_ok_iff.mp exact
    exact (Except.ok.inj same).symm
  have again : Gate.exactSha (some baseSha) "BLOB_SHA_INVALID" = .ok baseSha :=
    Gate.exactSha_of_isSha40 (Gate.isSha40_of_exactSha exact)
  simp only [githubBlob, Fallible.bind_ok_iff] at read
  obtain ⟨path, normal, sha, shaRead, payload, answered, blob⟩ := read
  have samePath : path = Gate.trustBoundaryPath := by
    have reduced : Gate.asValueError (normalizeRepoPath Gate.trustBoundaryPath) =
        .ok Gate.trustBoundaryPath := by
      decide +kernel
    rw [reduced] at normal
    exact (Except.ok.inj normal).symm
  rw [again] at shaRead
  obtain rfl := Except.ok.inj shaRead
  rw [samePath, lower, served] at answered
  obtain rfl := Except.ok.inj answered
  exact not_mem_of_blobText blob broken

end Strict

/-- The evaluators agree on no pull request whose policy is served in the documented format. -/
theorem never_agrees (evaluation : Evaluation) (documented : evaluation.Documented) :
    ¬evaluation.Agrees := by
  rintro ⟨_, classified, _, _, ran, _⟩
  obtain ⟨raw, some, shown⟩ := documented.policy
  obtain ⟨content, wrapped, served⟩ := documented.contents _ _ _ shown
  exact not_ok_of_broken served (wrapped.broken some) classified ran

/-! ## A pull request that adds a document -/

def plainBase : String :=
  String.ofList (List.replicate 40 'a')

def plainHead : String :=
  String.ofList (List.replicate 40 'b')

/-- The text of the policy of the base. -/
def plainPolicyText : String :=
  "\x7b\"paths\":[\".adwf/**\"],\"self_modification_in_feature_pr\":\"FORBIDDEN\"\x7d"

def plainPolicy : Json :=
  .obj [("paths", .arr [.str ".adwf/**"]), ("self_modification_in_feature_pr", .str "FORBIDDEN")]

/-- The bytes of an ASCII text. -/
def asciiBytes (text : String) : List UInt8 :=
  text.toList.map fun char => UInt8.ofNat char.toNat

def asciiText (raw : List UInt8) : String :=
  String.ofList (raw.map fun byte => Char.ofNat byte.toNat)

/-- The content of a file as the API serves it: one line, then a line break. -/
def servedContent (raw : List UInt8) : String :=
  if raw = [] then "" else String.ofList (b64encode raw ++ ['\n'])

def plainTools : Tools where
  rt := ⟨fun _ => "", fun _ => none, fun _ => none, fun _ => ""⟩
  texts := ⟨fun _ => .malformed, fun text => text⟩
  loads text := if text = plainPolicyText then .ok plainPolicy else .error (.valueError "JSON")
  decodeBase64 content :=
    (b64decode (content.toList.filter (· ≠ '\n'))).map fun raw => (raw.length, asciiText raw)
  ownerAttestations _ := []
  certificationErrors _ _ _ := .ok []
  certifications _ := .ok []

/-- The policy is the file of the base; the head adds a document. -/
def plainBlob (sha path : String) : Option (List UInt8) :=
  if path = Gate.trustBoundaryPath ∧ (sha = plainBase ∨ sha = plainHead) then
    some (asciiBytes plainPolicyText)
  else if path = "docs/note.md" ∧ sha = plainHead then some (asciiBytes "note")
  else none

def plainContent (sha path : String) : Content :=
  ⟨some "file", some "base64", (plainBlob sha path).map servedContent⟩

/-- A file of a tree. -/
def plainItem (path sha : String) : Gate.TreeItem :=
  ⟨some "blob", some "100644", some path, some sha⟩

def plainGate : (call : Gate.Call) → Gate.Answer call
  | .content path ref => .ok (plainContent ref path)
  | .commit sha =>
      .ok ⟨some sha, some sha, some (if sha = plainHead then [some plainBase] else [])⟩
  | .tree sha =>
      .ok ⟨some sha, some false, some (plainItem Gate.trustBoundaryPath plainBase ::
        if sha = plainHead then [plainItem "docs/note.md" plainHead] else [])⟩
  | .ref _ => .ok (some plainBase)
  | _ => .error .providerContractError

def plainEvaluation : Evaluation where
  tools := plainTools
  utf8 := asciiText
  gate := plainGate
  provider := {
    content path sha := .ok (some (plainContent sha path))
    files _ page :=
      .ok (some (if page = 1 then [some ⟨some "docs/note.md", none, some "added"⟩] else []))
    ref _ := .ok (some plainBase) }
  clone := {
    blob sha path := .ok (plainBlob sha path)
    diff _ _ := .ok (some ["A", "docs/note.md"]) }
  pr := {
    number := some 7
    headSha := some plainHead
    baseSha := some plainBase
    baseRef := some "main" }

theorem plainEvaluation_documented : plainEvaluation.Documented := by
  constructor
  · intro path sha raw shown
    refine ⟨servedContent raw, ?_, ?_⟩
    · have known : raw = asciiBytes plainPolicyText ∨ raw = asciiBytes "note" := by
        have stored := Except.ok.inj shown
        unfold plainBlob at stored
        split_ifs at stored with policy note
        · exact .inl (Option.some.inj stored).symm
        · exact .inr (Option.some.inj stored).symm
      rcases known with rfl | rfl
      · exact ⟨by decide +kernel, fun _ => by decide +kernel⟩
      · exact ⟨by decide +kernel, fun _ => by decide +kernel⟩
    · have stored : plainBlob sha path = some raw := Except.ok.inj shown
      change Except.ok (some (plainContent sha path)) = _
      rw [plainContent, stored]
      rfl
  · exact ⟨asciiBytes plainPolicyText, by decide +kernel, by decide +kernel⟩

theorem never_agrees_plain : ¬plainEvaluation.Agrees :=
  never_agrees plainEvaluation plainEvaluation_documented

/-- `classify_git_diff` of the plain clone. -/
def plainCloneResult : Option TrustResult :=
  plainEvaluation.ofClone.toOption.map fun clone => clone.result

/-- The clone allows the document; the controller raises on the policy. -/
theorem not_agrees_documented : plainEvaluation.Documented ∧ plainCloneResult = some .allow ∧
      plainEvaluation.ofController.toOption.isNone = true ∧ ¬plainEvaluation.Agrees := by
  have raised : plainEvaluation.ofController.toOption.isNone = true := by decide +kernel
  refine ⟨plainEvaluation_documented, by decide +kernel, raised, ?_⟩
  rintro ⟨_, classified, _, _, ran, _⟩
  rw [ran] at raised
  cases raised

end Adwf.Controller
