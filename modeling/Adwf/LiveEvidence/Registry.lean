import Adwf.Contracts.Validate
import Adwf.JsonText.Builtins
import Mathlib.Data.List.Dedup
import Mathlib.Data.List.Sort

/-!
# The certification registry

Certificates of live proofs, and their validation.  A certificate speaks for
exactly the capabilities of its evidence class.
-/

namespace Adwf.LiveEvidence

open Fallible JsonText Contracts
open Value (get isText isPositive dictOr)

/-- The parts of the standard library the registry is validated with. -/
structure Tools where
  contracts : Contracts.Tools
  /-- `str` of a value that is not a text. -/
  textOf : Value → String
  /-- SHA-256 of a text, in hexadecimal. -/
  digest : List Char → String

def Tools.builtins (tools : Tools) : Builtins where
  floats := tools.contracts.floats
  textOf := tools.textOf

/-! ## Evidence classes -/

/-- `UPGRADE_CAPABILITIES`. -/
def upgradeCapabilities : List String :=
  ["CONSUMER_FRAMEWORK_UPGRADE_PLANNING", "CONSUMER_FRAMEWORK_UPGRADE_TRANSACTION"]

/-- `SESSION_CAPABILITIES`. -/
def sessionCapabilities : List String :=
  ["SESSION_CONTINUITY"]

def upgradeClass : String :=
  "REAL_EXTERNAL_CONSUMER_UPGRADE"

def sessionClass : String :=
  "SESSION_CONTINUITY_HANDOVER"

/-- `SUPPORTED_CLASS_CAPABILITIES.get`. -/
def supportedClassCapabilities (evidenceClass : String) : Option (List String) :=
  [(upgradeClass, upgradeCapabilities), (sessionClass, sessionCapabilities)].lookup evidenceClass

/-- Two lists have the same set of members. -/
def sameSet (first second : List String) : Bool :=
  first.all (second.contains ·) && second.all (first.contains ·)

/-! ## Checks -/

/-- `if not condition: errors.append(error)`. -/
def demand (condition : Bool) (error : String) : List String :=
  if condition then [] else [error]

theorem demand_eq_nil_iff {condition : Bool} {error : String} :
    demand condition error = [] ↔ condition = true := by
  cases condition <;> simp [demand]

section Validation

variable (tools : Tools)

/-- `_sha40`. -/
def sha40 (value : Value) : Bool :=
  Text.isSha40 (tools.builtins.textOr value)

/-- `_sha256`. -/
def sha256 (value : Value) : Bool :=
  Text.isSha256 (tools.builtins.textOr value)

/-- `str(value or "").strip()` is not empty. -/
def isFilled (value : Value) : Bool :=
  Text.strip (tools.builtins.textOr value) ≠ ""

def same (first second : Value) : Bool :=
  pythonEqual tools.contracts.floats first second

/-- `_digest(_without(value, name))`. -/
def digestWithout (name : String) (value : Members) : String :=
  tools.digest (canonicalText (.dict (value.filter fun mem => mem.1 ≠ name)))

/-- `_validate_upgrade_certification`, on the texts of `capability_ids`. -/
def validateUpgradeCertification (cert : Members) (caps : List String) (cid : String) :
    List String :=
  let subject := dictOr (get cert "subject")
  let framework := dictOr (get cert "framework")
  let consumer := dictOr (get cert "consumer")
  let provider := dictOr (get cert "provider")
  let labelled := [("SUBJECT_SHA", get subject "sha"), ("SUBJECT_TREE", get subject "tree"),
    ("SOURCE_SHA", get framework "source_sha"), ("SOURCE_TREE", get framework "source_tree"),
    ("TARGET_SHA", get framework "target_sha"), ("TARGET_TREE", get framework "target_tree"),
    ("CONSUMER_SHA", get consumer "sha"), ("CONSUMER_TREE", get consumer "tree"),
    ("WORKFLOW_HEAD_SHA", get provider "workflow_run_head_sha")]
  let transitions := [("adoption", .str "COMMITTED"), ("retry_b", .str "COMMITTED"),
    ("rollback_a", .str "ROLLED_BACK"), ("upgrade_b", .str "COMMITTED")]
  demand (sameSet caps upgradeCapabilities) ("LIVE_CERT_UPGRADE_SCOPE_INVALID:" ++ cid) ++
  (labelled.flatMap fun (label, value) =>
    demand (sha40 tools value) ("LIVE_CERT_" ++ label ++ "_INVALID:" ++ cid)) ++
  demand (same tools (get subject "sha") (get framework "target_sha") &&
      same tools (get subject "tree") (get framework "target_tree"))
    ("LIVE_CERT_TARGET_SUBJECT_MISMATCH:" ++ cid) ++
  demand (!same tools (get framework "source_sha") (get framework "target_sha"))
    ("LIVE_CERT_SOURCE_TARGET_NOT_DISTINCT:" ++ cid) ++
  demand (sha256 tools (get cert "report_sha256")) ("LIVE_CERT_REPORT_DIGEST_INVALID:" ++ cid) ++
  demand ((get provider "provider").isText "github" &&
      (get provider "repository").isText "kmephis-ai/AI-Development-Framework")
    ("LIVE_CERT_PROVIDER_SCOPE_INVALID:" ++ cid) ++
  demand ((get provider "workflow_name").isText
      "ADWF UPGRADE-003 Post-Merge External Consumer Proof")
    ("LIVE_CERT_WORKFLOW_IDENTITY_INVALID:" ++ cid) ++
  demand ((get provider "check_name").isText "adwf/external-consumer-upgrade-proof" &&
      (get provider "check_app_slug").isText "github-actions" &&
      (get provider "check_app_id").equalsInt tools.contracts.floats 15368)
    ("LIVE_CERT_CHECK_IDENTITY_INVALID:" ++ cid) ++
  demand (isPositive (get provider "workflow_run_id"))
    ("LIVE_CERT_WORKFLOW_RUN_ID_INVALID:" ++ cid) ++
  demand (isPositive (get provider "check_run_id"))
    ("LIVE_CERT_CHECK_RUN_ID_INVALID:" ++ cid) ++
  demand (same tools (get cert "transitions") (.dict transitions))
    ("LIVE_CERT_TRANSITIONS_INVALID:" ++ cid) ++
  demand (get cert "external_source_unchanged" matches .bool true)
    ("LIVE_CERT_EXTERNAL_SOURCE_UNCHANGED_REQUIRED:" ++ cid) ++
  demand (get cert "write_back_performed" matches .bool false)
    ("LIVE_CERT_WRITE_BACK_FORBIDDEN:" ++ cid)

/-- `_validate_run`. -/
def validateRun (run : Members) (cid label : String) (runnerRequired : Bool) : List String :=
  demand (isPositive (get run "run_id") && isPositive (get run "job_id"))
    ("LIVE_CERT_SESSION_" ++ label ++ "_RUN_ID_INVALID:" ++ cid) ++
  demand (sha40 tools (get run "head_sha") && sha40 tools (get run "evidence_blob_sha"))
    ("LIVE_CERT_SESSION_" ++ label ++ "_SHA_INVALID:" ++ cid) ++
  demand (isFilled tools (get run "workflow_name") && isFilled tools (get run "job_name"))
    ("LIVE_CERT_SESSION_" ++ label ++ "_IDENTITY_INVALID:" ++ cid) ++
  demand (!runnerRequired || isFilled tools (get run "runner_name"))
    ("LIVE_CERT_SESSION_" ++ label ++ "_RUNNER_INVALID:" ++ cid)

/-- `_validate_anchor`. -/
def validateAnchor (anchor : Members) (cid label : String) : List String :=
  demand (isFilled tools (get anchor "tag"))
    ("LIVE_CERT_SESSION_" ++ label ++ "_TAG_INVALID:" ++ cid) ++
  ([("tag_object_sha", "TAG_OBJECT_SHA"), ("target_sha", "TARGET_SHA")].flatMap
    fun (field, upper) => demand (sha40 tools (get anchor field))
      ("LIVE_CERT_SESSION_" ++ label ++ "_" ++ upper ++ "_INVALID:" ++ cid)) ++
  demand (sha256 tools (get anchor "message_sha256"))
    ("LIVE_CERT_SESSION_" ++ label ++ "_MESSAGE_DIGEST_INVALID:" ++ cid)

/-- The checks of `_validate_session_certification` on one of its two lanes. -/
def validateLane (lane : Members) (cid label : String) : List String :=
  let subject := dictOr (get lane "subject")
  let issue := dictOr (get lane "issue")
  let ledger := dictOr (get lane "ledger")
  demand (sha40 tools (get subject "sha") && sha40 tools (get subject "tree"))
    ("LIVE_CERT_SESSION_" ++ label ++ "_SUBJECT_INVALID:" ++ cid) ++
  demand (isPositive (get issue "number") && (get issue "state").isText "closed" &&
      isPositive (get issue "terminal_comment_id") &&
      sha256 tools (get issue "terminal_comment_sha256"))
    ("LIVE_CERT_SESSION_" ++ label ++ "_ISSUE_INVALID:" ++ cid) ++
  demand (isPositive (get ledger "issue_number") && isPositive (get ledger "comment_id"))
    ("LIVE_CERT_SESSION_" ++ label ++ "_LEDGER_ID_INVALID:" ++ cid) ++
  ([("comment_sha256", "COMMENT_SHA256"), ("event_hash", "EVENT_HASH"),
      ("checkpoint_digest", "CHECKPOINT_DIGEST")].flatMap
    fun (field, upper) => demand (sha256 tools (get ledger field))
      ("LIVE_CERT_SESSION_" ++ label ++ "_LEDGER_" ++ upper ++ "_INVALID:" ++ cid)) ++
  validateAnchor tools (dictOr (get ledger "event_anchor")) cid (label ++ "_EVENT_ANCHOR")

/-- `((lane.get("ledger") or {}).get(anchor) or {}).get("target_sha")` against
`(lane.get("subject") or {}).get("sha")`. -/
def anchorsSubject (lane : Members) (anchor : String) : Except String Bool := do
  let ledger ← tools.builtins.membersOr (get lane "ledger")
  let target ← tools.builtins.membersOr (get ledger anchor)
  let subject ← tools.builtins.membersOr (get lane "subject")
  return same tools (get target "target_sha") (get subject "sha")

/-- `_validate_session_certification`, on the texts of `capability_ids`. -/
def validateSessionCertification (cert : Members) (caps : List String) (cid : String) :
    Except String (List String) := do
  let selfHost := dictOr (get cert "self_host")
  let connected := dictOr (get cert "connected_consumer")
  let selfA := dictOr (get selfHost "session_a")
  let selfB := dictOr (get selfHost "session_b")
  let conA := dictOr (get connected "session_a")
  let conB := dictOr (get connected "session_b")
  let installed := dictOr (get connected "installed_framework")
  let rootAnchor := dictOr (get (dictOr (get connected "ledger")) "root_anchor")
  let duplicate := dictOr (get connected "legacy_duplicate")
  let defect := dictOr (get connected "accepted_defect")
  let selfSafety := [("independent_checkout", .bool true), ("provider_authority", .bool false),
    ("session_a_local_runtime_present", .bool false), ("stale_authority_allowed", .bool false)]
  let conSafety := [("no_duplicate_writer", .bool true),
    ("no_runtime_ledger_write_session_b", .bool true), ("no_stale_mutation", .bool true),
    ("provider_authority", .bool false), ("singleton_ledger", .bool true),
    ("stale_checkpoint_rejected", .bool true)]
  let selfAnchored ← anchorsSubject tools selfHost "event_anchor"
  let rootAnchored ← anchorsSubject tools connected "root_anchor"
  return demand (sameSet caps sessionCapabilities) ("LIVE_CERT_SESSION_SCOPE_INVALID:" ++ cid) ++
    demand ((get selfHost "repository").isText "kmephis-ai/AI-Development-Framework")
      ("LIVE_CERT_SESSION_SELF_HOST_REPOSITORY_INVALID:" ++ cid) ++
    demand (tools.builtins.textOr (get connected "repository") ≠ "" &&
        !same tools (get connected "repository") (get selfHost "repository"))
      ("LIVE_CERT_SESSION_CONSUMER_REPOSITORY_INVALID:" ++ cid) ++
    validateLane tools selfHost cid "SELF_HOST" ++
    validateLane tools connected cid "CONSUMER" ++
    validateRun tools selfA cid "SELF_A" false ++
    validateRun tools selfB cid "SELF_B" false ++
    validateRun tools conA cid "CONSUMER_A" true ++
    validateRun tools conB cid "CONSUMER_B" true ++
    demand (!same tools (get selfA "run_id") (get selfB "run_id"))
      ("LIVE_CERT_SESSION_SELF_RUNS_NOT_DISTINCT:" ++ cid) ++
    demand (!same tools (get conA "run_id") (get conB "run_id"))
      ("LIVE_CERT_SESSION_CONSUMER_RUNS_NOT_DISTINCT:" ++ cid) ++
    demand (!same tools (get conA "runner_name") (get conB "runner_name"))
      ("LIVE_CERT_SESSION_CONSUMER_RUNNERS_NOT_DISTINCT:" ++ cid) ++
    demand (sha40 tools (get installed "sha") && sha40 tools (get installed "tree"))
      ("LIVE_CERT_SESSION_INSTALLED_FRAMEWORK_INVALID:" ++ cid) ++
    validateAnchor tools rootAnchor cid "CONSUMER_ROOT_ANCHOR" ++
    demand (isPositive (get duplicate "issue_number") &&
        (get duplicate "state").isText "closed" &&
        (get duplicate "state_reason").isText "duplicate")
      ("LIVE_CERT_SESSION_DUPLICATE_LEDGER_INVALID:" ++ cid) ++
    demand (tools.builtins.textOr (get defect "repository") ≠ "" &&
        isPositive (get defect "issue_number") && (get defect "state").isText "closed")
      ("LIVE_CERT_SESSION_DEFECT_ACCEPTANCE_INVALID:" ++ cid) ++
    demand (same tools (get selfHost "safety") (.dict selfSafety))
      ("LIVE_CERT_SESSION_SELF_SAFETY_INVALID:" ++ cid) ++
    demand (same tools (get connected "safety") (.dict conSafety))
      ("LIVE_CERT_SESSION_CONSUMER_SAFETY_INVALID:" ++ cid) ++
    demand selfAnchored ("LIVE_CERT_SESSION_SELF_ANCHOR_TARGET_MISMATCH:" ++ cid) ++
    demand rootAnchored ("LIVE_CERT_SESSION_ROOT_ANCHOR_TARGET_MISMATCH:" ++ cid)

/-! ## The registry -/

/-- `str(cert.get("id") or "")`. -/
def certId (cert : Members) : String :=
  tools.builtins.textOr (get cert "id")

/-- The certificates of both lists. -/
def certificates (registry : Members) : Except String (List Value) := do
  let upgrades ← tools.builtins.itemsOr (get registry "certifications")
  let sessions ← tools.builtins.itemsOr (get registry "session_certifications")
  return upgrades ++ sessions

/-- `sorted(set(caps) - known)`. -/
def unknownCapabilities (caps known : List String) : List String :=
  (caps.filter fun cap => !known.contains cap).dedup.insertionSort (· ≤ ·)

/-- The checks of the evidence class of a certificate. -/
def classErrors (cert : Members) (caps : List String) (cid : String) :
    Except String (List String) :=
  let evidenceClass := tools.builtins.textOr (get cert "evidence_class")
  if evidenceClass = upgradeClass then .ok (validateUpgradeCertification tools cert caps cid)
  else if evidenceClass = sessionClass then validateSessionCertification tools cert caps cid
  else .ok ["LIVE_CERT_EVIDENCE_CLASS_UNSUPPORTED:" ++ cid]

/-- The body of the loop of `validate_certification_registry`; `seen` are the
ids before this one. -/
def certificateErrors (known : Option (List String)) (seen : List String) (cert : Members) :
    Except String (List String) := do
  let cid := certId tools cert
  let shown := if cid = "" then "?" else cid
  let items ← tools.builtins.itemsOr (get cert "capability_ids")
  let caps := items.map tools.builtins.text
  let unknown := known.elim [] (unknownCapabilities caps)
  let ofClass ← classErrors tools cert caps shown
  return demand (cid ≠ "" && !seen.contains cid)
      ("LIVE_CERT_DUPLICATE_OR_MISSING_ID:" ++ shown) ++
    demand ((get cert "certification_sha256").isText
        (digestWithout tools "certification_sha256" cert))
      ("LIVE_CERT_DIGEST_MISMATCH:" ++ shown) ++
    demand (decide caps.Nodup && !caps.isEmpty)
      ("LIVE_CERT_CAPABILITY_BINDING_INVALID:" ++ shown) ++
    demand unknown.isEmpty
      ("LIVE_CERT_CAPABILITY_UNKNOWN:" ++ shown ++ ":" ++ ",".intercalate unknown) ++
    ofClass

/-- The loop of `validate_certification_registry`. -/
def registryErrors (known : Option (List String)) :
    List String → List Value → Except String (List String)
  | _, [] => .ok []
  | seen, item :: items => do
      let cert ← item.members
      let errors ← certificateErrors tools known seen cert
      let others ← registryErrors known (certId tools cert :: seen) items
      return errors ++ others

/-- The findings of the schema, when there is one. -/
def schemaFindings (registry : Members) : Option Value → Except String (List Finding)
  | none => .ok []
  | some schema => validate tools.contracts schema (.dict registry) "$"

/-- `validate_certification_registry`. -/
def validateCertificationRegistry (registry : Members) (schema : Option Value)
    (known : Option (List String)) : Except String (List String) := do
  let findings ← schemaFindings tools registry schema
  let items ← certificates tools registry
  let errors ← registryErrors tools known [] items
  return ((findings.map fun finding =>
        "LIVE_CERT_SCHEMA:" ++ finding.path ++ ":" ++ finding.code) ++
      demand ((get registry "schema_version").equalsInt tools.contracts.floats 1 &&
          (get registry "role").isText "CANONICAL_CAPABILITY_LIVE_EVIDENCE_CERTIFICATIONS")
        "LIVE_CERT_REGISTRY_IDENTITY_INVALID" ++
      errors ++
      demand ((get registry "registry_sha256").isText
          (digestWithout tools "registry_sha256" registry))
        "LIVE_CERT_REGISTRY_DIGEST_MISMATCH").eraseDups

end Validation

end Adwf.LiveEvidence
