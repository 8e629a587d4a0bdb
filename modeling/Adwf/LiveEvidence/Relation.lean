import Adwf.LiveEvidence.Registry
import Adwf.Trust.Weakening
import Mathlib.Data.List.Infix

/-!
# Capabilities and their certificates

A capability that counts as live verified refers to certificates, and a
certificate declares capabilities.  Two loops compare the two directions.
-/

namespace Adwf.Fallible

section Loops

variable {ε : Type} {α β : Type} {f : α → Except ε β} {items : List α}

/-- A loop succeeds with values of a kind exactly when each step does. -/
theorem exists_mapM_iff {holds : β → Prop} :
    (∃ values, items.mapM f = .ok values ∧ ∀ value ∈ values, holds value) ↔
      ∀ item ∈ items, ∃ value, f item = .ok value ∧ holds value := by
  induction items with
  | nil =>
      simp only [List.not_mem_nil, false_imp_iff, implies_true, iff_true]
      exact ⟨[], rfl, fun _ listed => absurd listed List.not_mem_nil⟩
  | cons item items ih =>
      rw [List.forall_mem_cons, ← ih]
      constructor
      · rintro ⟨values, mapped, all⟩
        rcases mapM_cons_eq_ok_iff.mp mapped with ⟨value, others, found, foundOthers, rfl⟩
        rw [List.forall_mem_cons] at all
        exact ⟨⟨value, found, all.1⟩, others, foundOthers, all.2⟩
      · rintro ⟨⟨value, found, first⟩, others, foundOthers, rest⟩
        exact ⟨value :: others, mapM_cons_eq_ok_iff.mpr ⟨value, others, found, foundOthers, rfl⟩,
          List.forall_mem_cons.mpr ⟨first, rest⟩⟩

end Loops

end Adwf.Fallible

namespace Adwf.LiveEvidence

open Fallible JsonText Contracts
open Value (get isText)

section Resolution

variable (tools : Tools)

/-- `[A-Z0-9_-]`. -/
def isCertChar (char : Char) : Bool :=
  Text.isUpper char || Text.isDigit char || ['_', '-'].contains char

def certPrefix : List Char :=
  "certification:".toList

/-- `CERT_REF.fullmatch`, the group of the match. -/
def certRef (ref : String) : Option String :=
  let name := ref.toList.drop certPrefix.length
  if certPrefix.isPrefixOf ref.toList && Text.nonemptyOf isCertChar name then
    some (String.ofList name)
  else none

theorem certRef_eq_some_iff {ref cid : String} : certRef ref = some cid ↔
      ref = "certification:" ++ cid ∧ Text.nonemptyOf isCertChar cid.toList = true := by
  have whole : ref = "certification:" ++ cid ↔ ref.toList = certPrefix ++ cid.toList := by
    rw [← String.toList_inj, String.toList_append]
    rfl
  rw [whole, certRef]
  constructor
  · intro found
    split at found
    · rename_i matched
      rw [Bool.and_eq_true, List.isPrefixOf_iff_prefix] at matched
      rcases Option.some.inj found with rfl
      rw [String.toList_ofList]
      exact ⟨(List.prefix_append_drop matched.1), matched.2⟩
    · cases found
  · rintro ⟨same, chars⟩
    rw [same, List.drop_left, String.ofList_toList, if_pos]
    rw [chars, Bool.and_true, List.isPrefixOf_iff_prefix]
    exact List.prefix_append _ _

/-- `set(values)`: the elements have to be hashable. -/
def toSet (values : List Value) : Except String (List Value) :=
  if values.all Value.isHashable then .ok values else .error "TypeError"

/-- `text in (value or [])`. -/
def containsText (text : String) (value : Value) : Except String Bool :=
  if tools.builtins.truthy value then
    match value with
    | .list items => .ok (items.any (isText text))
    | .str whole => .ok (Text.hasInfix text.toList whole.toList)
    | .dict fields => .ok ((fields.map Prod.fst).contains text)
    | _ => .error "TypeError"
  else .ok false

def isLive (cap : Members) : Bool :=
  (get cap "status").isText "LIVE_VERIFIED"

/-- `str(cap.get("id") or "")`. -/
def capabilityId (cap : Members) : String :=
  tools.builtins.textOr (get cap "id")

/-- `known` of `resolve_capability_live_evidence`. -/
def knownIds (capabilities : List Members) : List String :=
  (capabilities.filter fun cap => tools.builtins.truthy (get cap "id")).map (capabilityId tools)

/-- The first certificate of each id, after those in the table. -/
def certTable (table : List (String × Members)) :
    List Value → Except String (List (String × Members))
  | [] => .ok table
  | item :: items => do
      let cert ← item.members
      let cid := certId tools cert
      if cid ≠ "" ∧ cid ∉ table.map Prod.fst then certTable (table ++ [(cid, cert)]) items
      else certTable table items

/-- The errors of one reference, and the id it names. -/
def referenceErrors (table : List (String × Members)) (capId : String) (ref : Value) :
    Except String (List String × Option String) :=
  match certRef (tools.builtins.text ref) with
  | none =>
      .ok (["CAPABILITY_LIVE_CERTIFICATION_REF_INVALID:" ++ capId ++ ":" ++
        tools.builtins.text ref], none)
  | some cid =>
      match table.lookup cid with
      | none =>
          .ok (["CAPABILITY_LIVE_CERTIFICATION_REF_MISSING:" ++ capId ++ ":" ++ cid], some cid)
      | some cert => do
          let items ← tools.builtins.itemsOr (get cert "capability_ids")
          let declared ← toSet items
          let allowed :=
            supportedClassCapabilities (tools.builtins.textOr (get cert "evidence_class"))
          if declared.any (isText capId) = false then
            return (["CAPABILITY_LIVE_CERTIFICATION_SCOPE_MISMATCH:" ++ capId ++ ":" ++ cid],
              some cid)
          return (demand (allowed.any (·.contains capId))
            ("CAPABILITY_LIVE_CERTIFICATION_CLASS_MISMATCH:" ++ capId ++ ":" ++ cid), some cid)

/-- The first loop, on one capability: the errors, and the ids that it names. -/
def capabilityErrors (table : List (String × Members)) (cap : Members) :
    Except String (List String × List String) :=
  if isLive cap then do
    let refs ← tools.builtins.itemsOr (get cap "live_evidence")
    let found ← refs.mapM (referenceErrors tools table (capabilityId tools cap))
    return (demand (!refs.isEmpty)
        ("CAPABILITY_LIVE_CERTIFICATION_MISSING:" ++ capabilityId tools cap) ++
      found.flatMap Prod.fst, found.filterMap Prod.snd)
  else .ok ([], [])

/-- The second loop, on one capability that a certificate declares. -/
def declaredErrors (capabilities : List Members) (cid : String) (declared : Value) :
    Except String (List String) := do
  let error := "LIVE_CERT_DECLARED_SCOPE_NOT_ACTIVE:" ++ cid ++ ":" ++ tools.builtins.text declared
  match capabilities.find? fun cap => same tools (get cap "id") declared with
  | none => return [error]
  | some cap =>
      if isLive cap = false then return [error]
      let refers ← containsText tools ("certification:" ++ cid) (get cap "live_evidence")
      return demand refers error

/-- The second loop, on one certificate. -/
def certErrors (capabilities : List Members) (referenced : List String)
    (entry : String × Members) : Except String (List String) := do
  let items ← tools.builtins.itemsOr (get entry.2 "capability_ids")
  let errors ← items.mapM (declaredErrors tools capabilities entry.1)
  return demand (referenced.contains entry.1) ("LIVE_CERT_UNREFERENCED:" ++ entry.1) ++
    errors.flatten

/-- `resolve_capability_live_evidence`. -/
def resolveCapabilityLiveEvidence (capabilities : List Members) (registry : Members)
    (schema : Option Value) : Except String (List String) := do
  let errors ←
    validateCertificationRegistry tools registry schema (some (knownIds tools capabilities))
  let items ← certificates tools registry
  let table ← certTable tools [] items
  let checked ← capabilities.mapM (capabilityErrors tools table)
  let declared ← table.mapM (certErrors tools capabilities (checked.flatMap Prod.snd))
  return (errors ++ checked.flatMap Prod.fst ++ declared.flatten).eraseDups

end Resolution

/-! ## The two relations -/

section Relations

variable (tools : Tools) (registry : Members) (capabilities : List Members)

def IsCert (cert : Members) : Prop :=
  ∃ items, certificates tools registry = .ok items ∧ .dict cert ∈ items

/-- The references of a capability. -/
def HasRefs (cap : Members) (refs : List Value) : Prop :=
  tools.builtins.itemsOr (get cap "live_evidence") = .ok refs

/-- The reference relation. -/
def Refers (cap cert : Members) : Prop :=
  ∃ refs, HasRefs tools cap refs ∧
    ∃ ref ∈ refs, certRef (tools.builtins.text ref) = some (certId tools cert)

/-- A certificate lists a value among its capabilities. -/
def Lists (cert : Members) (declared : Value) : Prop :=
  ∃ items, tools.builtins.itemsOr (get cert "capability_ids") = .ok items ∧ declared ∈ items

/-- The declaration relation. -/
def Declares (cert cap : Members) : Prop :=
  Lists tools cert (.str (capabilityId tools cap))

/-- The evidence class of a certificate supports a capability. -/
def Supports (cert cap : Members) : Prop :=
  ∃ allowed,
    supportedClassCapabilities (tools.builtins.textOr (get cert "evidence_class")) = some allowed ∧
      capabilityId tools cap ∈ allowed

/-- The text of the reference to a certificate stands among those of a capability. -/
def RefersBack (cap cert : Members) : Prop :=
  ∃ refs, HasRefs tools cap refs ∧ .str ("certification:" ++ certId tools cert) ∈ refs

/-- Live capabilities and certificates that vouch for each other. -/
structure Certified : Prop where
  referred : ∀ cap ∈ capabilities, isLive cap = true →
    ∃ refs, HasRefs tools cap refs ∧ refs ≠ [] ∧ ∀ ref ∈ refs, ∃ cert, IsCert tools registry cert ∧
      certRef (tools.builtins.text ref) = some (certId tools cert) ∧
        Declares tools cert cap ∧ Supports tools cert cap
  used : ∀ cert, IsCert tools registry cert →
    ∃ cap ∈ capabilities, isLive cap = true ∧ Refers tools cap cert
  active : ∀ cert, IsCert tools registry cert → ∀ declared, Lists tools cert declared →
    ∃ cap ∈ capabilities, get cap "id" = declared ∧ isLive cap = true ∧ RefersBack tools cap cert

/-- Capabilities with different, non-empty texts as ids. -/
structure Identified : Prop where
  named : ∀ cap ∈ capabilities, ∃ id, id ≠ "" ∧ get cap "id" = .str id
  distinct : (capabilities.map (capabilityId tools)).Nodup

end Relations

section Accepted

variable {tools : Tools} {registry : Members} {capabilities : List Members}

theorem certificateErrors_eq_ok_nil {known : Option (List String)} {seen : List String}
    {cert : Members} (passed : certificateErrors tools known seen cert = .ok []) :
    certId tools cert ≠ "" ∧ certId tools cert ∉ seen ∧
      ∃ items, tools.builtins.itemsOr (get cert "capability_ids") = .ok items := by
  rw [certificateErrors] at passed
  rcases bind_ok_iff.mp passed with ⟨items, listed, rest⟩
  rcases bind_ok_iff.mp rest with ⟨ofClass, _, ran⟩
  have none := Except.ok.inj ran
  simp only [List.append_eq_nil_iff, demand_eq_nil_iff, Bool.and_eq_true, Bool.not_eq_true',
    decide_eq_true_eq, List.contains_eq_mem, decide_eq_false_iff_not] at none
  exact ⟨none.1.1.1.1.1, none.1.1.1.1.2, items, listed⟩

/-- The certificates of a registry without errors. -/
structure Accepted (tools : Tools) (seen : List String) (certs : List Members) : Prop where
  named : ∀ cert ∈ certs, certId tools cert ≠ "" ∧ certId tools cert ∉ seen
  distinct : (certs.map (certId tools)).Nodup
  listed : ∀ cert ∈ certs, ∃ items, tools.builtins.itemsOr (get cert "capability_ids") = .ok items

theorem accepted_of_registryErrors {known : Option (List String)} {items : List Value}
    {seen : List String} (passed : registryErrors tools known seen items = .ok []) :
    ∃ certs : List Members, items = certs.map .dict ∧ Accepted tools seen certs := by
  induction items generalizing seen with
  | nil => exact ⟨[], rfl, by simp, List.nodup_nil, by simp⟩
  | cons item items ih =>
      rw [registryErrors] at passed
      rcases bind_ok_iff.mp passed with ⟨cert, isDict, rest⟩
      rcases bind_ok_iff.mp rest with ⟨errors, checked, rest⟩
      rcases bind_ok_iff.mp rest with ⟨others, looped, ran⟩
      rcases List.append_eq_nil_iff.mp (Except.ok.inj ran) with ⟨rfl, rfl⟩
      rcases certificateErrors_eq_ok_nil checked with ⟨named, fresh, listed⟩
      rcases ih looped with ⟨certs, rfl, accepted⟩
      have same : item = .dict cert := by
        cases item <;> cases isDict
        rfl
      refine ⟨cert :: certs, by rw [same]; rfl, ?_, ?_, ?_⟩
      · refine List.forall_mem_cons.mpr ⟨⟨named, fresh⟩, fun other among => ?_⟩
        exact ⟨(accepted.named other among).1,
          fun old => (accepted.named other among).2 (List.mem_cons_of_mem _ old)⟩
      · refine List.nodup_cons.mpr ⟨fun again => ?_, accepted.distinct⟩
        rcases List.mem_map.mp again with ⟨other, among, equal⟩
        exact (accepted.named other among).2 (equal ▸ List.mem_cons_self)
      · exact List.forall_mem_cons.mpr ⟨listed, accepted.listed⟩

theorem accepted_of_registry {schema : Option Value} {known : Option (List String)}
    (passed : validateCertificationRegistry tools registry schema known = .ok []) :
    ∃ certs : List Members, certificates tools registry = .ok (certs.map .dict) ∧
      Accepted tools [] certs := by
  rw [validateCertificationRegistry] at passed
  rcases bind_ok_iff.mp passed with ⟨findings, _, rest⟩
  rcases bind_ok_iff.mp rest with ⟨items, listed, rest⟩
  rcases bind_ok_iff.mp rest with ⟨errors, looped, ran⟩
  have none := Trust.eraseDups_eq_nil_iff.mp (Except.ok.inj ran)
  simp only [List.append_eq_nil_iff] at none
  rw [none.1.2] at looped
  rcases accepted_of_registryErrors looped with ⟨certs, rfl, accepted⟩
  exact ⟨certs, listed, accepted⟩

theorem certTable_eq {certs : List Members} {table : List (String × Members)}
    (accepted : Accepted tools (table.map Prod.fst) certs) :
    certTable tools table (certs.map .dict) =
      .ok (table ++ certs.map fun cert => (certId tools cert, cert)) := by
  induction certs generalizing table with
  | nil => rw [List.map_nil, List.map_nil, List.append_nil, certTable]
  | cons cert certs ih =>
      rcases List.forall_mem_cons.mp accepted.named with ⟨named, others⟩
      rcases List.nodup_cons.mp accepted.distinct with ⟨fresh, distinct⟩
      have next : Accepted tools ((table ++ [(certId tools cert, cert)]).map Prod.fst) certs := by
        refine ⟨fun other among => ⟨(others other among).1, ?_⟩, distinct,
          (List.forall_mem_cons.mp accepted.listed).2⟩
        rw [List.map_append, List.mem_append, not_or]
        refine ⟨(others other among).2, fun same => fresh ?_⟩
        rw [List.map_singleton, List.mem_singleton] at same
        exact List.mem_map.mpr ⟨other, among, same⟩
      rw [List.map_cons, List.map_cons, certTable]
      change (if certId tools cert ≠ "" ∧ certId tools cert ∉ table.map Prod.fst then _ else _) = _
      rw [if_pos named, ih next, List.append_assoc, List.singleton_append]

end Accepted

/-! ## What the loops find -/

section Loops

variable {tools : Tools} {registry : Members} {capabilities : List Members}
variable {table : List (String × Members)} {cap : Members}

theorem name_of_referenceErrors {ref : Value} {capId : String} {errors : List String}
    {name : Option String} (checked : referenceErrors tools table capId ref = .ok (errors, name)) :
    name = certRef (tools.builtins.text ref) := by
  unfold referenceErrors at checked
  split at checked
  · cases checked
    exact Eq.symm ‹_›
  · rename_i cid found
    rw [found]
    split at checked
    · cases checked
      rfl
    · rcases bind_ok_iff.mp checked with ⟨items, _, rest⟩
      rcases bind_ok_iff.mp rest with ⟨declared, _, ran⟩
      split at ran
      all_goals
        cases ran
        rfl

theorem referenceErrors_eq_nil_iff {ref : Value} :
    (∃ found, referenceErrors tools table (capabilityId tools cap) ref = .ok found ∧ found.1 = []) ↔
      ∃ cid cert, certRef (tools.builtins.text ref) = some cid ∧ table.lookup cid = some cert ∧
        (∃ items, tools.builtins.itemsOr (get cert "capability_ids") = .ok items ∧
          items.all Value.isHashable = true) ∧
        Declares tools cert cap ∧ Supports tools cert cap := by
  rw [referenceErrors]
  cases certRef (tools.builtins.text ref) with
  | none => simp
  | some cid =>
      cases looked : table.lookup cid with
      | none => simp [looked]
      | some cert =>
          simp only [Option.some.injEq, exists_and_left, exists_eq_left', looked]
          cases listed : tools.builtins.itemsOr (get cert "capability_ids") with
          | error error => simp [Declares, Lists, listed, bind, Except.bind]
          | ok items =>
              have declares : Declares tools cert cap ↔
                  items.any (isText (capabilityId tools cap)) = true := by
                simp only [Declares, Lists, listed, Except.ok.injEq, exists_eq_left',
                  List.any_eq_true, Value.isText_iff, exists_eq_right]
              have supports : Supports tools cert cap ↔
                  ((supportedClassCapabilities
                    (tools.builtins.textOr (get cert "evidence_class"))).any
                      (·.contains (capabilityId tools cap))) = true := by
                rw [Supports]
                cases supportedClassCapabilities
                    (tools.builtins.textOr (get cert "evidence_class")) <;> simp
              rw [declares, supports]
              simp only [ok_bind, toSet, Except.ok.injEq, exists_eq_left']
              by_cases hashable : items.all Value.isHashable = true
              · rw [if_pos hashable, ok_bind]
                cases items.any (isText (capabilityId tools cap)) with
                | false => simp [hashable, pure, Except.pure]
                | true => simp [hashable, pure, Except.pure, demand_eq_nil_iff]
              · simp [hashable, bind, Except.bind]

/-- What the first loop needs of a capability. -/
theorem capabilityErrors_eq_nil_iff :
    (∃ found, capabilityErrors tools table cap = .ok found ∧ found.1 = []) ↔
      (isLive cap = true → ∃ refs, HasRefs tools cap refs ∧ refs ≠ [] ∧ ∀ ref ∈ refs, ∃ found,
          referenceErrors tools table (capabilityId tools cap) ref = .ok found ∧ found.1 = []) := by
  rw [capabilityErrors]
  cases live : isLive cap with
  | false => simp
  | true =>
      simp only [if_true, true_imp_iff, HasRefs, ← exists_mapM_iff]
      constructor
      · rintro ⟨found, checked, none⟩
        rcases bind_ok_iff.mp checked with ⟨refs, listed, rest⟩
        rcases bind_ok_iff.mp rest with ⟨values, mapped, ran⟩
        cases ran
        rcases List.append_eq_nil_iff.mp none with ⟨filled, empty⟩
        rw [demand_eq_nil_iff] at filled
        refine ⟨refs, listed, by simpa using filled, values, mapped, ?_⟩
        exact List.flatMap_eq_nil_iff.mp empty
      · rintro ⟨refs, listed, filled, values, mapped, empty⟩
        refine ⟨_, bind_ok_iff.mpr ⟨refs, listed, bind_ok_iff.mpr ⟨values, mapped, rfl⟩⟩, ?_⟩
        refine List.append_eq_nil_iff.mpr ⟨demand_eq_nil_iff.mpr (by simpa using filled), ?_⟩
        exact List.flatMap_eq_nil_iff.mpr empty

/-- The ids that the first loop notes. -/
theorem mem_referenced_iff {found : List String × List String} {cid : String}
    (checked : capabilityErrors tools table cap = .ok found) :
    cid ∈ found.2 ↔ isLive cap = true ∧ ∃ refs, HasRefs tools cap refs ∧
      ∃ ref ∈ refs, certRef (tools.builtins.text ref) = some cid := by
  rw [capabilityErrors] at checked
  cases live : isLive cap with
  | false =>
      rw [live] at checked
      cases checked
      simp
  | true =>
      rw [live, if_pos rfl] at checked
      rcases bind_ok_iff.mp checked with ⟨refs, listed, rest⟩
      rcases bind_ok_iff.mp rest with ⟨values, mapped, ran⟩
      cases ran
      simp only [true_and, HasRefs, listed, Except.ok.injEq, exists_eq_left', List.mem_filterMap]
      rw [exists_mem_mapM_iff mapped fun value => value.2 = some cid]
      constructor
      · rintro ⟨ref, among, value, step, named⟩
        exact ⟨ref, among, (name_of_referenceErrors step).symm.trans named⟩
      · rintro ⟨ref, among, named⟩
        rcases exists_of_mem_of_mapM mapped among with ⟨value, _, step⟩
        exact ⟨ref, among, value, step, (name_of_referenceErrors step).trans named⟩

theorem same_str_iff {id : String} {value : Value} :
    same tools (.str id) value = true ↔ value = .str id := by
  rw [same, pythonEqual]
  cases value with
  | bool value => cases value <;> simp [equalBy, equalScalar, pythonNumber, jsonNumber]
  | float token =>
      simp only [equalBy, equalScalar, pythonNumber, jsonNumber]
      cases tools.contracts.floats.value token <;> simp
  | str other => simp [equalBy, equalScalar, pythonNumber, jsonNumber, eq_comm]
  | _ => simp [equalBy, equalScalar, pythonNumber, jsonNumber]

theorem Identified.id_eq (identified : Identified tools capabilities)
    (listed : cap ∈ capabilities) : get cap "id" = .str (capabilityId tools cap) := by
  rcases identified.named cap listed with ⟨id, _, same⟩
  rw [capabilityId, same, Builtins.textOr_str]

theorem Identified.eq_of_id (identified : Identified tools capabilities) {other : Members}
    (first : cap ∈ capabilities) (second : other ∈ capabilities)
    (same : get cap "id" = get other "id") : cap = other := by
  rw [identified.id_eq first, identified.id_eq second, Value.str.injEq] at same
  exact List.inj_on_of_nodup_map identified.distinct first second same

theorem find_eq_some_iff (identified : Identified tools capabilities) {declared : Value} :
    capabilities.find? (fun cap => same tools (get cap "id") declared) = some cap ↔
      cap ∈ capabilities ∧ get cap "id" = declared := by
  have holds (other : Members) (listed : other ∈ capabilities) :
      same tools (get other "id") declared = true ↔ get other "id" = declared := by
    rw [identified.id_eq listed, same_str_iff, eq_comm]
  constructor
  · intro found
    have listed := List.mem_of_find?_eq_some found
    have matched := List.find?_some found
    exact ⟨listed, (holds cap listed).mp matched⟩
  · rintro ⟨listed, named⟩
    cases found : capabilities.find? fun cap => same tools (get cap "id") declared with
    | none =>
        exact absurd ((holds cap listed).mpr named) (List.find?_eq_none.mp found cap listed)
    | some other =>
        have among := List.mem_of_find?_eq_some found
        have matched := List.find?_some found
        have again := (holds other among).mp matched
        rw [identified.eq_of_id among listed (again.trans named.symm)]

theorem declaredErrors_eq_nil_iff (identified : Identified tools capabilities) {cid : String}
    {declared : Value} : declaredErrors tools capabilities cid declared = .ok [] ↔
      ∃ cap ∈ capabilities, get cap "id" = declared ∧ isLive cap = true ∧
        containsText tools ("certification:" ++ cid) (get cap "live_evidence") = .ok true := by
  rw [declaredErrors]
  cases found : capabilities.find? fun cap => same tools (get cap "id") declared with
  | none =>
      simp only [pure, Except.pure, Except.ok.injEq, reduceCtorEq, false_iff]
      rintro ⟨cap, listed, named, _⟩
      rw [(find_eq_some_iff identified).mpr ⟨listed, named⟩] at found
      cases found
  | some cap =>
      rcases (find_eq_some_iff identified).mp found with ⟨listed, named⟩
      have only (holds : Members → Prop) :
          (∃ other ∈ capabilities, get other "id" = declared ∧ holds other) ↔ holds cap := by
        constructor
        · rintro ⟨other, among, again, holding⟩
          rwa [identified.eq_of_id listed among (named.trans again.symm)]
        · intro holding
          exact ⟨cap, listed, named, holding⟩
      rw [only]
      cases live : isLive cap with
      | false => simp [live, pure, Except.pure]
      | true =>
          simp only [live, Bool.true_eq_false, if_false, true_and]
          generalize containsText tools ("certification:" ++ cid) (get cap "live_evidence") = found
          cases found with
          | error error => simp [bind, Except.bind]
          | ok refers => simp [bind, Except.bind, pure, Except.pure, demand_eq_nil_iff]

theorem certRef_single (char : Char) : certRef (String.ofList [char]) = none := by
  have short : certPrefix.isPrefixOf [char] = false := by
    rw [Bool.eq_false_iff, Ne, List.isPrefixOf_iff_prefix]
    intro inside
    have long : certPrefix.length = 14 := by decide
    have lengths := inside.length_le
    rw [long, List.length_singleton] at lengths
    omega
  rw [certRef, String.toList_ofList, short]
  rfl

theorem containsText_iff {value : Value} {refs : List Value}
    (listed : tools.builtins.itemsOr value = .ok refs)
    (formed : ∀ ref ∈ refs, certRef (tools.builtins.text ref) ≠ none) {text : String} :
    containsText tools text value = .ok true ↔ .str text ∈ refs := by
  unfold Builtins.itemsOr at listed
  unfold containsText
  cases present : tools.builtins.truthy value with
  | false =>
      rw [present] at listed
      cases listed
      simp
  | true =>
      rw [present, if_pos rfl] at listed
      rw [if_pos rfl]
      cases value with
      | list items =>
          cases listed
          simp [List.any_eq_true, Value.isText_iff]
      | dict fields =>
          cases listed
          simp
      | str whole =>
          cases listed
          cases chars : whole.toList with
          | nil =>
              rw [String.toList_eq_nil_iff.mp chars] at present
              cases present
          | cons char rest =>
              refine absurd (certRef_single char) (formed (.str (String.ofList [char])) ?_)
              rw [chars]
              exact List.mem_cons_self
      | _ => cases listed

/-- What the second loop needs of a certificate. -/
theorem certErrors_eq_nil_iff {referenced : List String} {entry : String × Members} :
    certErrors tools capabilities referenced entry = .ok [] ↔ entry.1 ∈ referenced ∧ ∃ items,
        tools.builtins.itemsOr (get entry.2 "capability_ids") = .ok items ∧
          ∀ declared ∈ items, declaredErrors tools capabilities entry.1 declared = .ok [] := by
  have each (items : List Value) :
      (∃ values, items.mapM (declaredErrors tools capabilities entry.1) = .ok values ∧
        ∀ value ∈ values, value = []) ↔
      ∀ declared ∈ items, declaredErrors tools capabilities entry.1 declared = .ok [] := by
    rw [exists_mapM_iff]
    simp only [exists_eq_right]
  simp only [← each]
  rw [certErrors]
  constructor
  · intro checked
    rcases bind_ok_iff.mp checked with ⟨items, listed, rest⟩
    rcases bind_ok_iff.mp rest with ⟨values, mapped, ran⟩
    rcases List.append_eq_nil_iff.mp (Except.ok.inj ran) with ⟨used, none⟩
    refine ⟨by simpa [demand_eq_nil_iff] using used, items, listed, values, mapped, ?_⟩
    exact List.flatten_eq_nil_iff.mp none
  · rintro ⟨used, items, listed, values, mapped, none⟩
    refine bind_ok_iff.mpr ⟨items, listed, bind_ok_iff.mpr ⟨values, mapped, ?_⟩⟩
    refine congrArg Except.ok (List.append_eq_nil_iff.mpr ⟨?_, List.flatten_eq_nil_iff.mpr none⟩)
    exact demand_eq_nil_iff.mpr (by simpa using used)

end Loops

/-! ## Resolution -/

section Resolved

variable {tools : Tools} {registry : Members} {capabilities certs : List Members}
variable {schema : Option Value}

/-- The table of the accepted certificates. -/
def tableOf (tools : Tools) (certs : List Members) : List (String × Members) :=
  certs.map fun cert => (certId tools cert, cert)

theorem lookup_tableOf_iff (accepted : Accepted tools [] certs) {cid : String} {cert : Members} :
    (tableOf tools certs).lookup cid = some cert ↔ cert ∈ certs ∧ certId tools cert = cid := by
  have distinct : ((tableOf tools certs).map Prod.fst).Nodup := by
    rw [tableOf, List.map_map]
    exact accepted.distinct
  rw [lookup_eq_some_iff_mem distinct, tableOf, List.mem_map]
  constructor
  · rintro ⟨other, among, ⟨⟩⟩
    exact ⟨among, rfl⟩
  · rintro ⟨among, rfl⟩
    exact ⟨cert, among, rfl⟩

theorem resolve_eq_nil_iff (passed : validateCertificationRegistry tools registry schema
      (some (knownIds tools capabilities)) = .ok [])
    (listed : certificates tools registry = .ok (certs.map .dict))
    (accepted : Accepted tools [] certs) :
    resolveCapabilityLiveEvidence tools capabilities registry schema = .ok [] ↔
      ∃ checked, capabilities.mapM (capabilityErrors tools (tableOf tools certs)) = .ok checked ∧
        (∀ found ∈ checked, found.1 = []) ∧
        ∀ cert ∈ certs, certErrors tools capabilities (checked.flatMap Prod.snd)
          (certId tools cert, cert) = .ok [] := by
  have table : certTable tools [] (certs.map .dict) = .ok (tableOf tools certs) := by
    rw [certTable_eq accepted, List.nil_append, tableOf]
  rw [resolveCapabilityLiveEvidence, passed, ok_bind, listed, ok_bind, table, ok_bind]
  have each (referenced : List String) :
      (∃ declared, (tableOf tools certs).mapM (certErrors tools capabilities referenced) =
          .ok declared ∧ ∀ errors ∈ declared, errors = []) ↔
        ∀ cert ∈ certs, certErrors tools capabilities referenced (certId tools cert, cert) =
          .ok [] := by
    rw [exists_mapM_iff, tableOf, List.forall_mem_map]
    simp only [exists_eq_right]
  simp only [← each]
  constructor
  · intro ran
    rcases bind_ok_iff.mp ran with ⟨checked, first, rest⟩
    rcases bind_ok_iff.mp rest with ⟨declared, second, ran⟩
    have none := Trust.eraseDups_eq_nil_iff.mp (Except.ok.inj ran)
    rw [List.nil_append, List.append_eq_nil_iff] at none
    exact ⟨checked, first, List.flatMap_eq_nil_iff.mp none.1, declared, second,
      List.flatten_eq_nil_iff.mp none.2⟩
  · rintro ⟨checked, first, none, declared, second, empty⟩
    refine bind_ok_iff.mpr ⟨checked, first, bind_ok_iff.mpr ⟨declared, second, ?_⟩⟩
    refine congrArg Except.ok (Trust.eraseDups_eq_nil_iff.mpr ?_)
    rw [List.nil_append, List.append_eq_nil_iff]
    exact ⟨List.flatMap_eq_nil_iff.mpr none, List.flatten_eq_nil_iff.mpr empty⟩

theorem mem_flatMap_referenced_iff {table : List (String × Members)}
    {checked : List (List String × List String)} {cid : String}
    (mapped : capabilities.mapM (capabilityErrors tools table) = .ok checked) :
    cid ∈ checked.flatMap Prod.snd ↔ ∃ cap ∈ capabilities, isLive cap = true ∧
      ∃ refs, HasRefs tools cap refs ∧
        ∃ ref ∈ refs, certRef (tools.builtins.text ref) = some cid := by
  rw [List.mem_flatMap, exists_mem_mapM_iff mapped fun found => cid ∈ found.2]
  constructor
  · rintro ⟨cap, among, found, step, noted⟩
    exact ⟨cap, among, (mem_referenced_iff step).mp noted⟩
  · rintro ⟨cap, among, refers⟩
    rcases exists_of_mem_of_mapM mapped among with ⟨found, _, step⟩
    exact ⟨cap, among, found, step, (mem_referenced_iff step).mpr refers⟩

section Relation

variable (identified : Identified tools capabilities) (accepted : Accepted tools [] certs)
variable (isCert : ∀ cert, IsCert tools registry cert ↔ cert ∈ certs)
include identified accepted isCert

theorem certified_of_loops {checked : List (List String × List String)}
    (mapped : capabilities.mapM (capabilityErrors tools (tableOf tools certs)) = .ok checked)
    (none : ∀ found ∈ checked, found.1 = [])
    (declared : ∀ cert ∈ certs, certErrors tools capabilities (checked.flatMap Prod.snd)
      (certId tools cert, cert) = .ok []) : Certified tools registry capabilities := by
  have referred (cap : Members) (among : cap ∈ capabilities) (live : isLive cap = true) :
      ∃ refs, HasRefs tools cap refs ∧ refs ≠ [] ∧ ∀ ref ∈ refs, ∃ cert,
        IsCert tools registry cert ∧
          certRef (tools.builtins.text ref) = some (certId tools cert) ∧
            Declares tools cert cap ∧ Supports tools cert cap := by
    rcases exists_of_mem_of_mapM mapped among with ⟨found, inside, step⟩
    rcases capabilityErrors_eq_nil_iff.mp ⟨found, step, none found inside⟩ live with
      ⟨refs, listed, filled, all⟩
    refine ⟨refs, listed, filled, fun ref mem => ?_⟩
    rcases referenceErrors_eq_nil_iff.mp (all ref mem) with
      ⟨cid, cert, named, looked, _, declares, supports⟩
    rcases (lookup_tableOf_iff accepted).mp looked with ⟨known, rfl⟩
    exact ⟨cert, (isCert cert).mpr known, named, declares, supports⟩
  refine ⟨referred, fun cert known => ?_, fun cert known item lists => ?_⟩
  · have used := (certErrors_eq_nil_iff.mp (declared cert ((isCert cert).mp known))).1
    exact (mem_flatMap_referenced_iff mapped).mp used
  · rcases (certErrors_eq_nil_iff.mp (declared cert ((isCert cert).mp known))).2 with
      ⟨items, listed, all⟩
    rcases lists with ⟨others, listedToo, mem⟩
    rcases Except.ok.inj (listed.symm.trans listedToo) with rfl
    rcases (declaredErrors_eq_nil_iff identified).mp (all item mem) with
      ⟨cap, among, named, live, contains⟩
    rcases referred cap among live with ⟨refs, hasRefs, _, wellFormed⟩
    refine ⟨cap, among, named, live, refs, hasRefs, (containsText_iff hasRefs ?_).mp contains⟩
    intro ref inside
    rcases wellFormed ref inside with ⟨other, _, matched, _⟩
    rw [matched]
    exact Option.some_ne_none _

theorem loops_of_certified (certified : Certified tools registry capabilities) :
    ∃ checked, capabilities.mapM (capabilityErrors tools (tableOf tools certs)) = .ok checked ∧
      (∀ found ∈ checked, found.1 = []) ∧
      ∀ cert ∈ certs, certErrors tools capabilities (checked.flatMap Prod.snd)
        (certId tools cert, cert) = .ok [] := by
  have texts (cert : Members) (known : cert ∈ certs) : ∃ items,
      tools.builtins.itemsOr (get cert "capability_ids") = .ok items ∧
        items.all Value.isHashable = true := by
    rcases accepted.listed cert known with ⟨items, listed⟩
    refine ⟨items, listed, List.all_eq_true.mpr fun item mem => ?_⟩
    rcases certified.active cert ((isCert cert).mpr known) item ⟨items, listed, mem⟩ with
      ⟨cap, among, named, _⟩
    rw [← named, identified.id_eq among]
    rfl
  have first (cap : Members) (among : cap ∈ capabilities) :
      ∃ found, capabilityErrors tools (tableOf tools certs) cap = .ok found ∧ found.1 = [] := by
    refine capabilityErrors_eq_nil_iff.mpr fun live => ?_
    rcases certified.referred cap among live with ⟨refs, listed, filled, all⟩
    refine ⟨refs, listed, filled, fun ref mem => ?_⟩
    rcases all ref mem with ⟨cert, known, named, declares, supports⟩
    have inside := (isCert cert).mp known
    exact referenceErrors_eq_nil_iff.mpr ⟨certId tools cert, cert, named,
      (lookup_tableOf_iff accepted).mpr ⟨inside, rfl⟩, texts cert inside, declares, supports⟩
  rcases exists_mapM_iff.mpr first with ⟨checked, mapped, none⟩
  refine ⟨checked, mapped, none, fun cert known => certErrors_eq_nil_iff.mpr ⟨?_, ?_⟩⟩
  · exact (mem_flatMap_referenced_iff mapped).mpr (certified.used cert ((isCert cert).mpr known))
  · rcases texts cert known with ⟨items, listed, _⟩
    refine ⟨items, listed, fun item mem => (declaredErrors_eq_nil_iff identified).mpr ?_⟩
    rcases certified.active cert ((isCert cert).mpr known) item ⟨items, listed, mem⟩ with
      ⟨cap, among, named, live, refs, hasRefs, back⟩
    refine ⟨cap, among, named, live, (containsText_iff hasRefs fun ref inside => ?_).mpr back⟩
    rcases certified.referred cap among live with ⟨others, hasOthers, _, wellFormed⟩
    rcases Except.ok.inj (hasRefs.symm.trans hasOthers) with rfl
    rcases wellFormed ref inside with ⟨other, _, matched, _⟩
    rw [matched]
    exact Option.some_ne_none _

theorem Certified.refers_iff (certified : Certified tools registry capabilities)
    {cap cert : Members} (among : cap ∈ capabilities) (known : IsCert tools registry cert) :
    isLive cap = true ∧ Refers tools cap cert ↔ Declares tools cert cap := by
  constructor
  · rintro ⟨live, refs, hasRefs, ref, inside, named⟩
    rcases certified.referred cap among live with ⟨others, hasOthers, _, wellFormed⟩
    rcases Except.ok.inj (hasRefs.symm.trans hasOthers) with rfl
    rcases wellFormed ref inside with ⟨other, knownToo, namedToo, declares, _⟩
    have same : other = cert := by
      have ids := Option.some.inj (namedToo.symm.trans named)
      exact List.inj_on_of_nodup_map accepted.distinct ((isCert other).mp knownToo)
        ((isCert cert).mp known) ids
    exact same ▸ declares
  · intro declares
    rcases certified.active cert known _ declares with ⟨other, listed, named, live, refs, back⟩
    have same : other = cap :=
      identified.eq_of_id listed among (named.trans (identified.id_eq among).symm)
    rcases certified.used cert known with ⟨_, _, _, _, _, ref, _, matched⟩
    have wellFormed :
        certRef ("certification:" ++ certId tools cert) = some (certId tools cert) :=
      certRef_eq_some_iff.mpr ⟨rfl, (certRef_eq_some_iff.mp matched).2⟩
    exact ⟨same ▸ live, refs, same ▸ back.1, _, back.2, wellFormed⟩

end Relation

/-- Over an accepted registry there are no errors exactly when live
capabilities and certificates vouch for each other; the two relations are then
the same. -/
theorem resolveCapabilityLiveEvidence_spec (identified : Identified tools capabilities)
    (passed : validateCertificationRegistry tools registry schema
      (some (knownIds tools capabilities)) = .ok []) :
    (resolveCapabilityLiveEvidence tools capabilities registry schema = .ok [] ↔
      Certified tools registry capabilities) ∧
    (resolveCapabilityLiveEvidence tools capabilities registry schema = .ok [] →
      ∀ cap ∈ capabilities, ∀ cert, IsCert tools registry cert →
        (isLive cap = true ∧ Refers tools cap cert ↔ Declares tools cert cap)) := by
  rcases accepted_of_registry passed with ⟨certs, listed, accepted⟩
  have isCert (cert : Members) : IsCert tools registry cert ↔ cert ∈ certs := by
    simp only [IsCert, listed, Except.ok.injEq, exists_eq_left', List.mem_map, Value.dict.injEq,
      exists_eq_right]
  have exact : resolveCapabilityLiveEvidence tools capabilities registry schema = .ok [] ↔
      Certified tools registry capabilities := by
    rw [resolve_eq_nil_iff passed listed accepted]
    constructor
    · rintro ⟨checked, mapped, none, declared⟩
      exact certified_of_loops identified accepted isCert mapped none declared
    · exact loops_of_certified identified accepted isCert
  refine ⟨exact, fun resolved cap among cert known => ?_⟩
  exact (exact.mp resolved).refers_iff identified accepted isCert among known

end Resolved

/-! ## A certified upgrade -/

/-- The digests of one certificate and of the registry that holds it. -/
def upgradeTools : Tools where
  contracts :=
    { floats := { normal := id, value := fun _ => none, normal_normal := normal_id }
      search := fun _ _ => none
      isIsoFormat := fun _ => false
      repr := fun _ => "" }
  textOf := fun _ => ""
  digest := fun text =>
    if ['\x7b', '"', 'c', 'a'].isPrefixOf text then
      "5c2ba687396b8bb3406f89cf8475fb91a9aab7320cd3b52f259f30a6fa4c1163"
    else "d9683bffd8a5a33b06e479337f0a9153e3afd93928113c1c4777041c9c7e0923"

def shaOf (digit : Char) : Value :=
  .str (String.ofList (List.replicate 40 digit))

def upgradeCert : Members :=
  [("capability_ids", .list (upgradeCapabilities.map .str)), ("certification_sha256",
      .str "5c2ba687396b8bb3406f89cf8475fb91a9aab7320cd3b52f259f30a6fa4c1163"),
    ("consumer", .dict [("sha", shaOf 'a'), ("tree", shaOf 'a')]),
    ("evidence_class", .str upgradeClass), ("external_source_unchanged", .bool true),
    ("framework", .dict [("source_sha", shaOf 'b'), ("source_tree", shaOf 'b'),
      ("target_sha", shaOf 'c'), ("target_tree", shaOf 'c')]),
    ("id", .str "UPGRADE-003"),
    ("provider", .dict [("check_app_id", .int 15368), ("check_app_slug", .str "github-actions"),
      ("check_name", .str "adwf/external-consumer-upgrade-proof"), ("check_run_id", .int 2),
      ("provider", .str "github"), ("repository", .str "kmephis-ai/AI-Development-Framework"),
      ("workflow_name", .str "ADWF UPGRADE-003 Post-Merge External Consumer Proof"),
      ("workflow_run_head_sha", shaOf 'c'), ("workflow_run_id", .int 1)]),
    ("report_sha256", .str (String.ofList (List.replicate 64 'd'))),
    ("subject", .dict [("sha", shaOf 'c'), ("tree", shaOf 'c')]),
    ("transitions", .dict [("adoption", .str "COMMITTED"), ("retry_b", .str "COMMITTED"),
      ("rollback_a", .str "ROLLED_BACK"), ("upgrade_b", .str "COMMITTED")]),
    ("write_back_performed", .bool false)]

def upgradeRegistry : Members :=
  [("certifications", .list [.dict upgradeCert]), ("registry_sha256",
      .str "d9683bffd8a5a33b06e479337f0a9153e3afd93928113c1c4777041c9c7e0923"),
    ("role", .str "CANONICAL_CAPABILITY_LIVE_EVIDENCE_CERTIFICATIONS"), ("schema_version", .int 1)]

/-- The capabilities of the certificate, each with a reference to it. -/
def liveCapabilities : List Members :=
  upgradeCapabilities.map fun id =>
    [("id", .str id), ("live_evidence", .list [.str "certification:UPGRADE-003"]),
      ("status", .str "LIVE_VERIFIED")]

theorem certified_upgrade : Certified upgradeTools upgradeRegistry liveCapabilities := by
  have identified : Identified upgradeTools liveCapabilities := by
    refine ⟨fun cap listed => ?_, by decide⟩
    rcases List.mem_map.mp listed with ⟨id, among, rfl⟩
    have filled : ∀ id ∈ upgradeCapabilities, id ≠ "" := by decide
    exact ⟨id, filled id among, rfl⟩
  have passed : validateCertificationRegistry upgradeTools upgradeRegistry none
      (some (knownIds upgradeTools liveCapabilities)) = .ok [] := by
    decide +kernel
  have resolved :
      resolveCapabilityLiveEvidence upgradeTools liveCapabilities upgradeRegistry none = .ok [] := by
    rw [resolveCapabilityLiveEvidence, passed, ok_bind]
    decide +kernel
  exact (resolveCapabilityLiveEvidence_spec identified passed).1.mp resolved

end Adwf.LiveEvidence
