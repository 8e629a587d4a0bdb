import Adwf.ProviderRequests.Admission

/-!
# The provider request codecs

The two gateways as codecs, and how exactly their parsers read the comments
their builders write.
-/

namespace Adwf.ProviderRequests

open Fallible JsonText
open Value (WellFormed)

variable {tools : Tools} {version budget version' budget' : Value} {signature : Option String}
  {request : Members}

/-! ## Provider operations -/

theorem texts_injective {first second : List String} (same : texts first = texts second) :
    first = second := by
  have items := Value.list.inj same
  exact (List.map_injective_iff.mpr fun _ _ equal => Value.str.inj equal) items

theorem wellFormed_texts {floats : Floats} (items : List String) :
    WellFormed floats (texts items) := by
  refine Value.wellFormedItems_iff.mpr fun item mem => ?_
  obtain ⟨text, _, rfl⟩ := List.mem_map.mp mem
  trivial

theorem Carries.unique {first second : Identity} (one : Carries request first)
    (other : Carries request second) : first = second := by
  cases first
  cases second
  simp only [Identity.mk.injEq]
  refine ⟨?_, ?_, ?_, ?_, ?_, ?_, ?_, ?_⟩
  · exact Value.str.inj (one.requestId.symm.trans other.requestId)
  · exact Value.int.inj (one.issueId.symm.trans other.issueId)
  · exact Value.str.inj (one.roadmapId.symm.trans other.roadmapId)
  · exact Value.str.inj (one.expectedMainSha.symm.trans other.expectedMainSha)
  · exact Value.str.inj (one.branch.symm.trans other.branch)
  · exact Value.str.inj (one.workerId.symm.trans other.workerId)
  · exact Value.str.inj (one.leaseId.symm.trans other.leaseId)
  · exact Value.int.inj (one.leaseRegistryRevision.symm.trans other.leaseRegistryRevision)

theorem Performs.unique {first second : Operation} (one : Performs request first)
    (other : Performs request second) : first = second := by
  have kinds := one.named.symm.trans other.named
  cases first <;> cases second <;> simp [Operation.kind, Kind.name] at kinds
  · obtain ⟨_, number, base, head, sources, _⟩ := one
    obtain ⟨_, number', base', head', sources', _⟩ := other
    rw [number, Value.int.injEq] at number'
    rw [base, Value.str.injEq] at base'
    rw [head, Value.str.injEq] at head'
    rw [sources] at sources'
    rw [number', base', head', texts_injective sources']
  · obtain ⟨_, number, base, head⟩ := one
    obtain ⟨_, number', base', head'⟩ := other
    rw [number, Value.int.injEq] at number'
    rw [base, Value.str.injEq] at base'
    rw [head, Value.str.injEq] at head'
    rw [number', base', head']
  · obtain ⟨_, base, head⟩ := one
    obtain ⟨_, base', head'⟩ := other
    rw [base, Value.str.injEq] at base'
    rw [head, Value.str.injEq] at head'
    rw [base', head']

theorem wellFormed_requestMembers (identity : Identity) (operation : Operation)
    (one : WellFormed tools.floats version) (zero : WellFormed tools.floats budget) :
    WellFormed tools.floats (.dict (requestMembers version budget identity operation signature)) := by
  constructor
  · have keys : ((requestMembers version budget identity operation signature).map Prod.fst).Sublist
        operation.kind.fields := by
      cases signature with
      | none =>
          rw [← @unsigned_requestMembers version budget (some ""),
            ← @keys_requestMembers version budget identity operation ""]
          exact List.filter_sublist.map _
      | some digest => rw [keys_requestMembers]
    exact (sorted_fields _).sublist keys
  · have items := @wellFormed_texts tools.floats
    cases operation <;> cases signature <;>
      simp [requestMembers, signed, Value.WellFormedMembers, WellFormed, one, zero, items]

/-- The codec of `parse_provider_ops_comment`. -/
def providerOpsCodec (tools : Tools) : Codec tools (Identity × Operation) where
  marker := providerOpsMarker
  code := "PROVIDER_OPS_REQUEST"
  check := checkRequest tools
  members := fun version budget args => requestMembers version budget args.1 args.2
  Admissible := fun args => args.1.Admissible ∧ args.2.Admissible args.1
  marked := ⟨'A', "DWF-PROVIDER-OPS-REQUEST v1".toList, by decide +kernel, by decide⟩
  oneLine := by decide +kernel
  formed := fun args _ one zero => wellFormed_requestMembers args.1 args.2 one zero
  injective := by
    intro version budget version' budget' args args' signature same
    obtain ⟨isVersion, _, isBudget, _⟩ :=
      @get_requestMembers version budget args.1 args.2 signature
    obtain ⟨isVersion', _, isBudget', _⟩ :=
      @get_requestMembers version' budget' args'.1 args'.2 signature
    rw [same] at isVersion isBudget
    refine ⟨isVersion.symm.trans isVersion', isBudget.symm.trans isBudget', Prod.ext ?_ ?_⟩
    · exact (same ▸ carries_requestMembers args.1 args.2).unique (carries_requestMembers args'.1 args'.2)
    · exact (same ▸ performs_requestMembers args.1 args.2).unique
        (performs_requestMembers args'.1 args'.2)
  unsigned_members := fun _ _ args _ => unsigned_requestMembers args.1 args.2
  get_digest := fun _ _ args digest => (get_requestMembers args.1 args.2 (some digest)).2.2.2
  check_iff := checkRequest_eq_ok_iff

/-- The codec of `parse_claim_comment`. -/
def claimCodec (tools : Tools) : Codec tools Claim where
  marker := claimMarker
  code := "CLAIM_REQUEST"
  check := checkClaim tools
  members := claimMembers
  Admissible := Claim.Admissible
  marked := ⟨'A', "DWF-CLAIM-REQUEST v1".toList, by decide +kernel, by decide⟩
  oneLine := by decide +kernel
  formed := by
    intro version budget claim signature one zero
    constructor
    · have keys : ((claimMembers version budget claim signature).map Prod.fst).Sublist
          claimFields := by
        cases signature with
        | none =>
            rw [← @unsigned_claimMembers version budget (some ""),
              ← @keys_claimMembers version budget claim ""]
            exact List.filter_sublist.map _
        | some digest => rw [keys_claimMembers]
      exact sorted_claimFields.sublist keys
    · cases signature <;> simp [claimMembers, signed, Value.WellFormedMembers, WellFormed, one, zero]
  injective := by
    intro version budget version' budget' claim claim' signature same
    obtain ⟨⟨isVersion, _, isBudget, _⟩, isId, isIssue, isRoadmap, isMain, isRisk⟩ :=
      @get_claimMembers version budget claim signature
    obtain ⟨⟨isVersion', _, isBudget', _⟩, isId', isIssue', isRoadmap', isMain', isRisk'⟩ :=
      @get_claimMembers version' budget' claim' signature
    rw [same] at isVersion isBudget isId isIssue isRoadmap isMain isRisk
    refine ⟨isVersion.symm.trans isVersion', isBudget.symm.trans isBudget', ?_⟩
    cases claim
    cases claim'
    simp only [Claim.mk.injEq]
    exact ⟨Value.str.inj (isId.symm.trans isId'), Value.int.inj (isIssue.symm.trans isIssue'),
      Value.str.inj (isRoadmap.symm.trans isRoadmap'), Value.str.inj (isMain.symm.trans isMain'),
      Value.str.inj (isRisk.symm.trans isRisk')⟩
  unsigned_members := fun _ _ claim _ => unsigned_claimMembers claim
  get_digest := fun _ _ claim digest => (get_claimMembers claim (some digest)).1.2.2.2
  check_iff := checkClaim_eq_ok_iff

/-! ## The codecs -/

theorem build_eq {identity : Identity} {operation : Operation}
    (admissible : operation.Admissible identity) :
    operation.build tools identity = (providerOpsCodec tools).build (identity, operation) := by
  cases operation with
  | materializeProjections prNumber baseSha headSha sourcePaths =>
      obtain ⟨_, _, _, canonicalized, _⟩ := admissible
      change comment _ (canonical (request tools identity (.materializeProjections prNumber baseSha
        headSha (sorted sourcePaths)))) = _
      rw [← (canonicalPaths_eq_ok canonicalized).2]
      rfl
  | leaseReconcile leaseBaseSha prNumber prHeadSha => rfl
  | leaseReleaseUnchanged leaseBaseSha branchHeadSha => rfl

/-- One of the parsers accepts the comment. -/
def Accepts (tools : Tools) (body : String) (read : Members) : Prop :=
  parseProviderOpsComment tools body = .ok read ∨ parseClaimComment tools body = .ok read

theorem providerOps_accepted_iff (body : String) :
    ((∃ read, parseProviderOpsComment tools body = .ok read) ↔
      ∃ (identity : Identity) (operation : Operation), identity.Admissible ∧
        operation.Admissible identity ∧ normalized body = operation.build tools identity) ↔
      ¬(providerOpsCodec tools).Foreign body := by
  rw [← Codec.accepted_iff_built_iff]
  have built : (∃ (identity : Identity) (operation : Operation), identity.Admissible ∧
      operation.Admissible identity ∧ normalized body = operation.build tools identity) ↔
      ∃ args, (providerOpsCodec tools).Admissible args ∧
        normalized body = (providerOpsCodec tools).build args := by
    constructor
    · rintro ⟨identity, operation, admissible, permitted, same⟩
      exact ⟨(identity, operation), ⟨admissible, permitted⟩, same.trans (build_eq permitted)⟩
    · rintro ⟨⟨identity, operation⟩, ⟨admissible, permitted⟩, same⟩
      exact ⟨identity, operation, admissible, permitted, same.trans (build_eq permitted).symm⟩
  rw [built]
  rfl

/-- The two kinds of requests never have the same payload. -/
theorem collision_of_roles {first second : Members} (one : WellFormed tools.floats (.dict first))
    (other : WellFormed tools.floats (.dict second))
    (role : Value.get (unsigned first) "role" = .str providerOpsRole)
    (claims : Value.get (unsigned second) "role" = .str claimRole) :
    canonical (unsigned first) ≠ canonical (unsigned second) := by
  have filtered : ∀ {request : Members}, WellFormed tools.floats (.dict request) →
      WellFormed tools.floats (.dict (unsigned request)) := by
    intro request formed
    refine ⟨formed.1.sublist (List.filter_sublist.map _), ?_⟩
    exact Value.wellFormedMembers_iff.mpr fun field mem =>
      Value.wellFormedMembers_iff.mp formed.2 field (List.mem_of_mem_filter mem)
  intro same
  rw [Codec.canonical_injective (filtered one) (filtered other) same, claims] at role
  exact absurd (Value.str.inj role) (by decide +kernel)

theorem collision_symm {first second : Members} (collision : Codec.Collision tools first second) :
    Codec.Collision tools second first :=
  ⟨collision.1.symm, collision.2.symm⟩

theorem collision_of_kinds {first second : String} {read other : Members}
    (one : parseProviderOpsComment tools first = .ok read)
    (two : parseClaimComment tools second = .ok other)
    (digests : Value.get read "request_digest" = Value.get other "request_digest") :
    Codec.Collision tools read other := by
  obtain ⟨formed, digest, version, budget, args, payload⟩ :=
    @Codec.parsed tools _ (providerOpsCodec tools) first read one
  obtain ⟨formed', digest', version', budget', args', payload'⟩ :=
    @Codec.parsed tools _ (claimCodec tools) second other two
  refine ⟨collision_of_roles formed formed' ?_ ?_, ?_⟩
  · rw [payload]
    exact (get_requestMembers args.1 args.2 none).2.1
  · rw [payload']
    exact (get_claimMembers args' none).1.2.1
  · rw [digest, digest'] at digests
    exact Value.str.inj digests

/-- Comments with one digest are the same, or their payloads collide. -/
theorem eq_or_collision {first second : String} {read other : Members}
    (one : Accepts tools first read) (two : Accepts tools second other)
    (digests : Value.get read "request_digest" = Value.get other "request_digest") :
    normalized first = normalized second ∨ Codec.Collision tools read other := by
  rcases one with ops | claim <;> rcases two with ops' | claim'
  · exact @Codec.eq_or_collision tools _ (providerOpsCodec tools) _ _ _ _ ops ops' digests
  · exact .inr (collision_of_kinds ops claim' digests)
  · exact .inr (collision_symm (collision_of_kinds ops' claim digests.symm))
  · exact @Codec.eq_or_collision tools _ (claimCodec tools) _ _ _ _ claim claim' digests

/-- The arguments of a claim, as a request has them. -/
def Claims (request : Members) (claim : Claim) : Prop :=
  Value.get request "request_id" = .str claim.requestId ∧
    Value.get request "issue_id" = .int claim.issueId ∧
    Value.get request "roadmap_id" = .str claim.roadmapId ∧
    Value.get request "expected_main_sha" = .str claim.expectedMainSha ∧
    Value.get request "risk" = .str claim.risk

/-- The parsers accept what the builders write, except for another spelling of the schema version or
of the budget; they return the arguments of a built comment; and two accepted comments with one
digest are the same, or their payloads have the same SHA-256. -/
theorem requests_exact (tools : Tools) :
    (∀ body, ((∃ read, parseProviderOpsComment tools body = .ok read) ↔
        ∃ (identity : Identity) (operation : Operation), identity.Admissible ∧
          operation.Admissible identity ∧ normalized body = operation.build tools identity) ↔
      ¬(providerOpsCodec tools).Foreign body) ∧
    (∀ body, ((∃ read, parseClaimComment tools body = .ok read) ↔
        ∃ claim : Claim, claim.Admissible ∧ normalized body = buildClaimComment tools claim) ↔
      ¬(claimCodec tools).Foreign body) ∧
    (∀ (identity : Identity) (operation : Operation), identity.Admissible →
      operation.Admissible identity →
        ∃ read, parseProviderOpsComment tools (String.ofList (operation.build tools identity)) =
          .ok read ∧ Carries read identity ∧ Performs read operation) ∧
    (∀ claim : Claim, claim.Admissible →
      ∃ read, parseClaimComment tools (String.ofList (buildClaimComment tools claim)) = .ok read ∧
        Claims read claim) ∧
    ∀ first second read other, Accepts tools first read → Accepts tools second other →
      Value.get read "request_digest" = Value.get other "request_digest" →
        normalized first = normalized second ∨ Codec.Collision tools read other := by
  refine ⟨providerOps_accepted_iff, (claimCodec tools).accepted_iff_built_iff, ?_, ?_, ?_⟩
  · intro identity operation admissible permitted
    have parsed := @Codec.parse_build tools _ (providerOpsCodec tools) (identity, operation)
      ⟨admissible, permitted⟩
    rw [← build_eq permitted] at parsed
    exact ⟨_, parsed, carries_requestMembers identity operation,
      performs_requestMembers identity operation⟩
  · intro claim admissible
    exact ⟨_, @Codec.parse_build tools _ (claimCodec tools) claim admissible,
      (get_claimMembers claim _).2⟩
  · intro first second read other one two digests
    exact eq_or_collision one two digests

/-- The digest of one request. -/
def sampleTools : Tools where
  floats := { normal := id, value := fun _ => none, normal_normal := normal_id }
  digest := fun _ => "e51233d52a5871f578dc2f52e9cc5239e5a95051ab5fdc98a4a39f6751b6fd33"
  digest_hex := fun _ => by decide +kernel

def sampleClaim : Claim where
  requestId := "claim-0001"
  issueId := 7
  roadmapId := "ADWF-7"
  expectedMainSha := "aaaaaaaaaaaaaaaaaaaaaaaaaaaaaaaaaaaaaaaa"

theorem sampleClaim_admissible : sampleClaim.Admissible where
  requestId := by decide +kernel
  issueId := by decide
  roadmapId := by decide +kernel
  expectedMainSha := by decide +kernel
  risk := by decide +kernel

/-- The comment of a claim whose schema version is `true` is accepted, and no builder writes it. -/
theorem booleanVersion_accepted : ¬∀ body, (∃ read, parseClaimComment sampleTools body = .ok read) ↔
      ∃ claim : Claim, claim.Admissible ∧ normalized body = buildClaimComment sampleTools claim := by
  intro exact_
  have named : claimMarker.toList = 'A' :: "DWF-CLAIM-REQUEST v1".toList := by decide +kernel
  have line := normalized_comment named (by decide) (by decide +kernel)
    ((claimCodec sampleTools).request (.bool true) (.int 0) sampleClaim)
  refine ((claimCodec sampleTools).accepted_iff_built_iff _).mp (exact_ (String.ofList (comment
    claimMarker (canonical ((claimCodec sampleTools).request (.bool true) (.int 0) sampleClaim)))))
    ⟨sampleClaim, .bool true, .int 0, sampleClaim_admissible, ⟨?_, trivial⟩, Codec.budget_zero, ?_,
      line⟩
  · simp [Value.equalsInt]
  · rintro ⟨isInt, _⟩
    cases isInt

end Adwf.ProviderRequests
