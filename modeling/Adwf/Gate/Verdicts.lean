import Adwf.Gate.Earned

/-!
# Green gates

A success of the trusted gate is earned in every run.  A success of the
governance gate is earned where the pull request was found and still has the
head of the run; otherwise the initial verdict is published, or that of another
head.
-/

namespace Adwf.Gate

open Trust Fallible Program

section Verdicts

variable {saw : Event → Prop} {tools : Tools}

/-! ## Capability live evidence -/

theorem learns_certify {reasons : List String} {certificates : List Json} :
    Learns saw (certify reasons certificates) fun found =>
      found = [] → reasons = [] ∧ ∀ certificate ∈ certificates, ∃ result,
        saw ⟨.certification certificate, .ok result⟩ ∧ result.verified = true := by
  induction certificates generalizing reasons with
  | nil => exact Learns.done fun none => ⟨none, by simp⟩
  | cons certificate certificates ih =>
      refine Learns.bind (learns_request _) fun result seen => ?_
      split_ifs with verified noCodes
      · refine ih.mono fun found holds none => ⟨(holds none).1, ?_⟩
        rw [List.forall_mem_cons]
        exact ⟨⟨result, seen, verified⟩, (holds none).2⟩
      · refine ih.mono fun found holds none => ?_
        have given := (List.append_eq_nil_iff.mp (holds none).1).2
        cases given
      · refine ih.mono fun found holds none => ?_
        have given := (List.append_eq_nil_iff.mp (holds none).1).2
        exact absurd given noCodes

/-- The candidate registry, traceability and schema with their texts. -/
structure CandidateRead (saw : Event → Prop) (tools : Tools) (sha baseSha : String)
    (registry trace schema : Json) : Prop where
  registry : ∃ text, ReadsText saw tools ".adwf/capability-live-evidence.json" sha text ∧
    tools.loads text = .ok registry
  trace : ∃ text, ReadsText saw tools ".adwf/capability-traceability.json" sha text ∧
    tools.loads text = .ok trace
  schema : ∃ text, ReadsText saw tools
    ".adwf/schemas/capability-live-evidence-certification.schema.json" baseSha text ∧
    tools.loads text = .ok schema

variable {sha : String} {pr : Pull} {number : Int}

theorem learns_readCandidate {baseSha : String} (exact : Text.isSha40 sha = true)
    (baseExact : Text.isSha40 baseSha = true) :
    Learns saw (readCandidate tools sha baseSha) fun read =>
      CandidateRead saw tools sha baseSha read.1 read.2.1 read.2.2 := by
  refine Learns.bind (learns_githubBlob exact) fun registryText registryRead => ?_
  refine Learns.bind (learns_ofExcept _) fun registry registryLoaded => ?_
  refine Learns.bind (learns_githubBlob exact) fun traceText traceRead => ?_
  refine Learns.bind (learns_ofExcept _) fun trace traceLoaded => ?_
  refine Learns.bind (learns_githubBlob baseExact) fun schemaText schemaRead => ?_
  refine Learns.bind (learns_ofExcept _) fun schema schemaLoaded => ?_
  exact Learns.done ⟨⟨registryText, registryRead, registryLoaded⟩,
    ⟨traceText, traceRead, traceLoaded⟩, schemaText, schemaRead, schemaLoaded⟩

theorem learns_tryCandidate {baseSha : String} (exact : Text.isSha40 sha = true)
    (baseExact : Text.isSha40 baseSha = true) :
    Learns saw (tryCandidate tools sha baseSha) fun read =>
      ∀ registry trace schema, read = some (registry, trace, schema) →
        CandidateRead saw tools sha baseSha registry trace schema := by
  refine Learns.handle ?_ fun error => ?_
  · refine Learns.bind (learns_readCandidate exact baseExact) fun read found => ?_
    refine Learns.done fun registry trace schema same => ?_
    cases same
    exact found
  · split_ifs
    · exact Learns.done fun registry trace schema same => by cases same
    · exact Learns.fail

theorem exactSha_unique {value : Option String} {code other first second : String}
    (one : exactSha value code = .ok first) (two : exactSha value other = .ok second) :
    first = second := by
  simp only [exactSha, demand, bind_ok_iff] at one two
  obtain ⟨_, _, ⟨⟩⟩ := one
  obtain ⟨_, _, ⟨⟩⟩ := two
  rfl

theorem learns_certifiedEvidence (exact : Text.isSha40 sha = true) (paths : List String) :
    Learns saw (certifiedEvidence tools pr sha) fun evidence => evidence.verified = true →
      ∀ baseSha, exactSha pr.baseSha "PR_BASE_SHA_INVALID" = .ok baseSha →
        EvidenceVerified saw tools sha baseSha paths := by
  refine Learns.bind (learns_ofExcept _) fun baseSha base => ?_
  refine Learns.bind (learns_tryCandidate exact (isSha40_of_exactSha base)) fun read found => ?_
  split
  · exact Learns.done fun verified => by cases verified
  · rename_i registry trace schema
    have candidate := found registry trace schema rfl
    refine Learns.bind (learns_ofExcept _) fun reasons certified => ?_
    split_ifs with refused
    · exact Learns.done fun verified => by cases verified
    · refine Learns.bind (learns_ofExcept _) fun certificates listed => ?_
      refine Learns.bind learns_certify fun reasonsFound holds => ?_
      refine Learns.done fun verified other otherBase => ?_
      rw [exactSha_unique otherBase base]
      obtain ⟨registryText, registryRead, registryLoaded⟩ := candidate.registry
      obtain ⟨traceText, traceRead, traceLoaded⟩ := candidate.trace
      obtain ⟨schemaText, schemaRead, schemaLoaded⟩ := candidate.schema
      exact .inr ⟨registryText, registry, traceText, trace, schemaText, schema, certificates,
        registryRead, registryLoaded, traceRead, traceLoaded, schemaRead, schemaLoaded,
        not_not.mp refused ▸ certified, listed, (holds (of_decide_eq_true verified)).2⟩

theorem learns_liveEvidenceGate (exact : Text.isSha40 sha = true)
    (changedPaths : Option (List String)) :
    Learns saw (liveEvidenceGate tools pr sha changedPaths) fun evidence =>
      evidence.verified = true → ∃ paths, changedPaths = some paths ∧
        ∀ baseSha, exactSha pr.baseSha "PR_BASE_SHA_INVALID" = .ok baseSha →
          EvidenceVerified saw tools sha baseSha paths := by
  unfold liveEvidenceGate
  split_ifs with unnumbered
  · exact Learns.done fun verified => by cases verified
  · cases changedPaths with
    | none => exact Learns.done fun verified => by cases verified
    | some paths =>
        dsimp only
        split
        · exact Learns.done fun verified => by cases verified
        · rename_i names normalized
          split_ifs with guarded
          · exact (learns_certifiedEvidence exact paths).mono
              fun evidence holds verified => ⟨paths, rfl, holds verified⟩
          · exact Learns.done fun _ => ⟨paths, rfl, fun baseSha _ =>
              .inl ⟨names, normalized, Bool.eq_false_of_not_eq_true guarded⟩⟩

/-- Where no branch blocks, the change is authorized. -/
theorem learns_governanceOf {read : Option Classified}
    (classifies : ∀ classified, read = some classified → Classifies saw tools pr classified) :
    Learns saw (governanceOf tools number pr sha read) fun result =>
      (result.1.verified = true → ∃ classified, read = some classified ∧
        Authorized saw tools number pr sha classified) ∧
      (result.2 = [] → result.1.verified = true) := by
  cases read with
  | none =>
      unfold governanceOf route
      exact Learns.done ⟨fun verified => (Bool.false_ne_true verified).elim,
          fun none => (List.cons_ne_nil _ _ none).elim⟩
  | some classified =>
      obtain ⟨policy, patterns, records, trees, _, _, classifiedOk⟩ :=
        (classifies classified rfl).diff
      unfold governanceOf route
      dsimp only
      split_ifs with unprotected drift blocked standing human
      · exact Learns.done ⟨fun _ => ⟨classified, rfl, unprotected.2, .inl unprotected.1⟩,
          fun _ => rfl⟩
      · exact Learns.done ⟨fun verified => (Bool.false_ne_true verified).elim,
          fun none => (List.cons_ne_nil _ _ none).elim⟩
      · exact Learns.done ⟨fun verified => (Bool.false_ne_true verified).elim,
          fun none => (List.cons_ne_nil _ _ none).elim⟩
      · have current : classified.currentBaseSha = classified.baseSha := by
          simpa [Classified.baseCurrent] using drift
        exact Learns.done ⟨fun _ => ⟨classified, rfl, blocked, .inr ⟨current, .inl standing⟩⟩,
          fun _ => rfl⟩
      · have current : classified.currentBaseSha = classified.baseSha := by
          simpa [Classified.baseCurrent] using drift
        refine Learns.bind learns_governanceAuthorization fun mode authorizes => ?_
        cases mode with
        | none => exact Learns.done ⟨fun verified => (Bool.false_ne_true verified).elim,
          fun none => (List.cons_ne_nil _ _ none).elim⟩
        | some mode =>
            exact Learns.done ⟨fun _ => ⟨classified, rfl, blocked,
              .inr ⟨current, .inr (authorizes (by simp))⟩⟩, fun _ => rfl⟩
      · have touches : protectedFiles classified.classification ≠ [] :=
          fun none => unprotected ⟨none, blocked⟩
        rcases mode_of_classifyDiff classifiedOk blocked touches with isStanding | isHuman
        · exact absurd isStanding standing
        · exact absurd isHuman human

/-- What the verdict about a pull request shows. -/
theorem learns_evaluatePull (exact : Text.isSha40 sha = true) :
    Learns saw (evaluatePull tools number sha) fun result => ∃ pr, saw ⟨.pull number, .ok pr⟩ ∧
      (result.1.verified = true → ∃ classified, GovernanceOf saw tools number pr sha classified) ∧
      (result.2 = [] → pr.headSha.getD "" = sha ∧ ∃ classified,
        GovernanceOf saw tools number pr sha classified ∧
        EvidenceVerified saw tools sha classified.baseSha
          classified.classification.changedFiles) := by
  refine Learns.bind (learns_request _) fun pr seen => ?_
  refine Learns.bind (learns_tryClassification pr) fun read classifies => ?_
  refine Learns.bind (learns_governanceOf classifies) ?_
  rintro governance ⟨authorized, quiet⟩
  refine Learns.bind (learns_liveEvidenceGate exact _) fun evidence evidenceHolds => ?_
  have governs (verified : governance.1.verified = true) : ∃ classified,
      read = some classified ∧ GovernanceOf saw tools number pr sha classified := by
    obtain ⟨classified, same, holds⟩ := authorized verified
    exact ⟨classified, same, seen, classifies classified same, holds⟩
  refine Learns.done ⟨pr, seen, fun verified => ?_, fun none => ?_⟩
  · obtain ⟨classified, _, holds⟩ := governs verified
    exact ⟨classified, holds⟩
  · simp only [List.append_eq_nil_iff] at none
    obtain ⟨⟨unmoved, noReasons⟩, noEvidenceReasons⟩ := none
    obtain ⟨classified, same, holds⟩ := governs (quiet noReasons)
    have head : pr.headSha.getD "" = sha := by
      unfold reasonUnless at unmoved
      split_ifs at unmoved with same
      exact of_decide_eq_true same
    have verified : evidence.verified = true := by
      by_contra unverified
      rw [if_neg unverified] at noEvidenceReasons
      cases noEvidenceReasons
    obtain ⟨paths, changed, evidenceRead⟩ := evidenceHolds verified
    rw [same, Option.map_some, Option.some.injEq] at changed
    exact ⟨head, classified, holds, changed ▸ evidenceRead _ holds.classifies.base⟩

/-- The pull request of the run was found, and it was read with the head of the run. -/
structure Settled (saw : Event → Prop) (sha : String) : Prop where
  found : ∀ runId live, saw ⟨.run runId, .ok live⟩ →
    (∃ number, live.pullRequests = [some number]) ∨ ∀ pulls, saw ⟨.pulls, .ok pulls⟩ →
      ∃ number, (pulls.filter fun pr => pr.headSha.getD "" = sha).filterMap Pull.number = [number]
  unmoved : ∀ number pr, saw ⟨.pull number, .ok pr⟩ → pr.headSha = some sha

theorem learns_pullNumberForSha {live : WorkflowRun} :
    Learns saw (pullNumberForSha live sha) fun number => number = none →
      (∀ number, live.pullRequests ≠ [some number]) ∧ ∃ pulls, saw ⟨.pulls, .ok pulls⟩ ∧
        ∀ number, (pulls.filter fun pr => pr.headSha.getD "" = sha).filterMap Pull.number ≠
          [number] := by
  unfold pullNumberForSha
  split
  · exact Learns.done fun none => by cases none
  · rename_i undetermined
    refine Learns.bind (learns_request _) fun pulls seen => ?_
    split
    · exact Learns.done fun none => by cases none
    · rename_i several
      exact Learns.done fun _ => ⟨undetermined, pulls, seen, several⟩

/-- A pull request that was read with the head of the run earns its verdict. -/
theorem governanceEarned_of {classified : Classified}
    (exact : Text.isSha40 sha = true) (head : pr.headSha = some sha)
    (holds : GovernanceOf saw tools number pr sha classified) : classified.headSha = sha := by
  have read := holds.classifies.head
  rw [head, exactSha_of_isSha40 exact] at read
  exact (Except.ok.inj read).symm

theorem learns_evaluateTrustedGate (workflowRun : WorkflowRun) :
    Learns saw (evaluateTrustedGate tools workflowRun) fun evaluation =>
      (evaluation.reasons = [] → GateEarned saw tools evaluation.sha) ∧
      (evaluation.governance.verified = true → Settled saw evaluation.sha →
        GovernanceEarned saw tools evaluation.sha) := by
  unfold evaluateTrustedGate
  dsimp only
  split
  · exact Learns.done ⟨fun none => (List.cons_ne_nil _ _ none).elim,
      fun verified => (Bool.false_ne_true verified).elim⟩
  · split_ifs with invalid
    · exact Learns.done ⟨fun none => (List.cons_ne_nil _ _ none).elim,
      fun verified => (Bool.false_ne_true verified).elim⟩
    · rw [not_or, Bool.not_eq_false] at invalid
      have exact := invalid.2
      refine Learns.bind (learns_request _) fun live liveSeen => ?_
      refine Learns.bind learns_pullNumberForSha fun number unresolved => ?_
      refine Learns.bind (learns_request _) fun checks checksSeen => ?_
      cases number with
      | none =>
          refine Learns.done ⟨fun none => ?_, fun _ settled => ?_⟩
          · rw [eraseDups_eq_nil_iff] at none
            simp [reasonUnless] at none
          · obtain ⟨undetermined, pulls, pullsSeen, several⟩ := unresolved rfl
            rcases settled.found _ live liveSeen with ⟨number, direct⟩ | listed
            · exact absurd direct (undetermined number)
            · obtain ⟨number, one⟩ := listed pulls pullsSeen
              exact absurd one (several number)
      | some number =>
          refine Learns.bind (learns_evaluatePull exact) ?_
          rintro result ⟨pr, seen, verifies, quiet⟩
          refine Learns.done ⟨fun none => ?_, fun verified settled => ?_⟩
          · rw [eraseDups_eq_nil_iff] at none
            simp only [List.append_eq_nil_iff] at none
            obtain ⟨⟨⟨noRunReasons, _⟩, attested⟩, noPullReasons⟩ := none
            obtain ⟨head, classified, holds, evidence⟩ := quiet noPullReasons
            have named : pr.headSha = some (workflowRun.headSha.getD "") := by
              cases stored : pr.headSha with
              | none =>
                  rw [stored] at head
                  exact absurd head.symm (Text.ne_empty_of_isSha40 exact)
              | some value =>
                  rw [stored] at head
                  exact congrArg some head
            have attests : checks.any (attestsFastFeedback (workflowRun.headSha.getD "")) = true := by
              unfold reasonUnless at attested
              split_ifs at attested with attests
              exact attests
            exact ⟨number, pr, classified, named, governanceEarned_of exact named holds, holds,
              evidence, ⟨_, live, liveSeen, noRunReasons⟩, checks, checksSeen, attests⟩
          · obtain ⟨classified, holds⟩ := verifies verified
            have named := settled.unmoved number pr seen
            exact ⟨number, pr, classified, named, governanceEarned_of exact named holds, holds⟩

end Verdicts

end Adwf.Gate
