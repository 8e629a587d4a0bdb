import Adwf.LeaseStore.Provider

/-!
# Concurrent writers

A client appends the revision after the chain it read.  The provider accepts the
ref only when nobody appended it first, so the chain it read is still the whole
chain at that moment.
-/

namespace Adwf.LeaseStore

open Adwf.Fallible Adwf.LeaseRegistry Adwf.Program

section Concurrent

variable {Client : Type} {rt : Runtime} {repo : String} {operations : Client → Operation}
variable {client : Client}

/-! ## Appending -/

variable (rt repo operations) in
/-- The client wrote the revision `state` under the object `sha`. -/
def Written (client : Client) (state : Registry) (sha : String) (store : Store Client) : Prop :=
  ∃ front ref, front ++ [ref] <+: store.refs ∧ ref.writer = client ∧ ref.sha = sha ∧
    Linked rt repo operations store.objects (front ++ [ref]) state (some sha)

variable {state after : Registry} {sha name expectedMainSha : String} {store : Store Client}
variable {previous : Option String} {previousRevision : Int} {binding : Binding}

theorem stable_written : Stable (provider rt repo operations) client
      (Written rt repo operations client state sha) := by
  rintro store later ⟨⟨more, refs, _⟩, extends_⟩ _ ⟨front, ref, upTo, writer, same, linked⟩
  refine ⟨front, ref, ?_, writer, same, linked.mono extends_⟩
  rw [refs]
  exact upTo.trans (List.prefix_append _ _)

variable (rt operations) in
/-- The client has read the chain and computed the next revision from it. -/
structure Prepared (client : Client) (state after : Registry)
    (name : String) : Prop where
  call : ∃ call, (operations client).call state = some call ∧
    registryStep rt state call = .ok after
  bounded : after.revision ≤ 999999999
  named : name = anchorTag after.revision.toNat

theorem eq_of_fresh {front : List (Ref Client)}
    (kept : Chained rt repo operations store) (upTo : front <+: store.refs)
    (linked : Linked rt repo operations store.objects front state previous)
    (revision : after.revision = state.revision + 1) (named : name = anchorTag after.revision.toNat)
    (fresh : ∀ ref ∈ store.refs, ref.tag ≠ name) : store.refs = front := by
  obtain ⟨rest, whole⟩ := upTo
  cases rest with
  | nil => rw [← whole, List.append_nil]
  | cons next rest =>
      have found : store.refs[front.length]? = some next := by
        rw [← whole]
        simp
      have inside : next ∈ store.refs := List.mem_of_getElem? found
      rcases kept.linked with none_ | ⟨_, _, all⟩
      · rw [none_] at inside
        cases inside
      · have place := linked.revision
        have index : after.revision.toNat = front.length + 1 := by omega
        have same := (all.tag found).1
        rw [named, index] at fresh
        exact absurd same (fresh next inside)

theorem chained_append (kept : Chained rt repo operations store)
    (unwritten : Unwritten client store)
    (read : Snapshot rt repo operations [] state previous store)
    (prepared : Prepared rt operations client state after name)
    (stored : store.objects sha = some (anchorObject rt sha after previous))
    (fresh : ∀ ref ∈ store.refs, ref.tag ≠ name) :
    Chained rt repo operations { store with refs := store.refs ++ [⟨name, sha, client⟩] } ∧
      Written rt repo operations client after sha
        { store with refs := store.refs ++ [⟨name, sha, client⟩] } := by
  obtain ⟨front, _, upTo, linked⟩ := read
  obtain ⟨call, made, ran⟩ := prepared.call
  have revision := (succeeds_of_registryStep ran).revision
  have whole := eq_of_fresh kept upTo linked revision prepared.named fresh
  rw [← whole] at linked
  have extended : Linked rt repo operations store.objects
      (store.refs ++ [⟨name, sha, client⟩]) after (some sha) :=
    Linked.extend linked made ran prepared.bounded prepared.named stored
  constructor
  · constructor
    · exact Or.inr ⟨after, some sha, extended⟩
    · rw [List.map_append, List.map_singleton]
      apply kept.writers.append (List.nodup_singleton _)
      rw [List.disjoint_singleton]
      intro wrote
      obtain ⟨ref, inside, same⟩ := List.mem_map.mp wrote
      exact unwritten ref inside same
  · exact ⟨store.refs, _, List.prefix_refl _, rfl, rfl, extended⟩

variable (rt repo operations) in
/-- The client has read the chain and written nothing. -/
def Ready (client : Client) (state : Registry) (previous : Option String)
    (store : Store Client) : Prop :=
  Unwritten client store ∧ Snapshot rt repo operations [] state previous store

theorem stable_ready : Stable (provider rt repo operations) client
      (Ready rt repo operations client state previous) :=
  stable_unwritten.and stable_snapshot

/-- The object is stored under its SHA. -/
def Holding (object : TagObject) (store : Store Client) : Prop :=
  store.objects object.sha = some object

theorem stable_holding {object : TagObject} :
    Stable (provider rt repo operations) client (Holding object) :=
  fun _ _ moved _ stored => moved.2 object.sha object stored

/-- A new object, or one that is there already. -/
theorem extends_update {objects : Objects} {object : TagObject}
    (free : objects sha = none ∨ objects sha = some object) :
    objects.Extends (Function.update objects sha (some object)) := by
  intro other stored found
  by_cases same : other = sha
  · subst same
    rw [Function.update_self]
    rcases free with absent | present
    · rw [absent] at found
      cases found
    · rw [← present, found]
  · rw [Function.update_of_ne same, found]

theorem triple_createTagObject {before : Store Client → Prop} {tag target : String}
    {message : AnchorMessage} (stable : Stable (provider rt repo operations) client before) :
    Triple (provider rt repo operations) client before (ask (.createTagObject tag target message))
      (fun store (sha : String) =>
        before store ∧ Holding ⟨sha, tag, target, "commit", some message⟩ store)
      (fun store error => before store ∧ error.Plain) := by
  apply triple_call stable
  · exact fun sha => stable.and stable_holding
  · exact fun error => stable.and fun _ _ _ _ plain => plain
  · rintro store after answer kept known (⟨rfl, text, rfl⟩ | ⟨sha, free, rfl, created⟩)
    · refine ⟨kept, ?_, fun _ _ => ⟨known, trivial⟩⟩
      intro value same
      cases same
    · have grows := extends_update free
      have afterKept : Chained rt repo operations { store with
          objects := Function.update store.objects sha
            (some ⟨sha, tag, target, "commit", some message⟩) } := by
        refine ⟨?_, kept.writers⟩
        rcases kept.linked with none_ | ⟨state, previous, linked⟩
        · exact Or.inl none_
        · exact Or.inr ⟨state, previous, linked.mono grows⟩
      have moved : Moved client store { store with
          objects := Function.update store.objects sha
            (some ⟨sha, tag, target, "commit", some message⟩) } :=
        ⟨⟨[], by simp, by simp⟩, grows⟩
      have still := stable store _ moved afterKept known
      refine ⟨afterKept, ?_, fun _ _ => ⟨still, trivial⟩⟩
      intro value same
      rw [created value same]
      exact ⟨still, Function.update_self ..⟩

/-- What the creation of a ref may raise: a conflict when nothing was written,
and otherwise an error that reports none. -/
def AppendError (client : Client) (store : Store Client) (error : StoreError) : Prop :=
  error = casConflict ∧ Unwritten client store ∨ error.Plain

theorem triple_createRef (prepared : Prepared rt operations client state after name) :
    Triple (provider rt repo operations) client
      (fun store => Ready rt repo operations client state previous store ∧
        Holding (anchorObject rt sha after previous) store) (createRef name sha)
      (fun store _ => Written rt repo operations client after sha store) (AppendError client) := by
  have created : Triple (provider rt repo operations) client
      (fun store => Ready rt repo operations client state previous store ∧
        Holding (anchorObject rt sha after previous) store)
      (ask (.createTagRef name sha))
      (fun store _ => Written rt repo operations client after sha store)
      (fun store error => ∃ text, error = .provider text ∧
        (Unwritten client store ∨ ¬Refusal text)) := by
    apply triple_call (stable_ready.and stable_holding)
    · exact fun _ => stable_written
    · rintro error store later moved kept ⟨text, same, unwritten | accepted⟩
      · exact ⟨text, same, Or.inl (stable_unwritten store later moved kept unwritten)⟩
      · exact ⟨text, same, Or.inr accepted⟩
    · rintro store later answer kept ⟨ready, stored⟩ (⟨rfl, text, rfl⟩ | ⟨fresh, rfl, accepted⟩)
      · refine ⟨kept, ?_, fun text _ => ⟨text, rfl, Or.inl ready.1⟩⟩
        intro value same
        cases same
      · obtain ⟨afterKept, written⟩ :=
          chained_append kept ready.1 ready.2 prepared stored fresh
        exact ⟨afterKept, fun _ _ => written, fun text same =>
          ⟨text, rfl, Or.inr (accepted text same)⟩⟩
  apply Triple.handle created
  intro error
  apply Triple.ofExists
  intro text
  have stable : Stable (provider rt repo operations) client fun store =>
      error = .provider text ∧ (Unwritten client store ∨ ¬Refusal text) := by
    rintro store later moved kept ⟨same, unwritten | accepted⟩
    · exact ⟨same, Or.inl (stable_unwritten store later moved kept unwritten)⟩
    · exact ⟨same, Or.inr accepted⟩
  split_ifs with refused
  · refine Triple.fail stable ?_
    rintro store _ ⟨rfl, unwritten | accepted⟩
    · exact Or.inl ⟨rfl, unwritten⟩
    · have refusal : Refusal text := by simpa [Refusal] using refused
      exact absurd refusal accepted
  · refine Triple.fail stable ?_
    rintro store _ ⟨rfl, _⟩
    exact Or.inr trivial

theorem triple_readBack {event : AnchorEvent} : Triple (provider rt repo operations) client
      (Written rt repo operations client state sha)
      (readBack rt repo state expectedMainSha name sha event)
      (fun store result => result = (state, sha) ∧
        Written rt repo operations client state sha store) (AppendError client) := by
  have raised : ∀ (store : Store Client) (error : StoreError),
      Written rt repo operations client state sha store → error.Plain →
      AppendError client store error := fun _ _ _ plain => Or.inr plain
  unfold readBack
  have found : Observes rt repo operations client (askOr (.tagRef name)
      "LEASE_PROVIDER_ANCHOR_REF_READBACK_FAILED") fun _ _ => True := by
    apply Observes.askOr (plain_valueError (by decide))
    exact Observes.ask (fun _ => stable_true) fun _ _ _ served =>
      ⟨served.1, fun _ _ => trivial⟩
  apply found.andThen stable_written raised
  intro row
  apply (observes_readAnchor state.revision row).forget.andThen stable_written raised
  intro anchor
  apply Triple.check stable_written
  · exact fun _ _ _ _ => Or.inr (plain_valueError (by decide))
  intro _
  apply (observes_requireMain expectedMainSha).andThen stable_written raised
  intro _
  apply observes_requireAnchorRuleset.andThen stable_written raised
  intro _
  exact Triple.pure stable_written fun _ _ written => ⟨rfl, written⟩

theorem plain_requireTransition (rt : Runtime) (state : Registry) (previousRevision : Int)
    (expectedMainSha : String) : RaisesOnly StoreError.Plain
      (requireTransition rt state previousRevision expectedMainSha) := by
  apply RaisesOnly.bind (plain_requireState rt state)
  intro _
  exact RaisesOnly.bind (plain_require (by decide)) fun _ => plain_require (by decide)

theorem plain_buildEvent (rt : Runtime) (state : Registry) (previous : Option String) :
    RaisesOnly StoreError.Plain (buildEvent rt state previous) := by
  apply RaisesOnly.bind (plain_requireState rt state)
  intro _
  apply RaisesOnly.bind (plain_require (by decide))
  intro _
  exact RaisesOnly.bind (plain_require (by decide)) fun _ => RaisesOnly.pure _

theorem requireTransition_eq_ok {result : Unit}
    (passed : requireTransition rt state previousRevision expectedMainSha = .ok result) :
    state.observedMainSha = expectedMainSha := by
  simp only [requireTransition, bind_ok_iff, require_eq_ok_iff, exists_const] at passed
  obtain ⟨_, _, _, main⟩ := passed
  exact main

theorem tagName_eq_ok {revision : Int} (named : tagName revision = .ok name) :
    revision ≤ 999999999 ∧ name = anchorTag revision.toNat := by
  simp only [tagName, bind_ok_iff, require_eq_ok_iff, exists_const] at named
  obtain ⟨bounds, same⟩ := named
  cases same
  exact ⟨bounds.2, rfl⟩

theorem buildEvent_eq_ok {event : AnchorEvent} (built : buildEvent rt state previous = .ok event) :
    event = eventOf rt state previous := by
  simp only [buildEvent, bind_ok_iff, require_eq_ok_iff, exists_const] at built
  obtain ⟨_, _, _, _, same⟩ := built
  cases same
  rfl

theorem triple_appendCas (computed : ∃ call, (operations client).call state = some call ∧
      registryStep rt state call = .ok after) : Triple (provider rt repo operations) client
      (Ready rt repo operations client state previous)
      (appendCas rt repo after previous previousRevision expectedMainSha)
      (fun store result => result.1 = after ∧
        Written rt repo operations client after result.2 store) (AppendError client) := by
  have raised : ∀ (store : Store Client) (error : StoreError),
      Ready rt repo operations client state previous store → error.Plain →
      AppendError client store error := fun _ _ _ plain => Or.inr plain
  unfold appendCas
  apply Triple.ofExcept_bind stable_ready
  · exact fun error refused _ _ _ => Or.inr (plain_requireTransition _ _ _ _ error refused)
  intro _ passed
  apply (observes_requireMain expectedMainSha).andThen stable_ready raised
  intro _
  apply observes_requireAnchorRuleset.andThen stable_ready raised
  intro _
  apply Triple.ofExcept_bind stable_ready
  · exact fun error refused _ _ _ => Or.inr (plain_tagName _ error refused)
  intro name named
  apply Triple.ofExcept_bind stable_ready
  · exact fun error refused _ _ _ => Or.inr (plain_buildEvent _ _ _ error refused)
  intro event built
  obtain ⟨bounded, name_eq⟩ := tagName_eq_ok named
  apply Triple.bind ((triple_createTagObject stable_ready).raising
    fun _ _ _ failed => Or.inr failed.2)
  intro (sha : String)
  have object_eq : (⟨sha, name, expectedMainSha, "commit", some (.canonical event)⟩ : TagObject) =
      anchorObject rt sha after previous := by
    rw [name_eq, buildEvent_eq_ok built, ← requireTransition_eq_ok passed]
    rfl
  rw [object_eq]
  apply Triple.check (stable_ready.and stable_holding)
  · exact fun _ _ _ _ => Or.inr (plain_valueError (by decide))
  intro _
  apply Triple.bind (triple_createRef ⟨computed, bounded, name_eq⟩)
  intro _
  apply triple_readBack.strengthen
  · rintro store result _ ⟨rfl, written⟩
    exact ⟨rfl, written⟩
  · exact fun _ _ _ failed => failed

/-- A lost race. -/
def Loss (error : StoreError) : Prop :=
  error = casConflictUnresolved ∨ ∃ revision anchor, error = casLost revision anchor

theorem StoreError.Plain.not_loss {error : StoreError} (plain : error.Plain) : ¬Loss error := by
  rintro (rfl | ⟨revision, anchor, rfl⟩)
  · exact plain.2 rfl
  · exact plain rfl

/-- After a conflict nothing more is written. -/
theorem triple_reportConflict (binding : Binding) (previousRevision : Int)
    {returns : Store Client → Registry × String → Prop} :
    Triple (provider rt repo operations) client (Unwritten client)
      (reportConflict rt repo binding previousRevision) returns
      (fun store _ => Unwritten client store) := by
  have stable : Stable (provider rt repo operations) client (Unwritten client) :=
    stable_unwritten
  unfold reportConflict
  apply Triple.bind (triple_read binding stable fun _ _ => List.nil_prefix)
  intro winner
  have winnerStable : Stable (provider rt repo operations) client fun store =>
      Unwritten client store ∧ Snapshot rt repo operations [] winner.1 winner.2 store :=
    stable.and stable_snapshot
  split
  · exact Triple.fail winnerStable fun _ _ known => known.1
  · split_ifs
    · exact Triple.fail winnerStable fun _ _ known => known.1
    · exact Triple.fail winnerStable fun _ _ known => known.1

theorem triple_persistTransition (computed : ∃ call, (operations client).call state = some call ∧
      registryStep rt state call = .ok after) : Triple (provider rt repo operations) client
      (Ready rt repo operations client state previous)
      (persistTransition rt repo after previous previousRevision binding)
      (fun store result => result.1 = after ∧
        Written rt repo operations client after result.2 store)
      (fun store error => Loss error → Unwritten client store) := by
  unfold persistTransition
  apply Triple.handle (triple_appendCas computed)
  intro error
  split_ifs with conflict
  · refine Triple.weaken (Triple.raising (triple_reportConflict binding previousRevision) ?_) ?_
    · exact fun _ _ _ unwritten _ => unwritten
    · rintro store _ (⟨_, unwritten⟩ | plain)
      · exact unwritten
      · rw [conflict] at plain
        exact absurd rfl plain.1
  · have stable : Stable (provider rt repo operations) client (AppendError client · error) := by
      rintro store later moved kept (⟨same, unwritten⟩ | plain)
      · exact absurd same conflict
      · exact Or.inr plain
    refine Triple.fail stable ?_
    rintro store _ (⟨same, _⟩ | plain) loss
    · exact absurd same conflict
    · exact absurd loss plain.not_loss

/-! ## Operations -/

variable (rt repo operations) in
/-- What an operation that returned has done. -/
def Returned (client : Client) (seen : List (Ref Client)) (store : Store Client) : Outcome → Prop
  | .observed state anchor => Snapshot rt repo operations seen state anchor store
  | .acquired state lease anchor => Written rt repo operations client state anchor store ∧
      lease ∈ state.leases ∧ lease.status = .active
  | .persisted state anchor => Written rt repo operations client state anchor store

/-- What an operation that raised has not done. -/
def RaisedBy (client : Client) (store : Store Client) (error : StoreError) : Prop :=
  Loss error → Unwritten client store

theorem raisedBy_of_unwritten {error : StoreError}
    (unwritten : Unwritten client store) : RaisedBy client store error :=
  fun _ => unwritten

theorem triple_observe {seen : List (Ref Client)} : Triple (provider rt repo operations) client
      (fun store => Unwritten client store ∧ Grown seen store)
      (Operation.program rt repo (.read binding))
      (fun store outcome => Returned rt repo operations client seen store outcome)
      (RaisedBy client) := by
  have stable : Stable (provider rt repo operations) client fun store =>
      Unwritten client store ∧ Grown seen store := stable_unwritten.and stable_grown
  simp only [Operation.program]
  apply Triple.bind (Triple.raising (triple_read binding stable fun _ known => known.2)
    fun _ _ _ known => raisedBy_of_unwritten known.1)
  intro current
  exact Triple.pure (stable.and stable_snapshot) fun _ _ known => known.2

theorem triple_acquire {arguments : AcquireArguments}
    (running : operations client = .acquire arguments) :
    Triple (provider rt repo operations) client (Unwritten client) (acquire rt repo arguments)
      (fun store outcome => Returned rt repo operations client [] store outcome)
      (RaisedBy client) := by
  have stable : Stable (provider rt repo operations) client (Unwritten client) :=
    stable_unwritten
  unfold acquire
  apply (observes_requireMain _).andThen stable fun _ _ known _ => raisedBy_of_unwritten known
  intro _
  apply Triple.bind (Triple.raising (triple_read arguments.toBinding stable
    fun _ _ => List.nil_prefix) fun _ _ _ known => raisedBy_of_unwritten known)
  intro current
  apply Triple.check stable_ready
  · exact fun _ _ _ known => raisedBy_of_unwritten known.1
  intro _
  apply Triple.ofExcept_bind stable_ready
  · exact fun _ _ _ _ known => raisedBy_of_unwritten known.1
  intro updated computed
  have acquired := raiseValue_eq_ok_iff.mp computed
  obtain ⟨leases_eq, active⟩ := acquireRegistryLease_eq_ok acquired
  have step : ∃ call, (operations client).call current.1 = some call ∧
      registryStep rt current.1 call = .ok updated.1 := by
    refine ⟨_, by rw [running]; rfl, ?_⟩
    rw [registryStep, acquired]
    rfl
  apply Triple.bind (triple_persistTransition step)
  intro persisted
  have writtenStable : Stable (provider rt repo operations) client fun store =>
      persisted.1 = updated.1 ∧
        Written rt repo operations client updated.1 persisted.2 store :=
    Stable.and (fun _ _ _ _ same => same) stable_written
  refine Triple.pure writtenStable ?_
  rintro store _ ⟨same, written⟩
  rw [← same] at written leases_eq
  refine ⟨written, ?_, active⟩
  rw [leases_eq]
  simp

/-- Heartbeat and release end alike. -/
theorem triple_persisted {updated : Registry}
    (step : ∃ call, (operations client).call state = some call ∧
      registryStep rt state call = .ok updated) : Triple (provider rt repo operations) client
      (Ready rt repo operations client state previous) (do
        let persisted ← persistTransition rt repo updated previous state.revision binding
        return Outcome.persisted persisted.1 persisted.2)
      (fun store outcome => Returned rt repo operations client [] store outcome)
      (RaisedBy client) := by
  apply Triple.bind (triple_persistTransition step)
  intro persisted
  have writtenStable : Stable (provider rt repo operations) client fun store =>
      persisted.1 = updated ∧ Written rt repo operations client updated persisted.2 store :=
    Stable.and (fun _ _ _ _ same => same) stable_written
  refine Triple.pure writtenStable ?_
  rintro store _ ⟨same, written⟩
  rw [← same] at written
  exact written

theorem triple_heartbeat {arguments : HeartbeatArguments}
    (running : operations client = .heartbeat arguments) :
    Triple (provider rt repo operations) client (Unwritten client) (heartbeat rt repo arguments)
      (fun store outcome => Returned rt repo operations client [] store outcome)
      (RaisedBy client) := by
  have stable : Stable (provider rt repo operations) client (Unwritten client) :=
    stable_unwritten
  unfold heartbeat
  apply (observes_requireMain _).andThen stable fun _ _ known _ => raisedBy_of_unwritten known
  intro _
  apply Triple.bind (Triple.raising (triple_read arguments.toBinding stable
    fun _ _ => List.nil_prefix) fun _ _ _ known => raisedBy_of_unwritten known)
  intro current
  apply Triple.check stable_ready
  · exact fun _ _ _ known => raisedBy_of_unwritten known.1
  intro _
  apply Triple.ofExcept_bind stable_ready
  · exact fun _ _ _ _ known => raisedBy_of_unwritten known.1
  intro updated computed
  apply triple_persisted
  refine ⟨_, by rw [running]; rfl, ?_⟩
  exact raiseValue_eq_ok_iff.mp computed

theorem triple_release {arguments : ReleaseArguments}
    (running : operations client = .release arguments) :
    Triple (provider rt repo operations) client (Unwritten client) (release rt repo arguments)
      (fun store outcome => Returned rt repo operations client [] store outcome)
      (RaisedBy client) := by
  have stable : Stable (provider rt repo operations) client (Unwritten client) :=
    stable_unwritten
  unfold release
  apply (observes_requireMain _).andThen stable fun _ _ known _ => raisedBy_of_unwritten known
  intro _
  apply observes_requireAnchorRuleset.andThen stable fun _ _ known _ => raisedBy_of_unwritten known
  intro _
  apply Triple.bind (Triple.raising (triple_matchingRefs stable fun _ _ => List.nil_prefix)
    fun _ _ _ raised => raisedBy_of_unwritten raised.1)
  intro anchors
  apply Triple.ofExists
  intro refs
  apply Triple.assume
  rintro rfl
  apply Triple.check (stable.and stable_listed)
  · exact fun _ _ _ known => raisedBy_of_unwritten known.1
  intro _
  apply Triple.bind (Triple.raising (triple_readListed (fun _ _ => plain_valueError (by decide))
    stable) fun _ _ _ raised => raisedBy_of_unwritten raised.1)
  intro latest
  have latestStable : Stable (provider rt repo operations) client fun store =>
      Unwritten client store ∧ ∀ state, latest.1 = some state →
        Snapshot rt repo operations [] state latest.2 store :=
    stable.and fun store later moved kept known state ran =>
      stable_snapshot store later moved kept (known state ran)
  split
  · exact Triple.fail latestStable fun _ _ known => raisedBy_of_unwritten known.1
  · rename_i state ran
    apply Triple.check latestStable
    · exact fun _ _ _ known => raisedBy_of_unwritten known.1
    intro _
    apply Triple.ofExcept_bind latestStable
    · exact fun _ _ _ _ known => raisedBy_of_unwritten known.1
    intro updated computed
    have step : ∃ call, (operations client).call state = some call ∧
        registryStep rt state call = .ok updated := by
      refine ⟨_, by rw [running]; rfl, ?_⟩
      exact raiseValue_eq_ok_iff.mp computed
    apply Triple.weaken (triple_persisted step)
    exact fun store _ known => ⟨known.1, known.2 state ran⟩

/-- Every operation keeps the chain, whatever the others do. -/
theorem triple_program (client : Client) :
    Triple (provider rt repo operations) client (Unwritten client)
      ((operations client).program rt repo)
      (fun store outcome => Returned rt repo operations client [] store outcome)
      (RaisedBy client) := by
  cases running : operations client with
  | read binding => exact triple_observe.weaken fun _ _ known => ⟨known, List.nil_prefix⟩
  | acquire arguments => exact triple_acquire running
  | heartbeat arguments => exact triple_heartbeat running
  | release arguments => exact triple_release running

/-! ## All clients together -/

theorem served_grows {after : Store Client} {call : Call} {answer : Answer call}
    (served : Served client store call after answer) :
    (∃ more, after.refs = store.refs ++ more ∧ ∀ ref ∈ more, ref.writer = client) ∧
      store.objects.Extends after.objects := by
  have unchanged : after = store →
      (∃ more, after.refs = store.refs ++ more ∧ ∀ ref ∈ more, ref.writer = client) ∧
        store.objects.Extends after.objects := by
    rintro rfl
    exact ⟨⟨[], by simp, by simp⟩, fun _ _ stored => stored⟩
  cases call with
  | repoInfo => exact unchanged served
  | branch name => exact unchanged served
  | rulesets => exact unchanged served
  | matchingTagRefs => exact unchanged served.1
  | tagRef tag => exact unchanged served.1
  | tagObject sha => exact unchanged served.1
  | createTagObject tag target message =>
      rcases served with ⟨same, _⟩ | ⟨sha, free, rfl, _⟩
      · exact unchanged same
      · exact ⟨⟨[], by simp, by simp⟩, extends_update free⟩
  | createTagRef tag sha =>
      rcases served with ⟨same, _⟩ | ⟨_, rfl, _⟩
      · exact unchanged same
      · exact ⟨⟨[⟨tag, sha, client⟩], rfl, by simp⟩, fun _ _ stored => stored⟩

/-- A call of one client is a move of the others. -/
theorem tolerated_provider : Tolerated (provider rt repo operations) := by
  intro actor other store call after answer different _ _ served
  obtain ⟨⟨more, refs, own⟩, extends_⟩ := served_grows served
  refine ⟨⟨more, refs, ?_⟩, extends_⟩
  intro ref inside
  rw [own ref inside]
  exact different

variable (rt repo operations) in
/-- No ref yet, and every client at the start of its operation. -/
def startSystem : System Client (Store Client) Call Answer StoreError Outcome where
  store := ⟨[], fun _ => none⟩
  program client := (operations client).program rt repo

theorem allSafe_startSystem : AllSafe (provider rt repo operations)
    (fun client store outcome => Returned rt repo operations client [] store outcome)
    RaisedBy (startSystem rt repo operations) := by
  have kept : Chained rt repo operations (startSystem rt repo operations).store :=
    ⟨Or.inl rfl, List.nodup_nil⟩
  constructor
  · exact kept
  · intro client
    apply (triple_program client).safe _ kept
    intro ref inside
    cases inside

/-- A client that only reads has written nothing. -/
theorem unwritten_of_read
    (kept : Chained rt repo operations store) (running : operations client = .read binding) :
    Unwritten client store := by
  intro ref inside wrote
  obtain ⟨front, rest, whole⟩ := List.append_of_mem inside
  rcases kept.linked with none_ | ⟨_, _, linked⟩
  · rw [none_] at inside
    cases inside
  · rw [whole, List.append_cons] at linked
    obtain ⟨_, _, upTo⟩ := linked.initial
    obtain ⟨_, _, _, _, made, _⟩ := upTo.concat
    rw [wrote, running] at made
    cases made

theorem nodup_tags (kept : Chained rt repo operations store) : (store.refs.map Ref.tag).Nodup := by
  rw [List.nodup_iff_injective_getElem]
  rintro ⟨left, leftInside⟩ ⟨right, rightInside⟩ same
  rw [List.length_map] at leftInside rightInside
  rcases kept.linked with none_ | ⟨_, _, linked⟩
  · simp [none_] at leftInside
  · obtain ⟨leftTag, leftBound⟩ := linked.tag (List.getElem?_eq_getElem leftInside)
    obtain ⟨rightTag, rightBound⟩ := linked.tag (List.getElem?_eq_getElem rightInside)
    simp only [List.getElem_map, leftTag, rightTag] at same
    have revisions := congrArg tagRevision same
    rw [tagRevision_anchorTag leftBound, tagRevision_anchorTag rightBound] at revisions
    simp only [Option.some.injEq] at revisions
    simp only [Fin.mk.injEq]
    omega

variable (rt repo operations) in
/-- The registry that was read ends a chain with the lease in it, ACTIVE unless
the chain has a revision that a release of it wrote. -/
def Outlives (lease : Lease) (state : Registry) (anchor : Option String)
    (store : Store Client) : Prop :=
  ∃ refs, refs <+: store.refs ∧
    Linked rt repo operations store.objects refs state anchor ∧
    ∃ found ∈ state.leases, Continues lease found ∧
      (found.status = .active ∨ ∃ ref ∈ refs, (operations ref.writer).ReleaseOf lease.leaseId)

theorem outlives_of_written {later : Registry} {lease : Lease}
    {anchor : Option String} {laterStore : Store Client}
    (written : Written rt repo operations client state sha store)
    (inside : lease ∈ state.leases) (active : lease.status = .active)
    (grows : store.objects.Extends laterStore.objects)
    (read : Snapshot rt repo operations store.refs later anchor laterStore) :
    Outlives rt repo operations lease later anchor laterStore := by
  obtain ⟨front, ref, upTo, _, _, linked⟩ := written
  obtain ⟨refs, since, within, laterLinked⟩ := read
  obtain ⟨rest, whole⟩ := upTo.trans since
  rw [← whole] at laterLinked
  obtain ⟨found, foundMem, continues, status⟩ :=
    (linked.mono grows).continues laterLinked inside active
  refine ⟨refs, within, whole ▸ laterLinked, found, foundMem, continues, ?_⟩
  rcases status with stillActive | ⟨released, releasedMem, releaseOf⟩
  · exact Or.inl stillActive
  · refine Or.inr ⟨released, ?_, releaseOf⟩
    rw [← whole]
    exact List.mem_append_right _ releasedMem

variable [DecidableEq Client]

variable (rt repo operations) in
/-- What holds of the store and its clients after any number of calls. -/
structure StoreLaw (system : System Client (Store Client) Call Answer StoreError Outcome) :
    Prop where
  chain : system.store.refs = [] ∨ ∃ state previous,
    Linked rt repo operations system.store.objects system.store.refs state previous
  numbered : ∀ (index : Nat) (ref : Ref Client), system.store.refs[index]? = some ref →
    ref.tag = anchorTag (index + 1)
  oneRef : (system.store.refs.map Ref.tag).Nodup
  oneRevision : (system.store.refs.map Ref.writer).Nodup
  losers : ∀ client error, system.program client = .fail error → Loss error →
    ∀ ref ∈ system.store.refs, ref.writer ≠ client
  laterReads : ∀ client state lease anchor,
    system.program client = .done (.acquired state lease anchor) →
    ∀ later, Reachable (provider rt repo operations) system later →
    ∀ reader binding, operations reader = .read binding →
      system.program reader = (Operation.read binding).program rt repo →
    ∀ found foundAnchor, later.program reader = .done (.observed found foundAnchor) →
      Outlives rt repo operations lease found foundAnchor later.store

theorem extends_of_reachable
    {system later : System Client (Store Client) Call Answer StoreError Outcome}
    (reached : Reachable (provider rt repo operations) system later) :
    system.store.objects.Extends later.store.objects := by
  induction reached with
  | refl => exact fun _ _ stored => stored
  | tail _ stepped ih =>
      cases stepped with
      | ask _ served => exact fun sha object stored => (served_grows served).2 sha object (ih sha object stored)

/-- A read that has not started sees every revision written so far. -/
theorem observed_since {system later : System Client (Store Client) Call Answer StoreError Outcome}
    {reader : Client} {anchor : Option String} (safe : AllSafe (provider rt repo operations)
      (fun client store outcome => Returned rt repo operations client [] store outcome)
      RaisedBy system) (reached : Reachable (provider rt repo operations) system later)
    (running : operations reader = .read binding)
    (waiting : system.program reader = (Operation.read binding).program rt repo)
    (ended : later.program reader = .done (.observed state anchor)) :
    Snapshot rt repo operations system.store.refs state anchor later.store := by
  let since : Client → List (Ref Client) := Function.update (fun _ => []) reader system.store.refs
  have sinceSafe : AllSafe (provider rt repo operations)
      (fun client store outcome =>
        Returned rt repo operations client (since client) store outcome)
      RaisedBy system := by
    refine ⟨safe.1, fun client => ?_⟩
    by_cases same : client = reader
    · subst same
      rw [waiting]
      apply triple_observe.safe _ safe.1
      simp only [since, Function.update_self]
      exact ⟨unwritten_of_read safe.1 running, List.prefix_refl _⟩
    · simp only [since, Function.update_of_ne same]
      exact safe.2 client
  have laterSafe := safe_of_reachable tolerated_provider sinceSafe reached
  have ran := returns_of_done laterSafe ended
  simp only [since, Function.update_self] at ran
  exact ran

/-- Any number of clients, their calls in any order, each call free to fail after
it took effect: the refs stay one gapless linked chain, every revision is one
operation of the one client that wrote it, a client that lost a race wrote
nothing, and an acquired lease is in every later read, ACTIVE until released. -/
theorem leaseStore_concurrent (system : System Client (Store Client) Call Answer StoreError Outcome)
    (reached : Reachable (provider rt repo operations) (startSystem rt repo operations) system) :
    StoreLaw rt repo operations system := by
  have safe := safe_of_reachable tolerated_provider allSafe_startSystem reached
  have kept : Chained rt repo operations system.store := safe.1
  refine ⟨kept.linked, ?_, nodup_tags kept, kept.writers, ?_, ?_⟩
  · intro index ref found
    rcases kept.linked with none_ | ⟨_, _, linked⟩
    · rw [none_] at found
      cases found
    · exact (linked.tag found).1
  · intro client error failed loss
    exact raises_of_fail safe failed loss
  · intro client state lease anchor acquired later laterReached reader binding running waiting
      found foundAnchor ended
    obtain ⟨written, inside, active⟩ := returns_of_done safe acquired
    exact outlives_of_written written inside active (extends_of_reachable laterReached)
      (observed_since safe laterReached running waiting ended)

end Concurrent

/-! ## A run of two clients -/

/-- A provider that serves every call it can. -/
def serve {Client : Type} (client : Client) (store : Store Client) :
    (call : Call) → Store Client × Answer call
  | .repoInfo => (store, .ok "main")
  | .branch _ => (store, .ok fixedSha)
  | .rulesets =>
      (store, .ok [⟨"ADWF immutable runtime anchors", "tag", "active", [],
        ["refs/tags/adwf-runtime-anchor-*"], ["deletion", "update"]⟩])
  | .matchingTagRefs => (store, .ok (store.refs.map Ref.row))
  | .tagRef tag =>
      match store.refs.find? fun ref => ref.tag = tag with
      | some ref => (store, .ok ref.row)
      | none => (store, .error "PROVIDER_HTTP_404")
  | .tagObject sha =>
      match store.objects sha with
      | some object => (store, .ok object)
      | none => (store, .error "PROVIDER_HTTP_404")
  | .createTagObject tag target message =>
      let sha := String.ofList (decimalDigits 40 store.refs.length)
      match store.objects sha with
      | none =>
          ({ store with
            objects := Function.update store.objects sha
              (some ⟨sha, tag, target, "commit", some message⟩) }, .ok sha)
      | some _ => (store, .error "PROVIDER_TIMEOUT_OR_NETWORK")
  | .createTagRef tag sha =>
      if ∀ ref ∈ store.refs, ref.tag ≠ tag then
        ({ store with refs := store.refs ++ [⟨tag, sha, client⟩] }, .ok ())
      else (store, .error "PROVIDER_HTTP_422")

theorem served_serve {Client : Type} (client : Client) (store : Store Client) (call : Call) :
    Served client store call (serve client store call).1 (serve client store call).2 := by
  cases call with
  | repoInfo => rfl
  | branch name => rfl
  | rulesets => rfl
  | matchingTagRefs =>
      refine ⟨rfl, ?_⟩
      rintro rows same
      cases same
      exact List.Perm.refl _
  | tagRef tag =>
      simp only [serve, Served]
      split
      · rename_i ref found
        refine ⟨rfl, ?_⟩
        rintro row same
        cases same
        exact ⟨ref, List.mem_of_find?_eq_some found, by simpa using List.find?_some found, rfl⟩
      · refine ⟨rfl, ?_⟩
        rintro row same
        cases same
  | tagObject sha =>
      simp only [serve, Served]
      split
      · rename_i object found
        refine ⟨rfl, ?_⟩
        rintro other same
        cases same
        exact found
      · refine ⟨rfl, ?_⟩
        rintro other same
        cases same
  | createTagObject tag target message =>
      simp only [serve, Served]
      generalize String.ofList (decimalDigits 40 store.refs.length) = sha
      split
      · rename_i absent
        refine Or.inr ⟨_, Or.inl absent, rfl, ?_⟩
        rintro created same
        cases same
        rfl
      · exact Or.inl ⟨rfl, _, rfl⟩
  | createTagRef tag sha =>
      simp only [serve, Served]
      split_ifs with fresh
      · refine Or.inr ⟨fresh, rfl, ?_⟩
        rintro text same
        cases same
      · exact Or.inl ⟨rfl, _, rfl⟩

/-- A runtime for fixed runs: every digest is 64 zeros. -/
def zeroRuntime : Runtime :=
  { fixedRuntime with digest := fun _ => String.ofList (List.replicate 64 '0') }

/-- Client `false` acquires and client `true` reads. -/
def twoOperations : Bool → Operation
  | false =>
      .acquire
        { expectedMainSha := fixedSha, policyMaxParallelWriters := 1, issueId := "1"
          roadmapId := "ORCH-1", workerId := "worker", baseSha := fixedSha, branch := "adwf/one"
          resources := fixedAcquire.resources, now := 0, uuid := fixedAcquire.uuid }
  | true => .read ⟨fixedSha, 1⟩

/-- The client runs alone to its end. -/
def afterClient (client : Bool) (system : System Bool (Store Bool) Call Answer StoreError Outcome) :
    System Bool (Store Bool) Call Answer StoreError Outcome :=
  let ended := (system.program client).execute (serve client) system.store
  ⟨ended.1, Function.update system.program client ended.2⟩

theorem reachable_afterClient (rt : Runtime) (repo : String) (operations : Bool → Operation)
    (client : Bool) (system : System Bool (Store Bool) Call Answer StoreError Outcome) :
    Reachable (provider rt repo operations) system (afterClient client system) :=
  reachable_execute system.store system.program client (served_serve client)

/-- The read after the acquire. -/
def twoClients : System Bool (Store Bool) Call Answer StoreError Outcome :=
  afterClient true (afterClient false (startSystem zeroRuntime "owner/name" twoOperations))

theorem leaseStore_concurrent_twoClients :
    StoreLaw zeroRuntime "owner/name" twoOperations twoClients :=
  leaseStore_concurrent twoClients
    ((reachable_afterClient _ _ _ false _).trans (reachable_afterClient _ _ _ true _))

end Adwf.LeaseStore
