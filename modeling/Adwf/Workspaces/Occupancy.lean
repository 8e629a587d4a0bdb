import Adwf.Workspaces.Registry

/-!
# Occupancy of the workspace registry

An operation appends one record when there is room for it, or changes records
in their places without one of them starting to occupy.
-/

namespace Adwf.Workspaces

open Fallible

variable {config : Config} {world : World} {registry after : Registry} {record changed : Record}

/-- What an operation may make of a record that is there. -/
structure Follows (config : Config) (record changed : Record) : Prop where
  sameId : changed.workspaceId = record.workspaceId
  occupying : changed.status.occupying = true → record.status.occupying = true
  retries : record.retryCount ≤ config.maxRetries → changed.retryCount ≤ config.maxRetries
  cleaned : record.status = .cleaned → changed = record

theorem Follows.refl (config : Config) (record : Record) : Follows config record record :=
  ⟨rfl, id, id, fun _ => rfl⟩

/-- The registry an operation leaves: every record in its place, or one more. -/
inductive Step (config : Config) (registry after : Registry) : Prop where
  | inPlace (follows : List.Forall₂ (Follows config) registry after)
  | append (plan : Plan) (now : Int) (unbound : registry.filter (live plan.lease.workspaceId) = [])
      (room : registry.countP (·.status.occupying) < config.maxActive)
      (stored : after = registry ++ [newRecord plan now])

theorem Step.refl (config : Config) (registry : Registry) : Step config registry registry :=
  .inPlace (List.forall₂_same.mpr fun record _ => Follows.refl config record)

/-! ## The changes of one record -/

theorem follows_of_beat {workerId : String} {now : Int} {output : Record}
    (beaten : beat workerId now record = .ok (changed, output)) : Follows config record changed := by
  simp only [beat, bind_ok_iff, require_eq_ok_iff] at beaten
  obtain ⟨_, _, _, beatable, result⟩ := beaten
  cases result
  refine ⟨rfl, fun _ => ?_, id, fun cleaned => ?_⟩
  · rcases beatable with status | status <;> rw [status] <;> rfl
  · rcases beatable with status | status <;> rw [status] at cleaned <;> cases cleaned

theorem follows_of_retry {error : String} {now : Int} {output : Record}
    (retried : retry error config now record = .ok (changed, output)) :
    Follows config record changed := by
  simp only [retry, bind_ok_iff, require_eq_ok_iff] at retried
  obtain ⟨_, retryable, result⟩ := retried
  have occupies : record.status.occupying = true := by
    rcases retryable with status | status <;> rw [status] <;> rfl
  have uncleaned : record.status ≠ .cleaned := by
    rcases retryable with status | status <;> rw [status] <;> decide
  cases result
  by_cases limit : config.maxRetries ≤ record.retryCount
  · simp only [if_pos limit]
    exact ⟨rfl, fun _ => occupies, id, fun cleaned => absurd cleaned uncleaned⟩
  · simp only [if_neg limit]
    exact ⟨rfl, fun _ => occupies, fun _ => not_le.mp limit, fun cleaned => absurd cleaned uncleaned⟩

theorem follows_of_finish {output : Record} (uncleaned : record.status ≠ .cleaned)
    (finished : finish world record = .ok (changed, output)) : Follows config record changed := by
  simp only [finish, bind_ok_iff, require_eq_ok_iff] at finished
  obtain ⟨_, _, _, _, head, _, result⟩ := finished
  cases result
  refine ⟨rfl, fun occupying => ?_, id, fun cleaned => absurd cleaned uncleaned⟩
  cases occupying

theorem follows_of_clean {apply : Bool} {output : String × Record}
    (cleaned : clean world config apply record = .ok (changed, output)) :
    Follows config record changed := by
  simp only [clean, bind_ok_iff, require_eq_ok_iff] at cleaned
  obtain ⟨_, finished, _, _, _, _, _, _, result⟩ := cleaned
  cases apply with
  | false =>
      cases result
      exact Follows.refl config record
  | true =>
      simp only [if_true, bind_ok_iff] at result
      obtain ⟨_, _, result⟩ := result
      cases result
      refine ⟨rfl, fun occupying => ?_, id, fun cleaned => ?_⟩
      · cases occupying
      · rcases finished with status | status <;> rw [status] at cleaned <;> cases cleaned

theorem follows_reconcileRecord (world : World) (config : Config) (now : Int) (record : Record) :
    Follows config record (reconcileRecord world config now record).1 := by
  unfold reconcileRecord
  split
  · rename_i active
    have occupies : record.status.occupying = true := by rw [active]; rfl
    have uncleaned : record.status ≠ .cleaned := by rw [active]; decide
    split_ifs
    · exact ⟨rfl, fun _ => occupies, id, fun cleaned => absurd cleaned uncleaned⟩
    · exact ⟨rfl, fun _ => occupies, id, fun cleaned => absurd cleaned uncleaned⟩
    · exact Follows.refl config record
  · rename_i waiting
    have occupies : record.status.occupying = true := by rw [waiting]; rfl
    have uncleaned : record.status ≠ .cleaned := by rw [waiting]; decide
    split
    · exact Follows.refl config record
    · exact Follows.refl config record
    · exact ⟨rfl, fun _ => occupies, id, fun cleaned => absurd cleaned uncleaned⟩
    · split_ifs
      · exact ⟨rfl, fun _ => occupies, id, fun cleaned => absurd cleaned uncleaned⟩
      · exact Follows.refl config record
  · exact Follows.refl config record

/-- An update raises and stores nothing, or stores what its transformation returned. -/
theorem atomicRegistryUpdate_cases {α : Type} (world : World) (registry : Registry)
    (transform : Registry → Except String (Registry × α)) :
    (∃ error, atomicRegistryUpdate world registry transform = (.error error, registry)) ∨
      ∃ updated output, transform registry = .ok (updated, output) ∧
        atomicRegistryUpdate world registry transform = (.ok output, updated) := by
  unfold atomicRegistryUpdate
  cases transform registry with
  | error error => exact .inl ⟨error, rfl⟩
  | ok result =>
      cases world.fault with
      | some error => exact .inl ⟨error, rfl⟩
      | none => exact .inr ⟨result.1, result.2, rfl, rfl⟩

theorem step_atomicRegistryUpdate {α : Type} {transform : Registry → Except String (Registry × α)}
    (steps : ∀ updated output, transform registry = .ok (updated, output) →
      Step config registry updated) :
    Step config registry (atomicRegistryUpdate world registry transform).2 := by
  rcases atomicRegistryUpdate_cases world registry transform with
    ⟨error, raised⟩ | ⟨updated, output, transformed, stored⟩
  · rw [raised]
    exact Step.refl config registry
  · rw [stored]
    exact steps updated output transformed

theorem step_changeLive {α : Type} {workspaceId : String}
    {change : Record → Except String (Record × α)} {output : α}
    (follows : ∀ record changed output, record.status ≠ .cleaned →
      change record = .ok (changed, output) → Follows config record changed)
    (changes : changeLive workspaceId change registry = .ok (after, output)) :
    Step config registry after := by
  unfold changeLive at changes
  split at changes
  · rename_i record picked
    obtain ⟨front, back, split⟩ := Picked.exists_split picked
    simp only [bind_ok_iff] at changes
    obtain ⟨⟨changed, output⟩, changed_eq, result⟩ := changes
    cases result
    have isLive := split.passes
    simp only [live, Bool.and_eq_true, decide_eq_true_eq] at isLive
    apply Step.inPlace
    rw [split.update_eq, split.items_eq]
    refine List.rel_append (List.forall₂_same.mpr fun other _ => Follows.refl config other) ?_
    exact .cons (follows record changed output isLive.2 changed_eq)
      (List.forall₂_same.mpr fun other _ => Follows.refl config other)
  · cases changes

theorem createWorkspace_cases (world : World) (registry : Registry) (lease : Leases.Lease)
    (config : Config) (apply : Bool) (now : Int) :
    ((createWorkspace world registry lease config apply now).2 = registry ∧
        ∀ record, (createWorkspace world registry lease config apply now).1 ≠
          .ok (.created record)) ∨ ∃ plan, checkedPlan world lease config = .ok plan ∧
        registry.filter (live plan.lease.workspaceId) = [] ∧
        registry.countP (·.status.occupying) < config.maxActive ∧
        createWorkspace world registry lease config apply now =
          (.ok (.created (newRecord plan now)), registry ++ [newRecord plan now]) := by
  unfold createWorkspace
  cases checkedPlan world lease config with
  | error error => exact .inl ⟨rfl, fun _ created => by cases created⟩
  | ok plan =>
      cases apply with
      | false => exact .inl ⟨rfl, fun _ created => by cases created⟩
      | true =>
          rcases atomicRegistryUpdate_cases world registry (bindWorkspace world plan config now) with
            ⟨error, raised⟩ | ⟨updated, output, bound, stored⟩
          · left
            dsimp only
            rw [if_pos rfl, raised]
            exact ⟨rfl, fun _ created => by cases created⟩
          · dsimp only
            rw [if_pos rfl, stored]
            unfold bindWorkspace at bound
            split at bound
            · rename_i unbound
              simp only [bind_ok_iff, require_eq_ok_iff] at bound
              obtain ⟨_, room, _, _, _, _, result⟩ := bound
              cases result
              exact .inr ⟨plan, rfl, unbound, room, rfl⟩
            · split_ifs at bound
              cases bound
              exact .inl ⟨rfl, fun _ created => by cases created⟩
            · cases bound

theorem step_operate (config : Config) (registry : Registry) (operation : World × Operation) :
    Step config registry (operate config registry operation) := by
  obtain ⟨world, operation⟩ := operation
  cases operation with
  | create lease apply now =>
      change Step config registry (createWorkspace world registry lease config apply now).2
      rcases createWorkspace_cases world registry lease config apply now with
        ⟨same, _⟩ | ⟨plan, _, unbound, room, created⟩
      · rw [same]
        exact Step.refl config registry
      · rw [created]
        exact .append plan now unbound room rfl
  | heartbeat workspaceId workerId now =>
      exact step_atomicRegistryUpdate fun _ _ beaten =>
        step_changeLive (fun _ _ _ _ => follows_of_beat) beaten
  | reconcile apply now =>
      cases apply with
      | false => exact Step.refl config registry
      | true =>
          have updates : ∀ updated output,
              reconcileAll world config now registry = .ok (updated, output) →
                Step config registry updated := by
            intro updated output reconciled
            cases reconciled
            apply Step.inPlace
            rw [List.map_map, List.forall₂_map_right_iff]
            exact List.forall₂_same.mpr fun record _ =>
              follows_reconcileRecord world config now record
          exact step_atomicRegistryUpdate updates
  | scheduleRetry workspaceId error now =>
      exact step_atomicRegistryUpdate fun _ _ retried =>
        step_changeLive (fun _ _ _ _ => follows_of_retry) retried
  | complete workspaceId =>
      exact step_atomicRegistryUpdate fun _ _ finished =>
        step_changeLive (fun _ _ _ uncleaned => follows_of_finish uncleaned) finished
  | cleanup workspaceId apply =>
      cases apply with
      | false => exact Step.refl config registry
      | true =>
          exact step_atomicRegistryUpdate fun _ _ cleaned =>
            step_changeLive (fun _ _ _ _ => follows_of_clean) cleaned

/-! ## The invariant -/

def Record.isUncleaned (record : Record) : Bool :=
  record.status ≠ .cleaned

/-- Workspaces that are not CLEANED, by their identifiers. -/
def liveIds (registry : Registry) : List String :=
  (registry.filter Record.isUncleaned).map Record.workspaceId

/-- What holds of the registry between any two operations. -/
structure Sound (config : Config) (registry : Registry) : Prop where
  occupancy : registry.countP (·.status.occupying) ≤ config.maxActive
  distinct : (liveIds registry).Nodup
  retries : ∀ record ∈ registry, record.retryCount ≤ config.maxRetries

theorem sound_nil (config : Config) : Sound config [] :=
  ⟨Nat.zero_le _, List.nodup_nil, by simp⟩

theorem countP_occupying_le (follows : List.Forall₂ (Follows config) registry after) :
    after.countP (·.status.occupying) ≤ registry.countP (·.status.occupying) := by
  induction follows with
  | nil => exact le_refl _
  | cons first rest ih =>
      rw [List.countP_cons, List.countP_cons]
      split_ifs with now before
      · exact Nat.add_le_add_right ih 1
      · exact absurd (first.occupying now) before
      · omega
      · exact ih

/-- No workspace comes to life in its place. -/
theorem liveIds_sublist (follows : List.Forall₂ (Follows config) registry after) :
    List.Sublist (liveIds after) (liveIds registry) := by
  induction follows with
  | nil => exact List.Sublist.refl _
  | @cons record changed registry after first rest ih =>
      unfold liveIds at ih ⊢
      cases uncleaned : record.isUncleaned with
      | false =>
          have cleaned : record.status = .cleaned := by simpa [Record.isUncleaned] using uncleaned
          rw [first.cleaned cleaned, List.filter_cons_of_neg (by simp [uncleaned]),
            List.filter_cons_of_neg (by simp [uncleaned])]
          exact ih
      | true =>
          rw [List.filter_cons_of_pos uncleaned, List.map_cons]
          cases kept : changed.isUncleaned with
          | false =>
              rw [List.filter_cons_of_neg (by simp [kept])]
              exact ih.cons _
          | true =>
              rw [List.filter_cons_of_pos kept, List.map_cons, first.sameId]
              exact ih.cons_cons _

theorem retries_le (follows : List.Forall₂ (Follows config) registry after)
    (bounded : ∀ record ∈ registry, record.retryCount ≤ config.maxRetries) :
    ∀ record ∈ after, record.retryCount ≤ config.maxRetries := by
  induction follows with
  | nil => simp
  | cons first rest ih =>
      obtain ⟨head, tail⟩ := List.forall_mem_cons.mp bounded
      exact List.forall_mem_cons.mpr ⟨first.retries head, ih tail⟩

theorem notMem_liveIds_of_unbound {workspaceId : String}
    (unbound : registry.filter (live workspaceId) = []) : workspaceId ∉ liveIds registry := by
  intro bound
  obtain ⟨record, mem, rfl⟩ := List.mem_map.mp bound
  obtain ⟨inside, uncleaned⟩ := List.mem_filter.mp mem
  have isLive := List.filter_eq_nil_iff.mp unbound record inside
  simp only [live, decide_true, Bool.true_and] at isLive
  exact isLive uncleaned

theorem Step.sound (step : Step config registry after) (sound : Sound config registry) :
    Sound config after := by
  rcases step with follows | ⟨plan, now, unbound, room, rfl⟩
  · constructor
    · exact (countP_occupying_le follows).trans sound.occupancy
    · exact sound.distinct.sublist (liveIds_sublist follows)
    · exact retries_le follows sound.retries
  · constructor
    · rw [List.countP_append, List.countP_singleton]
      exact room
    · have appended : liveIds (registry ++ [newRecord plan now]) =
          liveIds registry ++ [plan.lease.workspaceId] := by
        simp [liveIds, newRecord, Record.isUncleaned]
      rw [appended, List.nodup_append]
      refine ⟨sound.distinct, List.nodup_singleton _, ?_⟩
      rintro workspaceId bound _ new rfl
      rcases List.mem_singleton.mp new with rfl
      exact notMem_liveIds_of_unbound unbound bound
    · intro record mem
      rcases List.mem_append.mp mem with inside | new
      · exact sound.retries record inside
      · rcases List.mem_singleton.mp new with rfl
        exact Nat.zero_le _

theorem Step.keeps_cleaned (step : Step config registry after) {position : Nat}
    (found : registry[position]? = some record) (cleaned : record.status = .cleaned) :
    after[position]? = some record := by
  rcases step with follows | ⟨plan, now, unbound, room, rfl⟩
  · induction follows generalizing position with
    | nil => exact found
    | cons first rest ih =>
        cases position with
        | zero =>
            rw [List.getElem?_cons_zero, Option.some.injEq] at found ⊢
            subst found
            exact first.cleaned cleaned
        | succ position => exact ih found
  · rw [List.getElem?_append_left]
    · exact found
    · exact (List.getElem?_eq_some_iff.mp found).choose

theorem runs_keep_cleaned {position : Nat} (found : registry[position]? = some record)
    (cleaned : record.status = .cleaned) (operations : List (World × Operation)) :
    (runs config registry operations)[position]? = some record := by
  induction operations generalizing registry with
  | nil => exact found
  | cons operation rest ih =>
      exact ih ((step_operate config registry operation).keeps_cleaned found cleaned)

theorem error_of_map {α β : Type} {f : α → β} {answer : Except String α} {error : String}
    (raised : answer.map f = .error error) : answer = .error error := by
  cases answer with
  | error other =>
      cases raised
      rfl
  | ok value => cases raised

theorem atomicRegistryUpdate_of_raised {α : Type}
    {transform : Registry → Except String (Registry × α)} {error : String}
    (raised : (atomicRegistryUpdate world registry transform).1 = .error error) :
    (atomicRegistryUpdate world registry transform).2 = registry := by
  rcases atomicRegistryUpdate_cases world registry transform with
    ⟨other, failed⟩ | ⟨updated, output, _, stored⟩
  · rw [failed]
  · rw [stored] at raised
    cases raised

theorem perform_of_raised (config : Config) (registry : Registry) (operation : World × Operation)
    {error : String} (raised : (perform config registry operation).1 = .error error) :
    (perform config registry operation).2 = registry := by
  obtain ⟨world, operation⟩ := operation
  cases operation with
  | create lease apply now =>
      have failed := error_of_map raised
      change (createWorkspace world registry lease config apply now).2 = registry
      unfold createWorkspace at failed ⊢
      cases planned : checkedPlan world lease config with
      | error _ => rfl
      | ok plan =>
          cases apply with
          | false => rfl
          | true =>
              rw [planned] at failed
              exact atomicRegistryUpdate_of_raised failed
  | heartbeat workspaceId workerId now => exact atomicRegistryUpdate_of_raised (error_of_map raised)
  | reconcile apply now =>
      cases apply with
      | false => rfl
      | true =>
          have failed : (atomicRegistryUpdate world registry (reconcileAll world config now)).1 =
              .error error := error_of_map raised
          exact atomicRegistryUpdate_of_raised failed
  | scheduleRetry workspaceId error now =>
      exact atomicRegistryUpdate_of_raised (error_of_map raised)
  | complete workspaceId => exact atomicRegistryUpdate_of_raised (error_of_map raised)
  | cleanup workspaceId apply =>
      cases apply with
      | false => rfl
      | true => exact atomicRegistryUpdate_of_raised (error_of_map raised)

/-- After any operations on the empty registry at most `max_active` workspaces
occupy, no two that are not CLEANED share an identifier, and no retry counter
passes `max_retries`; a CLEANED workspace stays as it is, and an operation that
raises leaves the registry as it was. -/
theorem registry_safe (config : Config) (operations : List (World × Operation)) :
    let after := runs config [] operations
    Sound config after ∧
      (∀ (position : Nat) (record : Record), after[position]? = some record →
        record.status = .cleaned → ∀ more, (runs config after more)[position]? = some record) ∧
      ∀ operation error, (perform config after operation).1 = .error error →
        (perform config after operation).2 = after := by
  refine ⟨?_, ?_, ?_⟩
  · have kept : ∀ registry operation, Sound config registry →
        Sound config (operate config registry operation) :=
      fun registry operation sound => (step_operate config registry operation).sound sound
    exact (Run.always_of_invariant kept (sound_nil config) operations).final
  · intro position record found cleaned more
    exact runs_keep_cleaned found cleaned more
  · intro operation error raised
    exact perform_of_raised config _ operation raised

end Adwf.Workspaces
