import Adwf.Program.Core

/-!
# Programs that run alone

Rules for the run of a program when every call is served at once and nothing else goes on.
Such a run ends with a value or with an error, in one store.
-/

namespace Adwf.Program

universe u v

variable {Call : Type u} {Answer : Call → Type u} {ε α β γ : Type u} {Store : Type v}
variable {provide : Store → (call : Call) → Store × Answer call}
variable {before middle after : Store} {value : α} {result : β} {error : ε}

variable (provide) in
/-- Alone, the program ends with a value and leaves such a store. -/
def Yields (program : Program Call Answer ε α) (before after : Store) (value : α) : Prop :=
  program.execute provide before = (after, done value)

variable (provide) in
/-- Alone, the program raises an error. -/
def Throws (program : Program Call Answer ε α) (before after : Store) (error : ε) : Prop :=
  program.execute provide before = (after, fail error)

theorem Yields.done : Yields provide (.done value : Program Call Answer ε α) before before value :=
  rfl

variable {first : Program Call Answer ε α} {next : α → Program Call Answer ε β}

theorem Yields.bind (yields : Yields provide first before middle value)
    (nextYields : Yields provide (next value) middle after result) :
    Yields provide (first >>= next) before after result :=
  (execute_bind_of_done yields).trans nextYields

theorem Yields.throws (yields : Yields provide first before middle value)
    (throws : Throws provide (next value) middle after error) :
    Throws provide (first >>= next) before after error :=
  (execute_bind_of_done yields).trans throws

theorem Throws.bind (throws : Throws provide first before after error) :
    Throws provide (first >>= next) before after error :=
  execute_bind_of_fail throws

theorem Throws.ofCheck {condition : Prop} [Decidable condition] {other : ε}
    {next : PUnit → Program Call Answer ε α} (holds : condition)
    (throws : Throws provide (next ⟨⟩) before after error) :
    Throws provide (Program.check condition other >>= next) before after error := by
  rw [Program.check, if_pos holds]
  exact throws

theorem Yields.handle {body : Program Call Answer ε α} {handler : ε → Program Call Answer ε α}
    (yields : Yields provide body before after value) :
    Yields provide (body.handle handler) before after value :=
  execute_handle_eq_done_iff.mpr (.inl yields)

theorem Throws.handle {body : Program Call Answer ε α} {handler : ε → Program Call Answer ε α}
    (throws : Throws provide body before middle error)
    (yields : Yields provide (handler error) middle after value) :
    Yields provide (body.handle handler) before after value :=
  execute_handle_eq_done_iff.mpr (.inr ⟨middle, error, throws, yields⟩)

/-- A run alone has one end. -/
theorem Yields.unique {program : Program Call Answer ε α} {other : Store} {second : α}
    (yields : Yields provide program before after value)
    (again : Yields provide program before other second) : other = after ∧ second = value := by
  have same := again.symm.trans yields
  simpa using same

/-- A run alone does not both end with a value and raise. -/
theorem Yields.not_throws {program : Program Call Answer ε α} {other : Store}
    (yields : Yields provide program before after value) :
    ¬Throws provide program before other error := by
  intro throws
  have same := throws.symm.trans yields
  simp at same

section Invoke

variable {Value : Call → Type u}
variable {supply : Store → (call : Call) → Store × Except ε (Value call)}

theorem Yields.invoke {call : Call} {answer : Value call}
    (served : supply before call = (after, .ok answer)) :
    Yields supply (Program.invoke call) before after answer := by
  unfold Yields Program.invoke
  simp only [execute, served, ofExcept]

theorem Throws.invoke {call : Call} (served : supply before call = (after, .error error)) :
    Throws supply (Program.invoke call) before after error := by
  unfold Throws Program.invoke
  simp only [execute, served, ofExcept]

end Invoke

end Adwf.Program

/-!
## What a program alone ends with

Rules for all the ends of a program that runs alone: whatever store it starts
from, its value and its error have a property of the store they leave.
-/

namespace Adwf.Program

universe u v

variable {Call : Type u} {Answer : Call → Type u} {ε ε' α β : Type u} {Store : Type v}
variable {provide : Store → (call : Call) → Store × Answer call}
variable {before : Store → Prop} {returns : Store → α → Prop} {raises : Store → ε → Prop}

theorem handle_eq_attempt (body : Program Call Answer ε α)
    (handler : ε → Program Call Answer ε α) : body.handle handler = body.attempt handler := by
  induction body with
  | done value => rfl
  | fail error => rfl
  | ask call next ih => exact congrArg (ask call) (funext ih)

variable (provide) in
/-- From such stores, alone, the program ends with such values and such errors only. -/
structure Meets (before : Store → Prop) (program : Program Call Answer ε α)
    (returns : Store → α → Prop) (raises : Store → ε → Prop) : Prop where
  yields : ∀ store after value, before store → Yields provide program store after value →
    returns after value
  throws : ∀ store after error, before store → Throws provide program store after error →
    raises after error

namespace Meets

theorem done {value : α} (holds : ∀ store, before store → returns store value) :
    Meets provide before (.done value : Program Call Answer ε α) returns raises := by
  constructor
  · rintro store after other known ⟨⟩
    exact holds _ known
  · rintro store after error known ⟨⟩

theorem fail {error : ε} (holds : ∀ store, before store → raises store error) :
    Meets provide before (.fail error : Program Call Answer ε α) returns raises := by
  constructor
  · rintro store after value known ⟨⟩
  · rintro store after other known ⟨⟩
    exact holds _ known

theorem bind {middle : Store → α → Prop} {returns : Store → β → Prop}
    {first : Program Call Answer ε α} {next : α → Program Call Answer ε β}
    (firstMeets : Meets provide before first middle raises)
    (nextMeets : ∀ value, Meets provide (middle · value) (next value) returns raises) :
    Meets provide before (first >>= next) returns raises := by
  constructor
  · intro store after result known ended
    rcases execute_bind_eq_done_iff.mp ended with ⟨between, value, firstEnded, nextEnded⟩
    have held := firstMeets.yields store between value known firstEnded
    exact (nextMeets value).yields between after result held nextEnded
  · intro store after error known ended
    rcases execute_ends first store with ⟨between, value, firstEnded⟩ | ⟨between, other, firstEnded⟩
    · have held := firstMeets.yields store between value known firstEnded
      refine (nextMeets value).throws between after error held ?_
      exact (execute_bind_of_done firstEnded).symm.trans ended
    · have same := (execute_bind_of_fail firstEnded).symm.trans ended
      cases same
      exact firstMeets.throws store after error known firstEnded

variable {body program : Program Call Answer ε α}

theorem attempt {raises : Store → ε' → Prop} {middle : Store → ε → Prop} {handler : ε → Program Call Answer ε' α}
    (bodyMeets : Meets provide before body returns middle)
    (handlerMeets : ∀ error, Meets provide (middle · error) (handler error) returns raises) :
    Meets provide before (body.attempt handler) returns raises := by
  constructor
  · intro store after value known ended
    rcases execute_ends body store with ⟨between, result, bodyEnded⟩ | ⟨between, error, bodyEnded⟩
    · have same := (execute_attempt_of_done bodyEnded).symm.trans ended
      cases same
      exact bodyMeets.yields store after value known bodyEnded
    · have held := bodyMeets.throws store between error known bodyEnded
      refine (handlerMeets error).yields between after value held ?_
      exact (execute_attempt_of_fail bodyEnded).symm.trans ended
  · intro store after raised known ended
    rcases execute_ends body store with ⟨between, result, bodyEnded⟩ | ⟨between, error, bodyEnded⟩
    · have same := (execute_attempt_of_done bodyEnded).symm.trans ended
      cases same
    · have held := bodyMeets.throws store between error known bodyEnded
      refine (handlerMeets error).throws between after raised held ?_
      exact (execute_attempt_of_fail bodyEnded).symm.trans ended

theorem handle {middle : Store → ε → Prop}
    {handler : ε → Program Call Answer ε α} (bodyMeets : Meets provide before body returns middle)
    (handlerMeets : ∀ error, Meets provide (middle · error) (handler error) returns raises) :
    Meets provide before (body.handle handler) returns raises := by
  rw [handle_eq_attempt]
  exact attempt bodyMeets handlerMeets

theorem ensuring {middle : Store → α → Prop} {rarer : Store → ε → Prop} {cleanup : Program Call Answer ε PUnit}
    (bodyMeets : Meets provide before body middle rarer)
    (ran : ∀ value, Meets provide (middle · value) cleanup
      (fun store _ => returns store value) raises)
    (raised : ∀ error, Meets provide (rarer · error) cleanup
      (fun store _ => raises store error) raises) :
    Meets provide before (body.ensuring cleanup) returns raises := by
  apply bind
  · apply handle bodyMeets
    intro error
    exact bind (raised error) fun _ => fail fun _ held => held
  · intro value
    exact bind (ran value) fun _ => done fun _ held => held

theorem raising {raises : Store → ε' → Prop} {middle : Store → ε → Prop} {convert : ε → ε'}
    (bodyMeets : Meets provide before body returns middle)
    (converted : ∀ store error, middle store error → raises store (convert error)) :
    Meets provide before (body.raising convert) returns raises :=
  attempt bodyMeets fun error => fail fun store known => converted store error known

theorem check {condition : Prop} [Decidable condition] {error : ε}
    (refused : ¬condition → ∀ store, before store → raises store error) :
    Meets provide before (Program.check condition error)
      (fun store _ => before store ∧ condition) raises := by
  unfold Program.check
  by_cases holds : condition
  · rw [if_pos holds]
    exact done fun _ known => ⟨known, holds⟩
  · rw [if_neg holds]
    exact fail (refused holds)

theorem ofExcept {result : Except ε α}
    (raised : ∀ error, result = .error error → ∀ store, before store → raises store error) :
    Meets provide before (Program.ofExcept result)
      (fun store value => before store ∧ result = .ok value) raises := by
  cases result with
  | ok value => exact done fun _ known => ⟨known, rfl⟩
  | error error => exact fail (raised error rfl)

/-- More may be known at the start and less is asked at the end. -/
theorem mono {wider : Store → Prop} {finer : Store → α → Prop} {rarer : Store → ε → Prop} (meets : Meets provide wider program finer rarer)
    (known : ∀ store, before store → wider store)
    (ran : ∀ store value, finer store value → returns store value)
    (raised : ∀ store error, rarer store error → raises store error) :
    Meets provide before program returns raises := by
  constructor
  · intro store after value held ended
    exact ran after value (meets.yields store after value (known store held) ended)
  · intro store after error held ended
    exact raised after error (meets.throws store after error (known store held) ended)

theorem assuming {fact : Prop} (meets : fact → Meets provide before program returns raises) :
    Meets provide (fun store => before store ∧ fact) program returns raises := by
  constructor
  · intro store after value known ended
    exact (meets known.2).yields store after value known.1 ended
  · intro store after error known ended
    exact (meets known.2).throws store after error known.1 ended

theorem only {allowed : Call → Prop} (calls : program.Only allowed)
    (kept : ∀ call, allowed call → ∀ store, before store → before (provide store call).1) :
    Meets provide before program (fun store _ => before store) fun store _ => before store := by
  induction program with
  | done value => exact done fun _ known => known
  | fail error => exact fail fun _ known => known
  | ask call next ih =>
      constructor
      · intro store after value known ended
        exact (ih _ (calls.2 _)).yields _ after value
          (kept call calls.1 store known) ended
      · intro store after error known ended
        exact (ih _ (calls.2 _)).throws _ after error
          (kept call calls.1 store known) ended

section Invoke

variable {Value : Call → Type u}
variable {supply : Store → (call : Call) → Store × Except ε (Value call)}

theorem invoke {call : Call} {returns : Store → Value call → Prop}
    (ran : ∀ store answer, before store → (supply store call).2 = .ok answer →
      returns (supply store call).1 answer)
    (raised : ∀ store error, before store → (supply store call).2 = .error error →
      raises (supply store call).1 error) :
    Meets supply before (Program.invoke call) returns raises := by
  constructor
  · intro store after value known ended
    unfold Yields Program.invoke at ended
    rw [execute] at ended
    cases served : (supply store call).2 with
    | ok answer =>
        rw [served] at ended
        cases ended
        exact ran store value known served
    | error error =>
        rw [served] at ended
        cases ended
  · intro store after error known ended
    unfold Throws Program.invoke at ended
    rw [execute] at ended
    cases served : (supply store call).2 with
    | ok answer =>
        rw [served] at ended
        cases ended
    | error other =>
        rw [served] at ended
        cases ended
        exact raised store error known served

end Invoke

end Meets

end Adwf.Program
