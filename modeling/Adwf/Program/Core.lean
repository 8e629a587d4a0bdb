import Mathlib.Logic.Basic

/-!
# Programs that call their surroundings

A program returns a value, raises an error, or makes a call and goes on with the
answer.  What a call does to the world is left to the semantics a program is
run under; the same program text serves all of them.
-/

namespace Adwf

universe u v

/-- A program over calls `Call` with answers `Answer call`. -/
inductive Program (Call : Type u) (Answer : Call → Type u) (ε : Type u) (α : Type u) :
    Type u where
  | done (value : α)
  | fail (error : ε)
  | ask (call : Call) (next : Answer call → Program Call Answer ε α)

namespace Program

variable {Call : Type u} {Answer : Call → Type u} {ε α β : Type u}

/-- Sequencing: an error ends the program. -/
def bind (first : Program Call Answer ε α) (next : α → Program Call Answer ε β) :
    Program Call Answer ε β :=
  match first with
  | done value => next value
  | fail error => fail error
  | ask call continued => ask call fun answer => bind (continued answer) next

/-- `try … except`: an error is handed to the handler. -/
def handle (body : Program Call Answer ε α) (handler : ε → Program Call Answer ε α) :
    Program Call Answer ε α :=
  match body with
  | done value => done value
  | fail error => handler error
  | ask call continued => ask call fun answer => handle (continued answer) handler

/-- `try … except` whose handler may raise errors of another kind. -/
def attempt {ε' : Type u} (body : Program Call Answer ε α)
    (handler : ε → Program Call Answer ε' α) : Program Call Answer ε' α :=
  match body with
  | done value => done value
  | fail error => handler error
  | ask call continued => ask call fun answer => attempt (continued answer) handler

/-- Errors are raised as others. -/
def raising {ε' : Type u} (body : Program Call Answer ε α) (convert : ε → ε') :
    Program Call Answer ε' α :=
  body.attempt fun error => fail (convert error)

/-- A single call. -/
def request (call : Call) : Program Call Answer ε (Answer call) :=
  ask call done

/-- A computation without calls. -/
def ofExcept : Except ε α → Program Call Answer ε α
  | .ok value => done value
  | .error error => fail error

/-- `if not condition: raise error`. -/
def check (condition : Prop) [Decidable condition] (error : ε) : Program Call Answer ε PUnit :=
  if condition then done ⟨⟩ else fail error

/-- A call that returns a value or raises. -/
def invoke {Value : Call → Type u} (call : Call) :
    Program Call (fun call => Except ε (Value call)) ε (Value call) :=
  ask call ofExcept

/-- `try … finally`: the cleanup follows in any case, and its own errors go first. -/
def ensuring (body : Program Call Answer ε α) (cleanup : Program Call Answer ε PUnit) :
    Program Call Answer ε α :=
  bind (body.handle fun error => bind cleanup fun _ => fail error) fun value =>
    bind cleanup fun _ => done value

/-- Whether a call is still to be made. -/
def pending : Program Call Answer ε α → Bool
  | ask _ _ => true
  | _ => false

/-- The value a program has returned. -/
def returned? : Program Call Answer ε α → Option α
  | done value => some value
  | _ => none

theorem returned?_eq_some_iff {program : Program Call Answer ε α} {value : α} :
    program.returned? = some value ↔ program = done value := by
  cases program <;> simp [returned?]

instance : Monad (Program Call Answer ε) where
  pure := done
  bind := bind

@[simp]
theorem pure_eq (value : α) : (pure value : Program Call Answer ε α) = done value :=
  rfl

@[simp]
theorem done_bind (value : α) (next : α → Program Call Answer ε β) :
    (done value >>= next) = next value :=
  rfl

@[simp]
theorem fail_bind (error : ε) (next : α → Program Call Answer ε β) :
    ((fail error : Program Call Answer ε α) >>= next) = fail error :=
  rfl

@[simp]
theorem ask_bind (call : Call) (continued : Answer call → Program Call Answer ε α)
    (next : α → Program Call Answer ε β) :
    (ask call continued >>= next) = ask call fun answer => continued answer >>= next :=
  rfl

/-! ## The calls of a program -/

/-- The program makes no other calls than the allowed ones. -/
def Only (allowed : Call → Prop) : Program Call Answer ε α → Prop
  | done _ => True
  | fail _ => True
  | ask call next => allowed call ∧ ∀ answer, Only allowed (next answer)

section Only

variable {allowed : Call → Prop}

theorem Only.bind {first : Program Call Answer ε α} {next : α → Program Call Answer ε β}
    (firstOnly : first.Only allowed) (nextOnly : ∀ value, (next value).Only allowed) :
    (first >>= next).Only allowed := by
  induction first with
  | done value => exact nextOnly value
  | fail error => exact trivial
  | ask call continued ih => exact ⟨firstOnly.1, fun answer => ih answer (firstOnly.2 answer)⟩

variable {body : Program Call Answer ε α}

theorem Only.handle {handler : ε → Program Call Answer ε α}
    (bodyOnly : body.Only allowed) (handlerOnly : ∀ error, (handler error).Only allowed) :
    (body.handle handler).Only allowed := by
  induction body with
  | done value => exact trivial
  | fail error => exact handlerOnly error
  | ask call continued ih => exact ⟨bodyOnly.1, fun answer => ih answer (bodyOnly.2 answer)⟩

theorem Only.ensuring {cleanup : Program Call Answer ε PUnit}
    (bodyOnly : body.Only allowed) (cleanupOnly : cleanup.Only allowed) :
    (body.ensuring cleanup).Only allowed := by
  apply Only.bind
  · exact bodyOnly.handle fun _ => cleanupOnly.bind fun _ => trivial
  · exact fun _ => cleanupOnly.bind fun _ => trivial

theorem Only.mono {wider : Call → Prop}
    (bodyOnly : body.Only allowed) (implies : ∀ call, allowed call → wider call) :
    body.Only wider := by
  induction body with
  | done value => exact trivial
  | fail error => exact trivial
  | ask call continued ih =>
      exact ⟨implies call bodyOnly.1, fun answer => ih answer (bodyOnly.2 answer)⟩

theorem Only.ofExcept (result : Except ε α) :
    (ofExcept result : Program Call Answer ε α).Only allowed := by
  cases result with
  | ok value => exact trivial
  | error error => exact trivial

theorem Only.check {condition : Prop} [Decidable condition] {error : ε} :
    (check condition error : Program Call Answer ε PUnit).Only allowed := by
  unfold Program.check
  by_cases holds : condition
  · rw [if_pos holds]
    exact trivial
  · rw [if_neg holds]
    exact trivial

end Only

section Unhandled

variable {Value : Call → Type u}

/-- No handler: the error of a call is the error of the program. -/
def Unhandled : Program Call (fun call => Except ε (Value call)) ε α → Prop
  | done _ => True
  | fail _ => True
  | ask _ next =>
      (∀ error, next (.error error) = fail error) ∧ ∀ answer, Unhandled (next answer)

theorem Unhandled.invoke (call : Call) :
    (Program.invoke call : Program Call (fun call => Except ε (Value call)) ε _).Unhandled := by
  constructor
  · exact fun _ => rfl
  · intro answer
    cases answer with
    | ok value => exact trivial
    | error error => exact trivial

theorem Unhandled.bind {first : Program Call (fun call => Except ε (Value call)) ε α}
    {next : α → Program Call (fun call => Except ε (Value call)) ε β}
    (firstUnhandled : first.Unhandled) (nextUnhandled : ∀ value, (next value).Unhandled) :
    (first >>= next).Unhandled := by
  induction first with
  | done value => exact nextUnhandled value
  | fail error => exact trivial
  | ask call continued ih =>
      constructor
      · intro error
        exact congrArg (· >>= next) (firstUnhandled.1 error)
      · exact fun answer => ih answer (firstUnhandled.2 answer)

end Unhandled

/-! ## Running a program alone -/

/-- The run of a program with nothing else going on: every call is served by
`provide`. -/
def execute {Store : Type v} (provide : Store → (call : Call) → Store × Answer call) :
    Program Call Answer ε α → Store → Store × Program Call Answer ε α
  | done value, store => (store, done value)
  | fail error, store => (store, fail error)
  | ask call next, store =>
      execute provide (next (provide store call).2) (provide store call).1

section Execute

variable {Store : Type v} {provide : Store → (call : Call) → Store × Answer call}

variable {first body : Program Call Answer ε α} {next : α → Program Call Answer ε β}
variable {store middle after : Store} {value : α} {error : ε}

theorem execute_bind_of_done (ended : first.execute provide store = (middle, done value)) :
    (first >>= next).execute provide store = (next value).execute provide middle := by
  induction first generalizing store with
  | done result =>
      cases ended
      rfl
  | fail error => cases ended
  | ask call continued ih => exact ih (provide store call).2 ended

theorem execute_bind_of_fail (ended : first.execute provide store = (middle, fail error)) :
    (first >>= next).execute provide store = (middle, fail error) := by
  induction first generalizing store with
  | done result => cases ended
  | fail other =>
      cases ended
      rfl
  | ask call continued ih => exact ih (provide store call).2 ended

theorem execute_attempt_of_done {ε' : Type u} {handler : ε → Program Call Answer ε' α}
    (ended : body.execute provide store = (middle, done value)) :
    (body.attempt handler).execute provide store = (middle, done value) := by
  induction body generalizing store with
  | done result =>
      cases ended
      rfl
  | fail error => cases ended
  | ask call continued ih => exact ih (provide store call).2 ended

theorem execute_attempt_of_fail {ε' : Type u} {handler : ε → Program Call Answer ε' α}
    (ended : body.execute provide store = (middle, fail error)) :
    (body.attempt handler).execute provide store = (handler error).execute provide middle := by
  induction body generalizing store with
  | done result => cases ended
  | fail other =>
      cases ended
      rfl
  | ask call continued ih => exact ih (provide store call).2 ended

theorem execute_ends (program : Program Call Answer ε α) (store : Store) :
    (∃ after value, program.execute provide store = (after, done value)) ∨
      ∃ after error, program.execute provide store = (after, fail error) := by
  induction program generalizing store with
  | done value => exact .inl ⟨store, value, rfl⟩
  | fail error => exact .inr ⟨store, error, rfl⟩
  | ask call continued ih => exact ih (provide store call).2 (provide store call).1

/-- A run alone ends with a value when its parts do. -/
theorem execute_bind_eq_done_iff {value : β} :
    (first >>= next).execute provide store = (after, done value) ↔
      ∃ middle result, first.execute provide store = (middle, done result) ∧
        (next result).execute provide middle = (after, done value) := by
  induction first generalizing store with
  | done result =>
      constructor
      · exact fun ended => ⟨store, result, rfl, ended⟩
      · rintro ⟨middle, other, ⟨⟩, ended⟩
        exact ended
  | fail error =>
      constructor
      · rintro ⟨⟩
      · rintro ⟨middle, other, ⟨⟩, _⟩
  | ask call continued ih => exact ih (provide store call).2

theorem execute_done_iff {result : α} :
    (done result : Program Call Answer ε α).execute provide store = (after, done value) ↔
      store = after ∧ result = value := by
  simp [execute]

theorem execute_fail_iff :
    (fail error : Program Call Answer ε α).execute provide store = (after, done value) ↔ False := by
  simp [execute]

/-- A run alone ends with a value when its `try` block does, or raises and the handler
does. -/
theorem execute_handle_eq_done_iff {handler : ε → Program Call Answer ε α} :
    (body.handle handler).execute provide store = (after, done value) ↔
      body.execute provide store = (after, done value) ∨
        ∃ middle error, body.execute provide store = (middle, fail error) ∧
          (handler error).execute provide middle = (after, done value) := by
  induction body generalizing store with
  | done result => simp [handle, execute]
  | fail error =>
      constructor
      · exact fun ended => .inr ⟨store, error, rfl, ended⟩
      · rintro (⟨⟨⟩⟩ | ⟨middle, other, ⟨⟩, ended⟩)
        exact ended
  | ask call continued ih => exact ih (provide store call).2

theorem execute_check_iff {condition : Prop} [Decidable condition] {value : PUnit} :
    (check condition error : Program Call Answer ε PUnit).execute provide store =
      (after, done value) ↔ store = after ∧ condition := by
  unfold check
  by_cases holds : condition
  · simp [execute, holds]
  · simp [execute, holds]

end Execute

end Program

end Adwf
