import Adwf.Program.Core

/-!
# Programs whose calls are answered in any way

A trace lists the calls a program has made and the answers it got, whatever
they were.  What a program has learnt when it returns, and what it knew when it
made a call, is said in terms of the answers it saw.
-/

namespace Adwf.Program

universe u

variable {Call : Type u} {Answer : Call → Type u} {ε α β : Type u}

/-- A call and its answer. -/
abbrev Event (Call : Type u) (Answer : Call → Type u) :=
  (call : Call) × Answer call

/-- What is left of a program after the calls of the trace. -/
inductive Trace : Program Call Answer ε α → List (Event Call Answer) → Program Call Answer ε α →
    Prop
  | stop (program : Program Call Answer ε α) : Trace program [] program
  | answered {call : Call} {next : Answer call → Program Call Answer ε α} {answer : Answer call}
      {events : List (Event Call Answer)} {rest : Program Call Answer ε α} :
      Trace (next answer) events rest → Trace (ask call next) (⟨call, answer⟩ :: events) rest

theorem Trace.bind_cases {first : Program Call Answer ε α} {next : α → Program Call Answer ε β}
    {events : List (Event Call Answer)} {rest : Program Call Answer ε β}
    (trace : Trace (first >>= next) events rest) :
    (∃ left, Trace first events left ∧ rest = (left >>= next)) ∨
      ∃ before after value, events = before ++ after ∧ Trace first before (done value) ∧
        Trace (next value) after rest := by
  induction first generalizing events with
  | done value => exact .inr ⟨[], events, value, rfl, .stop _, trace⟩
  | fail error =>
      cases trace
      exact .inl ⟨fail error, .stop _, rfl⟩
  | ask call continued ih =>
      rw [ask_bind] at trace
      cases trace with
      | stop => exact .inl ⟨ask call continued, .stop _, rfl⟩
      | answered later =>
          rcases ih _ later with ⟨left, inside, same⟩ | ⟨before, after, value, same, ended, goesOn⟩
          · exact .inl ⟨left, .answered inside, same⟩
          · exact .inr ⟨_ :: before, after, value, by rw [same]; rfl, .answered ended, goesOn⟩

/-- The trace of a program whose calls are answered by a function, and its end. -/
def replay (answers : (call : Call) → Answer call) :
    Program Call Answer ε α → List (Event Call Answer) × Program Call Answer ε α
  | done value => ([], done value)
  | fail error => ([], fail error)
  | ask call next =>
      let rest := replay answers (next (answers call))
      (⟨call, answers call⟩ :: rest.1, rest.2)

theorem trace_replay (answers : (call : Call) → Answer call) (program : Program Call Answer ε α) :
    Trace program (replay answers program).1 (replay answers program).2 := by
  induction program with
  | done value => exact .stop _
  | fail error => exact .stop _
  | ask call next ih => exact .answered (ih (answers call))

/-! ## What a returned value shows -/

section Learns

variable (saw : Event Call Answer → Prop)

/-- If the program saw nothing else, the value it returns has the property. -/
def Learns (program : Program Call Answer ε α) (shows : α → Prop) : Prop :=
  ∀ events value, Trace program events (done value) → (∀ event ∈ events, saw event) → shows value

variable {saw} {shows : α → Prop}

namespace Learns

theorem done {value : α} (holds : shows value) :
    Learns saw (.done value : Program Call Answer ε α) shows := by
  intro events result trace _
  cases trace
  exact holds

theorem fail {error : ε} : Learns saw (.fail error : Program Call Answer ε α) shows := by
  intro events result trace _
  cases trace

theorem anything {program : Program Call Answer ε α} : Learns saw program fun _ => True :=
  fun _ _ _ _ => trivial

theorem ask {call : Call} {next : Answer call → Program Call Answer ε α}
    (learns : ∀ answer, saw ⟨call, answer⟩ → Learns saw (next answer) shows) :
    Learns saw (.ask call next) shows := by
  intro events value trace seen
  cases trace with
  | answered later =>
      rw [List.forall_mem_cons] at seen
      exact learns _ seen.1 _ _ later seen.2

theorem bind {middle : α → Prop} {shows : β → Prop} {first : Program Call Answer ε α}
    {next : α → Program Call Answer ε β} (firstLearns : Learns saw first middle)
    (nextLearns : ∀ value, middle value → Learns saw (next value) shows) :
    Learns saw (first >>= next) shows := by
  intro events result trace seen
  rcases trace.bind_cases with ⟨left, inside, same⟩ | ⟨before, after, value, rfl, ended, goesOn⟩
  · cases left with
    | done value =>
        rw [done_bind] at same
        exact nextLearns value (firstLearns events value inside seen) [] result
          (same ▸ .stop _) (by simp)
    | fail error => cases same
    | ask call continued => cases same
  · exact nextLearns value
      (firstLearns before value ended fun event inside => seen event (List.mem_append_left _ inside))
      after result goesOn fun event inside => seen event (List.mem_append_right _ inside)

theorem ofExcept {result : Except ε α} (holds : ∀ value, result = .ok value → shows value) :
    Learns saw (.ofExcept result : Program Call Answer ε α) shows := by
  cases result with
  | ok value => exact done (holds value rfl)
  | error error => exact fail

theorem check {condition : Prop} [Decidable condition] {error : ε}
    {next : PUnit → Program Call Answer ε α} (passed : condition → Learns saw (next ⟨⟩) shows) :
    Learns saw (.check condition error >>= next) shows := by
  unfold Program.check
  by_cases holds : condition
  · rw [if_pos holds]
    exact passed holds
  · rw [if_neg holds]
    exact fail

theorem handle {body : Program Call Answer ε α} {handler : ε → Program Call Answer ε α}
    (bodyLearns : Learns saw body shows) (handlerLearns : ∀ error, Learns saw (handler error) shows) :
    Learns saw (body.handle handler) shows := by
  induction body with
  | done value => exact done (bodyLearns [] value (.stop _) (by simp))
  | fail error => exact handlerLearns error
  | ask call continued ih =>
      apply ask
      intro answer seen
      apply ih
      intro events value trace others
      apply bodyLearns (⟨call, answer⟩ :: events) value (.answered trace)
      rw [List.forall_mem_cons]
      exact ⟨seen, others⟩

theorem mono {weaker : α → Prop} {program : Program Call Answer ε α}
    (learns : Learns saw program shows) (implies : ∀ value, shows value → weaker value) :
    Learns saw program weaker :=
  fun events value trace seen => implies value (learns events value trace seen)

end Learns

end Learns

section Guards

variable (saw : Event Call Answer → Prop)

/-- If the program saw nothing else, every call it has made is allowed. -/
def Guards (program : Program Call Answer ε α) (allowed : Call → Prop) : Prop :=
  ∀ events rest, Trace program events rest → (∀ event ∈ events, saw event) →
    ∀ event ∈ events, allowed event.1

variable {saw} {allowed : Call → Prop}

theorem Guards.of_only {program : Program Call Answer ε α} (only : program.Only allowed) :
    Guards saw program allowed := by
  intro events rest trace seen
  clear seen
  induction trace with
  | stop => simp
  | answered _ ih =>
      rw [List.forall_mem_cons]
      exact ⟨only.1, ih (only.2 _)⟩

theorem Guards.bind {middle : α → Prop} {first : Program Call Answer ε α}
    {next : α → Program Call Answer ε β} (firstGuards : Guards saw first allowed)
    (firstLearns : Learns saw first middle)
    (nextGuards : ∀ value, middle value → Guards saw (next value) allowed) :
    Guards saw (first >>= next) allowed := by
  intro events rest trace seen event inside
  rcases trace.bind_cases with ⟨left, prefixTrace, _⟩ | ⟨before, after, value, rfl, ended, goesOn⟩
  · exact firstGuards events left prefixTrace seen event inside
  · have seenBefore : ∀ event ∈ before, saw event := fun event earlier =>
      seen event (List.mem_append_left _ earlier)
    rcases List.mem_append.mp inside with earlier | later
    · exact firstGuards before _ ended seenBefore event earlier
    · exact nextGuards value (firstLearns before value ended seenBefore) after rest goesOn
        (fun event other => seen event (List.mem_append_right _ other)) event later

end Guards

end Adwf.Program
