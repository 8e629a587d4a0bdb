import Mathlib.Data.List.Basic

/-!
# Runs of a deterministic system

A system takes one input after another.  `Along` states a property of every
step of a run and `Always` a property of every state it reaches.  The rules
turn what one step preserves into what a whole run preserves; a guarded rule
assumes a condition on the steps the run takes.
-/

namespace Adwf.Run

universe u v

variable {State : Type u} {Input : Type v} (step : State → Input → State)

/-- The state after all inputs. -/
def final (start : State) (inputs : List Input) : State :=
  inputs.foldl step start

/-- `property` holds of every step: the state before it and its input. -/
def Along (property : State → Input → Prop) : State → List Input → Prop
  | _, [] => True
  | state, input :: rest => property state input ∧ Along property (step state input) rest

/-- `property` holds in every state of the run, the first and last included. -/
def Always (property : State → Prop) : State → List Input → Prop
  | state, [] => property state
  | state, input :: rest => property state ∧ Always property (step state input) rest

theorem final_append (start : State) (inputs more : List Input) :
    final step start (inputs ++ more) = final step (final step start inputs) more :=
  List.foldl_append

instance instDecidableAlong (property : State → Input → Prop)
    [∀ state input, Decidable (property state input)] :
    ∀ start inputs, Decidable (Along step property start inputs)
  | _, [] => .isTrue trivial
  | start, input :: rest =>
      have := instDecidableAlong property (step start input) rest
      inferInstanceAs (Decidable (_ ∧ _))

variable {step}

variable {start : State} {inputs : List Input} {first second : State → Input → Prop}
variable {inv : State → Prop}

theorem Along.last {property : State → Input → Prop}
    {input : Input} (along : Along step property start (inputs ++ [input])) :
    property (final step start inputs) input := by
  induction inputs generalizing start with
  | nil => exact along.1
  | cons first rest ih => exact ih along.2

theorem Always.final {property : State → Prop}
    (always : Always step property start inputs) : property (final step start inputs) := by
  induction inputs generalizing start with
  | nil => exact always
  | cons input rest ih => exact ih always.2

theorem Along.imp (implies : ∀ state input, first state input → second state input)
    (along : Along step first start inputs) : Along step second start inputs := by
  induction inputs generalizing start with
  | nil => trivial
  | cons input rest ih => exact ⟨implies start input along.1, ih along.2⟩

theorem Along.and (holds : Along step first start inputs) (also : Along step second start inputs) :
    Along step (fun state input => first state input ∧ second state input) start inputs := by
  induction inputs generalizing start with
  | nil => trivial
  | cons input rest ih => exact ⟨⟨holds.1, also.1⟩, ih holds.2 also.2⟩

theorem Along.mono (implies : ∀ state input, inv state → first state input →
      second state input) (always : Always step inv start inputs)
    (along : Along step first start inputs) : Along step second start inputs := by
  induction inputs generalizing start with
  | nil => trivial
  | cons input rest ih => exact ⟨implies start input always.1 along.1, ih always.2 along.2⟩

theorem Along.of_always {property : State → Input → Prop} (holds : ∀ state input, inv state → property state input)
    (always : Always step inv start inputs) : Along step property start inputs := by
  induction inputs generalizing start with
  | nil => trivial
  | cons input rest ih => exact ⟨holds start input always.1, ih always.2⟩

theorem always_of_guarded {guard : State → Input → Prop}
    (preserved : ∀ state input, inv state → guard state input → inv (step state input))
    (initial : inv start) (guarded : Along step guard start inputs) :
    Always step inv start inputs := by
  induction inputs generalizing start with
  | nil => exact initial
  | cons input rest ih =>
      exact ⟨initial, ih (preserved start input initial guarded.1) guarded.2⟩

theorem always_of_invariant
    (preserved : ∀ state input, inv state → inv (step state input)) (initial : inv start)
    (inputs : List Input) : Always step inv start inputs := by
  induction inputs generalizing start with
  | nil => exact initial
  | cons input rest ih => exact ⟨initial, ih (preserved start input initial)⟩

theorem Always.imp {first second : State → Prop}
    (implies : ∀ state, first state → second state) (always : Always step first start inputs) :
    Always step second start inputs := by
  induction inputs generalizing start with
  | nil => exact implies start always
  | cons input rest ih => exact ⟨implies start always.1, ih always.2⟩

end Adwf.Run
