import Mathlib

/-!
# Guarded runs

Runs of a step function in which every event meets a condition on the state that it finds.
-/

namespace Flowsql.Library

variable {State Event : Type*} (step : State → Event → State)

/-- Every event of the run meets the condition. -/
def Guarded (condition : State → Event → Prop) : State → List Event → Prop
  | _, [] => True
  | state, event :: rest => condition state event ∧ Guarded condition (step state event) rest

variable {step} {condition : State → Event → Prop} {state : State}

instance Guarded.decidable [∀ state event, Decidable (condition state event)] :
    (state : State) → (events : List Event) → Decidable (Guarded step condition state events)
  | _, [] => .isTrue trivial
  | state, event :: rest =>
      have := Guarded.decidable (step state event) rest
      inferInstanceAs (Decidable (condition state event ∧ _))

theorem guarded_append {first second : List Event} :
    Guarded step condition state (first ++ second) ↔
      Guarded step condition state first ∧
        Guarded step condition (first.foldl step state) second := by
  induction first generalizing state with
  | nil => exact (true_and _).symm ▸ Iff.rfl
  | cons event rest ih =>
      rw [List.cons_append, Guarded, ih, Guarded, and_assoc]
      rfl

/-- What every guarded step keeps holds after a guarded run. -/
theorem Guarded.invariant {invariant : State → Prop} {events : List Event}
    (kept : ∀ state event, invariant state → condition state event →
      invariant (step state event))
    (holds : invariant state) (guarded : Guarded step condition state events) :
    invariant (events.foldl step state) := by
  induction events generalizing state with
  | nil => exact holds
  | cons event rest ih => exact ih (kept state event holds guarded.1) guarded.2

end Flowsql.Library
