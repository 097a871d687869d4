import Mathlib

/-!
# Transition systems

A step function that says which events a state allows, the states that its runs reach, and its
unending executions. What every step keeps holds in every reachable state. A measure that no
step raises is lowered only finitely often.
-/

namespace Flowsql.Library

variable {State Event : Type*}

/-- The states reached from `start` by events that meet a condition on the state they find. -/
inductive Reachable (step : State → Event → Option State) (condition : State → Event → Prop)
    (start : State) : State → Prop where
  | start : Reachable step condition start start
  | step {state after : State} {event : Event} (reached : Reachable step condition start state)
      (allowed : condition state event) (moved : step state event = some after) :
      Reachable step condition start after

namespace Reachable

variable {step : State → Event → Option State} {condition : State → Event → Prop}
  {start state : State}

/-- What holds at the start and is kept by every step holds in every reachable state. -/
theorem invariant (holds : State → Prop) (initially : holds start)
    (kept : ∀ state event after, holds state → condition state event →
      step state event = some after → holds after)
    (reached : Reachable step condition start state) : holds state := by
  induction reached with
  | start => exact initially
  | step _ allowed moved ih => exact kept _ _ _ ih allowed moved

/-- The events of a finite run, one after the other. -/
theorem of_run [∀ state event, Decidable (condition state event)] (events : List Event)
    {after : State} (reached : Reachable step condition start state)
    (ran : events.foldlM (fun state event => if condition state event then step state event
      else none) state = some after) : Reachable step condition start after := by
  induction events generalizing state with
  | nil =>
      cases ran
      exact reached
  | cons event rest ih =>
      rw [List.foldlM_cons] at ran
      by_cases allowed : condition state event
      · rw [if_pos allowed] at ran
        cases moved : step state event with
        | none =>
            rw [moved] at ran
            cases ran
        | some next =>
            rw [moved] at ran
            exact ih (.step reached allowed moved) ran
      · rw [if_neg allowed] at ran
        cases ran

/-- The events of a finite run, where a state allows every event. -/
theorem of_foldl (apply : State → Event → State) {condition : State → Event → Prop}
    (allowed : ∀ state event, condition state event) (events : List Event) {state : State}
    (reached : Reachable (fun state event => some (apply state event)) condition start state) :
    Reachable (fun state event => some (apply state event)) condition start
      (events.foldl apply state) := by
  induction events generalizing state with
  | nil => exact reached
  | cons event rest ih => exact ih (.step reached (allowed state event) rfl)

end Reachable

/-- A run that goes on for ever. -/
structure Execution (step : State → Event → Option State) (start : State) where
  states : Nat → State
  events : Nat → Event
  started : states 0 = start
  moved : ∀ time, step (states time) (events time) = some (states (time + 1))

namespace Execution

variable {step : State → Event → Option State} {start : State}

/-- The states of an execution whose events all meet a condition. -/
theorem reachable_of {condition : State → Event → Prop} (execution : Execution step start)
    (allowed : ∀ time, condition (execution.states time) (execution.events time)) (time : Nat) :
    Reachable step condition start (execution.states time) := by
  induction time with
  | zero =>
      rw [execution.started]
      exact .start
  | succ time ih => exact .step ih (allowed time) (execution.moved time)

/-- A measure that no step raises from some time on. -/
theorem antitone_of (execution : Execution step start) (measure : State → Nat) {since : Nat}
    (never : ∀ time, since ≤ time →
      measure (execution.states (time + 1)) ≤ measure (execution.states time))
    {time later : Nat} (late : since ≤ time) (after : time ≤ later) :
    measure (execution.states later) ≤ measure (execution.states time) := by
  induction later, after using Nat.le_induction with
  | base => exact Nat.le_refl _
  | succ later after ih => exact Nat.le_trans (never later (Nat.le_trans late after)) ih

/-- Events of this kind occur again and again. -/
def Recurrent (execution : Execution step start) (kind : Event → Prop) : Prop :=
  ∀ time, ∃ later, time ≤ later ∧ kind (execution.events later)

end Execution

end Flowsql.Library
