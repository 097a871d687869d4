import Mathlib

/-!
# Simulation of call sequences

A machine answers one call after the other. The concrete machine may fail to
return from a call, the abstract one always answers. A relation that every call
preserves makes both machines give the same answers to every call sequence.
-/

namespace Flowsql.Library

variable {σ τ κ ω : Type*}

/-- Answers to a call sequence, or `none` as soon as one call does not return. -/
def runCalls (step : σ → κ → Option (σ × ω)) : σ → List κ → Option (List ω)
  | _, [] => some []
  | state, call :: rest =>
      match step state call with
      | none => none
      | some (next, output) => (runCalls step next rest).map (output :: ·)

/-- Answers of a machine that returns from every call. -/
def runTotal (step : τ → κ → τ × ω) : τ → List κ → List ω
  | _, [] => []
  | state, call :: rest =>
      (step state call).2 :: runTotal step (step state call).1 rest

/-- One concrete call returns, gives the abstract answer and keeps the relation. -/
def SimulatesCall (step : σ → κ → Option (σ × ω)) (abstractStep : τ → κ → τ × ω)
    (related : σ → τ → Prop) (call : κ) : Prop :=
  ∀ state abstractState, related state abstractState →
    ∃ next, step state call = some (next, (abstractStep abstractState call).2) ∧
      related next (abstractStep abstractState call).1

/-- Related states give the same answers to a sequence of simulated calls. -/
theorem runCalls_of_simulation {step : σ → κ → Option (σ × ω)}
    {abstractStep : τ → κ → τ × ω} {related : σ → τ → Prop} {calls : List κ}
    (simulates : ∀ call ∈ calls, SimulatesCall step abstractStep related call)
    {state : σ} {abstractState : τ} (start : related state abstractState) :
    runCalls step state calls = some (runTotal abstractStep abstractState calls) := by
  induction calls generalizing state abstractState with
  | nil => rfl
  | cons call rest ih =>
      obtain ⟨next, stepEq, nextRelated⟩ :=
        simulates call (by simp) state abstractState start
      have tailEq := ih (fun other member => simulates other (by simp [member])) nextRelated
      simp only [runCalls, stepEq, tailEq, runTotal, Option.map_some]

end Flowsql.Library
