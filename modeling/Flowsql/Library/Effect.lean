import Mathlib

/-!
# Stateful computations that may throw

A computation over a state either returns a value or throws an error, and both
keep the state reached so far. `Ensures` states what holds afterwards in each of
the two cases. Its rules follow the way a computation is built.
-/

namespace Flowsql.Library

universe u

variable {ε σ α β : Type u}

/-- Started in `start`, the program returns a value and a state that satisfy
`returned`, or throws an error in a state that satisfies `thrown`. -/
def Ensures (program : EStateM ε σ α) (start : σ) (returned : α → σ → Prop)
    (thrown : ε → σ → Prop) : Prop :=
  match program start with
  | .ok value state => returned value state
  | .error error state => thrown error state

/-- Throw the error when the condition holds. -/
def throwIf (condition : Prop) [Decidable condition] (error : ε) : EStateM ε σ PUnit :=
  if condition then throw error else pure ⟨⟩

/-- Run a state function and keep its answer. -/
def ask (answer : σ → α × σ) : EStateM ε σ α :=
  fun state => .ok (answer state).1 (answer state).2

section Rules

variable {program : EStateM ε σ α} {next : α → EStateM ε σ β} {start : σ}
  {returned : α → σ → Prop} {thrown : ε → σ → Prop} {finally_ : β → σ → Prop}

theorem ensures_pure {value : α} (holds : returned value start) :
    Ensures (pure value : EStateM ε σ α) start returned thrown := holds

theorem ensures_throw {error : ε} (holds : thrown error start) :
    Ensures (throw error : EStateM ε σ α) start returned thrown := holds

theorem Ensures.of_ok (ensures : Ensures program start returned thrown) {value : α} {state : σ}
    (outcome : program start = .ok value state) : returned value state := by
  unfold Ensures at ensures
  rw [outcome] at ensures
  exact ensures

theorem Ensures.of_error (ensures : Ensures program start returned thrown) {error : ε}
    {state : σ} (outcome : program start = .error error state) : thrown error state := by
  unfold Ensures at ensures
  rw [outcome] at ensures
  exact ensures

/-- Sequencing: the second program starts wherever the first one returns. -/
theorem ensures_bind
    (first : Ensures program start
      (fun value state => Ensures (next value) state finally_ thrown) thrown) :
    Ensures (program >>= next) start finally_ thrown := by
  change (match EStateM.bind program next start with
    | .ok value state => finally_ value state
    | .error error state => thrown error state)
  unfold EStateM.bind
  cases outcome : program start with
  | ok value state => exact first.of_ok outcome
  | error error state => exact first.of_error outcome

theorem ensures_mono {returned' : α → σ → Prop} {thrown' : ε → σ → Prop}
    (ensures : Ensures program start returned thrown)
    (onReturn : ∀ value state, returned value state → returned' value state)
    (onThrow : ∀ error state, thrown error state → thrown' error state) :
    Ensures program start returned' thrown' := by
  unfold Ensures
  cases outcome : program start with
  | ok value state => exact onReturn value state (ensures.of_ok outcome)
  | error error state => exact onThrow error state (ensures.of_error outcome)

theorem ensures_get {returned : σ → σ → Prop} (holds : returned start start) :
    Ensures (get : EStateM ε σ σ) start returned thrown := holds

theorem ensures_modify {change : σ → σ} {returned : PUnit → σ → Prop}
    (holds : returned ⟨⟩ (change start)) :
    Ensures (modify change : EStateM ε σ PUnit) start returned thrown := holds

theorem ensures_ask {answer : σ → α × σ}
    (holds : returned (answer start).1 (answer start).2) :
    Ensures (ask answer : EStateM ε σ α) start returned thrown := holds

theorem ensures_throwIf {condition : Prop} [Decidable condition] {error : ε}
    {returned : PUnit → σ → Prop} (stops : condition → thrown error start)
    (continues : ¬ condition → returned ⟨⟩ start) :
    Ensures (throwIf condition error : EStateM ε σ PUnit) start returned thrown := by
  unfold throwIf
  split
  · exact ensures_throw (stops ‹_›)
  · exact ensures_pure (continues ‹_›)

theorem ensures_ite {condition : Prop} [Decidable condition] {other : EStateM ε σ α}
    (positive : condition → Ensures program start returned thrown)
    (negative : ¬ condition → Ensures other start returned thrown) :
    Ensures (if condition then program else other) start returned thrown := by
  split
  · exact positive ‹_›
  · exact negative ‹_›

end Rules

/-- A repeated computation keeps whatever each round keeps. -/
theorem ensures_forM {items : List α} {body : α → EStateM ε σ PUnit}
    {invariant : List α → σ → Prop} {thrown : ε → σ → Prop}
    (round : ∀ item rest state, invariant (item :: rest) state →
      Ensures (body item) state (fun _ => invariant rest) thrown)
    {start : σ} (holds : invariant items start) :
    Ensures (items.forM body) start (fun _ => invariant []) thrown := by
  induction items generalizing start with
  | nil => exact ensures_pure holds
  | cons item rest ih =>
      apply ensures_bind
      exact ensures_mono (round item rest start holds) (fun _ _ kept => ih kept)
        (fun _ _ failed => failed)

end Flowsql.Library
