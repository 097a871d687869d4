import Mathlib

/-!
# Consumers that emit

A consumer takes its input piece by piece. Each piece leads to a next state, to a list of
emitted values and possibly to an error, which ends the input. `feed` runs a consumer over
a whole input, and splitting the input splits the run.
-/

namespace Flowsql.Library

universe u

/-- What a consumer does: an error, if any, the next state, and what it emits. -/
structure Emission (ε σ α : Type u) where
  error : Option ε
  state : σ
  emitted : List α

namespace Emission

variable {ε σ α β : Type u}

/-- Nothing but a next state. -/
def done (state : σ) : Emission ε σ α := ⟨none, state, []⟩

def fail (error : ε) (state : σ) : Emission ε σ α := ⟨some error, state, []⟩

/-- Go on where the first emission ends, unless that is an error. -/
def andThen (first : Emission ε σ α) (next : σ → Emission ε σ α) : Emission ε σ α :=
  match first.error with
  | some error => ⟨some error, first.state, first.emitted⟩
  | none =>
      ⟨(next first.state).error, (next first.state).state,
        first.emitted ++ (next first.state).emitted⟩

/-- Put values in front of what is emitted. -/
def after (emitted : List α) (emission : Emission ε σ α) : Emission ε σ α :=
  { emission with emitted := emitted ++ emission.emitted }

@[simp] theorem done_error (state : σ) : (done state : Emission ε σ α).error = none := rfl

@[simp] theorem done_state (state : σ) : (done state : Emission ε σ α).state = state := rfl

@[simp] theorem done_emitted (state : σ) : (done state : Emission ε σ α).emitted = [] := rfl

@[simp] theorem fail_error (error : ε) (state : σ) :
    (fail error state : Emission ε σ α).error = some error := rfl

@[simp] theorem done_andThen (state : σ) (next : σ → Emission ε σ α) :
    (done state).andThen next = next state := rfl

theorem andThen_of_error {first : Emission ε σ α} (failed : first.error ≠ none)
    (next : σ → Emission ε σ α) : first.andThen next = first := by
  obtain ⟨error, state, emitted⟩ := first
  cases error with
  | none => exact absurd rfl failed
  | some error => rfl

theorem andThen_of_none {first : Emission ε σ α} (ok : first.error = none)
    (next : σ → Emission ε σ α) :
    first.andThen next = (next first.state).after first.emitted := by
  obtain ⟨error, state, emitted⟩ := first
  cases ok
  rfl

@[simp] theorem andThen_done (first : Emission ε σ α) : first.andThen done = first := by
  obtain ⟨error, state, emitted⟩ := first
  cases error with
  | none => simp [andThen]
  | some error => rfl

theorem andThen_assoc (first : Emission ε σ α) (second third : σ → Emission ε σ α) :
    (first.andThen second).andThen third =
      first.andThen fun state => (second state).andThen third := by
  obtain ⟨error, state, emitted⟩ := first
  cases error with
  | some error => rfl
  | none =>
      simp only [andThen]
      cases (second state).error with
      | none => simp
      | some error => simp

/-- Rename the state. -/
def mapState {τ : Type u} (rename : σ → τ) (emission : Emission ε σ α) : Emission ε τ α :=
  ⟨emission.error, rename emission.state, emission.emitted⟩

/-- Run a consumer over an input. -/
def feed (step : σ → β → Emission ε σ α) : List β → σ → Emission ε σ α
  | [], state => done state
  | piece :: rest, state => (step state piece).andThen (feed step rest)

theorem feed_cons (step : σ → β → Emission ε σ α) (piece : β) (rest : List β) (state : σ) :
    feed step (piece :: rest) state = (step state piece).andThen (feed step rest) := rfl

@[simp] theorem andThen_feed_nil (first : Emission ε σ α) (step : σ → β → Emission ε σ α) :
    first.andThen (feed step []) = first := andThen_done first

/-- A run over two inputs in a row is the first run, then the second. -/
theorem feed_append (step : σ → β → Emission ε σ α) (first second : List β) (state : σ) :
    feed step (first ++ second) state = (feed step first state).andThen (feed step second) := by
  induction first generalizing state with
  | nil => rfl
  | cons piece rest ih =>
      rw [List.cons_append, feed_cons, feed_cons, andThen_assoc]
      congr 1
      funext state
      exact ih state

theorem andThen_error {first : Emission ε σ α} {next : σ → Emission ε σ α} {error : ε}
    (never : first.error ≠ some error) (later : ∀ state, (next state).error ≠ some error) :
    (first.andThen next).error ≠ some error := by
  obtain ⟨failed, state, emitted⟩ := first
  cases failed with
  | none => exact later state
  | some other => exact never

/-- An error that no piece leads to. -/
theorem feed_error {step : σ → β → Emission ε σ α} {error : ε}
    (never : ∀ state piece, (step state piece).error ≠ some error) (pieces : List β) (state : σ) :
    (feed step pieces state).error ≠ some error := by
  induction pieces generalizing state with
  | nil => nofun
  | cons piece rest ih => exact andThen_error (never state piece) ih

/-- What every accepted piece preserves holds after an accepted input, and what it
leads to in any case holds after every input. -/
theorem feed_invariant {step : σ → β → Emission ε σ α} {invariant always : σ → Prop}
    (weaken : ∀ state, invariant state → always state)
    (preserved : ∀ state piece, invariant state → always (step state piece).state ∧
      ((step state piece).error = none → invariant (step state piece).state))
    (pieces : List β) {state : σ} (holds : invariant state) :
    always (feed step pieces state).state ∧
      ((feed step pieces state).error = none → invariant (feed step pieces state).state) := by
  induction pieces generalizing state with
  | nil => exact ⟨weaken state holds, fun _ => holds⟩
  | cons piece rest ih =>
      rw [feed_cons]
      have next := preserved state piece holds
      generalize step state piece = first at next
      obtain ⟨error, middle, emitted⟩ := first
      cases error with
      | none => exact ih (next.2 rfl)
      | some error => exact ⟨next.1, nofun⟩

/-- A consumer that takes a whole piece of the input at once does what the consumer of
its parts does, if the first part can be split off while there is room for the rest. -/
theorem feed_eq_of_split {step : σ → β → Emission ε σ α} {whole : List β → σ → Emission ε σ α}
    {room : σ → Nat} (single : ∀ piece state, 0 < room state → step state piece = whole [piece] state)
    (split : ∀ piece rest state, rest ≠ [] → rest.length < room state →
      whole (piece :: rest) state = (whole [piece] state).andThen (whole rest) ∧
        ((whole [piece] state).error = none → room (whole [piece] state).state = room state - 1))
    (pieces : List β) (state : σ) (nonempty : pieces ≠ []) (fits : pieces.length ≤ room state) :
    feed step pieces state = whole pieces state := by
  induction pieces generalizing state with
  | nil => exact absurd rfl nonempty
  | cons piece rest ih =>
      rw [List.length_cons] at fits
      rw [feed_cons, single piece state (by omega)]
      cases rest with
      | nil => exact andThen_done _
      | cons next rest =>
          obtain ⟨splits, roomAfter⟩ := split piece (next :: rest) state (by simp) (by omega)
          rw [splits]
          generalize whole [piece] state = first at roomAfter ⊢
          obtain ⟨error, middle, emitted⟩ := first
          cases error with
          | some error => rfl
          | none =>
              have fewer : (next :: rest).length ≤ room middle := by
                have roomEq := roomAfter rfl
                simp only at roomEq
                omega
              unfold andThen
              simp only
              rw [ih middle (by simp) fewer]

/-! ## Loops over an input -/

/-- A loop that takes a part of the input in each round, `none` if it still runs after
this many rounds. A round may itself contain a loop that does not end. -/
def drain (round : List β → σ → Option (Nat × Emission ε σ α)) :
    Nat → List β → σ → Option (Emission ε σ α)
  | _, [], state => some (done state)
  | 0, _ :: _, _ => none
  | fuel + 1, piece :: rest, state =>
      match round (piece :: rest) state with
      | none => none
      | some (taken, first) =>
          match first.error with
          | some _ => some first
          | none =>
              (drain round fuel ((piece :: rest).drop taken) first.state).map
                (after first.emitted)

/-- A loop whose rounds do what the consumer does with the part taken ends, and does
what the consumer does with the whole input. -/
theorem drain_eq_feed {round : List β → σ → Option (Nat × Emission ε σ α)}
    {step : σ → β → Emission ε σ α} {invariant : σ → Prop}
    (rounds : ∀ piece rest state, invariant state → ∃ taken, 0 < taken ∧
      round (piece :: rest) state =
        some (taken, feed step ((piece :: rest).take taken) state))
    (preserved : ∀ state piece, invariant state → (step state piece).error = none →
      invariant (step state piece).state)
    (fuel : Nat) (input : List β) (state : σ) (enough : input.length ≤ fuel)
    (holds : invariant state) : drain round fuel input state = some (feed step input state) := by
  have kept := feed_invariant (fun _ _ => trivial)
    (fun state piece holds => ⟨trivial, preserved state piece holds⟩)
  induction fuel generalizing input state with
  | zero =>
      obtain rfl : input = [] := List.eq_nil_of_length_eq_zero (Nat.le_zero.mp enough)
      rfl
  | succ fuel ih =>
      cases input with
      | nil => rfl
      | cons piece rest =>
          obtain ⟨taken, positive, roundEq⟩ := rounds piece rest state holds
          have whole := feed_append step ((piece :: rest).take taken) ((piece :: rest).drop taken)
            state
          rw [List.take_append_drop] at whole
          rw [drain, roundEq, whole]
          have next := (kept ((piece :: rest).take taken) holds).2
          generalize feed step ((piece :: rest).take taken) state = first at next ⊢
          obtain ⟨error, middle, emitted⟩ := first
          cases error with
          | some error => rfl
          | none =>
              simp only
              rw [ih _ middle (by simp only [List.length_drop]; omega) (next rfl)]
              rfl

end Emission

end Flowsql.Library
