import Mathlib

/-!
# The order and the comparison of rows

Rows are ordered by their columns from left to right, with the missing values at one end. They are compared in
the same way, but a comparison that meets a missing value is unknown. A row that compares greater lies behind;
a row that lies behind need not compare greater.
-/

namespace Flowsql.Library.Rows

/-- Where a database orders the missing values. -/
inductive Nulls where
  | first
  | last
  deriving DecidableEq

variable {Value : Type}

/-- The place of a column value in the order. -/
def Nulls.place (nulls : Nulls) : Option Value → WithBot (WithTop Value)
  | some value => ((value : WithTop Value) : WithBot (WithTop Value))
  | none => match nulls with
    | .first => ⊥
    | .last => ((⊤ : WithTop Value) : WithBot (WithTop Value))

/-- The place of a row in the order. -/
def Nulls.places (nulls : Nulls) (key : List (Option Value)) : List (WithBot (WithTop Value)) :=
  key.map nulls.place

theorem Nulls.place_injective (nulls : Nulls) : Function.Injective (@Nulls.place Value nulls) := by
  intro left right same
  cases left <;> cases right <;> cases nulls <;> simp_all [Nulls.place]

theorem Nulls.places_injective (nulls : Nulls) : Function.Injective (@Nulls.places Value nulls) :=
  List.map_injective_iff.mpr nulls.place_injective

variable [LinearOrder Value]

/-- The row comparison `key > bound`, which is unknown without an answer. -/
def greater : List (Option Value) → List Value → Option Bool
  | some value :: key, bound :: bounds =>
      if bound < value then some true else if value = bound then greater key bounds else some false
  | none :: _, _ :: _ => none
  | [], _ | _, [] => some false

variable {nulls : Nulls} {key other : List (Option Value)} {bound later : List Value} {value : Value}

theorem Nulls.place_lt {left right : Value} : nulls.place (some left) < nulls.place (some right) ↔ left < right := by
  simp [Nulls.place]

/-- What compares greater lies behind. -/
theorem places_lt_of_greater (compares : greater key bound = some true) :
    nulls.places (bound.map some) < nulls.places key := by
  induction key generalizing bound with
  | nil => simp [greater] at compares
  | cons cell key ih =>
      cases bound with
      | nil => cases cell <;> simp [greater] at compares
      | cons bound bounds =>
          cases cell with
          | none => cases compares
          | some value =>
              unfold greater at compares
              split at compares
              · rename_i less
                exact List.Lex.rel (Nulls.place_lt.mpr less)
              · split at compares
                · rename_i same
                  obtain rfl := same
                  exact List.Lex.cons (ih compares)
                · cases compares

/-- A row that compares greater than a later row compares greater than an earlier one. -/
theorem greater_trans (compares : greater key later = some true)
    (grows : greater (later.map some) bound = some true) : greater key bound = some true := by
  induction key generalizing bound later with
  | nil => simp [greater] at compares
  | cons cell key ih =>
      cases later with
      | nil => simp [greater] at grows
      | cons last later =>
          cases bound with
          | nil => simp [greater] at grows
          | cons bound bounds =>
              cases cell with
              | none => cases compares
              | some value =>
                  simp only [greater, List.map_cons] at compares grows ⊢
                  grind

end Flowsql.Library.Rows
