import Mathlib

/-!
# Machines that feed one another

A machine is what it answers to the last of the events it has received. Of its events some carry an
item; a machine emits items, which are what the next machine of a cascade receives.
-/

namespace Flowsql.Library.Cascade

variable {Event Answer Item : Type*}

/-- The answers to `log`, of a machine that has already received `past`. -/
def answersAfter (respond : List Event → Answer) (past : List Event) : List Event → List Answer
  | [] => []
  | event :: log => respond (past ++ [event]) :: answersAfter respond (past ++ [event]) log

def answers (respond : List Event → Answer) (log : List Event) : List Answer :=
  answersAfter respond [] log

theorem answersAfter_snoc (respond : List Event → Answer) (past log : List Event)
    (event : Event) :
    answersAfter respond past (log ++ [event]) =
      answersAfter respond past log ++ [respond (past ++ log ++ [event])] := by
  induction log generalizing past with
  | nil => simp [answersAfter]
  | cons first log ih => simp [answersAfter, ih]

@[simp]
theorem answers_snoc (respond : List Event → Answer) (log : List Event) (event : Event) :
    answers respond (log ++ [event]) = answers respond log ++ [respond (log ++ [event])] := by
  simp [answers, answersAfter_snoc]

/-- What a machine has emitted over `log`. -/
def emitted (emit : List Event → List Item) (log : List Event) : List Item :=
  (answers emit log).flatten

@[simp]
theorem emitted_snoc (emit : List Event → List Item) (log : List Event) (event : Event) :
    emitted emit (log ++ [event]) = emitted emit log ++ emit (log ++ [event]) := by
  simp [emitted]

/-- A machine, and the events it has received. -/
structure Fed (Event Item : Type*) where
  emit : List Event → List Item
  log : List Event

/-- The first machine has received the items `inputs`, each of the others what the one before it
emitted, and the last emitted `outputs`. -/
def Feeds (item? : Event → Option Item) : List (Fed Event Item) → List Item → List Item → Prop
  | [], inputs, outputs => inputs = outputs
  | machine :: machines, inputs, outputs =>
      machine.log.filterMap item? = inputs ∧
        Feeds item? machines (emitted machine.emit machine.log) outputs

end Flowsql.Library.Cascade
