import Mathlib

/-!
# Bounded first-in first-out queues

The abstract meaning of a bounded queue: a list of the stored items, oldest
first, whose length never exceeds the capacity.
-/

namespace Flowsql.Library

/-- Stored items, oldest first. -/
structure BoundedFifo (α : Type*) (capacity : Nat) where
  items : List α
  bounded : items.length ≤ capacity

namespace BoundedFifo

variable {α : Type*} {capacity : Nat}

/-- The queue without items. -/
def empty : BoundedFifo α capacity := ⟨[], Nat.zero_le _⟩

/-- Store an item behind all others, unless the queue is full. -/
def push? (queue : BoundedFifo α capacity) (item : α) : Option (BoundedFifo α capacity) :=
  if room : queue.items.length < capacity then
    some ⟨queue.items ++ [item], by simpa using Nat.succ_le_of_lt room⟩
  else
    none

/-- Take the oldest item, unless nothing is stored. -/
def pop? (queue : BoundedFifo α capacity) : Option (α × BoundedFifo α capacity) :=
  match queue with
  | ⟨[], _⟩ => none
  | ⟨item :: rest, bounded⟩ => some (item, ⟨rest, Nat.le_of_succ_le bounded⟩)

theorem push?_of_room (queue : BoundedFifo α capacity) (item : α)
    (room : queue.items.length < capacity) :
    ∃ next, queue.push? item = some next ∧ next.items = queue.items ++ [item] := by
  simp [push?, room]

theorem push?_of_full (queue : BoundedFifo α capacity) (item : α)
    (full : queue.items.length = capacity) : queue.push? item = none := by
  simp [push?, full]

theorem pop?_of_nil (queue : BoundedFifo α capacity) (nil : queue.items = []) :
    queue.pop? = none := by
  cases queue
  subst nil
  rfl

theorem pop?_of_cons (queue : BoundedFifo α capacity) {item : α} {rest : List α}
    (cons : queue.items = item :: rest) :
    ∃ next, queue.pop? = some (item, next) ∧ next.items = rest := by
  cases queue
  subst cons
  exact ⟨_, rfl, rfl⟩

end BoundedFifo

end Flowsql.Library
