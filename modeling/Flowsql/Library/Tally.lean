import Mathlib

/-!
# Tallies of threads

How many threads stand at points with a given label, when one thread goes on at a time.
-/

namespace Flowsql.Library

variable {Thread Point Label : Type*} [Fintype Thread] [DecidableEq Label]
  (labelOf : Point → Option Label)

/-- The number of threads at points with this label. -/
def tally (threads : Thread → Point) (label : Label) : Nat :=
  ∑ thread, if labelOf (threads thread) = some label then 1 else 0

variable {labelOf} {threads : Thread → Point} {label : Label}

/-- One thread goes on. -/
theorem tally_update [DecidableEq Thread] (thread : Thread) (point : Point) (label : Label) :
    tally labelOf (Function.update threads thread point) label +
        (if labelOf (threads thread) = some label then 1 else 0) =
      tally labelOf threads label + if labelOf point = some label then 1 else 0 := by
  unfold tally
  rw [← Finset.add_sum_erase _ _ (Finset.mem_univ thread),
    ← Finset.add_sum_erase Finset.univ (fun thread => if labelOf (threads thread) = some label then
      1 else 0) (Finset.mem_univ thread), Function.update_self]
  have others : ∑ other ∈ Finset.univ.erase thread,
      (if labelOf (Function.update threads thread point other) = some label then 1 else 0) =
      ∑ other ∈ Finset.univ.erase thread,
        if labelOf (threads other) = some label then 1 else 0 := by
    refine Finset.sum_congr rfl fun other member => ?_
    rw [Function.update_of_ne (Finset.ne_of_mem_erase member)]
  rw [others]
  omega

theorem exists_of_tally_pos (positive : 0 < tally labelOf threads label) :
    ∃ thread, labelOf (threads thread) = some label := by
  by_contra none
  rw [not_exists] at none
  refine absurd positive (Nat.not_lt_of_ge (Nat.le_of_eq (Finset.sum_eq_zero fun thread _ => ?_)))
  rw [if_neg (none thread)]

theorem tally_pos (thread : Thread) (here : labelOf (threads thread) = some label) :
    0 < tally labelOf threads label := by
  unfold tally
  refine Nat.lt_of_lt_of_le Nat.one_pos ?_
  have single := Finset.single_le_sum
    (f := fun thread => if labelOf (threads thread) = some label then 1 else 0)
    (fun _ _ => Nat.zero_le _) (Finset.mem_univ thread)
  simpa only [if_pos here] using single

/-- A label that one thread has at most. -/
theorem eq_of_tally_le_one [DecidableEq Thread] {first second : Thread}
    (one : tally labelOf threads label ≤ 1) (left : labelOf (threads first) = some label)
    (right : labelOf (threads second) = some label) : first = second := by
  by_contra different
  have split := Finset.add_sum_erase Finset.univ
    (fun thread => if labelOf (threads thread) = some label then 1 else 0) (Finset.mem_univ first)
  have rest := Finset.single_le_sum
    (f := fun thread => if labelOf (threads thread) = some label then 1 else 0)
    (s := Finset.univ.erase first) (fun _ _ => Nat.zero_le _)
    (Finset.mem_erase.mpr ⟨Ne.symm different, Finset.mem_univ second⟩)
  simp only [if_pos left, if_pos right] at split rest
  unfold tally at one
  omega

end Flowsql.Library
