import Mathlib

/-!
# Contiguous interval lists

Half-open intervals of natural numbers, listed so that each one starts where its
predecessor ends. Such a list covers every position between its two ends exactly
once, so it can be read as a function from positions to contents.
-/

namespace Flowsql.Library

/-- Values that occupy the positions from `first` up to but not including `last`. -/
class Interval (ι : Type*) where
  first : ι → Nat
  last : ι → Nat

open Flowsql.Library.Interval

variable {ι β : Type*} [Interval ι]

/-- The position lies in the interval. -/
def covers (position : Nat) (item : ι) : Bool :=
  decide (first item ≤ position) && decide (position < last item)

theorem covers_iff {position : Nat} {item : ι} :
    covers position item = true ↔ first item ≤ position ∧ position < last item := by
  simp [covers]

/-- The intervals follow each other without gaps from `lo` to `hi`. -/
def Contiguous (lo : Nat) : List ι → Nat → Prop
  | [], hi => lo = hi
  | item :: rest, hi => first item = lo ∧ lo ≤ last item ∧ Contiguous (last item) rest hi

namespace Contiguous

variable {lo hi middle : Nat} {items others : List ι} {item : ι}

@[simp] theorem nil_iff : Contiguous lo ([] : List ι) hi ↔ lo = hi := Iff.rfl

theorem le (contiguous : Contiguous lo items hi) : lo ≤ hi := by
  induction items generalizing lo with
  | nil => exact Nat.le_of_eq contiguous
  | cons item rest ih => exact Nat.le_trans contiguous.2.1 (ih contiguous.2.2)

theorem append (left : Contiguous lo items middle) (right : Contiguous middle others hi) :
    Contiguous lo (items ++ others) hi := by
  induction items generalizing lo with
  | nil =>
      rw [nil_iff] at left
      subst left
      exact right
  | cons item rest ih => exact ⟨left.1, left.2.1, ih left.2.2⟩

/-- One more interval at the end. -/
theorem concat (contiguous : Contiguous lo items (first item)) (ordered : first item ≤ last item) :
    Contiguous lo (items ++ [item]) (last item) :=
  contiguous.append ⟨rfl, ordered, rfl⟩

/-- Every interval of the list lies between the two ends. -/
theorem bounds (contiguous : Contiguous lo items hi) (member : item ∈ items) :
    lo ≤ first item ∧ first item ≤ last item ∧ last item ≤ hi := by
  induction items generalizing lo with
  | nil => exact absurd member List.not_mem_nil
  | cons head rest ih =>
      obtain ⟨start, ordered, tail⟩ := contiguous
      rcases List.mem_cons.mp member with rfl | later
      · exact ⟨Nat.le_of_eq start.symm, start ▸ ordered, tail.le⟩
      · obtain ⟨after, inOrder, before⟩ := ih tail later
        exact ⟨Nat.le_trans ordered after, inOrder, before⟩

/-- A position between the ends lies in exactly one interval, any other in none. -/
theorem countP_covers (contiguous : Contiguous lo items hi) (position : Nat) :
    items.countP (covers position) = if lo ≤ position ∧ position < hi then 1 else 0 := by
  induction items generalizing lo with
  | nil =>
      rw [nil_iff] at contiguous
      rw [List.countP_nil, if_neg (by omega)]
  | cons item rest ih =>
      obtain ⟨start, ordered, tail⟩ := contiguous
      have ordered' := tail.le
      rw [List.countP_cons, ih tail]
      simp only [covers_iff, start]
      split_ifs <;> omega

end Contiguous

/-! ## Reading a list position by position -/

/-- What the interval at the position holds there, if any interval covers it. -/
def lookup (content : ι → Nat → β) (items : List ι) (position : Nat) : Option β :=
  (items.find? (covers position)).map (content · position)

section Lookup

variable {content : ι → Nat → β} {lo hi position : Nat} {items others : List ι} {item : ι}

@[simp] theorem lookup_nil : lookup content ([] : List ι) position = none := rfl

theorem lookup_cons :
    lookup content (item :: items) position =
      if first item ≤ position ∧ position < last item then some (content item position)
      else lookup content items position := by
  unfold lookup
  by_cases covered : covers position item = true
  · rw [List.find?_cons_of_pos covered, if_pos (covers_iff.mp covered), Option.map_some]
  · rw [List.find?_cons_of_neg covered, if_neg (fun inside => covered (covers_iff.mpr inside))]

theorem lookup_append :
    lookup content (items ++ others) position =
      (lookup content items position).or (lookup content others position) := by
  unfold lookup
  rw [List.find?_append]
  cases List.find? (covers position) items <;> rfl

/-- Nothing is found outside the ends of a contiguous list. -/
theorem lookup_eq_none (contiguous : Contiguous lo items hi)
    (outside : position < lo ∨ hi ≤ position) : lookup content items position = none := by
  unfold lookup
  rw [Option.map_eq_none_iff, List.find?_eq_none]
  intro item member covered
  have bounds := contiguous.bounds member
  have inside := covers_iff.mp covered
  omega

/-- Something is found between the ends of a contiguous list. -/
theorem lookup_isSome (contiguous : Contiguous lo items hi) (after : lo ≤ position)
    (before : position < hi) : (lookup content items position).isSome = true := by
  induction items generalizing lo with
  | nil =>
      rw [Contiguous.nil_iff] at contiguous
      omega
  | cons item rest ih =>
      obtain ⟨start, _, tail⟩ := contiguous
      rw [lookup_cons]
      by_cases inside : first item ≤ position ∧ position < last item
      · rw [if_pos inside, Option.isSome_some]
      · rw [if_neg inside]
        exact ih tail (by omega)

/-- The interval that covers a position is the only one. -/
theorem lookup_of_mem (contiguous : Contiguous lo items hi) (member : item ∈ items)
    (after : first item ≤ position) (before : position < last item) :
    lookup content items position = some (content item position) := by
  induction items generalizing lo with
  | nil => exact absurd member List.not_mem_nil
  | cons head rest ih =>
      obtain ⟨_, _, tail⟩ := contiguous
      rw [lookup_cons]
      rcases List.mem_cons.mp member with rfl | later
      · rw [if_pos ⟨after, before⟩]
      · have bounds := tail.bounds later
        rw [if_neg (by omega)]
        exact ih tail later

/-- What is found comes from an interval of the list. -/
theorem exists_of_lookup_eq_some {value : β} (found : lookup content items position = some value) :
    ∃ item ∈ items, first item ≤ position ∧ position < last item ∧
      content item position = value := by
  unfold lookup at found
  obtain ⟨item, foundItem, contentEq⟩ := Option.map_eq_some_iff.mp found
  have covered := List.find?_some foundItem
  obtain ⟨after, before⟩ := covers_iff.mp covered
  exact ⟨item, List.mem_of_find?_eq_some foundItem, after, before, contentEq⟩

end Lookup

end Flowsql.Library
