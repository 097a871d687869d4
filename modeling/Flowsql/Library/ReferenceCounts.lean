import Mathlib

/-!
# Reference counts

A map from keys to 32-bit counters in which a key has an entry exactly as long as it is
in use. `Counts` relates it to the numbers of uses that it stands for.
-/

namespace Flowsql.Library

namespace ReferenceCounts

variable {Key : Type*} [DecidableEq Key]

/-- One use more. -/
def retain (counts : Key → Option UInt32) (key : Key) : Key → Option UInt32 :=
  Function.update counts key (some ((counts key).getD 0 + 1))

/-- One use less; the entry goes with the last one. -/
def release (counts : Key → Option UInt32) (key : Key) : Key → Option UInt32 :=
  match counts key with
  | none => counts
  | some count =>
      if count ≤ 1 then Function.update counts key none
      else Function.update counts key (some (count - 1))

/-- The entries of the keys that are in use this many times. -/
def Counts (counts : Key → Option UInt32) (uses : Key → Nat) : Prop :=
  ∀ key, counts key = if uses key = 0 then none else some (UInt32.ofNat (uses key))

namespace Counts

variable {counts : Key → Option UInt32} {uses : Key → Nat} {key : Key}

omit [DecidableEq Key] in
theorem getD (holds : Counts counts uses) (key : Key) :
    (counts key).getD 0 = UInt32.ofNat (uses key) := by
  rw [holds key]
  split
  · next unused => rw [unused]; rfl
  · rfl

theorem retain (holds : Counts counts uses) (key : Key) :
    Counts (retain counts key) (Function.update uses key (uses key + 1)) := by
  intro other
  by_cases same : other = key
  · subst same
    rw [ReferenceCounts.retain, Function.update_self, Function.update_self, holds.getD,
      if_neg (Nat.succ_ne_zero _), UInt32.ofNat_add]
    rfl
  · rw [ReferenceCounts.retain, Function.update_of_ne same, Function.update_of_ne same]
    exact holds other

theorem release (holds : Counts counts uses) (used : uses key ≠ 0)
    (bounded : uses key < 2 ^ 32) :
    Counts (release counts key) (Function.update uses key (uses key - 1)) := by
  have entry : counts key = some (UInt32.ofNat (uses key)) := by rw [holds key, if_neg used]
  have value : (UInt32.ofNat (uses key)).toNat = uses key := UInt32.toNat_ofNat_of_lt' bounded
  intro other
  rw [ReferenceCounts.release, entry]
  simp only
  by_cases same : other = key
  · subst same
    split
    · next last =>
        rw [UInt32.le_iff_toNat_le, value] at last
        have one : uses other - 1 = 0 := Nat.sub_eq_zero_of_le last
        rw [Function.update_self, Function.update_self, if_pos one]
    · next more =>
        rw [UInt32.le_iff_toNat_le, value] at more
        have notLast : uses other - 1 ≠ 0 := by
          simpa [Nat.sub_eq_zero_iff_le] using more
        rw [Function.update_self, Function.update_self, if_neg notLast]
        have sum : uses other = uses other - 1 + 1 := (Nat.succ_pred used).symm
        congr 1
        conv_lhs => rw [sum, UInt32.ofNat_add]
        exact UInt32.add_sub_cancel _ _
  · split <;> rw [Function.update_of_ne same, Function.update_of_ne same] <;> exact holds other

/-- Uses of a list of keys. -/
theorem retain_all (holds : Counts counts uses) (keys : List Key) :
    Counts (keys.foldl ReferenceCounts.retain counts) fun key => uses key + keys.count key := by
  induction keys generalizing counts uses with
  | nil => exact holds
  | cons first rest ih =>
      have counted := ih (holds.retain first)
      intro key
      rw [List.foldl_cons, counted key]
      have total : Function.update uses first (uses first + 1) key + rest.count key =
          uses key + (first :: rest).count key := by
        by_cases same : key = first
        · subst same
          rw [Function.update_self, List.count_cons_self]
          exact Nat.add_right_comm _ _ _
        · rw [Function.update_of_ne same, List.count_cons_of_ne (Ne.symm same)]
      simp only [total]

/-- A list of keys is given back. -/
theorem release_all {keys : List Key} (holds : Counts counts fun key => uses key + keys.count key)
    (bounded : ∀ key, uses key + keys.count key < 2 ^ 32) :
    Counts (keys.foldl ReferenceCounts.release counts) uses := by
  induction keys generalizing counts with
  | nil => exact holds
  | cons first rest ih =>
      have less : Function.update (fun key => uses key + (first :: rest).count key) first
          (uses first + (first :: rest).count first - 1) = fun key => uses key + rest.count key := by
        funext key
        by_cases same : key = first
        · subst same
          rw [Function.update_self, List.count_cons_self]
          rfl
        · rw [Function.update_of_ne same, List.count_cons_of_ne (Ne.symm same)]
      have used : uses first + (first :: rest).count first ≠ 0 := by
        rw [List.count_cons_self]
        exact Nat.succ_ne_zero _
      have released := @Counts.release _ _ _ _ first holds used (bounded first)
      rw [less] at released
      refine ih released fun key => Nat.lt_of_le_of_lt ?_ (bounded key)
      exact Nat.add_le_add_left (List.count_le_count_cons) _

end Counts

end ReferenceCounts

end Flowsql.Library
