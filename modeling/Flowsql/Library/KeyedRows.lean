import Mathlib

/-!
# Rows with a key

Lists of rows in which each key occurs once.
-/

namespace Flowsql.Library

variable {Row Key : Type*} [DecidableEq Key] {keyOf : Row → Key} {rows : List Row} {row : Row}

theorem filter_key_eq_nil (absent : ∀ other ∈ rows, keyOf other ≠ keyOf row) :
    rows.filter (fun other => keyOf other = keyOf row) = [] := by
  refine List.filter_eq_nil_iff.mpr fun other member => ?_
  simpa using absent other member

/-- The rows with the key of one of them are that row. -/
theorem filter_key_eq_singleton (unique : (rows.map keyOf).Nodup) (member : row ∈ rows) :
    rows.filter (fun other => keyOf other = keyOf row) = [row] := by
  induction rows with
  | nil => exact absurd member List.not_mem_nil
  | cons first rest ih =>
      rw [List.map_cons, List.nodup_cons] at unique
      rcases List.mem_cons.mp member with same | inside
      · subst same
        rw [List.filter_cons_of_pos (by simp)]
        congr 1
        exact filter_key_eq_nil fun other later equal =>
          unique.1 (List.mem_map.mpr ⟨other, later, equal⟩)
      · have different : keyOf first ≠ keyOf row := fun equal =>
          unique.1 (List.mem_map.mpr ⟨row, inside, equal.symm⟩)
        rw [List.filter_cons_of_neg (by simpa using different)]
        exact ih unique.2 inside

/-- What the rows weigh without the one that has this key. -/
theorem sum_filter_key_ne (unique : (rows.map keyOf).Nodup) (member : row ∈ rows)
    (weight : Row → Nat) :
    ((rows.filter (fun other => keyOf other ≠ keyOf row)).map weight).sum + weight row =
      (rows.map weight).sum := by
  induction rows with
  | nil => exact absurd member List.not_mem_nil
  | cons first rest ih =>
      rw [List.map_cons, List.nodup_cons] at unique
      rcases List.mem_cons.mp member with same | inside
      · subst same
        have others : rest.filter (fun other => keyOf other ≠ keyOf row) = rest := by
          refine List.filter_eq_self.mpr fun other later => ?_
          simp only [ne_eq, decide_eq_true_eq]
          exact fun equal => unique.1 (List.mem_map.mpr ⟨other, later, equal⟩)
        rw [List.filter_cons_of_neg (by simp), others, List.map_cons, List.sum_cons, Nat.add_comm]
      · have different : keyOf first ≠ keyOf row := fun equal =>
          unique.1 (List.mem_map.mpr ⟨row, inside, equal.symm⟩)
        rw [List.filter_cons_of_pos (by simpa using different), List.map_cons, List.sum_cons,
          List.map_cons, List.sum_cons, Nat.add_assoc, ih unique.2 inside]

theorem length_filter_key_ne (unique : (rows.map keyOf).Nodup) (member : row ∈ rows) :
    (rows.filter (fun other => keyOf other ≠ keyOf row)).length + 1 = rows.length := by
  have counted := sum_filter_key_ne unique member fun _ => 1
  simpa only [List.map_const', List.sum_replicate_nat, Nat.mul_one] using counted

end Flowsql.Library
