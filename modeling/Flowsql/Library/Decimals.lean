import Mathlib

/-!
# Decimal digits in a fixed width

A number below a power of ten has one row of digits of that length, and a reader that multiplies by ten and adds each
digit finds the number of the row.
-/

namespace Flowsql.Decimals

/-- The last digits of a number. -/
def digits : Nat → Nat → List Char
  | 0, _ => []
  | width + 1, value => digits width (value / 10) ++ [(value % 10).digitChar]

def digitValue (c : Char) : Nat :=
  c.toNat - '0'.toNat

/-- One more digit behind a number. -/
def addDigit (value : Nat) (c : Char) : Option Nat :=
  if c.isDigit then some (value * 10 + digitValue c) else none

/-- The number of a row of digits. -/
def number (text : List Char) : Option Nat :=
  text.foldlM addDigit 0

@[simp] theorem length_digits (width value : Nat) : (digits width value).length = width := by
  induction width generalizing value with
  | zero => rfl
  | succ width ih => rw [digits, List.length_append, ih, List.length_singleton]

theorem digitChar_digitValue {c : Char} (digit : c.isDigit = true) :
    (digitValue c).digitChar = c ∧ digitValue c < 10 := by
  have bounds : 48 ≤ c.toNat ∧ c.toNat ≤ 57 := Char.isDigit_iff_toNat.mp digit
  have value : digitValue c = c.toNat - 48 := rfl
  have small : digitValue c < 10 := by omega
  refine ⟨Char.toNat_inj.mp ?_, small⟩
  rw [Nat.toNat_digitChar_of_lt_ten small]
  omega

theorem digitValue_digitChar {value : Nat} (small : value < 10) :
    digitValue value.digitChar = value ∧ value.digitChar.isDigit = true := by
  refine ⟨Nat.toNat_digitChar_sub_48_of_lt_ten small, ?_⟩
  rw [Nat.isDigit_digitChar]
  exact decide_eq_true small

theorem isDigit_of_mem_digits {width value : Nat} {c : Char} (member : c ∈ digits width value) :
    c.isDigit = true := by
  induction width generalizing value with
  | zero => exact absurd member (by simp [digits])
  | succ width ih =>
      obtain before | last := List.mem_append.mp member
      · exact ih before
      · rw [List.mem_singleton.mp last]
        exact (digitValue_digitChar (Nat.mod_lt value (by decide))).2

theorem number_concat (text : List Char) (c : Char) :
    number (text ++ [c]) = (number text).bind (addDigit · c) := by
  simp [number, List.foldlM_append]

theorem addDigit_iff {before value : Nat} {c : Char} :
    addDigit before c = some value ↔ before = value / 10 ∧ c = (value % 10).digitChar := by
  rw [addDigit]
  constructor
  · intro added
    split at added
    next digit =>
      obtain ⟨same, small⟩ := digitChar_digitValue digit
      cases added
      constructor
      · omega
      · rw [show (before * 10 + digitValue c) % 10 = digitValue c by omega, same]
    next => exact nomatch added
  · rintro ⟨rfl, rfl⟩
    obtain ⟨same, digit⟩ := digitValue_digitChar (Nat.mod_lt value (by decide : 0 < 10))
    rw [if_pos digit, same]
    exact congrArg some (by omega)

/-- A text is the row of digits of the number that is read from it. -/
theorem number_iff {text : List Char} {value : Nat} :
    number text = some value ↔ text = digits text.length value ∧ value < 10 ^ text.length := by
  induction text using List.reverseRecOn generalizing value with
  | nil =>
      simp [number, digits, eq_comm]
  | append_singleton text c ih =>
      rw [number_concat, Option.bind_eq_some_iff, List.length_append, List.length_singleton, digits]
      constructor
      · rintro ⟨before, read, added⟩
        obtain ⟨rfl, rfl⟩ := addDigit_iff.mp added
        obtain ⟨row, small⟩ := ih.mp read
        exact ⟨by rw [← row], by rw [pow_succ]; omega⟩
      · rintro ⟨rows, small⟩
        obtain ⟨row, last⟩ := List.append_inj' rows rfl
        refine ⟨value / 10, ih.mpr ⟨row, ?_⟩, addDigit_iff.mpr ⟨rfl, List.singleton_inj.mp last⟩⟩
        rw [pow_succ] at small
        omega

theorem isDigit_of_number {text : List Char} {value : Nat} (read : number text = some value) {c : Char}
    (member : c ∈ text) : c.isDigit = true := by
  rw [(number_iff.mp read).1] at member
  exact isDigit_of_mem_digits member

theorem number_digits {width value : Nat} (small : value < 10 ^ width) : number (digits width value) = some value :=
  number_iff.mpr (by simpa using small)

end Flowsql.Decimals
