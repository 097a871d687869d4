import Flowsql.Library.BigEndian

/-!
# Runs that read a buffer

A run reads bytes at positions that nothing checks for it. It ends with a value, stops with a failure of its
own, faults at a read outside of the buffer, or is cut off after the turns it was given.
-/

namespace Flowsql.Library.CheckedReads

inductive Stop (ε : Type) where
  | failure (error : ε)
  | fault
  | cutOff
  deriving DecidableEq

abbrev Run (ε α : Type) := Except (Stop ε) α

section

variable {ε α β : Type}

def fail (error : ε) : Run ε α :=
  .error (.failure error)

def check (wrong : Prop) [Decidable wrong] (error : ε) : Run ε Unit :=
  if wrong then fail error else .ok ()

/-- The answer, or a failure. -/
def need (answer : Option α) (error : ε) : Run ε α :=
  match answer with
  | some value => .ok value
  | none => fail error

/-- An element of an array without a check. -/
def element (array : List α) (index : Nat) : Run ε α :=
  match array[index]? with
  | some value => .ok value
  | none => .error .fault

/-- The number in some bytes, the highest first. -/
def fieldAt (bytes : List UInt8) (offset size : Nat) : Nat :=
  BigEndian.get ((bytes.drop offset).take size)

/-- Reads a number without a check. -/
def load (bytes : List UInt8) (offset size : Nat) : Run ε Nat :=
  if offset + size ≤ bytes.length then .ok (fieldAt bytes offset size) else .error .fault

/-- Where a header of so many bytes starts, if it is inside of the buffer. -/
def headerAt (bytes : List UInt8) (offset size : Nat) : Option Nat :=
  if offset ≤ bytes.length ∧ size ≤ bytes.length - offset then some offset else none

/-- The run does not fault, is not cut off, and a value that it returns has a property. -/
def Meets (run : Run ε α) (post : α → Prop) : Prop :=
  match run with
  | .ok value => post value
  | .error (.failure _) => True
  | .error .fault => False
  | .error .cutOff => False

/-! ## Rules -/

theorem fieldAt_lt (bytes : List UInt8) (offset size : Nat) :
    fieldAt bytes offset size < 256 ^ size :=
  Nat.lt_of_lt_of_le (BigEndian.get_lt _)
    (Nat.pow_le_pow_right (by decide) (List.length_take_le _ _))

theorem headerAt_eq_some {bytes : List UInt8} {offset size found : Nat} :
    headerAt bytes offset size = some found ↔ found = offset ∧ offset + size ≤ bytes.length := by
  unfold headerAt
  constructor
  · intro present
    split at present
    · cases present
      exact ⟨rfl, by omega⟩
    · cases present
  · rintro ⟨rfl, inside⟩
    rw [if_pos ⟨by omega, by omega⟩]

namespace Meets

variable {post : α → Prop} {run : Run ε α}

theorem of_ok (meets : Meets run post) {value : α} (ran : run = .ok value) : post value := by
  subst ran
  exact meets

theorem pure {value : α} (holds : post value) : Meets (Pure.pure value : Run ε α) post := holds

theorem imp (meets : Meets run post) {weaker : α → Prop} (implies : ∀ value, post value → weaker value) :
    Meets run weaker := by
  match run, meets with
  | .ok value, meets => exact implies value meets
  | .error (.failure _), _ => trivial

/-- A run after another, which knows what the first returned. -/
theorem bind {next : α → Run ε β} {after : β → Prop} (meets : Meets run post)
    (rest : ∀ value, run = .ok value → post value → Meets (next value) after) :
    Meets (run >>= next) after := by
  match run, meets, rest with
  | .ok value, meets, rest => exact rest value rfl meets
  | .error (.failure _), _, _ => trivial

theorem check (wrong : Prop) [Decidable wrong] (error : ε) :
    Meets (check wrong error) fun _ => ¬ wrong := by
  unfold CheckedReads.check
  split
  · trivial
  · exact ‹¬ wrong›

theorem need (answer : Option α) (error : ε) : Meets (need answer error) (answer = some ·) := by
  cases answer with
  | none => trivial
  | some value => rfl

theorem element {array : List α} {index : Nat} (below : index < array.length) :
    Meets (element array index : Run ε α) (array[index]? = some ·) := by
  unfold CheckedReads.element
  rw [List.getElem?_eq_getElem below]
  rfl

theorem load {bytes : List UInt8} {offset size : Nat} (inside : offset + size ≤ bytes.length) :
    Meets (load bytes offset size : Run ε Nat) (· = fieldAt bytes offset size) := by
  unfold CheckedReads.load
  rw [if_pos inside]
  rfl

/-- A header that is found lies inside. -/
theorem header (bytes : List UInt8) (offset size : Nat) (error : ε) :
    Meets (CheckedReads.need (headerAt bytes offset size) error) fun found =>
      found = offset ∧ offset + size ≤ bytes.length :=
  (Meets.need _ error).imp fun _ present => headerAt_eq_some.mp present

end Meets

end

end Flowsql.Library.CheckedReads
