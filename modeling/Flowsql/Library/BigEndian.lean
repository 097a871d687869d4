import Mathlib

/-!
# Numbers in big-endian order

Numbers are put into a fixed number of bytes, the highest first. Reading what was put gives the number back.
-/

namespace Flowsql.Library.BigEndian

/-- The last `size` bytes of a number, the highest first. -/
def put (value : Nat) : Nat → List UInt8
  | 0 => []
  | size + 1 => UInt8.ofNat (value / 256 ^ size) :: put value size

def get (bytes : List UInt8) : Nat :=
  bytes.foldl (fun value byte => value * 256 + byte.toNat) 0

@[simp]
theorem length_put (value size : Nat) : (put value size).length = size := by
  induction size with
  | zero => rfl
  | succ size ih => simp [put, ih]

theorem foldl_start (bytes : List UInt8) (start : Nat) :
    bytes.foldl (fun value byte => value * 256 + byte.toNat) start =
      start * 256 ^ bytes.length + get bytes := by
  induction bytes generalizing start with
  | nil => simp [get]
  | cons byte bytes ih =>
      simp only [get, List.foldl_cons, List.length_cons]
      rw [ih, ih (0 * 256 + byte.toNat)]
      ring

theorem get_cons (byte : UInt8) (bytes : List UInt8) :
    get (byte :: bytes) = byte.toNat * 256 ^ bytes.length + get bytes := by
  simp only [get, List.foldl_cons]
  rw [foldl_start]
  simp [get]

theorem get_lt (bytes : List UInt8) : get bytes < 256 ^ bytes.length := by
  induction bytes with
  | nil => simp [get]
  | cons byte bytes ih =>
      have small : byte.toNat + 1 ≤ 256 := byte.toNat_lt
      have scaled := Nat.mul_le_mul_right (256 ^ bytes.length) small
      rw [get_cons, List.length_cons, Nat.pow_succ]
      rw [Nat.add_mul, Nat.one_mul] at scaled
      omega

theorem mod_pow_succ (value size : Nat) :
    value % 256 ^ (size + 1) = value % 256 ^ size + 256 ^ size * (value / 256 ^ size % 256) := by
  rw [Nat.pow_succ, Nat.mod_mul]

/-- Reading what was put. -/
theorem get_put (value size : Nat) : get (put value size) = value % 256 ^ size := by
  induction size with
  | zero => simp [put, get, Nat.mod_one]
  | succ size ih =>
      have digit : (UInt8.ofNat (value / 256 ^ size)).toNat = value / 256 ^ size % 256 :=
        UInt8.toNat_ofNat'
      rw [put, get_cons, length_put, ih, digit, mod_pow_succ]
      ring

end Flowsql.Library.BigEndian
