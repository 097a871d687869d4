import Flowsql.Library.BigEndian

/-!
# Codes that end by themselves

Values are encoded as lists, one behind the other and without separators. A code is unambiguous when what
follows an encoded value never changes how it is read: no encoded value starts another one. Some of a value
may be left out of its code, so a code tells a view of its values.
-/

namespace Flowsql.Library.Codes

variable {α β γ : Type}

/-- The view of an encoded value and what follows it are known from the whole. -/
def Unambiguous (view : α → γ) (encode : α → List β) : Prop :=
  ∀ ⦃left right : α⦄ ⦃rest other : List β⦄,
    encode left ++ rest = encode right ++ other → view left = view right ∧ rest = other

namespace Unambiguous

variable {view : α → γ} {encode : α → List β}

/-- As many values on both sides. -/
theorem flatMap (unambiguous : Unambiguous view encode) {lefts rights : List α}
    (length : lefts.length = rights.length) {rest other : List β}
    (same : lefts.flatMap encode ++ rest = rights.flatMap encode ++ other) :
    lefts.map view = rights.map view ∧ rest = other := by
  induction lefts generalizing rights with
  | nil =>
      obtain rfl := List.length_eq_zero_iff.mp length.symm
      exact ⟨rfl, same⟩
  | cons left lefts ih =>
      cases rights with
      | nil => cases length
      | cons right rights =>
          rw [List.flatMap_cons, List.flatMap_cons, List.append_assoc, List.append_assoc] at same
          obtain ⟨first, same⟩ := unambiguous same
          obtain ⟨firsts, rests⟩ := ih (Nat.succ.inj length) same
          exact ⟨by rw [List.map_cons, List.map_cons, first, firsts], rests⟩

end Unambiguous

/-! ## Numbers and counted lists -/

/-- A number that fits into its field is known from it. -/
theorem put_append_inj {left right size : Nat} {rest other : List UInt8} (leftFits : left < 256 ^ size)
    (rightFits : right < 256 ^ size)
    (same : BigEndian.put left size ++ rest = BigEndian.put right size ++ other) :
    left = right ∧ rest = other := by
  have lengths : (BigEndian.put left size).length = (BigEndian.put right size).length := by
    rw [BigEndian.length_put, BigEndian.length_put]
  obtain ⟨numbers, rests⟩ := List.append_inj same lengths
  have values := congrArg BigEndian.get numbers
  rw [BigEndian.get_put, BigEndian.get_put, Nat.mod_eq_of_lt leftFits, Nat.mod_eq_of_lt rightFits]
    at values
  exact ⟨values, rests⟩

/-- The count of some values, and the values. -/
def counted (size : Nat) (encode : α → List UInt8) (values : List α) : List UInt8 :=
  BigEndian.put values.length size ++ values.flatMap encode

/-- A counted list ends by itself when its count fits. -/
theorem Unambiguous.counted {view : α → γ} {encode : α → List UInt8}
    (unambiguous : Unambiguous view encode) {size : Nat} {lefts rights : List α}
    (leftFits : lefts.length < 256 ^ size) (rightFits : rights.length < 256 ^ size)
    {rest other : List UInt8}
    (same : Codes.counted size encode lefts ++ rest = Codes.counted size encode rights ++ other) :
    lefts.map view = rights.map view ∧ rest = other := by
  rw [Codes.counted, Codes.counted, List.append_assoc, List.append_assoc] at same
  obtain ⟨lengths, same⟩ := put_append_inj leftFits rightFits same
  exact unambiguous.flatMap lengths same

end Flowsql.Library.Codes
