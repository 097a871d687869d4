import Mathlib
import Flowsql.Library.UnambiguousCodes

/-!
# Identities of models

The identity of a model is one binary text: its namespace, dataset and metric with their lengths, its kind,
and its business keys with their count and types. The state of every series is stored under it.
-/

namespace Flowsql.Baseliner.Identity

open Flowsql.Library Flowsql.Library.Codes

/-- The bytes of a text, whose size fits into `size_t`. -/
abbrev Text :=
  { bytes : List UInt8 // bytes.length < 256 ^ 8 }

/-- The bits of a `double`. -/
structure Double where
  bits : UInt64
  deriving DecidableEq

namespace Double

def isFinite (value : Double) : Bool :=
  value.bits.toNat / 2 ^ 52 % 2 ^ 11 ≠ 2 ^ 11 - 1

/-- Both zeros are equal to `0`. -/
def isZero (value : Double) : Bool :=
  value.bits.toNat % 2 ^ 63 = 0

end Double

inductive KeyValue where
  | bool (value : Bool)
  | int64 (value : Int64)
  | uint64 (value : UInt64)
  | double (value : Double)
  | text (value : Text)
  deriving DecidableEq

structure ModelIdentity where
  sourceNamespace : Text
  dataset : Text
  metric : Text
  /-- The code of the task kind. -/
  kind : Int
  keys : List KeyValue

def kMaxFields : Nat := 256

def appendUInt (value : Nat) : List UInt8 :=
  BigEndian.put value 8

def appendText (text : Text) : List UInt8 :=
  appendUInt text.1.length ++ text.1

/-- The value without the sign of a zero. -/
def normalized (value : Double) : Double :=
  if value.isZero then ⟨0⟩ else value

/-- One key behind the index of its type. -/
def appendKey : KeyValue → List UInt8
  | .bool value => [0, if value then 1 else 0]
  | .int64 value => 1 :: appendUInt value.toUInt64.toNat
  | .uint64 value => 2 :: appendUInt value.toNat
  | .double value => 3 :: appendUInt (normalized value).bits.toNat
  | .text value => 4 :: appendText value

def KeyValue.isNonfinite : KeyValue → Bool
  | .double value => !value.isFinite
  | _ => false

/-- `EncodeIdentity`, without an answer where it fails. -/
def encodeIdentity (input : ModelIdentity) : Option (List UInt8) :=
  if input.sourceNamespace.1 = [] ∨ input.dataset.1 = [] ∨ input.metric.1 = [] ∨ input.keys = [] ∨
      kMaxFields < input.keys.length ∨ input.kind < 0 ∨ 2 < input.kind then none
  else if input.keys.any KeyValue.isNonfinite then none
  else some (1 :: (appendText input.sourceNamespace ++ (appendText input.dataset ++
    (appendText input.metric ++ (UInt8.ofNat input.kind.toNat :: (appendUInt input.keys.length ++
      input.keys.flatMap appendKey))))))

/-! ## Keys that are encoded alike -/

/-- Keys are the same, or both zeros of `double`. -/
def SameKey (left right : KeyValue) : Prop :=
  left = right ∨ ∃ first second, left = .double first ∧ right = .double second ∧
    first.isZero = true ∧ second.isZero = true

/-- A key whose zero has no sign. -/
def normalizedKey : KeyValue → KeyValue
  | .double value => .double (normalized value)
  | other => other

theorem isZero_normalized (value : Double) : (normalized value).isZero = value.isZero := by
  unfold normalized
  split
  · rename_i zero
    rw [zero]
    decide
  · rfl

theorem normalizedKey_eq_iff {left right : KeyValue} :
    normalizedKey left = normalizedKey right ↔ SameKey left right := by
  constructor
  · intro same
    cases left with
    | double first =>
        cases right with
        | double second =>
            have values : normalized first = normalized second := KeyValue.double.inj same
            have zeros : first.isZero = second.isZero := by
              rw [← isZero_normalized first, values, isZero_normalized]
            by_cases zero : first.isZero = true
            · exact .inr ⟨first, second, rfl, rfl, zero, zeros ▸ zero⟩
            · rw [normalized, normalized, if_neg zero, if_neg (zeros ▸ zero)] at values
              exact .inl (congrArg KeyValue.double values)
        | bool _ | int64 _ | uint64 _ | text _ => cases same
    | bool _ | int64 _ | uint64 _ | text _ =>
        cases right with
        | double second => cases same
        | bool _ | int64 _ | uint64 _ | text _ => exact .inl same
  · rintro (rfl | ⟨first, second, rfl, rfl, firstZero, secondZero⟩)
    · rfl
    · rw [normalizedKey, normalizedKey, normalized, normalized, if_pos firstZero, if_pos secondZero]

theorem appendKey_normalizedKey (key : KeyValue) : appendKey (normalizedKey key) = appendKey key := by
  cases key with
  | double value =>
      have again : normalized (normalized value) = normalized value := by
        rw [normalized, isZero_normalized]
        unfold normalized
        split <;> rfl
      exact congrArg (fun value => 3 :: appendUInt value.bits.toNat) again
  | bool _ | int64 _ | uint64 _ | text _ => rfl

/-! ## What the bytes tell -/

theorem unambiguous_appendText : Unambiguous id appendText := by
  intro left right rest other same
  rw [appendText, appendText, List.append_assoc, List.append_assoc] at same
  obtain ⟨lengths, same⟩ := put_append_inj left.2 right.2 same
  obtain ⟨bytes, rests⟩ := List.append_inj same lengths
  exact ⟨Subtype.ext bytes, rests⟩

/-- All 64 bits of a value are written. -/
theorem unambiguous_appendUInt {left right : UInt64} {rest other : List UInt8}
    (same : appendUInt left.toNat ++ rest = appendUInt right.toNat ++ other) :
    left = right ∧ rest = other := by
  obtain ⟨values, rests⟩ := put_append_inj left.toNat_lt right.toNat_lt same
  exact ⟨UInt64.toNat_inj.mp values, rests⟩

/-- The index of the type comes first, so values of two types never start alike. -/
theorem unambiguous_appendKey : Unambiguous normalizedKey appendKey := by
  intro left right rest other same
  cases left <;> cases right <;> simp only [appendKey, List.cons_append, List.cons.injEq] at same
  all_goals first
    | exact absurd same.1 (by decide)
    | skip
  case bool.bool first second =>
      obtain ⟨-, values, rests⟩ := same
      cases first <;> cases second <;> first
        | exact ⟨rfl, rests⟩
        | exact absurd values (by decide)
  case int64.int64 first second =>
      obtain ⟨values, rests⟩ := unambiguous_appendUInt same.2
      have numbers : first = second := congrArg Int64.ofUInt64 values
      exact ⟨congrArg KeyValue.int64 numbers, rests⟩
  case uint64.uint64 first second =>
      obtain ⟨values, rests⟩ := unambiguous_appendUInt same.2
      exact ⟨congrArg KeyValue.uint64 values, rests⟩
  case double.double first second =>
      obtain ⟨values, rests⟩ := unambiguous_appendUInt same.2
      have bits : normalized first = normalized second := congrArg Double.mk values
      exact ⟨congrArg KeyValue.double bits, rests⟩
  case text.text first second =>
      obtain ⟨values, rests⟩ := unambiguous_appendText same.2
      exact ⟨congrArg KeyValue.text values, rests⟩

/-! ## Identities -/

/-- Identities differ at most in the signs of zeros. -/
structure SameIdentity (left right : ModelIdentity) : Prop where
  sourceNamespace : left.sourceNamespace = right.sourceNamespace
  dataset : left.dataset = right.dataset
  metric : left.metric = right.metric
  kind : left.kind = right.kind
  keys : List.Forall₂ SameKey left.keys right.keys

/-- What an accepted input satisfies, and its identity. -/
theorem of_encodeIdentity {input : ModelIdentity} {result : List UInt8}
    (encoded : encodeIdentity input = some result) :
    (input.keys.length ≤ kMaxFields ∧ 0 ≤ input.kind ∧ input.kind ≤ 2) ∧
      result = 1 :: (appendText input.sourceNamespace ++ (appendText input.dataset ++
        (appendText input.metric ++ (UInt8.ofNat input.kind.toNat ::
          (counted 8 appendKey input.keys))))) := by
  unfold encodeIdentity at encoded
  split at encoded
  · cases encoded
  · rename_i valid
    split at encoded
    · cases encoded
    · cases encoded
      refine ⟨?_, rfl⟩
      push Not at valid
      exact ⟨valid.2.2.2.2.1, valid.2.2.2.2.2.1, valid.2.2.2.2.2.2⟩

/-- Keys that only differ in signs of zeros are encoded alike. -/
theorem flatMap_appendKey {lefts rights : List KeyValue} (same : List.Forall₂ SameKey lefts rights) :
    lefts.flatMap appendKey = rights.flatMap appendKey := by
  induction same with
  | nil => rfl
  | cons same _ ih =>
      rw [List.flatMap_cons, List.flatMap_cons, ih, ← appendKey_normalizedKey,
        normalizedKey_eq_iff.mpr same, appendKey_normalizedKey]

theorem forall₂_sameKey {lefts rights : List KeyValue}
    (same : lefts.map normalizedKey = rights.map normalizedKey) : List.Forall₂ SameKey lefts rights := by
  rw [← List.forall₂_eq_eq_eq, List.forall₂_map_left_iff, List.forall₂_map_right_iff] at same
  exact same.imp fun _ _ => normalizedKey_eq_iff.mp

/-- Accepted inputs have the same identity exactly when they differ at most in the signs of zeros. -/
theorem encodeIdentity_inj {left right : ModelIdentity} {first second : List UInt8}
    (leftEncoded : encodeIdentity left = some first) (rightEncoded : encodeIdentity right = some second) :
    first = second ↔ SameIdentity left right := by
  obtain ⟨⟨leftKeys, leftLow, leftHigh⟩, rfl⟩ := of_encodeIdentity leftEncoded
  obtain ⟨⟨rightKeys, rightLow, rightHigh⟩, rfl⟩ := of_encodeIdentity rightEncoded
  have small : kMaxFields < 256 ^ 8 := by decide
  constructor
  · intro same
    obtain ⟨sourceNamespace, same⟩ := unambiguous_appendText (List.cons.inj same).2
    obtain ⟨dataset, same⟩ := unambiguous_appendText same
    obtain ⟨metric, same⟩ := unambiguous_appendText same
    obtain ⟨kind, same⟩ := List.cons.inj same
    have kinds : left.kind = right.kind := by
      have codes := congrArg UInt8.toNat kind
      rw [UInt8.toNat_ofNat', UInt8.toNat_ofNat'] at codes
      omega
    have leftFits : left.keys.length < 256 ^ 8 := by omega
    have rightFits : right.keys.length < 256 ^ 8 := by omega
    obtain ⟨keys, -⟩ :=
      unambiguous_appendKey.counted leftFits rightFits (congrArg (· ++ ([] : List UInt8)) same)
    exact ⟨sourceNamespace, dataset, metric, kinds, forall₂_sameKey keys⟩
  · rintro ⟨sourceNamespace, dataset, metric, kind, keys⟩
    rw [sourceNamespace, dataset, metric, kind, counted, counted, flatMap_appendKey keys,
      keys.length_eq]

/-- Two inputs whose only difference is the sign of a zero. -/
def zeroIdentity (sign : UInt64) : ModelIdentity where
  sourceNamespace := ⟨[110], by decide⟩
  dataset := ⟨[100], by decide⟩
  metric := ⟨[109], by decide⟩
  kind := 0
  keys := [.text ⟨[0, 1], by decide⟩, .double ⟨sign⟩]

theorem zeros_encoded_alike :
    ∃ first second, encodeIdentity (zeroIdentity 0) = some first ∧
      encodeIdentity (zeroIdentity (2 ^ 63)) = some second ∧
      (first = second ↔ SameIdentity (zeroIdentity 0) (zeroIdentity (2 ^ 63))) := by
  obtain ⟨first, encoded⟩ := Option.isSome_iff_exists.mp
    (by decide +kernel : (encodeIdentity (zeroIdentity 0)).isSome = true)
  obtain ⟨second, again⟩ := Option.isSome_iff_exists.mp
    (by decide +kernel : (encodeIdentity (zeroIdentity (2 ^ 63))).isSome = true)
  exact ⟨first, second, encoded, again, encodeIdentity_inj encoded again⟩

end Flowsql.Baseliner.Identity
