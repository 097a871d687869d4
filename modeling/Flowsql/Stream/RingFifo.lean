import Flowsql.Library.BoundedFifo
import Flowsql.Library.Simulation
import Flowsql.Stream.AtomicRing
import Mathlib

/-!
# The ring as a bounded queue

`Represents` ties the sequence numbers of the slots to the list of stored
batches, counted from `tail`. Every call keeps it as long as the capacity is at
least two, whatever the mode and however often the counters wrap around. With
one slot, "full" and "empty" give the slot the same sequence number; the ring
then accepts a batch that it has no room for.
-/

namespace Flowsql.Stream

open Flowsql.Library

variable {α : Type*}

/-! ## Slot indices modulo a power of two -/

theorem exists_pow_of_isPowerOfTwo {capacity : UInt64} (valid : isPowerOfTwo capacity = true) :
    ∃ exponent, exponent < 64 ∧ capacity.toNat = 2 ^ exponent := by
  simp only [isPowerOfTwo, Bool.and_eq_true, decide_eq_true_eq, beq_iff_eq] at valid
  obtain ⟨positive, disjoint⟩ := valid
  have one_le : (1 : UInt64) ≤ capacity := by
    rw [gt_iff_lt, UInt64.lt_iff_toNat_lt] at positive
    rw [UInt64.le_iff_toNat_le]
    exact positive
  have natDisjoint : capacity.toNat &&& (capacity.toNat - 1) = 0 := by
    have lifted := congrArg UInt64.toNat disjoint
    rwa [UInt64.toNat_and, UInt64.toNat_sub_of_le _ _ one_le] at lifted
  have nonzero : capacity.toNat ≠ 0 := by
    intro zero
    rw [gt_iff_lt, UInt64.lt_iff_toNat_lt, zero] at positive
    exact absurd positive (Nat.not_lt_zero _)
  obtain ⟨exponent, toNatEq⟩ :=
    (Nat.and_sub_one_eq_zero_iff_isPowerOfTwo nonzero).mp natDisjoint
  refine ⟨exponent, ?_, toNatEq⟩
  by_contra large
  have grown : 2 ^ 64 ≤ 2 ^ exponent := Nat.pow_le_pow_right (by decide) (by omega)
  have bounded := capacity.toNat_lt
  omega

section Index

variable {capacity : UInt64}

theorem toNat_and_mask (valid : isPowerOfTwo capacity = true) (position : UInt64) :
    (position &&& (capacity - 1)).toNat = position.toNat % capacity.toNat := by
  obtain ⟨exponent, -, toNatEq⟩ := exists_pow_of_isPowerOfTwo valid
  have one_le : (1 : UInt64) ≤ capacity := by
    rw [UInt64.le_iff_toNat_le, toNatEq]
    exact Nat.one_le_two_pow
  rw [UInt64.toNat_and, UInt64.toNat_sub_of_le _ _ one_le, toNatEq]
  exact Nat.and_two_pow_sub_one_eq_mod _ _

theorem toNat_add_ofNat_mod (valid : isPowerOfTwo capacity = true) (start : UInt64)
    (offset : Nat) :
    (start + UInt64.ofNat offset).toNat % capacity.toNat =
      (start.toNat + offset) % capacity.toNat := by
  obtain ⟨exponent, small, toNatEq⟩ := exists_pow_of_isPowerOfTwo valid
  have divides : capacity.toNat ∣ 2 ^ 64 := by
    rw [toNatEq]
    exact pow_dvd_pow 2 (by omega)
  rw [UInt64.toNat_add, UInt64.toNat_ofNat', Nat.mod_mod_of_dvd _ divides, Nat.add_mod,
    Nat.mod_mod_of_dvd _ divides, ← Nat.add_mod]

/-- Offsets below the capacity select different slots. -/
theorem offset_eq_of_and_mask_eq (valid : isPowerOfTwo capacity = true) {start : UInt64}
    {left right : Nat} (leftLt : left < capacity.toNat) (rightLt : right < capacity.toNat)
    (same : (start + UInt64.ofNat left) &&& (capacity - 1) =
      (start + UInt64.ofNat right) &&& (capacity - 1)) : left = right := by
  have lifted := congrArg UInt64.toNat same
  simp only [toNat_and_mask valid, toNat_add_ofNat_mod valid] at lifted
  have congruent : left ≡ right [MOD capacity.toNat] :=
    Nat.ModEq.add_left_cancel' start.toNat lifted
  rwa [Nat.ModEq, Nat.mod_eq_of_lt leftLt, Nat.mod_eq_of_lt rightLt] at congruent

/-- One revolution ends at the slot it started from. -/
theorem and_mask_add_capacity (valid : isPowerOfTwo capacity = true) (position : UInt64) :
    (position + capacity) &&& (capacity - 1) = position &&& (capacity - 1) := by
  apply UInt64.toNat_inj.mp
  have split := toNat_add_ofNat_mod valid position capacity.toNat
  rw [UInt64.ofNat_toNat] at split
  rw [toNat_and_mask valid, toNat_and_mask valid, split, Nat.add_mod_right]

end Index

/-! ## Signed differences -/

theorem toInt64_neg_iff (value : UInt64) : value.toInt64 < 0 ↔ 2 ^ 63 ≤ value.toNat := by
  have bounded := value.toNat_lt
  have toIntEq : value.toInt64.toInt = value.toBitVec.toInt := rfl
  rw [Int64.lt_iff_toInt_lt, toIntEq, BitVec.toInt_eq_toNat_cond, UInt64.toNat_toBitVec,
    Int64.toInt_zero]
  split <;> omega

namespace AtomicRing

theorem seqDiff_eq (ring : AtomicRing α) (position expected : UInt64) :
    ring.seqDiff position expected = ((ring.slotAt position).seq - expected).toInt64 := by
  rw [seqDiff, UInt64.toInt64_sub]

@[simp] theorem slotAt_setSlot_self (ring : AtomicRing α) (position : UInt64) (slot : Slot α) :
    (ring.setSlot position slot).slotAt position = slot := by
  simp [slotAt, setSlot, mask]

theorem slotAt_setSlot_of_ne (ring : AtomicRing α) {position other : UInt64} (slot : Slot α)
    (ne : other &&& ring.mask ≠ position &&& ring.mask) :
    (ring.setSlot position slot).slotAt other = ring.slotAt other := by
  unfold slotAt setSlot
  exact Function.update_of_ne ne _ _

theorem mask_of_valid {ring : AtomicRing α} (valid : ring.validCapacity = true) :
    ring.mask = ring.capacity - 1 := by
  have positive : ring.capacity > 0 := by
    simp only [validCapacity, isPowerOfTwo, Bool.and_eq_true, decide_eq_true_eq] at valid
    exact valid.1
  simp [mask, positive]

/-- The slots store `items`, oldest at `tail`, and every other slot waits for the
position that will use it next. -/
structure Represents (ring : AtomicRing α) (items : List α) : Prop where
  valid : ring.validCapacity = true
  fits : items.length ≤ ring.capacity.toNat
  head_eq : ring.head = ring.tail + UInt64.ofNat items.length
  stored : ∀ (index : Nat) (lt : index < items.length),
    ring.slotAt (ring.tail + UInt64.ofNat index) =
      ⟨ring.tail + UInt64.ofNat index + 1, items[index]⟩
  free : ∀ index, items.length ≤ index → index < ring.capacity.toNat →
    (ring.slotAt (ring.tail + UInt64.ofNat index)).seq = ring.tail + UInt64.ofNat index

theorem represents_make [Inhabited α] {capacity : UInt64} (mode : RingMode)
    (valid : isPowerOfTwo capacity = true) :
    (make (α := α) capacity mode).Represents [] where
  valid := valid
  fits := Nat.zero_le _
  head_eq := by simp [make]
  stored := by simp
  free := by
    intro index _ lt
    have maskEq : (make (α := α) capacity mode).mask = capacity - 1 := mask_of_valid valid
    apply UInt64.toNat_inj.mp
    have small : index < 2 ^ 64 := lt_trans lt capacity.toNat_lt
    change ((0 + UInt64.ofNat index) &&& (make (α := α) capacity mode).mask).toNat = _
    rw [maskEq, toNat_and_mask valid]
    simp only [make, UInt64.zero_add, UInt64.toNat_ofNat', Nat.mod_eq_of_lt small]
    exact Nat.mod_eq_of_lt lt

namespace Represents

variable {ring : AtomicRing α} {items : List α}

/-- Two positions less than one revolution behind `tail` have different slots. -/
theorem slot_ne (represents : ring.Represents items) {left right : Nat}
    (leftLt : left < ring.capacity.toNat) (rightLt : right < ring.capacity.toNat)
    (ne : left ≠ right) :
    (ring.tail + UInt64.ofNat left) &&& ring.mask ≠
      (ring.tail + UInt64.ofNat right) &&& ring.mask := by
  rw [mask_of_valid represents.valid]
  exact fun same => ne (offset_eq_of_and_mask_eq represents.valid leftLt rightLt same)

/-- The slot one revolution later is the same slot. -/
theorem slotAt_add_capacity (represents : ring.Represents items) (position : UInt64) :
    ring.slotAt (position + ring.capacity) = ring.slotAt position := by
  rw [slotAt, slotAt, mask_of_valid represents.valid, and_mask_add_capacity represents.valid]

theorem size_eq (represents : ring.Represents items) : ring.size.toNat = items.length := by
  have small : items.length < 2 ^ 64 := lt_of_le_of_lt represents.fits ring.capacity.toNat_lt
  have sub_eq : ring.size = UInt64.ofNat items.length := by
    rw [size, represents.head_eq, UInt64.add_comm, UInt64.add_sub_cancel]
  rw [sub_eq, UInt64.toNat_ofNat', Nat.mod_eq_of_lt small]

theorem capacity_pos (represents : ring.Represents items) : 0 < ring.capacity.toNat := by
  obtain ⟨exponent, -, toNatEq⟩ := exists_pow_of_isPowerOfTwo represents.valid
  rw [toNatEq]
  exact Nat.two_pow_pos exponent

/-! ### What the sequence number of the next slot tells -/

theorem seqDiff_head_of_room (represents : ring.Represents items)
    (room : items.length < ring.capacity.toNat) : ring.seqDiff ring.head ring.head = 0 := by
  have waiting := represents.free items.length le_rfl room
  rw [← represents.head_eq] at waiting
  rw [seqDiff_eq, waiting, UInt64.sub_self]
  rfl

/-- A full ring is recognised because the oldest batch still occupies the slot.
With one slot its sequence number would be the awaited one. -/
theorem seqDiff_head_of_full (represents : ring.Represents items)
    (full : items.length = ring.capacity.toNat) (several : ring.capacity ≠ 1) :
    ring.seqDiff ring.head ring.head < 0 := by
  have headEq : ring.head = ring.tail + ring.capacity := by
    rw [represents.head_eq, full, UInt64.ofNat_toNat]
  have oldest := represents.stored 0 (full ▸ represents.capacity_pos)
  have seqEq : (ring.slotAt ring.head).seq = ring.tail + 1 := by
    rw [headEq, represents.slotAt_add_capacity]
    simpa using congrArg Slot.seq oldest
  have diffEq : (ring.slotAt ring.head).seq - ring.head = 1 - ring.capacity := by
    rw [seqEq, headEq]
    grind
  rw [seqDiff_eq, diffEq, toInt64_neg_iff]
  obtain ⟨exponent, small, toNatEq⟩ := exists_pow_of_isPowerOfTwo represents.valid
  have atMost : ring.capacity.toNat ≤ 2 ^ 63 := by
    rw [toNatEq]
    exact Nat.pow_le_pow_right (by decide) (by omega)
  have notOne : ring.capacity.toNat ≠ 1 := fun one => several (UInt64.toNat_inj.mp one)
  have positive := represents.capacity_pos
  rw [UInt64.toNat_sub]
  have one : (1 : UInt64).toNat = 1 := rfl
  omega

/-- With one slot, the stored batch leaves exactly the sequence number that the
next enqueue waits for. -/
theorem seqDiff_head_of_full_one (represents : ring.Represents items)
    (full : items.length = ring.capacity.toNat) (one : ring.capacity = 1) :
    ring.seqDiff ring.head ring.head = 0 := by
  have length_one : items.length = 1 := by rw [full, one]; rfl
  have headEq : ring.head = ring.tail + 1 := by
    rw [represents.head_eq, length_one]
    rfl
  have oldest := represents.stored 0 (by omega)
  have seqEq : (ring.slotAt ring.head).seq = ring.tail + 1 := by
    rw [headEq, ← one, represents.slotAt_add_capacity, one]
    simpa using congrArg Slot.seq oldest
  rw [seqDiff_eq, seqEq, headEq, UInt64.sub_self]
  rfl

theorem seqDiff_tail_of_nil (represents : ring.Represents []) :
    ring.seqDiff ring.tail (ring.tail + 1) < 0 := by
  have waiting : (ring.slotAt ring.tail).seq = ring.tail := by
    simpa using represents.free 0 le_rfl represents.capacity_pos
  have diffEq : ring.tail - (ring.tail + 1) = 18446744073709551615 := by grind
  rw [seqDiff_eq, waiting, diffEq]
  decide

theorem slotAt_tail_of_cons {item : α} {rest : List α}
    (represents : ring.Represents (item :: rest)) :
    ring.slotAt ring.tail = ⟨ring.tail + 1, item⟩ := by
  have oldest := represents.stored 0 (Nat.succ_pos _)
  have zero : UInt64.ofNat 0 = 0 := rfl
  rw [zero, UInt64.add_zero] at oldest
  exact oldest

theorem seqDiff_tail_of_cons {item : α} {rest : List α}
    (represents : ring.Represents (item :: rest)) :
    ring.seqDiff ring.tail (ring.tail + 1) = 0 := by
  rw [seqDiff_eq, represents.slotAt_tail_of_cons, UInt64.sub_self]
  rfl

/-! ### The two state changes -/

theorem putAt_head (represents : ring.Represents items)
    (room : items.length < ring.capacity.toNat) (batch : α) :
    (ring.putAt ring.head batch).Represents (items ++ [batch]) where
  valid := represents.valid
  fits := by simpa [putAt, setSlot] using Nat.succ_le_of_lt room
  head_eq := by
    simp only [putAt, setSlot, represents.head_eq, List.length_append, List.length_singleton,
      UInt64.ofNat_add, UInt64.add_assoc]
    rfl
  stored := by
    intro index lt
    change (ring.setSlot ring.head _).slotAt (ring.tail + UInt64.ofNat index) = _
    rw [represents.head_eq]
    by_cases last : index = items.length
    · subst last
      rw [slotAt_setSlot_self, List.getElem_concat_length rfl]
      rfl
    · have old : index < items.length := by
        rw [List.length_append, List.length_singleton] at lt
        omega
      rw [slotAt_setSlot_of_ne _ _
        (represents.slot_ne (lt_trans old room) room last), represents.stored index old,
        List.getElem_append_left old]
      rfl
  free := by
    intro index ge lt
    rw [List.length_append, List.length_singleton] at ge
    change ((ring.setSlot ring.head _).slotAt (ring.tail + UInt64.ofNat index)).seq = _
    rw [represents.head_eq, slotAt_setSlot_of_ne _ _ (represents.slot_ne lt room (by omega)),
      represents.free index (by omega) lt]
    rfl

theorem takeAt_tail [Inhabited α] {item : α} {rest : List α}
    (represents : ring.Represents (item :: rest)) :
    (ring.takeAt ring.tail).1 = item ∧ (ring.takeAt ring.tail).2.Represents rest := by
  have positive := represents.capacity_pos
  have shift : ∀ offset, ring.tail + 1 + UInt64.ofNat offset =
      ring.tail + UInt64.ofNat (offset + 1) := by
    intro offset
    rw [UInt64.ofNat_add, UInt64.add_assoc, UInt64.add_comm 1]
    rfl
  refine ⟨by rw [takeAt, represents.slotAt_tail_of_cons], ?_⟩
  refine ⟨represents.valid, Nat.le_of_succ_le represents.fits, ?_, ?_, ?_⟩
  · change ring.head = ring.tail + 1 + UInt64.ofNat rest.length
    rw [shift, represents.head_eq]
    rfl
  · intro index lt
    change (ring.setSlot ring.tail _).slotAt (ring.tail + 1 + UInt64.ofNat index) =
      ⟨ring.tail + 1 + UInt64.ofNat index + 1, rest[index]⟩
    have inside : index + 1 < ring.capacity.toNat := by
      have fits := represents.fits
      rw [List.length_cons] at fits
      omega
    have ne := represents.slot_ne inside positive (Nat.succ_ne_zero index)
    have zero : UInt64.ofNat 0 = 0 := rfl
    rw [zero, UInt64.add_zero] at ne
    rw [shift, slotAt_setSlot_of_ne _ _ ne, represents.stored (index + 1) (Nat.succ_lt_succ lt)]
    rfl
  · intro index ge lt
    change ((ring.setSlot ring.tail _).slotAt (ring.tail + 1 + UInt64.ofNat index)).seq =
      ring.tail + 1 + UInt64.ofNat index
    by_cases last : index + 1 = ring.capacity.toNat
    · -- The freed slot waits for the position one revolution later.
      have wrapped : ring.tail + 1 + UInt64.ofNat index = ring.tail + ring.capacity := by
        rw [shift, last, UInt64.ofNat_toNat]
      have sameSlot : (ring.tail + ring.capacity) &&& ring.mask = ring.tail &&& ring.mask := by
        rw [mask_of_valid represents.valid, and_mask_add_capacity represents.valid]
      rw [wrapped]
      unfold slotAt
      have maskEq : (ring.setSlot ring.tail ⟨ring.tail + ring.capacity, default⟩).mask =
        ring.mask := rfl
      rw [maskEq, sameSlot]
      exact congrArg Slot.seq (slotAt_setSlot_self ring ring.tail _)
    · have inside : index + 1 < ring.capacity.toNat := by
        change index < ring.capacity.toNat at lt
        omega
      have ne := represents.slot_ne inside positive (Nat.succ_ne_zero index)
      have zero : UInt64.ofNat 0 = 0 := rfl
      rw [zero, UInt64.add_zero] at ne
      rw [shift, slotAt_setSlot_of_ne _ _ ne]
      exact represents.free (index + 1) (by rw [List.length_cons]; omega) inside

end Represents

/-! ## The four code paths -/

section Paths

variable {ring : AtomicRing α} {items : List α}

theorem enqueueSingleProducer_of_ready (ready : ring.seqDiff ring.head ring.head = 0)
    (batch : α) :
    ring.enqueueSingleProducer batch = (.ok, ring.putAt ring.head batch) := by
  simp [enqueueSingleProducer, ready]

theorem enqueueSingleProducer_of_full (represents : ring.Represents items)
    (full : items.length = ring.capacity.toNat) (several : ring.capacity ≠ 1) (batch : α) :
    ring.enqueueSingleProducer batch = (.EAGAIN, ring) := by
  have behind := represents.seqDiff_head_of_full full several
  have ne : ring.seqDiff ring.head ring.head ≠ 0 := fun zero => by
    rw [zero] at behind
    exact absurd behind (by decide)
  simp [enqueueSingleProducer, ne]

/-- Every spurious failure costs the loop one round. -/
theorem enqueueMultiProducer_of_ready (ready : ring.seqDiff ring.head ring.head = 0)
    (batch : α) {fuel weakFailures : Nat} (enough : weakFailures < fuel) :
    ring.enqueueMultiProducer batch fuel weakFailures ring.head =
      some (.ok, ring.putAt ring.head batch) := by
  have notBehind : ¬ (0 : Int64) < 0 := by decide
  induction fuel generalizing weakFailures with
  | zero => exact absurd enough (Nat.not_lt_zero _)
  | succ fuel ih =>
      cases weakFailures with
      | zero => simp [enqueueMultiProducer, ready, notBehind]
      | succ weakFailures =>
          have rest := @ih weakFailures (by omega)
          simpa [enqueueMultiProducer, ready, notBehind] using rest

theorem enqueueMultiProducer_of_full (represents : ring.Represents items)
    (full : items.length = ring.capacity.toNat) (several : ring.capacity ≠ 1) (batch : α)
    (fuel weakFailures : Nat) :
    ring.enqueueMultiProducer batch (fuel + 1) weakFailures ring.head =
      some (.EAGAIN, ring) := by
  simp [enqueueMultiProducer, represents.seqDiff_head_of_full full several]

theorem dequeueSingleConsumer_of_nil [Inhabited α] (represents : ring.Represents []) :
    ring.dequeueSingleConsumer true = (.ETIMEDOUT, none, ring) := by
  have behind := represents.seqDiff_tail_of_nil
  have ne : ring.seqDiff ring.tail (ring.tail + 1) ≠ 0 := fun zero => by
    rw [zero] at behind
    exact absurd behind (by decide)
  simp [dequeueSingleConsumer, ne]

theorem dequeueSingleConsumer_of_cons [Inhabited α] {item : α} {rest : List α}
    (represents : ring.Represents (item :: rest)) :
    ring.dequeueSingleConsumer true = (.ok, some item, (ring.takeAt ring.tail).2) := by
  simp [dequeueSingleConsumer, represents.seqDiff_tail_of_cons, represents.takeAt_tail.1]

theorem dequeueMultiConsumerLoop_of_nil [Inhabited α] (represents : ring.Represents [])
    (fuel weakFailures : Nat) :
    ring.dequeueMultiConsumerLoop (fuel + 1) weakFailures = some (.ETIMEDOUT, none, ring) := by
  simp [dequeueMultiConsumerLoop, represents.seqDiff_tail_of_nil]

theorem dequeueMultiConsumerLoop_of_cons [Inhabited α] {item : α} {rest : List α}
    (represents : ring.Represents (item :: rest)) {fuel weakFailures : Nat}
    (enough : weakFailures < fuel) :
    ring.dequeueMultiConsumerLoop fuel weakFailures =
      some (.ok, some item, (ring.takeAt ring.tail).2) := by
  have ready := represents.seqDiff_tail_of_cons
  have notBehind : ¬ (0 : Int64) < 0 := by decide
  induction fuel generalizing weakFailures with
  | zero => exact absurd enough (Nat.not_lt_zero _)
  | succ fuel ih =>
      cases weakFailures with
      | zero =>
          simp [dequeueMultiConsumerLoop, ready, notBehind, represents.takeAt_tail.1]
      | succ weakFailures =>
          have rest := @ih weakFailures (by omega)
          simpa [dequeueMultiConsumerLoop, ready, notBehind] using rest

@[simp] theorem modeSupported_eq (ring : AtomicRing α) : ring.modeSupported = true := by
  rw [modeSupported]
  cases ring.mode <;> rfl

theorem enqueue_of_ready (valid : ring.validCapacity = true)
    (ready : ring.seqDiff ring.head ring.head = 0) (batch : α) {fuel weakFailures : Nat}
    (enough : weakFailures < fuel) :
    ring.enqueue batch fuel weakFailures = some (.ok, ring.putAt ring.head batch) := by
  simp only [enqueue, modeSupported_eq, valid, Bool.not_true, Bool.false_eq_true, if_false]
  split
  · rw [enqueueSingleProducer_of_ready ready]
  · exact enqueueMultiProducer_of_ready ready batch enough

theorem enqueue_of_full (represents : ring.Represents items)
    (full : items.length = ring.capacity.toNat) (several : ring.capacity ≠ 1) (batch : α)
    {fuel weakFailures : Nat} (enough : weakFailures < fuel) :
    ring.enqueue batch fuel weakFailures = some (.EAGAIN, ring) := by
  obtain ⟨fuel, rfl⟩ := Nat.exists_eq_succ_of_ne_zero (Nat.ne_of_gt (Nat.zero_lt_of_lt enough))
  simp only [enqueue, modeSupported_eq, represents.valid, Bool.not_true, Bool.false_eq_true,
    if_false]
  split
  · rw [enqueueSingleProducer_of_full represents full several]
  · exact enqueueMultiProducer_of_full represents full several batch fuel weakFailures

theorem dequeue_of_nil [Inhabited α] (represents : ring.Represents []) {fuel weakFailures : Nat}
    (enough : weakFailures < fuel) :
    ring.dequeue true fuel weakFailures = some (.ETIMEDOUT, none, ring) := by
  obtain ⟨fuel, rfl⟩ := Nat.exists_eq_succ_of_ne_zero (Nat.ne_of_gt (Nat.zero_lt_of_lt enough))
  simp only [dequeue, modeSupported_eq, represents.valid, Bool.not_true, Bool.false_eq_true,
    if_false]
  split
  · rw [dequeueSingleConsumer_of_nil represents]
  · simpa [dequeueMultiConsumer] using
      dequeueMultiConsumerLoop_of_nil represents fuel weakFailures

theorem dequeue_of_cons [Inhabited α] {item : α} {rest : List α}
    (represents : ring.Represents (item :: rest)) {fuel weakFailures : Nat}
    (enough : weakFailures < fuel) :
    ring.dequeue true fuel weakFailures =
      some (.ok, some item, (ring.takeAt ring.tail).2) := by
  simp only [dequeue, modeSupported_eq, represents.valid, Bool.not_true, Bool.false_eq_true,
    if_false]
  split
  · rw [dequeueSingleConsumer_of_cons represents]
  · simpa [dequeueMultiConsumer] using dequeueMultiConsumerLoop_of_cons represents enough

theorem dequeue_without_out [Inhabited α] (represents : ring.Represents items)
    (fuel weakFailures : Nat) :
    ring.dequeue false fuel weakFailures = some (.EINVAL, none, ring) := by
  simp [dequeue, represents.valid, dequeueSingleConsumer, dequeueMultiConsumer]

end Paths

end AtomicRing

/-! ## Refinement of the bounded queue -/

/-- The queue's answer to a ring call. Spurious compare-exchange failures have no
meaning here. -/
def fifoCall {capacity : Nat} (queue : BoundedFifo α capacity) :
    RingCall α → BoundedFifo α capacity × RingAnswer α
  | .enqueue batch _ =>
      match queue.push? batch with
      | some next => (next, ⟨.ok, none, next.items.length⟩)
      | none => (queue, ⟨.EAGAIN, none, queue.items.length⟩)
  | .dequeue true _ =>
      match queue.pop? with
      | some (batch, next) => (next, ⟨.ok, some batch, next.items.length⟩)
      | none => (queue, ⟨.ETIMEDOUT, none, queue.items.length⟩)
  | .dequeue false _ => (queue, ⟨.EINVAL, none, queue.items.length⟩)

def RingCall.weakFailures : RingCall α → Nat
  | .enqueue _ weakFailures => weakFailures
  | .dequeue _ weakFailures => weakFailures

/-- A ring of the given capacity that stores the items of the queue. -/
structure RingSimulates (capacity : UInt64) (ring : AtomicRing α)
    (queue : BoundedFifo α capacity.toNat) : Prop where
  capacity_eq : ring.capacity = capacity
  represents : ring.Represents queue.items

open AtomicRing in
/-- One call: with several slots the ring answers like the queue. -/
theorem simulatesCall [Inhabited α] {capacity : UInt64} (several : capacity ≠ 1)
    {fuel : Nat} (call : RingCall α) (enough : call.weakFailures < fuel) :
    SimulatesCall (AtomicRing.call fuel) fifoCall (RingSimulates (α := α) capacity) call := by
  rintro ring queue ⟨rfl, represents⟩
  cases call with
  | enqueue batch weakFailures =>
      change weakFailures < fuel at enough
      rcases Nat.lt_or_ge queue.items.length ring.capacity.toNat with room | noRoom
      · obtain ⟨next, pushEq, itemsEq⟩ := queue.push?_of_room batch room
        have nextRepresents := represents.putAt_head room batch
        refine ⟨ring.putAt ring.head batch, ?_, rfl, ?_⟩
        · simp [call, enqueue_of_ready represents.valid
            (represents.seqDiff_head_of_room room) batch enough, fifoCall, pushEq,
            nextRepresents.size_eq, itemsEq]
        · simpa [fifoCall, pushEq, itemsEq] using nextRepresents
      · have full := Nat.le_antisymm represents.fits noRoom
        have pushEq := queue.push?_of_full batch full
        refine ⟨ring, ?_, rfl, ?_⟩
        · simp [call, enqueue_of_full represents full several batch enough, fifoCall, pushEq,
            represents.size_eq]
        · simpa [fifoCall, pushEq] using represents
  | dequeue out weakFailures =>
      change weakFailures < fuel at enough
      cases out with
      | false =>
          refine ⟨ring, ?_, rfl, represents⟩
          simp [call, dequeue_without_out represents, fifoCall, represents.size_eq]
      | true =>
          cases itemsEq : queue.items with
          | nil =>
              rw [itemsEq] at represents
              have popEq := queue.pop?_of_nil itemsEq
              refine ⟨ring, ?_, rfl, ?_⟩
              · simp [call, dequeue_of_nil represents enough, fifoCall, popEq,
                  represents.size_eq, itemsEq]
              · simpa [fifoCall, popEq, itemsEq] using represents
          | cons item rest =>
              rw [itemsEq] at represents
              obtain ⟨next, popEq, restEq⟩ := queue.pop?_of_cons itemsEq
              have nextRepresents := represents.takeAt_tail.2
              refine ⟨(ring.takeAt ring.tail).2, ?_, rfl, ?_⟩
              · simp [call, dequeue_of_cons represents enough, fifoCall, popEq,
                  nextRepresents.size_eq, restEq]
              · simpa [fifoCall, popEq, restEq] using nextRepresents

/-- From some amount of fuel on, every call of the sequence returns, with the
answer of a bounded queue of this capacity. -/
def BehavesAsFifo [Inhabited α] (capacity : UInt64) (mode : RingMode)
    (calls : List (RingCall α)) : Prop :=
  ∃ enough, ∀ fuel ≥ enough,
    runCalls (AtomicRing.call fuel) (AtomicRing.make capacity mode) calls =
      some (runTotal fifoCall (BoundedFifo.empty : BoundedFifo α capacity.toNat) calls)

theorem behavesAsFifo_of_several [Inhabited α] {capacity : UInt64} (mode : RingMode)
    (valid : isPowerOfTwo capacity = true) (several : capacity ≠ 1)
    (calls : List (RingCall α)) : BehavesAsFifo capacity mode calls := by
  refine ⟨(calls.map RingCall.weakFailures).sum + 1, fun fuel enough => ?_⟩
  have start : RingSimulates (α := α) capacity (AtomicRing.make capacity mode)
      BoundedFifo.empty := ⟨rfl, AtomicRing.represents_make mode valid⟩
  apply runCalls_of_simulation _ start
  intro call member
  have bounded : call.weakFailures ≤ (calls.map RingCall.weakFailures).sum :=
    List.single_le_sum (by simp) _ (List.mem_map_of_mem member)
  exact simulatesCall several call (by omega)

/-! ## The ring with one slot -/

namespace AtomicRing

/-- Ahead of its position, the slot never becomes ready: the loop keeps running. -/
theorem dequeueMultiConsumerLoop_of_ahead [Inhabited α] {ring : AtomicRing α}
    (ahead : ring.seqDiff ring.tail (ring.tail + 1) > 0) (fuel weakFailures : Nat) :
    ring.dequeueMultiConsumerLoop fuel weakFailures = none := by
  have notBehind : ¬ ring.seqDiff ring.tail (ring.tail + 1) < 0 :=
    Int64.not_lt.mpr (Int64.le_of_lt ahead)
  induction fuel with
  | zero => rfl
  | succ fuel ih => simpa [dequeueMultiConsumerLoop, notBehind, ahead] using ih

end AtomicRing

open AtomicRing in
theorem not_behavesAsFifo_one [Inhabited α] (mode : RingMode) (first second : α) :
    ¬ BehavesAsFifo 1 mode [.enqueue first 0, .enqueue second 0] := by
  rintro ⟨enough, agrees⟩
  have valid : isPowerOfTwo 1 = true := by decide
  have start := represents_make (α := α) mode valid
  have room : ([] : List α).length < (make (α := α) 1 mode).capacity.toNat := Nat.one_pos
  have stored := start.putAt_head room first
  have firstCall := enqueue_of_ready start.valid (start.seqDiff_head_of_room room)
    first (Nat.succ_pos enough)
  have secondCall := enqueue_of_ready stored.valid (stored.seqDiff_head_of_full_one rfl rfl)
    second (Nat.succ_pos enough)
  have answers := agrees (enough + 1) (Nat.le_succ _)
  simp only [runCalls, call, firstCall, secondCall, Option.map_some, Option.some.injEq] at answers
  simp [runTotal, fifoCall, BoundedFifo.push?, BoundedFifo.empty] at answers

/-- A valid ring is a bounded queue for every call sequence exactly when it has
more than one slot. -/
theorem ring_behavesAsFifo_iff [Inhabited α] (capacity : UInt64) (mode : RingMode)
    (valid : isPowerOfTwo capacity = true) :
    (∀ calls : List (RingCall α), BehavesAsFifo capacity mode calls) ↔ capacity ≠ 1 := by
  constructor
  · rintro always rfl
    exact not_behavesAsFifo_one mode default default (always _)
  · exact fun several calls => behavesAsFifo_of_several mode valid several calls

theorem ring_behavesAsFifo_iff_four :
    isPowerOfTwo 4 = true ∧
      ((∀ calls : List (RingCall Nat), BehavesAsFifo 4 .MPMC calls) ↔ (4 : UInt64) ≠ 1) :=
  ⟨by decide, ring_behavesAsFifo_iff 4 .MPMC (by decide)⟩

open AtomicRing in
/-- With one slot, a second enqueue succeeds before any dequeue, the first batch
is lost, and a multi-consumer dequeue then never returns. -/
theorem ring_one_slot_not_fifo :
    isPowerOfTwo 1 = true ∧
      ¬ BehavesAsFifo (1 : UInt64) .MPMC [.enqueue 7 0, .enqueue (8 : Nat) 0] ∧
      ∀ fuel, runCalls (AtomicRing.call fuel) (AtomicRing.make (1 : UInt64) .MPMC)
        [.enqueue 7 0, .enqueue (8 : Nat) 0, .dequeue true 0] = none := by
  refine ⟨by decide, not_behavesAsFifo_one .MPMC 7 8, ?_⟩
  rintro (_ | fuel)
  · rfl
  · let once := (make (α := Nat) 1 .MPMC).putAt 0 7
    let twice := once.putAt 1 8
    have firstCall : (make (α := Nat) 1 .MPMC).enqueue 7 (fuel + 1) 0 = some (.ok, once) :=
      enqueue_of_ready (by decide) (by decide) 7 (Nat.succ_pos fuel)
    have secondCall : once.enqueue 8 (fuel + 1) 0 = some (.ok, twice) :=
      enqueue_of_ready (by decide) (by decide) 8 (Nat.succ_pos fuel)
    have ahead : twice.seqDiff twice.tail (twice.tail + 1) > 0 := by decide
    have valid : twice.validCapacity = true := by decide
    have modeEq : twice.mode = .MPMC := rfl
    have thirdCall : twice.dequeue true (fuel + 1) 0 = none := by
      simp [dequeue, valid, modeEq, dequeueMultiConsumer,
        dequeueMultiConsumerLoop_of_ahead ahead]
    simp only [runCalls, call, firstCall, secondCall, thirdCall, Option.map_some, Option.map_none]

end Flowsql.Stream
