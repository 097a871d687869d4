import Mathlib

/-!
# The lock-free ring of the stream channels

This module embeds `AtomicRing` of `ring_stream_channel.cpp`. A `size_t` is a
`UInt64` and wraps around; an `intptr_t` difference is an `Int64` difference in
two's complement. Calls run one after the other, so an atomic load reads the
last value stored. A `compare_exchange_weak` may still fail spuriously: every
call carries the number of times this happens to it.

The loops of the multi-producer and multi-consumer paths take fuel. `none` means
that the loop is still running when the fuel is used up.
-/

namespace Flowsql.Stream

/-- Return codes of the ring operations. -/
inductive RingCode where
  | ok
  | EAGAIN
  | EINVAL
  | ENOTSUP
  | ETIMEDOUT
  deriving DecidableEq, Repr

inductive RingMode where
  | SPSC
  | MPSC
  | SPMC
  | MPMC
  deriving DecidableEq, Repr

def isPowerOfTwo (v : UInt64) : Bool :=
  decide (v > 0) && (v &&& (v - 1)) == 0

/-- One cell of the ring: its sequence number and the batch it stores. -/
structure Slot (α : Type*) where
  seq : UInt64
  batch : α

/-- `slots` is the array `new Slot[capacity]`; only indices below `capacity` are
read or written. -/
structure AtomicRing (α : Type*) where
  slots : UInt64 → Slot α
  capacity : UInt64
  mode : RingMode
  head : UInt64
  tail : UInt64

namespace AtomicRing

variable {α : Type*}

/-- The constructor: slot `i` starts with sequence number `i` and an empty batch. -/
def make [Inhabited α] (capacity : UInt64) (mode : RingMode) : AtomicRing α where
  slots := fun i => ⟨i, default⟩
  capacity := capacity
  mode := mode
  head := 0
  tail := 0

def mask (ring : AtomicRing α) : UInt64 :=
  if ring.capacity > 0 then ring.capacity - 1 else 0

def validCapacity (ring : AtomicRing α) : Bool := isPowerOfTwo ring.capacity

def modeSupported (ring : AtomicRing α) : Bool :=
  ring.mode == .SPSC || ring.mode == .SPMC || ring.mode == .MPSC || ring.mode == .MPMC

/-- The slot that position `position` of the unbounded sequence falls into. -/
def slotAt (ring : AtomicRing α) (position : UInt64) : Slot α :=
  ring.slots (position &&& ring.mask)

/-- Overwrite the slot of `position`. -/
def setSlot (ring : AtomicRing α) (position : UInt64) (slot : Slot α) : AtomicRing α :=
  { ring with slots := Function.update ring.slots (position &&& ring.mask) slot }

/-- The slot's sequence number minus `expected`, as a signed difference. -/
def seqDiff (ring : AtomicRing α) (position expected : UInt64) : Int64 :=
  (ring.slotAt position).seq.toInt64 - expected.toInt64

/-- The ring after `batch` was moved into the slot of `head` and the slot was
published. -/
def putAt (ring : AtomicRing α) (head : UInt64) (batch : α) : AtomicRing α :=
  { ring.setSlot head ⟨head + 1, batch⟩ with head := head + 1 }

def enqueueSingleProducer (ring : AtomicRing α) (batch : α) : RingCode × AtomicRing α :=
  let head := ring.head
  if ring.seqDiff head head ≠ 0 then
    (.EAGAIN, ring)
  else
    (.ok, ring.putAt head batch)

/-- `head` is the local copy that the loop compares and reloads. -/
def enqueueMultiProducer (ring : AtomicRing α) (batch : α) :
    (fuel weakFailures : Nat) → (head : UInt64) → Option (RingCode × AtomicRing α)
  | 0, _, _ => none
  | fuel + 1, weakFailures, head =>
      if ring.seqDiff head head < 0 then
        some (.EAGAIN, ring)
      else if ring.seqDiff head head > 0 then
        ring.enqueueMultiProducer batch fuel weakFailures ring.head
      else
        match weakFailures with
        | weakFailures + 1 => ring.enqueueMultiProducer batch fuel weakFailures ring.head
        | 0 =>
            if ring.head = head then
              some (.ok, ring.putAt head batch)
            else
              ring.enqueueMultiProducer batch fuel 0 ring.head

/-- The batch handed out and the ring after it was moved out of its slot. -/
def takeAt [Inhabited α] (ring : AtomicRing α) (tail : UInt64) : α × AtomicRing α :=
  ((ring.slotAt tail).batch,
    { ring.setSlot tail ⟨tail + ring.capacity, default⟩ with tail := tail + 1 })

def dequeueSingleConsumer [Inhabited α] (ring : AtomicRing α) (out : Bool) :
    RingCode × Option α × AtomicRing α :=
  if !out then
    (.EINVAL, none, ring)
  else
    let tail := ring.tail
    if ring.seqDiff tail (tail + 1) ≠ 0 then
      (.ETIMEDOUT, none, ring)
    else
      (.ok, some (ring.takeAt tail).1, (ring.takeAt tail).2)

/-- The loop reloads `tail_` on every round, so it has no local copy to carry. -/
def dequeueMultiConsumerLoop [Inhabited α] (ring : AtomicRing α) :
    (fuel weakFailures : Nat) → Option (RingCode × Option α × AtomicRing α)
  | 0, _ => none
  | fuel + 1, weakFailures =>
      let tail := ring.tail
      if ring.seqDiff tail (tail + 1) < 0 then
        some (.ETIMEDOUT, none, ring)
      else if ring.seqDiff tail (tail + 1) > 0 then
        ring.dequeueMultiConsumerLoop fuel weakFailures
      else
        match weakFailures with
        | weakFailures + 1 => ring.dequeueMultiConsumerLoop fuel weakFailures
        | 0 => some (.ok, some (ring.takeAt tail).1, (ring.takeAt tail).2)

def dequeueMultiConsumer [Inhabited α] (ring : AtomicRing α) (out : Bool)
    (fuel weakFailures : Nat) : Option (RingCode × Option α × AtomicRing α) :=
  if !out then some (.EINVAL, none, ring) else ring.dequeueMultiConsumerLoop fuel weakFailures

def enqueue (ring : AtomicRing α) (batch : α) (fuel weakFailures : Nat) :
    Option (RingCode × AtomicRing α) :=
  if !ring.modeSupported then some (.ENOTSUP, ring)
  else if !ring.validCapacity then some (.EINVAL, ring)
  else if ring.mode = .SPSC ∨ ring.mode = .SPMC then some (ring.enqueueSingleProducer batch)
  else ring.enqueueMultiProducer batch fuel weakFailures ring.head

/-- `out` tells whether the output pointer is given. -/
def dequeue [Inhabited α] (ring : AtomicRing α) (out : Bool) (fuel weakFailures : Nat) :
    Option (RingCode × Option α × AtomicRing α) :=
  if !ring.modeSupported then some (.ENOTSUP, none, ring)
  else if !ring.validCapacity then some (.EINVAL, none, ring)
  else if ring.mode = .SPSC ∨ ring.mode = .MPSC then some (ring.dequeueSingleConsumer out)
  else ring.dequeueMultiConsumer out fuel weakFailures

def size (ring : AtomicRing α) : UInt64 := ring.head - ring.tail

end AtomicRing

/-- One call on a ring, with the spurious failures its compare-exchange meets. -/
inductive RingCall (α : Type*) where
  | enqueue (batch : α) (weakFailures : Nat)
  | dequeue (out : Bool) (weakFailures : Nat)
  deriving DecidableEq, Repr

/-- What the caller sees of one call: its return code, the batch it was handed,
and `size()` after the call. -/
structure RingAnswer (α : Type*) where
  code : RingCode
  batch : Option α
  size : Nat
  deriving DecidableEq, Repr

/-- One call on the ring; `none` if the call is still running without fuel. -/
def AtomicRing.call {α : Type*} [Inhabited α] (fuel : Nat) (ring : AtomicRing α) :
    RingCall α → Option (AtomicRing α × RingAnswer α)
  | .enqueue batch weakFailures =>
      (ring.enqueue batch fuel weakFailures).map fun (code, next) =>
        (next, ⟨code, none, next.size.toNat⟩)
  | .dequeue out weakFailures =>
      (ring.dequeue out fuel weakFailures).map fun (code, batch, next) =>
        (next, ⟨code, batch, next.size.toNat⟩)

end Flowsql.Stream
