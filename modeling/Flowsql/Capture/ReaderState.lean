import Flowsql.Capture.Description
import Flowsql.Library.AssociationList
import Flowsql.Library.Transitions

/-!
# The state of a capture reader

A capture reader lends its buffers out in batches. The state admits a batch when its slot is free: no
batch of the slot is outstanding, and nobody keeps the bytes of an earlier one. Who keeps bytes is
known by the owner that the buffers of a batch hold.
-/

namespace Flowsql.Capture

open Flowsql.Library

def EAGAIN : Int := 11

def ENOMEM : Int := 12

def EBUSY : Int := 16

def EINVAL : Int := 22

def EPIPE : Int := 32

def EOVERFLOW : Int := 75

def EALREADY : Int := 114

def UINT64_MAX : Nat := 2 ^ 64 - 1

/-- The columns of a row that a borrow reads, with the length of the raw bytes. -/
structure CaptureRow where
  capturedLen : Option Nat
  wireLen : Option Nat
  linkType : Option UInt32
  sourceId : Option UInt32
  sequence : Option Nat
  rawLen : Option Nat
  deriving DecidableEq

/-- A batch, known by its address. -/
structure RecordBatch where
  address : Nat
  isPacketSchema : Bool
  rows : List CaptureRow
  deriving DecidableEq

/-- The owner is held weakly. -/
structure Lease where
  slot : Nat
  owner : Nat
  deriving DecidableEq

inductive Terminal where
  | «open»
  | eof
  | cancelled
  | error
  deriving DecidableEq

structure CaptureReaderStateV1 where
  opened : Bool := false
  lastGeneration : UInt64 := 0
  terminal : Terminal := .open
  identity : Option CaptureQueueIdentityV1 := none
  limits : CaptureReaderLimitsV1 := {}
  deliveredPackets : Nat := 0
  deliveredBytes : Nat := 0
  lastPacketSequence : Option Nat := none
  outstanding : AList fun _ : Nat => Lease := ∅
  activeSlots : AList fun _ : Nat => Nat := ∅
  retiredSlots : AList fun _ : Nat => Nat := ∅

def saturatingAdd (current added : Nat) : Nat :=
  if UINT64_MAX - current < added then UINT64_MAX else current + added

/-- The check of a row, with the sequence before it. -/
def acceptsRow (identity : CaptureQueueIdentityV1) (before : Option Nat) (row : CaptureRow) :
    Option (Nat × Nat) := do
  let captured ← row.capturedLen
  let wire ← row.wireLen
  let link ← row.linkType
  let source ← row.sourceId
  let sequence ← row.sequence
  let raw ← row.rawLen
  if wire < captured ∨ link ≠ identity.linkType ∨ raw ≠ captured ∨ source ≠ identity.sourceId ∨
      before.any (sequence ≤ ·) then none
  else some (captured, sequence)

/-- The loop over the rows, with the bytes so far. -/
def acceptRows (identity : CaptureQueueIdentityV1) :
    List CaptureRow → Nat → Option Nat → Option (Nat × Option Nat)
  | [], bytes, before => some (bytes, before)
  | row :: rows, bytes, before =>
      match acceptsRow identity before row with
      | none => none
      | some (captured, sequence) => acceptRows identity rows (bytes + captured) (some sequence)

namespace CaptureReaderStateV1

variable (state : CaptureReaderStateV1)

/-- `Open`. -/
def openReader (identity : CaptureQueueIdentityV1) (limits : CaptureReaderLimitsV1) :
    Int × CaptureReaderStateV1 :=
  if state.opened then
    (EALREADY, state)
  else if validateCaptureReaderDescriptionV1 identity limits ≠ .none then
    (EINVAL, state)
  else if identity.generation ≤ state.lastGeneration then
    (EINVAL, state)
  else
    (0, { state with
      identity := some identity
      limits := limits
      lastPacketSequence := none
      deliveredPackets := 0
      deliveredBytes := 0
      terminal := .open
      lastGeneration := identity.generation
      opened := true })

/-- What a borrow asks of the rows of a batch. -/
def checkRows (batch : RecordBatch) (capturedBytes : Nat) : Except Int (Option Nat) :=
  match state.identity.bind (acceptRows · batch.rows 0 state.lastPacketSequence) with
  | none => .error EINVAL
  | some (bytes, next) =>
      if bytes ≠ capturedBytes then .error EINVAL
      else if state.limits.maxBytesPerBatch < capturedBytes then .error EOVERFLOW
      else .ok next

/-- `Borrow`. The owners that have left are known, and whether there is memory for the new entries. -/
def borrow (expired : Nat → Bool) (slot : Nat) (batch : Option RecordBatch) (capturedBytes : Nat)
    (owner : Option Nat) (memory : Bool) : Int × CaptureReaderStateV1 :=
  if !state.opened || state.terminal ≠ .open then
    (EPIPE, state)
  else
    match batch, owner with
    | some batch, some owner =>
        if !batch.isPacketSchema || batch.rows = [] then
          (EINVAL, state)
        else if state.limits.maxPacketsPerBatch < batch.rows.length then
          (EOVERFLOW, state)
        else
          match state.checkRows batch capturedBytes with
          | .error rc => (rc, state)
          | .ok next =>
              if state.limits.maxOutstandingBatches ≤ state.outstanding.entries.length then
                (EAGAIN, state)
              else if (state.outstanding.lookup batch.address).isSome ||
                  (state.activeSlots.lookup slot).isSome then
                (EBUSY, state)
              else if (state.retiredSlots.lookup slot).any (!expired ·) then
                (EBUSY, state)
              else
                let retired := state.retiredSlots.erase slot
                if !memory then
                  (ENOMEM, { state with retiredSlots := retired })
                else
                  (0, { state with
                    retiredSlots := retired
                    outstanding := state.outstanding.insert batch.address ⟨slot, owner⟩
                    activeSlots := state.activeSlots.insert slot batch.address
                    deliveredPackets := saturatingAdd state.deliveredPackets batch.rows.length
                    deliveredBytes := saturatingAdd state.deliveredBytes capturedBytes
                    lastPacketSequence := next })
    | _, _ => (EINVAL, state)

/-- `Release`, of the batch at an address. -/
def release (batch : Option Nat) (memory : Bool) : Int × CaptureReaderStateV1 :=
  match batch with
  | none => (EINVAL, state)
  | some address =>
      if !state.opened then
        (EINVAL, state)
      else
        match state.outstanding.lookup address with
        | none => (EINVAL, state)
        | some lease =>
            if !memory then
              (ENOMEM, state)
            else
              (0, { state with
                retiredSlots := state.retiredSlots.insert lease.slot lease.owner
                activeSlots := state.activeSlots.erase lease.slot
                outstanding := state.outstanding.erase address })

def canReuse (expired : Nat → Bool) (slot : Nat) : Bool :=
  state.opened && (state.activeSlots.lookup slot).isNone &&
    (state.retiredSlots.lookup slot).all expired

/-- `End`, as `Finish`, `Cancel` and `Fail` call it. -/
def endWith (terminal : Terminal) : CaptureReaderStateV1 :=
  if state.opened ∧ state.terminal = .open then { state with terminal := terminal } else state

def finish : CaptureReaderStateV1 := state.endWith .eof

def cancel : CaptureReaderStateV1 := state.endWith .cancelled

def fail : CaptureReaderStateV1 := state.endWith .error

/-- `Close`. -/
def close (expired : Nat → Bool) : Int × CaptureReaderStateV1 :=
  if !state.opened then
    (EINVAL, state)
  else if state.terminal = .open ∨ state.outstanding.entries ≠ [] then
    (EBUSY, state)
  else if state.retiredSlots.entries.any (!expired ·.2) then
    (EBUSY, state)
  else
    (0, { state with retiredSlots := ∅, identity := none, limits := {}, opened := false })

end CaptureReaderStateV1

/-! ## What a call has done -/

namespace CaptureReaderStateV1

variable {state after : CaptureReaderStateV1} {rc : Int}

/-- The state differs in slots that nobody keeps. -/
def Settled (expired : Nat → Bool) (state after : CaptureReaderStateV1) : Prop :=
  ∃ retired, after = { state with retiredSlots := retired } ∧
    ∀ slot, retired.lookup slot = state.retiredSlots.lookup slot ∨
      retired.lookup slot = none ∧ (state.retiredSlots.lookup slot).all expired = true

theorem Settled.refl (expired : Nat → Bool) (state : CaptureReaderStateV1) :
    Settled expired state state :=
  ⟨state.retiredSlots, rfl, fun _ => .inl rfl⟩

theorem Settled.canReuse {expired : Nat → Bool} (settled : Settled expired state after)
    (slot : Nat) : after.canReuse expired slot = state.canReuse expired slot := by
  obtain ⟨retired, rfl, same⟩ := settled
  unfold CaptureReaderStateV1.canReuse
  rcases same slot with same | ⟨gone, left⟩
  · simp only [same]
  · simp only [gone, left, Option.all_none]

theorem openReader_cases {identity : CaptureQueueIdentityV1} {limits : CaptureReaderLimitsV1}
    (ran : state.openReader identity limits = (rc, after)) :
    (rc ≠ 0 ∧ after = state) ∨
    (rc = 0 ∧ state.opened = false ∧ state.lastGeneration < identity.generation ∧
      after = { state with
        identity := some identity
        limits := limits
        lastPacketSequence := none
        deliveredPackets := 0
        deliveredBytes := 0
        terminal := .open
        lastGeneration := identity.generation
        opened := true }) := by
  unfold openReader at ran
  split_ifs at ran with isOpen invalid old
  · cases ran
    exact .inl ⟨by decide, rfl⟩
  · cases ran
    exact .inl ⟨by decide, rfl⟩
  · cases ran
    exact .inl ⟨by decide, rfl⟩
  · cases ran
    exact .inr ⟨rfl, by simpa using isOpen, by simpa using old, rfl⟩

theorem checkRows_error {batch : RecordBatch} {capturedBytes : Nat} {error : Int}
    (failed : state.checkRows batch capturedBytes = .error error) : error ≠ 0 := by
  unfold checkRows at failed
  split at failed
  · cases failed
    decide
  · split_ifs at failed
    · cases failed
      decide
    · cases failed
      decide

/-- What is known of a borrow that has succeeded. -/
structure Lent (expired : Nat → Bool) (slot : Nat) (batch : RecordBatch) (capturedBytes owner : Nat)
    (state after : CaptureReaderStateV1) : Prop where
  opened : state.opened = true
  room : state.outstanding.entries.length < state.limits.maxOutstandingBatches
  fresh : state.outstanding.lookup batch.address = none
  idle : state.activeSlots.lookup slot = none
  left : (state.retiredSlots.lookup slot).all expired = true
  rows : ∃ identity next, acceptRows identity batch.rows 0 state.lastPacketSequence =
      some (capturedBytes, next) ∧
    after = { state with
      retiredSlots := state.retiredSlots.erase slot
      outstanding := state.outstanding.insert batch.address ⟨slot, owner⟩
      activeSlots := state.activeSlots.insert slot batch.address
      deliveredPackets := saturatingAdd state.deliveredPackets batch.rows.length
      deliveredBytes := saturatingAdd state.deliveredBytes capturedBytes
      lastPacketSequence := next }

theorem checkRows_ok {batch : RecordBatch} {capturedBytes : Nat} {next : Option Nat}
    (passed : state.checkRows batch capturedBytes = .ok next) :
    ∃ identity, acceptRows identity batch.rows 0 state.lastPacketSequence =
      some (capturedBytes, next) := by
  unfold checkRows at passed
  split at passed
  · cases passed
  · rename_i bytes last accepted
    split_ifs at passed with different large
    · cases passed
      obtain ⟨identity, -, found⟩ := Option.bind_eq_some_iff.mp accepted
      rw [not_not] at different
      rw [different] at found
      exact ⟨identity, found⟩

theorem settled_erase {expired : Nat → Bool} {slot : Nat}
    (left : (state.retiredSlots.lookup slot).all expired = true) :
    Settled expired state { state with retiredSlots := state.retiredSlots.erase slot } := by
  refine ⟨_, rfl, fun other => ?_⟩
  by_cases same : other = slot
  · subst same
    exact .inr ⟨AList.lookup_erase _ _, left⟩
  · exact .inl (AList.lookup_erase_ne same)

theorem all_of_not_any {expired : Nat → Bool} {holder : Option Nat}
    (none : ¬holder.any (!expired ·) = true) : holder.all expired = true := by
  cases holder with
  | none => rfl
  | some owner => simpa using none

theorem borrow_cases {expired : Nat → Bool} {slot capturedBytes : Nat} {batch : Option RecordBatch}
    {owner : Option Nat} {memory : Bool}
    (ran : state.borrow expired slot batch capturedBytes owner memory = (rc, after)) :
    (rc ≠ 0 ∧ Settled expired state after) ∨
    (rc = 0 ∧ ∃ lent holder, batch = some lent ∧ owner = some holder ∧
      Lent expired slot lent capturedBytes holder state after) := by
  have rejected {error : Int} (nonzero : error ≠ 0) (same : (error, state) = (rc, after)) :
      rc ≠ 0 ∧ Settled expired state after := by
    cases same
    exact ⟨nonzero, .refl expired _⟩
  unfold borrow at ran
  split at ran
  · exact .inl (rejected (by decide) ran)
  · rename_i usable
    split at ran
    · rename_i lent holder
      split at ran
      · exact .inl (rejected (by decide) ran)
      · split at ran
        · exact .inl (rejected (by decide) ran)
        · split at ran
          · rename_i error failed
            exact .inl (rejected (checkRows_error failed) ran)
          · rename_i next passed
            split_ifs at ran with full busy kept noMemory
            · exact .inl (rejected (by decide) ran)
            · exact .inl (rejected (by decide) ran)
            · exact .inl (rejected (by decide) ran)
            · cases ran
              exact .inl ⟨by decide, settled_erase (all_of_not_any kept)⟩
            · obtain ⟨identity, accepted⟩ := checkRows_ok passed
              cases ran
              simp only [Bool.or_eq_true, not_or, Option.not_isSome_iff_eq_none] at busy
              exact .inr ⟨rfl, lent, holder, rfl, rfl, by simp_all, Nat.lt_of_not_le full, busy.1,
                busy.2, all_of_not_any kept, identity, next, accepted, rfl⟩
    · exact .inl (rejected (by decide) ran)

theorem release_cases {batch : Option Nat} {memory : Bool}
    (ran : state.release batch memory = (rc, after)) :
    (rc ≠ 0 ∧ after = state) ∨
    (rc = 0 ∧ ∃ address lease, batch = some address ∧ state.opened = true ∧
      state.outstanding.lookup address = some lease ∧
      after = { state with
        retiredSlots := state.retiredSlots.insert lease.slot lease.owner
        activeSlots := state.activeSlots.erase lease.slot
        outstanding := state.outstanding.erase address }) := by
  unfold release at ran
  split at ran
  · cases ran
    exact .inl ⟨by decide, rfl⟩
  · rename_i address
    split at ran
    · cases ran
      exact .inl ⟨by decide, rfl⟩
    · rename_i isOpen
      split at ran
      · cases ran
        exact .inl ⟨by decide, rfl⟩
      · rename_i lease found
        split at ran
        · cases ran
          exact .inl ⟨by decide, rfl⟩
        · cases ran
          exact .inr ⟨rfl, address, lease, rfl, by simpa using isOpen, found, rfl⟩

theorem close_cases {expired : Nat → Bool} (ran : state.close expired = (rc, after)) :
    (rc ≠ 0 ∧ after = state) ∨
    (rc = 0 ∧ state.outstanding.entries = [] ∧
      (∀ slot, (state.retiredSlots.lookup slot).all expired = true) ∧
      after = { state with retiredSlots := ∅, identity := none, limits := {}, opened := false }) := by
  unfold close at ran
  split_ifs at ran with shut busy kept
  · cases ran
    exact .inl ⟨by decide, rfl⟩
  · cases ran
    exact .inl ⟨by decide, rfl⟩
  · cases ran
    exact .inl ⟨by decide, rfl⟩
  · cases ran
    refine .inr ⟨rfl, by simp_all, fun slot => ?_, rfl⟩
    cases found : state.retiredSlots.lookup slot with
    | none => rfl
    | some owner =>
        have member := mem_entries.mpr found
        simp only [List.any_eq_true, not_exists, not_and, Bool.not_eq_true', Bool.not_eq_false]
          at kept
        exact kept _ member

end CaptureReaderStateV1

/-- The sequences of the rows, in their order. -/
def RecordBatch.sequences (batch : RecordBatch) : List Nat :=
  batch.rows.filterMap (·.sequence)

def RecordBatch.rawBytes (batch : RecordBatch) : Nat :=
  (batch.rows.filterMap (·.rawLen)).sum

theorem acceptsRow_eq_some {identity : CaptureQueueIdentityV1} {before : Option Nat}
    {row : CaptureRow} {captured sequence : Nat}
    (accepted : acceptsRow identity before row = some (captured, sequence)) :
    row.sequence = some sequence ∧ row.rawLen = some captured ∧
      ∀ last ∈ before, last < sequence := by
  obtain ⟨_ | captured', _ | wire, _ | link, _ | source, _ | sequence', _ | raw⟩ := row <;>
    simp only [acceptsRow, Option.bind_eq_bind, Option.bind_none, Option.bind_some,
      reduceCtorEq] at accepted
  split_ifs at accepted with rejected
  cases accepted
  simp only [not_or, Option.any_eq_true, not_exists, not_and, decide_eq_true_eq, not_le,
    not_not] at rejected
  exact ⟨rfl, by rw [rejected.2.2.1], fun last member => by
    have := rejected.2.2.2.2
    simp_all⟩

/-- Rows that are accepted go on from the sequence before them, and have all their bytes counted. -/
theorem acceptRows_eq_some {identity : CaptureQueueIdentityV1} {rows : List CaptureRow}
    {bytes total : Nat} {before next : Option Nat}
    (accepted : acceptRows identity rows bytes before = some (total, next)) :
    total = bytes + (rows.filterMap (·.rawLen)).sum ∧
      (before.toList ++ rows.filterMap (·.sequence)).Pairwise (· < ·) ∧
      next = ((rows.filterMap (·.sequence)).getLast?).or before := by
  induction rows generalizing bytes before with
  | nil =>
      cases accepted
      cases next <;> simp
  | cons row rows ih =>
      rw [acceptRows] at accepted
      split at accepted
      · cases accepted
      · rename_i captured sequence taken
        obtain ⟨hasSequence, hasRaw, above⟩ := acceptsRow_eq_some taken
        obtain ⟨counted, increasing, last⟩ := ih accepted
        have sequences : (row :: rows).filterMap (·.sequence) =
            sequence :: rows.filterMap (·.sequence) := List.filterMap_cons_some hasSequence
        have lengths : (row :: rows).filterMap (·.rawLen) =
            captured :: rows.filterMap (·.rawLen) := List.filterMap_cons_some hasRaw
        rw [sequences, lengths, List.sum_cons, ← Nat.add_assoc]
        refine ⟨counted, ?_, ?_⟩
        · cases before with
          | none => exact increasing
          | some earlier =>
              have first := above earlier rfl
              simp only [Option.toList_some, List.singleton_append, List.pairwise_cons,
                List.mem_cons] at increasing ⊢
              refine ⟨?_, increasing⟩
              rintro other (rfl | member)
              · exact first
              · exact Nat.lt_trans first (increasing.1 other member)
        · rw [last]
          cases rows.filterMap (·.sequence) with
          | nil => rfl
          | cons head tail =>
              rw [List.getLast?_cons_cons, List.getLast?_eq_some_getLast (List.cons_ne_nil _ _)]
              rfl

end Flowsql.Capture
