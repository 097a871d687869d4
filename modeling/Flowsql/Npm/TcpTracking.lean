import Flowsql.Npm.TcpRangeHistory
import Flowsql.Npm.TcpSequenceSpace

/-!
# What the tracker knows about a session

The state of a session is related to the packets that were observed: the history to
their payload ranges, and each outstanding segment that was not sent again to the one
packet that carried it. Every part of `Observe` is described once, by what it keeps
and what it changes, and the relation follows for a whole packet.
-/

namespace Flowsql.Npm

open Flowsql.Library

/-! ## What stays the same -/

/-- The direction keeps its history and counters, and gets no new outstanding segment. -/
structure DirectionState.Keeps (before after : DirectionState) : Prop where
  initialized : after.initialized = before.initialized
  progress : after.progress = before.progress
  history : after.history = before.history
  uniqueBytes : after.uniqueBytes = before.uniqueBytes
  retransBytes : after.retransBytes = before.retransBytes
  outstanding : ∀ segment ∈ after.outstanding, segment ∈ before.outstanding

theorem DirectionState.Keeps.refl (state : DirectionState) : state.Keeps state :=
  ⟨rfl, rfl, rfl, rfl, rfl, fun _ member => member⟩

theorem DirectionState.Keeps.trans {first second third : DirectionState}
    (left : first.Keeps second) (right : second.Keeps third) : first.Keeps third :=
  ⟨right.initialized.trans left.initialized, right.progress.trans left.progress,
    right.history.trans left.history, right.uniqueBytes.trans left.uniqueBytes,
    right.retransBytes.trans left.retransBytes,
    fun segment member => left.outstanding segment (right.outstanding segment member)⟩

namespace PerformanceState

/-- The state keeps everything but outstanding segments and round trip times, as far as
later packets depend on it. -/
structure Keeps (before after : PerformanceState) : Prop where
  transportProtocol : after.transportProtocol = before.transportProtocol
  payloadBytesAb : after.payloadBytesAb = before.payloadBytesAb
  payloadBytesBa : after.payloadBytesBa = before.payloadBytesBa
  sequenceAmbiguous :
    after.measurementFlags.sequenceAmbiguous = before.measurementFlags.sequenceAmbiguous
  timestampRegressed : after.timestampRegressed = before.timestampRegressed
  maxTimestampNs : after.maxTimestampNs = before.maxTimestampNs
  directions : ∀ direction, (before.directions direction).Keeps (after.directions direction)

theorem Keeps.refl (state : PerformanceState) : state.Keeps state :=
  ⟨rfl, rfl, rfl, rfl, rfl, rfl, fun _ => .refl _⟩

theorem Keeps.trans {first second third : PerformanceState} (left : first.Keeps second)
    (right : second.Keeps third) : first.Keeps third :=
  ⟨right.transportProtocol.trans left.transportProtocol,
    right.payloadBytesAb.trans left.payloadBytesAb, right.payloadBytesBa.trans left.payloadBytesBa,
    right.sequenceAmbiguous.trans left.sequenceAmbiguous,
    right.timestampRegressed.trans left.timestampRegressed,
    right.maxTimestampNs.trans left.maxTimestampNs,
    fun direction => (left.directions direction).trans (right.directions direction)⟩

/-- The recorded samples stay as they are. -/
structure SameSamples (before after : PerformanceState) : Prop where
  rttStatus : after.rttStatus = before.rttStatus
  rttSamples : after.rttSamples = before.rttSamples
  rttSumNs : after.rttSumNs = before.rttSumNs
  rttMinNs : after.rttMinNs = before.rttMinNs
  rttMaxNs : after.rttMaxNs = before.rttMaxNs

theorem SameSamples.refl (state : PerformanceState) : state.SameSamples state :=
  ⟨rfl, rfl, rfl, rfl, rfl⟩

theorem SameSamples.trans {first second third : PerformanceState} (left : first.SameSamples second)
    (right : second.SameSamples third) : first.SameSamples third :=
  ⟨right.rttStatus.trans left.rttStatus, right.rttSamples.trans left.rttSamples,
    right.rttSumNs.trans left.rttSumNs, right.rttMinNs.trans left.rttMinNs,
    right.rttMaxNs.trans left.rttMaxNs⟩

/-- Round trip times are ambiguous: nothing recorded is left. -/
structure NoSamples (state : PerformanceState) : Prop where
  rttStatus : state.rttStatus = .ambiguous
  rttSamples : state.rttSamples = 0
  rttSumNs : state.rttSumNs = 0
  rttMinNs : state.rttMinNs = 0
  rttMaxNs : state.rttMaxNs = 0

/-- Exactly one more sample is recorded. -/
structure RecordsSample (before after : PerformanceState) (sample : Int) : Prop where
  usable : before.rttStatus ≠ .ambiguous
  rttStatus : after.rttStatus = .valid
  rttSamples : after.rttSamples = before.rttSamples + 1
  rttSumNs : after.rttSumNs = before.rttSumNs + sample.toNat
  rttMinNs : after.rttMinNs = if before.rttSamples = 0 then sample else min before.rttMinNs sample
  rttMaxNs : after.rttMaxNs = if before.rttSamples = 0 then sample else max before.rttMaxNs sample

variable {sizes : TrackerSizes} {state : PerformanceState} {ledger : TrackerLedger}

/-! ## Parts of an observation -/

theorem releaseSegments_fst (count : Nat) :
    (releaseSegments sizes count state ledger).1 =
      { state with
        trackedBytes := if count = 0 then state.trackedBytes
          else state.trackedBytes - UInt64.ofNat (count * sizes.segment) } := by
  unfold releaseSegments
  split <;> rfl

theorem clearOutstanding_fst_directions :
    (clearOutstanding sizes state ledger).1.directions =
      fun direction => { state.directions direction with outstanding := [] } := by
  rw [clearOutstanding, releaseSegments_fst]

theorem keeps_markRttAmbiguous : state.Keeps (markRttAmbiguous sizes state ledger).1 := by
  unfold markRttAmbiguous clearOutstanding
  rw [releaseSegments_fst]
  exact ⟨rfl, rfl, rfl, rfl, rfl, rfl, fun direction =>
    ⟨rfl, rfl, rfl, rfl, rfl, fun _ member => absurd member List.not_mem_nil⟩⟩

theorem noSamples_markRttAmbiguous : (markRttAmbiguous sizes state ledger).1.NoSamples := by
  unfold markRttAmbiguous clearOutstanding
  rw [releaseSegments_fst]
  exact ⟨rfl, rfl, rfl, rfl, rfl⟩

theorem keeps_addRttSample (sample : Int) :
    state.Keeps (addRttSample sizes sample state ledger).1 := by
  unfold addRttSample
  simp only
  split
  · exact .refl _
  split
  · exact keeps_markRttAmbiguous
  · exact ⟨rfl, rfl, rfl, rfl, rfl, rfl, fun _ => .refl _⟩

theorem samples_addRttSample (usable : state.rttStatus ≠ .ambiguous) (sample : Int) :
    (addRttSample sizes sample state ledger).1.NoSamples ∨
      RecordsSample state (addRttSample sizes sample state ledger).1 sample := by
  unfold addRttSample
  simp only [if_neg usable]
  split
  · exact .inl noSamples_markRttAmbiguous
  · exact .inr ⟨usable, rfl, rfl, rfl, rfl, rfl⟩

/-- The latest time is that of a segment that is acknowledged and was not sent again. -/
theorem exists_of_latestSentAt {acknowledgment sentAt : Int} {segments : List OutstandingSegment}
    {latest : Option Int} (found : latestSentAt acknowledgment segments latest = some sentAt) :
    latest = some sentAt ∨ ∃ segment ∈ segments, segment.sequenceEnd ≤ acknowledgment ∧
      segment.retransmitted = false ∧ segment.sentAtNs = sentAt := by
  induction segments generalizing latest with
  | nil => exact .inl found
  | cons segment rest ih =>
      rw [latestSentAt] at found
      split at found
      · exact (ih found).imp_right fun ⟨other, member, facts⟩ =>
          ⟨other, List.mem_cons_of_mem _ member, facts⟩
      split at found
      · next acknowledged fresh =>
          simp only [Bool.and_eq_true, Bool.not_eq_true'] at fresh
          rcases ih found with same | ⟨other, member, facts⟩
          · exact .inr ⟨segment, List.mem_cons_self, not_lt.mp acknowledged, fresh.1,
              Option.some.inj same⟩
          · exact .inr ⟨other, List.mem_cons_of_mem _ member, facts⟩
      · exact (ih found).imp_right fun ⟨other, member, facts⟩ =>
          ⟨other, List.mem_cons_of_mem _ member, facts⟩

theorem nonnegativeDelta_some {endNs startNs delta : Int}
    (found : nonnegativeDelta endNs startNs = some delta) :
    delta = endNs - startNs ∧ 0 ≤ delta := by
  unfold nonnegativeDelta at found
  split at found
  · cases found
  split at found
  · cases found
  · cases found
    omega

theorem highestAck_markRttAmbiguous (direction : PacketDirection) :
    ((markRttAmbiguous sizes state ledger).1.directions direction).highestAck =
      (state.directions direction).highestAck := by
  unfold markRttAmbiguous
  rw [clearOutstanding_fst_directions]

theorem highestAck_addRttSample (sample : Int) (direction : PacketDirection) :
    ((addRttSample sizes sample state ledger).1.directions direction).highestAck =
      (state.directions direction).highestAck := by
  unfold addRttSample
  simp only
  split
  · rfl
  split
  · exact highestAck_markRttAmbiguous direction
  · rfl

/-- A sample is the time since a segment was sent whose acknowledgment has arrived. -/
def JustifiesSample (outstanding : List OutstandingSegment) (acknowledgment timestampNs sample : Int) :
    Prop :=
  0 ≤ sample ∧ ∃ segment ∈ outstanding, segment.sequenceEnd ≤ acknowledgment ∧
    segment.retransmitted = false ∧ sample = timestampNs - segment.sentAtNs

/-- What an acknowledgment does to a session. -/
structure AcknowledgmentEffect (direction : PacketDirection) (acknowledgment timestampNs : Int)
    (before after : PerformanceState) : Prop where
  keeps : before.Keeps after
  highestAck : (after.directions direction).highestAck =
    some ((before.directions direction).highestAck.elim acknowledgment (max · acknowledgment))
  others : ∀ other, other ≠ direction →
    (after.directions other).highestAck = (before.directions other).highestAck
  samples : before.SameSamples after ∨ after.NoSamples ∨
    ∃ sample, before.RecordsSample after sample ∧
      (∀ highest ∈ (before.directions direction).highestAck, highest < acknowledgment) ∧
      JustifiesSample (before.directions direction).outstanding acknowledgment timestampNs sample

/-- An acknowledgment that is noted, before the round trip is measured. -/
theorem keeps_setDirection {direction : PacketDirection} {value : DirectionState}
    (kept : (state.directions direction).Keeps value) :
    state.Keeps (state.setDirection direction value) := by
  refine ⟨rfl, rfl, rfl, rfl, rfl, rfl, fun other => ?_⟩
  by_cases same : other = direction
  · subst same
    simpa [setDirection] using kept
  · simpa [setDirection, same] using DirectionState.Keeps.refl _

/-- Segments leave the direction when they are acknowledged. -/
theorem keeps_retire (direction : PacketDirection) (highestAck : Option Int)
    (remains : OutstandingSegment → Bool) :
    state.Keeps (state.setDirection direction
      { state.directions direction with
        highestAck := highestAck
        outstanding := (state.directions direction).outstanding.filter remains }) :=
  keeps_setDirection ⟨rfl, rfl, rfl, rfl, rfl, fun _ member => (List.mem_filter.mp member).1⟩

theorem observeAcknowledgment_effect (direction : PacketDirection)
    (acknowledgment timestampNs : Int) :
    AcknowledgmentEffect direction acknowledgment timestampNs state
      (observeAcknowledgment sizes direction acknowledgment timestampNs state ledger).1 := by
  unfold observeAcknowledgment
  simp only
  split
  · next advances =>
      have higher : ∀ highest ∈ (state.directions direction).highestAck, highest < acknowledgment := by
        simpa [Option.all_eq_true] using advances
      have highestEq : some acknowledgment =
          some ((state.directions direction).highestAck.elim acknowledgment
            (max · acknowledgment)) := by
        cases highest : (state.directions direction).highestAck with
        | none => rfl
        | some value =>
            have below := higher value highest
            simp only [Option.elim_some]
            rw [max_eq_right below.le]
      split
      · refine ⟨keeps_setDirection ⟨rfl, rfl, rfl, rfl, rfl, fun _ member => member⟩, ?_, ?_,
          .inl ⟨rfl, rfl, rfl, rfl, rfl⟩⟩
        · simpa [setDirection] using highestEq
        · intro other different
          simp [setDirection, different]
      · next usable =>
          generalize releasedEq : releaseSegments sizes _ _ ledger = released
          have releasedFst : released.1 = _ := releasedEq ▸ releaseSegments_fst _
          have keeps : state.Keeps released.1 := by
            rw [releasedFst]
            refine ⟨rfl, rfl, rfl, rfl, rfl, rfl, ?_⟩
            exact (keeps_retire direction (some acknowledgment) _).directions
          have same : state.SameSamples released.1 := by
            rw [releasedFst]
            exact ⟨rfl, rfl, rfl, rfl, rfl⟩
          have noted : (released.1.directions direction).highestAck = some acknowledgment := by
            rw [releasedFst]
            simp [setDirection]
          have others : ∀ other, other ≠ direction →
              (released.1.directions other).highestAck = (state.directions other).highestAck := by
            intro other different
            rw [releasedFst]
            simp [setDirection, different]
          obtain ⟨next, nextLedger⟩ := released
          simp only at keeps same noted others ⊢
          rw [highestEq] at noted
          split
          · exact ⟨keeps, noted, others, .inl same⟩
          · next sentAt found =>
              split
              · refine ⟨keeps.trans keeps_markRttAmbiguous, ?_, ?_,
                  .inr (.inl noSamples_markRttAmbiguous)⟩
                · rw [highestAck_markRttAmbiguous, noted]
                · intro other different
                  rw [highestAck_markRttAmbiguous, others other different]
              · next sample sampleEq =>
                  obtain ⟨sampleIs, nonnegative⟩ := nonnegativeDelta_some sampleEq
                  obtain ⟨segment, member, acknowledged, once, sent⟩ :=
                    (exists_of_latestSentAt found).resolve_left (by simp)
                  refine ⟨keeps.trans (keeps_addRttSample sample), ?_, ?_, .inr ?_⟩
                  · rw [highestAck_addRttSample, noted]
                  · intro other different
                    rw [highestAck_addRttSample, others other different]
                  · refine (samples_addRttSample (same.rttStatus ▸ usable) sample).imp_right ?_
                    intro recorded
                    refine ⟨sample, ⟨usable, recorded.rttStatus, ?_, ?_, ?_, ?_⟩, higher, nonnegative,
                      segment, member, acknowledged, once, by rw [sampleIs, sent]⟩
                    · rw [recorded.rttSamples, same.rttSamples]
                    · rw [recorded.rttSumNs, same.rttSumNs]
                    · rw [recorded.rttMinNs, same.rttSamples, same.rttMinNs]
                    · rw [recorded.rttMaxNs, same.rttSamples, same.rttMaxNs]
  · next stays =>
      refine ⟨.refl _, ?_, fun _ _ => rfl, .inl (.refl _)⟩
      cases highest : (state.directions direction).highestAck with
      | none => simp [highest] at stays
      | some value =>
          have notAbove : ¬ acknowledgment > value := by simpa [highest] using stays
          simp only [Option.elim_some]
          rw [max_eq_left (not_lt.mp notAbove)]

end PerformanceState

/-! ## One direction -/

/-- The history and the counters of a direction are those of its packets. -/
structure RangesTracked (packets : List PlacedPacket) (direction : PacketDirection)
    (state : DirectionState) : Prop where
  follows : FollowsProgress direction packets state
  separated : Span.Separated (spans state.history)
  covered : Span.covered (spans state.history) = Span.covered (payloadSpans direction packets)
  unique : state.uniqueBytes = (Span.covered (payloadSpans direction packets)).card
  total : state.uniqueBytes + state.retransBytes =
    payloadBytes direction (packets.map PlacedPacket.packet)

/-- The segment is a packet's payload, and no other packet carried any of it. -/
def SentOnce (packets : List PlacedPacket) (direction : PacketDirection)
    (segment : OutstandingSegment) : Prop :=
  ∃ before sent after, packets = before ++ sent :: after ∧ sent.direction = direction ∧
    sent.begin = segment.sequenceBegin ∧ sent.end_ = segment.sequenceEnd ∧
    sent.begin < sent.end_ ∧ sent.packet.timestampNs = segment.sentAtNs ∧
    ∀ other ∈ before ++ after, other.direction = direction →
      Disjoint (Finset.Ico other.begin other.end_) (Finset.Ico sent.begin sent.end_)

/-- Every outstanding segment that is not marked was sent once. -/
def OutstandingTracked (packets : List PlacedPacket) (direction : PacketDirection)
    (state : DirectionState) : Prop :=
  ∀ segment ∈ state.outstanding, segment.retransmitted = false →
    SentOnce packets direction segment

theorem RangesTracked.of_keeps {packets : List PlacedPacket} {direction : PacketDirection}
    {before after : DirectionState} (tracked : RangesTracked packets direction before)
    (kept : before.Keeps after) : RangesTracked packets direction after := by
  obtain ⟨follows, separated, covered, unique, total⟩ := tracked
  refine ⟨?_, ?_, ?_, ?_, ?_⟩
  · unfold FollowsProgress
    rw [kept.initialized, kept.progress]
    exact follows
  · rwa [kept.history]
  · rwa [kept.history]
  · rwa [kept.uniqueBytes]
  · rwa [kept.uniqueBytes, kept.retransBytes]

theorem OutstandingTracked.of_keeps {packets : List PlacedPacket} {direction : PacketDirection}
    {before after : DirectionState} (tracked : OutstandingTracked packets direction before)
    (kept : before.Keeps after) : OutstandingTracked packets direction after :=
  fun segment member => tracked segment (kept.outstanding segment member)

/-- A packet of the other direction changes nothing. -/
theorem RangesTracked.concat_other {packets : List PlacedPacket} {direction : PacketDirection}
    {state : DirectionState} {next : PlacedPacket} (tracked : RangesTracked packets direction state)
    (other : next.direction ≠ direction) : RangesTracked (packets ++ [next]) direction state := by
  obtain ⟨follows, separated, covered, unique, total⟩ := tracked
  refine ⟨?_, separated, ?_, ?_, ?_⟩
  · unfold FollowsProgress
    rw [progressOf_concat_other other]
    exact follows
  · rwa [payloadSpans_concat_other other]
  · rwa [payloadSpans_concat_other other]
  · rwa [List.map_append, List.map_singleton, payloadBytes_concat_other other]

/-- One more packet that has nothing in common with the segment. -/
theorem SentOnce.concat {packets : List PlacedPacket} {direction : PacketDirection}
    {segment : OutstandingSegment} {next : PlacedPacket} (once : SentOnce packets direction segment)
    (apart : next.direction = direction →
      Disjoint (Finset.Ico next.begin next.end_)
        (Finset.Ico segment.sequenceBegin segment.sequenceEnd)) :
    SentOnce (packets ++ [next]) direction segment := by
  obtain ⟨before, sent, after, rfl, same, first, last, nonempty, sentAt, alone⟩ := once
  refine ⟨before, sent, after ++ [next], by simp, same, first, last, nonempty, sentAt, ?_⟩
  intro other member otherSame
  rw [← List.append_assoc, List.mem_append, List.mem_singleton] at member
  rcases member with earlier | rfl
  · exact alone other earlier otherSame
  · rw [first, last]
    exact apart otherSame

theorem OutstandingTracked.concat_other {packets : List PlacedPacket} {direction : PacketDirection}
    {state : DirectionState} {next : PlacedPacket}
    (tracked : OutstandingTracked packets direction state) (other : next.direction ≠ direction) :
    OutstandingTracked (packets ++ [next]) direction state :=
  fun segment member fresh =>
    (tracked segment member fresh).concat fun same => absurd same other

section Commit

variable {packets : List PlacedPacket} {outgoing : DirectionState} {packet : PacketView}
  {placement : PacketPlacement} {segment : OutstandingSegment} {newOutstanding : Bool}

/-- The payload of the packet against the history of its direction. -/
theorem historyStep_commit
    (tracked : RangesTracked packets packet.direction outgoing)
    (first : segment.sequenceBegin = (placement.toPlaced packet).begin)
    (last : segment.sequenceEnd = (placement.toPlaced packet).end_) :
    let scan := scanRange segment.sequenceBegin segment.sequenceEnd outgoing.history
    HistoryStep segment.sequenceBegin segment.sequenceEnd outgoing.history scan.overlap
      (scan.commit segment (decide (segment.sequenceEnd > segment.sequenceBegin))
        outgoing.history) := by
  intro scan
  by_cases nonempty : segment.sequenceBegin < segment.sequenceEnd
  · rw [decide_eq_true nonempty]
    refine historyStep_of_scan tracked.separated nonempty ?_
    have small := packet.transport.payloadWireBytes.toNat_lt
    rw [first, last]
    simp only [PlacedPacket.end_, PlacedPacket.payload, PacketPlacement.toPlaced]
    unfold maxUInt64
    omega
  · have scanEq : scan = _ := if_neg nonempty
    rw [decide_eq_false nonempty, scanEq]
    refine ⟨tracked.separated, ?_, ?_⟩
    · rw [Finset.Ico_eq_empty nonempty, Finset.empty_union]
      rfl
    · rw [Finset.Ico_eq_empty nonempty, Finset.empty_inter]
      rfl

theorem payloadSpans_toPlaced :
    Span.covered (payloadSpans packet.direction (packets ++ [placement.toPlaced packet])) =
      Finset.Ico (placement.toPlaced packet).begin (placement.toPlaced packet).end_ ∪
        Span.covered (payloadSpans packet.direction packets) := by
  rw [payloadSpans_concat_same (placement.direction_toPlaced packet), Span.covered_append, Span.covered_cons, Span.covered_nil,
    Finset.union_empty, Finset.union_comm]

theorem rangesTracked_commit
    (tracked : RangesTracked packets packet.direction outgoing)
    (sequenceEnd :
      (placement.toPlaced packet).sequenceEnd = placement.sequence + placement.sequenceLength)
    (first : segment.sequenceBegin = (placement.toPlaced packet).begin)
    (last : segment.sequenceEnd = (placement.toPlaced packet).end_)
    (bounded : payloadBytes packet.direction (packets.map PlacedPacket.packet) +
      packet.transport.payloadWireBytes.toNat ≤ maxUInt64) :
    RangesTracked (packets ++ [placement.toPlaced packet]) packet.direction
      (outgoing.commit placement
        (scanRange segment.sequenceBegin segment.sequenceEnd outgoing.history) segment
        packet.transport.payloadWireBytes.toNat newOutstanding) := by
  have step := historyStep_commit tracked first last
  simp only at step
  generalize scanRange segment.sequenceBegin segment.sequenceEnd outgoing.history = scan at step ⊢
  obtain ⟨separated, covered, overlapEq⟩ := step
  have length : (segment.sequenceEnd - segment.sequenceBegin).toNat =
      packet.transport.payloadWireBytes.toNat := by
    rw [first, last]
    simp only [PlacedPacket.end_, PlacedPacket.payload, PacketPlacement.toPlaced]
    omega
  -- The payload is split into the bytes that are new and those that are not.
  have measure : (Finset.Ico segment.sequenceBegin segment.sequenceEnd ∪
      Span.covered (spans outgoing.history)).card + scan.overlap =
      packet.transport.payloadWireBytes.toNat + (Span.covered (spans outgoing.history)).card := by
    rw [overlapEq, Finset.card_union_add_card_inter, Int.card_Ico, length]
  have overlapLe : scan.overlap ≤ packet.transport.payloadWireBytes.toNat := by
    rw [overlapEq, ← length, ← Int.card_Ico]
    exact Finset.card_le_card Finset.inter_subset_left
  have unique := tracked.unique
  have total := tracked.total
  rw [← tracked.covered] at unique
  have uniqueAfter : addUInt64 outgoing.uniqueBytes
      (subUInt64 packet.transport.payloadWireBytes.toNat scan.overlap) =
      outgoing.uniqueBytes + (packet.transport.payloadWireBytes.toNat - scan.overlap) := by
    rw [subUInt64_eq overlapLe (by omega), addUInt64_eq (by omega)]
  have retransAfter : (if scan.overlap ≠ 0 then addUInt64 outgoing.retransBytes scan.overlap
      else outgoing.retransBytes) = outgoing.retransBytes + scan.overlap := by
    split
    · exact addUInt64_eq (by omega)
    · omega
  constructor
  · unfold FollowsProgress
    rw [progressOf_concat_same (placement.direction_toPlaced packet), sequenceEnd]
    have follows := tracked.follows
    unfold FollowsProgress at follows
    cases started : outgoing.initialized with
    | false =>
        rw [follows, started]
        simp [DirectionState.commit, started]
    | true =>
        rw [follows, started]
        simp [DirectionState.commit, started]
  · exact separated
  · change Span.covered (spans (scan.commit segment _ outgoing.history)) = _
    rw [covered, payloadSpans_toPlaced, tracked.covered, first, last]
  · change addUInt64 outgoing.uniqueBytes _ = _
    rw [payloadSpans_toPlaced, ← tracked.covered, ← first, ← last, uniqueAfter]
    omega
  · change addUInt64 outgoing.uniqueBytes _ + (if scan.overlap ≠ 0 then _ else _) = _
    rw [uniqueAfter, retransAfter, List.map_append, List.map_singleton,
      PacketPlacement.packet_toPlaced, payloadBytes_concat_same rfl]
    omega

/-- A packet marks the segments that it sends again. What is left unmarked has nothing
in common with it. -/
theorem outstandingTracked_commit
    (tracked : RangesTracked packets packet.direction outgoing)
    (outstanding : OutstandingTracked packets packet.direction outgoing)
    (first : segment.sequenceBegin = (placement.toPlaced packet).begin)
    (last : segment.sequenceEnd = (placement.toPlaced packet).end_)
    (sentAt : segment.sentAtNs = packet.timestampNs)
    (marked : segment.retransmitted = decide
      ((scanRange segment.sequenceBegin segment.sequenceEnd outgoing.history).overlap ≠ 0))
    (nonempty : newOutstanding = true → segment.sequenceBegin < segment.sequenceEnd) :
    OutstandingTracked (packets ++ [placement.toPlaced packet]) packet.direction
      (outgoing.commit placement
        (scanRange segment.sequenceBegin segment.sequenceEnd outgoing.history) segment
        packet.transport.payloadWireBytes.toNat newOutstanding) := by
  have step := historyStep_commit tracked first last
  simp only at step
  generalize scanRange segment.sequenceBegin segment.sequenceEnd outgoing.history = scan at *
  -- Without an overlap the payload is apart from that of every packet before.
  have apart : scan.overlap = 0 → ∀ other ∈ packets, other.direction = packet.direction →
      Disjoint (Finset.Ico other.begin other.end_)
        (Finset.Ico segment.sequenceBegin segment.sequenceEnd) := by
    intro none_ other member same
    rw [step.overlap_eq, Finset.card_eq_zero, ← Finset.disjoint_iff_inter_eq_empty,
      tracked.covered] at none_
    refine (none_.mono_right ?_).symm
    intro position inside
    rw [Span.mem_covered]
    refine ⟨(other.begin, other.end_), ?_, Finset.mem_Ico.mp inside⟩
    exact List.mem_map_of_mem (List.mem_filter.mpr ⟨member, decide_eq_true same⟩)
  have nextApart : ∀ {old : OutstandingSegment}, SentOnce packets packet.direction old →
      (scan.overlap ≠ 0 → ¬ (old.sequenceBegin < segment.sequenceEnd ∧
        segment.sequenceBegin < old.sequenceEnd)) →
      SentOnce (packets ++ [placement.toPlaced packet]) packet.direction old := by
    intro old once away
    refine once.concat fun _ => ?_
    rw [← first, ← last]
    by_cases overlaps : scan.overlap = 0
    · obtain ⟨before, sent, after, rfl, same, begins, ends, _⟩ := once
      rw [← begins, ← ends]
      exact (apart overlaps sent (by simp) same).symm
    · rw [Finset.disjoint_left]
      intro position inside within
      rw [Finset.mem_Ico] at inside within
      exact away overlaps (by omega)
  intro new member fresh
  have cases_ : new ∈ (if scan.overlap ≠ 0 then
      outgoing.outstanding.map
        (OutstandingSegment.markRetransmitted segment.sequenceBegin segment.sequenceEnd)
      else outgoing.outstanding) ∨ newOutstanding = true ∧ new = segment := by
    simp only [DirectionState.commit] at member
    by_cases added : newOutstanding = true
    · rw [if_pos added, List.mem_append, List.mem_singleton] at member
      exact member.imp_right fun same => ⟨added, same⟩
    · rw [if_neg added] at member
      exact .inl member
  rcases cases_ with old | ⟨added, rfl⟩
  · by_cases overlaps : scan.overlap = 0
    · rw [if_neg (by simpa using overlaps)] at old
      exact nextApart (outstanding new old fresh) fun someOverlap => absurd overlaps someOverlap
    · rw [if_pos overlaps] at old
      obtain ⟨segment', inside, rfl⟩ := List.mem_map.mp old
      unfold OutstandingSegment.markRetransmitted at fresh ⊢
      split at fresh
      · cases fresh
      · next away =>
          rw [if_neg away]
          exact nextApart (outstanding segment' inside fresh) fun _ => away
  · have noOverlap : scan.overlap = 0 := by simpa [marked] using fresh
    refine ⟨packets, placement.toPlaced packet, [], rfl, rfl, first.symm, last.symm, ?_, sentAt.symm,
      ?_⟩
    · rw [← first, ← last]
      exact nonempty added
    · intro other otherMember same
      rw [← first, ← last]
      exact apart noOverlap other (by simpa using otherMember) same

end Commit

/-! ## A whole session -/

namespace PerformanceState

/-- The payload counter of a direction. -/
def payloadCount (state : PerformanceState) : PacketDirection → Nat
  | .aToB => state.payloadBytesAb
  | .bToA => state.payloadBytesBa

end PerformanceState

/-- The directions of a session that is not ambiguous, against its placed packets. -/
structure SessionPlaced (packets : List PlacedPacket) (state : PerformanceState) : Prop where
  places : Placed packets
  ranges : ∀ direction, RangesTracked packets direction (state.directions direction)
  outstanding : state.rttStatus ≠ .ambiguous →
    ∀ direction, OutstandingTracked packets direction (state.directions direction)
  highestAck : state.rttStatus ≠ .ambiguous →
    ∀ direction, (state.directions direction).highestAck = highestAckOf direction packets

/-- A sample is the time from a packet to the acknowledgment that covers it, where the
acknowledgment is higher than all before it and no other packet carried any of the
same payload. -/
structure KarnSample (packets : List PlacedPacket) (acking : PlacedPacket) (sample : Int) :
    Prop where
  nonnegative : 0 ≤ sample
  measured : ∃ ack, acking.ack = some ack ∧
    (∀ highest ∈ highestAckOf acking.direction.opposite packets, highest < ack) ∧
    ∃ before sent after, packets = before ++ sent :: after ∧
      sent.direction = acking.direction.opposite ∧ sent.begin < sent.end_ ∧ sent.end_ ≤ ack ∧
      sample = acking.packet.timestampNs - sent.packet.timestampNs ∧
      ∀ other ∈ before ++ after, other.direction = sent.direction →
        Disjoint (Finset.Ico other.begin other.end_) (Finset.Ico sent.begin sent.end_)

/-- What one packet does to the recorded samples. -/
inductive SampleEffect (packets : List PlacedPacket) (next : PlacedPacket)
    (before after : PerformanceState) : Prop where
  | same (same : before.SameSamples after)
  | dropped (dropped : after.NoSamples)
  | recorded (sample : Int) (records : before.RecordsSample after sample)
      (karn : KarnSample packets next sample)

theorem highestAckOf_concat_other {packets : List PlacedPacket} {next : PlacedPacket}
    {direction : PacketDirection} (other : next.direction ≠ direction.opposite) :
    highestAckOf direction (packets ++ [next]) = highestAckOf direction packets := by
  rw [highestAckOf, inDirection_concat_other other, highestAckOf]

theorem highestAckOf_concat_none {packets : List PlacedPacket} {next : PlacedPacket}
    {direction : PacketDirection} (nothing : next.ack = none) :
    highestAckOf direction (packets ++ [next]) = highestAckOf direction packets := by
  by_cases same : next.direction = direction.opposite
  · rw [highestAckOf, inDirection_concat_same same, List.filterMap_append]
    simp [nothing, highestAckOf]
  · exact highestAckOf_concat_other same

theorem highestAckOf_concat_some {packets : List PlacedPacket} {next : PlacedPacket}
    {direction : PacketDirection} {ack : Int} (same : next.direction = direction.opposite)
    (found : next.ack = some ack) :
    highestAckOf direction (packets ++ [next]) =
      some ((highestAckOf direction packets).elim ack (max · ack)) := by
  rw [highestAckOf, inDirection_concat_same same, List.filterMap_append, highestAckOf]
  simp only [List.filterMap_cons, found, List.filterMap_nil]
  exact max?_concat _ _

namespace PerformanceState

variable {sizes : TrackerSizes} {state : PerformanceState} {ledger : TrackerLedger}

/-- The state with the packet in its direction's history, before its acknowledgment is
looked at. -/
structure Committed (direction : PacketDirection) (value : DirectionState)
    (before after : PerformanceState) : Prop where
  transportProtocol : after.transportProtocol = before.transportProtocol
  payloadBytesAb : after.payloadBytesAb = before.payloadBytesAb
  payloadBytesBa : after.payloadBytesBa = before.payloadBytesBa
  measurementFlags : after.measurementFlags = before.measurementFlags
  timestampRegressed : after.timestampRegressed = before.timestampRegressed
  maxTimestampNs : after.maxTimestampNs = before.maxTimestampNs
  samples : before.SameSamples after
  own : after.directions direction = value
  others : ∀ other, other ≠ direction → after.directions other = before.directions other

/-- The range of a packet, as it is put into the lists. -/
def packetSegment (packet : PacketView) (placement : PacketPlacement)
    (history : List OutstandingSegment) : OutstandingSegment :=
  let placed := placement.toPlaced packet
  { sequenceBegin := placed.begin, sequenceEnd := placed.end_, sentAtNs := packet.timestampNs
    retransmitted := decide ((scanRange placed.begin placed.end_ history).overlap ≠ 0) }

/-- The direction of a packet after its payload is committed. -/
def committedDirection (packet : PacketView) (placement : PacketPlacement)
    (state : PerformanceState) : DirectionState :=
  let outgoing := state.directions packet.direction
  let segment := packetSegment packet placement outgoing.history
  outgoing.commit placement
    (scanRange segment.sequenceBegin segment.sequenceEnd outgoing.history) segment
    packet.transport.payloadWireBytes.toNat
    (outgoing.awaitsAck (!state.regressedBy packet && decide (state.rttStatus ≠ .ambiguous))
      segment.sequenceBegin segment.sequenceEnd)

/-- How a packet that has a place and meets no error changes a session. -/
theorem observePlaced_ok {maxRanges : Nat} {allocations : TrackerAllocations}
    {packet : PacketView} {placement : PacketPlacement} {after : PerformanceState}
    {nextLedger : TrackerLedger}
    (ok : observePlaced sizes maxRanges allocations packet placement state ledger =
      (.none, after, nextLedger)) :
    ∃ committed ledger',
      Committed packet.direction (committedDirection packet placement state) state committed ∧
      after =
        match placement.ack with
        | some acknowledgment =>
            if state.regressedBy packet then committed
            else
              (observeAcknowledgment sizes packet.direction.opposite acknowledgment
                packet.timestampNs committed ledger').1
        | none => committed := by
  unfold observePlaced at ok
  simp only at ok
  split at ok
  · cases ok
  · split at ok
    · next reserved staged _ =>
        generalize releasedEq : releaseSegments sizes _ _ staged = released at ok
        have releasedFst : released.1 = _ := releasedEq ▸ releaseSegments_fst _
        refine ⟨released.1.setDirection packet.direction (committedDirection packet placement state),
          released.2, ⟨?_, ?_, ?_, ?_, ?_, ?_, ⟨?_, ?_, ?_, ?_, ?_⟩, Function.update_self .., ?_⟩, ?_⟩
        all_goals try rw [releasedFst]; rfl
        · intro other different
          rw [releasedFst]
          exact Function.update_of_ne different ..
        · change (match placement.ack with
            | some acknowledgment => _
            | none => _) = _ at ok
          cases ackEq : placement.ack with
          | none =>
              rw [ackEq] at ok
              exact (congrArg (fun result => result.2.1) ok).symm
          | some acknowledgment =>
              rw [ackEq] at ok
              simp only at ok ⊢
              split at ok
              · next regressed =>
                  rw [if_pos regressed]
                  exact (congrArg (fun result => result.2.1) ok).symm
              · next inOrder =>
                  rw [if_neg inOrder]
                  exact (congrArg (fun result => result.2.1) ok).symm
    · next failed _ =>
        cases ok
        exact (failed rfl).elim

/-- How an accepted packet changes a session whose packets are placed. -/
structure PacketObserved (packets : List PlacedPacket) (next : PlacedPacket)
    (before after : PerformanceState) : Prop where
  transportProtocol : after.transportProtocol = before.transportProtocol
  payloadBytesAb : after.payloadBytesAb = before.payloadBytesAb
  payloadBytesBa : after.payloadBytesBa = before.payloadBytesBa
  sequenceAmbiguous :
    after.measurementFlags.sequenceAmbiguous = before.measurementFlags.sequenceAmbiguous
  timestampRegressed : after.timestampRegressed = before.timestampRegressed
  maxTimestampNs : after.maxTimestampNs = before.maxTimestampNs
  place : PlacedNext packets next
  ranges : ∀ direction, RangesTracked (packets ++ [next]) direction (after.directions direction)
  outstanding : after.rttStatus ≠ .ambiguous →
    ∀ direction, OutstandingTracked (packets ++ [next]) direction (after.directions direction)
  highestAck : after.rttStatus ≠ .ambiguous → before.regressedBy next.packet = false →
    ∀ direction, (after.directions direction).highestAck = highestAckOf direction (packets ++ [next])
  samples : SampleEffect packets next before after

section Observed

variable {packets : List PlacedPacket} {packet : PacketView} {placement : PacketPlacement}
  {committed : PerformanceState}

theorem Committed.ranges (placed : SessionPlaced packets state)
    (commits : Committed packet.direction (committedDirection packet placement state) state committed)
    (sequenceEnd :
      (placement.toPlaced packet).sequenceEnd = placement.sequence + placement.sequenceLength)
    (bounded : payloadBytes packet.direction (packets.map PlacedPacket.packet) +
      packet.transport.payloadWireBytes.toNat ≤ maxUInt64) (direction : PacketDirection) :
    RangesTracked (packets ++ [placement.toPlaced packet]) direction
      (committed.directions direction) := by
  by_cases same : direction = packet.direction
  · subst same
    rw [commits.own]
    exact rangesTracked_commit (placed.ranges _) sequenceEnd rfl rfl bounded
  · rw [commits.others direction same]
    exact (placed.ranges direction).concat_other (Ne.symm same)

theorem Committed.outstanding (placed : SessionPlaced packets state)
    (commits : Committed packet.direction (committedDirection packet placement state) state committed)
    (usable : state.rttStatus ≠ .ambiguous) (direction : PacketDirection) :
    OutstandingTracked (packets ++ [placement.toPlaced packet]) direction
      (committed.directions direction) := by
  by_cases same : direction = packet.direction
  · subst same
    rw [commits.own]
    refine outstandingTracked_commit (placed.ranges _) (placed.outstanding usable _) rfl rfl rfl rfl ?_
    intro awaits
    unfold DirectionState.awaitsAck at awaits
    simp only [Bool.and_eq_true, decide_eq_true_eq] at awaits
    exact awaits.1.1.1
  · rw [commits.others direction same]
    exact (placed.outstanding usable direction).concat_other (Ne.symm same)

/-- The commit itself looks at no acknowledgment. -/
theorem Committed.highestAck
    (commits : Committed packet.direction (committedDirection packet placement state) state committed)
    (direction : PacketDirection) :
    (committed.directions direction).highestAck = (state.directions direction).highestAck := by
  by_cases same : direction = packet.direction
  · subst same
    rw [commits.own]
    rfl
  · rw [commits.others direction same]

/-- A packet without an acknowledgment to look at. -/
theorem Committed.observed (placed : SessionPlaced packets state)
    (commits : Committed packet.direction (committedDirection packet placement state) state committed)
    (place : PlacedNext packets (placement.toPlaced packet))
    (sequenceEnd :
      (placement.toPlaced packet).sequenceEnd = placement.sequence + placement.sequenceLength)
    (bounded : payloadBytes packet.direction (packets.map PlacedPacket.packet) +
      packet.transport.payloadWireBytes.toNat ≤ maxUInt64)
    (nothing : placement.ack = none ∨ state.regressedBy packet = true) :
    PacketObserved packets (placement.toPlaced packet) state committed where
  transportProtocol := commits.transportProtocol
  payloadBytesAb := commits.payloadBytesAb
  payloadBytesBa := commits.payloadBytesBa
  sequenceAmbiguous := congrArg MeasurementFlags.sequenceAmbiguous commits.measurementFlags
  timestampRegressed := commits.timestampRegressed
  maxTimestampNs := commits.maxTimestampNs
  place := place
  ranges := commits.ranges placed sequenceEnd bounded
  outstanding := fun usable =>
    commits.outstanding placed (commits.samples.rttStatus ▸ usable)
  highestAck := by
    intro usable inOrder direction
    rw [commits.highestAck, placed.highestAck (commits.samples.rttStatus ▸ usable) direction]
    refine (highestAckOf_concat_none ?_).symm
    exact nothing.resolve_right (by simpa using inOrder)
  samples := .same commits.samples

/-- A packet with an acknowledgment, in time order. -/
theorem Committed.acknowledged (placed : SessionPlaced packets state)
    (commits : Committed packet.direction (committedDirection packet placement state) state committed)
    (place : PlacedNext packets (placement.toPlaced packet))
    (sequenceEnd :
      (placement.toPlaced packet).sequenceEnd = placement.sequence + placement.sequenceLength)
    (bounded : payloadBytes packet.direction (packets.map PlacedPacket.packet) +
      packet.transport.payloadWireBytes.toNat ≤ maxUInt64)
    {acknowledgment : Int} (ackEq : placement.ack = some acknowledgment)
    {after : PerformanceState}
    (effect : AcknowledgmentEffect packet.direction.opposite acknowledgment packet.timestampNs
      committed after) :
    PacketObserved packets (placement.toPlaced packet) state after := by
  have usable : after.rttStatus ≠ .ambiguous → state.rttStatus ≠ .ambiguous := by
    intro usableAfter
    rw [← commits.samples.rttStatus]
    rcases effect.samples with same | dropped | ⟨sample, recorded, _⟩
    · rwa [← same.rttStatus]
    · exact absurd dropped.rttStatus usableAfter
    · exact recorded.usable
  constructor
  · exact effect.keeps.transportProtocol.trans commits.transportProtocol
  · exact effect.keeps.payloadBytesAb.trans commits.payloadBytesAb
  · exact effect.keeps.payloadBytesBa.trans commits.payloadBytesBa
  · exact effect.keeps.sequenceAmbiguous.trans
      (congrArg MeasurementFlags.sequenceAmbiguous commits.measurementFlags)
  · exact effect.keeps.timestampRegressed.trans commits.timestampRegressed
  · exact effect.keeps.maxTimestampNs.trans commits.maxTimestampNs
  · exact place
  · exact fun direction => (commits.ranges placed sequenceEnd bounded direction).of_keeps
      (effect.keeps.directions direction)
  · exact fun usableAfter direction =>
      (commits.outstanding placed (usable usableAfter) direction).of_keeps
        (effect.keeps.directions direction)
  · intro usableAfter _ direction
    have before := placed.highestAck (usable usableAfter) direction
    by_cases same : direction = packet.direction.opposite
    · rw [highestAckOf_concat_some (by simp [same]) ackEq, ← before, ← commits.highestAck, same]
      exact effect.highestAck
    · rw [effect.others direction same, commits.highestAck, before]
      refine (highestAckOf_concat_other fun sameDirection => same ?_).symm
      rw [← PacketDirection.opposite_opposite direction, ← sameDirection]
      rfl
  · rcases effect.samples with same | dropped | ⟨sample, recorded, higher, nonnegative, segment,
      member, acknowledged, once, sampleEq⟩
    · exact .same (commits.samples.trans same)
    · exact .dropped dropped
    · have stateUsable : state.rttStatus ≠ .ambiguous := commits.samples.rttStatus ▸ recorded.usable
      refine .recorded sample ⟨stateUsable, recorded.rttStatus, ?_, ?_, ?_, ?_⟩ ⟨nonnegative, ?_⟩
      · rw [recorded.rttSamples, commits.samples.rttSamples]
      · rw [recorded.rttSumNs, commits.samples.rttSumNs]
      · rw [recorded.rttMinNs, commits.samples.rttSamples, commits.samples.rttMinNs]
      · rw [recorded.rttMaxNs, commits.samples.rttSamples, commits.samples.rttMaxNs]
      · rw [commits.others _ (PacketDirection.opposite_ne _)] at member
        obtain ⟨before, sent, later, rfl, same, first, last, nonempty, sentAt, alone⟩ :=
          placed.outstanding stateUsable packet.direction.opposite segment member once
        refine ⟨acknowledgment, ackEq, ?_, before, sent, later, rfl, same, nonempty, ?_, ?_, ?_⟩
        · rw [commits.highestAck, placed.highestAck stateUsable] at higher
          exact higher
        · rw [last]
          exact acknowledged
        · rw [sampleEq, sentAt]
          rfl
        · intro other otherMember otherSame
          exact alone other otherMember (otherSame.trans same)

theorem observePlaced_observed (placed : SessionPlaced packets state)
    {maxRanges : Nat} {allocations : TrackerAllocations} {after : PerformanceState}
    {nextLedger : TrackerLedger}
    (found : placePacket (state.directions packet.direction)
      (state.directions packet.direction.opposite) packet = some placement)
    (bounded : payloadBytes packet.direction (packets.map PlacedPacket.packet) +
      packet.transport.payloadWireBytes.toNat ≤ maxUInt64)
    (ok : observePlaced sizes maxRanges allocations packet placement state ledger =
      (.none, after, nextLedger)) :
    PacketObserved packets (placement.toPlaced packet) state after := by
  obtain ⟨committed, ledger', commits, afterEq⟩ := observePlaced_ok ok
  have place : PlacedNext packets (placement.toPlaced packet) :=
    placedNext_of_placePacket (placed.ranges _).follows (placed.ranges _).follows found
  have sequenceEnd := sequenceEnd_toPlaced found
  cases ackEq : placement.ack with
  | none =>
      rw [ackEq] at afterEq
      subst afterEq
      exact commits.observed placed place sequenceEnd bounded (.inl ackEq)
  | some acknowledgment =>
      rw [ackEq] at afterEq
      simp only at afterEq
      split at afterEq
      · next regressed =>
          subst afterEq
          exact commits.observed placed place sequenceEnd bounded (.inr regressed)
      · subst afterEq
        exact commits.acknowledged placed place sequenceEnd bounded ackEq
          (observeAcknowledgment_effect _ _ _)

end Observed

end PerformanceState

end Flowsql.Npm
