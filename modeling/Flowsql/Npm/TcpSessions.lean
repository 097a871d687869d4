import Flowsql.Library.AssociationList
import Flowsql.Npm.TcpLedger
import Flowsql.Npm.TcpTracking

/-!
# Runs of the tracker

Every session of a tracker is related to the packets that were observed for it since it
was created. Other users of the task budget may reserve and release at any time, so a
run lets the usage change between two calls.
-/

namespace Flowsql.Npm

open Flowsql.Library

/-- The time stamps never decrease. -/
def TimeOrdered (packets : List PacketView) : Prop :=
  packets.Pairwise fun earlier later => earlier.timestampNs ≤ later.timestampNs

/-- What the tracker knows of a TCP session whose packets are these. -/
structure SessionTracked (packets : List PacketView) (state : PerformanceState) : Prop where
  counted : ∀ direction, state.payloadCount direction = payloadBytes direction packets
  bounded : ∀ direction, state.payloadCount direction ≤ maxUInt64
  ordered : state.timestampRegressed = false →
    TimeOrdered packets ∧ ∀ packet ∈ packets, packet.timestampNs ≤ state.maxTimestampNs
  usable : state.rttStatus ≠ .ambiguous →
    state.timestampRegressed = false ∧ state.measurementFlags.sequenceAmbiguous = false
  placed : state.measurementFlags.sequenceAmbiguous = false →
    ∃ placed, placed.map PlacedPacket.packet = packets ∧ SessionPlaced placed state

/-- What a packet does to the recorded samples of a session, in terms of the packets
observed before it. -/
inductive SessionSamples (packets : List PacketView) (packet : PacketView)
    (before after : PerformanceState) : Prop where
  | same (same : before.SameSamples after)
  | dropped (dropped : after.NoSamples)
  | recorded (sample : Int) (placed : List PlacedPacket) (next : PlacedPacket)
      (packetsEq : placed.map PlacedPacket.packet = packets) (packetEq : next.packet = packet)
      (places : Placed (placed ++ [next])) (records : before.RecordsSample after sample)
      (karn : KarnSample placed next sample)

/-- Samples that are kept, or dropped, after `ObserveRanges`. -/
theorem SessionSamples.of_same {packets : List PacketView} {packet : PacketView}
    {before middle after : PerformanceState}
    (samples : SessionSamples packets packet before middle) (same : middle.SameSamples after) :
    SessionSamples packets packet before after := by
  rcases samples with first | dropped |
    ⟨sample, placed, next, packetsEq, packetEq, places, records, karn⟩
  · exact .same (first.trans same)
  · exact .dropped ⟨same.rttStatus.trans dropped.rttStatus, same.rttSamples.trans dropped.rttSamples,
      same.rttSumNs.trans dropped.rttSumNs, same.rttMinNs.trans dropped.rttMinNs,
      same.rttMaxNs.trans dropped.rttMaxNs⟩
  · exact .recorded sample placed next packetsEq packetEq places
      ⟨records.usable, same.rttStatus.trans records.rttStatus,
        same.rttSamples.trans records.rttSamples, same.rttSumNs.trans records.rttSumNs,
        same.rttMinNs.trans records.rttMinNs, same.rttMaxNs.trans records.rttMaxNs⟩ karn

/-- What `ObserveRanges` does with a packet that it accepts. -/
structure RangesEffect (packets : List PacketView) (packet : PacketView)
    (before after : PerformanceState) : Prop where
  transportProtocol : after.transportProtocol = before.transportProtocol
  payloadCount : ∀ direction, after.payloadCount direction = before.payloadCount direction
  timestampRegressed : after.timestampRegressed = before.timestampRegressed
  maxTimestampNs : after.maxTimestampNs = before.maxTimestampNs
  usable : after.rttStatus ≠ .ambiguous →
    before.timestampRegressed = false ∧ after.measurementFlags.sequenceAmbiguous = false
  placed : after.measurementFlags.sequenceAmbiguous = false →
    ∃ placed next, placed.map PlacedPacket.packet = packets ∧ next.packet = packet ∧
      Placed placed ∧ PerformanceState.PacketObserved placed next before after
  samples : SessionSamples packets packet before after

namespace PerformanceState

variable {sizes : TrackerSizes} {state : PerformanceState} {ledger : TrackerLedger}
  {packets : List PacketView} {packet : PacketView} {maxRanges : Nat}
  {allocations : TrackerAllocations}

theorem markSequenceAmbiguous_effect (packets : List PacketView) (packet : PacketView) :
    RangesEffect packets packet state (markSequenceAmbiguous sizes state ledger).1 := by
  unfold markSequenceAmbiguous
  simp only
  rw [releaseSegments_fst]
  have keeps := @keeps_markRttAmbiguous sizes
    { state with measurementFlags := { state.measurementFlags with sequenceAmbiguous := true } }
    ledger
  have none_ := @noSamples_markRttAmbiguous sizes
    { state with measurementFlags := { state.measurementFlags with sequenceAmbiguous := true } }
    ledger
  refine ⟨keeps.transportProtocol, ?_, keeps.timestampRegressed, keeps.maxTimestampNs, ?_, ?_,
    .dropped ⟨none_.rttStatus, none_.rttSamples, none_.rttSumNs, none_.rttMinNs, none_.rttMaxNs⟩⟩
  · intro direction
    cases direction with
    | aToB => exact keeps.payloadBytesAb
    | bToA => exact keeps.payloadBytesBa
  · exact fun usable => absurd none_.rttStatus usable
  · exact fun unambiguous => absurd (keeps.sequenceAmbiguous.symm.trans unambiguous) (by simp)

theorem observeRanges_effect (tracked : SessionTracked packets state)
    (countable : state.payloadCount packet.direction + packet.transport.payloadWireBytes.toNat ≤
      maxUInt64)
    {after : PerformanceState} {nextLedger : TrackerLedger}
    (ok : observeRanges sizes maxRanges allocations packet state ledger =
      (.none, after, nextLedger)) :
    RangesEffect packets packet state after := by
  unfold observeRanges at ok
  split at ok
  · next flagged =>
      cases ok
      exact ⟨rfl, fun _ => rfl, rfl, rfl, fun usable =>
        absurd (flagged.symm.trans (tracked.usable usable).2) (by simp),
        fun unambiguous => absurd (flagged.symm.trans unambiguous) (by simp), .same (.refl _)⟩
  · next unflagged =>
      split at ok
      · have afterEq : (markSequenceAmbiguous sizes state ledger).1 = after :=
          congrArg (fun result => result.2.1) ok
        exact afterEq ▸ markSequenceAmbiguous_effect packets packet
      · next placement found =>
          obtain ⟨placed, packetsEq, sessionPlaced⟩ := tracked.placed (by simpa using unflagged)
          have bounded : payloadBytes packet.direction (placed.map PlacedPacket.packet) +
              packet.transport.payloadWireBytes.toNat ≤ maxUInt64 := by
            rw [packetsEq, ← tracked.counted]
            exact countable
          have observed := observePlaced_observed sessionPlaced found bounded ok
          have unambiguous := observed.sequenceAmbiguous.trans (by simpa using unflagged)
          refine ⟨observed.transportProtocol, ?_, observed.timestampRegressed,
            observed.maxTimestampNs, ?_,
            fun _ => ⟨placed, _, packetsEq, rfl, sessionPlaced.places, observed⟩, ?_⟩
          · intro direction
            cases direction with
            | aToB => exact observed.payloadBytesAb
            | bToA => exact observed.payloadBytesBa
          · intro usable
            refine ⟨(tracked.usable ?_).1, unambiguous⟩
            rcases observed.samples with same | dropped | ⟨sample, records, _⟩
            · rwa [← same.rttStatus]
            · exact absurd dropped.rttStatus usable
            · exact records.usable
          · rcases observed.samples with same | dropped | ⟨sample, records, karn⟩
            · exact .same same
            · exact .dropped dropped
            · exact .recorded sample placed _ packetsEq rfl
                (sessionPlaced.places.concat observed.place) records karn

/-! ## The rest of an observation -/

/-- The measurements stay as they are: what neither the handshake nor a counter changes. -/
structure SameMeasurements (before after : PerformanceState) : Prop where
  transportProtocol : after.transportProtocol = before.transportProtocol
  sequenceAmbiguous :
    after.measurementFlags.sequenceAmbiguous = before.measurementFlags.sequenceAmbiguous
  timestampRegressed : after.timestampRegressed = before.timestampRegressed
  maxTimestampNs : after.maxTimestampNs = before.maxTimestampNs
  directions : after.directions = before.directions
  samples : before.SameSamples after

theorem countPacket_same (packet : PacketView) (state : PerformanceState) :
    state.SameMeasurements (countPacket packet state) := by
  unfold countPacket
  cases packet.direction <;> cases packet.transport.payloadComplete <;>
    exact ⟨rfl, rfl, rfl, rfl, rfl, ⟨rfl, rfl, rfl, rfl, rfl⟩⟩

theorem payloadCount_countPacket (packet : PacketView) (state : PerformanceState)
    (direction : PacketDirection) :
    (countPacket packet state).payloadCount direction =
      state.payloadCount direction +
        if packet.direction = direction then packet.transport.payloadWireBytes.toNat else 0 := by
  unfold countPacket
  cases packet.direction <;> cases packet.transport.payloadComplete <;> cases direction <;> rfl

theorem observeHandshake_same (packet : PacketView) (state : PerformanceState) :
    state.SameMeasurements (state.observeHandshake packet) ∧
      ∀ direction, (state.observeHandshake packet).payloadCount direction =
        state.payloadCount direction := by
  have refl : state.SameMeasurements state := ⟨rfl, rfl, rfl, rfl, rfl, .refl _⟩
  unfold observeHandshake
  simp only
  split
  · exact ⟨refl, fun _ => rfl⟩
  split
  · refine ⟨⟨rfl, rfl, rfl, rfl, rfl, ⟨rfl, rfl, rfl, rfl, rfl⟩⟩, fun direction => ?_⟩
    cases direction <;> rfl
  split
  · exact ⟨refl, fun _ => rfl⟩
  split
  · split
    · exact ⟨refl, fun _ => rfl⟩
    · split <;> refine ⟨⟨rfl, rfl, rfl, rfl, rfl, ⟨rfl, rfl, rfl, rfl, rfl⟩⟩, fun direction => ?_⟩ <;>
        cases direction <;> rfl
  split
  · exact ⟨refl, fun _ => rfl⟩
  · split <;> refine ⟨⟨rfl, rfl, rfl, rfl, rfl, ⟨rfl, rfl, rfl, rfl, rfl⟩⟩, fun direction => ?_⟩ <;>
      cases direction <;> rfl

/-- What follows `ObserveRanges` for a packet that is not older than those before. -/
structure SettlesInOrder (packet : PacketView) (before after : PerformanceState) : Prop where
  inOrder : before.maxTimestampNs ≤ packet.timestampNs
  maxTimestampNs : packet.timestampNs ≤ after.maxTimestampNs
  timestampRegressed : after.timestampRegressed = before.timestampRegressed
  directions : after.directions = before.directions
  samples : before.SameSamples after

/-- What follows `ObserveRanges` for a packet that is older. -/
structure SettlesRegressed (before after : PerformanceState) : Prop where
  timestampRegressed : after.timestampRegressed = true
  directions : ∀ direction, (before.directions direction).Keeps (after.directions direction)
  samples : after.NoSamples

theorem tracked_of_effect {middle after : PerformanceState}
    (tracked : SessionTracked packets state) (effect : RangesEffect packets packet state middle)
    (countable : state.payloadCount packet.direction + packet.transport.payloadWireBytes.toNat ≤
      maxUInt64)
    (counted : ∀ direction, after.payloadCount direction = middle.payloadCount direction +
      if packet.direction = direction then packet.transport.payloadWireBytes.toNat else 0)
    (unambiguous :
      after.measurementFlags.sequenceAmbiguous = middle.measurementFlags.sequenceAmbiguous)
    (settles : SettlesInOrder packet middle after ∨ SettlesRegressed middle after) :
    SessionTracked (packets ++ [packet]) after ∧ SessionSamples packets packet state after := by
  have keeps : ∀ direction, (middle.directions direction).Keeps (after.directions direction) := by
    intro direction
    rcases settles with inOrder | regressed
    · rw [inOrder.directions]
      exact .refl _
    · exact regressed.directions direction
  refine ⟨⟨?_, ?_, ?_, ?_, ?_⟩, ?_⟩
  · intro direction
    rw [counted, effect.payloadCount, tracked.counted]
    by_cases same : packet.direction = direction
    · rw [if_pos same, payloadBytes_concat_same same]
    · rw [if_neg same, payloadBytes_concat_other same, Nat.add_zero]
  · intro direction
    rw [counted, effect.payloadCount]
    by_cases same : packet.direction = direction
    · rw [if_pos same, ← same]
      exact countable
    · rw [if_neg same]
      exact tracked.bounded direction
  · intro notRegressed
    rcases settles with inOrder | regressed
    · have before : state.timestampRegressed = false := by
        rw [← effect.timestampRegressed, ← inOrder.timestampRegressed]
        exact notRegressed
      obtain ⟨ordered, below⟩ := tracked.ordered before
      have latest : ∀ earlier ∈ packets, earlier.timestampNs ≤ packet.timestampNs :=
        fun earlier member => (below earlier member).trans
          (effect.maxTimestampNs ▸ inOrder.inOrder)
      constructor
      · exact List.pairwise_append.mpr ⟨ordered, List.pairwise_singleton _ _, by simpa using latest⟩
      · intro earlier member
        rcases List.mem_append.mp member with old | new
        · exact (latest earlier old).trans inOrder.maxTimestampNs
        · exact List.mem_singleton.mp new ▸ inOrder.maxTimestampNs
    · exact absurd (regressed.timestampRegressed.symm.trans notRegressed) (by simp)
  · intro usable
    rcases settles with inOrder | regressed
    · obtain ⟨notRegressed, notAmbiguous⟩ := effect.usable (inOrder.samples.rttStatus ▸ usable)
      exact ⟨inOrder.timestampRegressed.trans (effect.timestampRegressed.trans notRegressed),
        unambiguous.trans notAmbiguous⟩
    · exact absurd regressed.samples.rttStatus usable
  · intro notAmbiguous
    obtain ⟨placed, next, packetsEq, packetEq, places, observed⟩ :=
      effect.placed (unambiguous.symm.trans notAmbiguous)
    refine ⟨placed ++ [next], by rw [List.map_append, packetsEq, ← packetEq]; rfl,
      ⟨places.concat observed.place, ?_, ?_, ?_⟩⟩
    · exact fun direction => (observed.ranges direction).of_keeps (keeps direction)
    · intro usable direction
      rcases settles with inOrder | regressed
      · exact (observed.outstanding (inOrder.samples.rttStatus ▸ usable) direction).of_keeps
          (keeps direction)
      · exact absurd regressed.samples.rttStatus usable
    · intro usable direction
      rcases settles with inOrder | regressed
      · rw [inOrder.directions]
        have middleUsable := inOrder.samples.rttStatus ▸ usable
        refine observed.highestAck middleUsable ?_ direction
        have notOlder : ¬ packet.timestampNs < state.maxTimestampNs := by
          rw [← effect.maxTimestampNs]
          exact not_lt.mpr inOrder.inOrder
        simp [regressedBy, packetEq, (effect.usable middleUsable).1, notOlder]
      · exact absurd regressed.samples.rttStatus usable
  · rcases settles with inOrder | regressed
    · exact effect.samples.of_same inOrder.samples
    · exact .dropped regressed.samples

/-- A counter that can take the packet does not overflow. -/
theorem countable_of_canCountPacket (tracked : SessionTracked packets state)
    (can : state.canCountPacket packet = true) :
    state.payloadCount packet.direction + packet.transport.payloadWireBytes.toNat ≤ maxUInt64 := by
  have bounded := tracked.bounded packet.direction
  unfold canCountPacket counterCanAdd at can
  simp only [Bool.and_eq_true, decide_eq_true_eq] at can
  obtain ⟨_, payload⟩ := can
  cases direction : packet.direction with
  | aToB | bToA =>
      rw [direction] at bounded payload
      simp only [payloadCount] at bounded ⊢
      simp at payload
      omega

theorem markTimestampRegression_settles {middle : PerformanceState}
    (tcp : state.transportProtocol = tcpProtocol) (same : middle.SameMeasurements state) :
    SettlesRegressed middle (markTimestampRegression sizes state ledger).1 ∧
      (markTimestampRegression sizes state ledger).1.transportProtocol = tcpProtocol ∧
      (markTimestampRegression sizes state ledger).1.measurementFlags.sequenceAmbiguous =
        middle.measurementFlags.sequenceAmbiguous ∧
      ∀ direction, (markTimestampRegression sizes state ledger).1.payloadCount direction =
        state.payloadCount direction := by
  unfold markTimestampRegression
  simp only [if_pos tcp]
  generalize regressedEq : markHandshakeAmbiguous _ = regressed
  have keeps := @keeps_markRttAmbiguous sizes regressed ledger
  have dropped := @noSamples_markRttAmbiguous sizes regressed ledger
  subst regressedEq
  refine ⟨⟨keeps.timestampRegressed, ?_, dropped⟩, keeps.transportProtocol.trans tcp,
    keeps.sequenceAmbiguous.trans same.sequenceAmbiguous, ?_⟩
  · intro direction
    have kept := keeps.directions direction
    rw [← same.directions]
    exact kept
  · intro direction
    cases direction with
    | aToB => exact keeps.payloadBytesAb
    | bToA => exact keeps.payloadBytesBa

/-- What follows `ObserveRanges` keeps the measurements or marks a regression. -/
theorem settlePacket_settles {middle : PerformanceState}
    (tcp : middle.transportProtocol = tcpProtocol) :
    let after := (settlePacket sizes packet middle ledger).1
    (SettlesInOrder packet middle after ∨ SettlesRegressed middle after) ∧
      after.transportProtocol = tcpProtocol ∧
      after.measurementFlags.sequenceAmbiguous = middle.measurementFlags.sequenceAmbiguous ∧
      ∀ direction, after.payloadCount direction = middle.payloadCount direction +
        if packet.direction = direction then packet.transport.payloadWireBytes.toNat else 0 := by
  have counts := payloadCount_countPacket packet middle
  have same := countPacket_same packet middle
  unfold settlePacket
  generalize countPacket packet middle = counted at counts same ⊢
  have tcpCounted := same.transportProtocol.trans tcp
  simp only
  split
  · obtain ⟨settles, tcpAfter, flag, payload⟩ := @markTimestampRegression_settles sizes
      { counted with minTimestampNs := min counted.minTimestampNs packet.timestampNs } ledger middle
      tcpCounted
      ⟨same.transportProtocol, same.sequenceAmbiguous, same.timestampRegressed,
        same.maxTimestampNs, same.directions, ⟨same.samples.rttStatus, same.samples.rttSamples,
          same.samples.rttSumNs, same.samples.rttMinNs, same.samples.rttMaxNs⟩⟩
    refine ⟨.inr settles, tcpAfter, flag, fun direction => ?_⟩
    rw [payload, ← counts direction]
    cases direction <;> rfl
  · next notOlder =>
      generalize stampedEq : ({ counted with
        minTimestampNs := min counted.minTimestampNs packet.timestampNs
        maxTimestampNs := max counted.maxTimestampNs packet.timestampNs } : PerformanceState) =
          stamped
      obtain ⟨shook, payload⟩ := observeHandshake_same packet stamped
      subst stampedEq
      refine ⟨.inl ⟨?_, ?_, ?_, ?_, ?_⟩, shook.transportProtocol.trans tcpCounted,
        shook.sequenceAmbiguous.trans same.sequenceAmbiguous, fun direction => ?_⟩
      · rw [← same.maxTimestampNs]
        exact not_lt.mp notOlder
      · rw [shook.maxTimestampNs]
        exact le_max_right _ _
      · exact shook.timestampRegressed.trans same.timestampRegressed
      · exact shook.directions.trans same.directions
      · exact same.samples.trans ⟨shook.samples.rttStatus, shook.samples.rttSamples,
          shook.samples.rttSumNs, shook.samples.rttMinNs, shook.samples.rttMaxNs⟩
      · rw [payload, ← counts direction]
        cases direction <;> rfl

theorem observeExisting_tracked (tcp : state.transportProtocol = tcpProtocol)
    (tracked : SessionTracked packets state) {after : PerformanceState}
    {nextLedger : TrackerLedger}
    (ok : observeExisting sizes maxRanges allocations packet state ledger =
      (.none, after, nextLedger)) :
    after.transportProtocol = tcpProtocol ∧ SessionTracked (packets ++ [packet]) after ∧
      SessionSamples packets packet state after := by
  unfold observeExisting at ok
  split at ok
  · cases ok
  · next can =>
      have countable := countable_of_canCountPacket tracked (by simpa using can)
      split at ok
      · next middle middleLedger ranges =>
          have effect := observeRanges_effect tracked countable ranges
          obtain ⟨settles, tcpAfter, flag, counted⟩ :=
            @settlePacket_settles sizes middleLedger packet middle
              (effect.transportProtocol.trans tcp)
          have afterEq : (settlePacket sizes packet middle middleLedger).1 = after :=
            congrArg (fun result => result.2.1) ok
          rw [afterEq] at settles tcpAfter flag counted
          exact ⟨tcpAfter, tracked_of_effect tracked effect countable counted flag settles⟩
      · next failed _ =>
          cases ok
          exact (failed rfl).elim

/-! ## The first packet -/

/-- Before its first packet a session knows nothing. -/
theorem start_tracked (packet : PacketView) :
    let state := start sizes packet tcpProtocol
    state.transportProtocol = tcpProtocol ∧ state.maxTimestampNs = packet.timestampNs ∧
      (∀ direction, state.payloadCount direction = 0) ∧ SessionTracked [] state := by
  have fresh := @start_fresh sizes packet tcpProtocol
  have scalars : (start sizes packet tcpProtocol).transportProtocol = tcpProtocol ∧
      (start sizes packet tcpProtocol).maxTimestampNs = packet.timestampNs ∧
      (∀ direction, (start sizes packet tcpProtocol).payloadCount direction = 0) ∧
      (start sizes packet tcpProtocol).timestampRegressed = false := by
    unfold start initializeHandshake
    simp only [if_true]
    split
    · exact ⟨rfl, rfl, fun direction => by cases direction <;> rfl, rfl⟩
    split <;> exact ⟨rfl, rfl, fun direction => by cases direction <;> rfl, rfl⟩
  generalize start sizes packet tcpProtocol = state at fresh scalars
  obtain ⟨tcp, stamp, counts, inOrder⟩ := scalars
  refine ⟨tcp, stamp, counts, ⟨?_, ?_, ?_, ?_, ?_⟩⟩
  · exact counts
  · exact fun direction => counts direction ▸ Nat.zero_le _
  · exact fun _ => ⟨List.Pairwise.nil, by simp⟩
  · exact fun _ => ⟨inOrder, fresh.sequenceAmbiguous⟩
  · refine fun _ => ⟨[], rfl, ⟨.nil, ?_, ?_, ?_⟩⟩
    · intro direction
      rw [fresh.directions]
      exact ⟨rfl, Span.separated_nil, rfl, rfl, rfl⟩
    · intro _ direction segment member
      rw [fresh.directions] at member
      exact absurd member List.not_mem_nil
    · intro _ direction
      rw [fresh.directions]
      rfl

/-- After its first packet no sample is recorded. -/
theorem observeFirst_tracked {after : PerformanceState} {nextLedger : TrackerLedger}
    (ok : observeRanges sizes maxRanges allocations packet (start sizes packet tcpProtocol) ledger =
      (.none, after, nextLedger)) :
    (countPacket packet after).transportProtocol = tcpProtocol ∧
      SessionTracked [packet] (countPacket packet after) ∧
      SessionSamples [] packet (start sizes packet tcpProtocol) (countPacket packet after) := by
  obtain ⟨tcp, stamp, counts, tracked⟩ := @start_tracked sizes packet
  have countable : (start sizes packet tcpProtocol).payloadCount packet.direction +
      packet.transport.payloadWireBytes.toNat ≤ maxUInt64 := by
    have small := packet.transport.payloadWireBytes.toNat_lt
    rw [counts]
    unfold maxUInt64
    omega
  have effect := observeRanges_effect tracked countable ok
  have same := countPacket_same packet after
  have stamped := effect.maxTimestampNs.trans stamp
  exact ⟨same.transportProtocol.trans (effect.transportProtocol.trans tcp),
    tracked_of_effect tracked effect countable (payloadCount_countPacket packet after)
      same.sequenceAmbiguous (.inl ⟨stamped.le, (same.maxTimestampNs.trans stamped).ge,
        same.timestampRegressed, same.directions, same.samples⟩)⟩

end PerformanceState

/-! ## The transport protocol -/

namespace PerformanceState

variable {sizes : TrackerSizes} {state after : PerformanceState} {ledger next : TrackerLedger}
  {packet : PacketView} {maxRanges : Nat} {allocations : TrackerAllocations}

theorem observeRanges_protocol
    (ok : observeRanges sizes maxRanges allocations packet state ledger = (.none, after, next)) :
    after.transportProtocol = state.transportProtocol := by
  unfold observeRanges at ok
  split at ok
  · cases ok
    rfl
  · split at ok
    · have afterEq : (markSequenceAmbiguous sizes state ledger).1 = after :=
        congrArg (fun result => result.2.1) ok
      rw [← afterEq]
      exact (markSequenceAmbiguous_effect [] packet).transportProtocol
    · obtain ⟨committed, ledger', commits, rfl⟩ := observePlaced_ok ok
      split
      · split
        · exact commits.transportProtocol
        · exact (observeAcknowledgment_effect _ _ _).keeps.transportProtocol.trans
            commits.transportProtocol
      · exact commits.transportProtocol

theorem start_protocol {protocol : UInt8} :
    (start sizes packet protocol).transportProtocol = protocol := by
  unfold start initializeHandshake
  simp only
  split
  · split
    · rfl
    split <;> rfl
  · rfl

theorem settlePacket_protocol (packet : PacketView) (state : PerformanceState) :
    (settlePacket sizes packet state ledger).1.transportProtocol = state.transportProtocol := by
  have same := countPacket_same packet state
  unfold settlePacket
  generalize countPacket packet state = counted at same ⊢
  rw [← same.transportProtocol]
  simp only
  split
  · unfold markTimestampRegression
    simp only
    split
    · exact keeps_markRttAmbiguous.transportProtocol
    · rfl
  · split
    · exact (observeHandshake_same packet _).1.transportProtocol
    · rfl

theorem observeExisting_protocol
    (ok : observeExisting sizes maxRanges allocations packet state ledger = (.none, after, next)) :
    after.transportProtocol = state.transportProtocol := by
  unfold observeExisting at ok
  split at ok
  · cases ok
  · split at ok
    · next middle middleLedger ranges =>
        have afterEq : (settlePacket sizes packet middle middleLedger).1 = after :=
          congrArg (fun result => result.2.1) ok
        rw [← afterEq, settlePacket_protocol]
        split at ranges
        · exact observeRanges_protocol ranges
        · cases ranges
          rfl
    · next failed _ =>
        cases ok
        exact (failed rfl).elim

end PerformanceState

/-! ## Runs -/

/-- The trackers that calls lead to. `seen` lists, for each session id, the packets that
were accepted for it since the session was created. -/
inductive TrackerRun (sizes : TrackerSizes) (maxRanges : Nat) :
    TcpPerformanceTracker → (Nat → List PacketView) → Prop where
  | start (config : AnalysisConfig) (usage : Option BudgetUsage) :
      TrackerRun sizes maxRanges
        { sizes := sizes, maxRangesPerDirection := maxRanges, sessions := ∅
          ledger := { config := config, usage := usage } } fun _ => []
  | observe {tracker : TcpPerformanceTracker} {seen : Nat → List PacketView}
      (run : TrackerRun sizes maxRanges tracker seen) (allocations : TrackerAllocations)
      (packet : PacketView) (session : SessionView) :
      TrackerRun sizes maxRanges (tracker.observe allocations packet session).2
        (if (tracker.observe allocations packet session).1 = .none then
          Function.update seen session.sessionId (seen session.sessionId ++ [packet])
        else seen)
  | remove {tracker : TcpPerformanceTracker} {seen : Nat → List PacketView}
      (run : TrackerRun sizes maxRanges tracker seen) (sessionId : Nat) :
      TrackerRun sizes maxRanges (tracker.remove sessionId) (Function.update seen sessionId [])
  | clear {tracker : TcpPerformanceTracker} {seen : Nat → List PacketView}
      (run : TrackerRun sizes maxRanges tracker seen) :
      TrackerRun sizes maxRanges tracker.clear fun _ => []
  | others {tracker : TcpPerformanceTracker} {seen : Nat → List PacketView}
      (run : TrackerRun sizes maxRanges tracker seen) (usage : Option BudgetUsage) :
      TrackerRun sizes maxRanges { tracker with ledger := { tracker.ledger with usage := usage } } seen

namespace TcpPerformanceTracker

variable {allocations : TrackerAllocations} {packet : PacketView} {session : SessionView}
  {tracker : TcpPerformanceTracker} {seen : Nat → List PacketView}

theorem observeNew_config (sessionId : Nat) (protocol : UInt8) :
    let after := (observeNew allocations packet sessionId protocol tracker).2
    after.sizes = tracker.sizes ∧ after.maxRangesPerDirection = tracker.maxRangesPerDirection := by
  unfold observeNew
  split
  · simp only
    generalize (if protocol = tcpProtocol then _ else _) = ranges
    split
    · split <;> exact ⟨rfl, rfl⟩
    · exact ⟨rfl, rfl⟩
  · exact ⟨rfl, rfl⟩

theorem observe_config :
    let after := (tracker.observe allocations packet session).2
    after.sizes = tracker.sizes ∧ after.maxRangesPerDirection = tracker.maxRangesPerDirection := by
  unfold observe
  split
  · exact ⟨rfl, rfl⟩
  split
  · exact ⟨rfl, rfl⟩
  split
  · exact ⟨rfl, rfl⟩
  split
  · exact ⟨rfl, rfl⟩
  split
  · exact ⟨rfl, rfl⟩
  split
  · exact observeNew_config _ _
  · split <;> exact ⟨rfl, rfl⟩

theorem remove_config (sessionId : Nat) :
    (tracker.remove sessionId).sizes = tracker.sizes ∧
      (tracker.remove sessionId).maxRangesPerDirection = tracker.maxRangesPerDirection := by
  unfold remove
  split <;> exact ⟨rfl, rfl⟩

theorem remove_lookup (removed sessionId : Nat) :
    (tracker.remove removed).sessions.lookup sessionId =
      if sessionId = removed then none else tracker.sessions.lookup sessionId := by
  unfold remove
  split
  · next absent =>
      split
      · next same => rw [same, absent]
      · rfl
  · by_cases same : sessionId = removed
    · subst same
      simp
    · simp [same]

/-- A new session starts with its first packet. -/
theorem observeNew_ok {sessionId : Nat} {protocol : UInt8}
    (accepted : (observeNew allocations packet sessionId protocol tracker).1 = .none) :
    ∃ after, (observeNew allocations packet sessionId protocol tracker).2.sessions =
        tracker.sessions.insert sessionId after ∧
      after.transportProtocol = protocol ∧
      (protocol = tcpProtocol → ∃ middle reserved ledger,
        (PerformanceState.start tracker.sizes packet tcpProtocol).observeRanges tracker.sizes
          tracker.maxRangesPerDirection allocations packet reserved = (.none, middle, ledger) ∧
        after = middle.countPacket packet) := by
  revert accepted
  unfold observeNew
  split
  · next reserved _ =>
      simp only
      generalize observed : (if protocol = tcpProtocol then _ else _) = ranges
      split
      · next middle ledger =>
          split
          · intro _
            refine ⟨middle.countPacket packet, rfl, ?_, ?_⟩
            · rw [(PerformanceState.countPacket_same packet middle).transportProtocol]
              split at observed
              · rw [PerformanceState.observeRanges_protocol observed]
                exact PerformanceState.start_protocol
              · cases observed
                exact PerformanceState.start_protocol
            · intro tcp
              subst tcp
              rw [if_pos rfl] at observed
              exact ⟨middle, reserved, ledger, observed, rfl⟩
          · exact fun accepted => nomatch accepted
      · next failed => exact fun accepted => (failed accepted).elim
  · next failed _ => exact fun accepted => (failed accepted).elim

/-- An accepted packet puts the next state of its session in place, and no other. -/
theorem observe_ok (accepted : (tracker.observe allocations packet session).1 = .none) :
    ∃ after, (tracker.observe allocations packet session).2.sessions.lookup session.sessionId =
        some after ∧
      (∀ other, other ≠ session.sessionId →
        (tracker.observe allocations packet session).2.sessions.lookup other =
          tracker.sessions.lookup other) ∧
      ((∃ state ledger, tracker.sessions.lookup session.sessionId = some state ∧
          state.observeExisting tracker.sizes tracker.maxRangesPerDirection allocations packet
            tracker.ledger = (.none, after, ledger)) ∨
        tracker.sessions.lookup session.sessionId = none ∧
          (after.transportProtocol = tcpProtocol → ∃ middle reserved ledger,
            (PerformanceState.start tracker.sizes packet tcpProtocol).observeRanges tracker.sizes
              tracker.maxRangesPerDirection allocations packet reserved = (.none, middle, ledger) ∧
            after = middle.countPacket packet)) := by
  revert accepted
  unfold observe
  split
  · exact fun accepted => nomatch accepted
  split
  · exact fun accepted => nomatch accepted
  split
  · exact fun accepted => nomatch accepted
  split
  · exact fun accepted => nomatch accepted
  split
  · exact fun accepted => nomatch accepted
  split
  · next absent =>
      intro accepted
      obtain ⟨after, sessionsEq, protocolEq, first⟩ := observeNew_ok accepted
      refine ⟨after, ?_, ?_, .inr ⟨absent, fun tcp => first (protocolEq.symm.trans tcp)⟩⟩
      · rw [sessionsEq, AList.lookup_insert]
      · intro other different
        rw [sessionsEq, AList.lookup_insert_ne different]
  · next state found =>
      split
      · exact fun accepted => nomatch accepted
      · generalize observed : PerformanceState.observeExisting _ _ _ packet state tracker.ledger =
          result
        intro accepted
        obtain ⟨error, after, next⟩ := result
        simp only at accepted
        subst accepted
        refine ⟨after, ?_, ?_, .inl ⟨state, next, found, observed⟩⟩
        · simp [lookup_replace, found]
        · intro other different
          simp [lookup_replace, different]

end TcpPerformanceTracker

section SessionInduction

variable {sizes : TrackerSizes} {maxRanges : Nat} {tracker : TcpPerformanceTracker}
  {seen : Nat → List PacketView} {property : List PacketView → PerformanceState → Prop}

/-- What the first packet of a TCP session establishes and every further packet preserves
holds of every TCP session of every run. -/
theorem TrackerRun.session_induction (run : TrackerRun sizes maxRanges tracker seen)
    (first : ∀ {allocations packet ledger next middle},
      (PerformanceState.start sizes packet tcpProtocol).observeRanges sizes maxRanges allocations
        packet ledger = (.none, middle, next) → property [packet] (middle.countPacket packet))
    (later : ∀ {packets state allocations packet ledger next after},
      state.transportProtocol = tcpProtocol → property packets state →
      state.observeExisting sizes maxRanges allocations packet ledger = (.none, after, next) →
      property (packets ++ [packet]) after) :
    tracker.sizes = sizes ∧ tracker.maxRangesPerDirection = maxRanges ∧
      (∀ sessionId, tracker.sessions.lookup sessionId = none → seen sessionId = []) ∧
      ∀ sessionId state, tracker.sessions.lookup sessionId = some state →
        state.transportProtocol = tcpProtocol → property (seen sessionId) state := by
  induction run with
  | start config usage => exact ⟨rfl, rfl, fun _ _ => rfl, fun _ _ found => nomatch found⟩
  | @observe tracker seen run allocations packet session ih =>
      obtain ⟨sizesEq, rangesEq, absent, present⟩ := ih
      split
      · next accepted =>
          obtain ⟨after, placed, others, next⟩ := TcpPerformanceTracker.observe_ok accepted
          refine ⟨?_, ?_, ?_, ?_⟩
          · rw [TcpPerformanceTracker.observe_config.1, sizesEq]
          · rw [TcpPerformanceTracker.observe_config.2, rangesEq]
          · intro sessionId missing
            by_cases same : sessionId = session.sessionId
            · subst same
              exact absurd (placed.symm.trans missing) (by simp)
            · rw [Function.update_of_ne same]
              exact absent sessionId ((others sessionId same).symm.trans missing)
          · intro sessionId state found tcp
            by_cases same : sessionId = session.sessionId
            · subst same
              obtain rfl : after = state := Option.some.inj (placed.symm.trans found)
              rw [Function.update_self]
              rw [sizesEq, rangesEq] at next
              rcases next with ⟨before, ledger, foundBefore, observed⟩ | ⟨missing, fresh⟩
              · have tcpBefore :=
                  (PerformanceState.observeExisting_protocol observed).symm.trans tcp
                exact later tcpBefore (present _ _ foundBefore tcpBefore) observed
              · obtain ⟨middle, reserved, ledger, ranges, rfl⟩ := fresh tcp
                rw [absent _ missing]
                exact first ranges
            · rw [Function.update_of_ne same]
              exact present sessionId state ((others sessionId same).symm.trans found) tcp
      · next rejected =>
          rw [TcpPerformanceTracker.observe_error rejected]
          exact ⟨sizesEq, rangesEq, absent, present⟩
  | @remove tracker seen run removed ih =>
      obtain ⟨sizesEq, rangesEq, absent, present⟩ := ih
      have lookups := @TcpPerformanceTracker.remove_lookup tracker removed
      refine ⟨?_, ?_, ?_, ?_⟩
      · rw [(TcpPerformanceTracker.remove_config removed).1, sizesEq]
      · rw [(TcpPerformanceTracker.remove_config removed).2, rangesEq]
      · intro sessionId missing
        by_cases same : sessionId = removed
        · rw [same, Function.update_self]
        · rw [Function.update_of_ne same]
          rw [lookups, if_neg same] at missing
          exact absent sessionId missing
      · intro sessionId state found tcp
        rw [lookups] at found
        split at found
        · cases found
        · next same =>
            rw [Function.update_of_ne same]
            exact present sessionId state found tcp
  | clear run ih => exact ⟨ih.1, ih.2.1, fun _ _ => rfl, fun _ _ found => nomatch found⟩
  | others run usage ih => exact ih

end SessionInduction

theorem TrackerRun.session_tracked {sizes : TrackerSizes} {maxRanges : Nat}
    {tracker : TcpPerformanceTracker} {seen : Nat → List PacketView}
    (run : TrackerRun sizes maxRanges tracker seen) (sessionId : Nat) (state : PerformanceState)
    (found : tracker.sessions.lookup sessionId = some state)
    (tcp : state.transportProtocol = tcpProtocol) : SessionTracked (seen sessionId) state :=
  (run.session_induction (fun ranges => (PerformanceState.observeFirst_tracked ranges).2.1)
    fun tcp tracked observed =>
      (PerformanceState.observeExisting_tracked tcp tracked observed).2.1).2.2.2
    sessionId state found tcp

/-- While a session is not ambiguous, the history of each direction consists of sorted
and separated ranges that cover exactly the payload seen, and the two counters split the
payload bytes into the bytes of that union and the rest. A call that fails changes
nothing. -/
theorem payload_ranges_tracked {sizes : TrackerSizes} {maxRanges : Nat}
    {tracker : TcpPerformanceTracker} {seen : Nat → List PacketView}
    (run : TrackerRun sizes maxRanges tracker seen) :
    (∀ sessionId state, tracker.sessions.lookup sessionId = some state →
      state.transportProtocol = tcpProtocol →
      state.measurementFlags.sequenceAmbiguous = false →
      ∃ placed, placed.map PlacedPacket.packet = seen sessionId ∧ Placed placed ∧
        ∀ direction,
          Span.Separated (spans (state.directions direction).history) ∧
          Span.covered (spans (state.directions direction).history) =
            Span.covered (payloadSpans direction placed) ∧
          (state.directions direction).uniqueBytes =
            (Span.covered (payloadSpans direction placed)).card ∧
          (state.directions direction).uniqueBytes + (state.directions direction).retransBytes =
            payloadBytes direction (seen sessionId)) ∧
    ∀ allocations packet session,
      (tracker.observe allocations packet session).1 ≠ .none →
        (tracker.observe allocations packet session).2 = tracker := by
  constructor
  · intro sessionId state found tcp unambiguous
    have tracked := run.session_tracked sessionId state found tcp
    obtain ⟨placed, packetsEq, sessionPlaced⟩ := tracked.placed unambiguous
    refine ⟨placed, packetsEq, sessionPlaced.places, fun direction => ?_⟩
    have ranges := sessionPlaced.ranges direction
    exact ⟨ranges.separated, ranges.covered, ranges.unique, packetsEq ▸ ranges.total⟩
  · exact fun allocations packet session => TcpPerformanceTracker.observe_error

theorem TrackerRun.observe_accepted {sizes : TrackerSizes} {maxRanges : Nat}
    {tracker : TcpPerformanceTracker} {seen : Nat → List PacketView}
    (run : TrackerRun sizes maxRanges tracker seen) (packet : PacketView) (session : SessionView)
    (accepted : (tracker.observe {} packet session).1 = .none) :
    TrackerRun sizes maxRanges (tracker.observe {} packet session).2
      (Function.update seen session.sessionId (seen session.sessionId ++ [packet])) := by
  have observed := run.observe {} packet session
  rwa [if_pos accepted] at observed

theorem length_of_null (bytes : List UInt8) (null : none = some bytes) : bytes.length = 0 := by
  cases null

/-- A packet from A with this payload range. -/
def segmentPacket (sequence payload : UInt32) (timestampNs : Int) : PacketView :=
  { timestampNs := timestampNs
    payload := ⟨none, 0, length_of_null⟩
    direction := .aToB
    transport :=
      { payloadWireBytes := payload
        payloadCapturedBytes := 0
        payloadComplete := false
        tcp := { valid := true, syn := false, fin := false, rst := false, sequence := sequence } } }

def firstSession : SessionView :=
  { sessionId := 1, key := none, firstNs := 0, lastNs := 0, packetsAb := 0, packetsBa := 0
    wireBytesAb := 0, wireBytesBa := 0, primaryLabelId := 0, protocolStatus := .pending
    protocolId := none, protocolSubId := none }

/-- The tracker after these packets of one session. -/
def trackerAfter (packets : List PacketView) : TcpPerformanceTracker :=
  packets.foldl (fun tracker packet => (tracker.observe {} packet firstSession).2)
    { sizes := ⟨1024, 64, by decide, by decide⟩, maxRangesPerDirection := 8, sessions := ∅
      ledger := { config := {}, usage := some {} } }

/-- A range that overlaps the end of another, across the wrap of the sequence numbers. -/
theorem payload_ranges_tracked_overlap :
    let packets := [segmentPacket 4294967290 10 0, segmentPacket 4294967295 10 1]
    ∃ state placed, (trackerAfter packets).sessions.lookup 1 = some state ∧
      placed.map PlacedPacket.packet = packets ∧ Placed placed ∧
      (state.directions .aToB).uniqueBytes = 15 ∧ (state.directions .aToB).retransBytes = 5 ∧
      (Span.covered (payloadSpans .aToB placed)).card = 15 := by
  intro packets
  have empty := @TrackerRun.start ⟨1024, 64, by decide, by decide⟩ 8 {} (some {})
  have run := (empty.observe_accepted (segmentPacket 4294967290 10 0) firstSession rfl)
    |>.observe_accepted (segmentPacket 4294967295 10 1) firstSession rfl
  obtain ⟨state, found, tcp, unambiguous, unique, retrans⟩ :
      ∃ state, (trackerAfter packets).sessions.lookup 1 = some state ∧
        state.transportProtocol = tcpProtocol ∧
        state.measurementFlags.sequenceAmbiguous = false ∧
        (state.directions .aToB).uniqueBytes = 15 ∧ (state.directions .aToB).retransBytes = 5 :=
    ⟨_, rfl, rfl, rfl, rfl, rfl⟩
  obtain ⟨placed, packetsEq, places, ranges⟩ :=
    (payload_ranges_tracked run).1 1 state found tcp unambiguous
  exact ⟨state, placed, found, packetsEq.trans rfl, places, unique, retrans,
    (ranges .aToB).2.2.1.symm.trans unique⟩

end Flowsql.Npm
