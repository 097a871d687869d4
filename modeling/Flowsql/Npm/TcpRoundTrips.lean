import Flowsql.Npm.TcpSessions

/-!
# Round trip times

The samples of a session are the times of acknowledged packets whose payload was seen
once, at most one for each acknowledging packet. A session whose time stamps went back,
or whose sequence numbers are ambiguous, reports none.
-/

namespace Flowsql.Npm

open Flowsql.Library

theorem min?_concat (values : List Int) (last : Int) :
    (values ++ [last]).min? = some (values.min?.elim last (min · last)) := by
  cases values with
  | nil => rfl
  | cons value values =>
      rw [List.cons_append, List.min?_cons', List.min?_cons', List.foldl_append]
      rfl

/-- The packet at this position acknowledges another packet, and the sample is the time
in between. -/
def SampledAt (packets : List PacketView) (position : Nat) (sample : Int) : Prop :=
  ∃ placed acking, placed.length = position ∧ Placed (placed ++ [acking]) ∧
    placed.map PlacedPacket.packet ++ [acking.packet] = packets.take (position + 1) ∧
    KarnSample placed acking sample

theorem SampledAt.lt_length {packets : List PacketView} {position : Nat} {sample : Int}
    (sampled : SampledAt packets position sample) : position < packets.length := by
  obtain ⟨placed, acking, rfl, _, packetsEq, _⟩ := sampled
  have lengths := congrArg List.length packetsEq
  simp only [List.length_append, List.length_map, List.length_singleton, List.length_take]
    at lengths
  omega

theorem SampledAt.concat {packets : List PacketView} {position : Nat} {sample : Int}
    (sampled : SampledAt packets position sample) (packet : PacketView) :
    SampledAt (packets ++ [packet]) position sample := by
  have inside := sampled.lt_length
  obtain ⟨placed, acking, lengthEq, places, packetsEq, karn⟩ := sampled
  refine ⟨placed, acking, lengthEq, places, ?_, karn⟩
  rw [packetsEq, List.take_append_of_le_length inside]

/-- The samples that a session holds, each with the position of the acknowledging
packet. -/
structure SamplesRecorded (packets : List PacketView) (samples : List (Nat × Int))
    (state : PerformanceState) : Prop where
  positions : samples.Pairwise fun earlier later => earlier.1 < later.1
  sampled : ∀ sample ∈ samples, SampledAt packets sample.1 sample.2
  rttStatus : state.rttStatus = if samples = [] then .noSample else .valid
  rttSamples : state.rttSamples = samples.length
  rttSumNs : state.rttSumNs = (samples.map fun sample => sample.2.toNat).sum
  rttMinNs : samples ≠ [] → (samples.map Prod.snd).min? = some state.rttMinNs
  rttMaxNs : samples ≠ [] → (samples.map Prod.snd).max? = some state.rttMaxNs

/-- Either the samples of the packets so far are held, or none because they cannot be
measured. -/
inductive RoundTripsTracked (packets : List PacketView) (state : PerformanceState) : Prop where
  | dropped (dropped : state.NoSamples)
  | recorded (samples : List (Nat × Int)) (recorded : SamplesRecorded packets samples state)

namespace SamplesRecorded

variable {packets : List PacketView} {packet : PacketView} {samples : List (Nat × Int)}
  {before after : PerformanceState}

theorem concat_same (recorded : SamplesRecorded packets samples before)
    (same : before.SameSamples after) : SamplesRecorded (packets ++ [packet]) samples after := by
  constructor
  · exact recorded.positions
  · exact fun sample member => (recorded.sampled sample member).concat packet
  · exact same.rttStatus.trans recorded.rttStatus
  · exact same.rttSamples.trans recorded.rttSamples
  · exact same.rttSumNs.trans recorded.rttSumNs
  · rw [same.rttMinNs]
    exact recorded.rttMinNs
  · rw [same.rttMaxNs]
    exact recorded.rttMaxNs

/-- One more sample, for the packet that follows. -/
theorem concat_sample (recorded : SamplesRecorded packets samples before) {sample : Int}
    (records : before.RecordsSample after sample)
    (sampled : SampledAt (packets ++ [packet]) packets.length sample) :
    SamplesRecorded (packets ++ [packet]) (samples ++ [(packets.length, sample)]) after := by
  constructor
  · refine List.pairwise_append.mpr ⟨recorded.positions, List.pairwise_singleton _ _, ?_⟩
    intro earlier member later isLast
    rw [List.mem_singleton.mp isLast]
    exact (recorded.sampled earlier member).lt_length
  · intro entry member
    rcases List.mem_append.mp member with old | new
    · exact (recorded.sampled entry old).concat packet
    · rw [List.mem_singleton.mp new]
      exact sampled
  · simpa using records.rttStatus
  · rw [records.rttSamples, recorded.rttSamples, List.length_append, List.length_singleton]
  · rw [records.rttSumNs, recorded.rttSumNs]
    simp
  · intro _
    rw [List.map_append, List.map_singleton, min?_concat, records.rttMinNs, recorded.rttSamples]
    by_cases empty : samples = []
    · simp [empty]
    · rw [recorded.rttMinNs empty, if_neg (by simpa using empty)]
      rfl
  · intro _
    rw [List.map_append, List.map_singleton, max?_concat, records.rttMaxNs, recorded.rttSamples]
    by_cases empty : samples = []
    · simp [empty]
    · rw [recorded.rttMaxNs empty, if_neg (by simpa using empty)]
      rfl

end SamplesRecorded

theorem RoundTripsTracked.concat {packets : List PacketView} {packet : PacketView}
    {before after : PerformanceState} (tracked : RoundTripsTracked packets before)
    (samples : SessionSamples packets packet before after) :
    RoundTripsTracked (packets ++ [packet]) after := by
  rcases samples with same | dropped |
    ⟨sample, placed, next, packetsEq, packetEq, places, records, karn⟩
  · rcases tracked with dropped | ⟨samples, recorded⟩
    · exact .dropped ⟨same.rttStatus.trans dropped.rttStatus,
        same.rttSamples.trans dropped.rttSamples, same.rttSumNs.trans dropped.rttSumNs,
        same.rttMinNs.trans dropped.rttMinNs, same.rttMaxNs.trans dropped.rttMaxNs⟩
    · exact .recorded samples (recorded.concat_same same)
  · exact .dropped dropped
  · rcases tracked with dropped | ⟨samples, recorded⟩
    · exact absurd dropped.rttStatus records.usable
    · have sampled : SampledAt (packets ++ [packet]) packets.length sample := by
        refine ⟨placed, next, by rw [← packetsEq, List.length_map], places, ?_, karn⟩
        rw [packetsEq, packetEq, List.take_of_length_le (by simp)]
      exact .recorded _ (recorded.concat_sample records sampled)

/-- Before the first packet nothing is recorded. -/
theorem roundTripsTracked_start (sizes : TrackerSizes) (packet : PacketView) :
    RoundTripsTracked [] (PerformanceState.start sizes packet tcpProtocol) := by
  have scalars : (PerformanceState.start sizes packet tcpProtocol).rttStatus = .noSample ∧
      (PerformanceState.start sizes packet tcpProtocol).rttSamples = 0 ∧
      (PerformanceState.start sizes packet tcpProtocol).rttSumNs = 0 := by
    unfold PerformanceState.start PerformanceState.initializeHandshake
    simp only [if_true]
    split
    · exact ⟨rfl, rfl, rfl⟩
    split <;> exact ⟨rfl, rfl, rfl⟩
  obtain ⟨status, count, sum⟩ := scalars
  exact .recorded [] ⟨List.Pairwise.nil, by simp, status, count, sum, fun absent => absurd rfl absent,
    fun absent => absurd rfl absent⟩

namespace TrackerRun

variable {sizes : TrackerSizes} {maxRanges : Nat} {tracker : TcpPerformanceTracker}
  {seen : Nat → List PacketView}

theorem roundTrips_tracked (run : TrackerRun sizes maxRanges tracker seen) (sessionId : Nat)
    (state : PerformanceState) (found : tracker.sessions.lookup sessionId = some state)
    (tcp : state.transportProtocol = tcpProtocol) :
    SessionTracked (seen sessionId) state ∧ RoundTripsTracked (seen sessionId) state := by
  refine (@session_induction sizes maxRanges tracker seen
    (fun packets state => SessionTracked packets state ∧ RoundTripsTracked packets state)
    run ?_ ?_).2.2.2 sessionId state found tcp
  · intro allocations packet ledger next middle ranges
    obtain ⟨_, tracked, samples⟩ := PerformanceState.observeFirst_tracked ranges
    exact ⟨tracked, (roundTripsTracked_start sizes packet).concat samples⟩
  · intro packets state allocations packet ledger next after tcp tracked observed
    obtain ⟨_, next, samples⟩ := PerformanceState.observeExisting_tracked tcp tracked.1 observed
    exact ⟨next, tracked.2.concat samples⟩

end TrackerRun

/-- The round trip times that a snapshot reports. -/
def TcpPerformanceSnapshot.reportsNone (snapshot : TcpPerformanceSnapshot) : Prop :=
  snapshot.rttSamples = none ∧ snapshot.rttMinNs = none ∧ snapshot.rttMeanNs = none ∧
    snapshot.rttMaxNs = none

theorem snapshot_reportsNone {state : PerformanceState} (ambiguous : state.rttStatus = .ambiguous) :
    state.snapshot.reportsNone := by
  unfold PerformanceState.snapshot
  simp only [ambiguous]
  split <;> exact ⟨rfl, rfl, rfl, rfl⟩

/-- In every run, the samples of a TCP session are those of distinct acknowledging
packets, each of which is the time since a packet whose payload was seen once, and is not
negative. A session whose time stamps went back or whose sequence numbers are ambiguous
holds no sample and reports none. -/
theorem round_trips_sampled {sizes : TrackerSizes} {maxRanges : Nat}
    {tracker : TcpPerformanceTracker} {seen : Nat → List PacketView}
    (run : TrackerRun sizes maxRanges tracker seen) (sessionId : Nat)
    (state : PerformanceState) (found : tracker.sessions.lookup sessionId = some state)
    (tcp : state.transportProtocol = tcpProtocol) :
    RoundTripsTracked (seen sessionId) state ∧
      (state.measurementFlags.sequenceAmbiguous = true ∨ ¬ TimeOrdered (seen sessionId) →
        state.NoSamples ∧ state.snapshot.reportsNone) := by
  obtain ⟨tracked, roundTrips⟩ := run.roundTrips_tracked sessionId state found tcp
  refine ⟨roundTrips, fun unusable => ?_⟩
  have ambiguous : state.rttStatus = .ambiguous := by
    by_contra usable
    obtain ⟨notRegressed, notAmbiguous⟩ := tracked.usable usable
    rcases unusable with flagged | unordered
    · exact absurd (flagged.symm.trans notAmbiguous) (by simp)
    · exact unordered (tracked.ordered notRegressed).1
  refine ⟨?_, snapshot_reportsNone ambiguous⟩
  rcases roundTrips with dropped | ⟨samples, recorded⟩
  · exact dropped
  · have status := recorded.rttStatus
    rw [ambiguous] at status
    split at status <;> cases status

/-- A packet from B that acknowledges up to this number. -/
def acknowledgingPacket (acknowledgment : UInt32) (timestampNs : Int) : PacketView :=
  { segmentPacket 1 0 timestampNs with
    acknowledgment := some acknowledgment
    direction := .bToA }

/-- Ten bytes are acknowledged after five nanoseconds. -/
theorem round_trips_sampled_once :
    let packets := [segmentPacket 100 10 0, acknowledgingPacket 110 5]
    ∃ state, (trackerAfter packets).sessions.lookup 1 = some state ∧
      RoundTripsTracked packets state ∧ state.snapshot.rttSamples = some 1 ∧
      state.snapshot.rttMaxNs = some 5 := by
  intro packets
  have empty := @TrackerRun.start ⟨1024, 64, by decide, by decide⟩ 8 {} (some {})
  have run := (empty.observe_accepted (segmentPacket 100 10 0) firstSession rfl)
    |>.observe_accepted (acknowledgingPacket 110 5) firstSession rfl
  obtain ⟨state, found, tcp, count, longest⟩ :
      ∃ state, (trackerAfter packets).sessions.lookup 1 = some state ∧
        state.transportProtocol = tcpProtocol ∧ state.snapshot.rttSamples = some 1 ∧
        state.snapshot.rttMaxNs = some 5 := ⟨_, rfl, rfl, rfl, rfl⟩
  exact ⟨state, found, (round_trips_sampled run 1 state found tcp).1, count, longest⟩

end Flowsql.Npm
