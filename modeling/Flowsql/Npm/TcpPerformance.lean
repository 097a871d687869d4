import Flowsql.Npm.AnalysisContract
import Mathlib

/-!
# Performance measurements of TCP sessions

This module embeds `NpmTcpPerformanceTracker`: for each session it keeps the payload
ranges that were seen in each direction, the segments that wait for an
acknowledgment, the state of the handshake and the round trip times. Sequence numbers
are unwrapped to 64 bits, so ranges are pairs of `int64_t`, here integers. The rates
of a snapshot, which are floating-point numbers, are left out.
-/

namespace Flowsql.Npm

inductive TcpPerformanceError where
  | none
  | nullBudget
  | nullOutput
  | invalidSession
  | invalidPacket
  | notFound
  | budgetExceeded
  | allocationFailed
  | rangeLimitExceeded
  | invalidRangeLimit
  | protocolMismatch
  | sessionViewMismatch
  deriving DecidableEq, Repr

inductive TcpHandshakeStatus where
  | complete
  | partially
  | notObserved
  | ambiguous
  | notApplicable
  deriving DecidableEq, Repr

inductive TcpRttStatus where
  | valid
  | noSample
  | ambiguous
  | notApplicable
  deriving DecidableEq, Repr

inductive TcpRetransmissionStatus where
  | valid
  | ambiguous
  | notApplicable
  deriving DecidableEq, Repr

inductive TcpInitiator where
  | a
  | b
  deriving DecidableEq, Repr

/-- The bits of `measurement_flags`. -/
structure MeasurementFlags where
  midstreamStart : Bool := false
  truncatedPayload : Bool := false
  timestampRegression : Bool := false
  sequenceAmbiguous : Bool := false
  synRetransmitted : Bool := false
  deriving DecidableEq, Repr

/-- A range of payload bytes. The ranges of a history use the first two fields only. -/
structure OutstandingSegment where
  sequenceBegin : Int
  sequenceEnd : Int
  sentAtNs : Int
  retransmitted : Bool
  deriving DecidableEq, Repr

/-- `NpmTcpPerformanceTracker::Impl::DirectionState`. -/
structure DirectionState where
  initialized : Bool := false
  progress : Int := 0
  highestAck : Option Int := none
  history : List OutstandingSegment := []
  outstanding : List OutstandingSegment := []
  uniqueBytes : Nat := 0
  retransPackets : Nat := 0
  retransBytes : Nat := 0
  deriving DecidableEq, Repr

/-- `NpmTcpPerformanceTracker::Impl::SessionState`. -/
structure PerformanceState where
  transportProtocol : UInt8
  minTimestampNs : Int
  maxTimestampNs : Int
  packetsAb : Nat := 0
  packetsBa : Nat := 0
  observedWireBytesAb : Nat := 0
  observedWireBytesBa : Nat := 0
  payloadBytesAb : Nat := 0
  payloadBytesBa : Nat := 0
  handshakeStatus : TcpHandshakeStatus := .notObserved
  initiator : Option TcpInitiator := none
  handshakeDurationNs : Option Int := none
  synackRttNs : Option Int := none
  initialSynObserved : Bool := false
  initialSynDirection : PacketDirection := .aToB
  initialSynSequence : UInt32 := 0
  initialSynAtNs : Int := 0
  synackObserved : Bool := false
  synackSequence : UInt32 := 0
  rttStatus : TcpRttStatus := .noSample
  rttSamples : Nat := 0
  rttSumNs : Nat := 0
  rttMinNs : Int := 0
  rttMaxNs : Int := 0
  measurementFlags : MeasurementFlags := {}
  timestampRegressed : Bool := false
  directions : PacketDirection → DirectionState := fun _ => {}
  trackedBytes : UInt64 := 0

/-- `SessionCharge` and `SegmentCharge`, which depend on the platform. -/
structure TrackerSizes where
  session : Nat
  segment : Nat
  session_lt : session < 2 ^ 32
  segment_lt : segment < 2 ^ 32

/-- The budget of the task, `none` for a null pointer, and the tracker's own count of
what it has reserved there. -/
structure TrackerLedger where
  config : AnalysisConfig
  usage : Option BudgetUsage
  trackedBytes : UInt64 := 0

/-- Whether the three allocations that one call may make succeed. -/
structure TrackerAllocations where
  history : Bool := true
  outstanding : Bool := true
  session : Bool := true

namespace TrackerLedger

/-- `Reserve`. -/
def reserve (bytes : Nat) (ledger : TrackerLedger) : TcpPerformanceError × TrackerLedger :=
  match ledger.usage with
  | none => (.nullBudget, ledger)
  | some usage =>
      match reserveNpmBudget ledger.config .moduleState bytes usage with
      | (.none, reserved) =>
          (.none,
            { ledger with
              usage := some reserved
              trackedBytes := ledger.trackedBytes + UInt64.ofNat bytes })
      | (_, usage) => (.budgetExceeded, { ledger with usage := some usage })

/-- `Release`. -/
def release (bytes : Nat) (ledger : TrackerLedger) : TrackerLedger :=
  match ledger.usage with
  | none => ledger
  | some usage =>
      if bytes = 0 then ledger
      else
        match releaseNpmBudget .moduleState bytes usage with
        | (.none, released) =>
            { ledger with
              usage := some released
              trackedBytes := ledger.trackedBytes - UInt64.ofNat bytes }
        | (_, usage) => { ledger with usage := some usage }

end TrackerLedger

/-- `NonnegativeDelta`. -/
def nonnegativeDelta (endNs startNs : Int) : Option Int :=
  if endNs < startNs then none
  else if endNs - startNs > maxInt64 then none
  else some (endNs - startNs)

/-- The difference of two `uint32_t`: the distance from the low half of the reference. -/
def sequenceDistance (sequence : UInt32) (reference : Int) : Int :=
  ((sequence.toNat : Int) - reference) % 2 ^ 32

/-- `Unwrap`. -/
def unwrap (sequence : UInt32) (reference : Int) : Option Int :=
  let distance := sequenceDistance sequence reference
  if distance = 2 ^ 31 then none
  else
    let delta := if distance < 2 ^ 31 then distance else distance - 2 ^ 32
    if (delta > 0 ∧ reference > maxInt64 - delta) ∨ (delta < 0 ∧ reference < minInt64 - delta) then
      none
    else some (reference + delta)

namespace PerformanceState

variable (sizes : TrackerSizes)

/-- `Outgoing`, written. -/
def setDirection (state : PerformanceState) (direction : PacketDirection)
    (value : DirectionState) : PerformanceState :=
  { state with directions := Function.update state.directions direction value }

/-- `ReleaseSegments`. -/
def releaseSegments (count : Nat) (state : PerformanceState) (ledger : TrackerLedger) :
    PerformanceState × TrackerLedger :=
  if count = 0 then (state, ledger)
  else
    ({ state with trackedBytes := state.trackedBytes - UInt64.ofNat (count * sizes.segment) },
      ledger.release (count * sizes.segment))

/-- `ClearOutstanding`. -/
def clearOutstanding (state : PerformanceState) (ledger : TrackerLedger) :
    PerformanceState × TrackerLedger :=
  releaseSegments sizes
    ((state.directions .aToB).outstanding.length + (state.directions .bToA).outstanding.length)
    { state with
      directions := fun direction => { state.directions direction with outstanding := [] } } ledger

/-- `MarkRttAmbiguous`. -/
def markRttAmbiguous (state : PerformanceState) (ledger : TrackerLedger) :
    PerformanceState × TrackerLedger :=
  clearOutstanding sizes
    { state with
      rttStatus := .ambiguous
      rttSamples := 0
      rttSumNs := 0
      rttMinNs := 0
      rttMaxNs := 0 } ledger

/-- `MarkSequenceAmbiguous`. -/
def markSequenceAmbiguous (state : PerformanceState) (ledger : TrackerLedger) :
    PerformanceState × TrackerLedger :=
  let (state, ledger) :=
    markRttAmbiguous sizes
      { state with measurementFlags := { state.measurementFlags with sequenceAmbiguous := true } }
      ledger
  releaseSegments sizes
    ((state.directions .aToB).history.length + (state.directions .bToA).history.length)
    { state with
      directions := fun direction => { state.directions direction with history := [] } } ledger

/-- `MarkHandshakeAmbiguous`. -/
def markHandshakeAmbiguous (state : PerformanceState) : PerformanceState :=
  { state with
    handshakeStatus := .ambiguous
    initiator := none
    handshakeDurationNs := none
    synackRttNs := none
    synackObserved := false }

/-- `MarkTimestampRegression`. -/
def markTimestampRegression (state : PerformanceState) (ledger : TrackerLedger) :
    PerformanceState × TrackerLedger :=
  let state :=
    { state with
      measurementFlags := { state.measurementFlags with timestampRegression := true }
      timestampRegressed := true }
  if state.transportProtocol = tcpProtocol then
    markRttAmbiguous sizes state.markHandshakeAmbiguous ledger
  else (state, ledger)

end PerformanceState

/-! ## The handshake -/

def PacketView.isBareSyn (packet : PacketView) : Bool :=
  packet.transport.tcp.syn && packet.acknowledgment.isNone

/-- `InitiatorFor`. -/
def initiatorFor : PacketDirection → TcpInitiator
  | .aToB => .a
  | .bToA => .b

namespace PerformanceState

/-- `InitializeHandshake`. -/
def initializeHandshake (state : PerformanceState) (packet : PacketView) : PerformanceState :=
  let tcp := packet.transport.tcp
  if packet.isBareSyn then
    { state with
      handshakeStatus := .partially
      initiator := some (initiatorFor packet.direction)
      initialSynObserved := true
      initialSynDirection := packet.direction
      initialSynSequence := tcp.sequence
      initialSynAtNs := packet.timestampNs }
  else
    let state :=
      { state with measurementFlags := { state.measurementFlags with midstreamStart := true } }
    if tcp.syn && packet.acknowledgment.isSome then
      { state with
        handshakeStatus := .partially
        initiator := some (initiatorFor packet.direction.opposite) }
    else { state with handshakeStatus := .notObserved }

/-- `ObserveHandshake`. -/
def observeHandshake (state : PerformanceState) (packet : PacketView) : PerformanceState :=
  let tcp := packet.transport.tcp
  if state.timestampRegressed then state
  else if state.initialSynObserved && packet.isBareSyn then
    let repeated :=
      decide (packet.direction = state.initialSynDirection) &&
        decide (tcp.sequence = state.initialSynSequence)
    markHandshakeAmbiguous
      { state with
        measurementFlags :=
          { state.measurementFlags with
            synRetransmitted := state.measurementFlags.synRetransmitted || repeated } }
  else if state.handshakeStatus = .ambiguous ∨ state.handshakeStatus = .notObserved ∨
      state.initialSynObserved = false then state
  else if state.synackObserved = false then
    if packet.direction ≠ state.initialSynDirection.opposite ∨ tcp.syn = false ∨
        packet.acknowledgment ≠ some (state.initialSynSequence + 1) then state
    else
      match nonnegativeDelta packet.timestampNs state.initialSynAtNs with
      | none => state.markHandshakeAmbiguous
      | some delta =>
          { state with
            synackObserved := true
            synackSequence := tcp.sequence
            synackRttNs := some delta }
  else if state.handshakeStatus = .complete ∨ packet.direction ≠ state.initialSynDirection ∨
      tcp.syn = true ∨ packet.acknowledgment ≠ some (state.synackSequence + 1) then state
  else
    match nonnegativeDelta packet.timestampNs state.initialSynAtNs with
    | none => state.markHandshakeAmbiguous
    | some delta => { state with handshakeStatus := .complete, handshakeDurationNs := some delta }

end PerformanceState

/-! ## Round trip times -/

namespace PerformanceState

variable (sizes : TrackerSizes)

/-- `AddRttSample`. The sample is not negative. -/
def addRttSample (sampleNs : Int) (state : PerformanceState) (ledger : TrackerLedger) :
    PerformanceState × TrackerLedger :=
  let sample := sampleNs.toNat
  if state.rttStatus = .ambiguous then (state, ledger)
  else if state.rttSamples = maxUInt64 ∨ state.rttSumNs > maxUInt64 - sample then
    markRttAmbiguous sizes state ledger
  else
    ({ state with
        rttMinNs := if state.rttSamples = 0 then sampleNs else min state.rttMinNs sampleNs
        rttMaxNs := if state.rttSamples = 0 then sampleNs else max state.rttMaxNs sampleNs
        rttSamples := state.rttSamples + 1
        rttSumNs := state.rttSumNs + sample
        rttStatus := .valid }, ledger)

/-- The latest time at which a segment was sent that is acknowledged and was not sent
again. -/
def latestSentAt (acknowledgment : Int) : List OutstandingSegment → Option Int → Option Int
  | [], latest => latest
  | segment :: rest, latest =>
      if acknowledgment < segment.sequenceEnd then latestSentAt acknowledgment rest latest
      else if !segment.retransmitted && latest.all (fun sentAt => segment.sentAtNs > sentAt) then
        latestSentAt acknowledgment rest (some segment.sentAtNs)
      else latestSentAt acknowledgment rest latest

/-- `ObserveAcknowledgment`, for the direction whose data is acknowledged. -/
def observeAcknowledgment (direction : PacketDirection) (acknowledgment timestampNs : Int)
    (state : PerformanceState) (ledger : TrackerLedger) : PerformanceState × TrackerLedger :=
  let acknowledged := state.directions direction
  if acknowledged.highestAck.all (fun highest => acknowledgment > highest) then
    let acknowledged := { acknowledged with highestAck := some acknowledgment }
    if state.rttStatus = .ambiguous then (state.setDirection direction acknowledged, ledger)
    else
      let remaining :=
        acknowledged.outstanding.filter fun segment => acknowledgment < segment.sequenceEnd
      let (state, ledger) :=
        releaseSegments sizes (acknowledged.outstanding.length - remaining.length)
          (state.setDirection direction { acknowledged with outstanding := remaining }) ledger
      match latestSentAt acknowledgment acknowledged.outstanding none with
      | none => (state, ledger)
      | some sentAt =>
          match nonnegativeDelta timestampNs sentAt with
          | none => markRttAmbiguous sizes state ledger
          | some sample => addRttSample sizes sample state ledger
  else (state, ledger)

end PerformanceState

/-! ## Payload ranges -/

/-- Where a packet lies in the unwrapped sequence space: its first sequence number,
how many it takes up, and what it acknowledges in the other direction. -/
structure PacketPlacement where
  sequence : Int
  sequenceLength : Nat
  ack : Option Int
  deriving DecidableEq, Repr

/-- The placement of a packet, none if it is ambiguous. -/
def placePacket (outgoing acknowledged : DirectionState) (packet : PacketView) :
    Option PacketPlacement :=
  let tcp := packet.transport.tcp
  let sequenceLength :=
    packet.transport.payloadWireBytes.toNat + tcp.syn.toNat + tcp.fin.toNat
  let expected := if acknowledged.initialized then packet.acknowledgment else none
  let ack := expected.bind fun acknowledgment => unwrap acknowledgment acknowledged.progress
  match if outgoing.initialized then unwrap tcp.sequence outgoing.progress
    else some (tcp.sequence.toNat : Int) with
  | none => none
  | some sequence =>
      if (expected.isSome && ack.isNone) || decide (sequenceLength ≥ 2 ^ 31) ||
          decide (sequence > maxInt64 - sequenceLength) then none
      else some { sequence, sequenceLength, ack }

/-- What the loop over the history computes: where the merged ranges start (`none`
at the end of the list), how many they are, their hull with the new range, and how
many bytes of the new range they have. -/
structure HistoryScan where
  first : Option Nat
  mergedRanges : Nat
  mergedBegin : Int
  mergedEnd : Int
  overlap : Nat
  deriving DecidableEq, Repr

/-- The loop over the history, from the given position on. -/
def scanHistory (begin end_ : Int) : Nat → List OutstandingSegment → HistoryScan → HistoryScan
  | _, [], scan => scan
  | position, segment :: rest, scan =>
      if segment.sequenceEnd < begin then scanHistory begin end_ (position + 1) rest scan
      else if segment.sequenceBegin > end_ then
        { scan with first := scan.first.or (some position) }
      else
        let intersectionBegin := max begin segment.sequenceBegin
        let intersectionEnd := min end_ segment.sequenceEnd
        scanHistory begin end_ (position + 1) rest
          { first := if scan.mergedRanges = 0 then some position else scan.first
            mergedRanges := scan.mergedRanges + 1
            mergedBegin := min scan.mergedBegin segment.sequenceBegin
            mergedEnd := max scan.mergedEnd segment.sequenceEnd
            overlap :=
              if intersectionEnd > intersectionBegin then
                addUInt64 scan.overlap (intersectionEnd - intersectionBegin).toNat
              else scan.overlap }

/-- The scan for a new range. The history is not searched for an empty one. -/
def scanRange (begin end_ : Int) (history : List OutstandingSegment) : HistoryScan :=
  let start : HistoryScan :=
    { first := none, mergedRanges := 0, mergedBegin := begin, mergedEnd := end_, overlap := 0 }
  if end_ > begin then scanHistory begin end_ 0 history start else start

/-- The history with the new range: inserted in front of `first`, or merged into the
range there. -/
def HistoryScan.commit (scan : HistoryScan) (segment : OutstandingSegment) (hasPayload : Bool)
    (history : List OutstandingSegment) : List OutstandingSegment :=
  let first := scan.first.getD history.length
  if hasPayload && scan.mergedRanges == 0 then
    history.take first ++ segment :: history.drop first
  else if scan.mergedRanges = 0 then history
  else
    match history.drop first with
    | merged :: rest =>
        history.take first ++
          { merged with sequenceBegin := scan.mergedBegin, sequenceEnd := scan.mergedEnd } ::
            rest.drop (scan.mergedRanges - 1)
    | [] => history

/-- `stage`: reserve a segment and allocate it. The second component counts what is
reserved so far. -/
def stageSegment (sizes : TrackerSizes) (allocated needed : Bool) (reserved : Nat)
    (ledger : TrackerLedger) : TcpPerformanceError × Nat × TrackerLedger :=
  if needed then
    match ledger.reserve sizes.segment with
    | (.none, ledger) =>
        (if allocated then .none else .allocationFailed, reserved + sizes.segment, ledger)
    | (error, ledger) => (error, reserved, ledger)
  else (.none, reserved, ledger)

/-- Both segments of a packet. What is reserved is released again on an error. -/
def stageSegments (sizes : TrackerSizes) (allocations : TrackerAllocations)
    (newHistory newOutstanding : Bool) (ledger : TrackerLedger) :
    TcpPerformanceError × Nat × TrackerLedger :=
  match stageSegment sizes allocations.history newHistory 0 ledger with
  | (.none, reserved, ledger) =>
      match stageSegment sizes allocations.outstanding newOutstanding reserved ledger with
      | (.none, reserved, ledger) => (.none, reserved, ledger)
      | (error, reserved, ledger) => (error, 0, ledger.release reserved)
  | (error, reserved, ledger) => (error, 0, ledger.release reserved)

/-- A segment that the range overlaps was sent again. -/
def OutstandingSegment.markRetransmitted (begin end_ : Int) (segment : OutstandingSegment) :
    OutstandingSegment :=
  if segment.sequenceBegin < end_ ∧ begin < segment.sequenceEnd then
    { segment with retransmitted := true }
  else segment

/-- `new_outstanding`: the time until the range is acknowledged will be measured. -/
def DirectionState.awaitsAck (outgoing : DirectionState) (usable : Bool) (begin end_ : Int) : Bool :=
  let duplicate := outgoing.outstanding.find? fun segment =>
    decide (segment.sequenceBegin = begin ∧ segment.sequenceEnd = end_)
  decide (end_ > begin) && usable && duplicate.isNone &&
    outgoing.highestAck.all fun highest => end_ > highest

/-- What a packet does to its own direction once nothing can fail any more. -/
def DirectionState.commit (outgoing : DirectionState) (placement : PacketPlacement)
    (scan : HistoryScan) (segment : OutstandingSegment) (payload : Nat) (newOutstanding : Bool) :
    DirectionState :=
  let progress := placement.sequence + placement.sequenceLength
  let outstanding :=
    if scan.overlap ≠ 0 then
      outgoing.outstanding.map
        (OutstandingSegment.markRetransmitted segment.sequenceBegin segment.sequenceEnd)
    else outgoing.outstanding
  { outgoing with
    history := scan.commit segment (decide (segment.sequenceEnd > segment.sequenceBegin))
      outgoing.history
    retransPackets :=
      if scan.overlap ≠ 0 then addUInt64 outgoing.retransPackets 1 else outgoing.retransPackets
    retransBytes :=
      if scan.overlap ≠ 0 then addUInt64 outgoing.retransBytes scan.overlap
      else outgoing.retransBytes
    uniqueBytes := addUInt64 outgoing.uniqueBytes (subUInt64 payload scan.overlap)
    outstanding := if newOutstanding then outstanding ++ [segment] else outstanding
    progress := if outgoing.initialized then max outgoing.progress progress else progress
    initialized := true }

namespace PerformanceState

variable (sizes : TrackerSizes)

/-- The packet is older than one before it, or an earlier packet was. -/
def regressedBy (packet : PacketView) (state : PerformanceState) : Bool :=
  state.timestampRegressed || decide (packet.timestampNs < state.maxTimestampNs)

/-- `ObserveRanges`, for a packet that has a place. -/
def observePlaced (maxRanges : Nat) (allocations : TrackerAllocations) (packet : PacketView)
    (placement : PacketPlacement) (state : PerformanceState) (ledger : TrackerLedger) :
    TcpPerformanceError × PerformanceState × TrackerLedger :=
  let outgoing := state.directions packet.direction
  let payload := packet.transport.payloadWireBytes.toNat
  let begin := placement.sequence + packet.transport.tcp.syn.toNat
  let end_ := begin + payload
  let hasPayload := decide (end_ > begin)
  let scan := scanRange begin end_ outgoing.history
  let segment : OutstandingSegment :=
    { sequenceBegin := begin, sequenceEnd := end_, sentAtNs := packet.timestampNs
      retransmitted := decide (scan.overlap ≠ 0) }
  let regressed := state.regressedBy packet
  let newHistory := hasPayload && scan.mergedRanges == 0
  let newOutstanding :=
    outgoing.awaitsAck (!regressed && decide (state.rttStatus ≠ .ambiguous)) begin end_
  let historyCount := outgoing.history.length + newHistory.toNat - (scan.mergedRanges - 1)
  let totalRanges := historyCount + outgoing.outstanding.length + newOutstanding.toNat
  if totalRanges > maxRanges then (.rangeLimitExceeded, state, ledger)
  else
    match stageSegments sizes allocations newHistory newOutstanding ledger with
    | (.none, reserved, ledger) =>
        let state := { state with trackedBytes := state.trackedBytes + UInt64.ofNat reserved }
        let (state, ledger) := releaseSegments sizes (scan.mergedRanges - 1) state ledger
        let state := state.setDirection packet.direction
          (outgoing.commit placement scan segment payload newOutstanding)
        match placement.ack with
        | some acknowledgment =>
            if regressed then (.none, state, ledger)
            else
              (.none, observeAcknowledgment sizes packet.direction.opposite acknowledgment
                packet.timestampNs state ledger)
        | none => (.none, state, ledger)
    | (error, _, ledger) => (error, state, ledger)

/-- `ObserveRanges`. -/
def observeRanges (maxRanges : Nat) (allocations : TrackerAllocations) (packet : PacketView)
    (state : PerformanceState) (ledger : TrackerLedger) :
    TcpPerformanceError × PerformanceState × TrackerLedger :=
  if state.measurementFlags.sequenceAmbiguous then (.none, state, ledger)
  else
    match placePacket (state.directions packet.direction)
      (state.directions packet.direction.opposite) packet with
    | none => (.none, markSequenceAmbiguous sizes state ledger)
    | some placement => observePlaced sizes maxRanges allocations packet placement state ledger

/-! ## Packets and sessions -/

/-- `CounterCanAdd`. -/
def counterCanAdd (current value : Nat) : Bool := decide (value ≤ maxUInt64 - current)

/-- `CanCountPacket`. -/
def canCountPacket (state : PerformanceState) (packet : PacketView) : Bool :=
  let ab := decide (packet.direction = .aToB)
  counterCanAdd (if ab then state.packetsAb else state.packetsBa) 1 &&
    counterCanAdd (if ab then state.observedWireBytesAb else state.observedWireBytesBa)
      packet.wireLen.toNat &&
    counterCanAdd (if ab then state.payloadBytesAb else state.payloadBytesBa)
      packet.transport.payloadWireBytes.toNat

/-- `CountPacket`. -/
def countPacket (packet : PacketView) (state : PerformanceState) : PerformanceState :=
  let payload := packet.transport.payloadWireBytes.toNat
  let counted :=
    match packet.direction with
    | .aToB =>
        { state with
          packetsAb := state.packetsAb + 1
          observedWireBytesAb := state.observedWireBytesAb + packet.wireLen.toNat
          payloadBytesAb := state.payloadBytesAb + payload }
    | .bToA =>
        { state with
          packetsBa := state.packetsBa + 1
          observedWireBytesBa := state.observedWireBytesBa + packet.wireLen.toNat
          payloadBytesBa := state.payloadBytesBa + payload }
  if packet.transport.payloadComplete then counted
  else
    { counted with measurementFlags := { counted.measurementFlags with truncatedPayload := true } }

/-- The state of a session whose first packet is being observed. -/
def start (packet : PacketView) (protocol : UInt8) : PerformanceState :=
  let state : PerformanceState :=
    { transportProtocol := protocol
      minTimestampNs := packet.timestampNs
      maxTimestampNs := packet.timestampNs
      trackedBytes := UInt64.ofNat sizes.session }
  if protocol = tcpProtocol then state.initializeHandshake packet else state

/-- The part of `ObserveExisting` that follows `ObserveRanges`. -/
def settlePacket (packet : PacketView) (state : PerformanceState) (ledger : TrackerLedger) :
    PerformanceState × TrackerLedger :=
  let state := countPacket packet state
  let state := { state with minTimestampNs := min state.minTimestampNs packet.timestampNs }
  if packet.timestampNs < state.maxTimestampNs then markTimestampRegression sizes state ledger
  else
    let state := { state with maxTimestampNs := max state.maxTimestampNs packet.timestampNs }
    (if state.transportProtocol = tcpProtocol then state.observeHandshake packet else state, ledger)

/-- `ObserveExisting`. -/
def observeExisting (maxRanges : Nat) (allocations : TrackerAllocations) (packet : PacketView)
    (state : PerformanceState) (ledger : TrackerLedger) :
    TcpPerformanceError × PerformanceState × TrackerLedger :=
  if state.canCountPacket packet = false then (.invalidPacket, state, ledger)
  else
    match if state.transportProtocol = tcpProtocol then
        observeRanges sizes maxRanges allocations packet state ledger
      else (.none, state, ledger) with
    | (.none, state, ledger) => (.none, settlePacket sizes packet state ledger)
    | (error, state, ledger) => (error, state, ledger)

end PerformanceState

/-- `NpmTcpPerformanceTracker`: the states of the sessions by session id. -/
structure TcpPerformanceTracker where
  sizes : TrackerSizes
  maxRangesPerDirection : Nat
  sessions : AList fun _ : Nat => PerformanceState
  ledger : TrackerLedger

namespace TcpPerformanceTracker

/-- `ObserveNew`. -/
def observeNew (allocations : TrackerAllocations) (packet : PacketView) (sessionId : Nat)
    (protocol : UInt8) (tracker : TcpPerformanceTracker) :
    TcpPerformanceError × TcpPerformanceTracker :=
  match tracker.ledger.reserve tracker.sizes.session with
  | (.none, ledger) =>
      let state := PerformanceState.start tracker.sizes packet protocol
      match if protocol = tcpProtocol then
          state.observeRanges tracker.sizes tracker.maxRangesPerDirection allocations packet ledger
        else (.none, state, ledger) with
      | (.none, state, ledger) =>
          let state := state.countPacket packet
          if allocations.session then
            (.none,
              { tracker with sessions := tracker.sessions.insert sessionId state, ledger := ledger })
          else
            (.allocationFailed,
              { tracker with ledger := ledger.release state.trackedBytes.toNat })
      | (error, state, ledger) =>
          (error, { tracker with ledger := ledger.release state.trackedBytes.toNat })
  | (error, ledger) => (error, { tracker with ledger := ledger })

/-- The protocol by which a packet is measured. -/
def packetProtocol (packet : PacketView) (session : SessionView) : Option UInt8 :=
  if packet.transport.tcp.valid then some tcpProtocol
  else if session.key.map SessionKey.protocol = some udpProtocol then some udpProtocol
  else none

/-- `Observe`. -/
def observe (allocations : TrackerAllocations) (packet : PacketView) (session : SessionView)
    (tracker : TcpPerformanceTracker) : TcpPerformanceError × TcpPerformanceTracker :=
  if tracker.ledger.usage.isNone then (.nullBudget, tracker)
  else if tracker.maxRangesPerDirection < 8 ∨ tracker.maxRangesPerDirection > 65536 then
    (.invalidRangeLimit, tracker)
  else if session.sessionId = 0 then (.invalidSession, tracker)
  else
    match packetProtocol packet session with
    | none => (.invalidPacket, tracker)
    | some protocol =>
        if session.key.any fun key => key.protocol ≠ protocol then (.protocolMismatch, tracker)
        else
          match tracker.sessions.lookup session.sessionId with
          | none => observeNew allocations packet session.sessionId protocol tracker
          | some state =>
              if state.transportProtocol ≠ protocol then (.protocolMismatch, tracker)
              else
                match state.observeExisting tracker.sizes tracker.maxRangesPerDirection allocations
                  packet tracker.ledger with
                | (error, state, ledger) =>
                    (error,
                      { tracker with
                        sessions := tracker.sessions.replace session.sessionId state
                        ledger := ledger })

/-- `Remove`. -/
def remove (sessionId : Nat) (tracker : TcpPerformanceTracker) : TcpPerformanceTracker :=
  match tracker.sessions.lookup sessionId with
  | none => tracker
  | some state =>
      { tracker with
        sessions := tracker.sessions.erase sessionId
        ledger := tracker.ledger.release state.trackedBytes.toNat }

/-- `Clear`. -/
def clear (tracker : TcpPerformanceTracker) : TcpPerformanceTracker :=
  { tracker with
    sessions := ∅
    ledger := tracker.ledger.release
      (tracker.sessions.entries.map fun entry : (_ : Nat) × PerformanceState =>
        entry.2.trackedBytes).sum.toNat }

end TcpPerformanceTracker

/-- `NpmTcpPerformanceSnapshot`, without rates. -/
structure TcpPerformanceSnapshot where
  payloadBytesAb : Nat
  payloadBytesBa : Nat
  handshakeStatus : TcpHandshakeStatus := .notObserved
  initiator : Option TcpInitiator := none
  handshakeDurationNs : Option Int := none
  synackRttNs : Option Int := none
  rttStatus : TcpRttStatus := .noSample
  rttSamples : Option Nat := none
  rttMinNs : Option Int := none
  rttMeanNs : Option Nat := none
  rttMaxNs : Option Int := none
  uniquePayloadBytes : PacketDirection → Option Nat := fun _ => none
  retransmissionStatus : TcpRetransmissionStatus := .valid
  retransPackets : PacketDirection → Option Nat := fun _ => none
  retransPayloadBytes : PacketDirection → Option Nat := fun _ => none
  measurementFlags : MeasurementFlags := {}

/-- The snapshot of a session. -/
def PerformanceState.snapshot (state : PerformanceState) : TcpPerformanceSnapshot :=
  let base : TcpPerformanceSnapshot :=
    { payloadBytesAb := state.payloadBytesAb, payloadBytesBa := state.payloadBytesBa
      measurementFlags := state.measurementFlags }
  if state.transportProtocol = udpProtocol then
    { base with
      handshakeStatus := .notApplicable
      rttStatus := .notApplicable
      retransmissionStatus := .notApplicable }
  else
    let sampled := decide (state.rttStatus = .valid)
    let reliable := !state.measurementFlags.sequenceAmbiguous
    { base with
      handshakeStatus := state.handshakeStatus
      initiator := state.initiator
      handshakeDurationNs := state.handshakeDurationNs
      synackRttNs := state.synackRttNs
      rttStatus := state.rttStatus
      rttSamples :=
        if state.rttStatus = .noSample then some 0
        else if sampled then some state.rttSamples else none
      rttMinNs := if sampled then some state.rttMinNs else none
      rttMeanNs := if sampled then some (state.rttSumNs / state.rttSamples) else none
      rttMaxNs := if sampled then some state.rttMaxNs else none
      retransmissionStatus := if reliable then .valid else .ambiguous
      uniquePayloadBytes := fun direction =>
        if reliable then some (state.directions direction).uniqueBytes else none
      retransPackets := fun direction =>
        if reliable then some (state.directions direction).retransPackets else none
      retransPayloadBytes := fun direction =>
        if reliable then some (state.directions direction).retransBytes else none }

end Flowsql.Npm
