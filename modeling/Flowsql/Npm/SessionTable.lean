import Flowsql.Library.AssociationList
import Flowsql.Library.OrderedSet
import Flowsql.Npm.SessionSnapshots
import Mathlib

/-!
# The session table

`NpmSessionTable` from `npm_session_table.h` and `npm_session_table.cpp`. The maps of the
two address families are one map here, since a key says of which family it is, and their
common size is the number of its entries. A deadline node holds the session id twice in
the source, in its key and as its value. Times are `int64_t` and byte counts, packet
counts and session ids are `uint64_t`.
-/

namespace Flowsql.Npm

open Flowsql.Library

/-- `SaturatingAdd` on `int64_t`. -/
def saturatingAdd (left right : Int) : Int :=
  if right > 0 ∧ left > maxInt64 - right then maxInt64
  else if right < 0 ∧ left < minInt64 - right then minInt64
  else left + right

/-- `SaturatingSubtract` on `int64_t`. -/
def saturatingSubtract (left right : Int) : Int :=
  if right > 0 ∧ left < minInt64 + right then minInt64
  else if right < 0 ∧ left > maxInt64 + right then maxInt64
  else left - right

/-- `IdleTimeout`. -/
def AnalysisConfig.idleTimeout (config : AnalysisConfig) (key : SessionKey) : Int :=
  if key.protocol = tcpProtocol then config.tcpIdleTimeoutNs else config.udpIdleTimeoutNs

/-- The part of `packet::PacketMeta` that the table reads. -/
structure PacketMeta where
  timestampNs : Int
  wireLen : UInt32

/-- `NpmPacketBindingView` without the label facts, and the capacity of the name in its
key. `acknowledgment` is `tcp.acknowledgment`, where `tcp.ack` is set. -/
structure PacketBinding where
  key : Option SessionKey
  nameCapacity : Nat
  direction : PacketDirection
  payload : ByteSpan
  transport : TransportPacketFacts
  acknowledgment : Option UInt32

/-- `initial_syn_direction` and `initial_syn_sequence`, where `initial_syn_observed` is set. -/
structure InitialSyn where
  direction : PacketDirection
  sequence : UInt32
  deriving DecidableEq

namespace PacketBinding

/-- `is_tcp`. -/
def isTcp (key : SessionKey) (binding : PacketBinding) : Bool :=
  decide (key.protocol = tcpProtocol) && binding.transport.tcp.valid

/-- `bare_syn`. -/
def bareSyn (key : SessionKey) (binding : PacketBinding) : Bool :=
  binding.isTcp key && binding.transport.tcp.syn && !binding.acknowledgment.isSome

/-- The `initial_syn_*` fields that this packet sets. -/
def initialSyn (key : SessionKey) (binding : PacketBinding) : Option InitialSyn :=
  if binding.bareSyn key then some ⟨binding.direction, binding.transport.tcp.sequence⟩ else none

/-- `tuple_reuse` for a session that is there. -/
def reusesTuple (key : SessionKey) (known : Option InitialSyn) (binding : PacketBinding) : Bool :=
  binding.bareSyn key &&
    decide (known ≠ some ⟨binding.direction, binding.transport.tcp.sequence⟩)

/-- Whether the packet carries a FIN in this direction. -/
def finFrom (key : SessionKey) (direction : PacketDirection) (binding : PacketBinding) : Bool :=
  binding.isTcp key && binding.transport.tcp.fin && decide (binding.direction = direction)

/-- Whether the session ends with this packet, given the FIN flags after it. -/
def closes (key : SessionKey) (finAb finBa : Bool) (binding : PacketBinding) : Bool :=
  binding.isTcp key && (binding.transport.tcp.rst || (finAb && finBa))

end PacketBinding

/-- `NpmSessionTable::State`. -/
structure SessionState where
  sessionId : Nat
  firstNs : Int
  lastNs : Int
  packetsAb : Nat := 0
  packetsBa : Nat := 0
  wireBytesAb : Nat := 0
  wireBytesBa : Nat := 0
  primaryLabelId : UInt32
  payloadSamples : UInt32 := 0
  protocolStatus : ProtocolStatus := .pending
  protocolId : Option UInt16 := none
  protocolSubId : Option UInt16 := none
  idleDeadlineNs : Int
  initialSyn : Option InitialSyn
  finAb : Bool
  finBa : Bool
  trackedBytes : Nat
  deriving DecidableEq

/-- `DeadlineKey`: pairs are compared by their time, then by their id. -/
abbrev DeadlineKey := Int ×ₗ Nat

namespace SessionState

/-- The node that the session has among the deadlines. -/
def deadlineKey (session : SessionState) : DeadlineKey :=
  toLex (session.idleDeadlineNs, session.sessionId)

@[simp] theorem deadlineKey_snd (session : SessionState) :
    (ofLex session.deadlineKey).2 = session.sessionId := rfl

/-- `CountPacket`. -/
def countPacket (direction : PacketDirection) (meta_ : PacketMeta) (session : SessionState) :
    SessionState :=
  match direction with
  | .aToB =>
      { session with
        packetsAb := addUInt64 session.packetsAb 1
        wireBytesAb := addUInt64 session.wireBytesAb meta_.wireLen.toNat }
  | .bToA =>
      { session with
        packetsBa := addUInt64 session.packetsBa 1
        wireBytesBa := addUInt64 session.wireBytesBa meta_.wireLen.toNat }

/-- The state of a session that starts with this packet. -/
def start (config : AnalysisConfig) (key : SessionKey) (binding : PacketBinding)
    (meta_ : PacketMeta) (label : UInt32) (sessionId charge : Nat) : SessionState :=
  countPacket binding.direction meta_
    { sessionId := sessionId
      firstNs := meta_.timestampNs
      lastNs := meta_.timestampNs
      primaryLabelId := label
      idleDeadlineNs := saturatingAdd meta_.timestampNs (config.idleTimeout key)
      initialSyn := binding.initialSyn key
      finAb := binding.finFrom key .aToB
      finBa := binding.finFrom key .bToA
      trackedBytes := charge }

/-- Later packets move the deadline, older ones do not. -/
def touch (config : AnalysisConfig) (key : SessionKey) (timestampNs : Int)
    (session : SessionState) : SessionState :=
  if timestampNs > session.lastNs then
    { session with
      lastNs := timestampNs
      idleDeadlineNs := saturatingAdd timestampNs (config.idleTimeout key) }
  else session

/-- The state of a session after a further packet. -/
def observe (config : AnalysisConfig) (key : SessionKey) (binding : PacketBinding)
    (meta_ : PacketMeta) (session : SessionState) : SessionState :=
  let counted := (({ session with firstNs := min session.firstNs meta_.timestampNs }).touch config key
    meta_.timestampNs).countPacket binding.direction meta_
  { counted with
    finAb := counted.finAb || binding.finFrom key .aToB
    finBa := counted.finBa || binding.finFrom key .bToA }

/-- `MakeView`. -/
def view (key : SessionKey) (session : SessionState) : SessionView :=
  { sessionId := session.sessionId
    key := some key
    firstNs := session.firstNs
    lastNs := session.lastNs
    packetsAb := session.packetsAb
    packetsBa := session.packetsBa
    wireBytesAb := session.wireBytesAb
    wireBytesBa := session.wireBytesBa
    primaryLabelId := session.primaryLabelId
    protocolStatus := session.protocolStatus
    protocolId := session.protocolId
    protocolSubId := session.protocolSubId }

/-- The facts of a snapshot: a protocol that is still pending is unknown there. -/
def endedView (key : SessionKey) (session : SessionState) : SessionView :=
  if session.protocolStatus = .pending then { session.view key with protocolStatus := .unknown }
  else session.view key

end SessionState

/-- `NpmSessionTable`. `max_active_sessions_` is a copy of the limit in the configuration. -/
structure SessionTable where
  config : AnalysisConfig
  nextSessionId : Nat := 1
  watermarkInitialized : Bool := false
  watermarkNs : Int := 0
  sessions : AList fun _ : SessionKey => SessionState
  ids : AList fun _ : Nat => SessionKey
  deadlines : OrderedSet DeadlineKey
  trackedSessionBytes : Nat := 0

/-- The `sizeof` sums of `EstimateTrackedBytes`, with those of the snapshots. -/
structure TableSizes where
  snapshots : SnapshotSizes
  session4 : Nat
  session6 : Nat

/-- Whether the allocations of one `Observe` succeed. -/
structure ObserveAllocations where
  reused : AppendAllocations := {}
  closed : AppendAllocations := {}
  session : Bool := true
  deadline : Bool := true
  id : Bool := true

/-- `NpmSessionObserveResult` without the access handle. -/
structure ObserveResult where
  activeSession : Option SessionView
  endedBegin : Nat
  endedEnd : Nat
  deriving DecidableEq

/-- `NpmCaptureProgressUpdate`. -/
structure CaptureProgressUpdate where
  captureTimeNs : Int
  packetObserved : Bool := false
  sourceIdleConfirmed : Bool := false
  sourceBacklogKnown : Bool := false
  sourceHasBacklog : Bool := false

/-- `NpmCaptureProgressDisposition`. -/
inductive CaptureProgressDisposition where
  | advanced
  | unchanged
  | deferredBacklogUnknown
  | deferredBacklogged
  | deferredIdleUnconfirmed
  deriving DecidableEq, Repr

/-- `NpmCaptureProgressResult`. -/
structure CaptureProgressResult where
  disposition : CaptureProgressDisposition
  watermarkInitialized : Bool
  watermarkNs : Int
  endedBegin : Nat := 0
  endedEnd : Nat := 0
  deriving DecidableEq

/-- What a call can change: the table, the snapshot batch it appends to, and the budget. -/
structure TableState where
  table : SessionTable
  ended : SnapshotBatch := {}
  budget : TaskBudget

namespace SessionTable

/-- The constructor. -/
def create (config : AnalysisConfig) : SessionTable :=
  { config := config, sessions := ∅, ids := ∅, deadlines := .empty }

/-- `size`. -/
def size (table : SessionTable) : Nat := table.sessions.entries.length

/-- `IsLatePacket`. -/
def isLatePacket (timestampNs : Int) (table : SessionTable) : Bool :=
  table.watermarkInitialized && decide (timestampNs < table.watermarkNs)

/-- `EstimateTrackedBytes`. -/
def estimateTrackedBytes (sizes : TableSizes) (key : SessionKey) (nameCapacity : Nat) : Nat :=
  (if key.isIpv4 then sizes.session4 else sizes.session6) + nameCapacity + 1

/-- The three lines that take a session out of the indexes. -/
def eraseSession (key : SessionKey) (session : SessionState) (table : SessionTable) :
    SessionTable :=
  { table with
    deadlines := table.deadlines.erase session.deadlineKey
    ids := table.ids.erase session.sessionId
    sessions := table.sessions.erase key }

/-- `emplace` on the id index, which keeps an entry that is there. -/
def emplaceId (sessionId : Nat) (key : SessionKey) (table : SessionTable) : SessionTable :=
  if sessionId ∈ table.ids then table
  else { table with ids := table.ids.insert sessionId key }

def emplaceDeadline (node : DeadlineKey) (table : SessionTable) : SessionTable :=
  { table with deadlines := table.deadlines.insert node }

/-- A new key enters the three indexes; what was done before a failure is undone. -/
def placeNew (allocations : ObserveAllocations) (key : SessionKey) (session : SessionState)
    (table : SessionTable) : Bool × SessionTable :=
  if allocations.session then
    let placed := { table with sessions := table.sessions.insert key session }
    if allocations.deadline then
      let placed := placed.emplaceDeadline session.deadlineKey
      if allocations.id then (true, placed.emplaceId session.sessionId key)
      else (false, placed.eraseSession key session)
    else (false, placed.eraseSession key session)
  else (false, table)

/-- A new instance takes the place of another of the same key. -/
def placeReused (allocations : ObserveAllocations) (key : SessionKey) (old session : SessionState)
    (table : SessionTable) : Bool × SessionTable :=
  if allocations.deadline then
    let placed := table.emplaceDeadline session.deadlineKey
    if allocations.id then
      let placed := placed.emplaceId session.sessionId key
      (true,
        { placed with
          deadlines := placed.deadlines.erase old.deadlineKey
          ids := placed.ids.erase old.sessionId
          sessions := placed.sessions.replace key session })
    else
      (false, { placed with deadlines := placed.deadlines.erase session.deadlineKey })
  else (false, table)

/-- A further packet of a session: the node of its deadline moves where the deadline does. -/
def updateSession (key : SessionKey) (old session : SessionState) (table : SessionTable) :
    SessionTable :=
  { table with
    deadlines :=
      if session.deadlineKey ≠ old.deadlineKey then
        (table.deadlines.erase old.deadlineKey).insert session.deadlineKey
      else table.deadlines
    sessions := table.sessions.replace key session }

/-- `++next_session_id_`, which comes to zero after the last id. -/
def takeId (table : SessionTable) : SessionTable :=
  { table with nextSessionId := addUInt64 table.nextSessionId 1 }

/-- `NextEventDeadlineNs`. -/
def nextEventDeadlineNs (table : SessionTable) : Option Int :=
  table.deadlines.elements.head?.map fun node => (ofLex node).1

end SessionTable

namespace TableState

/-- `ReserveSession`. -/
def reserveSession (bytes : Nat) (state : TableState) : Bool × TableState :=
  match state.budget.reserve .sessionState bytes with
  | (.none, budget) =>
      (true,
        { state with
          table := { state.table with
            trackedSessionBytes := state.table.trackedSessionBytes + bytes }
          budget := budget })
  | (_, budget) => (false, { state with budget := budget })

/-- `ReleaseSession`. -/
def releaseSession (bytes : Nat) (state : TableState) : TableState :=
  if bytes = 0 then state
  else
    match state.budget.release .sessionState bytes with
    | (.none, budget) =>
        { state with
          table := { state.table with
            trackedSessionBytes := state.table.trackedSessionBytes - bytes }
          budget := budget }
    | (_, budget) => { state with budget := budget }

variable (sizes : TableSizes)

/-- `AppendSnapshot`, with the observation time that its callers put in the row. -/
def appendSnapshot (allocations : AppendAllocations) (key : SessionKey) (session : SessionState)
    (reason : SessionEndReason) (observedAtNs : Int) (state : TableState) : Bool × TableState :=
  let (done, ended, budget) := state.ended.append sizes.snapshots allocations key
    (session.endedView key) reason observedAtNs state.budget
  (done, { state with ended := ended, budget := budget })

/-- `prepare_ended`, then `AppendSnapshot`. -/
def stageSnapshot (allocations : AppendAllocations) (key : SessionKey) (session : SessionState)
    (reason : SessionEndReason) (observedAtNs : Int) (state : TableState) : Bool × TableState :=
  match state.ended.prepare sizes.snapshots {} 0 0 0 state.budget with
  | (true, ended, budget) =>
      { state with ended := ended, budget := budget }.appendSnapshot sizes allocations key session
        reason observedAtNs
  | (false, ended, budget) => (false, { state with ended := ended, budget := budget })

/-- `Truncate` on the batch of the call. -/
def truncate (rows : Nat) (state : TableState) : TableState :=
  let (ended, budget) := state.ended.truncate rows state.budget
  { state with ended := ended, budget := budget }

/-- The answer to an accepted packet. -/
def answer (activeSession : Option SessionView) (endedBegin : Nat) (state : TableState) :
    Except TableError ObserveResult × TableState :=
  (.ok ⟨activeSession, endedBegin, state.ended.rows.length⟩, state)

/-- The handler of a failed allocation. -/
def abandon (reserved : Option Nat) (endedBegin : Nat) (state : TableState) :
    Except TableError ObserveResult × TableState :=
  let released := match reserved with
    | some charge => state.releaseSession charge
    | none => state
  (.error .allocationFailed, released.truncate endedBegin)

/-- The new instance is put in the indexes, or ends with the packet that starts it. -/
def commitStart (allocations : ObserveAllocations) (key : SessionKey) (binding : PacketBinding)
    (meta_ : PacketMeta) (existing : Option SessionState) (session : SessionState)
    (endedBegin : Nat) (state : TableState) : Except TableError ObserveResult × TableState :=
  let reserved := match existing with
    | none => some session.trackedBytes
    | some _ => none
  if binding.closes key session.finAb session.finBa then
    match state.stageSnapshot sizes allocations.closed key session .closed meta_.timestampNs with
    | (true, staged) =>
        let table := match existing with
          | none => staged.table
          | some old => staged.table.eraseSession key old
        let released := { staged with table := table }.releaseSession session.trackedBytes
        { released with table := released.table.takeId }.answer none endedBegin
    | (false, staged) => staged.abandon reserved endedBegin
  else
    let placed := match existing with
      | none => state.table.placeNew allocations key session
      | some old => state.table.placeReused allocations key old session
    match placed with
    | (true, table) =>
        { state with table := table.takeId }.answer (some (session.view key)) endedBegin
    | (false, table) => { state with table := table }.abandon reserved endedBegin

/-- `ObserveFamily` for a key that is new. -/
def observeNew (allocations : ObserveAllocations) (key : SessionKey) (binding : PacketBinding)
    (meta_ : PacketMeta) (label : UInt32) (state : TableState) :
    Except TableError ObserveResult × TableState :=
  if state.table.size ≥ state.table.config.maxActiveSessions then
    (.error .sessionLimitExceeded, state)
  else if state.table.nextSessionId = 0 then (.error .sessionIdExhausted, state)
  else
    let charge := SessionTable.estimateTrackedBytes sizes key binding.nameCapacity
    match state.reserveSession charge with
    | (true, reserved) =>
        reserved.commitStart sizes allocations key binding meta_ none
          (.start state.table.config key binding meta_ label state.table.nextSessionId charge)
          state.ended.rows.length
    | (false, refused) => (.error .sessionBudgetExceeded, refused)

/-- `ObserveFamily` where the packet starts another instance of a key that is there. -/
def observeReused (allocations : ObserveAllocations) (key : SessionKey) (binding : PacketBinding)
    (meta_ : PacketMeta) (label : UInt32) (old : SessionState) (state : TableState) :
    Except TableError ObserveResult × TableState :=
  if state.table.nextSessionId = 0 then (.error .sessionIdExhausted, state)
  else
    match state.stageSnapshot sizes allocations.reused key old .tupleReuse meta_.timestampNs with
    | (true, staged) =>
        staged.commitStart sizes allocations key binding meta_ (some old)
          (.start state.table.config key binding meta_ label state.table.nextSessionId
            old.trackedBytes)
          state.ended.rows.length
    | (false, staged) => staged.abandon none state.ended.rows.length

/-- `ObserveFamily` for a further packet of a session. -/
def observeExisting (allocations : ObserveAllocations) (key : SessionKey) (binding : PacketBinding)
    (meta_ : PacketMeta) (old : SessionState) (state : TableState) :
    Except TableError ObserveResult × TableState :=
  let session := old.observe state.table.config key binding meta_
  if binding.closes key session.finAb session.finBa then
    match state.stageSnapshot sizes allocations.closed key session .closed meta_.timestampNs with
    | (true, staged) =>
        ({ staged with table := staged.table.eraseSession key old }.releaseSession
          old.trackedBytes).answer none state.ended.rows.length
    | (false, staged) => staged.abandon none state.ended.rows.length
  else
    { state with table := state.table.updateSession key old session }.answer
      (some (session.view key)) state.ended.rows.length

/-- `Observe`. -/
def observe (allocations : ObserveAllocations) (binding : PacketBinding) (meta_ : PacketMeta)
    (label : UInt32) (state : TableState) : Except TableError ObserveResult × TableState :=
  match binding.key with
  | none => (.error .invalidPacketView, state)
  | some key =>
      if state.table.isLatePacket meta_.timestampNs then (.error .latePacket, state)
      else
        match state.table.sessions.lookup key with
        | none => state.observeNew sizes allocations key binding meta_ label
        | some old =>
            if binding.reusesTuple key old.initialSyn then
              state.observeReused sizes allocations key binding meta_ label old
            else state.observeExisting sizes allocations key binding meta_ old

/-! ## Capture progress -/

/-- The checks that realtime mode makes before it advances. -/
def deferral (config : AnalysisConfig) (update : CaptureProgressUpdate) :
    Option CaptureProgressDisposition :=
  if config.runMode = .realtime then
    if !update.sourceBacklogKnown then some .deferredBacklogUnknown
    else if update.sourceHasBacklog then some .deferredBacklogged
    else if !update.packetObserved && !update.sourceIdleConfirmed then
      some .deferredIdleUnconfirmed
    else none
  else none

/-- The sessions of these nodes get snapshots. -/
def stageDue (allocations : Nat → AppendAllocations) (observedAtNs : Int) :
    List DeadlineKey → TableState → Bool × TableState
  | [], state => (true, state)
  | node :: rest, state =>
      let sessionId := (ofLex node).2
      match state.table.ids.lookup sessionId with
      | none => stageDue allocations observedAtNs rest state
      | some key =>
          match state.table.sessions.lookup key with
          | none => stageDue allocations observedAtNs rest state
          | some session =>
              if session.sessionId = sessionId then
                match state.appendSnapshot sizes (allocations sessionId) key session .idleTimeout
                    observedAtNs with
                | (true, staged) => stageDue allocations observedAtNs rest staged
                | failed => failed
              else stageDue allocations observedAtNs rest state

/-- One step of the loop that takes the expired sessions out. -/
def retire (state : TableState) (node : DeadlineKey) : TableState :=
  let sessionId := (ofLex node).2
  let retired := match state.table.ids.lookup sessionId with
    | none => state
    | some key =>
        let released := match state.table.sessions.lookup key with
          | none => state
          | some session =>
              if session.sessionId = sessionId then
                { state with
                  table := { state.table with
                    sessions := state.table.sessions.erase key } }.releaseSession
                      session.trackedBytes
              else state
        { released with
          table := { released.table with ids := released.table.ids.erase sessionId } }
  { retired with table := { retired.table with deadlines := retired.table.deadlines.erase node } }

/-- How many handles of a family these nodes have. -/
def countHandles (four : Bool) (nodes : List DeadlineKey) (table : SessionTable) : Nat :=
  nodes.countP fun node =>
    match table.ids.lookup (ofLex node).2 with
    | none => false
    | some key => key.isIpv4 == four

/-- `Prepare` for this many rows more, where there are any. -/
def prepareRows (allocations : ArrayAllocations) (count4 count6 : Nat) (state : TableState) :
    Bool × TableState :=
  if count4 ≠ 0 ∨ count6 ≠ 0 then
    let (done, ended, budget) := state.ended.prepare sizes.snapshots allocations
      (state.ended.keyCount true + count4) (state.ended.keyCount false + count6)
      (state.ended.rows.length + count4 + count6) state.budget
    (done, { state with ended := ended, budget := budget })
  else (true, state)

/-- The snapshots of all sessions that are due. -/
def stageExpired (arrays : ArrayAllocations) (allocations : Nat → AppendAllocations)
    (observedAtNs : Int) (due : List DeadlineKey) (state : TableState) : Bool × TableState :=
  match state.prepareRows sizes arrays (countHandles true due state.table)
      (countHandles false due state.table) with
  | (true, prepared) => prepared.stageDue sizes allocations observedAtNs due
  | failed => failed

/-- The nodes whose time has come at a watermark. -/
def dueNodes (watermarkNs : Int) (table : SessionTable) : List DeadlineKey :=
  table.deadlines.upTo fun node => decide ((ofLex node).1 ≤ watermarkNs)

/-- `candidate_watermark`. -/
def candidateWatermark (config : AnalysisConfig) (update : CaptureProgressUpdate) : Int :=
  saturatingSubtract update.captureTimeNs config.outOfOrderToleranceNs

/-- The watermark moves. -/
def setWatermark (watermarkNs : Int) (state : TableState) : TableState :=
  { state with
    table := { state.table with
      watermarkInitialized := true
      watermarkNs := watermarkNs } }

/-- `AdvanceCaptureProgress`; `none` stands for the `std::bad_alloc` that it throws. -/
def advanceCaptureProgress (arrays : ArrayAllocations) (allocations : Nat → AppendAllocations)
    (update : CaptureProgressUpdate) (state : TableState) :
    Option CaptureProgressResult × TableState :=
  let initialized := state.table.watermarkInitialized
  match deferral state.table.config update with
  | some disposition => (some ⟨disposition, initialized, state.table.watermarkNs, 0, 0⟩, state)
  | none =>
      let candidate := candidateWatermark state.table.config update
      if initialized ∧ candidate ≤ state.table.watermarkNs then
        (some ⟨.unchanged, initialized, state.table.watermarkNs, 0, 0⟩, state)
      else
        let due := dueNodes candidate state.table
        let endedBegin := state.ended.rows.length
        match state.stageExpired sizes arrays allocations update.captureTimeNs due with
        | (true, staged) =>
            (some ⟨.advanced, true, candidate, endedBegin, staged.ended.rows.length⟩,
              due.foldl retire (staged.setWatermark candidate))
        | (false, staged) => (none, staged.truncate endedBegin)

/-! ## The end of the input -/

/-- The snapshots of these entries. -/
def stageEntries (allocations : SessionKey → AppendAllocations) :
    List ((_ : SessionKey) × SessionState) → TableState → Bool × TableState
  | [], state => (true, state)
  | ⟨key, session⟩ :: rest, state =>
      match state.appendSnapshot sizes (allocations key) key session .eof session.lastNs with
      | (true, staged) => stageEntries allocations rest staged
      | failed => failed

/-- The entries of the first family, then those of the second. -/
def familyEntries (table : SessionTable) : List ((_ : SessionKey) × SessionState) :=
  table.sessions.entries.filter (fun entry => entry.1.isIpv4) ++
    table.sessions.entries.filter (fun entry => !entry.1.isIpv4)

/-- The snapshots of all sessions, in a batch that has none yet. -/
def stageAll (arrays : ArrayAllocations) (allocations : SessionKey → AppendAllocations)
    (state : TableState) : Bool × TableState :=
  let entries := familyEntries state.table
  match state.prepareRows sizes arrays (entries.countP fun entry => entry.1.isIpv4)
      (entries.countP fun entry => !entry.1.isIpv4) with
  | (true, prepared) => prepared.stageEntries sizes allocations entries
  | failed => failed

/-- The maps of the table without entries. -/
def clearSessions (state : TableState) : TableState :=
  { state with
    table := { state.table with
      sessions := ∅
      ids := ∅
      deadlines := .empty } }

/-- `FinishAllAtEof`. Its own batch takes the place of the output once it is complete. -/
def finishAllAtEof (arrays : ArrayAllocations) (allocations : SessionKey → AppendAllocations)
    (state : TableState) : Option TableError × TableState :=
  match { state with ended := {} }.stageAll sizes arrays allocations with
  | (true, staged) =>
      let snapshots := { staged.ended with
        rows := staged.ended.rows.insertionSort fun left right =>
          left.facts.sessionId ≤ right.facts.sessionId }
      let cleared := staged.clearSessions.releaseSession staged.table.trackedSessionBytes
      (none,
        { cleared with
          ended := snapshots
          budget := (state.ended.clear cleared.budget).2 })
  | (false, staged) =>
      (some .allocationFailed,
        { staged with
          ended := state.ended
          budget := (staged.ended.clear staged.budget).2 })

end TableState

/-! ## Protocol samples -/

/-- The answer of the protocol identifier: `status == kIdentified`, `id` and `sub_id`. -/
structure IdentifiedProtocol where
  identified : Bool
  id : UInt16
  subId : UInt16

/-- `SampleFamily` on one session. The callers pass the layer of the packet. -/
def SessionState.sample (config : AnalysisConfig) (payload : ByteSpan)
    (identified : IdentifiedProtocol) (session : SessionState) : Except TableError SessionState :=
  if session.protocolStatus ≠ .pending ∨ payload.size = 0 then .ok session
  else if payload.data = none then .error .invalidPacketView
  else
    let sampled := { session with payloadSamples := session.payloadSamples + 1 }
    if identified.identified ∧ identified.id ≠ 0 then
      .ok { sampled with
        protocolStatus := .identified
        protocolId := some identified.id
        protocolSubId := if identified.subId ≠ 0 then some identified.subId else none }
    else if sampled.payloadSamples ≥ config.payloadSamplePackets then
      .ok { sampled with
        protocolStatus := .unknown
        protocolId := none
        protocolSubId := none }
    else .ok sampled

/-- `SampleProtocol` for the session that `Observe` has just given access to. -/
def SessionTable.sampleProtocol (key : SessionKey) (sessionId : Nat) (payload : ByteSpan)
    (identified : IdentifiedProtocol) (table : SessionTable) :
    Except TableError SessionView × SessionTable :=
  match table.sessions.lookup key with
  | none => (.error .sessionInstanceMismatch, table)
  | some session =>
      if session.sessionId ≠ sessionId then (.error .sessionInstanceMismatch, table)
      else
        match session.sample table.config payload identified with
        | .ok sampled =>
            (.ok (sampled.view key),
              { table with sessions := table.sessions.replace key sampled })
        | .error error => (.error error, table)

end Flowsql.Npm
