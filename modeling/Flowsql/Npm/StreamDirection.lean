import Flowsql.Library.Effect
import Flowsql.Npm.StreamContract

/-!
# One direction of a TCP stream

This module embeds `NpmTcpStreamDirection`. The budget and the sink are virtual
interfaces and memory allocation may fail, so an `Environment` answers these
calls from a state of its own. A C++ exception is a thrown `StreamError`; the
operations catch `std::bad_alloc` like `kAllocationFailed`.

Every failing operation ends in `Clear`, which drops the range list. A helper
that edits the list may therefore compute the edited list first and then make
the reservations of the edit, in the order in which the source makes them.
-/

namespace Flowsql.Npm

open Flowsql.Library

/-- What the sink does with an event: it returns zero, having moved the payload or
not, it returns nonzero, or it throws. -/
inductive SinkReply where
  | accepted (moved : Bool)
  | refused
  | threw (error : StreamError)
  deriving DecidableEq, Repr

/-- The budget, the allocator and the sink of a direction. `reserve` and `allocate`
answer whether they succeed. -/
structure Environment (σ : Type) where
  sizes : StorageSizes
  reserve : Nat → σ → Bool × σ
  release : Nat → σ → σ
  allocate : σ → Bool × σ
  emit : StreamEvent → σ → SinkReply × σ
  emitOwned : StreamEvent → Nat → σ → SinkReply × σ

/-- A stretch of the stream that is not published yet: a gap as long as `data` is
null. -/
structure Range where
  begin : Nat
  end_ : Nat
  timestampNs : Int
  truncated : Bool
  allocatedBytes : Nat
  data : Option (List UInt8)
  deriving DecidableEq, Repr

instance : Interval Range := ⟨Range.begin, Range.end_⟩

/-- The object's fields. `env` is the state of the environment, and `emitted` lists
the events that the sink accepted, oldest first; both are outside the object. -/
structure StreamDirection (σ : Type) where
  config : StreamConfig
  ranges : List Range
  trackedBytes : Nat
  published : Nat
  extent : Nat
  progress : Nat
  baseSequence : UInt32
  fin : Option Nat
  watermark : Option Int
  origin : StreamOrigin
  error : StreamError
  truncated : Bool
  ended : Bool
  env : σ
  emitted : List StreamEvent

variable {σ : Type}

/-- A part of an operation on the direction. -/
abbrev StreamStep (σ α : Type) := EStateM StreamError (StreamDirection σ) α

/-- Call the environment. -/
def askEnvironment {α : Type} (call : σ → α × σ) : StreamStep σ α :=
  ask fun core => ((call core.env).1, { core with env := (call core.env).2 })

/-- `Deadline`: the sum saturates at the largest `int64_t`. -/
def deadline (timestamp timeout : Int) : Int :=
  if timestamp > maxInt64 - timeout then maxInt64 else timestamp + timeout

/-! ## The ledger -/

def reserve (environment : Environment σ) (bytes : Nat) : StreamStep σ PUnit := do
  let core ← get
  throwIf (bytes > subUInt64 core.config.maxBufferedBytesPerDirection core.trackedBytes)
    .directionLimitExceeded
  let granted ← askEnvironment (environment.reserve bytes)
  throwIf (granted = false) .taskBudgetExceeded
  modify fun core => { core with trackedBytes := core.trackedBytes + bytes }

/-- `Reserve` and the allocation that it pays for. -/
def reserveAndAllocate (environment : Environment σ) (bytes : Nat) : StreamStep σ PUnit := do
  reserve environment bytes
  let allocated ← askEnvironment environment.allocate
  throwIf (allocated = false) .allocationFailed

def release (environment : Environment σ) (bytes : Nat) (core : StreamDirection σ) :
    StreamDirection σ :=
  if bytes = 0 then core
  else
    { core with
      env := environment.release bytes core.env
      trackedBytes := subUInt64 core.trackedBytes bytes }

def clear (environment : Environment σ) (core : StreamDirection σ) : StreamDirection σ :=
  release environment core.trackedBytes { core with ranges := [] }

def fail (environment : Environment σ) (error : StreamError) (core : StreamDirection σ) :
    StreamDirection σ :=
  clear environment { core with error := error }

def abort (environment : Environment σ) (core : StreamDirection σ) : StreamDirection σ :=
  clear environment
    (if core.error = .none ∧ core.ended = false then { core with error := .aborted } else core)

/-- The member initializers of the class. -/
def freshDirection (config : StreamConfig) (env : σ) : StreamDirection σ where
  config := config
  ranges := []
  trackedBytes := 0
  published := 0
  extent := 0
  progress := 0
  baseSequence := 0
  fin := none
  watermark := none
  origin := .unknown
  error := .none
  truncated := false
  ended := false
  env := env
  emitted := []

/-- Both constructors. An object of its own charges its storage, an embedded one is
charged by its owner. A direction without a budget pointer only fails. -/
def initializeDirection (environment : Environment σ) (config : StreamConfig)
    (hasBudget chargeObject : Bool) (env : σ) : StreamDirection σ :=
  if !hasBudget || !config.valid then { freshDirection config env with error := .invalidConfig }
  else if chargeObject then
    match reserve environment environment.sizes.direction (freshDirection config env) with
    | .ok _ core => core
    | .error error core => { core with error := error }
  else freshDirection config env

/-! ## The range list

An edit returns the new list and the reservations it makes, in order. -/

/-- What `AddGap` inserts. -/
def newGap (begin end_ : Nat) (deadline : Int) (truncated : Bool) : Range :=
  { begin, end_, timestampNs := deadline, truncated, allocatedBytes := 0, data := none }

/-- `SplitGap`: the part before the position, the iterator that is returned, and the
charge. Nothing is split off at the beginning of the range. -/
def splitGap (rangeCharge : Nat) (at_ : Range) (position : Nat) :
    Option Range × Range × List Nat :=
  if position = at_.begin then (none, at_, [])
  else
    (some { at_ with end_ := position },
      newGap position at_.end_ at_.timestampNs at_.truncated, [rangeCharge])

/-- `SplitGap` called for the range that stays at the iterator, with what follows it. -/
def splitAfter (rangeCharge : Nat) (at_ : Range) (position : Nat) :
    Range × List Range × List Nat :=
  match splitGap rangeCharge at_ position with
  | (none, at_, charges) => (at_, [], charges)
  | (some left, right, charges) => (left, [right], charges)

/-- `Fill`, from the given range on. A range split off on the right begins at `end_`,
where the loop stops. -/
def fill (rangeCharge begin end_ : Nat) (bytes : List UInt8) (capturedAt : Int) :
    List Range → List Range × List Nat
  | [] => ([], [])
  | at_ :: rest =>
      if at_.begin < end_ then
        if at_.end_ ≤ begin ∨ at_.data.isSome = true then
          let (rest, charges) := fill rangeCharge begin end_ bytes capturedAt rest
          (at_ :: rest, charges)
        else
          let left := max begin at_.begin
          let right := min end_ at_.end_
          let (before, at_, leftCharges) := splitGap rangeCharge at_ left
          let (at_, after, rightCharges) :=
            if right < at_.end_ then splitAfter rangeCharge at_ right else (at_, [], [])
          let size := right - left
          let filled : Range :=
            { at_ with
              data := some ((bytes.drop (left - begin)).take size)
              allocatedBytes := size
              timestampNs := capturedAt
              truncated := false }
          let charges := leftCharges ++ rightCharges ++ [size]
          if after.isEmpty then
            let (rest, later) := fill rangeCharge begin end_ bytes capturedAt rest
            (before.toList ++ filled :: rest, charges ++ later)
          else (before.toList ++ filled :: after ++ rest, charges)
      else (at_ :: rest, [])

/-- `MarkTruncated`, from the given range on. -/
def markTruncated (rangeCharge begin end_ : Nat) : List Range → List Range × List Nat
  | [] => ([], [])
  | at_ :: rest =>
      if at_.begin < end_ then
        if at_.end_ ≤ begin ∨ at_.data.isSome = true ∨ at_.truncated = true then
          let (rest, charges) := markTruncated rangeCharge begin end_ rest
          (at_ :: rest, charges)
        else
          let (before, at_, leftCharges) := splitGap rangeCharge at_ (max begin at_.begin)
          let (at_, after, rightCharges) :=
            if end_ < at_.end_ then splitAfter rangeCharge at_ end_ else (at_, [], [])
          let marked : Range := { at_ with truncated := true }
          let charges := leftCharges ++ rightCharges
          if after.isEmpty then
            let (rest, later) := markTruncated rangeCharge begin end_ rest
            (before.toList ++ marked :: rest, charges ++ later)
          else (before.toList ++ marked :: after ++ rest, charges)
      else (at_ :: rest, [])

/-- What a range is charged while it is in the list. -/
def Range.charge (rangeCharge : Nat) (at_ : Range) : Nat := rangeCharge + at_.allocatedBytes

/-- The list that `TrimAtFin` leaves, and the erased charges in order. -/
def trimRanges (rangeCharge position : Nat) : List Range → List Range × List Nat
  | [] => ([], [])
  | at_ :: rest =>
      let (kept, erased) := trimRanges rangeCharge position rest
      if at_.begin ≥ position then (kept, at_.charge rangeCharge :: erased)
      else if at_.end_ > position then ({ at_ with end_ := position } :: kept, erased)
      else (at_ :: kept, erased)

/-- Make the reservations of an edit and install the new list. -/
def editRanges (environment : Environment σ)
    (edit : List Range → List Range × List Nat) : StreamStep σ PUnit := do
  let core ← get
  (edit core.ranges).2.forM (reserveAndAllocate environment)
  modify fun core => { core with ranges := (edit core.ranges).1 }

def trimAtFin (environment : Environment σ) (position : Nat) (core : StreamDirection σ) :
    StreamDirection σ :=
  let (kept, erased) := trimRanges environment.sizes.range position core.ranges
  let core := erased.foldl (fun core bytes => release environment bytes core) core
  { core with ranges := kept, extent := min core.extent position }

/-! ## Events -/

/-- The sink accepted the event. -/
def publish (event : StreamEvent) (core : StreamDirection σ) : StreamDirection σ :=
  { core with published := event.end_, emitted := core.emitted ++ [event] }

/-- The answer to an event: whether the payload was moved. -/
def replyMoved (reply : SinkReply) : StreamStep σ Bool :=
  match reply with
  | .accepted moved => pure moved
  | .refused => throw .sinkError
  | .threw error => throw error

def emit (environment : Environment σ) (event : StreamEvent) : StreamStep σ PUnit := do
  let reply ← askEnvironment (environment.emit event)
  let _ ← replyMoved reply
  modify (publish event)

/-- The data branch of `Drain`: a sink that moved the payload took over its charge,
and the erased range then has none left for it. -/
def emitOwned (environment : Environment σ) (event : StreamEvent) (allocatedBytes : Nat) :
    StreamStep σ Nat := do
  let reply ← askEnvironment (environment.emitOwned event allocatedBytes)
  let moved ← replyMoved reply
  modify fun core =>
    publish event
      (if moved then { core with trackedBytes := subUInt64 core.trackedBytes allocatedBytes }
      else core)
  pure (if moved then 0 else allocatedBytes)

/-- `Erase` of the front range. -/
def eraseFront (environment : Environment σ) (rest : List Range) (allocatedBytes : Nat) :
    StreamStep σ PUnit :=
  modify fun core =>
    release environment (environment.sizes.range + allocatedBytes) { core with ranges := rest }

def gapExpired (watermark : Option Int) (at_ : Range) : Bool :=
  match watermark with
  | none => false
  | some watermark => !decide (watermark < at_.timestampNs)

/-- The loop of `Drain` over the ranges that are left. -/
def drainFrom (environment : Environment σ) (forced : Bool) : List Range → StreamStep σ PUnit
  | [] => pure ⟨⟩
  | at_ :: rest =>
      match at_.data with
      | some data => do
          let event :=
            .data at_.begin at_.end_ (data.take (at_.end_ - at_.begin)) at_.timestampNs
          let allocated ← emitOwned environment event at_.allocatedBytes
          eraseFront environment rest allocated
          drainFrom environment forced rest
      | none => do
          let core ← get
          if forced = true ∨ gapExpired core.watermark at_ = true then do
            emit environment
              (.gap at_.begin at_.end_ (if forced then .termination else .waitExpired)
                at_.truncated)
            eraseFront environment rest at_.allocatedBytes
            drainFrom environment forced rest
          else pure ⟨⟩

def drain (environment : Environment σ) (forced : Bool) : StreamStep σ PUnit := do
  let core ← get
  drainFrom environment forced core.ranges

def finish (environment : Environment σ) (reason : EndReason)
    (sessionReason : Option SessionEndReason) : StreamStep σ PUnit := do
  drain environment true
  let core ← get
  emit environment (.ended core.published reason sessionReason)
  modify fun core => { core with ended := true }

/-- The end of `Ingest` and of `AdvanceWatermark`. -/
def drainToFin (environment : Environment σ) : StreamStep σ PUnit := do
  drain environment false
  let core ← get
  if core.fin = some core.published then finish environment .fin none else pure ⟨⟩

/-! ## Segments -/

/-- `MapSequence`: the stream offset of a sequence number and how many of its bytes
lie before the origin. The nearest offset to `progress` is taken. -/
def mapSequence (core : StreamDirection σ) (sequence : UInt32) : Option (Nat × Nat) :=
  let reference := core.baseSequence + UInt32.ofNat core.progress
  let delta := sequence - reference
  if delta = 0x80000000 then none
  else if delta < 0x80000000 then
    if core.progress > maxUInt64 - delta.toNat then none
    else some (core.progress + delta.toNat, 0)
  else
    let backwards := (0 - delta).toNat
    if backwards > core.progress then some (0, backwards - core.progress)
    else some (core.progress - backwards, 0)

/-- Where `Ingest` puts a segment. -/
inductive Placement where
  | ambiguous
  | beforeOrigin
  | placed (begin prefix_ declaredEnd : Nat)
  deriving DecidableEq, Repr

/-- The facts that `Ingest` rejects. -/
def PacketView.malformed (packet : PacketView) : Bool :=
  let facts := packet.transport
  !facts.tcp.valid || decide (packet.payload.size ≠ facts.payloadCapturedBytes.toNat) ||
    decide (facts.payloadCapturedBytes > facts.payloadWireBytes) ||
    (facts.payloadComplete != decide (facts.payloadCapturedBytes = facts.payloadWireBytes)) ||
    (decide (packet.payload.size ≠ 0) && packet.payload.data.isNone)

/-- `Ingest` between the choice of the origin and the first change of the list. -/
def place (core : StreamDirection σ) (sequence : UInt32) (packet : PacketView) : Placement :=
  let tcp := packet.transport.tcp
  let wire := packet.transport.payloadWireBytes.toNat
  if wire + tcp.syn.toNat + tcp.fin.toNat ≥ 0x80000000 then .ambiguous
  else
    match mapSequence core sequence with
    | none => .ambiguous
    | some (begin, prefix_) =>
        if begin > maxUInt64 - wire then .ambiguous
        else if prefix_ > wire then .beforeOrigin
        else
          let declaredEnd := begin + wire - prefix_
          let boundedEnd := core.fin.elim declaredEnd (min declaredEnd)
          if boundedEnd ≥ core.published ∧ boundedEnd - core.published ≥ 0x80000000 then .ambiguous
          else if tcp.fin = true ∧
              (core.fin.any (· ≠ declaredEnd) ∨ declaredEnd < core.published) then .ambiguous
          else .placed begin prefix_ declaredEnd

/-- Append a gap up to `end_` when the list ends before it. -/
def extendRanges (environment : Environment σ) (timestampNs : Int) (end_ : Nat) :
    StreamStep σ PUnit := do
  let core ← get
  if end_ > core.extent then do
    editRanges environment fun ranges =>
      (ranges ++ [newGap core.extent end_ (deadline timestampNs core.config.gapTimeoutNs) false],
        [environment.sizes.range])
    modify fun core => { core with extent := end_ }
  else pure ⟨⟩

/-- The edit, when the condition holds. -/
def editWhen (condition : Bool) (environment : Environment σ)
    (edit : List Range → List Range × List Nat) : StreamStep σ PUnit :=
  if condition = true then editRanges environment edit else pure ⟨⟩

/-- The captured bytes of a segment are those from offset `begin` to this offset. -/
def capturedEnd (packet : PacketView) (begin prefix_ : Nat) : Nat :=
  begin + (if packet.transport.payloadCapturedBytes.toNat > prefix_ then
    packet.transport.payloadCapturedBytes.toNat - prefix_ else 0)

/-- `Ingest` from the FIN on: extend the list, fill in the captured bytes and mark
what the capture cut off. -/
def store (environment : Environment σ) (packet : PacketView) (begin prefix_ declaredEnd : Nat) :
    StreamStep σ PUnit := do
  let facts := packet.transport
  modify fun core =>
    if facts.tcp.fin = true ∧ core.fin = none then
      trimAtFin environment declaredEnd { core with fin := some declaredEnd }
    else core
  let core ← get
  let end_ := core.fin.elim declaredEnd (min declaredEnd)
  extendRanges environment packet.timestampNs end_
  modify fun core => { core with progress := max core.progress end_ }
  let capturedEnd := capturedEnd packet begin prefix_
  let dataBegin := max begin core.published
  let dataEnd := min capturedEnd end_
  editWhen (dataBegin < dataEnd) environment
    (fill environment.sizes.range dataBegin dataEnd
      ((packet.payload.data.getD []).drop (prefix_ + (dataBegin - begin))) packet.timestampNs)
  editWhen (!facts.payloadComplete) environment
    (markTruncated environment.sizes.range (max capturedEnd core.published) end_)

/-- The first segment that carries sequence numbers fixes the origin. -/
def fixOrigin (sequence : UInt32) (syn : Bool) (core : StreamDirection σ) : StreamDirection σ :=
  if core.origin = .unknown then
    { core with baseSequence := sequence, origin := if syn then .syn else .midstream }
  else core

def ingest (environment : Environment σ) (packet : PacketView) : StreamStep σ PUnit := do
  let facts := packet.transport
  let tcp := facts.tcp
  throwIf (packet.malformed = true) .invalidInput
  modify fun core => { core with truncated := core.truncated || !facts.payloadComplete }
  if tcp.syn = false ∧ tcp.fin = false ∧ facts.payloadWireBytes = 0 then
    if tcp.rst = true then finish environment .reset none else pure ⟨⟩
  else do
    let sequence := tcp.sequence + (if tcp.syn then 1 else 0)
    modify (fixOrigin sequence tcp.syn)
    let core ← get
    match place core sequence packet with
    | .ambiguous => finish environment .sequenceAmbiguous none
    | .beforeOrigin => if tcp.rst = true then finish environment .reset none else pure ⟨⟩
    | .placed begin prefix_ declaredEnd => do
        store environment packet begin prefix_ declaredEnd
        if tcp.rst = true then finish environment .reset none else drainToFin environment

/-! ## Operations -/

/-- The catch clauses of the operations. -/
def guarded (environment : Environment σ) (step : StreamStep σ PUnit)
    (core : StreamDirection σ) : StreamDirection σ :=
  match step core with
  | .ok _ core => core
  | .error error core => fail environment error core

/-- No operation does anything once the direction has failed or ended. -/
def stopped (core : StreamDirection σ) : Bool :=
  decide (core.error ≠ .none) || core.ended

def push (environment : Environment σ) (packet : PacketView) (core : StreamDirection σ) :
    StreamDirection σ :=
  if stopped core then core else guarded environment (ingest environment packet) core

def advanceWatermark (environment : Environment σ) (watermarkNs : Int)
    (core : StreamDirection σ) : StreamDirection σ :=
  if stopped core then core
  else if core.watermark.any (watermarkNs ≤ ·) then core
  else guarded environment (drainToFin environment) { core with watermark := some watermarkNs }

/-- The reasons that a caller of `End` may give. -/
def endReasons? (reason : UInt8) (sessionReason : Option UInt8) :
    Option (EndReason × Option SessionEndReason) :=
  match EndReason.ofCode? reason with
  | some .sessionEnd =>
      sessionReason.bind fun code =>
        (SessionEndReason.ofCode? code).map fun session => (.sessionEnd, some session)
  | some .reset => if sessionReason.isSome then none else some (.reset, none)
  | some .sequenceAmbiguous =>
      if sessionReason.isSome then none else some (.sequenceAmbiguous, none)
  | _ => none

def endStream (environment : Environment σ) (reason : UInt8) (sessionReason : Option UInt8)
    (core : StreamDirection σ) : StreamDirection σ :=
  if stopped core then core
  else
    match endReasons? reason sessionReason with
    | none => fail environment .invalidInput core
    | some (reason, sessionReason) =>
        guarded environment (finish environment reason sessionReason) core

/-- The public operations. Their return value is the `error` field afterwards. -/
inductive StreamCall where
  | push (packet : PacketView)
  | advanceWatermark (watermarkNs : Int)
  | endStream (reason : UInt8) (sessionReason : Option UInt8)
  | abort

def runCall (environment : Environment σ) (core : StreamDirection σ) :
    StreamCall → StreamDirection σ
  | .push packet => push environment packet core
  | .advanceWatermark watermarkNs => advanceWatermark environment watermarkNs core
  | .endStream reason sessionReason => endStream environment reason sessionReason core
  | .abort => abort environment core

def runStream (environment : Environment σ) (core : StreamDirection σ)
    (calls : List StreamCall) : StreamDirection σ :=
  calls.foldl (runCall environment) core

/-- `NextEventDeadlineNs`: only the front range can make the stream readable. -/
def nextEventDeadlineNs (core : StreamDirection σ) : Option Int :=
  if stopped core then none else core.ranges.head?.map Range.timestampNs

end Flowsql.Npm
