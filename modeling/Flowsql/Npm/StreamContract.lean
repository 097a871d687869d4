import Flowsql.Library.Contiguous

/-!
# The TCP stream contract

Configuration, packet facts and events of the TCP stream components, from
`npm_tcp_stream_contract.h` and `npm_analysis_contract.h`. A `uint64_t` offset is
a `Nat`: the code tests for overflow before it adds, and these tests are part of
the model. Sequence numbers and packet lengths are `UInt32`.
-/

namespace Flowsql.Npm

def maxUInt64 : Nat := 2 ^ 64 - 1

def maxInt64 : Int := 2 ^ 63 - 1

/-- Subtraction of two `uint64_t` values, which wraps around below zero. -/
def subUInt64 (left right : Nat) : Nat := (left + 2 ^ 64 - right) % 2 ^ 64

theorem subUInt64_eq {left right : Nat} (ordered : right ≤ left) (bounded : left ≤ maxUInt64) :
    subUInt64 left right = left - right := by
  unfold maxUInt64 at bounded
  have regroup : left + 2 ^ 64 - right = (left - right) + 2 ^ 64 := by omega
  rw [subUInt64, regroup, Nat.add_mod_right, Nat.mod_eq_of_lt (by omega)]

structure StreamConfig where
  maxBufferedBytesPerDirection : Nat
  gapTimeoutNs : Int

def minStreamBufferedBytesPerDirection : Nat := 65536
def maxStreamBufferedBytesPerDirection : Nat := 67108864
def minStreamGapTimeoutNs : Int := 0
def maxStreamGapTimeoutNs : Int := 60000000000

/-- The range checks that `Initialize` and `Create` make. -/
def StreamConfig.valid (config : StreamConfig) : Bool :=
  !(decide (config.maxBufferedBytesPerDirection < minStreamBufferedBytesPerDirection) ||
    decide (config.maxBufferedBytesPerDirection > maxStreamBufferedBytesPerDirection) ||
    decide (config.gapTimeoutNs < minStreamGapTimeoutNs) ||
    decide (config.gapTimeoutNs > maxStreamGapTimeoutNs))

inductive StreamOrigin where
  | unknown
  | syn
  | midstream
  deriving DecidableEq, Repr

inductive GapReason where
  | waitExpired
  | termination
  deriving DecidableEq, Repr

inductive EndReason where
  | fin
  | reset
  | sessionEnd
  | sequenceAmbiguous
  deriving DecidableEq, Repr

/-- The enumerator with this code; other codes can only come from a cast. -/
def EndReason.ofCode? : UInt8 → Option EndReason
  | 0 => some .fin
  | 1 => some .reset
  | 2 => some .sessionEnd
  | 3 => some .sequenceAmbiguous
  | _ => none

inductive SessionEndReason where
  | closed
  | idleTimeout
  | tupleReuse
  | eof
  deriving DecidableEq, Repr

def SessionEndReason.ofCode? : UInt8 → Option SessionEndReason
  | 0 => some .closed
  | 1 => some .idleTimeout
  | 2 => some .tupleReuse
  | 3 => some .eof
  | _ => none

/-- `NpmTcpStreamEventV1`: each kind carries the fields that the contract defines
for it. An `ended` event has equal ends. -/
inductive StreamEvent where
  | data (begin end_ : Nat) (bytes : List UInt8) (capturedAtNs : Int)
  | gap (begin end_ : Nat) (reason : GapReason) (includesCaptureTruncation : Bool)
  | ended (position : Nat) (reason : EndReason) (sessionReason : Option SessionEndReason)
  deriving DecidableEq, Repr

namespace StreamEvent

def begin : StreamEvent → Nat
  | data begin _ _ _ => begin
  | gap begin _ _ _ => begin
  | ended position _ _ => position

def end_ : StreamEvent → Nat
  | data _ end_ _ _ => end_
  | gap _ end_ _ _ => end_
  | ended position _ _ => position

def isEnd : StreamEvent → Bool
  | ended _ _ _ => true
  | _ => false

def isGap : StreamEvent → Bool
  | gap _ _ _ _ => true
  | _ => false

/-- The payload bytes of an event; only data has any. -/
def bytes : StreamEvent → List UInt8
  | data _ _ bytes _ => bytes
  | _ => []

/-- The byte published at a stream offset, `none` where the event is no data. -/
def byteAt : StreamEvent → Nat → Option UInt8
  | data begin _ bytes _, offset => bytes[offset - begin]?
  | _, _ => none

instance : Library.Interval StreamEvent := ⟨begin, end_⟩

/-- A data event is nonempty and has one byte for every offset. -/
def WellFormed : StreamEvent → Prop
  | data begin end_ bytes _ => begin < end_ ∧ bytes.length = end_ - begin
  | gap begin end_ _ _ => begin < end_
  | ended _ _ _ => True

end StreamEvent

/-- `NpmTcpStreamError`. -/
inductive StreamError where
  | none
  | invalidConfig
  | invalidInput
  | directionLimitExceeded
  | taskBudgetExceeded
  | allocationFailed
  | sinkError
  | aborted
  | invalidConsume
  | consumerError
  | emitterError
  | notDrained
  | reentrantCall
  deriving DecidableEq, Repr

inductive PacketDirection where
  | aToB
  | bToA
  deriving DecidableEq, Repr

/-- A borrowed byte span. A pointer that is not null has `size` bytes behind it. -/
structure ByteSpan where
  data : Option (List UInt8)
  size : Nat
  length_eq : ∀ bytes, data = some bytes → bytes.length = size

structure TcpPacketFacts where
  valid : Bool
  syn : Bool
  fin : Bool
  rst : Bool
  sequence : UInt32

structure TransportPacketFacts where
  payloadWireBytes : UInt32
  payloadCapturedBytes : UInt32
  payloadComplete : Bool
  tcp : TcpPacketFacts

/-- The part of `NpmPacketView` that the stream components and the measurements read.
`acknowledgment` is `tcp.acknowledgment`, where `tcp.ack` is set. -/
structure PacketView where
  timestampNs : Int
  wireLen : UInt32 := 0
  acknowledgment : Option UInt32 := none
  payload : ByteSpan
  direction : PacketDirection
  transport : TransportPacketFacts

/-- Sizes that the ledgers charge: the `sizeof` of the stream objects, and of one
list node with its range. They depend on the platform; the shared object is
smaller than the least limit a configuration can set. -/
structure StorageSizes where
  direction : Nat
  range : Nat
  shared : Nat
  reader : Nat
  event : Nat
  shared_le : shared ≤ minStreamBufferedBytesPerDirection

end Flowsql.Npm
