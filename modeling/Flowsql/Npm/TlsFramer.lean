import Flowsql.Library.Emission
import Flowsql.Npm.StreamContract
import Flowsql.Npm.TlsHello

/-!
# The TLS framer

This module embeds `NpmTlsFramerV1`: the bytes of both directions of a TCP session are
cut into TLS records, and the handshake records into messages. Allocations succeed, and
fields that are written and never read are left out.
-/

namespace Flowsql.Npm

open Flowsql.Library

inductive StreamEventKind where
  | data
  | gap
  | ended
  deriving DecidableEq, Repr

/-- `NpmTcpStreamEventV1` with any values, as a framer receives it, and the direction
and the origin of its stream. -/
structure FramerInput where
  direction : PacketDirection
  origin : StreamOrigin
  kind : StreamEventKind
  begin : Nat
  end_ : Nat
  bytes : List UInt8 := []
  capturedAtNs : Option Int := none
  includesCaptureTruncation : Bool := false
  endReason : Option EndReason := none
  deriving DecidableEq, Repr

inductive TlsFramerError where
  | notTls
  | midstream
  | gap
  | captureTruncation
  | malformedRecord
  | malformedHello
  | helloLimit
  | unsupportedFraming
  | incomplete
  | invalidInput
  deriving DecidableEq, Repr

inductive TlsFramedKind where
  | clientHello
  | serverHello
  | otherHandshake
  | changeCipherSpec
  | applicationData
  | alert
  deriving DecidableEq, Repr

/-- `NpmTlsFramedEventV1`. -/
structure TlsFramedEvent where
  kind : TlsFramedKind := .otherHandshake
  direction : PacketDirection
  messageType : UInt8 := 0
  recordLength : Nat := 0
  controlBytes : UInt8 × UInt8 := (0, 0)
  firstByteAtNs : Option Int := none
  completeAtNs : Option Int := none
  hello : Option TlsHelloFacts := none
  deriving DecidableEq, Repr

/-- `NpmTlsFramerV1::Direction`, without the offset. A header is the list of its bytes so
far. -/
structure TlsDirection where
  recordHeader : List UInt8 := []
  recordRemaining : Nat := 0
  handshakeHeader : List UInt8 := []
  handshakeRemaining : Nat := 0
  helloBytes : List UInt8 := []
  recordType : UInt8 := 0
  recordLength : Nat := 0
  messageType : UInt8 := 0
  firstMessageSeen : Bool := false
  disabled : Bool := false
  messageTimesKnown : Bool := true
  recordTimesKnown : Bool := true
  messageFirstAtNs : Option Int := none
  messageMaxAtNs : Option Int := none
  recordMaxAtNs : Option Int := none
  controlBytes : List UInt8 := []
  deriving DecidableEq, Repr

/-- `NpmTlsFramerV1`, without the offsets. -/
structure TlsFraming where
  maxHelloBytes : Nat
  directions : PacketDirection → TlsDirection := fun _ => {}
  candidate : Bool := false
  closed : Bool := false
  clientDirection : PacketDirection := .aToB
  firstClientByteAtNs : Option Int := none

/-- `NpmTlsFramerV1`, with `next_offset` of both directions. -/
structure TlsFramer where
  framing : TlsFraming
  nextOffset : PacketDirection → Nat := fun _ => 0

abbrev TlsOutcome := Emission TlsFramerError TlsFraming TlsFramedEvent

def tlsRecordHeaderBytes : Nat := 5

def tlsHandshakeHeaderBytes : Nat := 4

def tlsHandshakeRecord : UInt8 := 22

/-- `RecordKind`. -/
def recordKind (type : UInt8) : TlsFramedKind :=
  if type = 20 then .changeCipherSpec else if type = 21 then .alert else .applicationData

/-- The later of two times. -/
def laterTime (captured : Int) (latest : Option Int) : Option Int :=
  if latest.all (captured > ·) then some captured else latest

namespace TlsDirection

def isHello (direction : TlsDirection) : Bool :=
  direction.messageType == 1 || direction.messageType == 2

/-- `MarkTime` for the record. -/
def markRecord (captured : Option Int) (direction : TlsDirection) : TlsDirection :=
  match captured with
  | none => { direction with recordTimesKnown := false }
  | some captured =>
      { direction with recordMaxAtNs := laterTime captured direction.recordMaxAtNs }

/-- `MarkTime` for the message. -/
def markMessage (captured : Option Int) (direction : TlsDirection) : TlsDirection :=
  match captured with
  | none => { direction with messageTimesKnown := false }
  | some captured =>
      { direction with messageMaxAtNs := laterTime captured direction.messageMaxAtNs }

/-- The record header is not complete. -/
def inRecordHeader (direction : TlsDirection) : Bool :=
  decide (direction.recordHeader.length < tlsRecordHeaderBytes) && direction.recordRemaining == 0

/-- The handshake header is not complete. -/
def inHandshakeHeader (direction : TlsDirection) : Bool :=
  decide (direction.handshakeHeader.length < tlsHandshakeHeaderBytes) &&
    direction.handshakeRemaining == 0

/-- Bytes of the record header. -/
def takeRecordHeader (captured : Option Int) (bytes : List UInt8) (direction : TlsDirection) :
    TlsDirection :=
  { direction with recordHeader := direction.recordHeader ++ bytes }.markRecord captured

/-- Bytes of a record that is no handshake. Two of them are kept. -/
def takeRecordBody (captured : Option Int) (bytes : List UInt8) (direction : TlsDirection) :
    TlsDirection :=
  { direction with
      controlBytes := direction.controlBytes ++ bytes.take (2 - direction.controlBytes.length)
      recordRemaining := direction.recordRemaining - bytes.length }.markRecord captured

/-- Bytes of the handshake header. The first one starts the message. -/
def takeHandshakeHeader (captured : Option Int) (bytes : List UInt8) (direction : TlsDirection) :
    TlsDirection :=
  let direction :=
    if direction.handshakeHeader = [] then
      { direction with
        messageFirstAtNs := captured, messageTimesKnown := true, messageMaxAtNs := none }
    else direction
  { direction with
      handshakeHeader := direction.handshakeHeader ++ bytes
      recordRemaining := direction.recordRemaining - bytes.length }.markMessage captured

/-- Bytes of a handshake message. Those of a hello are kept. -/
def takeMessageBody (captured : Option Int) (bytes : List UInt8) (direction : TlsDirection) :
    TlsDirection :=
  { direction with
      helloBytes :=
        if direction.isHello then direction.helloBytes ++ bytes else direction.helloBytes
      recordRemaining := direction.recordRemaining - bytes.length
      handshakeRemaining := direction.handshakeRemaining - bytes.length }.markMessage captured

/-- What a complete handshake header says. -/
def startMessage (direction : TlsDirection) : TlsDirection :=
  let byte := fun index => direction.handshakeHeader.getD index 0
  { direction with
    messageType := byte 0
    handshakeRemaining := (byte 1).toNat * 65536 + (byte 2).toNat * 256 + (byte 3).toNat }

/-- What `FinishMessage` resets. -/
def resetMessage (direction : TlsDirection) : TlsDirection :=
  { direction with
    handshakeHeader := []
    handshakeRemaining := 0
    helloBytes := []
    messageType := 0
    messageFirstAtNs := none
    messageMaxAtNs := none
    messageTimesKnown := true }

/-- What `FinishRecord` resets. -/
def resetRecord (direction : TlsDirection) : TlsDirection :=
  { direction with
    recordHeader := []
    recordRemaining := 0
    recordType := 0
    recordLength := 0
    controlBytes := []
    recordTimesKnown := true
    recordMaxAtNs := none }

end TlsDirection

namespace TlsFraming

def setDirection (framer : TlsFraming) (side : PacketDirection) (value : TlsDirection) :
    TlsFraming :=
  { framer with directions := Function.update framer.directions side value }

@[simp] theorem setDirection_directions (framer : TlsFraming) (side : PacketDirection)
    (value : TlsDirection) : (framer.setDirection side value).directions side = value := by
  simp [setDirection]

@[simp] theorem setDirection_maxHelloBytes (framer : TlsFraming) (side : PacketDirection)
    (value : TlsDirection) : (framer.setDirection side value).maxHelloBytes = framer.maxHelloBytes :=
  rfl

@[simp] theorem setDirection_setDirection (framer : TlsFraming) (side : PacketDirection)
    (first second : TlsDirection) :
    (framer.setDirection side first).setDirection side second = framer.setDirection side second := by
  simp [setDirection]

/-- `Fail`. -/
def fail (error : TlsFramerError) (framer : TlsFraming) : TlsOutcome :=
  .fail error
    { framer with
      closed := true
      directions := fun side =>
        { framer.directions side with helloBytes := [], disabled := true } }

/-- `NoCandidate`. -/
def noCandidate (side : PacketDirection) (error : TlsFramerError) (framer : TlsFraming) :
    TlsOutcome :=
  let framer := framer.setDirection side
    { framer.directions side with disabled := true, helloBytes := [] }
  .fail error
    { framer with
      closed := framer.closed ||
        (framer.directions .aToB).disabled && (framer.directions .bToA).disabled }

/-- `candidate_ ? Fail(..) : NoCandidate(..)`. -/
def reject (side : PacketDirection) (known unknown : TlsFramerError) (framer : TlsFraming) :
    TlsOutcome :=
  if framer.candidate then framer.fail known else framer.noCandidate side unknown

/-- `FinishMessage`. -/
def finishMessage (side : PacketDirection) (framer : TlsFraming) : TlsOutcome :=
  let direction := framer.directions side
  let completeAtNs := if direction.messageTimesKnown then direction.messageMaxAtNs else none
  let event : TlsFramedEvent :=
    { direction := side
      messageType := direction.messageType
      firstByteAtNs := direction.messageFirstAtNs
      completeAtNs := completeAtNs }
  let finished := framer.setDirection side direction.resetMessage
  if direction.isHello then
    match parseTlsHello direction.messageType direction.helloBytes completeAtNs with
    | .error .limit => framer.fail .helloLimit
    | .error .malformed => framer.fail .malformedHello
    | .ok facts =>
        ⟨none, finished,
          [{ event with
              kind := if direction.messageType = 1 then .clientHello else .serverHello
              hello := some facts }]⟩
  else ⟨none, finished, [event]⟩

/-- `FinishRecord`. -/
def finishRecord (side : PacketDirection) (framer : TlsFraming) : TlsOutcome :=
  let direction := framer.directions side
  let finished := framer.setDirection side direction.resetRecord
  if direction.recordType ≠ tlsHandshakeRecord then
    ⟨none, finished,
      [{ kind := recordKind direction.recordType
         direction := side
         recordLength := direction.recordLength
         controlBytes := (direction.controlBytes.getD 0 0, direction.controlBytes.getD 1 0)
         completeAtNs := if direction.recordTimesKnown then direction.recordMaxAtNs else none }]⟩
  else .done finished

/-- What follows a complete record header. -/
def startRecord (side : PacketDirection) (framer : TlsFraming) : TlsOutcome :=
  let direction := framer.directions side
  let byte := fun index => direction.recordHeader.getD index 0
  let type := byte 0
  let recordLength := (byte 3).toNat * 256 + (byte 4).toNat
  if type < 20 ∨ type > 23 ∨ byte 1 ≠ 3 ∨ byte 2 < 1 ∨ byte 2 > 3 ∨ recordLength = 0 ∨
      recordLength > 18432 then
    framer.reject side .malformedRecord .notTls
  else if framer.candidate = false ∧ type ≠ tlsHandshakeRecord then framer.noCandidate side .notTls
  else if type ≠ tlsHandshakeRecord ∧
      (direction.handshakeHeader ≠ [] ∨ direction.handshakeRemaining ≠ 0) then
    framer.reject side .unsupportedFraming .notTls
  else
    .done (framer.setDirection side
      { direction with
        recordType := type
        recordLength := recordLength
        recordRemaining := recordLength })

/-- Bytes of a record header, at most as many as it lacks. -/
def takeRecordHeader (side : PacketDirection) (captured : Option Int) (bytes : List UInt8)
    (framer : TlsFraming) : TlsOutcome :=
  let direction := (framer.directions side).takeRecordHeader captured bytes
  let framer := framer.setDirection side direction
  if direction.recordHeader.length < tlsRecordHeaderBytes then .done framer
  else framer.startRecord side

/-- The first ClientHello makes the session a candidate. -/
def becomeCandidate (side : PacketDirection) (firstByteAtNs : Option Int) (framer : TlsFraming) :
    TlsFraming :=
  if framer.candidate then framer
  else
    { framer with
      candidate := true
      clientDirection := side
      firstClientByteAtNs := firstByteAtNs }

/-- What follows a complete handshake header. -/
def startMessage (side : PacketDirection) (framer : TlsFraming) : TlsOutcome :=
  let direction := (framer.directions side).startMessage
  let framer := framer.setDirection side direction
  if framer.candidate = false ∧ (direction.firstMessageSeen ∨ direction.messageType ≠ 1) then
    framer.noCandidate side .notTls
  else
    let framer := framer.becomeCandidate side direction.messageFirstAtNs
    let framer := framer.setDirection side { direction with firstMessageSeen := true }
    if direction.isHello ∧
        direction.handshakeRemaining > framer.maxHelloBytes - min framer.maxHelloBytes 4 then
      framer.fail .helloLimit
    else if direction.handshakeRemaining = 0 then framer.finishMessage side
    else .done framer

/-- Bytes of a handshake header, at most as many as it lacks. -/
def takeHandshakeHeader (side : PacketDirection) (captured : Option Int) (bytes : List UInt8)
    (framer : TlsFraming) : TlsOutcome :=
  let direction := (framer.directions side).takeHandshakeHeader captured bytes
  let framer := framer.setDirection side direction
  if direction.handshakeHeader.length < tlsHandshakeHeaderBytes then .done framer
  else framer.startMessage side

/-- Bytes of a handshake message, at most as many as it lacks. -/
def takeMessageBody (side : PacketDirection) (captured : Option Int) (bytes : List UInt8)
    (framer : TlsFraming) : TlsOutcome :=
  let direction := (framer.directions side).takeMessageBody captured bytes
  let framer := framer.setDirection side direction
  if direction.handshakeRemaining = 0 then framer.finishMessage side else .done framer

/-- One round of the inner loop, over the bytes available in a handshake record. -/
def handshakeRound (side : PacketDirection) (captured : Option Int) (available : List UInt8)
    (framer : TlsFraming) : Option (Nat × TlsOutcome) :=
  let direction := framer.directions side
  if direction.inHandshakeHeader then
    let take := min (tlsHandshakeHeaderBytes - direction.handshakeHeader.length) available.length
    some (take, framer.takeHandshakeHeader side captured (available.take take))
  else
    let take := min direction.handshakeRemaining available.length
    some (take, framer.takeMessageBody side captured (available.take take))

/-- The end of a round of the outer loop. -/
def closeRecord (side : PacketDirection) (framer : TlsFraming) : TlsOutcome :=
  if (framer.directions side).recordRemaining = 0 then framer.finishRecord side else .done framer

/-- One round of the outer loop, over the rest of the bytes. -/
def recordRound (side : PacketDirection) (captured : Option Int) (bytes : List UInt8)
    (framer : TlsFraming) : Option (Nat × TlsOutcome) :=
  let direction := framer.directions side
  if direction.inRecordHeader then
    let take := min (tlsRecordHeaderBytes - direction.recordHeader.length) bytes.length
    some (take, framer.takeRecordHeader side captured (bytes.take take))
  else
    let recordTake := min direction.recordRemaining bytes.length
    if direction.recordType ≠ tlsHandshakeRecord then
      some (recordTake,
        (framer.setDirection side
          (direction.takeRecordBody captured (bytes.take recordTake))).closeRecord side)
    else
      (Emission.drain (handshakeRound side captured) recordTake (bytes.take recordTake) framer).map
        fun outcome => (recordTake, outcome.andThen (closeRecord side))

/-- `ConsumeData`, none if it does not end. -/
def consumeData (side : PacketDirection) (captured : Option Int) (bytes : List UInt8)
    (framer : TlsFraming) : Option TlsOutcome :=
  Emission.drain (recordRound side captured) bytes.length bytes framer

/-- `Consume` at this offset, none if it does not end. The second component says whether
the offset moves on to the end of the event. -/
def consumeAt (input : FramerInput) (nextOffset : Nat) (framer : TlsFraming) :
    Option (TlsOutcome × Bool) :=
  let side := input.direction
  let direction := framer.directions side
  if framer.closed then some (.done framer, false)
  else if direction.disabled then some (.done framer, false)
  else if input.origin ≠ .syn then
    some (framer.reject side .unsupportedFraming .midstream, false)
  else if input.begin ≠ nextOffset ∨ input.end_ < input.begin then
    some (framer.reject side .unsupportedFraming .notTls, false)
  else
    match input.kind with
    | .gap =>
        some (framer.reject side
          (if input.includesCaptureTruncation then .captureTruncation else .gap) .notTls, true)
    | .ended =>
        if framer.candidate ∧ (direction.recordHeader ≠ [] ∨ direction.recordRemaining ≠ 0 ∨
            direction.handshakeHeader ≠ [] ∨ direction.handshakeRemaining ≠ 0) then
          some (framer.fail .incomplete, false)
        else
          let framer := framer.setDirection side { direction with disabled := true }
          some (.done
            { framer with
              closed := framer.closed ||
                !framer.candidate && (framer.directions .aToB).disabled &&
                  (framer.directions .bToA).disabled }, false)
    | .data =>
        if input.bytes = [] ∨ input.end_ - input.begin ≠ input.bytes.length then
          some (.fail .invalidInput framer, false)
        else
          (framer.consumeData side input.capturedAtNs input.bytes).map fun outcome => (outcome, true)

end TlsFraming

namespace TlsFramer

/-- The framer after an event. -/
def move (input : FramerInput) (moves : Bool) (framer : TlsFramer) (framing : TlsFraming) :
    TlsFramer :=
  { framing := framing
    nextOffset :=
      if moves then Function.update framer.nextOffset input.direction input.end_
      else framer.nextOffset }

/-- `Consume`, none if it does not end. -/
def consume (input : FramerInput) (framer : TlsFramer) :
    Option (Emission TlsFramerError TlsFramer TlsFramedEvent) :=
  (framer.framing.consumeAt input (framer.nextOffset input.direction)).map fun (outcome, moves) =>
    outcome.mapState (framer.move input moves)

end TlsFramer

end Flowsql.Npm
