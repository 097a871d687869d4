import Flowsql.Npm.TlsFramer

/-!
# TLS handshakes

This module embeds `NpmTlsHandshakeTrackerV1`, which follows the framed events of one session
to a final result. Allocations succeed.
-/

namespace Flowsql.Npm

open Flowsql.Library

inductive TlsHandshakeOutcome where
  | serverHelloObserved
  | fatalAlertObserved
  | incomplete
  deriving DecidableEq, Repr

inductive TlsIncompleteReason where
  | none
  | encryptedAfterServerHello
  | encryptedAfterChangeCipherSpec
  | deadlineAfterServerHello
  | sessionEndAfterServerHello
  | clientHelloIncomplete
  | serverHelloNotObservedByDeadline
  | helloRetryRequestUnfinished
  | clientPathGap
  | serverPathGap
  | captureTruncation
  | malformedRecord
  | malformedHello
  | helloLimitExceeded
  | unsupportedVersion
  | unsupportedFraming
  | serverStreamEnd
  | sessionEnd
  deriving DecidableEq, Repr

inductive TlsHandshakePhase where
  | candidate
  | awaitingServerHello
  | awaitingRetryClientHello
  | awaitingFinalServerHello
  | awaitingTls12Boundary
  | closed
  deriving DecidableEq, Repr

/-- `NpmTlsHandshakeV1`, without the identifier of the entity, which the module sets. -/
structure TlsHandshake where
  sessionId : Nat
  clientDirection : PacketDirection
  phase : TlsHandshakePhase := .candidate
  firstClientHello : Option TlsHelloFacts := none
  retryClientHello : Option TlsHelloFacts := none
  finalServerHello : Option TlsHelloFacts := none
  helloRetryCount : Nat := 0
  firstClientByteAtNs : Option Int := none
  deadlineNs : Option Int := none
  deriving DecidableEq, Repr

/-- `NpmTlsHandshakeResultV1`. -/
structure TlsHandshakeResult where
  handshake : TlsHandshake
  outcome : TlsHandshakeOutcome
  incompleteReason : TlsIncompleteReason
  observedAtNs : Int
  serverHelloLatencyNs : Option Int
  alertLevel : Option UInt8 := none
  alertDescription : Option UInt8 := none
  deriving DecidableEq, Repr

/-- `NpmTlsHandshakeTrackerV1`. -/
structure TlsTracker where
  sessionId : Nat
  handshakeTimeoutNs : Int
  framer : TlsFramer
  candidate : Option TlsHandshake := none
  lastWatermarkNs : Option Int := none
  closed : Bool := false

/-- The tracker after a call or a part of it, and the result that was set. -/
structure TlsStep where
  tracker : TlsTracker
  result : Option TlsHandshakeResult := none

/-- Go on unless the tracker has been closed. -/
def TlsStep.andThen (step : TlsStep) (next : TlsTracker → TlsStep) : TlsStep :=
  if step.tracker.closed then step
  else { next step.tracker with result := (next step.tracker).result <|> step.result }

/-- The difference of two `int64_t` values on a machine that wraps around; the language leaves
an overflow undefined. -/
def subInt64 (left right : Int) : Int := (left - right + 2 ^ 63) % 2 ^ 64 - 2 ^ 63

namespace TlsHelloFacts

/-- `OffersVersion`. -/
def offersVersion (hello : TlsHelloFacts) (version : Nat) : Bool :=
  hello.offeredVersions.contains version

/-- `ValidClientHello`. -/
def validClientHello (hello : TlsHelloFacts) : Bool :=
  hello.legacyVersion == 0x0303 &&
    (hello.offeredVersions.isEmpty || hello.offersVersion 0x0303 || hello.offersVersion 0x0304)

/-- `ValidCipherSuite` of a cipher suite that is there. -/
def validCipherSuite (hello : TlsHelloFacts) : Bool :=
  hello.cipherSuite.any fun cipher => cipher != 0 && cipher != 0x00ff && cipher != 0x5600

def selectsTls13 (hello : TlsHelloFacts) : Bool := hello.selectedVersion == some 0x0304

end TlsHelloFacts

/-- `FramerReason`. -/
def framerReason (error : TlsFramerError) (direction client : PacketDirection) :
    TlsIncompleteReason :=
  match error with
  | .gap => if direction = client then .clientPathGap else .serverPathGap
  | .captureTruncation => .captureTruncation
  | .malformedRecord => .malformedRecord
  | .malformedHello => .malformedHello
  | .helloLimit => .helloLimitExceeded
  | .incomplete => .clientHelloIncomplete
  | _ => .unsupportedFraming

/-- The time from the first ClientHello to the final ServerHello. -/
def TlsHandshake.serverHelloLatency (handshake : TlsHandshake) : Option Int :=
  match handshake.firstClientHello, handshake.finalServerHello with
  | some client, some server =>
      match client.completeAtNs, server.completeAtNs with
      | some clientAt, some serverAt =>
          if serverAt ≥ clientAt then some (subInt64 serverAt clientAt) else none
      | _, _ => none
  | _, _ => none

def TlsHandshake.awaitsRetry (handshake : TlsHandshake) : Bool :=
  handshake.phase == .awaitingRetryClientHello || handshake.phase == .awaitingFinalServerHello

namespace TlsTracker

/-- `Close`. -/
def close (outcome : TlsHandshakeOutcome) (reason : TlsIncompleteReason) (observedAtNs : Int)
    (tracker : TlsTracker) : TlsStep :=
  match tracker.closed, tracker.candidate with
  | false, some candidate =>
      { tracker := { tracker with candidate := none, closed := true }
        result := some
          { handshake := { candidate with phase := .closed }
            outcome := outcome
            incompleteReason := reason
            observedAtNs := observedAtNs
            serverHelloLatencyNs := candidate.serverHelloLatency } }
  | _, _ => ⟨tracker, none⟩

/-- `Fail`. -/
def fail (reason : TlsIncompleteReason) (observedAtNs : Int) (tracker : TlsTracker) : TlsStep :=
  tracker.close .incomplete reason observedAtNs

/-- The candidate goes on. -/
def advance (candidate : TlsHandshake) (tracker : TlsTracker) : TlsStep :=
  ⟨{ tracker with candidate := some candidate }, none⟩

def onAlert (event : TlsFramedEvent) (observedAtNs : Int) (tracker : TlsTracker) : TlsStep :=
  if event.recordLength = 2 ∧ event.controlBytes.1 = 2 then
    let step := tracker.close .fatalAlertObserved .none (event.completeAtNs.getD observedAtNs)
    { step with result := step.result.map fun result =>
        { result with alertLevel := some 2, alertDescription := some event.controlBytes.2 } }
  else ⟨tracker, none⟩

def onChangeCipherSpec (candidate : TlsHandshake) (event : TlsFramedEvent) (observedAtNs : Int)
    (tracker : TlsTracker) : TlsStep :=
  if event.recordLength ≠ 1 ∨ event.controlBytes.1 ≠ 1 then
    tracker.fail .unsupportedFraming observedAtNs
  else if candidate.phase = .awaitingTls12Boundary then
    tracker.close .serverHelloObserved .encryptedAfterChangeCipherSpec observedAtNs
  else ⟨tracker, none⟩

def onClientHello (candidate : TlsHandshake) (client : Bool) (hello : TlsHelloFacts)
    (observedAtNs : Int) (tracker : TlsTracker) : TlsStep :=
  if ¬ client ∨ ¬ hello.validClientHello then
    tracker.fail (if client then .unsupportedVersion else .unsupportedFraming) observedAtNs
  else if candidate.phase = .candidate then
    tracker.advance
      { candidate with firstClientHello := some hello, phase := .awaitingServerHello }
  else if candidate.phase = .awaitingRetryClientHello ∧ hello.offersVersion 0x0304 then
    tracker.advance
      { candidate with retryClientHello := some hello, phase := .awaitingFinalServerHello }
  else tracker.fail .unsupportedFraming observedAtNs

/-- A HelloRetryRequest. The code reads the first ClientHello here, and none stands for the
read of one that is not there. -/
def onHelloRetryRequest (candidate : TlsHandshake) (hello : TlsHelloFacts) (observedAtNs : Int)
    (tracker : TlsTracker) : Option TlsStep :=
  if candidate.phase ≠ .awaitingServerHello ∨ ¬ hello.selectsTls13 then
    some (tracker.fail .unsupportedFraming observedAtNs)
  else
    candidate.firstClientHello.map fun first =>
      if ¬ first.offersVersion 0x0304 ∨ hello.selectedAlpn.isSome then
        tracker.fail .unsupportedFraming observedAtNs
      else
        tracker.advance
          { candidate with helloRetryCount := 1, phase := .awaitingRetryClientHello }

/-- The final ServerHello, when its version is known. -/
def onFinalServerHello (candidate : TlsHandshake) (hello : TlsHelloFacts) (observedAtNs : Int)
    (tracker : TlsTracker) : TlsStep :=
  let stored := { candidate with finalServerHello := some hello }
  if hello.selectsTls13 then
    (tracker.advance stored).tracker.close .serverHelloObserved .encryptedAfterServerHello
      observedAtNs
  else tracker.advance { stored with phase := .awaitingTls12Boundary }

def onServerHello (candidate : TlsHandshake) (client : Bool) (hello : TlsHelloFacts)
    (observedAtNs : Int) (tracker : TlsTracker) : Option TlsStep :=
  if client ∨ candidate.phase ≠ .awaitingServerHello ∧
      candidate.phase ≠ .awaitingFinalServerHello then
    some (tracker.fail .unsupportedFraming observedAtNs)
  else if hello.legacyVersion ≠ 0x0303 ∨ ¬ hello.validCipherSuite then
    some (tracker.fail .unsupportedVersion observedAtNs)
  else if hello.helloRetryRequest then
    tracker.onHelloRetryRequest candidate hello observedAtNs
  else if hello.selectedVersion.any fun version => version != 0x0304 && version != 0x0303 then
    some (tracker.fail .unsupportedVersion observedAtNs)
  else if candidate.phase = .awaitingFinalServerHello ∧ ¬ hello.selectsTls13 then
    some (tracker.fail .unsupportedVersion observedAtNs)
  else if hello.selectsTls13 then
    candidate.firstClientHello.map fun first =>
      if ¬ first.offersVersion 0x0304 ∨ hello.selectedAlpn.isSome then
        tracker.fail .unsupportedVersion observedAtNs
      else tracker.onFinalServerHello candidate hello observedAtNs
  else some (tracker.onFinalServerHello candidate hello observedAtNs)

/-- `OnFramedEvent`, for an open candidate. -/
def onCandidateEvent (candidate : TlsHandshake) (event : TlsFramedEvent) (observedAtNs : Int)
    (tracker : TlsTracker) : Option TlsStep :=
  let client : Bool := event.direction = candidate.clientDirection
  if candidate.firstClientHello.isNone ∧ event.kind ≠ .clientHello then
    some (tracker.fail .clientHelloIncomplete observedAtNs)
  else
    match event.kind with
    | .alert => some (tracker.onAlert event observedAtNs)
    | .changeCipherSpec => some (tracker.onChangeCipherSpec candidate event observedAtNs)
    | .applicationData =>
        some
          (if ¬ client ∨ candidate.phase = .awaitingTls12Boundary then
            tracker.fail .unsupportedFraming observedAtNs
          else ⟨tracker, none⟩)
    | .otherHandshake =>
        some
          (if candidate.phase = .awaitingRetryClientHello ∨
              candidate.phase = .awaitingFinalServerHello ∧ client then
            tracker.fail .unsupportedFraming observedAtNs
          else ⟨tracker, none⟩)
    | .clientHello =>
        match event.hello with
        | none => some (tracker.fail .malformedHello observedAtNs)
        | some hello => some (tracker.onClientHello candidate client hello observedAtNs)
    | .serverHello =>
        match event.hello with
        | none => some (tracker.fail .malformedHello observedAtNs)
        | some hello => tracker.onServerHello candidate client hello observedAtNs

/-- `OnFramedEvent`. -/
def onFramedEvent (event : TlsFramedEvent) (observedAtNs : Int) (tracker : TlsTracker) :
    Option TlsStep :=
  match tracker.candidate, tracker.closed with
  | some candidate, false => tracker.onCandidateEvent candidate event observedAtNs
  | _, _ => some ⟨tracker, none⟩

/-- The loop over the events of a call. -/
def onFramedEvents (observedAtNs : Int) : List TlsFramedEvent → TlsTracker → Option TlsStep
  | [], tracker => some ⟨tracker, none⟩
  | event :: rest, tracker =>
      match tracker.onFramedEvent event observedAtNs with
      | none => none
      | some step =>
          if step.tracker.closed then some step else onFramedEvents observedAtNs rest step.tracker

/-- The deadline of a handshake, which saturates. -/
def deadline (handshakeTimeoutNs first : Int) : Int :=
  if first > maxInt64 - handshakeTimeoutNs then maxInt64 else first + handshakeTimeoutNs

/-- The framer has found a ClientHello. -/
def becomeCandidate (tracker : TlsTracker) : TlsTracker :=
  if tracker.candidate.isNone ∧ tracker.framer.framing.candidate then
    let first := tracker.framer.framing.firstClientByteAtNs
    let candidate : TlsHandshake :=
      { sessionId := tracker.sessionId
        clientDirection := tracker.framer.framing.clientDirection
        firstClientByteAtNs := first
        deadlineNs := first.map (deadline tracker.handshakeTimeoutNs) }
    { tracker with candidate := some candidate }
  else tracker

/-- The framer has failed. -/
def onFramerError (error : TlsFramerError) (input : FramerInput) (observedAtNs : Int)
    (tracker : TlsTracker) : TlsStep :=
  match tracker.candidate with
  | none => ⟨tracker, none⟩
  | some candidate =>
      if candidate.finalServerHello.isSome ∧ candidate.phase = .awaitingTls12Boundary ∧
          error = .incomplete ∧ input.endReason = some .sessionEnd then
        tracker.close .serverHelloObserved .sessionEndAfterServerHello observedAtNs
      else
        let reason :=
          if error = .incomplete ∧ candidate.awaitsRetry then .helloRetryRequestUnfinished
          else if error = .incomplete ∧ candidate.firstClientHello.isSome ∧
              input.direction ≠ candidate.clientDirection then .serverStreamEnd
          else framerReason error input.direction candidate.clientDirection
        tracker.fail reason observedAtNs

/-- The server has closed its direction without a final ServerHello. -/
def onServerFin (input : FramerInput) (observedAtNs : Int) (tracker : TlsTracker) : TlsStep :=
  match tracker.candidate with
  | none => ⟨tracker, none⟩
  | some candidate =>
      if input.kind = .ended ∧ input.endReason = some .fin ∧
          input.direction ≠ candidate.clientDirection ∧ candidate.finalServerHello.isNone then
        tracker.fail .serverStreamEnd observedAtNs
      else ⟨tracker, none⟩

/-- The part of `Consume` after the framer. -/
def afterFraming (framed : Emission TlsFramerError TlsFramer TlsFramedEvent) (input : FramerInput)
    (observedAtNs : Int) (tracker : TlsTracker) : Option TlsStep :=
  (onFramedEvents observedAtNs framed.emitted tracker.becomeCandidate).map fun step =>
    (step.andThen fun tracker =>
      match framed.error with
      | none => ⟨tracker, none⟩
      | some error => tracker.onFramerError error input observedAtNs).andThen
        (onServerFin input observedAtNs)

/-- `Consume`, none if it does not end or reads a ClientHello that is not there. The second
component says that the input is rejected. -/
def consume (sessionId : Nat) (observedAtNs : Int) (input : FramerInput) (tracker : TlsTracker) :
    Option (TlsStep × Bool) :=
  if sessionId ≠ tracker.sessionId then some (⟨tracker, none⟩, true)
  else if tracker.closed then some (⟨tracker, none⟩, false)
  else
    match tracker.framer.consume input with
    | none => none
    | some framed =>
        let moved := { tracker with framer := framed.state }
        if framed.error = some .invalidInput then some (⟨moved, none⟩, true)
        else (moved.afterFraming framed input observedAtNs).map fun step => (step, false)

/-- How a candidate ends that is still open. -/
def finish (observedByServer elsewhere : TlsIncompleteReason) (observedAtNs : Int)
    (candidate : TlsHandshake) (tracker : TlsTracker) : TlsStep :=
  if candidate.finalServerHello.isSome then
    tracker.close .serverHelloObserved observedByServer observedAtNs
  else if candidate.awaitsRetry then tracker.fail .helloRetryRequestUnfinished observedAtNs
  else if candidate.firstClientHello.isNone then
    tracker.fail .clientHelloIncomplete observedAtNs
  else tracker.fail elsewhere observedAtNs

/-- `OnCaptureWatermark`. -/
def onCaptureWatermark (watermarkNs : Int) (tracker : TlsTracker) : TlsStep :=
  if tracker.closed ∨ tracker.lastWatermarkNs.any (watermarkNs ≤ ·) then ⟨tracker, none⟩
  else
    let moved := { tracker with lastWatermarkNs := some watermarkNs }
    match moved.candidate with
    | none => ⟨moved, none⟩
    | some candidate =>
        if candidate.deadlineNs.any (· ≤ watermarkNs) then
          moved.finish .deadlineAfterServerHello .serverHelloNotObservedByDeadline watermarkNs
            candidate
        else ⟨moved, none⟩

/-- `OnSessionEnd`. -/
def onSessionEnd (observedAtNs : Int) (tracker : TlsTracker) : TlsStep :=
  match tracker.closed, tracker.candidate with
  | false, some candidate =>
      tracker.finish .sessionEndAfterServerHello .sessionEnd observedAtNs candidate
  | _, _ => ⟨tracker, none⟩

/-- `Abort`. -/
def abort (tracker : TlsTracker) : TlsTracker := { tracker with candidate := none, closed := true }

end TlsTracker

end Flowsql.Npm
