import Flowsql.Npm.DnsTransactions
import Mathlib

/-!
# DNS over TCP

This module embeds `NpmDnsTcpFramerV1`: the bytes of each direction of a TCP session are cut
into DNS messages, which go to the tracker. Every cursor operation succeeds. The framer and
the tracker share the task budget.
-/

namespace Flowsql.Npm

open Flowsql.Library

/-- `NpmTcpStreamEventV1`, as far as the framer reads it. -/
inductive DnsStreamEvent where
  | data (bytes : List UInt8) (capturedAtNs : Option Int)
  | gap
  | ended
  deriving DecidableEq

/-- `NpmTcpStreamContextV1`. -/
structure DnsStreamContext where
  sessionId : Nat
  direction : PacketDirection
  origin : StreamOrigin := .syn
  finalDrain : Bool := false
  observedAtNs : Int := 0
  deriving DecidableEq

/-- `DirectionState`. The length bytes that have been read stand in a list. -/
structure DnsDirection where
  disabled : Bool := false
  lengthBytes : List UInt8 := []
  frameLength : Nat := 0
  frameCharge : Nat := 0
  frame : List UInt8 := []
  allTimesKnown : Bool := true
  maxTimeNs : Option Int := none
  deriving DecidableEq

/-- A message that the framer has handed to the tracker. -/
structure DnsFramed where
  sessionId : Nat
  direction : PacketDirection
  body : List UInt8
  completeAtNs : Option Int
  deriving DecidableEq

/-- What a call gives: the messages that it cut, and the results of the tracker. -/
abbrev DnsFramerItem := DnsFramed ⊕ DnsResult

/-- The direction that a call works on, with the tracker. -/
structure DnsStream where
  tracker : DnsTracker
  direction : DnsDirection := {}

abbrev DnsStreamOutcome := Emission DnsError DnsStream DnsFramerItem

def dnsDirectionCharge : Nat := 256

namespace DnsTracker

/-- `Reserve` of module state. -/
def reserveModule (bytes : Nat) (tracker : DnsTracker) : Option DnsTracker :=
  match tracker.budget.reserve .moduleState bytes with
  | (.none, budget) => some { tracker with budget := budget }
  | _ => none

/-- `Release` of module state. -/
def releaseModule (bytes : Nat) (tracker : DnsTracker) : DnsTracker :=
  { tracker with budget := (tracker.budget.release .moduleState bytes).2 }

end DnsTracker

namespace DnsDirection

/-- `ObserveTime`. -/
def observeTime (capturedAtNs : Option Int) (direction : DnsDirection) : DnsDirection :=
  match capturedAtNs with
  | none => { direction with allTimesKnown := false }
  | some capturedAtNs =>
      if direction.maxTimeNs.all (capturedAtNs > ·) then
        { direction with maxTimeNs := some capturedAtNs }
      else direction

/-- More length bytes. -/
def takeLengthBytes (capturedAtNs : Option Int) (bytes : List UInt8) (direction : DnsDirection) :
    DnsDirection :=
  { direction with lengthBytes := direction.lengthBytes ++ bytes }.observeTime capturedAtNs

/-- The bytes of the message that is not complete yet. -/
def buffered (direction : DnsDirection) : List UInt8 := direction.lengthBytes ++ direction.frame

end DnsDirection

/-- The length that two bytes give. -/
def dnsFrameLength : List UInt8 → Nat
  | high :: low :: _ => (high.toUInt16 <<< 8 ||| low.toUInt16).toNat
  | _ => 0

namespace DnsStream

/-- `ForgetFrame`. -/
def forgetFrame (stream : DnsStream) : DnsStream where
  tracker :=
    if stream.direction.frameCharge = 0 then stream.tracker
    else stream.tracker.releaseModule stream.direction.frameCharge
  direction := { stream.direction with frame := [], frameCharge := 0 }

/-- The length bytes, when both are there. -/
def startFrame (stream : DnsStream) : DnsStreamOutcome :=
  let length := dnsFrameLength stream.direction.lengthBytes
  let known := { stream.direction with frameLength := length }
  if length = 0 then .done { stream with direction := { known with disabled := true } }
  else
    match stream.tracker.reserveModule length with
    | none => .fail .noSpace { stream with direction := known }
    | some tracker =>
        .done { tracker := tracker, direction := { known with frameCharge := length } }

/-- The part of a round that reads length bytes, and how many. -/
def takeLength (capturedAtNs : Option Int) (bytes : List UInt8) (stream : DnsStream) :
    Nat × DnsStreamOutcome :=
  let direction := stream.direction
  if direction.lengthBytes.length < 2 then
    let count := min (2 - direction.lengthBytes.length) bytes.length
    let taken : DnsStream :=
      { stream with direction := direction.takeLengthBytes capturedAtNs (bytes.take count) }
    if taken.direction.lengthBytes.length < 2 then (count, .done taken)
    else (count, taken.startFrame)
  else (0, .done stream)

/-- A complete message. -/
def finishFrame (context : DnsStreamContext) (stream : DnsStream) : DnsStreamOutcome :=
  let direction := stream.direction
  let completeAtNs := if direction.allTimesKnown then direction.maxTimeNs else none
  let answer := stream.tracker.onMessage context.sessionId context.direction direction.frame true
    completeAtNs (completeAtNs.getD context.observedAtNs)
  let items := .inl ⟨context.sessionId, context.direction, direction.frame, completeAtNs⟩ ::
    answer.emitted.map .inr
  match answer.error with
  | some error => ⟨some error, { stream with tracker := answer.state }, items⟩
  | none =>
      let forgotten : DnsStream :=
        forgetFrame ⟨answer.state, { direction with lengthBytes := [], frameLength := 0 }⟩
      let restarted := { forgotten.direction with allTimesKnown := true, maxTimeNs := none }
      ⟨none, { forgotten with direction := restarted }, items⟩

/-- The part of a round that reads bytes of the message, and how many. -/
def takeFrame (context : DnsStreamContext) (capturedAtNs : Option Int) (bytes : List UInt8)
    (stream : DnsStream) : Nat × DnsStreamOutcome :=
  let direction := stream.direction
  let count := min (direction.frameLength - direction.frame.length) bytes.length
  let extended := { direction with frame := direction.frame ++ bytes.take count }
  let taken : DnsStream :=
    { stream with direction := if count ≠ 0 then extended.observeTime capturedAtNs else extended }
  if taken.direction.frame.length ≠ taken.direction.frameLength then (count, .done taken)
  else (count, taken.finishFrame context)

/-- A round of the loop of `ConsumeData`, and how many bytes it takes. The loop ends when the
direction is disabled. -/
def round (context : DnsStreamContext) (capturedAtNs : Option Int) (bytes : List UInt8)
    (stream : DnsStream) : Nat × DnsStreamOutcome :=
  if stream.direction.disabled then (bytes.length, .done stream)
  else
    let (count, begun) := stream.takeLength capturedAtNs bytes
    if begun.error ≠ none ∨ begun.state.direction.disabled ∨
        begun.state.direction.lengthBytes.length < 2 then (count, begun)
    else
      let (more, taken) := begun.state.takeFrame context capturedAtNs (bytes.drop count)
      (count + more, taken)

/-- `ConsumeData`, `none` if the loop does not end. -/
def consumeData (context : DnsStreamContext) (capturedAtNs : Option Int) (bytes : List UInt8)
    (stream : DnsStream) : Option DnsStreamOutcome :=
  if bytes = [] then some (.fail .invalid stream)
  else
    Emission.drain (fun bytes stream => some (stream.round context capturedAtNs bytes))
      (bytes.length + 1) bytes stream

def disable (stream : DnsStream) : DnsStream :=
  { stream with direction := { stream.direction with disabled := true } }

/-- A gap or an end. -/
def stop (stream : DnsStream) : DnsStream :=
  forgetFrame
    { stream with direction := { stream.direction with disabled := true, lengthBytes := [] } }

/-- One event of `OnReadable`. -/
def onEvent (context : DnsStreamContext) (stream : DnsStream) :
    DnsStreamEvent → Option DnsStreamOutcome
  | .data bytes capturedAtNs =>
      if stream.direction.disabled then
        some (if bytes = [] then .fail .invalid stream else .done stream)
      else stream.consumeData context capturedAtNs bytes
  | .gap =>
      let answer := stream.stop.tracker.onResponsePathGap context.sessionId context.direction
        context.observedAtNs
      some ⟨answer.error, { stream.stop with tracker := answer.state }, answer.emitted.map .inr⟩
  | .ended => some (.done stream.stop)

/-- The loop of `OnReadable`. -/
def onEvents (context : DnsStreamContext) : List DnsStreamEvent → DnsStream →
    Option DnsStreamOutcome
  | [], stream => some (.done stream)
  | event :: rest, stream =>
      match stream.onEvent context event with
      | none => none
      | some first =>
          match first.error with
          | some _ => some first
          | none => (onEvents context rest first.state).map (Emission.after first.emitted)

end DnsStream

abbrev DnsDirectionKey := Nat × PacketDirection

/-- `NpmDnsTcpFramerV1`, with its tracker. -/
structure DnsFramer where
  tracker : DnsTracker
  directions : DnsDirectionKey → Option DnsDirection := fun _ => none

abbrev DnsFramerOutcome := Emission DnsError DnsFramer DnsFramerItem

namespace DnsFramer

def key (context : DnsStreamContext) : DnsDirectionKey := (context.sessionId, context.direction)

/-- `EraseDirection`. -/
def eraseDirection (key : DnsDirectionKey) (framer : DnsFramer) : DnsFramer :=
  match framer.directions key with
  | none => framer
  | some direction =>
      { tracker :=
          (DnsStream.forgetFrame ⟨framer.tracker, direction⟩).tracker.releaseModule
            dnsDirectionCharge
        directions := Function.update framer.directions key none }

/-- The direction of a call, which is new if it is not there. -/
def openDirection (key : DnsDirectionKey) (framer : DnsFramer) : Option DnsStream :=
  match framer.directions key with
  | some direction => some ⟨framer.tracker, direction⟩
  | none => (framer.tracker.reserveModule dnsDirectionCharge).map fun tracker => ⟨tracker, {}⟩

/-- The framer after a call has worked on this direction. -/
def store (key : DnsDirectionKey) (framer : DnsFramer) (stream : DnsStream) : DnsFramer :=
  { tracker := stream.tracker
    directions := Function.update framer.directions key (some stream.direction) }

/-- The end of `OnReadable`: a direction that is disabled is erased after the final drain. -/
def settle (context : DnsStreamContext) (framer : DnsFramer) (outcome : DnsStreamOutcome) :
    DnsFramerOutcome :=
  let stored := framer.store (key context) outcome.state
  ⟨outcome.error,
    if outcome.error = none ∧ outcome.state.direction.disabled ∧ context.finalDrain then
      stored.eraseDirection (key context)
    else stored,
    outcome.emitted⟩

/-- `OnReadable`, `none` if it does not end. -/
def onReadable (context : DnsStreamContext) (events : List DnsStreamEvent) (framer : DnsFramer) :
    Option DnsFramerOutcome :=
  if context.sessionId = 0 then some (.fail .invalid framer)
  else
    match framer.openDirection (key context) with
    | none => some (.fail .noSpace framer)
    | some opened =>
        let entered := if context.origin ≠ .syn then opened.disable else opened
        (entered.onEvents context events).map (framer.settle context)

/-- `OnSessionEnd`. -/
def onSessionEnd (sessionId : Nat) (observedAtNs : Int) (framer : DnsFramer) : DnsFramerOutcome :=
  let answer := framer.tracker.onSessionEnd sessionId observedAtNs
  let ended : DnsFramer := { framer with tracker := answer.state }
  ⟨answer.error,
    match answer.error with
    | some _ => ended
    | none => (ended.eraseDirection (sessionId, .aToB)).eraseDirection (sessionId, .bToA),
    answer.emitted.map .inr⟩

end DnsFramer

end Flowsql.Npm
