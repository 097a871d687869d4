import Flowsql.Library.Transitions
import Flowsql.Stream.AtomicRing

/-!
# The ring stream channel

Producers put batches into a ring, consumers poll it, and a control thread opens, closes, ends and
cancels the stream. A step is one call of the ring or one access to a flag. The log records what
happened, the latest entry first; the code does not have it.
-/

namespace Flowsql.Stream

open Flowsql.Library

/-- An end marker has no batch. -/
structure StreamBatch (Batch : Type*) where
  data : Option Batch := none
  tsMs : Int := 0
  partitionId : Int := -1
  isEof : Bool := false
  deriving DecidableEq

instance {Batch : Type*} : Inhabited (StreamBatch Batch) := ⟨{}⟩

/-- Where a `Put` is. A blocking one reads the flags again before each attempt. -/
inductive PutState (Batch : Type*) where
  | idle
  | readOpened (payload : StreamBatch Batch) (blocking : Bool)
  | readCancelled (payload : StreamBatch Batch) (blocking : Bool)
  | enqueuing (payload : StreamBatch Batch) (blocking : Bool)

/-- Where a `PollNext` is; it looks twice, and `again` is the second time. The flags are read once
for the end of a cancelled stream and once for the end of a closed one. -/
inductive PollState where
  | idle
  | dequeuing (again : Bool)
  | readCancelled (again : Bool)
  | readFinished (again cancelled : Bool)
  | readSize (again cancelled : Bool)
  deriving DecidableEq

/-- Where the control thread is. -/
inductive ControlState where
  | idle
  /-- `Open` after its first and its second store. -/
  | openingFinished
  | openingCancel
  /-- `Close` after its first store. -/
  | closing
  /-- `PushEofWithRetry`, and the store behind it. -/
  | pushing (elapsedMs : Nat)
  | finishing
  deriving DecidableEq

/-- How the end of the stream was found: by a marker, by the flags, or by the flags of a cancelled
stream. -/
inductive EndKind where
  | marker
  | finished
  | drainedAfterCancel
  deriving DecidableEq

inductive PutCode where
  | EBADF
  | ECANCELED
  | EAGAIN
  | failed
  deriving DecidableEq

inductive LogEntry (Batch Producer Consumer : Type*) where
  /-- `Open` has reset the stream. -/
  | opened
  | accepted (producer : Producer) (payload : StreamBatch Batch)
  | refused (producer : Producer) (code : PutCode)
  /-- `CloseStream`, `Cancel` or `Close` has begun to end the stream. -/
  | ending
  | marker
  /-- `CloseStream` or `Cancel` has returned. -/
  | closed
  | delivered (consumer : Consumer) (payload : StreamBatch Batch)
  | ended (consumer : Consumer) (kind : EndKind)
  | timedOut (consumer : Consumer)
  | error (consumer : Consumer)

structure RingStreamChannel (Batch Producer Consumer : Type*) where
  ring : AtomicRing (StreamBatch Batch)
  /-- `options_.overflow == kBlock`. -/
  blocks : Bool
  opened : Bool := false
  cancelRequested : Bool := false
  finished : Bool := false
  /-- The flags of `call_once`. -/
  cancelOnce : Bool := false
  closeStreamOnce : Bool := false
  droppedBatches : Nat := 0
  puts : Producer → PutState Batch := fun _ => .idle
  polls : Consumer → PollState := fun _ => .idle
  control : ControlState := .idle
  log : List (LogEntry Batch Producer Consumer) := []

inductive OverflowPolicy where
  | kDrop
  | kBlock
  deriving DecidableEq

inductive ChannelEvent (Batch Producer Consumer : Type*) where
  | put (producer : Producer) (batch : Batch) (tsMs : Int)
  /-- The next access of a `Put`. A call of the ring meets that many spurious failures. -/
  | stepPut (producer : Producer) (weakFailures : Nat)
  | poll (consumer : Consumer)
  | stepPoll (consumer : Consumer) (weakFailures : Nat)
  | open_
  | close
  | closeStream
  | cancel
  | stepControl (weakFailures : Nat)

namespace RingStreamChannel

variable {Batch Producer Consumer : Type*} [DecidableEq Producer] [DecidableEq Consumer]

/-- The constructor. An infinite stream never blocks its producers. -/
def make (ringSize : UInt64) (mode : RingMode) (overflow : OverflowPolicy) (finite : Bool) :
    RingStreamChannel Batch Producer Consumer where
  ring := .make ringSize mode
  blocks := finite && decide (overflow = .kBlock)

variable (self : RingStreamChannel Batch Producer Consumer)

/-- `open_error_`. -/
def hasOpenError : Bool := !self.ring.validCapacity || !self.ring.modeSupported

def setPut (producer : Producer) (state : PutState Batch) :
    RingStreamChannel Batch Producer Consumer :=
  { self with puts := Function.update self.puts producer state }

def setPoll (consumer : Consumer) (state : PollState) :
    RingStreamChannel Batch Producer Consumer :=
  { self with polls := Function.update self.polls consumer state }

def record (entry : LogEntry Batch Producer Consumer) :
    RingStreamChannel Batch Producer Consumer :=
  { self with log := entry :: self.log }

/-- The calls of the ring. A call that has not returned after its failures never returns. -/
def enqueue (payload : StreamBatch Batch) (weakFailures : Nat) :
    Option (RingCode × AtomicRing (StreamBatch Batch)) :=
  self.ring.enqueue payload (weakFailures + 1) weakFailures

def dequeue (weakFailures : Nat) :
    Option (RingCode × Option (StreamBatch Batch) × AtomicRing (StreamBatch Batch)) :=
  self.ring.dequeue true (weakFailures + 1) weakFailures

/-! ## Put -/

def put (producer : Producer) (batch : Batch) (tsMs : Int) :
    Option (RingStreamChannel Batch Producer Consumer) :=
  match self.puts producer with
  | .idle =>
      if self.hasOpenError then
        some (self.record (.refused producer .failed))
      else
        some (self.setPut producer (.readOpened { data := some batch, tsMs := tsMs } false))
  | _ => none

/-- The end of a `Put` that fails. -/
def refuse (producer : Producer) (code : PutCode) : RingStreamChannel Batch Producer Consumer :=
  (self.setPut producer .idle).record (.refused producer code)

/-- The attempt to enqueue. -/
def tryPut (producer : Producer) (payload : StreamBatch Batch) (blocking : Bool)
    (weakFailures : Nat) : Option (RingStreamChannel Batch Producer Consumer) :=
  match self.enqueue payload weakFailures with
  | none => none
  | some (.ok, ring) =>
      some (({ self with ring := ring }.setPut producer .idle).record (.accepted producer payload))
  | some (.EAGAIN, ring) =>
      if blocking then
        some ({ self with ring := ring }.setPut producer (.readOpened payload true))
      else
        some ({ self with ring := ring, droppedBatches := self.droppedBatches + 1 }.refuse
          producer .EAGAIN)
  | some (_, ring) => some ({ self with ring := ring }.refuse producer .failed)

def stepPut (producer : Producer) (weakFailures : Nat) :
    Option (RingStreamChannel Batch Producer Consumer) :=
  match self.puts producer with
  | .idle => none
  | .readOpened payload blocking =>
      if self.opened then
        some (self.setPut producer (.readCancelled payload blocking))
      else
        some (self.refuse producer (if blocking then .ECANCELED else .EBADF))
  | .readCancelled payload blocking =>
      if self.cancelRequested then
        some (self.refuse producer .ECANCELED)
      else if !blocking && self.blocks then
        some (self.setPut producer (.readOpened payload true))
      else
        some (self.setPut producer (.enqueuing payload blocking))
  | .enqueuing payload blocking => self.tryPut producer payload blocking weakFailures

/-! ## PollNext -/

def poll (consumer : Consumer) : Option (RingStreamChannel Batch Producer Consumer) :=
  match self.polls consumer with
  | .idle =>
      if self.hasOpenError then
        some (self.record (.error consumer))
      else
        some (self.setPoll consumer (.dequeuing false))
  | _ => none

/-- The answer of a poll. -/
def answer (consumer : Consumer) (entry : LogEntry Batch Producer Consumer) :
    RingStreamChannel Batch Producer Consumer :=
  (self.setPoll consumer .idle).record entry

/-- Nothing was found this time. -/
def pollAgain (consumer : Consumer) (again : Bool) : RingStreamChannel Batch Producer Consumer :=
  if again then self.answer consumer (.timedOut consumer)
  else self.setPoll consumer (.dequeuing true)

/-- The stream is not at its end as far as these flags say. -/
def pollOn (consumer : Consumer) (again cancelled : Bool) :
    RingStreamChannel Batch Producer Consumer :=
  if cancelled then self.setPoll consumer (.readFinished again false)
  else self.pollAgain consumer again

def tryPoll (consumer : Consumer) (again : Bool) (weakFailures : Nat) :
    Option (RingStreamChannel Batch Producer Consumer) :=
  match self.dequeue weakFailures with
  | none => none
  | some (.ok, batch, ring) =>
      match batch with
      | none => none
      | some payload =>
          some ({ self with ring := ring }.answer consumer
            (if payload.isEof then .ended consumer .marker else .delivered consumer payload))
  | some (.ETIMEDOUT, _, ring) =>
      some ({ self with ring := ring }.setPoll consumer (.readCancelled again))
  | some (_, _, ring) => some ({ self with ring := ring }.answer consumer (.error consumer))

def stepPoll (consumer : Consumer) (weakFailures : Nat) :
    Option (RingStreamChannel Batch Producer Consumer) :=
  match self.polls consumer with
  | .idle => none
  | .dequeuing again => self.tryPoll consumer again weakFailures
  | .readCancelled again =>
      some (self.setPoll consumer (.readFinished again self.cancelRequested))
  | .readFinished again cancelled =>
      if self.finished then
        some (self.setPoll consumer (.readSize again cancelled))
      else
        some (self.pollOn consumer again cancelled)
  | .readSize again cancelled =>
      if self.ring.size = 0 then
        some (self.answer consumer
          (.ended consumer (if cancelled then .drainedAfterCancel else .finished)))
      else
        some (self.pollOn consumer again cancelled)

/-! ## Control -/

/-- The waits of `PushEofWithRetry`. -/
def maxWaitMs : Nat := 5000

def open_ : Option (RingStreamChannel Batch Producer Consumer) :=
  match self.control with
  | .idle =>
      if self.hasOpenError then some self
      else some { self with opened := true, control := .openingFinished }
  | _ => none

def close : Option (RingStreamChannel Batch Producer Consumer) :=
  match self.control with
  | .idle => some ({ self with opened := false, control := .closing }.record .ending)
  | _ => none

/-- `call_once`: a second call returns at once. -/
def closeStream : Option (RingStreamChannel Batch Producer Consumer) :=
  match self.control with
  | .idle =>
      if self.closeStreamOnce then
        some (self.record .closed)
      else
        some ({ self with closeStreamOnce := true, control := .pushing 0 }.record .ending)
  | _ => none

def cancel : Option (RingStreamChannel Batch Producer Consumer) :=
  match self.control with
  | .idle =>
      if self.cancelOnce then
        some (self.record .closed)
      else
        some ({ self with
          cancelOnce := true, cancelRequested := true, control := .pushing 0 }.record .ending)
  | _ => none

/-- One attempt to enqueue the end marker. -/
def tryPush (elapsedMs weakFailures : Nat) :
    Option (RingStreamChannel Batch Producer Consumer) :=
  match self.enqueue { isEof := true } weakFailures with
  | none => none
  | some (.ok, ring) => some ({ self with ring := ring, control := .finishing }.record .marker)
  | some (.EAGAIN, ring) =>
      some { self with
        ring := ring
        control := if elapsedMs + 10 ≤ maxWaitMs then .pushing (elapsedMs + 10) else .finishing }
  | some (_, ring) => some { self with ring := ring, control := .finishing }

def stepControl (weakFailures : Nat) :
    Option (RingStreamChannel Batch Producer Consumer) :=
  match self.control with
  | .idle => none
  | .openingFinished =>
      some ({ self with finished := false, control := .openingCancel }.record .opened)
  | .openingCancel => some { self with cancelRequested := false, control := .idle }
  | .closing => some { self with finished := true, control := .idle }
  | .pushing elapsedMs => self.tryPush elapsedMs weakFailures
  | .finishing => some ({ self with finished := true, control := .idle }.record .closed)

/-- One step of one thread. -/
def step : ChannelEvent Batch Producer Consumer →
    Option (RingStreamChannel Batch Producer Consumer)
  | .put producer batch tsMs => self.put producer batch tsMs
  | .stepPut producer weakFailures => self.stepPut producer weakFailures
  | .poll consumer => self.poll consumer
  | .stepPoll consumer weakFailures => self.stepPoll consumer weakFailures
  | .open_ => self.open_
  | .close => self.close
  | .closeStream => self.closeStream
  | .cancel => self.cancel
  | .stepControl weakFailures => self.stepControl weakFailures

end RingStreamChannel

end Flowsql.Stream
