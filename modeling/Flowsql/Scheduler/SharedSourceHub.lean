import Flowsql.Scheduler.StreamTaskGroup
import Mathlib

/-!
# The shared source hub

One thread reads a source and puts every batch into the rings of the subscribers, which join
and leave meanwhile. Each poll, each look at a ring, each `Put` and each section under the lock
is a step of its own, and so are the parts of `RemoveSubscriber`.
-/

namespace Flowsql.Scheduler

inductive SharedHubMode where
  | dynamic
  | fixed
  deriving DecidableEq, Repr

inductive SharedHubStatus where
  | created
  | running
  | stopping
  | stopped
  | cancelled
  | failed
  deriving DecidableEq, Repr

/-- `IsTerminalSharedHubStatus`. -/
def SharedHubStatus.isTerminal (status : SharedHubStatus) : Bool :=
  status == .stopped || status == .cancelled || status == .failed

/-- A batch of the source, with the number of its rows. -/
structure SourceBatch (α : Type) where
  data : α
  rows : UInt64
  deriving DecidableEq, Repr

/-! ## Inputs -/

/-- `RingStreamChannel` over a ring of more than one slot, which is a queue. The end of the
stream is an item without a batch. -/
structure RingInput (α : Type) where
  capacity : Nat
  queue : List (Option (SourceBatch α)) := []
  opened : Bool := true
  finished : Bool := false
  cancelRequested : Bool := false
  streamClosed : Bool := false
  deriving DecidableEq, Repr

namespace RingInput

variable {α : Type}

def isFull (input : RingInput α) : Bool := decide (input.capacity ≤ input.queue.length)

/-- `Put` of a batch. A ring that drops does not block. -/
def put (batch : SourceBatch α) (input : RingInput α) : Int × RingInput α :=
  if ¬ input.opened then (EBADF, input)
  else if input.cancelRequested then (ECANCELED, input)
  else if input.isFull then (EAGAIN, input)
  else (0, { input with queue := input.queue ++ [some batch] })

/-- `CloseStream`. The end of the stream is not put into a ring that stays full. -/
def closeStream (input : RingInput α) : RingInput α :=
  if input.streamClosed then input
  else
    { input with
      queue := if input.isFull then input.queue else input.queue ++ [none]
      finished := true
      streamClosed := true }

/-- `Close`. -/
def close (input : RingInput α) : RingInput α := { input with opened := false, finished := true }

end RingInput

/-! ## Counters -/

/-- What was delivered and dropped, in batches and in rows. -/
structure DeliveryCounters where
  deliveredBatches : UInt64 := 0
  deliveredRows : UInt64 := 0
  droppedBatches : UInt64 := 0
  droppedRows : UInt64 := 0
  deriving DecidableEq, Repr

namespace DeliveryCounters

def deliver (rows : UInt64) (counters : DeliveryCounters) : DeliveryCounters :=
  { counters with
    deliveredBatches := counters.deliveredBatches + 1
    deliveredRows := counters.deliveredRows + rows }

/-- As many drops as subscribers were left out. -/
def drop (times : Nat) (rows : UInt64) (counters : DeliveryCounters) : DeliveryCounters :=
  { counters with
    droppedBatches := counters.droppedBatches + UInt64.ofNat times
    droppedRows := counters.droppedRows + rows * UInt64.ofNat times }

end DeliveryCounters

/-! ## The hub -/

/-- `SubscriberState`. A subscriber id is the number in its name. -/
structure SubscriberState where
  id : Nat
  active : Bool := true
  ready : Bool
  counters : DeliveryCounters := {}
  deriving DecidableEq, Repr

/-- What is left of a call of `RemoveSubscriber`. -/
inductive RemovalAction where
  | closeStream
  | close
  | requestStop
  deriving DecidableEq, Repr

/-- A thread in `RemoveSubscriber`, after it has erased the subscriber. -/
structure Removal where
  subscriber : Nat
  becameEmpty : Bool
  left : List RemovalAction
  deriving DecidableEq, Repr

/-- A batch, and the subscribers that the run loop has found. -/
structure Dispatch (α : Type) where
  batch : SourceBatch α
  targets : List Nat
  deriving DecidableEq, Repr

/-- Where the run loop stands. -/
inductive RunPhase (α : Type) where
  | notStarted
  | opening
  /-- Before the look at `stop_requested_`. -/
  | looping
  | polling
  | polled (batch : SourceBatch α)
  /-- Whether the rings of these targets are full. -/
  | checking (dispatch : Dispatch α) (left : List Nat)
  /-- Before the drop for all targets is counted. -/
  | refusing (dispatch : Dispatch α)
  /-- Each of these targets still gets the batch. -/
  | puttingAll (dispatch : Dispatch α) (left : List Nat)
  /-- Each of these targets gets the batch if it has room; the first one was seen to. -/
  | offering (dispatch : Dispatch α) (left : List Nat) (room : Bool) (delivered dropped : List Nat)
  /-- The inputs that have to be closed. -/
  | closing (left : List Nat)
  | returned
  deriving DecidableEq, Repr

/-- What happens to the batches, beside the hub. -/
structure HubRecord (α : Type) where
  /-- The batches for which targets were looked up. -/
  taken : List (SourceBatch α) := []
  /-- How many batches had been taken when a subscriber joined. -/
  joinedAt : Nat → Nat := fun _ => 0
  /-- The batches that a subscriber was a target of, and whether it got them. -/
  offered : Nat → List (SourceBatch α × Bool) := fun _ => []
  /-- The batches that a subscriber has read. -/
  received : Nat → List (SourceBatch α) := fun _ => []
  /-- `RequestStop` was called by others. -/
  stopAsked : Bool := false

structure SharedSourceHub (α : Type) where
  mode : SharedHubMode
  coordinatedDrop : Bool
  status : SharedHubStatus := .created
  stopRequested : Bool := false
  cancelRequested : Bool := false
  subscriberSeq : Nat := 0
  subscribers : List SubscriberState := []
  inputBatches : UInt64 := 0
  inputRows : UInt64 := 0
  /-- `delivered_batches_`, `dropped_batches_shared_` and their rows. -/
  counters : DeliveryCounters := {}
  errorCode : Int := 0
  errorMessage : String := ""
  inputs : Nat → RingInput α := fun _ => { capacity := 0 }
  phase : RunPhase α := .notStarted
  removals : List Removal := []
  record : HubRecord α := {}

/-- What `PollNext` of the source returns. -/
inductive SourceEvent (α : Type) where
  | timeout
  | eof
  | drainedAfterCancel
  | error (err : Int) (errMsg : String)
  | data (batch : Option (SourceBatch α))
  deriving DecidableEq, Repr

inductive HubEvent (α : Type) where
  /-- The capacity is that of the input that is given or built, none if it is not built. -/
  | addSubscriber (runtimeTaskId : String) (ready : Bool) (maxSubscribers : Nat)
      (capacity : Option Nat)
  | markSubscriberReady (subscriberId : Nat)
  | start
  | requestStop (cancelled : Bool)
  | removeSubscriber (subscriberId : Nat) (closeStream : Bool)
  /-- The next part of the removal of this subscriber. -/
  | goOnRemoving (subscriberId : Nat)
  /-- A consumer takes an item from its ring. -/
  | consume (subscriberId : Nat)
  /-- The source is open, or `Open` has returned this code. -/
  | sourceOpened (code : Int)
  | lookAtStop
  | poll (event : SourceEvent α)
  /-- The subscribers are walked through in this order. -/
  | findTargets (order : List Nat)
  /-- The next step of the dispatch, or of the closing of inputs. -/
  | goOn
  deriving DecidableEq, Repr

namespace SharedSourceHub

variable {α : Type}

/-- `started_`, which is set with the start of the thread. -/
def started (hub : SharedSourceHub α) : Bool :=
  match hub.phase with
  | .notStarted => false
  | _ => true

def coordinated (hub : SharedSourceHub α) : Bool := hub.coordinatedDrop || hub.mode == .fixed

/-- `AllFixedSubscribersReadyLocked`. -/
def allFixedSubscribersReady (hub : SharedSourceHub α) : Bool :=
  hub.mode != .fixed ||
    !hub.subscribers.isEmpty &&
      hub.subscribers.all fun subscriber => !subscriber.active || subscriber.ready

/-- `MarkFailedLocked`. -/
def markFailed (code : Int) (message : String) (hub : SharedSourceHub α) : SharedSourceHub α :=
  { hub with status := .failed, errorCode := code, errorMessage := message }

def setInput (id : Nat) (input : RingInput α) (hub : SharedSourceHub α) : SharedSourceHub α :=
  { hub with inputs := Function.update hub.inputs id input }

/-- What becomes of a batch for these targets. -/
def noteOffer (targets : List Nat) (batch : SourceBatch α) (got : Bool) (hub : SharedSourceHub α) :
    SharedSourceHub α :=
  { hub with
    record := { hub.record with
      offered := fun id =>
        if id ∈ targets then hub.record.offered id ++ [(batch, got)] else hub.record.offered id } }

/-! ## Calls -/

/-- Why `AddSubscriber` refuses a subscriber, with a code and a message. -/
def refusal (runtimeTaskId : String) (maxSubscribers : Nat) (hub : SharedSourceHub α) :
    Option (Int × String) :=
  if runtimeTaskId = "" then some (EINVAL, "runtime_task_id is empty")
  else if hub.mode = .fixed ∧ hub.started then
    some (EBUSY, "fixed shared hub does not allow late join")
  else if hub.status.isTerminal then some (EBUSY, "shared hub is terminal")
  else if 0 < maxSubscribers ∧ maxSubscribers ≤ hub.subscribers.length then
    some (EBUSY, "shared source subscribers exceeded max_subscribers_per_hub")
  else none

/-- The section of `AddSubscriber` under the lock. `Start` is a call of its own. -/
def addSubscriber (runtimeTaskId : String) (ready : Bool) (maxSubscribers : Nat)
    (capacity : Option Nat) (hub : SharedSourceHub α) : SharedSourceHub α :=
  match hub.refusal runtimeTaskId maxSubscribers with
  | some _ => hub
  | none =>
      let id := hub.subscriberSeq + 1
      match capacity with
      | none => { hub with subscriberSeq := id }
      | some capacity =>
          { hub with
            subscriberSeq := id
            subscribers := hub.subscribers ++ [{ id := id, ready := ready }]
            inputs := Function.update hub.inputs id { capacity := capacity }
            record := { hub.record with
              joinedAt := Function.update hub.record.joinedAt id hub.record.taken.length } }

/-- `MarkSubscriberReady`. -/
def markSubscriberReady (id : Nat) (hub : SharedSourceHub α) : SharedSourceHub α :=
  { hub with
    subscribers := hub.subscribers.map fun subscriber =>
      if subscriber.id = id then { subscriber with ready := true } else subscriber }

/-- `Start`, for a hub with a source. -/
def start (hub : SharedSourceHub α) : SharedSourceHub α :=
  if hub.started then hub
  else if hub.subscribers.isEmpty then hub
  else if ¬ hub.allFixedSubscribersReady then hub
  else { hub with status := .running, phase := .opening }

/-- `RequestStop`. -/
def requestStop (cancelled : Bool) (hub : SharedSourceHub α) : SharedSourceHub α :=
  { hub with stopRequested := true, cancelRequested := hub.cancelRequested || cancelled }

/-- The section of `RemoveSubscriber` under the lock. -/
def removeSubscriber (id : Nat) (closeStream : Bool) (hub : SharedSourceHub α) :
    SharedSourceHub α :=
  if hub.subscribers.all (·.id ≠ id) then hub
  else
    let remaining := hub.subscribers.filter (·.id ≠ id)
    { hub with
      subscribers := remaining
      removals := hub.removals ++
        [{ subscriber := id
           becameEmpty := remaining.isEmpty
           left := (if closeStream then [.closeStream, .close] else []) ++
            if remaining.isEmpty then [.requestStop] else [] }] }

/-- One part of `RemoveSubscriber` after that section. -/
def removalAction (id : Nat) (hub : SharedSourceHub α) : RemovalAction → SharedSourceHub α
  | .closeStream => hub.setInput id (hub.inputs id).closeStream
  | .close => hub.setInput id (hub.inputs id).close
  | .requestStop => hub.requestStop false

def goOnRemoving (id : Nat) (hub : SharedSourceHub α) : SharedSourceHub α :=
  match hub.removals.find? (·.subscriber = id) with
  | some ⟨_, _, action :: _⟩ =>
      { hub.removalAction id action with
        removals := hub.removals.map fun removal =>
          if removal.subscriber = id then { removal with left := removal.left.tail } else removal }
  | _ => hub

/-- A consumer takes the first item of its ring. -/
def consume (id : Nat) (hub : SharedSourceHub α) : SharedSourceHub α :=
  match (hub.inputs id).queue with
  | [] => hub
  | item :: rest =>
      { hub.setInput id { hub.inputs id with queue := rest } with
        record := { hub.record with
          received := Function.update hub.record.received id
            (hub.record.received id ++ item.toList) } }

/-! ## The run loop -/

/-- The hub ends, and the inputs of its subscribers are closed. -/
def finish (status : SharedHubStatus) (hub : SharedSourceHub α) : SharedSourceHub α :=
  { hub with status := status, phase := .closing (hub.subscribers.map SubscriberState.id) }

def sourceOpened (code : Int) (hub : SharedSourceHub α) : SharedSourceHub α :=
  match hub.phase with
  | .opening =>
      if code ≠ 0 then
        { hub.markFailed code "shared source open failed" with phase := .returned }
      else { hub with phase := .looping }
  | _ => hub

def lookAtStop (hub : SharedSourceHub α) : SharedSourceHub α :=
  match hub.phase with
  | .looping =>
      if hub.stopRequested then
        hub.finish (if hub.cancelRequested then .cancelled else .stopped)
      else { hub with phase := .polling }
  | _ => hub

def poll (event : SourceEvent α) (hub : SharedSourceHub α) : SharedSourceHub α :=
  match hub.phase with
  | .polling =>
      match event with
      | .timeout => { hub with phase := .looping }
      | .eof | .drainedAfterCancel => hub.finish .stopped
      | .error err errMsg =>
          (hub.markFailed (if err ≠ 0 then err else EIO)
            (if errMsg = "" then "shared source poll error" else errMsg)).finish .failed
      | .data none => { hub with phase := .looping }
      | .data (some batch) => { hub with phase := .polled batch }
  | _ => hub

/-- The section in which the batch is counted and its targets are found. -/
def findTargets (order : List Nat) (hub : SharedSourceHub α) : SharedSourceHub α :=
  match hub.phase with
  | .polled batch =>
      if order.Perm ((hub.subscribers.filter SubscriberState.active).map SubscriberState.id) then
        { hub with
          inputBatches := hub.inputBatches + 1
          inputRows := hub.inputRows + batch.rows
          record := { hub.record with taken := hub.record.taken ++ [batch] }
          phase :=
            if order = [] then .looping
            else if hub.coordinated then .checking ⟨batch, order⟩ order
            else .offering ⟨batch, order⟩ order false [] [] }
      else hub
  | _ => hub

/-- `Put` has failed. -/
def dispatchFailed (code : Int) (targets : List Nat) (hub : SharedSourceHub α) :
    SharedSourceHub α :=
  { hub.markFailed code "shared source dispatch failed" with phase := .closing targets }

/-- The counters of the subscribers that are still there. -/
def countEach (change : SubscriberState → DeliveryCounters → DeliveryCounters)
    (hub : SharedSourceHub α) : SharedSourceHub α :=
  { hub with
    subscribers := hub.subscribers.map fun subscriber =>
      { subscriber with counters := change subscriber subscriber.counters } }

/-- One look at a ring, when all targets have to have room. -/
def check (dispatch : Dispatch α) (id : Nat) (left : List Nat) (hub : SharedSourceHub α) :
    SharedSourceHub α :=
  if (hub.inputs id).isFull then
    { hub.noteOffer dispatch.targets dispatch.batch false with
      phase := .refusing dispatch }
  else { hub with phase := .checking dispatch left }

/-- The drop of a batch for all subscribers. -/
def countRefused (dispatch : Dispatch α) (hub : SharedSourceHub α) : SharedSourceHub α :=
  { hub.countEach fun subscriber counters =>
      if subscriber.active then counters.drop 1 dispatch.batch.rows else counters with
    counters := hub.counters.drop 1 dispatch.batch.rows
    phase := .looping }

/-- The delivery of a batch to all subscribers. -/
def countDelivered (dispatch : Dispatch α) (hub : SharedSourceHub α) : SharedSourceHub α :=
  { hub.countEach fun subscriber counters =>
      if subscriber.active then counters.deliver dispatch.batch.rows else counters with
    counters := hub.counters.deliver dispatch.batch.rows
    phase := .looping }

/-- One `Put`, when all targets get the batch. -/
def putForAll (dispatch : Dispatch α) (id : Nat) (left : List Nat) (hub : SharedSourceHub α) :
    SharedSourceHub α :=
  let (code, input) := (hub.inputs id).put dispatch.batch
  if code ≠ 0 then hub.dispatchFailed code dispatch.targets
  else
    { (hub.setInput id input).noteOffer [id] dispatch.batch true with
      phase := .puttingAll dispatch left }

/-- One look at a ring, when every target is served on its own. -/
def look (dispatch : Dispatch α) (id : Nat) (left delivered dropped : List Nat)
    (hub : SharedSourceHub α) : SharedSourceHub α :=
  if (hub.inputs id).isFull then
    { hub.noteOffer [id] dispatch.batch false with
      phase := .offering dispatch left false delivered (dropped ++ [id]) }
  else { hub with phase := .offering dispatch (id :: left) true delivered dropped }

/-- One `Put`, when every target is served on its own. -/
def putForOne (dispatch : Dispatch α) (id : Nat) (left delivered dropped : List Nat)
    (hub : SharedSourceHub α) : SharedSourceHub α :=
  let (code, input) := (hub.inputs id).put dispatch.batch
  if code = EAGAIN then
    { hub.noteOffer [id] dispatch.batch false with
      phase := .offering dispatch left false delivered (dropped ++ [id]) }
  else if code ≠ 0 then hub.dispatchFailed code dispatch.targets
  else
    { (hub.setInput id input).noteOffer [id] dispatch.batch true with
      phase := .offering dispatch left false (delivered ++ [id]) dropped }

/-- What each target got, when every target is served on its own. -/
def countOffered (dispatch : Dispatch α) (delivered dropped : List Nat)
    (hub : SharedSourceHub α) : SharedSourceHub α :=
  let rows := dispatch.batch.rows
  let shared := if dropped = [] then hub.counters else hub.counters.drop dropped.length rows
  { hub.countEach fun subscriber counters =>
      let counters := if subscriber.id ∈ dropped then counters.drop 1 rows else counters
      if subscriber.id ∈ delivered then counters.deliver rows else counters with
    counters := if delivered = [] then shared else shared.deliver rows
    phase := .looping }

def goOn (hub : SharedSourceHub α) : SharedSourceHub α :=
  match hub.phase with
  | .checking dispatch [] => { hub with phase := .puttingAll dispatch dispatch.targets }
  | .checking dispatch (id :: left) => hub.check dispatch id left
  | .refusing dispatch => hub.countRefused dispatch
  | .puttingAll dispatch [] => hub.countDelivered dispatch
  | .puttingAll dispatch (id :: left) => hub.putForAll dispatch id left
  | .offering dispatch [] _ delivered dropped => hub.countOffered dispatch delivered dropped
  | .offering dispatch (id :: left) false delivered dropped =>
      hub.look dispatch id left delivered dropped
  | .offering dispatch (id :: left) true delivered dropped =>
      hub.putForOne dispatch id left delivered dropped
  | .closing [] => { hub with phase := .returned }
  | .closing (id :: left) =>
      { hub.setInput id (hub.inputs id).closeStream with phase := .closing left }
  | _ => hub

def step (hub : SharedSourceHub α) : HubEvent α → SharedSourceHub α
  | .addSubscriber runtimeTaskId ready maxSubscribers capacity =>
      hub.addSubscriber runtimeTaskId ready maxSubscribers capacity
  | .markSubscriberReady id => hub.markSubscriberReady id
  | .start => hub.start
  | .requestStop cancelled =>
      { hub.requestStop cancelled with record := { hub.record with stopAsked := true } }
  | .removeSubscriber id closeStream => hub.removeSubscriber id closeStream
  | .goOnRemoving id => hub.goOnRemoving id
  | .consume id => hub.consume id
  | .sourceOpened code => hub.sourceOpened code
  | .lookAtStop => hub.lookAtStop
  | .poll event => hub.poll event
  | .findTargets order => hub.findTargets order
  | .goOn => hub.goOn

/-- A hub before its first call. -/
def created (mode : SharedHubMode) (coordinatedDrop : Bool) : SharedSourceHub α :=
  { mode := mode, coordinatedDrop := coordinatedDrop }

def run (hub : SharedSourceHub α) (events : List (HubEvent α)) : SharedSourceHub α :=
  events.foldl step hub

end SharedSourceHub

end Flowsql.Scheduler
