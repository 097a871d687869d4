import Flowsql.Library.GuardedRuns
import Flowsql.Scheduler.ErrorCodes
import Mathlib

/-!
# Stream tasks

The shards of a task step, fail and finish on threads of their own, other threads ask the
task to stop, and the sweepers of the scheduler look at its status. Every atomic operation
on the task is a step of its own.
-/

namespace Flowsql.Scheduler

inductive StreamTaskStatus where
  | created
  | running
  | stopping
  | stopped
  | cancelled
  | failed
  deriving DecidableEq

/-- `IsTerminalStreamTaskStatus` -/
def StreamTaskStatus.IsTerminal (status : StreamTaskStatus) : Prop :=
  status = .stopped ∨ status = .cancelled ∨ status = .failed

instance : DecidablePred StreamTaskStatus.IsTerminal :=
  fun _ => inferInstanceAs (Decidable (_ ∨ _))

structure ErrorInfo where
  code : Int
  message : String
  deriving DecidableEq

/-- What `PollNext` returns; a data event says whether it has a batch. -/
inductive PollEvent where
  | timeout
  | error (err : Int) (errMsg : String)
  | drainedAfterCancel
  | eof
  | data (hasBatch : Bool)
  deriving DecidableEq

/-! ## Shards -/

/-- Where a failure is reported, which says what follows it. -/
inductive FailureSite where
  /-- In `Step`, before `Finalize`. -/
  | step
  /-- `Flush` failed. -/
  | flush
  /-- The input could not be closed. -/
  | close
  deriving DecidableEq

/-- Where the thread stands that runs a shard. -/
inductive ShardPoint where
  /-- Between two calls of `Step`. -/
  | resting
  | polling (handled : Nat)
  | ticking
  | preparing (handled : Nat)
  | processing (handled : Nat)
  | failLoad (failure : ErrorInfo) (site : FailureSite)
  | failCas (failure : ErrorInfo) (site : FailureSite)
  | failStore (site : FailureSite)
  | finalizing
  | flushing
  | closing
  /-- `Step` has returned `kStepDone`. -/
  | marking
  | doneLoad
  | doneCas (prev : UInt32)
  | statusLoad
  | statusLoadAgain
  | statusStore
  /-- The last statements of the last `OnShardDone`. -/
  | notifying
  | finished
  deriving DecidableEq

/-- The shard has not been counted off: it may step, report a failure or finish. -/
def ShardPoint.Active : ShardPoint → Prop
  | .statusLoad => False
  | .statusLoadAgain => False
  | .statusStore => False
  | .notifying => False
  | .finished => False
  | _ => True

instance : DecidablePred ShardPoint.Active
  | .statusLoad => .isFalse id
  | .statusLoadAgain => .isFalse id
  | .statusStore => .isFalse id
  | .notifying => .isFalse id
  | .finished => .isFalse id
  | .resting => .isTrue trivial
  | .polling _ => .isTrue trivial
  | .ticking => .isTrue trivial
  | .preparing _ => .isTrue trivial
  | .processing _ => .isTrue trivial
  | .failLoad .. => .isTrue trivial
  | .failCas .. => .isTrue trivial
  | .failStore _ => .isTrue trivial
  | .finalizing => .isTrue trivial
  | .flushing => .isTrue trivial
  | .closing => .isTrue trivial
  | .marking => .isTrue trivial
  | .doneLoad => .isTrue trivial
  | .doneCas _ => .isTrue trivial

/-- Where a shard goes on after a failure was reported. -/
def FailureSite.next : FailureSite → ShardPoint
  | .step => .finalizing
  | .flush => .closing
  | .close => .marking

structure ShardState where
  point : ShardPoint
  schemaReady : Bool
  finalized : Bool
  deriving DecidableEq

/-- What the input, the operator or a weak exchange gives to the step that asks it. -/
structure ShardAnswer where
  event : PollEvent
  rc : Int
  lastError : String
  spurious : Bool

/-! ## The task -/

structure TaskState (shardCount : UInt32) where
  status : StreamTaskStatus
  error : Option ErrorInfo
  activeShards : UInt32
  shards : Fin shardCount.toNat → ShardState
  /-- Statuses that calls of `RequestStop` have loaded and not exchanged. -/
  stopCallers : List StreamTaskStatus
  /-- A sweeper has found the status terminal. -/
  leasesToRelease : Bool
  leasesReleased : Bool
  erased : Bool
  /-- The failures that were reported, in the order in which they reached `error_`. -/
  reports : List ErrorInfo

namespace TaskState

variable {shardCount : UInt32}

/-- The state after `PrepareForRun`. -/
def prepared (shardCount : UInt32) (schemaReady : Fin shardCount.toNat → Bool) :
    TaskState shardCount :=
  ⟨.running, none, shardCount, fun shard => ⟨.resting, schemaReady shard, false⟩, [], false, false,
    false, []⟩

variable (state : TaskState shardCount) (shard : Fin shardCount.toNat)

def withShard (next : ShardState) : TaskState shardCount :=
  { state with shards := Function.update state.shards shard next }

/-- The shard goes to another point. -/
def goes (point : ShardPoint) : TaskState shardCount :=
  state.withShard shard { state.shards shard with point := point }

def kBatchBudget : Nat := 8

/-- `Step`, up to the next callback. -/
def polled (handled : Nat) : PollEvent → TaskState shardCount
  | .timeout => state.goes shard .ticking
  | .error err errMsg =>
      state.goes shard
        (.failLoad ⟨err, if errMsg = "" then "PollNext failed" else errMsg⟩ .step)
  | .drainedAfterCancel => state.goes shard .finalizing
  | .eof => state.goes shard .finalizing
  | .data hasBatch =>
      if ¬ hasBatch then
        state.goes shard (.failLoad ⟨EINVAL, "PollEvent::kData without RecordBatch"⟩ .step)
      else if (state.shards shard).schemaReady then state.goes shard (.processing handled)
      else state.goes shard (.preparing handled)

/-- The next step of the thread that runs the shard. -/
def shardStep (answer : ShardAnswer) : TaskState shardCount :=
  match (state.shards shard).point with
  | .resting => state.goes shard (.polling 0)
  | .polling handled =>
      if handled < kBatchBudget then state.polled shard handled answer.event
      else state.goes shard .resting
  | .ticking =>
      state.goes shard
        (if answer.rc < 0 then .failLoad ⟨answer.rc, answer.lastError⟩ .step else .resting)
  | .preparing handled =>
      if answer.rc ≠ 0 then
        state.goes shard (.failLoad ⟨answer.rc, "OnSchemaReady failed"⟩ .step)
      else
        state.withShard shard
          { state.shards shard with point := .processing handled, schemaReady := true }
  | .processing handled =>
      state.goes shard
        (if answer.rc = 1 then .finalizing
        else if answer.rc < 0 then .failLoad ⟨answer.rc, answer.lastError⟩ .step
        else .polling (handled + 1))
  | .failLoad failure site =>
      match state.error with
      | none => state.goes shard (.failCas failure site)
      | some _ =>
          { state.goes shard (.failStore site) with reports := state.reports ++ [failure] }
  | .failCas failure site =>
      { state.goes shard (.failStore site) with
        error := state.error.or (some failure)
        reports := state.reports ++ [failure] }
  | .failStore site => { state.goes shard site.next with status := .failed }
  | .finalizing =>
      if (state.shards shard).finalized then state.goes shard .marking
      else state.withShard shard { state.shards shard with point := .flushing, finalized := true }
  | .flushing =>
      state.goes shard
        (if answer.rc ≠ 0 then .failLoad ⟨answer.rc, "Flush failed"⟩ .flush else .closing)
  | .closing =>
      state.goes shard
        (if answer.rc ≠ 0 then .failLoad ⟨answer.rc, "Input close failed"⟩ .close else .marking)
  | .marking => state.goes shard .doneLoad
  | .doneLoad => state.goes shard (.doneCas state.activeShards)
  | .doneCas prev =>
      if prev = 0 then state.goes shard .finished
      else if state.activeShards = prev ∧ ¬ answer.spurious then
        { state.goes shard (if prev - 1 ≠ 0 then .finished else .statusLoad) with
          activeShards := prev - 1 }
      else state.goes shard (.doneCas state.activeShards)
  | .statusLoad =>
      state.goes shard (if state.status ≠ .failed then .statusLoadAgain else .notifying)
  | .statusLoadAgain =>
      state.goes shard (if state.status ≠ .cancelled then .statusStore else .notifying)
  | .statusStore => { state.goes shard .notifying with status := .stopped }
  | .notifying => state.goes shard .finished
  | .finished => state

/-- The loop of `RequestStop` up to its exchange. -/
def stopLoad : TaskState shardCount :=
  if state.status.IsTerminal ∨ state.status = .stopping then state
  else { state with stopCallers := state.status :: state.stopCallers }

/-- The weak exchange of a call that has loaded this status. -/
def stopCas (loaded : StreamTaskStatus) (spurious : Bool) : TaskState shardCount :=
  if loaded ∈ state.stopCallers then
    let called := { state with stopCallers := state.stopCallers.erase loaded }
    if state.status = loaded ∧ ¬ spurious then { called with status := .stopping }
    else called.stopLoad
  else state

/-- A step of a shard or of another thread. -/
inductive TaskEvent (shardCount : UInt32) where
  | shard (shard : Fin shardCount.toNat) (answer : ShardAnswer)
  /-- `RequestStop` is called. -/
  | stopLoad
  | stopCas (loaded : StreamTaskStatus) (spurious : Bool)
  /-- `SweepFinishedTaskLeases` looks at the status. -/
  | sweepLoad
  /-- A sweeper calls `ReleaseStreamTaskLeases`. -/
  | sweepRelease
  /-- `SweepRuntimeRetainedObjects` looks at the status and erases the task. -/
  | sweepErase

def step : TaskEvent shardCount → TaskState shardCount
  | .shard shard answer => state.shardStep shard answer
  | .stopLoad => state.stopLoad
  | .stopCas loaded spurious => state.stopCas loaded spurious
  | .sweepLoad => if state.status.IsTerminal then { state with leasesToRelease := true } else state
  | .sweepRelease => if state.leasesToRelease then { state with leasesReleased := true } else state
  | .sweepErase =>
      if state.status.IsTerminal then { state with erased := true, leasesToRelease := true }
      else state

/-- The state after a run of the task. -/
def run (schemaReady : Fin shardCount.toNat → Bool) (events : List (TaskEvent shardCount)) :
    TaskState shardCount :=
  events.foldl step (prepared shardCount schemaReady)

end TaskState

end Flowsql.Scheduler
