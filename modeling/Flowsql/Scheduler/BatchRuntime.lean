import Flowsql.Library.GuardedRuns
import Flowsql.Scheduler.ErrorCodes
import Mathlib

/-!
# The batch runtime

Submissions wait in a queue of ids until a worker takes them and executes their statements one
after the other. Every section under the lock is a step of its own, and so is every call of the
function that executes a statement; a sweep has two sections.
-/

namespace Flowsql.Scheduler

inductive BatchRuntimeStatus where
  | pending
  | running
  | stopping
  | stopped
  | cancelled
  | completed
  | failed
  | timeout
  deriving DecidableEq, Repr

/-- `IsTerminalBatchRuntimeStatus`. -/
def BatchRuntimeStatus.isTerminal : BatchRuntimeStatus → Bool
  | .stopped | .cancelled | .completed | .failed | .timeout => true
  | .pending | .running | .stopping => false

structure BatchRuntimeSnapshot where
  status : BatchRuntimeStatus := .pending
  errorCode : String := ""
  errorMessage : String := ""
  errorStage : String := ""
  currentSqlIndex : Nat := 0
  sqlCount : Nat
  timeoutS : Int
  resultRowCount : Int := 0
  resultColCount : Int := 0
  resultTarget : String := ""
  createdMs : Int
  startedMs : Int := 0
  lastActiveMs : Int
  finishedMs : Int := 0
  deriving DecidableEq, Repr

/-- A submission, with what became of it. -/
structure BatchRuntimeTask where
  runtimeTaskId : String
  sqls : List String
  timeoutS : Int
  stopRequested : Bool := false
  /-- `control->cancel_requested`. -/
  cancelRequested : Bool := false
  snapshot : BatchRuntimeSnapshot
  /-- The workers that have called `ExecuteTask` with it. -/
  takenBy : List Nat := []
  /-- The statements that were started. -/
  started : List String := []
  /-- A worker has seen the request to stop. -/
  stopSeen : Bool := false
  deriving DecidableEq, Repr

/-- What the execution of a statement returns, as far as it can be parsed. -/
structure ExecuteResponse where
  rc : Int
  /-- `UNAVAILABLE`. -/
  unavailable : Bool := false
  /-- `stopped`, `cancelled`, or else `completed`. -/
  status : BatchRuntimeStatus := .completed
  errorCode : String := ""
  error : String := ""
  errorStage : String := ""
  rows : Int := 0
  cols : Int := 0
  resultTarget : String := ""
  deriving DecidableEq, Repr

/-- Where a worker stands. A submission is the number of its acceptance. -/
inductive WorkerPhase where
  /-- Before the section in which it takes an id. -/
  | waiting
  /-- Before the section of a round, or the one after the last round. -/
  | checking (submission index : Nat)
  /-- The statement is not started yet. -/
  | calling (submission index : Nat)
  | executing (submission index : Nat)
  | returned
  deriving DecidableEq, Repr

structure SchedulerBatchRuntime where
  running : Bool := true
  queue : List String := []
  /-- `tasks_`. -/
  table : AList fun _ : String => Nat := ∅
  workers : List WorkerPhase
  /-- The ids that a sweep is about to remove. -/
  sweeps : List (List String) := []
  /-- All submissions that were accepted. -/
  submissions : List BatchRuntimeTask := []

inductive BatchEvent where
  | submit (runtimeTaskId : String) (sqls : List String) (timeoutS : Int)
  | requestStop (runtimeTaskId : String) (cancel : Bool)
  | stop
  /-- The first section of `SweepFinished`, and what it computes. -/
  | sweep (nowMs retentionS : Int) (maxCount : Nat)
  /-- The last section of a sweep. -/
  | erase (sweep : Nat)
  /-- The next step of a worker, and what its statement returns if it executes one. -/
  | goOn (worker : Nat) (response : ExecuteResponse)
  deriving DecidableEq, Repr

namespace BatchRuntimeTask

/-- The status, with the times of its change. -/
def finish (status : BatchRuntimeStatus) (clock : Int) (task : BatchRuntimeTask) :
    BatchRuntimeTask :=
  { task with
    snapshot := { task.snapshot with
      status := status, finishedMs := clock, lastActiveMs := clock } }

def timedOut (clock : Int) (task : BatchRuntimeTask) : Bool :=
  decide (0 < task.timeoutS) && decide (0 < task.snapshot.startedMs) &&
    decide (task.timeoutS * 1000 ≤ clock - task.snapshot.startedMs)

def failTimeout (clock : Int) (task : BatchRuntimeTask) : BatchRuntimeTask :=
  finish .timeout clock
    { task with
      snapshot := { task.snapshot with
        errorCode := "TIMEOUT", errorStage := "timeout"
        errorMessage := "batch runtime task timeout" } }

/-- The part of `RequestStop` and `Stop` that both have. -/
def askToStop (cancel : Bool) (task : BatchRuntimeTask) : BatchRuntimeTask :=
  { task with stopRequested := true, cancelRequested := task.cancelRequested || cancel }

/-- `RequestStop` for a task. -/
def requestStop (cancel : Bool) (clock : Int) (task : BatchRuntimeTask) : BatchRuntimeTask :=
  let asked := task.askToStop cancel
  if asked.snapshot.status.isTerminal then asked
  else if asked.snapshot.status = .pending then asked.finish .cancelled clock
  else { asked with snapshot := { asked.snapshot with status := .stopping, lastActiveMs := clock } }

/-- `Stop` for a task. -/
def stop (clock : Int) (task : BatchRuntimeTask) : BatchRuntimeTask :=
  let asked := task.askToStop true
  if asked.snapshot.status.isTerminal then asked
  else { asked with snapshot := { asked.snapshot with status := .stopping, lastActiveMs := clock } }

/-- A worker is about to execute the task. -/
def take (worker : Nat) (clock : Int) (task : BatchRuntimeTask) : BatchRuntimeTask :=
  { task with
    takenBy := task.takenBy ++ [worker]
    snapshot := { task.snapshot with
      status := .running, startedMs := clock, lastActiveMs := clock } }

/-- The request to stop is seen. -/
def cancel (clock : Int) (task : BatchRuntimeTask) : BatchRuntimeTask :=
  { task.finish .cancelled clock with stopSeen := true }

/-- A round goes on with its statement. -/
def enterRound (index : Nat) (clock : Int) (task : BatchRuntimeTask) : BatchRuntimeTask :=
  { task with
    snapshot := { task.snapshot with currentSqlIndex := index, lastActiveMs := clock } }

/-- The section after the last round. -/
def conclude (clock : Int) (task : BatchRuntimeTask) : BatchRuntimeTask :=
  let concluded :=
    if task.timedOut clock then task.failTimeout clock
    else if task.stopRequested then task.cancel clock
    else if task.snapshot.status = .stopping then task.finish .stopped clock
    else if task.snapshot.status ≠ .failed ∧ task.snapshot.status ≠ .timeout then
      task.finish .completed clock
    else task
  { concluded with
    snapshot := { concluded.snapshot with
      currentSqlIndex := concluded.snapshot.sqlCount, finishedMs := clock, lastActiveMs := clock } }

/-- A statement has failed. -/
def fail (response : ExecuteResponse) (clock : Int) (task : BatchRuntimeTask) : BatchRuntimeTask :=
  finish (if task.cancelRequested then .cancelled else .failed) clock
    { task with
      snapshot := { task.snapshot with
        resultRowCount := response.rows, resultColCount := response.cols
        resultTarget := response.resultTarget
        errorCode :=
          if response.errorCode ≠ "" then response.errorCode
          else if response.unavailable then "SCHEDULER_UNAVAILABLE" else "EXECUTION_FAILED"
        errorStage :=
          if response.errorStage ≠ "" then response.errorStage
          else if response.unavailable then "dispatch" else "execute"
        errorMessage :=
          if response.error ≠ "" then response.error else "batch SQL execute failed" } }

/-- The results of a statement that has not failed. -/
def noteResult (response : ExecuteResponse) (clock : Int) (task : BatchRuntimeTask) :
    BatchRuntimeTask :=
  { task with
    snapshot := { task.snapshot with
      resultRowCount := response.rows, resultColCount := response.cols
      resultTarget := response.resultTarget, lastActiveMs := clock } }

end BatchRuntimeTask

namespace SchedulerBatchRuntime

open BatchRuntimeTask

def setWorker (worker : Nat) (phase : WorkerPhase) (runtime : SchedulerBatchRuntime) :
    SchedulerBatchRuntime :=
  { runtime with workers := runtime.workers.set worker phase }

def change (submission : Nat) (update : BatchRuntimeTask → BatchRuntimeTask)
    (runtime : SchedulerBatchRuntime) : SchedulerBatchRuntime :=
  { runtime with submissions := runtime.submissions.modify submission update }

/-- The submissions in `tasks_`. -/
def tabled (runtime : SchedulerBatchRuntime) : List BatchRuntimeTask :=
  runtime.table.entries.filterMap fun entry => runtime.submissions[entry.2]?

/-! ## Calls -/

/-- Why `Submit` refuses a submission. -/
def refusal (runtimeTaskId : String) (sqls : List String) (timeoutS : Int)
    (runtime : SchedulerBatchRuntime) : Option (Int × String) :=
  if runtimeTaskId = "" then some (EINVAL, "runtime_task_id is empty")
  else if sqls = [] then some (EINVAL, "batch runtime SQL list is empty")
  else if timeoutS < 0 then some (EINVAL, "timeout_s must be >= 0")
  else if ¬ runtime.running then some (EBUSY, "batch runtime is not running")
  else if (runtime.table.lookup runtimeTaskId).isSome then
    some (EEXIST, "runtime_task_id already exists")
  else none

/-- `Submit`. -/
def submit (runtimeTaskId : String) (sqls : List String) (timeoutS clock : Int)
    (runtime : SchedulerBatchRuntime) : SchedulerBatchRuntime :=
  match runtime.refusal runtimeTaskId sqls timeoutS with
  | some _ => runtime
  | none =>
      { runtime with
        queue := runtime.queue ++ [runtimeTaskId]
        table := runtime.table.insert runtimeTaskId runtime.submissions.length
        submissions := runtime.submissions ++
          [{ runtimeTaskId := runtimeTaskId, sqls := sqls, timeoutS := timeoutS
             snapshot :=
              { sqlCount := sqls.length, timeoutS := timeoutS, createdMs := clock
                lastActiveMs := clock } }] }

/-- `RequestStop`. -/
def requestStop (runtimeTaskId : String) (cancel : Bool) (clock : Int)
    (runtime : SchedulerBatchRuntime) : SchedulerBatchRuntime :=
  match runtime.table.lookup runtimeTaskId with
  | none => runtime
  | some submission => runtime.change submission (·.requestStop cancel clock)

/-- `Stop`, before it waits for the workers. -/
def stop (clock : Int) (runtime : SchedulerBatchRuntime) : SchedulerBatchRuntime :=
  if ¬ runtime.running then runtime
  else
    { runtime with
      running := false
      submissions := runtime.submissions.mapIdx fun submission task =>
        if runtime.table.lookup task.runtimeTaskId = some submission then task.stop clock
        else task }

/-- The ids that `SweepFinished` removes. -/
def removeIds (nowMs retentionS : Int) (maxCount : Nat) (clock : Int)
    (runtime : SchedulerBatchRuntime) : List String :=
  let now := if 0 < nowMs then nowMs else clock
  let terminal := runtime.tabled.filter (·.snapshot.status.isTerminal)
  let retired :=
    if retentionS = 0 then terminal
    else
      terminal.filter fun task =>
        let finished :=
          if 0 < task.snapshot.finishedMs then task.snapshot.finishedMs
          else task.snapshot.lastActiveMs
        decide (0 < finished) && decide (retentionS * 1000 ≤ now - finished)
  let surplus :=
    if 0 < maxCount ∧ maxCount < terminal.length then
      (terminal.mergeSort fun first second =>
        if first.snapshot.lastActiveMs ≠ second.snapshot.lastActiveMs then
          decide (first.snapshot.lastActiveMs < second.snapshot.lastActiveMs)
        else !decide (second.runtimeTaskId < first.runtimeTaskId)).take
          (terminal.length - maxCount)
    else []
  ((retired ++ surplus).map BatchRuntimeTask.runtimeTaskId).dedup

def sweep (nowMs retentionS : Int) (maxCount : Nat) (clock : Int)
    (runtime : SchedulerBatchRuntime) : SchedulerBatchRuntime :=
  { runtime with
    sweeps := runtime.sweeps ++ [runtime.removeIds nowMs retentionS maxCount clock] }

def erase (sweep : Nat) (runtime : SchedulerBatchRuntime) : SchedulerBatchRuntime :=
  { runtime with
    table := (runtime.sweeps.getD sweep []).foldl (fun table id => table.erase id) runtime.table
    sweeps := runtime.sweeps.eraseIdx sweep }

/-! ## Workers -/

/-- The section in which a worker takes an id. It waits while there is none. -/
def takeId (worker : Nat) (clock : Int) (runtime : SchedulerBatchRuntime) :
    SchedulerBatchRuntime :=
  match runtime.queue with
  | [] => if runtime.running then runtime else runtime.setWorker worker .returned
  | id :: rest =>
      let popped := { runtime with queue := rest }
      match runtime.table.lookup id with
      | none => popped
      | some submission =>
          match runtime.submissions[submission]? with
          | none => popped
          | some task =>
              if task.snapshot.status.isTerminal then popped
              else if task.stopRequested then popped.change submission (·.cancel clock)
              else
                (popped.change submission (·.take worker clock)).setWorker worker
                  (.checking submission 0)

/-- The section before a statement, or after the last one. -/
def checkRound (worker submission index : Nat) (clock : Int) (runtime : SchedulerBatchRuntime) :
    SchedulerBatchRuntime :=
  match runtime.submissions[submission]? with
  | none => runtime
  | some task =>
      if index < task.sqls.length then
        if task.stopRequested then
          (runtime.change submission (·.cancel clock)).setWorker worker .waiting
        else if task.timedOut clock then
          (runtime.change submission (·.failTimeout clock)).setWorker worker .waiting
        else
          (runtime.change submission (·.enterRound index clock)).setWorker worker
            (.calling submission index)
      else (runtime.change submission (·.conclude clock)).setWorker worker .waiting

/-- The statement is started. -/
def callSql (worker submission index : Nat) (runtime : SchedulerBatchRuntime) :
    SchedulerBatchRuntime :=
  (runtime.change submission fun task =>
    { task with started := task.started ++ task.sqls[index]?.toList }).setWorker worker
      (.executing submission index)

/-- The section after a statement. -/
def endRound (worker submission index : Nat) (response : ExecuteResponse) (clock : Int)
    (runtime : SchedulerBatchRuntime) : SchedulerBatchRuntime :=
  match runtime.submissions[submission]? with
  | none => runtime
  | some task =>
      if response.rc ≠ 0 then
        (runtime.change submission (·.fail response clock)).setWorker worker .waiting
      else
        let noted := runtime.change submission (·.noteResult response clock)
        if task.timedOut clock then
          (noted.change submission (·.failTimeout clock)).setWorker worker .waiting
        else if response.status = .stopped ∨ response.status = .cancelled then
          (noted.change submission (·.finish response.status clock)).setWorker worker .waiting
        else noted.setWorker worker (.checking submission (index + 1))

def goOn (worker : Nat) (response : ExecuteResponse) (clock : Int)
    (runtime : SchedulerBatchRuntime) : SchedulerBatchRuntime :=
  match runtime.workers[worker]? with
  | some .waiting => runtime.takeId worker clock
  | some (.checking submission index) => runtime.checkRound worker submission index clock
  | some (.calling submission index) => runtime.callSql worker submission index
  | some (.executing submission index) =>
      runtime.endRound worker submission index response clock
  | _ => runtime

/-- An event at a time of `CurrentTimeMs`. -/
def step (runtime : SchedulerBatchRuntime) : BatchEvent × Int → SchedulerBatchRuntime
  | (.submit runtimeTaskId sqls timeoutS, clock) =>
      runtime.submit runtimeTaskId sqls timeoutS clock
  | (.requestStop runtimeTaskId cancel, clock) => runtime.requestStop runtimeTaskId cancel clock
  | (.stop, clock) => runtime.stop clock
  | (.sweep nowMs retentionS maxCount, clock) => runtime.sweep nowMs retentionS maxCount clock
  | (.erase sweep, _) => runtime.erase sweep
  | (.goOn worker response, clock) => runtime.goOn worker response clock

/-- The runtime that `Start` has started. -/
def start (workerCount : Nat) : SchedulerBatchRuntime :=
  { workers := List.replicate (if workerCount = 0 then 1 else workerCount) .waiting }

def run (runtime : SchedulerBatchRuntime) (events : List (BatchEvent × Int)) :
    SchedulerBatchRuntime :=
  events.foldl step runtime

end SchedulerBatchRuntime

end Flowsql.Scheduler
