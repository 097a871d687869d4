import Flowsql.Library.Transitions
import Mathlib

/-!
# The task store

Tasks, their status events and the rows that depend on them, in one SQLite database. An operation
runs a few statements, under a lock, and any of them may fail; each operation is given what becomes
of its statements. Times are whole seconds, as `CURRENT_TIMESTAMP` counts them.
-/

namespace Flowsql.Task

/-- `TaskStatus`. -/
inductive TaskStatus where
  | pending
  | running
  | completed
  | failed
  | cancelled
  | timeout
  | stopped
  deriving DecidableEq, Repr

namespace TaskStatus

/-- `IsTerminal`. -/
def isTerminal : TaskStatus → Bool
  | .completed | .failed | .stopped | .cancelled | .timeout => true
  | .pending | .running => false

end TaskStatus

/-- A row of `tasks`. -/
structure TaskRow where
  taskId : String
  requestSql : String
  currentSqlIndex : Int := 0
  timeoutS : Int
  cancelRequested : Bool := false
  taskKind : String
  runtimeTaskId : String
  status : TaskStatus := .pending
  errorCode : String := ""
  errorMessage : String := ""
  errorStage : String := ""
  resultRowCount : Int := 0
  resultColCount : Int := 0
  resultTarget : String := ""
  createdAt : Int
  startedAt : Option Int := none
  updatedAt : Int
  finishedAt : Option Int := none
  deriving DecidableEq

/-- A row of `task_sql_payloads`. -/
structure SqlPayload where
  taskId : String
  rawSqlText : String
  sqlsJson : String
  sqlCount : Int
  deriving DecidableEq

/-- A row of `task_events`. -/
structure TaskEvent where
  taskId : String
  fromStatus : Option TaskStatus
  toStatus : TaskStatus
  message : String
  deriving DecidableEq

/-- A row of `task_diagnostics`. -/
structure TaskDiagnostic where
  taskId : String
  sqlIndex : Int
  sqlText : String
  deriving DecidableEq

/-- A row of `task_result_summaries`. -/
structure ResultSummary where
  taskId : String
  resultJson : String
  deriving DecidableEq

structure Tables where
  tasks : List TaskRow := []
  payloads : List SqlPayload := []
  events : List TaskEvent := []
  diagnostics : List TaskDiagnostic := []
  summaries : List ResultSummary := []
  deriving DecidableEq

namespace Tables

def task? (self : Tables) (taskId : String) : Option TaskRow :=
  self.tasks.find? (·.taskId = taskId)

/-- `UPDATE tasks SET ... WHERE ...`. -/
def updateTasks (self : Tables) (selects : TaskRow → Bool) (change : TaskRow → TaskRow) : Tables :=
  { self with tasks := self.tasks.map fun row => if selects row then change row else row }

end Tables

/-- An open store. A transaction that could not be ended is still open. -/
structure TaskStore where
  tables : Tables := {}
  /-- The tables before the transaction that is still open. -/
  begun : Option Tables := none
  foreignKeys : Bool := true
  retentionDays : Int := 0
  retentionMaxCount : Int := 0
  deriving DecidableEq

/-- Which statements of a transaction succeed, besides those of its body. -/
structure TransactionOutcome where
  begins : Bool := true
  commits : Bool := true
  rollsBack : Bool := true
  deriving DecidableEq

namespace TaskStore

/-- `ROLLBACK`, whose failure nobody looks at. -/
def rollback (self : TaskStore) (before : Tables) (outcome : TransactionOutcome) : TaskStore :=
  if outcome.rollsBack then { self with tables := before } else { self with begun := some before }

/-- `BEGIN IMMEDIATE TRANSACTION`, the statements of the body until one fails, and `COMMIT`. -/
def inTransaction (self : TaskStore) (outcome : TransactionOutcome)
    (body : Tables → Bool × Tables) : Int × TaskStore :=
  if !outcome.begins || self.begun.isSome then
    (-1, self)
  else
    let (ok, tables) := body self.tables
    let staged := { self with tables := tables }
    if !ok then
      (-1, staged.rollback self.tables outcome)
    else if outcome.commits then
      (0, staged)
    else
      (-1, staged.rollback self.tables outcome)

/-! ## Creating tasks -/

/-- `TaskCreateParams`. -/
structure CreateParams where
  taskId : String
  requestSql : String
  rawSqlText : String
  sqlsJson : String
  sqlCount : Int := 1
  timeoutS : Int := 0
  taskKind : String := "batch"
  runtimeTaskId : String := ""
  deriving DecidableEq

structure CreateOutcome extends TransactionOutcome where
  insertsTask : Bool := true
  insertsPayload : Bool := true
  deriving DecidableEq

def insertTask (params : CreateParams) (now : Int) (outcome : CreateOutcome) (tables : Tables) :
    Bool × Tables :=
  -- `task_id` is the primary key of both tables
  if !outcome.insertsTask || (tables.task? params.taskId).isSome then
    (false, tables)
  else
    let tables :=
      { tables with
        tasks := tables.tasks ++
          [{ taskId := params.taskId
             requestSql := params.requestSql
             timeoutS := if 0 < params.timeoutS then params.timeoutS else 0
             taskKind := params.taskKind
             runtimeTaskId := params.runtimeTaskId
             createdAt := now
             updatedAt := now }] }
    if !outcome.insertsPayload || tables.payloads.any (·.taskId = params.taskId) then
      (false, tables)
    else
      (true,
        { tables with
          payloads := tables.payloads ++
            [⟨params.taskId, params.rawSqlText, params.sqlsJson, params.sqlCount⟩] })

def createTask (self : TaskStore) (params : CreateParams) (now : Int) (outcome : CreateOutcome) :
    Int × TaskStore :=
  if params.taskId.isEmpty || params.requestSql.isEmpty || params.rawSqlText.isEmpty ||
      params.sqlsJson.isEmpty || decide (params.sqlCount ≤ 0) then
    (-1, self)
  else
    self.inTransaction outcome.toTransactionOutcome (insertTask params now outcome)

/-! ## Status -/

/-- `WriteTaskEventNoLock`, which does not look at the result of the insertion. -/
def writeTaskEventNoLock (self : TaskStore) (taskId : String) (fromStatus toStatus : TaskStatus)
    (message : String) (inserts : Bool) : TaskStore :=
  if inserts && !taskId.isEmpty then
    { self with
      tables := { self.tables with
        events := self.tables.events ++ [⟨taskId, some fromStatus, toStatus, message⟩] } }
  else
    self

/-- `TaskStatusUpdate`. -/
structure StatusUpdate where
  taskId : String
  newStatus : TaskStatus := .pending
  errorCode : String := ""
  errorMessage : String := ""
  errorStage : String := ""
  resultRowCount : Int := 0
  resultColCount : Int := 0
  resultTarget : String := ""
  deriving DecidableEq

structure UpdateOutcome where
  selects : Bool := true
  updates : Bool := true
  inserts : Bool := true
  deriving DecidableEq

/-- The columns that an update of the status sets. -/
def StatusUpdate.apply (update : StatusUpdate) (now : Int) (row : TaskRow) : TaskRow :=
  { row with
    status := update.newStatus
    errorCode := update.errorCode
    errorMessage := update.errorMessage
    errorStage := update.errorStage
    resultRowCount := update.resultRowCount
    resultColCount := update.resultColCount
    resultTarget := update.resultTarget
    updatedAt := now
    cancelRequested := if update.newStatus.isTerminal then false else row.cancelRequested
    startedAt := if update.newStatus = .running ∧ row.startedAt = none then some now
      else row.startedAt
    finishedAt := if update.newStatus.isTerminal then some now else row.finishedAt }

def updateStatus (self : TaskStore) (update : StatusUpdate) (now : Int) (outcome : UpdateOutcome) :
    Int × TaskStore :=
  if update.taskId.isEmpty || !outcome.selects then
    (-1, self)
  else
    match self.tables.task? update.taskId with
    | none => (-1, self)
    | some current =>
        if current.status.isTerminal then
          (1, self)
        else if !outcome.updates then
          (-1, self)
        else
          let updated :=
            { self with
              tables := self.tables.updateTasks
                (fun row => decide (row.taskId = update.taskId) && !row.status.isTerminal)
                (update.apply now) }
          (0, updated.writeTaskEventNoLock update.taskId current.status update.newStatus
            update.errorCode outcome.inserts)

def requestCancelRunningTask (self : TaskStore) (taskId : String) (now : Int) (updates : Bool) :
    Int × TaskStore :=
  if taskId.isEmpty || !updates then
    (-1, self)
  else
    let selects (row : TaskRow) := decide (row.taskId = taskId) && decide (row.status = .running)
    (if self.tables.tasks.any selects then 0 else 1,
      { self with
        tables := self.tables.updateTasks selects fun row =>
          { row with cancelRequested := true, updatedAt := now } })

def updateRuntimeTaskId (self : TaskStore) (taskId runtimeTaskId : String) (now : Int)
    (updates : Bool) : Int × TaskStore :=
  if taskId.isEmpty || !updates then
    (-1, self)
  else
    let selects (row : TaskRow) := decide (row.taskId = taskId)
    (if self.tables.tasks.any selects then 0 else -1,
      { self with
        tables := self.tables.updateTasks selects fun row =>
          { row with runtimeTaskId := runtimeTaskId, updatedAt := now } })

/-! ## Restart -/

/-- What becomes of the statements of `CleanupOrphans`: how many rows the selection returns before
it fails or ends, whether the update succeeds, and the insertion of each event. -/
structure OrphanOutcome where
  selected : Nat
  updates : Bool := true
  inserts : List Bool := []
  deriving DecidableEq

/-- The columns that the recovery sets. -/
def interrupt (now : Int) (row : TaskRow) : TaskRow :=
  { row with
    status := .failed
    errorCode := "PROCESS_RESTART"
    errorMessage := "task interrupted by process restart"
    errorStage := "bootstrap"
    updatedAt := now
    finishedAt := some now }

/-- The events of the recovery, one for each task that was selected. -/
def writeOrphanEvents : List TaskRow → List Bool → TaskStore → TaskStore
  | [], _, self => self
  | orphan :: rest, inserts, self =>
      writeOrphanEvents rest inserts.tail
        (self.writeTaskEventNoLock orphan.taskId orphan.status .failed "PROCESS_RESTART"
          (inserts.headD true))

def cleanupOrphans (self : TaskStore) (now : Int) (outcome : OrphanOutcome) : Int × TaskStore :=
  let orphans := (self.tables.tasks.filter fun row => !row.status.isTerminal).take outcome.selected
  if orphans.isEmpty then
    (0, self)
  else if !outcome.updates then
    (-1, self)
  else
    (0, writeOrphanEvents orphans outcome.inserts
      { self with
        tables := self.tables.updateTasks (fun row => !row.status.isTerminal) (interrupt now) })

/-- The process ends and opens the database again: an open transaction is gone. -/
def restart (self : TaskStore) (foreignKeys : Bool) : TaskStore :=
  { self with
    tables := self.begun.getD self.tables, begun := none, foreignKeys := foreignKeys }

/-! ## Deleting tasks -/

structure DeleteOutcome extends TransactionOutcome where
  selects : Bool := true
  deletesEvents : Bool := true
  deletesDiagnostics : Bool := true
  deletesPayloads : Bool := true
  deletesTask : Bool := true
  deriving DecidableEq

def deleteRows (foreignKeys : Bool) (taskId : String) (outcome : DeleteOutcome)
    (tables : Tables) : Bool × Tables :=
  if !outcome.deletesEvents then (false, tables)
  else
    let tables := { tables with events := tables.events.filter (·.taskId ≠ taskId) }
    if !outcome.deletesDiagnostics then (false, tables)
    else
      let tables := { tables with diagnostics := tables.diagnostics.filter (·.taskId ≠ taskId) }
      if !outcome.deletesPayloads then (false, tables)
      else
        let tables := { tables with payloads := tables.payloads.filter (·.taskId ≠ taskId) }
        if !outcome.deletesTask || (tables.task? taskId).isNone then (false, tables)
        else
          (true,
            { tables with
              tasks := tables.tasks.filter (·.taskId ≠ taskId)
              -- `ON DELETE CASCADE`
              summaries := if foreignKeys then tables.summaries.filter (·.taskId ≠ taskId)
                else tables.summaries })

/-- `DeleteTaskNoLock`. -/
def deleteTask (self : TaskStore) (taskId : String) (outcome : DeleteOutcome) : Int × TaskStore :=
  if taskId.isEmpty || !outcome.selects then
    (-1, self)
  else
    match self.tables.task? taskId with
    | none => (-1, self)
    | some row =>
        if !row.status.isTerminal then
          (1, self)
        else
          self.inTransaction outcome.toTransactionOutcome
            (deleteRows self.foreignKeys taskId outcome)

/-! ## Retention -/

/-- What becomes of the statements of `RunRetentionCleanup`: how many rows each selection returns,
and how each deletion goes. -/
structure RetentionOutcome where
  selectedByDays : Nat
  selectedByCount : Nat
  deletes : String → DeleteOutcome

def secondsPerDay : Int := 86400

/-- `ORDER BY datetime(created_at) DESC, task_id DESC`. -/
def newer (left right : TaskRow) : Prop :=
  right.createdAt < left.createdAt ∨
    left.createdAt = right.createdAt ∧ right.taskId ≤ left.taskId

instance : DecidableRel newer := fun _ _ =>
  inferInstanceAs (Decidable (_ ∨ _ ∧ _))

def terminalTasks (self : TaskStore) : List TaskRow :=
  self.tables.tasks.filter fun row => row.status.isTerminal

/-- The terminal tasks that were created before the retention days. -/
def expiredByDays (self : TaskStore) (now : Int) : List TaskRow :=
  self.terminalTasks.filter fun row =>
    decide (row.createdAt < now - self.retentionDays * secondsPerDay)

/-- The terminal tasks in the order of the second selection. -/
def newestFirst (self : TaskStore) : List TaskRow :=
  self.terminalTasks.insertionSort newer

/-- The ids to delete, each once and in order, as a `std::set` holds them. -/
def toDelete (self : TaskStore) (now : Int) (outcome : RetentionOutcome) : List String :=
  let byDays := if 0 < self.retentionDays then
      ((self.expiredByDays now).map TaskRow.taskId).take outcome.selectedByDays
    else []
  let byCount := if 0 < self.retentionMaxCount then
      ((self.newestFirst.drop self.retentionMaxCount.toNat).map TaskRow.taskId).take
        outcome.selectedByCount
    else []
  ((byDays ++ byCount).dedup).insertionSort (· ≤ ·)

def kCleanupBatchLimit : Nat := 128

/-- The loop of `RunRetentionCleanupNoLock`. -/
def deleteAll (deletes : String → DeleteOutcome) : List String → Nat → TaskStore → TaskStore
  | [], _, self => self
  | taskId :: rest, cleaned, self =>
      if kCleanupBatchLimit ≤ cleaned then
        self
      else
        let (code, after) := self.deleteTask taskId (deletes taskId)
        deleteAll deletes rest (if code = 0 then cleaned + 1 else cleaned) after

def runRetentionCleanup (self : TaskStore) (now : Int) (outcome : RetentionOutcome) :
    Int × TaskStore :=
  if self.retentionDays ≤ 0 ∧ self.retentionMaxCount ≤ 0 then
    (0, self)
  else
    (0, deleteAll outcome.deletes (self.toDelete now outcome) 0 self)

/-! ## Dependent rows -/

def writeDiagnostic (self : TaskStore) (row : TaskDiagnostic) (inserts : Bool) : Int × TaskStore :=
  if row.taskId.isEmpty || !inserts then
    (-1, self)
  else
    (0, { self with
      tables := { self.tables with diagnostics := self.tables.diagnostics ++ [row] } })

/-- A summary needs its task when foreign keys are on, and replaces the one before. -/
def saveResultSummary (self : TaskStore) (row : ResultSummary) (inserts : Bool) :
    Int × TaskStore :=
  if !inserts || (self.foreignKeys && (self.tables.task? row.taskId).isNone) then
    (-1, self)
  else
    (0, { self with
      tables := { self.tables with
        summaries := self.tables.summaries.filter (·.taskId ≠ row.taskId) ++ [row] } })

end TaskStore

/-! ## Operations -/

/-- The operations, each with the time and what becomes of its statements. -/
inductive TaskOperation where
  | createTask (params : TaskStore.CreateParams) (now : Int) (outcome : TaskStore.CreateOutcome)
  | updateStatus (update : TaskStore.StatusUpdate) (now : Int) (outcome : TaskStore.UpdateOutcome)
  | requestCancelRunningTask (taskId : String) (now : Int) (updates : Bool)
  | updateRuntimeTaskId (taskId runtimeTaskId : String) (now : Int) (updates : Bool)
  | cleanupOrphans (now : Int) (outcome : TaskStore.OrphanOutcome)
  | restart (foreignKeys : Bool)
  | deleteTask (taskId : String) (outcome : TaskStore.DeleteOutcome)
  | runRetentionCleanup (now : Int) (outcome : TaskStore.RetentionOutcome)
  | writeDiagnostic (row : TaskDiagnostic) (inserts : Bool)
  | saveResultSummary (row : ResultSummary) (inserts : Bool)

namespace TaskStore

def apply (self : TaskStore) : TaskOperation → TaskStore
  | .createTask params now outcome => (self.createTask params now outcome).2
  | .updateStatus update now outcome => (self.updateStatus update now outcome).2
  | .requestCancelRunningTask taskId now updates =>
      (self.requestCancelRunningTask taskId now updates).2
  | .updateRuntimeTaskId taskId runtimeTaskId now updates =>
      (self.updateRuntimeTaskId taskId runtimeTaskId now updates).2
  | .cleanupOrphans now outcome => (self.cleanupOrphans now outcome).2
  | .restart foreignKeys => self.restart foreignKeys
  | .deleteTask taskId outcome => (self.deleteTask taskId outcome).2
  | .runRetentionCleanup now outcome => (self.runRetentionCleanup now outcome).2
  | .writeDiagnostic row inserts => (self.writeDiagnostic row inserts).2
  | .saveResultSummary row inserts => (self.saveResultSummary row inserts).2

end TaskStore

end Flowsql.Task
