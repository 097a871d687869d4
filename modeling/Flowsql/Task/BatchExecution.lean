import Flowsql.Task.TaskStore

/-!
# The execution of a batch task

The statements of a task are sent to the scheduler one after the other. A cancel request or a terminal
status takes effect before the next statement. Every end writes a status and removes the data frames
between the statements.
-/

namespace Flowsql.Task

/-! ## Channels -/

def dataFramePrefix : List Char := "dataframe.".toList

def isDataFrameRef (name : String) : Bool :=
  (name.toList.take dataFramePrefix.length).map Char.toLower = dataFramePrefix

def dataFrameNamePart (fullName : String) : String :=
  if isDataFrameRef fullName then String.ofList (fullName.toList.drop dataFramePrefix.length)
  else fullName

/-! ## Responses -/

/-- `rc` of the scheduler client. -/
inductive SchedulerCode where
  | ok
  | unavailable
  | failed (rc : Int)
  deriving DecidableEq

def SchedulerCode.isOk : SchedulerCode → Bool
  | .ok => true
  | _ => false

/-- The members of a response that is an object, as far as they have the type that is asked for. -/
structure ResponseDocument where
  /-- `error`, as a text or by its members `code` and `message`. -/
  error : Option String := none
  issueCode : Option String := none
  issueMessage : Option String := none
  errorCode : Option String := none
  errorStage : Option String := none
  rowsAffected : Option Int := none
  resultTarget : Option String := none
  resultRowCount : Option Int := none
  rows : Option Int := none
  resultColCount : Option Int := none
  cols : Option Int := none
  /-- The sizes of `data`. -/
  derivedRows : Nat := 0
  derivedCols : Nat := 0
  deriving DecidableEq

/-- A response, and whether its publication can be saved. -/
structure SchedulerResponse where
  rc : SchedulerCode
  document : Option ResponseDocument := none
  saved : Bool := true
  deriving DecidableEq

/-- `SavePublication`. -/
def SchedulerResponse.publicationSaved (response : SchedulerResponse) : Bool :=
  response.document.isNone || response.saved

def extractStageFromErrorMessage (message : String) : String :=
  let start := "operator ".toList
  let stop := " execution failed".toList
  let text := message.toList
  if text.length ≤ start.length + stop.length then ""
  else if !start.isPrefixOf text || !stop.isSuffixOf text then ""
  else String.ofList ((text.take (text.length - stop.length)).drop start.length)

/-- The code, the message and the stage of a failed response. -/
def failureOf (response : SchedulerResponse) : String × String × String :=
  let found := response.document.getD {}
  let err := (found.issueMessage.or found.error).getD "execution failed"
  let code := found.issueCode.getD "EXECUTION_FAILED"
  let code := ((found.errorCode.filter (· ≠ "")).getD code)
  let stage := (found.errorStage.filter (· ≠ "")).getD "execute"
  let (code, err, stage) :=
    if response.rc = .unavailable ∧ code = "EXECUTION_FAILED" then
      ("SCHEDULER_UNAVAILABLE",
        if err = "" ∨ err = "execution failed" then "execute route not found" else err, "dispatch")
    else (code, err, stage)
  let inferred := extractStageFromErrorMessage err
  let stage := if stage = "execute" ∧ inferred ≠ "" then inferred else stage
  if response.publicationSaved then (code, err, stage)
  else ("RESULT_SUMMARY_STORE_FAILED", "failed to persist publication summary", "persist")

/-- The rows, the columns and the target that a response tells of. -/
def resultOf (response : SchedulerResponse) : Int × Int × String :=
  let found := response.document.getD {}
  let rows := (found.resultRowCount.or found.rows).getD 0
  let cols := (found.resultColCount.or found.cols).getD 0
  (if rows ≤ 0 ∧ 0 < found.derivedRows then found.derivedRows else rows,
    max cols found.derivedCols, found.resultTarget.getD "")

/-! ## The task -/

/-- What others do with the task meanwhile. -/
inductive Interference where
  | requestCancel (now : Int) (updates : Bool)
  | timeout (now : Int) (outcome : TaskStore.UpdateOutcome)

/-- A task as it is executed, with all that happens around it. -/
structure BatchTask where
  taskId : String
  /-- `GetTask` succeeds. -/
  found : Bool := true
  sqls : List String
  payloadOk : Bool := true
  /-- The destination of a statement that parses and has one. -/
  parse : String → Option String
  /-- There is a channel registry. -/
  registry : Bool := true
  now : Int
  runningOutcome : TaskStore.UpdateOutcome := {}
  finalOutcome : TaskStore.UpdateOutcome := {}
  beforeRunning : List Interference := []
  beforeCheck : Nat → List Interference
  beforeEnd : List Interference := []
  /-- The query of the flags succeeds. -/
  queried : Nat → Bool
  responses : Nat → SchedulerResponse

/-- What an execution has done. -/
structure Execution where
  rc : Int
  store : TaskStore
  sent : List String := []
  unregistered : List String := []

def TaskStore.interfere (store : TaskStore) (taskId : String) : List Interference → TaskStore
  | [] => store
  | .requestCancel now updates :: rest =>
      (store.requestCancelRunningTask taskId now updates).2.interfere taskId rest
  | .timeout now outcome :: rest =>
      (store.updateStatus
        { taskId := taskId
          newStatus := .timeout
          errorCode := "TIMEOUT"
          errorMessage := "task execution timeout"
          errorStage := "timeout" } now outcome).2.interfere taskId rest

/-- The terminal status and the cancel request, both not seen when the query fails. -/
def TaskStore.queryTaskRuntimeFlags (store : TaskStore) (taskId : String) (queried : Bool) :
    Bool × Bool :=
  if !queried then (false, false)
  else
    match store.tables.task? taskId with
    | none => (false, false)
    | some row => (row.status.isTerminal, row.cancelRequested)

namespace BatchTask

variable (task : BatchTask)

def destination (sql : String) : Option String :=
  (task.parse sql).filter isDataFrameRef

/-- The destinations of all statements but the last, in the order of a set. -/
def intermediateChannels : List String :=
  ((task.sqls.dropLast.filterMap task.destination).dedup).insertionSort (· ≤ ·)

/-- `CleanupIntermediateChannels`, as the names that are unregistered. -/
def cleanupIntermediateChannels : List String :=
  if !task.registry then []
  else (task.intermediateChannels.map dataFrameNamePart).filter (· ≠ "")

/-- A status, after what others have done before it. -/
def updateStatus (store : TaskStore) (newStatus : TaskStatus) (errorCode errorMessage errorStage : String)
    (rows cols : Int) (target : String) (outcome : TaskStore.UpdateOutcome) : Int × TaskStore :=
  store.updateStatus
    { taskId := task.taskId
      newStatus := newStatus
      errorCode := errorCode
      errorMessage := errorMessage
      errorStage := errorStage
      resultRowCount := rows
      resultColCount := cols
      resultTarget := target } task.now outcome

/-- An exit with a status and the cleanup. -/
def finish (store : TaskStore) (newStatus : TaskStatus) (errorCode errorMessage errorStage : String)
    (rows cols : Int) (target : String) (sent : List String) : Execution :=
  let (rc, store) := task.updateStatus (store.interfere task.taskId task.beforeEnd) newStatus errorCode
    errorMessage errorStage rows cols target task.finalOutcome
  { rc := rc, store := store, sent := sent, unregistered := task.cleanupIntermediateChannels }

/-- The loop over the statements that are left, with those that were sent and the last result. -/
def executeFrom : List String → TaskStore → List String → Int × Int × String → Execution
  | [], store, sent, (rows, cols, target) =>
      task.finish store .completed "" "" "" rows cols target sent
  | sql :: rest, store, sent, _ =>
      let index := sent.length
      let store := store.interfere task.taskId (task.beforeCheck index)
      let (terminalNow, cancelRequested) :=
        store.queryTaskRuntimeFlags task.taskId (task.queried index)
      if terminalNow then
        { rc := 0
          store := store.interfere task.taskId task.beforeEnd
          sent := sent
          unregistered := task.cleanupIntermediateChannels }
      else if cancelRequested then
        task.finish store .cancelled "CANCELLED" "cancelled by user" "cancel" 0 0 "" sent
      else
        let response := task.responses index
        if !response.rc.isOk then
          let (code, message, stage) := failureOf response
          let found := response.document.getD {}
          task.finish store .failed code message stage (found.rowsAffected.getD 0) 0
            (found.resultTarget.getD "") (sent ++ [sql])
        else
          let (rows, cols, target) := resultOf response
          if !response.publicationSaved then
            task.finish store .failed "RESULT_SUMMARY_STORE_FAILED"
              "failed to persist publication summary" "persist" rows cols target (sent ++ [sql])
          else
            executeFrom rest store (sent ++ [sql]) (rows, cols, target)

/-- `ExecuteOneTask`. -/
def executeOneTask (store : TaskStore) : Execution :=
  if !task.found then { rc := -1, store := store }
  else
    match store.tables.task? task.taskId with
    | none => { rc := -1, store := store }
    | some row =>
        if row.taskKind ≠ "batch" then { rc := 0, store := store }
        else if row.status.isTerminal then { rc := 0, store := store }
        else
          let (rc, store) := task.updateStatus (store.interfere task.taskId task.beforeRunning) .running
            "" "" "" 0 0 "" task.runningOutcome
          if rc ≠ 0 then { rc := 0, store := store }
          else if task.sqls = [] then
            let (rc, store) := task.updateStatus (store.interfere task.taskId task.beforeEnd) .failed
              "INVALID_SQLS" (if task.payloadOk then "empty sql list" else "invalid sql payload")
              "parse" 0 0 "" task.finalOutcome
            { rc := rc, store := store }
          else task.executeFrom task.sqls store [] (0, 0, "")

end BatchTask

end Flowsql.Task
