import Flowsql.Scheduler.StreamTask

/-!
# The run loop of a stream task group

A group submits the nodes of a plan, asks for their states, and stops them. Its loop is
taken apart at its atomic loads and stores, its lock-protected sections and its callbacks,
so that calls from other threads may come between any two of them.
-/

namespace Flowsql.Scheduler

inductive GroupStartCondition where
  | onRunning
  | onFinished
  deriving DecidableEq

inductive GroupNodeStatus where
  | pending
  | ready
  | running
  | stopping
  | stopped
  | cancelled
  | failed
  | skipped
  deriving DecidableEq

inductive StreamGroupStatus where
  | created
  | preparing
  | running
  | stopping
  | stopped
  | cancelled
  | failed
  deriving DecidableEq

structure GroupNodePlan where
  id : String
  sql : String
  dependsOn : List String
  startCondition : GroupStartCondition

/-- What a query tells the group about a task. -/
structure TaskSnapshot where
  status : StreamTaskStatus
  errorCode : Int
  errorCodeText : String
  errorMessage : String
  deriving DecidableEq

structure GroupErrorMeta where
  errorNo : Int
  errorCode : String
  errorMessage : String
  deriving DecidableEq

structure NodeState where
  status : GroupNodeStatus
  runtimeTaskId : String
  submitted : Bool
  stopSent : Bool
  submitInflight : Bool
  queryInflight : Bool
  stopInflight : Bool
  generation : Nat
  phase : String
  errorCode : String
  errorNo : Int
  errorMessage : String
  deriving DecidableEq

/-- `MapTaskStatus` -/
def mapTaskStatus : StreamTaskStatus → GroupNodeStatus
  | .created => .ready
  | .running => .running
  | .stopping => .stopping
  | .stopped => .stopped
  | .cancelled => .cancelled
  | .failed => .failed

/-- `IsNodeTerminal` -/
def GroupNodeStatus.IsTerminal (status : GroupNodeStatus) : Prop :=
  status = .stopped ∨ status = .cancelled ∨ status = .failed ∨ status = .skipped

/-- `IsNodeStarted` -/
def GroupNodeStatus.IsStarted (status : GroupNodeStatus) : Prop :=
  status = .running ∨ status = .stopping ∨ status = .stopped ∨ status = .cancelled ∨
    status = .failed

instance : DecidablePred GroupNodeStatus.IsTerminal :=
  fun _ => inferInstanceAs (Decidable (_ ∨ _))

instance : DecidablePred GroupNodeStatus.IsStarted :=
  fun _ => inferInstanceAs (Decidable (_ ∨ _))

/-- A node before its submission. -/
def NodeState.fresh : NodeState :=
  ⟨.pending, "", false, false, false, false, false, 0, "", "", 0, ""⟩

/-- What the group is built from. -/
structure GroupPlan (count : Nat) where
  nodes : Fin count → GroupNodePlan
  timeoutS : Int
  startedMs : Int
  /-- There is a `pre_stop_fn_`. -/
  preStop : Bool

variable {count : Nat}

/-- `node_index_by_id_`: the last node with this id. -/
def GroupPlan.nodeIndexById (plan : GroupPlan count) (id : String) : Option (Fin count) :=
  (List.finRange count).reverse.find? fun index => (plan.nodes index).id = id

/-- A dependency lets a node start under its start condition. -/
def GroupStartCondition.Allows : GroupStartCondition → GroupNodeStatus → Prop
  | .onFinished, status => status.IsTerminal
  | .onRunning, status => status.IsStarted

instance (condition : GroupStartCondition) : DecidablePred condition.Allows :=
  fun status => match condition with
    | .onFinished => inferInstanceAs (Decidable status.IsTerminal)
    | .onRunning => inferInstanceAs (Decidable status.IsStarted)

/-- `DependenciesSatisfied` -/
def DependenciesSatisfied (plan : GroupPlan count) (nodes : Fin count → NodeState)
    (index : Fin count) : Prop :=
  ∀ id ∈ (plan.nodes index).dependsOn, ∃ dependency ∈ plan.nodeIndexById id,
    (plan.nodes index).startCondition.Allows (nodes dependency).status

instance (plan : GroupPlan count) (nodes : Fin count → NodeState) :
    DecidablePred (DependenciesSatisfied plan nodes) :=
  fun index => inferInstanceAs (Decidable (∀ id ∈ (plan.nodes index).dependsOn,
    ∃ dependency ∈ plan.nodeIndexById id, (plan.nodes index).startCondition.Allows
      (nodes dependency).status))

/-! ## Work that is done outside the lock -/

structure QueryAction (count : Nat) where
  index : Fin count
  generation : Nat
  runtimeTaskId : String
  deriving DecidableEq

structure QueryResult (count : Nat) where
  index : Fin count
  generation : Nat
  rc : Int
  snapshot : TaskSnapshot
  deriving DecidableEq

structure StopAction (count : Nat) where
  index : Fin count
  generation : Nat
  runtimeTaskId : String
  deriving DecidableEq

structure SubmitAction (count : Nat) where
  index : Fin count
  generation : Nat
  deriving DecidableEq

structure SubmitResult (count : Nat) where
  index : Fin count
  generation : Nat
  rc : Int
  runtimeTaskId : String
  errMsg : String
  deriving DecidableEq

/-- Where the run loop stands, with its local variables. -/
inductive LoopPoint (count : Nat) where
  | top
  | refreshSelect (nowMs : Int)
  | refreshQuery (nowMs : Int) (actions : List (QueryAction count))
      (results : List (QueryResult count))
  | failureLoad (nowMs : Int)
  | failureScan (nowMs : Int)
  | timeoutScan (nowMs : Int)
  | timeoutLoad (nowMs : Int) (failure : GroupErrorMeta)
  | timeoutStoreStatus (nowMs : Int) (failure : GroupErrorMeta)
  | timeoutStoreError (nowMs : Int) (failure : GroupErrorMeta)
  | timeoutStoreStop (nowMs : Int)
  | stopLoad (nowMs : Int)
  | stopSelect (nowMs : Int)
  | preStopCall (nowMs : Int) (actions : List (StopAction count))
  | stopCall (nowMs : Int) (actions called : List (StopAction count))
  | stoppingLoad (nowMs : Int)
  | stoppingStore (nowMs : Int)
  | preparingLoad (nowMs : Int)
  | runningStore (nowMs : Int)
  | submitLoad (nowMs : Int)
  | submitLoadAgain (nowMs : Int)
  | submitSelect (nowMs : Int)
  | submitCall (nowMs : Int) (actions : List (SubmitAction count))
      (results : List (SubmitResult count))
  | terminalCheck
  | finalizeLoad
  | finalizeCancelLoad
  | finalizeStore (status : StreamGroupStatus)
  | finished
  deriving DecidableEq

/-- What a run did, for the statements about it. -/
structure GroupHistory (count : Nat) where
  /-- Nodes for which `submit_fn_` was called, the last call first. -/
  submitted : List (Fin count)
  /-- Nodes for which `stop_fn_` was called, the last call first. -/
  stopped : List (Fin count)
  /-- Nodes that were submitted and not terminal when a stop was handled. -/
  toStop : List (Fin count)
  stopHandled : Bool
  timedOut : Bool
  /-- The first failure that was reported before the group was finalised. -/
  firstFailure : Option GroupErrorMeta
  /-- A `RequestStop(true)` has begun. -/
  cancelAsked : Bool
  /-- `cancelAsked` when the group reads the cancel flag at its end. -/
  cancelledAtEnd : Bool
  deriving DecidableEq

structure GroupState (count : Nat) where
  nodes : Fin count → NodeState
  status : StreamGroupStatus
  errorMeta : Option GroupErrorMeta
  stopRequested : Bool
  cancelRequested : Bool
  preStopInvoked : Bool
  point : LoopPoint count
  /-- Calls of `RequestStop(true)` between their two stores. -/
  cancelsUnderway : Nat
  history : GroupHistory count

namespace GroupState

/-- The state after `Start`. -/
def started (count : Nat) : GroupState count :=
  ⟨fun _ => .fresh, .preparing, none, false, false, false, .top, 0,
    ⟨[], [], [], false, false, none, false, false⟩⟩

variable (plan : GroupPlan count) (state : GroupState count)

/-- A loop over all nodes. -/
def forNodes {Result : Type} (visit : Result → Fin count → Result) (start : Result) : Result :=
  (List.finRange count).foldl visit start

def withPoint (point : LoopPoint count) : GroupState count :=
  { state with point := point }

def withNodes (nodes : Fin count → NodeState) : GroupState count :=
  { state with nodes := nodes }

/-! ## Failures -/

/-- A failure is reported. -/
def reported (failure : GroupErrorMeta) : GroupState count :=
  { state with
    history :=
      { state.history with firstFailure := state.history.firstFailure.or (some failure) } }

/-- `MarkGroupFailed`, called under the lock -/
def markGroupFailed (failure : GroupErrorMeta) : GroupState count :=
  if state.status = .failed then state.reported failure
  else
    { state.reported failure with
      status := .failed, errorMeta := some failure, stopRequested := true }

/-! ## `RefreshNodeStates` -/

abbrev Nodes (count : Nat) : Type := Fin count → NodeState

/-- The node is asked for its state. -/
def QueryDue (node : NodeState) : Prop :=
  node.submitted ∧ node.runtimeTaskId ≠ "" ∧ ¬ node.status.IsTerminal ∧ ¬ node.queryInflight

instance : DecidablePred QueryDue := fun _ => inferInstanceAs (Decidable (_ ∧ _))

def selectQuery (selected : Nodes count × List (QueryAction count)) (index : Fin count) :
    Nodes count × List (QueryAction count) :=
  let node := selected.1 index
  if QueryDue node then
    (Function.update selected.1 index { node with queryInflight := true },
      selected.2 ++ [⟨index, node.generation, node.runtimeTaskId⟩])
  else selected

/-- What an answered query writes into the node. -/
def refreshed (node : NodeState) (snapshot : TaskSnapshot) : NodeState :=
  let mapped := mapTaskStatus snapshot.status
  let status := if node.stopSent ∧ mapped = .running then .stopping else mapped
  let errorCode := if snapshot.errorCodeText ≠ "" then snapshot.errorCodeText else node.errorCode
  { node with
    status := status
    errorNo := snapshot.errorCode
    errorCode :=
      if status = .failed ∧ errorCode = "" then "STREAM_GROUP_NODE_EXECUTION_FAILED"
      else errorCode
    errorMessage := snapshot.errorMessage
    phase := if status = .failed ∧ node.phase = "" then "execute" else node.phase }

def applyQuery (nodes : Nodes count) (result : QueryResult count) : Nodes count :=
  let node := nodes result.index
  if node.queryInflight then
    let answered := { node with queryInflight := false }
    Function.update nodes result.index
      (if node.generation = result.generation ∧ result.rc = 0 then
        refreshed answered result.snapshot
      else answered)
  else nodes

/-! ## `HandleFailureOrTimeout` -/

/-- The failure that a failed node reports. -/
def nodeFailure (index : Fin count) : GroupErrorMeta :=
  let node := state.nodes index
  ⟨if node.errorNo ≠ 0 then node.errorNo else EIO,
    if node.errorCode = "" then "STREAM_GROUP_NODE_FAILED" else node.errorCode,
    "group node failed: " ++ (plan.nodes index).id ++
      (if node.errorMessage = "" then "" else ", " ++ node.errorMessage)⟩

def failedNode : Option (Fin count) :=
  (List.finRange count).find? fun index => (state.nodes index).status = .failed

/-- The timeout has passed. -/
def TimedOut (nowMs : Int) : Prop :=
  0 < plan.timeoutS ∧ 0 < plan.startedMs ∧ plan.timeoutS * 1000 ≤ nowMs - plan.startedMs

instance (nowMs : Int) : Decidable (TimedOut plan nowMs) :=
  inferInstanceAs (Decidable (_ ∧ _))

/-- Eight names are listed at most. -/
def timeoutFailure : GroupErrorMeta :=
  let unfinished := ((List.finRange count).filter fun index =>
    decide ¬ (state.nodes index).status.IsTerminal).map fun index => (plan.nodes index).id
  let message := "stream group timeout: " ++ toString plan.timeoutS ++ "s"
  ⟨ETIMEDOUT, "STREAM_GROUP_TIMEOUT",
    if unfinished = [] then message
    else
      message ++ ", unfinished_nodes=" ++ ",".intercalate (unfinished.take 8) ++
        (if 8 < unfinished.length then
          ",...(" ++ toString (unfinished.length - 8) ++ " more)"
        else "")⟩

/-! ## `HandleStopSignal` -/

/-- The node is stopped or skipped without ever being submitted. -/
def dropped (node : NodeState) : NodeState :=
  { node with
    status := if state.status = .failed ∨ state.cancelRequested then .skipped else .stopped
    generation := node.generation + 1 }

/-- The node is about to be stopped. -/
def stopping (node : NodeState) : NodeState :=
  { node with
    stopSent := true
    stopInflight := true
    status := .stopping
    generation := node.generation + 1 }

/-- One node of the loop over all nodes. -/
def selectStop (selected : Nodes count × List (StopAction count)) (index : Fin count) :
    Nodes count × List (StopAction count) :=
  let node := selected.1 index
  if ¬ node.submitted ∨ node.runtimeTaskId = "" then
    if node.status.IsTerminal then selected
    else (Function.update selected.1 index (state.dropped node), selected.2)
  else if node.status.IsTerminal then selected
  else if node.stopSent ∨ node.stopInflight then selected
  else
    (Function.update selected.1 index (stopping node),
      selected.2 ++ [⟨index, (stopping node).generation, node.runtimeTaskId⟩])

def applyStop (nodes : Nodes count) (action : StopAction count) : Nodes count :=
  let node := nodes action.index
  if node.stopInflight then Function.update nodes action.index { node with stopInflight := false }
  else nodes

/-- The lock-protected section that chooses the nodes to stop. -/
def stopSection (nowMs : Int) : GroupState count :=
  let selected := forNodes state.selectStop (state.nodes, [])
  let needPreStop := plan.preStop && !state.preStopInvoked
  { state with
    nodes := selected.1
    preStopInvoked := state.preStopInvoked || needPreStop
    point := if needPreStop then .preStopCall nowMs selected.2 else .stopCall nowMs selected.2 []
    history :=
      { state.history with
        stopHandled := true
        toStop := state.history.toStop ++ (List.finRange count).filter fun index =>
          (state.nodes index).submitted ∧ ¬ (state.nodes index).status.IsTerminal } }

/-! ## `TrySubmitReadyNodes` -/

/-- The node is about to be submitted. -/
def submitting (node : NodeState) : NodeState :=
  { node with status := .ready, submitInflight := true, generation := node.generation + 1 }

def selectSubmit (selected : Nodes count × List (SubmitAction count)) (index : Fin count) :
    Nodes count × List (SubmitAction count) :=
  let node := selected.1 index
  if node.submitted ∨ node.status.IsTerminal ∨ node.submitInflight then selected
  else if DependenciesSatisfied plan selected.1 index then
    (Function.update selected.1 index (submitting node),
      selected.2 ++ [⟨index, (submitting node).generation⟩])
  else selected

/-- The failure that a failed submission reports. -/
def submitFailure (result : SubmitResult count) : GroupErrorMeta :=
  ⟨if result.rc ≠ 0 then result.rc else EIO, "STREAM_GROUP_NODE_EXECUTION_FAILED",
    "group node submit failed: " ++ (plan.nodes result.index).id⟩

/-- The node could not be submitted. -/
def submitFailed (node : NodeState) (result : SubmitResult count) : NodeState :=
  { node with
    submitInflight := false
    status := .failed
    errorNo := (submitFailure plan result).errorNo
    errorCode := (submitFailure plan result).errorCode
    errorMessage := if result.errMsg = "" then "submit group node failed" else result.errMsg
    phase := "submit" }

/-- The node was submitted. -/
def submitDone (node : NodeState) (result : SubmitResult count) : NodeState :=
  { node with
    submitInflight := false
    runtimeTaskId := result.runtimeTaskId
    submitted := true
    status := .running
    phase := "execute" }

def applySubmit (state : GroupState count) (result : SubmitResult count) : GroupState count :=
  let node := state.nodes result.index
  if node.submitInflight then
    if node.generation = result.generation then
      if result.rc ≠ 0 ∨ result.runtimeTaskId = "" then
        (state.withNodes (Function.update state.nodes result.index
          (submitFailed plan node result))).markGroupFailed (submitFailure plan result)
      else
        state.withNodes (Function.update state.nodes result.index (submitDone node result))
    else
      state.withNodes (Function.update state.nodes result.index
        { node with submitInflight := false })
  else state

/-! ## Steps -/

/-- What the clock or a callback gives to the step that asks it. -/
structure LoopAnswer where
  nowMs : Int
  rc : Int
  snapshot : TaskSnapshot
  runtimeTaskId : String
  errMsg : String

/-- `AllNodesTerminal` -/
def AllNodesTerminal : Prop :=
  ∀ index, (state.nodes index).status.IsTerminal

instance : Decidable state.AllNodesTerminal :=
  inferInstanceAs (Decidable (∀ index, (state.nodes index).status.IsTerminal))

/-- The group is finalised. -/
def finalized (status : StreamGroupStatus) : GroupState count :=
  { state with status := status, point := .finished }

/-- The next step of the run loop. -/
def loopStep (answer : LoopAnswer) : GroupState count :=
  match state.point with
  | .top => state.withPoint (.refreshSelect answer.nowMs)
  | .refreshSelect nowMs =>
      let selected := forNodes selectQuery (state.nodes, [])
      (state.withNodes selected.1).withPoint
        (if selected.2 = [] then .failureLoad nowMs else .refreshQuery nowMs selected.2 [])
  | .refreshQuery nowMs [] results =>
      (state.withNodes (results.foldl applyQuery state.nodes)).withPoint (.failureLoad nowMs)
  | .refreshQuery nowMs (action :: rest) results =>
      state.withPoint (.refreshQuery nowMs rest
        (results ++ [⟨action.index, action.generation, answer.rc, answer.snapshot⟩]))
  | .failureLoad nowMs =>
      state.withPoint (if state.status = .failed then .stopLoad nowMs else .failureScan nowMs)
  | .failureScan nowMs =>
      match state.failedNode with
      | some index =>
          (state.markGroupFailed (nodeFailure plan state index)).withPoint (.stopLoad nowMs)
      | none =>
          if TimedOut plan nowMs then
            { state.withPoint (.timeoutScan nowMs) with
              history := { state.history with timedOut := true } }
          else state.withPoint (.stopLoad nowMs)
  | .timeoutScan nowMs => state.withPoint (.timeoutLoad nowMs (timeoutFailure plan state))
  | .timeoutLoad nowMs failure =>
      if state.status = .failed then (state.reported failure).withPoint (.stopLoad nowMs)
      else state.withPoint (.timeoutStoreStatus nowMs failure)
  | .timeoutStoreStatus nowMs failure =>
      { (state.reported failure).withPoint (.timeoutStoreError nowMs failure) with
        status := .failed }
  | .timeoutStoreError nowMs failure =>
      { state.withPoint (.timeoutStoreStop nowMs) with errorMeta := some failure }
  | .timeoutStoreStop nowMs => { state.withPoint (.stopLoad nowMs) with stopRequested := true }
  | .stopLoad nowMs =>
      state.withPoint (if state.stopRequested then .stopSelect nowMs else .preparingLoad nowMs)
  | .stopSelect nowMs => stopSection plan state nowMs
  | .preStopCall nowMs actions => state.withPoint (.stopCall nowMs actions [])
  | .stopCall nowMs [] called =>
      (state.withNodes (called.foldl applyStop state.nodes)).withPoint (.stoppingLoad nowMs)
  | .stopCall nowMs (action :: rest) called =>
      { state.withPoint (.stopCall nowMs rest (called ++ [action])) with
        history := { state.history with stopped := action.index :: state.history.stopped } }
  | .stoppingLoad nowMs =>
      state.withPoint (if state.status = .failed then .submitLoad nowMs else .stoppingStore nowMs)
  | .stoppingStore nowMs => { state.withPoint (.submitLoad nowMs) with status := .stopping }
  | .preparingLoad nowMs =>
      state.withPoint
        (if state.status = .preparing then .runningStore nowMs else .submitLoad nowMs)
  | .runningStore nowMs => { state.withPoint (.submitLoad nowMs) with status := .running }
  | .submitLoad nowMs =>
      state.withPoint (if state.status = .stopping then .terminalCheck else .submitLoadAgain nowMs)
  | .submitLoadAgain nowMs =>
      state.withPoint (if state.status = .failed then .terminalCheck else .submitSelect nowMs)
  | .submitSelect nowMs =>
      let selected := forNodes (selectSubmit plan) (state.nodes, [])
      (state.withNodes selected.1).withPoint
        (if selected.2 = [] then .terminalCheck else .submitCall nowMs selected.2 [])
  | .submitCall _ [] results =>
      (results.foldl (applySubmit plan) state).withPoint .terminalCheck
  | .submitCall nowMs (action :: rest) results =>
      { state.withPoint (.submitCall nowMs rest (results ++
          [⟨action.index, action.generation, answer.rc, answer.runtimeTaskId, answer.errMsg⟩])) with
        history := { state.history with submitted := action.index :: state.history.submitted } }
  | .terminalCheck => state.withPoint (if state.AllNodesTerminal then .finalizeLoad else .top)
  | .finalizeLoad =>
      if state.status = .failed then state.finalized .failed
      else state.withPoint .finalizeCancelLoad
  | .finalizeCancelLoad =>
      { state.withPoint (.finalizeStore (if state.cancelRequested then .cancelled else .stopped)) with
        history := { state.history with cancelledAtEnd := state.history.cancelAsked } }
  | .finalizeStore status => state.finalized status
  | .finished => state

/-- A step of the run loop or of another thread. -/
inductive GroupEvent where
  | loop (answer : LoopAnswer)
  /-- The first store of `RequestStop(cancelled)`. -/
  | requestStop (cancelled : Bool)
  /-- The second store of a `RequestStop(true)`. -/
  | requestCancel
  /-- `MarkExternalFailed` -/
  | externalFailure (code : Int) (message errorCode : String)

def externalFailure (code : Int) (message errorCode : String) : GroupErrorMeta :=
  ⟨if code ≠ 0 then code else EIO,
    if errorCode = "" then "STREAM_GROUP_EXTERNAL_FAILED" else errorCode, message⟩

/-- `MarkExternalFailed`; a failure after the end is none of the run's. -/
def markExternalFailed (failure : GroupErrorMeta) : GroupState count :=
  if state.point = .finished then
    { state.markGroupFailed failure with history := state.history }
  else state.markGroupFailed failure

def step : GroupEvent → GroupState count
  | .loop answer => loopStep plan state answer
  | .requestStop cancelled =>
      { state with
        stopRequested := true
        cancelsUnderway := if cancelled then state.cancelsUnderway + 1 else state.cancelsUnderway
        history := { state.history with cancelAsked := state.history.cancelAsked || cancelled } }
  | .requestCancel =>
      if state.cancelsUnderway = 0 then state
      else { state with cancelRequested := true, cancelsUnderway := state.cancelsUnderway - 1 }
  | .externalFailure code message errorCode =>
      state.markExternalFailed (externalFailure code message errorCode)

/-- The state after a run of the group. -/
def run (events : List GroupEvent) : GroupState count :=
  events.foldl (step plan) (started count)

end GroupState

end Flowsql.Scheduler
