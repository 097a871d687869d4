import Flowsql.Library.Cascade
import Flowsql.Pipeline.BlockTransformRunner

/-!
# The chain of transforms

`SynchronousBlockTransformChainTask` runs several transforms, each followed by its residual filter,
as one: what a stage returns is filtered and handed to the next before anything else happens. Time
events enter at the stages that are due, and a flush goes through the stages in order.
-/

namespace Flowsql.Pipeline

open Flowsql.Library

namespace Chain

def EIO : Int := 5

def EFAULT : Int := 14

def EINVAL : Int := 22

def EPROTO : Int := 71

end Chain

open Chain

/-- `BlockTransformTimeEventV1`. -/
structure TimeEvent where
  structSize : Nat
  contractVersion : Nat
  monotonicNowNs : Int
  wallNowNs : Int
  deriving DecidableEq

def kTimeEventSize : Nat := 24

/-- What a stage is called with. -/
inductive StageEvent where
  | processBlock (batch : Batch) (tsMs : Int)
  | onTime (event : TimeEvent)
  | flush
  deriving DecidableEq

/-- What a stage does with an event: its code, or what it throws, and its outputs. -/
abbrev StageAnswer := Except Thrown Int × List Output

/-- A transform with its residual filter. What it answers depends on all the events it has received,
the last of which it is answering. A stage without `timeState` has no time interface. -/
structure Stage where
  respond : List StageEvent → StageAnswer
  timeState : Option (List StageEvent → Except Thrown (Int × TimeDriveState)) := none
  filter : Batch → Except String Batch := .ok

/-- A stage, and the events it has received. -/
structure Link where
  stage : Stage
  log : List StageEvent := []

namespace Chain

/-- The code that `SetStageError` returns. -/
def stageError (rc : Int) : Int :=
  if rc = 0 then - EIO else if 0 < rc then - rc else rc

/-- `FilterStageOutputs`. -/
def filterStageOutputs (stage : Stage) : List Output → Except Int (List Output)
  | [] => .ok []
  | input :: inputs =>
      match input.batch with
      | none => .error (stageError EPROTO)
      | some batch =>
          match stage.filter batch with
          | .error _ => .error (stageError EIO)
          | .ok filtered => do
              let rest ← filterStageOutputs stage inputs
              pure ({ batch := some filtered, tsMs := input.tsMs } :: rest)

/-- The statuses of `ProcessBlock` and `OnTime` that are no errors, and those of `Flush`. -/
def validStatus (rc : Int) : Bool := rc = kContinue || rc = kStop

def flushed (rc : Int) : Bool := rc = 0

def checkAnswer (valid : Int → Bool) : StageAnswer → Except Int (Int × List Output)
  | (.error _, _) => .error (stageError EFAULT)
  | (.ok rc, outputs) =>
      if valid rc then .ok (rc, outputs)
      else if !outputs.isEmpty then .error (stageError EPROTO)
      else .error (stageError rc)

/-- One call of a stage, a check of its own that follows it, and the filter of its outputs. -/
def exchange (link : Link) (event : StageEvent) (valid : Int → Bool)
    (recheck : Link → Int → Except Int Unit) : Link × Except Int (Int × List Output) :=
  let received := { link with log := link.log ++ [event] }
  (received, do
    let (rc, outputs) ← checkAnswer valid (link.stage.respond received.log)
    recheck received rc
    let filtered ← filterStageOutputs link.stage outputs
    pure (rc, filtered))

def noRecheck (_ : Link) (_ : Int) : Except Int Unit := .ok ()

/-- The inner loop of `PropagateFrom`: all the inputs of one stage, whether it returned stop for any
of them, and the inputs of the next. -/
def processInputs (link : Link) : List Output → Link × Except Int (Bool × List Output)
  | [] => (link, .ok (false, []))
  | input :: inputs =>
      match input.batch with
      | none => (link, .error (stageError EPROTO))
      | some batch =>
          match exchange link (.processBlock batch input.tsMs) validStatus noRecheck with
          | (link, .error rc) => (link, .error rc)
          | (link, .ok (rc, filtered)) =>
              match processInputs link inputs with
              | (link, .error rc) => (link, .error rc)
              | (link, .ok (stopped, rest)) =>
                  (link, .ok (decide (rc = kStop) || stopped, filtered ++ rest))

/-- `PropagateFrom`, for the stages from the first it is called with. -/
def propagateFrom : List Link → List Output → List Link × Except Int (Bool × List Output)
  | [], inputs => ([], .ok (false, inputs))
  | link :: links, inputs =>
      match processInputs link inputs with
      | (link, .error rc) => (link :: links, .error rc)
      | (link, .ok (stopped, nextInputs)) =>
          match propagateFrom links nextInputs with
          | (links, .error rc) => (link :: links, .error rc)
          | (links, .ok (later, outputs)) => (link :: links, .ok (stopped || later, outputs))

/-- The loop of `Flush`, over the stages that are left. -/
def flushFrom : Nat → List Link → List Link × Except Int (List Output)
  | 0, links => (links, .ok [])
  | _ + 1, [] => ([], .ok [])
  | left + 1, link :: links =>
      match exchange link .flush flushed noRecheck with
      | (link, .error rc) => (link :: links, .error rc)
      | (link, .ok (_, filtered)) =>
          match propagateFrom links filtered with
          | (links, .error rc) => (link :: links, .error rc)
          | (links, .ok (_, propagated)) =>
              match flushFrom left links with
              | (links, .error rc) => (link :: links, .error rc)
              | (links, .ok outputs) => (link :: links, .ok (propagated ++ outputs))

/-- `QueryTimeState`, and nothing for a stage without a time interface. -/
def queryTimeState (link : Link) : Except Int (Option TimeDriveState) :=
  match link.stage.timeState with
  | none => .ok none
  | some timeState =>
      match timeState link.log with
      | .error _ => .error (stageError EFAULT)
      | .ok (rc, state) =>
          if rc ≠ 0 then .error (stageError rc)
          else if state.structSize < kTimeDriveStateSize ||
              decide (state.contractVersion ≠ kTimeDriveVersion) || decide (1 < state.armed) ||
              state.reserved.any (· ≠ 0) ||
              (decide (state.armed = 1) && decide (state.deadlineNs < 0)) then
            .error (stageError EPROTO)
          else .ok (some state)

/-- The stage has a deadline that is over. -/
def due (event : TimeEvent) : Option TimeDriveState → Bool
  | none => false
  | some state => decide (state.armed ≠ 0) && decide (state.deadlineNs ≤ event.monotonicNowNs)

/-- A stage that goes on has to move its deadline. -/
def madeProgress (event : TimeEvent) (link : Link) (rc : Int) : Except Int Unit :=
  if rc = kContinue then do
    let next ← queryTimeState link
    if due event next then .error (stageError EPROTO) else .ok ()
  else
    .ok ()

/-- The loop of `OnTime`, over the stages that are left. It ends at a stage that returns stop, or
whose outputs make one of the later stages do so. -/
def timeFrom (event : TimeEvent) : Nat → List Link → List Link × Except Int (Bool × List Output)
  | 0, links => (links, .ok (false, []))
  | _ + 1, [] => ([], .ok (false, []))
  | left + 1, link :: links =>
      match queryTimeState link with
      | .error rc => (link :: links, .error rc)
      | .ok state =>
          if due event state then
            match exchange link (.onTime event) validStatus (madeProgress event) with
            | (link, .error rc) => (link :: links, .error rc)
            | (link, .ok (rc, filtered)) =>
                match propagateFrom links filtered with
                | (links, .error rc) => (link :: links, .error rc)
                | (links, .ok (downstreamStopped, propagated)) =>
                    if rc = kStop ∨ downstreamStopped then
                      (link :: links, .ok (true, propagated))
                    else
                      match timeFrom event left links with
                      | (links, .error rc) => (link :: links, .error rc)
                      | (links, .ok (stopped, outputs)) =>
                          (link :: links, .ok (stopped, propagated ++ outputs))
          else
            match timeFrom event left links with
            | (links, result) => (link :: links, result)

end Chain

/-- `SynchronousBlockTransformChainTask`. -/
structure Chain where
  links : List Link
  opened : Bool
  flushStarted : Bool := false

/-- A call, and what is in the list that its outputs shall go to. -/
inductive ChainCall where
  | processBlock (input : Option Batch) (tsMs : Int) (outputs : List Output)
  | onTime (event : TimeEvent) (outputs : List Output)
  | flush (outputs : List Output)

/-- What a call returns, and what is then in the list of the outputs. -/
structure ChainReply where
  rc : Int
  outputs : List Output
  deriving DecidableEq

namespace Chain

/-- The chain after `Open`, which succeeded or not. -/
def start (stages : List Stage) (opened : Bool) : Chain where
  links := stages.map ({ stage := · })
  opened := opened

/-- The list of a call before it runs. -/
def given : ChainCall → List Output
  | .processBlock _ _ outputs | .onTime _ outputs | .flush outputs => outputs

/-- The request is valid. -/
def admits (chain : Chain) : ChainCall → Bool
  | .processBlock input _ outputs =>
      chain.opened && input.isSome && outputs.isEmpty && !chain.flushStarted
  | .onTime event outputs =>
      chain.opened && !chain.flushStarted && outputs.isEmpty &&
        decide (kTimeEventSize ≤ event.structSize) &&
        decide (event.contractVersion = kTimeDriveVersion) &&
        decide (0 ≤ event.monotonicNowNs)
  | .flush outputs => chain.opened && outputs.isEmpty && !chain.flushStarted

/-- What an invalid request returns. -/
def refusal : ChainCall → Int
  | .processBlock _ _ _ | .onTime _ _ => - EINVAL
  | .flush _ => EINVAL

/-- The status of a call that did not fail. -/
def status (stopped : Bool) : Int := if stopped then kStop else kContinue

/-- What becomes of the stages in an admitted call, and what the call returns. -/
def perform (links : List Link) : ChainCall → List Link × Except Int (Int × List Output)
  | .processBlock input tsMs _ =>
      match propagateFrom links [{ batch := input, tsMs := tsMs }] with
      | (links, result) => (links, result.map fun (stopped, outputs) => (status stopped, outputs))
  | .onTime event _ =>
      match timeFrom event links.length links with
      | (links, result) => (links, result.map fun (stopped, outputs) => (status stopped, outputs))
  | .flush _ =>
      match flushFrom links.length links with
      | (links, result) => (links, result.map fun outputs => (0, outputs))

def isFlush : ChainCall → Bool
  | .flush _ => true
  | _ => false

/-- `ProcessBlock`, `OnTime` and `Flush`. -/
def call (chain : Chain) (request : ChainCall) : Chain × ChainReply :=
  if chain.admits request then
    match perform chain.links request with
    | (links, result) =>
        ({ chain with links := links, flushStarted := chain.flushStarted || isFlush request },
          match result with
          | .error rc => { rc := rc, outputs := given request }
          | .ok (rc, outputs) => { rc := rc, outputs := outputs })
  else
    (chain, { rc := refusal request, outputs := given request })

/-- A sequence of calls. -/
def run (chain : Chain) : List ChainCall → Chain × List ChainReply
  | [] => (chain, [])
  | request :: requests =>
      match chain.call request with
      | (chain, reply) =>
          match run chain requests with
          | (chain, replies) => (chain, reply :: replies)

/-- The earliest deadline of the stages. -/
def aggregate : List Link → Except Int (Option Int)
  | [] => .ok none
  | link :: links => do
      let state ← queryTimeState link
      let rest ← aggregate links
      pure (Option.merge min (state.bind TimeDriveState.deadline?) rest)

/-- `GetTimeDriveState`. -/
def getTimeDriveState (chain : Chain) : Except Int (Option Int) :=
  if chain.opened && !chain.flushStarted then aggregate chain.links else .error (- EINVAL)

end Chain

end Flowsql.Pipeline
