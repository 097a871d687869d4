import Flowsql.Library.Dialogue

/-!
# The block transform pipeline

One run reads blocks from a source, filters them, hands them to a transform and delivers its
outputs. Everything outside the run is its environment: the source, the transform, the filters, the
consumer, the clocks, and the two flags that another thread may set at any time. What it calls may
also throw.
-/

namespace Flowsql.Pipeline

open Flowsql.Library

/-- `BlockTransformPipelineError`. -/
inductive PipelineError where
  | none
  | invalidArgument
  | alreadyRun
  | filterOpenFailed
  | transformOpenFailed
  | sourcePollFailed
  | sourceReleaseFailed
  | transformFailed
  | transformContractViolation
  | outputFilterFailed
  | outputConsumerFailed
  | cancelled
  deriving DecidableEq, Repr

/-- `BlockTransformPipelineTerminal`. -/
inductive Terminal where
  | completed
  | stopped
  | cancelled
  | failed
  deriving DecidableEq, Repr

/-- What the run reads of a record batch: its rows and, when its schema is the packet schema, the
source and the time of each packet. -/
structure Batch where
  numRows : Nat
  packets : Option (Vector (UInt32 × Int) numRows) := none
  deriving DecidableEq

/-- `BlockTransformOutputV1`. -/
structure Output where
  batch : Option Batch
  tsMs : Int := 0
  deriving DecidableEq

/-- `CaptureProgressV1`, as far as the run reads it. -/
structure CaptureProgress where
  sourceId : UInt32
  packetObserved : Bool
  captureTimeNs : Int
  deriving DecidableEq

inductive PollKind where
  | data
  | timeout
  | eof
  | cancelled
  | error
  deriving DecidableEq, Repr

structure BlockPollEvent where
  kind : PollKind := .timeout
  batch : Option Batch := none
  err : Int := 0
  deriving DecidableEq

/-- `CapturePollEventV2`, with the outcome of the check of its size and version. -/
structure CapturePollEvent where
  valid : Bool := true
  block : BlockPollEvent
  progress : List CaptureProgress := []
  deriving DecidableEq

/-- `BlockTransformTimeDriveStateV1`. -/
structure TimeDriveState where
  structSize : Nat
  contractVersion : Nat
  armed : Nat
  reserved : List UInt8
  deadlineNs : Int
  deriving DecidableEq

/-- The armed deadline. -/
def TimeDriveState.deadline? (state : TimeDriveState) : Option Int :=
  if state.armed = 0 then none else some state.deadlineNs

def kTimeDriveStateSize : Nat := 24

def kTimeDriveVersion : Nat := 1

/-- The statuses of a transform that are not errors. -/
def kContinue : Int := 0

def kStop : Int := 1

/-- Something was thrown, an exception with a text or anything else. -/
abbrev Thrown := Option String

def Thrown.describe (what : String) : Thrown → String
  | some text => what ++ " threw: " ++ text
  | none => what ++ " threw an unknown exception"

/-! ## The environment -/

inductive Query where
  | openSourceFilter
  | openTransform
  | openOutputFilter
  | openOutput
  /-- A read of the flags that request a stop and a cancellation. -/
  | stopping
  | cancelled
  /-- `Cancel`, which wakes whatever is waiting. -/
  | cancel
  | lastError
  | monotonicClock
  | wallClock
  | timeDriveState
  | onTime (monotonicNowNs wallNowNs : Int)
  | pollBlock (timeoutMs : Int)
  | pollCapture (timeoutMs : Int)
  | acceptCaptureFacts (facts : List CaptureProgress)
  | filterInput (batch : Batch)
  | processBlock (batch : Batch)
  | filterOutput (output : Output)
  | consumeOutput (output : Output)
  | acknowledgeBlock (batch : Batch)
  | releaseBlock (batch : Batch)
  | readInputProgress
  | acceptInputProgress
  | flush
  deriving DecidableEq

/-- Filters answer with the text of their error. The outputs of a call stay when it throws. -/
abbrev Answer : Query → Type
  | .openSourceFilter | .openOutputFilter => Except String Unit
  /- The code, and whether there is an output schema. -/
  | .openTransform => Except Thrown (Int × Bool)
  | .openOutput => Int
  | .stopping | .cancelled => Bool
  | .cancel => Unit
  | .lastError => Except Thrown String
  | .monotonicClock | .wallClock => Except Thrown Int
  | .timeDriveState => Except Thrown (Int × TimeDriveState)
  | .onTime _ _ | .processBlock _ | .flush => Except Thrown Int × List Output
  | .pollBlock _ => Except Thrown BlockPollEvent
  | .pollCapture _ => Except Thrown CapturePollEvent
  | .filterInput _ | .filterOutput _ => Except String Batch
  | .acceptCaptureFacts _ | .consumeOutput _ | .acknowledgeBlock _ | .releaseBlock _ =>
      Except Thrown Int
  /- The code, and whether there are datasets. -/
  | .readInputProgress => Except Thrown (Int × Bool)
  | .acceptInputProgress => Except Thrown Int

/-- A run up to some result. -/
abbrev Running := Program Query Answer

/-- `BlockTransformPipelineConfig`: which of its parts are there, and what they are able to do. -/
structure Config where
  hasSource : Bool := true
  hasSourceSchema : Bool := true
  hasTransform : Bool := true
  hasOutputConsumer : Bool := true
  hasTimeTransform : Bool := false
  hasCaptureFactTask : Bool := false
  hasInputProgressTask : Bool := false
  hasOutputOpen : Bool := false
  hasControl : Bool := false
  /-- The interfaces of the source. -/
  readsCapture : Bool := false
  readsInputProgress : Bool := false
  acknowledges : Bool := false
  pollTimeoutMs : Int := 100

/-- What is wrong with the configuration. -/
def Config.error? (config : Config) : Option String :=
  if !config.hasSource || !config.hasSourceSchema || !config.hasTransform ||
      !config.hasOutputConsumer || decide (config.pollTimeoutMs < 0) then
    some ("block transform pipeline requires source, source Schema, transform, " ++
      "consumer, and a non-negative poll timeout")
  else if config.readsInputProgress && !config.hasInputProgressTask then
    some "input progress consumer missing"
  else if config.hasCaptureFactTask && !config.readsCapture then
    some "capture fact task requires a capture reader"
  else
    none

/-- `BlockTransformPipelineResult`, its counts. -/
structure Counts where
  inputBlocks : Nat := 0
  inputRows : Nat := 0
  outputBlocks : Nat := 0
  outputRows : Nat := 0
  deriving DecidableEq

/-- What a run remembers between its calls. -/
structure Progress where
  counts : Counts := {}
  lastMonotonicNowNs : Int := -1
  deriving DecidableEq

structure Failure where
  code : PipelineError
  message : String
  deriving DecidableEq

/-- What a run returns. -/
structure Outcome where
  code : PipelineError
  terminal : Terminal := .failed
  counts : Counts := {}
  error : String := ""
  deriving DecidableEq

namespace Runner

def ask (query : Query) : Running (Answer query) := Program.call query

def stopping (config : Config) : Running Bool :=
  if config.hasControl then ask .stopping else pure false

/-- `stopping() && !cancelled()`. -/
def stopsOnly (config : Config) : Running Bool := do
  let stop ← stopping config
  if stop then
    let cancelled ← ask .cancelled
    pure !cancelled
  else
    pure false

/-- The return of a run that is cancelled. -/
def returnCancelled (counts : Counts) (message : String) : Running Outcome := do
  ask .cancel
  pure { code := .cancelled, terminal := .cancelled, counts := counts, error := message }

def fail (counts : Counts) (failure : Failure) : Running Outcome := do
  let cancelled ← ask .cancelled
  let wasCancelled := cancelled && decide (failure.code ≠ .transformContractViolation)
  ask .cancel
  pure
    { code := if wasCancelled then .cancelled else failure.code
      terminal := if wasCancelled then .cancelled else .failed
      counts := counts
      error := failure.message }

def transformError : Running String := do
  match ← ask .lastError with
  | .ok detail =>
      pure (if detail.isEmpty then "transform did not provide an error message" else detail)
  | .error _ => pure "transform did not provide an error message"

/-- The text of an error of a filter, or what stands for it. -/
def orText (text fallback : String) : String := if text.isEmpty then fallback else text

/-! ## Outputs -/

/-- The loop of `deliver_outputs`. -/
def deliverEach : List Output → Progress → Running (Progress × Except Failure Unit)
  | [], progress => pure (progress, .ok ())
  | output :: rest, progress => do
      match ← ask (.filterOutput output) with
      | .error text =>
          pure (progress, .error ⟨.outputFilterFailed, "transform residual filter failed: " ++
            orText text "transform residual filter failed"⟩)
      | .ok batch =>
          match ← ask (.consumeOutput ⟨some batch, output.tsMs⟩) with
          | .error thrown =>
              pure (progress,
                .error ⟨.outputConsumerFailed, Thrown.describe "output consumer" thrown⟩)
          | .ok code =>
              if code ≠ 0 then
                pure (progress, .error ⟨.outputConsumerFailed,
                  "output consumer failed with code " ++ toString code⟩)
              else
                deliverEach rest
                  { progress with
                    counts := { progress.counts with
                      outputBlocks := progress.counts.outputBlocks + 1
                      outputRows := progress.counts.outputRows + batch.numRows } }

def deliverOutputs (outputs : List Output) (progress : Progress) :
    Running (Progress × Except Failure Unit) :=
  if outputs.any (·.batch.isNone) then
    pure (progress, .error ⟨.transformContractViolation,
      "transform returned a null output batch"⟩)
  else
    deliverEach outputs progress

/-- The outcome of a call of the transform: its status, unless it threw or failed. -/
def checkStatus (what : String) (valid : Int → Bool) :
    Except Thrown Int × List Output → Running (Except Failure Int)
  | (.error thrown, outputs) =>
      pure (.error ⟨if outputs.isEmpty then .transformFailed else .transformContractViolation,
        Thrown.describe ("transform " ++ what) thrown⟩)
  | (.ok status, outputs) =>
      if valid status then
        pure (.ok status)
      else if !outputs.isEmpty then
        pure (.error ⟨.transformContractViolation,
          "transform " ++ what ++ " failed while returning output batches"⟩)
      else do
        let detail ← transformError
        pure (.error ⟨.transformFailed, "transform " ++ what ++ " failed: " ++ detail⟩)

def validStatus (status : Int) : Bool := decide (status = kContinue ∨ status = kStop)

/-! ## Time -/

def readMonotonicNow (progress : Progress) : Running (Progress × Except String Int) := do
  match ← ask .monotonicClock with
  | .error thrown => pure (progress, .error (Thrown.describe "monotonic clock" thrown))
  | .ok value =>
      if value < 0 then
        pure (progress, .error "monotonic clock returned a negative timestamp")
      else if 0 ≤ progress.lastMonotonicNowNs ∧ value < progress.lastMonotonicNowNs then
        pure (progress, .error "monotonic clock moved backwards")
      else
        pure ({ progress with lastMonotonicNowNs := value }, .ok value)

def readWallNow : Running (Except String Int) := do
  match ← ask .wallClock with
  | .error thrown => pure (.error (Thrown.describe "wall clock" thrown))
  | .ok value => pure (.ok value)

/-- What `get_time_state` finds wrong with the answer. -/
def timeStateError : Except Thrown (Int × TimeDriveState) → Option String
  | .error thrown => some (Thrown.describe "time state query" thrown)
  | .ok (code, state) =>
      if code ≠ 0 then
        some ("time state query failed with code " ++ toString code)
      else if state.structSize < kTimeDriveStateSize ∨ state.contractVersion ≠ kTimeDriveVersion ∨
          1 < state.armed then
        some "time state returned an invalid structure, version, or armed flag"
      else if state.reserved.any (· ≠ 0) then
        some "time state returned nonzero reserved bytes"
      else if state.armed = 1 ∧ state.deadlineNs < 0 then
        some "time state returned a negative armed deadline"
      else
        none

/-- `get_time_state`, of which only the armed deadline is used. -/
def getTimeState : Running (Except String (Option Int)) := do
  let answer ← ask .timeDriveState
  match timeStateError answer, answer with
  | some message, _ => pure (.error message)
  | none, .error _ => pure (.ok none)
  | none, .ok (_, state) => pure (.ok (state.deadline?))

/-- What `service_time` sets. -/
structure TimeService where
  pollTimeoutMs : Int
  fired : Bool := false
  timeStopped : Bool := false

/-- The outputs of `OnTime` are delivered. -/
def deliverTime (config : Config) (status : Int) (outputs : List Output) (progress : Progress) :
    Running (Progress × Except Failure TimeService) := do
  match ← deliverOutputs outputs progress with
  | (progress, .error failure) => pure (progress, .error failure)
  | (progress, .ok ()) => pure (progress, .ok ⟨config.pollTimeoutMs, true, status = kStop⟩)

/-- After `OnTime` has returned: when it goes on, its deadline must have moved. -/
def finishTime (config : Config) (status now : Int) (outputs : List Output) (progress : Progress) :
    Running (Progress × Except Failure TimeService) := do
  if status = kContinue then
    match ← getTimeState with
    | .error message => pure (progress, .error ⟨.transformContractViolation, message⟩)
    | .ok deadline =>
        if deadline.any (· ≤ now) then
          pure (progress, .error ⟨.transformContractViolation,
            "transform OnTime made no deadline progress"⟩)
        else
          deliverTime config status outputs progress
  else
    deliverTime config status outputs progress

/-- An armed deadline that is due. -/
def fireTime (config : Config) (now : Int) (progress : Progress) :
    Running (Progress × Except Failure TimeService) := do
  match ← readWallNow with
  | .error message => pure (progress, .error ⟨.transformContractViolation, message⟩)
  | .ok wallNow =>
      let answer ← ask (.onTime now wallNow)
      match ← checkStatus "OnTime" validStatus answer with
      | .error failure => pure (progress, .error failure)
      | .ok status => finishTime config status now answer.2 progress

def serviceTime (config : Config) (progress : Progress) :
    Running (Progress × Except Failure TimeService) := do
  if !config.hasTimeTransform then
    pure (progress, .ok ⟨config.pollTimeoutMs, false, false⟩)
  else
    match ← readMonotonicNow progress with
    | (progress, .error message) =>
        pure (progress, .error ⟨.transformContractViolation, message⟩)
    | (progress, .ok now) =>
        match ← getTimeState with
        | .error message => pure (progress, .error ⟨.transformContractViolation, message⟩)
        | .ok none => pure (progress, .ok ⟨config.pollTimeoutMs, false, false⟩)
        | .ok (some deadline) =>
            if now < deadline then
              pure (progress, .ok ⟨min config.pollTimeoutMs ((deadline - now) / 1000000),
                false, false⟩)
            else
              fireTime config now progress

/-! ## One block -/

/-- The greatest time of the packets of a source. -/
def latest (packets : List (UInt32 × Int)) (source : UInt32) : Option Int :=
  ((packets.filter (·.1 = source)).map Prod.snd).max?

/-- Whether a fact claims a source or a time that the packets do not prove, or a source twice. -/
def factsExceed (packets : List (UInt32 × Int)) : List CaptureProgress → List UInt32 → Bool
  | [], _ => false
  | fact :: rest, proven =>
      if !fact.packetObserved then
        factsExceed packets rest proven
      else
        match latest packets fact.sourceId with
        | none => true
        | some time =>
            if time < fact.captureTimeNs || proven.contains fact.sourceId then
              true
            else
              factsExceed packets rest (fact.sourceId :: proven)

def captureContractError (config : Config) (batch : Batch) (facts : List CaptureProgress) :
    Option String :=
  if config.hasCaptureFactTask then
    match batch.packets with
    | none => some "capture data is missing packet progress"
    | some packets =>
        if factsExceed packets.toList facts [] then
          some "capture fact time exceeds processed packet time or source is invalid"
        else
          none
  else
    none

/-- The call of the transform, with its status and its outputs. -/
def processBlock (filtered : Batch) : Running (Except Failure (Int × List Output)) := do
  let answer ← ask (.processBlock filtered)
  match ← checkStatus "ProcessBlock" validStatus answer with
  | .error failure => pure (.error failure)
  | .ok status => pure (.ok (status, answer.2))

/-- The filter before the transform, and the transform. -/
def transformBlock (config : Config) (batch : Batch) (facts : List CaptureProgress) :
    Running (Except Failure (Int × List Output)) :=
  match captureContractError config batch facts with
  | some message => pure (.error ⟨.sourcePollFailed, message⟩)
  | none => do
      let cancelled ← ask .cancelled
      if cancelled then
        pure (.error ⟨.cancelled, "block transform pipeline was cancelled"⟩)
      else
        match ← ask (.filterInput batch) with
        | .error text =>
            pure (.error ⟨.outputFilterFailed, "source residual filter failed: " ++
              orText text "source residual filter failed"⟩)
        | .ok filtered => processBlock filtered

/-- The facts that came with a block or with an empty poll. -/
def acceptFacts (facts : List CaptureProgress) : Running (Except Failure Unit) := do
  match ← ask (.acceptCaptureFacts facts) with
  | .error _ => pure (.error ⟨.transformFailed, "capture fact delivery threw"⟩)
  | .ok code =>
      if code ≠ 0 then
        pure (.error ⟨.transformFailed,
          "capture fact delivery failed with code " ++ toString code⟩)
      else
        pure (.ok ())

def acknowledge (config : Config) (batch : Batch) : Running (Except Failure Unit) := do
  if !config.acknowledges then
    pure (.ok ())
  else
    match ← ask (.acknowledgeBlock batch) with
    | .error _ => pure (.error ⟨.sourceReleaseFailed, "block source acknowledgement threw"⟩)
    | .ok code =>
        if code ≠ 0 then
          pure (.error ⟨.sourceReleaseFailed, "block source acknowledgement failed"⟩)
        else
          pure (.ok ())

/-- After the outputs of a block: time events, when it came with facts, and the acknowledgement.
The status is the one that counts for the run. -/
def confirmBlock (config : Config) (batch : Batch) (facts : List CaptureProgress) (status : Int)
    (progress : Progress) : Running (Progress × Except Failure Int) := do
  if facts.isEmpty then
    match ← acknowledge config batch with
    | .error failure => pure (progress, .error failure)
    | .ok () => pure (progress, .ok status)
  else
    match ← serviceTime config progress with
    | (progress, .error failure) => pure (progress, .error failure)
    | (progress, .ok service) =>
        match ← acknowledge config batch with
        | .error failure => pure (progress, .error failure)
        | .ok () => pure (progress, .ok (if service.timeStopped then kStop else status))

/-- Everything that is done with a block before its release. -/
def handleBlock (config : Config) (batch : Batch) (facts : List CaptureProgress)
    (progress : Progress) : Running (Progress × Except Failure Int) := do
  match ← transformBlock config batch facts with
  | .error failure => pure (progress, .error failure)
  | .ok (status, outputs) =>
      match ← (if facts.isEmpty then pure (.ok ()) else acceptFacts facts) with
      | .error failure => pure (progress, .error failure)
      | .ok () =>
          match ← deliverOutputs outputs progress with
          | (progress, .error failure) => pure (progress, .error failure)
          | (progress, .ok ()) => confirmBlock config batch facts status progress

/-- The release, whose failure replaces what went wrong before. -/
def releaseBlock (batch : Batch) (handled : Except Failure Int) :
    Running (Except Failure Int) := do
  match ← ask (.releaseBlock batch) with
  | .error thrown =>
      pure (.error ⟨.sourceReleaseFailed, Thrown.describe "block source ReleaseBlock" thrown⟩)
  | .ok code =>
      if code ≠ 0 then
        pure (.error ⟨.sourceReleaseFailed,
          "block source ReleaseBlock failed with code " ++ toString code⟩)
      else
        pure handled

/-- The input progress of the source, after the release. -/
def passInputProgress (config : Config) : Running (Except Failure Unit) := do
  let failed := Failure.mk .transformFailed "input progress delivery failed"
  let threw := Failure.mk .transformFailed "input progress delivery threw"
  if !config.readsInputProgress then
    pure (.ok ())
  else
    match ← ask .readInputProgress with
    | .error _ => pure (.error threw)
    | .ok (code, datasets) =>
        if code ≠ 0 then
          pure (.error failed)
        else if !datasets then
          pure (.ok ())
        else
          match ← ask .acceptInputProgress with
          | .error _ => pure (.error threw)
          | .ok code => pure (if code ≠ 0 then .error failed else .ok ())

/-! ## The loop -/

/-- How the loop is left: to the end of the run, or out of it. -/
inductive Exit where
  | leave (stopped : Bool) (progress : Progress)
  | return_ (outcome : Outcome)

abbrev Round := Running (Progress ⊕ Exit)

def failRound (progress : Progress) (failure : Failure) : Round := do
  let outcome ← fail progress.counts failure
  pure (.inr (.return_ outcome))

def cancelRound (progress : Progress) (message : String) : Round := do
  let outcome ← returnCancelled progress.counts message
  pure (.inr (.return_ outcome))

def dataRound (config : Config) (batch : Batch) (facts : List CaptureProgress)
    (progress : Progress) : Round := do
  let counted :=
    { progress with
      counts := { progress.counts with
        inputBlocks := progress.counts.inputBlocks + 1
        inputRows := progress.counts.inputRows + batch.numRows } }
  let (progress, handled) ← handleBlock config batch facts counted
  match ← releaseBlock batch handled with
  | .error failure =>
      if failure.code = .cancelled then
        cancelRound progress failure.message
      else
        failRound progress failure
  | .ok status =>
      match ← passInputProgress config with
      | .error failure => failRound progress failure
      | .ok () =>
          if status = kStop then
            pure (.inr (.leave true progress))
          else
            pure (.inl progress)

def timeoutRound (facts : List CaptureProgress) (progress : Progress) : Round := do
  if facts.isEmpty then
    pure (.inl progress)
  else if facts.any (·.packetObserved) then
    failRound progress ⟨.sourcePollFailed, "empty capture poll claimed a packet"⟩
  else
    match ← acceptFacts facts with
    | .error failure => failRound progress failure
    | .ok () => pure (.inl progress)

def cancelledText (err : Int) : String :=
  if err ≠ 0 then "block source was cancelled with code " ++ toString err
  else "block source was cancelled"

def eventRound (config : Config) (event : BlockPollEvent) (facts : List CaptureProgress)
    (progress : Progress) : Round := do
  if event.kind = .timeout then
    timeoutRound facts progress
  else if !facts.isEmpty && decide (event.kind ≠ .data) then
    failRound progress ⟨.sourcePollFailed,
      "capture terminal event carried an unexpected progress fact"⟩
  else if event.kind = .eof then
    pure (.inr (.leave false progress))
  else if event.kind = .cancelled then
    let stop ← stopsOnly config
    if stop then
      pure (.inr (.leave true progress))
    else
      cancelRound progress (cancelledText event.err)
  else if event.kind = .error then
    failRound progress ⟨.sourcePollFailed,
      "block source PollBlock failed with code " ++ toString event.err⟩
  else
    match event.batch with
    | none =>
        failRound progress ⟨.sourcePollFailed, "block source returned an invalid data event"⟩
    | some batch => dataRound config batch facts progress

def pollRound (config : Config) (timeoutMs : Int) (progress : Progress) : Round := do
  if config.hasCaptureFactTask then
    match ← ask (.pollCapture timeoutMs) with
    | .error thrown =>
        failRound progress ⟨.sourcePollFailed, Thrown.describe "block source PollBlock" thrown⟩
    | .ok event =>
        if !event.valid then
          failRound progress ⟨.sourcePollFailed, "capture poll contract version is invalid"⟩
        else
          eventRound config event.block event.progress progress
  else
    match ← ask (.pollBlock timeoutMs) with
    | .error thrown =>
        failRound progress ⟨.sourcePollFailed, Thrown.describe "block source PollBlock" thrown⟩
    | .ok event => eventRound config event [] progress

def round (config : Config) (progress : Progress) : Round := do
  let stop ← stopsOnly config
  if stop then
    pure (.inr (.leave true progress))
  else
    let cancelled ← ask .cancelled
    if cancelled then
      cancelRound progress "block transform pipeline was cancelled"
    else
      match ← serviceTime config progress with
      | (progress, .error failure) => failRound progress failure
      | (progress, .ok service) =>
          if service.timeStopped then
            pure (.inr (.leave true progress))
          else if service.fired then
            pure (.inl progress)
          else
            pollRound config service.pollTimeoutMs progress

/-! ## The run -/

def flush (stopped : Bool) (progress : Progress) : Running Outcome := do
  let answer ← ask .flush
  match ← checkStatus "Flush" (· = 0) answer with
  | .error failure => fail progress.counts failure
  | .ok _ =>
      match ← deliverOutputs answer.2 progress with
      | (progress, .error failure) => fail progress.counts failure
      | (progress, .ok ()) =>
          pure
            { code := .none
              terminal := if stopped then .stopped else .completed
              counts := progress.counts }

/-- After the loop: `Flush`, unless the run was cancelled. -/
def finish (stopped : Bool) (progress : Progress) : Running Outcome := do
  let cancelled ← ask .cancelled
  if cancelled then
    returnCancelled progress.counts "block transform pipeline was cancelled before Flush"
  else
    flush stopped progress

def openTransform : Running (Except Failure Unit) := do
  match ← ask .openTransform with
  | .error thrown =>
      pure (.error ⟨.transformOpenFailed, Thrown.describe "transform Open" thrown⟩)
  | .ok (code, schema) =>
      if code ≠ 0 then
        let detail ← transformError
        pure (.error ⟨.transformOpenFailed, "transform Open failed: " ++ detail⟩)
      else if !schema then
        pure (.error ⟨.transformOpenFailed, "transform Open succeeded without an output Schema"⟩)
      else
        pure (.ok ())

/-- The output filter and the sink. -/
def openOutputs (config : Config) : Running (Except Failure Unit) := do
  match ← ask .openOutputFilter with
  | .error text =>
      pure (.error ⟨.filterOpenFailed, "transform residual filter Open failed: " ++
        orText text "transform residual filter could not open"⟩)
  | .ok () =>
      if !config.hasOutputOpen then
        pure (.ok ())
      else
        let code ← ask .openOutput
        if code ≠ (0 : Int) then
          pure (.error ⟨.outputConsumerFailed, "result sink Open failed"⟩)
        else
          pure (.ok ())

/-- The filters, the transform and the sink are opened. -/
def openStages (config : Config) : Running (Except Failure Unit) := do
  match ← ask .openSourceFilter with
  | .error text =>
      pure (.error ⟨.filterOpenFailed, "source residual filter Open failed: " ++
        orText text "source residual filter could not open"⟩)
  | .ok () =>
      match ← openTransform with
      | .error failure => pure (.error failure)
      | .ok () => openOutputs config

/-- `Run`, for as many rounds as there is fuel; `runStarted` says whether it was called before. -/
def run (config : Config) (runStarted : Bool) (fuel : Nat) : Running (Option Outcome) :=
  match config.error? with
  | some message => pure (some { code := .invalidArgument, error := message })
  | none =>
      if runStarted then
        pure (some { code := .alreadyRun, error := "block transform pipeline can only run once" })
      else do
        let cancelled ← ask .cancelled
        if cancelled then
          pure (some
            { code := .cancelled, terminal := .cancelled,
              error := "block transform pipeline was cancelled before Run" })
        else
          match ← openStages config with
          | .error failure => some <$> fail {} failure
          | .ok () =>
              match ← Program.loop (round config) fuel {} with
              | none => pure none
              | some (.return_ outcome) => pure (some outcome)
              | some (.leave stopped progress) => some <$> finish stopped progress

end Runner

end Flowsql.Pipeline
