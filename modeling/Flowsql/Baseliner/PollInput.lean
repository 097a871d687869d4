import Flowsql.Baseliner.Progress
import Mathlib

/-!
# The poll input

The input reads its datasets in turn. For a new publication of a dataset it hands out the blocks of
the window up to the closed bucket, and then an empty block. The publication is confirmed when that
block is released.
-/

namespace Flowsql.Baseliner

/-! ## The source -/

/-- `PublishedDatasetProgressV1`. -/
structure PublishedProgress where
  progress : DatasetProgress := ⟨"", "", "", 0⟩
  sourcePeriodNs : Int := 0
  firstBucket : Int := 0
  deriving DecidableEq, Repr

/-- What a source has published of a dataset, the oldest first, each with its period. -/
structure PublishedSource where
  published : List (DatasetProgress × Int) := []
  /-- The earliest bucket that is retained. -/
  firstBucket : Int := 0
  deriving DecidableEq, Repr

namespace PublishedSource

/-- `ReadProgress`. The empty position selects the latest publication. -/
def readProgress (position : String) (fault : Option String) (source : PublishedSource) :
    Except String PublishedProgress :=
  let found :=
    if position = "" then source.published.getLast?
    else source.published.find? fun publication => publication.1.committedPosition = position
  match fault, found with
  | some message, _ => .error message
  | none, none => .error "missing publication position"
  | none, some publication =>
      .ok { progress := publication.1, sourcePeriodNs := publication.2
            firstBucket := source.firstBucket }

/-- A publication closes no fewer buckets than the one before. -/
def publish (publication : DatasetProgress) (periodNs : Int) (source : PublishedSource) :
    PublishedSource :=
  match source.published.getLast? with
  | some last =>
      if last.1.closedBeforeBucket ≤ publication.closedBeforeBucket then
        { source with published := source.published ++ [(publication, periodNs)] }
      else source
  | none => { source with published := [(publication, periodNs)] }

end PublishedSource

/-! ## The input -/

/-- What the input reads of the configuration of a dataset. -/
structure PollDataset where
  id : String
  beginBucket : Option Int := none
  endBucket : Option Int := none
  runIds : List String := []
  periodIncrement : Bool := false
  deriving DecidableEq, Repr

structure PollConfig where
  datasets : List PollDataset
  /-- The width of a bucket in nanoseconds. -/
  bucketNs : Int
  distinct : (datasets.map PollDataset.id).Nodup

/-- The buckets from the first one up to the last one, which is left out. -/
structure Window where
  first : Int
  last : Int
  deriving DecidableEq, Repr

/-- The bucket from which a dataset is read, if it is given. -/
def PollConfig.beginOf (config : PollConfig) (dataset : Nat) : Option Int :=
  config.datasets[dataset]?.bind PollDataset.beginBucket

/-- The bucket before which a dataset is read, if it is given. -/
def PollConfig.endOf (config : PollConfig) (dataset : Nat) : Option Int :=
  config.datasets[dataset]?.bind PollDataset.endBucket

structure DatasetState where
  datasetId : String := ""
  periodIncrement : Bool := false
  epoch : String := ""
  nextBucket : Int := 0
  sourcePeriodNs : Int := 0
  /-- The confirmed publication. There is none while its position is empty. -/
  confirmed : DatasetProgress := ⟨"", "", "", 0⟩
  deriving DecidableEq, Repr

/-- What the input has done. -/
inductive PollRecord where
  | window (dataset : Nat) (window : Window)
  | handed (block : Nat)
  | exhausted
  | boundary (dataset : Nat) (publication : DatasetProgress) (block : Nat)
  | released (block : Nat)
  deriving DecidableEq, Repr

structure PollInput where
  states : Nat → DatasetState
  frozen : PublishedProgress := {}
  /-- The window that is read. -/
  cycle : Option Window := none
  outstanding : Option Nat := none
  outstandingBoundary : Bool := false
  progressReadable : Bool := false
  dataset : Nat := 0
  cancelled : Bool := false
  finished : Bool := false
  error : String := ""
  records : List PollRecord := []

/-- `BlockPollEvent`. -/
inductive PollResult where
  | data (block : Nat)
  | timeout
  | cancelled
  | error
  deriving DecidableEq, Repr

/-- What the reader of the window answers. -/
inductive WindowAnswer where
  | block (block : Nat)
  | atEnd
  | cancelled
  | failed (message : String)
  deriving DecidableEq, Repr

/-- What is found by the calls of `PollBlock` on others. -/
structure PollAnswers where
  /-- The time of the next poll has come. -/
  elapsed : Bool := true
  /-- The reads of the latest progress that fail. -/
  latestFaults : Nat → Option String := fun _ => none
  windowFault : Option String := none
  answer : WindowAnswer := .atEnd
  boundaryFault : Option String := none
  /-- The empty block of a boundary. -/
  boundaryBlock : Nat := 0

namespace PollInput

variable (config : PollConfig) (sources : Nat → PublishedSource)

/-- `Fail`. -/
def fail (error : String) (input : PollInput) : PollResult × PollInput :=
  (if input.cancelled then .cancelled else .error, { input with error := error, finished := true })

/-- `Validate`. -/
def validate (dataset : Nat) (position : String) (fault : Option String) (input : PollInput) :
    Except String PublishedProgress :=
  let state := input.states dataset
  match (sources dataset).readProgress position fault with
  | .error message => .error message
  | .ok output =>
      if output.progress.datasetId ≠ state.datasetId ∨ output.progress.epoch ≠ state.epoch ∨
          output.progress.committedPosition = "" ∨
          output.sourcePeriodNs ≠ state.sourcePeriodNs ∨ state.nextBucket < output.firstBucket ∨
          (state.confirmed.committedPosition ≠ "" ∧
            output.progress.closedBeforeBucket < state.confirmed.closedBeforeBucket) then
        .error "poll epoch/period/retention/regression mismatch"
      else .ok output

/-- What the loop over the datasets has found. -/
inductive Scan where
  | failed (message : String)
  | unchanged
  | changed

/-- The loop of `PollBlock` over the datasets, with the number that are left. -/
def scan (faults : Nat → Option String) : Nat → PollInput → Scan × PollInput
  | 0, input => (.unchanged, input)
  | count + 1, input =>
      match input.validate sources input.dataset "" (faults input.dataset) with
      | .error message => (.failed message, input)
      | .ok frozen =>
          let input := { input with frozen := frozen }
          if frozen.progress.committedPosition ≠
              (input.states input.dataset).confirmed.committedPosition then
            (.changed, input)
          else
            scan faults count
              { input with dataset := (input.dataset + 1) % config.datasets.length }

/-- The end of `PollBlock`. -/
def handBoundary (answers : PollAnswers) (input : PollInput) : PollResult × PollInput :=
  match input.validate sources input.dataset input.frozen.progress.committedPosition
      answers.boundaryFault with
  | .error message =>
      input.fail
        (if message = "" then "frozen publication changed before confirmation" else message)
  | .ok boundary =>
      if boundary.progress.closedBeforeBucket ≠ input.frozen.progress.closedBeforeBucket then
        input.fail "frozen publication changed before confirmation"
      else
        (.data answers.boundaryBlock,
          { input with
            outstanding := some answers.boundaryBlock
            outstandingBoundary := true
            records := input.records ++
              [.boundary input.dataset input.frozen.progress answers.boundaryBlock] })

def readWindow (answers : PollAnswers) (input : PollInput) : PollResult × PollInput :=
  match answers.answer with
  | .block block =>
      (.data block,
        { input with outstanding := some block, records := input.records ++ [.handed block] })
  | .failed message => input.fail message
  | .cancelled => (.cancelled, input)
  | .atEnd =>
      { input with cycle := none, records := input.records ++ [PollRecord.exhausted] }.handBoundary
        sources answers

/-- The window of a publication, if there is one. -/
def windowOf (endBucket : Option Int) (nextBucket closedBeforeBucket : Int) : Option Window :=
  let last := min closedBeforeBucket (endBucket.getD closedBeforeBucket)
  if nextBucket < last then some ⟨nextBucket, last⟩ else none

def openWindow (answers : PollAnswers) (input : PollInput) : PollResult × PollInput :=
  match windowOf (config.endOf input.dataset) (input.states input.dataset).nextBucket
      input.frozen.progress.closedBeforeBucket with
  | none => input.handBoundary sources answers
  | some window =>
      let opened :=
        { input with
          cycle := some window
          records := input.records ++ [PollRecord.window input.dataset window] }
      match answers.windowFault with
      | some message => opened.fail message
      | none => opened.readWindow sources answers

/-- `PollBlock`. -/
def pollBlock (answers : PollAnswers) (input : PollInput) : PollResult × PollInput :=
  if input.cancelled then (.cancelled, input)
  else if input.error ≠ "" then input.fail input.error
  else if input.outstanding.isSome then (.timeout, input)
  else
    let input := { input with progressReadable := false }
    match input.cycle with
    | some _ => input.readWindow sources answers
    | none =>
        if ¬ answers.elapsed then (.timeout, input)
        else
          match input.scan config sources answers.latestFaults config.datasets.length with
          | (.failed message, input) => input.fail message
          | (.unchanged, input) => (.timeout, input)
          | (.changed, input) => input.openWindow config sources answers

/-- `ReleaseBlock`, with its code. -/
def releaseBlock (block : Nat) (input : PollInput) : Int × PollInput :=
  if input.outstanding ≠ some block then (-1, input)
  else
    let released :=
      { input with
        outstanding := none, progressReadable := true
        records := input.records ++ [.released block] }
    if input.outstandingBoundary then
      let state := input.states input.dataset
      (0, { released with
        states := Function.update input.states input.dataset { state with
          confirmed := input.frozen.progress
          nextBucket := max state.nextBucket input.frozen.progress.closedBeforeBucket }
        dataset := (input.dataset + 1) % config.datasets.length
        outstandingBoundary := false })
    else
      match input.cycle with
      | none => (-1, input)
      | some _ => (0, released)

/-- `ReadInputProgress`. -/
def readInputProgress (input : PollInput) : Option InputProgress :=
  if ¬ input.progressReadable ∨ input.outstanding.isSome ∨ input.error ≠ "" then none
  else
    let confirmed := (List.range config.datasets.length).map fun dataset =>
      (input.states dataset).confirmed
    some { datasets := confirmed.filter fun progress => progress.committedPosition ≠ "" }

/-- `PendingStarts`. -/
def pendingStarts (input : PollInput) : List (String × Int) :=
  (List.range config.datasets.length).map fun dataset =>
    ((input.states dataset).datasetId, (input.states dataset).nextBucket)

/-- `Cancel`. -/
def cancel (input : PollInput) : PollInput := { input with cancelled := true }

end PollInput

/-! ## Initialization -/

/-- What is found by the calls of `Initialize` for a dataset on others. -/
structure InitializeFaults where
  latest : Option String := none
  saved : Option String := none
  /-- The selection of the dataset is not valid. -/
  selection : Option String := none

/-- One round of the loop of `Initialize`. -/
def initialState (bucketNs : Int) (dataset : PollDataset) (restore : InputProgress)
    (pendingStarts : List (String × Int)) (sourceEpochs : List (String × String))
    (source : PublishedSource) (faults : InitializeFaults) : Except String DatasetState :=
  if 1 < dataset.runIds.length then .error "poll dataset requires one source epoch"
  else
    match source.readProgress "" faults.latest with
    | .error message => .error message
    | .ok latest =>
        let pending := pendingStarts.lookup dataset.id
        let old := restore.datasets.find? fun progress => progress.datasetId = dataset.id
        if ¬ validateProgress { datasets := [latest.progress] } [dataset.id] ∨
            latest.progress.closedBeforeBucket < latest.firstBucket ∨
            (dataset.periodIncrement ∧
              (latest.sourcePeriodNs ≤ 0 ∨ bucketNs % latest.sourcePeriodNs ≠ 0)) then
          .error "invalid source publication contract"
        else if pending.any fun start => start < latest.firstBucket then
          .error "poll pending retention gap"
        else if (sourceEpochs.lookup dataset.id).any fun epoch => epoch ≠ latest.progress.epoch then
          .error "poll pending source epoch mismatch"
        else
          let start := max latest.firstBucket (dataset.beginBucket.getD latest.firstBucket)
          let state : DatasetState :=
            { datasetId := dataset.id, periodIncrement := dataset.periodIncrement
              epoch := latest.progress.epoch, nextBucket := start
              sourcePeriodNs := latest.sourcePeriodNs }
          let restored : Except String DatasetState :=
            match old with
            | none => .ok { state with nextBucket := pending.getD start }
            | some old =>
                match source.readProgress old.committedPosition faults.saved with
                | .error message => .error message
                | .ok saved =>
                    if old.epoch ≠ state.epoch ∨ old.epoch ≠ saved.progress.epoch ∨
                        old.closedBeforeBucket ≠ saved.progress.closedBeforeBucket ∨
                        saved.sourcePeriodNs ≠ state.sourcePeriodNs ∨
                        old.closedBeforeBucket < latest.firstBucket ∨
                        latest.progress.closedBeforeBucket < old.closedBeforeBucket then
                      .error "poll restore epoch/position/retention mismatch"
                    else
                      .ok { state with
                        confirmed := old, nextBucket := max start old.closedBeforeBucket }
          match restored, faults.selection with
          | .error message, _ | .ok _, some message => .error message
          | .ok state, none => .ok state

/-- The loop of `Initialize`, from the dataset with the given number on. -/
def initialStates (bucketNs : Int) (restore : InputProgress) (pendingStarts : List (String × Int))
    (sourceEpochs : List (String × String)) (sources : Nat → PublishedSource)
    (faults : Nat → InitializeFaults) :
    Nat → List PollDataset → Except String (List DatasetState)
  | _, [] => .ok []
  | number, dataset :: later =>
      match initialState bucketNs dataset restore pendingStarts sourceEpochs (sources number)
          (faults number) with
      | .error message => .error message
      | .ok state =>
          (initialStates bucketNs restore pendingStarts sourceEpochs sources faults (number + 1)
            later).map (state :: ·)

/-- `Initialize`, after the checks of the source. -/
def PollInput.start (config : PollConfig) (restore : InputProgress)
    (pendingStarts : List (String × Int)) (sourceEpochs : List (String × String))
    (sources : Nat → PublishedSource) (faults : Nat → InitializeFaults) :
    Except String PollInput :=
  if config.datasets = [] ∨ ¬ validateProgress restore (config.datasets.map PollDataset.id) then
    .error "invalid poll restore envelope"
  else
    (initialStates config.bucketNs restore pendingStarts sourceEpochs sources faults 0
      config.datasets).map fun states => { states := fun dataset => states.getD dataset {} }

/-! ## Runs -/

inductive PollEvent where
  | publish (dataset : Nat) (publication : DatasetProgress) (periodNs : Int)
  /-- The source retains the buckets from the first one on. -/
  | retain (dataset : Nat) (firstBucket : Int)
  | pollBlock (answers : PollAnswers)
  | releaseBlock (block : Nat)
  | cancel
  /-- The progress is read. -/
  | report
  /-- A new input is initialized from the last progress that was read, and from the pending starts
  that belong to it if they were kept. -/
  | restart (pending : Bool) (sourceEpochs : List (String × String))
      (faults : Nat → InitializeFaults)

structure PollSystem where
  sources : Nat → PublishedSource
  input : PollInput
  /-- The input as it was when its progress was read last. -/
  reported : Option PollInput := none

namespace PollSystem

variable (config : PollConfig)

/-- The progress that was read last. -/
def progress (system : PollSystem) : InputProgress :=
  (system.reported.bind (PollInput.readInputProgress config)).getD {}

def report (system : PollSystem) : PollSystem :=
  if (system.input.readInputProgress config).isSome then
    { system with reported := some system.input }
  else system

def restart (pending : Bool) (sourceEpochs : List (String × String))
    (faults : Nat → InitializeFaults) (system : PollSystem) : PollSystem :=
  let pendingStarts :=
    match pending, system.reported with
    | true, some input => input.pendingStarts config
    | _, _ => []
  match PollInput.start config (system.progress config) pendingStarts sourceEpochs system.sources
      faults with
  | .error _ => system
  | .ok input => { system with input := input }

def step (system : PollSystem) : PollEvent → PollSystem
  | .publish dataset publication periodNs =>
      { system with
        sources := Function.update system.sources dataset
          ((system.sources dataset).publish publication periodNs) }
  | .retain dataset firstBucket =>
      { system with
        sources := Function.update system.sources dataset
          { system.sources dataset with firstBucket := firstBucket } }
  | .pollBlock answers =>
      { system with input := (system.input.pollBlock config system.sources answers).2 }
  | .releaseBlock block => { system with input := (system.input.releaseBlock config block).2 }
  | .cancel => { system with input := system.input.cancel }
  | .report => system.report config
  | .restart pending sourceEpochs faults => system.restart config pending sourceEpochs faults

def run (system : PollSystem) (events : List PollEvent) : PollSystem :=
  events.foldl (step config) system

end PollSystem

end Flowsql.Baseliner
