import Flowsql.Pipeline.BlockTransformRunner

/-!
# The contract of a run

What a run of the pipeline may call, given the calls it has made: a block is released before the
next poll, acknowledged once everything about it is done, and so on. The ledger keeps what the
contract needs to know of the calls and of their answers.
-/

namespace Flowsql.Pipeline

open Flowsql.Library

/-- The data block that was polled and is not released yet. -/
structure Held where
  batch : Batch
  /-- The transform has returned a valid status for it. -/
  accepted : Bool := false
  factsAccepted : Bool
  acknowledged : Bool := false
  deriving DecidableEq

/-- The requests to end that the run has seen: a read of each flag, and the source's own word. -/
structure Requests where
  cancelled : Bool := false
  stopRequested : Bool := false
  sourceCancelled : Bool := false
  deriving DecidableEq

structure Ledger where
  /-- The blocks polled and consumed, and their rows. -/
  counts : Counts := {}
  held : Option Held := none
  /-- The outputs that were returned and are not consumed yet. -/
  due : List Output := []
  /-- The first of them, after the filter. -/
  filtered : Option Output := none
  /-- The last reading of the monotonic clock, and whether none was before its predecessor. -/
  reading : Option Int := none
  ordered : Bool := true
  /-- The deadline that was armed at the last query of the time state. -/
  armed : Option Int := none
  /-- The reading at which `OnTime` went on, until the next reading. -/
  fired : Option Int := none
  /-- `ProcessBlock` or `OnTime` has returned stop. -/
  stopped : Bool := false
  /-- Something went wrong. -/
  failed : Bool := false
  requests : Requests := {}
  flushed : Bool := false
  deriving DecidableEq

namespace Runner

/-! ## What goes wrong -/

def codeFails : Except Thrown Int → Bool
  | .ok code => decide (code ≠ 0)
  | .error _ => true

def statusFails (valid : Int → Bool) (answer : Except Thrown Int × List Output) : Bool :=
  (match answer.1 with
    | .ok status => !valid status
    | .error _ => true) || answer.2.any (·.batch.isNone)

def isError {ε α : Type} : Except ε α → Bool
  | .ok _ => false
  | .error _ => true

def eventFails (config : Config) (event : BlockPollEvent) (facts : List CaptureProgress) : Bool :=
  match event.kind, event.batch with
  | .timeout, _ => facts.any (·.packetObserved)
  | .eof, _ | .cancelled, _ => !facts.isEmpty
  | .error, _ | .data, none => true
  | .data, some batch => (captureContractError config batch facts).isSome

/-- The deadline that an answer arms. -/
def armedBy (answer : Except Thrown (Int × TimeDriveState)) : Option Int :=
  match timeStateError answer, answer with
  | none, .ok (_, state) => state.deadline?
  | _, _ => none

/-- The answers that are errors, or that the run has to treat as errors. -/
def goesWrong (config : Config) (ledger : Ledger) : (query : Query) → Answer query → Bool
  | .openSourceFilter, answer => isError answer
  | .openOutputFilter, answer => isError answer
  | .openTransform, answer =>
      match answer with
      | .ok (code, schema) => decide (code ≠ 0) || !schema
      | .error _ => true
  | .openOutput, code => decide (code ≠ (0 : Int))
  | .monotonicClock, answer =>
      match answer with
      | .ok value => decide (value < 0) || ledger.reading.any (value < ·)
      | .error _ => true
  | .wallClock, answer => isError answer
  | .timeDriveState, answer =>
      (timeStateError answer).isSome ||
        ledger.fired.any fun now => (armedBy answer).any (· ≤ now)
  | .onTime _ _, answer => statusFails validStatus answer
  | .processBlock _, answer => statusFails validStatus answer
  | .flush, answer => statusFails (· = 0) answer
  | .pollBlock _, answer =>
      match answer with
      | .ok event => eventFails config event []
      | .error _ => true
  | .pollCapture _, answer =>
      match answer with
      | .ok event => !event.valid || eventFails config event.block event.progress
      | .error _ => true
  | .filterInput _, answer => isError answer
  | .filterOutput _, answer => isError answer
  | .acceptCaptureFacts _, answer => codeFails answer
  | .consumeOutput _, answer => codeFails answer
  | .acknowledgeBlock _, answer => codeFails answer
  | .releaseBlock _, answer => codeFails answer
  | .readInputProgress, answer =>
      match answer with
      | .ok (code, _) => decide (code ≠ 0)
      | .error _ => true
  | .acceptInputProgress, answer => codeFails answer
  | .stopping, _ | .cancelled, _ | .cancel, _ | .lastError, _ => false

/-! ## The ledger -/

def polled (ledger : Ledger) (event : BlockPollEvent) (facts : List CaptureProgress) : Ledger :=
  match event.kind, event.batch with
  | .data, some batch =>
      { ledger with
        counts := { ledger.counts with
          inputBlocks := ledger.counts.inputBlocks + 1
          inputRows := ledger.counts.inputRows + batch.numRows }
        held := some { batch := batch, factsAccepted := facts.isEmpty } }
  | .cancelled, _ => { ledger with requests.sourceCancelled := true }
  | _, _ => ledger

def returnsStop (answer : Except Thrown Int × List Output) : Bool :=
  match answer.1 with
  | .ok status => decide (status = kStop)
  | .error _ => false

def returnsStatus (answer : Except Thrown Int × List Output) : Bool :=
  match answer.1 with
  | .ok status => validStatus status
  | .error _ => false

def note (ledger : Ledger) : (query : Query) → Answer query → Ledger
  | .stopping, answer =>
      { ledger with requests.stopRequested := ledger.requests.stopRequested || answer }
  | .cancelled, answer =>
      { ledger with requests.cancelled := ledger.requests.cancelled || answer }
  | .monotonicClock, answer =>
      match answer with
      | .ok value =>
          { ledger with
            ordered := ledger.ordered && !ledger.reading.any (value < ·)
            reading := some value
            fired := none }
      | .error _ => ledger
  | .timeDriveState, answer => { ledger with armed := armedBy answer }
  | .onTime now _, answer =>
      { ledger with
        due := answer.2
        armed := none
        fired := if returnsStop answer then none else some now
        stopped := ledger.stopped || returnsStop answer }
  | .processBlock _, answer =>
      { ledger with
        due := answer.2
        held := ledger.held.map fun held => { held with accepted := returnsStatus answer }
        stopped := ledger.stopped || returnsStop answer }
  | .flush, answer => { ledger with due := answer.2, flushed := true }
  | .pollBlock _, answer =>
      match answer with
      | .ok event => polled ledger event []
      | .error _ => ledger
  | .pollCapture _, answer =>
      match answer with
      | .ok event => polled ledger event.block event.progress
      | .error _ => ledger
  | .acceptCaptureFacts _, answer =>
      { ledger with
        held := ledger.held.map fun held => { held with factsAccepted := !codeFails answer } }
  | .filterOutput output, answer =>
      match answer with
      | .ok batch => { ledger with filtered := some ⟨some batch, output.tsMs⟩ }
      | .error _ => ledger
  | .consumeOutput output, answer =>
      if codeFails answer then
        ledger
      else
        { ledger with
          counts := { ledger.counts with
            outputBlocks := ledger.counts.outputBlocks + 1
            outputRows := ledger.counts.outputRows +
              (match output.batch with | some batch => batch.numRows | none => 0) }
          due := ledger.due.tail
          filtered := none }
  | .acknowledgeBlock _, _ =>
      { ledger with held := ledger.held.map fun held => { held with acknowledged := true } }
  | .releaseBlock _, _ => { ledger with held := none }
  | _, _ => ledger

def record (config : Config) (ledger : Ledger) (query : Query) (answer : Answer query) : Ledger :=
  { note ledger query answer with failed := ledger.failed || goesWrong config ledger query answer }

/-! ## The laws -/

/-- The block is held, and this holds of it. -/
def holdsBlock (ledger : Ledger) (batch : Batch) (ready : Held → Bool) : Bool :=
  match ledger.held with
  | some held => decide (held.batch = batch) && ready held
  | none => false

/-- What a run may call. -/
def allowed (ledger : Ledger) : Query → Bool
  | .pollBlock _ | .pollCapture _ => ledger.held.isNone
  | .processBlock _ => !ledger.stopped
  | .onTime now _ =>
      !ledger.stopped && ledger.ordered && decide (ledger.reading = some now) &&
        ledger.armed.any (· ≤ now)
  | .filterOutput output => decide (ledger.due.head? = some output)
  | .consumeOutput output => decide (ledger.filtered = some output)
  | .acknowledgeBlock batch =>
      ledger.due.isEmpty &&
        holdsBlock ledger batch fun held =>
          held.accepted && held.factsAccepted && !held.acknowledged
  | .releaseBlock batch => holdsBlock ledger batch fun _ => true
  | .flush =>
      !ledger.flushed && !ledger.failed && !ledger.requests.cancelled && ledger.held.isNone &&
        (!ledger.requests.sourceCancelled || ledger.requests.stopRequested)
  | _ => true

/-- A request to cancel is not taken back. -/
def steady (ledger : Ledger) : (query : Query) → Answer query → Bool
  | .cancelled, answer => !ledger.requests.cancelled || answer
  | _, _ => true

/-- No data block comes with a capture event of another version, and no armed deadline is due once
the transform has returned stop. -/
def forgiving (ledger : Ledger) : (query : Query) → Answer query → Bool
  | .pollCapture _, answer =>
      match answer with
      | .ok event => event.valid || (polled {} event.block []).held.isNone
      | .error _ => true
  | .timeDriveState, answer =>
      !ledger.stopped || !(armedBy answer).any fun deadline => ledger.reading.any (deadline ≤ ·)
  | _, _ => true

/-- The laws of a run, in an environment whose answers meet a condition. -/
def laws (config : Config) (condition : Ledger → (query : Query) → Answer query → Bool) :
    Contract Query Answer Ledger where
  allowed ledger query := allowed ledger query = true
  honest ledger query answer :=
    steady ledger query answer = true ∧ condition ledger query answer = true
  record := record config

section Decidable

variable (config : Config) (condition : Ledger → (query : Query) → Answer query → Bool)

instance (ledger : Ledger) (query : Query) :
    Decidable ((laws config condition).allowed ledger query) :=
  inferInstanceAs (Decidable (_ = true))

instance (ledger : Ledger) (query : Query) (answer : Answer query) :
    Decidable ((laws config condition).honest ledger query answer) :=
  inferInstanceAs (Decidable (_ = true ∧ _ = true))

end Decidable

/-- When a run has returned: nothing is held back, what it counted is what was polled and consumed,
and it is cancelled exactly when it says so. -/
structure Closed (outcome : Outcome) (ledger : Ledger) : Prop where
  released : ledger.held = none
  counts : outcome.counts = ledger.counts
  terminal : outcome.terminal = .cancelled ↔ outcome.code = .cancelled

end Runner

end Flowsql.Pipeline
