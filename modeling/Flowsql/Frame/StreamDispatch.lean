import Flowsql.Frame.DataFrame
import Mathlib

/-!
# Dispatching a data frame into partitions

The operator puts the rows of a data frame into the partitions of a stream hub: row by row through a
buffer for each partition, or as slices of the batch. What it is to do is configured call by call, and
checked when it works.
-/

namespace Flowsql.Frame

inductive DispatchStrategy where
  | roundRobin
  | hash
  | range
  deriving DecidableEq

structure DispatchConfig where
  hasStrategy : Bool := false
  strategy : DispatchStrategy := .range
  hasFieldName : Bool := false
  fieldName : String := ""
  hasRangeRows : Bool := false
  rangeRows : Int := 0
  emitBatchRows : Int := 256
  keys : List String := []

structure EffectiveConfig where
  strategy : DispatchStrategy
  fieldName : String := ""
  /-- `range_rows`, unless `range_auto`. -/
  rangeRows : Option { rows : Nat // 0 < rows } := none
  emitBatchRows : Int

structure DataframeDispatchStreamOperator where
  cfg : DispatchConfig := {}
  invalidKey : String := ""
  lastError : String := ""

/-- The characters that `strtoll` skips. -/
def isSpace (character : Char) : Bool :=
  [' ', '\t', '\n', '\x0b', '\x0c', '\r'].contains character

/-- `std::strtoll`, where nothing is left behind the number. It saturates. -/
def strtoll (value : String) : Option Int :=
  let (negative, digits) := match value.toList.dropWhile isSpace with
    | '-' :: digits => (true, digits)
    | '+' :: digits => (false, digits)
    | digits => (false, digits)
  if digits.isEmpty || !digits.all Char.isDigit then none
  else
    let magnitude : Int := digits.foldl (fun number digit => number * 10 + (digit.toNat - 48)) 0
    some (max (-2 ^ 63) (min (2 ^ 63 - 1) (if negative then -magnitude else magnitude)))

namespace DataframeDispatchStreamOperator

variable (operator : DataframeDispatchStreamOperator)

def setError (code message : String) : DataframeDispatchStreamOperator :=
  { operator with lastError := "[" ++ code ++ "] " ++ message }

/-- `Configure`. It returns 0 in any case. -/
def configure (key value : String) : DataframeDispatchStreamOperator :=
  let k := key.toLower
  let cfg := { operator.cfg with keys := operator.cfg.keys.insert k }
  let v := value.toLower
  if k = "strategy" then
    let cfg := { cfg with hasStrategy := true }
    if v = "round_robin" then { operator with cfg := { cfg with strategy := .roundRobin } }
    else if v = "hash" then { operator with cfg := { cfg with strategy := .hash } }
    else if v = "range" then { operator with cfg := { cfg with strategy := .range } }
    else { operator with cfg := cfg }.setError "DATAFRAME_DISPATCH_INVALID_STRATEGY"
      ("invalid strategy: " ++ value)
  else if k = "field_name" then
    { operator with cfg := { cfg with hasFieldName := true, fieldName := value } }
  else if k = "range_rows" then
    if v = "auto" then { operator with cfg := { cfg with hasRangeRows := false, rangeRows := 0 } }
    else
      match strtoll value with
      | none => { operator with cfg := cfg }.setError "DATAFRAME_DISPATCH_RANGE_ROWS_INVALID"
          "range_rows must be integer > 0 or auto"
      | some parsed => { operator with cfg := { cfg with hasRangeRows := true, rangeRows := parsed } }
  else if k = "emit_batch_rows" then
    match strtoll value with
    | none => { operator with cfg := cfg }.setError "DATAFRAME_DISPATCH_INVALID_PARAMETER"
        "emit_batch_rows must be integer > 0"
    | some parsed =>
        if parsed ≤ 0 then { operator with cfg := cfg }.setError
          "DATAFRAME_DISPATCH_INVALID_PARAMETER" "emit_batch_rows must be integer > 0"
        else { operator with cfg := { cfg with emitBatchRows := parsed } }
  else { operator with cfg := cfg, invalidKey := key }

/-- Why the configuration is refused, by the code and the message of the error. -/
def resolveEffectiveConfig : Except (Option (String × String)) EffectiveConfig :=
  let cfg := operator.cfg
  if operator.invalidKey ≠ "" then
    .error (some ("DATAFRAME_DISPATCH_INVALID_PARAMETER",
      "unsupported WITH parameter: " ++ operator.invalidKey))
  else if operator.lastError ≠ "" then .error none
  else
    let hasBusinessParam := cfg.keys.any fun key =>
      key = "strategy" || key = "field_name" || key = "range_rows"
    let emitBatchRows := max 1 cfg.emitBatchRows
    if !cfg.hasStrategy then
      if !hasBusinessParam then .ok { strategy := .range, emitBatchRows := emitBatchRows }
      else if cfg.hasFieldName && !cfg.hasRangeRows && cfg.keys.length = 1 then
        .ok { strategy := .hash, fieldName := cfg.fieldName, emitBatchRows := emitBatchRows }
      else .error (some ("DATAFRAME_DISPATCH_STRATEGY_REQUIRED",
        "strategy is required unless no params or only field_name is provided"))
    else
      match cfg.strategy with
      | .roundRobin =>
          if cfg.hasFieldName || cfg.hasRangeRows then
            .error (some ("DATAFRAME_DISPATCH_PARAM_CONFLICT",
              "round_robin does not accept field_name/range_rows"))
          else .ok { strategy := .roundRobin, emitBatchRows := emitBatchRows }
      | .hash =>
          if !cfg.hasFieldName || cfg.fieldName = "" then
            .error (some ("DATAFRAME_DISPATCH_FIELD_REQUIRED",
              "field_name is required for strategy=hash"))
          else if cfg.hasRangeRows then
            .error (some ("DATAFRAME_DISPATCH_PARAM_CONFLICT",
              "strategy=hash does not accept range_rows"))
          else .ok { strategy := .hash, fieldName := cfg.fieldName, emitBatchRows := emitBatchRows }
      | .range =>
          if cfg.hasFieldName then
            .error (some ("DATAFRAME_DISPATCH_PARAM_CONFLICT",
              "strategy=range does not accept field_name"))
          else if !cfg.hasRangeRows then .ok { strategy := .range, emitBatchRows := emitBatchRows }
          else if positive : 0 < cfg.rangeRows.toNat then
            .ok { strategy := .range, rangeRows := some ⟨cfg.rangeRows.toNat, positive⟩,
                  emitBatchRows := emitBatchRows }
          else .error (some ("DATAFRAME_DISPATCH_RANGE_ROWS_INVALID", "range_rows must be > 0"))

end DataframeDispatchStreamOperator

/-! ## Hashes -/

def littleEndian (width number : Nat) : List UInt8 :=
  (List.range width).map fun index => UInt8.ofNat (number / 256 ^ index)

/-- The bytes of a value that are hashed. -/
def hashedBytes : FieldValue → List UInt8
  | .int32 value => littleEndian 4 value.toUInt32.toNat
  | .int64 value => littleEndian 8 value.toUInt64.toNat
  | .uint32 value => littleEndian 4 value.toNat
  | .uint64 value => littleEndian 8 value.toNat
  | .float bits => littleEndian 4 bits.toNat
  | .double bits => littleEndian 8 bits.toNat
  | .string bytes => bytes
  | .bytes bytes => bytes
  | .bool value => [if value then 1 else 0]

def fnv1aUpdate (state : UInt64) (data : List UInt8) : UInt64 :=
  data.foldl (fun state byte => (state ^^^ byte.toUInt64) * 1099511628211) state

def hashFieldValue (value : FieldValue) : UInt64 :=
  fnv1aUpdate 14695981039346656037 (hashedBytes value)

/-! ## Rows through buffers -/

/-- The batches that partitions have taken. -/
abbrev Puts := List (Nat × RecordBatch)

/-- The buffer of a partition, and the rows it counts. -/
structure Lane where
  buffer : DataFrame
  pendingRows : Nat := 0

structure DispatchState where
  lanes : Nat → Lane
  puts : Puts := []

section

variable (answer : Nat → Int)

/-- `FlushPartitionBuffer`. The answer to a put depends on how many there were before. -/
def flushPartitionBuffer (buffer : DataFrame) (schema : List Field) (partition : Nat) (puts : Puts) :
    Int × DataFrame × Puts :=
  let (rows, buffer) := buffer.rowCount
  if rows = 0 then (0, buffer, puts)
  else
    match buffer.toArrow with
    | (none, buffer) => (-1, buffer, puts)
    | (some batch, buffer) =>
        if answer puts.length ≠ 0 then (answer puts.length, buffer, puts)
        else (0, buffer.clear.setSchema schema, puts ++ [(partition, batch)])

variable (emitBatchRows : Int) (schema : List Field)

/-- The body of the loop over the rows. -/
def dispatchRow (partition : Nat) (row : List FieldValue) (state : DispatchState) :
    Append × DispatchState :=
  let lane := state.lanes partition
  match lane.buffer.appendRow row with
  | (.returned 0, buffer) =>
      let pendingRows := lane.pendingRows + 1
      if emitBatchRows ≤ pendingRows then
        match flushPartitionBuffer answer buffer schema partition state.puts with
        | (0, buffer, puts) =>
            (.returned 0, { lanes := Function.update state.lanes partition ⟨buffer, 0⟩, puts := puts })
        | (rc, buffer, puts) =>
            (.returned rc,
              { lanes := Function.update state.lanes partition ⟨buffer, pendingRows⟩, puts := puts })
      else
        (.returned 0,
          { state with lanes := Function.update state.lanes partition ⟨buffer, pendingRows⟩ })
  | (.returned _, buffer) =>
      (.returned (-1),
        { state with lanes := Function.update state.lanes partition ⟨buffer, lane.pendingRows⟩ })
  | (outcome, buffer) =>
      (outcome, { state with lanes := Function.update state.lanes partition ⟨buffer, lane.pendingRows⟩ })

/-- The loop over the rows. -/
def dispatchRowsFrom (data : DataFrame) (partitionOf : Nat → Nat) :
    List Nat → DispatchState → Append × DispatchState
  | [], state => (.returned 0, state)
  | index :: rest, state =>
      match dispatchRow answer emitBatchRows schema (partitionOf index) (data.getRow index).1 state with
      | (.returned 0, state) => dispatchRowsFrom data partitionOf rest state
      | (outcome, state) => (outcome, state)

/-- The loop over the partitions, for what is left in their buffers. -/
def flushRest : List Nat → DispatchState → Append × DispatchState
  | [], state => (.returned 0, state)
  | partition :: rest, state =>
      let lane := state.lanes partition
      if lane.pendingRows = 0 then flushRest rest state
      else
        match flushPartitionBuffer answer lane.buffer schema partition state.puts with
        | (0, buffer, puts) =>
            flushRest rest { lanes := Function.update state.lanes partition ⟨buffer, 0⟩, puts := puts }
        | (rc, buffer, puts) =>
            (.returned rc,
              { lanes := Function.update state.lanes partition ⟨buffer, lane.pendingRows⟩, puts := puts })

end

section

variable (answer : Nat → Int) (data : DataFrame) (cfg : EffectiveConfig) (n : Nat)

/-- What the round robin and the hash share: rows go to partitions, by their indices. -/
def dispatchBuffered (partitionOf : Nat → Nat) : Append × Puts :=
  let schema := data.getSchema
  let state : DispatchState := { lanes := fun _ => ⟨({} : DataFrame).setSchema schema, 0⟩ }
  let indices := List.range data.rowCount.1.toNat
  match dispatchRowsFrom answer cfg.emitBatchRows schema data partitionOf indices state with
  | (.returned 0, state) =>
      let (outcome, state) := flushRest answer schema (List.range n) state
      (outcome, state.puts)
  | (outcome, state) => (outcome, state.puts)

def dispatchRoundRobin : Append × Puts :=
  dispatchBuffered answer data cfg n fun index => index % n

/-- The partition of a value. -/
def hashPartition (value : FieldValue) : Nat :=
  (hashFieldValue value).toNat % n

/-- `DispatchHash`, with the error it sets. -/
def dispatchHash : Option (String × String) × Append × Puts :=
  let values := (data.getColumn cfg.fieldName).1
  if (values = [] ∧ 0 < data.rowCount.1) ∨ toInt32 values.length ≠ data.rowCount.1 then
    (some ("DATAFRAME_DISPATCH_FIELD_NOT_FOUND", "field not found: " ++ cfg.fieldName),
      .returned (-1), [])
  else
    (none, dispatchBuffered answer data cfg n fun index =>
      hashPartition n (values.getD index (.bool false)))

/-! ## Slices -/

/-- `RecordBatch::Slice`, inside the batch. -/
def RecordBatch.slice (batch : RecordBatch) (offset length : Nat) : RecordBatch where
  schema := batch.schema
  numRows := length
  columns := batch.columns.map fun column => (column.drop offset).take length

/-- The loop over runs of `range_rows` rows. -/
def putRuns (batch : RecordBatch) (rangeRows : { rows : Nat // 0 < rows }) (start : Nat)
    (puts : Puts) : Append × Puts :=
  if start < batch.numRows then
    let len := min rangeRows.1 (batch.numRows - start)
    let p := start / rangeRows.1 % n
    if answer puts.length ≠ 0 then (.returned (answer puts.length), puts)
    else putRuns batch rangeRows (start + rangeRows.1) (puts ++ [(p, batch.slice start len)])
  else (.returned 0, puts)
termination_by batch.numRows - start
decreasing_by
  have := rangeRows.2
  omega

/-- The loop over partitions that take shares of about one size. -/
def putShares (batch : RecordBatch) : List Nat → Nat → Puts → Append × Puts
  | [], _, puts => (.returned 0, puts)
  | p :: rest, offset, puts =>
      let len := batch.numRows / n + if p < batch.numRows % n then 1 else 0
      if len = 0 then putShares batch rest offset puts
      else if answer puts.length ≠ 0 then (.returned (answer puts.length), puts)
      else putShares batch rest (offset + len) (puts ++ [(p, batch.slice offset len)])

def dispatchRange : Append × Puts :=
  match data.toArrow with
  | (none, data) => if 0 < data.rowCount.1 then (.returned (-1), []) else (.returned 0, [])
  | (some batch, data) =>
      if data.rowCount.1 = 0 then (.returned 0, [])
      else
        match cfg.rangeRows with
        | some rangeRows => putRuns answer n batch rangeRows 0 []
        | none => putShares answer n batch (List.range n) 0 []

/-- The dispatch by the strategy, with the error it sets. -/
def dispatch : Option (String × String) × Append × Puts :=
  match cfg.strategy with
  | .roundRobin => (none, dispatchRoundRobin answer data cfg n)
  | .hash => dispatchHash answer data cfg n
  | .range => (none, dispatchRange answer data cfg n)

end

/-! ## Work -/

/-- A sink that is a stream channel. A partition may not be found. -/
structure StreamSink where
  isHub : Bool
  modeHint : Option String
  partitions : List Bool

/-- The number of the partitions. -/
def resolveSinkPartitions (sink : Option StreamSink) : Except (String × String) Nat :=
  match sink with
  | none => .error ("DATAFRAME_DISPATCH_INVALID_SINK", "sink channel is not stream")
  | some sink =>
      if !sink.isHub then
        .error ("DATAFRAME_DISPATCH_INVALID_SINK", "sink must be stream_hub(split)")
      else if (sink.modeHint.getD "").toLower ≠ "split" then
        .error ("DATAFRAME_DISPATCH_INVALID_SINK", "sink must be stream_hub(split)")
      else if sink.partitions = [] then
        .error ("DATAFRAME_DISPATCH_PARTITION_INVALID", "stream_hub has no partitions")
      else
        match sink.partitions.findIdx? (!·) with
        | some index => .error ("DATAFRAME_DISPATCH_PARTITION_INVALID",
            "stream_hub partition resolve failed at index " ++ toString index)
        | none => .ok sink.partitions.length

/-- What the sink sees. -/
inductive SinkCall where
  | put (partition : Nat) (batch : RecordBatch)
  | closeStream

structure WorkResult where
  outcome : Append
  calls : List SinkCall
  operator : DataframeDispatchStreamOperator

namespace DataframeDispatchStreamOperator

variable (operator : DataframeDispatchStreamOperator)

/-- `Work`. The source, where it is a data frame channel, returns a code and fills a frame. -/
def work (source : Option (Int × DataFrame)) (sink : Option StreamSink) (answer : Nat → Int) :
    WorkResult :=
  let operator := { operator with lastError := "" }
  let failed (error : Option (String × String)) : WorkResult :=
    ⟨.returned (-1), [], error.elim operator fun (code, message) => operator.setError code message⟩
  match source with
  | none => failed (some ("DATAFRAME_DISPATCH_INVALID_SOURCE", "source channel is not dataframe"))
  | some (rc, data) =>
      match resolveSinkPartitions sink with
      | .error error => failed (some error)
      | .ok n =>
          match operator.resolveEffectiveConfig with
          | .error error => failed error
          | .ok effective =>
              if rc ≠ 0 then
                failed (some ("DATAFRAME_DISPATCH_READ_FAILED", "read dataframe failed"))
              else
                let (error, outcome, puts) := dispatch answer data effective n
                let calls := puts.map fun (partition, batch) => SinkCall.put partition batch
                match outcome with
                | .returned 0 => ⟨.returned 0, calls ++ [.closeStream], operator⟩
                | .returned rc =>
                    let (code, message) :=
                      error.getD ("DATAFRAME_DISPATCH_WRITE_FAILED",
                        "write stream_hub partition failed, rc=" ++ toString rc)
                    ⟨.returned (-1), calls, operator.setError code message⟩
                | outcome => ⟨outcome, calls, operator⟩

end DataframeDispatchStreamOperator

end Flowsql.Frame
