import Flowsql.Baseliner.Progress
import Flowsql.Baseliner.WriterFence

/-!
# The durable store

A store publishes a generation of its task in one transaction: the model, the source positions, the
results and the pruning of old generations. The writer fence opens the transaction and confirms it.
-/

namespace Flowsql.Baseliner

/-! ## Results -/

/-- The result schemas that the store accepts. -/
inductive SchemaKind where
  | results
  | relationFusion
  | maintenance
  deriving DecidableEq, Repr

namespace SchemaKind

def table : SchemaKind → String
  | results => "baseline_results_v1"
  | relationFusion => "baseline_relation_fusion_v1"
  | maintenance => "baseline_maintenance_v1"

/-- The names of the fields, as in `MakeSchema`. -/
def fields : SchemaKind → List String
  | results => common ++
      ["result_kind", "summary_id", "basis_id", "issued_after_bucket", "model_basis_id",
        "bucket_seconds", "timezone", "unit", "observed", "expected", "lower", "upper", "status",
        "band_kind", "confidence", "maturity", "score", "is_outside_band", "can_score",
        "can_update", "update_weight", "can_alert"]
  | relationFusion => common ++ ["status", "fusion_score", "basis_id", "can_alert"]
  | maintenance => common ++
      ["event_kind", "reason", "runtime_identities", "model_identities", "routed_states",
        "retained_basis_versions"]
where
  common : List String :=
    ["task_key", "dataset_id", "metric_id", "series_key", "source_epoch", "target_bucket",
      "config_hash", "published_generation"]

/-- The fields of the logical key. Those of results are `ResultKeyFields(true, true)`. -/
def keyFields : SchemaKind → List String
  | results =>
      ["task_key", "dataset_id", "metric_id", "series_key", "source_epoch", "result_kind",
        "target_bucket", "issued_after_bucket", "summary_id", "basis_id"]
  | relationFusion =>
      ["task_key", "dataset_id", "metric_id", "series_key", "source_epoch", "target_bucket"]
  | maintenance =>
      ["task_key", "dataset_id", "metric_id", "series_key", "source_epoch", "target_bucket",
        "event_kind"]

end SchemaKind

/-- An Arrow scalar of a type that the schemas have. -/
inductive Cell where
  | string (value : Option String)
  | binary (value : Option String)
  | int64 (value : Option Int)
  | int32 (value : Option Int)
  | uint64 (value : Option Nat)
  | double (bits : Option (BitVec 64))
  | boolean (value : Option Bool)
  deriving DecidableEq, Repr

namespace Cell

/-- `arrow::Type::type`. -/
def typeId : Cell → Nat
  | boolean _ => 1
  | int32 _ => 7
  | uint64 _ => 8
  | int64 _ => 9
  | double _ => 12
  | string _ => 13
  | binary _ => 14

def isValid : Cell → Bool
  | boolean value => value.isSome
  | int32 value | int64 value => value.isSome
  | uint64 value => value.isSome
  | double bits => bits.isSome
  | string value | binary value => value.isSome

/-- The text of a cell without NULL. -/
def text : Cell → String
  | string value | binary value => value.getD ""
  | _ => ""

end Cell

/-- A batch of results. Its schema is one of those that the store accepts, or another one. -/
structure ResultBatch where
  schema : Option SchemaKind
  rows : List (List Cell)
  bytes : Nat
  complete : ∀ kind, schema = some kind → ∀ row ∈ rows, row.length = kind.fields.length

/-- The cell of a field. -/
def SchemaKind.cell (kind : SchemaKind) (name : String) (row : List Cell) : Cell :=
  row.getD (kind.fields.idxOf name) (.string none)

/-! ## Tables -/

/-- A row of `baseline_model_versions`. -/
structure ModelVersion where
  generation : Int
  payloadVersion : Int
  configHash : String
  configJson : String
  checksum : String
  checkpoint : String
  deriving DecidableEq, Repr

/-- A row of `baseline_source_positions`. -/
structure SourcePosition where
  generation : Int
  position : DatasetProgress
  deriving DecidableEq, Repr

/-- A row of a result table. -/
structure StoredResult where
  logicalKey : String
  cells : List Cell
  deriving DecidableEq, Repr

/-- The rows of the task. -/
structure Tables where
  models : List ModelVersion := []
  positions : List SourcePosition := []
  results : SchemaKind → List StoredResult := fun _ => []

namespace Tables

def duplicateKey : String := "duplicate key"

def insertModel (version : ModelVersion) (tables : Tables) : Except String Tables :=
  if version.generation ∈ tables.models.map ModelVersion.generation then .error duplicateKey
  else .ok { tables with models := tables.models ++ [version] }

def insertPosition (added : SourcePosition) (tables : Tables) : Except String Tables :=
  if (added.generation, added.position.datasetId) ∈
      tables.positions.map fun found => (found.generation, found.position.datasetId) then
    .error duplicateKey
  else .ok { tables with positions := tables.positions ++ [added] }

def insertResult (kind : SchemaKind) (result : StoredResult) (tables : Tables) :
    Except String Tables :=
  if result.logicalKey ∈ (tables.results kind).map StoredResult.logicalKey then .error duplicateKey
  else .ok { tables with
    results := Function.update tables.results kind (tables.results kind ++ [result]) }

def deletePositions (oldest : Int) (tables : Tables) : Except String Tables :=
  .ok { tables with positions := tables.positions.filter fun found => oldest ≤ found.generation }

def deleteModels (oldest : Int) (tables : Tables) : Except String Tables :=
  .ok { tables with models := tables.models.filter fun found => oldest ≤ found.generation }

end Tables

/-- An open transaction: the statements so far and the tables as it sees them. -/
structure Session where
  statements : Nat
  tables : Tables

/-- `ExecutePrepared`. The calls that fail are given with their messages. -/
def Session.execute (faults : Nat → Option String) (statement : Tables → Except String Tables)
    (session : Session) : Except String Session :=
  match faults session.statements with
  | some message => .error message
  | none => (statement session.tables).map fun tables => ⟨session.statements + 1, tables⟩

/-! ## Stores -/

inductive Restore where
  | ifExists
  | fresh
  | require
  deriving DecidableEq, Repr

/-- What the store reads of a configuration. A configuration keeps from one to 64 generations. -/
structure TaskConfig where
  datasets : List String
  leaseMs : Int
  maxCheckpointBytes : Nat
  maxPendingBytes : Nat
  retainGenerations : Nat
  restore : Restore
  retains : 1 ≤ retainGenerations

structure ConfigSnapshot extends TaskConfig where
  originalJson : String
  sha256Hex : String

/-- The task key, the parser of the configuration, and what libraries compute. -/
structure StoreContext where
  taskKey : String
  parse : String → TaskConfig
  /-- SHA-256. -/
  hash : String → String
  /-- The document without `persistence.restore`, if it is one with a `schema_version`. -/
  withoutRestore : String → Option String
  /-- `arrow::Scalar::ToString`. -/
  print : Cell → String

/-- What `ParseConfig` makes of a document. -/
def StoreContext.snapshot (context : StoreContext) (json : String) : ConfigSnapshot :=
  { context.parse json with originalJson := json, sha256Hex := context.hash json }

/-- `RestoreCompatibilityHash`. -/
def StoreContext.restoreCompatibilityHash (context : StoreContext)
    (originalJson sha256Hex : String) : String :=
  match context.withoutRestore originalJson with
  | none => sha256Hex
  | some document => context.hash document

structure DurableStore where
  /-- There is a session. -/
  bound : Bool := false
  config : Option ConfigSnapshot := none
  isFailed : Bool := false
  error : String := ""

/-- A generation that has been committed, with the call of `Publish`. -/
structure CommittedGeneration where
  config : ConfigSnapshot
  generation : Int
  checkpoint : String
  progress : InputProgress
  results : List ResultBatch

/-- `StoredGeneration`. -/
structure StoredGeneration where
  generation : Int := 0
  checkpoint : String := ""
  progress : InputProgress := {}
  deriving DecidableEq, Repr

structure StoreSystem where
  fence : FenceSystem
  tables : Tables := {}
  stores : Nat → DurableStore := fun _ => {}
  /-- The generations committed so far. -/
  committed : List CommittedGeneration := []

section Statements

variable (context : StoreContext) (config : ConfigSnapshot) (generation : Int)
  (faults : Nat → Option String)

/-- The text that is hashed for the key of a row. -/
def logicalKey (kind : SchemaKind) (row : List Cell) : String :=
  let fields := kind.keyFields.map fun name =>
    let cell := kind.cell name row
    let value := context.print cell
    ":" ++ toString cell.typeId ++ ":" ++ (if cell.isValid then "value:" else "null:") ++
      toString value.utf8ByteSize ++ ":" ++ value
  let key := kind.table ++ String.join fields
  if kind = .maintenance then key ++ ":generation:" ++ toString generation else key

/-- The row as it is stored, with the generation that publishes it. -/
def storedResult (kind : SchemaKind) (row : List Cell) : StoredResult where
  logicalKey := context.hash (logicalKey context generation kind row)
  cells := row.set (kind.fields.idxOf "published_generation") (.int64 (some generation))

def insertRow (kind : SchemaKind) (session : Session) (row : List Cell) : Except String Session :=
  if (kind.cell "task_key" row).text ≠ context.taskKey ∨
      (kind.cell "config_hash" row).text ≠ config.sha256Hex then
    .error "result task/config mismatch"
  else session.execute faults (Tables.insertResult kind (storedResult context generation kind row))

/-- `InsertResults`. -/
def insertResults (session : Session) (batch : ResultBatch) : Except String Session :=
  match batch.schema with
  | none => .error "result schema mismatch"
  | some kind => batch.rows.foldlM (insertRow context config generation faults kind) session

/-- The model version of a generation. -/
def modelVersion (checkpoint : String) : ModelVersion where
  generation := generation
  payloadVersion := 1
  configHash := config.sha256Hex
  configJson := config.originalJson
  checksum := context.hash checkpoint
  checkpoint := checkpoint

/-- The statements of `Publish` between `Stage` and `Commit`. -/
def writeGeneration (checkpoint : String) (progress : InputProgress) (results : List ResultBatch)
    (tables : Tables) : Except String Session := do
  let model ← Session.execute faults
    (Tables.insertModel (modelVersion context config generation checkpoint)) ⟨0, tables⟩
  let positions ← progress.datasets.foldlM
    (fun session position => session.execute faults (Tables.insertPosition ⟨generation, position⟩))
    model
  let rows ← results.foldlM (insertResults context config generation faults) positions
  let oldest := generation - config.retainGenerations + 1
  let pruned ← rows.execute faults (Tables.deletePositions oldest)
  pruned.execute faults (Tables.deleteModels oldest)

end Statements

/-- The loop over the batches in `Publish`, with the bytes so far. -/
def checkBatches (config : ConfigSnapshot) : Nat → List (Option ResultBatch) → Option String
  | _, [] => none
  | _, none :: _ => some "null result batch"
  | bytes, some batch :: later =>
      if config.maxPendingBytes < bytes + batch.bytes then some "unpublished result byte limit"
      else checkBatches config (bytes + batch.bytes) later

/-- What `Publish` refuses before it stages, with the message. -/
def DurableStore.refusal (store : DurableStore) (config : ConfigSnapshot) (checkpoint : String)
    (progress : InputProgress) (results : List (Option ResultBatch)) : Option String :=
  if store.isFailed ∨ checkpoint = "" ∨ config.maxCheckpointBytes < checkpoint.utf8ByteSize then
    some "checkpoint size/store unavailable"
  else if ¬ validateProgress progress config.datasets then
    some "invalid persisted source positions"
  else checkBatches config 0 results

namespace StoreSystem

def setStore (writer : Nat) (store : DurableStore) (system : StoreSystem) : StoreSystem :=
  { system with stores := Function.update system.stores writer store }

/-- `Fail`. -/
def failStore (writer : Nat) (error : String) (system : StoreSystem) : StoreSystem :=
  system.setStore writer { system.stores writer with isFailed := true, error := error }

/-- `Open`. What fails before the fence is acquired is given with its message. -/
def openStore (context : StoreContext) (writer : Nat) (json owner : String)
    (failure : Option String) (table fate tables : TransactionFate) (system : StoreSystem) :
    StoreSystem :=
  let store := system.stores writer
  let config := context.snapshot json
  if store.bound then system.failStore writer "invalid managed target"
  else
    match failure with
    | some error => system.failStore writer error
    | none =>
        let fingerprint := context.restoreCompatibilityHash config.originalJson config.sha256Hex
        let acquired :=
          { system.setStore writer { store with bound := true, config := some config } with
            fence :=
              system.fence.step (.acquire writer owner fingerprint config.leaseMs table fate) }
        let fence := acquired.fence.writers writer
        -- A fence that has failed stays failed.
        if fence.isFailed then acquired.failStore writer fence.error
        else
          match tables with
          | .failed message => acquired.failStore writer message
          | .finished outcome message =>
              if ¬ outcome.ok then acquired.failStore writer message
              else if config.restore = .fresh ∧ fence.generation ≠ 0 then
                acquired.failStore writer "fresh requires a new task_key without a model"
              else if config.restore = .require ∧ fence.generation = 0 then
                acquired.failStore writer "required model missing"
              else acquired

/-- `Renew`. -/
def renew (writer : Nat) (fate : TransactionFate) (system : StoreSystem) : StoreSystem :=
  let renewed := { system with fence := system.fence.step (.renew writer fate) }
  let fence := renewed.fence.writers writer
  if fence.isFailed then renewed.failStore writer fence.error else renewed

/-- `Close`. -/
def close (writer : Nat) (fate : TransactionFate) (system : StoreSystem) : StoreSystem :=
  { system.setStore writer { system.stores writer with bound := false } with
    fence := system.fence.step (.release writer fate) }

/-- `Publish` after `Stage`. A transaction that is not committed leaves the tables as they were. -/
def publishStaged (context : StoreContext) (writer : Nat) (config : ConfigSnapshot)
    (checkpoint : String) (progress : InputProgress) (results : List ResultBatch)
    (faults : Nat → Option String) (outcome : CommitOutcome) (message : String)
    (system : StoreSystem) : StoreSystem :=
  let generation := (system.fence.writers writer).generation + 1
  match writeGeneration context config generation faults checkpoint progress results
      system.tables with
  | .error error =>
      { system with fence := system.fence.step (.rollback writer) }.failStore writer error
  | .ok session =>
      let fence := (system.fence.step (.commit writer outcome message)).step (.confirm writer)
      let committed :=
        if outcome.applies then
          { system with
            fence := fence
            tables := session.tables
            committed :=
              system.committed ++ [⟨config, generation, checkpoint, progress, results⟩] }
        else { system with fence := fence }
      if (fence.writers writer).isFailed then
        committed.failStore writer (fence.writers writer).error
      else committed

/-- `Publish`. -/
def publish (context : StoreContext) (writer : Nat) (checkpoint : String) (progress : InputProgress)
    (results : List (Option ResultBatch)) (stageFailure : Option String)
    (faults : Nat → Option String) (outcome : CommitOutcome) (message : String)
    (system : StoreSystem) : StoreSystem :=
  let store := system.stores writer
  match store.config with
  | none => system.failStore writer "checkpoint size/store unavailable"
  | some config =>
      match store.refusal config checkpoint progress results with
      | some error => system.failStore writer error
      | none =>
          let staged := { system with fence := system.fence.step (.stage writer stageFailure) }
          let fence := staged.fence.writers writer
          if fence.isFailed then staged.failStore writer fence.error
          else
            staged.publishStaged context writer config checkpoint progress
              (results.filterMap id) faults outcome message

/-- The positions of a generation, in the order of their datasets. -/
def positionsOf (generation : Int) (tables : Tables) : List DatasetProgress :=
  ((tables.positions.filter fun found => found.generation = generation).map
    SourcePosition.position).mergeSort fun first second => first.datasetId ≤ second.datasetId

/-- What `Load` reads. The calls that fail are given with their messages. -/
def read (context : StoreContext) (writer : Nat) (faults : Nat → Option String)
    (system : StoreSystem) : Except String StoredGeneration :=
  let store := system.stores writer
  let generation := (system.fence.writers writer).generation
  match store.config with
  | none => .error "store unavailable"
  | some config =>
      if store.isFailed then .error "store unavailable"
      else if generation = 0 then .ok {}
      else
        match faults 0, faults 1, faults 2, faults 3 with
        | some message, _, _, _ => .error message
        | none, some _, _, _ => .error "current model missing/corrupt"
        | none, none, positionsFault, commitFault =>
            match system.tables.models.filter fun version => version.generation = generation with
            | [version] =>
                if context.restoreCompatibilityHash version.configJson version.configHash ≠
                      context.restoreCompatibilityHash config.originalJson config.sha256Hex ∨
                    version.checksum ≠ context.hash version.checkpoint ∨
                    config.maxCheckpointBytes < version.checkpoint.utf8ByteSize then
                  .error "model config/checksum/size mismatch"
                else
                  match positionsFault, commitFault with
                  | some message, _ | none, some message => .error message
                  | none, none =>
                      .ok ⟨generation, version.checkpoint,
                        { datasets := positionsOf generation system.tables }⟩
            | _ => .error "current model missing/corrupt"

/-- `Load`. -/
def load (context : StoreContext) (writer : Nat) (faults : Nat → Option String)
    (system : StoreSystem) : StoreSystem :=
  match system.read context writer faults with
  | .error message => system.failStore writer message
  | .ok _ => system

end StoreSystem

inductive StoreEvent where
  | openStore (writer : Nat) (json owner : String) (failure : Option String)
      (table fate tables : TransactionFate)
  | renew (writer : Nat) (fate : TransactionFate)
  | publish (writer : Nat) (checkpoint : String) (progress : InputProgress)
      (results : List (Option ResultBatch)) (stageFailure : Option String)
      (faults : Nat → Option String) (outcome : CommitOutcome) (message : String)
  | load (writer : Nat) (faults : Nat → Option String)
  | close (writer : Nat) (fate : TransactionFate)
  | pass (milliseconds : Nat)

namespace StoreSystem

def step (context : StoreContext) (system : StoreSystem) : StoreEvent → StoreSystem
  | .openStore writer json owner failure table fate tables =>
      system.openStore context writer json owner failure table fate tables
  | .renew writer fate => system.renew writer fate
  | .publish writer checkpoint progress results stageFailure faults outcome message =>
      system.publish context writer checkpoint progress results stageFailure faults outcome message
  | .load writer faults => system.load context writer faults
  | .close writer fate => system.close writer fate
  | .pass milliseconds => { system with fence := system.fence.step (.pass milliseconds) }

def run (context : StoreContext) (system : StoreSystem) (events : List StoreEvent) : StoreSystem :=
  events.foldl (step context) system

/-- Nothing has been stored. -/
def created (clock : Int) : StoreSystem := { fence := .created clock }

end StoreSystem

end Flowsql.Baseliner
