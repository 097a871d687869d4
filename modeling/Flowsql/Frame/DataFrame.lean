import Mathlib

/-!
# Data frames

A data frame holds its rows in a finalized batch or in the builders of its columns. A read finalizes
what the builders hold; an append drops the batch and goes on in the builders.
-/

namespace Flowsql.Frame

inductive DataType where
  | int32
  | int64
  | uint32
  | uint64
  | float
  | double
  | string
  | bytes
  | timestamp
  | boolean
  deriving DecidableEq

inductive ArrowType where
  | int32
  | int64
  | uint32
  | uint64
  | float
  | double
  | string
  | binary
  | fixedSizeBinary (width : Nat)
  | bool
  /-- Any other type. -/
  | other (code : Nat)
  deriving DecidableEq

/-- Floating point values are kept by their bits. -/
inductive FieldValue where
  | int32 (value : Int32)
  | int64 (value : Int64)
  | uint32 (value : UInt32)
  | uint64 (value : UInt64)
  | float (bits : UInt32)
  | double (bits : UInt64)
  | string (bytes : List UInt8)
  | bytes (bytes : List UInt8)
  | bool (value : Bool)
  deriving DecidableEq

structure Field where
  name : String
  type : DataType
  deriving DecidableEq

/-- What a column of a batch has at a row. -/
inductive Cell where
  | null
  | value (value : FieldValue)
  /-- A value of a type that field values do not have. -/
  | other (code : Nat)
  deriving DecidableEq

structure ArrowField where
  name : String
  type : ArrowType
  nullable : Bool := true
  metadata : List (String × String) := []
  deriving DecidableEq

structure ArrowSchema where
  fields : List ArrowField
  metadata : List (String × String) := []
  deriving DecidableEq

structure RecordBatch where
  schema : ArrowSchema
  numRows : Nat
  columns : List (List Cell)
  deriving DecidableEq

def RecordBatch.row (batch : RecordBatch) (index : Nat) : List Cell :=
  batch.columns.map (·.getD index .null)

def RecordBatch.rows (batch : RecordBatch) : List (List Cell) :=
  (List.range batch.numRows).map batch.row

def toArrowType : DataType → ArrowType
  | .int32 => .int32
  | .int64 => .int64
  | .uint32 => .uint32
  | .uint64 => .uint64
  | .float => .float
  | .double => .double
  | .string => .string
  | .bytes => .binary
  | .timestamp => .int64
  | .boolean => .bool

def fromArrowType : ArrowType → DataType
  | .int32 => .int32
  | .int64 => .int64
  | .uint32 => .uint32
  | .uint64 => .uint64
  | .float => .float
  | .double => .double
  | .string => .string
  | .binary => .bytes
  | .fixedSizeBinary _ => .bytes
  | .bool => .boolean
  | .other _ => .string

/-- `static_cast<int32_t>` -/
def toInt32 (count : Nat) : Int :=
  (count : Int).bmod (2 ^ 32)

/-- The value that stands for a NULL. -/
def nullValue : ArrowType → FieldValue
  | .int32 => .int32 0
  | .int64 => .int64 0
  | .uint32 => .uint32 0
  | .uint64 => .uint64 0
  | .float => .float 0
  | .double => .double 0
  | .bool => .bool false
  | .string | .binary | .fixedSizeBinary _ | .other _ => .string []

def extractValue : ArrowType → Cell → FieldValue
  | type, .null => nullValue type
  | .other _, _ => .string []
  | _, .value value => value
  | _, .other _ => .string []

structure ColumnBuilder where
  type : ArrowType
  cells : List Cell := []
  deriving DecidableEq

/-- `std::get` finds the alternative of the type. -/
def DataType.holds : DataType → FieldValue → Bool
  | .int32, .int32 _ => true
  | .int64, .int64 _ => true
  | .timestamp, .int64 _ => true
  | .uint32, .uint32 _ => true
  | .uint64, .uint64 _ => true
  | .float, .float _ => true
  | .double, .double _ => true
  | .string, .string _ => true
  | .bytes, .bytes _ => true
  | .boolean, .bool _ => true
  | _, _ => false

/-- The builder is the one that a value of the type is given to, and has room for its length. -/
def ColumnBuilder.takes (builder : ColumnBuilder) : DataType → FieldValue → Bool
  | .bytes, .bytes bytes =>
      match builder.type with
      | .fixedSizeBinary width => bytes.length = width
      | type => type = .binary
  | type, _ => builder.type = toArrowType type

/-- How an append ends: it returns, `std::get` throws, or the behaviour is undefined (a value in a
builder of another type, or a counter beyond its range). -/
inductive Append where
  | returned (rc : Int)
  | threw
  | undefined
  deriving DecidableEq

/-- `AppendValueToBuilder`, for one column after the other. -/
def appendValues : List Field → List ColumnBuilder → List FieldValue → Append × List ColumnBuilder
  | field :: fields, builder :: builders, value :: values =>
      if !field.type.holds value then (.threw, builder :: builders)
      else if !builder.takes field.type value then (.undefined, builder :: builders)
      else
        let (outcome, rest) := appendValues fields builders values
        (outcome, { builder with cells := builder.cells ++ [.value value] } :: rest)
  | _, builders, _ => (.returned 0, builders)

structure DataFrame where
  arrowSchema : Option ArrowSchema := none
  batch : Option RecordBatch := none
  builders : List ColumnBuilder := []
  schema : List Field := []
  pendingRows : Nat := 0
  deriving DecidableEq

namespace DataFrame

variable (frame : DataFrame)

def initBuilders : DataFrame :=
  match frame.arrowSchema with
  | none => { frame with builders := [] }
  | some schema =>
      { frame with builders := schema.fields.map fun field => { type := field.type }, pendingRows := 0 }

def getSchema : List Field :=
  frame.schema

def setSchema (schema : List Field) : DataFrame :=
  { frame with
    schema := schema
    batch := none
    arrowSchema := some
      { fields := schema.map fun field : Field =>
          { name := field.name, type := toArrowType field.type } }
  }.initBuilders

def finalize : DataFrame :=
  if frame.pendingRows = 0 ∧ frame.batch.isSome then frame
  else
    match frame.arrowSchema with
    | none => frame
    | some schema =>
        { frame with
          batch := some
            { schema := schema
              numRows := frame.pendingRows
              columns := frame.builders.map ColumnBuilder.cells }
          pendingRows := 0 }.initBuilders

/-- The reads begin so. -/
def finalizePending : DataFrame :=
  if 0 < frame.pendingRows then frame.finalize else frame

def rowCount : Int × DataFrame :=
  let frame := frame.finalizePending
  ((frame.batch.map fun batch => toInt32 batch.numRows).getD 0, frame)

def appendRow (row : List FieldValue) : Append × DataFrame :=
  if frame.builders = [] then (.returned (-1), frame)
  else if row.length ≠ frame.schema.length then (.returned (-1), frame)
  else
    match appendValues frame.schema frame.builders row with
    | (.returned _, builders) =>
        if frame.pendingRows + 1 < 2 ^ 31 then
          (.returned 0,
            { frame with batch := none, builders := builders, pendingRows := frame.pendingRows + 1 })
        else
          (.undefined, { frame with batch := none, builders := builders })
    | (outcome, builders) => (outcome, { frame with batch := none, builders := builders })

/-- The row of a batch as field values. -/
def extractRow (batch : RecordBatch) (index : Nat) : List FieldValue :=
  List.zipWith (fun field column => extractValue field.type (column.getD index .null))
    batch.schema.fields batch.columns

def getRow (index : Int) : List FieldValue × DataFrame :=
  let frame := frame.finalizePending
  match frame.batch with
  | none => ([], frame)
  | some batch =>
      if index < 0 ∨ (batch.numRows : Int) ≤ index then ([], frame)
      else (extractRow batch index.toNat, frame)

/-- The column of a name; a name that several columns have names none. -/
def columnByName (batch : RecordBatch) (name : String) : Option (ArrowField × List Cell) :=
  match (batch.schema.fields.zip batch.columns).filter (·.1.name = name) with
  | [column] => some column
  | _ => none

def getColumn (name : String) : List FieldValue × DataFrame :=
  let frame := frame.finalizePending
  (((frame.batch.bind (columnByName · name)).map fun (field, cells) =>
    cells.map (extractValue field.type)).getD [], frame)

def toArrow : Option RecordBatch × DataFrame :=
  let frame :=
    if 0 < frame.pendingRows ∨ (frame.batch = none ∧ frame.arrowSchema.isSome) then frame.finalize
    else frame
  (frame.batch, frame)

def fromArrow (batch : Option RecordBatch) : DataFrame :=
  match batch with
  | none => { arrowSchema := none, batch := none, builders := [], schema := [], pendingRows := 0 }
  | some batch =>
      { arrowSchema := some batch.schema
        batch := some batch
        builders := []
        schema := batch.schema.fields.map fun field =>
          { name := field.name, type := fromArrowType field.type }
        pendingRows := 0 }

/-- What `ToJson` renders: the schema and the batch. -/
def toJson : (List Field × Option RecordBatch) × DataFrame :=
  let frame := frame.finalizePending
  ((frame.schema, frame.batch), frame)

def clear : DataFrame :=
  let cleared := { frame with batch := none, pendingRows := 0 }
  if frame.arrowSchema.isSome then cleared.initBuilders else cleared

end DataFrame

end Flowsql.Frame
