import Flowsql.Frame.FrameRuns

/-!
# The data frame channel

A channel keeps one data frame. A write replaces it; an append joins two batches of one Arrow schema,
and rebuilds the rows one by one where only the fields agree.
-/

namespace Flowsql.Frame

/-- `arrow::Schema::Equals`, which does not look at metadata. -/
def ArrowSchema.equals (left right : ArrowSchema) : Bool :=
  left.fields.map (fun field => (field.name, field.type, field.nullable)) =
    right.fields.map fun field => (field.name, field.type, field.nullable)

/-- `arrow::ConcatenateRecordBatches`, when it succeeds. -/
def concatenateRecordBatches (left right : RecordBatch) : RecordBatch where
  schema := left.schema
  numRows := left.numRows + right.numRows
  columns := List.zipWith (· ++ ·) left.columns right.columns

def schemaCompatibleLocked (lhs rhs : List Field) : Bool :=
  lhs.length = rhs.length && (lhs.zip rhs).all fun (left, right) =>
    left.name = right.name && left.type = right.type

/-- A loop of `Append` over the rows of a frame. -/
def mergeRows (source : DataFrame) : List Nat → DataFrame → Append × DataFrame
  | [], merged => (.returned 0, merged)
  | index :: rest, merged =>
      match merged.appendRow (source.getRow index).1 with
      | (.returned 0, merged) => mergeRows source rest merged
      | (.returned _, merged) => (.returned (-1), merged)
      | (outcome, merged) => (outcome, merged)

/-- The indices that a loop up to a row count goes through. -/
def rowIndices (frame : DataFrame) : List Nat :=
  List.range frame.rowCount.1.toNat

structure DataFrameChannel where
  opened : Bool := false
  replacementGeneration : Nat := 0
  data : DataFrame := {}

namespace DataFrameChannel

variable (channel : DataFrameChannel)

/-- `Open`. -/
def openChannel : Int × DataFrameChannel :=
  (0, { channel with opened := true })

def close : Int × DataFrameChannel :=
  (0, { channel with opened := false, data := channel.data.clear })

def write (df : Option DataFrame) : Int × DataFrameChannel :=
  match df with
  | none => (-1, channel)
  | some df =>
      if !channel.opened then (-1, channel)
      else
        let cleared := channel.data.clear
        (0, { channel with
          data := if df.toArrow.1.isSome then .fromArrow df.toArrow.1 else cleared
          replacementGeneration := channel.replacementGeneration + 1 })

/-- The rows of both frames, one by one, in a frame of the fields. -/
def rebuild (fields : List Field) (data df : DataFrame) : Append × DataFrame :=
  match mergeRows data (rowIndices data) (({} : DataFrame).setSchema fields) with
  | (.returned 0, merged) => mergeRows df (rowIndices df) merged
  | other => other

/-- The end of `Append` where the schemas differ. -/
def appendRebuilt (data df : DataFrame) : Append × DataFrameChannel :=
  match rebuild channel.data.getSchema data df with
  | (.returned 0, merged) =>
      (.returned 0, { channel with
        data := if merged.toArrow.1.isSome then .fromArrow merged.toArrow.1
          else data.clear.setSchema channel.data.getSchema })
  | (outcome, _) => (outcome, { channel with data := data })

/-- `Append`. The concatenation may fail. -/
def append (df : Option DataFrame) (concatenated : Bool) : Append × DataFrameChannel :=
  match df with
  | none => (.returned (-1), channel)
  | some df =>
      if !channel.opened then (.returned (-1), channel)
      else if df.getSchema = [] then (.returned 0, channel)
      else if channel.data.getSchema = [] then
        (.returned 0, { channel with
          data := if df.toArrow.1.isSome then .fromArrow df.toArrow.1
            else channel.data.setSchema df.getSchema })
      else if !schemaCompatibleLocked channel.data.getSchema df.getSchema then
        (.returned (-1), channel)
      else
        let data := channel.data.toArrow.2
        match channel.data.toArrow.1, df.toArrow.1 with
        | some currentBatch, some incomingBatch =>
            if currentBatch.schema.equals incomingBatch.schema then
              if !concatenated then (.returned (-1), { channel with data := data })
              else
                (.returned 0, { channel with
                  data := .fromArrow (some (concatenateRecordBatches currentBatch incomingBatch)) })
            else channel.appendRebuilt data df.toArrow.2
        | _, _ => channel.appendRebuilt data df.toArrow.2

/-- `Read`, into a frame. -/
def read (df : Option DataFrame) : Int × Option DataFrame × DataFrameChannel :=
  match df with
  | none => (-1, none, channel)
  | some df =>
      if !channel.opened then (-1, some df, channel)
      else
        let (batch, data) := channel.data.toArrow
        (0, some (if batch.isSome then .fromArrow batch else df.clear), { channel with data := data })

end DataFrameChannel

end Flowsql.Frame
