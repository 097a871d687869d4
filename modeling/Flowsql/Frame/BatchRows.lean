import Flowsql.Frame.FrameRuns

/-!
# Rows that go from one frame to another

A row of a valid batch is read as field values, and field values are appended to a frame that was just
made. Plain values come through unchanged; a NULL becomes a value, or an append throws on it.
-/

namespace Flowsql.Frame

/-! ## Valid batches -/

/-- A column of the type can have the cell. -/
def ArrowType.fits : ArrowType → Cell → Bool
  | _, .null => true
  | .other _, .other _ => true
  | .other _, .value _ => false
  | type, .value value => (fromArrowType type).holds value
  | _, .other _ => false

structure RecordBatch.Valid (batch : RecordBatch) : Prop where
  width : batch.columns.length = batch.schema.fields.length
  long : ∀ column ∈ batch.columns, column.length = batch.numRows
  fits : ∀ pair ∈ batch.schema.fields.zip batch.columns, ∀ cell ∈ pair.2, pair.1.type.fits cell

/-- A valid batch. -/
structure ArrowBatch where
  batch : RecordBatch
  valid : batch.Valid

/-- The fields that a frame takes from an Arrow schema. -/
def ArrowSchema.frameFields (schema : ArrowSchema) : List Field :=
  schema.fields.map fun field => { name := field.name, type := fromArrowType field.type }

/-- The Arrow schema of a frame that was made for the fields. -/
def arrowSchemaOf (fields : List Field) : ArrowSchema where
  fields := fields.map fun field => { name := field.name, type := toArrowType field.type }

theorem fits_toArrowType {type : DataType} {value : FieldValue} (holds : type.holds value = true) :
    (toArrowType type).fits (.value value) = true := by
  cases type with
  | timestamp => cases value <;> first | rfl | cases holds
  | _ => exact holds

def Cell.isValue : Cell → Bool
  | .value _ => true
  | _ => false

/-- A value of a column is the field value that is read there. -/
theorem extractValue_value {type : ArrowType} {cell : Cell} (fits : type.fits cell = true)
    (plain : cell.isValue = true) : .value (extractValue type cell) = cell ∧
      (fromArrowType type).holds (extractValue type cell) = true := by
  cases cell with
  | null => cases plain
  | other code => cases plain
  | value value =>
      cases type with
      | other code => cases fits
      | _ => exact ⟨rfl, fits⟩

/-- Every column of the batch has values only. -/
def RecordBatch.Plain (batch : RecordBatch) : Prop :=
  ∀ column ∈ batch.columns, ∀ cell ∈ column, cell.isValue = true

instance (batch : RecordBatch) : Decidable batch.Plain :=
  inferInstanceAs (Decidable (∀ column ∈ batch.columns, ∀ cell ∈ column, cell.isValue = true))

/-- A column of bytes has a NULL. -/
def RecordBatch.NullBytes (batch : RecordBatch) : Prop :=
  ∃ pair ∈ batch.schema.fields.zip batch.columns, fromArrowType pair.1.type = .bytes ∧ .null ∈ pair.2

instance (batch : RecordBatch) : Decidable batch.NullBytes :=
  inferInstanceAs (Decidable (∃ pair ∈ batch.schema.fields.zip batch.columns,
    fromArrowType pair.1.type = .bytes ∧ .null ∈ pair.2))

namespace RecordBatch

variable {batch : RecordBatch}

theorem length_extractRow (valid : batch.Valid) (index : Nat) :
    (DataFrame.extractRow batch index).length = batch.schema.frameFields.length := by
  simp [DataFrame.extractRow, ArrowSchema.frameFields, valid.width]

/-- The types of a row that is read, column by column. -/
theorem holdsAll_extractRow (batch : RecordBatch) (index : Nat) :
    holdsAll batch.schema.frameFields (DataFrame.extractRow batch index) =
      (batch.schema.fields.zip batch.columns).all fun pair =>
        (fromArrowType pair.1.type).holds (extractValue pair.1.type (pair.2.getD index .null)) := by
  unfold holdsAll DataFrame.extractRow ArrowSchema.frameFields
  generalize batch.schema.fields = fields
  generalize batch.columns = columns
  induction fields generalizing columns with
  | nil => rfl
  | cons field fields ih =>
      cases columns with
      | nil => rfl
      | cons column columns =>
          rw [List.map_cons, List.zipWith_cons_cons, List.zip_cons_cons, List.all_cons, ih columns]
          rfl

theorem row_eq (valid : batch.Valid) (index : Nat) :
    batch.row index =
      (batch.schema.fields.zip batch.columns).map fun pair => pair.2.getD index .null := by
  have columns := List.map_snd_zip (Nat.le_of_eq valid.width)
  conv_lhs => rw [row, ← columns, List.map_map]
  rfl

theorem extractRow_eq (batch : RecordBatch) (index : Nat) :
    DataFrame.extractRow batch index = (batch.schema.fields.zip batch.columns).map fun pair =>
      extractValue pair.1.type (pair.2.getD index .null) := by
  rw [List.map_zip_eq_zipWith]
  rfl

/-- The cell of a pair at an index. -/
theorem cell_mem (valid : batch.Valid) {index : Nat} (within : index < batch.numRows)
    {pair : ArrowField × List Cell} (member : pair ∈ batch.schema.fields.zip batch.columns) :
    pair.2.getD index .null ∈ pair.2 := by
  have long := valid.long _ (List.of_mem_zip member).2
  rw [List.getD_eq_getElem?_getD, List.getElem?_eq_getElem (long ▸ within)]
  exact List.getElem_mem _

/-- A row of a batch of values is read as it is. -/
theorem extractRow_plain (valid : batch.Valid) (plain : batch.Plain) {index : Nat}
    (within : index < batch.numRows) :
    holdsAll batch.schema.frameFields (DataFrame.extractRow batch index) = true ∧
      (DataFrame.extractRow batch index).map .value = batch.row index := by
  have cells {pair : ArrowField × List Cell}
      (member : pair ∈ batch.schema.fields.zip batch.columns) :=
    have cell := cell_mem valid within member
    extractValue_value (valid.fits pair member _ cell)
      (plain _ (List.of_mem_zip member).2 _ cell)
  constructor
  · rw [holdsAll_extractRow, List.all_eq_true]
    exact fun pair member => (cells member).2
  · rw [extractRow_eq, row_eq valid, List.map_map]
    exact List.map_congr_left fun pair member => (cells member).1

/-- A NULL where bytes are expected is not read as bytes. -/
theorem extractRow_nullBytes (valid : batch.Valid) (nulls : batch.NullBytes) :
    ∃ index < batch.numRows,
      holdsAll batch.schema.frameFields (DataFrame.extractRow batch index) = false := by
  obtain ⟨pair, member, bytes, null⟩ := nulls
  obtain ⟨index, within, at_index⟩ := List.getElem_of_mem null
  refine ⟨index, valid.long _ (List.of_mem_zip member).2 ▸ within, ?_⟩
  rw [holdsAll_extractRow, List.all_eq_false]
  refine ⟨pair, member, ?_⟩
  rw [List.getD_eq_getElem?_getD, List.getElem?_eq_getElem within, at_index, Option.getD_some, bytes]
  cases typed : pair.1.type with
  | binary => decide
  | fixedSizeBinary width => exact Bool.false_ne_true
  | _ => rw [typed] at bytes; cases bytes

end RecordBatch

/-! ## A frame that grows -/

/-- A frame that was made for the fields, and rows that were appended since. -/
structure Growing (fields : List Field) (rows : List (List FieldValue)) (frame : DataFrame) :
    Prop where
  schema : frame.schema = fields
  typed : frame.arrowSchema = some (arrowSchemaOf fields)
  unread : frame.batch = none
  pending : frame.pendingRows = rows.length
  types : frame.builders.map ColumnBuilder.type = fields.map (toArrowType ·.type)
  cells : frame.builders.map ColumnBuilder.cells =
    columnsOf fields.length (rows.map (·.map .value))
  width : ∀ row ∈ rows, row.length = fields.length
  holds : ∀ row ∈ rows, holdsAll fields row = true

theorem appendValues_types {fields : List Field} {builders after : List ColumnBuilder}
    {values : List FieldValue} {outcome : Append}
    (ran : appendValues fields builders values = (outcome, after)) :
    after.map ColumnBuilder.type = builders.map ColumnBuilder.type := by
  induction fields generalizing builders values outcome after with
  | nil =>
      cases ran
      rfl
  | cons field fields ih =>
      cases builders with
      | nil =>
          cases ran
          rfl
      | cons builder builders =>
          cases values with
          | nil =>
              cases ran
              rfl
          | cons value values =>
              rw [appendValues] at ran
              split_ifs at ran
              · cases ran
                rfl
              · cases ran
                rfl
              · cases rest : appendValues fields builders values with
                | mk outcome' after' =>
                    rw [rest] at ran
                    cases ran
                    rw [List.map_cons, List.map_cons, ih rest]

theorem takes_of_type {field : Field} {builder : ColumnBuilder} {value : FieldValue}
    (type : builder.type = toArrowType field.type) : builder.takes field.type value = true := by
  obtain ⟨name, kind⟩ := field
  obtain ⟨_, cells⟩ := builder
  cases type
  cases kind <;> cases value <;> rfl

/-- Builders of the types of the fields take every value. -/
theorem takesAll_of_types {fields : List Field} {builders : List ColumnBuilder}
    {values : List FieldValue}
    (types : builders.map ColumnBuilder.type = fields.map (toArrowType ·.type)) :
    takesAll fields builders values = true := by
  induction fields generalizing builders values with
  | nil => rfl
  | cons field fields ih =>
      cases builders with
      | nil => rfl
      | cons builder builders =>
          cases values with
          | nil => rfl
          | cons value values =>
              rw [List.map_cons, List.map_cons, List.cons.injEq] at types
              rw [takesAll, ih types.2, takes_of_type types.1, Bool.or_true]
              rfl

namespace Growing

variable {fields : List Field} {rows : List (List FieldValue)} {frame : DataFrame}

theorem setSchema (fields : List Field) (frame : DataFrame) :
    Growing fields [] (frame.setSchema fields) := by
  unfold DataFrame.setSchema
  rw [DataFrame.initBuilders_some rfl]
  refine ⟨rfl, rfl, rfl, rfl, ?_, ?_, nofun, nofun⟩
  · simp
  · refine List.ext_getElem (by simp [columnsOf]) fun index _ _ => ?_
    simp [columnsOf]

theorem length_builders (growing : Growing fields rows frame) :
    frame.builders.length = fields.length := by
  simpa using congrArg List.length growing.types

/-- A row of the right width is appended, or an append throws on a value of another type. -/
theorem appendRow (growing : Growing fields rows frame) (some_fields : fields ≠ [])
    {row : List FieldValue} (width : row.length = fields.length)
    (counted : rows.length + 1 < 2 ^ 31) :
    (holdsAll fields row = true ∧ ∃ after, frame.appendRow row = (.returned 0, after) ∧
      Growing fields (rows ++ [row]) after) ∨
    (holdsAll fields row = false ∧ ∃ after, frame.appendRow row = (.threw, after)) := by
  have long := growing.length_builders
  have some_builders : frame.builders ≠ [] := by
    intro none
    rw [none] at long
    exact some_fields (List.length_eq_zero_iff.mp long.symm)
  obtain rfl := growing.schema
  unfold DataFrame.appendRow
  rw [if_neg some_builders, if_neg (by simpa using width)]
  rcases appendValues_taken (takesAll_of_types growing.types) long width with
    ⟨all, after, ran, cells⟩ | ⟨all, after, ran⟩
  · refine .inl ⟨all,
      { frame with batch := none, builders := after, pendingRows := frame.pendingRows + 1 }, ?_, ?_⟩
    · rw [ran]
      exact if_pos (growing.pending ▸ counted)
    · refine ⟨rfl, growing.typed, rfl, ?_, ?_, ?_, ?_, ?_⟩
      · rw [List.length_append, ← growing.pending]
        rfl
      · exact (appendValues_types ran).trans growing.types
      · rw [cells, growing.cells, List.map_append]
        exact (columnsOf_append _ _ _ (by simpa using width)).symm
      · simpa [or_imp, forall_and] using ⟨growing.width, width⟩
      · simpa [or_imp, forall_and] using ⟨growing.holds, all⟩
  · exact .inr ⟨all, { frame with batch := none, builders := after }, by rw [ran]⟩

/-- The cells of a column fit its type. -/
theorem fits (growing : Growing fields rows frame) {pair : ArrowField × List Cell}
    (member : pair ∈ (arrowSchemaOf fields).fields.zip
      (columnsOf fields.length (rows.map (·.map .value)))) :
    ∀ cell ∈ pair.2, pair.1.type.fits cell = true := by
  obtain ⟨index, within, rfl⟩ := List.getElem_of_mem member
  have inside : index < fields.length := by
    simpa [arrowSchemaOf, length_columnsOf] using within
  intro cell among
  simp only [List.getElem_zip, columnsOf, List.getElem_map, List.getElem_range, List.map_map,
    List.mem_map, Function.comp_apply] at among
  obtain ⟨row, present, rfl⟩ := among
  have wide := growing.width row present
  have all := growing.holds row present
  rw [holdsAll, List.all_eq_true] at all
  have holds := all (fields[index], row[index]) (by
    rw [List.mem_iff_getElem]
    exact ⟨index, by simp [inside, wide], by simp⟩)
  simp only [List.getElem_zip, arrowSchemaOf, List.getElem_map]
  rw [List.getD_eq_getElem?_getD, List.getElem?_map, List.getElem?_eq_getElem (wide ▸ inside)]
  exact fits_toArrowType holds

/-- The batch of a frame that grows has the rows. -/
theorem toArrow (growing : Growing fields rows frame) : ∃ batch, frame.toArrow.1 = some batch ∧
    batch.Valid ∧ batch.schema = arrowSchemaOf fields ∧ batch.rows = rows.map (·.map .value) := by
  have made : frame.toArrow.1 = some (.mk (arrowSchemaOf fields) rows.length
      (columnsOf fields.length (rows.map (·.map .value)))) := by
    unfold DataFrame.toArrow
    simp only
    rw [if_pos (.inr ⟨growing.unread, by rw [growing.typed]; rfl⟩)]
    unfold DataFrame.finalize
    rw [if_neg (by simp [growing.unread]), growing.typed]
    simp only
    rw [DataFrame.initBuilders_some rfl, growing.pending, growing.cells]
  refine ⟨_, made, ⟨?_, ?_, fun pair => growing.fits⟩, rfl, ?_⟩
  · simp [length_columnsOf, arrowSchemaOf]
  · intro column member
    simp only [columnsOf, List.mem_map] at member
    obtain ⟨index, -, rfl⟩ := member
    simp
  · have rows_eq := @rows_of_columns (arrowSchemaOf fields)
      (columnsOf fields.length (rows.map (·.map .value))) (rows.map (·.map .value))
    rw [List.length_map, length_columnsOf] at rows_eq
    refine rows_eq ?_ ?_
    · intro row member
      obtain ⟨values, present, rfl⟩ := List.mem_map.mp member
      rw [List.length_map, growing.width values present]
    · conv_rhs => rw [← List.map_id (columnsOf _ _)]
      refine List.map_congr_left fun column member => ?_
      simp only [columnsOf, List.mem_map] at member
      obtain ⟨index, -, rfl⟩ := member
      exact List.take_of_length_le (by simp)

end Growing

end Flowsql.Frame
