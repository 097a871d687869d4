import Flowsql.Frame.BatchRows
import Flowsql.Frame.DataFrameChannel

/-!
# The rows of a data frame channel

What a channel is for: the rows of the last write and of every append since. Joined batches and batches
that are taken as they are keep every cell; only an append that rebuilds the rows converts them.
-/

namespace Flowsql.Frame

open Flowsql.Library

/-- The rows of a frame that has columns. -/
def DataFrame.held (frame : DataFrame) : List (List Cell) :=
  if frame.getSchema = [] then [] else frame.content

/-! ## Frames of batches -/

/-- A frame that has its rows in a batch. -/
structure Stored (data : DataFrame) : Prop where
  pending : data.pendingRows = 0
  untyped : data.arrowSchema = none → data.schema = [] ∧ data.batch = none
  typed : ∀ schema ∈ data.arrowSchema, data.schema = schema.frameFields
  batch : ∀ batch ∈ data.batch, data.arrowSchema = some batch.schema ∧ batch.Valid
  fresh : ∀ schema ∈ data.arrowSchema, data.batch = none →
    data.builders = schema.fields.map fun field => { type := field.type }

theorem toArrow_of_batch {data : DataFrame} {batch : RecordBatch} (pending : data.pendingRows = 0)
    (held : data.batch = some batch) : data.toArrow = (some batch, data) := by
  unfold DataFrame.toArrow
  simp only
  rw [if_neg (by simp [pending, held]), held]

/-- A batch without rows. -/
theorem valid_empty (schema : ArrowSchema) :
    (RecordBatch.mk schema 0 (schema.fields.map fun _ => [])).Valid := by
  refine ⟨List.length_map _, ?_, ?_⟩
  · intro column member
    obtain ⟨_, -, rfl⟩ := List.mem_map.mp member
    rfl
  · intro pair member cell among
    obtain ⟨_, -, empty⟩ := List.mem_map.mp (List.of_mem_zip member).2
    rw [← empty] at among
    cases among

namespace Stored

variable {data : DataFrame}

theorem initially : Stored {} :=
  ⟨rfl, fun _ => ⟨rfl, rfl⟩, nofun, nofun, nofun⟩

theorem fromArrow {batch : RecordBatch} (valid : batch.Valid) :
    Stored (.fromArrow (some batch)) := by
  refine ⟨rfl, nofun, ?_, ?_, nofun⟩
  · rintro _ ⟨⟩
    rfl
  · rintro _ ⟨⟩
    exact ⟨rfl, valid⟩

theorem clear (stored : Stored data) : Stored data.clear := by
  unfold DataFrame.clear
  cases typed : data.arrowSchema with
  | none =>
      refine ⟨rfl, fun _ => ⟨(stored.untyped typed).1, rfl⟩, ?_, nofun, ?_⟩
      · simp
      · simp
  | some schema =>
      simp only [Option.isSome_some, if_true]
      rw [DataFrame.initBuilders_some rfl]
      refine ⟨rfl, nofun, ?_, nofun, ?_⟩
      · rintro _ ⟨⟩
        exact stored.typed schema typed
      · rintro _ ⟨⟩ _
        rfl

/-- What an export gives, and what it leaves. -/
theorem exports (stored : Stored data) :
    (data.schema = [] ∧ data.toArrow = (none, data)) ∨
    ∃ batch after, data.toArrow = (some batch, after) ∧ batch.Valid ∧ Stored after ∧
      after.batch = some batch ∧ after.schema = data.schema ∧
      data.schema = batch.schema.frameFields := by
  cases held : data.batch with
  | some batch =>
      obtain ⟨typed, valid⟩ := stored.batch batch held
      exact .inr ⟨batch, data, toArrow_of_batch stored.pending held, valid, stored, held, rfl,
        stored.typed _ typed⟩
  | none =>
      cases typed : data.arrowSchema with
      | none =>
          refine .inl ⟨(stored.untyped typed).1, ?_⟩
          unfold DataFrame.toArrow
          simp only
          rw [if_neg (by simp [stored.pending, typed]), held]
      | some schema =>
          have fresh := stored.fresh schema typed held
          refine .inr ⟨.mk schema 0 (schema.fields.map fun _ => []),
            { data with
              batch := some (.mk schema 0 (schema.fields.map fun _ => []))
              builders := schema.fields.map fun field => { type := field.type }
              pendingRows := 0 }, ?_, valid_empty schema, ?_, rfl, rfl, stored.typed schema typed⟩
          · unfold DataFrame.toArrow
            simp only
            rw [if_pos (.inr ⟨held, by rw [typed]; rfl⟩)]
            unfold DataFrame.finalize
            rw [if_neg (by simp [held]), typed]
            simp only
            rw [DataFrame.initBuilders_some rfl, fresh, stored.pending, List.map_map]
            rfl
          · refine ⟨rfl, ?_, ?_, ?_, nofun⟩
            · intro none
              cases typed.symm.trans none
            · exact fun other same => stored.typed other same
            · rintro _ ⟨⟩
              exact ⟨typed, valid_empty schema⟩

/-- The rows of a batch that has columns. -/
theorem held_eq {batch : RecordBatch} {after : DataFrame} (exported : data.toArrow = (some batch, after))
    (some_fields : data.schema ≠ []) : data.held = batch.rows := by
  rw [DataFrame.held, DataFrame.getSchema, if_neg some_fields, DataFrame.content, exported]
  rfl

end Stored

/-! ## Joined batches -/

theorem fits_column {batch : RecordBatch} (valid : batch.Valid) {index : Nat}
    (within : index < batch.schema.fields.length) (inside : index < batch.columns.length) :
    ∀ cell ∈ batch.columns[index], batch.schema.fields[index].type.fits cell = true := by
  refine valid.fits (batch.schema.fields[index], batch.columns[index]) ?_
  rw [List.mem_iff_getElem]
  exact ⟨index, by simp [within, inside], by simp⟩

theorem length_of_equals {left right : ArrowSchema} (equals : left.equals right = true) :
    left.fields.length = right.fields.length := by
  simpa using congrArg List.length (of_decide_eq_true equals)

theorem type_of_equals {left right : ArrowSchema} (equals : left.equals right = true) {index : Nat}
    (within : index < left.fields.length) (inside : index < right.fields.length) :
    left.fields[index].type = right.fields[index].type := by
  have same := congrArg (·[index]?) (of_decide_eq_true equals)
  simp only [List.getElem?_map, List.getElem?_eq_getElem within, List.getElem?_eq_getElem inside,
    Option.map_some, Option.some.injEq, Prod.mk.injEq] at same
  exact same.2.1

variable {left right : RecordBatch}

/-- The rows before the boundary are those of the first batch. -/
theorem row_concatenate_left (valid : left.Valid) (width : left.columns.length = right.columns.length)
    {index : Nat} (within : index < left.numRows) :
    (concatenateRecordBatches left right).row index = left.row index := by
  refine List.ext_getElem (by simp [RecordBatch.row, concatenateRecordBatches, width]) ?_
  intro column inside present
  rw [RecordBatch.row, List.length_map] at present
  have long := valid.long _ (List.getElem_mem present)
  simp only [RecordBatch.row, concatenateRecordBatches, List.getElem_map, List.getElem_zipWith,
    List.getD_eq_getElem?_getD]
  rw [List.getElem?_append_left (long ▸ within)]

/-- The rows behind the boundary are those of the second batch. -/
theorem row_concatenate_right (valid : left.Valid)
    (width : left.columns.length = right.columns.length) (index : Nat) :
    (concatenateRecordBatches left right).row (left.numRows + index) = right.row index := by
  refine List.ext_getElem (by simp [RecordBatch.row, concatenateRecordBatches, width]) ?_
  intro column inside present
  rw [RecordBatch.row, List.length_map, ← width] at present
  have long := valid.long _ (List.getElem_mem present)
  simp only [RecordBatch.row, concatenateRecordBatches, List.getElem_map, List.getElem_zipWith,
    List.getD_eq_getElem?_getD]
  have behind : left.columns[column].length ≤ left.numRows + index := by
    rw [long]
    exact Nat.le_add_right _ _
  rw [List.getElem?_append_right behind, long, Nat.add_sub_cancel_left]

theorem rows_concatenate (valid : left.Valid) (width : left.columns.length = right.columns.length) :
    (concatenateRecordBatches left right).rows = left.rows ++ right.rows := by
  change (List.range (left.numRows + right.numRows)).map _ = _
  rw [List.range_add, List.map_append, List.map_map]
  congr 1
  · exact List.map_congr_left fun index member =>
      row_concatenate_left valid width (List.mem_range.mp member)
  · exact List.map_congr_left fun index _ => row_concatenate_right valid width index

theorem valid_concatenate (valid : left.Valid) (other : right.Valid)
    (equals : left.schema.equals right.schema = true) :
    (concatenateRecordBatches left right).Valid := by
  have fields := length_of_equals equals
  have width : left.columns.length = right.columns.length := by rw [valid.width, other.width, fields]
  refine ⟨?_, ?_, ?_⟩
  · simp [concatenateRecordBatches, ← width, valid.width]
  · intro column member
    obtain ⟨index, within, rfl⟩ := List.getElem_of_mem member
    simp only [concatenateRecordBatches, List.getElem_zipWith, List.length_append]
    rw [valid.long _ (List.getElem_mem _), other.long _ (List.getElem_mem _)]
  · intro pair member cell among
    obtain ⟨index, within, rfl⟩ := List.getElem_of_mem member
    simp only [concatenateRecordBatches, List.length_zip, List.length_zipWith, ← width,
      valid.width, Nat.min_self] at within
    simp only [concatenateRecordBatches, List.getElem_zip, List.getElem_zipWith] at among ⊢
    rcases List.mem_append.mp among with among | among
    · exact fits_column valid within (valid.width ▸ within) cell among
    · have inside : index < right.schema.fields.length := fields ▸ within
      rw [type_of_equals equals within inside]
      exact fits_column other inside (other.width ▸ inside) cell among

/-! ## Rebuilt rows -/

theorem bmod_of_lt {count modulus : Nat} (small : count < (modulus + 1) / 2) :
    (count : Int).bmod modulus = count := by
  have below : count < modulus := by omega
  have same : (count : Int) % modulus = count := by
    rw [← Int.natCast_emod, Nat.mod_eq_of_lt below]
  rw [Int.bmod_eq_emod_of_lt (by omega), same]

theorem toInt32_eq {count : Nat} (small : count < 2 ^ 31) : toInt32 count = count :=
  bmod_of_lt (Nat.lt_of_lt_of_le small (by decide))

section

variable {source merged : DataFrame} {batch : RecordBatch} {fields : List Field}
  {rows : List (List FieldValue)}

theorem getRow_of_batch (pending : source.pendingRows = 0) (held : source.batch = some batch)
    {index : Nat} (within : index < batch.numRows) :
    (source.getRow index).1 = DataFrame.extractRow batch index := by
  unfold DataFrame.getRow DataFrame.finalizePending
  rw [if_neg (by simp [pending])]
  simp only [held]
  rw [if_neg (by omega)]
  rfl

theorem rowCount_of_batch (pending : source.pendingRows = 0) (held : source.batch = some batch) :
    source.rowCount.1 = toInt32 batch.numRows := by
  have finalized : source.finalizePending.finalized = batch.rows := by
    unfold DataFrame.finalizePending
    rw [if_neg (by simp [pending]), DataFrame.finalized, held]
    rfl
  rw [rowCount_eq, finalized, length_rows]

theorem rowIndices_of_batch (pending : source.pendingRows = 0) (held : source.batch = some batch)
    (small : batch.numRows < 2 ^ 31) : rowIndices source = List.range batch.numRows := by
  rw [rowIndices, rowCount_of_batch pending held, toInt32_eq small, Int.toNat_natCast]

/-- The loop appends every row, or ends at a row that is not of the fields. -/
theorem mergeRows_of_batch (valid : batch.Valid) (pending : source.pendingRows = 0)
    (held : source.batch = some batch) (same : batch.schema.frameFields = fields)
    (some_fields : fields ≠ []) {indices : List Nat}
    (within : ∀ index ∈ indices, index < batch.numRows) (growing : Growing fields rows merged)
    (counted : rows.length + indices.length < 2 ^ 31) :
    ((∀ index ∈ indices, holdsAll fields (DataFrame.extractRow batch index) = true) ∧
      ∃ after, mergeRows source indices merged = (.returned 0, after) ∧
        Growing fields (rows ++ indices.map (DataFrame.extractRow batch)) after) ∨
    ((∃ index ∈ indices, holdsAll fields (DataFrame.extractRow batch index) = false) ∧
      ∃ after, mergeRows source indices merged = (.threw, after)) := by
  induction indices generalizing rows merged with
  | nil => exact .inl ⟨nofun, merged, rfl, by simpa using growing⟩
  | cons index rest ih =>
      rw [List.length_cons] at counted
      have wide := same ▸ RecordBatch.length_extractRow valid index
      rw [mergeRows, getRow_of_batch pending held (within index List.mem_cons_self)]
      rcases growing.appendRow some_fields wide (by omega) with
        ⟨all, after, ran, grown⟩ | ⟨none, after, ran⟩
      · simp only [ran]
        rcases ih (fun other member => within other (List.mem_cons_of_mem _ member)) grown
            (by rw [List.length_append, List.length_singleton]; omega) with
          ⟨others, last, went, growing⟩ | ⟨⟨other, member, wrong⟩, last, went⟩
        · refine .inl ⟨List.forall_mem_cons.mpr ⟨all, others⟩, last, went, ?_⟩
          rwa [List.map_cons, List.append_cons]
        · exact .inr ⟨⟨other, List.mem_cons_of_mem _ member, wrong⟩, last, went⟩
      · simp only [ran]
        exact .inr ⟨⟨index, List.mem_cons_self, none⟩, after, rfl⟩

/-- Rows of one frame that a channel can rebuild from two batches: values only, or a NULL on which the
append throws. -/
structure Mergeable (current incoming : RecordBatch) : Prop where
  counted : current.numRows + incoming.numRows < 2 ^ 31
  plain : (current.Plain ∧ incoming.Plain) ∨ current.NullBytes ∨ incoming.NullBytes

instance (current incoming : RecordBatch) : Decidable (Mergeable current incoming) :=
  decidable_of_iff (current.numRows + incoming.numRows < 2 ^ 31 ∧
      ((current.Plain ∧ incoming.Plain) ∨ current.NullBytes ∨ incoming.NullBytes))
    ⟨fun both => ⟨both.1, both.2⟩, fun both => ⟨both.counted, both.plain⟩⟩

theorem frameFields_arrowSchemaOf (schema : ArrowSchema) :
    (arrowSchemaOf schema.frameFields).frameFields = schema.frameFields := by
  unfold arrowSchemaOf ArrowSchema.frameFields
  simp only [List.map_map]
  refine List.map_congr_left fun field _ => ?_
  simp only [Function.comp_apply, Field.mk.injEq, true_and]
  cases field.type <;> rfl

/-- The values of a plain batch are its rows. -/
theorem map_extractRow (valid : batch.Valid) (plain : batch.Plain) :
    ((List.range batch.numRows).map (DataFrame.extractRow batch)).map (·.map .value) =
      batch.rows := by
  rw [List.map_map]
  exact List.map_congr_left fun index member =>
    (RecordBatch.extractRow_plain valid plain (List.mem_range.mp member)).2

namespace DataFrameChannel

variable {channel : DataFrameChannel} {data df : DataFrame} {current incoming : RecordBatch}

/-- Rebuilding appends the rows, or throws. -/
theorem rebuild_cases (valid : current.Valid) (other : incoming.Valid)
    (pending : data.pendingRows = 0) (held : data.batch = some current)
    (df_pending : df.pendingRows = 0) (df_held : df.batch = some incoming)
    (same : incoming.schema.frameFields = current.schema.frameFields)
    (some_fields : current.schema.frameFields ≠ []) (mergeable : Mergeable current incoming) :
    (∃ merged batch, rebuild current.schema.frameFields data df = (.returned 0, merged) ∧
      merged.toArrow.1 = some batch ∧ batch.Valid ∧
      batch.schema.frameFields = current.schema.frameFields ∧
      batch.rows = current.rows ++ incoming.rows) ∨
    ∃ merged, rebuild current.schema.frameFields data df = (.threw, merged) := by
  obtain ⟨counted, plain⟩ := mergeable
  unfold rebuild
  rw [rowIndices_of_batch pending held (by omega), rowIndices_of_batch df_pending df_held (by omega)]
  rcases mergeRows_of_batch valid pending held rfl some_fields
      (fun index => List.mem_range.mp) (.setSchema _ {})
      (by rw [List.length_nil, List.length_range]; omega) with
    ⟨all, merged, ran, grown⟩ | ⟨-, merged, ran⟩
  · simp only [ran]
    rcases mergeRows_of_batch other df_pending df_held same some_fields
        (fun index => List.mem_range.mp) grown
        (by simpa using counted) with
      ⟨others, last, went, grown⟩ | ⟨-, last, went⟩
    · obtain ⟨batch, exported, batch_valid, schema, rows⟩ := grown.toArrow
      refine .inl ⟨last, batch, went, exported, batch_valid, ?_, ?_⟩
      · rw [schema, frameFields_arrowSchemaOf]
      · rcases plain with ⟨plain, other_plain⟩ | nulls | nulls
        · rw [rows, List.nil_append, List.map_append, map_extractRow valid plain,
            map_extractRow other other_plain]
        · obtain ⟨index, within, wrong⟩ := RecordBatch.extractRow_nullBytes valid nulls
          rw [all index (List.mem_range.mpr within)] at wrong
          cases wrong
        · obtain ⟨index, within, wrong⟩ := RecordBatch.extractRow_nullBytes other nulls
          rw [same, others index (List.mem_range.mpr within)] at wrong
          cases wrong
    · exact .inr ⟨last, went⟩
  · simp only [ran]
    exact .inr ⟨merged, rfl⟩

/-- Compatible schemas have the same fields. -/
theorem eq_of_compatible {lhs rhs : List Field} (compatible : schemaCompatibleLocked lhs rhs = true) :
    rhs = lhs := by
  simp only [schemaCompatibleLocked, Bool.and_eq_true, decide_eq_true_eq, List.all_eq_true] at compatible
  obtain ⟨length, same⟩ := compatible
  refine List.ext_getElem length.symm fun index within inside => ?_
  have pair := same (lhs[index], rhs[index]) (by
    rw [List.mem_iff_getElem]
    exact ⟨index, by simp [inside, within], by simp⟩)
  cases left : lhs[index]
  cases right : rhs[index]
  simp only [left, right] at pair
  rw [pair.1, pair.2]

/-- How an append ends. -/
inductive Appended (channel : DataFrameChannel) (df : DataFrame) : Append × DataFrameChannel → Prop
  | failed {outcome : Append} {data : DataFrame} (failed : outcome ≠ .returned 0)
      (determined : outcome ≠ .undefined) (stored : Stored data)
      (schema : data.schema = channel.data.schema)
      (exported : data.toArrow.1 = channel.data.toArrow.1) :
      Appended channel df (outcome, { channel with data := data })
  | added {data : DataFrame} (stored : Stored data)
      (held : data.held = channel.data.held ++ df.held) :
      Appended channel df (.returned 0, { channel with data := data })

theorem held_fromArrow {batch : RecordBatch} (some_fields : batch.schema.frameFields ≠ []) :
    (DataFrame.fromArrow (some batch)).held = batch.rows :=
  Stored.held_eq (toArrow_of_batch rfl rfl) some_fields

theorem held_empty {frame : DataFrame} (none : frame.schema = []) : frame.held = [] := by
  rw [DataFrame.held, DataFrame.getSchema, if_pos none]

/-- Both batches where the channel has columns and the frame has the same. -/
theorem append_cases (stored : Stored channel.data) (df_stored : Stored df) (concatenated : Bool)
    (mergeable : channel.opened = true →
      schemaCompatibleLocked channel.data.getSchema df.getSchema = true →
      ∀ current ∈ channel.data.toArrow.1, ∀ incoming ∈ df.toArrow.1,
        current.schema.equals incoming.schema = false → Mergeable current incoming) :
    Appended channel df (channel.append (some df) concatenated) := by
  unfold append
  simp only
  split
  · exact .failed (by decide) (by decide) stored rfl rfl
  · rename_i opened
    simp only [Bool.not_eq_true, Bool.not_eq_false'] at opened
    split
    · rename_i none
      exact .added stored (by rw [held_empty (show df.schema = [] from none), List.append_nil])
    · rename_i df_fields
      rcases df_stored.exports with ⟨none, -⟩ |
        ⟨incoming, df_after, df_exported, other, df_stored', df_batch, df_schema, df_typed⟩
      · exact absurd none df_fields
      · have df_held := Stored.held_eq df_exported df_fields
        rw [df_exported]
        split
        · rename_i empty
          refine .added (.fromArrow other) ?_
          rw [held_empty (show channel.data.schema = [] from empty), List.nil_append, df_held]
          exact held_fromArrow (df_typed ▸ df_fields)
        · rename_i fields
          split
          · exact .failed (by decide) (by decide) stored rfl rfl
          · rename_i compatible
            rw [Bool.not_eq_true, Bool.not_eq_false'] at compatible
            rcases stored.exports with ⟨none, -⟩ |
              ⟨current, after, exported, valid, after_stored, batch, schema, typed⟩
            · exact absurd none fields
            · have held := Stored.held_eq exported fields
              have kept := toArrow_of_batch after_stored.pending batch
              have same : incoming.schema.frameFields = current.schema.frameFields := by
                rw [← typed, ← df_typed]
                exact eq_of_compatible compatible
              rw [exported]
              simp only
              split
              · rename_i equals
                split
                · exact .failed (by decide) (by decide) after_stored schema (by rw [kept, exported])
                · have width : current.columns.length = incoming.columns.length := by
                    rw [valid.width, other.width, length_of_equals equals]
                  refine .added (.fromArrow (valid_concatenate valid other equals)) ?_
                  rw [held, df_held, held_fromArrow, rows_concatenate valid width]
                  exact typed ▸ fields
              · rename_i different
                rw [Bool.not_eq_true] at different
                have pair := mergeable opened compatible current (by rw [exported]; rfl) incoming
                  (by rw [df_exported]; rfl) different
                unfold appendRebuilt
                rw [DataFrame.getSchema, typed]
                rcases rebuild_cases valid other after_stored.pending batch df_stored'.pending
                    df_batch same (typed ▸ fields) pair with
                  ⟨merged, result, ran, merged_exported, result_valid, result_typed, rows⟩ |
                  ⟨merged, ran⟩
                · rw [ran]
                  simp only [merged_exported, Option.isSome_some, if_true]
                  refine .added (.fromArrow result_valid) ?_
                  rw [held, df_held, held_fromArrow, rows]
                  rw [result_typed, ← typed]
                  exact fields
                · rw [ran]
                  exact .failed nofun nofun after_stored schema (by rw [kept, exported])

end DataFrameChannel

end

/-! ## Every run -/

/-- The frame of a batch, or of none. -/
def frameOf (batch : Option ArrowBatch) : DataFrame :=
  .fromArrow (batch.map (·.batch))

theorem stored_frameOf (batch : Option ArrowBatch) : Stored (frameOf batch) := by
  cases batch with
  | none => exact ⟨rfl, fun _ => ⟨rfl, rfl⟩, nofun, nofun, nofun⟩
  | some batch => exact .fromArrow batch.valid

/-- The calls, with the batch of the frame that is given, or a frame to read into. -/
inductive ChannelEvent where
  | openChannel
  | close
  | write (batch : Option ArrowBatch)
  | append (batch : Option ArrowBatch) (concatenated : Bool)
  | read (df : DataFrame)

/-- A channel, the rows that it should hold, and the frames that were read, with the rows of that
time. -/
structure ChannelWorld where
  channel : DataFrameChannel := {}
  rows : List (List Cell) := []
  reads : List (DataFrame × List (List Cell)) := []

namespace ChannelWorld

def apply (world : ChannelWorld) : ChannelEvent → ChannelWorld
  | .openChannel => { world with channel := world.channel.openChannel.2 }
  | .close => { world with channel := world.channel.close.2, rows := [] }
  | .write batch =>
      let (rc, channel) := world.channel.write (some (frameOf batch))
      { world with
        channel := channel
        rows := if rc = 0 then (frameOf batch).held else world.rows }
  | .append batch concatenated =>
      let (outcome, channel) := world.channel.append (some (frameOf batch)) concatenated
      { world with
        channel := channel
        rows := if outcome = .returned 0 then world.rows ++ (frameOf batch).held else world.rows }
  | .read df =>
      match world.channel.read (some df) with
      | (0, some df, channel) =>
          { world with channel := channel, reads := (df, world.rows) :: world.reads }
      | (_, _, channel) => { world with channel := channel }

def step (world : ChannelWorld) (event : ChannelEvent) : Option ChannelWorld :=
  some (apply world event)

/-- An append whose Arrow schema is not that of the rows that are held finds rows that can be
rebuilt. -/
def Allowed (world : ChannelWorld) : ChannelEvent → Prop
  | .append batch _ => world.channel.opened = true →
      schemaCompatibleLocked world.channel.data.getSchema (frameOf batch).getSchema = true →
      ∀ current ∈ world.channel.data.toArrow.1, ∀ incoming ∈ (frameOf batch).toArrow.1,
        current.schema.equals incoming.schema = false → Mergeable current incoming
  | _ => True

theorem reached_apply {world : ChannelWorld} (event : ChannelEvent) (allowed : Allowed world event)
    (reached : Reachable step Allowed {} world) : Reachable step Allowed {} (apply world event) :=
  .step reached allowed rfl

end ChannelWorld

/-- What does not change in a call that fails. -/
structure Unchanged (before after : DataFrameChannel) : Prop where
  opened : after.opened = before.opened
  generation : after.replacementGeneration = before.replacementGeneration
  schema : after.data.getSchema = before.data.getSchema
  exported : after.data.toArrow.1 = before.data.toArrow.1

/-- What the channel holds and has given, and what a failure of the next call leaves. -/
structure ChannelFaithful (world : ChannelWorld) : Prop where
  rows : world.channel.data.held = world.rows
  reads : ∀ read ∈ world.reads, read.1.held = read.2
  write : ∀ batch, (world.channel.write (some (frameOf batch))).1 ≠ 0 →
    Unchanged world.channel (world.channel.write (some (frameOf batch))).2
  append : ∀ batch concatenated, world.Allowed (.append batch concatenated) →
    (world.channel.append (some (frameOf batch)) concatenated).1 ≠ .undefined ∧
    ((world.channel.append (some (frameOf batch)) concatenated).1 ≠ .returned 0 →
      Unchanged world.channel (world.channel.append (some (frameOf batch)) concatenated).2)
  read : ∀ df, (world.channel.read (some df)).1 ≠ 0 →
    (world.channel.read (some df)).2.1 = some df ∧
    Unchanged world.channel (world.channel.read (some df)).2.2

/-- A frame that was cleared has no rows. -/
theorem held_clear (frame : DataFrame) : frame.clear.held = [] := by
  have empty : frame.clear.content = [] := by
    unfold DataFrame.content DataFrame.toArrow DataFrame.clear
    cases typed : frame.arrowSchema with
    | none => simp
    | some schema =>
        simp only [Option.isSome_some, if_true]
        rw [DataFrame.initBuilders_some rfl]
        simp [DataFrame.finalize, DataFrame.initBuilders, RecordBatch.rows]
  rw [DataFrame.held, empty]
  exact ite_self _

/-- The channel holds its rows in a batch. -/
structure Kept (world : ChannelWorld) : Prop where
  stored : Stored world.channel.data
  rows : world.channel.data.held = world.rows
  reads : ∀ read ∈ world.reads, read.1.held = read.2

namespace Kept

variable {world : ChannelWorld}

theorem initially : Kept {} :=
  ⟨.initially, rfl, nofun⟩

/-- The frame of the batch takes the place of what the channel holds. -/
theorem write_eq (batch : Option ArrowBatch) (opened : world.channel.opened = true) :
    ∃ data, world.channel.write (some (frameOf batch)) =
        (0, { world.channel with
          data := data, replacementGeneration := world.channel.replacementGeneration + 1 }) ∧
      (batch = none → data = world.channel.data.clear) ∧
      ∀ present ∈ batch, data = .fromArrow (some present.batch) := by
  unfold DataFrameChannel.write
  simp only [opened, Bool.not_true, Bool.false_eq_true, if_false]
  cases batch with
  | none => exact ⟨_, rfl, fun _ => rfl, nofun⟩
  | some present =>
      refine ⟨_, rfl, nofun, ?_⟩
      rintro _ ⟨⟩
      have exported : (frameOf (some present)).toArrow.1 = some present.batch :=
        congrArg Prod.fst (toArrow_of_batch rfl rfl)
      rw [exported]
      rfl

theorem close (kept : Kept world) : Kept (world.apply .close) :=
  ⟨kept.stored.clear, held_clear _, kept.reads⟩

theorem write (kept : Kept world) (batch : Option ArrowBatch) :
    Kept (world.apply (.write batch)) := by
  by_cases opened : world.channel.opened = true
  · obtain ⟨data, wrote, none, present⟩ := write_eq batch opened
    unfold ChannelWorld.apply
    simp only
    rw [wrote]
    cases batch with
    | none =>
        obtain rfl := none rfl
        exact ⟨kept.stored.clear, held_clear _, kept.reads⟩
    | some batch =>
        obtain rfl := present batch rfl
        exact ⟨.fromArrow batch.valid, rfl, kept.reads⟩
  · unfold ChannelWorld.apply DataFrameChannel.write
    simp only [opened, Bool.not_false, if_true]
    exact kept

theorem append (kept : Kept world) {batch : Option ArrowBatch} {concatenated : Bool}
    (allowed : world.Allowed (.append batch concatenated)) :
    Kept (world.apply (.append batch concatenated)) := by
  have ended := DataFrameChannel.append_cases kept.stored (stored_frameOf batch) concatenated allowed
  unfold ChannelWorld.apply
  simp only
  generalize world.channel.append (some (frameOf batch)) concatenated = result at ended
  cases ended with
  | failed failed determined stored schema exported =>
      refine ⟨stored, ?_, kept.reads⟩
      rw [if_neg failed, ← kept.rows]
      unfold DataFrame.held DataFrame.content DataFrame.getSchema
      simp only
      rw [schema, exported]
  | added stored held =>
      refine ⟨stored, ?_, kept.reads⟩
      rw [if_pos rfl, ← kept.rows]
      exact held

/-- The rows are read, and stay. -/
theorem read_eq (kept : Kept world) (df : DataFrame) (opened : world.channel.opened = true) :
    ∃ frame data, world.channel.read (some df) =
        (0, some frame, { world.channel with data := data }) ∧
      frame.held = world.rows ∧ Stored data ∧ data.held = world.rows := by
  unfold DataFrameChannel.read
  simp only [opened, Bool.not_true, Bool.false_eq_true, if_false]
  rcases kept.stored.exports with ⟨none, exported⟩ |
    ⟨batch, after, exported, valid, stored, held, schema, typed⟩
  · refine ⟨_, _, rfl, ?_, ?_, ?_⟩
    · rw [exported, ← kept.rows, DataFrameChannel.held_empty none]
      exact held_clear df
    · rw [exported]
      exact kept.stored
    · rw [exported]
      exact kept.rows
  · have unchanged : after.held = world.rows := by
      rw [← kept.rows]
      unfold DataFrame.held DataFrame.content DataFrame.getSchema
      rw [schema, toArrow_of_batch stored.pending held, exported]
    refine ⟨_, _, rfl, ?_, ?_, ?_⟩
    · rw [exported, ← unchanged]
      unfold DataFrame.held DataFrame.content DataFrame.getSchema
      simp only [Option.isSome_some, if_true]
      rw [toArrow_of_batch stored.pending held, toArrow_of_batch rfl rfl, schema, typed]
      rfl
    · rw [exported]
      exact stored
    · rw [exported]
      exact unchanged

theorem read (kept : Kept world) (df : DataFrame) : Kept (world.apply (.read df)) := by
  by_cases opened : world.channel.opened = true
  · obtain ⟨frame, data, given, held, stored, unchanged⟩ := kept.read_eq df opened
    unfold ChannelWorld.apply
    simp only
    rw [given]
    exact ⟨stored, unchanged, List.forall_mem_cons.mpr ⟨held, kept.reads⟩⟩
  · unfold ChannelWorld.apply DataFrameChannel.read
    simp only [opened, Bool.not_false, if_true]
    exact kept

/-- One call. -/
theorem apply (kept : Kept world) {event : ChannelEvent} (allowed : world.Allowed event) :
    Kept (world.apply event) := by
  cases event with
  | openChannel => exact ⟨kept.stored, kept.rows, kept.reads⟩
  | close => exact kept.close
  | write batch => exact kept.write batch
  | append batch concatenated => exact kept.append allowed
  | read df => exact kept.read df

end Kept

theorem Unchanged.refl (channel : DataFrameChannel) : Unchanged channel channel :=
  ⟨rfl, rfl, rfl, rfl⟩

/-- The channel holds the rows of the last write and of every append since, as long as each append
that rebuilds rows finds values only, or a NULL on which it throws. -/
theorem channel_faithful {world : ChannelWorld}
    (reached : Reachable ChannelWorld.step ChannelWorld.Allowed {} world) :
    ChannelFaithful world := by
  have kept : Kept world := by
    refine reached.invariant Kept .initially ?_
    intro state event after kept allowed moved
    cases moved
    exact kept.apply allowed
  refine ⟨kept.rows, kept.reads, ?_, ?_, ?_⟩
  · intro batch failed
    by_cases opened : world.channel.opened = true
    · obtain ⟨data, wrote, -⟩ := Kept.write_eq batch opened
      rw [wrote] at failed
      exact absurd rfl failed
    · unfold DataFrameChannel.write
      simp only [opened, Bool.not_false, if_true]
      exact .refl world.channel
  · intro batch concatenated allowed
    have ended := DataFrameChannel.append_cases kept.stored (stored_frameOf batch) concatenated
      allowed
    generalize world.channel.append (some (frameOf batch)) concatenated = result at ended
    cases ended with
    | failed failed determined stored schema exported =>
        exact ⟨determined, fun _ => ⟨rfl, rfl, schema, exported⟩⟩
    | added stored held => exact ⟨nofun, fun failed => absurd rfl failed⟩
  · intro df failed
    by_cases opened : world.channel.opened = true
    · obtain ⟨frame, data, given, -⟩ := kept.read_eq df opened
      rw [given] at failed
      exact absurd rfl failed
    · unfold DataFrameChannel.read
      simp only [opened, Bool.not_false, if_true]
      exact ⟨trivial, .refl world.channel⟩

/-- One column of one row. -/
def oneCell (nullable : Bool) (cell : Cell) (fits : ArrowType.int32.fits cell = true) :
    ArrowBatch where
  batch :=
    { schema := { fields := [{ name := "a", type := .int32, nullable := nullable }] }
      numRows := 1
      columns := [[cell]] }
  valid := by
    refine ⟨rfl, by simp, ?_⟩
    simpa using fits

/-- A close drops the rows, and an append of a nullable column makes a zero of a NULL. -/
theorem close_drops_rows :
    let written := [.openChannel, .write (some (oneCell false (.value (.int32 1)) rfl))].foldl
      ChannelWorld.apply {}
    let closed := [.close, .openChannel].foldl ChannelWorld.apply written
    let appended := written.apply (.append (some (oneCell true .null rfl)) true)
    written.channel.data.held = [[.value (.int32 1)]] ∧ closed.channel.data.held = [] ∧
      (written.channel.append (some (frameOf (some (oneCell true .null rfl)))) true).1 =
        .returned 0 ∧
      appended.channel.data.held = [[.value (.int32 1)], [.value (.int32 0)]] := by
  decide +kernel

/-- A value of a nullable column behind one of a column that is not. -/
theorem nullable_value_kept : ChannelFaithful
    ([.openChannel, .write (some (oneCell false (.value (.int32 1)) rfl)),
      .append (some (oneCell true (.value (.int32 2)) rfl)) true, .read {}].foldl
        ChannelWorld.apply {}) := by
  have open_channel := ChannelWorld.reached_apply .openChannel trivial .start
  have written := ChannelWorld.reached_apply
    (.write (some (oneCell false (.value (.int32 1)) rfl))) trivial open_channel
  have appended := ChannelWorld.reached_apply
    (.append (some (oneCell true (.value (.int32 2)) rfl)) true) ?_ written
  · exact channel_faithful (ChannelWorld.reached_apply (.read {}) trivial appended)
  · rintro - - current held incoming given -
    cases held
    cases given
    decide

end Flowsql.Frame
