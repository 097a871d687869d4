import Flowsql.Frame.DataFrame
import Flowsql.Library.Transitions

/-!
# The rows of a data frame

What a data frame is for: rows that are appended one after the other, and reads that change nothing.
The code keeps to it as long as no row is appended to a batch that a read has finalized.
-/

namespace Flowsql.Frame

open Flowsql.Library

/-! ## Rows and columns -/

/-- The columns of rows of a width. -/
def columnsOf (width : Nat) (rows : List (List Cell)) : List (List Cell) :=
  (List.range width).map fun index => rows.map (·.getD index .null)

theorem length_columnsOf (width : Nat) (rows : List (List Cell)) :
    (columnsOf width rows).length = width := by
  simp [columnsOf]

/-- The rows of a batch are those its columns begin with. -/
theorem rows_of_columns {schema : ArrowSchema} {columns : List (List Cell)} {rows : List (List Cell)}
    (width : ∀ row ∈ rows, row.length = columns.length)
    (cells : columns.map (·.take rows.length) = columnsOf columns.length rows) :
    (RecordBatch.mk schema rows.length columns).rows = rows := by
  refine List.ext_getElem (by simp [RecordBatch.rows]) fun index within inside => ?_
  simp only [RecordBatch.rows, RecordBatch.row, List.getElem_map, List.getElem_range]
  have long := width _ (List.getElem_mem inside)
  refine List.ext_getElem (by simp [long]) fun column present _ => ?_
  rw [List.length_map] at present
  have same := congrArg (fun columns => (columns.getD column []).getD index .null) cells
  simp only [columnsOf, List.getD_eq_getElem?_getD, List.getElem?_map,
    List.getElem?_range present, List.getElem?_eq_getElem present, Option.map_some,
    Option.getD_some, List.getElem?_take_of_lt inside, List.getElem?_eq_getElem inside] at same
  rw [List.getElem_map, List.getD_eq_getElem?_getD, same, List.getElem?_eq_getElem (long ▸ present)]
  rfl

theorem columnsOf_append (width : Nat) (rows : List (List Cell)) (row : List Cell)
    (long : row.length = width) :
    columnsOf width (rows ++ [row]) =
      List.zipWith (fun cells cell => cells ++ [cell]) (columnsOf width rows) row := by
  refine List.ext_getElem (by simp [columnsOf, long]) fun index within inside => ?_
  have present : index < row.length := by
    rw [length_columnsOf] at within
    omega
  simp [columnsOf, List.getD_eq_getElem?_getD, List.getElem?_eq_getElem present]

/-! ## Appends -/

/-- The values are of the types of their fields. -/
def holdsAll (fields : List Field) (values : List FieldValue) : Bool :=
  (fields.zip values).all fun (field, value) => field.type.holds value

/-- Each value that is of the type of its field goes into a builder that takes it. -/
def takesAll : List Field → List ColumnBuilder → List FieldValue → Bool
  | field :: fields, builder :: builders, value :: values =>
      (!field.type.holds value || builder.takes field.type value) && takesAll fields builders values
  | _, _, _ => true

theorem appendValues_length {fields : List Field} {builders after : List ColumnBuilder}
    {values : List FieldValue} {outcome : Append}
    (ran : appendValues fields builders values = (outcome, after)) :
    after.length = builders.length := by
  induction fields generalizing builders values outcome after with
  | nil =>
      cases ran
      rfl
  | cons field fields ih =>
      cases builders with
      | nil =>
          cases ran
          rfl
      | cons builder builders =>
          cases values with
          | nil =>
              cases ran
              rfl
          | cons value values =>
              rw [appendValues] at ran
              split_ifs at ran
              · cases ran
                rfl
              · cases ran
                rfl
              · cases rest : appendValues fields builders values with
                | mk outcome' after' =>
                    rw [rest] at ran
                    cases ran
                    exact congrArg Nat.succ (ih rest)

/-- Cells are only added behind those that are there. -/
theorem appendValues_take {fields : List Field} {builders after : List ColumnBuilder}
    {values : List FieldValue} {outcome : Append} {rows : Nat}
    (ran : appendValues fields builders values = (outcome, after))
    (long : ∀ builder ∈ builders, rows ≤ builder.cells.length) :
    after.map (·.cells.take rows) = builders.map (·.cells.take rows) ∧
      ∀ builder ∈ after, rows ≤ builder.cells.length := by
  induction fields generalizing builders values outcome after with
  | nil =>
      cases ran
      exact ⟨rfl, long⟩
  | cons field fields ih =>
      cases builders with
      | nil =>
          cases ran
          exact ⟨rfl, long⟩
      | cons builder builders =>
          cases values with
          | nil =>
              cases ran
              exact ⟨rfl, long⟩
          | cons value values =>
              rw [appendValues] at ran
              split_ifs at ran
              · cases ran
                exact ⟨rfl, long⟩
              · cases ran
                exact ⟨rfl, long⟩
              · cases rest : appendValues fields builders values with
                | mk outcome' after' =>
                    rw [rest] at ran
                    cases ran
                    have first := long builder List.mem_cons_self
                    obtain ⟨same, longer⟩ :=
                      ih rest fun other member => long other (List.mem_cons_of_mem _ member)
                    refine ⟨?_, ?_⟩
                    · rw [List.map_cons, List.map_cons, same]
                      simp only [List.take_append_of_le_length first]
                    · intro other member
                      rcases List.mem_cons.mp member with rfl | member
                      · rw [List.length_append]
                        exact Nat.le_trans first (Nat.le_add_right _ _)
                      · exact longer other member

/-- A row whose values are of the types of their fields is added as a whole; another one throws. -/
theorem appendValues_taken {fields : List Field} {builders : List ColumnBuilder}
    {values : List FieldValue} (taken : takesAll fields builders values = true)
    (columns : builders.length = fields.length) (width : values.length = fields.length) :
    (holdsAll fields values = true ∧ ∃ after,
      appendValues fields builders values = (.returned 0, after) ∧
      after.map ColumnBuilder.cells = List.zipWith (fun cells cell => cells ++ [cell])
        (builders.map ColumnBuilder.cells) (values.map .value)) ∨
    (holdsAll fields values = false ∧ ∃ after,
      appendValues fields builders values = (.threw, after)) := by
  induction fields generalizing builders values with
  | nil =>
      rw [List.length_eq_zero_iff.mp columns, List.length_eq_zero_iff.mp width]
      exact .inl ⟨rfl, _, rfl, rfl⟩
  | cons field fields ih =>
      obtain ⟨builder, builders, rfl⟩ := List.exists_cons_of_length_eq_add_one columns
      obtain ⟨value, values, rfl⟩ := List.exists_cons_of_length_eq_add_one width
      rw [takesAll, Bool.and_eq_true] at taken
      simp only [List.length_cons, Nat.add_right_cancel_iff] at columns width
      by_cases holds : field.type.holds value = true
      · have takes : builder.takes field.type value = true := by simpa [holds] using taken.1
        rcases ih taken.2 columns width with ⟨all, after, ran, cells⟩ | ⟨all, after, ran⟩
        · refine .inl ⟨?_, { builder with cells := builder.cells ++ [.value value] } :: after, ?_, ?_⟩
          · simpa [holdsAll, holds] using all
          · simp [appendValues, holds, takes, ran]
          · simp [cells]
        · refine .inr ⟨?_, { builder with cells := builder.cells ++ [.value value] } :: after, ?_⟩
          · simpa [holdsAll, holds] using all
          · simp [appendValues, holds, takes, ran]
      · exact .inr ⟨by simp [holdsAll, holds], _, by rw [appendValues, if_pos (by simpa using holds)]⟩

/-! ## What a frame holds -/

/-- The rows that an export gives. -/
def DataFrame.content (frame : DataFrame) : List (List Cell) :=
  (frame.toArrow.1.map RecordBatch.rows).getD []

/-- The rows of the batch that is held. -/
def DataFrame.finalized (frame : DataFrame) : List (List Cell) :=
  (frame.batch.map RecordBatch.rows).getD []

theorem DataFrame.initBuilders_some {frame : DataFrame} {schema : ArrowSchema}
    (typed : frame.arrowSchema = some schema) : frame.initBuilders =
      { frame with
        builders := schema.fields.map fun field => { type := field.type }, pendingRows := 0 } := by
  unfold initBuilders
  rw [typed]

/-- The builders hold these rows, and cells behind them only where an append has thrown. -/
structure Built (rows : List (List Cell)) (frame : DataFrame) : Prop where
  pending : frame.pendingRows = rows.length
  width : ∀ row ∈ rows, row.length = frame.builders.length
  cells : frame.builders.map (·.cells.take rows.length) = columnsOf frame.builders.length rows
  long : ∀ builder ∈ frame.builders, rows.length ≤ builder.cells.length
  columns : frame.builders = [] ∨ frame.builders.length = frame.schema.length
  typed : ∀ schema ∈ frame.arrowSchema, schema.fields.length = frame.schema.length
  untyped : frame.arrowSchema = none → frame.builders = [] ∧ frame.schema = [] ∧ frame.batch = none
  made : frame.batch = none → frame.builders = [] → frame.schema = []
  building : rows ≠ [] → frame.batch = none ∧ frame.builders ≠ []

namespace Built

variable {rows : List (List Cell)} {frame : DataFrame}

/-- Builders that were just made hold nothing. -/
theorem fresh {schema : ArrowSchema} (typed : frame.arrowSchema = some schema)
    (width : schema.fields.length = frame.schema.length) :
    Built [] { frame with
      builders := schema.fields.map fun field => { type := field.type }, pendingRows := 0 } := by
  refine ⟨rfl, nofun, ?_, fun _ _ => Nat.zero_le _, .inr (by simpa using width), ?_, ?_, ?_, nofun⟩
  · refine List.ext_getElem (by simp [columnsOf]) fun index _ _ => ?_
    simp [columnsOf]
  · intro other same
    rw [Option.mem_def, typed] at same
    cases same
    exact width
  · intro none
    cases typed.symm.trans none
  · intro _ empty
    rw [← List.length_eq_zero_iff, List.length_map, width] at empty
    exact List.length_eq_zero_iff.mp empty

/-- A frame without a batch has builders just when it has fields. -/
theorem builders_iff (built : Built rows frame) (unread : frame.batch = none) :
    frame.builders ≠ [] ↔ frame.schema ≠ [] := by
  constructor
  · intro some_builders empty
    rcases built.columns with none | same
    · exact some_builders none
    · rw [empty] at same
      exact some_builders (List.length_eq_zero_iff.mp same)
  · intro fields empty
    exact fields (built.made unread empty)

theorem batch_rows (built : Built rows frame) (schema : ArrowSchema) :
    (RecordBatch.mk schema frame.pendingRows (frame.builders.map ColumnBuilder.cells)).rows =
      rows := by
  rw [built.pending]
  refine rows_of_columns (by simpa using built.width) ?_
  rw [List.length_map, List.map_map]
  exact built.cells

theorem some_rows (built : Built rows frame) (pending : 0 < frame.pendingRows) : rows ≠ [] := by
  rintro rfl
  rw [built.pending] at pending
  cases pending

theorem some_schema (built : Built rows frame) (some_rows : rows ≠ []) :
    ∃ schema, frame.arrowSchema = some schema := by
  cases typed : frame.arrowSchema with
  | none => exact absurd (built.untyped typed).1 (built.building some_rows).2
  | some schema => exact ⟨schema, rfl⟩

/-- The pending rows become the batch. -/
theorem finalize (built : Built rows frame) {schema : ArrowSchema}
    (typed : frame.arrowSchema = some schema) (unread : frame.batch = none) :
    Built [] frame.finalize ∧ frame.finalize.finalized = rows ∧
      frame.finalize.schema = frame.schema ∧
      (frame.finalize.builders ≠ [] ↔ frame.builders ≠ []) := by
  have width := built.typed schema typed
  have made : frame.finalize = { frame with
      batch := some (.mk schema frame.pendingRows (frame.builders.map ColumnBuilder.cells))
      builders := schema.fields.map fun field => { type := field.type }
      pendingRows := 0 } := by
    unfold DataFrame.finalize
    rw [if_neg (by simp [unread]), typed]
    exact DataFrame.initBuilders_some rfl
  refine ⟨?_, ?_, ?_, ?_⟩
  · rw [made]
    exact @fresh { frame with
      batch := some (.mk schema frame.pendingRows (frame.builders.map ColumnBuilder.cells)) }
      schema typed width
  · rw [made]
    exact built.batch_rows schema
  · rw [made]
  · rw [built.builders_iff unread, made, ne_eq, ne_eq, List.map_eq_nil_iff,
      ← List.length_eq_zero_iff, width, List.length_eq_zero_iff]

end Built

/-! ## The rows that were appended -/

/-- What a frame is for. -/
structure Contents where
  schema : List Field := []
  /-- Rows can be appended. -/
  building : Bool := false
  rows : List (List Cell) := []

namespace Contents

def setSchema (schema : List Field) : Contents where
  schema := schema
  building := schema ≠ []

def fromArrow : Option RecordBatch → Contents
  | none => {}
  | some batch =>
      { schema := batch.schema.fields.map fun field =>
          { name := field.name, type := fromArrowType field.type }
        rows := batch.rows }

def clear (contents : Contents) : Contents :=
  .setSchema contents.schema

def accepts (contents : Contents) (row : List FieldValue) : Bool :=
  contents.building && row.length = contents.schema.length && holdsAll contents.schema row

def append (contents : Contents) (row : List FieldValue) : Contents :=
  if contents.accepts row then { contents with rows := contents.rows ++ [row.map .value] }
  else contents

end Contents

/-- The frame holds the contents, in its batch or in its builders. -/
structure Holds (contents : Contents) (frame : DataFrame) : Prop where
  schema : frame.schema = contents.schema
  building : contents.building = true ↔ frame.builders ≠ []
  rows : ∃ rows, Built rows frame ∧
    contents.rows = if rows = [] then frame.finalized else rows

/-- A row can be appended without a loss: the batch that is held has no rows, no append has thrown
since the builders were made, and they take the values. -/
structure Ready (frame : DataFrame) (row : List FieldValue) : Prop where
  unread : frame.finalized = []
  aligned : ∀ builder ∈ frame.builders, builder.cells.length = frame.pendingRows
  taken : takesAll frame.schema frame.builders row = true
  counted : frame.pendingRows + 1 < 2 ^ 31

namespace Holds

variable {contents : Contents} {frame : DataFrame}

theorem initially : Holds {} {} where
  schema := rfl
  building := by simp
  rows := ⟨[], ⟨rfl, nofun, rfl, nofun, .inl rfl, nofun, fun _ => ⟨rfl, rfl, rfl⟩,
    fun _ _ => rfl, nofun⟩, rfl⟩

theorem finalize (holds : Holds contents frame) {schema : ArrowSchema}
    (typed : frame.arrowSchema = some schema) (unread : frame.batch = none) :
    Holds contents frame.finalize := by
  obtain ⟨same, building, rows, built, content⟩ := holds
  obtain ⟨start, finalized, schema_same, builders⟩ := built.finalize typed unread
  refine ⟨schema_same.trans same, building.trans builders.symm, [], start, ?_⟩
  rw [if_pos rfl, finalized, content]
  split
  · rename_i empty
    rw [DataFrame.finalized, unread, empty]
    rfl
  · rfl

/-- The reads keep the contents. -/
theorem finalizePending (holds : Holds contents frame) : Holds contents frame.finalizePending := by
  unfold DataFrame.finalizePending
  split
  · rename_i pending
    obtain ⟨rows, built, -⟩ := holds.rows
    have some_rows : rows ≠ [] := built.some_rows pending
    obtain ⟨schema, typed⟩ := built.some_schema some_rows
    exact holds.finalize typed (built.building some_rows).1
  · exact holds

theorem toArrow (holds : Holds contents frame) : Holds contents frame.toArrow.2 := by
  unfold DataFrame.toArrow
  simp only
  split
  · rename_i unfinished
    by_cases pending : 0 < frame.pendingRows
    · have kept := holds.finalizePending
      rwa [DataFrame.finalizePending, if_pos pending] at kept
    · obtain ⟨unread, typed⟩ := unfinished.resolve_left pending
      obtain ⟨schema, typed⟩ := Option.isSome_iff_exists.mp typed
      exact holds.finalize typed unread
  · exact holds

/-- What is finalized when nothing is pending. -/
theorem finalized (holds : Holds contents frame) (none : frame.pendingRows = 0) :
    frame.finalized = contents.rows := by
  obtain ⟨rows, built, content⟩ := holds.rows
  rw [content, if_pos (List.length_eq_zero_iff.mp (built.pending ▸ none))]

theorem pendingRows_initBuilders (frame : DataFrame) {schema : ArrowSchema}
    (typed : frame.arrowSchema = some schema) : frame.initBuilders.pendingRows = 0 := by
  rw [DataFrame.initBuilders_some typed]

theorem pendingRows_finalize (frame : DataFrame) (typed : frame.arrowSchema ≠ none) :
    frame.finalize.pendingRows = 0 := by
  unfold DataFrame.finalize
  split
  · rename_i done
    exact done.1
  · split
    · contradiction
    · rename_i schema found
      exact pendingRows_initBuilders _ found

theorem pendingRows_finalizePending (holds : Holds contents frame) :
    frame.finalizePending.pendingRows = 0 := by
  unfold DataFrame.finalizePending
  split
  · rename_i pending
    obtain ⟨rows, built, -⟩ := holds.rows
    have some_rows : rows ≠ [] := built.some_rows pending
    obtain ⟨schema, typed⟩ := built.some_schema some_rows
    exact pendingRows_finalize frame (by simp [typed])
  · omega

theorem pendingRows_toArrow (holds : Holds contents frame) : frame.toArrow.2.pendingRows = 0 := by
  unfold DataFrame.toArrow
  simp only
  split
  · rename_i unfinished
    by_cases pending : 0 < frame.pendingRows
    · have none := holds.pendingRows_finalizePending
      rwa [DataFrame.finalizePending, if_pos pending] at none
    · obtain ⟨-, typed⟩ := unfinished.resolve_left pending
      exact pendingRows_finalize frame (Option.isSome_iff_ne_none.mp typed)
  · omega

theorem content_eq (holds : Holds contents frame) : frame.content = contents.rows :=
  holds.toArrow.finalized holds.pendingRows_toArrow

/-- The row is added to the builders. -/
theorem added {rows : List (List Cell)} (built : Built rows frame) {row : List FieldValue}
    {after : List ColumnBuilder} {outcome : Append} (ready : Ready frame row)
    (width : row.length = frame.schema.length) (some_builders : frame.builders ≠ [])
    (ran : appendValues frame.schema frame.builders row = (outcome, after))
    (cells : after.map ColumnBuilder.cells = List.zipWith (fun cells cell => cells ++ [cell])
      (frame.builders.map ColumnBuilder.cells) (row.map .value)) :
    Built (rows ++ [row.map .value])
      { frame with batch := none, builders := after, pendingRows := frame.pendingRows + 1 } := by
  have length := appendValues_length ran
  have some_after : after ≠ [] := by
    rintro rfl
    exact some_builders (List.length_eq_zero_iff.mp length.symm)
  have columns : frame.builders.length = frame.schema.length :=
    built.columns.resolve_left some_builders
  have aligned : frame.builders.map ColumnBuilder.cells = columnsOf frame.builders.length rows := by
    rw [← built.cells]
    refine List.map_congr_left fun builder member => ?_
    rw [List.take_of_length_le (by rw [ready.aligned builder member, built.pending])]
  have long : ∀ builder ∈ after, builder.cells.length = rows.length + 1 := by
    intro builder member
    have among : builder.cells ∈ after.map ColumnBuilder.cells := List.mem_map_of_mem member
    rw [cells] at among
    obtain ⟨index, within, same⟩ := List.getElem_of_mem among
    rw [← same, List.getElem_zipWith, List.length_append, List.getElem_map]
    rw [ready.aligned _ (List.getElem_mem _), built.pending]
    rfl
  refine ⟨by rw [List.length_append, built.pending]; rfl, ?_, ?_, ?_, ?_, built.typed, ?_, ?_, ?_⟩
  · intro other member
    rw [length]
    rcases List.mem_append.mp member with member | member
    · exact built.width other member
    · rw [List.mem_singleton.mp member, List.length_map, width, columns]
  · have whole : after.map (·.cells.take (rows ++ [row.map Cell.value]).length) =
        after.map ColumnBuilder.cells :=
      List.map_congr_left fun builder member => by
        rw [List.take_of_length_le (by rw [long builder member, List.length_append]; rfl)]
    rw [whole, cells, length, aligned]
    exact (columnsOf_append _ _ _ (by rw [List.length_map, width, columns])).symm
  · intro builder member
    rw [long builder member, List.length_append]
    rfl
  · exact .inr (length.trans columns)
  · intro none
    exact absurd (built.untyped none).1 some_builders
  · exact fun _ empty => absurd empty some_after
  · exact fun _ => ⟨rfl, some_after⟩

/-- An append that throws leaves the rows before it in the builders. -/
theorem thrown {rows : List (List Cell)} (built : Built rows frame) {row : List FieldValue}
    {after : List ColumnBuilder} {outcome : Append} (some_builders : frame.builders ≠ [])
    (ran : appendValues frame.schema frame.builders row = (outcome, after)) :
    Built rows { frame with batch := none, builders := after } := by
  have length := appendValues_length ran
  obtain ⟨same, long⟩ := appendValues_take ran built.long
  have some_after : after ≠ [] := by
    rintro rfl
    exact some_builders (List.length_eq_zero_iff.mp length.symm)
  refine ⟨built.pending, ?_, ?_, long, ?_, built.typed, ?_, ?_, ?_⟩
  · intro other member
    rw [length]
    exact built.width other member
  · rw [same, length]
    exact built.cells
  · rw [length]
    exact .inr (built.columns.resolve_left some_builders)
  · intro none
    exact absurd (built.untyped none).1 some_builders
  · exact fun _ empty => absurd empty some_after
  · exact fun _ => ⟨rfl, some_after⟩

/-- A row that is accepted is added, and another one changes nothing. -/
theorem appendRow (holds : Holds contents frame) {row : List FieldValue}
    (ready : frame.builders ≠ [] → row.length = frame.schema.length → Ready frame row) :
    ((frame.appendRow row).1 = .returned 0 ↔ contents.accepts row = true) ∧
      Holds (contents.append row) (frame.appendRow row).2 := by
  obtain ⟨same, building, rows, built, content⟩ := holds
  unfold DataFrame.appendRow Contents.append
  split
  · rename_i empty
    have refused : contents.accepts row = false := by
      have shut : contents.building = false := by simpa [empty] using building
      simp [Contents.accepts, shut]
    rw [refused]
    exact ⟨⟨nofun, nofun⟩, same, building, rows, built, content⟩
  · rename_i some_builders
    split
    · rename_i wrong
      have refused : contents.accepts row = false := by
        rw [same] at wrong
        simp [Contents.accepts, wrong]
      rw [refused]
      exact ⟨⟨nofun, nofun⟩, same, building, rows, built, content⟩
    · rename_i width
      rw [ne_eq, not_not] at width
      have ready := ready some_builders width
      have accepts : contents.accepts row = holdsAll frame.schema row := by
        rw [Contents.accepts, building.mpr some_builders, ← same, width]
        simp
      have some_after {after : List ColumnBuilder} (length : after.length = frame.builders.length) :
          contents.building = true ↔ after ≠ [] := by
        rw [building, ne_eq, ne_eq, ← List.length_eq_zero_iff, ← List.length_eq_zero_iff, length]
      rcases appendValues_taken ready.taken (built.columns.resolve_left some_builders) width with
        ⟨all, after, ran, cells⟩ | ⟨all, after, ran⟩
      · simp only [ran, if_pos ready.counted, accepts, all, if_true, true_and]
        refine ⟨same, some_after (appendValues_length ran), _,
          added built ready width some_builders ran cells, ?_⟩
        rw [if_neg (by simp)]
        rw [content, ready.unread]
        split
        · rename_i none
          rw [none]
        · rfl
      · simp only [ran, accepts, all]
        refine ⟨⟨nofun, nofun⟩, same, some_after (appendValues_length ran), rows,
          thrown built some_builders ran, ?_⟩
        rw [if_neg (by decide), content, ready.unread]
        rfl

theorem setSchema (schema : List Field) (frame : DataFrame) :
    Holds (.setSchema schema) (frame.setSchema schema) := by
  unfold DataFrame.setSchema
  rw [DataFrame.initBuilders_some rfl]
  refine ⟨rfl, ?_, [], ?_, rfl⟩
  · cases schema <;> simp [Contents.setSchema]
  · exact @Built.fresh { frame with schema := schema, batch := none, arrowSchema := some _ } _ rfl
      (List.length_map _)

theorem fromArrow (batch : Option RecordBatch) :
    Holds (.fromArrow batch) (DataFrame.fromArrow batch) := by
  cases batch with
  | none => exact initially
  | some batch =>
      refine ⟨rfl, by simp [Contents.fromArrow, DataFrame.fromArrow], [], ?_, rfl⟩
      refine ⟨rfl, by simp, rfl, by simp [DataFrame.fromArrow], .inl rfl, ?_, ?_, ?_, by simp⟩
      · intro schema same
        cases same
        exact (List.length_map _).symm
      · rintro ⟨⟩
      · rintro ⟨⟩

theorem clear (holds : Holds contents frame) : Holds contents.clear frame.clear := by
  obtain ⟨same, -, rows, built, -⟩ := holds
  unfold DataFrame.clear Contents.clear Contents.setSchema
  cases typed : frame.arrowSchema with
  | none =>
      obtain ⟨builders, schema, -⟩ := built.untyped typed
      refine ⟨same, ?_, [], ⟨rfl, nofun, ?_, ?_, .inl builders, ?_, fun _ => ⟨builders, schema, rfl⟩,
        fun _ _ => schema, nofun⟩, rfl⟩
      · simp [← same, schema, builders]
      · simp [builders, columnsOf]
      · simp [builders]
      · simp
  | some schema =>
      have width := built.typed schema typed
      simp only [Option.isSome_some, if_true]
      rw [DataFrame.initBuilders_some rfl]
      refine ⟨same, ?_, [], @Built.fresh { frame with batch := none, arrowSchema := some schema }
        schema rfl width, rfl⟩
      rw [← same, decide_eq_true_iff, ne_eq, ne_eq, List.map_eq_nil_iff, ← List.length_eq_zero_iff,
        ← width, List.length_eq_zero_iff]

end Holds

/-! ## Every run -/

inductive FrameEvent where
  | setSchema (schema : List Field)
  | appendRow (row : List FieldValue)
  | fromArrow (batch : Option RecordBatch)
  | clear
  | rowCount
  | getRow (index : Int)
  | getColumn (name : String)
  | toArrow
  | toJson

/-- A frame, and the contents that its user expects. -/
structure FrameWorld where
  frame : DataFrame := {}
  contents : Contents := {}

namespace FrameWorld

/-- The reads say nothing about the contents. -/
def apply (world : FrameWorld) : FrameEvent → FrameWorld
  | .setSchema schema => ⟨world.frame.setSchema schema, .setSchema schema⟩
  | .appendRow row => ⟨(world.frame.appendRow row).2, world.contents.append row⟩
  | .fromArrow batch => ⟨.fromArrow batch, .fromArrow batch⟩
  | .clear => ⟨world.frame.clear, world.contents.clear⟩
  | .rowCount => { world with frame := world.frame.rowCount.2 }
  | .getRow index => { world with frame := (world.frame.getRow index).2 }
  | .getColumn name => { world with frame := (world.frame.getColumn name).2 }
  | .toArrow => { world with frame := world.frame.toArrow.2 }
  | .toJson => { world with frame := world.frame.toJson.2 }

def step (world : FrameWorld) (event : FrameEvent) : Option FrameWorld :=
  some (apply world event)

/-- Rows are appended only to a frame that is ready for them, unless it takes none at all. -/
def Building (world : FrameWorld) : FrameEvent → Prop
  | .appendRow row => world.frame.builders ≠ [] → row.length = world.frame.schema.length →
      Ready world.frame row
  | _ => True

theorem reached_apply {world : FrameWorld} (event : FrameEvent) (building : Building world event)
    (reached : Reachable step Building {} world) : Reachable step Building {} (apply world event) :=
  .step reached building rfl

theorem holds_step {world : FrameWorld} {event : FrameEvent} (building : Building world event)
    (holds : Holds world.contents world.frame) :
    Holds (apply world event).contents (apply world event).frame := by
  cases event with
  | setSchema schema => exact .setSchema schema world.frame
  | appendRow row => exact (holds.appendRow building).2
  | fromArrow batch => exact .fromArrow batch
  | clear => exact holds.clear
  | rowCount => exact holds.finalizePending
  | getRow index =>
      change Holds world.contents (world.frame.getRow index).2
      unfold DataFrame.getRow
      simp only
      split
      · exact holds.finalizePending
      · split <;> exact holds.finalizePending
  | getColumn name => exact holds.finalizePending
  | toArrow => exact holds.toArrow
  | toJson => exact holds.finalizePending

end FrameWorld

/-- What is exported, counted and added next. -/
structure Faithful (world : FrameWorld) : Prop where
  content : world.frame.content = world.contents.rows
  count : world.frame.rowCount.1 = toInt32 world.contents.rows.length
  append : ∀ row, FrameWorld.Building world (.appendRow row) →
    ((world.frame.appendRow row).1 = .returned 0 ↔ world.contents.accepts row = true)

theorem length_rows (batch : RecordBatch) : batch.rows.length = batch.numRows := by
  simp [RecordBatch.rows]

theorem toInt32_zero : toInt32 0 = 0 :=
  Int.zero_bmod

theorem rowCount_eq (frame : DataFrame) :
    frame.rowCount.1 = toInt32 frame.finalizePending.finalized.length := by
  change (frame.finalizePending.batch.map fun batch => toInt32 batch.numRows).getD 0 =
    toInt32 ((frame.finalizePending.batch.map RecordBatch.rows).getD []).length
  cases frame.finalizePending.batch with
  | none =>
      rw [Option.map_none, Option.map_none, Option.getD_none, Option.getD_none, List.length_nil,
        toInt32_zero]
  | some batch =>
      rw [Option.map_some, Option.map_some, Option.getD_some, Option.getD_some, length_rows]

/-- In a run that appends to no batch that a read has finalized, the frame has the rows that were
appended, whatever is read in between. -/
theorem frame_faithful {world : FrameWorld}
    (reached : Reachable FrameWorld.step FrameWorld.Building {} world) : Faithful world := by
  have holds : Holds world.contents world.frame := by
    refine reached.invariant (fun world => Holds world.contents world.frame) .initially ?_
    intro state event after holds building moved
    cases moved
    exact FrameWorld.holds_step building holds
  refine ⟨holds.content_eq, ?_, fun row building => (holds.appendRow building).1⟩
  have finalized := holds.finalizePending.finalized holds.pendingRows_finalizePending
  rw [rowCount_eq, finalized]

/-- A count between two appends makes the first row disappear. -/
theorem read_drops_rows :
    let world := [.setSchema [⟨"a", .int32⟩], .appendRow [.int32 1], .rowCount,
      .appendRow [.int32 2]].foldl FrameWorld.apply {}
    world.contents.rows = [[.value (.int32 1)], [.value (.int32 2)]] ∧
      world.frame.content = [[.value (.int32 2)]] := by
  decide

/-- Two rows with no read between them. -/
theorem two_rows_kept : Faithful ([.setSchema [⟨"a", .int32⟩], .appendRow [.int32 1],
    .appendRow [.int32 2], .rowCount].foldl FrameWorld.apply {}) := by
  have ready {world : FrameWorld} (value : Int32)
      (ready : Ready world.frame [.int32 value]) : world.Building (.appendRow [.int32 value]) :=
    fun _ _ => ready
  refine frame_faithful (FrameWorld.reached_apply .rowCount trivial (FrameWorld.reached_apply _
    (ready 2 ⟨by decide, by decide, by decide, by decide⟩) (FrameWorld.reached_apply _
    (ready 1 ⟨by decide, by decide, by decide, by decide⟩) (FrameWorld.reached_apply
    (.setSchema _) trivial .start))))

end Flowsql.Frame
