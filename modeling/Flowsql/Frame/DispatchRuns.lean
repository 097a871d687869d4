import Flowsql.Frame.ChannelRuns
import Flowsql.Frame.StreamDispatch

/-!
# The rows that partitions get

Each partition gets the rows that the strategy gives it, in their order: through a buffer that is
flushed again and again, or as slices of the batch one behind the other.
-/

namespace Flowsql.Frame

/-- The rows that a partition has got. -/
def rowsPut (puts : Puts) (partition : Nat) : List (List Cell) :=
  (puts.filter (·.1 = partition)).flatMap (·.2.rows)

theorem rowsPut_append (puts more : Puts) (partition : Nat) :
    rowsPut (puts ++ more) partition = rowsPut puts partition ++ rowsPut more partition := by
  rw [rowsPut, List.filter_append, List.flatMap_append]
  rfl

theorem rowsPut_same (partition : Nat) (batch : RecordBatch) :
    rowsPut [(partition, batch)] partition = batch.rows := by
  simp [rowsPut]

theorem rowsPut_other {partition other : Nat} (different : partition ≠ other) (batch : RecordBatch) :
    rowsPut [(partition, batch)] other = [] := by
  simp [rowsPut, different]

/-! ## Buffers -/

namespace Growing

variable {fields : List Field} {rows : List (List FieldValue)} {frame : DataFrame}

/-- A count finalizes the rows. -/
theorem rowCount (growing : Growing fields rows frame) (some_rows : rows ≠ []) :
    ∃ batch, frame.rowCount.2.toArrow.1 = some batch ∧
      batch.rows = rows.map (·.map .value) ∧ frame.rowCount.1 = toInt32 rows.length := by
  have pending : 0 < frame.pendingRows := by
    rw [growing.pending]
    exact List.length_pos_iff.mpr some_rows
  obtain ⟨batch, exported, -, -, same⟩ := growing.toArrow
  have finalized : frame.finalizePending = frame.toArrow.2 := by
    unfold DataFrame.finalizePending DataFrame.toArrow
    simp only
    rw [if_pos pending, if_pos (.inl pending)]
  have held : frame.toArrow.2.batch = some batch := by
    rw [← exported]
    rfl
  have none_pending : frame.toArrow.2.pendingRows = 0 := by
    rw [← finalized]
    unfold DataFrame.finalizePending
    rw [if_pos pending]
    exact Holds.pendingRows_finalize frame (by simp [growing.typed])
  refine ⟨batch, ?_, same, ?_⟩
  · change frame.finalizePending.toArrow.1 = some batch
    rw [finalized, toArrow_of_batch none_pending held]
  · rw [rowCount_eq, finalized, DataFrame.finalized, held, Option.map_some, Option.getD_some, same,
      List.length_map]

/-- A buffer without columns takes no rows. -/
theorem appendRow_none (growing : Growing [] rows frame) (row : List FieldValue) :
    frame.appendRow row = (.returned (-1), frame) := by
  unfold DataFrame.appendRow
  rw [if_pos (List.length_eq_zero_iff.mp growing.length_builders)]

end Growing

section

variable {answer : Nat → Int} {fields : List Field} {rows : List (List FieldValue)}
  {buffer : DataFrame}

/-- The rows of the buffer are put, or a put fails. -/
theorem flushPartitionBuffer_cases (growing : Growing fields rows buffer) (some_rows : rows ≠ [])
    (counted : rows.length < 2 ^ 31) (partition : Nat) (puts : Puts) :
    (∃ rc after, rc ≠ 0 ∧
      flushPartitionBuffer answer buffer fields partition puts = (rc, after, puts)) ∨
    ∃ batch after, flushPartitionBuffer answer buffer fields partition puts =
        (0, after, puts ++ [(partition, batch)]) ∧
      Growing fields [] after ∧ batch.rows = rows.map (·.map .value) := by
  obtain ⟨batch, exported, same, count⟩ := growing.rowCount some_rows
  have some_count : buffer.rowCount.1 ≠ 0 := by
    rw [count, toInt32_eq counted]
    exact Int.natCast_ne_zero.mpr (List.length_pos_iff.mpr some_rows).ne'
  unfold flushPartitionBuffer
  simp only
  rw [if_neg some_count]
  cases exports : buffer.rowCount.2.toArrow with
  | mk exported' after =>
      rw [exports] at exported
      cases exported
      simp only
      split
      · rename_i refused
        exact .inl ⟨_, _, refused, rfl⟩
      · exact .inr ⟨batch, _, rfl, .setSchema fields _, same⟩

/-- The indices of the rows of each partition: those whose rows are put, then those in the buffer. -/
structure Dispatching (fields : List Field) (row : Nat → List FieldValue) (partitionOf : Nat → Nat)
    (done : List Nat) (state : DispatchState) : Prop where
  lanes : ∀ partition, ∃ flushed pending,
    flushed ++ pending = done.filter (partitionOf · = partition) ∧
    Growing fields (pending.map row) (state.lanes partition).buffer ∧
    (state.lanes partition).pendingRows = pending.length ∧
    rowsPut state.puts partition = (flushed.map row).map (·.map .value)
  targets : ∀ put ∈ state.puts, ∃ index ∈ done, partitionOf index = put.1
  holds : ∀ index ∈ done, holdsAll fields (row index) = true

namespace Dispatching

variable {row : Nat → List FieldValue} {partitionOf : Nat → Nat} {done : List Nat}
  {state : DispatchState}

theorem initially (fields : List Field) (row : Nat → List FieldValue) (partitionOf : Nat → Nat) :
    Dispatching fields row partitionOf []
      { lanes := fun _ => ⟨({} : DataFrame).setSchema fields, 0⟩ } where
  lanes _ := ⟨[], [], rfl, .setSchema fields {}, rfl, rfl⟩
  targets := nofun
  holds := nofun

/-- The lanes but one, when that one is changed. -/
theorem others (dispatching : Dispatching fields row partitionOf done state) {more : List Nat}
    {partition : Nat} (only : ∀ index ∈ more, partitionOf index = partition) (lane : Lane) {puts : Puts}
    (kept : ∀ other, other ≠ partition → rowsPut puts other = rowsPut state.puts other) :
    ∀ other, other ≠ partition → ∃ flushed pending,
      flushed ++ pending = (done ++ more).filter (partitionOf · = other) ∧
      Growing fields (pending.map row) (Function.update state.lanes partition lane other).buffer ∧
      (Function.update state.lanes partition lane other).pendingRows = pending.length ∧
      rowsPut puts other = (flushed.map row).map (·.map .value) := by
  intro other different
  obtain ⟨flushed, pending, split, growing, count, put⟩ := dispatching.lanes other
  have none : more.filter (partitionOf · = other) = [] := by
    refine List.filter_eq_nil_iff.mpr fun index member => ?_
    rw [only index member, decide_eq_true_eq]
    exact different.symm
  rw [Function.update_of_ne different, kept other different, List.filter_append, none,
    List.append_nil]
  exact ⟨flushed, pending, split, growing, count, put⟩

/-- The lane's rows are put. -/
theorem flushed (dispatching : Dispatching fields row partitionOf done state) {more : List Nat}
    {partition : Nat} (only : ∀ index ∈ more, partitionOf index = partition)
    (holds : ∀ index ∈ more, holdsAll fields (row index) = true) {put pending : List Nat}
    (split : put ++ pending = (done ++ more).filter (partitionOf · = partition))
    (before : rowsPut state.puts partition = (put.map row).map (·.map .value))
    (some_pending : pending ≠ []) {batch : RecordBatch} {after : DataFrame}
    (fresh : Growing fields [] after) (rows : batch.rows = (pending.map row).map (·.map .value)) :
    Dispatching fields row partitionOf (done ++ more)
      { lanes := Function.update state.lanes partition ⟨after, 0⟩
        puts := state.puts ++ [(partition, batch)] } where
  lanes other := by
    by_cases same : other = partition
    · subst same
      refine ⟨put ++ pending, [], by rw [List.append_nil, split], ?_, ?_, ?_⟩
      · simpa only [Function.update_self, List.map_nil] using fresh
      · simp only [Function.update_self, List.length_nil]
      · rw [rowsPut_append, rowsPut_same, before, rows, List.map_append, List.map_append]
    · refine dispatching.others only ⟨after, 0⟩ (fun other different => ?_) other same
      rw [rowsPut_append, rowsPut_other different.symm, List.append_nil]
  targets := by
    intro entry member
    rcases List.mem_append.mp member with member | member
    · obtain ⟨index, found, same⟩ := dispatching.targets entry member
      exact ⟨index, List.mem_append_left _ found, same⟩
    · obtain rfl := List.mem_singleton.mp member
      obtain ⟨index, rest, rfl⟩ := List.exists_cons_of_ne_nil some_pending
      have among : index ∈ (done ++ more).filter (partitionOf · = partition) := by
        rw [← split]
        simp
      obtain ⟨found, same⟩ := List.mem_filter.mp among
      exact ⟨index, found, of_decide_eq_true same⟩
  holds index member := (List.mem_append.mp member).elim (dispatching.holds index) (holds index)

/-- One more row is in the lane's buffer. -/
theorem buffered (dispatching : Dispatching fields row partitionOf done state) {index : Nat}
    (holds : holdsAll fields (row index) = true) {put pending : List Nat}
    (split : put ++ pending = done.filter (partitionOf · = partitionOf index))
    (before : rowsPut state.puts (partitionOf index) = (put.map row).map (·.map .value))
    {after : DataFrame} (growing : Growing fields (pending.map row ++ [row index]) after) :
    Dispatching fields row partitionOf (done ++ [index])
      { state with
        lanes := Function.update state.lanes (partitionOf index) ⟨after, pending.length + 1⟩ } where
  lanes other := by
    by_cases same : other = partitionOf index
    · subst same
      refine ⟨put, pending ++ [index], ?_, ?_, ?_, before⟩
      · rw [← List.append_assoc, split, List.filter_append]
        simp
      · simpa only [Function.update_self, List.map_append, List.map_cons, List.map_nil] using growing
      · simp only [Function.update_self, List.length_append, List.length_singleton]
    · have only : ∀ other ∈ [index], partitionOf other = partitionOf index := by
        intro other member
        rw [List.mem_singleton.mp member]
      exact dispatching.others only _ (fun _ _ => rfl) other same
  targets entry member := by
    obtain ⟨found, among, same⟩ := dispatching.targets entry member
    exact ⟨found, List.mem_append_left _ among, same⟩
  holds other member := (List.mem_append.mp member).elim (dispatching.holds other) fun last =>
    List.mem_singleton.mp last ▸ holds

theorem length_pending {put pending : List Nat} {partition : Nat}
    (split : put ++ pending = done.filter (partitionOf · = partition)) :
    pending.length ≤ done.length := by
  have whole := congrArg List.length split
  rw [List.length_append] at whole
  exact Nat.le_trans (Nat.le_trans (Nat.le_add_left _ _) (Nat.le_of_eq whole))
    (List.length_filter_le _ _)

/-- A row goes into its lane, or the dispatch ends with a failure. -/
theorem row_cases (dispatching : Dispatching fields row partitionOf done state) (emitBatchRows : Int)
    {index : Nat} (width : (row index).length = fields.length) (counted : done.length + 1 < 2 ^ 31) :
    (∃ after, dispatchRow answer emitBatchRows fields (partitionOf index) (row index) state =
        (.returned 0, after) ∧ Dispatching fields row partitionOf (done ++ [index]) after) ∨
    ∃ outcome after, dispatchRow answer emitBatchRows fields (partitionOf index) (row index) state =
      (outcome, after) ∧ outcome ≠ .returned 0 ∧ outcome ≠ .undefined := by
  obtain ⟨put, pending, split, growing, count, before⟩ := dispatching.lanes (partitionOf index)
  have small := length_pending split
  unfold dispatchRow
  simp only
  by_cases none : fields = []
  · subst none
    rw [growing.appendRow_none]
    exact .inr ⟨_, _, rfl, nofun, nofun⟩
  · rcases growing.appendRow none width (by rw [List.length_map]; omega) with
      ⟨holds, buffer, ran, grown⟩ | ⟨-, buffer, ran⟩
    · rw [ran]
      simp only
      split
      · have rows : pending.map row ++ [row index] = (pending ++ [index]).map row := by
          rw [List.map_append]
          rfl
        rcases flushPartitionBuffer_cases grown (by simp)
            (by rw [List.length_append, List.length_map]; simp; omega)
            (partitionOf index) state.puts with
          ⟨rc, after, failed, flush⟩ | ⟨batch, after, flush, fresh, same⟩
        · rw [flush]
          simp only
          exact .inr ⟨_, _, rfl, by simpa using failed, nofun⟩
        · rw [flush]
          refine .inl ⟨_, rfl, ?_⟩
          rw [rows] at same
          refine dispatching.flushed ?_ ?_ ?_ before (by simp) fresh same
          · intro other member
            rw [List.mem_singleton.mp member]
          · intro other member
            rw [List.mem_singleton.mp member]
            exact holds
          · rw [← List.append_assoc, split, List.filter_append]
            simp
      · refine .inl ⟨_, rfl, ?_⟩
        rw [count]
        exact dispatching.buffered holds split before grown
    · rw [ran]
      exact .inr ⟨_, _, rfl, nofun, nofun⟩

/-- The loop over the rows. -/
theorem rows_cases {data : DataFrame} (dispatching : Dispatching fields row partitionOf done state)
    (emitBatchRows : Int) {indices : List Nat}
    (rows : ∀ index ∈ indices, (data.getRow index).1 = row index)
    (width : ∀ index ∈ indices, (row index).length = fields.length)
    (counted : done.length + indices.length < 2 ^ 31) :
    (∃ after, dispatchRowsFrom answer emitBatchRows fields data partitionOf indices state =
        (.returned 0, after) ∧ Dispatching fields row partitionOf (done ++ indices) after) ∨
    ∃ outcome after, dispatchRowsFrom answer emitBatchRows fields data partitionOf indices state =
      (outcome, after) ∧ outcome ≠ .returned 0 ∧ outcome ≠ .undefined := by
  induction indices generalizing done state with
  | nil => exact .inl ⟨state, rfl, by rwa [List.append_nil]⟩
  | cons index rest ih =>
      rw [List.length_cons] at counted
      rw [dispatchRowsFrom, rows index List.mem_cons_self]
      rcases dispatching.row_cases emitBatchRows
          (width index List.mem_cons_self) (by omega) with
        ⟨after, ran, next⟩ | ⟨outcome, after, ran, failed, determined⟩
      · rw [ran]
        simp only
        rw [List.append_cons]
        refine ih next (fun other member => rows other (List.mem_cons_of_mem _ member))
          (fun other member => width other (List.mem_cons_of_mem _ member)) ?_
        rw [List.length_append, List.length_singleton]
        omega
      · rw [ran]
        simp only
        exact .inr ⟨_, _, rfl, failed, determined⟩

/-- The loop over what is left. A partition that has been flushed stays so. -/
theorem rest_cases (dispatching : Dispatching fields row partitionOf done state)
    (counted : done.length < 2 ^ 31) (partitions : List Nat) :
    (∃ after, flushRest answer fields partitions state = (.returned 0, after) ∧
      Dispatching fields row partitionOf done after ∧
      ∀ partition, partition ∈ partitions ∨ (state.lanes partition).pendingRows = 0 →
        (after.lanes partition).pendingRows = 0) ∨
    ∃ outcome after, flushRest answer fields partitions state = (outcome, after) ∧
      outcome ≠ .returned 0 ∧ outcome ≠ .undefined := by
  induction partitions generalizing state with
  | nil => exact .inl ⟨state, rfl, dispatching, fun _ empty => empty.resolve_left nofun⟩
  | cons first rest ih =>
      unfold flushRest
      simp only
      split
      · rename_i empty
        rcases ih dispatching with ⟨after, ran, kept, flushed⟩ | failed
        · refine .inl ⟨after, ran, kept, fun partition among => flushed partition ?_⟩
          rcases among with among | among
          · rcases List.mem_cons.mp among with rfl | among
            · exact .inr empty
            · exact .inl among
          · exact .inr among
        · exact .inr failed
      · rename_i some_rows
        obtain ⟨put, pending, split, growing, count, before⟩ := dispatching.lanes first
        have small := length_pending split
        have some_pending : pending ≠ [] := by
          rintro rfl
          exact some_rows count
        rcases flushPartitionBuffer_cases growing (by simpa using some_pending)
            (by rw [List.length_map]; omega) first state.puts with
          ⟨rc, after, failed, flush⟩ | ⟨batch, buffer, flush, fresh, same⟩
        · rw [flush]
          simp only
          exact .inr ⟨_, _, rfl, by simpa using failed, nofun⟩
        · rw [flush]
          simp only
          have only : ∀ index ∈ ([] : List Nat), partitionOf index = first := nofun
          have next := dispatching.flushed only nofun
            (by rw [List.append_nil, split]) before some_pending fresh same
          rw [List.append_nil] at next
          rcases ih next with ⟨after, ran, kept, flushed⟩ | failed
          · refine .inl ⟨after, ran, kept, fun partition among => flushed partition ?_⟩
            by_cases first_one : partition = first
            · subst first_one
              exact .inr (by simp only [Function.update_self])
            · simp only [Function.update_of_ne first_one]
              rcases among with among | among
              · exact .inl (List.mem_of_ne_of_mem first_one among)
              · exact .inr among
          · exact .inr failed

/-- Where nothing is left, a partition has got its rows. -/
theorem rowsPut_eq (dispatching : Dispatching fields row partitionOf done state) {partition : Nat}
    (empty : (state.lanes partition).pendingRows = 0) : rowsPut state.puts partition =
      (done.filter (partitionOf · = partition)).map fun index => (row index).map .value := by
  obtain ⟨put, pending, split, -, count, before⟩ := dispatching.lanes partition
  have none : pending = [] := List.length_eq_zero_iff.mp (count.symm.trans empty)
  rw [before, ← split, none, List.append_nil, List.map_map]
  rfl

end Dispatching

end

section

variable {answer : Nat → Int} {data : DataFrame} {n : Nat} {fields : List Field}
  {row : Nat → List FieldValue} {total : Nat}

/-- A dispatch through buffers gives each partition its rows, or fails. -/
theorem dispatchBuffered_cases (count : data.rowCount.1.toNat = total) (schema : data.schema = fields)
    (rows : ∀ index < total, (data.getRow index).1 = row index)
    (width : ∀ index < total, (row index).length = fields.length) (small : total < 2 ^ 31)
    (cfg : EffectiveConfig) {partitionOf : Nat → Nat} (within : ∀ index, partitionOf index < n) :
    (∃ puts, dispatchBuffered answer data cfg n partitionOf = (.returned 0, puts) ∧
      (∀ index < total, holdsAll fields (row index) = true) ∧
      (∀ partition, rowsPut puts partition = ((List.range total).filter
        (partitionOf · = partition)).map fun index => (row index).map .value) ∧
      ∀ put ∈ puts, put.1 < n) ∨
    ∃ outcome puts, dispatchBuffered answer data cfg n partitionOf = (outcome, puts) ∧
      outcome ≠ .returned 0 ∧ outcome ≠ .undefined := by
  unfold dispatchBuffered DataFrame.getSchema
  simp only
  rw [count, schema]
  rcases (Dispatching.initially fields row partitionOf).rows_cases 
      cfg.emitBatchRows (fun index member => rows index (List.mem_range.mp member))
      (fun index member => width index (List.mem_range.mp member))
      (by rw [List.length_nil, List.length_range, Nat.zero_add]; exact small) with
    ⟨after, ran, dispatching⟩ | ⟨outcome, after, ran, failed, determined⟩
  · rw [ran]
    simp only
    rw [List.nil_append] at dispatching
    rcases dispatching.rest_cases
        (by rw [List.length_range]; exact small) (List.range n) with
      ⟨last, went, kept, flushed⟩ | ⟨outcome, last, went, failed, determined⟩
    · rw [went]
      refine .inl ⟨last.puts, rfl, fun index inside => kept.holds index (List.mem_range.mpr inside),
        fun partition => ?_, fun put member => ?_⟩
      · by_cases inside : partition < n
        · exact kept.rowsPut_eq (flushed partition (.inl (List.mem_range.mpr inside)))
        · have none : (List.range total).filter (partitionOf · = partition) = [] := by
            refine List.filter_eq_nil_iff.mpr fun index _ => ?_
            have := within index
            simp only [decide_eq_true_eq]
            omega
          obtain ⟨put, pending, split, -, -, before⟩ := kept.lanes partition
          rw [none, List.append_eq_nil_iff] at split
          rw [before, split.1, none]
          rfl
      · obtain ⟨index, -, same⟩ := kept.targets put member
        exact same ▸ within index
    · rw [went]
      exact .inr ⟨outcome, last.puts, rfl, failed, determined⟩
  · rw [ran]
    simp only
    exact .inr ⟨outcome, after.puts, rfl, failed, determined⟩

end

/-! ## Slices -/

theorem rows_slice (batch : RecordBatch) (offset length : Nat) :
    (batch.slice offset length).rows =
      (List.range length).map fun index => batch.row (offset + index) := by
  refine List.map_congr_left fun index member => ?_
  have within : index < length := List.mem_range.mp member
  simp only [RecordBatch.row, RecordBatch.slice, List.map_map]
  refine List.map_congr_left fun column _ => ?_
  simp only [Function.comp_apply, List.getD_eq_getElem?_getD]
  rw [List.getElem?_take_of_lt within, List.getElem?_drop]

/-- The rows from an offset on. -/
def RecordBatch.rowsFrom (batch : RecordBatch) (offset : Nat) : List (List Cell) :=
  (List.range (batch.numRows - offset)).map fun index => batch.row (offset + index)

theorem rowsFrom_zero (batch : RecordBatch) : batch.rowsFrom 0 = batch.rows := by
  unfold RecordBatch.rowsFrom RecordBatch.rows
  simp

theorem rowsFrom_end (batch : RecordBatch) {offset : Nat} (past : batch.numRows ≤ offset) :
    batch.rowsFrom offset = [] := by
  rw [RecordBatch.rowsFrom, Nat.sub_eq_zero_of_le past]
  rfl

/-- A slice, then the rows behind it. -/
theorem rowsFrom_slice (batch : RecordBatch) {offset length : Nat}
    (within : offset + length ≤ batch.numRows) :
    batch.rowsFrom offset = (batch.slice offset length).rows ++ batch.rowsFrom (offset + length) := by
  rw [rows_slice]
  unfold RecordBatch.rowsFrom
  have split : batch.numRows - offset = length + (batch.numRows - (offset + length)) := by omega
  rw [split, List.range_add, List.map_append, List.map_map]
  refine congrArg _ (List.map_congr_left fun index _ => ?_)
  rw [Function.comp_apply, Nat.add_assoc]

/-- Runs of one length go to the partitions in turn. -/
theorem putRuns_cases (answer : Nat → Int) (n : Nat) (batch : RecordBatch)
    (rangeRows : { rows : Nat // 0 < rows }) (start : Nat) (puts : Puts) :
    (∃ more, putRuns answer n batch rangeRows start puts = (.returned 0, puts ++ more) ∧
      more.flatMap (·.2.rows) = batch.rowsFrom start ∧
      more.map Prod.fst = (List.range more.length).map fun run => (start / rangeRows.1 + run) % n) ∨
    ∃ rc after, putRuns answer n batch rangeRows start puts = (.returned rc, after) ∧ rc ≠ 0 := by
  fun_induction putRuns answer n batch rangeRows start puts with
  | case1 start puts within refused => exact .inr ⟨_, _, rfl, refused⟩
  | case2 start puts within len p accepted ih =>
      rcases ih with ⟨more, ran, rows, partitions⟩ | failed
      · refine .inl ⟨(p, batch.slice start len) :: more, ?_, ?_, ?_⟩
        · rw [ran, List.append_assoc]
          rfl
        · rw [List.flatMap_cons, rows]
          have inside : start + len ≤ batch.numRows := by omega
          rw [rowsFrom_slice batch inside]
          congr 1
          by_cases full : len = rangeRows.1
          · rw [full]
          · rw [rowsFrom_end batch (by omega), rowsFrom_end batch (by omega)]
        · rw [List.map_cons, partitions, List.length_cons, List.range_succ_eq_map, List.map_cons,
            List.map_map, Nat.add_div_right _ rangeRows.2]
          refine congrArg _ (List.map_congr_left fun run _ => ?_)
          rw [Function.comp_apply, Nat.succ_eq_add_one, Nat.add_right_comm, Nat.add_assoc]
      · exact .inr failed
  | case3 start puts past =>
      refine .inl ⟨[], by rw [List.append_nil], ?_, rfl⟩
      rw [rowsFrom_end batch (Nat.le_of_not_lt past)]
      rfl

/-- The rows of a share. -/
def shareRows (total n partition : Nat) : Nat :=
  total / n + if partition < total % n then 1 else 0

/-- The rows of the shares before a partition. -/
theorem sum_shareRows (total n : Nat) (count : Nat) :
    ((List.range count).map (shareRows total n)).sum = count * (total / n) + min count (total % n) := by
  induction count with
  | zero => simp
  | succ count ih =>
      rw [List.range_succ, List.map_append, List.sum_append, ih, Nat.succ_mul, List.map_singleton,
        List.sum_singleton, shareRows]
      split <;> omega

/-- The shares are all of the rows. -/
theorem sum_shares (total : Nat) {n : Nat} (some_partitions : 0 < n) :
    ((List.range n).map (shareRows total n)).sum = total := by
  rw [sum_shareRows, Nat.min_eq_right (Nat.le_of_lt (Nat.mod_lt _ some_partitions))]
  exact Nat.div_add_mod total n

/-- Shares go to some of the partitions, one behind the other. -/
theorem putShares_cases (answer : Nat → Int) (n : Nat) (batch : RecordBatch) (partitions : List Nat)
    (offset : Nat) (puts : Puts)
    (whole : offset + (partitions.map (shareRows batch.numRows n)).sum = batch.numRows) :
    (∃ more, putShares answer n batch partitions offset puts = (.returned 0, puts ++ more) ∧
      more.flatMap (·.2.rows) = batch.rowsFrom offset ∧
      (more.map Prod.fst).Sublist partitions) ∨
    ∃ rc after, putShares answer n batch partitions offset puts = (.returned rc, after) ∧ rc ≠ 0 := by
  induction partitions generalizing offset puts with
  | nil =>
      refine .inl ⟨[], by rw [List.append_nil]; rfl, ?_, .slnil⟩
      rw [rowsFrom_end batch (by simpa using Nat.le_of_eq whole.symm)]
      rfl
  | cons first rest ih =>
      rw [List.map_cons, List.sum_cons] at whole
      obtain ⟨len, same⟩ : ∃ len, len = shareRows batch.numRows n first := ⟨_, rfl⟩
      rw [← same] at whole
      rw [shareRows] at same
      unfold putShares
      simp only
      rw [← same]
      split
      · rename_i none
        rcases ih offset puts (by omega) with ⟨more, ran, rows, sub⟩ | failed
        · exact .inl ⟨more, ran, rows, sub.cons first⟩
        · exact .inr failed
      · split
        · rename_i refused
          exact .inr ⟨_, _, rfl, refused⟩
        · rcases ih (offset + len) (puts ++ [(first, batch.slice offset len)]) (by omega) with
            ⟨more, ran, rows, sub⟩ | failed
          · refine .inl ⟨(first, batch.slice offset len) :: more, ?_, ?_, sub.cons_cons first⟩
            · rw [ran, List.append_assoc]
              rfl
            · rw [List.flatMap_cons, rows, ← rowsFrom_slice batch (by omega)]
          · exact .inr failed

end Flowsql.Frame
