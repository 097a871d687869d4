import Flowsql.Frame.DispatchRuns

/-!
# What a dispatch delivers

A dispatch that succeeds gives the partitions every row of the source once, by its strategy, and closes
the sink. A configuration with a problem should make it fail before the first put.
-/

namespace Flowsql.Frame

/-- The operator after the calls of `Configure`. -/
def configured (calls : List (String × String)) : DataframeDispatchStreamOperator :=
  calls.foldl (fun operator (key, value) => operator.configure key value) {}

/-- The call leaves an error, or its key is not supported. -/
def recordsProblem (call : String × String) : Bool :=
  (({} : DataframeDispatchStreamOperator).configure call.1 call.2).lastError ≠ "" ||
    !(["strategy", "field_name", "range_rows", "emit_batch_rows"].contains call.1.toLower)

/-- The rows whose indices meet a condition. -/
def pickRows (rows : List (List Cell)) (goes : Nat → Prop) [DecidablePred goes] : List (List Cell) :=
  ((List.range rows.length).filter goes).map (rows.getD · [])

/-- The partitions got every row of the frame by the strategy. -/
def Delivered (data : DataFrame) (n : Nat) (effective : EffectiveConfig) (puts : Puts) : Prop :=
  (∀ put ∈ puts, put.1 < n) ∧
  match effective.strategy with
  | .roundRobin => ∀ partition, rowsPut puts partition = pickRows data.content (· % n = partition)
  | .hash => ∃ partitionOf : FieldValue → Nat, ∀ partition,
      rowsPut puts partition = pickRows data.content fun index =>
        partitionOf ((data.getColumn effective.fieldName).1.getD index (.bool false)) = partition
  | .range => puts.flatMap (·.2.rows) = data.content ∧
      match effective.rangeRows with
      | none => (puts.map Prod.fst).Pairwise (· < ·)
      | some _ => puts.map Prod.fst = (List.range puts.length).map (· % n)

/-- A configuration with a problem puts nothing. Otherwise a success has delivered the rows of the
source, and closes the sink behind them. -/
def WellDispatched (calls : List (String × String)) (source : Option (Int × Option ArrowBatch))
    (sink : Option StreamSink) (answer : Nat → Int) : Prop :=
  let result := (configured calls).work (source.map fun (rc, batch) => (rc, frameOf batch)) sink answer
  if calls.any recordsProblem then result.outcome = .returned (-1) ∧ result.calls = []
  else result.outcome ≠ .undefined ∧ (result.outcome = .returned 0 → ∃ n effective batch puts,
    resolveSinkPartitions sink = .ok n ∧
    { configured calls with lastError := "" }.resolveEffectiveConfig = .ok effective ∧
    source = some (0, batch) ∧ Delivered (frameOf batch) n effective puts ∧
    result.calls = (puts.map fun (partition, batch) => .put partition batch) ++ [.closeStream])

/-- The rows of the batch go through the strategy as they are, or make it fail. -/
def Carried (strategy : DispatchStrategy) (batch : RecordBatch) : Prop :=
  match strategy with
  | .range => toInt32 batch.numRows = 0 → batch.numRows = 0
  | _ => batch.numRows < 2 ^ 31 ∧ (batch.Plain ∨ batch.NullBytes)

/-- Where the operator comes to dispatch, no call has recorded a problem, and the strategy carries
the rows. -/
def Dispatchable (calls : List (String × String)) (source : Option (Int × Option ArrowBatch))
    (sink : Option StreamSink) : Prop :=
  ∀ n effective batch, resolveSinkPartitions sink = .ok n →
    { configured calls with lastError := "" }.resolveEffectiveConfig = .ok effective →
    source = some (0, batch) → calls.any recordsProblem = false ∧
      ∀ present ∈ batch, Carried effective.strategy present.batch

/-! ## Frames of a source -/

section

variable {batch : RecordBatch}

theorem content_fromArrow (batch : RecordBatch) :
    (DataFrame.fromArrow (some batch)).content = batch.rows := by
  rw [DataFrame.content, toArrow_of_batch rfl rfl]
  rfl

theorem pickRows_rows (batch : RecordBatch) (goes : Nat → Prop) [DecidablePred goes] :
    pickRows batch.rows goes = ((List.range batch.numRows).filter goes).map batch.row := by
  rw [pickRows, length_rows]
  refine List.map_congr_left fun index member => ?_
  have within := List.mem_range.mp (List.mem_filter.mp member).1
  rw [List.getD_eq_getElem?_getD, RecordBatch.rows, List.getElem?_map, List.getElem?_range within]
  rfl

variable (answer : Nat → Int) {n : Nat}

/-- A dispatch through buffers of rows that they carry. -/
theorem dispatchBuffered_delivers {batch : Option ArrowBatch}
    (carried : ∀ present ∈ batch, present.batch.numRows < 2 ^ 31 ∧
      (present.batch.Plain ∨ present.batch.NullBytes))
    (cfg : EffectiveConfig) {partitionOf : Nat → Nat} (within : ∀ index, partitionOf index < n) :
    (∃ puts, dispatchBuffered answer (frameOf batch) cfg n partitionOf = (.returned 0, puts) ∧
      (∀ put ∈ puts, put.1 < n) ∧
      ∀ partition, rowsPut puts partition =
        pickRows (frameOf batch).content (partitionOf · = partition)) ∨
    ∃ outcome puts, dispatchBuffered answer (frameOf batch) cfg n partitionOf = (outcome, puts) ∧
      outcome ≠ .returned 0 ∧ outcome ≠ .undefined := by
  cases batch with
  | none =>
      have nothing {goes : Nat → Prop} : ∀ index < 0, goes index := by omega
      rcases @dispatchBuffered_cases answer (frameOf none) n [] (fun _ => []) 0 rfl rfl nothing
          nothing (by decide) cfg partitionOf within with
        ⟨puts, ran, -, rows, targets⟩ | failed
      · exact .inl ⟨puts, ran, targets, rows⟩
      · exact .inr failed
  | some present =>
      obtain ⟨small, plain⟩ := carried present rfl
      have valid := present.valid
      have count := @rowCount_of_batch (frameOf (some present)) present.batch rfl rfl
      have schema : (frameOf (some present)).schema = present.batch.schema.frameFields := rfl
      rcases dispatchBuffered_cases (by rw [count, toInt32_eq small, Int.toNat_natCast]) schema
          (fun index inside => getRow_of_batch rfl rfl inside)
          (fun index _ => RecordBatch.length_extractRow valid index) small cfg within with
        ⟨puts, ran, holds, rows, targets⟩ | failed
      · refine .inl ⟨puts, ran, targets, fun partition => ?_⟩
        rw [rows, frameOf, Option.map_some, content_fromArrow, pickRows_rows]
        rcases plain with plain | nulls
        · refine List.map_congr_left fun index member => ?_
          have inside := List.mem_range.mp (List.mem_filter.mp member).1
          exact (RecordBatch.extractRow_plain valid plain inside).2
        · obtain ⟨index, inside, wrong⟩ := RecordBatch.extractRow_nullBytes valid nulls
          rw [holds index inside] at wrong
          cases wrong
      · exact .inr failed

/-- A dispatch in slices. -/
theorem dispatchRange_delivers (some_partitions : 0 < n) {batch : Option ArrowBatch}
    (carried : ∀ present ∈ batch, toInt32 present.batch.numRows = 0 → present.batch.numRows = 0)
    (cfg : EffectiveConfig) :
    (∃ puts, dispatchRange answer (frameOf batch) cfg n = (.returned 0, puts) ∧
      (∀ put ∈ puts, put.1 < n) ∧ puts.flatMap (·.2.rows) = (frameOf batch).content ∧
      match cfg.rangeRows with
      | none => (puts.map Prod.fst).Pairwise (· < ·)
      | some _ => puts.map Prod.fst = (List.range puts.length).map (· % n)) ∨
    ∃ rc puts, dispatchRange answer (frameOf batch) cfg n = (.returned rc, puts) ∧ rc ≠ 0 := by
  have nothing {data : DataFrame} (empty : data.content = []) :
      (∀ put ∈ ([] : Puts), put.1 < n) ∧ ([] : Puts).flatMap (·.2.rows) = data.content ∧
        match cfg.rangeRows with
        | none => (([] : Puts).map Prod.fst).Pairwise (· < ·)
        | some _ => ([] : Puts).map Prod.fst = (List.range ([] : Puts).length).map (· % n) := by
    refine ⟨nofun, empty.symm, ?_⟩
    cases cfg.rangeRows with
    | none => exact .nil
    | some _ => rfl
  cases batch with
  | none => exact .inl ⟨[], rfl, nothing rfl⟩
  | some present =>
      have exported : (frameOf (some present)).toArrow = (some present.batch, frameOf (some present)) :=
        toArrow_of_batch rfl rfl
      have count : (frameOf (some present)).rowCount.1 = toInt32 present.batch.numRows :=
        rowCount_of_batch rfl rfl
      have content : (frameOf (some present)).content = present.batch.rows :=
        content_fromArrow present.batch
      unfold dispatchRange
      rw [exported]
      simp only
      rw [count]
      split
      · rename_i zero
        refine .inl ⟨[], rfl, nothing ?_⟩
        rw [content, ← rowsFrom_zero, rowsFrom_end _ (Nat.le_of_eq (carried present rfl zero))]
      · rw [content, ← rowsFrom_zero]
        cases cfg.rangeRows with
        | none =>
            rcases putShares_cases answer n present.batch (List.range n) 0 []
                (by rw [sum_shares _ some_partitions, Nat.zero_add]) with
              ⟨puts, ran, rows, sub⟩ | failed
            · refine .inl ⟨puts, ran, fun put member => ?_, rows, ?_⟩
              · exact List.mem_range.mp (sub.subset (List.mem_map_of_mem member))
              · exact List.pairwise_lt_range.sublist sub
            · exact .inr failed
        | some rangeRows =>
            rcases putRuns_cases answer n present.batch rangeRows 0 [] with
              ⟨puts, ran, rows, targets⟩ | failed
            · refine .inl ⟨puts, ran, fun put member => ?_, rows, ?_⟩
              · have among := List.mem_map_of_mem (f := Prod.fst) member
                rw [targets] at among
                obtain ⟨run, -, same⟩ := List.mem_map.mp among
                rw [← same]
                exact Nat.mod_lt _ some_partitions
              · simpa using targets
            · exact .inr failed

/-- A dispatch of rows that the strategy carries. -/
theorem dispatch_delivers (some_partitions : 0 < n) {batch : Option ArrowBatch}
    {effective : EffectiveConfig}
    (carried : ∀ present ∈ batch, Carried effective.strategy present.batch) :
    (∃ puts, dispatch answer (frameOf batch) effective n = (none, .returned 0, puts) ∧
      Delivered (frameOf batch) n effective puts) ∨
    ∃ error outcome puts, dispatch answer (frameOf batch) effective n = (error, outcome, puts) ∧
      outcome ≠ .returned 0 ∧ outcome ≠ .undefined := by
  unfold dispatch Delivered
  cases strategy : effective.strategy with
  | roundRobin =>
      rw [strategy] at carried
      rcases dispatchBuffered_delivers answer carried effective
          (fun index => Nat.mod_lt index some_partitions) with
        ⟨puts, ran, targets, rows⟩ | ⟨outcome, puts, ran, failed⟩
      · exact .inl ⟨puts, by rw [dispatchRoundRobin, ran], targets, rows⟩
      · exact .inr ⟨none, outcome, puts, by rw [dispatchRoundRobin, ran], failed⟩
  | hash =>
      rw [strategy] at carried
      simp only
      unfold dispatchHash
      simp only
      split
      · exact .inr ⟨_, _, _, rfl, nofun, nofun⟩
      · have within (index : Nat) : hashPartition n (((frameOf batch).getColumn
            effective.fieldName).1.getD index (.bool false)) < n := Nat.mod_lt _ some_partitions
        rcases dispatchBuffered_delivers answer carried effective within with
          ⟨puts, ran, targets, rows⟩ | ⟨outcome, puts, ran, failed⟩
        · exact .inl ⟨puts, by rw [ran], targets, hashPartition n, rows⟩
        · exact .inr ⟨none, outcome, puts, by rw [ran], failed⟩
  | range =>
      rw [strategy] at carried
      rcases dispatchRange_delivers answer some_partitions carried effective with
        ⟨puts, ran, targets, rows⟩ | ⟨rc, puts, ran, failed⟩
      · exact .inl ⟨puts, by simp only [ran], targets, rows⟩
      · exact .inr ⟨none, .returned rc, puts, by simp only [ran], by simpa using failed, nofun⟩

end

/-! ## The whole of the work -/

theorem some_partitions_of_resolve {sink : Option StreamSink} {n : Nat}
    (resolved : resolveSinkPartitions sink = .ok n) : 0 < n := by
  unfold resolveSinkPartitions at resolved
  cases sink with
  | none => cases resolved
  | some sink =>
      simp only at resolved
      split at resolved
      · cases resolved
      · split at resolved
        · cases resolved
        · split at resolved
          · cases resolved
          · rename_i some_partitions
            split at resolved
            · cases resolved
            · cases resolved
              exact List.length_pos_iff.mpr some_partitions

/-- The batches that were put. -/
def putsOf (calls : List SinkCall) : Puts :=
  calls.filterMap fun
    | .put partition batch => some (partition, batch)
    | .closeStream => none

theorem putsOf_calls (puts : Puts) :
    putsOf ((puts.map fun (partition, batch) => .put partition batch) ++ [.closeStream]) = puts := by
  induction puts with
  | nil => rfl
  | cons put rest ih => exact congrArg (put :: ·) ih

section

variable {operator : DataframeDispatchStreamOperator} {sink : Option StreamSink} {n : Nat}
  {effective : EffectiveConfig}

/-- The work ends as the dispatch does. -/
theorem work_dispatched (resolved : resolveSinkPartitions sink = .ok n)
    (effective_ok : { operator with lastError := "" }.resolveEffectiveConfig = .ok effective)
    (data : DataFrame) (answer : Nat → Int) :
    ∃ error outcome puts, dispatch answer data effective n = (error, outcome, puts) ∧
      (outcome = .returned 0 → (operator.work (some (0, data)) sink answer).outcome = .returned 0 ∧
        (operator.work (some (0, data)) sink answer).calls =
          (puts.map fun (partition, batch) => .put partition batch) ++ [.closeStream]) ∧
      (outcome ≠ .returned 0 → (operator.work (some (0, data)) sink answer).outcome ≠ .returned 0) ∧
      (outcome ≠ .undefined → (operator.work (some (0, data)) sink answer).outcome ≠ .undefined) := by
  rcases ran : dispatch answer data effective n with ⟨error, outcome, puts⟩
  refine ⟨error, outcome, puts, rfl, ?_⟩
  unfold DataframeDispatchStreamOperator.work
  simp only [resolved, effective_ok, ran, ne_eq, not_true_eq_false, if_false]
  cases outcome with
  | returned rc =>
      by_cases zero : rc = 0
      · subst zero
        exact ⟨fun _ => ⟨rfl, rfl⟩, fun failed => absurd rfl failed, fun _ => nofun⟩
      · exact ⟨fun succeeded => absurd (by simpa using succeeded) zero, fun _ => by simp,
          fun _ => by simp⟩
  | threw => exact ⟨nofun, fun _ => nofun, fun _ => nofun⟩
  | undefined => exact ⟨nofun, fun _ => nofun, fun defined => absurd rfl defined⟩

end

variable {calls : List (String × String)} {source : Option (Int × Option ArrowBatch)}
  {sink : Option StreamSink} {answer : Nat → Int}

theorem well_of_dispatchable (dispatchable : Dispatchable calls source sink) :
    WellDispatched calls source sink answer := by
  have failed {outcome : Append} {made : List SinkCall} (refused : outcome = .returned (-1))
      (none : made = []) {delivered : Prop} :
      if calls.any recordsProblem then outcome = .returned (-1) ∧ made = []
      else outcome ≠ .undefined ∧ (outcome = .returned 0 → delivered) := by
    split
    · exact ⟨refused, none⟩
    · rw [refused]
      exact ⟨nofun, nofun⟩
  cases source with
  | none => exact failed rfl rfl
  | some source =>
      obtain ⟨rc, batch⟩ := source
      cases resolved : resolveSinkPartitions sink with
      | error error =>
          unfold WellDispatched DataframeDispatchStreamOperator.work
          rw [Option.map_some, resolved]
          exact failed rfl rfl
      | ok n =>
          cases effective_ok : { configured calls with lastError := "" }.resolveEffectiveConfig with
          | error error =>
              unfold WellDispatched DataframeDispatchStreamOperator.work
              rw [Option.map_some, resolved]
              dsimp only
              rw [effective_ok]
              exact failed rfl rfl
          | ok effective =>
              by_cases read : rc = 0
              · subst read
                obtain ⟨clean, carried⟩ := dispatchable n effective batch resolved effective_ok rfl
                obtain ⟨error, outcome, puts, ran, success, failure, determined⟩ :=
                  work_dispatched resolved effective_ok (frameOf batch) answer
                unfold WellDispatched
                simp only [Option.map_some]
                rw [clean]
                rcases dispatch_delivers answer (some_partitions_of_resolve resolved) carried with
                  ⟨given, went, delivered⟩ | ⟨error', outcome', given, went, refused, known⟩
                · rw [ran] at went
                  cases went
                  refine ⟨determined nofun, fun _ => ?_⟩
                  exact ⟨n, effective, batch, puts, resolved, effective_ok, rfl, delivered,
                    (success rfl).2⟩
                · rw [ran] at went
                  cases went
                  exact ⟨determined known, fun succeeded => absurd succeeded (failure refused)⟩
              · unfold WellDispatched DataframeDispatchStreamOperator.work
                simp only [Option.map_some, resolved, effective_ok]
                rw [if_pos read]
                exact failed rfl rfl

/-! ## Where the condition is needed -/

theorem row_mem_pickRows {batch : RecordBatch} {goes : Nat → Prop} [DecidablePred goes] {index : Nat}
    (within : index < batch.numRows) (chosen : goes index) :
    batch.row index ∈ pickRows batch.rows goes := by
  rw [pickRows_rows]
  refine List.mem_map_of_mem (List.mem_filter.mpr ⟨List.mem_range.mpr within, ?_⟩)
  exact decide_eq_true chosen

/-- A dispatch through buffers can only put values. -/
theorem plain_of_put {batch : ArrowBatch} (small : batch.batch.numRows < 2 ^ 31)
    {cfg : EffectiveConfig} {n : Nat} {partitionOf : Nat → Nat}
    (within : ∀ index, partitionOf index < n) {puts : Puts}
    (ran : dispatchBuffered answer (frameOf (some batch)) cfg n partitionOf = (.returned 0, puts))
    (delivered : ∀ index < batch.batch.numRows, ∃ partition,
      batch.batch.row index ∈ rowsPut puts partition) : batch.batch.Plain := by
  have count := @rowCount_of_batch (frameOf (some batch)) batch.batch rfl rfl
  have schema : (frameOf (some batch)).schema = batch.batch.schema.frameFields := rfl
  rcases dispatchBuffered_cases (by rw [count, toInt32_eq small, Int.toNat_natCast]) schema
      (fun index inside => getRow_of_batch rfl rfl inside)
      (fun index _ => RecordBatch.length_extractRow batch.valid index) small cfg within with
    ⟨given, went, -, rows, -⟩ | ⟨outcome, given, went, failed, -⟩
  · rw [ran] at went
    cases went
    intro column member cell among
    obtain ⟨index, inside, rfl⟩ := List.getElem_of_mem among
    rw [batch.valid.long column member] at inside
    obtain ⟨partition, put⟩ := delivered index inside
    rw [rows] at put
    obtain ⟨other, -, same⟩ := List.mem_map.mp put
    have present : column[index] ∈ batch.batch.row index := by
      refine List.mem_map.mpr ⟨column, member, ?_⟩
      rw [List.getD_eq_getElem?_getD, List.getElem?_eq_getElem]
      rfl
    rw [← same] at present
    obtain ⟨value, -, is⟩ := List.mem_map.mp present
    rw [← is]
    rfl
  · rw [ran] at went
    cases went
    exact absurd rfl failed

theorem dispatchable_of_well
    (small : ∀ batch, source = some (0, some batch) → batch.batch.numRows < 2 ^ 31)
    (succeeded : ((configured calls).work (source.map fun (rc, batch) => (rc, frameOf batch)) sink
      answer).outcome = .returned 0)
    (well : WellDispatched calls source sink answer) : Dispatchable calls source sink := by
  rintro n effective batch resolved effective_ok rfl
  unfold WellDispatched at well
  simp only at well
  split at well
  · rw [succeeded] at well
    cases well.1
  · rename_i clean
    rw [Bool.not_eq_true] at clean
    refine ⟨clean, ?_⟩
    rintro present ⟨⟩
    obtain ⟨n', effective', batch', puts', resolved', effective_ok', source, delivered, calls'⟩ :=
      well.2 succeeded
    rw [resolved] at resolved'
    rw [effective_ok] at effective_ok'
    cases resolved'
    cases effective_ok'
    cases source
    obtain ⟨error, outcome, puts, ran, success, failure, -⟩ :=
      work_dispatched resolved effective_ok (frameOf (some present)) answer
    have went : outcome = .returned 0 := by
      by_contra failed
      exact failure failed succeeded
    subst went
    have put := congrArg putsOf ((success rfl).2.symm.trans calls')
    rw [putsOf_calls, putsOf_calls] at put
    subst put
    obtain ⟨targets, rows⟩ := delivered
    have within := some_partitions_of_resolve resolved
    have little := small present rfl
    unfold dispatch at ran
    cases strategy : effective.strategy with
    | roundRobin =>
        rw [strategy] at ran rows
        obtain ⟨-, ran⟩ := Prod.mk.inj ran
        refine ⟨little, .inl (plain_of_put little (fun index => Nat.mod_lt index within) ran
          fun index inside => ⟨index % n, ?_⟩)⟩
        rw [rows, frameOf, Option.map_some, content_fromArrow]
        exact row_mem_pickRows inside rfl
    | hash =>
        rw [strategy] at ran rows
        obtain ⟨partitionOf, rows⟩ := rows
        simp only [dispatchHash] at ran
        split at ran
        · cases ran
        · obtain ⟨-, ran⟩ := Prod.mk.inj ran
          refine ⟨little, .inl (plain_of_put little (fun index => Nat.mod_lt _ within) ran
            fun index inside => ⟨partitionOf (((frameOf (some present)).getColumn
              effective.fieldName).1.getD index (.bool false)), ?_⟩)⟩
          rw [rows, frameOf, Option.map_some, content_fromArrow]
          exact row_mem_pickRows inside rfl
    | range =>
        intro zero
        rw [toInt32_eq little] at zero
        exact_mod_cast zero

/-- A hub whose partitions are all found. -/
def splitHub (partitions : Nat) : StreamSink where
  isHub := true
  modeHint := some "split"
  partitions := List.replicate partitions true

theorem strategy_roundRobin {effective : EffectiveConfig}
    (resolved : { configured [("strategy", "round_robin")] with
      lastError := "" }.resolveEffectiveConfig = .ok effective) :
    effective.strategy = .roundRobin := by
  have same : ({ configured [("strategy", "round_robin")] with
      lastError := "" }.resolveEffectiveConfig.toOption.map EffectiveConfig.strategy) =
        some .roundRobin := by
    decide +kernel
  rw [resolved] at same
  exact Option.some.inj same

end Flowsql.Frame
