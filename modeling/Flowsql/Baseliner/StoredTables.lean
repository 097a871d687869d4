import Flowsql.Baseliner.DurableStore
import Flowsql.Baseliner.FenceRuns

/-!
# The tables of the durable store

The statements of a publication add its rows and prune old generations, so that the tables hold the
committed generations.
-/

namespace Flowsql.Baseliner

/-! ## What the statements write -/

variable {faults : Nat → Option String} {context : StoreContext} {config : ConfigSnapshot}
  {generation : Int}

theorem Session.execute_ok {statement : Tables → Except String Tables} {session after : Session}
    (ran : session.execute faults statement = .ok after) :
    statement session.tables = .ok after.tables := by
  unfold Session.execute at ran
  split at ran
  · cases ran
  · cases result : statement session.tables with
    | error message =>
        rw [result] at ran
        cases ran
    | ok tables =>
        rw [result] at ran
        cases ran
        rfl

/-- The rows that a batch adds to a table. -/
def ResultBatch.stored (context : StoreContext) (generation : Int) (kind : SchemaKind)
    (batch : ResultBatch) : List StoredResult :=
  if batch.schema = some kind then batch.rows.map (storedResult context generation kind) else []

/-- No two rows of a result table have the same logical key. -/
def Tables.Keyed (tables : Tables) : Prop :=
  ∀ kind, ((tables.results kind).map StoredResult.logicalKey).Nodup

/-- Result rows are added, with new keys. -/
structure Inserted (before after : Tables) (added : SchemaKind → List StoredResult) : Prop where
  models : after.models = before.models
  positions : after.positions = before.positions
  results : ∀ kind, after.results kind = before.results kind ++ added kind
  keyed : before.Keyed → after.Keyed

theorem Inserted.none (tables : Tables) : Inserted tables tables fun _ => [] :=
  ⟨rfl, rfl, fun _ => (List.append_nil _).symm, id⟩

theorem Inserted.trans {first second third : Tables} {added later : SchemaKind → List StoredResult}
    (before : Inserted first second added) (after : Inserted second third later) :
    Inserted first third fun kind => added kind ++ later kind where
  models := after.models.trans before.models
  positions := after.positions.trans before.positions
  results := by
    intro kind
    rw [after.results, before.results, List.append_assoc]
  keyed := fun keyed => after.keyed (before.keyed keyed)

theorem insertResult_inserted {kind : SchemaKind} {result : StoredResult} {before after : Tables}
    (inserted : before.insertResult kind result = .ok after) :
    Inserted before after fun other => if other = kind then [result] else [] := by
  unfold Tables.insertResult at inserted
  split at inserted
  · cases inserted
  next fresh =>
    cases inserted
    refine ⟨rfl, rfl, fun other => ?_, fun keyed other => ?_⟩
    · by_cases same : other = kind
      · subst same
        simp
      · simp [same]
    · by_cases same : other = kind
      · subst same
        simp only [Function.update_self, List.map_append, List.map_singleton]
        exact List.nodup_append.mpr ⟨keyed other, List.pairwise_singleton _ _, by
          rintro key member _ last rfl
          exact fresh (List.mem_singleton.mp last ▸ member)⟩
      · simpa [Function.update_of_ne same] using keyed other

theorem insertRows_inserted {kind : SchemaKind} {rows : List (List Cell)} {before after : Session}
    (inserted : rows.foldlM (insertRow context config generation faults kind) before = .ok after) :
    Inserted before.tables after.tables fun other =>
      if other = kind then rows.map (storedResult context generation kind) else [] := by
  induction rows generalizing before with
  | nil =>
      cases inserted
      simpa using Inserted.none _
  | cons row later ih =>
      rw [List.foldlM_cons] at inserted
      cases first : insertRow context config generation faults kind before row with
      | error message =>
          rw [first] at inserted
          cases inserted
      | ok middle =>
          rw [first] at inserted
          have one : Inserted before.tables middle.tables fun other =>
              if other = kind then [storedResult context generation kind row] else [] := by
            unfold insertRow at first
            split at first
            · cases first
            · exact insertResult_inserted (Session.execute_ok first)
          have both := one.trans (ih inserted)
          refine ⟨both.models, both.positions, fun other => ?_, both.keyed⟩
          rw [both.results other]
          by_cases same : other = kind
          · simp [same]
          · simp [same]

theorem insertResults_inserted {batches : List ResultBatch} {before after : Session}
    (inserted : batches.foldlM (insertResults context config generation faults) before =
      .ok after) :
    Inserted before.tables after.tables fun kind =>
      batches.flatMap (ResultBatch.stored context generation kind) := by
  induction batches generalizing before with
  | nil =>
      cases inserted
      simpa using Inserted.none _
  | cons batch later ih =>
      rw [List.foldlM_cons] at inserted
      cases first : insertResults context config generation faults before batch with
      | error message =>
          rw [first] at inserted
          cases inserted
      | ok middle =>
          rw [first] at inserted
          have one : Inserted before.tables middle.tables fun kind =>
              batch.stored context generation kind := by
            unfold insertResults at first
            split at first
            · cases first
            next kind is =>
              have rows := insertRows_inserted first
              refine ⟨rows.models, rows.positions, fun other => ?_, rows.keyed⟩
              rw [rows.results other, ResultBatch.stored, is]
              by_cases same : other = kind
              · simp [same]
              · simp [same, Ne.symm same]
          exact one.trans (ih inserted)

theorem insertPositions_tables {positions : List DatasetProgress} {before after : Session}
    (inserted : positions.foldlM (fun session position =>
      session.execute faults (Tables.insertPosition ⟨generation, position⟩)) before = .ok after) :
    after.tables = { before.tables with
      positions := before.tables.positions ++ positions.map (SourcePosition.mk generation) } := by
  induction positions generalizing before with
  | nil =>
      cases inserted
      simp
  | cons position later ih =>
      rw [List.foldlM_cons] at inserted
      cases first : before.execute faults (Tables.insertPosition ⟨generation, position⟩) with
      | error message =>
          rw [first] at inserted
          cases inserted
      | ok middle =>
          rw [first] at inserted
          have one := Session.execute_ok first
          unfold Tables.insertPosition at one
          split at one
          · cases one
          · rw [ih inserted, ← Except.ok.inj one]
            simp

theorem deletePositions_tables {oldest : Int} {before after : Tables}
    (deleted : before.deletePositions oldest = .ok after) :
    after = { before with
      positions := before.positions.filter fun found => oldest ≤ found.generation } := by
  cases deleted
  rfl

theorem deleteModels_tables {oldest : Int} {before after : Tables}
    (deleted : before.deleteModels oldest = .ok after) :
    after = { before with
      models := before.models.filter fun found => oldest ≤ found.generation } := by
  cases deleted
  rfl

/-- The tables of a transaction that adds a generation. -/
structure Written (context : StoreContext) (config : ConfigSnapshot) (generation : Int)
    (checkpoint : String) (progress : InputProgress) (results : List ResultBatch)
    (before after : Tables) : Prop where
  models : after.models =
    (before.models ++ [modelVersion context config generation checkpoint]).filter fun found =>
      generation - config.retainGenerations + 1 ≤ found.generation
  positions : after.positions =
    (before.positions ++ progress.datasets.map (SourcePosition.mk generation)).filter fun found =>
      generation - config.retainGenerations + 1 ≤ found.generation
  results : ∀ kind, after.results kind =
    before.results kind ++ results.flatMap (ResultBatch.stored context generation kind)
  keyed : before.Keyed → after.Keyed

theorem except_bind_ok {α β : Type} {first : Except String α} {next : α → Except String β}
    {last : β} (ran : first >>= next = .ok last) :
    ∃ middle, first = .ok middle ∧ next middle = .ok last := by
  cases first with
  | error message => cases ran
  | ok middle => exact ⟨middle, rfl, ran⟩

theorem writeGeneration_written {checkpoint : String} {progress : InputProgress}
    {results : List ResultBatch} {before : Tables} {after : Session}
    (ran : writeGeneration context config generation faults checkpoint progress results before =
      .ok after) :
    Written context config generation checkpoint progress results before after.tables := by
  unfold writeGeneration at ran
  obtain ⟨model, modelRan, ran⟩ := except_bind_ok ran
  obtain ⟨positions, positionsRan, ran⟩ := except_bind_ok ran
  obtain ⟨rows, rowsRan, ran⟩ := except_bind_ok ran
  obtain ⟨pruned, prunedRan, ran⟩ := except_bind_ok ran
  have modelTables : model.tables = { before with
      models := before.models ++ [modelVersion context config generation checkpoint] } := by
    have one := Session.execute_ok modelRan
    unfold Tables.insertModel at one
    split at one
    · cases one
    · exact (Except.ok.inj one).symm
  have positionTables := insertPositions_tables positionsRan
  have inserted := insertResults_inserted rowsRan
  have prunedTables := deletePositions_tables (Session.execute_ok prunedRan)
  have afterTables := deleteModels_tables (Session.execute_ok ran)
  rw [modelTables] at positionTables
  rw [positionTables] at inserted
  rw [prunedTables] at afterTables
  rw [afterTables]
  exact ⟨congrArg _ inserted.models, congrArg _ inserted.positions, inserted.results,
    inserted.keyed⟩

/-! ## The tables and the committed generations -/

namespace CommittedGeneration

def model (context : StoreContext) (committed : CommittedGeneration) : ModelVersion :=
  modelVersion context committed.config committed.generation committed.checkpoint

def positions (committed : CommittedGeneration) : List SourcePosition :=
  committed.progress.datasets.map (SourcePosition.mk committed.generation)

def stored (context : StoreContext) (kind : SchemaKind) (committed : CommittedGeneration) :
    List StoredResult :=
  committed.results.flatMap (ResultBatch.stored context committed.generation kind)

end CommittedGeneration

/-- The models and the positions are those of all but the first generations. -/
structure Kept (context : StoreContext) (committed : List CommittedGeneration) (tables : Tables)
    (skip : Nat) : Prop where
  models : tables.models = (committed.drop skip).map (CommittedGeneration.model context)
  positions : tables.positions = (committed.drop skip).flatMap CommittedGeneration.positions
  bounded : skip ≤ committed.length
  current : committed ≠ [] → skip < committed.length
  retained : ∀ last, committed.getLast? = some last →
    committed.length - skip ≤ last.config.retainGenerations

/-- The tables hold the committed generations. -/
structure Stored (context : StoreContext) (committed : List CommittedGeneration) (tables : Tables) :
    Prop where
  kept : ∃ skip, Kept context committed tables skip
  results : ∀ kind,
    tables.results kind = committed.flatMap (CommittedGeneration.stored context kind)
  keyed : tables.Keyed

open FenceSystem in
theorem generation_getElem {committed : List CommittedGeneration}
    (generations : committed.map CommittedGeneration.generation = countedUp committed.length)
    (index : Nat) (inside : index < committed.length) :
    (committed[index]).generation = (index : Int) + 1 := by
  have same := List.getElem_of_eq generations (i := index) (by simpa using inside)
  simp only [countedUp, List.getElem_map, List.getElem_range] at same
  exact same

open FenceSystem in
/-- Pruning drops the first of the numbered generations. -/
theorem prune_drop {committed : List CommittedGeneration}
    (generations : committed.map CommittedGeneration.generation = countedUp committed.length)
    (skip : Nat) (oldest : Int) :
    ((committed.drop skip).filter fun found => oldest ≤ found.generation) =
      committed.drop (max skip (oldest - 1).toNat) := by
  have numbered := generation_getElem generations
  obtain ⟨more, reaches⟩ : ∃ more, max skip (oldest - 1).toNat = skip + more :=
    ⟨max skip (oldest - 1).toNat - skip, by omega⟩
  have split_ : committed.drop skip =
      (committed.drop skip).take more ++ committed.drop (skip + more) := by
    rw [← List.drop_drop, List.take_append_drop]
  have early : (((committed.drop skip).take more).filter fun found =>
      decide (oldest ≤ found.generation)) = [] := by
    apply List.filter_eq_nil_iff.mpr
    intro found member
    obtain ⟨index, inside, rfl⟩ := List.mem_iff_getElem.mp member
    simp only [List.length_take, List.length_drop] at inside
    rw [List.getElem_take, List.getElem_drop, numbered, decide_eq_true_eq]
    omega
  have late : ((committed.drop (skip + more)).filter fun found =>
      decide (oldest ≤ found.generation)) = committed.drop (skip + more) := by
    apply List.filter_eq_self.mpr
    intro found member
    obtain ⟨index, inside, rfl⟩ := List.mem_iff_getElem.mp member
    rw [List.getElem_drop, numbered, decide_eq_true_eq]
    omega
  rw [reaches]
  conv_lhs => rw [split_]
  rw [List.filter_append, early, late, List.nil_append]

/-- Positions are pruned with their generations. -/
theorem filter_positions (committed : List CommittedGeneration) (keep : Int → Bool) :
    ((committed.flatMap CommittedGeneration.positions).filter fun found => keep found.generation) =
      (committed.filter fun found => keep found.generation).flatMap
        CommittedGeneration.positions := by
  induction committed with
  | nil => rfl
  | cons first later ih =>
      have here : (first.positions.filter fun found => keep found.generation) =
          if keep first.generation then first.positions else [] := by
        unfold CommittedGeneration.positions
        cases kept : keep first.generation <;> simp [List.filter_map, Function.comp_def, kept]
      rw [List.flatMap_cons, List.filter_append, here, ih, List.filter_cons]
      cases keep first.generation <;> simp

open FenceSystem in
theorem Stored.publish {committed : List CommittedGeneration} {before after : Tables}
    {added : CommittedGeneration} (stored : Stored context committed before)
    (generations : (committed ++ [added]).map CommittedGeneration.generation =
      countedUp (committed ++ [added]).length)
    (written : Written context added.config added.generation added.checkpoint added.progress
      added.results before after) :
    Stored context (committed ++ [added]) after := by
  obtain ⟨skip, kept⟩ := stored.kept
  have newest : added.generation = (committed.length : Int) + 1 := by
    have last := generation_getElem generations committed.length (by simp)
    simpa using last
  have retains := added.config.retains
  have more : (committed ++ [added]).drop skip = committed.drop skip ++ [added] :=
    List.drop_append_of_le_length kept.bounded
  have pruned := prune_drop generations skip
    (added.generation - added.config.retainGenerations + 1)
  refine ⟨⟨max skip (added.generation - added.config.retainGenerations + 1 - 1).toNat,
    ⟨?_, ?_, ?_, fun _ => ?_, ?_⟩⟩, fun kind => ?_, written.keyed stored.keyed⟩
  · rw [written.models, kept.models, ← pruned, more]
    change List.filter _ (_ ++ [added].map (CommittedGeneration.model context)) = _
    rw [← List.map_append, List.filter_map]
    rfl
  · rw [written.positions, kept.positions, ← pruned, more,
      ← filter_positions _ fun generation =>
        decide (added.generation - added.config.retainGenerations + 1 ≤ generation)]
    simp [CommittedGeneration.positions]
  · have bounded := kept.bounded
    rw [List.length_append, List.length_singleton]
    omega
  · have bounded := kept.bounded
    rw [List.length_append, List.length_singleton]
    omega
  · intro last is
    rw [List.getLast?_concat] at is
    cases is
    rw [List.length_append, List.length_singleton]
    omega
  · rw [written.results, stored.results, List.flatMap_append]
    simp [CommittedGeneration.stored]

end Flowsql.Baseliner
