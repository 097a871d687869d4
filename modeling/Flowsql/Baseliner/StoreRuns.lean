import Flowsql.Baseliner.FenceFrames
import Flowsql.Baseliner.StoredTables

/-!
# Runs of the durable store

Whatever fails, the tables hold the committed generations, and a store that is opened again reads
the last one.
-/

namespace Flowsql.Baseliner

variable {faults : Nat → Option String} {context : StoreContext} {config : ConfigSnapshot}
  {generation : Int}

/-! ## Stores -/

namespace StoreSystem

open FenceSystem WriterFence

variable {system : StoreSystem} {writer : Nat}

/-- The fence of a store that has not failed is in order, and the row is that of the
configuration. -/
structure Agrees (context : StoreContext) (fence : FenceSystem) (writer : Nat)
    (store : DurableStore) : Prop where
  live : (fence.writers writer).isFailed = false
  unstaged : (fence.writers writer).staged = false
  config : (fence.writers writer).bound = true → ∃ json row,
    store.config = some (context.snapshot json) ∧ fence.row = some row ∧
    row.configHash = context.restoreCompatibilityHash json (context.hash json)

structure Sound (context : StoreContext) (system : StoreSystem) : Prop where
  fence : system.fence.Sound
  idle : system.fence.transaction = none
  counts : system.committed.length = system.fence.publications.length
  generations : system.committed.map CommittedGeneration.generation =
    countedUp system.committed.length
  stored : Stored context system.committed system.tables
  configs : ∀ committed ∈ system.committed, ∃ json row,
    committed.config = context.snapshot json ∧ system.fence.row = some row ∧
    row.configHash = context.restoreCompatibilityHash json (context.hash json)
  limits : ∀ committed ∈ system.committed,
    committed.checkpoint.utf8ByteSize ≤ committed.config.maxCheckpointBytes
  stores : ∀ writer, (system.stores writer).isFailed = false →
    Agrees context system.fence writer (system.stores writer)

theorem created_sound (context : StoreContext) (clock : Int) : (created clock).Sound context where
  fence := FenceSystem.created_sound clock
  idle := rfl
  counts := rfl
  generations := rfl
  stored := ⟨⟨0, rfl, rfl, Nat.le_refl 0, fun some_ => absurd rfl some_, nofun⟩, fun _ => rfl,
    fun _ => List.nodup_nil⟩
  configs := fun _ member => absurd member List.not_mem_nil
  limits := fun _ member => absurd member List.not_mem_nil
  stores := fun _ _ => ⟨rfl, rfl, nofun⟩

/-- The row of a configuration stays that of the configuration. -/
theorem Agrees.keep {fence after : FenceSystem} {other : Nat} {store : DurableStore}
    (agrees : Agrees context fence other store) (keeps : Keeps writer fence after)
    (same : after.writers other = fence.writers other) : Agrees context after other store where
  live := same ▸ agrees.live
  unstaged := same ▸ agrees.unstaged
  config := by
    rw [same]
    intro bound
    obtain ⟨config, row, isConfig, isRow, hash⟩ := agrees.config bound
    obtain ⟨later, isLater, kept⟩ := keeps.configHash row isRow
    exact ⟨config, later, isConfig, isLater, kept.trans hash⟩

/-- A writer and its store step between publications. -/
theorem Sound.move (sound : system.Sound context) {fence : FenceSystem} {store : DurableStore}
    (fenceSound : fence.Sound) (keeps : Keeps writer system.fence fence)
    (agrees : store.isFailed = false → Agrees context fence writer store) :
    ({ system.setStore writer store with fence := fence }).Sound context where
  fence := fenceSound
  idle := keeps.idle sound.idle
  counts := sound.counts.trans (congrArg List.length keeps.publications.symm)
  generations := sound.generations
  stored := sound.stored
  configs := by
    intro committed member
    obtain ⟨json, row, isJson, is, hash⟩ := sound.configs committed member
    obtain ⟨later, isLater, kept⟩ := keeps.configHash row is
    exact ⟨json, later, isJson, isLater, kept.trans hash⟩
  limits := sound.limits
  stores := by
    intro other
    by_cases same : other = writer
    · subst same
      simpa [setStore] using agrees
    · simp only [setStore, Function.update_of_ne same]
      intro live
      exact (sound.stores other live).keep keeps (keeps.others other same)

theorem setStore_fail (fence : FenceSystem) (store : DurableStore) (error : String) :
    ({ system.setStore writer store with fence := fence }).failStore writer error =
      { system.setStore writer { store with isFailed := true, error := error } with
        fence := fence } := by
  simp [failStore, setStore]

theorem Sound.failStore (sound : system.Sound context) (writer : Nat) (error : String) :
    (system.failStore writer error).Sound context :=
  sound.move sound.fence (.refl writer system.fence) nofun

theorem openStore_sound (sound : system.Sound context) (writer : Nat) (json owner : String)
    (failure : Option String) (table fate tables : TransactionFate) :
    (system.openStore context writer json owner failure table fate tables).Sound context := by
  unfold openStore
  simp only
  split
  · exact sound.failStore writer _
  cases failure with
  | some error => exact sound.failStore writer error
  | none =>
      simp only
      generalize acquired : system.fence.step (.acquire writer owner
        (context.restoreCompatibilityHash (context.snapshot json).originalJson
          (context.snapshot json).sha256Hex) (context.snapshot json).leaseMs table fate) = fence
      have keeps : Keeps writer system.fence fence :=
        acquired ▸ acquire_keeps owner _ _ table fate
      have fenceSound : fence.Sound := acquired ▸ (step_sound sound.fence _).1
      have fails : ∀ (store : DurableStore) (error : String),
          (({ system.setStore writer store with fence := fence }).failStore writer error).Sound
            context := by
        intro store error
        rw [setStore_fail]
        exact sound.move fenceSound keeps nofun
      split
      · exact fails _ _
      next live =>
        have opened : ({ system.setStore writer
            { system.stores writer with
              bound := true, config := some (context.snapshot json) } with
              fence := fence }).Sound context := by
          refine sound.move fenceSound keeps fun unfailed => ?_
          have before := sound.stores writer unfailed
          have live_ : (fence.writers writer).isFailed = false := Bool.not_eq_true _ ▸ live
          have acquired_ : system.fence.acquire writer owner
              (context.restoreCompatibilityHash json (context.hash json))
              (context.snapshot json).leaseMs table fate = fence := acquired
          rw [← acquired_] at live_ ⊢
          obtain ⟨row, is, hash, now⟩ := acquire_live live_
          refine ⟨live_, ?_, fun _ => ⟨json, row, rfl, is, hash⟩⟩
          rw [now]
          exact before.unstaged
        cases tables with
        | failed message => exact fails _ message
        | finished outcome message =>
            simp only
            split
            · exact fails _ message
            split
            · exact fails _ _
            split
            · exact fails _ _
            · exact opened

theorem setStore_self : system.setStore writer (system.stores writer) = system := by
  simp [setStore]

/-- A writer steps and its store stays as it is. -/
theorem Sound.step_fence (sound : system.Sound context) {fence : FenceSystem}
    (fenceSound : fence.Sound) (keeps : Keeps writer system.fence fence)
    (agrees : (system.stores writer).isFailed = false →
      Agrees context fence writer (system.stores writer)) :
    ({ system with fence := fence }).Sound context := by
  have moved := sound.move fenceSound keeps agrees
  rwa [setStore_self] at moved

theorem renew_sound (sound : system.Sound context) (writer : Nat) (fate : TransactionFate) :
    (system.renew writer fate).Sound context := by
  have keeps : Keeps writer system.fence (system.fence.step (.renew writer fate)) :=
    renew_keeps fate
  have fenceSound := (step_sound sound.fence (.renew writer fate)).1
  unfold renew
  simp only
  split
  · exact sound.move fenceSound keeps nofun
  next live =>
    refine sound.step_fence fenceSound keeps fun unfailed => ?_
    have live_ := Bool.not_eq_true _ ▸ live
    exact (sound.stores writer unfailed).keep keeps (renew_live live_)

theorem close_sound (sound : system.Sound context) (writer : Nat) (fate : TransactionFate) :
    (system.close writer fate).Sound context := by
  have now : (system.fence.step (.release writer fate)).writers writer =
      { system.fence.writers writer with bound := false } := release_writer fate
  refine sound.move (step_sound sound.fence _).1 (release_keeps fate) fun unfailed => ?_
  have before := sound.stores writer unfailed
  refine ⟨?_, ?_, ?_⟩
  · rw [now]
    exact before.live
  · rw [now]
    exact before.unstaged
  · rw [now]
    exact nofun

theorem load_sound (sound : system.Sound context) (writer : Nat) (faults : Nat → Option String) :
    (system.load context writer faults).Sound context := by
  unfold load
  split
  · exact sound.failStore writer _
  · exact sound

theorem pass_sound (sound : system.Sound context) (milliseconds : Nat) :
    ({ system with fence := system.fence.step (.pass milliseconds) }).Sound context := by
  have keeps : Keeps 0 system.fence (system.fence.step (.pass milliseconds)) :=
    ⟨fun _ _ => rfl, rfl, id, fun row is => ⟨row, is, rfl⟩⟩
  exact sound.step_fence (step_sound sound.fence _).1 keeps fun unfailed =>
    (sound.stores 0 unfailed).keep keeps rfl

/-! ## Publications -/

/-- What `Confirm` leaves of a writer that has staged. -/
theorem confirm_staged {fence : WriterFence} (staged : fence.staged = true)
    (outcome : CommitOutcome) (message : String) :
    ((fence.confirm outcome message).2.isFailed = false ↔
      fence.isFailed = false ∧ outcome.ok = true) ∧
      (fence.confirm outcome message).2.staged = false ∧
      (fence.confirm outcome message).2.bound = fence.bound := by
  cases ok : outcome.ok <;> simp [WriterFence.confirm, staged, ok, fail]

/-- A generation is committed. -/
theorem Sound.publish (sound : system.Sound context) {fence : FenceSystem} {store : DurableStore}
    {tables : Tables} {added : CommittedGeneration} {publication : Publication}
    {found row : FenceRow} (fenceSound : fence.Sound) (idle : fence.transaction = none)
    (others : ∀ other, other ≠ writer → fence.writers other = system.fence.writers other)
    (grown : fence.publications = system.fence.publications ++ [publication])
    (isRow : system.fence.row = some found) (isLater : fence.row = some row)
    (hash : row.configHash = found.configHash)
    (numbered : added.generation = (system.committed.length : Int) + 1)
    (written : Written context added.config added.generation added.checkpoint added.progress
      added.results system.tables tables)
    {json : String} (isJson : added.config = context.snapshot json)
    (compatible : row.configHash = context.restoreCompatibilityHash json (context.hash json))
    (limit : added.checkpoint.utf8ByteSize ≤ added.config.maxCheckpointBytes)
    (agrees : store.isFailed = false → Agrees context fence writer store) :
    ({ system.setStore writer store with
      fence := fence, tables := tables, committed := system.committed ++ [added] }).Sound
        context := by
  have generations : (system.committed ++ [added]).map CommittedGeneration.generation =
      countedUp (system.committed ++ [added]).length := by
    rw [List.map_append, List.map_singleton, sound.generations, List.length_append,
      List.length_singleton, countedUp_succ, numbered]
  refine ⟨fenceSound, idle, ?_, generations, sound.stored.publish generations written, ?_, ?_, ?_⟩
  · rw [grown, List.length_append, List.length_append, sound.counts]
    rfl
  · intro committed member
    rcases List.mem_append.mp member with old | new_
    · obtain ⟨json, before, isJson, isBefore, same⟩ := sound.configs committed old
      cases isRow.symm.trans isBefore
      exact ⟨json, row, isJson, isLater, hash.trans same⟩
    · cases List.mem_singleton.mp new_
      exact ⟨json, row, isJson, isLater, compatible⟩
  · intro committed member
    rcases List.mem_append.mp member with old | new_
    · exact sound.limits committed old
    · cases List.mem_singleton.mp new_
      exact limit
  · intro other
    by_cases same : other = writer
    · subst same
      simpa [setStore] using agrees
    · simp only [setStore, Function.update_of_ne same]
      intro live
      have before := sound.stores other live
      refine ⟨?_, ?_, ?_⟩
      · rw [others other same]
        exact before.live
      · rw [others other same]
        exact before.unstaged
      · rw [others other same]
        intro bound
        obtain ⟨config, held, isConfig, isHeld, is⟩ := before.config bound
        cases isRow.symm.trans isHeld
        exact ⟨config, row, isConfig, isLater, hash.trans is⟩

theorem publishStaged_sound {config : ConfigSnapshot} {checkpoint : String}
    {progress : InputProgress} {results : List ResultBatch} {faults : Nat → Option String}
    {staged : StagedRow} {found : FenceRow} (sound : system.Sound context)
    (isConfig : (system.stores writer).config = some config)
    (unfailed : (system.stores writer).isFailed = false)
    (limit : checkpoint.utf8ByteSize ≤ config.maxCheckpointBytes)
    (isRow : system.fence.row = some found)
    (hash : staged.row.configHash = found.configHash) (own : staged.publication.writer = writer)
    (bound : (system.fence.writers writer).bound = true)
    (stagedSound : ({ system.fence.setWriter writer
      { system.fence.writers writer with staged := true } with transaction := some staged }).Sound)
    (outcome : CommitOutcome) (message : String) :
    (({ system with
      fence := { system.fence.setWriter writer
        { system.fence.writers writer with staged := true } with
          transaction := some staged } }).publishStaged context writer config checkpoint progress
            results faults outcome message).Sound context := by
  generalize isFence : ({ system.fence.setWriter writer
    { system.fence.writers writer with staged := true } with
      transaction := some staged } : FenceSystem) = fence at stagedSound ⊢
  have now : fence.writers writer = { system.fence.writers writer with staged := true } := by
    simp [← isFence, FenceSystem.setWriter]
  have opened : fence.transaction = some staged := by simp [← isFence]
  have rowNow : fence.row = some found := by simpa [← isFence, FenceSystem.setWriter] using isRow
  have others : ∀ other, other ≠ writer → fence.writers other = system.fence.writers other := by
    intro other apart
    simp [← isFence, FenceSystem.setWriter, apart]
  have published : fence.publications = system.fence.publications := by
    simp [← isFence, FenceSystem.setWriter]
  obtain ⟨_, _, _, generation, _⟩ := (stagedSound.knows writer).staged staged opened own
  have counted := (stagedSound.staged staged opened).2.generation
  unfold publishStaged
  simp only
  split
  next error _ =>
    have rolled : Keeps writer system.fence (fence.step (.rollback writer)) := by
      simp only [FenceSystem.step, FenceSystem.rollback, opened, own, if_true]
      exact ⟨others, published, fun _ => rfl, fun row is => ⟨found, rowNow, by
        rw [Option.some.inj (is.symm.trans isRow)]⟩⟩
    exact sound.move (step_sound stagedSound (.rollback writer)).1 rolled (by rintro ⟨⟩)
  next session ran =>
    have written := writeGeneration_written ran
    have finalSound := (step_sound (step_sound stagedSound (.commit writer outcome message)).1
      (.confirm writer)).1
    have final : (fence.step (.commit writer outcome message)).step (.confirm writer) = _ :=
      commit_confirm opened own outcome message
    have isStaged : (fence.writers writer).staged = true := by rw [now]
    obtain ⟨succeeds, unstaged, stillBound⟩ := confirm_staged isStaged outcome message
    generalize isConfirmed : ((fence.writers writer).confirm outcome message).2 = confirmed at *
    generalize isFinal : (fence.step (.commit writer outcome message)).step (.confirm writer) =
      after at *
    have finalWriter : after.writers writer = confirmed := by simp [final]
    have finalOthers : ∀ other, other ≠ writer →
        after.writers other = system.fence.writers other := by
      intro other apart
      simp [final, apart, others other apart]
    cases applies : outcome.applies with
    | false =>
        have refused : outcome.ok = false := by
          cases outcome <;> first | rfl | cases applies
        have failed : (after.writers writer).isFailed = true := by
          rw [finalWriter]
          by_contra live
          have ok := (succeeds.mp (Bool.not_eq_true _ ▸ live)).2
          exact absurd (refused.symm.trans ok) Bool.false_ne_true
        have keeps : Keeps writer system.fence after := by
          refine ⟨finalOthers, ?_, fun _ => ?_, fun row is => ⟨found, ?_, ?_⟩⟩
          · simp [final, applies, published]
          · simp [final]
          · simp [final, applies, rowNow]
          · rw [Option.some.inj (is.symm.trans isRow)]
        rw [if_pos failed]
        exact sound.move finalSound keeps (by rintro ⟨⟩)
    | true =>
        have finalRow : after.row = some staged.row := by simp [final, applies]
        have grown : after.publications = system.fence.publications ++ [staged.publication] := by
          simp [final, applies, published]
        have numbered : (fence.writers writer).generation + 1 =
            ((system.committed.length : Nat) : Int) + 1 := by
          rw [generation, counted, published, ← sound.counts]
        have before := sound.stores writer unfailed
        obtain ⟨json, held, isConfig_, isHeld, compatible⟩ := before.config bound
        have isJson : config = context.snapshot json :=
          Option.some.inj (isConfig.symm.trans isConfig_)
        cases isRow.symm.trans isHeld
        have published_ : ∀ store : DurableStore,
            (store.isFailed = false → Agrees context after writer store) →
            ({ system.setStore writer store with
              fence := after, tables := session.tables
              committed := system.committed ++
                [(⟨config, (fence.writers writer).generation + 1, checkpoint, progress,
                  results⟩ : CommittedGeneration)] }).Sound context := by
          intro store agrees
          exact sound.publish finalSound (by simp [final]) finalOthers grown isRow finalRow hash
            numbered written isJson (hash.trans compatible) limit agrees
        simp only [if_true]
        split
        · exact published_ _ (by rintro ⟨⟩)
        next live =>
          have live_ : (after.writers writer).isFailed = false := Bool.not_eq_true _ ▸ live
          have same := published_ (system.stores writer) fun _ =>
            ⟨live_, by rw [finalWriter, unstaged],
              fun _ => ⟨json, staged.row, isConfig_, finalRow, hash.trans compatible⟩⟩
          rwa [setStore_self] at same

theorem publish_sound (sound : system.Sound context) (writer : Nat) (checkpoint : String)
    (progress : InputProgress) (results : List (Option ResultBatch)) (stageFailure : Option String)
    (faults : Nat → Option String) (outcome : CommitOutcome) (message : String) :
    (system.publish context writer checkpoint progress results stageFailure faults outcome
      message).Sound context := by
  unfold publish
  simp only
  split
  · exact sound.failStore writer _
  next config isConfig =>
    split
    · exact sound.failStore writer _
    next accepted =>
      have fenceSound := (step_sound sound.fence (.stage writer stageFailure)).1
      split
      next failed =>
        exact sound.move fenceSound (stage_failed failed) nofun
      next live =>
        obtain ⟨found, staged, isRow, hash, own, bound, is⟩ :=
          stage_live (Bool.not_eq_true _ ▸ live)
        have is_ : system.fence.step (.stage writer stageFailure) = _ := is
        unfold DurableStore.refusal at accepted
        split at accepted
        · cases accepted
        next available =>
          rw [not_or, not_or] at available
          rw [is_] at fenceSound ⊢
          exact publishStaged_sound sound isConfig (Bool.not_eq_true _ ▸ available.1)
            (Nat.le_of_not_lt available.2.2) isRow hash own bound fenceSound outcome message

/-! ## Runs -/

theorem step_sound (sound : system.Sound context) (event : StoreEvent) :
    (system.step context event).Sound context := by
  cases event with
  | openStore writer json owner failure table fate tables =>
      exact openStore_sound sound writer json owner failure table fate tables
  | renew writer fate => exact renew_sound sound writer fate
  | publish writer checkpoint progress results stageFailure faults outcome message =>
      exact publish_sound sound writer checkpoint progress results stageFailure faults outcome
        message
  | load writer faults => exact load_sound sound writer faults
  | close writer fate => exact close_sound sound writer fate
  | pass milliseconds => exact pass_sound sound milliseconds

theorem run_sound (sound : system.Sound context) (events : List StoreEvent) :
    (system.run context events).Sound context := by
  induction events generalizing system with
  | nil => exact sound
  | cons event later ih => exact ih (step_sound sound event)

/-! ## Loads -/

/-- The last of the committed generations, as it is loaded. -/
def current (committed : List CommittedGeneration) : StoredGeneration :=
  match committed.getLast? with
  | none => {}
  | some last =>
      { generation := last.generation
        checkpoint := last.checkpoint
        progress :=
          { datasets := last.progress.datasets.mergeSort fun first second =>
              first.datasetId ≤ second.datasetId } }

/-- Configurations of one compatibility hash keep as many generations and as large checkpoints. -/
def SameLimits (context : StoreContext) : Prop :=
  ∀ first second : String,
    context.restoreCompatibilityHash first (context.hash first) =
      context.restoreCompatibilityHash second (context.hash second) →
    (context.parse first).maxCheckpointBytes = (context.parse second).maxCheckpointBytes ∧
      (context.parse first).retainGenerations = (context.parse second).retainGenerations

/-- Only the last generation has its number. -/
theorem filter_current {earlier : List CommittedGeneration} {last : CommittedGeneration}
    (generations : (earlier ++ [last]).map CommittedGeneration.generation =
      countedUp (earlier ++ [last]).length) {skip : Nat} (bounded : skip ≤ earlier.length) :
    (((earlier ++ [last]).drop skip).filter fun found =>
      decide (found.generation = last.generation)) = [last] := by
  have newest : last.generation = (earlier.length : Int) + 1 := by
    simpa using generation_getElem generations earlier.length (by simp)
  rw [List.drop_append_of_le_length bounded, List.filter_append]
  have old : ((earlier.drop skip).filter fun found =>
      decide (found.generation = last.generation)) = [] := by
    apply List.filter_eq_nil_iff.mpr
    intro found member
    obtain ⟨index, inside, rfl⟩ := List.mem_iff_getElem.mp (List.mem_of_mem_drop member)
    have numbered := generation_getElem generations index (by simp; omega)
    rw [List.getElem_append_left inside] at numbered
    rw [decide_eq_true_eq]
    omega
  rw [old, List.nil_append]
  simp

theorem positionsOf_current {earlier : List CommittedGeneration} {last : CommittedGeneration}
    {tables : Tables} (generations : (earlier ++ [last]).map CommittedGeneration.generation =
      countedUp (earlier ++ [last]).length) {skip : Nat} (bounded : skip ≤ earlier.length)
    (positions : tables.positions =
      ((earlier ++ [last]).drop skip).flatMap CommittedGeneration.positions) :
    positionsOf last.generation tables = last.progress.datasets.mergeSort fun first second =>
      first.datasetId ≤ second.datasetId := by
  have kept := filter_positions ((earlier ++ [last]).drop skip) fun generation =>
    decide (generation = last.generation)
  rw [filter_current generations bounded, ← positions] at kept
  unfold positionsOf
  rw [kept]
  simp [CommittedGeneration.positions, Function.comp_def]

/-- A store that holds the row reads the last generation, or a call fails. -/
theorem read_current (sound : system.Sound context) (same : SameLimits context) {row : FenceRow}
    (unfailed : (system.stores writer).isFailed = false)
    (bound : (system.fence.writers writer).bound = true) (isRow : system.fence.row = some row)
    (holds : row.writerEpoch = (system.fence.writers writer).epoch) (faults : Nat → Option String) :
    ((∀ call, faults call = none) →
      system.read context writer faults = .ok (current system.committed)) ∧
    ∀ stored, system.read context writer faults = .ok stored →
      stored = current system.committed := by
  have agrees := sound.stores writer unfailed
  obtain ⟨json, held, isConfig, isHeld, hash⟩ := agrees.config bound
  cases isRow.symm.trans isHeld
  have counted := sound.fence.counted row isRow
  obtain ⟨generation, _⟩ := (sound.fence.knows writer).live bound agrees.live agrees.unstaged
    (holds.symm.trans counted.epoch)
  rw [← sound.counts] at generation
  unfold read
  simp only [isConfig, unfailed, generation, Bool.false_eq_true, if_false]
  rcases List.eq_nil_or_concat system.committed with none_ | ⟨earlier, last, some_⟩
  · simp [none_, current]
  · rw [List.concat_eq_append] at some_
    obtain ⟨skip, kept⟩ := sound.stored.kept
    have generations := sound.generations
    rw [some_] at kept generations
    have bounded : skip ≤ earlier.length := by
      have inside := kept.current (by simp)
      rw [List.length_append, List.length_singleton] at inside
      omega
    have newest : last.generation = ((system.committed.length : Nat) : Int) := by
      simpa [some_] using generation_getElem generations earlier.length (by simp)
    have model : (system.tables.models.filter fun version =>
        decide (version.generation = ((system.committed.length : Nat) : Int))) =
          [last.model context] := by
      have only := filter_current generations bounded
      rw [kept.models, List.filter_map, ← newest]
      exact congrArg (List.map (CommittedGeneration.model context)) only
    have positions := positionsOf_current generations bounded kept.positions
    obtain ⟨saved, held, isSaved, isHeld_, hash_⟩ := sound.configs last (some_ ▸ by simp)
    cases isRow.symm.trans isHeld_
    have limit := sound.limits last (some_ ▸ by simp)
    have limits := (same saved json (hash_.symm.trans hash)).1
    have large : ¬ ((context.snapshot json).maxCheckpointBytes < last.checkpoint.utf8ByteSize) := by
      rw [isSaved] at limit
      change last.checkpoint.utf8ByteSize ≤ (context.parse saved).maxCheckpointBytes at limit
      change ¬ (context.parse json).maxCheckpointBytes < _
      omega
    have matches_ : context.restoreCompatibilityHash (last.model context).configJson
        (last.model context).configHash = context.restoreCompatibilityHash
          (context.snapshot json).originalJson (context.snapshot json).sha256Hex := by
      unfold CommittedGeneration.model
      rw [isSaved]
      exact hash_.symm.trans hash
    have some__ : ((system.committed.length : Nat) : Int) ≠ 0 := by
      rw [some_, List.length_append, List.length_singleton]
      omega
    have isCurrent : current system.committed =
        ⟨last.generation, last.checkpoint,
          { datasets := positionsOf last.generation system.tables }⟩ := by
      rw [positions]
      simp [current, some_]
    have accepted : ¬ (context.restoreCompatibilityHash (last.model context).configJson
        (last.model context).configHash ≠ context.restoreCompatibilityHash
          (context.snapshot json).originalJson (context.snapshot json).sha256Hex ∨
        (last.model context).checksum ≠ context.hash (last.model context).checkpoint ∨
        (context.snapshot json).maxCheckpointBytes <
          (last.model context).checkpoint.utf8ByteSize) := by
      rintro (apart | damaged | larger)
      · exact apart matches_
      · exact damaged rfl
      · exact large larger
    rw [isCurrent, if_neg some__]
    constructor
    · intro calls
      simp only [calls, model, if_neg accepted, newest]
      rfl
    · intro stored is
      split at is
      · cases is
      · cases is
      · simp only [model, if_neg accepted] at is
        split at is
        · cases is
        · cases is
        · rw [← Except.ok.inj is, newest]
          rfl

/-- A store that has been opened holds the row. -/
theorem openStore_live {json owner : String} {failure : Option String}
    {table fate tables : TransactionFate}
    (live : ((system.openStore context writer json owner failure table fate tables).stores
      writer).isFailed = false) :
    ∃ row, (system.openStore context writer json owner failure table fate tables).fence.row =
        some row ∧
      row.writerEpoch = ((system.openStore context writer json owner failure table fate
        tables).fence.writers writer).epoch ∧
      ((system.openStore context writer json owner failure table fate tables).fence.writers
        writer).bound = true ∧
      (system.openStore context writer json owner failure table fate tables).committed =
        system.committed := by
  have failed : ∀ (before : StoreSystem) (error : String),
      ((before.failStore writer error).stores writer).isFailed = true := by
    intro before error
    simp [StoreSystem.failStore, setStore]
  unfold openStore at live ⊢
  simp only at live ⊢
  split at live
  · exact absurd (live.symm.trans (failed _ _)) Bool.false_ne_true
  next free =>
    rw [if_neg free]
    cases failure with
    | some error => exact absurd (live.symm.trans (failed _ _)) Bool.false_ne_true
    | none =>
        simp only at live ⊢
        split at live
        · exact absurd (live.symm.trans (failed _ _)) Bool.false_ne_true
        next acquired =>
          rw [if_neg acquired]
          obtain ⟨row, is, _, now⟩ := acquire_live (Bool.not_eq_true _ ▸ acquired)
          have opened : row.writerEpoch = ((system.fence.acquire writer owner
              (context.restoreCompatibilityHash json (context.hash json))
              (context.snapshot json).leaseMs table fate).writers writer).epoch ∧
              ((system.fence.acquire writer owner
              (context.restoreCompatibilityHash json (context.hash json))
              (context.snapshot json).leaseMs table fate).writers writer).bound = true := by
            constructor
            · exact (congrArg WriterFence.epoch now).symm
            · exact congrArg WriterFence.bound now
          cases tables with
          | failed message => exact absurd (live.symm.trans (failed _ _)) Bool.false_ne_true
          | finished outcome message =>
              simp only at live ⊢
              split at live
              · exact absurd (live.symm.trans (failed _ _)) Bool.false_ne_true
              next ok =>
                rw [if_neg ok]
                split at live
                · exact absurd (live.symm.trans (failed _ _)) Bool.false_ne_true
                next notFresh =>
                  rw [if_neg notFresh]
                  split at live
                  · exact absurd (live.symm.trans (failed _ _)) Bool.false_ne_true
                  next notRequired =>
                    rw [if_neg notRequired]
                    exact ⟨row, is, opened.1, opened.2, rfl⟩

/-- A store that has the row keeps no more generations than its configuration says. -/
theorem Sound.retained (sound : system.Sound context) (same : SameLimits context) {row : FenceRow}
    {json : String} (isRow : system.fence.row = some row)
    (hash : row.configHash = context.restoreCompatibilityHash json (context.hash json)) :
    system.tables.models.length ≤ (context.parse json).retainGenerations := by
  obtain ⟨skip, kept⟩ := sound.stored.kept
  rw [kept.models, List.length_map, List.length_drop]
  cases last_ : system.committed.getLast? with
  | none =>
      rw [List.getLast?_eq_none_iff.mp last_]
      simp
  | some last =>
      obtain ⟨saved, held, isSaved, isHeld, hash_⟩ :=
        sound.configs last (List.mem_of_getLast? last_)
      cases isRow.symm.trans isHeld
      have limits := (same saved json (hash_.symm.trans hash)).2
      have retained := kept.retained last last_
      rw [isSaved] at retained
      change _ ≤ (context.parse saved).retainGenerations at retained
      omega

theorem idxOf_generation (kind : SchemaKind) :
    kind.fields.idxOf "published_generation" < kind.fields.length := by
  cases kind <;> decide

/-- A stored row carries the generation that published it. -/
theorem stored_generation {committed : CommittedGeneration} {kind : SchemaKind}
    {result : StoredResult} (member : result ∈ committed.stored context kind) :
    kind.cell "published_generation" result.cells = .int64 (some committed.generation) := by
  unfold CommittedGeneration.stored at member
  obtain ⟨batch, _, inBatch⟩ := List.mem_flatMap.mp member
  unfold ResultBatch.stored at inBatch
  split at inBatch
  next is =>
    obtain ⟨row, isRow, rfl⟩ := List.mem_map.mp inBatch
    have inside := batch.complete kind is row isRow ▸ idxOf_generation kind
    simp [SchemaKind.cell, storedResult, List.getD_eq_getElem?_getD, inside]
  next => exact absurd inBatch List.not_mem_nil

/-- What holds of every run of the stores of a task. -/
structure Durable (context : StoreContext) (system : StoreSystem) : Prop where
  generations : system.committed.map CommittedGeneration.generation =
    countedUp system.committed.length
  row : ∀ row, system.fence.row = some row → row.currentGeneration = system.committed.length
  results : ∀ kind, system.tables.results kind =
    system.committed.flatMap (CommittedGeneration.stored context kind)
  carried : ∀ kind, ∀ committed ∈ system.committed, ∀ result ∈ committed.stored context kind,
    kind.cell "published_generation" result.cells = .int64 (some committed.generation)
  keys : ∀ kind, ((system.tables.results kind).map StoredResult.logicalKey).Nodup
  models : ∃ skip, system.tables.models =
    (system.committed.drop skip).map (CommittedGeneration.model context) ∧
      (system.committed ≠ [] → skip < system.committed.length)
  retained : ∀ row json, system.fence.row = some row →
    row.configHash = context.restoreCompatibilityHash json (context.hash json) →
    system.tables.models.length ≤ (context.parse json).retainGenerations
  loads : ∀ (writer : Nat) (json owner : String) (failure : Option String)
    (table fate tables : TransactionFate),
    ((system.openStore context writer json owner failure table fate tables).stores
      writer).isFailed = false →
    ∀ faults, ((∀ call, faults call = none) →
      (system.openStore context writer json owner failure table fate tables).read context writer
        faults = .ok (current system.committed)) ∧
      ∀ stored, (system.openStore context writer json owner failure table fate tables).read context
        writer faults = .ok stored → stored = current system.committed

theorem run_durable (context : StoreContext) (same : SameLimits context) (clock : Int)
    (events : List StoreEvent) : ((created clock).run context events).Durable context := by
  have sound := run_sound (created_sound context clock) events
  generalize (created clock).run context events = system at sound
  obtain ⟨skip, kept⟩ := sound.stored.kept
  refine ⟨sound.generations, fun row is => ?_, sound.stored.results,
    fun kind committed _ result member => stored_generation member, sound.stored.keyed,
    ⟨skip, kept.models, kept.current⟩, fun row json is hash => sound.retained same is hash, ?_⟩
  · rw [sound.counts]
    exact (sound.fence.counted row is).generation
  · intro writer json owner failure table fate tables live faults
    obtain ⟨row, isRow, holds, bound, committed⟩ := openStore_live live
    have opened := openStore_sound sound writer json owner failure table fate tables
    have reads := read_current opened same live bound isRow holds faults
    rwa [committed] at reads

/-- A context that hashes every text to itself and keeps one generation. -/
def plainContext : StoreContext where
  taskKey := "task"
  parse := fun _ =>
    { datasets := ["d"], leaseMs := 10, maxCheckpointBytes := 100, maxPendingBytes := 100
      retainGenerations := 1, restore := .ifExists, retains := Nat.le_refl 1 }
  hash := id
  withoutRestore := some
  print := Cell.text

/-- One store publishes twice. The commit of the second publication is applied, but the store does
not know it. -/
def unknownCommit : List StoreEvent :=
  [.openStore 0 "config" "first" none (.finished .committed "") (.finished .committed "")
      (.finished .committed ""),
    .publish 0 "one" { datasets := [⟨"d", "epoch", "p1", 5⟩] } [] none (fun _ => none) .committed
      "",
    .publish 0 "two" { datasets := [⟨"d", "epoch", "p2", 9⟩] } [] none (fun _ => none)
      (.unknown true) "lost",
    .close 0 (.failed "lost"), .pass 20]

theorem run_durable_unknown_commit :
    (((created 0).run plainContext unknownCommit).openStore plainContext 1 "config" "second" none
      (.finished .committed "") (.finished .committed "") (.finished .committed "")).read
        plainContext 1 (fun _ => none) =
      .ok ⟨2, "two", { datasets := [⟨"d", "epoch", "p2", 9⟩] }⟩ := by
  have loads := (run_durable plainContext (fun _ _ _ => ⟨rfl, rfl⟩) 0 unknownCommit).loads 1
    "config" "second" none (.finished .committed "") (.finished .committed "")
    (.finished .committed "") (by decide +kernel) (fun _ => none)
  exact (loads.1 fun _ => rfl).trans (by decide +kernel)

end StoreSystem

end Flowsql.Baseliner
