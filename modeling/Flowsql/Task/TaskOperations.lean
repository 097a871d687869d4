import Flowsql.Task.TaskStoreRuns
import Mathlib

/-!
# What each operation of the task store does

The law of each operation, and the invariant that it keeps, as long as its events are inserted and
its rollbacks do not fail.
-/

namespace Flowsql.Task

open Flowsql.Library Tables

namespace TaskStore

variable {store after : TaskStore} {taskId : String} {now : Int}

/-! ## Statements -/

/-- Every event is inserted, the selection of the restart is not cut short, no rollback fails and
foreign keys are enforced. -/
def Sturdy (store : TaskStore) : TaskOperation → Prop
  | .createTask _ _ outcome => outcome.rollsBack = true
  | .updateStatus _ _ outcome => outcome.inserts = true
  | .cleanupOrphans _ outcome =>
      (∀ inserts ∈ outcome.inserts, inserts = true) ∧
        (outcome.selected = 0 ∨
          (store.tables.tasks.filter fun row => !row.status.isTerminal).length ≤ outcome.selected)
  | .restart foreignKeys => foreignKeys = true
  | .deleteTask _ outcome => outcome.rollsBack = true
  | .runRetentionCleanup _ outcome => ∀ taskId, (outcome.deletes taskId).rollsBack = true
  | .requestCancelRunningTask _ _ _ | .updateRuntimeTaskId _ _ _ _ | .writeDiagnostic _ _
  | .saveResultSummary _ _ => True

/-- Among the newest terminal tasks that are to be retained, and created within the retention
days. -/
def Retained (store : TaskStore) (now : Int) (row : TaskRow) : Prop :=
  (0 < store.retentionDays →
    now - store.retentionDays * secondsPerDay ≤ row.createdAt) ∧
  (0 < store.retentionMaxCount →
    row ∈ store.newestFirst.take store.retentionMaxCount.toNat)

/-- What an operation keeps. Only a deletion and the cleanup remove tasks, terminal ones, with all
of their rows, and the cleanup keeps those to be retained. -/
def Law (store : TaskStore) (operation : TaskOperation) (after : TaskStore) : Prop :=
  KeepsOutcomes store.tables after.tables ∧
    match operation with
    | .deleteTask taskId _ => RemovesWhole [taskId] store.tables after.tables
    | .runRetentionCleanup now outcome =>
        RemovesWhole (store.toDelete now outcome) store.tables after.tables ∧
          ∀ row ∈ store.terminalTasks, store.Retained now row →
            after.tables.rowsOf row.taskId = store.tables.rowsOf row.taskId
    | _ => KeepsTasks store.tables after.tables

/-- What holds between operations. -/
structure Settled (store : TaskStore) : Prop where
  consistent : store.tables.Consistent
  ended : store.begun = none
  foreignKeys : store.foreignKeys = true

/-- An operation that leaves the store as it is. -/
theorem keepsOutcomes_refl (consistent : store.tables.Consistent) :
    KeepsOutcomes store.tables store.tables :=
  fun _ member _ _ laterMember same => by
    rw [consistent.eq_of_taskId member laterMember same]

theorem keepsTasks_refl : KeepsTasks store.tables store.tables :=
  fun row member => ⟨row, member, rfl⟩

/-! ## Transactions -/

/-- A transaction either has no effect, or that of its body. -/
theorem inTransaction_cases {outcome : TransactionOutcome} (rollsBack : outcome.rollsBack = true)
    (body : Tables → Bool × Tables) :
    (store.inTransaction outcome body).2 = store ∨
      ∃ tables, body store.tables = (true, tables) ∧
        (store.inTransaction outcome body).2 = { store with tables := tables } := by
  unfold inTransaction
  split
  · exact .inl rfl
  cases result : body store.tables with
  | mk ok tables =>
      cases ok with
      | false =>
          refine .inl ?_
          simp [rollback, rollsBack]
      | true =>
          by_cases commits : outcome.commits = true
          · refine .inr ⟨tables, rfl, ?_⟩
            simp [commits]
          · refine .inl ?_
            simp [rollback, rollsBack, commits]

/-! ## Creating tasks -/

theorem insertTask_eq {params : CreateParams} {outcome : CreateOutcome} {tables inserted : Tables}
    (ok : insertTask params now outcome tables = (true, inserted)) :
    ∃ row payload, row.taskId = params.taskId ∧ row.status = .pending ∧
      (∀ other ∈ tables.tasks, other.taskId ≠ row.taskId) ∧
      inserted = { tables with
        tasks := tables.tasks ++ [row], payloads := tables.payloads ++ [payload] } := by
  unfold insertTask at ok
  split at ok
  · cases ok
  next allowed =>
  dsimp only at ok
  split at ok
  · cases ok
  cases ok
  refine ⟨_, _, rfl, rfl, fun other member same => allowed ?_, rfl⟩
  have found : (tables.task? params.taskId).isSome = true := by
    rw [task?, List.find?_isSome]
    exact ⟨other, member, by simpa using same⟩
  rw [found, Bool.or_true]

theorem createTask_lawful (settled : store.Settled) {params : CreateParams}
    {outcome : CreateOutcome} (rollsBack : outcome.rollsBack = true) :
    (store.createTask params now outcome).2.Settled ∧
      store.Law (.createTask params now outcome) (store.createTask params now outcome).2 := by
  have same : store.Settled ∧ store.Law (.createTask params now outcome) store :=
    ⟨settled, keepsOutcomes_refl settled.consistent, keepsTasks_refl⟩
  unfold createTask
  split
  · exact same
  next valid =>
  have named : params.taskId.isEmpty = false := by
    simp only [Bool.or_eq_true, not_or, Bool.not_eq_true] at valid
    exact valid.1.1.1.1
  rcases inTransaction_cases rollsBack (insertTask params now outcome) with
    unchanged | ⟨tables, ok, changed⟩
  · rw [unchanged]
    exact same
  · obtain ⟨row, payload, rowId, pending, fresh, rfl⟩ := insertTask_eq ok
    rw [changed]
    refine ⟨⟨settled.consistent.insert (rowId ▸ named) pending fresh, settled.ended,
      settled.foreignKeys⟩, ?_, ?_⟩
    · intro old member terminal later laterMember equal
      rcases List.mem_append.mp laterMember with before | new
      · rw [settled.consistent.eq_of_taskId member before equal]
      · rw [List.mem_singleton.mp new] at equal
        exact absurd equal.symm (fresh old member)
    · exact fun old member => ⟨old, List.mem_append_left _ member, rfl⟩

/-! ## Status -/

theorem updateStatus_lawful (settled : store.Settled) {update : StatusUpdate}
    {outcome : UpdateOutcome} (inserts : outcome.inserts = true) :
    (store.updateStatus update now outcome).2.Settled ∧
      store.Law (.updateStatus update now outcome) (store.updateStatus update now outcome).2 := by
  have same : store.Settled ∧ store.Law (.updateStatus update now outcome) store :=
    ⟨settled, keepsOutcomes_refl settled.consistent, keepsTasks_refl⟩
  unfold updateStatus
  split
  · exact same
  next valid =>
  have named : update.taskId.isEmpty = false := by
    simp only [Bool.or_eq_true, not_or, Bool.not_eq_true] at valid
    exact valid.1
  cases found : store.tables.task? update.taskId with
  | none => exact same
  | some current =>
      obtain ⟨member, currentId⟩ := task?_eq_some found
      dsimp only
      split
      · exact same
      next running =>
      split
      · exact same
      have notTerminal : current.status.isTerminal = false := Bool.eq_false_iff.mpr running
      simp only [writeTaskEventNoLock, inserts, named, Bool.not_false, Bool.and_true, if_true]
      refine ⟨⟨settled.consistent.updateTasks _ (update.apply now) (fun row => rfl)
        [⟨update.taskId, some current.status, update.newStatus, update.errorCode⟩] ?_ ?_,
        settled.ended, settled.foreignKeys⟩, ?_, ?_⟩
      · intro event new
        rw [List.mem_singleton.mp new]
        exact ⟨current, member, currentId⟩
      · intro row inside
        by_cases mine : row.taskId = update.taskId
        · have rowEq : row = current :=
            settled.consistent.eq_of_taskId member inside (mine.trans currentId.symm)
          subst rowEq
          simp only [mine, notTerminal, decide_true, Bool.not_false, Bool.and_true, if_true,
            List.filter_cons_of_pos, List.filter_nil]
          rw [← mine]
          exact (settled.consistent.chained row inside).snoc rfl
        · have other : ¬update.taskId = row.taskId := fun equal => mine equal.symm
          simp only [mine, decide_false, Bool.false_and, Bool.false_eq_true, if_false,
            other, List.filter_cons, List.filter_nil, List.append_nil]
          exact settled.consistent.chained row inside
      · refine updateTasks_keepsOutcomes settled.consistent _ (update.apply now) (fun row => rfl)
          (fun row selected terminal => ?_) rfl
        simp [terminal] at selected
      · exact updateTasks_keepsTasks _ (update.apply now) (fun row => rfl) rfl

/-- An update of other columns than those of the outcome. -/
theorem updateTasks_lawful (settled : store.Settled) {selects : TaskRow → Bool}
    {change : TaskRow → TaskRow} (keeps : ∀ row, (change row).taskId = row.taskId)
    (outcomes : ∀ row, (change row).outcome = row.outcome) :
    TaskStore.Settled { store with tables := store.tables.updateTasks selects change } ∧
      KeepsOutcomes store.tables (store.tables.updateTasks selects change) ∧
      KeepsTasks store.tables (store.tables.updateTasks selects change) :=
  ⟨⟨settled.consistent.updateTasks_status selects keeps fun row => congrArg Prod.fst (outcomes row),
      settled.ended, settled.foreignKeys⟩,
    updateTasks_keepsOutcomes settled.consistent selects change keeps
      (fun row _ _ => outcomes row) rfl,
    updateTasks_keepsTasks selects change keeps rfl⟩

/-! ## Restart -/

/-- The event of a task that a restart has interrupted. -/
def orphanEvent (row : TaskRow) : TaskEvent :=
  ⟨row.taskId, some row.status, .failed, "PROCESS_RESTART"⟩

theorem writeOrphanEvents_eq {orphans : List TaskRow} {inserts : List Bool}
    (inserted : ∀ insert ∈ inserts, insert = true)
    (named : ∀ orphan ∈ orphans, orphan.taskId.isEmpty = false) :
    writeOrphanEvents orphans inserts store =
      { store with
        tables := { store.tables with
          events := store.tables.events ++ orphans.map orphanEvent } } := by
  induction orphans generalizing inserts store with
  | nil => simp [writeOrphanEvents]
  | cons orphan rest ih =>
      have first : inserts.headD true = true := by
        cases inserts with
        | nil => rfl
        | cons insert later => exact inserted insert List.mem_cons_self
      rw [writeOrphanEvents, ih (fun insert member => inserted insert (List.mem_of_mem_tail member))
        fun other member => named other (List.mem_cons_of_mem _ member)]
      simp only [writeTaskEventNoLock, first, named orphan List.mem_cons_self, Bool.not_false,
        Bool.and_true, if_true, List.append_assoc, List.map_cons]
      rfl

theorem cleanupOrphans_lawful (settled : store.Settled) {outcome : OrphanOutcome}
    (inserted : ∀ inserts ∈ outcome.inserts, inserts = true)
    (selected : outcome.selected = 0 ∨
      (store.tables.tasks.filter fun row => !row.status.isTerminal).length ≤ outcome.selected) :
    (store.cleanupOrphans now outcome).2.Settled ∧
      store.Law (.cleanupOrphans now outcome) (store.cleanupOrphans now outcome).2 := by
  have same : store.Settled ∧ store.Law (.cleanupOrphans now outcome) store :=
    ⟨settled, keepsOutcomes_refl settled.consistent, keepsTasks_refl⟩
  unfold cleanupOrphans
  dsimp only
  split
  · exact same
  next found =>
  split
  · exact same
  have all : (store.tables.tasks.filter fun row => !row.status.isTerminal).take
      outcome.selected = store.tables.tasks.filter fun row => !row.status.isTerminal := by
    rcases selected with none_ | enough
    · simp [none_] at found
    · exact List.take_of_length_le enough
  rw [all, writeOrphanEvents_eq inserted fun orphan member =>
    settled.consistent.named orphan (List.mem_of_mem_filter member)]
  refine ⟨⟨settled.consistent.updateTasks _ (interrupt now) (fun row => rfl) _ ?_ ?_,
    settled.ended, settled.foreignKeys⟩, ?_, ?_⟩
  · intro event member
    obtain ⟨orphan, inside, rfl⟩ := List.mem_map.mp member
    exact ⟨orphan, List.mem_of_mem_filter inside, rfl⟩
  · intro row inside
    have rows : (store.tables.tasks.filter fun other => !other.status.isTerminal).filter
        (fun other => decide (other.taskId = row.taskId)) =
        if row.status.isTerminal then [] else [row] := by
      rw [List.filter_comm, filter_key_eq_singleton settled.consistent.unique inside]
      cases terminal : row.status.isTerminal <;> simp [terminal]
    rw [List.filter_map]
    change Chained _ (_ ++ (List.filter (fun other => decide (other.taskId = row.taskId))
      (store.tables.tasks.filter fun other => !other.status.isTerminal)).map orphanEvent) _
    rw [rows]
    cases terminal : row.status.isTerminal with
    | true =>
        simp only [Bool.not_true, Bool.false_eq_true, if_false, if_true, List.map_nil,
          List.append_nil]
        exact settled.consistent.chained row inside
    | false =>
        simp only [Bool.not_false, Bool.false_eq_true, if_false, if_true, List.map_cons,
          List.map_nil]
        exact (settled.consistent.chained row inside).snoc rfl
  · refine updateTasks_keepsOutcomes settled.consistent _ (interrupt now) (fun row => rfl)
      (fun row selected terminal => ?_) rfl
    simp [terminal] at selected
  · exact updateTasks_keepsTasks _ (interrupt now) (fun row => rfl) rfl

theorem restart_lawful (settled : store.Settled) :
    (store.restart true).Settled ∧ store.Law (.restart true) (store.restart true) := by
  have tables : (store.restart true).tables = store.tables := by
    simp [restart, settled.ended]
  unfold Law
  rw [tables]
  exact ⟨⟨by rw [tables]; exact settled.consistent, rfl, rfl⟩,
    keepsOutcomes_refl settled.consistent, keepsTasks_refl⟩

/-! ## Other updates -/

theorem requestCancelRunningTask_lawful (settled : store.Settled) (updates : Bool) :
    (store.requestCancelRunningTask taskId now updates).2.Settled ∧
      store.Law (.requestCancelRunningTask taskId now updates)
        (store.requestCancelRunningTask taskId now updates).2 := by
  unfold requestCancelRunningTask
  split
  · exact ⟨settled, keepsOutcomes_refl settled.consistent, keepsTasks_refl⟩
  · exact updateTasks_lawful settled (fun row => rfl) fun row => rfl

theorem updateRuntimeTaskId_lawful (settled : store.Settled) (runtimeTaskId : String)
    (updates : Bool) :
    (store.updateRuntimeTaskId taskId runtimeTaskId now updates).2.Settled ∧
      store.Law (.updateRuntimeTaskId taskId runtimeTaskId now updates)
        (store.updateRuntimeTaskId taskId runtimeTaskId now updates).2 := by
  unfold updateRuntimeTaskId
  split
  · exact ⟨settled, keepsOutcomes_refl settled.consistent, keepsTasks_refl⟩
  · exact updateTasks_lawful settled (fun row => rfl) fun row => rfl

/-- Neither the tasks nor their events are touched. -/
theorem Settled.of_eq (settled : store.Settled) {tables : Tables}
    (tasks : tables.tasks = store.tables.tasks) (events : tables.events = store.tables.events) :
    TaskStore.Settled { store with tables := tables } := by
  refine ⟨⟨?_, ?_, ?_, ?_⟩, settled.ended, settled.foreignKeys⟩
  · exact tasks ▸ settled.consistent.unique
  · exact tasks ▸ settled.consistent.named
  · unfold eventsOf
    simp only [tasks, events]
    exact settled.consistent.chained
  · simp only [tasks, events]
    exact settled.consistent.owned

theorem writeDiagnostic_lawful (settled : store.Settled) (row : TaskDiagnostic)
    (inserts : Bool) :
    (store.writeDiagnostic row inserts).2.Settled ∧
      store.Law (.writeDiagnostic row inserts) (store.writeDiagnostic row inserts).2 := by
  unfold writeDiagnostic
  split
  · exact ⟨settled, keepsOutcomes_refl settled.consistent, keepsTasks_refl⟩
  · exact ⟨settled.of_eq rfl rfl, keepsOutcomes_refl settled.consistent, keepsTasks_refl⟩

theorem saveResultSummary_lawful (settled : store.Settled) (row : ResultSummary)
    (inserts : Bool) :
    (store.saveResultSummary row inserts).2.Settled ∧
      store.Law (.saveResultSummary row inserts) (store.saveResultSummary row inserts).2 := by
  unfold saveResultSummary
  split
  · exact ⟨settled, keepsOutcomes_refl settled.consistent, keepsTasks_refl⟩
  · exact ⟨settled.of_eq rfl rfl, keepsOutcomes_refl settled.consistent, keepsTasks_refl⟩

/-! ## Deleting tasks -/

theorem deleteRows_eq {outcome : DeleteOutcome} {tables deleted : Tables}
    (ok : deleteRows true taskId outcome tables = (true, deleted)) :
    deleted = tables.remove taskId := by
  unfold deleteRows at ok
  split at ok
  · cases ok
  dsimp only at ok
  split at ok
  · cases ok
  split at ok
  · cases ok
  split at ok
  · cases ok
  · cases ok
    rfl

theorem deleteTask_removes (settled : store.Settled) {outcome : DeleteOutcome}
    (rollsBack : outcome.rollsBack = true) :
    (store.deleteTask taskId outcome).2.Settled ∧
      RemovesWhole [taskId] store.tables (store.deleteTask taskId outcome).2.tables := by
  unfold deleteTask
  split
  · exact ⟨settled, .refl⟩
  cases found : store.tables.task? taskId with
  | none => exact ⟨settled, .refl⟩
  | some row =>
      obtain ⟨member, rfl⟩ := task?_eq_some found
      dsimp only
      split
      · exact ⟨settled, .refl⟩
      next terminal =>
      rw [settled.foreignKeys]
      rcases inTransaction_cases rollsBack (deleteRows true row.taskId outcome) with
        unchanged | ⟨tables, ok, changed⟩
      · rw [unchanged]
        exact ⟨settled, .refl⟩
      · rw [changed, deleteRows_eq ok]
        exact ⟨⟨settled.consistent.remove _, settled.ended, settled.foreignKeys⟩,
          remove_removesWhole member (by simpa using terminal)⟩

theorem deleteTask_lawful (settled : store.Settled) {outcome : DeleteOutcome}
    (rollsBack : outcome.rollsBack = true) :
    (store.deleteTask taskId outcome).2.Settled ∧
      store.Law (.deleteTask taskId outcome) (store.deleteTask taskId outcome).2 := by
  obtain ⟨after, removes⟩ := @deleteTask_removes store taskId settled outcome rollsBack
  exact ⟨after, removes.keepsOutcomes settled.consistent, removes⟩

/-! ## Retention -/

theorem deleteAll_removes {deletes : String → DeleteOutcome}
    (rollBack : ∀ taskId, (deletes taskId).rollsBack = true) (taskIds : List String)
    (cleaned : Nat) (settled : store.Settled) :
    (deleteAll deletes taskIds cleaned store).Settled ∧
      RemovesWhole taskIds store.tables (deleteAll deletes taskIds cleaned store).tables := by
  induction taskIds generalizing cleaned store with
  | nil => exact ⟨settled, .refl⟩
  | cons taskId rest ih =>
      unfold deleteAll
      split
      · exact ⟨settled, .refl⟩
      obtain ⟨after, removes⟩ := @deleteTask_removes store taskId settled _ (rollBack taskId)
      dsimp only
      obtain ⟨last, removesRest⟩ :=
        ih (if (store.deleteTask taskId (deletes taskId)).1 = 0 then cleaned + 1 else cleaned) after
      exact ⟨last, removes.trans removesRest⟩

theorem mem_terminalTasks {row : TaskRow} :
    row ∈ store.terminalTasks ↔ row ∈ store.tables.tasks ∧ row.status.isTerminal = true :=
  List.mem_filter

theorem newestFirst_nodup (consistent : store.tables.Consistent) : store.newestFirst.Nodup :=
  (List.perm_insertionSort newer store.terminalTasks).nodup_iff.mpr
    ((consistent.unique.of_map _).filter _)

/-- A task that is to be retained is not among those to delete. -/
theorem Retained.not_mem_toDelete (consistent : store.tables.Consistent) {row : TaskRow}
    (member : row ∈ store.terminalTasks) (retained : store.Retained now row)
    (outcome : RetentionOutcome) : row.taskId ∉ store.toDelete now outcome := by
  have same : ∀ {other}, other ∈ store.terminalTasks → other.taskId = row.taskId → other = row :=
    fun inside => consistent.eq_of_taskId (mem_terminalTasks.mp member).1
      (mem_terminalTasks.mp inside).1
  intro inside
  rw [toDelete, List.mem_insertionSort, List.mem_dedup, List.mem_append] at inside
  rcases inside with byDays | byCount
  · split at byDays
    next positive =>
      obtain ⟨other, expired, sameId⟩ := List.mem_map.mp (List.mem_of_mem_take byDays)
      obtain ⟨terminal, old⟩ := List.mem_filter.mp expired
      rw [same terminal sameId] at old
      have young := retained.1 positive
      exact absurd (of_decide_eq_true old) (not_lt.mpr young)
    next => exact absurd byDays List.not_mem_nil
  · split at byCount
    next positive =>
      obtain ⟨other, dropped, sameId⟩ := List.mem_map.mp (List.mem_of_mem_take byCount)
      have terminal : other ∈ store.terminalTasks :=
        (List.mem_insertionSort newer).mp (List.mem_of_mem_drop dropped)
      rw [same terminal sameId] at dropped
      exact List.disjoint_take_drop (newestFirst_nodup consistent) le_rfl
        (retained.2 positive) dropped
    next => exact absurd byCount List.not_mem_nil

theorem runRetentionCleanup_lawful (settled : store.Settled) {outcome : RetentionOutcome}
    (rollBack : ∀ taskId, (outcome.deletes taskId).rollsBack = true) :
    (store.runRetentionCleanup now outcome).2.Settled ∧
      store.Law (.runRetentionCleanup now outcome) (store.runRetentionCleanup now outcome).2 := by
  unfold runRetentionCleanup
  split
  · exact ⟨settled, keepsOutcomes_refl settled.consistent, .refl, fun row _ _ => rfl⟩
  obtain ⟨after, removes⟩ :=
    deleteAll_removes rollBack (store.toDelete now outcome) 0 settled
  refine ⟨after, removes.keepsOutcomes settled.consistent, removes, fun row member retained => ?_⟩
  rcases removes row.taskId with unchanged | ⟨inside, -, -⟩
  · exact unchanged
  · exact absurd inside (retained.not_mem_toDelete settled.consistent member outcome)

/-! ## Runs -/

theorem apply_lawful (settled : store.Settled) {operation : TaskOperation}
    (sturdy : store.Sturdy operation) :
    (store.apply operation).Settled ∧ store.Law operation (store.apply operation) := by
  cases operation with
  | createTask params now outcome => exact createTask_lawful settled sturdy
  | updateStatus update now outcome => exact updateStatus_lawful settled sturdy
  | requestCancelRunningTask taskId now updates =>
      exact requestCancelRunningTask_lawful settled updates
  | updateRuntimeTaskId taskId runtimeTaskId now updates =>
      exact updateRuntimeTaskId_lawful settled runtimeTaskId updates
  | cleanupOrphans now outcome => exact cleanupOrphans_lawful settled sturdy.1 sturdy.2
  | restart foreignKeys =>
      cases sturdy
      exact restart_lawful settled
  | deleteTask taskId outcome => exact deleteTask_lawful settled sturdy
  | runRetentionCleanup now outcome => exact runRetentionCleanup_lawful settled sturdy
  | writeDiagnostic row inserts => exact writeDiagnostic_lawful settled row inserts
  | saveResultSummary row inserts => exact saveResultSummary_lawful settled row inserts

/-- A store whose database has just been made. -/
def opened (retentionDays retentionMaxCount : Int) : TaskStore where
  retentionDays := retentionDays
  retentionMaxCount := retentionMaxCount

def step (self : TaskStore) (operation : TaskOperation) : Option TaskStore :=
  some (self.apply operation)

theorem opened_settled (retentionDays retentionMaxCount : Int) :
    (opened retentionDays retentionMaxCount).Settled :=
  ⟨⟨List.nodup_nil, fun _ member => absurd member List.not_mem_nil,
    fun _ member => absurd member List.not_mem_nil,
    fun _ member => absurd member List.not_mem_nil⟩, rfl, rfl⟩

/-- As long as every event is inserted, no selection of a restart is cut short, no rollback fails
and foreign keys are enforced, the events of each task lead from `pending` to its status, and every
operation keeps what it has to. -/
theorem task_store_lawful (retentionDays retentionMaxCount : Int) {store : TaskStore}
    (reached : Reachable step Sturdy (opened retentionDays retentionMaxCount) store) :
    store.tables.Consistent ∧
      ∀ operation, store.Sturdy operation → store.Law operation (store.apply operation) := by
  have settled : store.Settled := by
    refine reached.invariant Settled (opened_settled retentionDays retentionMaxCount) ?_
    intro before operation after settled sturdy moved
    cases moved
    exact (apply_lawful settled sturdy).1
  exact ⟨settled.consistent, fun operation sturdy => (apply_lawful settled sturdy).2⟩

/-- A task of the runs below. -/
def report : CreateParams where
  taskId := "report"
  requestSql := "select"
  rawSqlText := "select"
  sqlsJson := "[]"

/-- A task runs, is interrupted by a restart, and is removed by the retention. -/
theorem task_store_lawful_removed : ∃ store : TaskStore,
    store.tables.tasks = [] ∧ store.tables.Consistent := by
  refine ⟨((((opened 1 0).apply (.createTask report 0 {})).apply
    (.updateStatus { taskId := "report", newStatus := .running } 1 {})).apply
    (.cleanupOrphans 2 { selected := 1 })).apply
    (.runRetentionCleanup 90000
      { selectedByDays := 1, selectedByCount := 0, deletes := fun _ => {} }),
    by decide, (task_store_lawful 1 0 ?_).1⟩
  refine .step (.step (.step (.step .start ?_ rfl) ?_ rfl) ?_ rfl) ?_ rfl
  · exact rfl
  · exact rfl
  · exact ⟨nofun, .inr (by decide)⟩
  · exact fun _ => rfl

/-- The event of an update is lost: the events do not lead to the status. -/
theorem lost_event : ∃ store : TaskStore,
    Reachable step (fun _ _ => True) (opened 0 0) store ∧ ¬store.tables.Consistent := by
  refine ⟨((opened 0 0).apply (.createTask report 0 {})).apply
    (.updateStatus { taskId := "report", newStatus := .running } 1 { inserts := false }),
    .step (.step .start trivial rfl) trivial rfl, fun consistent => ?_⟩
  have chained : Chained .pending [] .running := consistent.chained _ List.mem_cons_self
  exact TaskStatus.noConfusion chained

end TaskStore

end Flowsql.Task
