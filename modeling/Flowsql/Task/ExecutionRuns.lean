import Flowsql.Task.BatchExecution
import Mathlib

/-!
# What the execution of a batch task does

Which statements are sent, which status can be left and which channels are removed, whatever the
scheduler answers and others do with the task meanwhile.
-/

namespace Flowsql.Task

/-! ## The status of the task -/

def TaskStore.statusOf (store : TaskStore) (taskId : String) : Option TaskStatus :=
  (store.tables.task? taskId).map (·.status)

theorem Tables.task?_updateTasks (tables : Tables) (selects : TaskRow → Bool)
    {change : TaskRow → TaskRow} (same : ∀ row, (change row).taskId = row.taskId) (taskId : String) :
    (tables.updateTasks selects change).task? taskId =
      (tables.task? taskId).map fun row => if selects row then change row else row := by
  unfold Tables.updateTasks Tables.task?
  rw [List.find?_map]
  have keys : ((fun row : TaskRow => decide (row.taskId = taskId)) ∘
      fun row => if selects row then change row else row) = fun row => decide (row.taskId = taskId) := by
    funext row
    simp only [Function.comp_apply]
    split
    · rw [same]
    · rfl
  rw [keys]

namespace TaskStore

variable {store : TaskStore} {taskId : String} {status : TaskStatus}

/-- An update leaves its own status or the one that was there. -/
theorem statusOf_updateStatus {update : StatusUpdate} {now : Int} {outcome : UpdateOutcome}
    (here : update.taskId = taskId)
    (left : (store.updateStatus update now outcome).2.statusOf taskId = some status) :
    status = update.newStatus ∨ store.statusOf taskId = some status := by
  unfold TaskStore.updateStatus at left
  split at left
  · exact .inr left
  · split at left
    · exact .inr left
    · rename_i current found
      split_ifs at left
      · exact .inr left
      · exact .inr left
      · have written : ((store.tables.updateTasks
            (fun row => decide (row.taskId = update.taskId) && !row.status.isTerminal)
            (update.apply now)).task? taskId).map (·.status) = some status := by
          unfold TaskStore.writeTaskEventNoLock at left
          split at left <;> exact left
        rw [@Tables.task?_updateTasks _ _ (update.apply now) (fun _ => rfl), ← here, found]
          at written
        simp only [Option.map_some, Option.some_inj] at written
        split at written
        · exact .inl written.symm
        · right
          rw [TaskStore.statusOf, ← here, found, Option.map_some, written]

theorem statusOf_requestCancel {now : Int} {updates : Bool} :
    (store.requestCancelRunningTask taskId now updates).2.statusOf taskId = store.statusOf taskId := by
  unfold TaskStore.requestCancelRunningTask
  split
  · rfl
  · change ((store.tables.updateTasks _ _).task? taskId).map (·.status) = _
    rw [@Tables.task?_updateTasks _ _ (fun row =>
      { row with cancelRequested := true, updatedAt := now }) (fun _ => rfl), Option.map_map]
    unfold TaskStore.statusOf
    congr 1
    funext row
    simp only [Function.comp_apply]
    split <;> rfl

/-- Others complete no task. -/
theorem statusOf_interfere {others : List Interference}
    (left : (store.interfere taskId others).statusOf taskId = some .completed) :
    store.statusOf taskId = some .completed := by
  induction others generalizing store with
  | nil => exact left
  | cons other others ih =>
      cases other with
      | requestCancel now updates =>
          have before := ih left
          rwa [statusOf_requestCancel] at before
      | timeout now outcome =>
          rcases statusOf_updateStatus rfl (ih left) with wrong | before
          · cases wrong
          · exact before

end TaskStore

/-! ## The loop -/

namespace BatchTask

variable (task : BatchTask) (started : TaskStore)

/-- The store at the time that the statement at an index is next. -/
def storeBefore : Nat → TaskStore
  | 0 => started
  | index + 1 => (storeBefore index).interfere task.taskId (task.beforeCheck index)

/-- The check before a statement sees neither a terminal status nor a cancel request. -/
def Clear (index : Nat) : Prop :=
  (storeBefore task started (index + 1)).queryTaskRuntimeFlags task.taskId (task.queried index) =
    (false, false)

/-- The statement succeeds. -/
def Answered (index : Nat) : Prop :=
  (task.responses index).rc.isOk = true ∧ (task.responses index).publicationSaved = true

/-- What an execution from an index on does. -/
structure Executed (start : Nat) (execution : Execution) : Prop where
  whole : execution.sent = task.sqls.take execution.sent.length
  ahead : start ≤ execution.sent.length
  reach : ∀ index, start ≤ index → (index < execution.sent.length ↔
    index < task.sqls.length ∧ (∀ earlier, start ≤ earlier → earlier ≤ index →
      task.Clear started earlier) ∧ ∀ earlier, start ≤ earlier → earlier < index →
        task.Answered earlier)
  cleanup : execution.unregistered = task.cleanupIntermediateChannels
  completed : execution.store.statusOf task.taskId = some .completed →
    (task.storeBefore started start).statusOf task.taskId = some .completed ∨
      execution.sent.length = task.sqls.length ∧
        ∀ index, start ≤ index → index < task.sqls.length → task.Answered index

variable {task started}

/-- An exit before the next statement, whose status is not completed. -/
theorem Executed.stopped {sent rest : List String} {sql : String} {execution : Execution}
    (sqls : task.sqls = sent ++ sql :: rest) (same : execution.sent = sent)
    (cleanup : execution.unregistered = task.cleanupIntermediateChannels)
    (seen : ¬task.Clear started sent.length)
    (completed : execution.store.statusOf task.taskId = some .completed →
      (task.storeBefore started sent.length).statusOf task.taskId = some .completed) :
    task.Executed started sent.length execution := by
  refine ⟨by rw [same, sqls, List.take_left], by rw [same], ?_, cleanup, fun left =>
    .inl (completed left)⟩
  intro index from_
  rw [same]
  constructor
  · intro less
    omega
  · rintro ⟨-, clear, -⟩
    exact absurd (clear _ (Nat.le_refl _) from_) seen

/-- An exit after the next statement, which has not succeeded. -/
theorem Executed.failed {sent rest : List String} {sql : String} {execution : Execution}
    (sqls : task.sqls = sent ++ sql :: rest) (same : execution.sent = sent ++ [sql])
    (cleanup : execution.unregistered = task.cleanupIntermediateChannels)
    (clear : task.Clear started sent.length) (wrong : ¬task.Answered sent.length)
    (completed : execution.store.statusOf task.taskId = some .completed →
      (task.storeBefore started sent.length).statusOf task.taskId = some .completed) :
    task.Executed started sent.length execution := by
  have length : execution.sent.length = sent.length + 1 := by rw [same]; simp
  have prefix_ : task.sqls = (sent ++ [sql]) ++ rest := by rw [sqls]; simp
  refine ⟨?_, by omega, ?_, cleanup, fun left => .inl (completed left)⟩
  · rw [same]
    rw [prefix_, List.take_left]
  · intro index from_
    rw [length]
    constructor
    · intro less
      obtain rfl : index = sent.length := by omega
      refine ⟨by rw [sqls]; simp, fun earlier low high => ?_, fun earlier low high => by omega⟩
      obtain rfl : earlier = sent.length := by omega
      exact clear
    · rintro ⟨-, -, answered⟩
      by_contra more
      exact wrong (answered sent.length (Nat.le_refl _) (by omega))

/-- The statement at an index succeeds, and the execution goes on. -/
theorem Executed.earlier {start : Nat} {execution : Execution}
    (later : task.Executed started (start + 1) execution) (more : start < task.sqls.length)
    (clear : task.Clear started start) (answered : task.Answered start)
    (completed : (task.storeBefore started (start + 1)).statusOf task.taskId = some .completed →
      (task.storeBefore started start).statusOf task.taskId = some .completed) :
    task.Executed started start execution := by
  refine ⟨later.whole, Nat.le_of_succ_le later.ahead, ?_, later.cleanup, fun left => ?_⟩
  · intro index low
    rcases Nat.eq_or_lt_of_le low with rfl | low
    · have sent : start < execution.sent.length := later.ahead
      refine ⟨fun _ => ⟨more, fun earlier low high => ?_, fun earlier low high => by omega⟩,
        fun _ => sent⟩
      obtain rfl : earlier = start := by omega
      exact clear
    · rw [later.reach index low]
      constructor
      · rintro ⟨less, cleared, succeeded⟩
        refine ⟨less, fun earlier from_ high => ?_, fun earlier from_ high => ?_⟩
        · rcases Nat.eq_or_lt_of_le from_ with rfl | from_
          · exact clear
          · exact cleared earlier from_ high
        · rcases Nat.eq_or_lt_of_le from_ with rfl | from_
          · exact answered
          · exact succeeded earlier from_ high
      · rintro ⟨less, cleared, succeeded⟩
        exact ⟨less, fun earlier from_ => cleared earlier (Nat.le_of_succ_le from_),
          fun earlier from_ => succeeded earlier (Nat.le_of_succ_le from_)⟩
  · rcases later.completed left with before | ⟨all, succeeded⟩
    · exact .inl (completed before)
    · refine .inr ⟨all, fun index low high => ?_⟩
      rcases Nat.eq_or_lt_of_le low with rfl | low
      · exact answered
      · exact succeeded index low high

theorem finish_sent (store : TaskStore) (newStatus : TaskStatus) (code message stage : String)
    (rows cols : Int) (target : String) (sent : List String) :
    (task.finish store newStatus code message stage rows cols target sent).sent = sent ∧
      (task.finish store newStatus code message stage rows cols target sent).unregistered =
        task.cleanupIntermediateChannels :=
  ⟨rfl, rfl⟩

/-- Only an exit that writes completed leaves it. -/
theorem finish_status {store : TaskStore} {newStatus : TaskStatus}
    {code message stage target : String} {rows cols : Int} {sent : List String}
    (other : newStatus ≠ .completed)
    (left : (task.finish store newStatus code message stage rows cols target sent).store.statusOf
      task.taskId = some .completed) : store.statusOf task.taskId = some .completed := by
  rcases TaskStore.statusOf_updateStatus rfl left with same | before
  · exact absurd same.symm other
  · exact TaskStore.statusOf_interfere before

/-- By induction on the statements that are left. -/
theorem executeFrom_executed {rest sent : List String} {result : Int × Int × String}
    (sqls : task.sqls = sent ++ rest) :
    task.Executed started sent.length
      (task.executeFrom rest (task.storeBefore started sent.length) sent result) := by
  induction rest generalizing sent result with
  | nil =>
      rw [List.append_nil] at sqls
      obtain ⟨rows, cols, target⟩ := result
      rw [executeFrom]
      refine ⟨by rw [(finish_sent ..).1, sqls, List.take_length], Nat.le_refl _, ?_, rfl,
        fun _ => .inr ⟨by rw [(finish_sent ..).1, sqls], fun index low high => ?_⟩⟩
      · intro index from_
        rw [(finish_sent ..).1, sqls]
        constructor
        · intro less
          omega
        · rintro ⟨less, -⟩
          omega
      · rw [sqls] at high
        omega
  | cons sql rest ih =>
      rw [executeFrom]
      simp only
      have length : (sent ++ [sql]).length = sent.length + 1 := by simp
      have next : (task.storeBefore started sent.length).interfere task.taskId
          (task.beforeCheck sent.length) = task.storeBefore started (sent.length + 1) := rfl
      have back {store : TaskStore} (left : store.statusOf task.taskId = some .completed)
          (same : store = task.storeBefore started (sent.length + 1)) :
          (task.storeBefore started sent.length).statusOf task.taskId = some .completed := by
        rw [same] at left
        exact TaskStore.statusOf_interfere left
      rw [next]
      cases flags : (task.storeBefore started (sent.length + 1)).queryTaskRuntimeFlags task.taskId
        (task.queried sent.length) with
      | mk terminalNow cancelRequested =>
          cases terminalNow with
          | true =>
              refine .stopped sqls rfl rfl (fun clear => ?_) fun left => ?_
              · cases flags.symm.trans clear
              · exact back (TaskStore.statusOf_interfere left) rfl
          | false =>
              cases cancelRequested with
              | true =>
                  refine .stopped sqls rfl rfl (fun clear => ?_) fun left => ?_
                  · cases flags.symm.trans clear
                  · exact back (finish_status (by decide) left) rfl
              | false =>
                  simp only [Bool.false_eq_true, if_false]
                  by_cases ok : (task.responses sent.length).rc.isOk = true
                  · rw [if_neg (by simp [ok])]
                    by_cases saved : (task.responses sent.length).publicationSaved = true
                    · rw [if_neg (by simp [saved])]
                      have later (result : Int × Int × String) :=
                        @ih (sent ++ [sql]) result (sqls.trans (by simp))
                      rw [length] at later
                      exact (later _).earlier (by rw [sqls]; simp) flags ⟨ok, saved⟩ fun left =>
                        back left rfl
                    · rw [if_pos (by simp [saved])]
                      refine .failed sqls rfl rfl flags (fun answered => saved answered.2)
                        fun left => back (finish_status (by decide) left) rfl
                  · rw [if_pos (by simp [ok])]
                    refine .failed sqls rfl rfl flags (fun answered => ok answered.1)
                      fun left => back (finish_status (by decide) left) rfl

end BatchTask

/-! ## The whole execution -/

namespace BatchTask

variable (task : BatchTask) (store : TaskStore)

/-- The names of the channels that statements write. -/
def names (sqls : List String) : List String :=
  ((sqls.filterMap task.destination).map dataFrameNamePart).filter (· ≠ "")

/-- The task is a batch task that is not at its end, and is set running; this is the store then. -/
def Starts (started : TaskStore) : Prop :=
  task.found = true ∧ (∃ row, store.tables.task? task.taskId = some row ∧ row.taskKind = "batch" ∧
    row.status.isTerminal = false) ∧
  task.updateStatus (store.interfere task.taskId task.beforeRunning) .running "" "" "" 0 0 ""
    task.runningOutcome = (0, started)

/-- The statement at an index is sent. -/
def Reaches (started : TaskStore) (index : Nat) : Prop :=
  (∀ earlier ≤ index, task.Clear started earlier) ∧ ∀ earlier < index, task.Answered earlier

/-- What the execution of a task is to do. -/
structure WellExecuted (execution : Execution) : Prop where
  inOrder : execution.sent <+: task.sqls
  /-- Before each statement that is sent the check saw nothing, and those before have succeeded. -/
  stopped : ∀ started, task.Starts store started → ∀ index < execution.sent.length,
    task.Clear started index ∧ ∀ earlier < index, (task.responses earlier).rc.isOk = true
  completed : store.statusOf task.taskId ≠ some .completed →
    execution.store.statusOf task.taskId = some .completed →
    execution.sent = task.sqls ∧
      ∀ index < task.sqls.length, (task.responses index).rc.isOk = true
  /-- What the statements but the last have written is removed, but for the final result. -/
  cleaned : task.registry = true → ∀ name, name ∈ execution.unregistered ↔
    name ∈ task.names (task.sqls.dropLast.take execution.sent.length) ∧
      name ∉ task.names task.sqls.getLast?.toList

/-- Each channel that a statement but the last writes is none that the last one writes, and is
written by one that is sent. -/
def Separate : Prop :=
  ∀ started, task.Starts store started → task.registry = true →
    ∀ name ∈ task.names task.sqls.dropLast,
      name ∉ task.names task.sqls.getLast?.toList ∧
        ∃ index sql, task.sqls.dropLast[index]? = some sql ∧ name ∈ task.names [sql] ∧
          task.Reaches started index

variable {task store}

theorem mem_names {sqls : List String} {name : String} :
    name ∈ task.names sqls ↔ ∃ sql ∈ sqls, name ∈ task.names [sql] := by
  unfold names
  simp only [List.mem_filter, List.mem_map, List.mem_filterMap, List.mem_singleton]
  constructor
  · rintro ⟨⟨full, ⟨sql, member, destination⟩, part⟩, named⟩
    exact ⟨sql, member, ⟨full, ⟨sql, rfl, destination⟩, part⟩, named⟩
  · rintro ⟨sql, member, ⟨full, ⟨_, rfl, destination⟩, part⟩, named⟩
    exact ⟨⟨full, ⟨_, member, destination⟩, part⟩, named⟩

theorem mem_names_take {sqls : List String} {name : String} {count : Nat} :
    name ∈ task.names (sqls.take count) ↔
      ∃ index sql, sqls[index]? = some sql ∧ name ∈ task.names [sql] ∧ index < count := by
  rw [mem_names]
  constructor
  · rintro ⟨sql, member, named⟩
    obtain ⟨index, found⟩ := List.mem_iff_getElem?.mp member
    rw [List.getElem?_take] at found
    split at found
    · rename_i less
      exact ⟨index, sql, found, named, less⟩
    · cases found
  · rintro ⟨index, sql, found, named, less⟩
    refine ⟨sql, List.mem_iff_getElem?.mpr ⟨index, ?_⟩, named⟩
    rw [List.getElem?_take, if_pos less, found]

theorem mem_cleanup (registry : task.registry = true) {name : String} :
    name ∈ task.cleanupIntermediateChannels ↔ name ∈ task.names task.sqls.dropLast := by
  unfold cleanupIntermediateChannels intermediateChannels names
  rw [if_neg (by simp [registry])]
  simp only [List.mem_filter, List.mem_map, List.mem_insertionSort, List.mem_dedup]

/-- A task that is started sends its statements; another one sends none. -/
theorem executeOneTask_cases :
    (∃ started, task.Starts store started ∧ task.sqls ≠ [] ∧
      task.executeOneTask store = task.executeFrom task.sqls started [] (0, 0, "")) ∨
    ((∀ started, task.Starts store started → task.sqls = []) ∧
      (task.executeOneTask store).sent = [] ∧ (task.executeOneTask store).unregistered = [] ∧
      ((task.executeOneTask store).store.statusOf task.taskId = some .completed →
        store.statusOf task.taskId = some .completed)) := by
  unfold executeOneTask
  split
  · rename_i missing
    exact .inr ⟨fun _ starts => by simp [starts.1] at missing, rfl, rfl, id⟩
  · rename_i found
    split
    · rename_i none_
      refine .inr ⟨fun started starts => ?_, rfl, rfl, id⟩
      obtain ⟨row, found, -⟩ := starts.2.1
      cases none_.symm.trans found
    · rename_i row found_row
      split
      · rename_i kind
        refine .inr ⟨fun started starts => ?_, rfl, rfl, id⟩
        obtain ⟨other, same, batch, -⟩ := starts.2.1
        cases found_row.symm.trans same
        exact absurd batch kind
      · rename_i kind
        split
        · rename_i terminal
          refine .inr ⟨fun started starts => ?_, rfl, rfl, id⟩
          obtain ⟨other, same, -, going⟩ := starts.2.1
          cases found_row.symm.trans same
          rw [terminal] at going
          cases going
        · rename_i going
          cases ran : task.updateStatus (store.interfere task.taskId task.beforeRunning) .running
            "" "" "" 0 0 "" task.runningOutcome with
          | mk rc started =>
              have before (left : started.statusOf task.taskId = some .completed) :
                  store.statusOf task.taskId = some .completed := by
                have written := congrArg (fun result : Int × TaskStore =>
                  result.2.statusOf task.taskId) ran
                simp only [left] at written
                rcases TaskStore.statusOf_updateStatus rfl written with wrong | before
                · cases wrong
                · exact TaskStore.statusOf_interfere before
              simp only
              split
              · rename_i lost
                refine .inr ⟨fun other starts => ?_, rfl, rfl, before⟩
                cases ran.symm.trans starts.2.2
                exact absurd rfl lost
              · rename_i same
                rw [ne_eq, not_not] at same
                subst same
                split
                · rename_i empty
                  refine .inr ⟨fun _ _ => empty, rfl, rfl, fun left => before ?_⟩
                  rcases TaskStore.statusOf_updateStatus rfl left with wrong | earlier
                  · cases wrong
                  · exact TaskStore.statusOf_interfere earlier
                · rename_i some_sqls
                  refine .inl ⟨started, ⟨by simpa using found, ⟨row, found_row, ?_, ?_⟩, ran⟩,
                    some_sqls, rfl⟩
                  · simpa using kind
                  · simpa using going

/-- A task that is started was not at its end. -/
theorem Starts.status {started : TaskStore} (starts : task.Starts store started)
    (left : started.statusOf task.taskId = some .completed) :
    store.statusOf task.taskId = some .completed := by
  have written := congrArg (fun result : Int × TaskStore => result.2.statusOf task.taskId) starts.2.2
  simp only [left] at written
  rcases TaskStore.statusOf_updateStatus rfl written with wrong | before
  · cases wrong
  · exact TaskStore.statusOf_interfere before

/-- The channels that are removed are the right ones just when they are separate. -/
theorem Executed.cleaned {started : TaskStore} {execution : Execution}
    (executed : task.Executed started 0 execution) (registry : task.registry = true) :
    (∀ name, name ∈ execution.unregistered ↔
      name ∈ task.names (task.sqls.dropLast.take execution.sent.length) ∧
        name ∉ task.names task.sqls.getLast?.toList) ↔
    ∀ name ∈ task.names task.sqls.dropLast,
      name ∉ task.names task.sqls.getLast?.toList ∧
        ∃ index sql, task.sqls.dropLast[index]? = some sql ∧ name ∈ task.names [sql] ∧
          task.Reaches started index := by
  have reaches {index : Nat} {sql : String} (found : task.sqls.dropLast[index]? = some sql) :
      index < execution.sent.length ↔ task.Reaches started index := by
    have less := (List.getElem?_eq_some_iff.mp found).1
    rw [List.length_dropLast] at less
    rw [executed.reach index (Nat.zero_le _)]
    constructor
    · rintro ⟨-, clear, answered⟩
      exact ⟨fun earlier => clear earlier (Nat.zero_le _),
        fun earlier => answered earlier (Nat.zero_le _)⟩
    · rintro ⟨clear, answered⟩
      exact ⟨by omega, fun earlier _ => clear earlier, fun earlier _ => answered earlier⟩
  rw [executed.cleanup]
  constructor
  · intro exact_ name member
    obtain ⟨written, other⟩ := (exact_ name).mp ((mem_cleanup registry).mpr member)
    obtain ⟨index, sql, found, named, less⟩ := mem_names_take.mp written
    exact ⟨other, index, sql, found, named, (reaches found).mp less⟩
  · intro separate name
    rw [mem_cleanup registry]
    constructor
    · intro member
      obtain ⟨other, index, sql, found, named, reached⟩ := separate name member
      exact ⟨mem_names_take.mpr ⟨index, sql, found, named, (reaches found).mpr reached⟩, other⟩
    · rintro ⟨written, -⟩
      obtain ⟨index, sql, found, named, -⟩ := mem_names_take.mp written
      exact mem_names.mpr ⟨sql, List.mem_of_getElem? found, named⟩

end BatchTask

/-- An execution does what it is to do just when the channels between its statements are separate. -/
theorem task_well_executed (task : BatchTask) (store : TaskStore) :
    task.WellExecuted store (task.executeOneTask store) ↔ task.Separate store := by
  rcases @BatchTask.executeOneTask_cases task store with
    ⟨started, starts, some_sqls, ran⟩ | ⟨idle, sent, unregistered, status⟩
  · have executed := @BatchTask.executeFrom_executed task started task.sqls [] (0, 0, "") rfl
    change task.Executed started 0 (task.executeFrom task.sqls started [] (0, 0, "")) at executed
    rw [← ran] at executed
    have unique {other : TaskStore} (also : task.Starts store other) : other = started := by
      cases also.2.2.symm.trans starts.2.2
      rfl
    constructor
    · intro well other also registry
      rw [unique also]
      exact (executed.cleaned registry).mp (well.cleaned registry)
    · intro separate
      refine ⟨?_, ?_, ?_, fun registry => ?_⟩
      · rw [executed.whole]
        exact List.take_prefix _ _
      · intro other also index less
        rw [unique also]
        obtain ⟨-, clear, answered⟩ := (executed.reach index (Nat.zero_le _)).mp less
        exact ⟨clear index (Nat.zero_le _) (Nat.le_refl _),
          fun earlier high => (answered earlier (Nat.zero_le _) high).1⟩
      · intro going left
        rcases executed.completed left with before | ⟨all, answered⟩
        · exact absurd (starts.status before) going
        · refine ⟨?_, fun index less => (answered index (Nat.zero_le _) less).1⟩
          rw [executed.whole, all, List.take_length]
      · exact (executed.cleaned registry).mpr (separate started starts registry)
  · constructor
    · intro _ started starts _ name member
      rw [idle started starts] at member
      cases member
    · intro _
      refine ⟨by rw [sent]; exact List.nil_prefix, ?_, fun going left => absurd (status left) going,
        fun _ name => ?_⟩
      · intro started _ index less
        rw [sent] at less
        cases less
      · rw [unregistered, sent, List.length_nil, List.take_zero]
        constructor
        · nofun
        · rintro ⟨wrong, -⟩
          cases wrong

/-- Both statements write one channel: the task completes, and its result is removed. -/
theorem shared_result_removed :
    let task : BatchTask :=
      { taskId := "t1"
        sqls := ["insert", "append"]
        parse := fun _ => some "dataframe.result"
        now := 0
        beforeCheck := fun _ => []
        queried := fun _ => true
        responses := fun _ => { rc := .ok } }
    let store : TaskStore :=
      { tables :=
          { tasks :=
              [{ taskId := "t1", requestSql := "insert", timeoutS := 0, taskKind := "batch",
                 runtimeTaskId := "", createdAt := 0, updatedAt := 0 }] } }
    (task.executeOneTask store).store.statusOf "t1" = some .completed ∧
      (task.executeOneTask store).unregistered = ["result"] ∧
      ¬task.WellExecuted store (task.executeOneTask store) := by
  intro task store
  have unregistered : (task.executeOneTask store).unregistered = ["result"] := by decide +kernel
  refine ⟨by decide +kernel, unregistered, fun well => ?_⟩
  have removed : "result" ∈ (task.executeOneTask store).unregistered := by simp [unregistered]
  have other := ((well.cleaned rfl "result").mp removed).2
  exact other (by decide +kernel)

end Flowsql.Task
