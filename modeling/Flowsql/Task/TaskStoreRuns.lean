import Flowsql.Library.KeyedRows
import Flowsql.Task.TaskStore

/-!
# Runs of the task store

As long as every event is inserted and no rollback fails, the events of a task lead from `pending`
to its status, a terminal task keeps its outcome, and a task goes away with all of its rows or not
at all.
-/

namespace Flowsql.Task

open Flowsql.Library

/-! ## Chains of events -/

/-- The events lead from one status to another. -/
def Chained : TaskStatus → List TaskEvent → TaskStatus → Prop
  | first, [], last => first = last
  | first, event :: rest, last => event.fromStatus = some first ∧ Chained event.toStatus rest last

theorem Chained.snoc {first middle : TaskStatus} {events : List TaskEvent} {event : TaskEvent}
    (chained : Chained first events middle) (next : event.fromStatus = some middle) :
    Chained first (events ++ [event]) event.toStatus := by
  induction events generalizing first with
  | nil =>
      cases chained
      exact ⟨next, rfl⟩
  | cons head rest ih => exact ⟨chained.1, ih chained.2⟩

namespace Tables

variable {tables : Tables} {taskId other : String}

def eventsOf (self : Tables) (taskId : String) : List TaskEvent :=
  self.events.filter (·.taskId = taskId)

/-- All rows of one task. -/
def rowsOf (self : Tables) (taskId : String) : Tables where
  tasks := self.tasks.filter (·.taskId = taskId)
  payloads := self.payloads.filter (·.taskId = taskId)
  events := self.eventsOf taskId
  diagnostics := self.diagnostics.filter (·.taskId = taskId)
  summaries := self.summaries.filter (·.taskId = taskId)

/-- What holds between operations. -/
structure Consistent (tables : Tables) : Prop where
  unique : (tables.tasks.map TaskRow.taskId).Nodup
  named : ∀ row ∈ tables.tasks, row.taskId.isEmpty = false
  chained : ∀ row ∈ tables.tasks, Chained .pending (tables.eventsOf row.taskId) row.status
  owned : ∀ event ∈ tables.events, ∃ row ∈ tables.tasks, row.taskId = event.taskId

theorem task?_eq_some {row : TaskRow} (found : tables.task? taskId = some row) :
    row ∈ tables.tasks ∧ row.taskId = taskId :=
  ⟨List.mem_of_find?_eq_some found, by simpa using List.find?_some found⟩

namespace Consistent

variable {row later : TaskRow}

/-- The task of an id. -/
theorem eq_of_taskId (consistent : tables.Consistent) (left : row ∈ tables.tasks)
    (right : later ∈ tables.tasks) (same : later.taskId = row.taskId) : later = row :=
  List.inj_on_of_nodup_map consistent.unique right left same

end Consistent

/-! ## Updates of the rows of `tasks` -/

/-- An update that leaves the ids alone. -/
theorem mem_updateTasks {selects : TaskRow → Bool} {change : TaskRow → TaskRow} {row : TaskRow} :
    row ∈ (tables.updateTasks selects change).tasks ↔
      ∃ before ∈ tables.tasks, (if selects before then change before else before) = row :=
  List.mem_map

theorem updateTasks_taskIds {selects : TaskRow → Bool} {change : TaskRow → TaskRow}
    (keeps : ∀ row, (change row).taskId = row.taskId) :
    (tables.updateTasks selects change).tasks.map TaskRow.taskId =
      tables.tasks.map TaskRow.taskId := by
  simp only [updateTasks, List.map_map]
  refine List.map_congr_left fun row _ => ?_
  rw [Function.comp_apply]
  split
  · exact keeps row
  · rfl

theorem Consistent.updateTasks (consistent : tables.Consistent) (selects : TaskRow → Bool)
    (change : TaskRow → TaskRow) (keeps : ∀ row, (change row).taskId = row.taskId)
    (added : List TaskEvent)
    (owned : ∀ event ∈ added, ∃ row ∈ tables.tasks, row.taskId = event.taskId)
    (chained : ∀ row ∈ tables.tasks, Chained .pending
      (tables.eventsOf row.taskId ++ added.filter (·.taskId = row.taskId))
      (if selects row then change row else row).status) :
    Consistent { tables.updateTasks selects change with events := tables.events ++ added } := by
  have taskId_eq : ∀ row, (if selects row then change row else row).taskId = row.taskId := by
    intro row
    split
    · exact keeps row
    · rfl
  constructor
  · rw [updateTasks_taskIds keeps]
    exact consistent.unique
  · intro row member
    obtain ⟨before, inside, rfl⟩ := mem_updateTasks.mp member
    rw [taskId_eq]
    exact consistent.named before inside
  · intro row member
    obtain ⟨before, inside, rfl⟩ := mem_updateTasks.mp member
    rw [taskId_eq, eventsOf, List.filter_append]
    exact chained before inside
  · intro event member
    have origin : ∃ row ∈ tables.tasks, row.taskId = event.taskId := by
      rcases List.mem_append.mp member with old | new
      · exact consistent.owned event old
      · exact owned event new
    obtain ⟨row, inside, same⟩ := origin
    exact ⟨_, mem_updateTasks.mpr ⟨row, inside, rfl⟩, (taskId_eq row).trans same⟩

/-- An update that leaves the status alone. -/
theorem Consistent.updateTasks_status (consistent : tables.Consistent)
    (selects : TaskRow → Bool) {change : TaskRow → TaskRow}
    (keeps : ∀ row, (change row).taskId = row.taskId)
    (status : ∀ row, (change row).status = row.status) :
    (tables.updateTasks selects change).Consistent := by
  have updated := consistent.updateTasks selects change keeps []
    (fun event member => absurd member List.not_mem_nil) ?_
  · simp only [List.append_nil] at updated
    exact updated
  · intro row inside
    rw [List.filter_nil, List.append_nil]
    have same : (if selects row then change row else row).status = row.status := by
      split
      · exact status row
      · rfl
    rw [same]
    exact consistent.chained row inside

/-! ## New tasks -/

theorem Consistent.insert (consistent : tables.Consistent) {row : TaskRow} {payload : SqlPayload}
    (named : row.taskId.isEmpty = false) (pending : row.status = .pending)
    (fresh : ∀ other ∈ tables.tasks, other.taskId ≠ row.taskId) :
    Consistent { tables with
      tasks := tables.tasks ++ [row], payloads := tables.payloads ++ [payload] } := by
  constructor
  · rw [List.map_append, List.map_singleton, List.nodup_append_comm]
    refine List.nodup_cons.mpr ⟨fun inside => ?_, consistent.unique⟩
    obtain ⟨other, member, same⟩ := List.mem_map.mp inside
    exact fresh other member same
  · intro other member
    rcases List.mem_append.mp member with old | new
    · exact consistent.named other old
    · rw [List.mem_singleton.mp new]
      exact named
  · intro other member
    rcases List.mem_append.mp member with old | new
    · exact consistent.chained other old
    · rw [List.mem_singleton.mp new, pending]
      have none_ : tables.eventsOf row.taskId = [] := by
        refine List.filter_eq_nil_iff.mpr fun event inside => ?_
        obtain ⟨owner, present, same⟩ := consistent.owned event inside
        rw [← same]
        simpa using fresh owner present
      change Chained .pending (tables.eventsOf row.taskId) .pending
      rw [none_]
      rfl
  · intro event member
    obtain ⟨owner, present, same⟩ := consistent.owned event member
    exact ⟨owner, List.mem_append_left _ present, same⟩

/-! ## Removal -/

/-- The tables without the rows of a task. -/
def remove (self : Tables) (taskId : String) : Tables where
  tasks := self.tasks.filter (·.taskId ≠ taskId)
  payloads := self.payloads.filter (·.taskId ≠ taskId)
  events := self.events.filter (·.taskId ≠ taskId)
  diagnostics := self.diagnostics.filter (·.taskId ≠ taskId)
  summaries := self.summaries.filter (·.taskId ≠ taskId)

theorem filter_ne_filter_eq {Row : Type*} {rows : List Row} {keyOf : Row → String}
    {taskId other : String} :
    (rows.filter (keyOf · ≠ taskId)).filter (keyOf · = other) =
      if other = taskId then [] else rows.filter (keyOf · = other) := by
  rw [List.filter_filter]
  split
  next same =>
    refine List.filter_eq_nil_iff.mpr fun row _ => ?_
    simp [same]
  next different =>
    refine List.filter_congr fun row _ => ?_
    by_cases equal : keyOf row = other
    · simp [equal, different]
    · simp [equal]

theorem rowsOf_remove : (tables.remove taskId).rowsOf other =
    if other = taskId then {} else tables.rowsOf other := by
  unfold remove rowsOf eventsOf
  simp only [filter_ne_filter_eq]
  split <;> rfl

theorem Consistent.remove (consistent : tables.Consistent) (taskId : String) :
    (tables.remove taskId).Consistent := by
  constructor
  · exact consistent.unique.sublist (List.filter_sublist.map _)
  · exact fun row member => consistent.named row (List.mem_of_mem_filter member)
  · intro row member
    obtain ⟨inside, different⟩ := List.mem_filter.mp member
    have rows := congrArg Tables.events (@rowsOf_remove tables taskId row.taskId)
    rw [if_neg (by simpa using different)] at rows
    change Chained .pending ((tables.remove taskId).rowsOf row.taskId).events row.status
    rw [rows]
    exact consistent.chained row inside
  · intro event member
    obtain ⟨inside, different⟩ := List.mem_filter.mp member
    obtain ⟨owner, present, same⟩ := consistent.owned event inside
    exact ⟨owner, List.mem_filter.mpr ⟨present, by rwa [same]⟩, same⟩

end Tables

/-! ## What an operation keeps -/

namespace TaskRow

/-- What a terminal task keeps. -/
def outcome (row : TaskRow) : TaskStatus × (String × String × String) × (Int × Int × String) ×
    Option Int :=
  (row.status, (row.errorCode, row.errorMessage, row.errorStage),
    (row.resultRowCount, row.resultColCount, row.resultTarget), row.finishedAt)

end TaskRow

namespace Tables

variable {before after : Tables}

/-- Terminal tasks that are still there keep their outcome. -/
def KeepsOutcomes (before after : Tables) : Prop :=
  ∀ row ∈ before.tasks, row.status.isTerminal = true → ∀ later ∈ after.tasks,
    later.taskId = row.taskId → later.outcome = row.outcome

/-- No task goes away. -/
def KeepsTasks (before after : Tables) : Prop :=
  ∀ row ∈ before.tasks, ∃ later ∈ after.tasks, later.taskId = row.taskId

/-- The rows of each task are left alone, or they are all removed and the task was terminal and is
one of these. -/
def RemovesWhole (taskIds : List String) (before after : Tables) : Prop :=
  ∀ taskId, after.rowsOf taskId = before.rowsOf taskId ∨
    (taskId ∈ taskIds ∧ (∃ row ∈ before.tasks, row.taskId = taskId ∧
      row.status.isTerminal = true) ∧ after.rowsOf taskId = {})

theorem mem_of_rowsOf_eq {row : TaskRow} (same : after.rowsOf row.taskId = before.rowsOf row.taskId)
    (member : row ∈ after.tasks) : row ∈ before.tasks := by
  have inside : row ∈ (after.rowsOf row.taskId).tasks :=
    List.mem_filter.mpr ⟨member, by simp⟩
  rw [same] at inside
  exact List.mem_of_mem_filter inside

theorem not_mem_of_rowsOf_eq_empty {row : TaskRow} (none_ : after.rowsOf row.taskId = {}) :
    row ∉ after.tasks := by
  intro member
  have inside : row ∈ (after.rowsOf row.taskId).tasks :=
    List.mem_filter.mpr ⟨member, by simp⟩
  rw [none_] at inside
  exact absurd inside List.not_mem_nil

theorem RemovesWhole.refl {taskIds : List String} : RemovesWhole taskIds before before :=
  fun _ => .inl rfl

theorem RemovesWhole.trans {taskId : String} {rest : List String} {middle : Tables}
    (first : RemovesWhole [taskId] before middle) (second : RemovesWhole rest middle after) :
    RemovesWhole (taskId :: rest) before after := by
  intro other
  rcases second other with same | ⟨inside, ⟨row, member, rowId, terminal⟩, gone⟩
  · rcases first other with unchanged | ⟨inside, terminal, gone⟩
    · exact .inl (same.trans unchanged)
    · exact .inr ⟨List.mem_cons.mpr (.inl (List.mem_singleton.mp inside)), terminal,
        same.trans gone⟩
  · rcases first other with unchanged | ⟨-, -, goneBefore⟩
    · refine .inr ⟨List.mem_cons_of_mem _ inside, ⟨row, ?_, rowId, terminal⟩, gone⟩
      exact mem_of_rowsOf_eq (rowId.symm ▸ unchanged) member
    · exact absurd member (not_mem_of_rowsOf_eq_empty (rowId.symm ▸ goneBefore))

theorem RemovesWhole.keepsOutcomes {taskIds : List String} (consistent : before.Consistent)
    (removes : RemovesWhole taskIds before after) : KeepsOutcomes before after := by
  intro row member _ later laterMember same
  rcases removes later.taskId with unchanged | ⟨-, -, gone⟩
  · have inside := mem_of_rowsOf_eq unchanged laterMember
    rw [consistent.eq_of_taskId member inside same]
  · exact absurd laterMember (not_mem_of_rowsOf_eq_empty gone)

theorem remove_removesWhole {row : TaskRow} (member : row ∈ before.tasks)
    (terminal : row.status.isTerminal = true) :
    RemovesWhole [row.taskId] before (before.remove row.taskId) := by
  intro other
  rw [rowsOf_remove]
  split
  next same => exact .inr ⟨List.mem_singleton.mpr same, ⟨row, member, same.symm, terminal⟩, rfl⟩
  next => exact .inl rfl

theorem updateTasks_keepsOutcomes (consistent : before.Consistent) (selects : TaskRow → Bool)
    (change : TaskRow → TaskRow) (keeps : ∀ row, (change row).taskId = row.taskId)
    (harmless : ∀ row, selects row = true → row.status.isTerminal = true →
      (change row).outcome = row.outcome)
    (tasks : after.tasks = (before.updateTasks selects change).tasks) :
    KeepsOutcomes before after := by
  intro row member terminal later laterMember same
  rw [tasks] at laterMember
  obtain ⟨origin, inside, rfl⟩ := mem_updateTasks.mp laterMember
  have originEq : origin = row := by
    refine consistent.eq_of_taskId member inside ?_
    rw [← same]
    split
    · exact (keeps origin).symm
    · rfl
  subst originEq
  split
  next selected => exact harmless origin selected terminal
  next => rfl

theorem updateTasks_keepsTasks (selects : TaskRow → Bool) (change : TaskRow → TaskRow)
    (keeps : ∀ row, (change row).taskId = row.taskId)
    (tasks : after.tasks = (before.updateTasks selects change).tasks) :
    KeepsTasks before after := by
  intro row member
  rw [tasks]
  refine ⟨_, mem_updateTasks.mpr ⟨row, member, rfl⟩, ?_⟩
  split
  · exact keeps row
  · rfl

end Tables

end Flowsql.Task
