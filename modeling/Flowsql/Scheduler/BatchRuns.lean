import Flowsql.Scheduler.BatchRuntime

/-!
# Runs of the batch runtime

As long as an id is not submitted while an old entry of it is in the queue, and a sweep removes
no submission that has not ended, a submission is executed once, in order, and not after it was
stopped.
-/

namespace Flowsql.Scheduler

open Flowsql.Library

/-! ## Tasks -/

namespace WorkerPhase

/-- The submission that a worker executes. -/
def submission? : WorkerPhase → Option Nat
  | .checking submission _ | .calling submission _ | .executing submission _ => some submission
  | _ => none

/-- The statements that were started are those of the rounds so far. -/
def Fits (task : BatchRuntimeTask) : WorkerPhase → Prop
  | .checking _ index => index ≤ task.sqls.length ∧ task.started = task.sqls.take index
  | .calling _ index => index < task.sqls.length ∧ task.started = task.sqls.take index
  | .executing _ index => index < task.sqls.length ∧ task.started = task.sqls.take (index + 1)
  | _ => False

end WorkerPhase

namespace BatchRuntimeTask

/-- The worker executes the task. -/
structure ExecutedBy (task : BatchRuntimeTask) (worker : Nat) (phase : WorkerPhase) : Prop where
  taken : task.takenBy = [worker]
  status : task.snapshot.status = .running ∨ task.snapshot.status = .stopping
  unseen : task.stopSeen = false
  fits : phase.Fits task

/-- What becomes of a task: it stays the same submission, it goes on from what it has started,
and once it has ended or was stopped before it started, nothing is started any more. -/
structure BecomesTask (before after : BatchRuntimeTask) : Prop where
  runtimeTaskId : after.runtimeTaskId = before.runtimeTaskId
  sqls : after.sqls = before.sqls
  taken : before.takenBy <+: after.takenBy
  started : before.started <+: after.started
  terminal : before.snapshot.status.isTerminal = true →
    after.snapshot.status = before.snapshot.status ∧ after.takenBy = before.takenBy ∧
      after.started = before.started
  seen : before.stopSeen = true → after.stopSeen = true ∧ after.started = before.started
  stopped : before.stopRequested = true → before.takenBy = [] →
    after.stopRequested = true ∧ after.takenBy = []

variable {task : BatchRuntimeTask}

theorem BecomesTask.refl (task : BatchRuntimeTask) : task.BecomesTask task where
  runtimeTaskId := rfl
  sqls := rfl
  taken := List.prefix_rfl
  started := List.prefix_rfl
  terminal := fun _ => ⟨rfl, rfl, rfl⟩
  seen := fun seen => ⟨seen, rfl⟩
  stopped := fun stop untaken => ⟨stop, untaken⟩

theorem BecomesTask.trans {first second third : BatchRuntimeTask}
    (before : first.BecomesTask second) (after : second.BecomesTask third) :
    first.BecomesTask third where
  runtimeTaskId := after.runtimeTaskId.trans before.runtimeTaskId
  sqls := after.sqls.trans before.sqls
  taken := before.taken.trans after.taken
  started := before.started.trans after.started
  terminal := by
    intro ended
    obtain ⟨status, taken, started⟩ := before.terminal ended
    obtain ⟨statusAfter, takenAfter, startedAfter⟩ := after.terminal (status ▸ ended)
    exact ⟨statusAfter.trans status, takenAfter.trans taken, startedAfter.trans started⟩
  seen := by
    intro seen
    obtain ⟨seenBetween, started⟩ := before.seen seen
    obtain ⟨seenAfter, startedAfter⟩ := after.seen seenBetween
    exact ⟨seenAfter, startedAfter.trans started⟩
  stopped := by
    intro stop untaken
    obtain ⟨stopBetween, untakenBetween⟩ := before.stopped stop untaken
    exact after.stopped stopBetween untakenBetween

/-- A worker that executes a task may change its status and go on with its statements. -/
theorem ExecutedBy.becomes {worker : Nat} {phase : WorkerPhase} {after : BatchRuntimeTask}
    (executed : task.ExecutedBy worker phase)
    (runtimeTaskId : after.runtimeTaskId = task.runtimeTaskId) (sqls : after.sqls = task.sqls)
    (taken : after.takenBy = task.takenBy) (started : task.started <+: after.started) :
    task.BecomesTask after where
  runtimeTaskId := runtimeTaskId
  sqls := sqls
  taken := taken ▸ List.prefix_rfl
  started := started
  terminal := by
    intro ended
    rcases executed.status with status | status <;> simp [status, BatchRuntimeStatus.isTerminal] at ended
  seen := fun seen => absurd (executed.unseen.symm.trans seen) Bool.false_ne_true
  stopped := by
    intro _ untaken
    rw [executed.taken] at untaken
    cases untaken

/-! ### Requests to stop -/

/-- What a request to stop does to a task: nothing is started, and no end is changed. -/
structure AskedToStop (before after : BatchRuntimeTask) : Prop where
  runtimeTaskId : after.runtimeTaskId = before.runtimeTaskId
  sqls : after.sqls = before.sqls
  takenBy : after.takenBy = before.takenBy
  started : after.started = before.started
  stopSeen : after.stopSeen = before.stopSeen
  stopRequested : after.stopRequested = true
  status : before.snapshot.status.isTerminal = true ∧
      after.snapshot.status = before.snapshot.status ∨
    before.snapshot.status.isTerminal = false ∧ (after.snapshot.status = .stopping ∨
      before.snapshot.status = .pending ∧ after.snapshot.status = .cancelled)

theorem requestStop_asks (cancel : Bool) (clock : Int) (task : BatchRuntimeTask) :
    task.AskedToStop (task.requestStop cancel clock) := by
  unfold requestStop
  simp only
  split
  · next ended => exact ⟨rfl, rfl, rfl, rfl, rfl, rfl, .inl ⟨ended, rfl⟩⟩
  next going =>
    have going_ : task.snapshot.status.isTerminal = false := Bool.eq_false_iff.mpr going
    split
    · next pending =>
        exact ⟨rfl, rfl, rfl, rfl, rfl, rfl, .inr ⟨going_, .inr ⟨pending, rfl⟩⟩⟩
    · exact ⟨rfl, rfl, rfl, rfl, rfl, rfl, .inr ⟨going_, .inl rfl⟩⟩

theorem stop_asks (clock : Int) (task : BatchRuntimeTask) : task.AskedToStop (task.stop clock) := by
  unfold stop
  simp only
  split
  · next ended => exact ⟨rfl, rfl, rfl, rfl, rfl, rfl, .inl ⟨ended, rfl⟩⟩
  · next going =>
      exact ⟨rfl, rfl, rfl, rfl, rfl, rfl, .inr ⟨Bool.eq_false_iff.mpr going, .inl rfl⟩⟩

theorem AskedToStop.becomes {after : BatchRuntimeTask} (asked : task.AskedToStop after) :
    task.BecomesTask after where
  runtimeTaskId := asked.runtimeTaskId
  sqls := asked.sqls
  taken := asked.takenBy ▸ List.prefix_rfl
  started := asked.started ▸ List.prefix_rfl
  terminal := by
    intro ended
    rcases asked.status with ⟨_, same⟩ | ⟨going, _⟩
    · exact ⟨same, asked.takenBy, asked.started⟩
    · exact absurd (going.symm.trans ended) Bool.false_ne_true
  seen := fun seen => ⟨asked.stopSeen.trans seen, asked.started⟩
  stopped := fun _ untaken => ⟨asked.stopRequested, asked.takenBy.trans untaken⟩

theorem AskedToStop.executedBy {after : BatchRuntimeTask} {worker : Nat} {phase : WorkerPhase}
    (asked : task.AskedToStop after) (executed : task.ExecutedBy worker phase) :
    after.ExecutedBy worker phase where
  taken := asked.takenBy.trans executed.taken
  status := by
    rcases asked.status with ⟨ended, _⟩ | ⟨_, stopping | ⟨pending, _⟩⟩
    · rcases executed.status with status | status <;>
        simp [status, BatchRuntimeStatus.isTerminal] at ended
    · exact .inr stopping
    · rcases executed.status with status | status <;> cases status.symm.trans pending
  unseen := asked.stopSeen.trans executed.unseen
  fits := by
    have fits := executed.fits
    unfold WorkerPhase.Fits at fits ⊢
    rw [asked.sqls, asked.started]
    exact fits

/-- The section after the last round starts nothing. -/
theorem conclude_same (clock : Int) (task : BatchRuntimeTask) :
    (task.conclude clock).runtimeTaskId = task.runtimeTaskId ∧
      (task.conclude clock).sqls = task.sqls ∧ (task.conclude clock).takenBy = task.takenBy ∧
        (task.conclude clock).started = task.started := by
  unfold conclude
  simp only
  split
  · exact ⟨rfl, rfl, rfl, rfl⟩
  split
  · exact ⟨rfl, rfl, rfl, rfl⟩
  split
  · exact ⟨rfl, rfl, rfl, rfl⟩
  split
  · exact ⟨rfl, rfl, rfl, rfl⟩
  · exact ⟨rfl, rfl, rfl, rfl⟩

end BatchRuntimeTask

namespace SchedulerBatchRuntime

open BatchRuntimeTask

variable {runtime : SchedulerBatchRuntime}

/-! ## Invariants -/

/-- What holds of a task that no worker has taken. -/
structure Untaken (runtime : SchedulerBatchRuntime) (submission : Nat) (task : BatchRuntimeTask) :
    Prop where
  started : task.started = []
  seen : task.stopSeen = true → task.stopRequested = true
  status : task.snapshot.status = .pending ∧ task.stopRequested = false ∨
    task.stopRequested = true ∧
      (task.snapshot.status = .cancelled ∨ task.snapshot.status = .stopping)
  queued : task.snapshot.status.isTerminal = false →
    task.runtimeTaskId ∈ runtime.queue ∧
      runtime.table.lookup task.runtimeTaskId = some submission

/-- Every submission is taken at most once, and the entries of the queue are those of submissions
that are not taken. -/
structure Sound (runtime : SchedulerBatchRuntime) : Prop where
  nodup : runtime.queue.Nodup
  tabled : ∀ (id : String) (submission : Nat), runtime.table.lookup id = some submission →
    ∃ task : BatchRuntimeTask, runtime.submissions[submission]? = some task ∧
      task.runtimeTaskId = id
  queued : ∀ id ∈ runtime.queue, ∀ submission : Nat, runtime.table.lookup id = some submission →
    ∀ task : BatchRuntimeTask, runtime.submissions[submission]? = some task → task.takenBy = []
  once : ∀ (submission : Nat) (task : BatchRuntimeTask),
    runtime.submissions[submission]? = some task → task.takenBy.length ≤ 1
  inOrder : ∀ (submission : Nat) (task : BatchRuntimeTask),
    runtime.submissions[submission]? = some task → task.started <+: task.sqls
  untaken : ∀ (submission : Nat) (task : BatchRuntimeTask),
    runtime.submissions[submission]? = some task → task.takenBy = [] →
      runtime.Untaken submission task
  executed : ∀ (worker : Nat) (phase : WorkerPhase) (submission : Nat),
    runtime.workers[worker]? = some phase → phase.submission? = some submission →
      ∃ task : BatchRuntimeTask, runtime.submissions[submission]? = some task ∧
        task.ExecutedBy worker phase

/-- No submission is lost, and each becomes what it may. -/
def Becomes (before after : SchedulerBatchRuntime) : Prop :=
  ∀ (submission : Nat) (task : BatchRuntimeTask), before.submissions[submission]? = some task →
    ∃ later : BatchRuntimeTask, after.submissions[submission]? = some later ∧ task.BecomesTask later

theorem Becomes.of_same {after : SchedulerBatchRuntime}
    (same : after.submissions = runtime.submissions) : runtime.Becomes after :=
  fun _ task found => ⟨task, same ▸ found, .refl task⟩

theorem Becomes.trans {first second third : SchedulerBatchRuntime} (before : first.Becomes second)
    (after : second.Becomes third) : first.Becomes third := by
  intro submission task found
  obtain ⟨between, foundBetween, becomes⟩ := before submission task found
  obtain ⟨later, foundLater, becomesLater⟩ := after submission between foundBetween
  exact ⟨later, foundLater, becomes.trans becomesLater⟩

/-- Ids are submitted again only after their old entry has left the queue, and a sweep removes
only submissions that have ended. -/
def settles (runtime : SchedulerBatchRuntime) : BatchEvent × Int → Bool
  | (.submit runtimeTaskId sqls timeoutS, _) =>
      (runtime.refusal runtimeTaskId sqls timeoutS).isSome ||
        !runtime.queue.contains runtimeTaskId
  | (.erase sweep, _) =>
      (runtime.sweeps.getD sweep []).all fun id =>
        match runtime.table.lookup id with
        | none => true
        | some submission =>
            (runtime.submissions[submission]?.map (·.snapshot.status.isTerminal)).getD true
  | _ => true

theorem start_sound (workerCount : Nat) : (start workerCount).Sound where
  nodup := List.nodup_nil
  tabled := fun _ _ found => by cases found
  queued := fun _ member => absurd member List.not_mem_nil
  once := fun _ _ found => by cases found
  inOrder := fun _ _ found => by cases found
  untaken := fun _ _ found => by cases found
  executed := by
    intro worker phase submission found holds
    rw [List.eq_of_mem_replicate (List.mem_of_getElem? found)] at holds
    cases holds

/-- Each submission is changed on its own. -/
theorem Sound.of_change {after : SchedulerBatchRuntime}
    {update : Nat → BatchRuntimeTask → BatchRuntimeTask} (sound : runtime.Sound)
    (submissions : ∀ submission,
      after.submissions[submission]? = (runtime.submissions[submission]?).map (update submission))
    (table : after.table = runtime.table) (nodup : after.queue.Nodup)
    (queued : ∀ id ∈ after.queue, ∀ submission : Nat, runtime.table.lookup id = some submission →
      ∀ task : BatchRuntimeTask, runtime.submissions[submission]? = some task →
        (update submission task).takenBy = [])
    (each : ∀ (submission : Nat) (task : BatchRuntimeTask),
      runtime.submissions[submission]? = some task →
        task.BecomesTask (update submission task) ∧
          (update submission task).takenBy.length ≤ 1 ∧
          (update submission task).started <+: (update submission task).sqls ∧
          ((update submission task).takenBy = [] →
            after.Untaken submission (update submission task)))
    (executed : ∀ (worker : Nat) (phase : WorkerPhase) (submission : Nat),
      after.workers[worker]? = some phase → phase.submission? = some submission →
        ∃ task : BatchRuntimeTask, runtime.submissions[submission]? = some task ∧
          (update submission task).ExecutedBy worker phase) :
    after.Sound ∧ runtime.Becomes after := by
  have earlier : ∀ (submission : Nat) (later : BatchRuntimeTask),
      after.submissions[submission]? = some later →
        ∃ task, runtime.submissions[submission]? = some task ∧ update submission task = later := by
    intro submission later found
    rw [submissions submission] at found
    exact Option.map_eq_some_iff.mp found
  have later : ∀ (submission : Nat) (task : BatchRuntimeTask),
      runtime.submissions[submission]? = some task →
        after.submissions[submission]? = some (update submission task) := by
    intro submission task found
    rw [submissions submission, found]
    rfl
  refine ⟨⟨nodup, ?_, ?_, ?_, ?_, ?_, ?_⟩, ?_⟩
  · intro id submission found
    obtain ⟨task, there, idEq⟩ := sound.tabled id submission (table ▸ found)
    exact ⟨_, later submission task there, (each submission task there).1.runtimeTaskId.trans idEq⟩
  · intro id member submission found task there
    obtain ⟨before, thereBefore, rfl⟩ := earlier submission task there
    exact queued id member submission (table ▸ found) before thereBefore
  · intro submission task there
    obtain ⟨before, thereBefore, rfl⟩ := earlier submission task there
    exact (each submission before thereBefore).2.1
  · intro submission task there
    obtain ⟨before, thereBefore, rfl⟩ := earlier submission task there
    exact (each submission before thereBefore).2.2.1
  · intro submission task there
    obtain ⟨before, thereBefore, rfl⟩ := earlier submission task there
    exact (each submission before thereBefore).2.2.2
  · intro worker phase submission found holds
    obtain ⟨task, there, executes⟩ := executed worker phase submission found holds
    exact ⟨_, later submission task there, executes⟩
  · intro submission task there
    exact ⟨_, later submission task there, (each submission task there).1⟩

/-! ## Calls -/

/-- Some submissions are asked to stop. -/
theorem Sound.of_asked {after : SchedulerBatchRuntime}
    {update : Nat → BatchRuntimeTask → BatchRuntimeTask} (sound : runtime.Sound)
    (submissions : ∀ submission,
      after.submissions[submission]? = (runtime.submissions[submission]?).map (update submission))
    (asks : ∀ submission task,
      update submission task = task ∨ task.AskedToStop (update submission task))
    (table : after.table = runtime.table) (queue : after.queue = runtime.queue)
    (workers : after.workers = runtime.workers) : after.Sound ∧ runtime.Becomes after := by
  refine sound.of_change submissions table (queue ▸ sound.nodup) ?_ ?_ ?_
  · intro id member submission found task there
    have untaken := sound.queued id (queue ▸ member) submission found task there
    rcases asks submission task with same | asked
    · rw [same]
      exact untaken
    · exact asked.takenBy.trans untaken
  · intro submission task there
    rcases asks submission task with same | asked
    · rw [same]
      refine ⟨.refl task, sound.once submission task there, sound.inOrder submission task there, ?_⟩
      intro none_
      have untaken := sound.untaken submission task there none_
      refine ⟨untaken.started, untaken.seen, untaken.status, ?_⟩
      rw [queue, table]
      exact untaken.queued
    · refine ⟨asked.becomes, ?_, ?_, ?_⟩
      · rw [asked.takenBy]
        exact sound.once submission task there
      · rw [asked.started, asked.sqls]
        exact sound.inOrder submission task there
      · intro none_
        have untaken := sound.untaken submission task there (asked.takenBy.symm.trans none_)
        refine ⟨asked.started.trans untaken.started, fun _ => asked.stopRequested, .inr ⟨asked.stopRequested, ?_⟩, ?_⟩
        · rcases asked.status with ⟨ended, same⟩ | ⟨_, stopping | ⟨_, cancelled⟩⟩
          · rcases untaken.status with ⟨pending, _⟩ | ⟨_, status⟩
            · simp [pending, BatchRuntimeStatus.isTerminal] at ended
            · exact status.imp same.trans same.trans
          · exact .inr stopping
          · exact .inl cancelled
        · intro going
          rw [asked.runtimeTaskId, queue, table]
          apply untaken.queued
          rcases asked.status with ⟨ended, same⟩ | ⟨going_, _⟩
          · rw [same] at going
            exact going
          · exact going_
  · intro worker phase submission found holds
    obtain ⟨task, there, executes⟩ := sound.executed worker phase submission (workers ▸ found) holds
    refine ⟨task, there, ?_⟩
    rcases asks submission task with same | asked
    · rw [same]
      exact executes
    · exact asked.executedBy executes

theorem change_submissions (submission : Nat) (update : BatchRuntimeTask → BatchRuntimeTask)
    (other : Nat) :
    (runtime.change submission update).submissions[other]? =
      (runtime.submissions[other]?).map fun task =>
        if submission = other then update task else task := by
  simp [change, List.getElem?_modify]

theorem requestStop_sound (sound : runtime.Sound) (runtimeTaskId : String) (cancel : Bool)
    (clock : Int) :
    (runtime.requestStop runtimeTaskId cancel clock).Sound ∧
      runtime.Becomes (runtime.requestStop runtimeTaskId cancel clock) := by
  unfold requestStop
  split
  · exact ⟨sound, .of_same rfl⟩
  · next submission _ =>
      refine sound.of_asked (change_submissions submission _) ?_ rfl rfl rfl
      intro other task
      split
      · exact .inr (requestStop_asks cancel clock task)
      · exact .inl rfl

theorem stop_sound (sound : runtime.Sound) (clock : Int) :
    (runtime.stop clock).Sound ∧ runtime.Becomes (runtime.stop clock) := by
  unfold stop
  split
  · exact ⟨sound, .of_same rfl⟩
  · refine sound.of_asked (fun submission => List.getElem?_mapIdx) ?_ rfl rfl rfl
    intro submission task
    split
    · exact .inr (stop_asks clock task)
    · exact .inl rfl

theorem submit_sound (sound : runtime.Sound) (runtimeTaskId : String) (sqls : List String)
    (timeoutS clock : Int)
    (settles : runtime.settles (.submit runtimeTaskId sqls timeoutS, clock) = true) :
    (runtime.submit runtimeTaskId sqls timeoutS clock).Sound ∧
      runtime.Becomes (runtime.submit runtimeTaskId sqls timeoutS clock) := by
  unfold submit
  split
  · exact ⟨sound, .of_same rfl⟩
  next accepted =>
    have fresh : runtimeTaskId ∉ runtime.queue := by
      simpa [SchedulerBatchRuntime.settles, accepted] using settles
    have absent : runtime.table.lookup runtimeTaskId = none := by
      unfold refusal at accepted
      split at accepted
      · cases accepted
      split at accepted
      · cases accepted
      split at accepted
      · cases accepted
      split at accepted
      · cases accepted
      split at accepted
      · cases accepted
      · next absent => exact Option.not_isSome_iff_eq_none.mp absent
    have kept : ∀ (submission : Nat) (task : BatchRuntimeTask),
        runtime.submissions[submission]? = some task → ∀ added,
          (runtime.submissions ++ [added])[submission]? = some task := by
      intro submission task there added
      rw [List.getElem?_append_left (List.getElem?_eq_some_iff.mp there).1]
      exact there
    have split_ : ∀ (submission : Nat) (task added : BatchRuntimeTask),
        (runtime.submissions ++ [added])[submission]? = some task →
          runtime.submissions[submission]? = some task ∨
            submission = runtime.submissions.length ∧ task = added := by
      intro submission task added there
      rw [List.getElem?_append] at there
      split at there
      · exact .inl there
      · next late =>
          have first : submission - runtime.submissions.length = 0 := by
            have bound := (List.getElem?_eq_some_iff.mp there).1
            simpa using bound
          rw [first] at there
          exact .inr ⟨by omega, (Option.some.inj there).symm⟩
    have lookup : ∀ id submission,
        (runtime.table.insert runtimeTaskId runtime.submissions.length).lookup id =
            some submission →
          runtime.table.lookup id = some submission ∨
            id = runtimeTaskId ∧ submission = runtime.submissions.length := by
      intro id submission found
      by_cases same : id = runtimeTaskId
      · rw [same, AList.lookup_insert] at found
        exact .inr ⟨same, (Option.some.inj found).symm⟩
      · rw [AList.lookup_insert_ne same] at found
        exact .inl found
    refine ⟨⟨?_, ?_, ?_, ?_, ?_, ?_, ?_⟩, ?_⟩
    · exact sound.nodup.append (List.nodup_singleton _) (List.disjoint_singleton.mpr fresh)
    · intro id submission found
      rcases lookup id submission found with before | ⟨rfl, rfl⟩
      · obtain ⟨task, there, idEq⟩ := sound.tabled id submission before
        exact ⟨task, kept submission task there _, idEq⟩
      · exact ⟨_, List.getElem?_concat_length, rfl⟩
    · intro id member submission found task there
      rcases split_ submission task _ there with before | ⟨_, rfl⟩
      · rcases List.mem_append.mp member with waits | new
        · rcases lookup id submission found with tabled | ⟨rfl, _⟩
          · exact sound.queued id waits submission tabled task before
          · exact absurd waits fresh
        · rcases lookup id submission found with tabled | ⟨_, rfl⟩
          · rw [List.mem_singleton.mp new] at tabled
            cases absent.symm.trans tabled
          · exact absurd (List.getElem?_eq_some_iff.mp before).1 (Nat.lt_irrefl _)
      · rfl
    · intro submission task there
      rcases split_ submission task _ there with before | ⟨_, rfl⟩
      · exact sound.once submission task before
      · exact Nat.zero_le 1
    · intro submission task there
      rcases split_ submission task _ there with before | ⟨_, rfl⟩
      · exact sound.inOrder submission task before
      · exact List.nil_prefix
    · intro submission task there none_
      rcases split_ submission task _ there with before | ⟨rfl, rfl⟩
      · have untaken := sound.untaken submission task before none_
        refine ⟨untaken.started, untaken.seen, untaken.status, fun going => ?_⟩
        obtain ⟨waits, tabled⟩ := untaken.queued going
        have other : task.runtimeTaskId ≠ runtimeTaskId := by
          intro same
          exact fresh (same ▸ waits)
        exact ⟨List.mem_append_left _ waits, (AList.lookup_insert_ne other).trans tabled⟩
      · refine ⟨rfl, fun seen => absurd seen Bool.false_ne_true, .inl ⟨rfl, rfl⟩, fun _ => ?_⟩
        exact ⟨List.mem_append_right _ List.mem_cons_self, AList.lookup_insert _⟩
    · intro worker phase submission found holds
      obtain ⟨task, there, executes⟩ := sound.executed worker phase submission found holds
      exact ⟨task, kept submission task there _, executes⟩
    · intro submission task there
      exact ⟨task, kept submission task there _, .refl task⟩

/-! ## Sweeps -/

theorem lookup_foldl_erase (ids : List String) (table : AList fun _ : String => Nat)
    (id : String) :
    (ids.foldl (fun table id => table.erase id) table).lookup id =
      if id ∈ ids then none else table.lookup id := by
  induction ids generalizing table with
  | nil => rfl
  | cons first rest ih =>
      rw [List.foldl_cons, ih]
      by_cases same : id = first
      · subst same
        simp
      · simp [same]

theorem erase_sound (sound : runtime.Sound) (sweep : Nat) (clock : Int)
    (settles : runtime.settles (.erase sweep, clock) = true) :
    (runtime.erase sweep).Sound ∧ runtime.Becomes (runtime.erase sweep) := by
  have removed : ∀ id submission, (runtime.erase sweep).table.lookup id = some submission →
      runtime.table.lookup id = some submission := by
    intro id submission found
    rw [erase, lookup_foldl_erase] at found
    split at found
    · cases found
    · exact found
  refine ⟨⟨sound.nodup, ?_, ?_, sound.once, sound.inOrder, ?_, sound.executed⟩, .of_same rfl⟩
  · intro id submission found
    exact sound.tabled id submission (removed id submission found)
  · intro id member submission found
    exact sound.queued id member submission (removed id submission found)
  · intro submission task there none_
    have untaken := sound.untaken submission task there none_
    refine ⟨untaken.started, untaken.seen, untaken.status, fun going => ?_⟩
    obtain ⟨waits, tabled⟩ := untaken.queued going
    refine ⟨waits, ?_⟩
    rw [erase, lookup_foldl_erase]
    split
    · next member =>
        have ended := List.all_eq_true.mp settles _ member
        simp only [tabled] at ended
        rw [show runtime.submissions[submission]? = some task from there] at ended
        exact absurd (going.symm.trans ended) Bool.false_ne_true
    · exact tabled

/-! ## Workers -/

/-- A worker goes on with the task that it executes, or is done with it. -/
theorem Sound.of_executed {worker submission : Nat} {phase next : WorkerPhase}
    {task after : BatchRuntimeTask} {update : BatchRuntimeTask → BatchRuntimeTask}
    (sound : runtime.Sound) (found : runtime.workers[worker]? = some phase)
    (holds : phase.submission? = some submission)
    (there : runtime.submissions[submission]? = some task) (updated : update task = after)
    (runtimeTaskId : after.runtimeTaskId = task.runtimeTaskId) (sqls : after.sqls = task.sqls)
    (taken : after.takenBy = task.takenBy) (started : task.started <+: after.started)
    (inOrder : after.started <+: after.sqls)
    (goes : next.submission? = none ∨
      next.submission? = some submission ∧ after.ExecutedBy worker next) :
    ((runtime.change submission update).setWorker worker next).Sound ∧
      runtime.Becomes ((runtime.change submission update).setWorker worker next) := by
  obtain ⟨_, there_, executed⟩ := sound.executed worker phase submission found holds
  cases there.symm.trans there_
  have isTaken : task.takenBy ≠ [] := by
    rw [executed.taken]
    exact List.cons_ne_nil _ _
  refine sound.of_change (change_submissions submission update) rfl sound.nodup ?_ ?_ ?_
  · intro id member other tabled before thereBefore
    have untaken := sound.queued id member other tabled before thereBefore
    split
    · next same =>
        subst same
        cases there.symm.trans thereBefore
        exact absurd untaken isTaken
    · exact untaken
  · intro other before thereBefore
    split
    · next same =>
        subst same
        cases there.symm.trans thereBefore
        rw [updated]
        refine ⟨executed.becomes runtimeTaskId sqls taken started, ?_, inOrder, ?_⟩
        · rw [taken]
          exact sound.once submission task there
        · intro none_
          exact absurd (taken.symm.trans none_) isTaken
    · refine ⟨.refl before, sound.once other before thereBefore,
        sound.inOrder other before thereBefore, fun none_ => ?_⟩
      have untaken := sound.untaken other before thereBefore none_
      exact ⟨untaken.started, untaken.seen, untaken.status, untaken.queued⟩
  · intro other otherPhase held otherFound otherHolds
    have otherFound_ : (runtime.workers.set worker next)[other]? = some otherPhase := otherFound
    rw [List.getElem?_set] at otherFound_
    split at otherFound_
    · next same =>
        subst same
        split at otherFound_
        · cases otherFound_
          rcases goes with none_ | ⟨same, executes⟩
          · cases none_.symm.trans otherHolds
          · cases same.symm.trans otherHolds
            refine ⟨task, there, ?_⟩
            rw [if_pos rfl, updated]
            exact executes
        · cases otherFound_
    · next different =>
        obtain ⟨before, thereBefore, executes⟩ :=
          sound.executed other otherPhase held otherFound_ otherHolds
        refine ⟨before, thereBefore, ?_⟩
        split
        · next same =>
            subst same
            cases there.symm.trans thereBefore
            exact absurd (List.cons.inj (executed.taken.symm.trans executes.taken)).1 different
        · exact executes

/-- An entry leaves the queue whose submission has ended or is not there, or is cancelled now. -/
theorem Sound.of_popped {id : String} {rest : List String} {submission : Option Nat}
    (sound : runtime.Sound) (queue : runtime.queue = id :: rest)
    (lookup : runtime.table.lookup id = submission) (clock : Int)
    {cancels : Bool} (ended : cancels = false → ∀ other task, submission = some other →
      runtime.submissions[other]? = some task → task.snapshot.status.isTerminal = true)
    (asked : cancels = true → ∀ other task, submission = some other →
      runtime.submissions[other]? = some task → task.stopRequested = true) :
    ∀ after : SchedulerBatchRuntime, after.queue = rest → after.table = runtime.table →
      after.workers = runtime.workers →
      (∀ other, after.submissions[other]? = (runtime.submissions[other]?).map fun task =>
        if cancels = true ∧ submission = some other then task.cancel clock else task) →
      after.Sound ∧ runtime.Becomes after := by
  intro after queueAfter table workers submissions
  have distinct : id ∉ rest ∧ rest.Nodup := List.nodup_cons.mp (queue ▸ sound.nodup)
  have untakenHere : ∀ other task, submission = some other →
      runtime.submissions[other]? = some task → task.takenBy = [] := by
    intro other task is there
    exact sound.queued id (queue ▸ List.mem_cons_self) other (lookup.trans is) task there
  refine sound.of_change submissions table (queueAfter ▸ distinct.2) ?_ ?_ ?_
  · intro other member held tabled task there
    have untaken := sound.queued other
      (queue ▸ List.mem_cons_of_mem id (queueAfter ▸ member)) held tabled task there
    split <;> exact untaken
  · intro other task there
    split
    · next this =>
        have none_ := untakenHere other task this.2 there
        have untaken := sound.untaken other task there none_
        have stop := asked this.1 other task this.2 there
        refine ⟨⟨rfl, rfl, List.prefix_rfl, List.prefix_rfl, ?_, fun _ => ⟨rfl, rfl⟩,
          fun _ _ => ⟨stop, none_⟩⟩, sound.once other task there, sound.inOrder other task there,
          fun _ => ⟨untaken.started, fun _ => stop, .inr ⟨stop, .inl rfl⟩, ?_⟩⟩
        · intro terminal
          rcases untaken.status with ⟨pending, _⟩ | ⟨_, cancelled | stopping⟩
          · simp [pending, BatchRuntimeStatus.isTerminal] at terminal
          · exact ⟨cancelled.symm, rfl, rfl⟩
          · simp [stopping, BatchRuntimeStatus.isTerminal] at terminal
        · intro going
          cases going
    · next others =>
        refine ⟨.refl task, sound.once other task there, sound.inOrder other task there,
          fun none_ => ?_⟩
        have untaken := sound.untaken other task there none_
        refine ⟨untaken.started, untaken.seen, untaken.status, fun going => ?_⟩
        obtain ⟨waits, tabled⟩ := untaken.queued going
        rw [queueAfter, table]
        refine ⟨?_, tabled⟩
        rw [queue] at waits
        rcases List.mem_cons.mp waits with same | later
        · rw [same] at tabled
          have is := lookup.symm.trans tabled
          cases cancels with
          | false => exact absurd (going.symm.trans (ended rfl other task is there)) Bool.false_ne_true
          | true => exact absurd ⟨rfl, is⟩ others
        · exact later
  · intro worker phase held found holds
    obtain ⟨task, there, executes⟩ := sound.executed worker phase held (workers ▸ found) holds
    refine ⟨task, there, ?_⟩
    split
    · next this =>
        have none_ := untakenHere held task this.2 there
        rw [executes.taken] at none_
        cases none_
    · exact executes

/-- A worker takes a submission, which nobody has taken before. -/
theorem take_sound {id : String} {rest : List String} {worker submission : Nat}
    {task : BatchRuntimeTask} (sound : runtime.Sound) (clock : Int)
    (queue : runtime.queue = id :: rest)
    (lookup : runtime.table.lookup id = some submission)
    (there : runtime.submissions[submission]? = some task)
    (going : ¬ task.snapshot.status.isTerminal = true) (unasked : ¬ task.stopRequested = true) :
    ((({ runtime with queue := rest } : SchedulerBatchRuntime).change submission
      (·.take worker clock)).setWorker worker (.checking submission 0)).Sound ∧
    runtime.Becomes ((({ runtime with queue := rest } : SchedulerBatchRuntime).change submission
      (·.take worker clock)).setWorker worker (.checking submission 0)) := by
  have distinct : id ∉ rest ∧ rest.Nodup := List.nodup_cons.mp (queue ▸ sound.nodup)
  have none_ : task.takenBy = [] :=
    sound.queued id (queue ▸ List.mem_cons_self) submission lookup task there
  have untaken := sound.untaken submission task there none_
  obtain ⟨_, there_, idEq⟩ := sound.tabled id submission lookup
  cases there.symm.trans there_
  refine sound.of_change (change_submissions submission _) rfl distinct.2 ?_ ?_ ?_
  · intro other member held tabled before thereBefore
    have waits := sound.queued other (queue ▸ List.mem_cons_of_mem id member) held tabled before
      thereBefore
    split
    · next same =>
        -- The entry of a submission carries its own id.
        subst same
        obtain ⟨_, thereAgain, idAgain⟩ := sound.tabled other submission tabled
        cases there.symm.trans thereAgain
        exact absurd (idEq.symm.trans idAgain ▸ member) distinct.1
    · exact waits
  · intro other before thereBefore
    split
    · next same =>
        subst same
        cases there.symm.trans thereBefore
        refine ⟨⟨rfl, rfl, ?_, List.prefix_rfl, fun ended => absurd ended going,
          fun seen => ⟨seen, rfl⟩, fun stop => absurd stop unasked⟩, ?_,
          sound.inOrder submission task there, ?_⟩
        · exact List.prefix_append _ _
        · simp [BatchRuntimeTask.take, none_]
        · intro taken
          simp [BatchRuntimeTask.take] at taken
    · next different =>
        refine ⟨.refl before, sound.once other before thereBefore,
          sound.inOrder other before thereBefore, fun noneBefore => ?_⟩
        have waits := sound.untaken other before thereBefore noneBefore
        refine ⟨waits.started, waits.seen, waits.status, fun goes => ?_⟩
        obtain ⟨member, tabled⟩ := waits.queued goes
        refine ⟨?_, tabled⟩
        rw [queue] at member
        rcases List.mem_cons.mp member with same | later
        · rw [same] at tabled
          exact absurd (Option.some.inj (lookup.symm.trans tabled)) different
        · exact later
  · intro other phase held otherFound holds
    have otherFound_ : (runtime.workers.set worker (.checking submission 0))[other]? = some phase :=
      otherFound
    rw [List.getElem?_set] at otherFound_
    split at otherFound_
    · next same =>
        subst same
        split at otherFound_
        · cases otherFound_
          cases holds
          refine ⟨task, there, ?_⟩
          rw [if_pos rfl]
          refine ⟨?_, .inl rfl, ?_, Nat.zero_le _, untaken.started⟩
          · simp [BatchRuntimeTask.take, none_]
          · exact Bool.eq_false_iff.mpr fun seen => unasked (untaken.seen seen)
        · cases otherFound_
    · obtain ⟨before, thereBefore, executes⟩ :=
        sound.executed other phase held otherFound_ holds
      refine ⟨before, thereBefore, ?_⟩
      split
      · next same =>
          subst same
          cases there.symm.trans thereBefore
          rw [executes.taken] at none_
          cases none_
      · exact executes

theorem takeId_sound (sound : runtime.Sound) (worker : Nat) (clock : Int) :
    (runtime.takeId worker clock).Sound ∧ runtime.Becomes (runtime.takeId worker clock) := by
  unfold takeId
  split
  · split
    · exact ⟨sound, .of_same rfl⟩
    · refine ⟨⟨sound.nodup, sound.tabled, sound.queued, sound.once, sound.inOrder, ?_, ?_⟩,
        .of_same rfl⟩
      · intro submission task there none_
        have untaken := sound.untaken submission task there none_
        exact ⟨untaken.started, untaken.seen, untaken.status, untaken.queued⟩
      · intro other phase submission otherFound holds
        rw [setWorker, List.getElem?_set] at otherFound
        split at otherFound
        · split at otherFound
          · cases otherFound
            cases holds
          · cases otherFound
        · exact sound.executed other phase submission otherFound holds
  next id rest queue =>
    split
    · next absent =>
        refine @Sound.of_popped _ id rest none sound queue absent clock false ?_ ?_ _ rfl rfl rfl ?_
        · exact fun _ _ _ is => by cases is
        · exact fun _ _ _ is => by cases is
        · intro other
          simp
    next submission lookup =>
      obtain ⟨task, there, idEq⟩ := sound.tabled id submission lookup
      rw [there]
      simp only
      split
      · next ended =>
          refine @Sound.of_popped _ id rest (some submission) sound queue lookup clock false ?_ ?_
            _ rfl rfl rfl ?_
          · intro _ other found is there_
            cases is
            cases there.symm.trans there_
            exact ended
          · exact fun cancels => absurd cancels Bool.false_ne_true
          · intro other
            simp
      next going =>
        split
        · next stop =>
            refine @Sound.of_popped _ id rest (some submission) sound queue lookup clock true ?_ ?_
              _ rfl rfl rfl ?_
            · exact fun cancels => absurd cancels.symm Bool.false_ne_true
            · intro _ other found is there_
              cases is
              cases there.symm.trans there_
              exact stop
            · intro other
              rw [change_submissions]
              simp
        · next unasked =>
            exact take_sound sound clock queue lookup there going unasked

theorem change_change (submission : Nat) (first second : BatchRuntimeTask → BatchRuntimeTask) :
    (runtime.change submission first).change submission second =
      runtime.change submission (second ∘ first) := by
  simp [change, List.modify_modify_eq]

theorem goOn_sound (sound : runtime.Sound) (worker : Nat) (response : ExecuteResponse)
    (clock : Int) :
    (runtime.goOn worker response clock).Sound ∧
      runtime.Becomes (runtime.goOn worker response clock) := by
  unfold goOn
  split
  · exact takeId_sound sound worker clock
  · next submission index found =>
      obtain ⟨task, there, executed⟩ := sound.executed worker _ submission found rfl
      obtain ⟨bound, started⟩ := executed.fits
      have inOrder := sound.inOrder submission task there
      unfold checkRound
      rw [there]
      simp only
      split
      next inside =>
        split
        · exact sound.of_executed found rfl there rfl rfl rfl rfl List.prefix_rfl inOrder (.inl rfl)
        split
        · exact sound.of_executed found rfl there rfl rfl rfl rfl List.prefix_rfl inOrder (.inl rfl)
        · refine sound.of_executed found rfl there rfl rfl rfl rfl List.prefix_rfl inOrder
            (.inr ⟨rfl, ?_⟩)
          exact ⟨executed.taken, executed.status, executed.unseen, inside, started⟩
      · obtain ⟨runtimeTaskId, sqls, taken, same⟩ := conclude_same clock task
        refine sound.of_executed found rfl there rfl runtimeTaskId sqls taken
          (same ▸ List.prefix_rfl) ?_ (.inl rfl)
        rw [same, sqls]
        exact inOrder
  · next submission index found =>
      obtain ⟨task, there, executed⟩ := sound.executed worker _ submission found rfl
      obtain ⟨bound, started⟩ := executed.fits
      have extends_ : task.started ++ task.sqls[index]?.toList = task.sqls.take (index + 1) := by
        rw [started, List.take_add_one]
      refine sound.of_executed found rfl there rfl rfl rfl rfl (List.prefix_append _ _) ?_
        (.inr ⟨rfl, ?_⟩)
      · simp only [extends_]
        exact List.take_prefix _ _
      · exact ⟨executed.taken, executed.status, executed.unseen, bound, extends_⟩
  · next submission index found =>
      obtain ⟨task, there, executed⟩ := sound.executed worker _ submission found rfl
      obtain ⟨bound, started⟩ := executed.fits
      have inOrder := sound.inOrder submission task there
      unfold endRound
      rw [there]
      simp only [change_change]
      split
      · exact sound.of_executed found rfl there rfl rfl rfl rfl List.prefix_rfl inOrder (.inl rfl)
      split
      · exact sound.of_executed found rfl there rfl rfl rfl rfl List.prefix_rfl inOrder (.inl rfl)
      split
      · exact sound.of_executed found rfl there rfl rfl rfl rfl List.prefix_rfl inOrder (.inl rfl)
      · refine sound.of_executed found rfl there rfl rfl rfl rfl List.prefix_rfl inOrder
          (.inr ⟨rfl, ?_⟩)
        exact ⟨executed.taken, executed.status, executed.unseen, bound, started⟩
  · exact ⟨sound, .of_same rfl⟩

/-! ## Runs -/

theorem step_sound (sound : runtime.Sound) (event : BatchEvent × Int)
    (settles : runtime.settles event = true) :
    (runtime.step event).Sound ∧ runtime.Becomes (runtime.step event) := by
  obtain ⟨event, clock⟩ := event
  cases event with
  | submit runtimeTaskId sqls timeoutS =>
      exact submit_sound sound runtimeTaskId sqls timeoutS clock settles
  | requestStop runtimeTaskId cancel => exact requestStop_sound sound runtimeTaskId cancel clock
  | stop => exact stop_sound sound clock
  | sweep nowMs retentionS maxCount =>
      refine ⟨⟨sound.nodup, sound.tabled, sound.queued, sound.once, sound.inOrder, ?_,
        sound.executed⟩, .of_same rfl⟩
      intro submission task there none_
      have untaken := sound.untaken submission task there none_
      exact ⟨untaken.started, untaken.seen, untaken.status, untaken.queued⟩
  | erase sweep => exact erase_sound sound sweep clock settles
  | goOn worker response => exact goOn_sound sound worker response clock

theorem run_sound (sound : runtime.Sound) {events : List (BatchEvent × Int)}
    (guarded : Guarded step (fun runtime event => runtime.settles event = true) runtime events) :
    (runtime.run events).Sound ∧ runtime.Becomes (runtime.run events) := by
  induction events generalizing runtime with
  | nil => exact ⟨sound, .of_same rfl⟩
  | cons event rest ih =>
      obtain ⟨soundAfter, becomes⟩ := step_sound sound event guarded.1
      obtain ⟨soundLater, becomesLater⟩ := ih soundAfter guarded.2
      exact ⟨soundLater, becomes.trans becomesLater⟩

/-- What a submission has come to in a later state of a run. -/
structure RunsOnce (later : SchedulerBatchRuntime) (submission : Nat)
    (task becomes : BatchRuntimeTask) : Prop where
  same : becomes.runtimeTaskId = task.runtimeTaskId ∧ becomes.sqls = task.sqls
  /-- At most one worker executes it, and at most once. -/
  once : becomes.takenBy.length ≤ 1
  inOrder : becomes.started <+: becomes.sqls
  goesOn : task.started <+: becomes.started
  /-- Nothing is started after a worker has seen the request to stop. -/
  seen : task.stopSeen = true → becomes.started = task.started
  terminal : task.snapshot.status.isTerminal = true →
    becomes.snapshot.status = task.snapshot.status
  /-- A submission that is stopped before it starts is never executed, and it is cancelled, at the
  latest when its entry is taken from the queue. -/
  stopped : task.stopRequested = true → task.takenBy = [] →
    becomes.takenBy = [] ∧ becomes.started = [] ∧
      (becomes.snapshot.status = .cancelled ∨
        becomes.snapshot.status = .stopping ∧ becomes.runtimeTaskId ∈ later.queue ∧
          later.table.lookup becomes.runtimeTaskId = some submission)

/-- Every accepted submission is executed once, as long as no id is submitted while an entry of it
is in the queue, and no sweep removes a submission that has not ended. -/
theorem submissions_run_once (workerCount : Nat) (events after : List (BatchEvent × Int))
    (settled : Guarded step (fun runtime event => runtime.settles event = true)
      (start workerCount) (events ++ after)) :
    ∀ (submission : Nat) (task : BatchRuntimeTask),
      ((start workerCount).run events).submissions[submission]? = some task →
        ∃ becomes : BatchRuntimeTask,
          ((start workerCount).run (events ++ after)).submissions[submission]? = some becomes ∧
            RunsOnce ((start workerCount).run (events ++ after)) submission task becomes := by
  intro submission task there
  obtain ⟨before, rest⟩ := guarded_append.mp settled
  have soundBefore := (run_sound (start_sound workerCount) before).1
  obtain ⟨sound, becomes⟩ := run_sound soundBefore rest
  have joined : ((start workerCount).run events).run after =
      (start workerCount).run (events ++ after) := List.foldl_append.symm
  rw [joined] at sound becomes
  obtain ⟨later, thereLater, follows⟩ := becomes submission task there
  refine ⟨later, thereLater, ⟨follows.runtimeTaskId, follows.sqls⟩,
    sound.once submission later thereLater, sound.inOrder submission later thereLater,
    follows.started, fun seen => (follows.seen seen).2, fun ended => (follows.terminal ended).1, ?_⟩
  intro stop none_
  obtain ⟨stopLater, noneLater⟩ := follows.stopped stop none_
  have untaken := sound.untaken submission later thereLater noneLater
  refine ⟨noneLater, untaken.started, ?_⟩
  rcases untaken.status with ⟨_, unasked⟩ | ⟨_, cancelled | stopping⟩
  · exact absurd (unasked.symm.trans stopLater) Bool.false_ne_true
  · exact .inl cancelled
  · refine .inr ⟨stopping, untaken.queued ?_⟩
    rw [stopping]
    rfl

/-- A statement that is executed without an error. -/
def executedWell : ExecuteResponse := { rc := 0 }

/-- A submission of two statements is executed, and stopped after the first one. -/
def stoppedRun : List (BatchEvent × Int) :=
  [(.submit "job" ["first", "second"] 0, 1), (.goOn 0 executedWell, 2), (.goOn 0 executedWell, 3),
   (.goOn 0 executedWell, 4), (.requestStop "job" false, 5), (.goOn 0 executedWell, 6),
   (.goOn 0 executedWell, 7), (.sweep 0 0 0, 8), (.erase 0, 9), (.submit "job" ["third"] 0, 10)]

theorem submissions_run_once_stopped :
    ∃ becomes : BatchRuntimeTask,
      ((start 2).run (stoppedRun ++ [(.goOn 1 executedWell, 11)])).submissions[0]? = some becomes ∧
        RunsOnce ((start 2).run (stoppedRun ++ [(.goOn 1 executedWell, 11)])) 0
          ((((start 2).run stoppedRun).submissions[0]?).get (by decide +kernel)) becomes :=
  submissions_run_once 2 stoppedRun [(.goOn 1 executedWell, 11)] (by decide +kernel) 0 _
    (Option.some_get _).symm

/-- A submission is stopped and swept while its entry is in the queue, and its id is submitted
again. -/
def twiceRun : List (BatchEvent × Int) :=
  [(.submit "job" ["first", "second"] 0, 1), (.requestStop "job" false, 2), (.sweep 0 0 0, 3),
   (.erase 0, 4), (.submit "job" ["first", "second"] 0, 5), (.goOn 0 executedWell, 6),
   (.goOn 0 executedWell, 7), (.goOn 0 executedWell, 8), (.goOn 1 executedWell, 9),
   (.goOn 1 executedWell, 10), (.goOn 1 executedWell, 11)]

/-- Both workers are in their first statement. The submission is stopped, and the first worker
sees it. -/
def twiceStoppedRun : List (BatchEvent × Int) :=
  twiceRun ++ [(.requestStop "job" false, 12), (.goOn 0 executedWell, 13),
    (.goOn 0 executedWell, 14)]

/-- Two workers execute one submission, and its terminal status changes. -/
theorem submission_taken_twice :
    (((start 2).run twiceRun).submissions[1]?.map fun task => (task.takenBy, task.started)) =
      some ([0, 1], ["first", "first"]) ∧
    (((start 2).run twiceStoppedRun).submissions[1]?.map (·.snapshot.status)) = some .cancelled ∧
    (((start 2).run (twiceStoppedRun ++ [(.goOn 1 { rc := 5 }, 15)])).submissions[1]?.map
      (·.snapshot.status)) = some .failed := by
  decide +kernel

end SchedulerBatchRuntime

end Flowsql.Scheduler
