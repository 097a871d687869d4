import Flowsql.Scheduler.RuntimeShards

/-!
# Runs of the stream runtime

Whatever the workers, the timer thread and the callers of `TrySchedule` do, one thread steps a
shard at a time, a finished shard is not stepped again and is reported once, and a shard that
has been scheduled is never forgotten.
-/

namespace Flowsql.Scheduler

open Flowsql.Library

attribute [local simp] ThreadPoint.holds

/-- The thread has the shard between the ready queue and its state. -/
def ThreadPoint.Carries {Shard : Type} (point : ThreadPoint Shard) (shard : Shard) : Prop :=
  point = .claiming shard ∨ point = .pushing shard

/-- The thread is the worker of the shard, until it stores the state after `Step`. -/
def ThreadPoint.Runs {Shard : Type} (point : ThreadPoint Shard) (shard : Shard) : Prop :=
  point = .stepping shard ∨ (∃ result, point = .exchanging shard result) ∨
    point = .storingDone shard

/-- The thread is in `TrySchedule` for the shard. -/
def ThreadPoint.Schedules {Shard : Type} (point : ThreadPoint Shard) (shard : Shard) : Prop :=
  point = .loading shard ∨ ∃ loaded, point = .exchangingFrom shard loaded

/-- The thread is about to make a timer entry, or has just taken one. -/
def ThreadPoint.Wakes {Shard : Type} (point : ThreadPoint Shard) (shard : Shard) : Prop :=
  point = .delaying shard ∨ point = .firing shard

theorem ThreadPoint.holds_queue {Shard : Type} {point : ThreadPoint Shard} {shard : Shard} :
    point.holds = some (.queue, shard) ↔ point.Carries shard := by
  cases point <;> simp [ThreadPoint.Carries]

theorem ThreadPoint.holds_reschedule {Shard : Type} {point : ThreadPoint Shard} {shard : Shard} :
    point.holds = some (.reschedule, shard) ↔ point.Schedules shard := by
  cases point <;> simp [ThreadPoint.Schedules]

theorem ThreadPoint.holds_wake {Shard : Type} {point : ThreadPoint Shard} {shard : Shard} :
    point.holds = some (.wake, shard) ↔ point.Wakes shard := by
  cases point <;> simp [ThreadPoint.Wakes]

theorem ThreadPoint.holds_wait {Shard : Type} {point : ThreadPoint Shard} {shard : Shard} :
    point.holds = some (.wait, shard) ↔ point = .waiting shard := by
  cases point <;> simp

theorem ThreadPoint.holds_finish {Shard : Type} {point : ThreadPoint Shard} {shard : Shard} :
    point.holds = some (.finish, shard) ↔ point = .storingDone shard := by
  cases point <;> simp

theorem ThreadPoint.holds_mark {Shard : Type} {point : ThreadPoint Shard} {shard : Shard} :
    point.holds = some (.mark, shard) ↔ point = .markingDone shard := by
  cases point <;> simp

theorem ThreadPoint.runs_of_holds {Shard : Type} {point : ThreadPoint Shard} {shard : Shard}
    (holds : point.holds = some (.run, shard) ∨ point.holds = some (.finish, shard)) :
    point.Runs shard := by
  cases point <;> simp at holds <;> simp [ThreadPoint.Runs, holds]

namespace RuntimeState

variable {Thread Shard : Type} [DecidableEq Thread] [DecidableEq Shard]
  {role : Thread → Role} {state : RuntimeState Thread Shard}

/-- What is promised of a shard at every moment of a run. -/
structure Alive (state : RuntimeState Thread Shard) (shard : Shard) : Prop where
  /-- One worker executes its `Step` at a time. -/
  alone : ∀ first second, state.threads first = .stepping shard →
    state.threads second = .stepping shard → first = second
  /-- It is not stepped again after `kStepDone`. -/
  unrepeated : state.finished shard → ∀ thread, state.threads thread ≠ .stepping shard
  /-- It is reported once, and only when it is finished. -/
  reportedOnce : state.doneCalls shard ≤ 1 ∧ (0 < state.doneCalls shard → state.finished shard)
  reported : state.finished shard → state.doneCalls shard = 1 ∨
    ∃ thread, state.threads thread = .storingDone shard ∨
      state.threads thread = .markingDone shard
  /-- It is in the ready queue once, or one thread takes it there or from there. -/
  queued : state.execState shard = .queued →
    (state.readyQueue.count shard = 1 ∧ ∀ thread, ¬ (state.threads thread).Carries shard) ∨
      (shard ∉ state.readyQueue ∧ ∃! thread, (state.threads thread).Carries shard)
  unqueued : state.execState shard ≠ .queued → shard ∉ state.readyQueue
  /-- Once it has been scheduled, somebody looks after it. -/
  idle : state.scheduled shard → state.execState shard = .idle →
    ∃ thread, (state.threads thread).Schedules shard ∨ state.threads thread = .waiting shard
  running : state.execState shard = .running ∨ state.execState shard = .runningPending →
    ∃ thread, (state.threads thread).Runs shard
  waitingRetry : state.execState shard = .waitingRetry →
    (∃ entry ∈ state.timerQueue, entry.shard = shard) ∨
      ∃ thread, (state.threads thread).Wakes shard
  finishedState : state.execState shard = .done → state.finished shard
  /-- A `TrySchedule` that no `Step` has followed yet is not forgotten. -/
  owing : state.owed shard → state.execState shard ≠ .running ∧
    (state.execState shard = .idle ∨ state.execState shard = .waitingRetry →
      ∃ thread, (state.threads thread).Schedules shard)

variable {shard : Shard}

omit [DecidableEq Thread] in
theorem timers_pos (positive : 0 < state.timers shard) :
    ∃ entry ∈ state.timerQueue, entry.shard = shard :=
  List.mem_map.mp (List.count_pos_iff.mp positive)

section

variable [Fintype Thread]

omit [DecidableEq Thread] in
theorem exists_of_held {hold : Hold} (positive : 0 < state.held shard hold) :
    ∃ thread, (state.threads thread).holds = some (hold, shard) :=
  exists_of_tally_pos positive

/-- The books of a shard say who looks after it. -/
theorem ShardSound.alive (holds : state.ShardSound shard) : state.Alive shard where
  alone := by
    intro first second left right
    have one := holds.running
    refine @eq_of_tally_le_one _ _ _ _ _ ThreadPoint.holds state.threads (.run, shard) _ first second
      ?_ (by rw [left]; rfl) (by rw [right]; rfl)
    change state.held shard .run ≤ 1
    split_ifs at one <;> omega
  unrepeated := by
    intro finished thread stepping
    have run : 0 < state.held shard .run := tally_pos thread (by rw [stepping]; rfl)
    have finishing := holds.finishing
    have running := holds.running
    have current := holds.exec_of_run (by omega)
    rw [if_pos current] at running
    have notDone : state.execState shard ≠ .done := by
      intro done
      rw [done] at current
      simp at current
    rw [if_pos finished, if_neg notDone] at finishing
    omega
  reportedOnce := by
    have marked := holds.marked
    have finishing := holds.finishing
    constructor
    · split_ifs at marked <;> omega
    · intro called
      by_contra unfinished
      rw [if_neg unfinished] at finishing
      split_ifs at marked finishing
      omega
  reported := by
    intro finished
    have marked := holds.marked
    have finishing := holds.finishing
    rw [if_pos finished] at finishing
    by_cases done : state.execState shard = .done
    · rw [if_pos done] at marked
      by_cases called : state.doneCalls shard = 1
      · exact Or.inl called
      · obtain ⟨thread, marking⟩ := exists_of_held (show 0 < state.held shard .mark by omega)
        exact Or.inr ⟨thread, Or.inr (ThreadPoint.holds_mark.mp marking)⟩
    · rw [if_neg done] at finishing
      obtain ⟨thread, storing⟩ := exists_of_held (show 0 < state.held shard .finish by omega)
      exact Or.inr ⟨thread, Or.inl (ThreadPoint.holds_finish.mp storing)⟩
  queued := by
    intro queued
    have one := holds.queued
    rw [if_pos queued] at one
    by_cases carried : 0 < state.held shard .queue
    · obtain ⟨thread, carries⟩ := exists_of_held carried
      refine Or.inr ⟨List.count_eq_zero.mp (by omega), thread, ThreadPoint.holds_queue.mp carries,
        fun other also => ?_⟩
      exact eq_of_tally_le_one (show state.held shard .queue ≤ 1 by omega)
        (ThreadPoint.holds_queue.mpr also) carries
    · refine Or.inl ⟨by omega, fun thread carries => carried ?_⟩
      exact tally_pos thread (ThreadPoint.holds_queue.mpr carries)
  unqueued := by
    intro other
    have none := holds.queued
    rw [if_neg other] at none
    exact List.count_eq_zero.mp (by omega)
  idle := by
    intro scheduled idle
    have kept := holds.idle idle scheduled
    by_cases schedules : 0 < state.held shard .reschedule
    · obtain ⟨thread, schedules⟩ := exists_of_held schedules
      exact ⟨thread, Or.inl (ThreadPoint.holds_reschedule.mp schedules)⟩
    · obtain ⟨thread, waits⟩ := exists_of_held (show 0 < state.held shard .wait by omega)
      exact ⟨thread, Or.inr (ThreadPoint.holds_wait.mp waits)⟩
  running := by
    intro current
    have one := holds.running
    rw [if_pos current] at one
    by_cases runs : 0 < state.held shard .run
    · obtain ⟨thread, runs⟩ := exists_of_held runs
      exact ⟨thread, ThreadPoint.runs_of_holds (Or.inl runs)⟩
    · obtain ⟨thread, stores⟩ := exists_of_held (show 0 < state.held shard .finish by omega)
      exact ⟨thread, ThreadPoint.runs_of_holds (Or.inr stores)⟩
  waitingRetry := by
    intro waiting
    have kept := holds.waiting waiting
    by_cases entries : 0 < state.timers shard
    · exact Or.inl (timers_pos entries)
    · obtain ⟨thread, wakes⟩ := exists_of_held (show 0 < state.held shard .wake by omega)
      exact Or.inr ⟨thread, ThreadPoint.holds_wake.mp wakes⟩
  finishedState := by
    intro done
    have finishing := holds.finishing
    rw [if_pos done] at finishing
    by_contra unfinished
    rw [if_neg unfinished] at finishing
    omega
  owing := by
    intro owed
    obtain ⟨notRunning, scheduler⟩ := holds.wanted owed
    refine ⟨notRunning, fun resting => ?_⟩
    obtain ⟨thread, schedules⟩ := exists_of_held (scheduler resting)
    exact ⟨thread, ThreadPoint.holds_reschedule.mp schedules⟩

/-- The books are balanced after every run. -/
theorem run_sound (events : List (Thread × ThreadAnswer Shard)) : (run role events).Sound := by
  induction events using List.reverseRecOn with
  | nil => exact started_sound
  | append_singleton events event holds =>
      unfold run at holds ⊢
      rw [List.foldl_append]
      exact holds.step event.2

end

/-! ## Steps that go on -/

omit [DecidableEq Shard] in
theorem enter_kept (thread : Thread) (answer : ThreadAnswer Shard) :
    (state.enter role thread answer).finished = state.finished ∧
      (state.enter role thread answer).owed = state.owed := by
  unfold enter goes
  split
  · split <;> exact ⟨rfl, rfl⟩
  · split
    · exact ⟨rfl, rfl⟩
    · split <;> exact ⟨rfl, rfl⟩
  · exact ⟨rfl, rfl⟩

theorem loads_finished (thread : Thread) (shard : Shard) :
    (state.loads thread shard).finished = state.finished := by
  unfold loads
  split <;> rfl

theorem exchanges_finished (thread : Thread) (shard : Shard) (loaded : ShardExecState)
    (spurious : Bool) :
    (state.exchanges thread shard loaded spurious).finished = state.finished := by
  unfold exchanges
  split
  · split <;> rfl
  · rfl

/-- A shard stays finished. -/
theorem finished_step (thread : Thread) (answer : ThreadAnswer Shard)
    (finished : state.finished shard) : (state.step role thread answer).finished shard := by
  cases point : state.threads thread with
  | outside =>
      simp only [step, point, enter_kept]
      exact finished
  | loading other =>
      simp only [step, point, loads_finished]
      exact finished
  | exchangingFrom other loaded =>
      simp only [step, point, exchanges_finished]
      exact finished
  | stepping other =>
      simp only [step, point]
      split
      · by_cases same : shard = other
        · subst same
          exact Function.update_self ..
        · exact (Function.update_of_ne same ..).trans finished
      · exact finished
  | claiming other | waiting other | firing other =>
      simp only [step, point]
      split <;> exact finished
  | storingDone other | markingDone other | delaying other | pushing other =>
      simp only [step, point]
      exact finished
  | exchanging other result =>
      simp only [step, point]
      exact finished

omit [DecidableEq Thread] in
theorem owing_of_owed (other : Shard) (owed : state.owed shard) : (state.owing other).owed shard := by
  by_cases same : shard = other
  · subst same
    exact Function.update_self ..
  · exact (Function.update_of_ne same ..).trans owed

/-- A `TrySchedule` is remembered until a `Step` begins. -/
theorem owed_step (thread : Thread) (answer : ThreadAnswer Shard) (owed : state.owed shard) :
    (state.step role thread answer).owed shard ∨
      state.threads thread = .claiming shard ∧
        (state.step role thread answer).threads thread = .stepping shard := by
  cases point : state.threads thread with
  | outside =>
      simp only [step, point, enter_kept]
      exact Or.inl owed
  | loading other =>
      simp only [step, point, loads]
      split
      · exact Or.inl owed
      · exact Or.inl (owing_of_owed other owed)
      · exact Or.inl (owing_of_owed other owed)
      · exact Or.inl owed
  | exchangingFrom other loaded =>
      simp only [step, point, exchanges]
      split
      · split <;> exact Or.inl (owing_of_owed other owed)
      · exact Or.inl owed
  | claiming other =>
      simp only [step, point]
      split
      · by_cases same : shard = other
        · subst same
          exact Or.inr ⟨rfl, Function.update_self ..⟩
        · exact Or.inl ((Function.update_of_ne same ..).trans owed)
      · exact Or.inl owed
  | stepping other | waiting other | firing other =>
      simp only [step, point]
      split <;> exact Or.inl owed
  | storingDone other | markingDone other | delaying other | pushing other =>
      simp only [step, point]
      exact Or.inl owed
  | exchanging other result =>
      simp only [step, point]
      exact Or.inl owed

/-- A `TrySchedule` of a shard that is not done is remembered when it ends. -/
theorem owed_of_scheduled (thread : Thread) (answer : ThreadAnswer Shard)
    (schedules : (state.threads thread).Schedules shard)
    (ended : ¬ ((state.step role thread answer).threads thread).Schedules shard) :
    state.execState shard = .done ∨ (state.step role thread answer).owed shard := by
  rcases schedules with point | ⟨loaded, point⟩
  · simp only [step, point, loads] at ended ⊢
    split
    · next done => exact Or.inl done
    · exact Or.inr (Function.update_self ..)
    · exact Or.inr (Function.update_self ..)
    · next notDone notQueued notPending =>
        refine absurd (Or.inr ⟨state.execState shard, ?_⟩) ended
        split
        · next done => exact absurd done notDone
        · next queued => exact absurd queued notQueued
        · next pending => exact absurd pending notPending
        · exact Function.update_self ..
  · simp only [step, point, exchanges] at ended ⊢
    split
    · split <;> exact Or.inr (Function.update_self ..)
    · next failed =>
        rw [if_neg failed] at ended
        exact absurd (Or.inl (Function.update_self ..)) ended

/-! ## Whole runs -/

/-- A `Step` of the shard begins while the run goes on after these events. -/
def Begins (role : Thread → Role) (events more : List (Thread × ThreadAnswer Shard))
    (shard : Shard) : Prop :=
  ∃ front event rest, more = front ++ event :: rest ∧
    (run role (events ++ front)).threads event.1 = .claiming shard ∧
      (run role (events ++ front ++ [event])).threads event.1 = .stepping shard

/-- No thread has anything in hand, and no worker will be given the shard. -/
def Resting (state : RuntimeState Thread Shard) (shard : Shard) : Prop :=
  (∀ thread, state.threads thread = .outside) ∧ shard ∉ state.readyQueue

theorem run_append_singleton (events : List (Thread × ThreadAnswer Shard))
    (event : Thread × ThreadAnswer Shard) :
    run role (events ++ [event]) = (run role events).step role event.1 event.2 :=
  List.foldl_append ..

theorem finished_append {events : List (Thread × ThreadAnswer Shard)}
    (finished : (run role events).finished shard) (more : List (Thread × ThreadAnswer Shard)) :
    (run role (events ++ more)).finished shard := by
  induction more using List.reverseRecOn with
  | nil => rwa [List.append_nil]
  | append_singleton more event holds =>
      rw [← List.append_assoc, run_append_singleton]
      exact finished_step event.1 event.2 holds

theorem owed_append {events : List (Thread × ThreadAnswer Shard)}
    (owed : (run role events).owed shard) (more : List (Thread × ThreadAnswer Shard)) :
    (run role (events ++ more)).owed shard ∨ Begins role events more shard := by
  induction more using List.reverseRecOn with
  | nil =>
      rw [List.append_nil]
      exact Or.inl owed
  | append_singleton more event holds =>
      rcases holds with holds | ⟨front, begun, rest, rfl, claimed, stepped⟩
      · rw [← List.append_assoc, run_append_singleton]
        refine (owed_step event.1 event.2 holds).imp_right fun begins => ?_
        refine ⟨more, event, [], rfl, begins.1, ?_⟩
        rw [run_append_singleton]
        exact begins.2
      · exact Or.inr ⟨front, begun, rest ++ [event], by simp, claimed, stepped⟩

omit [DecidableEq Thread] in
/-- A shard that is at rest has nothing left to do. -/
theorem Alive.done_of_resting (holds : state.Alive shard) (resting : state.Resting shard)
    (owed : state.owed shard) : state.execState shard = .done := by
  obtain ⟨outside, notReady⟩ := resting
  obtain ⟨notRunning, scheduler⟩ := holds.owing owed
  have noScheduler : ¬ ∃ thread, (state.threads thread).Schedules shard := by
    rintro ⟨thread, schedules⟩
    rw [outside] at schedules
    rcases schedules with loading | ⟨loaded, exchanging⟩
    · exact absurd loading (by simp)
    · exact absurd exchanging (by simp)
  cases current : state.execState shard with
  | idle => exact absurd (scheduler (Or.inl current)) noScheduler
  | waitingRetry => exact absurd (scheduler (Or.inr current)) noScheduler
  | running => exact absurd current notRunning
  | done => rfl
  | queued =>
      rcases holds.queued current with ⟨once, -⟩ | ⟨-, thread, carries, -⟩
      · exact absurd (List.count_pos_iff.mp (by omega)) notReady
      · simp [outside, ThreadPoint.Carries] at carries
  | runningPending =>
      obtain ⟨thread, runs⟩ := holds.running (Or.inr current)
      simp [outside, ThreadPoint.Runs] at runs

/-- What holds of every shard in every run of the runtime: it is stepped by one worker at a
time and looked after by somebody, it stays finished, and a `TrySchedule` that ends before the
shard is done is followed by a `Step`, unless the shard is finished first. -/
theorem shards_kept_alive [Fintype Thread] (role : Thread → Role)
    (events more : List (Thread × ThreadAnswer Shard)) (shard : Shard) :
    (run role events).Alive shard ∧
      ((run role events).finished shard → (run role (events ++ more)).finished shard) ∧
      (∀ event, ((run role events).threads event.1).Schedules shard →
        ¬ ((run role (events ++ [event])).threads event.1).Schedules shard →
        (run role events).execState shard = .done ∨
          (run role (events ++ [event])).owed shard) ∧
      ((run role events).owed shard → (run role (events ++ more)).Resting shard →
        (run role (events ++ more)).execState shard = .done ∨ Begins role events more shard) := by
  refine ⟨((run_sound events).shards shard).alive, fun finished => finished_append finished more,
    fun event schedules ended => ?_, fun owed resting => ?_⟩
  · rw [run_append_singleton] at ended ⊢
    exact owed_of_scheduled event.1 event.2 schedules ended
  · refine (owed_append owed more).imp_left fun owed => ?_
    exact ((run_sound (events ++ more)).shards shard).alive.done_of_resting resting owed

/-- A caller that has exchanged the state has not pushed the shard yet. -/
theorem queued_before_push :
    let answer : ThreadAnswer Unit := ⟨0, .yield, false, ()⟩
    let state := run (fun _ : Unit => Role.caller) [((), answer), ((), answer), ((), answer)]
    state.execState () = .queued ∧ state.readyQueue.count () = 0 := by
  decide

end RuntimeState

end Flowsql.Scheduler
