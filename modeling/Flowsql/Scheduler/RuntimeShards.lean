import Flowsql.Scheduler.StreamRuntime
import Mathlib

/-!
# The life of a shard in the runtime

What the threads, the two queues and the state of a shard have to do with each other. Every
step of a thread changes the books of one shard only, and keeps them balanced.
-/

namespace Flowsql.Scheduler

open Flowsql.Library

/-- What a thread has in hand for the shard that it holds. -/
inductive Hold where
  /-- The shard is queued, but in the hands of the thread. -/
  | queue
  | run
  /-- The last step has been made. -/
  | finish
  | mark
  /-- The thread makes or takes a timer entry. -/
  | wake
  | reschedule
  | wait
  deriving DecidableEq

/-- What a thread knows at its point. -/
def ThreadPoint.Proper {Shard : Type} : ThreadPoint Shard → Prop
  | .exchanging _ result => result ≠ .done
  | .exchangingFrom _ loaded => loaded = .idle ∨ loaded = .waitingRetry ∨ loaded = .running
  | _ => True

def ThreadPoint.holds {Shard : Type} : ThreadPoint Shard → Option (Hold × Shard)
  | .outside => none
  | .claiming shard => some (.queue, shard)
  | .stepping shard => some (.run, shard)
  | .storingDone shard => some (.finish, shard)
  | .markingDone shard => some (.mark, shard)
  | .exchanging shard _ => some (.run, shard)
  | .waiting shard => some (.wait, shard)
  | .delaying shard => some (.wake, shard)
  | .firing shard => some (.wake, shard)
  | .loading shard => some (.reschedule, shard)
  | .exchangingFrom shard _ => some (.reschedule, shard)
  | .pushing shard => some (.queue, shard)

/-! ## The books of one shard -/

/-- The state of a shard, its entries in the queues, and the threads that hold it. -/
structure Balanced (exec : ShardExecState) (ready timers calls : Nat)
    (finished scheduled owed : Bool) (held : Hold → Nat) : Prop where
  /-- A queued shard is in the ready queue or on its way into or out of it. -/
  queued : ready + held .queue = if exec = .queued then 1 else 0
  /-- One worker runs it. -/
  running : held .run + held .finish =
    if exec = .running ∨ exec = .runningPending then 1 else 0
  finishing : (held .finish + if exec = .done then 1 else 0) = if finished then 1 else 0
  marked : calls + held .mark = if exec = .done then 1 else 0
  waiting : exec = .waitingRetry → 0 < timers + held .wake
  idle : exec = .idle → scheduled → 0 < held .reschedule + held .wait
  wanted : owed → exec ≠ .running ∧
    (exec = .idle ∨ exec = .waitingRetry → 0 < held .reschedule)
  known : exec ≠ .idle ∨ 0 < held .wait → scheduled

/-- A thread puts down one thing and takes another. -/
def Moves (held next : Hold → Nat) (before after : Option Hold) : Prop :=
  ∀ hold, (next hold + if before = some hold then 1 else 0) =
    held hold + if after = some hold then 1 else 0

namespace Balanced

attribute [local grind cases] Balanced

variable {exec : ShardExecState} {ready timers calls : Nat} {finished scheduled owed : Bool}
  {held next : Hold → Nat}

/-- All counts after a move. -/
theorem counts {before after : Option Hold} (moves : Moves held next before after) :
    ((next .queue + if before = some .queue then 1 else 0) =
      held .queue + if after = some .queue then 1 else 0) ∧
    ((next .run + if before = some .run then 1 else 0) =
      held .run + if after = some .run then 1 else 0) ∧
    ((next .finish + if before = some .finish then 1 else 0) =
      held .finish + if after = some .finish then 1 else 0) ∧
    ((next .mark + if before = some .mark then 1 else 0) =
      held .mark + if after = some .mark then 1 else 0) ∧
    ((next .wake + if before = some .wake then 1 else 0) =
      held .wake + if after = some .wake then 1 else 0) ∧
    ((next .reschedule + if before = some .reschedule then 1 else 0) =
      held .reschedule + if after = some .reschedule then 1 else 0) ∧
    ((next .wait + if before = some .wait then 1 else 0) =
      held .wait + if after = some .wait then 1 else 0) :=
  ⟨moves _, moves _, moves _, moves _, moves _, moves _, moves _⟩

/-- The arithmetic of one step: the counts after the move, and the books before it. -/
theorem pop (holds : Balanced exec (ready + 1) timers calls finished scheduled owed held)
    (moves : Moves held next none (some .queue)) :
    Balanced exec ready timers calls finished scheduled owed next := by
  have moved := by simpa using counts moves
  constructor <;> grind

theorem popDue (holds : Balanced exec ready (timers + 1) calls finished scheduled owed held)
    (moves : Moves held next none (some .wake)) :
    Balanced exec ready timers calls finished scheduled owed next := by
  have moved := by simpa using counts moves
  constructor <;> grind

theorem enter (holds : Balanced exec ready timers calls finished scheduled owed held)
    (moves : Moves held next none (some .reschedule)) :
    Balanced exec ready timers calls finished scheduled owed next := by
  have moved := by simpa using counts moves
  constructor <;> grind

theorem claim (holds : Balanced .queued ready timers calls finished scheduled owed held)
    (moves : Moves held next (some .queue) (some .run)) :
    Balanced .running ready timers calls finished scheduled false next := by
  have moved := by simpa using counts moves
  constructor <;> grind

/-- A shard in the hands of a worker is queued. -/
theorem exec_of_queue (holds : Balanced exec ready timers calls finished scheduled owed held)
    (here : 0 < held .queue) : exec = .queued := by
  by_contra other
  have queued := holds.queued
  rw [if_neg other] at queued
  omega

theorem exec_of_run (holds : Balanced exec ready timers calls finished scheduled owed held)
    (here : 0 < held .run + held .finish) : exec = .running ∨ exec = .runningPending := by
  by_contra other
  have running := holds.running
  rw [if_neg other] at running
  omega

theorem finishStep (holds : Balanced exec ready timers calls finished scheduled owed held)
    (moves : Moves held next (some .run) (some .finish)) :
    Balanced exec ready timers calls true scheduled owed next := by
  have moved := by simpa using counts moves
  have state := holds.exec_of_run (by omega)
  constructor <;> grind

theorem storeDone (holds : Balanced exec ready timers calls finished scheduled owed held)
    (moves : Moves held next (some .finish) (some .mark)) :
    Balanced .done ready timers calls finished scheduled owed next := by
  have moved := by simpa using counts moves
  have state := holds.exec_of_run (by omega)
  constructor <;> grind

theorem markDone (holds : Balanced exec ready timers calls finished scheduled owed held)
    (moves : Moves held next (some .mark) none) :
    Balanced exec ready timers (calls + 1) finished scheduled owed next := by
  have moved := by simpa using counts moves
  constructor <;> grind

/-- After a step the worker schedules the shard again, -/
theorem yield (holds : Balanced exec ready timers calls finished scheduled owed held)
    (moves : Moves held next (some .run) (some .reschedule)) :
    Balanced .idle ready timers calls finished scheduled owed next := by
  have moved := by simpa using counts moves
  have state := holds.exec_of_run (by omega)
  constructor <;> grind

/-- or lets it wait, if nobody has scheduled it meanwhile. -/
theorem retryLater (holds : Balanced exec ready timers calls finished scheduled owed held)
    (alone : exec ≠ .runningPending) (moves : Moves held next (some .run) (some .wait)) :
    Balanced .idle ready timers calls finished scheduled owed next := by
  have moved := by simpa using counts moves
  have state := holds.exec_of_run (by omega)
  constructor <;> grind

theorem wait (holds : Balanced .idle ready timers calls finished scheduled owed held)
    (moves : Moves held next (some .wait) (some .wake)) :
    Balanced .waitingRetry ready timers calls finished scheduled owed next := by
  have moved := by simpa using counts moves
  constructor <;> grind

theorem stopWaiting (holds : Balanced exec ready timers calls finished scheduled owed held)
    (busy : exec ≠ .idle) (moves : Moves held next (some .wait) none) :
    Balanced exec ready timers calls finished scheduled owed next := by
  have moved := by simpa using counts moves
  constructor <;> grind

theorem delay (holds : Balanced exec ready timers calls finished scheduled owed held)
    (moves : Moves held next (some .wake) none) :
    Balanced exec ready (timers + 1) calls finished scheduled owed next := by
  have moved := by simpa using counts moves
  constructor <;> grind

theorem fire (holds : Balanced .waitingRetry ready timers calls finished scheduled owed held)
    (moves : Moves held next (some .wake) (some .reschedule)) :
    Balanced .idle ready timers calls finished scheduled owed next := by
  have moved := by simpa using counts moves
  constructor <;> grind

theorem stopFiring (holds : Balanced exec ready timers calls finished scheduled owed held)
    (other : exec ≠ .waitingRetry) (moves : Moves held next (some .wake) none) :
    Balanced exec ready timers calls finished scheduled owed next := by
  have moved := by simpa using counts moves
  constructor <;> grind

/-- `TrySchedule` has nothing to do. -/
theorem leave (holds : Balanced exec ready timers calls finished scheduled owed held)
    (state : exec = .done ∨ exec = .queued ∨ exec = .runningPending) {owed' : Bool}
    (moves : Moves held next (some .reschedule) none) :
    Balanced exec ready timers calls finished scheduled owed' next := by
  have moved := by simpa using counts moves
  constructor <;> grind

theorem schedulePending (holds : Balanced .running ready timers calls finished scheduled owed held)
    (moves : Moves held next (some .reschedule) none) :
    Balanced .runningPending ready timers calls finished scheduled true next := by
  have moved := by simpa using counts moves
  constructor <;> grind

theorem schedule (holds : Balanced exec ready timers calls finished scheduled owed held)
    (state : exec = .idle ∨ exec = .waitingRetry)
    (moves : Moves held next (some .reschedule) (some .queue)) :
    Balanced .queued ready timers calls finished true true next := by
  have moved := by simpa using counts moves
  constructor <;> grind

theorem push (holds : Balanced exec ready timers calls finished scheduled owed held)
    (moves : Moves held next (some .queue) none) :
    Balanced exec (ready + 1) timers calls finished scheduled owed next := by
  have moved := by simpa using counts moves
  constructor <;> grind

/-- The thread goes on with what it has in hand. -/
theorem keep {hold : Option Hold}
    (holds : Balanced exec ready timers calls finished scheduled owed held)
    (moves : Moves held next hold hold) :
    Balanced exec ready timers calls finished scheduled owed next := by
  have same : next = held := by
    funext other
    exact Nat.add_right_cancel (moves other)
  rw [same]
  exact holds

theorem started : Balanced .idle 0 0 0 false false false fun _ => 0 := by
  constructor <;> simp

end Balanced

/-! ## The runtime -/

namespace RuntimeState

variable {Thread Shard : Type} [DecidableEq Thread] [DecidableEq Shard] [Fintype Thread]
  {role : Thread → Role} {state : RuntimeState Thread Shard} {thread : Thread}

/-- How many threads hold the shard, by what they have in hand. -/
def held (state : RuntimeState Thread Shard) (shard : Shard) (hold : Hold) : Nat :=
  tally ThreadPoint.holds state.threads (hold, shard)

def timers (state : RuntimeState Thread Shard) (shard : Shard) : Nat :=
  (state.timerQueue.map TimerEntry.shard).count shard

def ShardSound (state : RuntimeState Thread Shard) (shard : Shard) : Prop :=
  Balanced (state.execState shard) (state.readyQueue.count shard) (state.timers shard)
    (state.doneCalls shard) (state.finished shard) (state.scheduled shard) (state.owed shard)
    (state.held shard)

/-- The books of a shard that the step does not concern. -/
structure SameBooks (state next : RuntimeState Thread Shard) (shard : Shard) : Prop where
  exec : next.execState shard = state.execState shard
  ready : next.readyQueue.count shard = state.readyQueue.count shard
  timers : next.timers shard = state.timers shard
  calls : next.doneCalls shard = state.doneCalls shard
  finished : next.finished shard = state.finished shard
  scheduled : next.scheduled shard = state.scheduled shard
  owed : next.owed shard = state.owed shard

/-- The books of all shards are balanced, and every thread is where it belongs. -/
structure Sound (state : RuntimeState Thread Shard) : Prop where
  shards : ∀ shard, state.ShardSound shard
  proper : ∀ thread, (state.threads thread).Proper

omit [DecidableEq Thread] in
theorem started_sound : (started : RuntimeState Thread Shard).Sound where
  shards := by
    intro shard
    have none : (started : RuntimeState Thread Shard).held shard = fun _ => 0 := by
      funext hold
      exact Finset.sum_eq_zero fun thread _ => rfl
    unfold ShardSound
    rw [none]
    exact Balanced.started
  proper := fun _ => trivial

/-- A thread goes on with one shard. -/
theorem Sound.goesOn {next : RuntimeState Thread Shard} {point : ThreadPoint Shard} {shard : Shard}
    {before after : Option Hold} (holds : state.Sound)
    (threads : next.threads = Function.update state.threads thread point)
    (left : (state.threads thread).holds = before.map fun hold => (hold, shard))
    (right : point.holds = after.map fun hold => (hold, shard)) (proper : point.Proper)
    (others : ∀ other, other ≠ shard → SameBooks state next other)
    (here : Moves (state.held shard) (next.held shard) before after → next.ShardSound shard) :
    next.Sound where
  shards := by
    intro other
    by_cases same : other = shard
    · subst same
      refine here fun hold => ?_
      have moved := @tally_update _ _ _ _ _ ThreadPoint.holds state.threads _ thread point
        (hold, other)
      rw [← threads, left, right] at moved
      simpa [held] using moved
    · have books := others other same
      have untouched : next.held other = state.held other := by
        funext hold
        have moved := @tally_update _ _ _ _ _ ThreadPoint.holds state.threads _ thread point
          (hold, other)
        rw [← threads, left, right] at moved
        simpa [held, Ne.symm same] using moved
      have balanced := holds.shards other
      unfold ShardSound at balanced ⊢
      rw [books.exec, books.ready, books.timers, books.calls, books.finished, books.scheduled,
        books.owed, untouched]
      exact balanced
  proper := by
    intro other
    rw [threads]
    by_cases same : other = thread
    · subst same
      rw [Function.update_self]
      exact proper
    · rw [Function.update_of_ne same]
      exact holds.proper other

theorem Sound.enter (holds : state.Sound) (point : state.threads thread = .outside)
    (answer : ThreadAnswer Shard) : (state.enter role thread answer).Sound := by
  have left : (state.threads thread).holds = none := by rw [point]; rfl
  unfold RuntimeState.enter
  split
  · split
    · exact holds
    · next shard rest queue =>
        refine @Sound.goesOn _ _ _ _ _ state thread _ (.claiming shard) shard none (some .queue) holds
          rfl left rfl trivial (fun other different => ?_) fun moves => ?_
        · refine ⟨rfl, ?_, rfl, rfl, rfl, rfl, rfl⟩
          rw [queue, List.count_cons_of_ne (Ne.symm different)]
        · have balanced := holds.shards shard
          unfold ShardSound at balanced ⊢
          rw [queue, List.count_cons_self] at balanced
          exact balanced.pop moves
  · split
    · exact holds
    · next entry rest queue =>
        split
        · refine @Sound.goesOn _ _ _ _ _ state thread _ (.firing entry.shard) entry.shard none
            (some .wake) holds rfl left rfl trivial (fun other different => ?_) fun moves => ?_
          · refine ⟨rfl, rfl, ?_, rfl, rfl, rfl, rfl⟩
            simp only [timers, queue, List.map_cons]
            rw [List.count_cons_of_ne (Ne.symm different)]
          · have balanced := holds.shards entry.shard
            unfold ShardSound at balanced ⊢
            simp only [timers, queue, List.map_cons, List.count_cons_self] at balanced
            exact balanced.popDue moves
        · exact holds
  · exact @Sound.goesOn _ _ _ _ _ state thread _ (.loading answer.shard) answer.shard none
      (some .reschedule) holds rfl left rfl trivial (fun _ _ => ⟨rfl, rfl, rfl, rfl, rfl, rfl, rfl⟩)
      fun moves => (holds.shards answer.shard).enter moves

omit [DecidableEq Thread] [Fintype Thread] in
/-- A shard is in another state, and the rest of the runtime in the next. -/
theorem SameBooks.of_ne {next : RuntimeState Thread Shard} {shard other : Shard}
    {exec : ShardExecState} {scheduled owed : Bool} (different : other ≠ shard)
    (execState : next.execState = Function.update state.execState shard exec)
    (readyQueue : next.readyQueue = state.readyQueue)
    (timerQueue : next.timerQueue = state.timerQueue)
    (doneCalls : next.doneCalls = state.doneCalls) (finished : next.finished = state.finished)
    (schedules : next.scheduled = Function.update state.scheduled shard scheduled)
    (owes : next.owed = Function.update state.owed shard owed) : SameBooks state next other where
  exec := by rw [execState, Function.update_of_ne different]
  ready := by rw [readyQueue]
  timers := by
    unfold RuntimeState.timers
    rw [timerQueue]
  calls := by rw [doneCalls]
  finished := by rw [finished]
  scheduled := by rw [schedules, Function.update_of_ne different]
  owed := by rw [owes, Function.update_of_ne different]

/-- A thread goes on with one shard, of which nothing but the state and the flags change. -/
theorem Sound.changes {next : RuntimeState Thread Shard} {point : ThreadPoint Shard}
    {shard : Shard} {before after : Option Hold} {exec : ShardExecState} {scheduled owed : Bool}
    (holds : state.Sound)
    (threads : next.threads = Function.update state.threads thread point)
    (left : (state.threads thread).holds = before.map fun hold => (hold, shard))
    (right : point.holds = after.map fun hold => (hold, shard)) (proper : point.Proper)
    (execState : next.execState = Function.update state.execState shard exec)
    (readyQueue : next.readyQueue = state.readyQueue)
    (timerQueue : next.timerQueue = state.timerQueue)
    (doneCalls : next.doneCalls = state.doneCalls) (finished : next.finished = state.finished)
    (schedules : next.scheduled = Function.update state.scheduled shard scheduled)
    (owes : next.owed = Function.update state.owed shard owed)
    (here : Moves (state.held shard) (next.held shard) before after →
      Balanced exec (state.readyQueue.count shard) (state.timers shard) (state.doneCalls shard)
        (state.finished shard) scheduled owed (next.held shard)) : next.Sound := by
  refine holds.goesOn threads left right proper
    (fun other different => .of_ne different execState readyQueue timerQueue doneCalls finished
      schedules owes) fun moves => ?_
  have balanced := here moves
  unfold ShardSound timers
  rw [execState, readyQueue, timerQueue, doneCalls, finished, schedules, owes,
    Function.update_self, Function.update_self, Function.update_self]
  exact balanced

/-- A thread goes on and nothing else changes. -/
theorem Sound.goes {point : ThreadPoint Shard} {shard : Shard} {before after : Option Hold}
    (holds : state.Sound)
    (left : (state.threads thread).holds = before.map fun hold => (hold, shard))
    (right : point.holds = after.map fun hold => (hold, shard)) (proper : point.Proper)
    (here : ∀ next, Moves (state.held shard) next before after →
      Balanced (state.execState shard) (state.readyQueue.count shard) (state.timers shard)
        (state.doneCalls shard) (state.finished shard) (state.scheduled shard) (state.owed shard)
        next) : (state.goes thread point).Sound :=
  holds.goesOn rfl left right proper (fun _ _ => ⟨rfl, rfl, rfl, rfl, rfl, rfl, rfl⟩) (here _)

/-- The points of `TrySchedule`. -/
theorem Sound.loads {shard : Shard} (holds : state.Sound)
    (point : state.threads thread = .loading shard) : (state.loads thread shard).Sound := by
  have left : (state.threads thread).holds = some (.reschedule, shard) := by rw [point]; rfl
  have balanced := holds.shards shard
  unfold ShardSound at balanced
  unfold RuntimeState.loads
  split
  · next done =>
      exact @Sound.goes _ _ _ _ _ state thread .outside shard (some .reschedule) none holds left rfl
        trivial fun next moves => balanced.leave (Or.inl done) moves
  · next queued =>
      exact @Sound.changes _ _ _ _ _ state thread _ .outside shard (some .reschedule) none _ _ _ holds
        rfl left rfl trivial (Function.update_eq_self shard state.execState).symm rfl rfl rfl rfl
        (Function.update_eq_self shard state.scheduled).symm rfl
        fun moves => balanced.leave (Or.inr (Or.inl queued)) moves
  · next pending =>
      exact @Sound.changes _ _ _ _ _ state thread _ .outside shard (some .reschedule) none _ _ _ holds
        rfl left rfl trivial (Function.update_eq_self shard state.execState).symm rfl rfl rfl rfl
        (Function.update_eq_self shard state.scheduled).symm rfl
        fun moves => balanced.leave (Or.inr (Or.inr pending)) moves
  · next notDone notQueued notPending =>
      have loaded : (ThreadPoint.exchangingFrom shard (state.execState shard)).Proper := by
        cases exec : state.execState shard with
        | idle => exact Or.inl rfl
        | queued => exact absurd exec notQueued
        | running => exact Or.inr (Or.inr rfl)
        | runningPending => exact absurd exec notPending
        | waitingRetry => exact Or.inr (Or.inl rfl)
        | done => exact absurd exec notDone
      exact @Sound.goes _ _ _ _ _ state thread _ shard (some .reschedule) (some .reschedule) holds left
        rfl loaded fun next moves => balanced.keep moves

theorem Sound.exchanges {shard : Shard} {loaded : ShardExecState} (holds : state.Sound)
    (point : state.threads thread = .exchangingFrom shard loaded) (spurious : Bool) :
    (state.exchanges thread shard loaded spurious).Sound := by
  have left : (state.threads thread).holds = some (.reschedule, shard) := by rw [point]; rfl
  have balanced := holds.shards shard
  have proper := holds.proper thread
  rw [point] at proper
  unfold ShardSound at balanced
  unfold RuntimeState.exchanges
  split
  · next exchanged =>
      obtain ⟨current, -⟩ := exchanged
      split
      · next running =>
          rw [current, running] at balanced
          exact @Sound.changes _ _ _ _ _ state thread _ .outside shard (some .reschedule) none _ _ _
            holds rfl left rfl trivial rfl rfl rfl rfl rfl
            (Function.update_eq_self shard state.scheduled).symm rfl balanced.schedulePending
      · next other =>
          rw [current] at balanced
          have resting : loaded = .idle ∨ loaded = .waitingRetry :=
            proper.imp_right fun rest => rest.resolve_right other
          exact @Sound.changes _ _ _ _ _ state thread _ (.pushing shard) shard (some .reschedule)
            (some .queue) _ _ _ holds rfl left rfl trivial rfl rfl rfl rfl rfl rfl rfl
            fun moves => balanced.schedule resting moves
  · exact @Sound.goes _ _ _ _ _ state thread (.loading shard) shard (some .reschedule)
      (some .reschedule) holds left rfl trivial fun next moves => balanced.keep moves

/-- The points of a worker after `Step`. -/
theorem Sound.exchanging {shard : Shard} {result : StepResult} (holds : state.Sound)
    (point : state.threads thread = .exchanging shard result) (answer : ThreadAnswer Shard) :
    (state.step role thread answer).Sound := by
  have left : (state.threads thread).holds = some (.run, shard) := by rw [point]; rfl
  have balanced := holds.shards shard
  have proper := holds.proper thread
  rw [point] at proper
  unfold ShardSound at balanced
  have again : ((state.enters shard .idle).goes thread (.loading shard)).Sound :=
    @Sound.changes _ _ _ _ _ state thread _ (.loading shard) shard (some .run) (some .reschedule) _ _
      _ holds rfl left rfl trivial rfl rfl rfl rfl rfl
      (Function.update_eq_self shard state.scheduled).symm
      (Function.update_eq_self shard state.owed).symm balanced.yield
  simp only [RuntimeState.step, point]
  split
  · exact again
  · next alone =>
      split
      · exact again
      · next notYield =>
          have later : result = .needRetryLater := by
            cases result with
            | done => exact absurd rfl proper
            | yield => exact absurd rfl notYield
            | needRetryLater => rfl
          rw [if_pos later]
          exact @Sound.changes _ _ _ _ _ state thread _ (.waiting shard) shard (some .run) (some .wait)
            _ _ _ holds rfl left rfl trivial rfl rfl rfl rfl rfl
            (Function.update_eq_self shard state.scheduled).symm
            (Function.update_eq_self shard state.owed).symm
            fun moves => balanced.retryLater alone moves

/-- Every step of a thread keeps the books balanced. -/
theorem Sound.step (holds : state.Sound) (answer : ThreadAnswer Shard) :
    (state.step role thread answer).Sound := by
  cases point : state.threads thread with
  | outside =>
      simp only [RuntimeState.step, point]
      exact holds.enter point answer
  | claiming shard =>
      have left : (state.threads thread).holds = some (.queue, shard) := by rw [point]; rfl
      have queued : state.execState shard = .queued :=
        (holds.shards shard).exec_of_queue (tally_pos thread left)
      have balanced := holds.shards shard
      unfold ShardSound at balanced
      rw [queued] at balanced
      simp only [RuntimeState.step, point, if_pos queued]
      exact @Sound.changes _ _ _ _ _ state thread _ _ shard (some .queue) (some .run) _ _ _ holds rfl
        left rfl trivial rfl rfl rfl rfl rfl (Function.update_eq_self shard state.scheduled).symm rfl
        balanced.claim
  | stepping shard =>
      have left : (state.threads thread).holds = some (.run, shard) := by rw [point]; rfl
      simp only [RuntimeState.step, point]
      split
      · refine @Sound.goesOn _ _ _ _ _ state thread _ (.storingDone shard) shard (some .run)
          (some .finish) holds rfl left rfl trivial (fun other different => ?_) fun moves => ?_
        · exact ⟨rfl, rfl, rfl, rfl, Function.update_of_ne different _ _, rfl, rfl⟩
        · have balanced := (holds.shards shard).finishStep moves
          unfold ShardSound
          dsimp only
          rw [Function.update_self]
          exact balanced
      · next going =>
          exact @Sound.goes _ _ _ _ _ state thread (.exchanging shard answer.result) shard (some .run)
            (some .run) holds left rfl going fun next moves => (holds.shards shard).keep moves
  | storingDone shard =>
      have left : (state.threads thread).holds = some (.finish, shard) := by rw [point]; rfl
      simp only [RuntimeState.step, point]
      exact @Sound.changes _ _ _ _ _ state thread _ (.markingDone shard) shard (some .finish)
        (some .mark) _ _ _ holds rfl left rfl trivial rfl rfl rfl rfl rfl
        (Function.update_eq_self shard state.scheduled).symm
        (Function.update_eq_self shard state.owed).symm (holds.shards shard).storeDone
  | markingDone shard =>
      have left : (state.threads thread).holds = some (.mark, shard) := by rw [point]; rfl
      simp only [RuntimeState.step, point]
      refine @Sound.goesOn _ _ _ _ _ state thread _ .outside shard (some .mark) none holds rfl left rfl
        trivial (fun other different => ?_) fun moves => ?_
      · exact ⟨rfl, rfl, rfl, Function.update_of_ne different _ _, rfl, rfl, rfl⟩
      · have balanced := (holds.shards shard).markDone moves
        unfold ShardSound
        dsimp only
        rw [Function.update_self]
        exact balanced
  | exchanging shard result => exact holds.exchanging point answer
  | waiting shard =>
      have left : (state.threads thread).holds = some (.wait, shard) := by rw [point]; rfl
      have balanced := holds.shards shard
      unfold ShardSound at balanced
      simp only [RuntimeState.step, point]
      split
      · next idle =>
          rw [idle] at balanced
          exact @Sound.changes _ _ _ _ _ state thread _ (.delaying shard) shard (some .wait)
            (some .wake) _ _ _ holds rfl left rfl trivial rfl rfl rfl rfl rfl
            (Function.update_eq_self shard state.scheduled).symm
            (Function.update_eq_self shard state.owed).symm balanced.wait
      · next busy =>
          exact @Sound.goes _ _ _ _ _ state thread .outside shard (some .wait) none holds left rfl
            trivial fun next moves => balanced.stopWaiting busy moves
  | delaying shard =>
      have left : (state.threads thread).holds = some (.wake, shard) := by rw [point]; rfl
      have entries : ∀ other, (((state.timerQueue.orderedInsert TimerEntry.Before
          ⟨answer.now + 5, state.timerSeq, shard⟩).map TimerEntry.shard).count other) =
          state.timers other + if other = shard then 1 else 0 := by
        intro other
        rw [((List.perm_orderedInsert _ _ _).map TimerEntry.shard).count_eq, List.map_cons]
        by_cases same : other = shard
        · subst same
          rw [List.count_cons_self, if_pos rfl]
          rfl
        · rw [List.count_cons_of_ne (Ne.symm same), if_neg same]
          rfl
      simp only [RuntimeState.step, point]
      refine @Sound.goesOn _ _ _ _ _ state thread _ .outside shard (some .wake) none holds rfl left rfl
        trivial (fun other different => ?_) fun moves => ?_
      · refine ⟨rfl, rfl, ?_, rfl, rfl, rfl, rfl⟩
        unfold timers
        dsimp only
        rw [entries, if_neg different]
        rfl
      · have balanced := (holds.shards shard).delay moves
        unfold ShardSound timers
        dsimp only
        rw [entries, if_pos rfl]
        exact balanced
  | firing shard =>
      have left : (state.threads thread).holds = some (.wake, shard) := by rw [point]; rfl
      have balanced := holds.shards shard
      unfold ShardSound at balanced
      simp only [RuntimeState.step, point]
      split
      · next waiting =>
          rw [waiting] at balanced
          exact @Sound.changes _ _ _ _ _ state thread _ (.loading shard) shard (some .wake)
            (some .reschedule) _ _ _ holds rfl left rfl trivial rfl rfl rfl rfl rfl
            (Function.update_eq_self shard state.scheduled).symm
            (Function.update_eq_self shard state.owed).symm balanced.fire
      · next moved =>
          exact @Sound.goes _ _ _ _ _ state thread .outside shard (some .wake) none holds left rfl
            trivial fun next moves => balanced.stopFiring moved moves
  | loading shard =>
      simp only [RuntimeState.step, point]
      exact holds.loads point
  | exchangingFrom shard loaded =>
      simp only [RuntimeState.step, point]
      exact holds.exchanges point answer.spurious
  | pushing shard =>
      have left : (state.threads thread).holds = some (.queue, shard) := by rw [point]; rfl
      simp only [RuntimeState.step, point]
      refine @Sound.goesOn _ _ _ _ _ state thread _ .outside shard (some .queue) none holds rfl left rfl
        trivial (fun other different => ?_) fun moves => ?_
      · refine ⟨rfl, ?_, rfl, rfl, rfl, rfl, rfl⟩
        dsimp only
        rw [List.count_append, List.count_singleton, if_neg (by simpa using Ne.symm different),
          Nat.add_zero]
      · have balanced := (holds.shards shard).push moves
        unfold ShardSound
        dsimp only
        rw [List.count_append, List.count_singleton_self]
        exact balanced

end RuntimeState

end Flowsql.Scheduler
