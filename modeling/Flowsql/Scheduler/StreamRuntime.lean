import Flowsql.Library.Tally
import Mathlib

/-!
# The stream runtime

Workers take shards from a ready queue and step them, a timer thread wakes the shards that
wait, and other threads schedule shards. Every atomic operation on the state of a shard and
every operation on one of the two queues is a step of its own. The runtime is not stopped.
-/

namespace Flowsql.Scheduler

inductive ShardExecState where
  | idle
  | queued
  | running
  | runningPending
  | waitingRetry
  | done
  deriving DecidableEq

inductive StepResult where
  | done
  | yield
  | needRetryLater
  deriving DecidableEq

/-- What a thread does for a living. -/
inductive Role where
  /-- `WorkerLoop` -/
  | worker
  /-- `TimerLoop` -/
  | timer
  /-- Any other thread that calls `TrySchedule`. -/
  | caller
  deriving DecidableEq

/-- Where a thread stands, with the shard that it holds. -/
inductive ThreadPoint (Shard : Type) where
  /-- At `Pop`, at `WaitAndPopDue`, or outside the runtime. -/
  | outside
  /-- `WorkerLoop`, before the exchange that takes the shard. -/
  | claiming (shard : Shard)
  | stepping (shard : Shard)
  /-- `Step` has returned `kStepDone`. -/
  | storingDone (shard : Shard)
  | markingDone (shard : Shard)
  /-- `Step` has returned otherwise. -/
  | exchanging (shard : Shard) (result : StepResult)
  | waiting (shard : Shard)
  /-- Before `PushAfter`. -/
  | delaying (shard : Shard)
  /-- `OnTimerFire` -/
  | firing (shard : Shard)
  /-- `TrySchedule`, before the load. -/
  | loading (shard : Shard)
  /-- `TrySchedule`, before the weak exchange of this state. -/
  | exchangingFrom (shard : Shard) (loaded : ShardExecState)
  /-- `TrySchedule`, before the push. -/
  | pushing (shard : Shard)
  deriving DecidableEq

/-- An entry of the delay queue. -/
structure TimerEntry (Shard : Type) where
  deadline : Nat
  seq : Nat
  shard : Shard
  deriving DecidableEq

/-- `EntryLess`, as the order in which entries are popped. -/
def TimerEntry.Before {Shard : Type} (left right : TimerEntry Shard) : Prop :=
  left.deadline < right.deadline ∨ left.deadline = right.deadline ∧ left.seq ≤ right.seq

instance {Shard : Type} : DecidableRel (@TimerEntry.Before Shard) :=
  fun _ _ => inferInstanceAs (Decidable (_ ∨ _))

structure RuntimeState (Thread Shard : Type) where
  execState : Shard → ShardExecState
  readyQueue : List Shard
  /-- The heap of the delay queue, in the order in which it is popped. -/
  timerQueue : List (TimerEntry Shard)
  timerSeq : Nat
  threads : Thread → ThreadPoint Shard
  /-- How often `OnShardDone` was called for a shard. -/
  doneCalls : Shard → Nat
  /-- A `Step` of the shard has returned `kStepDone`. -/
  finished : Shard → Bool
  /-- The shard was queued at least once. -/
  scheduled : Shard → Bool
  /-- A `TrySchedule` was made after the last `Step` of the shard began. -/
  owed : Shard → Bool

/-- What the clock, `Step`, a weak exchange or a caller gives to the step that asks it. -/
structure ThreadAnswer (Shard : Type) where
  now : Nat
  result : StepResult
  spurious : Bool
  shard : Shard

namespace RuntimeState

variable {Thread Shard : Type} [DecidableEq Thread] [DecidableEq Shard]

/-- The state after `Start`, before any shard is scheduled. -/
def started : RuntimeState Thread Shard :=
  ⟨fun _ => .idle, [], [], 0, fun _ => .outside, fun _ => 0, fun _ => false, fun _ => false,
    fun _ => false⟩

variable (role : Thread → Role) (state : RuntimeState Thread Shard) (thread : Thread)

def goes (point : ThreadPoint Shard) : RuntimeState Thread Shard :=
  { state with threads := Function.update state.threads thread point }

/-- The shard is in another state. -/
def enters (shard : Shard) (execState : ShardExecState) : RuntimeState Thread Shard :=
  { state with execState := Function.update state.execState shard execState }

/-- A `TrySchedule` of the shard is decided. -/
def owing (shard : Shard) : RuntimeState Thread Shard :=
  { state with owed := Function.update state.owed shard true }

/-- The first step of a thread that is outside. -/
def enter (answer : ThreadAnswer Shard) : RuntimeState Thread Shard :=
  match role thread with
  | .worker =>
      match state.readyQueue with
      | [] => state
      | shard :: rest => { state.goes thread (.claiming shard) with readyQueue := rest }
  | .timer =>
      match state.timerQueue with
      | [] => state
      | entry :: rest =>
          if entry.deadline ≤ answer.now then
            { state.goes thread (.firing entry.shard) with timerQueue := rest }
          else state
  | .caller => state.goes thread (.loading answer.shard)

/-- `TrySchedule`, at its load -/
def loads (shard : Shard) : RuntimeState Thread Shard :=
  match state.execState shard with
  | .done => state.goes thread .outside
  | .queued => (state.owing shard).goes thread .outside
  | .runningPending => (state.owing shard).goes thread .outside
  | loaded => state.goes thread (.exchangingFrom shard loaded)

/-- `TrySchedule`, at its exchange -/
def exchanges (shard : Shard) (loaded : ShardExecState) (spurious : Bool) :
    RuntimeState Thread Shard :=
  if state.execState shard = loaded ∧ ¬ spurious then
    if loaded = .running then
      ((state.owing shard).enters shard .runningPending).goes thread .outside
    else
      { ((state.owing shard).enters shard .queued).goes thread (.pushing shard) with
        scheduled := Function.update state.scheduled shard true }
  else state.goes thread (.loading shard)

/-- The next step of a thread. -/
def step (answer : ThreadAnswer Shard) : RuntimeState Thread Shard :=
  match state.threads thread with
  | .outside => state.enter role thread answer
  | .claiming shard =>
      if state.execState shard = .queued then
        { (state.enters shard .running).goes thread (.stepping shard) with
          owed := Function.update state.owed shard false }
      else state.goes thread .outside
  | .stepping shard =>
      if answer.result = .done then
        { state.goes thread (.storingDone shard) with
          finished := Function.update state.finished shard true }
      else state.goes thread (.exchanging shard answer.result)
  | .storingDone shard => (state.enters shard .done).goes thread (.markingDone shard)
  | .markingDone shard =>
      { state.goes thread .outside with
        doneCalls := Function.update state.doneCalls shard (state.doneCalls shard + 1) }
  | .exchanging shard result =>
      (state.enters shard .idle).goes thread
        (if state.execState shard = .runningPending then .loading shard
        else if result = .yield then .loading shard
        else if result = .needRetryLater then .waiting shard
        else .outside)
  | .waiting shard =>
      if state.execState shard = .idle then
        (state.enters shard .waitingRetry).goes thread (.delaying shard)
      else state.goes thread .outside
  | .delaying shard =>
      { state.goes thread .outside with
        timerQueue :=
          state.timerQueue.orderedInsert TimerEntry.Before ⟨answer.now + 5, state.timerSeq, shard⟩
        timerSeq := state.timerSeq + 1 }
  | .firing shard =>
      if state.execState shard = .waitingRetry then
        (state.enters shard .idle).goes thread (.loading shard)
      else state.goes thread .outside
  | .loading shard => state.loads thread shard
  | .exchangingFrom shard loaded => state.exchanges thread shard loaded answer.spurious
  | .pushing shard =>
      { state.goes thread .outside with readyQueue := state.readyQueue ++ [shard] }

/-- The state after a run: which thread goes on, and what it is given. -/
def run (events : List (Thread × ThreadAnswer Shard)) : RuntimeState Thread Shard :=
  events.foldl (fun state event => state.step role event.1 event.2) started

end RuntimeState

end Flowsql.Scheduler
