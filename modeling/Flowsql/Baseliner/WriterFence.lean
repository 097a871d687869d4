import Mathlib

/-!
# The writer fence

Writers of one task key take a lease on its row, and stage, commit and confirm generations. A
transaction on the row is one step, apart from the one that `Stage` opens: it ends later, and
until then the transactions of others find the row locked and fail.
-/

namespace Flowsql.Baseliner

/-- `std::numeric_limits<int64_t>::max()`. -/
def maxInt64 : Int := 9223372036854775807

/-- The row of `baseline_tasks` for the task key. -/
structure FenceRow where
  configHash : String
  ownerRun : String
  writerEpoch : Int
  currentGeneration : Int
  leaseDeadline : Int
  deriving DecidableEq, Repr

/-- The outcome of a commit. An unknown one may have been applied. -/
inductive CommitOutcome where
  | committed
  | rolledBack
  | unknown (applied : Bool)
  deriving DecidableEq, Repr

def CommitOutcome.ok : CommitOutcome → Bool
  | .committed => true
  | _ => false

def CommitOutcome.applies : CommitOutcome → Bool
  | .committed => true
  | .rolledBack => false
  | .unknown applied => applied

/-- A transaction is rolled back by a failed call, or it is committed. -/
inductive TransactionFate where
  | failed (message : String)
  | finished (outcome : CommitOutcome) (message : String)
  deriving DecidableEq, Repr

structure WriterFence where
  /-- There is a session. -/
  bound : Bool := false
  owner : String := ""
  leaseMs : Int := 0
  epoch : Int := 0
  generation : Int := 0
  staged : Bool := false
  isFailed : Bool := false
  error : String := ""
  deriving DecidableEq, Repr

namespace WriterFence

def fail (error : String) (writer : WriterFence) : WriterFence :=
  { writer with error := error, isFailed := true }

/-- What `Acquire` makes of the row, if it is not held by another. -/
def acquireRow (owner fingerprint : String) (leaseMs now : Int) :
    Option FenceRow → Option FenceRow
  | none => some ⟨fingerprint, owner, 1, 0, now + leaseMs⟩
  | some row =>
      if row.configHash = fingerprint ∧ row.leaseDeadline ≤ now then
        some { row with
          ownerRun := owner, leaseDeadline := now + leaseMs, writerEpoch := row.writerEpoch + 1 }
      else none

/-- What `Change` makes of the row, if the writer still holds it. -/
def changeRow (publish : Bool) (now : Int) (writer : WriterFence) :
    Option FenceRow → Option FenceRow
  | none => none
  | some row =>
      if row.ownerRun = writer.owner ∧ row.writerEpoch = writer.epoch ∧
          row.currentGeneration = writer.generation ∧ now < row.leaseDeadline then
        some { row with
          leaseDeadline := now + writer.leaseMs
          currentGeneration :=
            if publish then row.currentGeneration + 1 else row.currentGeneration }
      else none

/-- What `Release` makes of the row. -/
def releaseRow (writer : WriterFence) : Option FenceRow → Option FenceRow
  | none => none
  | some row =>
      if row.ownerRun = writer.owner ∧ row.writerEpoch = writer.epoch then
        some { row with leaseDeadline := 0 }
      else some row

/-- `Confirm`, with its code. -/
def confirm (outcome : CommitOutcome) (message : String) (writer : WriterFence) :
    Int × WriterFence :=
  if ¬ writer.staged then (-1, writer.fail "invalid commit result")
  else if ¬ outcome.ok then (-1, { writer with staged := false }.fail message)
  else (0, { writer with staged := false, generation := writer.generation + 1 })

end WriterFence

/-! ## Writers and their row -/

/-- A publication: who has staged it, when, and under which lease. -/
structure Publication where
  writer : Nat
  epoch : Int
  generation : Int
  stagedAt : Int
  deadline : Int
  /-- The writer and the epoch that had taken the row last. -/
  holder : Option (Nat × Int)
  deriving DecidableEq, Repr

/-- The open transaction of a writer that has staged, with the row that it has written. -/
structure StagedRow where
  publication : Publication
  row : FenceRow
  deriving DecidableEq, Repr

structure FenceSystem where
  row : Option FenceRow := none
  /-- The database time. -/
  clock : Int
  writers : Nat → WriterFence := fun _ => {}
  transaction : Option StagedRow := none
  /-- The results of `Commit` that are still to be confirmed. -/
  commitResults : Nat → Option (CommitOutcome × String) := fun _ => none
  /-- The writers that have taken the row, with their epochs. -/
  acquisitions : List (Nat × Int) := []
  publications : List Publication := []

inductive FenceEvent where
  /-- With the fate of the transaction that creates the table, and of the one that takes the
  row. -/
  | acquire (writer : Nat) (owner fingerprint : String) (leaseMs : Int)
      (table fate : TransactionFate)
  | renew (writer : Nat) (fate : TransactionFate)
  /-- A failed call comes with its message. -/
  | stage (writer : Nat) (failure : Option String)
  | rollback (writer : Nat)
  | commit (writer : Nat) (outcome : CommitOutcome) (message : String)
  | confirm (writer : Nat)
  | release (writer : Nat) (fate : TransactionFate)
  | pass (milliseconds : Nat)
  deriving DecidableEq, Repr

namespace FenceSystem

open WriterFence

def setWriter (writer : Nat) (fence : WriterFence) (system : FenceSystem) : FenceSystem :=
  { system with writers := Function.update system.writers writer fence }

def failWriter (writer : Nat) (error : String) (system : FenceSystem) : FenceSystem :=
  system.setWriter writer ((system.writers writer).fail error)

/-- The section of `Acquire` after the table is there. -/
def takeRow (writer : Nat) (fingerprint : String) (fate : TransactionFate)
    (system : FenceSystem) : FenceSystem :=
  let fence := system.writers writer
  match fate with
  | .failed message => system.failWriter writer message
  | .finished outcome message =>
      if system.transaction.isSome then system.failWriter writer "row locked"
      else if maxInt64 - fence.leaseMs < system.clock then
        system.failWriter writer "invalid target clock"
      else
        match acquireRow fence.owner fingerprint fence.leaseMs system.clock system.row with
        | none => system.failWriter writer "writer busy or incompatible configuration"
        | some row =>
            let read := { fence with epoch := row.writerEpoch, generation := row.currentGeneration }
            let taken :=
              if outcome.applies then
                { system with
                  row := some row
                  acquisitions := system.acquisitions ++ [(writer, row.writerEpoch)] }
              else system
            taken.setWriter writer (if outcome.ok then read else read.fail message)

/-- `Acquire`. -/
def acquire (writer : Nat) (owner fingerprint : String) (leaseMs : Int)
    (table fate : TransactionFate) (system : FenceSystem) : FenceSystem :=
  let fence := system.writers writer
  if fence.bound ∨ owner = "" ∨ leaseMs ≤ 0 then system.failWriter writer "invalid writer binding"
  else
    let bound :=
      system.setWriter writer { fence with bound := true, owner := owner, leaseMs := leaseMs }
    match table with
    | .failed message => bound.failWriter writer message
    | .finished outcome message =>
        if outcome.ok then bound.takeRow writer fingerprint fate
        else bound.failWriter writer message

/-- What `Change` refuses before its update, with the message. -/
def refusal (writer : Nat) (system : FenceSystem) : Option String :=
  let fence := system.writers writer
  if ¬ fence.bound ∨ fence.isFailed ∨ fence.staged then some "writer unavailable"
  else if system.transaction.isSome then some "row locked"
  else if maxInt64 - fence.leaseMs < system.clock ∨ fence.generation = maxInt64 then
    some "writer clock/generation overflow"
  else none

/-- `Renew`. -/
def renew (writer : Nat) (fate : TransactionFate) (system : FenceSystem) : FenceSystem :=
  match system.refusal writer, fate with
  | some error, _ | none, .failed error => system.failWriter writer error
  | none, .finished outcome message =>
      match (system.writers writer).changeRow false system.clock system.row with
      | none => system.failWriter writer "stale/expired writer or generation conflict"
      | some row =>
          let renewed := if outcome.applies then { system with row := some row } else system
          if outcome.ok then renewed else renewed.failWriter writer message

/-- `Stage`. -/
def stage (writer : Nat) (failure : Option String) (system : FenceSystem) : FenceSystem :=
  match system.refusal writer, failure with
  | some error, _ | none, some error => system.failWriter writer error
  | none, none =>
      match system.row, (system.writers writer).changeRow true system.clock system.row with
      | some found, some row =>
          { system.setWriter writer { system.writers writer with staged := true } with
            transaction := some {
              publication :=
                { writer := writer, epoch := row.writerEpoch, generation := row.currentGeneration
                  stagedAt := system.clock, deadline := found.leaseDeadline
                  holder := system.acquisitions.getLast? }
              row := row } }
      | _, _ => system.failWriter writer "stale/expired writer or generation conflict"

/-- The transaction of the writer is rolled back. -/
def rollback (writer : Nat) (system : FenceSystem) : FenceSystem :=
  match system.transaction with
  | some staged =>
      if staged.publication.writer = writer then { system with transaction := none } else system
  | none => system

/-- The transaction of the writer is committed. -/
def commit (writer : Nat) (outcome : CommitOutcome) (message : String) (system : FenceSystem) :
    FenceSystem :=
  match system.transaction with
  | some staged =>
      if staged.publication.writer = writer then
        let applied :=
          if outcome.applies then
            { system with
              row := some staged.row
              publications := system.publications ++ [staged.publication] }
          else system
        { applied with
          transaction := none
          commitResults := Function.update system.commitResults writer (some (outcome, message)) }
      else system
  | none => system

/-- `Confirm`, with the result of the last commit. -/
def confirm (writer : Nat) (system : FenceSystem) : FenceSystem :=
  match system.commitResults writer with
  | none => system
  | some (outcome, message) =>
      { system.setWriter writer ((system.writers writer).confirm outcome message).2 with
        commitResults := Function.update system.commitResults writer none }

/-- `Release`. -/
def release (writer : Nat) (fate : TransactionFate) (system : FenceSystem) : FenceSystem :=
  let fence := system.writers writer
  if ¬ fence.bound then system
  else
    let rolled := system.rollback writer
    let released :=
      match fate with
      | .finished outcome _ =>
          if ¬ fence.isFailed ∧ ¬ fence.staged ∧ rolled.transaction = none ∧ outcome.applies then
            { rolled with row := fence.releaseRow rolled.row }
          else rolled
      | .failed _ => rolled
    { released.setWriter writer { fence with bound := false } with
      commitResults := Function.update system.commitResults writer none }

def step (system : FenceSystem) : FenceEvent → FenceSystem
  | .acquire writer owner fingerprint leaseMs table fate =>
      system.acquire writer owner fingerprint leaseMs table fate
  | .renew writer fate => system.renew writer fate
  | .stage writer failure => system.stage writer failure
  | .rollback writer => system.rollback writer
  | .commit writer outcome message => system.commit writer outcome message
  | .confirm writer => system.confirm writer
  | .release writer fate => system.release writer fate
  | .pass milliseconds => { system with clock := system.clock + milliseconds }

def run (system : FenceSystem) (events : List FenceEvent) : FenceSystem := events.foldl step system

/-- No writer has taken the row. -/
def created (clock : Int) : FenceSystem := { clock := clock }

end FenceSystem

end Flowsql.Baseliner
