import Flowsql.Npm.AnalysisContract

/-!
# Session snapshots

`NpmSessionSnapshotBatch` from `npm_session_snapshot.h` and `npm_session_table.cpp`: rows
that own the key and the facts of an ended session. Its arrays and names are charged as
an input batch through the lease of the batch. A row holds its key itself, where the
source holds the place of the key among those of its family; so the size of a key array
is the number of rows of the family.
-/

namespace Flowsql.Npm

/-- `NpmSessionTableError`. Null pointers cannot be passed here. -/
inductive TableError where
  | notFound
  | sessionLimitExceeded
  | sessionIdExhausted
  | latePacket
  | sessionInstanceMismatch
  | invalidPacketView
  | sessionBudgetExceeded
  | allocationFailed
  deriving DecidableEq, Repr

/-- The `sizeof` of the snapshot objects, and the capacity of a copied string. -/
structure SnapshotSizes where
  key4 : Nat
  key6 : Nat
  row : Nat
  batch : Nat
  nameCapacity : String → Nat
  key4_pos : 0 < key4
  key6_pos : 0 < key6
  row_pos : 0 < row

def SessionKey.isIpv4 : SessionKey → Bool
  | ipv4 _ => true
  | ipv6 _ => false

def SessionKey.inputNamespace : SessionKey → String
  | ipv4 key => key.inputNamespace
  | ipv6 key => key.inputNamespace

/-- `NpmSnapshotRow` with its key. `facts` are those of the view. -/
structure SnapshotRow where
  key : SessionKey
  facts : SessionView
  endReason : SessionEndReason
  observedAtNs : Int
  nameBytes : Nat
  deriving DecidableEq

structure SnapshotBatch where
  rows : List SnapshotRow := []
  capacity4 : Nat := 0
  capacity6 : Nat := 0
  rowCapacity : Nat := 0
  stringBytes : Nat := 0
  leaseBytes : Nat := 0
  deriving DecidableEq

/-- Whether the growth of each array succeeds. -/
structure ArrayAllocations where
  keys4 : Bool := true
  keys6 : Bool := true
  rows : Bool := true

/-- Whether the allocations of `Append` succeed. -/
structure AppendAllocations where
  arrays : ArrayAllocations := {}
  name : Bool := true

/-- `std::vector::reserve`: the new capacity, or `none` for `std::bad_alloc`. -/
def reserveCapacity (allocated : Bool) (count capacity : Nat) : Option Nat :=
  if count ≤ capacity then some capacity
  else if allocated then some count
  else none

namespace SnapshotBatch

/-- The number of keys of a family. -/
def keyCount (four : Bool) (batch : SnapshotBatch) : Nat :=
  batch.rows.countP fun row => row.key.isIpv4 == four

/-- `StorageBytes`. -/
def storageBytes (sizes : SnapshotSizes) (batch : SnapshotBatch) : Nat :=
  let bytes := batch.capacity4 * sizes.key4 + batch.capacity6 * sizes.key6 +
    batch.rowCapacity * sizes.row
  (if bytes ≠ 0 then bytes + sizes.batch else bytes) + batch.stringBytes

/-- `NpmSnapshotInputLease::Release`. -/
def releaseLease (bytes : Nat) (batch : SnapshotBatch) (budget : TaskBudget) :
    SnapshotBatch × TaskBudget :=
  ({ batch with leaseBytes := batch.leaseBytes - bytes }, (budget.release .inputBatch bytes).2)

/-- `Clear`. -/
def clear (batch : SnapshotBatch) (budget : TaskBudget) : SnapshotBatch × TaskBudget :=
  ({}, (budget.release .inputBatch batch.leaseBytes).2)

/-- The three calls of `reserve`, the first that fails last. -/
def reserveArrays (allocations : ArrayAllocations) (count4 count6 rows : Nat)
    (batch : SnapshotBatch) : Bool × SnapshotBatch :=
  match reserveCapacity allocations.keys4 count4 batch.capacity4 with
  | none => (false, batch)
  | some capacity4 =>
      match reserveCapacity allocations.keys6 count6 batch.capacity6 with
      | none => (false, { batch with capacity4 := capacity4 })
      | some capacity6 =>
          match reserveCapacity allocations.rows rows batch.rowCapacity with
          | none => (false, { batch with capacity4 := capacity4, capacity6 := capacity6 })
          | some rowCapacity =>
              (true, { batch with
                capacity4 := capacity4
                capacity6 := capacity6
                rowCapacity := rowCapacity })

/-- What `Prepare` reserves in the budget before it lets the arrays grow. -/
def desiredBytes (sizes : SnapshotSizes) (count4 count6 rows : Nat) (batch : SnapshotBatch) : Nat :=
  batch.storageBytes sizes + (max count4 batch.capacity4 - batch.capacity4) * sizes.key4 +
    (max count6 batch.capacity6 - batch.capacity6) * sizes.key6 +
    (max rows batch.rowCapacity - batch.rowCapacity) * sizes.row +
    if batch.leaseBytes = 0 ∧ (count4 ≠ 0 ∨ count6 ≠ 0 ∨ rows ≠ 0) then sizes.batch else 0

/-- The handler of `Prepare`: a lease that the arrays do not use is given back. -/
def returnExcess (sizes : SnapshotSizes) (batch : SnapshotBatch) (budget : TaskBudget) :
    Bool × SnapshotBatch × TaskBudget :=
  if batch.leaseBytes > batch.storageBytes sizes then
    (false, batch.releaseLease (batch.leaseBytes - batch.storageBytes sizes) budget)
  else (false, batch, budget)

/-- `Prepare`; `false` stands for `std::bad_alloc`. -/
def prepare (sizes : SnapshotSizes) (allocations : ArrayAllocations) (count4 count6 rows : Nat)
    (batch : SnapshotBatch) (budget : TaskBudget) : Bool × SnapshotBatch × TaskBudget :=
  if count4 > 2 ^ 32 - 1 ∨ count6 > 2 ^ 32 - 1 ∨ rows > maxUInt64 / sizes.row then
    (false, batch, budget)
  else
    let bytes := batch.desiredBytes sizes count4 count6 rows - batch.leaseBytes
    match budget.reserve .inputBatch bytes with
    | (.none, reserved) =>
        match { batch with leaseBytes := batch.leaseBytes + bytes }.reserveArrays allocations
            count4 count6 rows with
        | (true, grown) =>
            if grown.storageBytes sizes > grown.leaseBytes then
              match reserved.reserve .inputBatch (grown.storageBytes sizes - grown.leaseBytes) with
              | (.none, reserved) =>
                  (true, { grown with leaseBytes := grown.storageBytes sizes }, reserved)
              | (_, reserved) => grown.returnExcess sizes reserved
            else (true, grown, reserved)
        | (false, grown) => grown.returnExcess sizes reserved
    | (_, reserved) => (false, batch, reserved)

/-- The capacity that `Append` asks for. -/
def grow (size capacity : Nat) : Nat := if size = capacity then max 1 (2 * capacity) else capacity

/-- `Append`; `false` stands for `std::bad_alloc`. -/
def append (sizes : SnapshotSizes) (allocations : AppendAllocations) (key : SessionKey)
    (facts : SessionView) (reason : SessionEndReason) (observedAtNs : Int) (batch : SnapshotBatch)
    (budget : TaskBudget) : Bool × SnapshotBatch × TaskBudget :=
  let count4 := if key.isIpv4 then grow (batch.keyCount true) batch.capacity4 else batch.capacity4
  let count6 := if key.isIpv4 then batch.capacity6 else grow (batch.keyCount false) batch.capacity6
  match batch.prepare sizes allocations.arrays count4 count6
      (grow batch.rows.length batch.rowCapacity) budget with
  | (true, prepared, reserved) =>
      let bytes := sizes.nameCapacity key.inputNamespace + 1
      if allocations.name then
        match reserved.reserve .inputBatch bytes with
        | (.none, reserved) =>
            (true,
              { prepared with
                rows := prepared.rows ++ [⟨key, facts, reason, observedAtNs, bytes⟩]
                stringBytes := prepared.stringBytes + bytes
                leaseBytes := prepared.leaseBytes + bytes },
              reserved)
        | (_, reserved) => (false, prepared, reserved)
      else (false, prepared, reserved)
  | failed => failed

/-- `Truncate`. The source releases what the names of the rows hold row by row. -/
def truncate (rows : Nat) (batch : SnapshotBatch) (budget : TaskBudget) :
    SnapshotBatch × TaskBudget :=
  let bytes := ((batch.rows.drop rows).map SnapshotRow.nameBytes).sum
  let (truncated, released) := { batch with
    rows := batch.rows.take rows
    stringBytes := batch.stringBytes - bytes }.releaseLease bytes budget
  if rows = 0 then truncated.clear released else (truncated, released)

/-! ## The rows -/

variable {sizes : SnapshotSizes} {allocations : ArrayAllocations} {batch next : SnapshotBatch}
  {budget after : TaskBudget} {count4 count6 rows : Nat} {done : Bool}

theorem rows_reserveArrays (allocations : ArrayAllocations) (count4 count6 rows : Nat)
    (batch : SnapshotBatch) :
    (batch.reserveArrays allocations count4 count6 rows).2.rows = batch.rows := by
  unfold reserveArrays
  split
  · rfl
  split
  · rfl
  split <;> rfl

theorem rows_returnExcess : (batch.returnExcess sizes budget).2.1.rows = batch.rows := by
  unfold returnExcess
  split <;> rfl

theorem onlyChanges_returnExcess :
    budget.OnlyChanges .inputBatch (batch.returnExcess sizes budget).2.2 := by
  unfold returnExcess
  split
  · exact TaskBudget.onlyChanges_release
  · exact .refl budget

theorem prepare_keeps
    (prepared : batch.prepare sizes allocations count4 count6 rows budget = (done, next, after)) :
    next.rows = batch.rows ∧ budget.OnlyChanges .inputBatch after := by
  unfold prepare at prepared
  split at prepared
  · cases prepared
    exact ⟨rfl, .refl budget⟩
  simp only at prepared
  split at prepared
  · next reserved granted =>
      have reserves := TaskBudget.onlyChanges_reserve granted
      split at prepared
      · next grown arrays =>
          have rowsEq := congrArg (fun result => result.2.rows) arrays
          rw [rows_reserveArrays] at rowsEq
          split at prepared
          · split at prepared
            · next more grantedMore =>
                cases prepared
                exact ⟨rowsEq.symm, reserves.trans (TaskBudget.onlyChanges_reserve grantedMore)⟩
            · next error more _ refused =>
                have returned := @onlyChanges_returnExcess sizes grown more
                rw [prepared] at returned
                exact ⟨(congrArg (fun result => result.2.1.rows) prepared).symm.trans
                    (rows_returnExcess.trans rowsEq.symm),
                  (reserves.trans (TaskBudget.onlyChanges_reserve refused)).trans returned⟩
          · cases prepared
            exact ⟨rowsEq.symm, reserves⟩
      · next grown arrays =>
          have rowsEq := congrArg (fun result => result.2.rows) arrays
          rw [rows_reserveArrays] at rowsEq
          have returned := @onlyChanges_returnExcess sizes grown reserved
          rw [prepared] at returned
          exact ⟨(congrArg (fun result => result.2.1.rows) prepared).symm.trans
              (rows_returnExcess.trans rowsEq.symm), reserves.trans returned⟩
  · next error reserved _ refused =>
      cases prepared
      exact ⟨rfl, TaskBudget.onlyChanges_reserve refused⟩

theorem append_keeps {allocations : AppendAllocations} {key : SessionKey} {facts : SessionView}
    {reason : SessionEndReason} {observedAtNs : Int}
    (appended : batch.append sizes allocations key facts reason observedAtNs budget =
      (done, next, after)) :
    next.rows = batch.rows ++ (if done then
      [⟨key, facts, reason, observedAtNs, sizes.nameCapacity key.inputNamespace + 1⟩] else []) ∧
      budget.OnlyChanges .inputBatch after := by
  unfold append at appended
  simp only at appended
  split at appended
  · next prepared reserved ok =>
      obtain ⟨rowsEq, prepares⟩ := prepare_keeps ok
      split at appended
      · split at appended
        · next more granted =>
            cases appended
            exact ⟨by simp [rowsEq], prepares.trans (TaskBudget.onlyChanges_reserve granted)⟩
        · next error more _ refused =>
            cases appended
            exact ⟨by simp [rowsEq], prepares.trans (TaskBudget.onlyChanges_reserve refused)⟩
      · cases appended
        exact ⟨by simp [rowsEq], prepares⟩
  · next failed =>
      have notDone : done = false := by
        cases done with
        | false => rfl
        | true => exact absurd appended (failed next after)
      obtain ⟨rowsEq, prepares⟩ := prepare_keeps appended
      exact ⟨by simp [rowsEq, notDone], prepares⟩

theorem onlyChanges_clear : budget.OnlyChanges .inputBatch (batch.clear budget).2 :=
  TaskBudget.onlyChanges_release

theorem truncate_keeps (truncated : batch.truncate rows budget = (next, after)) :
    next.rows = batch.rows.take rows ∧ budget.OnlyChanges .inputBatch after := by
  unfold truncate at truncated
  simp only [releaseLease] at truncated
  split at truncated
  · next none_ =>
      cases truncated
      exact ⟨by simp [none_], TaskBudget.onlyChanges_release.trans onlyChanges_clear⟩
  · cases truncated
    exact ⟨rfl, TaskBudget.onlyChanges_release⟩

end SnapshotBatch

end Flowsql.Npm
