import Flowsql.Npm.SessionSnapshots

/-!
# What a snapshot batch is charged for

The lease of a batch is what its arrays and names take, after every operation, whether it
succeeds or not.
-/

namespace Flowsql.Npm

namespace SnapshotBatch

/-- The bytes of the arrays. -/
def arrayBytes (sizes : SnapshotSizes) (batch : SnapshotBatch) : Nat :=
  batch.capacity4 * sizes.key4 + batch.capacity6 * sizes.key6 + batch.rowCapacity * sizes.row

/-- A batch between two operations. -/
structure Leased (sizes : SnapshotSizes) (batch : SnapshotBatch) : Prop where
  lease : batch.leaseBytes = batch.storageBytes sizes
  names : batch.stringBytes = (batch.rows.map SnapshotRow.nameBytes).sum
  fits : batch.rows.length ≤ batch.rowCapacity

/-- The budget holds the lease of the batch and what others hold besides. -/
structure Settles (sizes : SnapshotSizes) (batch : SnapshotBatch) (budget : TaskBudget)
    (next : SnapshotBatch) (after : TaskBudget) : Prop where
  leased : next.Leased sizes
  balance : after.used .inputBatch + batch.leaseBytes = budget.used .inputBatch + next.leaseBytes

variable {sizes : SnapshotSizes} {allocations : ArrayAllocations} {batch next : SnapshotBatch}
  {budget after : TaskBudget} {count4 count6 rows : Nat} {done : Bool}

theorem leased_empty (sizes : SnapshotSizes) : ({} : SnapshotBatch).Leased sizes :=
  ⟨by simp [storageBytes], rfl, Nat.le_refl _⟩

theorem Settles.covered (settles : Settles sizes batch budget next after)
    (covered : batch.leaseBytes ≤ budget.used .inputBatch) :
    next.leaseBytes ≤ after.used .inputBatch := by
  have balance := settles.balance
  omega

theorem Settles.refl (leased : batch.Leased sizes) : Settles sizes batch budget batch budget :=
  ⟨leased, rfl⟩

theorem Settles.trans {middle : SnapshotBatch} {between : TaskBudget}
    (left : Settles sizes batch budget middle between)
    (right : Settles sizes middle between next after) : Settles sizes batch budget next after := by
  refine ⟨right.leased, ?_⟩
  have first := left.balance
  have second := right.balance
  omega

theorem storageBytes_eq : batch.storageBytes sizes =
    (if batch.arrayBytes sizes ≠ 0 then batch.arrayBytes sizes + sizes.batch
      else batch.arrayBytes sizes) + batch.stringBytes := rfl

/-- Names are only held where there are arrays. -/
theorem Leased.arrays (leased : batch.Leased sizes) (named : batch.stringBytes ≠ 0) :
    batch.arrayBytes sizes ≠ 0 := by
  have rowsNe : batch.rows ≠ [] := by
    intro empty
    rw [leased.names, empty] at named
    exact named rfl
  have capacity : 0 < batch.rowCapacity * sizes.row :=
    Nat.mul_pos (Nat.lt_of_lt_of_le (List.length_pos_iff.mpr rowsNe) leased.fits) sizes.row_pos
  unfold arrayBytes
  omega

theorem reserveCapacity_le {allocated : Bool} {count capacity grown : Nat}
    (reserved : reserveCapacity allocated count capacity = some grown) :
    grown = max count capacity := by
  unfold reserveCapacity at reserved
  split at reserved
  · cases reserved
    omega
  · split at reserved
    · cases reserved
      omega
    · cases reserved

/-- How far the arrays have grown: all the way if every reservation succeeded. -/
structure Grows (count4 count6 rows : Nat) (batch next : SnapshotBatch) (done : Bool) : Prop where
  capacity4 : batch.capacity4 ≤ next.capacity4 ∧ next.capacity4 ≤ max count4 batch.capacity4
  capacity6 : batch.capacity6 ≤ next.capacity6 ∧ next.capacity6 ≤ max count6 batch.capacity6
  rowCapacity : batch.rowCapacity ≤ next.rowCapacity ∧ next.rowCapacity ≤ max rows batch.rowCapacity
  complete : done = true → next.capacity4 = max count4 batch.capacity4 ∧
    next.capacity6 = max count6 batch.capacity6 ∧ next.rowCapacity = max rows batch.rowCapacity
  rows : next.rows = batch.rows
  stringBytes : next.stringBytes = batch.stringBytes
  leaseBytes : next.leaseBytes = batch.leaseBytes

theorem reserveArrays_grows
    (reserved : batch.reserveArrays allocations count4 count6 rows = (done, next)) :
    Grows count4 count6 rows batch next done := by
  unfold reserveArrays at reserved
  split at reserved
  · cases reserved
    refine ⟨?_, ?_, ?_, by rintro ⟨⟩, rfl, rfl, rfl⟩ <;> omega
  · next capacity4 ok4 =>
      have grown4 := reserveCapacity_le ok4
      split at reserved
      · cases reserved
        refine ⟨?_, ?_, ?_, by rintro ⟨⟩, rfl, rfl, rfl⟩ <;> dsimp only <;> omega
      · next capacity6 ok6 =>
          have grown6 := reserveCapacity_le ok6
          split at reserved
          · cases reserved
            refine ⟨?_, ?_, ?_, by rintro ⟨⟩, rfl, rfl, rfl⟩ <;> dsimp only <;> omega
          · next rowCapacity ok =>
              have grown := reserveCapacity_le ok
              cases reserved
              refine ⟨?_, ?_, ?_, fun _ => ⟨grown4, grown6, grown⟩, rfl, rfl, rfl⟩ <;>
                dsimp only <;> omega

/-- The bytes by which the arrays grow for these counts. -/
def growth (sizes : SnapshotSizes) (count4 count6 rows : Nat) (batch : SnapshotBatch) : Nat :=
  (max count4 batch.capacity4 - batch.capacity4) * sizes.key4 +
    (max count6 batch.capacity6 - batch.capacity6) * sizes.key6 +
    (max rows batch.rowCapacity - batch.rowCapacity) * sizes.row

theorem Grows.arrayBytes (grows : Grows count4 count6 rows batch next done) :
    batch.arrayBytes sizes ≤ next.arrayBytes sizes ∧
      next.arrayBytes sizes ≤ batch.arrayBytes sizes + batch.growth sizes count4 count6 rows ∧
      (done = true → next.arrayBytes sizes =
        batch.arrayBytes sizes + batch.growth sizes count4 count6 rows) := by
  obtain ⟨added4, eq4⟩ := Nat.exists_eq_add_of_le grows.capacity4.1
  obtain ⟨added6, eq6⟩ := Nat.exists_eq_add_of_le grows.capacity6.1
  obtain ⟨added, eq⟩ := Nat.exists_eq_add_of_le grows.rowCapacity.1
  have le4 : added4 ≤ max count4 batch.capacity4 - batch.capacity4 := by
    have := grows.capacity4.2
    omega
  have le6 : added6 ≤ max count6 batch.capacity6 - batch.capacity6 := by
    have := grows.capacity6.2
    omega
  have le : added ≤ max rows batch.rowCapacity - batch.rowCapacity := by
    have := grows.rowCapacity.2
    omega
  have bytes4 := Nat.mul_le_mul_right sizes.key4 le4
  have bytes6 := Nat.mul_le_mul_right sizes.key6 le6
  have bytes := Nat.mul_le_mul_right sizes.row le
  unfold SnapshotBatch.arrayBytes growth
  rw [eq4, eq6, eq, Nat.add_mul, Nat.add_mul, Nat.add_mul]
  refine ⟨by omega, by omega, fun complete => ?_⟩
  obtain ⟨all4, all6, all⟩ := grows.complete complete
  have same4 : added4 = max count4 batch.capacity4 - batch.capacity4 := by omega
  have same6 : added6 = max count6 batch.capacity6 - batch.capacity6 := by omega
  have same : added = max rows batch.rowCapacity - batch.rowCapacity := by omega
  rw [← same4, ← same6, ← same]
  omega

/-- What is reserved in advance is what the batch takes when its arrays have grown. -/
theorem desiredBytes_eq (leased : batch.Leased sizes) :
    batch.desiredBytes sizes count4 count6 rows =
      (if batch.arrayBytes sizes + batch.growth sizes count4 count6 rows ≠ 0 then
        batch.arrayBytes sizes + batch.growth sizes count4 count6 rows + sizes.batch
      else 0) + batch.stringBytes := by
  have growthEq : batch.desiredBytes sizes count4 count6 rows = batch.storageBytes sizes +
      batch.growth sizes count4 count6 rows +
      if batch.leaseBytes = 0 ∧ (count4 ≠ 0 ∨ count6 ≠ 0 ∨ rows ≠ 0) then sizes.batch else 0 := by
    unfold desiredBytes growth
    omega
  rw [growthEq, storageBytes_eq]
  by_cases empty : batch.arrayBytes sizes = 0
  · have unnamed : batch.stringBytes = 0 := by
      by_contra named
      exact leased.arrays named empty
    have unleased : batch.leaseBytes = 0 := by
      rw [leased.lease, storageBytes_eq]
      simp [empty, unnamed]
    have products := empty
    unfold arrayBytes at products
    have none4 : batch.capacity4 = 0 := by
      have product : batch.capacity4 * sizes.key4 = 0 := by omega
      exact (Nat.mul_eq_zero.mp product).resolve_right (Nat.ne_of_gt sizes.key4_pos)
    have none6 : batch.capacity6 = 0 := by
      have product : batch.capacity6 * sizes.key6 = 0 := by omega
      exact (Nat.mul_eq_zero.mp product).resolve_right (Nat.ne_of_gt sizes.key6_pos)
    have none_ : batch.rowCapacity = 0 := by
      have product : batch.rowCapacity * sizes.row = 0 := by omega
      exact (Nat.mul_eq_zero.mp product).resolve_right (Nat.ne_of_gt sizes.row_pos)
    have grows : batch.growth sizes count4 count6 rows ≠ 0 ↔
        count4 ≠ 0 ∨ count6 ≠ 0 ∨ rows ≠ 0 := by
      unfold growth
      have pos4 := (Nat.ne_of_gt sizes.key4_pos)
      have pos6 := (Nat.ne_of_gt sizes.key6_pos)
      have pos := (Nat.ne_of_gt sizes.row_pos)
      simp only [none4, none6, none_, Nat.max_zero, Nat.sub_zero, ne_eq, Nat.add_eq_zero_iff,
        Nat.mul_eq_zero, pos4, pos6, pos, or_false]
      tauto
    simp only [empty, unnamed, unleased, grows, ne_eq, not_true_eq_false, if_false, Nat.zero_add,
      true_and]
    split <;> simp_all
  · have leasedSome : batch.leaseBytes ≠ 0 := by
      rw [leased.lease, storageBytes_eq, if_pos empty]
      omega
    have some_ : batch.arrayBytes sizes + batch.growth sizes count4 count6 rows ≠ 0 := by omega
    rw [if_pos empty, if_neg (fun both => leasedSome both.1), if_pos some_]
    omega

/-- A lease that covers the batch is cut down to it. -/
theorem returnExcess_settles {outcome : Bool × SnapshotBatch × TaskBudget}
    (enough : batch.storageBytes sizes ≤ batch.leaseBytes)
    (covered : batch.leaseBytes ≤ budget.used .inputBatch)
    (names : batch.stringBytes = (batch.rows.map SnapshotRow.nameBytes).sum)
    (fits : batch.rows.length ≤ batch.rowCapacity)
    (returned : batch.returnExcess sizes budget = outcome) :
    Settles sizes batch budget outcome.2.1 outcome.2.2 := by
  unfold returnExcess at returned
  split at returned
  · have owned : batch.leaseBytes - batch.storageBytes sizes ≤ budget.used .inputBatch := by omega
    unfold releaseLease at returned
    rw [TaskBudget.release_eq owned] at returned
    subst returned
    refine ⟨⟨?_, names, fits⟩, ?_⟩
    · change batch.leaseBytes - (batch.leaseBytes - batch.storageBytes sizes) =
        batch.storageBytes sizes
      omega
    · simp only [TaskBudget.used_withUsed]
      omega
  · next exact_ =>
      subst returned
      exact ⟨⟨by dsimp only; omega, names, fits⟩, rfl⟩

/-- What a batch takes after its arrays have grown was reserved in advance. -/
theorem storageBytes_grows {lease : Nat} (leased : batch.Leased sizes)
    (grows : Grows count4 count6 rows { batch with leaseBytes := lease } next done) :
    next.storageBytes sizes ≤ batch.desiredBytes sizes count4 count6 rows ∧
      (done = true →
        next.storageBytes sizes = batch.desiredBytes sizes count4 count6 rows) := by
  obtain ⟨_, most, complete⟩ := @Grows.arrayBytes sizes _ _ _ _ _ _ grows
  change next.arrayBytes sizes ≤
    batch.arrayBytes sizes + batch.growth sizes count4 count6 rows at most
  change done = true → next.arrayBytes sizes =
    batch.arrayBytes sizes + batch.growth sizes count4 count6 rows at complete
  have named : next.stringBytes = batch.stringBytes := grows.stringBytes
  rw [storageBytes_eq, desiredBytes_eq leased, named]
  constructor
  · split <;> split <;> omega
  · intro ok
    rw [complete ok]
    split <;> omega

theorem prepare_settles (leased : batch.Leased sizes)
    (covered : batch.leaseBytes ≤ budget.used .inputBatch)
    (prepared : batch.prepare sizes allocations count4 count6 rows budget = (done, next, after)) :
    Settles sizes batch budget next after ∧ (done = true → rows ≤ next.rowCapacity) := by
  unfold prepare at prepared
  split at prepared
  · cases prepared
    exact ⟨.refl leased, nofun⟩
  simp only at prepared
  have enough : batch.leaseBytes ≤ batch.desiredBytes sizes count4 count6 rows := by
    rw [leased.lease]
    unfold desiredBytes
    omega
  split at prepared
  · next reserved granted =>
      have used : reserved.used .inputBatch = budget.used .inputBatch +
          (batch.desiredBytes sizes count4 count6 rows - batch.leaseBytes) := by
        rw [TaskBudget.reserve_ok granted]
        exact TaskBudget.used_withUsed
      split at prepared
      · next grown arrays =>
          have grows := reserveArrays_grows arrays
          have storage := (storageBytes_grows leased grows).2 rfl
          have lease : grown.leaseBytes = batch.leaseBytes +
              (batch.desiredBytes sizes count4 count6 rows - batch.leaseBytes) := grows.leaseBytes
          have rowsEq : grown.rows = batch.rows := grows.rows
          have named : grown.stringBytes = batch.stringBytes := grows.stringBytes
          obtain ⟨_, _, room⟩ := grows.complete rfl
          rw [if_neg (by omega)] at prepared
          cases prepared
          refine ⟨⟨⟨by omega, ?_, ?_⟩, by omega⟩, fun _ => room ▸ Nat.le_max_left _ _⟩
          · rw [named, rowsEq]
            exact leased.names
          · rw [rowsEq]
            exact Nat.le_trans leased.fits grows.rowCapacity.1
      · next grown arrays =>
          have grows := reserveArrays_grows arrays
          have storage := (storageBytes_grows leased grows).1
          have lease : grown.leaseBytes = batch.leaseBytes +
              (batch.desiredBytes sizes count4 count6 rows - batch.leaseBytes) := grows.leaseBytes
          have rowsEq : grown.rows = batch.rows := grows.rows
          have named : grown.stringBytes = batch.stringBytes := grows.stringBytes
          have returned := @returnExcess_settles sizes grown reserved _ (by omega) (by omega)
            (by rw [named, rowsEq]; exact leased.names)
            (by rw [rowsEq]; exact Nat.le_trans leased.fits grows.rowCapacity.1) prepared
          refine ⟨⟨returned.leased, ?_⟩, ?_⟩
          · have balance := returned.balance
            simp only at balance
            omega
          · unfold returnExcess at prepared
            split at prepared <;> cases prepared <;> nofun
  · next error reserved notNone refused =>
      cases prepared
      rw [TaskBudget.reserve_error refused notNone]
      exact ⟨.refl leased, nofun⟩

theorem append_settles {allocations : AppendAllocations} {key : SessionKey} {facts : SessionView}
    {reason : SessionEndReason} {observedAtNs : Int} (leased : batch.Leased sizes)
    (covered : batch.leaseBytes ≤ budget.used .inputBatch)
    (appended : batch.append sizes allocations key facts reason observedAtNs budget =
      (done, next, after)) : Settles sizes batch budget next after := by
  unfold append at appended
  simp only at appended
  split at appended
  · next prepared reserved ok =>
      obtain ⟨settles, room⟩ := prepare_settles leased covered ok
      have rowsEq := (prepare_keeps ok).1
      have fits : prepared.rows.length + 1 ≤ prepared.rowCapacity := by
        have grown := room rfl
        have fitted := leased.fits
        rw [rowsEq]
        unfold grow at grown
        split at grown <;> omega
      split at appended
      · split at appended
        · next more granted =>
            cases appended
            refine settles.trans ⟨⟨?_, ?_, ?_⟩, ?_⟩
            · have lease := settles.leased.lease
              simp only [storageBytes] at lease ⊢
              omega
            · simp [settles.leased.names]
            · simpa using fits
            · rw [TaskBudget.reserve_ok granted, TaskBudget.used_withUsed]
              dsimp only
              omega
        · next error more notNone refused =>
            cases appended
            rw [TaskBudget.reserve_error refused notNone]
            exact settles
      · cases appended
        exact settles
  · exact (prepare_settles leased covered appended).1

theorem clear_settles (covered : batch.leaseBytes ≤ budget.used .inputBatch) :
    Settles sizes batch budget (batch.clear budget).1 (batch.clear budget).2 := by
  unfold clear
  rw [TaskBudget.release_eq covered]
  refine ⟨leased_empty sizes, ?_⟩
  simp only [TaskBudget.used_withUsed]
  omega

theorem truncate_settles (leased : batch.Leased sizes)
    (covered : batch.leaseBytes ≤ budget.used .inputBatch)
    (truncated : batch.truncate rows budget = (next, after)) :
    Settles sizes batch budget next after := by
  have split := congrArg (fun names => (names.map SnapshotRow.nameBytes).sum)
    (List.take_append_drop rows batch.rows)
  simp only [List.map_append, List.sum_append] at split
  have lease := leased.lease
  have names := leased.names
  rw [storageBytes_eq] at lease
  unfold truncate releaseLease at truncated
  simp only at truncated
  rw [TaskBudget.release_eq (by omega)] at truncated
  have settles : Settles sizes batch budget
      { batch with
        rows := batch.rows.take rows
        stringBytes := batch.stringBytes -
          ((batch.rows.drop rows).map SnapshotRow.nameBytes).sum
        leaseBytes := batch.leaseBytes - ((batch.rows.drop rows).map SnapshotRow.nameBytes).sum }
      (budget.withUsed .inputBatch (budget.used .inputBatch -
        ((batch.rows.drop rows).map SnapshotRow.nameBytes).sum)) := by
    refine ⟨⟨?_, ?_, ?_⟩, ?_⟩
    · rw [storageBytes_eq]
      change batch.leaseBytes - _ = (if batch.arrayBytes sizes ≠ 0 then
        batch.arrayBytes sizes + sizes.batch else batch.arrayBytes sizes) + (batch.stringBytes - _)
      omega
    · dsimp only
      omega
    · exact Nat.le_trans (List.length_take_le' _ _) leased.fits
    · rw [TaskBudget.used_withUsed]
      dsimp only
      omega
  split at truncated
  · cases truncated
    exact settles.trans (clear_settles (settles.covered covered))
  · cases truncated
    exact settles

end SnapshotBatch

end Flowsql.Npm
