import Flowsql.Npm.TcpSequenceSpace

/-!
# Failed observations

An observation reserves memory before it changes anything, and releases what it has
reserved when it fails. So a failed one leaves the tracker and the budget as they were.
-/

namespace Flowsql.Npm

namespace TrackerLedger

variable {ledger next : TrackerLedger} {bytes more : Nat} {error : TcpPerformanceError}

/-- The ledger with more bytes reserved. -/
def charge (bytes : Nat) (ledger : TrackerLedger) : TrackerLedger :=
  match ledger.usage with
  | none => ledger
  | some usage =>
      { ledger with
        usage := some (usage.setCounter (usage.counter .moduleState + bytes) .moduleState)
        trackedBytes := ledger.trackedBytes + UInt64.ofNat bytes }

@[simp] theorem charge_zero (ledger : TrackerLedger) : ledger.charge 0 = ledger := by
  obtain ⟨config, usage, trackedBytes⟩ := ledger
  cases usage <;> simp [charge]

theorem charge_charge (ledger : TrackerLedger) (bytes more : Nat) :
    (ledger.charge bytes).charge more = ledger.charge (bytes + more) := by
  obtain ⟨config, usage, trackedBytes⟩ := ledger
  cases usage <;> simp [charge, UInt64.add_assoc, Nat.add_assoc]

/-- What is released as a whole need not be reserved as a whole. -/
theorem release_charge (ledger : TrackerLedger) (bytes : Nat) :
    (ledger.charge bytes).release bytes = ledger := by
  obtain ⟨config, usage, trackedBytes⟩ := ledger
  cases usage with
  | none => rfl
  | some usage =>
      by_cases zero : bytes = 0
      · simp [charge, release, zero]
      · simp [charge, release, zero, releaseNpmBudget_setCounter]

theorem reserve_ok (ok : ledger.reserve bytes = (.none, next)) : next = ledger.charge bytes := by
  unfold reserve at ok
  split at ok
  · cases ok
  · next usage usageEq =>
      split at ok
      · next reserved granted =>
          cases ok
          rw [reserveNpmBudget_ok granted]
          simp [charge, usageEq]
      · cases ok

theorem reserve_error (failed : ledger.reserve bytes = (error, next)) (notNone : error ≠ .none) :
    next = ledger := by
  unfold reserve at failed
  split at failed
  · cases failed
    rfl
  · next usage usageEq =>
      split at failed
      · cases failed
        exact absurd rfl notNone
      · next budgetError kept refusedNone refused =>
          cases failed
          rw [reserveNpmBudget_error refused (fun same => refusedNone same), ← usageEq]

end TrackerLedger

section Staging

variable {sizes : TrackerSizes} {allocations : TrackerAllocations} {ledger next : TrackerLedger}
  {error : TcpPerformanceError} {reserved reservedAfter : Nat}

/-- Whether it fails or not, the count of reserved bytes is right. -/
theorem stageSegment_charge {allocated needed : Bool}
    (staged : stageSegment sizes allocated needed reserved (ledger.charge reserved) =
      (error, reservedAfter, next)) :
    next = ledger.charge reservedAfter ∧ reserved ≤ reservedAfter ∧
      reservedAfter ≤ reserved + sizes.segment := by
  unfold stageSegment at staged
  split at staged
  · split at staged
    · next granted =>
        cases staged
        rw [TrackerLedger.reserve_ok granted, TrackerLedger.charge_charge]
        exact ⟨rfl, Nat.le_add_right _ _, le_rfl⟩
    · next notNone refused =>
        cases staged
        exact ⟨TrackerLedger.reserve_error refused (fun same => notNone same), le_rfl,
          Nat.le_add_right _ _⟩
  · cases staged
    exact ⟨rfl, le_rfl, Nat.le_add_right _ _⟩

theorem stageSegments_ok {newHistory newOutstanding : Bool}
    (staged : stageSegments sizes allocations newHistory newOutstanding ledger =
      (.none, reserved, next)) :
    next = ledger.charge reserved ∧ reserved ≤ 2 * sizes.segment := by
  unfold stageSegments at staged
  split at staged
  · next first firstLedger firstEq =>
      rw [← TrackerLedger.charge_zero ledger] at firstEq
      obtain ⟨rfl, _, firstLe⟩ := stageSegment_charge firstEq
      split at staged
      · next second secondLedger secondEq =>
          cases staged
          obtain ⟨secondEq, _, secondLe⟩ := stageSegment_charge secondEq
          exact ⟨secondEq, by omega⟩
      · next failed _ =>
          cases staged
          exact (failed rfl).elim
  · next failed _ =>
      cases staged
      exact (failed rfl).elim

theorem stageSegments_error {newHistory newOutstanding : Bool}
    (staged : stageSegments sizes allocations newHistory newOutstanding ledger =
      (error, reserved, next)) (notNone : error ≠ .none) : next = ledger := by
  unfold stageSegments at staged
  split at staged
  · next first firstLedger firstEq =>
      rw [← TrackerLedger.charge_zero ledger] at firstEq
      obtain ⟨rfl, _, _⟩ := stageSegment_charge firstEq
      split at staged
      · cases staged
        exact absurd rfl notNone
      · next secondEq =>
          cases staged
          obtain ⟨rfl, _, _⟩ := stageSegment_charge secondEq
          exact TrackerLedger.release_charge ledger _
  · next firstEq =>
      cases staged
      rw [← TrackerLedger.charge_zero ledger] at firstEq
      obtain ⟨rfl, _, _⟩ := stageSegment_charge firstEq
      exact TrackerLedger.release_charge ledger _

end Staging

namespace PerformanceState

variable {sizes : TrackerSizes} {allocations : TrackerAllocations} {maxRanges : Nat}
  {packet : PacketView} {state after : PerformanceState} {ledger next : TrackerLedger}
  {error : TcpPerformanceError}

theorem observePlaced_error {placement : PacketPlacement}
    (failed : observePlaced sizes maxRanges allocations packet placement state ledger =
      (error, after, next)) (notNone : error ≠ .none) : after = state ∧ next = ledger := by
  unfold observePlaced at failed
  simp only at failed
  split at failed
  · cases failed
    exact ⟨rfl, rfl⟩
  · split at failed
    · split at failed
      · split at failed <;> exact absurd (congrArg Prod.fst failed).symm notNone
      · exact absurd (congrArg Prod.fst failed).symm notNone
    · next staged =>
        cases failed
        exact ⟨rfl, stageSegments_error staged notNone⟩

theorem observeRanges_error
    (failed : observeRanges sizes maxRanges allocations packet state ledger =
      (error, after, next)) (notNone : error ≠ .none) : after = state ∧ next = ledger := by
  unfold observeRanges at failed
  split at failed
  · cases failed
    exact ⟨rfl, rfl⟩
  · split at failed
    · exact absurd (congrArg Prod.fst failed).symm notNone
    · exact observePlaced_error failed notNone

theorem observeExisting_error
    (failed : observeExisting sizes maxRanges allocations packet state ledger =
      (error, after, next)) (notNone : error ≠ .none) : after = state ∧ next = ledger := by
  unfold observeExisting at failed
  split at failed
  · cases failed
    exact ⟨rfl, rfl⟩
  · split at failed
    · exact absurd (congrArg Prod.fst failed).symm notNone
    · next ranges =>
        cases failed
        split at ranges
        · exact observeRanges_error ranges notNone
        · exact absurd (congrArg Prod.fst ranges).symm notNone

/-! ## The first packet of a session -/

/-- A session of which no packet was seen: it charges its own storage only. -/
structure Fresh (sizes : TrackerSizes) (state : PerformanceState) : Prop where
  directions : state.directions = fun _ => {}
  sequenceAmbiguous : state.measurementFlags.sequenceAmbiguous = false
  trackedBytes : state.trackedBytes = UInt64.ofNat sizes.session

theorem start_fresh (packet : PacketView) (protocol : UInt8) :
    Fresh sizes (start sizes packet protocol) := by
  unfold start initializeHandshake
  simp only
  split
  · split
    · exact ⟨rfl, rfl, rfl⟩
    split <;> exact ⟨rfl, rfl, rfl⟩
  · exact ⟨rfl, rfl, rfl⟩

theorem releaseSegments_zero : releaseSegments sizes 0 state ledger = (state, ledger) := rfl

theorem markSequenceAmbiguous_fresh (fresh : Fresh sizes state) :
    (markSequenceAmbiguous sizes state ledger).2 = ledger ∧
      (markSequenceAmbiguous sizes state ledger).1.trackedBytes = state.trackedBytes := by
  unfold markSequenceAmbiguous markRttAmbiguous clearOutstanding
  simp [fresh.directions, releaseSegments_zero]

theorem observePlaced_fresh (fresh : Fresh sizes state) {placement : PacketPlacement}
    (nothing : placement.ack = none)
    (ok : observePlaced sizes maxRanges allocations packet placement state ledger =
      (.none, after, next)) :
    ∃ bytes, bytes ≤ 2 * sizes.segment ∧ next = ledger.charge bytes ∧
      after.trackedBytes = state.trackedBytes + UInt64.ofNat bytes := by
  unfold observePlaced at ok
  have scan : ∀ begin end_, (scanRange begin end_ []).mergedRanges = 0 := by
    intro begin end_
    unfold scanRange
    split <;> rfl
  simp only [fresh.directions, scan, nothing] at ok
  split at ok
  · cases ok
  · split at ok
    · next reserved staged stagedEq =>
        obtain ⟨chargeEq, reservedLe⟩ := stageSegments_ok stagedEq
        rw [releaseSegments_zero] at ok
        refine ⟨reserved, reservedLe, ?_, ?_⟩
        · rw [← chargeEq]
          exact (congrArg (fun result => result.2.2) ok).symm
        · exact (congrArg (fun result => result.2.1.trackedBytes) ok).symm
    · next failed _ =>
        cases ok
        exact (failed rfl).elim

theorem observeRanges_fresh (fresh : Fresh sizes state)
    (ok : observeRanges sizes maxRanges allocations packet state ledger = (.none, after, next)) :
    ∃ bytes, bytes ≤ 2 * sizes.segment ∧ next = ledger.charge bytes ∧
      after.trackedBytes = state.trackedBytes + UInt64.ofNat bytes := by
  unfold observeRanges at ok
  rw [if_neg (by simp [fresh.sequenceAmbiguous])] at ok
  split at ok
  · obtain ⟨ledgerEq, trackedEq⟩ := @markSequenceAmbiguous_fresh sizes state ledger fresh
    refine ⟨0, Nat.zero_le _, ?_, ?_⟩
    · rw [TrackerLedger.charge_zero, ← ledgerEq]
      exact (congrArg (fun result => result.2.2) ok).symm
    · rw [← trackedEq]
      simpa using (congrArg (fun result => result.2.1.trackedBytes) ok).symm
  · next placement found =>
      refine observePlaced_fresh fresh ?_ ok
      obtain ⟨_, ack, _, _⟩ := placePacket_some found
      simpa [fresh.directions] using ack

end PerformanceState

namespace TcpPerformanceTracker

variable {allocations : TrackerAllocations} {packet : PacketView} {tracker : TcpPerformanceTracker}

/-- A session that is created and given up again. -/
theorem release_new {sizes : TrackerSizes} {state : PerformanceState}
    {ledger reserved next : TrackerLedger} {bytes : Nat}
    (granted : ledger.reserve sizes.session = (.none, reserved))
    (small : bytes ≤ 2 * sizes.segment) (charged : next = reserved.charge bytes)
    (tracked : state.trackedBytes = UInt64.ofNat sizes.session + UInt64.ofNat bytes) :
    next.release state.trackedBytes.toNat = ledger := by
  have sum : state.trackedBytes.toNat = sizes.session + bytes := by
    have sessionLt := sizes.session_lt
    have segmentLt := sizes.segment_lt
    rw [tracked, ← UInt64.ofNat_add, UInt64.toNat_ofNat', Nat.mod_eq_of_lt (by omega)]
  rw [charged, TrackerLedger.reserve_ok granted, TrackerLedger.charge_charge, sum,
    TrackerLedger.release_charge]

theorem countPacket_trackedBytes (packet : PacketView) (state : PerformanceState) :
    (state.countPacket packet).trackedBytes = state.trackedBytes := by
  unfold PerformanceState.countPacket
  cases packet.direction <;> cases packet.transport.payloadComplete <;> rfl

theorem observeNew_error {sessionId : Nat} {protocol : UInt8}
    (failed : (observeNew allocations packet sessionId protocol tracker).1 ≠ .none) :
    (observeNew allocations packet sessionId protocol tracker).2 = tracker := by
  have fresh := @PerformanceState.start_fresh tracker.sizes packet protocol
  unfold observeNew at failed ⊢
  split
  · next reserved granted =>
      rw [granted] at failed
      simp only at failed ⊢
      split
      · next state next ranges =>
          rw [ranges] at failed
          simp only at failed ⊢
          split
          · next allocated => simp [allocated] at failed
          · have charged : ∃ bytes, bytes ≤ 2 * tracker.sizes.segment ∧
                next = reserved.charge bytes ∧
                state.trackedBytes =
                  UInt64.ofNat tracker.sizes.session + UInt64.ofNat bytes := by
              split at ranges
              · rw [← fresh.trackedBytes]
                exact PerformanceState.observeRanges_fresh fresh ranges
              · cases ranges
                exact ⟨0, Nat.zero_le _, by simp, by simp [fresh.trackedBytes]⟩
            obtain ⟨bytes, small, ledgerEq, trackedEq⟩ := charged
            rw [← countPacket_trackedBytes packet] at trackedEq
            rw [release_new granted small ledgerEq trackedEq]
      · next error state next notNone ranges =>
          have same : state = PerformanceState.start tracker.sizes packet protocol ∧
              next = reserved := by
            split at ranges
            · exact PerformanceState.observeRanges_error ranges fun same => notNone same
            · exact absurd (congrArg Prod.fst ranges).symm fun same => notNone same
          obtain ⟨rfl, rfl⟩ := same
          rw [release_new granted (Nat.zero_le _) (TrackerLedger.charge_zero _).symm
            (by simp [fresh.trackedBytes])]
  · next notNone refused =>
      rw [TrackerLedger.reserve_error refused fun same => notNone same]

/-- `AList.replace` by the value that is there. -/
theorem replace_lookup {sessions : AList fun _ : Nat => PerformanceState} {sessionId : Nat}
    {state : PerformanceState} (found : sessions.lookup sessionId = some state) :
    sessions.replace sessionId state = sessions := by
  apply AList.ext
  exact List.kreplace_self sessions.nodupKeys (AList.mem_lookup_iff.mp found)

/-- A failed observation changes nothing. -/
theorem observe_error {session : SessionView}
    (failed : (tracker.observe allocations packet session).1 ≠ .none) :
    (tracker.observe allocations packet session).2 = tracker := by
  revert failed
  unfold observe
  split
  · exact fun _ => rfl
  split
  · exact fun _ => rfl
  split
  · exact fun _ => rfl
  split
  · exact fun _ => rfl
  split
  · exact fun _ => rfl
  split
  · exact observeNew_error
  · next state found =>
      split
      · exact fun _ => rfl
      · generalize observed : PerformanceState.observeExisting _ _ _ packet state tracker.ledger =
          result
        intro failed
        obtain ⟨error, after, next⟩ := result
        obtain ⟨rfl, rfl⟩ := PerformanceState.observeExisting_error observed failed
        simp only [replace_lookup found]

end TcpPerformanceTracker

end Flowsql.Npm
