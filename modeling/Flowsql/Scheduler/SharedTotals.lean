import Flowsql.Scheduler.SharedDispatch
import Mathlib

/-!
# The totals of a shared source

The counters of a subscriber are those of the batches that it got and missed. Where a batch goes
to all or to none, every batch of the source is delivered, dropped or in dispatch.
-/

namespace Flowsql.Scheduler

variable {α : Type}

/-! ## Totals -/

/-- The batches that were not got. -/
def missedBatches (offers : List (SourceBatch α × Bool)) : List (SourceBatch α) :=
  (offers.filter fun offer => !offer.2).map Prod.fst

def rowsOf (batches : List (SourceBatch α)) : UInt64 := (batches.map SourceBatch.rows).sum

/-- The counters are the numbers of these batches and rows. -/
structure DeliveryCounters.Counts (counters : DeliveryCounters)
    (delivered dropped : List (SourceBatch α)) : Prop where
  deliveredBatches : counters.deliveredBatches = UInt64.ofNat delivered.length
  deliveredRows : counters.deliveredRows = rowsOf delivered
  droppedBatches : counters.droppedBatches = UInt64.ofNat dropped.length
  droppedRows : counters.droppedRows = rowsOf dropped

theorem rowsOf_append (first second : List (SourceBatch α)) :
    rowsOf (first ++ second) = rowsOf first + rowsOf second := by
  induction first with
  | nil => simp [rowsOf]
  | cons batch rest ih =>
      simp only [rowsOf, List.cons_append, List.map_cons, List.sum_cons] at ih ⊢
      rw [ih, UInt64.add_assoc]

theorem rowsOf_singleton (batch : SourceBatch α) : rowsOf [batch] = batch.rows := by
  simp [rowsOf]

theorem DeliveryCounters.total_counts (offers : List (SourceBatch α × Bool)) :
    (total offers).Counts (gotBatches offers) (missedBatches offers) := by
  induction offers using List.reverseRecOn with
  | nil => exact ⟨rfl, rfl, rfl, rfl⟩
  | append_singleton offers offer ih =>
      obtain ⟨batch, got⟩ := offer
      rw [total_append]
      cases got with
      | true =>
          have gotEq : gotBatches (offers ++ [(batch, true)]) = gotBatches offers ++ [batch] := by
            simp [gotBatches]
          have missedEq : missedBatches (offers ++ [(batch, true)]) = missedBatches offers := by
            simp [missedBatches]
          rw [gotEq, missedEq]
          refine ⟨?_, ?_, ih.droppedBatches, ih.droppedRows⟩
          · rw [List.length_append, UInt64.ofNat_add, ← ih.deliveredBatches]
            rfl
          · rw [rowsOf_append, rowsOf_singleton, ← ih.deliveredRows]
            rfl
      | false =>
          have gotEq : gotBatches (offers ++ [(batch, false)]) = gotBatches offers := by
            simp [gotBatches]
          have missedEq : missedBatches (offers ++ [(batch, false)]) =
              missedBatches offers ++ [batch] := by
            simp [missedBatches]
          rw [gotEq, missedEq]
          refine ⟨ih.deliveredBatches, ih.deliveredRows, ?_, ?_⟩
          · rw [List.length_append, UInt64.ofNat_add, ← ih.droppedBatches]
            rfl
          · rw [rowsOf_append, rowsOf_singleton, ← ih.droppedRows]
            exact congrArg ((total offers).droppedRows + ·) (UInt64.mul_one batch.rows)

/-- The batch in dispatch. -/
def RunPhase.current (phase : RunPhase α) : List (SourceBatch α) :=
  (phase.dispatch?.map Dispatch.batch).toList

theorem current_idle {phase : RunPhase α} (idle : phase.dispatch? = none) : phase.current = [] := by
  rw [RunPhase.current, idle]
  rfl

namespace SharedSourceHub

variable {hub : SharedSourceHub α}

/-- Every batch of the source was delivered or dropped, apart from the one in dispatch. -/
structure Summed (hub : SharedSourceHub α) : Prop where
  coordinated : hub.coordinated = true
  batches : hub.inputBatches = hub.counters.deliveredBatches + hub.counters.droppedBatches +
    UInt64.ofNat hub.phase.current.length
  rows : hub.inputRows = hub.counters.deliveredRows + hub.counters.droppedRows +
    rowsOf hub.phase.current

/-- A batch is taken only while there are subscribers. -/
def targeted (hub : SharedSourceHub α) : HubEvent α → Bool
  | .findTargets _ =>
      match hub.phase with
      | .polled _ => !hub.subscribers.isEmpty
      | _ => true
  | _ => true

theorem created_summed {mode : SharedHubMode} {coordinatedDrop : Bool}
    (coordinated : (created mode coordinatedDrop : SharedSourceHub α).coordinated = true) :
    (created mode coordinatedDrop : SharedSourceHub α).Summed :=
  ⟨coordinated, rfl, rfl⟩

/-- The step counts nothing. -/
theorem Summed.of_same {after : SharedSourceHub α} (summed : hub.Summed)
    (coordinated : after.coordinated = hub.coordinated)
    (inputBatches : after.inputBatches = hub.inputBatches)
    (inputRows : after.inputRows = hub.inputRows) (counters : after.counters = hub.counters)
    (current : after.phase.current = hub.phase.current) : after.Summed := by
  refine ⟨coordinated.trans summed.coordinated, ?_, ?_⟩
  · rw [inputBatches, counters, current]
    exact summed.batches
  · rw [inputRows, counters, current]
    exact summed.rows

theorem Summed.of_idle {phase : RunPhase α} {status : SharedHubStatus} {code : Int}
    {message : String} (summed : hub.Summed) (idle : hub.phase.dispatch? = none)
    (idleAfter : phase.dispatch? = none) :
    ({ hub with
      status := status, errorCode := code, errorMessage := message
      phase := phase } : SharedSourceHub α).Summed := by
  refine summed.of_same rfl rfl rfl rfl ?_
  rw [current_idle idle, current_idle idleAfter]

theorem findTargets_summed (recorded : hub.Recorded) (summed : hub.Summed) {order : List Nat}
    (targeted : hub.targeted (.findTargets order) = true) : (hub.findTargets order).Summed := by
  unfold findTargets
  split
  · next batch polled =>
      split
      · next perm =>
          have some_ : order ≠ [] := by
            rintro rfl
            have all : hub.subscribers.filter SubscriberState.active = hub.subscribers :=
              List.filter_eq_self.mpr recorded.active
            rw [all] at perm
            have none_ := List.map_eq_nil_iff.mp perm.symm.eq_nil
            simp [SharedSourceHub.targeted, polled, none_] at targeted
          rw [if_neg some_, if_pos summed.coordinated]
          have batches := summed.batches
          have rows := summed.rows
          rw [polled] at batches rows
          have settled : hub.inputBatches =
              hub.counters.deliveredBatches + hub.counters.droppedBatches :=
            batches.trans (UInt64.add_zero _)
          have settledRows : hub.inputRows =
              hub.counters.deliveredRows + hub.counters.droppedRows :=
            rows.trans (UInt64.add_zero _)
          refine ⟨summed.coordinated, congrArg (· + 1) settled, ?_⟩
          exact (congrArg (· + batch.rows) settledRows).trans
            (congrArg _ (rowsOf_singleton batch).symm)
      · exact summed
  · exact summed

theorem goOn_summed (recorded : hub.Recorded) (summed : hub.Summed)
    (opened : hub.putsOpen .goOn = true) : hub.goOn.Summed := by
  have noOffering : ∀ dispatch left room delivered dropped,
      hub.phase ≠ .offering dispatch left room delivered dropped := by
    intro dispatch left room delivered dropped offering
    have alike := recorded.alike dispatch (by rw [offering]; rfl)
    rw [offering, summed.coordinated] at alike
    cases alike
  have batches := summed.batches
  have rows := summed.rows
  unfold goOn
  split
  · next phase => exact summed.of_same rfl rfl rfl rfl (by rw [phase]; rfl)
  · next phase =>
      unfold check
      split
      · exact summed.of_same rfl rfl rfl rfl (by rw [phase]; rfl)
      · exact summed.of_same rfl rfl rfl rfl (by rw [phase]; rfl)
  · next dispatch phase =>
      rw [phase] at batches rows
      refine ⟨summed.coordinated, ?_, ?_⟩
      · refine batches.trans (Eq.trans ?_ (UInt64.add_zero _).symm)
        exact UInt64.add_assoc _ _ _
      · refine rows.trans (Eq.trans ?_ (UInt64.add_zero _).symm)
        refine (UInt64.add_assoc _ _ _).trans (congrArg _ (congrArg _ ?_))
        exact (rowsOf_singleton dispatch.batch).trans (UInt64.mul_one _).symm
  · next dispatch phase =>
      rw [phase] at batches rows
      refine ⟨summed.coordinated, ?_, ?_⟩
      · refine batches.trans (Eq.trans ?_ (UInt64.add_zero _).symm)
        change _ + _ + 1 = _ + 1 + _
        ac_rfl
      · refine rows.trans (Eq.trans ?_ (UInt64.add_zero _).symm)
        refine (congrArg _ (rowsOf_singleton dispatch.batch)).trans ?_
        change _ + _ + dispatch.batch.rows = _ + dispatch.batch.rows + _
        ac_rfl
  · next dispatch id left phase =>
      simp only [putsOpen, phase, Bool.and_eq_true, Bool.not_eq_true'] at opened
      unfold putForAll
      simp only [RingInput.put_room opened.1 (recorded.uncancelled id) opened.2, ne_eq,
        not_true_eq_false, if_false]
      exact summed.of_same rfl rfl rfl rfl (by rw [phase]; rfl)
  · next phase => exact absurd phase (noOffering _ _ _ _ _)
  · next phase => exact absurd phase (noOffering _ _ _ _ _)
  · next phase => exact absurd phase (noOffering _ _ _ _ _)
  · next phase => exact summed.of_same rfl rfl rfl rfl (by rw [phase]; rfl)
  · next phase => exact summed.of_same rfl rfl rfl rfl (by rw [phase]; rfl)
  · exact summed

theorem step_summed (recorded : hub.Recorded) (summed : hub.Summed) {event : HubEvent α}
    (opened : hub.putsOpen event = true) (targeted : hub.targeted event = true) :
    (hub.step event).Summed := by
  cases event with
  | addSubscriber runtimeTaskId ready maxSubscribers capacity =>
      simp only [step, addSubscriber]
      split
      · exact summed
      · cases capacity <;> exact summed.of_same rfl rfl rfl rfl rfl
  | markSubscriberReady id => exact summed.of_same rfl rfl rfl rfl rfl
  | start =>
      simp only [step, start]
      split
      · exact summed
      next fresh =>
        split
        · exact summed
        split
        · exact summed
        · exact summed.of_idle (by rw [phase_of_not_started fresh]; rfl) rfl
  | requestStop cancelled => exact summed.of_same rfl rfl rfl rfl rfl
  | removeSubscriber id closeStream =>
      simp only [step, removeSubscriber]
      split
      · exact summed
      · exact summed.of_same rfl rfl rfl rfl rfl
  | goOnRemoving id =>
      simp only [step, goOnRemoving]
      split
      · next action _ _ => cases action <;> exact summed.of_same rfl rfl rfl rfl rfl
      · exact summed
  | consume id =>
      simp only [step, consume]
      split
      · exact summed
      · exact summed.of_same rfl rfl rfl rfl rfl
  | sourceOpened code =>
      simp only [step, sourceOpened]
      split
      · next opening =>
          split <;> exact summed.of_idle (by rw [opening]; rfl) rfl
      · exact summed
  | lookAtStop =>
      simp only [step, lookAtStop]
      split
      · next looping =>
          split <;> exact summed.of_idle (by rw [looping]; rfl) rfl
      · exact summed
  | poll event =>
      simp only [step, poll]
      split
      · next polling =>
          split <;> exact summed.of_idle (by rw [polling]; rfl) rfl
      · exact summed
  | findTargets order => exact findTargets_summed recorded summed targeted
  | goOn => exact goOn_summed recorded summed opened

end SharedSourceHub

end Flowsql.Scheduler
