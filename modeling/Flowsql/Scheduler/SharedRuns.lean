import Flowsql.Scheduler.SharedAgreement
import Flowsql.Scheduler.SharedEnding

/-!
# Runs of a shared source

Subscribers do not disturb each other as long as no dispatch finds the ring of one closed, and
the counters are those of the batches that were delivered and dropped.
-/

namespace Flowsql.Scheduler

open Flowsql.Library

variable {α : Type}

namespace SharedSourceHub

variable {hub : SharedSourceHub α}

/-! ## Removals -/

/-- What the removal of a subscriber does not touch. -/
structure LeavesAlone (before after : SharedSourceHub α) (id : Nat) : Prop where
  inputs : ∀ other, other ≠ id → after.inputs other = before.inputs other
  subscribers : ∀ subscriber : SubscriberState, subscriber.id ≠ id →
    (subscriber ∈ after.subscribers ↔ subscriber ∈ before.subscribers)
  record : after.record = before.record
  phase : after.phase = before.phase
  status : after.status = before.status
  counters : after.counters = before.counters

theorem LeavesAlone.refl (hub : SharedSourceHub α) (id : Nat) : hub.LeavesAlone hub id :=
  ⟨fun _ _ => rfl, fun _ _ => Iff.rfl, rfl, rfl, rfl, rfl⟩

theorem removeSubscriber_leavesAlone (id : Nat) (closeStream : Bool) :
    hub.LeavesAlone (hub.removeSubscriber id closeStream) id := by
  unfold removeSubscriber
  split
  · exact .refl hub id
  · refine ⟨fun _ _ => rfl, fun subscriber other => ?_, rfl, rfl, rfl, rfl⟩
    simp [other]

theorem removalAction_leavesAlone (id : Nat) (action : RemovalAction) :
    hub.LeavesAlone (hub.removalAction id action) id := by
  have untouched : ∀ input other, other ≠ id → (hub.setInput id input).inputs other =
      hub.inputs other := by
    intro input other apart
    simp [setInput, apart]
  cases action with
  | closeStream => exact ⟨untouched _, fun _ _ => Iff.rfl, rfl, rfl, rfl, rfl⟩
  | close => exact ⟨untouched _, fun _ _ => Iff.rfl, rfl, rfl, rfl, rfl⟩
  | requestStop => exact ⟨fun _ _ => rfl, fun _ _ => Iff.rfl, rfl, rfl, rfl, rfl⟩

theorem goOnRemoving_leavesAlone (id : Nat) : hub.LeavesAlone (hub.goOnRemoving id) id := by
  unfold goOnRemoving
  split
  · next action _ _ => exact { removalAction_leavesAlone id action with }
  · exact .refl hub id

/-! ## Failures -/

theorem goOn_status (recorded : hub.Recorded) (opened : hub.putsOpen .goOn = true) :
    hub.goOn.status = hub.status := by
  unfold goOn
  split
  · rfl
  · unfold check
    split <;> rfl
  · rfl
  · rfl
  · next dispatch id left phase =>
      simp only [putsOpen, phase, Bool.and_eq_true, Bool.not_eq_true'] at opened
      unfold putForAll
      simp only [RingInput.put_room opened.1 (recorded.uncancelled id) opened.2, ne_eq,
        not_true_eq_false, if_false]
      rfl
  · rfl
  · unfold look
    split <;> rfl
  · next dispatch id left delivered dropped phase =>
      simp only [putsOpen, phase] at opened
      unfold putForOne
      cases full : (hub.inputs id).isFull with
      | true =>
          simp only [RingInput.put_full opened (recorded.uncancelled id) full, if_true]
          rfl
      | false =>
          have put : (0 : Int) ≠ EAGAIN := by decide
          simp only [RingInput.put_room opened (recorded.uncancelled id) full, if_neg put, ne_eq,
            not_true_eq_false, if_false]
          rfl
  · rfl
  · rfl
  · rfl

/-- Only the source makes the hub fail. -/
theorem step_failed (recorded : hub.Recorded) {event : HubEvent α}
    (opened : hub.putsOpen event = true) (failed : (hub.step event).status = .failed) :
    hub.status = .failed ∨ (∃ err errMsg, event = .poll (.error err errMsg)) ∨
      ∃ code, event = .sourceOpened code := by
  cases event with
  | sourceOpened code => exact .inr (.inr ⟨code, rfl⟩)
  | addSubscriber runtimeTaskId ready maxSubscribers capacity =>
      refine .inl ?_
      simp only [step, addSubscriber] at failed
      split at failed
      · exact failed
      · cases capacity <;> exact failed
  | markSubscriberReady id => exact .inl failed
  | start =>
      refine .inl ?_
      simp only [step, start] at failed
      split at failed
      · exact failed
      split at failed
      · exact failed
      split at failed
      · exact failed
      · cases failed
  | requestStop cancelled => exact .inl failed
  | removeSubscriber id closeStream =>
      exact .inl ((removeSubscriber_leavesAlone id closeStream).status.symm.trans failed)
  | goOnRemoving id => exact .inl ((goOnRemoving_leavesAlone id).status.symm.trans failed)
  | consume id =>
      refine .inl ?_
      simp only [step, consume] at failed
      split at failed <;> exact failed
  | lookAtStop =>
      refine .inl ?_
      simp only [step, lookAtStop] at failed
      split at failed
      · split at failed
        · simp only [finish] at failed
          split at failed <;> cases failed
        · exact failed
      · exact failed
  | poll event =>
      cases event with
      | error err errMsg => exact .inr (.inl ⟨err, errMsg, rfl⟩)
      | timeout | eof | drainedAfterCancel =>
          refine .inl ?_
          simp only [step, poll] at failed
          split at failed
          · first | exact failed | cases failed
          · exact failed
      | data batch =>
          refine .inl ?_
          simp only [step, poll] at failed
          cases batch <;> (split at failed <;> exact failed)
  | findTargets order =>
      refine .inl ?_
      simp only [step, findTargets] at failed
      split at failed
      · split at failed <;> exact failed
      · exact failed
  | goOn => exact .inl ((goOn_status recorded opened).symm.trans failed)

/-! ## Runs -/

/-- The subscribers of a hub do not disturb each other. -/
structure Isolated (hub : SharedSourceHub α) : Prop where
  /-- A subscriber is offered batches without a gap from its joining on. -/
  contiguous : ∀ id,
    (hub.record.offered id).map Prod.fst <+: hub.record.taken.drop (hub.record.joinedAt id)
  /-- While it is there, it is offered all of them. -/
  complete : ∀ subscriber ∈ hub.subscribers,
    (hub.record.offered subscriber.id).map Prod.fst ++ hub.phase.awaited subscriber.id =
      hub.record.taken.drop (hub.record.joinedAt subscriber.id)
  /-- It gets what was not dropped, in order. -/
  queued : ∀ id, hub.record.received id ++ (hub.inputs id).batches =
    gotBatches (hub.record.offered id)
  dropped : ∀ subscriber ∈ hub.subscribers, ∃ counted,
    hub.record.offered subscriber.id = counted ++ hub.phase.uncounted subscriber.id ∧
      subscriber.counters.Counts (gotBatches counted) (missedBatches counted)
  removed : ∀ id closeStream, hub.LeavesAlone (hub.step (.removeSubscriber id closeStream)) id ∧
    hub.LeavesAlone (hub.step (.goOnRemoving id)) id
  failed : ∀ event, hub.isolates event = true → (hub.step event).status = .failed →
    hub.status = .failed ∨ (∃ err errMsg, event = .poll (.error err errMsg)) ∨
      ∃ code, event = .sourceOpened code
  /-- A removal stops the hub only if nobody is left. -/
  stopped : hub.stopRequested = true → hub.record.stopAsked = true ∨ hub.subscribers = []
  /-- A hub that ends has closed the inputs of all subscribers, or still goes through them. -/
  closed : hub.status.isTerminal = true → ∀ subscriber ∈ hub.subscribers,
    (hub.inputs subscriber.id).finished = true ∨
      ∃ left, hub.phase = .closing left ∧ subscriber.id ∈ left

theorem Recorded.each (recorded : hub.Recorded) {subscriber : SubscriberState}
    (member : subscriber ∈ hub.subscribers) : ∃ counted,
      hub.record.offered subscriber.id = counted ++ hub.phase.uncounted subscriber.id ∧
        subscriber.counters.Counts (gotBatches counted) (missedBatches counted) := by
  obtain ⟨counted, split_, total⟩ := recorded.counted subscriber member
  exact ⟨counted, split_, total ▸ DeliveryCounters.total_counts counted⟩

theorem Recorded.isolated (recorded : hub.Recorded) (ends : hub.Ending) : hub.Isolated where
  contiguous := recorded.contiguous
  complete := fun subscriber member =>
    recorded.complete subscriber.id (.inl (List.mem_map_of_mem member))
  queued := recorded.queued
  dropped := fun _ member => recorded.each member
  removed := fun id closeStream =>
    ⟨removeSubscriber_leavesAlone id closeStream, goOnRemoving_leavesAlone id⟩
  failed := by
    intro event isolates
    simp only [SharedSourceHub.isolates, Bool.and_eq_true] at isolates
    exact step_failed recorded isolates.1.1.1.1
  stopped := by
    intro stop
    refine (ends.stops stop).imp_right ?_
    rintro ⟨removal, member, empty⟩
    exact ends.emptied removal member empty
  closed := by
    intro terminal subscriber member
    rw [ends.terminal] at terminal
    unfold RunPhase.ending at terminal
    split at terminal
    · next left closing =>
        refine (ends.closing left closing subscriber member).symm.imp_right fun there => ?_
        exact ⟨left, closing, there⟩
    · next returned => exact .inl (ends.returned returned subscriber member)
    · cases terminal

/-- Subscribers that join and leave do not disturb the others if every `Put` finds an open
ring, nobody joins a dispatch that goes to all or a hub that was emptied, the source opens, and
every ring has more than one slot. -/
theorem subscribers_isolated (mode : SharedHubMode) (coordinatedDrop : Bool)
    (events : List (HubEvent α))
    (isolated : Guarded step (fun hub event => hub.isolates event = true)
      (created mode coordinatedDrop) events) :
    ((created mode coordinatedDrop).run events).Isolated := by
  have sound : ((created mode coordinatedDrop).run events).Recorded ∧
      ((created mode coordinatedDrop).run events).Ending := by
    refine @Guarded.invariant _ _ step (fun hub event => hub.isolates event = true) _
      (fun hub : SharedSourceHub α => hub.Recorded ∧ hub.Ending) events ?_
      ⟨created_recorded mode coordinatedDrop, created_ending mode coordinatedDrop⟩ isolated
    intro hub event kept isolates
    have parts := isolates
    simp only [SharedSourceHub.isolates, Bool.and_eq_true] at parts
    exact ⟨step_recorded kept.1 parts.1.1.1.1 parts.1.1.1.2, step_ending kept.1 kept.2 isolates⟩
  exact sound.1.isolated sound.2

/-- The second subscriber leaves after it has got the batch, and before the batch is counted. -/
def leavingRun : List (HubEvent Nat) :=
  [.addSubscriber "first" true 0 (some 4), .start, .sourceOpened 0, .lookAtStop,
   .addSubscriber "second" true 0 (some 4), .poll (.data (some ⟨7, 3⟩)), .findTargets [2, 1],
   .goOn, .goOn, .removeSubscriber 2 true, .goOn, .goOn, .goOn, .goOnRemoving 2,
   .goOnRemoving 2, .lookAtStop]

theorem subscribers_isolated_leaving : ((created .dynamic false).run leavingRun).Isolated :=
  subscribers_isolated .dynamic false leavingRun (by decide)

/-- The second subscriber leaves before it gets the batch, while a third one joins. -/
def withdrawnRun : List (HubEvent Nat) :=
  [.addSubscriber "first" true 0 (some 4), .start, .sourceOpened 0, .lookAtStop,
   .addSubscriber "second" true 0 (some 4), .poll (.data (some ⟨7, 3⟩)), .findTargets [1, 2],
   .goOn, .goOn, .removeSubscriber 2 true, .addSubscriber "third" true 0 (some 4),
   .goOnRemoving 2, .goOnRemoving 2, .goOn, .goOn, .goOn, .goOn, .goOn]

/-- The source is not opened. -/
def unopenedRun : List (HubEvent Nat) :=
  [.addSubscriber "first" true 0 (some 4), .start, .sourceOpened 13]

/-- A removal makes the hub fail and leaves a subscriber with an open input, and so does a source
that is not opened. -/
theorem removal_fails_hub :
    (((created .dynamic false).run withdrawnRun).status = .failed ∧
      ((created .dynamic false).run withdrawnRun).errorMessage = "shared source dispatch failed" ∧
      ((created .dynamic false).run withdrawnRun).phase = .returned ∧
      3 ∈ ((created .dynamic false).run withdrawnRun).subscribers.map SubscriberState.id ∧
      (((created .dynamic false).run withdrawnRun).inputs 3).finished = false) ∧
    ((created .dynamic false).run unopenedRun).status = .failed ∧
      ((created .dynamic false).run unopenedRun).phase = .returned ∧
      1 ∈ ((created .dynamic false).run unopenedRun).subscribers.map SubscriberState.id ∧
      (((created .dynamic false).run unopenedRun).inputs 1).finished = false := by
  decide

/-! ## Counters -/

/-- A subscriber got its batches in order, and its counters are those of what it got and missed
before the batch in dispatch. -/
structure Accounted (hub : SharedSourceHub α) : Prop where
  complete : ∀ subscriber ∈ hub.subscribers,
    (hub.record.offered subscriber.id).map Prod.fst ++ hub.phase.awaited subscriber.id =
      hub.record.taken.drop (hub.record.joinedAt subscriber.id)
  queued : ∀ id, hub.record.received id ++ (hub.inputs id).batches =
    gotBatches (hub.record.offered id)
  counted : ∀ subscriber ∈ hub.subscribers, ∃ counted,
    hub.record.offered subscriber.id = counted ++ hub.phase.uncounted subscriber.id ∧
      subscriber.counters.Counts (gotBatches counted) (missedBatches counted)

/-- Every batch went to all subscribers or to none, and the one in dispatch will. -/
structure Undivided (hub : SharedSourceHub α) : Prop where
  shared : ∃ shared, hub.record.taken = shared.map Prod.fst ++ hub.phase.current ∧
    hub.counters.Counts (gotBatches shared) (missedBatches shared) ∧
      ∀ subscriber ∈ hub.subscribers,
        hub.record.offered subscriber.id = shared ++ hub.phase.uncounted subscriber.id
  puts : ∀ dispatch left, hub.phase = .puttingAll dispatch left →
    ∀ id ∈ left, ((hub.inputs id).put dispatch.batch).1 = 0
  same : hub.phase.current = [] → ∀ first ∈ hub.subscribers, ∀ second ∈ hub.subscribers,
    hub.record.received first.id ++ (hub.inputs first.id).batches =
      hub.record.received second.id ++ (hub.inputs second.id).batches

theorem Recorded.accounted (recorded : hub.Recorded) : hub.Accounted where
  complete := fun subscriber member =>
    recorded.complete subscriber.id (.inl (List.mem_map_of_mem member))
  queued := recorded.queued
  counted := fun _ member => recorded.each member

theorem uncounted_between {phase : RunPhase α} (between : phase.current = []) (id : Nat) :
    phase.uncounted id = [] := by
  apply RunPhase.uncounted_idle
  cases dispatch : phase.dispatch? with
  | none => rfl
  | some dispatched => simp [RunPhase.current, dispatch] at between

theorem Agreed.undivided (recorded : hub.Recorded) (agreed : hub.Agreed) : hub.Undivided := by
  obtain ⟨shared, shares⟩ := agreed.shared
  constructor
  · refine ⟨shared, shares.taken, ?_, shares.offered⟩
    rw [shares.counters]
    exact DeliveryCounters.total_counts shared
  · intro dispatch left putting id member
    rw [RingInput.put_room (agreed.opened id) (recorded.uncancelled id)
      (agreed.room dispatch left putting id member)]
  · intro between first firstThere second secondThere
    have got : ∀ subscriber ∈ hub.subscribers,
        hub.record.received subscriber.id ++ (hub.inputs subscriber.id).batches =
          gotBatches shared := by
      intro subscriber member
      rw [recorded.queued, shares.offered subscriber member, uncounted_between between,
        List.append_nil]
    rw [got first firstThere, got second secondThere]

/-- What a fixed hub keeps while no subscriber is removed. -/
theorem step_undivided (recorded : hub.Recorded) (agreed : hub.Agreed) (summed : hub.Summed)
    {event : HubEvent α} (stays : hub.stays event = true) :
    (hub.step event).Recorded ∧ (hub.step event).Agreed ∧ (hub.step event).Summed := by
  obtain ⟨opened, between⟩ := agreed.undisturbed recorded event
  have targeted : hub.targeted event = true := by
    cases event with
    | findTargets order =>
        unfold SharedSourceHub.targeted
        simp only
        split
        · next polled =>
            simp [agreed.inhabited_of_begun polled (by rintro ⟨⟩)]
        · rfl
    | _ => rfl
  exact ⟨step_recorded recorded opened between, step_agreed recorded agreed stays,
    step_summed recorded summed opened targeted⟩

/-- No `Put` finds a closed ring or, in a batch for all, a full one, and nobody joins a batch
for all. -/
def undisturbed (hub : SharedSourceHub α) (event : HubEvent α) : Bool :=
  hub.putsOpen event && hub.joinsBetween event && roomy event

/-- The batches of a fixed hub go to all members or to none while no member is removed, and the
counters are those of the batches; with members that leave, they are as long as no `Put` finds a
closed ring. -/
theorem deliveries_counted (mode : SharedHubMode) (coordinatedDrop : Bool)
    (events : List (HubEvent α)) :
    (mode = .fixed →
      Guarded step (fun hub event => (hub.stays event && roomy event) = true)
        (created mode coordinatedDrop) events →
      ((created mode coordinatedDrop).run events).Undivided ∧
        ((created mode coordinatedDrop).run events).Summed ∧
        ((created mode coordinatedDrop).run events).Accounted) ∧
    (Guarded step (fun hub event => hub.undisturbed event = true)
        (created mode coordinatedDrop) events →
      ((created mode coordinatedDrop).run events).Accounted) ∧
    ((created mode coordinatedDrop : SharedSourceHub α).coordinated = true →
      Guarded step (fun hub event => (hub.undisturbed event && hub.targeted event) = true)
        (created mode coordinatedDrop) events →
      ((created mode coordinatedDrop).run events).Summed) := by
  have begins := @created_recorded α mode coordinatedDrop
  refine ⟨?_, ?_, ?_⟩
  · rintro rfl guarded
    have sound := @Guarded.invariant _ _ step _ _
      (fun hub : SharedSourceHub α => hub.Recorded ∧ hub.Agreed ∧ hub.Summed) events
      (fun hub event kept meets =>
        step_undivided kept.1 kept.2.1 kept.2.2 (Bool.and_eq_true_iff.mp meets).1)
      ⟨begins, created_agreed coordinatedDrop, created_summed (Bool.or_true _)⟩ guarded
    exact ⟨sound.2.1.undivided sound.1, sound.2.2, sound.1.accounted⟩
  · intro guarded
    refine Recorded.accounted (@Guarded.invariant _ _ step _ _
      (fun hub : SharedSourceHub α => hub.Recorded) events ?_ begins guarded)
    intro hub event recorded meets
    simp only [SharedSourceHub.undisturbed, Bool.and_eq_true] at meets
    exact step_recorded recorded meets.1.1 meets.1.2
  · intro coordinated guarded
    refine (@Guarded.invariant _ _ step _ _
      (fun hub : SharedSourceHub α => hub.Recorded ∧ hub.Summed) events ?_
      ⟨begins, created_summed coordinated⟩ guarded).2
    intro hub event kept meets
    simp only [SharedSourceHub.undisturbed, Bool.and_eq_true] at meets
    exact ⟨step_recorded kept.1 meets.1.1.1 meets.1.1.2,
      step_summed kept.1 kept.2 meets.1.1.1 meets.2⟩

/-- Two members get a batch, and one of them reads it. -/
def fixedRun : List (HubEvent Nat) :=
  [.addSubscriber "first" true 0 (some 4), .addSubscriber "second" true 0 (some 4), .start,
   .sourceOpened 0, .lookAtStop, .poll (.data (some ⟨7, 3⟩)), .findTargets [2, 1], .goOn, .goOn,
   .goOn, .goOn, .goOn, .goOn, .consume 1]

theorem deliveries_counted_fixed :
    (((created .fixed true).run fixedRun).Undivided ∧ ((created .fixed true).run fixedRun).Summed ∧
      ((created .fixed true).run fixedRun).Accounted) ∧
    ((created .dynamic false).run leavingRun).Accounted ∧
    ((created .fixed true).run fixedRun).Summed :=
  ⟨(deliveries_counted .fixed true fixedRun).1 rfl (by decide),
    (deliveries_counted .dynamic false leavingRun).2.1 (by decide),
    (deliveries_counted .fixed true fixedRun).2.2 rfl (by decide)⟩

/-- A subscriber joins while a batch goes to all. -/
def joiningRun : List (HubEvent Nat) :=
  [.addSubscriber "first" true 0 (some 4), .start, .sourceOpened 0, .lookAtStop,
   .poll (.data (some ⟨7, 3⟩)), .findTargets [1], .goOn, .addSubscriber "second" true 0 (some 4),
   .goOn, .goOn, .goOn]

/-- A batch that was put is not counted once another subscriber is removed, and one that joins a
batch for all is said to have got it. -/
theorem delivery_not_counted :
    (((created .dynamic false).run withdrawnRun).phase = .returned ∧
      (((created .dynamic false).run withdrawnRun).inputs 1).batches = [⟨7, 3⟩] ∧
      ((created .dynamic false).run withdrawnRun).subscribers.head?.map SubscriberState.counters =
        some { deliveredBatches := 0 }) ∧
    ((created .dynamic true).run joiningRun).phase = .looping ∧
      (((created .dynamic true).run joiningRun).inputs 2).batches = [] ∧
      ((created .dynamic true).run joiningRun).subscribers.getLast?.map SubscriberState.counters =
        some { deliveredBatches := 1, deliveredRows := 3 } := by
  decide

end SharedSourceHub

end Flowsql.Scheduler
