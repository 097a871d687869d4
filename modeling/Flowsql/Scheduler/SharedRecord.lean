import Flowsql.Scheduler.SharedSourceHub
import Mathlib

/-!
# The record of a shared source

What the record of a hub says in every state. A subscriber was offered every batch since it
joined, it got those that are in its queue or that it has read, and its counters are the totals
of what it was offered.
-/

namespace Flowsql.Scheduler

variable {α : Type}

/-! ## Counters -/

/-- The counters after an offer. -/
def DeliveryCounters.offer (counters : DeliveryCounters) (offer : SourceBatch α × Bool) :
    DeliveryCounters :=
  if offer.2 then counters.deliver offer.1.rows else counters.drop 1 offer.1.rows

/-- The totals of all offers. -/
def DeliveryCounters.total (offers : List (SourceBatch α × Bool)) : DeliveryCounters :=
  offers.foldl DeliveryCounters.offer {}

theorem DeliveryCounters.total_append (first second : List (SourceBatch α × Bool)) :
    DeliveryCounters.total (first ++ second) =
      second.foldl DeliveryCounters.offer (DeliveryCounters.total first) :=
  List.foldl_append

/-- The batches that were got. -/
def gotBatches (offers : List (SourceBatch α × Bool)) : List (SourceBatch α) :=
  (offers.filter Prod.snd).map Prod.fst

/-! ## Inputs -/

namespace RingInput

variable {input : RingInput α} {batch : SourceBatch α}

/-- The batches in the ring. -/
def batches (input : RingInput α) : List (SourceBatch α) := input.queue.reduceOption

@[simp] theorem batches_closeStream : input.closeStream.batches = input.batches := by
  unfold closeStream batches
  split
  · rfl
  · split
    · rfl
    · simp [List.reduceOption_append]

@[simp] theorem batches_close : input.close.batches = input.batches := rfl

@[simp] theorem cancelRequested_closeStream :
    input.closeStream.cancelRequested = input.cancelRequested := by
  unfold closeStream
  split <;> rfl

theorem put_full (opened : input.opened = true) (uncancelled : input.cancelRequested = false)
    (full : input.isFull = true) : input.put batch = (EAGAIN, input) := by
  simp [put, opened, uncancelled, full]

theorem put_room (opened : input.opened = true) (uncancelled : input.cancelRequested = false)
    (room : input.isFull = false) :
    input.put batch = (0, { input with queue := input.queue ++ [some batch] }) := by
  simp [put, opened, uncancelled, room]

end RingInput

/-! ## Phases -/

namespace RunPhase

/-- The dispatch of the phase. -/
def dispatch? : RunPhase α → Option (Dispatch α)
  | .checking dispatch _ | .refusing dispatch | .puttingAll dispatch _
  | .offering dispatch _ _ _ _ => some dispatch
  | _ => none

/-- What a subscriber is still to be offered. -/
def awaited (id : Nat) : RunPhase α → List (SourceBatch α)
  | .checking dispatch _ => if id ∈ dispatch.targets then [dispatch.batch] else []
  | .puttingAll dispatch left => if id ∈ left then [dispatch.batch] else []
  | .offering dispatch left _ _ _ => if id ∈ left then [dispatch.batch] else []
  | _ => []

/-- What a subscriber was offered and is still to be counted. -/
def uncounted (id : Nat) : RunPhase α → List (SourceBatch α × Bool)
  | .refusing dispatch => if id ∈ dispatch.targets then [(dispatch.batch, false)] else []
  | .puttingAll dispatch left =>
      if id ∈ dispatch.targets ∧ id ∉ left then [(dispatch.batch, true)] else []
  | .offering dispatch _ _ delivered dropped =>
      if id ∈ delivered then [(dispatch.batch, true)]
      else if id ∈ dropped then [(dispatch.batch, false)] else []
  | _ => []

/-- Every target is in one place. -/
def Shaped : RunPhase α → Prop
  | .checking dispatch left => dispatch.targets.Nodup ∧ left ⊆ dispatch.targets
  | .refusing dispatch => dispatch.targets.Nodup
  | .puttingAll dispatch left =>
      dispatch.targets.Nodup ∧ left.Nodup ∧ left ⊆ dispatch.targets
  | .offering dispatch left _ delivered dropped =>
      (left ++ (delivered ++ dropped)).Nodup ∧
        ∀ id, id ∈ dispatch.targets ↔ id ∈ left ++ (delivered ++ dropped)
  | _ => True

/-- All targets are treated alike in these phases. -/
def alike : RunPhase α → Bool
  | .checking _ _ | .refusing _ | .puttingAll _ _ => true
  | _ => false

theorem awaited_idle {phase : RunPhase α} (idle : phase.dispatch? = none) (id : Nat) :
    phase.awaited id = [] := by
  cases phase <;> first | rfl | cases idle

theorem uncounted_idle {phase : RunPhase α} (idle : phase.dispatch? = none) (id : Nat) :
    phase.uncounted id = [] := by
  cases phase <;> first | rfl | cases idle

theorem shaped_idle {phase : RunPhase α} (idle : phase.dispatch? = none) : phase.Shaped := by
  cases phase <;> trivial

/-- Only targets await a batch. -/
theorem target_of_awaited {phase : RunPhase α} {id : Nat} (shaped : phase.Shaped)
    (awaits : phase.awaited id ≠ []) :
    ∃ dispatch, phase.dispatch? = some dispatch ∧ id ∈ dispatch.targets := by
  cases phase with
  | checking dispatch left => exact ⟨dispatch, rfl, by simpa [awaited] using awaits⟩
  | puttingAll dispatch left =>
      exact ⟨dispatch, rfl, shaped.2.2 (by simpa [awaited] using awaits)⟩
  | offering dispatch left room delivered dropped =>
      have waiting : id ∈ left := by simpa [awaited] using awaits
      exact ⟨dispatch, rfl, (shaped.2 id).mpr (List.mem_append_left _ waiting)⟩
  | _ => exact absurd rfl awaits

/-- Only targets have been offered a batch. -/
theorem target_of_uncounted {phase : RunPhase α} {id : Nat} (shaped : phase.Shaped)
    (offered : phase.uncounted id ≠ []) :
    ∃ dispatch, phase.dispatch? = some dispatch ∧ id ∈ dispatch.targets := by
  cases phase with
  | refusing dispatch => exact ⟨dispatch, rfl, by simpa [uncounted] using offered⟩
  | puttingAll dispatch left =>
      have target : id ∈ dispatch.targets ∧ id ∉ left := by simpa [uncounted] using offered
      exact ⟨dispatch, rfl, target.1⟩
  | offering dispatch left room delivered dropped =>
      refine ⟨dispatch, rfl, (shaped.2 id).mpr (List.mem_append_right _ ?_)⟩
      rw [List.mem_append]
      by_contra neither
      rw [not_or] at neither
      exact offered (by simp [uncounted, neither.1, neither.2])
  | _ => exact absurd rfl offered

end RunPhase

namespace SharedSourceHub

variable {hub after : SharedSourceHub α} {batch : SourceBatch α}

/-- What the record says about the subscribers. -/
structure Recorded (hub : SharedSourceHub α) : Prop where
  distinct : (hub.subscribers.map SubscriberState.id).Nodup
  issued : ∀ subscriber ∈ hub.subscribers, subscriber.id ≤ hub.subscriberSeq
  active : ∀ subscriber ∈ hub.subscribers, subscriber.active = true
  uncancelled : ∀ id, (hub.inputs id).cancelRequested = false
  unissued : ∀ id, hub.subscriberSeq < id → hub.record.offered id = []
  shaped : hub.phase.Shaped
  targets : ∀ dispatch, hub.phase.dispatch? = some dispatch →
    ∀ id ∈ dispatch.targets, id ≤ hub.subscriberSeq
  alike : ∀ dispatch, hub.phase.dispatch? = some dispatch → hub.phase.alike = hub.coordinated
  /-- The subscribers are all targets when a batch goes to all or to none. -/
  covered : hub.coordinated = true → ∀ dispatch, hub.phase.dispatch? = some dispatch →
    ∀ subscriber ∈ hub.subscribers, subscriber.id ∈ dispatch.targets
  joined : ∀ id, hub.record.joinedAt id ≤ hub.record.taken.length
  contiguous : ∀ id,
    (hub.record.offered id).map Prod.fst <+: hub.record.taken.drop (hub.record.joinedAt id)
  /-- A subscriber that is there was offered all batches since it joined. -/
  complete : ∀ id, id ∈ hub.subscribers.map SubscriberState.id ∨ hub.phase.awaited id ≠ [] →
    (hub.record.offered id).map Prod.fst ++ hub.phase.awaited id =
      hub.record.taken.drop (hub.record.joinedAt id)
  queued : ∀ id, hub.record.received id ++ (hub.inputs id).batches =
    gotBatches (hub.record.offered id)
  counted : ∀ subscriber ∈ hub.subscribers, ∃ counted,
    hub.record.offered subscriber.id = counted ++ hub.phase.uncounted subscriber.id ∧
      subscriber.counters = DeliveryCounters.total counted

theorem created_recorded (mode : SharedHubMode) (coordinatedDrop : Bool) :
    (created mode coordinatedDrop : SharedSourceHub α).Recorded where
  distinct := List.nodup_nil
  issued := fun _ member => absurd member List.not_mem_nil
  active := fun _ member => absurd member List.not_mem_nil
  uncancelled := fun _ => rfl
  unissued := fun _ _ => rfl
  shaped := trivial
  targets := fun _ none_ => absurd none_ (Option.some_ne_none _).symm
  alike := fun _ none_ => absurd none_ (Option.some_ne_none _).symm
  covered := fun _ _ none_ => absurd none_ (Option.some_ne_none _).symm
  joined := fun _ => Nat.le_refl 0
  contiguous := fun _ => List.prefix_rfl
  complete := fun _ _ => rfl
  queued := fun _ => rfl
  counted := fun _ member => absurd member List.not_mem_nil

/-! ## Steps beside the dispatch -/

/-- The step changes nothing that is recorded, and subscribers only leave. -/
structure Alike (before after : SharedSourceHub α) : Prop where
  coordinated : after.coordinated = before.coordinated
  subscriberSeq : after.subscriberSeq = before.subscriberSeq
  taken : after.record.taken = before.record.taken
  joinedAt : after.record.joinedAt = before.record.joinedAt
  offered : after.record.offered = before.record.offered
  uncancelled : ∀ id, (after.inputs id).cancelRequested = (before.inputs id).cancelRequested
  batches : ∀ id, after.record.received id ++ (after.inputs id).batches =
    before.record.received id ++ (before.inputs id).batches
  subscribers : ∀ subscriber ∈ after.subscribers, ∃ earlier ∈ before.subscribers,
    subscriber.id = earlier.id ∧ subscriber.active = earlier.active ∧
      subscriber.counters = earlier.counters
  ids : (after.subscribers.map SubscriberState.id).Sublist
    (before.subscribers.map SubscriberState.id)
  phase : after.phase = before.phase ∨
    before.phase.dispatch? = none ∧ after.phase.dispatch? = none

theorem Alike.refl (hub : SharedSourceHub α) : hub.Alike hub where
  coordinated := rfl
  subscriberSeq := rfl
  taken := rfl
  joinedAt := rfl
  offered := rfl
  uncancelled := fun _ => rfl
  batches := fun _ => rfl
  subscribers := fun subscriber member => ⟨subscriber, member, rfl, rfl, rfl⟩
  ids := List.Sublist.refl _
  phase := .inl rfl

theorem Recorded.of_alike (recorded : hub.Recorded) (alike : hub.Alike after) : after.Recorded := by
  have awaited : ∀ id, after.phase.awaited id = hub.phase.awaited id := by
    intro id
    rcases alike.phase with same | ⟨idle, idleAfter⟩
    · rw [same]
    · rw [RunPhase.awaited_idle idle, RunPhase.awaited_idle idleAfter]
  have uncounted : ∀ id, after.phase.uncounted id = hub.phase.uncounted id := by
    intro id
    rcases alike.phase with same | ⟨idle, idleAfter⟩
    · rw [same]
    · rw [RunPhase.uncounted_idle idle, RunPhase.uncounted_idle idleAfter]
  have same : ∀ dispatch, after.phase.dispatch? = some dispatch → after.phase = hub.phase := by
    intro dispatch is
    rcases alike.phase with same | ⟨idle, idleAfter⟩
    · exact same
    · cases idleAfter.symm.trans is
  constructor
  · exact recorded.distinct.sublist alike.ids
  · intro subscriber member
    obtain ⟨earlier, there, idEq, _, _⟩ := alike.subscribers subscriber member
    rw [idEq, alike.subscriberSeq]
    exact recorded.issued earlier there
  · intro subscriber member
    obtain ⟨earlier, there, _, activeEq, _⟩ := alike.subscribers subscriber member
    exact activeEq.trans (recorded.active earlier there)
  · exact fun id => (alike.uncancelled id).trans (recorded.uncancelled id)
  · intro id unissued
    rw [alike.offered]
    exact recorded.unissued id (alike.subscriberSeq ▸ unissued)
  · rcases alike.phase with same | ⟨_, idleAfter⟩
    · exact same ▸ recorded.shaped
    · exact RunPhase.shaped_idle idleAfter
  · intro dispatch is
    rw [alike.subscriberSeq]
    exact recorded.targets dispatch (same dispatch is ▸ is)
  · intro dispatch is
    rw [alike.coordinated, same dispatch is]
    exact recorded.alike dispatch (same dispatch is ▸ is)
  · intro coordinated dispatch is subscriber member
    obtain ⟨earlier, there, idEq, _, _⟩ := alike.subscribers subscriber member
    rw [idEq]
    exact recorded.covered (alike.coordinated ▸ coordinated) dispatch (same dispatch is ▸ is)
      earlier there
  · rw [alike.taken, alike.joinedAt]
    exact recorded.joined
  · rw [alike.taken, alike.joinedAt, alike.offered]
    exact recorded.contiguous
  · intro id either
    rw [awaited] at either ⊢
    rw [alike.taken, alike.joinedAt, alike.offered]
    exact recorded.complete id (either.imp_left fun member => alike.ids.subset member)
  · intro id
    rw [alike.batches, alike.offered]
    exact recorded.queued id
  · intro subscriber member
    obtain ⟨earlier, there, idEq, _, countersEq⟩ := alike.subscribers subscriber member
    rw [uncounted, alike.offered, idEq, countersEq]
    exact recorded.counted earlier there

/-- A step that changes the input of one subscriber. -/
theorem alike_setInput {id : Nat} {input : RingInput α}
    (uncancelled : input.cancelRequested = (hub.inputs id).cancelRequested)
    (batches : input.batches = (hub.inputs id).batches) : hub.Alike (hub.setInput id input) := by
  refine { Alike.refl hub with uncancelled := ?_, batches := ?_ }
  · intro other
    by_cases same : other = id
    · rw [same]
      simpa [setInput] using uncancelled
    · simp [setInput, same]
  · intro other
    by_cases same : other = id
    · rw [same]
      simpa [setInput] using batches
    · simp [setInput, same]

theorem alike_closeStream (id : Nat) : hub.Alike (hub.setInput id (hub.inputs id).closeStream) :=
  alike_setInput RingInput.cancelRequested_closeStream RingInput.batches_closeStream

theorem alike_close (id : Nat) : hub.Alike (hub.setInput id (hub.inputs id).close) :=
  alike_setInput rfl rfl

theorem alike_markSubscriberReady (id : Nat) : hub.Alike (hub.markSubscriberReady id) := by
  refine { Alike.refl hub with subscribers := ?_, ids := ?_ }
  · intro subscriber member
    obtain ⟨earlier, there, rfl⟩ := List.mem_map.mp member
    refine ⟨earlier, there, ?_⟩
    split <;> exact ⟨rfl, rfl, rfl⟩
  · have same : (hub.markSubscriberReady id).subscribers.map SubscriberState.id =
        hub.subscribers.map SubscriberState.id := by
      simp only [markSubscriberReady, List.map_map]
      refine List.map_congr_left fun subscriber _ => ?_
      simp only [Function.comp_apply]
      split <;> rfl
    exact same ▸ List.Sublist.refl _

theorem phase_of_not_started (not_ : ¬ hub.started = true) : hub.phase = .notStarted := by
  unfold started at not_
  split at not_
  · assumption
  · exact absurd rfl not_

theorem alike_start : hub.Alike hub.start := by
  unfold start
  split
  · exact .refl hub
  next fresh =>
    split
    · exact .refl hub
    split
    · exact .refl hub
    · have idle : hub.phase.dispatch? = none := by
        rw [phase_of_not_started fresh]
        rfl
      exact { Alike.refl hub with phase := .inr ⟨idle, rfl⟩ }

theorem alike_removeSubscriber (id : Nat) (closeStream : Bool) :
    hub.Alike (hub.removeSubscriber id closeStream) := by
  unfold removeSubscriber
  split
  · exact .refl hub
  · refine { Alike.refl hub with subscribers := ?_, ids := ?_ }
    · intro subscriber member
      exact ⟨subscriber, (List.mem_filter.mp member).1, rfl, rfl, rfl⟩
    · exact List.filter_sublist.map _

theorem alike_goOnRemoving (id : Nat) : hub.Alike (hub.goOnRemoving id) := by
  unfold goOnRemoving
  split
  · next action _ _ =>
      have acts : hub.Alike (hub.removalAction id action) := by
        cases action with
        | closeStream => exact alike_closeStream id
        | close => exact alike_close id
        | requestStop => exact { Alike.refl hub with }
      exact { acts with }
  · exact .refl hub

theorem alike_consume (id : Nat) : hub.Alike (hub.consume id) := by
  unfold consume
  split
  · exact .refl hub
  · next item rest queue =>
      refine { Alike.refl hub with uncancelled := ?_, batches := ?_ }
      · intro other
        by_cases same : other = id
        · rw [same]
          simp [setInput]
        · simp [setInput, same]
      · intro other
        by_cases same : other = id
        · rw [same]
          simp only [setInput, Function.update_self, List.append_assoc, RingInput.batches, queue]
          cases item <;> rfl
        · simp [setInput, same]

/-- A step of the run loop between two dispatches. -/
theorem alike_idle {phase : RunPhase α} {status : SharedHubStatus} {code : Int} {message : String}
    (idle : hub.phase.dispatch? = none) (idleAfter : phase.dispatch? = none) :
    hub.Alike { hub with
      status := status, errorCode := code, errorMessage := message, phase := phase } :=
  { Alike.refl hub with phase := .inr ⟨idle, idleAfter⟩ }

theorem alike_phase {phase : RunPhase α} (idle : hub.phase.dispatch? = none)
    (idleAfter : phase.dispatch? = none) : hub.Alike { hub with phase := phase } :=
  alike_idle idle idleAfter

theorem alike_sourceOpened (code : Int) : hub.Alike (hub.sourceOpened code) := by
  unfold sourceOpened
  split
  · next opening =>
      have idle : hub.phase.dispatch? = none := by rw [opening]; rfl
      split
      · exact alike_idle idle rfl
      · exact alike_idle idle rfl
  · exact .refl hub

theorem alike_lookAtStop : hub.Alike hub.lookAtStop := by
  unfold lookAtStop
  split
  · next looping =>
      have idle : hub.phase.dispatch? = none := by rw [looping]; rfl
      split
      · exact alike_idle idle rfl
      · exact alike_idle idle rfl
  · exact .refl hub

theorem alike_poll (event : SourceEvent α) : hub.Alike (hub.poll event) := by
  unfold poll
  split
  · next polling =>
      have idle : hub.phase.dispatch? = none := by rw [polling]; rfl
      split <;> exact alike_idle idle rfl
  · exact .refl hub

/-! ## Joining -/

/-- A subscriber that joins is no target of the batch in dispatch. -/
theorem addSubscriber_recorded (recorded : hub.Recorded) (runtimeTaskId : String) (ready : Bool)
    (maxSubscribers : Nat) (capacity : Option Nat)
    (between : hub.coordinated = true → hub.refusal runtimeTaskId maxSubscribers = none →
      hub.phase.dispatch? = none) :
    (hub.addSubscriber runtimeTaskId ready maxSubscribers capacity).Recorded := by
  have next : ∀ id, hub.subscriberSeq + 1 < id → hub.subscriberSeq < id := fun id later => by omega
  have atMost : ∀ id, id ≤ hub.subscriberSeq → id ≤ hub.subscriberSeq + 1 := fun id most => by omega
  unfold addSubscriber
  split
  · exact recorded
  next accepted =>
    cases capacity with
    | none =>
        exact { recorded with
          issued := fun subscriber member => atMost _ (recorded.issued subscriber member)
          unissued := fun id later => recorded.unissued id (next id later)
          targets := fun dispatch is id member => atMost id (recorded.targets dispatch is id member) }
    | some capacity =>
        have fresh : hub.record.offered (hub.subscriberSeq + 1) = [] :=
          recorded.unissued _ (Nat.lt_succ_self _)
        have newcomer : hub.subscriberSeq + 1 ∉ hub.subscribers.map SubscriberState.id := by
          intro member
          obtain ⟨subscriber, there, idEq⟩ := List.mem_map.mp member
          have most := recorded.issued subscriber there
          omega
        have other : ∀ id, id ≤ hub.subscriberSeq → id ≠ hub.subscriberSeq + 1 := by
          intro id most
          omega
        have unawaited : hub.phase.awaited (hub.subscriberSeq + 1) = [] := by
          by_contra some_
          obtain ⟨dispatch, is, target⟩ := RunPhase.target_of_awaited recorded.shaped some_
          exact other _ (recorded.targets dispatch is _ target) rfl
        have unoffered : hub.phase.uncounted (hub.subscriberSeq + 1) = [] := by
          by_contra some_
          obtain ⟨dispatch, is, target⟩ := RunPhase.target_of_uncounted recorded.shaped some_
          exact other _ (recorded.targets dispatch is _ target) rfl
        constructor
        · simp only [List.map_append, List.map_cons, List.map_nil]
          exact List.Nodup.append recorded.distinct (List.nodup_singleton _)
            (List.disjoint_singleton.mpr newcomer)
        · intro subscriber member
          rcases List.mem_append.mp member with there | new
          · exact atMost _ (recorded.issued subscriber there)
          · rw [List.mem_singleton.mp new]
        · intro subscriber member
          rcases List.mem_append.mp member with there | new
          · exact recorded.active subscriber there
          · rw [List.mem_singleton.mp new]
        · intro id
          by_cases same : id = hub.subscriberSeq + 1
          · simp [same]
          · simpa [same] using recorded.uncancelled id
        · exact fun id later => recorded.unissued id (next id later)
        · exact recorded.shaped
        · exact fun dispatch is id member => atMost id (recorded.targets dispatch is id member)
        · exact recorded.alike
        · intro coordinated dispatch is
          cases (between coordinated accepted).symm.trans is
        · intro id
          by_cases same : id = hub.subscriberSeq + 1
          · simp [same]
          · simpa [same] using recorded.joined id
        · intro id
          by_cases same : id = hub.subscriberSeq + 1
          · simp [same, fresh]
          · simpa [same] using recorded.contiguous id
        · intro id either
          by_cases same : id = hub.subscriberSeq + 1
          · simp [same, fresh, unawaited]
          · simp only [List.map_append, List.map_cons, List.map_nil, List.mem_append,
              List.mem_singleton, same, or_false] at either
            simpa [same] using recorded.complete id either
        · intro id
          have kept := recorded.queued id
          by_cases same : id = hub.subscriberSeq + 1
          · subst same
            rw [fresh] at kept ⊢
            have unread := (List.append_eq_nil_iff.mp kept).1
            simp only [Function.update_self, unread]
            rfl
          · simpa [same] using kept
        · intro subscriber member
          rcases List.mem_append.mp member with there | new
          · exact recorded.counted subscriber there
          · rw [List.mem_singleton.mp new]
            refine ⟨[], ?_, rfl⟩
            simp only [fresh, unoffered, List.append_nil]

/-! ## Steps of the dispatch -/

/-- The record is that of a hub in another phase, which awaits and counts the same. -/
theorem Recorded.of_phase {phase : RunPhase α} (recorded : hub.Recorded)
    (dispatch : phase.dispatch? = hub.phase.dispatch?) (alike : phase.alike = hub.phase.alike)
    (shaped : phase.Shaped) (awaited : ∀ id, phase.awaited id = hub.phase.awaited id)
    (uncounted : ∀ id, phase.uncounted id = hub.phase.uncounted id) :
    ({ hub with phase := phase } : SharedSourceHub α).Recorded := by
  refine ⟨recorded.distinct, recorded.issued, recorded.active, recorded.uncancelled,
    recorded.unissued, shaped, ?_, ?_, ?_, recorded.joined, recorded.contiguous, ?_,
    recorded.queued, ?_⟩
  · simp only [dispatch]
    exact recorded.targets
  · simp only [dispatch, alike]
    exact recorded.alike
  · simp only [dispatch]
    exact recorded.covered
  · simp only [awaited]
    exact recorded.complete
  · simp only [uncounted]
    exact recorded.counted

/-- These targets are offered the batch, and those that get it have it in their rings. -/
structure Offers (before after : SharedSourceHub α) (targets : List Nat) (batch : SourceBatch α)
    (got : Bool) : Prop where
  coordinated : after.coordinated = before.coordinated
  subscriberSeq : after.subscriberSeq = before.subscriberSeq
  subscribers : after.subscribers = before.subscribers
  taken : after.record.taken = before.record.taken
  joinedAt : after.record.joinedAt = before.record.joinedAt
  received : after.record.received = before.record.received
  offered : ∀ id, after.record.offered id =
    if id ∈ targets then before.record.offered id ++ [(batch, got)] else before.record.offered id
  uncancelled : ∀ id, (after.inputs id).cancelRequested = (before.inputs id).cancelRequested
  batches : ∀ id, (after.inputs id).batches =
    (before.inputs id).batches ++ if id ∈ targets ∧ got then [batch] else []
  dispatch : after.phase.dispatch? = before.phase.dispatch?
  alike : after.phase.alike = before.phase.alike
  shaped : after.phase.Shaped
  /-- What was awaited has been offered. -/
  awaited : ∀ id, before.phase.awaited id =
    if id ∈ targets then [batch] else after.phase.awaited id
  settled : ∀ id ∈ targets, after.phase.awaited id = []
  uncounted : ∀ id, after.phase.uncounted id =
    if id ∈ targets then [(batch, got)] else before.phase.uncounted id
  unoffered : ∀ id ∈ targets, before.phase.uncounted id = []

theorem Recorded.of_offers {targets : List Nat} {got : Bool} (recorded : hub.Recorded)
    (offers : hub.Offers after targets batch got) : after.Recorded := by
  have offeredTo : ∀ id ∈ targets, (hub.record.offered id).map Prod.fst ++ [batch] =
      hub.record.taken.drop (hub.record.joinedAt id) := by
    intro id target
    have complete := recorded.complete id
    rw [offers.awaited id, if_pos target] at complete
    exact complete (.inr (List.cons_ne_nil _ _))
  constructor
  · rw [offers.subscribers]
    exact recorded.distinct
  · rw [offers.subscribers, offers.subscriberSeq]
    exact recorded.issued
  · rw [offers.subscribers]
    exact recorded.active
  · exact fun id => (offers.uncancelled id).trans (recorded.uncancelled id)
  · intro id unissued
    rw [offers.subscriberSeq] at unissued
    rw [offers.offered, if_neg, recorded.unissued id unissued]
    intro target
    have awaited : hub.phase.awaited id ≠ [] := by
      rw [offers.awaited id, if_pos target]
      exact List.cons_ne_nil _ _
    obtain ⟨dispatch, is, there⟩ := RunPhase.target_of_awaited recorded.shaped awaited
    exact absurd (recorded.targets dispatch is id there) (Nat.not_le.mpr unissued)
  · exact offers.shaped
  · rw [offers.dispatch, offers.subscriberSeq]
    exact recorded.targets
  · rw [offers.dispatch, offers.alike, offers.coordinated]
    exact recorded.alike
  · rw [offers.dispatch, offers.subscribers, offers.coordinated]
    exact recorded.covered
  · rw [offers.taken, offers.joinedAt]
    exact recorded.joined
  · intro id
    rw [offers.taken, offers.joinedAt, offers.offered]
    split
    · next target =>
        rw [List.map_append, List.map_singleton]
        exact (congrArg (· <+: _) (offeredTo id target)).mpr List.prefix_rfl
    · exact recorded.contiguous id
  · intro id either
    rw [offers.taken, offers.joinedAt, offers.offered]
    split
    · next target =>
        rw [offers.settled id target, List.append_nil, List.map_append, List.map_singleton,
          offeredTo id target]
    · next elsewhere =>
        have same : hub.phase.awaited id = after.phase.awaited id := by
          rw [offers.awaited id, if_neg elsewhere]
        rw [offers.subscribers, ← same] at either
        rw [← same]
        exact recorded.complete id either
  · intro id
    rw [offers.received, offers.batches, offers.offered, ← List.append_assoc, recorded.queued id]
    by_cases target : id ∈ targets
    · cases got with
      | true => simp [target, gotBatches]
      | false => simp [target, gotBatches]
    · simp [target]
  · intro subscriber member
    rw [offers.subscribers] at member
    obtain ⟨counted, split_, total⟩ := recorded.counted subscriber member
    refine ⟨counted, ?_, total⟩
    rw [offers.offered, offers.uncounted]
    split
    · next target =>
        rw [split_, offers.unoffered _ target, List.append_nil]
    · exact split_

/-- What was offered is counted, and the dispatch is over. -/
theorem Recorded.of_count {change : SubscriberState → DeliveryCounters → DeliveryCounters}
    {counters : DeliveryCounters} (recorded : hub.Recorded)
    (settled : ∀ id, hub.phase.awaited id = [])
    (counts : ∀ subscriber ∈ hub.subscribers, ∀ counters, change subscriber counters =
      (hub.phase.uncounted subscriber.id).foldl DeliveryCounters.offer counters) :
    ({ hub.countEach change with counters := counters, phase := .looping } :
      SharedSourceHub α).Recorded := by
  have ids : (hub.countEach change).subscribers.map SubscriberState.id =
      hub.subscribers.map SubscriberState.id := by
    simp only [countEach, List.map_map]
    rfl
  refine ⟨ids ▸ recorded.distinct, ?_, ?_, recorded.uncancelled, recorded.unissued, trivial, ?_, ?_,
    ?_, recorded.joined, recorded.contiguous, ?_, recorded.queued, ?_⟩
  · intro subscriber member
    obtain ⟨earlier, there, rfl⟩ := List.mem_map.mp member
    exact recorded.issued earlier there
  · intro subscriber member
    obtain ⟨earlier, there, rfl⟩ := List.mem_map.mp member
    exact recorded.active earlier there
  · nofun
  · nofun
  · nofun
  · intro id either
    have member := either.resolve_right (fun some_ => some_ rfl)
    have complete := recorded.complete id (.inl (ids ▸ member))
    rw [settled id] at complete
    exact complete
  · intro subscriber member
    obtain ⟨earlier, there, rfl⟩ := List.mem_map.mp member
    obtain ⟨counted, split_, total⟩ := recorded.counted earlier there
    refine ⟨counted ++ hub.phase.uncounted earlier.id, ?_, ?_⟩
    · exact split_.trans (List.append_nil _).symm
    · simp only [counts earlier there, total, DeliveryCounters.total_append]

end SharedSourceHub

end Flowsql.Scheduler
