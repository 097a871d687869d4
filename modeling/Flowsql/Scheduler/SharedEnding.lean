import Flowsql.Scheduler.SharedDispatch

/-!
# The end of a shared source

A hub that ends closes the inputs of its subscribers. It does if its source could be opened and
if every `Put` finds an open ring, and nobody joins a hub that its last subscriber has left.
-/

namespace Flowsql.Scheduler

variable {α : Type}

/-- The run loop is over, or only closes inputs. -/
def RunPhase.ending : RunPhase α → Bool
  | .closing _ | .returned => true
  | _ => false

namespace SharedSourceHub

variable {hub after : SharedSourceHub α}

/-- The source is opened, or nobody waits for it. -/
def opensOrEmpty (hub : SharedSourceHub α) : HubEvent α → Bool
  | .sourceOpened code => code == 0 || hub.subscribers.isEmpty
  | _ => true

/-- Nobody joins after the last subscriber has left. -/
def joinsRunning (hub : SharedSourceHub α) : HubEvent α → Bool
  | .addSubscriber runtimeTaskId _ maxSubscribers capacity =>
      capacity.isNone || (hub.refusal runtimeTaskId maxSubscribers).isSome ||
        hub.removals.all fun removal => !removal.becameEmpty
  | _ => true

/-- A ring is a queue if it has more than one slot. -/
def roomy : HubEvent α → Bool
  | .addSubscriber _ _ _ (some capacity) => decide (2 ≤ capacity)
  | _ => true

/-- The inputs of a hub that ends are closed, and a hub that was emptied stays empty. -/
structure Ending (hub : SharedSourceHub α) : Prop where
  terminal : hub.status.isTerminal = hub.phase.ending
  finished : ∀ id, (hub.inputs id).streamClosed = true → (hub.inputs id).finished = true
  closing : ∀ left, hub.phase = .closing left → ∀ subscriber ∈ hub.subscribers,
    subscriber.id ∈ left ∨ (hub.inputs subscriber.id).finished = true
  returned : hub.phase = .returned → ∀ subscriber ∈ hub.subscribers,
    (hub.inputs subscriber.id).finished = true
  emptied : ∀ removal ∈ hub.removals, removal.becameEmpty = true → hub.subscribers = []
  pending : ∀ removal ∈ hub.removals, .requestStop ∈ removal.left → removal.becameEmpty = true
  stops : hub.stopRequested = true → hub.record.stopAsked = true ∨
    ∃ removal ∈ hub.removals, removal.becameEmpty = true

theorem created_ending (mode : SharedHubMode) (coordinatedDrop : Bool) :
    (created mode coordinatedDrop : SharedSourceHub α).Ending where
  terminal := rfl
  finished := fun _ closed => absurd closed Bool.false_ne_true
  closing := fun _ _ _ member => absurd member List.not_mem_nil
  returned := fun _ _ member => absurd member List.not_mem_nil
  emptied := fun _ member => absurd member List.not_mem_nil
  pending := fun _ member => absurd member List.not_mem_nil
  stops := fun stops => absurd stops Bool.false_ne_true

/-- The step keeps the subscribers in place and closes no less, and it neither ends the hub nor
goes on with a removal. -/
structure Steady (before after : SharedSourceHub α) : Prop where
  terminal : after.status.isTerminal = before.status.isTerminal
  ending : after.phase.ending = before.phase.ending
  phase : before.phase.ending = true → after.phase = before.phase
  streamClosed : ∀ id, (after.inputs id).streamClosed = (before.inputs id).streamClosed
  finished : ∀ id, (after.inputs id).finished = (before.inputs id).finished
  ids : after.subscribers.map SubscriberState.id = before.subscribers.map SubscriberState.id
  removals : after.removals = before.removals
  stops : after.stopRequested = true → before.stopRequested = true ∨ after.record.stopAsked = true
  asked : before.record.stopAsked = true → after.record.stopAsked = true

theorem Steady.refl (hub : SharedSourceHub α) : hub.Steady hub where
  terminal := rfl
  ending := rfl
  phase := fun _ => rfl
  streamClosed := fun _ => rfl
  finished := fun _ => rfl
  ids := rfl
  removals := rfl
  stops := .inl
  asked := id

theorem Ending.of_steady (ends : hub.Ending) (steady : hub.Steady after) : after.Ending := by
  have phase : after.phase.ending = true → after.phase = hub.phase :=
    fun ending => steady.phase (steady.ending.symm.trans ending)
  have earlier : ∀ subscriber ∈ after.subscribers, ∃ earlier ∈ hub.subscribers,
      earlier.id = subscriber.id := by
    intro subscriber member
    exact List.mem_map.mp (steady.ids ▸ List.mem_map_of_mem member)
  constructor
  · exact steady.terminal.trans (ends.terminal.trans steady.ending.symm)
  · intro id
    rw [steady.streamClosed, steady.finished]
    exact ends.finished id
  · intro left closing subscriber member
    obtain ⟨before, there, idEq⟩ := earlier subscriber member
    rw [← idEq, steady.finished]
    refine ends.closing left ((phase ?_).symm.trans closing) before there
    rw [closing]
    rfl
  · intro returned subscriber member
    obtain ⟨before, there, idEq⟩ := earlier subscriber member
    rw [← idEq, steady.finished]
    refine ends.returned ((phase ?_).symm.trans returned) before there
    rw [returned]
    rfl
  · intro removal member empty
    have none_ := ends.emptied removal (steady.removals ▸ member) empty
    have ids := steady.ids
    rw [none_] at ids
    exact List.map_eq_nil_iff.mp ids
  · rw [steady.removals]
    exact ends.pending
  · intro stop
    rw [steady.removals]
    rcases steady.stops stop with before | asked
    · exact (ends.stops before).imp_left steady.asked
    · exact .inl asked

/-- A step of the run loop from one phase before the end to another. -/
theorem steady_phase {phase : RunPhase α} (going : hub.phase.ending = false)
    (goes : phase.ending = false) :
    hub.Steady { hub with phase := phase } :=
  { Steady.refl hub with
    ending := goes.trans going.symm
    phase := fun ending => absurd (going.symm.trans ending) Bool.false_ne_true }

theorem addSubscriber_ending (ends : hub.Ending) (runtimeTaskId : String) (ready : Bool)
    (maxSubscribers : Nat) (capacity : Option Nat)
    (running : hub.joinsRunning (.addSubscriber runtimeTaskId ready maxSubscribers capacity) = true) :
    (hub.addSubscriber runtimeTaskId ready maxSubscribers capacity).Ending := by
  unfold addSubscriber
  split
  · exact ends
  next accepted =>
    cases capacity with
    | none => exact { ends with }
    | some capacity =>
        have going : hub.phase.ending = false := by
          rw [← ends.terminal]
          by_contra terminal
          rw [Bool.not_eq_false] at terminal
          unfold refusal at accepted
          simp only [terminal, if_true] at accepted
          split at accepted
          · cases accepted
          · split at accepted <;> cases accepted
        have several : ∀ removal ∈ hub.removals, ¬ removal.becameEmpty = true := by
          simpa [joinsRunning, accepted] using running
        refine ⟨ends.terminal, ?_, ?_, ?_, ?_, ends.pending, ends.stops⟩
        · intro id
          by_cases same : id = hub.subscriberSeq + 1
          · simp [same]
          · simpa [same] using ends.finished id
        · intro left closing
          have closing : hub.phase = .closing left := closing
          rw [closing] at going
          cases going
        · intro returned
          have returned : hub.phase = .returned := returned
          rw [returned] at going
          cases going
        · exact fun removal member empty => absurd empty (several removal member)

theorem removeSubscriber_ending (ends : hub.Ending) (id : Nat) (closeStream : Bool) :
    (hub.removeSubscriber id closeStream).Ending := by
  unfold removeSubscriber
  split
  · exact ends
  · have there : ∀ subscriber ∈ hub.subscribers.filter (·.id ≠ id), subscriber ∈ hub.subscribers :=
      fun subscriber member => (List.mem_filter.mp member).1
    refine ⟨ends.terminal, ends.finished, ?_, ?_, ?_, ?_, ?_⟩
    · exact fun left closing subscriber member =>
        ends.closing left closing subscriber (there subscriber member)
    · exact fun returned subscriber member =>
        ends.returned returned subscriber (there subscriber member)
    · intro removal member empty
      rcases List.mem_append.mp member with old | new
      · have none_ := ends.emptied removal old empty
        simp only [none_, List.filter_nil]
      · rw [List.mem_singleton.mp new] at empty
        exact List.isEmpty_iff.mp empty
    · intro removal member stop
      rcases List.mem_append.mp member with old | new
      · exact ends.pending removal old stop
      · rw [List.mem_singleton.mp new] at stop ⊢
        simp only at stop ⊢
        by_contra several
        rw [if_neg several, List.append_nil] at stop
        split at stop <;> simp at stop
    · intro stop
      refine (ends.stops stop).imp_right ?_
      rintro ⟨removal, old, empty⟩
      exact ⟨removal, List.mem_append_left _ old, empty⟩

theorem Ending.of_setInput (ends : hub.Ending) {id : Nat} {input : RingInput α}
    (closed : input.streamClosed = true → input.finished = true)
    (keeps : (hub.inputs id).finished = true → input.finished = true) :
    (hub.setInput id input).Ending := by
  have finished : ∀ other, (hub.inputs other).finished = true →
      ((hub.setInput id input).inputs other).finished = true := by
    intro other
    by_cases same : other = id
    · rw [same]
      simpa [setInput] using keeps
    · simp [setInput, same]
  refine ⟨ends.terminal, ?_, ?_, ?_, ends.emptied, ends.pending, ends.stops⟩
  · intro other
    by_cases same : other = id
    · rw [same]
      simpa [setInput] using closed
    · simpa [setInput, same] using ends.finished other
  · exact fun left closing subscriber member =>
      (ends.closing left closing subscriber member).imp_right (finished subscriber.id)
  · exact fun returned subscriber member =>
      finished subscriber.id (ends.returned returned subscriber member)

theorem closeStream_finished (ends : hub.Ending) (id : Nat) :
    (hub.inputs id).closeStream.finished = true := by
  unfold RingInput.closeStream
  split
  · next already => exact ends.finished id already
  · rfl

theorem closeStream_ending (ends : hub.Ending) (id : Nat) :
    (hub.setInput id (hub.inputs id).closeStream).Ending :=
  ends.of_setInput (fun _ => closeStream_finished ends id) (fun _ => closeStream_finished ends id)

theorem removalAction_ending (ends : hub.Ending) (id : Nat) {action : RemovalAction}
    (last : action = .requestStop → ∃ removal ∈ hub.removals, removal.becameEmpty = true) :
    (hub.removalAction id action).Ending := by
  cases action with
  | closeStream => exact closeStream_ending ends id
  | close => exact ends.of_setInput (fun _ => rfl) (fun _ => rfl)
  | requestStop => exact { ends with stops := fun _ => .inr (last rfl) }

theorem removals_removalAction (id : Nat) (action : RemovalAction) :
    (hub.removalAction id action).removals = hub.removals := by
  cases action <;> rfl

theorem goOnRemoving_ending (ends : hub.Ending) (id : Nat) : (hub.goOnRemoving id).Ending := by
  unfold goOnRemoving
  split
  · next subscriber becameEmpty action left found =>
      have member := List.mem_of_find?_eq_some found
      have acted : (hub.removalAction id action).Ending := by
        refine removalAction_ending ends id ?_
        rintro rfl
        exact ⟨_, member, ends.pending _ member List.mem_cons_self⟩
      have kept : ∀ removal ∈ hub.removals.map (fun removal =>
          if removal.subscriber = id then { removal with left := removal.left.tail } else removal),
          ∃ earlier ∈ (hub.removalAction id action).removals,
            removal.becameEmpty = earlier.becameEmpty ∧ removal.left ⊆ earlier.left := by
        intro removal there
        obtain ⟨earlier, old, rfl⟩ := List.mem_map.mp there
        refine ⟨earlier, (removals_removalAction id action).symm ▸ old, ?_⟩
        split
        · exact ⟨rfl, (List.tail_sublist _).subset⟩
        · exact ⟨rfl, fun _ member => member⟩
      refine ⟨acted.terminal, acted.finished, acted.closing, acted.returned, ?_, ?_, ?_⟩
      · intro removal there empty
        obtain ⟨earlier, old, same, _⟩ := kept removal there
        exact acted.emptied earlier old (same.symm.trans empty)
      · intro removal there stop
        obtain ⟨earlier, old, same, sub⟩ := kept removal there
        exact same.trans (acted.pending earlier old (sub stop))
      · intro stop
        refine (acted.stops stop).imp_right ?_
        rintro ⟨removal, old, empty⟩
        rw [removals_removalAction] at old
        refine ⟨_, List.mem_map_of_mem old, ?_⟩
        split <;> exact empty
  · exact ends

theorem consume_ending (ends : hub.Ending) (id : Nat) : (hub.consume id).Ending := by
  unfold consume
  split
  · exact ends
  · next item rest queue =>
      have taken : (hub.setInput id { hub.inputs id with queue := rest }).Ending :=
        ends.of_setInput (ends.finished id) fun finished => finished
      exact taken.of_steady { Steady.refl _ with }

/-! ## The run loop -/

theorem finish_ending {status : SharedHubStatus} (ends : hub.Ending)
    (terminal : status.isTerminal = true) : (hub.finish status).Ending where
  terminal := terminal
  finished := ends.finished
  closing := by
    intro left closing subscriber member
    obtain rfl := RunPhase.closing.inj closing
    exact .inl (List.mem_map_of_mem member)
  returned := nofun
  emptied := ends.emptied
  pending := ends.pending
  stops := ends.stops

theorem sourceOpened_ending (ends : hub.Ending) {code : Int}
    (opened : hub.opensOrEmpty (.sourceOpened code) = true) : (hub.sourceOpened code).Ending := by
  unfold sourceOpened
  split
  · next opening =>
      split
      · next failed =>
          have nobody : hub.subscribers = [] := by
            simpa [opensOrEmpty, failed] using opened
          refine ⟨rfl, ends.finished, nofun, ?_, ends.emptied, ends.pending, ends.stops⟩
          intro _ subscriber member
          have member : subscriber ∈ hub.subscribers := member
          rw [nobody] at member
          cases member
      · exact ends.of_steady (steady_phase (by rw [opening]; rfl) rfl)
  · exact ends

theorem lookAtStop_ending (ends : hub.Ending) : hub.lookAtStop.Ending := by
  unfold lookAtStop
  split
  · next looping =>
      split
      · refine finish_ending ends ?_
        split <;> rfl
      · exact ends.of_steady (steady_phase (by rw [looping]; rfl) rfl)
  · exact ends

theorem poll_ending (ends : hub.Ending) (event : SourceEvent α) : (hub.poll event).Ending := by
  unfold poll
  split
  · next polling =>
      have going : hub.phase.ending = false := by rw [polling]; rfl
      split
      · exact ends.of_steady (steady_phase going rfl)
      · exact finish_ending ends rfl
      · exact finish_ending ends rfl
      · exact ⟨rfl, ends.finished, fun left closing subscriber member => .inl
          (RunPhase.closing.inj closing ▸ List.mem_map_of_mem member), nofun, ends.emptied,
          ends.pending, ends.stops⟩
      · exact ends.of_steady (steady_phase going rfl)
      · exact ends.of_steady (steady_phase going rfl)
  · exact ends

theorem findTargets_ending (ends : hub.Ending) (order : List Nat) :
    (hub.findTargets order).Ending := by
  unfold findTargets
  split
  · next batch polled =>
      split
      · have going : hub.phase.ending = false := by rw [polled]; rfl
        refine ends.of_steady ?_
        refine { Steady.refl hub with ending := ?_, phase := ?_ }
        · rw [going]
          simp only
          split
          · rfl
          split <;> rfl
        · intro ending
          exact absurd (going.symm.trans ending) Bool.false_ne_true
      · exact ends
  · exact ends

/-- A step of a dispatch that counts, which is not the end. -/
theorem steady_count {change : SubscriberState → DeliveryCounters → DeliveryCounters}
    {counters : DeliveryCounters} (going : hub.phase.ending = false) :
    hub.Steady { hub.countEach change with counters := counters, phase := .looping } := by
  refine { Steady.refl hub with ending := going.symm, phase := ?_, ids := ?_ }
  · exact fun ending => absurd (going.symm.trans ending) Bool.false_ne_true
  · simp only [countEach, List.map_map]
    rfl

theorem steady_noteOffer {targets : List Nat} {batch : SourceBatch α} {got : Bool}
    {phase : RunPhase α} (going : hub.phase.ending = false) (goes : phase.ending = false) :
    hub.Steady { hub.noteOffer targets batch got with phase := phase } :=
  { steady_phase going goes with }

/-- A batch is put into the ring of a subscriber. -/
theorem put_ending (ends : hub.Ending) (going : hub.phase.ending = false) {id : Nat}
    {batch : SourceBatch α} {queue : List (Option (SourceBatch α))} {phase : RunPhase α}
    (goes : phase.ending = false) :
    ({ (hub.setInput id { hub.inputs id with queue := queue }).noteOffer [id] batch true with
      phase := phase } : SharedSourceHub α).Ending := by
  have put : (hub.setInput id { hub.inputs id with queue := queue }).Ending :=
    ends.of_setInput (ends.finished id) fun finished => finished
  refine put.of_steady (steady_noteOffer ?_ goes)
  exact going

theorem goOn_ending (recorded : hub.Recorded) (ends : hub.Ending)
    (opened : hub.putsOpen .goOn = true) : hub.goOn.Ending := by
  unfold goOn
  split
  · next phase => exact ends.of_steady (steady_phase (by rw [phase]; rfl) rfl)
  · next phase =>
      unfold check
      split
      · exact ends.of_steady (steady_noteOffer (by rw [phase]; rfl) rfl)
      · exact ends.of_steady (steady_phase (by rw [phase]; rfl) rfl)
  · next phase => exact ends.of_steady (steady_count (by rw [phase]; rfl))
  · next phase => exact ends.of_steady (steady_count (by rw [phase]; rfl))
  · next dispatch id left phase =>
      simp only [putsOpen, phase, Bool.and_eq_true, Bool.not_eq_true'] at opened
      unfold putForAll
      simp only [RingInput.put_room opened.1 (recorded.uncancelled id) opened.2, ne_eq,
        not_true_eq_false, if_false]
      exact put_ending ends (by rw [phase]; rfl) rfl
  · next phase => exact ends.of_steady (steady_count (by rw [phase]; rfl))
  · next phase =>
      unfold look
      split
      · exact ends.of_steady (steady_noteOffer (by rw [phase]; rfl) rfl)
      · exact ends.of_steady (steady_phase (by rw [phase]; rfl) rfl)
  · next dispatch id left delivered dropped phase =>
      simp only [putsOpen, phase] at opened
      unfold putForOne
      cases full : (hub.inputs id).isFull with
      | true =>
          simp only [RingInput.put_full opened (recorded.uncancelled id) full, if_true]
          exact ends.of_steady (steady_noteOffer (by rw [phase]; rfl) rfl)
      | false =>
          have put : (0 : Int) ≠ EAGAIN := by decide
          simp only [RingInput.put_room opened (recorded.uncancelled id) full, if_neg put, ne_eq,
            not_true_eq_false, if_false]
          exact put_ending ends (by rw [phase]; rfl) rfl
  · next phase =>
      refine ⟨ends.terminal.trans (by rw [phase]; rfl), ends.finished, ?_, ?_, ends.emptied,
        ends.pending, ends.stops⟩
      · rintro _ ⟨⟩
      · intro _ subscriber member
        exact (ends.closing [] phase subscriber member).resolve_left List.not_mem_nil
  · next id left phase =>
      have closed := closeStream_ending ends id
      refine ⟨closed.terminal.trans (by rw [setInput, phase]; rfl), closed.finished, ?_, ?_,
        closed.emptied, closed.pending, closed.stops⟩
      · intro rest closing subscriber member
        obtain rfl := RunPhase.closing.inj closing
        have before := closed.closing (id :: left) (by rw [setInput, phase]) subscriber member
        rcases before with there | finished
        · rcases List.mem_cons.mp there with same | later
          · refine .inr ?_
            rw [same]
            simpa [setInput] using closeStream_finished ends id
          · exact .inl later
        · exact .inr finished
      · rintro ⟨⟩
  · exact ends

/-! ## Steps -/

/-- The conditions under which subscribers do not disturb each other. -/
def isolates (hub : SharedSourceHub α) (event : HubEvent α) : Bool :=
  hub.putsOpen event && hub.joinsBetween event && hub.opensOrEmpty event &&
    hub.joinsRunning event && roomy event

theorem step_ending (recorded : hub.Recorded) (ends : hub.Ending) {event : HubEvent α}
    (isolates : hub.isolates event = true) : (hub.step event).Ending := by
  simp only [SharedSourceHub.isolates, Bool.and_eq_true] at isolates
  obtain ⟨⟨⟨⟨opened, between⟩, sourceOpened⟩, running⟩, roomy⟩ := isolates
  cases event with
  | addSubscriber runtimeTaskId ready maxSubscribers capacity =>
      exact addSubscriber_ending ends runtimeTaskId ready maxSubscribers capacity running
  | markSubscriberReady id =>
      refine ends.of_steady { Steady.refl hub with ids := ?_ }
      simp only [step, markSubscriberReady, List.map_map]
      refine List.map_congr_left fun subscriber _ => ?_
      simp only [Function.comp_apply]
      split <;> rfl
  | start =>
      simp only [step, start]
      split
      · exact ends
      next fresh =>
        split
        · exact ends
        split
        · exact ends
        · have phase := phase_of_not_started fresh
          have going : hub.phase.ending = false := by rw [phase]; rfl
          refine ends.of_steady { steady_phase going rfl with terminal := ?_ }
          rw [ends.terminal, going]
          rfl
  | requestStop cancelled =>
      exact ends.of_steady { Steady.refl hub with stops := fun _ => .inr rfl, asked := fun _ => rfl }
  | removeSubscriber id closeStream => exact removeSubscriber_ending ends id closeStream
  | goOnRemoving id => exact goOnRemoving_ending ends id
  | consume id => exact consume_ending ends id
  | sourceOpened code => exact sourceOpened_ending ends sourceOpened
  | lookAtStop => exact lookAtStop_ending ends
  | poll event => exact poll_ending ends event
  | findTargets order => exact findTargets_ending ends order
  | goOn => exact goOn_ending recorded ends opened

end SharedSourceHub

end Flowsql.Scheduler
