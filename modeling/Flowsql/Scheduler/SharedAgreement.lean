import Flowsql.Scheduler.SharedTotals

/-!
# The members of a fixed hub

While no member is removed, a batch goes to all members or to none, and the counters of the hub
and of every member are the totals of the same batches.
-/

namespace Flowsql.Scheduler

variable {α : Type}

namespace SharedSourceHub

variable {hub after : SharedSourceHub α} {shared : List (SourceBatch α × Bool)}

/-- These offers have been counted, for the hub and for every subscriber. -/
structure Shares (hub : SharedSourceHub α) (shared : List (SourceBatch α × Bool)) : Prop where
  offered : ∀ subscriber ∈ hub.subscribers,
    hub.record.offered subscriber.id = shared ++ hub.phase.uncounted subscriber.id
  each : ∀ subscriber ∈ hub.subscribers, subscriber.counters = DeliveryCounters.total shared
  counters : hub.counters = DeliveryCounters.total shared
  taken : hub.record.taken = shared.map Prod.fst ++ hub.phase.current

/-- What holds in every state of a fixed hub that no subscriber leaves. -/
structure Agreed (hub : SharedSourceHub α) : Prop where
  fixed : hub.mode = .fixed
  removals : hub.removals = []
  opened : ∀ id, (hub.inputs id).opened = true
  waiting : hub.phase = .notStarted → hub.record.taken = []
  inhabited : hub.phase = .notStarted ∨ hub.subscribers ≠ []
  checked : ∀ dispatch left, hub.phase = .checking dispatch left →
    ∀ id ∈ dispatch.targets, id ∈ left ∨ (hub.inputs id).isFull = false
  room : ∀ dispatch left, hub.phase = .puttingAll dispatch left →
    ∀ id ∈ left, (hub.inputs id).isFull = false
  shared : ∃ shared, hub.Shares shared

theorem Agreed.coordinated (agreed : hub.Agreed) : hub.coordinated = true := by
  simp [SharedSourceHub.coordinated, agreed.fixed]

theorem created_agreed (coordinatedDrop : Bool) :
    (created .fixed coordinatedDrop : SharedSourceHub α).Agreed where
  fixed := rfl
  removals := rfl
  opened := fun _ => rfl
  waiting := fun _ => rfl
  inhabited := .inl rfl
  checked := by
    intro _ _ checking
    cases checking
  room := by
    intro _ _ putting
    cases putting
  shared := ⟨[], fun _ member => absurd member List.not_mem_nil,
    fun _ member => absurd member List.not_mem_nil, rfl, rfl⟩

/-- The step counts nothing, and takes no room. -/
structure Calm (before after : SharedSourceHub α) : Prop where
  mode : after.mode = before.mode
  removals : after.removals = before.removals
  opened : ∀ id, (after.inputs id).opened = (before.inputs id).opened
  taken : after.record.taken = before.record.taken
  offered : after.record.offered = before.record.offered
  counters : after.counters = before.counters
  subscribers : ∀ subscriber ∈ after.subscribers, ∃ earlier ∈ before.subscribers,
    subscriber.id = earlier.id ∧ subscriber.counters = earlier.counters
  inhabited : before.subscribers ≠ [] → after.subscribers ≠ []
  phase : after.phase = before.phase ∧
      (∀ id, (before.inputs id).isFull = false → (after.inputs id).isFull = false) ∨
    before.phase.dispatch? = none ∧ after.phase.dispatch? = none ∧ after.phase ≠ .notStarted ∧
      (before.phase = .notStarted → before.subscribers ≠ [])

theorem Calm.refl (hub : SharedSourceHub α) : hub.Calm hub where
  mode := rfl
  removals := rfl
  opened := fun _ => rfl
  taken := rfl
  offered := rfl
  counters := rfl
  subscribers := fun subscriber member => ⟨subscriber, member, rfl, rfl⟩
  inhabited := fun some_ => some_
  phase := .inl ⟨rfl, fun _ room => room⟩

theorem Agreed.of_calm (agreed : hub.Agreed) (calm : hub.Calm after) : after.Agreed := by
  have uncounted : ∀ id, after.phase.uncounted id = hub.phase.uncounted id := by
    intro id
    rcases calm.phase with ⟨same, _⟩ | ⟨idle, idleAfter, _⟩
    · rw [same]
    · rw [RunPhase.uncounted_idle idle, RunPhase.uncounted_idle idleAfter]
  have current : after.phase.current = hub.phase.current := by
    rcases calm.phase with ⟨same, _⟩ | ⟨idle, idleAfter, _⟩
    · rw [same]
    · rw [current_idle idle, current_idle idleAfter]
  obtain ⟨shared, shares⟩ := agreed.shared
  refine ⟨calm.mode.trans agreed.fixed, calm.removals.trans agreed.removals,
    fun id => (calm.opened id).trans (agreed.opened id), ?_, ?_, ?_, ?_, ⟨shared, ?_⟩⟩
  · intro notStarted
    rw [calm.taken]
    rcases calm.phase with ⟨same, _⟩ | ⟨_, _, started, _⟩
    · exact agreed.waiting (same.symm.trans notStarted)
    · exact absurd notStarted started
  · rcases calm.phase with ⟨same, _⟩ | ⟨_, _, _, inhabited⟩
    · exact agreed.inhabited.imp same.trans calm.inhabited
    · refine .inr (calm.inhabited ?_)
      rcases agreed.inhabited with waiting | inhabited_
      · exact inhabited waiting
      · exact inhabited_
  · intro dispatch left checking id target
    rcases calm.phase with ⟨same, room⟩ | ⟨_, idleAfter, _⟩
    · exact (agreed.checked dispatch left (same.symm.trans checking) id target).imp_right (room id)
    · rw [checking] at idleAfter
      cases idleAfter
  · intro dispatch left putting id member
    rcases calm.phase with ⟨same, room⟩ | ⟨_, idleAfter, _⟩
    · exact room id (agreed.room dispatch left (same.symm.trans putting) id member)
    · rw [putting] at idleAfter
      cases idleAfter
  · refine ⟨?_, ?_, calm.counters.trans shares.counters, ?_⟩
    · intro subscriber member
      obtain ⟨earlier, there, idEq, _⟩ := calm.subscribers subscriber member
      rw [calm.offered, uncounted, idEq]
      exact shares.offered earlier there
    · intro subscriber member
      obtain ⟨earlier, there, _, countersEq⟩ := calm.subscribers subscriber member
      exact countersEq.trans (shares.each earlier there)
    · rw [calm.taken, current]
      exact shares.taken

theorem calm_idle {phase : RunPhase α} {status : SharedHubStatus} {code : Int} {message : String}
    (idle : hub.phase.dispatch? = none) (idleAfter : phase.dispatch? = none)
    (started : phase ≠ .notStarted) (inhabited : hub.phase = .notStarted → hub.subscribers ≠ []) :
    hub.Calm { hub with
      status := status, errorCode := code, errorMessage := message, phase := phase } :=
  { Calm.refl hub with phase := .inr ⟨idle, idleAfter, started, inhabited⟩ }

/-! ## Steps beside the dispatch -/

theorem addSubscriber_agreed (recorded : hub.Recorded) (agreed : hub.Agreed)
    (runtimeTaskId : String) (ready : Bool) (maxSubscribers : Nat) (capacity : Option Nat) :
    (hub.addSubscriber runtimeTaskId ready maxSubscribers capacity).Agreed := by
  unfold addSubscriber
  split
  · exact agreed
  next accepted =>
    cases capacity with
    | none => exact agreed.of_calm { Calm.refl hub with }
    | some capacity =>
        have waiting : hub.phase = .notStarted := by
          refine phase_of_not_started fun started => ?_
          simp only [refusal, agreed.fixed, started, and_self, if_true] at accepted
          split at accepted <;> cases accepted
        obtain ⟨shared, shares⟩ := agreed.shared
        have taken := agreed.waiting waiting
        have none_ : shared = [] := by
          have split_ := shares.taken
          rw [taken] at split_
          exact List.map_eq_nil_iff.mp (List.append_eq_nil_iff.mp split_.symm).1
        have fresh : hub.record.offered (hub.subscriberSeq + 1) = [] :=
          recorded.unissued _ (Nat.lt_succ_self _)
        have idle : hub.phase.dispatch? = none := by rw [waiting]; rfl
        refine ⟨agreed.fixed, agreed.removals, ?_, agreed.waiting, .inl waiting, ?_, ?_,
          ⟨shared, ?_, ?_, shares.counters, shares.taken⟩⟩
        · intro id
          by_cases same : id = hub.subscriberSeq + 1
          · simp [same]
          · simpa [same] using agreed.opened id
        · intro dispatch left checking
          cases waiting.symm.trans checking
        · intro dispatch left putting
          cases waiting.symm.trans putting
        · intro subscriber member
          rcases List.mem_append.mp member with there | new
          · exact shares.offered subscriber there
          · rw [List.mem_singleton.mp new, none_, RunPhase.uncounted_idle idle]
            exact fresh
        · intro subscriber member
          rcases List.mem_append.mp member with there | new
          · exact shares.each subscriber there
          · rw [List.mem_singleton.mp new, none_]
            rfl

theorem calm_markSubscriberReady (id : Nat) : hub.Calm (hub.markSubscriberReady id) := by
  refine { Calm.refl hub with subscribers := ?_, inhabited := ?_ }
  · intro subscriber member
    obtain ⟨earlier, there, rfl⟩ := List.mem_map.mp member
    refine ⟨earlier, there, ?_⟩
    split <;> exact ⟨rfl, rfl⟩
  · intro some_ none_
    exact some_ (List.map_eq_nil_iff.mp none_)

theorem calm_start : hub.Calm hub.start := by
  unfold start
  split
  · exact .refl hub
  next fresh =>
    split
    · exact .refl hub
    next some_ =>
      split
      · exact .refl hub
      · refine calm_idle ?_ rfl nofun ?_
        · rw [phase_of_not_started fresh]
          rfl
        · intro _ none_
          exact some_ (List.isEmpty_iff.mpr none_)

theorem calm_consume (id : Nat) : hub.Calm (hub.consume id) := by
  unfold consume
  split
  · exact .refl hub
  · next item rest queue =>
      refine { Calm.refl hub with opened := ?_, phase := .inl ⟨rfl, ?_⟩ }
      · intro other
        by_cases same : other = id
        · rw [same]
          simp [setInput]
        · simp [setInput, same]
      · intro other
        by_cases same : other = id
        · subst same
          simp only [RingInput.isFull, decide_eq_false_iff_not, Nat.not_le, setInput,
            Function.update_self, queue, List.length_cons]
          omega
        · simp [setInput, same]

theorem calm_sourceOpened (code : Int) : hub.Calm (hub.sourceOpened code) := by
  unfold sourceOpened
  split
  · next opening =>
      have idle : hub.phase.dispatch? = none := by rw [opening]; rfl
      have begun : hub.phase = .notStarted → hub.subscribers ≠ [] := by rw [opening]; nofun
      split
      · exact calm_idle idle rfl nofun begun
      · exact calm_idle idle rfl nofun begun
  · exact .refl hub

theorem calm_lookAtStop : hub.Calm hub.lookAtStop := by
  unfold lookAtStop
  split
  · next looping =>
      have idle : hub.phase.dispatch? = none := by rw [looping]; rfl
      have begun : hub.phase = .notStarted → hub.subscribers ≠ [] := by rw [looping]; nofun
      split
      · exact calm_idle idle rfl nofun begun
      · exact calm_idle idle rfl nofun begun
  · exact .refl hub

theorem calm_poll (event : SourceEvent α) : hub.Calm (hub.poll event) := by
  unfold poll
  split
  · next polling =>
      have idle : hub.phase.dispatch? = none := by rw [polling]; rfl
      have begun : hub.phase = .notStarted → hub.subscribers ≠ [] := by rw [polling]; nofun
      split <;> exact calm_idle idle rfl nofun begun
  · exact .refl hub

/-- The inputs are closed one after the other. -/
theorem calm_closing {id : Nat} {left : List Nat} (phase : hub.phase = .closing (id :: left)) :
    hub.Calm { hub.setInput id (hub.inputs id).closeStream with phase := .closing left } := by
  refine { Calm.refl hub with opened := ?_, phase := .inr ⟨by rw [phase]; rfl, rfl, ?_, ?_⟩ }
  · intro other
    by_cases same : other = id
    · rw [same]
      simp only [setInput, Function.update_self, RingInput.closeStream]
      split <;> rfl
    · simp [setInput, same]
  · rintro ⟨⟩
  · rw [phase]
    rintro ⟨⟩

/-! ## The dispatch -/

/-- A hub whose loop has begun has a subscriber. -/
theorem Agreed.inhabited_of_begun {phase : RunPhase α} (agreed : hub.Agreed)
    (now : hub.phase = phase) (begun : phase ≠ .notStarted) : hub.subscribers ≠ [] := by
  refine agreed.inhabited.resolve_left ?_
  rwa [now]

theorem findTargets_agreed (recorded : hub.Recorded) (agreed : hub.Agreed) (order : List Nat) :
    (hub.findTargets order).Agreed := by
  unfold findTargets
  split
  · next batch polled =>
      split
      · next perm =>
          have all : hub.subscribers.filter SubscriberState.active = hub.subscribers :=
            List.filter_eq_self.mpr recorded.active
          rw [all] at perm
          have inhabited : hub.subscribers ≠ [] := agreed.inhabited_of_begun polled (by rintro ⟨⟩)
          have some_ : order ≠ [] := by
            rintro rfl
            exact inhabited (List.map_eq_nil_iff.mp perm.symm.eq_nil)
          have idle : hub.phase.dispatch? = none := by rw [polled]; rfl
          rw [if_neg some_, if_pos agreed.coordinated]
          obtain ⟨shared, shares⟩ := agreed.shared
          have taken := shares.taken
          rw [current_idle idle, List.append_nil] at taken
          refine ⟨agreed.fixed, agreed.removals, agreed.opened, ?_, .inr inhabited, ?_, ?_,
            ⟨shared, ?_, shares.each, shares.counters, ?_⟩⟩
          · rintro ⟨⟩
          · intro dispatch left checking id target
            obtain ⟨rfl, rfl⟩ := RunPhase.checking.inj checking
            exact .inl target
          · rintro _ _ ⟨⟩
          · intro subscriber member
            have offered := shares.offered subscriber member
            rwa [RunPhase.uncounted_idle idle] at offered
          · exact congrArg (· ++ [batch]) taken
      · exact agreed
  · exact agreed

theorem checked_agreed {dispatch : Dispatch α} (agreed : hub.Agreed)
    (phase : hub.phase = .checking dispatch []) :
    ({ hub with phase := .puttingAll dispatch dispatch.targets } : SharedSourceHub α).Agreed := by
  obtain ⟨shared, shares⟩ := agreed.shared
  refine ⟨agreed.fixed, agreed.removals, agreed.opened, ?_, ?_, ?_, ?_,
    ⟨shared, ?_, shares.each, shares.counters, ?_⟩⟩
  · rintro ⟨⟩
  · exact .inr (agreed.inhabited_of_begun phase (by rintro ⟨⟩))
  · rintro _ _ ⟨⟩
  · intro other left putting id member
    obtain ⟨rfl, rfl⟩ := RunPhase.puttingAll.inj putting
    exact (agreed.checked dispatch [] phase id member).resolve_left List.not_mem_nil
  · intro subscriber member
    have offered := shares.offered subscriber member
    rw [phase] at offered
    simpa [RunPhase.uncounted] using offered
  · have taken := shares.taken
    rwa [phase] at taken

theorem check_agreed {dispatch : Dispatch α} {id : Nat} {left : List Nat} (recorded : hub.Recorded)
    (agreed : hub.Agreed) (phase : hub.phase = .checking dispatch (id :: left)) :
    (hub.check dispatch id left).Agreed := by
  obtain ⟨shared, shares⟩ := agreed.shared
  have inhabited : hub.subscribers ≠ [] := agreed.inhabited_of_begun phase (by rintro ⟨⟩)
  have taken := shares.taken
  rw [phase] at taken
  unfold check
  split
  · refine ⟨agreed.fixed, agreed.removals, agreed.opened, ?_, .inr inhabited, ?_, ?_,
      ⟨shared, ?_, shares.each, shares.counters, taken⟩⟩
    · rintro ⟨⟩
    · rintro _ _ ⟨⟩
    · rintro _ _ ⟨⟩
    · intro subscriber member
      have target := recorded.covered agreed.coordinated dispatch (by rw [phase]; rfl) subscriber
        member
      have offered := shares.offered subscriber member
      rw [phase] at offered
      simpa [noteOffer, RunPhase.uncounted, target] using offered
  · next room =>
      refine ⟨agreed.fixed, agreed.removals, agreed.opened, ?_, .inr inhabited, ?_, ?_,
        ⟨shared, ?_, shares.each, shares.counters, taken⟩⟩
      · rintro ⟨⟩
      · intro other rest checking target member
        obtain ⟨rfl, rfl⟩ := RunPhase.checking.inj checking
        rcases agreed.checked dispatch (id :: left) phase target member with there | free
        · rcases List.mem_cons.mp there with rfl | later
          · exact .inr (Bool.eq_false_iff.mpr room)
          · exact .inl later
        · exact .inr free
      · rintro _ _ ⟨⟩
      · intro subscriber member
        have offered := shares.offered subscriber member
        rwa [phase] at offered

theorem putForAll_agreed {dispatch : Dispatch α} {id : Nat} {left : List Nat}
    (recorded : hub.Recorded) (agreed : hub.Agreed)
    (phase : hub.phase = .puttingAll dispatch (id :: left)) :
    (hub.putForAll dispatch id left).Agreed := by
  obtain ⟨shared, shares⟩ := agreed.shared
  obtain ⟨_, nodup, sub⟩ : (RunPhase.puttingAll dispatch (id :: left)).Shaped :=
    phase ▸ recorded.shaped
  have elsewhere := (List.nodup_cons.mp nodup).1
  have room := agreed.room dispatch (id :: left) phase
  have put := @RingInput.put_room α (hub.inputs id) dispatch.batch (agreed.opened id)
    (recorded.uncancelled id) (room id List.mem_cons_self)
  unfold putForAll
  simp only [put, ne_eq, not_true_eq_false, if_false]
  refine ⟨agreed.fixed, agreed.removals, ?_, ?_, ?_, ?_, ?_,
    ⟨shared, ?_, shares.each, shares.counters, ?_⟩⟩
  · intro other
    by_cases same : other = id
    · rw [same]
      simpa [noteOffer, setInput] using agreed.opened id
    · simpa [noteOffer, setInput, same] using agreed.opened other
  · rintro ⟨⟩
  · exact .inr (agreed.inhabited_of_begun phase (by rintro ⟨⟩))
  · rintro _ _ ⟨⟩
  · intro other rest putting target member
    obtain ⟨rfl, rfl⟩ := RunPhase.puttingAll.inj putting
    have apart : target ≠ id := by
      rintro rfl
      exact elsewhere member
    simpa [noteOffer, setInput, apart] using room target (List.mem_cons_of_mem _ member)
  · intro subscriber member
    have offered := shares.offered subscriber member
    rw [phase] at offered
    by_cases same : subscriber.id = id
    · rw [same] at offered ⊢
      simpa [noteOffer, setInput, RunPhase.uncounted, sub List.mem_cons_self, elsewhere]
        using offered
    · simpa [noteOffer, setInput, RunPhase.uncounted, same] using offered
  · have taken := shares.taken
    rwa [phase] at taken

/-- The batch is counted in the same way for the hub and for every member. -/
theorem count_agreed {dispatch : Dispatch α} {got : Bool}
    {change : SubscriberState → DeliveryCounters → DeliveryCounters} (agreed : hub.Agreed)
    (current : hub.phase.current = [dispatch.batch]) (begun : hub.phase ≠ .notStarted)
    (uncounted : ∀ subscriber ∈ hub.subscribers,
      hub.phase.uncounted subscriber.id = [(dispatch.batch, got)])
    (changes : ∀ subscriber ∈ hub.subscribers, ∀ counters,
      change subscriber counters = counters.offer (dispatch.batch, got)) :
    ({ hub.countEach change with
      counters := hub.counters.offer (dispatch.batch, got)
      phase := .looping } : SharedSourceHub α).Agreed := by
  obtain ⟨shared, shares⟩ := agreed.shared
  have counted : ∀ counters, counters = DeliveryCounters.total shared →
      counters.offer (dispatch.batch, got) =
        DeliveryCounters.total (shared ++ [(dispatch.batch, got)]) := by
    rintro _ rfl
    rw [DeliveryCounters.total_append]
    rfl
  refine ⟨agreed.fixed, agreed.removals, agreed.opened, nofun, ?_, nofun, nofun,
    ⟨shared ++ [(dispatch.batch, got)], ?_, ?_, counted _ shares.counters, ?_⟩⟩
  · refine .inr fun none_ => agreed.inhabited_of_begun rfl begun ?_
    exact List.map_eq_nil_iff.mp none_
  · intro subscriber member
    obtain ⟨earlier, there, rfl⟩ := List.mem_map.mp member
    have offered := shares.offered earlier there
    rw [uncounted earlier there] at offered
    exact offered.trans (List.append_nil _).symm
  · intro subscriber member
    obtain ⟨earlier, there, rfl⟩ := List.mem_map.mp member
    rw [changes earlier there]
    exact counted _ (shares.each earlier there)
  · have taken := shares.taken
    rw [current] at taken
    rw [List.map_append]
    exact taken.trans (List.append_nil _).symm

theorem goOn_agreed (recorded : hub.Recorded) (agreed : hub.Agreed) : hub.goOn.Agreed := by
  have noOffering : ∀ dispatch left room delivered dropped,
      hub.phase ≠ .offering dispatch left room delivered dropped := by
    intro dispatch left room delivered dropped offering
    have alike := recorded.alike dispatch (by rw [offering]; rfl)
    rw [offering, agreed.coordinated] at alike
    cases alike
  unfold goOn
  split
  · next phase => exact checked_agreed agreed phase
  · next phase => exact check_agreed recorded agreed phase
  · next dispatch phase =>
      refine @count_agreed α hub dispatch false _ agreed (by rw [phase]; rfl)
        (by rw [phase]; rintro ⟨⟩) ?_ ?_
      · intro subscriber member
        have target := recorded.covered agreed.coordinated dispatch (by rw [phase]; rfl) subscriber
          member
        rw [phase]
        exact if_pos target
      · intro subscriber member counters
        simp [recorded.active subscriber member, DeliveryCounters.offer]
  · next dispatch phase =>
      refine @count_agreed α hub dispatch true _ agreed (by rw [phase]; rfl)
        (by rw [phase]; rintro ⟨⟩) ?_ ?_
      · intro subscriber member
        have target := recorded.covered agreed.coordinated dispatch (by rw [phase]; rfl) subscriber
          member
        rw [phase]
        exact if_pos ⟨target, List.not_mem_nil⟩
      · intro subscriber member counters
        simp [recorded.active subscriber member, DeliveryCounters.offer]
  · next phase => exact putForAll_agreed recorded agreed phase
  · next phase => exact absurd phase (noOffering _ _ _ _ _)
  · next phase => exact absurd phase (noOffering _ _ _ _ _)
  · next phase => exact absurd phase (noOffering _ _ _ _ _)
  · next phase =>
      refine agreed.of_calm { Calm.refl hub with phase := .inr ⟨by rw [phase]; rfl, rfl, ?_, ?_⟩ }
      · rintro ⟨⟩
      · rw [phase]
        rintro ⟨⟩
  · next phase => exact agreed.of_calm (calm_closing phase)
  · exact agreed

/-! ## Steps -/

/-- No subscriber is removed. -/
def stays (hub : SharedSourceHub α) : HubEvent α → Bool
  | .removeSubscriber id _ => hub.subscribers.all (·.id ≠ id)
  | _ => true

/-- In a fixed hub a `Put` finds its ring open and with room, and nobody joins a dispatch. -/
theorem Agreed.undisturbed (recorded : hub.Recorded) (agreed : hub.Agreed) (event : HubEvent α) :
    hub.putsOpen event = true ∧ hub.joinsBetween event = true := by
  constructor
  · cases event with
    | goOn =>
        unfold putsOpen
        simp only
        split
        · next dispatch id left phase =>
            simp [agreed.opened id, agreed.room dispatch (id :: left) phase id List.mem_cons_self]
        · next phase =>
            have alike := recorded.alike _ (by rw [phase]; rfl)
            rw [phase, agreed.coordinated] at alike
            cases alike
        · rfl
    | _ => rfl
  · cases event with
    | addSubscriber runtimeTaskId ready maxSubscribers capacity =>
        unfold joinsBetween
        cases accepted : hub.refusal runtimeTaskId maxSubscribers with
        | some refused => simp [accepted]
        | none =>
            have waiting : hub.phase = .notStarted := by
              refine phase_of_not_started fun started => ?_
              simp only [refusal, agreed.fixed, started, and_self, if_true] at accepted
              split at accepted <;> cases accepted
            simp [waiting, RunPhase.dispatch?]
    | _ => rfl

theorem step_agreed (recorded : hub.Recorded) (agreed : hub.Agreed) {event : HubEvent α}
    (stays : hub.stays event = true) : (hub.step event).Agreed := by
  cases event with
  | addSubscriber runtimeTaskId ready maxSubscribers capacity =>
      exact addSubscriber_agreed recorded agreed runtimeTaskId ready maxSubscribers capacity
  | markSubscriberReady id => exact agreed.of_calm (calm_markSubscriberReady id)
  | start => exact agreed.of_calm calm_start
  | requestStop cancelled => exact agreed.of_calm { Calm.refl hub with }
  | removeSubscriber id closeStream =>
      rw [show hub.step (.removeSubscriber id closeStream) = hub from if_pos stays]
      exact agreed
  | goOnRemoving id =>
      have nothing : hub.step (.goOnRemoving id) = hub := by
        simp only [step, goOnRemoving, agreed.removals, List.find?_nil]
      rw [nothing]
      exact agreed
  | consume id => exact agreed.of_calm (calm_consume id)
  | sourceOpened code => exact agreed.of_calm (calm_sourceOpened code)
  | lookAtStop => exact agreed.of_calm calm_lookAtStop
  | poll event => exact agreed.of_calm (calm_poll event)
  | findTargets order => exact findTargets_agreed recorded agreed order
  | goOn => exact goOn_agreed recorded agreed

end SharedSourceHub

end Flowsql.Scheduler
