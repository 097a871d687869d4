import Flowsql.Scheduler.SharedRecord

/-!
# The dispatch of a shared source

The record of a hub through the steps of a dispatch, and through whole runs. No subscriber joins
a dispatch that goes to all, and no `Put` finds a ring that was closed.
-/

namespace Flowsql.Scheduler

variable {α : Type}

namespace SharedSourceHub

variable {hub : SharedSourceHub α} {dispatch : Dispatch α} {id : Nat}
  {left delivered dropped : List Nat}

/-! ## Targets -/

theorem findTargets_recorded (recorded : hub.Recorded) (order : List Nat) :
    (hub.findTargets order).Recorded := by
  unfold findTargets
  split
  · next batch polled =>
      split
      · next perm =>
          have idle : hub.phase.dispatch? = none := by rw [polled]; rfl
          have all : hub.subscribers.filter SubscriberState.active = hub.subscribers :=
            List.filter_eq_self.mpr recorded.active
          rw [all] at perm
          have there : ∀ id, id ∈ hub.subscribers.map SubscriberState.id ↔ id ∈ order :=
            fun id => perm.mem_iff.symm
          have nodup : order.Nodup := perm.nodup_iff.mpr recorded.distinct
          have issued : ∀ id ∈ order, id ≤ hub.subscriberSeq := by
            intro id member
            obtain ⟨subscriber, registered, rfl⟩ := List.mem_map.mp ((there id).mpr member)
            exact recorded.issued subscriber registered
          have dropped : ∀ id, (hub.record.taken ++ [batch]).drop (hub.record.joinedAt id) =
              hub.record.taken.drop (hub.record.joinedAt id) ++ [batch] :=
            fun id => List.drop_append_of_le_length (recorded.joined id)
          generalize phaseEq : (if order = [] then .looping
            else if hub.coordinated then .checking ⟨batch, order⟩ order
            else .offering ⟨batch, order⟩ order false [] [] : RunPhase α) = phase
          have awaited : ∀ id, phase.awaited id = if id ∈ order then [batch] else [] := by
            intro id
            rw [← phaseEq]
            split
            · next none_ => simp [none_, RunPhase.awaited]
            split
            · rfl
            · rfl
          have uncounted : ∀ id, phase.uncounted id = [] := by
            intro id
            rw [← phaseEq]
            split
            · rfl
            split
            · rfl
            · simp [RunPhase.uncounted]
          have found : ∀ dispatch, phase.dispatch? = some dispatch →
              dispatch.targets = order ∧ phase.alike = hub.coordinated := by
            intro dispatch is
            rw [← phaseEq] at is ⊢
            split at is
            · cases is
            split at is
            · next some_ coordinated =>
                rw [if_neg some_, if_pos coordinated, coordinated]
                exact ⟨(congrArg Dispatch.targets (Option.some.inj is)).symm, rfl⟩
            · next some_ single =>
                rw [if_neg some_, if_neg single, Bool.eq_false_iff.mpr single]
                exact ⟨(congrArg Dispatch.targets (Option.some.inj is)).symm, rfl⟩
          refine ⟨recorded.distinct, recorded.issued, recorded.active, recorded.uncancelled,
            recorded.unissued, ?_, ?_, fun dispatch is => (found dispatch is).2, ?_, ?_, ?_, ?_,
            recorded.queued, ?_⟩
          · rw [← phaseEq]
            split
            · trivial
            split
            · exact ⟨nodup, fun _ member => member⟩
            · exact ⟨by simpa using nodup, fun id => by simp⟩
          · intro dispatch is id member
            exact issued id ((found dispatch is).1 ▸ member)
          · intro _ dispatch is subscriber member
            rw [(found dispatch is).1]
            exact (there _).mp (List.mem_map_of_mem member)
          · intro id
            rw [List.length_append]
            exact Nat.le_add_right_of_le (recorded.joined id)
          · intro id
            rw [dropped]
            exact (recorded.contiguous id).trans (List.prefix_append _ _)
          · intro id either
            have target : id ∈ order := by
              rcases either with member | awaits
              · exact (there id).mp member
              · by_contra elsewhere
                simp [awaited, elsewhere] at awaits
            have complete := recorded.complete id (.inl ((there id).mpr target))
            rw [RunPhase.awaited_idle idle, List.append_nil] at complete
            rw [awaited, if_pos target, dropped, complete]
          · intro subscriber member
            obtain ⟨counted, split_, total⟩ := recorded.counted subscriber member
            rw [RunPhase.uncounted_idle idle] at split_
            exact ⟨counted, by rw [uncounted]; exact split_, total⟩
      · exact recorded
  · exact recorded

/-! ## A batch for all -/

/-- All targets have been looked at, and had room. -/
theorem checked_recorded (recorded : hub.Recorded) (phase : hub.phase = .checking dispatch []) :
    ({ hub with phase := .puttingAll dispatch dispatch.targets } : SharedSourceHub α).Recorded := by
  have shaped := recorded.shaped
  rw [phase] at shaped
  refine recorded.of_phase (by rw [phase]; rfl) (by rw [phase]; rfl)
    ⟨shaped.1, shaped.1, fun _ member => member⟩ ?_ ?_
  · intro id
    rw [phase]
    rfl
  · intro id
    rw [phase]
    simp [RunPhase.uncounted]

theorem check_recorded (recorded : hub.Recorded)
    (phase : hub.phase = .checking dispatch (id :: left)) :
    (hub.check dispatch id left).Recorded := by
  have shaped := recorded.shaped
  rw [phase] at shaped
  unfold check
  split
  · refine @Recorded.of_offers α hub _ dispatch.batch dispatch.targets false recorded
      ⟨rfl, rfl, rfl, rfl, rfl, rfl, fun _ => rfl, fun _ => rfl, fun id => ?_, ?_, ?_, shaped.1,
        fun id => ?_, fun id _ => rfl, fun id => ?_, fun id _ => ?_⟩
    · simp [noteOffer]
    · rw [phase]; rfl
    · rw [phase]; rfl
    · rw [phase]; rfl
    · rw [phase]; rfl
    · rw [phase]; rfl
  · refine recorded.of_phase (by rw [phase]; rfl) (by rw [phase]; rfl)
      ⟨shaped.1, fun _ member => shaped.2 (List.mem_cons_of_mem _ member)⟩ ?_ ?_
    · intro id
      rw [phase]
      rfl
    · intro id
      rw [phase]
      rfl

theorem countRefused_recorded (recorded : hub.Recorded) (phase : hub.phase = .refusing dispatch) :
    (hub.countRefused dispatch).Recorded := by
  have alike := recorded.alike dispatch (by rw [phase]; rfl)
  rw [phase] at alike
  refine recorded.of_count (fun id => by rw [phase]; rfl) ?_
  intro subscriber member counters
  have target := recorded.covered alike.symm dispatch (by rw [phase]; rfl) subscriber member
  rw [phase]
  simp [recorded.active subscriber member, RunPhase.uncounted, target, DeliveryCounters.offer]

theorem countDelivered_recorded (recorded : hub.Recorded)
    (phase : hub.phase = .puttingAll dispatch []) : (hub.countDelivered dispatch).Recorded := by
  have alike := recorded.alike dispatch (by rw [phase]; rfl)
  rw [phase] at alike
  refine recorded.of_count (fun id => by rw [phase]; rfl) ?_
  intro subscriber member counters
  have target := recorded.covered alike.symm dispatch (by rw [phase]; rfl) subscriber member
  rw [phase]
  simp [recorded.active subscriber member, RunPhase.uncounted, target, DeliveryCounters.offer]

theorem putForAll_recorded (recorded : hub.Recorded)
    (phase : hub.phase = .puttingAll dispatch (id :: left)) (opened : (hub.inputs id).opened = true)
    (room : (hub.inputs id).isFull = false) : (hub.putForAll dispatch id left).Recorded := by
  obtain ⟨distinct, nodup, sub⟩ : (RunPhase.puttingAll dispatch (id :: left)).Shaped :=
    phase ▸ recorded.shaped
  obtain ⟨elsewhere, nodupLeft⟩ := List.nodup_cons.mp nodup
  unfold putForAll
  simp only [RingInput.put_room opened (recorded.uncancelled id) room, ne_eq, not_true_eq_false,
    if_false]
  refine @Recorded.of_offers α hub _ dispatch.batch [id] true recorded
    ⟨rfl, rfl, rfl, rfl, rfl, rfl, fun _ => rfl, ?_, ?_, by rw [phase]; rfl, by rw [phase]; rfl,
      ⟨distinct, nodupLeft, fun _ member => sub (List.mem_cons_of_mem _ member)⟩, ?_, ?_, ?_, ?_⟩
  · intro other
    by_cases same : other = id
    · simp [noteOffer, setInput, same]
    · simp [noteOffer, setInput, same]
  · intro other
    by_cases same : other = id
    · simp [noteOffer, setInput, same, RingInput.batches, List.reduceOption_append]
    · simp [noteOffer, setInput, same]
  · intro other
    rw [phase]
    by_cases same : other = id
    · simp [RunPhase.awaited, same]
    · simp [RunPhase.awaited, same]
  · intro other member
    rw [List.mem_singleton.mp member]
    exact if_neg elsewhere
  · intro other
    rw [phase]
    by_cases same : other = id
    · subst same
      simp [RunPhase.uncounted, sub List.mem_cons_self, elsewhere]
    · simp [RunPhase.uncounted, same]
  · intro other member
    rw [phase, List.mem_singleton.mp member]
    simp [RunPhase.uncounted]

/-! ## A batch for each -/

/-- The next target is seen to. -/
theorem offered_recorded {room : Bool} (got : Bool) (input : RingInput α) (recorded : hub.Recorded)
    (phase : hub.phase = .offering dispatch (id :: left) room delivered dropped)
    (uncancelled : input.cancelRequested = (hub.inputs id).cancelRequested)
    (batches : input.batches = (hub.inputs id).batches ++ if got then [dispatch.batch] else [])
    (deliveredAfter droppedAfter : List Nat)
    (placed : if got then deliveredAfter = delivered ++ [id] ∧ droppedAfter = dropped
      else deliveredAfter = delivered ∧ droppedAfter = dropped ++ [id]) :
    ({ (hub.setInput id input).noteOffer [id] dispatch.batch got with
      phase := .offering dispatch left false deliveredAfter droppedAfter } :
      SharedSourceHub α).Recorded := by
  obtain ⟨nodup, targets⟩ : (RunPhase.offering dispatch (id :: left) room delivered dropped).Shaped :=
    phase ▸ recorded.shaped
  have moved : (id :: left ++ (delivered ++ dropped)).Perm
      (left ++ (deliveredAfter ++ droppedAfter)) := by
    cases got with
    | true =>
        obtain ⟨rfl, rfl⟩ := placed
        simp only [List.cons_append, List.append_assoc]
        refine (List.perm_middle.symm.trans ?_)
        refine List.Perm.append_left left ?_
        exact List.perm_middle.symm.trans (.of_eq (by simp))
    | false =>
        obtain ⟨rfl, rfl⟩ := placed
        simp only [List.cons_append]
        refine (List.perm_middle.symm.trans ?_)
        refine List.Perm.append_left left ?_
        rw [← List.append_assoc]
        exact (List.perm_append_singleton id _).symm
  have elsewhere : id ∉ left ∧ id ∉ delivered ∧ id ∉ dropped := by
    rw [List.cons_append, List.nodup_cons, List.mem_append, List.mem_append] at nodup
    tauto
  refine @Recorded.of_offers α hub _ dispatch.batch [id] got recorded
    ⟨rfl, rfl, rfl, rfl, rfl, rfl, fun _ => rfl, ?_, ?_, by rw [phase]; rfl, by rw [phase]; rfl,
      ⟨moved.nodup_iff.mp nodup, fun other => (targets other).trans moved.mem_iff⟩, ?_, ?_, ?_, ?_⟩
  · intro other
    by_cases same : other = id
    · rw [same]
      simpa [noteOffer, setInput] using uncancelled
    · simp [noteOffer, setInput, same]
  · intro other
    by_cases same : other = id
    · rw [same]
      simpa [noteOffer, setInput] using batches
    · simp [noteOffer, setInput, same]
  · intro other
    rw [phase]
    by_cases same : other = id
    · simp [RunPhase.awaited, same]
    · simp [RunPhase.awaited, same]
  · intro other member
    rw [List.mem_singleton.mp member]
    exact if_neg elsewhere.1
  · intro other
    rw [phase]
    cases got with
    | true =>
        obtain ⟨rfl, rfl⟩ := placed
        by_cases same : other = id
        · simp [RunPhase.uncounted, same]
        · simp [RunPhase.uncounted, same]
    | false =>
        obtain ⟨rfl, rfl⟩ := placed
        by_cases same : other = id
        · simp [RunPhase.uncounted, same, elsewhere.2.1]
        · simp [RunPhase.uncounted, same]
  · intro other member
    rw [phase, List.mem_singleton.mp member]
    simp [RunPhase.uncounted, elsewhere.2.1, elsewhere.2.2]

theorem setInput_self (id : Nat) : hub.setInput id (hub.inputs id) = hub := by
  unfold setInput
  rw [Function.update_eq_self]

/-- A target without room. -/
theorem left_out_recorded {room : Bool} (recorded : hub.Recorded)
    (phase : hub.phase = .offering dispatch (id :: left) room delivered dropped) :
    ({ hub.noteOffer [id] dispatch.batch false with
      phase := .offering dispatch left false delivered (dropped ++ [id]) } :
      SharedSourceHub α).Recorded := by
  have offered := offered_recorded false (hub.inputs id) recorded phase rfl
    (by simp) delivered (dropped ++ [id]) ⟨rfl, rfl⟩
  rwa [setInput_self] at offered

theorem look_recorded (recorded : hub.Recorded)
    (phase : hub.phase = .offering dispatch (id :: left) false delivered dropped) :
    (hub.look dispatch id left delivered dropped).Recorded := by
  unfold look
  split
  · exact left_out_recorded recorded phase
  · have shaped := recorded.shaped
    rw [phase] at shaped
    refine recorded.of_phase (by rw [phase]; rfl) (by rw [phase]; rfl) shaped ?_ ?_
    · intro id
      rw [phase]
      rfl
    · intro id
      rw [phase]
      rfl

theorem putForOne_recorded (recorded : hub.Recorded)
    (phase : hub.phase = .offering dispatch (id :: left) true delivered dropped)
    (opened : (hub.inputs id).opened = true) :
    (hub.putForOne dispatch id left delivered dropped).Recorded := by
  unfold putForOne
  cases full : (hub.inputs id).isFull with
  | true =>
      simp only [RingInput.put_full opened (recorded.uncancelled id) full, if_true]
      exact left_out_recorded recorded phase
  | false =>
      have put : (0 : Int) ≠ EAGAIN := by decide
      simp only [RingInput.put_room opened (recorded.uncancelled id) full, if_neg put, ne_eq,
        not_true_eq_false, if_false]
      refine offered_recorded true _ recorded phase ?_ ?_ (delivered ++ [id]) dropped ⟨rfl, rfl⟩
      · rfl
      · simp [RingInput.batches, List.reduceOption_append]

theorem countOffered_recorded {room : Bool} (recorded : hub.Recorded)
    (phase : hub.phase = .offering dispatch [] room delivered dropped) :
    (hub.countOffered dispatch delivered dropped).Recorded := by
  obtain ⟨nodup, targets⟩ : (RunPhase.offering dispatch [] room delivered dropped).Shaped :=
    phase ▸ recorded.shaped
  have apart := List.disjoint_of_nodup_append (show (delivered ++ dropped).Nodup from nodup)
  refine recorded.of_count (fun id => by rw [phase]; rfl) ?_
  intro subscriber member counters
  rw [phase]
  by_cases got : subscriber.id ∈ delivered
  · have kept : subscriber.id ∉ dropped := fun lost => apart got lost
    simp [RunPhase.uncounted, got, kept, DeliveryCounters.offer]
  · by_cases lost : subscriber.id ∈ dropped
    · simp [RunPhase.uncounted, got, lost, DeliveryCounters.offer]
    · simp [RunPhase.uncounted, got, lost]

/-! ## Steps -/

/-- A `Put` finds its ring open, and with room when the batch goes to all. -/
def putsOpen (hub : SharedSourceHub α) : HubEvent α → Bool
  | .goOn =>
      match hub.phase with
      | .puttingAll _ (id :: _) => (hub.inputs id).opened && !(hub.inputs id).isFull
      | .offering _ (id :: _) true _ _ => (hub.inputs id).opened
      | _ => true
  | _ => true

/-- Nobody joins while a batch goes to all. -/
def joinsBetween (hub : SharedSourceHub α) : HubEvent α → Bool
  | .addSubscriber runtimeTaskId _ maxSubscribers _ =>
      !hub.coordinated || (hub.refusal runtimeTaskId maxSubscribers).isSome ||
        hub.phase.dispatch?.isNone
  | _ => true

theorem goOn_recorded (recorded : hub.Recorded) (opened : hub.putsOpen .goOn = true) :
    hub.goOn.Recorded := by
  unfold goOn
  split
  · next phase => exact checked_recorded recorded phase
  · next phase => exact check_recorded recorded phase
  · next phase => exact countRefused_recorded recorded phase
  · next phase => exact countDelivered_recorded recorded phase
  · next phase =>
      simp only [putsOpen, phase, Bool.and_eq_true, Bool.not_eq_true'] at opened
      exact putForAll_recorded recorded phase opened.1 opened.2
  · next phase => exact countOffered_recorded recorded phase
  · next phase => exact look_recorded recorded phase
  · next phase =>
      simp only [putsOpen, phase] at opened
      exact putForOne_recorded recorded phase opened
  · next phase =>
      exact recorded.of_alike { Alike.refl hub with phase := .inr ⟨by rw [phase]; rfl, rfl⟩ }
  · next id left phase =>
      have closed := recorded.of_alike (alike_closeStream id)
      exact closed.of_alike (alike_phase (by rw [setInput, phase]; rfl) rfl)
  · exact recorded

theorem step_recorded (recorded : hub.Recorded) {event : HubEvent α}
    (opened : hub.putsOpen event = true) (between : hub.joinsBetween event = true) :
    (hub.step event).Recorded := by
  cases event with
  | addSubscriber runtimeTaskId ready maxSubscribers capacity =>
      refine addSubscriber_recorded recorded runtimeTaskId ready maxSubscribers capacity ?_
      intro coordinated accepted
      simpa [joinsBetween, coordinated, accepted] using between
  | markSubscriberReady id => exact recorded.of_alike (alike_markSubscriberReady id)
  | start => exact recorded.of_alike alike_start
  | requestStop cancelled => exact recorded.of_alike { Alike.refl hub with }
  | removeSubscriber id closeStream =>
      exact recorded.of_alike (alike_removeSubscriber id closeStream)
  | goOnRemoving id => exact recorded.of_alike (alike_goOnRemoving id)
  | consume id => exact recorded.of_alike (alike_consume id)
  | sourceOpened code => exact recorded.of_alike (alike_sourceOpened code)
  | lookAtStop => exact recorded.of_alike alike_lookAtStop
  | poll event => exact recorded.of_alike (alike_poll event)
  | findTargets order => exact findTargets_recorded recorded order
  | goOn => exact goOn_recorded recorded opened

end SharedSourceHub

end Flowsql.Scheduler
