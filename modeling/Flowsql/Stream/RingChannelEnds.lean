import Flowsql.Stream.RingChannelRuns

/-!
# The end of a ring stream channel

What holds of the channel in every state of an orderly run, and that a consumer that keeps polling a
closed channel is told its end.
-/

namespace Flowsql.Stream.RingStreamChannel

open Flowsql.Library ChannelLog

variable {Batch Producer Consumer : Type*} [DecidableEq Producer] [DecidableEq Consumer]
  {channel after : RingStreamChannel Batch Producer Consumer}

/-- The batches come out as they went in, before any end and once; after an end nothing comes, and
no batch is behind a marker. A stream that was ended stays finished until it is opened again. -/
structure Guarantees (channel : RingStreamChannel Batch Producer Consumer) : Prop where
  held : channel.ring.Represents (stored channel.log)
  fifo : accepted channel.log = delivered channel.log ++ data (stored channel.log)
  tidy : Tidy (stored channel.log)
  complete : ∀ later earlier consumer kind,
    channel.log = later ++ .ended consumer kind :: earlier →
      accepted earlier = delivered earlier ∧ since (·.isEnding) earlier = true
  silent : ∀ later earlier consumer kind,
    channel.log = later ++ .ended consumer kind :: earlier →
      (∀ entry ∈ later, entry.isOpened = false) →
        ∀ other payload, .delivered other payload ∉ later
  closed : since (·.isClosed) channel.log = true → channel.finished = true

omit [DecidableEq Producer] [DecidableEq Consumer] in
theorem Sound.guarantees (sound : channel.Sound) : channel.Guarantees where
  held := sound.represents
  fifo := sound.legal.fifo
  tidy := sound.legal.tidy
  complete := fun _ _ _ _ split_ => (split_ ▸ sound.legal).complete
  silent := fun _ _ _ _ split_ open_ => (split_ ▸ sound.legal).silent open_
  closed := sound.closed

/-! ## A consumer that keeps polling -/

/-- The consumer is in the first look of a poll; past the ring it has found it empty. -/
def FirstLook (channel : RingStreamChannel Batch Producer Consumer) (consumer : Consumer) : Prop :=
  channel.polls consumer = .dequeuing false ∨
    stored channel.log = [] ∧
      (channel.polls consumer = .readCancelled false ∨
        ∃ cancelled, channel.polls consumer = .readFinished false cancelled ∨
          channel.polls consumer = .readSize false cancelled)

omit [DecidableEq Consumer] in
theorem stepPut_polls {producer : Producer} {weakFailures : Nat}
    (moved : channel.stepPut producer weakFailures = some after) : after.polls = channel.polls := by
  unfold stepPut at moved
  split at moved
  · cases moved
  · split at moved <;> cases moved <;> rfl
  · split at moved
    · cases moved
      rfl
    · split at moved <;> cases moved <;> rfl
  · unfold tryPut at moved
    split at moved
    · cases moved
    · cases moved
      rfl
    · split at moved <;> cases moved <;> rfl
    · cases moved
      rfl

omit [DecidableEq Producer] [DecidableEq Consumer] in
theorem stepControl_polls {weakFailures : Nat}
    (moved : channel.stepControl weakFailures = some after) : after.polls = channel.polls := by
  unfold stepControl at moved
  split at moved
  · cases moved
  · cases moved
    rfl
  · cases moved
    rfl
  · cases moved
    rfl
  · unfold tryPush at moved
    split at moved <;> cases moved <;> rfl
  · cases moved
    rfl

omit [DecidableEq Producer] in
theorem stepPoll_polls_of_ne {consumer other : Consumer} {weakFailures : Nat}
    (different : consumer ≠ other)
    (moved : channel.stepPoll other weakFailures = some after) :
    after.polls consumer = channel.polls consumer := by
  have set_ : ∀ (base : RingStreamChannel Batch Producer Consumer) state,
      (base.setPoll other state).polls consumer = base.polls consumer :=
    fun base state => Function.update_of_ne different _ _
  have on : ∀ again cancelled, (channel.pollOn other again cancelled).polls consumer =
      channel.polls consumer := by
    intro again cancelled
    unfold pollOn pollAgain
    split
    · exact set_ channel _
    split
    · exact set_ channel _
    · exact set_ channel _
  unfold stepPoll at moved
  split at moved
  · cases moved
  · unfold tryPoll at moved
    split at moved
    · cases moved
    · split at moved
      · cases moved
      · cases moved
        exact set_ _ _
    · cases moved
      exact set_ _ _
    · cases moved
      exact set_ _ _
  · cases moved
    exact set_ _ _
  · split at moved
    · cases moved
      exact set_ _ _
    · cases moved
      exact on _ _
  · split at moved
    · cases moved
      exact set_ _ _
    · cases moved
      exact on _ _

/-- The poll of a consumer is left alone by all other steps. -/
theorem polls_of_other {event : ChannelEvent Batch Producer Consumer} {consumer : Consumer}
    (moved : channel.step event = some after) (notPoll : event ≠ .poll consumer)
    (notStep : ∀ weakFailures, event ≠ .stepPoll consumer weakFailures) :
    after.polls consumer = channel.polls consumer := by
  cases event with
  | put producer batch tsMs =>
      simp only [step, put] at moved
      split at moved
      · split at moved <;> cases moved <;> rfl
      · cases moved
  | stepPut producer weakFailures => exact congrFun (stepPut_polls moved) consumer
  | poll other =>
      have different : consumer ≠ other := fun same => notPoll (same ▸ rfl)
      simp only [step, poll] at moved
      split at moved
      · split at moved
        · cases moved
          rfl
        · cases moved
          exact Function.update_of_ne different _ _
      · cases moved
  | stepPoll other weakFailures =>
      exact stepPoll_polls_of_ne (fun same => notStep weakFailures (same ▸ rfl)) moved
  | open_ =>
      simp only [step, open_] at moved
      split at moved
      · split at moved <;> cases moved <;> rfl
      · cases moved
  | close =>
      simp only [step, close] at moved
      split at moved
      · cases moved
        rfl
      · cases moved
  | closeStream =>
      simp only [step, closeStream] at moved
      split at moved
      · split at moved <;> cases moved <;> rfl
      · cases moved
  | cancel =>
      simp only [step, cancel] at moved
      split at moved
      · split at moved <;> cases moved <;> rfl
      · cases moved
  | stepControl weakFailures => exact congrFun (stepControl_polls moved) consumer

omit [DecidableEq Producer] in
/-- One step of a poll in its first look, in a finished stream. -/
theorem FirstLook.stepPoll {consumer : Consumer} {weakFailures : Nat}
    (look : channel.FirstLook consumer) (sound : channel.Sound)
    (finished : channel.finished = true)
    (moved : channel.stepPoll consumer weakFailures = some after) :
    after.FirstLook consumer ∨ (∃ kind, after.log = .ended consumer kind :: channel.log) ∨
      after.ring.size.toNat < channel.ring.size.toNat := by
  have set_ : ∀ (base : RingStreamChannel Batch Producer Consumer) state,
      (base.setPoll consumer state).polls consumer = state :=
    fun base state => Function.update_self _ _ _
  unfold RingStreamChannel.stepPoll at moved
  rcases look with state | ⟨empty, state | ⟨cancelled, state | state⟩⟩
  · rw [state] at moved
    dsimp only at moved
    unfold tryPoll at moved
    rcases sound.dequeue_cases weakFailures with
      ⟨none_, timeout⟩ | ⟨payload, rest, ring, items, taken, represents, -⟩
    · rw [timeout] at moved
      cases moved
      exact .inl (.inr ⟨none_, .inl (set_ _ _)⟩)
    · rw [taken] at moved
      have smaller : ring.size.toNat < channel.ring.size.toNat := by
        rw [represents.size_eq, sound.represents.size_eq, items]
        exact Nat.lt_succ_self _
      cases kind : payload.isEof with
      | true =>
          simp only [kind, if_true] at moved
          cases moved
          exact .inr (.inl ⟨.marker, rfl⟩)
      | false =>
          simp only [kind, Bool.false_eq_true, if_false] at moved
          cases moved
          exact .inr (.inr smaller)
  · rw [state] at moved
    cases moved
    exact .inl (.inr ⟨empty, .inr ⟨_, .inl (set_ _ _)⟩⟩)
  · rw [state] at moved
    simp only [finished, if_true] at moved
    cases moved
    exact .inl (.inr ⟨empty, .inr ⟨_, .inr (set_ _ _)⟩⟩)
  · rw [state] at moved
    simp only [sound.size_eq_zero.mpr empty, if_true] at moved
    cases moved
    exact .inr (.inl ⟨_, rfl⟩)

/-- One step of anyone, as long as nothing is put into the ring. -/
theorem FirstLook.step {event : ChannelEvent Batch Producer Consumer} {consumer : Consumer}
    (look : channel.FirstLook consumer) (sound : channel.Sound) (later : after.Sound)
    (finished : channel.finished = true)
    (shrinks : after.ring.size.toNat ≤ channel.ring.size.toNat)
    (moved : channel.step event = some after) :
    after.FirstLook consumer ∨ (∃ kind, after.log = .ended consumer kind :: channel.log) ∨
      after.ring.size.toNat < channel.ring.size.toNat := by
  by_cases isPoll : event = .poll consumer
  · subst isPoll
    simp only [RingStreamChannel.step, poll] at moved
    rcases look with state | ⟨-, state | ⟨_, state | state⟩⟩
    all_goals
      rw [state] at moved
      cases moved
  by_cases isStep : ∃ weakFailures, event = .stepPoll consumer weakFailures
  · obtain ⟨weakFailures, rfl⟩ := isStep
    exact look.stepPoll sound finished moved
  · have same := polls_of_other moved isPoll fun weakFailures equal => isStep ⟨_, equal⟩
    refine .inl ?_
    unfold FirstLook
    rw [same]
    rcases look with state | ⟨empty, rest⟩
    · exact .inl state
    · refine .inr ⟨?_, rest⟩
      rw [sound.represents.size_eq, empty, later.represents.size_eq] at shrinks
      exact List.length_eq_zero_iff.mp (Nat.le_zero.mp shrinks)

/-- The begin of a poll. -/
theorem firstLook_of_poll {consumer : Consumer} (sound : channel.Sound)
    (moved : channel.step (.poll consumer) = some after) : after.FirstLook consumer := by
  simp only [step, poll, sound.no_error] at moved
  split at moved
  · cases moved
    exact .inl (Function.update_self _ _ _)
  · cases moved

omit [DecidableEq Producer] [DecidableEq Consumer] in
theorem not_firstLook_of_idle {consumer : Consumer} (idle : channel.polls consumer = .idle) :
    ¬channel.FirstLook consumer := by
  rintro (state | ⟨-, state | ⟨_, state | state⟩⟩)
  all_goals
    rw [idle] at state
    cases state

theorem idle_of_poll {consumer : Consumer}
    (moved : channel.step (.poll consumer) = some after) : channel.polls consumer = .idle := by
  simp only [step, poll] at moved
  split at moved
  next idle => exact idle
  next => cases moved

/-- The consumer is told the end at this time. -/
def TellsEnd {start : RingStreamChannel Batch Producer Consumer}
    (execution : Execution step start) (consumer : Consumer) (time : Nat) : Prop :=
  ∃ kind,
    (execution.states (time + 1)).log = .ended consumer kind :: (execution.states time).log

section Polling

variable {start : RingStreamChannel Batch Producer Consumer} {execution : Execution step start}
  {consumer : Consumer} {since : Nat}

/-- Until the poll that has begun is told the end, or something is taken, it is in its first
look. -/
theorem looks_or_tells (sound : ∀ time, (execution.states time).Sound)
    (finished : ∀ time, since ≤ time → (execution.states time).finished = true)
    (shrinks : ∀ time, since ≤ time →
      (execution.states (time + 1)).ring.size.toNat ≤ (execution.states time).ring.size.toNat)
    {first : Nat} (late : since ≤ first) (begins : execution.events first = .poll consumer)
    {time : Nat} (after : first + 1 ≤ time) :
    (execution.states time).FirstLook consumer ∨
      ∃ moment, first + 1 ≤ moment ∧ moment < time ∧
        (TellsEnd execution consumer moment ∨ (execution.states (moment + 1)).ring.size.toNat <
          (execution.states moment).ring.size.toNat) := by
  induction time, after using Nat.le_induction with
  | base =>
      have moved := execution.moved first
      rw [begins] at moved
      exact .inl (firstLook_of_poll (sound first) moved)
  | succ time after ih =>
      rcases ih with look | ⟨moment, early, before, happens⟩
      · have reached : since ≤ time := by omega
        rcases look.step (sound time) (sound (time + 1)) (finished time reached)
          (shrinks time reached) (execution.moved time) with again | happens
        · exact .inl again
        · exact .inr ⟨time, after, Nat.lt_succ_self _, happens⟩
      · exact .inr ⟨moment, early, Nat.lt_succ_of_lt before, happens⟩

/-- A consumer that keeps polling a finished channel into which nothing more is put is told the
end. -/
theorem keeps_polling (sound : ∀ time, (execution.states time).Sound)
    (finished : ∀ time, since ≤ time → (execution.states time).finished = true)
    (shrinks : ∀ time, since ≤ time →
      (execution.states (time + 1)).ring.size.toNat ≤ (execution.states time).ring.size.toNat)
    (polls : execution.Recurrent (· = .poll consumer)) :
    ∃ time, since ≤ time ∧ TellsEnd execution consumer time := by
  -- by induction on what is left in the ring: a poll is told the end or takes something
  have told : ∀ bound time, since ≤ time → (execution.states time).ring.size.toNat = bound →
      ∃ later, since ≤ later ∧ TellsEnd execution consumer later := by
    intro bound
    induction bound using Nat.strongRecOn with
    | ind bound ih =>
        intro time late here
        obtain ⟨first, after, begins⟩ := polls time
        obtain ⟨second, between, again⟩ := polls (first + 1)
        have moved := execution.moved second
        rw [again] at moved
        rcases looks_or_tells sound finished shrinks (by omega) begins between with
          look | ⟨moment, early, -, tells | smaller⟩
        · exact absurd look (not_firstLook_of_idle (idle_of_poll moved))
        · exact ⟨moment, by omega, tells⟩
        · have least := execution.antitone_of (fun channel => channel.ring.size.toNat) shrinks late
            (show time ≤ moment by omega)
          exact ih _ (by omega) (moment + 1) (by omega) rfl
  exact told _ since (Nat.le_refl _) rfl

end Polling

/-! ## The channel -/

/-- In every orderly run of a channel with two slots or more, the guarantees hold, and a consumer
that keeps polling after the end is told so. -/
theorem ring_channel_guarantees (ringSize : UInt64) (mode : RingMode) (overflow : OverflowPolicy)
    (finite : Bool) (valid : isPowerOfTwo ringSize = true) (several : ringSize ≠ 1) :
    (∀ channel : RingStreamChannel Batch Producer Consumer,
      Reachable step Orderly (make ringSize mode overflow finite) channel →
        channel.Guarantees) ∧
      ∀ execution : @Execution (RingStreamChannel Batch Producer Consumer) _ step
          (make ringSize mode overflow finite),
        (∀ time, (execution.states time).Orderly (execution.events time)) →
        ∀ consumer since,
          (∀ time, since ≤ time → (execution.states time).finished = true) →
          (∀ time, since ≤ time → (execution.states (time + 1)).ring.size.toNat ≤
            (execution.states time).ring.size.toNat) →
          execution.Recurrent (· = .poll consumer) →
          ∃ time, since ≤ time ∧ TellsEnd execution consumer time := by
  have sound : ∀ channel : RingStreamChannel Batch Producer Consumer,
      Reachable step Orderly (make ringSize mode overflow finite) channel → channel.Sound := by
    intro channel reached
    refine reached.invariant Sound (make_sound valid several mode overflow finite) ?_
    exact fun before event after holds orderly moved => holds.step orderly moved
  refine ⟨fun channel reached => (sound channel reached).guarantees, ?_⟩
  intro execution orderly consumer since finished shrinks polls
  exact keeps_polling (fun time => sound _ (execution.reachable_of orderly time)) finished shrinks
    polls

/-- A channel that is opened and given a batch. -/
theorem ring_channel_guarantees_put : ∃ channel : RingStreamChannel Nat Unit Unit,
    accepted channel.log = [{ data := some 7 }] ∧ channel.Guarantees := by
  refine ⟨_, ?_, (ring_channel_guarantees 2 .SPSC .kDrop true (by decide) (by decide)).1 _
    (.step (.step (.step (.step (.step (.step (.step .start
      (show Orderly _ .open_ from trivial) rfl)
      (show Orderly _ (.stepControl 0) from fun _ => ⟨rfl, fun _ => rfl⟩) rfl)
      (show Orderly _ (.stepControl 0) from fun _ => ⟨rfl, fun _ => rfl⟩) rfl)
      (show Orderly _ (.put () 7 0) from trivial) rfl)
      (show Orderly _ (.stepPut () 0) from fun _ _ _ _ _ => ⟨rfl, rfl⟩) rfl)
      (show Orderly _ (.stepPut () 0) from fun _ _ _ _ _ => ⟨rfl, rfl⟩) rfl)
      (show Orderly _ (.stepPut () 0) from fun _ _ _ _ _ => ⟨rfl, rfl⟩) rfl)⟩
  rfl

/-- `Open`, and a batch that is put. -/
def openAndPut (batch : Nat) : List (ChannelEvent Nat Unit Unit) :=
  [.open_, .stepControl 0, .stepControl 0, .put () batch 0, .stepPut () 0, .stepPut () 0,
    .stepPut () 0]

/-- `CloseStream`, and two polls. -/
def closeAndPoll : List (ChannelEvent Nat Unit Unit) :=
  [.closeStream, .stepControl 0, .stepControl 0, .poll (), .stepPoll () 0, .poll (), .stepPoll () 0]

/-- A put that comes after the end, and a poll. -/
def latePut : List (ChannelEvent Nat Unit Unit) :=
  [.put () 8 0, .stepPut () 0, .stepPut () 0, .stepPut () 0, .poll (), .stepPoll () 0]

/-- A batch is delivered after the end; and a stream that is opened again and ended again is not
finished. -/
theorem batch_after_end :
    (∃ channel : RingStreamChannel Nat Unit Unit,
      Reachable step (fun _ _ => True) (make 2 .SPSC .kDrop true) channel ∧
        ¬channel.Guarantees) ∧
    ∃ channel : RingStreamChannel Nat Unit Unit,
      Reachable step (fun _ _ => True) (make 2 .SPSC .kDrop true) channel ∧
        since (·.isClosed) channel.log = true ∧ channel.finished = false := by
  constructor
  · refine ⟨_, Reachable.of_run (openAndPut 7 ++ closeAndPoll ++ latePut) .start rfl,
      fun guarantees => ?_⟩
    refine guarantees.silent [.delivered () { data := some 8 }, .accepted () { data := some 8 }] _
      () .marker rfl ?_ () { data := some 8 } List.mem_cons_self
    decide
  · refine ⟨_, Reachable.of_run (openAndPut 7 ++ closeAndPoll ++ openAndPut 8 ++ [.closeStream])
      .start rfl, rfl, rfl⟩

end Flowsql.Stream.RingStreamChannel
