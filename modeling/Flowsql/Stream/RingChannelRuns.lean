import Flowsql.Stream.RingChannelLog
import Flowsql.Stream.RingFifo

/-!
# Runs of the ring stream channel

The log of a run is legal as long as no batch is put behind the end of the stream, the stream is
not opened while an end is left in it, and it is not ended a second time. The ring always holds what
the log says.
-/

namespace Flowsql.Stream

open Flowsql.Library

namespace PutState

variable {Batch : Type*}

/-- The batch of a `Put` that is under way. -/
def payload? : PutState Batch → Option (StreamBatch Batch)
  | .idle => none
  | .readOpened payload _ | .readCancelled payload _ | .enqueuing payload _ => some payload

end PutState

/-- The poll has read that the stream is finished. -/
def PollState.foundFinished : PollState → Bool
  | .readSize _ _ => true
  | _ => false

/-- The control thread is ending the stream. -/
def ControlState.ends : ControlState → Bool
  | .closing | .pushing _ | .finishing => true
  | _ => false

namespace RingStreamChannel

open ChannelLog

variable {Batch Producer Consumer : Type*} {channel after : RingStreamChannel Batch Producer Consumer}

/-! ## The ring -/

/-- The ring holds what the log says. -/
structure Backed (channel : RingStreamChannel Batch Producer Consumer) : Prop where
  several : channel.ring.capacity ≠ 1
  represents : channel.ring.Represents (stored channel.log)
  payloads : ∀ producer, ∀ payload ∈ (channel.puts producer).payload?, payload.isEof = false

theorem Backed.no_error (backed : channel.Backed) : channel.hasOpenError = false := by
  rw [hasOpenError, backed.represents.valid, AtomicRing.modeSupported_eq]
  rfl

/-- A batch is stored, unless the ring is full. -/
theorem Backed.enqueue_cases (backed : channel.Backed) (payload : StreamBatch Batch)
    (weakFailures : Nat) :
    (∃ ring, channel.enqueue payload weakFailures = some (.ok, ring) ∧
      ring.Represents (stored channel.log ++ [payload]) ∧ ring.capacity = channel.ring.capacity) ∨
      channel.enqueue payload weakFailures = some (.EAGAIN, channel.ring) := by
  have represents := backed.represents
  unfold enqueue
  rcases Nat.lt_or_ge (stored channel.log).length channel.ring.capacity.toNat with room | noRoom
  · refine .inl ⟨_, AtomicRing.enqueue_of_ready represents.valid
      (represents.seqDiff_head_of_room room) payload (Nat.lt_succ_self _), ?_, rfl⟩
    exact represents.putAt_head room payload
  · exact .inr (AtomicRing.enqueue_of_full represents (Nat.le_antisymm represents.fits noRoom)
      backed.several payload (Nat.lt_succ_self _))

/-- The oldest entry is taken, if there is one. -/
theorem Backed.dequeue_cases (backed : channel.Backed) (weakFailures : Nat) :
    (stored channel.log = [] ∧
      channel.dequeue weakFailures = some (.ETIMEDOUT, none, channel.ring)) ∨
      ∃ payload rest ring, stored channel.log = payload :: rest ∧
        channel.dequeue weakFailures = some (.ok, some payload, ring) ∧
        ring.Represents rest ∧ ring.capacity = channel.ring.capacity := by
  have represents := backed.represents
  unfold dequeue
  cases items : stored channel.log with
  | nil =>
      rw [items] at represents
      exact .inl ⟨rfl, AtomicRing.dequeue_of_nil represents (Nat.lt_succ_self _)⟩
  | cons payload rest =>
      rw [items] at represents
      exact .inr ⟨payload, rest, _, rfl, AtomicRing.dequeue_of_cons represents
        (Nat.lt_succ_self _), represents.takeAt_tail.2, rfl⟩

theorem Backed.size_eq_zero (backed : channel.Backed) :
    channel.ring.size = 0 ↔ stored channel.log = [] := by
  rw [← List.length_eq_zero_iff, ← backed.represents.size_eq]
  exact (UInt64.toNat_inj (b := 0)).symm

/-! ## What a run has to keep to -/

/-- No batch is put behind a marker or after an end; `Open` finds no marker and no poll that is
about to see an old end; a stream that was ended and opened again is not ended again. -/
def Orderly (channel : RingStreamChannel Batch Producer Consumer) :
    ChannelEvent Batch Producer Consumer → Prop
  | .stepPut producer weakFailures =>
      ∀ payload blocking ring, channel.puts producer = .enqueuing payload blocking →
        channel.enqueue payload weakFailures = some (.ok, ring) →
        noMarker (stored channel.log) = true ∧ since (·.isEnded) channel.log = false
  | .stepControl _ =>
      channel.control = .openingFinished → noMarker (stored channel.log) = true ∧
        ∀ consumer, (channel.polls consumer).foundFinished = false
  | .closeStream => channel.closeStreamOnce = true → channel.finished = true
  | .cancel => channel.cancelOnce = true → channel.finished = true
  | .put _ _ _ | .poll _ | .stepPoll _ _ | .open_ | .close => True

/-- The log is legal, and the flags agree with it. -/
structure Sound (channel : RingStreamChannel Batch Producer Consumer) : Prop
    extends Backed channel where
  legal : Legal channel.log
  finished : channel.finished = true → since (·.isEnding) channel.log = true
  control : channel.control.ends = true → since (·.isEnding) channel.log = true
  polls : ∀ consumer, (channel.polls consumer).foundFinished = true →
    since (·.isEnding) channel.log = true
  closed : since (·.isClosed) channel.log = true → channel.finished = true

theorem since_cons_of_since {kind : LogEntry Batch Producer Consumer → Bool}
    {entry : LogEntry Batch Producer Consumer} {log : ChannelLog Batch Producer Consumer}
    (notOpened : entry.isOpened = false) (happened : since kind log = true) :
    since kind (entry :: log) = true := by
  rw [since_cons_of_not_opened notOpened, happened, Bool.or_true]

/-- A change of the ring, and the entry that tells it. -/
theorem Sound.record_ring (sound : channel.Sound) {entry : LogEntry Batch Producer Consumer}
    {ring : AtomicRing (StreamBatch Batch)} (capacity : ring.capacity = channel.ring.capacity)
    (represents : ring.Represents (stored (entry :: channel.log)))
    (lawful : Lawful channel.log entry) (notOpened : entry.isOpened = false)
    (finished : entry.isClosed = true → channel.finished = true) :
    ({ channel with ring := ring }.record entry).Sound where
  several := by
    change ring.capacity ≠ 1
    rw [capacity]
    exact sound.several
  represents := represents
  payloads := sound.payloads
  legal := ⟨lawful, sound.legal⟩
  finished := fun found => since_cons_of_since notOpened (sound.finished found)
  control := fun ends => since_cons_of_since notOpened (sound.control ends)
  polls := fun consumer found => since_cons_of_since notOpened (sound.polls consumer found)
  closed := by
    intro happened
    change since (·.isClosed) (entry :: channel.log) = true at happened
    rw [since_cons_of_not_opened notOpened, Bool.or_eq_true] at happened
    exact happened.elim finished sound.closed

/-- An entry that does not concern the ring. -/
theorem Sound.record_plain (sound : channel.Sound) {entry : LogEntry Batch Producer Consumer}
    (same : stored (entry :: channel.log) = stored channel.log)
    (lawful : Lawful channel.log entry) (notOpened : entry.isOpened = false)
    (finished : entry.isClosed = true → channel.finished = true) :
    (channel.record entry).Sound :=
  sound.record_ring rfl (by rw [same]; exact sound.represents) lawful notOpened finished

theorem Sound.setControl (sound : channel.Sound) {control : ControlState}
    (ends : control.ends = true → since (·.isEnding) channel.log = true) :
    Sound { channel with control := control } :=
  { sound with control := ends }

theorem Sound.setFinished (sound : channel.Sound) (ends : since (·.isEnding) channel.log = true) :
    Sound { channel with finished := true } :=
  { sound with finished := fun _ => ends, closed := fun _ => rfl }

theorem Sound.setPut [DecidableEq Producer] (sound : channel.Sound) (producer : Producer)
    (state : PutState Batch)
    (isData : ∀ payload ∈ state.payload?, payload.isEof = false) :
    (channel.setPut producer state).Sound := by
  refine { sound with payloads := fun other payload member => ?_ }
  by_cases same : other = producer
  · subst same
    refine isData payload ?_
    change payload ∈ (Function.update channel.puts other state other).payload? at member
    rwa [Function.update_self] at member
  · refine sound.payloads other payload ?_
    change payload ∈ (Function.update channel.puts producer state other).payload? at member
    rwa [Function.update_of_ne same] at member

theorem Sound.setPoll [DecidableEq Consumer] (sound : channel.Sound) (consumer : Consumer)
    (state : PollState)
    (found : state.foundFinished = true → since (·.isEnding) channel.log = true) :
    (channel.setPoll consumer state).Sound := by
  refine { sound with polls := fun other finished => ?_ }
  change (Function.update channel.polls consumer state other).foundFinished = true at finished
  by_cases same : other = consumer
  · subst same
    rw [Function.update_self] at finished
    exact found finished
  · rw [Function.update_of_ne same] at finished
    exact sound.polls other finished

/-! ## Put -/

section Put

variable [DecidableEq Producer]

theorem Sound.refuse (sound : channel.Sound) (producer : Producer) (code : PutCode) :
    (channel.refuse producer code).Sound :=
  (@Sound.record_plain _ _ _ channel sound (.refused producer code) rfl trivial rfl
    (fun closed => nomatch closed)).setPut producer .idle fun _ member => nomatch member

theorem Sound.put (sound : channel.Sound) {producer : Producer} {batch : Batch} {tsMs : Int}
    (moved : channel.put producer batch tsMs = some after) : after.Sound := by
  unfold RingStreamChannel.put at moved
  split at moved
  · split at moved
    · cases moved
      exact sound.record_plain rfl trivial rfl (fun closed => nomatch closed)
    · cases moved
      refine sound.setPut producer _ fun payload member => ?_
      cases member
      rfl
  · cases moved

theorem Sound.tryPut (sound : channel.Sound) {producer : Producer} {payload : StreamBatch Batch}
    {blocking : Bool} {weakFailures : Nat} (isData : payload.isEof = false)
    (open_ : ∀ ring, channel.enqueue payload weakFailures = some (.ok, ring) →
      noMarker (stored channel.log) = true ∧ since (·.isEnded) channel.log = false)
    (moved : channel.tryPut producer payload blocking weakFailures = some after) :
    after.Sound := by
  unfold RingStreamChannel.tryPut at moved
  rcases sound.enqueue_cases payload weakFailures with ⟨ring, ok, represents, capacity⟩ | full
  · rw [ok] at moved
    cases moved
    obtain ⟨noMarker_, notEnded⟩ := open_ ring ok
    have recorded := @Sound.record_ring _ _ _ channel sound (.accepted producer payload) ring
      capacity represents ⟨isData, noMarker_, notEnded⟩ rfl (fun closed => nomatch closed)
    exact recorded.setPut producer .idle fun _ member => nomatch member
  · rw [full] at moved
    cases blocking with
    | true =>
        cases moved
        refine sound.setPut producer _ fun other member => ?_
        cases member
        exact isData
    | false =>
        cases moved
        have counted : Sound { channel with droppedBatches := channel.droppedBatches + 1 } :=
          { sound with }
        exact counted.refuse producer .EAGAIN

theorem Sound.stepPut (sound : channel.Sound) {producer : Producer} {weakFailures : Nat}
    (orderly : channel.Orderly (.stepPut producer weakFailures))
    (moved : channel.stepPut producer weakFailures = some after) : after.Sound := by
  have isData := sound.payloads producer
  unfold RingStreamChannel.stepPut at moved
  cases state : channel.puts producer with
  | idle =>
      rw [state] at moved
      cases moved
  | readOpened payload blocking =>
      rw [state] at moved isData
      dsimp only at moved
      split at moved
      · cases moved
        exact sound.setPut producer _ isData
      · cases moved
        exact sound.refuse producer _
  | readCancelled payload blocking =>
      rw [state] at moved isData
      dsimp only at moved
      split at moved
      · cases moved
        exact sound.refuse producer _
      split at moved
      · cases moved
        exact sound.setPut producer _ isData
      · cases moved
        exact sound.setPut producer _ isData
  | enqueuing payload blocking =>
      rw [state] at moved isData
      exact sound.tryPut (isData payload rfl) (fun ring => orderly payload blocking ring state)
        moved

end Put

/-! ## PollNext -/

section Poll

variable [DecidableEq Consumer]

theorem Sound.answer (sound : channel.Sound) (consumer : Consumer)
    {entry : LogEntry Batch Producer Consumer}
    (same : stored (entry :: channel.log) = stored channel.log)
    (lawful : Lawful channel.log entry) (notOpened : entry.isOpened = false)
    (notClosed : entry.isClosed = false) : (channel.answer consumer entry).Sound :=
  (sound.record_plain same lawful notOpened
    (fun closed => by rw [notClosed] at closed; cases closed)).setPoll consumer .idle
      fun found => nomatch found

theorem Sound.poll (sound : channel.Sound) {consumer : Consumer}
    (moved : channel.poll consumer = some after) : after.Sound := by
  unfold RingStreamChannel.poll at moved
  split at moved
  · split at moved
    · cases moved
      exact sound.record_plain rfl trivial rfl (fun closed => nomatch closed)
    · cases moved
      exact sound.setPoll consumer _ fun found => nomatch found
  · cases moved

theorem Sound.pollOn (sound : channel.Sound) (consumer : Consumer) (again cancelled : Bool) :
    (channel.pollOn consumer again cancelled).Sound := by
  unfold RingStreamChannel.pollOn pollAgain
  split
  · exact sound.setPoll consumer _ fun found => nomatch found
  split
  · exact sound.answer consumer rfl trivial rfl rfl
  · exact sound.setPoll consumer _ fun found => nomatch found

theorem Sound.tryPoll (sound : channel.Sound) {consumer : Consumer} {again : Bool}
    {weakFailures : Nat} (moved : channel.tryPoll consumer again weakFailures = some after) :
    after.Sound := by
  unfold RingStreamChannel.tryPoll at moved
  rcases sound.dequeue_cases weakFailures with
    ⟨none_, empty⟩ | ⟨payload, rest, ring, items, taken, represents, capacity⟩
  · rw [empty] at moved
    cases moved
    exact sound.setPoll consumer _ fun found => nomatch found
  · rw [taken] at moved
    have head : (stored channel.log).head? = some payload := by rw [items]; rfl
    have left_ : ring.Represents (stored channel.log).tail := by
      rw [items]
      exact represents
    cases kind : payload.isEof with
    | true =>
        simp only [kind, if_true] at moved
        cases moved
        have recorded := @Sound.record_ring _ _ _ channel sound (.ended consumer .marker) ring
          capacity left_ ⟨payload, kind, head⟩ rfl
          (fun closed => nomatch closed)
        exact recorded.setPoll consumer .idle fun found => nomatch found
    | false =>
        simp only [kind, Bool.false_eq_true, if_false] at moved
        cases moved
        have recorded := @Sound.record_ring _ _ _ channel sound (.delivered consumer payload) ring
          capacity left_ ⟨kind, head⟩ rfl (fun closed => nomatch closed)
        exact recorded.setPoll consumer .idle fun found => nomatch found

theorem Sound.stepPoll (sound : channel.Sound) {consumer : Consumer} {weakFailures : Nat}
    (moved : channel.stepPoll consumer weakFailures = some after) : after.Sound := by
  unfold RingStreamChannel.stepPoll at moved
  cases state : channel.polls consumer with
  | idle =>
      rw [state] at moved
      cases moved
  | dequeuing again =>
      rw [state] at moved
      exact sound.tryPoll moved
  | readCancelled again =>
      rw [state] at moved
      cases moved
      exact sound.setPoll consumer _ fun found => nomatch found
  | readFinished again cancelled =>
      rw [state] at moved
      dsimp only at moved
      split at moved
      next found =>
        cases moved
        exact sound.setPoll consumer _ fun _ => sound.finished found
      next =>
        cases moved
        exact sound.pollOn consumer again cancelled
  | readSize again cancelled =>
      have ending := sound.polls consumer (by rw [state]; rfl)
      rw [state] at moved
      dsimp only at moved
      split at moved
      next empty =>
        cases moved
        have none_ := sound.size_eq_zero.mp empty
        cases cancelled with
        | true => exact sound.answer consumer rfl ⟨none_, ending⟩ rfl rfl
        | false => exact sound.answer consumer rfl ⟨none_, ending⟩ rfl rfl
      next =>
        cases moved
        exact sound.pollOn consumer again cancelled

end Poll

/-! ## Control -/

theorem Sound.open_ (sound : channel.Sound) (moved : channel.open_ = some after) :
    after.Sound := by
  unfold RingStreamChannel.open_ at moved
  split at moved
  · split at moved
    · cases moved
      exact sound
    · cases moved
      exact { sound with control := fun ends => nomatch ends }
  · cases moved

/-- The first access of a call that ends the stream. -/
theorem Sound.begin (sound : channel.Sound) (control : ControlState) :
    Sound ({ channel with control := control }.record .ending) :=
  (@Sound.record_plain _ _ _ channel sound .ending rfl trivial rfl
    (fun closed => nomatch closed)).setControl fun _ => rfl

theorem Sound.close (sound : channel.Sound) (moved : channel.close = some after) :
    after.Sound := by
  unfold RingStreamChannel.close at moved
  split at moved
  · cases moved
    exact { sound.begin .closing with }
  · cases moved

theorem Sound.closeStream (sound : channel.Sound)
    (orderly : channel.Orderly .closeStream) (moved : channel.closeStream = some after) :
    after.Sound := by
  unfold RingStreamChannel.closeStream at moved
  split at moved
  · split at moved
    next again =>
      cases moved
      exact sound.record_plain rfl trivial rfl fun _ => orderly again
    next =>
      cases moved
      exact { sound.begin (.pushing 0) with }
  · cases moved

theorem Sound.cancel (sound : channel.Sound) (orderly : channel.Orderly .cancel)
    (moved : channel.cancel = some after) : after.Sound := by
  unfold RingStreamChannel.cancel at moved
  split at moved
  · split at moved
    next again =>
      cases moved
      exact sound.record_plain rfl trivial rfl fun _ => orderly again
    next =>
      cases moved
      exact { sound.begin (.pushing 0) with }
  · cases moved

theorem Sound.tryPush (sound : channel.Sound) {elapsedMs weakFailures : Nat}
    (ending : since (·.isEnding) channel.log = true)
    (moved : channel.tryPush elapsedMs weakFailures = some after) : after.Sound := by
  unfold RingStreamChannel.tryPush at moved
  rcases sound.enqueue_cases { isEof := true } weakFailures with
    ⟨ring, ok, represents, capacity⟩ | full
  · rw [ok] at moved
    cases moved
    have recorded := @Sound.record_ring _ _ _ channel sound .marker ring capacity represents
      ending rfl (fun closed => nomatch closed)
    exact recorded.setControl fun _ => since_cons_of_since rfl ending
  · rw [full] at moved
    cases moved
    exact sound.setControl fun _ => ending

/-- The store of `Open` that resets the stream. -/
theorem Sound.reset (sound : channel.Sound) (clean : noMarker (stored channel.log) = true)
    (quiet : ∀ consumer, (channel.polls consumer).foundFinished = false) :
    Sound ({ channel with finished := false, control := .openingCancel }.record .opened) where
  several := sound.several
  represents := sound.represents
  payloads := sound.payloads
  legal := ⟨clean, sound.legal⟩
  finished := fun found => nomatch found
  control := fun ends => nomatch ends
  polls := fun consumer found => by
    change (channel.polls consumer).foundFinished = true at found
    rw [quiet consumer] at found
    cases found
  closed := fun happened => nomatch happened

theorem Sound.stepControl (sound : channel.Sound) {weakFailures : Nat}
    (orderly : channel.Orderly (.stepControl weakFailures))
    (moved : channel.stepControl weakFailures = some after) : after.Sound := by
  have ending := sound.control
  unfold RingStreamChannel.stepControl at moved
  cases state : channel.control with
  | idle =>
      rw [state] at moved
      cases moved
  | openingFinished =>
      rw [state] at moved
      cases moved
      obtain ⟨clean, quiet⟩ := orderly state
      exact sound.reset clean quiet
  | openingCancel =>
      rw [state] at moved
      cases moved
      exact { sound with control := fun ends => nomatch ends }
  | closing =>
      rw [state] at moved ending
      cases moved
      exact (sound.setFinished (ending rfl)).setControl fun ends => nomatch ends
  | pushing elapsedMs =>
      rw [state] at moved ending
      exact sound.tryPush (ending rfl) moved
  | finishing =>
      rw [state] at moved ending
      cases moved
      exact ((sound.setFinished (ending rfl)).setControl
        (fun ends => nomatch ends : ControlState.idle.ends = true → _)).record_plain rfl trivial
        rfl fun _ => rfl

/-! ## Runs -/

theorem Sound.step [DecidableEq Producer] [DecidableEq Consumer] (sound : channel.Sound)
    {event : ChannelEvent Batch Producer Consumer} (orderly : channel.Orderly event) (moved : channel.step event = some after) :
    after.Sound := by
  cases event with
  | put producer batch tsMs => exact sound.put moved
  | stepPut producer weakFailures => exact sound.stepPut orderly moved
  | poll consumer => exact sound.poll moved
  | stepPoll consumer weakFailures => exact sound.stepPoll moved
  | open_ => exact sound.open_ moved
  | close => exact sound.close moved
  | closeStream => exact sound.closeStream orderly moved
  | cancel => exact sound.cancel orderly moved
  | stepControl weakFailures => exact sound.stepControl orderly moved

theorem make_sound {ringSize : UInt64} (valid : isPowerOfTwo ringSize = true)
    (several : ringSize ≠ 1) (mode : RingMode) (overflow : OverflowPolicy) (finite : Bool) :
    (make ringSize mode overflow finite :
      RingStreamChannel Batch Producer Consumer).Sound where
  several := several
  represents := AtomicRing.represents_make mode valid
  payloads := fun _ _ member => nomatch member
  legal := trivial
  finished := fun found => nomatch found
  control := fun ends => nomatch ends
  polls := fun _ found => nomatch found
  closed := fun happened => nomatch happened

end RingStreamChannel

end Flowsql.Stream
