import Flowsql.Npm.ArrivalOrder

/-!
# What a run delivers

The bytes that a run over a byte stream publishes, read off its events.
-/

namespace Flowsql.Npm

open Flowsql.Library

variable {σ : Type} {stream : ByteStream}

/-- The concatenated data of the events. -/
def publishedBytes (events : List StreamEvent) : List UInt8 := events.flatMap StreamEvent.bytes

/-- Every offset below the published end lies in one event, and data events carry the
bytes of the stream behind the origin. -/
structure Delivered (stream : ByteStream) (origin : Nat) (core : StreamDirection σ) : Prop where
  once : ∀ offset,
    core.emitted.countP (covers offset) = if offset < core.published then 1 else 0
  bytes_eq : ∀ begin end_ bytes capturedAtNs,
    .data begin end_ bytes capturedAtNs ∈ core.emitted →
      bytes = stream.slice (origin + begin) (end_ - begin)

theorem ByteStream.slice_append (stream : ByteStream) (start left right : Nat) :
    stream.slice start (left + right) =
      stream.slice start left ++ stream.slice (start + left) right := by
  unfold slice
  rw [List.range_add, List.map_append, List.map_map]
  congr 1
  apply List.map_congr_left
  intro index _
  simp [Nat.add_assoc]

section Events

variable {origin lo hi : Nat} {events : List StreamEvent} {seen : List (Segment stream)}

/-- The bytes of a data event, read through the view of the events. -/
theorem bytes_eq_slice {begin end_ : Nat} {bytes : List UInt8} {capturedAtNs : Int}
    (contiguous : Contiguous lo events hi)
    (sound : SoundView origin seen (lookup StreamEvent.byteAt events))
    (member : StreamEvent.data begin end_ bytes capturedAtNs ∈ events)
    (wellFormed : (StreamEvent.data begin end_ bytes capturedAtNs).WellFormed) :
    bytes = stream.slice (origin + begin) (end_ - begin) := by
  obtain ⟨ordered, lengthEq⟩ := wellFormed
  apply List.ext_getElem
  · simp [ByteStream.slice, lengthEq]
  · intro index inBytes inSlice
    have before : begin + index < end_ := by omega
    have found : lookup StreamEvent.byteAt events (begin + index) = some _ :=
      lookup_of_mem contiguous member (Nat.le_add_right _ _) before
    have byteEq : StreamEvent.byteAt (.data begin end_ bytes capturedAtNs) (begin + index) =
        some bytes[index] := by simp [StreamEvent.byteAt, inBytes]
    rw [byteEq] at found
    rw [(sound _ _ found).1]
    simp [ByteStream.slice, Nat.add_assoc]

/-- Without gaps, the events carry a slice of the stream. -/
theorem publishedBytes_eq_slice (contiguous : Contiguous lo events hi)
    (noGap : ∀ event ∈ events, event.isGap = false)
    (slices : ∀ begin end_ bytes capturedAtNs, .data begin end_ bytes capturedAtNs ∈ events →
      bytes = stream.slice (origin + begin) (end_ - begin)) :
    publishedBytes events = stream.slice (origin + lo) (hi - lo) := by
  induction events generalizing lo with
  | nil =>
      rw [Contiguous.nil_iff] at contiguous
      rw [contiguous, Nat.sub_self]
      rfl
  | cons event rest ih =>
      obtain ⟨start, ordered, tail⟩ := contiguous
      have ordered' := tail.le
      have restEq := ih tail (fun other member => noGap other (List.mem_cons_of_mem _ member))
        fun begin end_ bytes capturedAtNs member =>
          slices begin end_ bytes capturedAtNs (List.mem_cons_of_mem _ member)
      change event.bytes ++ publishedBytes rest = _
      rw [restEq]
      cases event with
      | data begin end_ bytes capturedAtNs =>
          change begin = lo at start
          change lo ≤ end_ at ordered
          change end_ ≤ hi at ordered'
          subst start
          change bytes ++ stream.slice (origin + end_) (hi - end_) = _
          have sizeEq : hi - begin = (end_ - begin) + (hi - end_) := by omega
          have startEq : origin + begin + (end_ - begin) = origin + end_ := by omega
          rw [slices begin end_ bytes capturedAtNs List.mem_cons_self, sizeEq,
            stream.slice_append, startEq]
      | gap begin end_ reason truncated =>
          exact absurd (noGap _ List.mem_cons_self) (by simp [StreamEvent.isGap])
      | ended position reason sessionReason =>
          change position = lo at start
          subst start
          rfl

/-- Without gaps, every published offset has a byte. -/
theorem exists_byte_of_published (contiguous : Contiguous 0 events hi)
    (wellFormed : ∀ event ∈ events, event.WellFormed)
    (noGap : ∀ event ∈ events, event.isGap = false) {offset : Nat} (published : offset < hi) :
    ∃ byte, lookup StreamEvent.byteAt events offset = some (some byte) := by
  obtain ⟨cell, found⟩ := Option.isSome_iff_exists.mp
    (lookup_isSome contiguous (Nat.zero_le _) published)
  obtain ⟨event, member, after, before, byteEq⟩ := exists_of_lookup_eq_some found
  cases event with
  | data begin end_ bytes capturedAtNs =>
      change begin ≤ offset at after
      change offset < end_ at before
      have lengthEq := (wellFormed _ member).2
      have inside : offset - begin < bytes.length := by omega
      refine ⟨bytes[offset - begin], ?_⟩
      rw [found, ← byteEq]
      simp [StreamEvent.byteAt, inside]
  | gap begin end_ reason truncated =>
      exact absurd (noGap _ member) (by simp [StreamEvent.isGap])
  | ended position reason sessionReason =>
      change position ≤ offset at after
      change offset < position at before
      omega

end Events

section Runs

variable {environment : Environment σ} {agrees : List StreamEvent → Nat → σ → Prop}
  {core : StreamDirection σ} {objectCharge : Nat} {seen : List (Segment stream)}
  {highest : Option Nat}

theorem Between.wellFormed (between : Between environment agrees objectCharge core) :
    ∀ event ∈ core.emitted, event.WellFormed := by
  cases between with
  | live live => exact live.history.wellFormed
  | ended ended =>
      obtain ⟨events, reason, sessionReason, history, emittedEq⟩ := ended.closed
      intro event member
      rw [emittedEq] at member
      rcases List.mem_append.mp member with earlier | last
      · exact history.wellFormed event earlier
      · rw [List.mem_singleton.mp last]
        trivial
  | failed failed => exact failed.history.wellFormed

/-- What the events of a run show, in every state. -/
theorem Reassembling.sound_events
    (run : Reassembling environment agrees objectCharge seen core highest) :
    Between environment agrees objectCharge core ∧
      SoundView ((originOf seen).getD 0) seen (lookup StreamEvent.byteAt core.emitted) := by
  cases run with
  | untouched live _ empty _ =>
      refine ⟨.live live, sound_of_empty fun offset => ?_⟩
      have published := live.pending.le
      exact lookup_eq_none live.history.contiguous (Or.inr (by omega))
  | tracking origin live tracks _ originEq =>
      refine ⟨.live live, ?_⟩
      rw [originEq]
      exact (live.broken (show StreamError.aborted ≠ .none by decide)).sound tracks.sound
  | stopped _ origin _ between sound originEq _ =>
      refine ⟨between, ?_⟩
      rcases originEq with unpublished | known
      · exact sound_of_empty fun offset =>
          lookup_eq_none between.ordered.contiguous (Or.inr (by omega))
      · rw [known]
        exact sound

theorem Reassembling.delivered
    (run : Reassembling environment agrees objectCharge seen core highest) :
    Delivered stream ((originOf seen).getD 0) core := by
  obtain ⟨between, sound⟩ := run.sound_events
  have contiguous := between.ordered.contiguous
  refine ⟨fun offset => ?_, fun begin end_ bytes capturedAtNs member => ?_⟩
  · rw [contiguous.countP_covers]
    simp
  · exact bytes_eq_slice contiguous sound member (between.wellFormed _ member)

/-- Nothing disturbed the run, so it stopped where no segment has a byte. -/
theorem Reassembling.not_captured
    (run : Reassembling environment agrees objectCharge seen core highest)
    (undisturbed : Undisturbed core) :
    ∀ segment ∈ seen, ¬ segment.CapturesAt ((originOf seen).getD 0 + core.published) := by
  intro segment member captures
  cases run with
  | untouched _ _ _ nothing =>
      exact not_capturesAt_of_not_carries (nothing segment member) _ captures
  | tracking origin live tracks stops originEq =>
      rw [originEq] at captures
      rcases tracks.complete segment member _ captures with published | ⟨byte, viewEq⟩
      · exact absurd published (Nat.lt_irrefl _)
      · have pending := live.pending
        rw [view_of_unpublished (Nat.le_refl _)] at viewEq
        unfold DrainStops at stops
        cases rangesEq : core.ranges with
        | nil =>
            rw [rangesEq] at viewEq
            cases viewEq
        | cons front rest =>
            rw [rangesEq] at viewEq stops pending
            obtain ⟨start, valid, _⟩ := Pending.cons_iff.mp pending
            have ordered := valid.nonempty
            rw [cellAt_cons_gap stops.2.1, if_pos (by omega)] at viewEq
            cases viewEq
  | stopped _ origin _ _ _ _ complete =>
      obtain ⟨known, atEnd⟩ := complete undisturbed
      rw [known] at captures
      have inside := segment.inside
      have captured_le := segment.captured_le
      unfold Segment.CapturesAt at captures
      change _ ≤ origin + core.published ∧ origin + core.published < _ at captures
      omega

theorem Reassembling.captured
    (run : Reassembling environment agrees objectCharge seen core highest)
    (undisturbed : Undisturbed core) {offset : Nat} (published : offset < core.published) :
    ∃ segment ∈ seen, segment.CapturesAt ((originOf seen).getD 0 + offset) := by
  obtain ⟨between, sound⟩ := run.sound_events
  obtain ⟨byte, found⟩ := exists_byte_of_published between.ordered.contiguous
    between.wellFormed undisturbed.no_gap published
  exact (sound offset byte found).2

/-- The published end of an undisturbed run is the first offset behind the origin
that no segment brings. -/
theorem published_le_of_undisturbed {other : StreamDirection σ} {seen' : List (Segment stream)}
    {highest' : Option Nat}
    (run : Reassembling environment agrees objectCharge seen core highest)
    (run' : Reassembling environment agrees objectCharge seen' other highest')
    (undisturbed : Undisturbed core) (undisturbed' : Undisturbed other)
    (sameSegments : ∀ segment ∈ seen, segment ∈ seen')
    (sameOrigin : originOf seen = originOf seen') : core.published ≤ other.published := by
  by_contra beyond
  obtain ⟨segment, member, captures⟩ := run.captured undisturbed (Nat.not_le.mp beyond)
  rw [sameOrigin] at captures
  exact run'.not_captured undisturbed' segment (sameSegments segment member) captures

theorem reassembling_initial (keeps : environment.Keeps agrees) (config : StreamConfig)
    (hasBudget chargeObject : Bool) (env : σ) (agreement : agrees [] 0 env) :
    Reassembling environment agrees (objectChargeOf environment chargeObject)
      ([] : List (Segment stream))
      (initializeDirection environment config hasBudget chargeObject env) none := by
  obtain ⟨start, frame⟩ :=
    initializeDirection_spec keeps config hasBudget chargeObject agreement
  rcases start with live | failed
  · refine .untouched live ?_ ?_ (by simp) <;> rw [frame]
    · rfl
    · exact ⟨rfl, rfl, rfl⟩
  · refine .stopped none 0 (stopped_of_failed failed) (.failed failed) ?_ (.inl ?_) ?_
    · rw [frame]
      exact sound_of_empty fun _ => rfl
    · rw [frame]
      rfl
    · intro undisturbed
      exact absurd undisturbed.no_error failed.is_error

end Runs

theorem undisturbed_of_open {core : StreamDirection σ} (noError : core.error = .none)
    (onlyData : ∀ event ∈ core.emitted, event.isGap = false ∧ event.isEnd = false) :
    Undisturbed core where
  no_error := noError
  no_gap := fun event member => (onlyData event member).1
  only_fin := by
    intro position reason sessionReason member
    have open_ := (onlyData _ member).2
    cases open_

/-- A stream of `2 ^ 31` bytes whose sequence numbers wrap around after its first. -/
def sampleStream : ByteStream := ⟨0xFFFFFFFE, 2 ^ 31, fun position => UInt8.ofNat position⟩

def sampleSyn : Segment sampleStream :=
  ⟨0, 0, 0, true, false, 0, by decide, by decide, by decide, by decide, by decide⟩

/-- One captured byte. -/
def sampleByte (start : Nat) (inside : start + 1 ≤ sampleStream.length) :
    Segment sampleStream :=
  ⟨start, 1, 1, false, false, 0, Nat.one_pos, inside, by decide, by simp, by simp⟩

/-- The rest of the stream from its third byte on, of which nothing was captured. -/
def sampleTail : Segment sampleStream :=
  ⟨2, 2 ^ 31 - 2, 0, false, false, 0, by decide, by decide, by decide, by decide, by decide⟩

def sampleArrivals (segments : List (Segment sampleStream)) : List (Arrival sampleStream) :=
  segments.map Arrival.deliver

def runSample (segments : List (Segment sampleStream)) : StreamDirection Unit :=
  runArrivals unlimitedEnvironment
    (initializeDirection unlimitedEnvironment ⟨65536, 0⟩ true true ()) (sampleArrivals segments)

def sampleFirst : Segment sampleStream := sampleByte 0 (by decide)

def sampleSecond : Segment sampleStream := sampleByte 1 (by decide)

end Flowsql.Npm
