import Flowsql.Npm.ByteDelivery
import Flowsql.Npm.DnsTcpRuns

/-!
# DNS messages of a reassembled stream

The framer behind a direction that puts segments together. Whatever happens to the segments on their way, the
messages that it cuts are the first messages of the stream that was sent.
-/

namespace Flowsql.Npm

open Flowsql.Library

variable {σ : Type} {stream : ByteStream} {origin lo hi : Nat} {events : List StreamEvent}

/-- What the framer reads of an event. -/
def StreamEvent.forDns : StreamEvent → DnsStreamEvent
  | .data _ _ bytes capturedAtNs => .data bytes (some capturedAtNs)
  | .gap .. => .gap
  | .ended .. => .ended

/-- The bytes up to the first break are a first part of the stream. -/
theorem unbroken_prefix (contiguous : Contiguous lo events hi)
    (slices : ∀ begin end_ bytes capturedAtNs, .data begin end_ bytes capturedAtNs ∈ events →
      bytes = stream.slice (origin + begin) (end_ - begin) ∧ origin + end_ ≤ stream.length) :
    DnsStreamEvent.unbroken (events.map StreamEvent.forDns) <+:
      stream.slice (origin + lo) (stream.length - (origin + lo)) := by
  induction events generalizing lo with
  | nil => exact List.nil_prefix
  | cons event rest ih =>
      obtain ⟨start, ordered, tail⟩ := contiguous
      have later := ih tail fun begin end_ bytes capturedAtNs member =>
        slices begin end_ bytes capturedAtNs (List.mem_cons_of_mem _ member)
      cases event with
      | data begin end_ bytes capturedAtNs =>
          change begin = lo at start
          change lo ≤ end_ at ordered
          subst start
          obtain ⟨bytesEq, inside⟩ := slices begin end_ bytes capturedAtNs List.mem_cons_self
          have sizeEq : stream.length - (origin + begin) =
              (end_ - begin) + (stream.length - (origin + end_)) := by omega
          have startEq : origin + begin + (end_ - begin) = origin + end_ := by omega
          rw [sizeEq, stream.slice_append, startEq, ← bytesEq]
          exact (List.prefix_append_right_inj bytes).mpr later
      | gap | ended => exact List.nil_prefix

theorem unbroken_eq (whole : ∀ event ∈ events, event.isGap = false ∧ event.isEnd = false) :
    DnsStreamEvent.unbroken (events.map StreamEvent.forDns) = publishedBytes events := by
  induction events with
  | nil => rfl
  | cons event rest ih =>
      obtain ⟨noGap, noEnd⟩ := whole event List.mem_cons_self
      cases event with
      | data begin end_ bytes capturedAtNs =>
          exact congrArg (bytes ++ ·) (ih fun other member => whole other (List.mem_cons_of_mem _ member))
      | gap => cases noGap
      | ended => cases noEnd

/-- The last byte of a data event was captured, so that the event is inside the stream. -/
theorem data_inside {seen : List (Segment stream)} {begin end_ : Nat} {bytes : List UInt8} {capturedAtNs : Int}
    (contiguous : Contiguous lo events hi) (sound : SoundView origin seen (lookup StreamEvent.byteAt events))
    (member : StreamEvent.data begin end_ bytes capturedAtNs ∈ events)
    (wellFormed : (StreamEvent.data begin end_ bytes capturedAtNs).WellFormed) : origin + end_ ≤ stream.length := by
  obtain ⟨ordered, lengthEq⟩ := wellFormed
  have found : lookup StreamEvent.byteAt events (end_ - 1) = some bytes[end_ - 1 - begin]? :=
    lookup_of_mem contiguous member (Nat.le_sub_one_of_lt ordered) (Nat.sub_one_lt_of_lt ordered)
  rw [List.getElem?_eq_getElem (by omega)] at found
  obtain ⟨-, segment, -, captures⟩ := sound _ _ found
  have inside := segment.inside
  have captured_le := segment.captured_le
  unfold Segment.CapturesAt at captures
  omega

/-- The segments of a stream arrive in any order, repeated, overlapping or in part, and the framer is given the
events of the direction in any calls, among those of other streams. The messages of the stream that it hands over
are the first messages of the stream that was sent, and all messages of the bytes so far while none is missing. -/
theorem messages_of_segments {environment : Environment σ} (accepting : environment.Accepting) (config : StreamConfig)
    (hasBudget chargeObject : Bool) (env : σ) (arrivals : List (Arrival stream))
    (window : WindowFrom none (segmentsOf arrivals)) {core : StreamDirection σ}
    (reassembled : runArrivals environment (initializeDirection environment config hasBudget chargeObject env)
      arrivals = core)
    (tracker : DnsTracker) (key : DnsDirectionKey) (calls : List DnsFramerCall)
    (goesOn : ∀ call ∈ calls, call.GoesOn key)
    (handed : calls.flatMap (DnsFramerCall.eventsOf key) = core.emitted.map StreamEvent.forDns) :
    let origin := (originOf (segmentsOf arrivals)).getD 0
    ∃ outcome, DnsFramer.run calls { tracker := tracker } = some outcome ∧
      DnsFramer.bodies key outcome.emitted <+:
        dnsFraming.messages (stream.slice origin (stream.length - origin)) ∧
      (outcome.error = none → (∀ event ∈ core.emitted, event.isGap = false ∧ event.isEnd = false) →
        DnsFramer.bodies key outcome.emitted = dnsFraming.messages (stream.slice origin core.published)) := by
  intro origin
  have initial : Reassembling environment _ _ ([] : List (Segment stream)) _ none :=
    reassembling_initial accepting.keeps config hasBudget chargeObject env trivial
  obtain ⟨_, reassembling⟩ := initial.run accepting.keeps arrivals window
  rw [List.nil_append, reassembled] at reassembling
  obtain ⟨between, sound⟩ := reassembling.sound_events
  have contiguous := between.ordered.contiguous
  have slices := reassembling.delivered.bytes_eq
  obtain ⟨outcome, ran, cuts⟩ :=
    @DnsFramer.run_cuts { tracker := tracker } calls (fun _ => some []) fun _ => rfl
  obtain ⟨cut, all⟩ := cuts key
  rw [DnsFramerCall.expected_eq key calls goesOn, DnsStreamEvent.resumeAll_messages _ Framing.leftover_nil, handed]
    at cut all
  refine ⟨outcome, ran, cut.trans (Framing.messages_prefix ?_), fun ok whole => ?_⟩
  · exact unbroken_prefix contiguous fun begin end_ bytes capturedAtNs member =>
      ⟨slices begin end_ bytes capturedAtNs member, data_inside contiguous sound member (between.wellFormed _ member)⟩
  · rw [all ok, unbroken_eq whole,
      publishedBytes_eq_slice contiguous (fun event member => (whole event member).1) slices]
    rfl

/-- The two bytes of the length arrive after the message of one byte. -/
theorem messages_of_segments_sample :
    ∃ outcome, DnsFramer.run [.readable ⟨7, .aToB, .syn, false, 0⟩
        ((runSample [sampleSyn, sampleByte 2 (by decide), sampleSecond, sampleFirst]).emitted.map StreamEvent.forDns)]
        { tracker := { config := {}, budget := { config := {} } } } = some outcome ∧
      DnsFramer.bodies (7, .aToB) outcome.emitted <+: dnsFraming.messages (sampleStream.slice 0 (2 ^ 31)) := by
  obtain ⟨outcome, ran, cut, -⟩ := messages_of_segments unlimitedEnvironment_accepting ⟨65536, 0⟩ true true ()
    (sampleArrivals [sampleSyn, sampleByte 2 (by decide), sampleSecond, sampleFirst]) (by
      simp [WindowFrom, nextHighest, InWindow, sampleArrivals, segmentsOf, Arrival.segments, Segment.carries,
        Segment.end_, sampleSyn, sampleByte, sampleFirst, sampleSecond])
    rfl _ (7, .aToB) [.readable ⟨7, .aToB, .syn, false, 0⟩ _]
    (by simp [DnsFramerCall.GoesOn, DnsFramer.key]) (by simp [DnsFramerCall.eventsOf, DnsFramer.key]; rfl)
  exact ⟨outcome, ran, cut⟩

end Flowsql.Npm
