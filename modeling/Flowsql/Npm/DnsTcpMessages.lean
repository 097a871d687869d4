import Flowsql.Library.Framing
import Flowsql.Npm.DnsTcpFramer

/-!
# The messages of a DNS stream

What the framer hands to the tracker is the framing of the bytes by their two length bytes,
up to a zero length, a gap or the end of the stream, however the bytes are cut into events.
-/

namespace Flowsql.Npm

open Flowsql.Library

/-- Two bytes give the length of a message. A length of zero ends the stream. -/
def dnsFraming : Framing UInt8 where
  headerSize := 2
  bodyLength := fun header =>
    if dnsFrameLength header = 0 then none else some (dnsFrameLength header)
  positive := by decide

/-- The messages among the items of a call. -/
def framedOf (items : List DnsFramerItem) : List DnsFramed := items.filterMap Sum.getLeft?

theorem framedOf_append (first second : List DnsFramerItem) :
    framedOf (first ++ second) = framedOf first ++ framedOf second := List.filterMap_append ..

theorem framedOf_results (results : List DnsResult) : framedOf (results.map .inr) = [] := by
  induction results with
  | nil => rfl
  | cons result rest ih => exact ih

/-- The bytes of the messages. -/
def bodiesOf (items : List DnsFramerItem) : List (List UInt8) := (framedOf items).map DnsFramed.body

@[simp] theorem bodiesOf_append (first second : List DnsFramerItem) :
    bodiesOf (first ++ second) = bodiesOf first ++ bodiesOf second := by
  rw [bodiesOf, framedOf_append, List.map_append]
  rfl

@[simp] theorem bodiesOf_results (results : List DnsResult) : bodiesOf (results.map .inr) = [] := by
  rw [bodiesOf, framedOf_results]
  rfl

namespace DnsDirection

variable {direction : DnsDirection}

@[simp] theorem observeTime_same (capturedAtNs : Option Int) :
    (direction.observeTime capturedAtNs).lengthBytes = direction.lengthBytes ∧
    (direction.observeTime capturedAtNs).frame = direction.frame ∧
    (direction.observeTime capturedAtNs).frameLength = direction.frameLength ∧
    (direction.observeTime capturedAtNs).disabled = direction.disabled := by
  cases capturedAtNs with
  | none => exact ⟨rfl, rfl, rfl, rfl⟩
  | some capturedAtNs =>
      simp only [observeTime]
      split <;> exact ⟨rfl, rfl, rfl, rfl⟩

@[simp] theorem lengthBytes_takeLengthBytes (capturedAtNs : Option Int) (bytes : List UInt8) :
    (direction.takeLengthBytes capturedAtNs bytes).lengthBytes = direction.lengthBytes ++ bytes :=
  (observeTime_same capturedAtNs).1

@[simp] theorem frame_takeLengthBytes (capturedAtNs : Option Int) (bytes : List UInt8) :
    (direction.takeLengthBytes capturedAtNs bytes).frame = direction.frame :=
  (observeTime_same capturedAtNs).2.1

@[simp] theorem disabled_takeLengthBytes (capturedAtNs : Option Int) (bytes : List UInt8) :
    (direction.takeLengthBytes capturedAtNs bytes).disabled = direction.disabled :=
  (observeTime_same capturedAtNs).2.2.2

/-- The direction waits for more bytes of a message. -/
structure Ready (direction : DnsDirection) : Prop where
  enabled : direction.disabled = false
  lengthBytes : direction.lengthBytes.length ≤ 2
  unread : direction.lengthBytes.length < 2 → direction.frame = []
  incomplete : direction.lengthBytes.length = 2 →
    direction.frameLength = dnsFrameLength direction.lengthBytes ∧
      direction.frame.length < direction.frameLength

/-- The direction has these bytes of a message, or none because the stream has ended. -/
def Holds (direction : DnsDirection) : Option (List UInt8) → Prop
  | none => direction.disabled = true
  | some left => direction.Ready ∧ direction.buffered = left

/-- What a direction has read is no message yet. -/
theorem Ready.split_buffered (ready : direction.Ready) :
    dnsFraming.split direction.buffered = ([], some direction.buffered) := by
  have atMost := ready.lengthBytes
  by_cases two : direction.lengthBytes.length = 2
  · obtain ⟨length, missing⟩ := ready.incomplete two
    have nonzero : dnsFrameLength direction.lengthBytes ≠ 0 := by omega
    have here : dnsFraming.bodyLength direction.lengthBytes = some direction.frameLength := by
      simp only [dnsFraming, if_neg nonzero, length]
    exact Framing.split_incomplete (show _ = dnsFraming.headerSize from two) here missing
  · have short : direction.lengthBytes.length < 2 := by omega
    have unread := ready.unread short
    apply Framing.split_short
    rw [buffered, unread, List.append_nil]
    exact short

/-- A direction between two messages. -/
theorem holds_nil (enabled : direction.disabled = false) (noLength : direction.lengthBytes = [])
    (noFrame : direction.frame = []) : direction.Holds (some []) := by
  refine ⟨⟨enabled, ?_, fun _ => noFrame, ?_⟩, ?_⟩
  · simp [noLength]
  · simp [noLength]
  · simp [buffered, noLength, noFrame]

theorem started_holds : ({} : DnsDirection).Holds (some []) := holds_nil rfl rfl rfl

end DnsDirection

namespace DnsStream

variable {context : DnsStreamContext} {capturedAtNs : Option Int} {stream : DnsStream}

/-- A call cuts these messages and leaves this of the stream, unless it fails on the way. -/
structure Cuts (outcome : DnsStreamOutcome) (expected : List (List UInt8) × Option (List UInt8)) :
    Prop where
  cut : bodiesOf outcome.emitted <+: expected.1
  all : outcome.error = none →
    bodiesOf outcome.emitted = expected.1 ∧ outcome.state.direction.Holds expected.2

/-- One call after the other. -/
theorem Cuts.andThen {first : DnsStreamOutcome} {second : DnsStream → DnsStreamOutcome}
    {earlier later : List (List UInt8) × Option (List UInt8)} (cuts : Cuts first earlier)
    (next : first.error = none → Cuts (second first.state) later) :
    Cuts (first.andThen second) (earlier.1 ++ later.1, later.2) := by
  obtain ⟨error, state, emitted⟩ := first
  cases error with
  | some error => exact ⟨cuts.cut.trans (List.prefix_append ..), nofun⟩
  | none =>
      obtain ⟨same, -⟩ := cuts.all rfl
      have second := next rfl
      simp only [Emission.andThen]
      constructor
      · rw [bodiesOf_append, same]
        exact (List.prefix_append_right_inj _).mpr second.cut
      · intro ok
        obtain ⟨sameLater, holds⟩ := second.all ok
        rw [bodiesOf_append, same, sameLater]
        exact ⟨rfl, holds⟩

/-! ## One round -/

/-- The length bytes that a round reads. -/
theorem takeLength_short {bytes : List UInt8} (ready : stream.direction.Ready)
    (short : stream.direction.lengthBytes.length + bytes.length < 2) :
    (stream.takeLength capturedAtNs bytes).1 = bytes.length ∧
      (stream.takeLength capturedAtNs bytes).2.error = none ∧
      (stream.takeLength capturedAtNs bytes).2.emitted = [] ∧
      (stream.takeLength capturedAtNs bytes).2.state.direction.lengthBytes =
        stream.direction.lengthBytes ++ bytes ∧
      (stream.takeLength capturedAtNs bytes).2.state.direction.Holds
        (some (stream.direction.buffered ++ bytes)) := by
  have count : min (2 - stream.direction.lengthBytes.length) bytes.length = bytes.length := by omega
  have unread := ready.unread (by omega)
  unfold takeLength
  rw [if_pos (by omega)]
  simp only [count, List.take_length, DnsDirection.lengthBytes_takeLengthBytes, List.length_append]
  rw [if_pos short]
  refine ⟨rfl, rfl, rfl, by simp [Emission.done], ⟨?_, ?_, ?_, ?_⟩, ?_⟩
  · simpa [Emission.done] using ready.enabled
  · simp only [Emission.done, DnsDirection.lengthBytes_takeLengthBytes, List.length_append]
    omega
  · intro _
    simpa [Emission.done] using unread
  · intro two
    simp only [Emission.done, DnsDirection.lengthBytes_takeLengthBytes, List.length_append] at two
    omega
  · simp [Emission.done, DnsDirection.buffered, unread]

/-- A message that is complete goes to the tracker. -/
theorem finishFrame_cuts (enabled : stream.direction.disabled = false) :
    Cuts (stream.finishFrame context) ([stream.direction.frame], some []) := by
  unfold finishFrame
  simp only
  split
  · constructor
    · simp [bodiesOf, framedOf]
    · nofun
  · constructor
    · simp [bodiesOf, framedOf]
    · intro _
      constructor
      · simp [bodiesOf, framedOf]
      · exact DnsDirection.holds_nil enabled rfl rfl

/-- Two length bytes end the stream, or fail, or begin a message. -/
theorem startFrame_cases (enabled : stream.direction.disabled = false)
    (two : stream.direction.lengthBytes.length = 2) (empty : stream.direction.frame = []) :
    stream.startFrame.emitted = [] ∧
      (stream.startFrame.error ≠ none ∨
        stream.startFrame.error = none ∧ dnsFrameLength stream.direction.lengthBytes = 0 ∧
          stream.startFrame.state.direction.disabled = true ∨
        stream.startFrame.error = none ∧ stream.startFrame.state.direction.Ready ∧
          stream.startFrame.state.direction.lengthBytes = stream.direction.lengthBytes ∧
          stream.startFrame.state.direction.frame = []) := by
  unfold startFrame
  simp only
  split
  · next zero => exact ⟨rfl, Or.inr (Or.inl ⟨rfl, zero, rfl⟩)⟩
  · next nonzero =>
      split
      · exact ⟨rfl, Or.inl nofun⟩
      · refine ⟨rfl, Or.inr (Or.inr ⟨rfl, ⟨enabled, ?_, fun _ => empty, fun _ => ⟨rfl, ?_⟩⟩, rfl,
          empty⟩)⟩
        · exact Nat.le_of_eq two
        · simp only [Emission.done_state, empty, List.length_nil]
          omega

/-- The bytes of a message that a round reads. -/
theorem takeFrame_cuts {bytes : List UInt8} (ready : stream.direction.Ready)
    (two : stream.direction.lengthBytes.length = 2) :
    (stream.takeFrame context capturedAtNs bytes).1 ≤ bytes.length ∧
      (bytes ≠ [] → 0 < (stream.takeFrame context capturedAtNs bytes).1) ∧
      Cuts (stream.takeFrame context capturedAtNs bytes).2
        (dnsFraming.resume (some stream.direction.buffered)
          (bytes.take (stream.takeFrame context capturedAtNs bytes).1)) := by
  obtain ⟨length, missing⟩ := ready.incomplete two
  have here : dnsFraming.bodyLength stream.direction.lengthBytes =
      some stream.direction.frameLength := by
    have nonzero : dnsFrameLength stream.direction.lengthBytes ≠ 0 := by omega
    simp only [dnsFraming, if_neg nonzero, length]
  have size : stream.direction.lengthBytes.length = dnsFraming.headerSize := two
  unfold takeFrame
  by_cases short : stream.direction.frame.length + bytes.length < stream.direction.frameLength
  · have count : min (stream.direction.frameLength - stream.direction.frame.length) bytes.length =
        bytes.length := by omega
    have split := Framing.split_incomplete size here
      (show (stream.direction.frame ++ bytes).length < stream.direction.frameLength by
        rw [List.length_append]; exact short)
    generalize extended : (if bytes.length ≠ 0 then
      ({ stream.direction with frame := stream.direction.frame ++ bytes }).observeTime capturedAtNs
      else { stream.direction with frame := stream.direction.frame ++ bytes }) = after
    have fields : after.frame = stream.direction.frame ++ bytes ∧
        after.lengthBytes = stream.direction.lengthBytes ∧
        after.frameLength = stream.direction.frameLength ∧ after.disabled = false := by
      rw [← extended]
      split <;> simp [ready.enabled]
    obtain ⟨frame, lengthBytes, frameLength, enabled⟩ := fields
    simp only [count, List.take_length, extended]
    rw [if_pos (by rw [frame, frameLength, List.length_append]; omega)]
    simp only [List.take_length, Framing.resume, DnsDirection.buffered, List.append_assoc]
    rw [split]
    refine ⟨Nat.le_refl _, fun nonempty => List.length_pos_of_ne_nil nonempty, ?_, ?_⟩
    · exact List.nil_prefix
    · intro _
      refine ⟨rfl, ⟨enabled, ?_, ?_, ?_⟩, ?_⟩
      · simp only [Emission.done, lengthBytes, two]
        omega
      · intro one
        simp only [Emission.done, lengthBytes, two] at one
        omega
      · intro _
        simp only [Emission.done, lengthBytes, frame, frameLength, List.length_append]
        exact ⟨length, short⟩
      · simp [Emission.done, DnsDirection.buffered, lengthBytes, frame]
  · obtain ⟨more, moreEq⟩ : ∃ more, more =
        stream.direction.frameLength - stream.direction.frame.length := ⟨_, rfl⟩
    have count : min more bytes.length = more := by omega
    have positive : more ≠ 0 := by omega
    have whole : (stream.direction.frame ++ bytes.take more).length =
        stream.direction.frameLength := by
      rw [List.length_append, List.length_take]
      omega
    simp only [← moreEq, count, if_pos positive, DnsDirection.observeTime_same, whole, ne_eq, not_true_eq_false, if_false]
    refine ⟨by omega, fun _ => Nat.pos_of_ne_zero positive, ?_⟩
    have split := Framing.split_message size (whole ▸ here) []
    have empty : dnsFraming.split [] = ([], some []) :=
      Framing.split_short (show ([] : List UInt8).length < 2 by decide)
    rw [List.append_nil, empty] at split
    rw [Framing.resume, DnsDirection.buffered, List.append_assoc, split]
    have cuts := @finishFrame_cuts context { stream with direction :=
      ({ stream.direction with
        frame := stream.direction.frame ++ bytes.take more }).observeTime capturedAtNs }
      (by simp [ready.enabled])
    simpa using cuts

/-- A round takes some of the bytes, and cuts what they give. -/
theorem round_cuts {bytes : List UInt8} (ready : stream.direction.Ready) (nonempty : bytes ≠ []) :
    0 < (stream.round context capturedAtNs bytes).1 ∧
      (stream.round context capturedAtNs bytes).1 ≤ bytes.length ∧
      Cuts (stream.round context capturedAtNs bytes).2
        (dnsFraming.resume (some stream.direction.buffered)
          (bytes.take (stream.round context capturedAtNs bytes).1)) := by
  have some_ : 0 < bytes.length := List.length_pos_of_ne_nil nonempty
  unfold round
  rw [if_neg (by simp [ready.enabled])]
  by_cases two : stream.direction.lengthBytes.length = 2
  · have none_ : stream.takeLength capturedAtNs bytes = (0, .done stream) := by
      unfold takeLength
      rw [if_neg (by omega)]
    simp only [none_]
    rw [if_neg (by simp [two, ready.enabled])]
    obtain ⟨atMost, positive, cuts⟩ :=
      @takeFrame_cuts context capturedAtNs stream bytes ready two
    simp only [Emission.done_state, List.drop_zero, Nat.zero_add]
    exact ⟨positive nonempty, atMost, cuts⟩
  · by_cases short : stream.direction.lengthBytes.length + bytes.length < 2
    · obtain ⟨count, ok, emitted, lengthBytes, holds⟩ :=
        @takeLength_short capturedAtNs stream bytes ready short
      have stops : (stream.takeLength capturedAtNs bytes).2.state.direction.lengthBytes.length < 2 := by
        rw [lengthBytes, List.length_append]
        exact short
      simp only
      rw [if_pos (Or.inr (Or.inr stops))]
      simp only [count, List.take_length]
      have headerShort : (stream.direction.buffered ++ bytes).length < dnsFraming.headerSize := by
        have unread := ready.unread (by omega)
        simp only [DnsDirection.buffered, unread, List.append_nil, List.length_append]
        exact short
      rw [Framing.resume, Framing.split_short headerShort]
      refine ⟨some_, Nat.le_refl _, ?_, fun _ => ⟨?_, holds⟩⟩
      · rw [emitted]
        exact List.nil_prefix
      · rw [emitted]
        rfl
    · obtain ⟨count, countEq⟩ : ∃ count, count = 2 - stream.direction.lengthBytes.length :=
        ⟨_, rfl⟩
      have atMostTwo := ready.lengthBytes
      have fits : min count bytes.length = count := by omega
      have header : (stream.direction.lengthBytes ++ bytes.take count).length = 2 := by
        rw [List.length_append, List.length_take]
        omega
      obtain ⟨taken, takenEq⟩ : ∃ taken : DnsStream, taken =
          ⟨stream.tracker, stream.direction.takeLengthBytes capturedAtNs (bytes.take count)⟩ :=
        ⟨_, rfl⟩
      have lengthBytes : taken.direction.lengthBytes =
          stream.direction.lengthBytes ++ bytes.take count := by simp [takenEq]
      have unread : stream.direction.frame = [] := ready.unread (by omega)
      have buffered : stream.direction.buffered ++ bytes.take count =
          stream.direction.lengthBytes ++ bytes.take count := by
        simp [DnsDirection.buffered, unread]
      have begun : stream.takeLength capturedAtNs bytes = (count, taken.startFrame) := by
        unfold takeLength
        rw [if_pos (by omega)]
        simp only [← countEq, fits, ← takenEq]
        rw [if_neg (by rw [DnsDirection.lengthBytes_takeLengthBytes, header]; omega)]
      obtain ⟨emitted, failed | ⟨ok, zero, disabled⟩ | ⟨ok, readyNow, sameLength, noFrame⟩⟩ :=
        @startFrame_cases taken (by simp [takenEq, ready.enabled]) (by rw [lengthBytes, header])
          (by simp [takenEq, unread])
      · simp only [begun]
        rw [if_pos (Or.inl failed)]
        refine ⟨by omega, by omega, ?_, fun ok => absurd ok failed⟩
        rw [emitted]
        exact List.nil_prefix
      · simp only [begun]
        rw [if_pos (Or.inr (Or.inl disabled))]
        rw [lengthBytes] at zero
        have ended := Framing.split_ended (show _ = dnsFraming.headerSize from header)
          (show dnsFraming.bodyLength _ = none from if_pos zero) []
        rw [List.append_nil] at ended
        simp only [Framing.resume, buffered, ended]
        refine ⟨by omega, by omega, ?_, fun _ => ⟨?_, disabled⟩⟩
        · rw [emitted]
          exact List.nil_prefix
        · rw [emitted]
          rfl
      · have twoNow : taken.startFrame.state.direction.lengthBytes.length = 2 := by
          rw [sameLength, lengthBytes, header]
        obtain ⟨atMost, -, cuts⟩ :=
          @takeFrame_cuts context capturedAtNs taken.startFrame.state (bytes.drop count) readyNow
            twoNow
        simp only [begun]
        rw [if_neg (by simp [ok, readyNow.enabled, twoNow])]
        rw [List.length_drop] at atMost
        refine ⟨by omega, by omega, ?_⟩
        have now : taken.startFrame.state.direction.buffered =
            stream.direction.buffered ++ bytes.take count := by
          rw [buffered, DnsDirection.buffered, sameLength, lengthBytes, noFrame, List.append_nil]
        rw [now, Framing.resume, List.append_assoc, ← List.take_add] at cuts
        exact cuts

/-! ## Events -/

theorem cuts_nothing {left : Option (List UInt8)} (holds : stream.direction.Holds left) :
    Cuts (.done stream) (dnsFraming.resume left []) := by
  cases left with
  | none => exact ⟨List.nil_prefix, fun _ => ⟨rfl, holds⟩⟩
  | some left =>
      obtain ⟨ready, rfl⟩ := holds
      rw [Framing.resume, List.append_nil, ready.split_buffered]
      exact ⟨List.nil_prefix, fun _ => ⟨rfl, ready, rfl⟩⟩

/-- The loop over the bytes of an event ends, and cuts what they give. -/
theorem drain_cuts (fuel : Nat) (bytes : List UInt8) (stream : DnsStream)
    {left : Option (List UInt8)} (holds : stream.direction.Holds left)
    (enough : bytes.length ≤ fuel) :
    ∃ outcome, Emission.drain (fun bytes stream => some (stream.round context capturedAtNs bytes))
        fuel bytes stream = some outcome ∧ Cuts outcome (dnsFraming.resume left bytes) := by
  induction fuel generalizing bytes stream left with
  | zero =>
      obtain rfl : bytes = [] := List.eq_nil_of_length_eq_zero (Nat.le_zero.mp enough)
      exact ⟨_, rfl, cuts_nothing holds⟩
  | succ fuel ih =>
      cases bytes with
      | nil => exact ⟨_, rfl, cuts_nothing holds⟩
      | cons byte rest =>
          cases left with
          | none =>
              have disabled : stream.direction.disabled = true := holds
              have skips : stream.round context capturedAtNs (byte :: rest) =
                  ((byte :: rest).length, .done stream) := by
                unfold round
                rw [if_pos disabled]
              obtain ⟨outcome, drained, cuts⟩ := ih [] stream holds (Nat.zero_le _)
              refine ⟨outcome, ?_, cuts⟩
              simp only [Emission.drain, skips, Emission.done, List.drop_length, drained]
              rfl
          | some left =>
              obtain ⟨ready, rfl⟩ := holds
              obtain ⟨positive, atMost, cuts⟩ :=
                @round_cuts context capturedAtNs stream (byte :: rest) ready (by simp)
              simp only [Emission.drain]
              generalize stream.round context capturedAtNs (byte :: rest) = round at positive atMost cuts
              obtain ⟨taken, first⟩ := round
              simp only at positive atMost cuts ⊢
              have whole := @Framing.resume_append _ dnsFraming (some stream.direction.buffered)
                ((byte :: rest).take taken) ((byte :: rest).drop taken)
              rw [List.take_append_drop] at whole
              rw [whole]
              cases failed : first.error with
              | some error =>
                  refine ⟨first, rfl, cuts.cut.trans (List.prefix_append ..), ?_⟩
                  rw [failed]
                  rintro ⟨⟩
              | none =>
                  obtain ⟨outcome, drained, later⟩ := ih ((byte :: rest).drop taken) first.state
                    (cuts.all failed).2 (by rw [List.length_drop]; omega)
                  refine ⟨outcome.after first.emitted, ?_, ?_⟩
                  · simp only [drained]
                    rfl
                  · have both := @Cuts.andThen first (fun _ => outcome) _ _ cuts fun _ => later
                    rwa [Emission.andThen_of_none failed] at both

end DnsStream

namespace DnsStreamEvent

/-- What an event cuts and leaves, by the framing of the stream. -/
def resume (left : Option (List UInt8)) :
    DnsStreamEvent → List (List UInt8) × Option (List UInt8)
  | .data bytes _ => dnsFraming.resume left bytes
  | .gap => ([], none)
  | .ended => ([], none)

/-- What a list of events cuts and leaves. -/
def resumeAll : Option (List UInt8) → List DnsStreamEvent →
    List (List UInt8) × Option (List UInt8)
  | left, [] => ([], left)
  | left, event :: rest =>
      ((event.resume left).1 ++ (resumeAll (event.resume left).2 rest).1,
        (resumeAll (event.resume left).2 rest).2)

theorem resumeAll_append (left : Option (List UInt8)) (first second : List DnsStreamEvent) :
    resumeAll left (first ++ second) =
      ((resumeAll left first).1 ++ (resumeAll (resumeAll left first).2 second).1,
        (resumeAll (resumeAll left first).2 second).2) := by
  induction first generalizing left with
  | nil => rfl
  | cons event rest ih =>
      rw [List.cons_append, resumeAll, ih, resumeAll]
      simp only [List.append_assoc]

/-- The bytes up to the first gap or end. -/
def unbroken : List DnsStreamEvent → List UInt8
  | .data bytes _ :: rest => bytes ++ unbroken rest
  | _ => []

/-- After the end of a stream nothing is cut. -/
theorem resumeAll_none (events : List DnsStreamEvent) : resumeAll none events = ([], none) := by
  induction events with
  | nil => rfl
  | cons event rest ih => cases event <;> simp [resumeAll, resume, Framing.resume, ih]

/-- The messages of the events are those of the bytes up to the first gap or end. -/
theorem resumeAll_messages (events : List DnsStreamEvent) {left : Option (List UInt8)}
    (leftover : dnsFraming.Leftover left) :
    (resumeAll left events).1 = (dnsFraming.resume left (unbroken events)).1 := by
  induction events generalizing left with
  | nil => exact (congrArg Prod.fst leftover).symm
  | cons event rest ih =>
      cases event with
      | data bytes capturedAtNs =>
          rw [resumeAll, unbroken, Framing.resume_append, ih]
          · rfl
          · exact Framing.leftover_resume left bytes
      | gap | ended =>
          rw [resumeAll, resume, resumeAll_none]
          exact (congrArg Prod.fst leftover).symm

end DnsStreamEvent

namespace DnsStream

variable {context : DnsStreamContext} {stream : DnsStream} {left : Option (List UInt8)}

/-- An event cuts what its bytes give. -/
theorem onEvent_cuts (holds : stream.direction.Holds left) (event : DnsStreamEvent) :
    ∃ outcome, stream.onEvent context event = some outcome ∧ Cuts outcome (event.resume left) := by
  cases event with
  | gap => exact ⟨_, rfl, by simp [DnsStreamEvent.resume], fun _ => ⟨by simp [DnsStreamEvent.resume], rfl⟩⟩
  | ended => exact ⟨_, rfl, List.nil_prefix, fun _ => ⟨rfl, rfl⟩⟩
  | data bytes capturedAtNs =>
      simp only [onEvent]
      by_cases disabled : stream.direction.disabled = true
      · cases left with
        | none =>
            rw [if_pos disabled]
            split
            · exact ⟨_, rfl, List.nil_prefix, by rintro ⟨⟩⟩
            · exact ⟨_, rfl, List.nil_prefix, fun _ => ⟨rfl, disabled⟩⟩
        | some left => exact absurd (holds.1.enabled.symm.trans disabled) (by decide)
      · rw [if_neg disabled]
        unfold consumeData
        split
        · exact ⟨_, rfl, List.nil_prefix, by rintro ⟨⟩⟩
        · exact drain_cuts _ bytes stream holds (Nat.le_succ _)

/-- The events of a call cut what their bytes give. -/
theorem onEvents_cuts (holds : stream.direction.Holds left) (events : List DnsStreamEvent) :
    ∃ outcome, onEvents context events stream = some outcome ∧
      Cuts outcome (DnsStreamEvent.resumeAll left events) := by
  induction events generalizing stream left with
  | nil => exact ⟨_, rfl, List.nil_prefix, fun _ => ⟨rfl, holds⟩⟩
  | cons event rest ih =>
      obtain ⟨first, consumed, cuts⟩ := @onEvent_cuts context stream left holds event
      unfold onEvents
      rw [consumed]
      cases failed : first.error with
      | some error =>
          simp only [failed]
          refine ⟨first, rfl, cuts.cut.trans (List.prefix_append ..), ?_⟩
          rw [failed]
          nofun
      | none =>
          obtain ⟨outcome, later, laterCuts⟩ := ih (cuts.all failed).2
          simp only [failed, later]
          refine ⟨outcome.after first.emitted, rfl, ?_⟩
          have both := @Cuts.andThen first (fun _ => outcome) _ _ cuts fun _ => laterCuts
          rwa [Emission.andThen_of_none failed] at both

end DnsStream

end Flowsql.Npm
