import Flowsql.Npm.TlsHandshakeTrace
import Flowsql.Npm.TlsStreams

/-!
# Calls of the TLS tracker

What the parts of one call do. An event that the framer reports as invalid changes nothing, and
the framed events of a call advance the candidate or close the tracker.
-/

namespace Flowsql.Npm

open Flowsql.Library

namespace TlsFraming

/-! ## What the framer rejects as invalid -/

variable {framer : TlsFraming} {side : PacketDirection} {captured : Option Int}

theorem reject_error (known unknown : TlsFramerError) :
    (framer.reject side known unknown).error = some known ∨
      (framer.reject side known unknown).error = some unknown := by
  unfold reject
  split
  · exact .inl rfl
  · exact .inr rfl

theorem reject_valid {known unknown : TlsFramerError} (known_ : known ≠ .invalidInput)
    (unknown_ : unknown ≠ .invalidInput) :
    (framer.reject side known unknown).error ≠ some .invalidInput := by
  intro invalid
  rcases @reject_error framer side known unknown with error | error
  · exact known_ (Option.some.inj (error.symm.trans invalid))
  · exact unknown_ (Option.some.inj (error.symm.trans invalid))

theorem finishMessage_valid : (framer.finishMessage side).error ≠ some .invalidInput := by
  unfold finishMessage
  simp only
  split
  · split <;> nofun
  · nofun

theorem closeRecord_valid : (framer.closeRecord side).error ≠ some .invalidInput := by
  unfold closeRecord
  split
  · obtain ⟨events, finished⟩ := @finishRecord_cases side framer
    rw [finished]
    nofun
  · nofun

theorem startRecord_valid : (framer.startRecord side).error ≠ some .invalidInput := by
  unfold startRecord
  simp only
  split
  · exact reject_valid nofun nofun
  split
  · nofun
  split
  · exact reject_valid nofun nofun
  · nofun

theorem startMessage_valid : (framer.startMessage side).error ≠ some .invalidInput := by
  unfold startMessage
  simp only
  split
  · nofun
  split
  · nofun
  split
  · exact finishMessage_valid
  · nofun

theorem handshakeByte_valid (byte : UInt8) :
    (framer.handshakeByte side captured byte).error ≠ some .invalidInput := by
  unfold handshakeByte
  split
  · unfold takeHandshakeHeader
    simp only
    split
    · nofun
    · exact startMessage_valid
  · unfold takeMessageBody
    simp only
    split
    · exact finishMessage_valid
    · nofun

theorem recordByte_valid (byte : UInt8) :
    (framer.recordByte side captured byte).error ≠ some .invalidInput := by
  unfold recordByte
  simp only
  split
  · unfold takeRecordHeader
    simp only
    split
    · nofun
    · exact startRecord_valid
  split
  · exact closeRecord_valid
  · exact Emission.andThen_error (handshakeByte_valid byte) fun _ => closeRecord_valid

/-- An event that is reported as invalid changes nothing. -/
theorem consumeAt_invalid (sound : framer.Sound) {input : FramerInput} {nextOffset : Nat}
    {outcome : TlsOutcome} {moves : Bool}
    (consumed : framer.consumeAt input nextOffset = some (outcome, moves))
    (invalid : outcome.error = some .invalidInput) :
    outcome = .fail .invalidInput framer := by
  have valid : ∀ {other : TlsOutcome} {moved : Bool},
      some (other, moved) = some (outcome, moves) → other.error ≠ some .invalidInput → False := by
    intro other moved same ok
    obtain ⟨rfl, _⟩ := Prod.mk.inj (Option.some.inj same)
    exact ok invalid
  unfold consumeAt at consumed
  simp only at consumed
  split at consumed
  · exact (valid consumed nofun).elim
  split at consumed
  · exact (valid consumed nofun).elim
  split at consumed
  · exact (valid consumed (reject_valid nofun nofun)).elim
  split at consumed
  · exact (valid consumed (reject_valid nofun nofun)).elim
  next enabled _ _ =>
    split at consumed
    · refine (valid consumed (reject_valid ?_ nofun)).elim
      split <;> nofun
    · split at consumed
      · exact (valid consumed nofun).elim
      · exact (valid consumed nofun).elim
    · split at consumed
      · exact (Prod.mk.inj (Option.some.inj consumed)).1.symm
      · have ready := sound.ready input.direction (by simpa using enabled)
        rw [consumeData_eq_feed input.bytes ready] at consumed
        exact (valid consumed (Emission.feed_error (fun state byte => recordByte_valid byte) _ _)).elim

end TlsFraming

/-- An event is consumed, and one that is invalid changes nothing that is framed. -/
theorem TlsFramer.consume_spec {framer : TlsFramer} (sound : framer.framing.Sound)
    (input : FramerInput) :
    ∃ framed, framer.consume input = some framed ∧ framed.state.framing.Sound ∧
      (framed.error = some .invalidInput →
        framed.emitted = [] ∧ framed.state.framing = framer.framing) := by
  obtain ⟨outcome, moves, consumed, soundAfter, _⟩ :=
    TlsFraming.consumeAt_spec sound input (framer.nextOffset input.direction)
  refine ⟨outcome.mapState (framer.move input moves), by rw [consume, consumed]; rfl, soundAfter, ?_⟩
  intro invalid
  obtain rfl := TlsFraming.consumeAt_invalid sound consumed invalid
  exact ⟨rfl, rfl⟩

namespace TlsTracker

variable {history : List TlsFramedEvent} {tracker : TlsTracker} {observedAtNs : Int}

/-! ## One call -/

/-- A ServerHello that the tracker takes answers the first ClientHello. -/
def fairEvent (event : TlsFramedEvent) (tracker : TlsTracker) : Bool :=
  match tracker.closed, tracker.candidate, event.hello with
  | false, some candidate, some hello =>
      !candidate.takesServerHello event hello || candidate.isAnsweredBy hello
  | _, _, _ => true

/-- The events of a call, each in the state that it finds. -/
def fairEvents (observedAtNs : Int) : List TlsFramedEvent → TlsTracker → Bool
  | [], _ => true
  | event :: rest, tracker =>
      tracker.fairEvent event &&
        match tracker.onFramedEvent event observedAtNs with
        | none => true
        | some step => fairEvents observedAtNs rest step.tracker

theorem onFramedEvents_idle (none_ : tracker.candidate = none) (open_ : tracker.closed = false)
    (events : List TlsFramedEvent) :
    onFramedEvents observedAtNs events tracker = some ⟨tracker, none⟩ := by
  induction events with
  | nil => rfl
  | cons event rest ih =>
      have idle : tracker.onFramedEvent event observedAtNs = some ⟨tracker, none⟩ := by
        unfold onFramedEvent
        rw [none_]
      simp only [onFramedEvents, idle, open_, Bool.false_eq_true, if_false, ih]

theorem onFramedEvents_follows {candidate : TlsHandshake} (events : List TlsFramedEvent)
    (is : tracker.candidate = some candidate) (open_ : tracker.closed = false)
    (traced : candidate.Traced history) (fair : tracker.fairEvents observedAtNs events = true) :
    ∃ step, onFramedEvents observedAtNs events tracker = some step ∧
      Follows (history ++ events) tracker step := by
  induction events generalizing tracker candidate history with
  | nil =>
      refine ⟨_, rfl, ?_⟩
      rw [List.append_nil]
      exact follows_same is traced
  | cons event rest ih =>
      simp only [fairEvents, Bool.and_eq_true] at fair
      obtain ⟨fairNow, fairLater⟩ := fair
      simp only [fairEvent, open_, is] at fairNow
      obtain ⟨step, stepped, follows⟩ := @onCandidateEvent_follows history tracker candidate event
        observedAtNs is open_ traced (by
          intro hello helloEq takes
          simpa [helloEq, takes] using fairNow)
      have steppedEvent : tracker.onFramedEvent event observedAtNs = some step := by
        simp only [onFramedEvent, is, open_, stepped]
      simp only [steppedEvent] at fairLater
      simp only [onFramedEvents, steppedEvent]
      cases follows with
      | @advances next tracedNext =>
          obtain ⟨last, lastEq, followsLast⟩ :=
            @ih (history ++ [event]) { tracker with candidate := some next } next rfl open_
              tracedNext fairLater
          simp only [open_, Bool.false_eq_true, if_false] at lastEq ⊢
          rw [List.append_assoc, List.singleton_append] at followsLast
          exact ⟨last, lastEq, followsLast.of_advanced⟩
      | closes sound =>
          simp only [if_true]
          have later := sound.append rest
          rw [List.append_assoc, List.singleton_append] at later
          exact ⟨_, rfl, .closes later⟩

/-- A further part of a call, if the first one has left the tracker open. -/
theorem Follows.andThen {first : TlsStep} {next : TlsTracker → TlsStep}
    (follows : Follows history tracker first) (open_ : tracker.closed = false)
    (later : ∀ candidate : TlsHandshake, candidate.Traced history →
      Follows history { tracker with candidate := some candidate }
        (next { tracker with candidate := some candidate })) :
    Follows history tracker (first.andThen next) := by
  cases follows with
  | closes sound => exact .closes sound
  | @advances candidate traced =>
      have goesOn : TlsStep.andThen ⟨{ tracker with candidate := some candidate }, none⟩ next =
          { next { tracker with candidate := some candidate } with
            result := (next { tracker with candidate := some candidate }).result <|> none } :=
        if_neg (by simp [open_])
      rw [goesOn]
      have following := later candidate traced
      generalize next { tracker with candidate := some candidate } = step at following ⊢
      cases following with
      | advances tracedNext => exact .advances tracedNext
      | closes sound => exact .closes sound

theorem onFramerError_follows {candidate : TlsHandshake} (is : tracker.candidate = some candidate)
    (open_ : tracker.closed = false) (traced : candidate.Traced history) (error : TlsFramerError)
    (input : FramerInput) :
    Follows history tracker (tracker.onFramerError error input observedAtNs) := by
  unfold onFramerError
  simp only [is]
  split
  · next ended => exact close_follows is open_ (fun _ => traced.observed ended.1) traced.timesFit _
  · exact fail_follows is open_ traced _

theorem onServerFin_follows {candidate : TlsHandshake} (is : tracker.candidate = some candidate)
    (open_ : tracker.closed = false) (traced : candidate.Traced history) (input : FramerInput) :
    Follows history tracker (tracker.onServerFin input observedAtNs) := by
  unfold onServerFin
  simp only [is]
  split
  · exact fail_follows is open_ traced _
  · exact follows_same is traced

/-- What follows the framer, for a candidate that is there. -/
theorem afterFraming_follows {framed : Emission TlsFramerError TlsFramer TlsFramedEvent}
    {input : FramerInput} {candidate : TlsHandshake}
    (is : tracker.becomeCandidate.candidate = some candidate)
    (open_ : tracker.becomeCandidate.closed = false) (traced : candidate.Traced history)
    (fair : tracker.becomeCandidate.fairEvents observedAtNs framed.emitted = true) :
    ∃ step, tracker.afterFraming framed input observedAtNs = some step ∧
      Follows (history ++ framed.emitted) tracker.becomeCandidate step := by
  obtain ⟨step, stepped, follows⟩ := onFramedEvents_follows framed.emitted is open_ traced fair
  refine ⟨_, Option.map_eq_some_iff.mpr ⟨step, stepped, rfl⟩, ?_⟩
  refine (follows.andThen open_ ?_).andThen open_ ?_
  · intro candidate traced
    split
    · exact .advances traced
    · refine onFramerError_follows rfl ?_ traced _ _
      exact open_
  · intro candidate traced
    refine onServerFin_follows rfl ?_ traced input
    exact open_

/-- What follows the framer while there is no candidate. -/
theorem afterFraming_idle {framed : Emission TlsFramerError TlsFramer TlsFramedEvent}
    {input : FramerInput} (none_ : tracker.becomeCandidate.candidate = none)
    (open_ : tracker.becomeCandidate.closed = false) :
    tracker.afterFraming framed input observedAtNs = some ⟨tracker.becomeCandidate, none⟩ := by
  unfold afterFraming
  rw [onFramedEvents_idle none_ open_, Option.map_some]
  have failed : ∀ error, tracker.becomeCandidate.onFramerError error input observedAtNs =
      ⟨tracker.becomeCandidate, none⟩ := by
    intro error
    unfold onFramerError
    rw [none_]
  have fin : tracker.becomeCandidate.onServerFin input observedAtNs =
      ⟨tracker.becomeCandidate, none⟩ := by
    unfold onServerFin
    rw [none_]
  unfold TlsStep.andThen
  cases framed.error with
  | none => simp [open_, fin]
  | some error => simp [open_, failed, fin]

/-- The framer has found a ClientHello, and the tracker has a candidate. -/
theorem becomeCandidate_spec (traced : ∀ candidate, tracker.candidate = some candidate →
      candidate.Traced history) :
    tracker.becomeCandidate.framer = tracker.framer ∧
      tracker.becomeCandidate.closed = tracker.closed ∧
      (∀ candidate, tracker.becomeCandidate.candidate = some candidate →
        candidate.Traced history) ∧
      (tracker.candidate.isSome = true ∨ tracker.framer.framing.candidate = true →
        tracker.becomeCandidate.candidate.isSome = true) := by
  unfold becomeCandidate
  split
  · refine ⟨rfl, rfl, ?_, fun _ => rfl⟩
    intro candidate is
    obtain rfl := Option.some.inj is
    exact .candidate rfl rfl rfl
  · next already =>
      refine ⟨rfl, rfl, traced, ?_⟩
      intro found
      rcases found with found | found
      · exact found
      · simp only [found, and_true, Option.isNone_iff_eq_none] at already
        exact Option.isSome_iff_ne_none.mpr already

/-- A candidate that ends has a result. -/
theorem finish_closes {candidate : TlsHandshake} (is : tracker.candidate = some candidate)
    (open_ : tracker.closed = false) (traced : candidate.Traced history)
    (observedByServer elsewhere : TlsIncompleteReason) :
    Closes history tracker
      (tracker.finish observedByServer elsewhere observedAtNs candidate) := by
  unfold finish
  split
  · next final => exact close_closes is open_ (fun _ => traced.observed final) traced.timesFit _
  split
  · exact fail_closes is open_ traced.timesFit _
  split
  · exact fail_closes is open_ traced.timesFit _
  · exact fail_closes is open_ traced.timesFit _

end TlsTracker

end Flowsql.Npm
