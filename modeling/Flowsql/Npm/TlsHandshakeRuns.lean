import Flowsql.Npm.TlsHandshakeCalls

/-!
# Runs of the TLS tracker

Any sequence of calls of one tracker. If every ServerHello that it takes answers the first
ClientHello, a handshake has one result, and the result is right.
-/

namespace Flowsql.Npm

open Flowsql.Library

inductive TlsCall where
  | consume (sessionId : Nat) (observedAtNs : Int) (input : FramerInput)
  | captureWatermark (watermarkNs : Int)
  | sessionEnd (observedAtNs : Int)
  | abort
  deriving DecidableEq, Repr

/-- The tracker, and what its calls have led to. -/
structure TlsRun where
  tracker : TlsTracker
  /-- What the framer has emitted. -/
  history : List TlsFramedEvent := []
  results : List TlsHandshakeResult := []
  /-- The framer has found a ClientHello. -/
  seen : Bool := false
  aborted : Bool := false

namespace TlsTracker

/-- What the framer does in a call of `Consume`, if it is called. -/
def framed (sessionId : Nat) (input : FramerInput) (tracker : TlsTracker) :
    Option (Emission TlsFramerError TlsFramer TlsFramedEvent) :=
  if sessionId ≠ tracker.sessionId ∨ tracker.closed then none else tracker.framer.consume input

/-- Every ServerHello that the tracker takes in this call answers the first ClientHello. -/
def fair (tracker : TlsTracker) : TlsCall → Bool
  | .consume sessionId observedAtNs input =>
      match tracker.framed sessionId input with
      | none => true
      | some framed =>
          ({ tracker with framer := framed.state }).becomeCandidate.fairEvents observedAtNs
            framed.emitted
  | _ => true

end TlsTracker

namespace TlsRun

variable {run : TlsRun}

def started (sessionId : Nat) (handshakeTimeoutNs : Int) (maxHelloBytes : Nat) : TlsRun :=
  { tracker :=
      { sessionId := sessionId
        handshakeTimeoutNs := handshakeTimeoutNs
        framer := TlsFramer.start maxHelloBytes } }

/-- After a call in which the framer has emitted these events. -/
def called (run : TlsRun) (step : TlsStep) (events : List TlsFramedEvent) : TlsRun :=
  { tracker := step.tracker
    history := run.history ++ events
    results := run.results ++ step.result.toList
    seen := run.seen || step.tracker.framer.framing.candidate
    aborted := run.aborted }

def call (run : TlsRun) : TlsCall → Option TlsRun
  | .consume sessionId observedAtNs input =>
      (run.tracker.consume sessionId observedAtNs input).map fun (step, _) =>
        run.called step ((run.tracker.framed sessionId input).elim [] Emission.emitted)
  | .captureWatermark watermarkNs =>
      some (run.called (run.tracker.onCaptureWatermark watermarkNs) [])
  | .sessionEnd observedAtNs => some (run.called (run.tracker.onSessionEnd observedAtNs) [])
  | .abort => some { run with tracker := run.tracker.abort, aborted := true }

/-- The calls one after another, none if one of them does not return. -/
def calls : List TlsCall → TlsRun → Option TlsRun
  | [], run => some run
  | call :: rest, run => (run.call call).bind (calls rest)

/-- Every call of the run is fair. -/
def fair : List TlsCall → TlsRun → Bool
  | [], _ => true
  | call :: rest, run => run.tracker.fair call && (run.call call).all (fair rest)

/-- The tracker is open and has a candidate as soon as the framer has one, or it is closed
and has a result or was aborted. -/
inductive Sound (run : TlsRun) : Prop where
  | waiting (framer : run.tracker.framer.framing.Sound) (open_ : run.tracker.closed = false)
      (results : run.results = []) (aborted : run.aborted = false)
      (traced : ∀ candidate, run.tracker.candidate = some candidate →
        candidate.Traced run.history)
      (found : run.seen = true ∨ run.tracker.framer.framing.candidate = true →
        run.tracker.candidate.isSome = true)
  | finished (closed : run.tracker.closed = true) (candidate : run.tracker.candidate = none)
      (once : run.results.length ≤ 1) (ended : run.aborted = true ∨ run.results.length = 1)
      (sound : ∀ result ∈ run.results, result.Sound run.history)

theorem started_sound (sessionId : Nat) (handshakeTimeoutNs : Int) (maxHelloBytes : Nat) :
    (started sessionId handshakeTimeoutNs maxHelloBytes).Sound :=
  .waiting (TlsFramer.start_sound maxHelloBytes) rfl rfl rfl
    (fun _ is => absurd is (Option.some_ne_none _).symm)
    (fun found => found.elim (absurd · Bool.false_ne_true) (absurd · Bool.false_ne_true))

/-! ## A tracker that is closed -/

/-- A closed tracker does nothing. -/
theorem call_closed (closed : run.tracker.closed = true) (none_ : run.tracker.candidate = none)
    (call : TlsCall) :
    ∃ after, run.call call = some after ∧ after.results = run.results ∧
      after.history = run.history ∧ (run.aborted = true → after.aborted = true) ∧
      after.tracker.closed = true ∧ after.tracker.candidate = none := by
  cases call with
  | consume sessionId observedAtNs input =>
      have unframed : run.tracker.framed sessionId input = none := if_pos (.inr closed)
      have unchanged : ∃ rejected, run.tracker.consume sessionId observedAtNs input =
          some (⟨run.tracker, none⟩, rejected) := by
        unfold TlsTracker.consume
        rw [if_pos closed]
        split <;> exact ⟨_, rfl⟩
      obtain ⟨rejected, consumed⟩ := unchanged
      refine ⟨run.called ⟨run.tracker, none⟩ [], ?_, List.append_nil _, List.append_nil _, id,
        closed, none_⟩
      simp only [TlsRun.call, consumed, unframed, Option.map_some, Option.elim_none]
  | captureWatermark watermarkNs =>
      have unchanged : run.tracker.onCaptureWatermark watermarkNs = ⟨run.tracker, none⟩ :=
        if_pos (.inl closed)
      refine ⟨_, rfl, ?_⟩
      rw [unchanged]
      exact ⟨List.append_nil _, List.append_nil _, id, closed, none_⟩
  | sessionEnd observedAtNs =>
      have unchanged : run.tracker.onSessionEnd observedAtNs = ⟨run.tracker, none⟩ := by
        unfold TlsTracker.onSessionEnd
        rw [closed]
      refine ⟨_, rfl, ?_⟩
      rw [unchanged]
      exact ⟨List.append_nil _, List.append_nil _, id, closed, none_⟩
  | abort => exact ⟨_, rfl, rfl, rfl, fun _ => rfl, rfl, rfl⟩

theorem calls_closed (later : List TlsCall) {run : TlsRun} (closed : run.tracker.closed = true)
    (none_ : run.tracker.candidate = none) :
    ∃ ended, calls later run = some ended ∧ ended.results = run.results := by
  induction later generalizing run with
  | nil => exact ⟨run, rfl, rfl⟩
  | cons call rest ih =>
      obtain ⟨after, calledEq, results, _, _, closedAfter, noneAfter⟩ :=
        call_closed closed none_ call
      obtain ⟨ended, endedEq, same⟩ := ih closedAfter noneAfter
      refine ⟨ended, ?_, same.trans results⟩
      simp only [calls, calledEq, Option.bind_some, endedEq]

/-! ## A tracker that is open -/

/-- After a call that has advanced the candidate or closed the tracker. -/
theorem called_follows {tracker : TlsTracker} {step : TlsStep} {events : List TlsFramedEvent}
    (follows : TlsTracker.Follows (run.history ++ events) tracker step)
    (framer : tracker.framer.framing.Sound) (open_ : tracker.closed = false)
    (results : run.results = []) (aborted : run.aborted = false) :
    (run.called step events).Sound := by
  cases follows with
  | advances traced =>
      refine .waiting framer open_ (by simp [called, results]) aborted ?_ fun _ => rfl
      intro candidate is
      obtain rfl := Option.some.inj is
      exact traced
  | @closes result sound =>
      have single : (run.called ⟨{ tracker with candidate := none, closed := true }, some result⟩
          events).results = [result] := by
        simp [called, results]
      have one := congrArg List.length single
      refine .finished rfl rfl (Nat.le_of_eq one) (.inr one) ?_
      rw [single]
      intro other member
      rw [List.mem_singleton.mp member]
      exact sound

/-- After a call that has changed nothing but the framer. -/
theorem called_idle {tracker : TlsTracker} {events : List TlsFramedEvent}
    (framer : tracker.framer.framing.Sound) (open_ : tracker.closed = false)
    (results : run.results = []) (aborted : run.aborted = false)
    (none_ : tracker.candidate = none) (unseen : run.seen = false)
    (unfound : tracker.framer.framing.candidate = false) :
    (run.called ⟨tracker, none⟩ events).Sound := by
  refine .waiting framer open_ (by simp [called, results]) aborted ?_ ?_
  · intro candidate is
    cases none_.symm.trans is
  · simp [called, unseen, unfound]

/-- A call that leaves the candidate and what is framed as they are. -/
theorem called_same (sound : run.Sound) {tracker : TlsTracker}
    (same : tracker.candidate = run.tracker.candidate)
    (framing : tracker.framer.framing = run.tracker.framer.framing)
    (closed : tracker.closed = run.tracker.closed) : (run.called ⟨tracker, none⟩ []).Sound := by
  have history : (run.called ⟨tracker, none⟩ []).history = run.history := List.append_nil _
  have results : (run.called ⟨tracker, none⟩ []).results = run.results := List.append_nil _
  cases sound with
  | waiting framer open_ none_ aborted traced found =>
      refine .waiting (framing ▸ framer) (closed.trans open_) (results.trans none_) aborted ?_ ?_
      · intro candidate is
        rw [history]
        exact traced candidate (same.symm.trans is)
      · intro either
        refine (congrArg Option.isSome same).trans (found ?_)
        simp only [called, framing, Bool.or_eq_true] at either
        tauto
  | finished shut none_ once ended sound =>
      refine .finished (closed.trans shut) (same.trans none_) (results ▸ once) (results ▸ ended) ?_
      rw [results, history]
      exact sound

/-- A call of `Consume` that does not reach the framer. -/
theorem consume_skipped {sessionId : Nat} {observedAtNs : Int} {input : FramerInput}
    (skipped : sessionId ≠ run.tracker.sessionId ∨ run.tracker.closed = true) :
    run.call (.consume sessionId observedAtNs input) = some (run.called ⟨run.tracker, none⟩ []) := by
  have unframed : run.tracker.framed sessionId input = none := if_pos skipped
  have unchanged : ∃ rejected, run.tracker.consume sessionId observedAtNs input =
      some (⟨run.tracker, none⟩, rejected) := by
    unfold TlsTracker.consume
    split
    · exact ⟨_, rfl⟩
    · next own => exact ⟨_, if_pos (skipped.resolve_left own)⟩
  obtain ⟨rejected, consumed⟩ := unchanged
  simp only [call, consumed, unframed, Option.map_some, Option.elim_none]

/-- What follows the framer in a call of an open tracker. -/
theorem afterFraming_sound {framed : Emission TlsFramerError TlsFramer TlsFramedEvent}
    {input : FramerInput} {observedAtNs : Int} (sound : run.Sound)
    (open_ : run.tracker.closed = false) (framer : framed.state.framing.Sound)
    (fair : ({ run.tracker with framer := framed.state }).becomeCandidate.fairEvents observedAtNs
      framed.emitted = true) :
    ∃ step, ({ run.tracker with framer := framed.state }).afterFraming framed input observedAtNs =
      some step ∧ (run.called step framed.emitted).Sound := by
  cases sound with
  | finished closed => cases closed.symm.trans open_
  | waiting _ _ results aborted traced found =>
      obtain ⟨sameFramer, closed, tracedAfter, foundAfter⟩ :=
        @TlsTracker.becomeCandidate_spec run.history { run.tracker with framer := framed.state } traced
      have openAfter := closed.trans open_
      have framerAfter := (congrArg (·.framing.Sound) sameFramer).mpr framer
      generalize becameEq :
        ({ run.tracker with framer := framed.state } : TlsTracker).becomeCandidate = became at *
      cases is : became.candidate with
      | some candidate =>
          obtain ⟨step, stepped, follows⟩ := TlsTracker.afterFraming_follows (becameEq ▸ is)
            (becameEq ▸ openAfter) (tracedAfter candidate is) (becameEq ▸ fair)
          rw [becameEq] at follows
          exact ⟨step, stepped, called_follows follows framerAfter openAfter results aborted⟩
      | none =>
          have idle := @TlsTracker.afterFraming_idle
            { run.tracker with framer := framed.state } observedAtNs framed input (becameEq ▸ is)
            (becameEq ▸ openAfter)
          rw [becameEq] at idle
          refine ⟨_, idle, called_idle framerAfter openAfter results aborted is ?_ ?_⟩
          · by_contra seen
            have candidate := foundAfter (.inl (found (.inl (by simpa using seen))))
            simp [is] at candidate
          · by_contra found
            rw [sameFramer] at found
            have candidate := foundAfter (.inr (by simpa using found))
            simp [is] at candidate

theorem consume_sound (sound : run.Sound) {sessionId : Nat} {observedAtNs : Int}
    {input : FramerInput}
    (fair : run.tracker.fair (.consume sessionId observedAtNs input) = true) :
    ∃ after, run.call (.consume sessionId observedAtNs input) = some after ∧ after.Sound := by
  by_cases skipped : sessionId ≠ run.tracker.sessionId ∨ run.tracker.closed = true
  · exact ⟨_, consume_skipped skipped, called_same sound rfl rfl rfl⟩
  have open_ : run.tracker.closed = false := by simpa using (not_or.mp skipped).2
  have framer : run.tracker.framer.framing.Sound := by
    cases sound with
    | waiting framer => exact framer
    | finished closed => cases closed.symm.trans open_
  obtain ⟨framed, consumed, framerAfter, invalidSame⟩ := TlsFramer.consume_spec framer input
  have framedEq : run.tracker.framed sessionId input = some framed :=
    (if_neg skipped).trans consumed
  simp only [TlsTracker.fair, framedEq] at fair
  simp only [call, framedEq, Option.elim_some, TlsTracker.consume, consumed,
    if_neg (not_or.mp skipped).1, if_neg (not_or.mp skipped).2]
  split
  · next invalid =>
      obtain ⟨nothing, same⟩ := invalidSame invalid
      refine ⟨_, rfl, ?_⟩
      rw [nothing]
      exact called_same sound rfl same rfl
  · obtain ⟨step, stepped, soundAfter⟩ := afterFraming_sound sound open_ framerAfter fair
    exact ⟨_, by rw [stepped]; rfl, soundAfter⟩

theorem captureWatermark_sound (sound : run.Sound) (watermarkNs : Int) :
    (run.called (run.tracker.onCaptureWatermark watermarkNs) []).Sound := by
  unfold TlsTracker.onCaptureWatermark
  split
  · exact called_same sound rfl rfl rfl
  next moves =>
    simp only
    split
    · exact called_same sound rfl rfl rfl
    · next candidate is =>
        split
        · cases sound with
          | finished closed => exact absurd (.inl closed) moves
          | waiting framer open_ results aborted traced found =>
              have closes := @TlsTracker.finish_closes run.history
                { run.tracker with lastWatermarkNs := some watermarkNs } watermarkNs candidate is
                open_ (traced candidate is) .deadlineAfterServerHello
                .serverHelloNotObservedByDeadline
              rw [← List.append_nil run.history] at closes
              exact called_follows closes.follows framer open_ results aborted
        · exact called_same sound rfl rfl rfl

theorem sessionEnd_closes {candidate : TlsHandshake} {observedAtNs : Int}
    (is : run.tracker.candidate = some candidate) (open_ : run.tracker.closed = false)
    (traced : candidate.Traced run.history) :
    TlsTracker.Closes run.history run.tracker (run.tracker.onSessionEnd observedAtNs) := by
  unfold TlsTracker.onSessionEnd
  simp only [open_, is]
  exact TlsTracker.finish_closes is open_ traced _ _

theorem sessionEnd_sound (sound : run.Sound) (observedAtNs : Int) :
    (run.called (run.tracker.onSessionEnd observedAtNs) []).Sound := by
  cases is : run.tracker.candidate with
  | none =>
      have unchanged : run.tracker.onSessionEnd observedAtNs = ⟨run.tracker, none⟩ := by
        unfold TlsTracker.onSessionEnd
        split
        · next some_ => cases is.symm.trans some_
        · rfl
      rw [unchanged]
      exact called_same sound rfl rfl rfl
  | some candidate =>
      cases sound with
      | finished closed none_ => cases none_.symm.trans is
      | waiting framer open_ results aborted traced found =>
          have closes := @sessionEnd_closes run candidate observedAtNs is open_ (traced candidate is)
          rw [← List.append_nil run.history] at closes
          exact called_follows closes.follows framer open_ results aborted

/-! ## Runs -/

theorem call_sound (sound : run.Sound) {call : TlsCall} (fair : run.tracker.fair call = true) :
    ∃ after, run.call call = some after ∧ after.Sound := by
  cases call with
  | consume sessionId observedAtNs input => exact consume_sound sound fair
  | captureWatermark watermarkNs => exact ⟨_, rfl, captureWatermark_sound sound watermarkNs⟩
  | sessionEnd observedAtNs => exact ⟨_, rfl, sessionEnd_sound sound observedAtNs⟩
  | abort =>
      refine ⟨_, rfl, ?_⟩
      cases sound with
      | waiting framer open_ results aborted traced found =>
          exact .finished rfl rfl (by simp [results]) (.inl rfl) (by simp [results])
      | finished closed none_ once ended sound => exact .finished rfl rfl once (.inl rfl) sound

theorem calls_sound (calls : List TlsCall) {run : TlsRun} (sound : run.Sound)
    (fair : fair calls run = true) :
    ∃ after, TlsRun.calls calls run = some after ∧ after.Sound := by
  induction calls generalizing run with
  | nil => exact ⟨run, rfl, sound⟩
  | cons call rest ih =>
      simp only [TlsRun.fair, Bool.and_eq_true] at fair
      obtain ⟨middle, called, soundMiddle⟩ := call_sound sound fair.1
      rw [called, Option.all_some] at fair
      obtain ⟨after, ran, soundAfter⟩ := ih soundMiddle fair.2
      exact ⟨after, by rw [TlsRun.calls, called, Option.bind_some, ran], soundAfter⟩

/-- What holds in every state of a run. -/
structure Accounted (run : TlsRun) : Prop where
  once : run.results.length ≤ 1
  /-- The phase before the boundary of TLS 1.2 is that of a stored ServerHello. -/
  boundary : ∀ candidate, run.tracker.candidate = some candidate →
    (candidate.phase = .awaitingTls12Boundary ↔
      ∃ hello, candidate.finalServerHello = some hello ∧ hello.selectsTls13 = false)
  observed : ∀ result ∈ run.results, result.outcome = .serverHelloObserved →
    result.handshake.Observed run.history
  latency : ∀ result ∈ run.results, ∀ latency, result.serverHelloLatencyNs = some latency →
    result.handshake.Elapsed latency
  /-- The end of the session leaves one result of a ClientHello that was seen. -/
  ended : ∀ observedAtNs, run.seen = true → run.aborted = false →
    ∃ after, run.call (.sessionEnd observedAtNs) = some after ∧ after.results.length = 1
  /-- After a result or an abort there are no further results. -/
  afterwards : ∀ later, run.results ≠ [] ∨ run.aborted = true →
    ∃ after, calls later run = some after ∧ after.results = run.results

theorem Sound.ended (sound : run.Sound) (observedAtNs : Int) (seen : run.seen = true)
    (running : run.aborted = false) :
    (run.called (run.tracker.onSessionEnd observedAtNs) []).results.length = 1 := by
  cases sound with
  | waiting framer open_ results aborted traced found =>
      obtain ⟨candidate, is⟩ := Option.isSome_iff_exists.mp (found (.inl seen))
      obtain ⟨result, _, closes⟩ :=
        @sessionEnd_closes run candidate observedAtNs is open_ (traced candidate is)
      rw [closes]
      simp [called, results]
  | finished closed none_ once ended sound =>
      have one := ended.resolve_left (by simp [running])
      have unchanged : run.tracker.onSessionEnd observedAtNs = ⟨run.tracker, none⟩ := by
        unfold TlsTracker.onSessionEnd
        rw [closed]
      rw [unchanged]
      simpa [called] using one

theorem Sound.accounted (sound : run.Sound) : run.Accounted where
  once := by
    cases sound with
    | waiting framer open_ results => simp [results]
    | finished closed none_ once => exact once
  boundary := by
    intro candidate is
    cases sound with
    | waiting framer open_ results aborted traced => exact (traced candidate is).boundary_iff
    | finished closed none_ => cases none_.symm.trans is
  observed := by
    intro result member
    cases sound with
    | waiting framer open_ results => simp [results] at member
    | finished closed none_ once ended sound => exact (sound result member).observed
  latency := by
    intro result member
    cases sound with
    | waiting framer open_ results => simp [results] at member
    | finished closed none_ once ended sound => exact (sound result member).latency
  ended := fun observedAtNs seen running => ⟨_, rfl, sound.ended observedAtNs seen running⟩
  afterwards := by
    intro later finished
    cases sound with
    | waiting framer open_ results aborted => simp [results, aborted] at finished
    | finished closed none_ => exact calls_closed later closed none_

/-- Every fair run returns, and there is at most one result, which is right. -/
theorem handshake_reported_once (sessionId : Nat) (handshakeTimeoutNs : Int) (maxHelloBytes : Nat)
    (calls : List TlsCall)
    (fair : fair calls (started sessionId handshakeTimeoutNs maxHelloBytes) = true) :
    ∃ run, TlsRun.calls calls (started sessionId handshakeTimeoutNs maxHelloBytes) = some run ∧
      run.Accounted := by
  obtain ⟨run, ran, sound⟩ :=
    calls_sound calls (started_sound sessionId handshakeTimeoutNs maxHelloBytes) fair
  exact ⟨run, ran, sound.accounted⟩

/-! ## A handshake on the wire -/

/-- A record with one handshake message. -/
def helloRecord (type : UInt8) (body : List UInt8) : List UInt8 :=
  let length := UInt8.ofNat body.length
  [22, 3, 3, 0, length + 4, type, 0, 0, length] ++ body

/-- A hello, from what follows its session id. -/
def helloBody (rest : List UInt8) : List UInt8 := [3, 3] ++ List.replicate 32 7 ++ [0] ++ rest

/-- A ClientHello that offers TLS 1.3 and nothing else. -/
def tls13ClientHello : List UInt8 :=
  helloRecord 1 (helloBody [0, 2, 0x13, 0x01, 1, 0, 0, 7, 0, 43, 0, 3, 2, 3, 4])

def tls13ServerHello : List UInt8 :=
  helloRecord 2 (helloBody [0x13, 0x01, 0, 0, 6, 0, 43, 0, 2, 3, 4])

/-- A ServerHello that selects no version, and the change of ciphers after it. -/
def tls12ServerHello : List UInt8 :=
  helloRecord 2 (helloBody [0xc0, 0x2f, 0]) ++ [20, 3, 3, 0, 1, 1]

/-- The first data of a direction. -/
def firstData (direction : PacketDirection) (capturedAtNs : Int) (bytes : List UInt8) : TlsCall :=
  .consume 1 capturedAtNs
    { direction := direction
      origin := .syn
      kind := .data
      begin := 0
      end_ := bytes.length
      bytes := bytes
      capturedAtNs := some capturedAtNs }

/-- Both hellos of TLS 1.3. -/
theorem handshake_reported_once_tls13 :
    ∃ run, TlsRun.calls
        [firstData .aToB 10 tls13ClientHello, firstData .bToA 25 tls13ServerHello, .sessionEnd 40]
        (started 1 1000 4096) = some run ∧ run.Accounted :=
  handshake_reported_once 1 1000 4096 _ (by decide +kernel)

/-- A ServerHello of TLS 1.2 is reported though the ClientHello does not offer that version. -/
theorem unoffered_version_reported :
    ∃ run, TlsRun.calls
        [firstData .aToB 10 tls13ClientHello, firstData .bToA 25 tls12ServerHello]
        (started 1 1000 4096) = some run ∧ ¬ run.Accounted := by
  have reported : (TlsRun.calls
      [firstData .aToB 10 tls13ClientHello, firstData .bToA 25 tls12ServerHello]
      (started 1 1000 4096)).map (fun run => run.results.map fun result =>
        (result.outcome, result.handshake.firstClientHello.map TlsHelloFacts.offeredVersions,
          result.handshake.finalServerHello.map TlsHelloFacts.version)) =
      some [(.serverHelloObserved, some [0x0304], some 0x0303)] := by decide +kernel
  obtain ⟨run, ran, results⟩ := Option.map_eq_some_iff.mp reported
  refine ⟨run, ran, fun accounted => ?_⟩
  obtain ⟨result, single, facts⟩ := List.map_eq_singleton_iff.mp results
  simp only [Prod.mk.injEq, Option.map_eq_some_iff] at facts
  obtain ⟨outcome, ⟨first, firstEq, versions⟩, final, finalEq, version⟩ := facts
  obtain ⟨_, _, _, _, hello, _, _, _, stored, _, ⟨offering, offeringEq, offered⟩, _⟩ :=
    accounted.observed result (by simp [single]) outcome
  obtain rfl := Option.some.inj (firstEq.symm.trans offeringEq)
  obtain rfl := Option.some.inj (finalEq.symm.trans stored)
  simp [TlsHelloFacts.offers, TlsHelloFacts.offersVersion, versions, version] at offered

end TlsRun

end Flowsql.Npm
