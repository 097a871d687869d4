import Flowsql.Npm.DnsTcpMessages

/-!
# Runs of the DNS framer

The framer with many sessions, whose tracker is also used by others. A failed call is the last
one. Each direction of a session gives the messages of its own bytes.
-/

namespace Flowsql.Npm

open Flowsql.Library

/-- A call of the framer, or a change of the tracker and the budget by others. -/
inductive DnsFramerCall where
  | readable (context : DnsStreamContext) (events : List DnsStreamEvent)
  | sessionEnd (sessionId : Nat) (observedAtNs : Int)
  | elsewhere (tracker : DnsTracker)

namespace DnsFramerCall

/-- The events of a call, for the stream that it goes on with. Without the first byte of the
stream nothing can be framed. -/
def opening (context : DnsStreamContext) (events : List DnsStreamEvent) : List DnsStreamEvent :=
  if context.origin ≠ .syn then .gap :: events else events

/-- The messages of one direction, from what is left over of its stream. A stream that has
ended is forgotten with the final drain, and every stream with its session. -/
def expected (key : DnsDirectionKey) : Option (List UInt8) → List DnsFramerCall →
    List (List UInt8)
  | _, [] => []
  | left, .readable context events :: rest =>
      if DnsFramer.key context = key then
        let next := DnsStreamEvent.resumeAll left (opening context events)
        next.1 ++ expected key
          (if next.2 = none ∧ context.finalDrain then some [] else next.2) rest
      else expected key left rest
  | left, .sessionEnd sessionId _ :: rest =>
      expected key (if key.1 = sessionId then some [] else left) rest
  | left, .elsewhere _ :: rest => expected key left rest

/-- The stream of the direction goes on. -/
def GoesOn (key : DnsDirectionKey) : DnsFramerCall → Prop
  | .readable context _ =>
      DnsFramer.key context = key → context.origin = .syn ∧ context.finalDrain = false
  | .sessionEnd sessionId _ => key.1 ≠ sessionId
  | .elsewhere _ => True

/-- The events of the direction. -/
def eventsOf (key : DnsDirectionKey) : DnsFramerCall → List DnsStreamEvent
  | .readable context events => if DnsFramer.key context = key then events else []
  | _ => []

/-- A stream that goes on gives the messages of its bytes up to the first gap or end. -/
theorem expected_eq (key : DnsDirectionKey) (calls : List DnsFramerCall)
    (goesOn : ∀ call ∈ calls, call.GoesOn key) {left : Option (List UInt8)} :
    expected key left calls =
      (DnsStreamEvent.resumeAll left (calls.flatMap (eventsOf key))).1 := by
  induction calls generalizing left with
  | nil => rfl
  | cons call rest ih =>
      have here := goesOn call (List.mem_cons_self ..)
      have later := fun (left : Option (List UInt8)) =>
        @ih (fun call member => goesOn call (List.mem_cons_of_mem _ member)) left
      cases call with
      | elsewhere tracker => exact later left
      | sessionEnd sessionId observedAtNs =>
          rw [expected, if_neg here]
          exact later left
      | readable context events =>
          rw [List.flatMap_cons, expected, eventsOf]
          by_cases same : DnsFramer.key context = key
          · obtain ⟨syn, notFinal⟩ := here same
            have opened : opening context events = events := if_neg (not_not_intro syn)
            rw [if_pos same, if_pos same, opened, DnsStreamEvent.resumeAll_append]
            simp only [notFinal, Bool.false_eq_true, and_false, if_false]
            rw [later]
          · rw [if_neg same, if_neg same]
            exact later left

end DnsFramerCall

namespace DnsFramer

variable {framer : DnsFramer}

/-- One call, `none` if it does not end. -/
def call (framer : DnsFramer) : DnsFramerCall → Option DnsFramerOutcome
  | .readable context events => framer.onReadable context events
  | .sessionEnd sessionId observedAtNs => some (framer.onSessionEnd sessionId observedAtNs)
  | .elsewhere tracker => some (.done { framer with tracker := tracker })

/-- The calls of a task, up to the first that fails. -/
def run : List DnsFramerCall → DnsFramer → Option DnsFramerOutcome
  | [], framer => some (.done framer)
  | call :: rest, framer =>
      match framer.call call with
      | none => none
      | some first =>
          match first.error with
          | some _ => some first
          | none => (run rest first.state).map (Emission.after first.emitted)

/-- The bytes of the messages of one direction. -/
def bodies (key : DnsDirectionKey) (items : List DnsFramerItem) : List (List UInt8) :=
  ((framedOf items).filter fun framed => (framed.sessionId, framed.direction) = key).map
    DnsFramed.body

@[simp] theorem bodies_append (key : DnsDirectionKey) (first second : List DnsFramerItem) :
    bodies key (first ++ second) = bodies key first ++ bodies key second := by
  unfold bodies
  rw [framedOf_append, List.filter_append, List.map_append]

@[simp] theorem bodies_results (key : DnsDirectionKey) (results : List DnsResult) :
    bodies key (results.map .inr) = [] := by
  rw [bodies, framedOf_results]
  rfl

/-- What the framer has of the stream of a direction. -/
def Holds (framer : DnsFramer) (key : DnsDirectionKey) (left : Option (List UInt8)) : Prop :=
  match framer.directions key with
  | none => left = some []
  | some direction => direction.Holds left

/-- A call cuts these messages of the direction and leaves this of its stream. -/
structure CutsOf (key : DnsDirectionKey) (outcome : DnsFramerOutcome)
    (expected : List (List UInt8) × Option (List UInt8)) : Prop where
  cut : bodies key outcome.emitted <+: expected.1
  all : outcome.error = none →
    bodies key outcome.emitted = expected.1 ∧ outcome.state.Holds key expected.2

end DnsFramer

namespace DnsStream

/-- All messages of a call are of the same direction. -/
def Labelled (context : DnsStreamContext) (items : List DnsFramerItem) : Prop :=
  ∀ framed ∈ framedOf items, (framed.sessionId, framed.direction) = DnsFramer.key context

theorem labelled_results (context : DnsStreamContext) (results : List DnsResult) :
    Labelled context (results.map .inr) := by
  intro framed member
  rw [framedOf_results] at member
  cases member

variable {context : DnsStreamContext}

theorem Labelled.append {first second : List DnsFramerItem} (left : Labelled context first)
    (right : Labelled context second) : Labelled context (first ++ second) := by
  intro framed member
  rw [framedOf_append] at member
  rcases List.mem_append.mp member with member | member
  · exact left framed member
  · exact right framed member

variable {capturedAtNs : Option Int} {stream : DnsStream}

theorem labelled_nil : Labelled context [] := labelled_results context []

theorem finishFrame_labelled : Labelled context (stream.finishFrame context).emitted := by
  unfold finishFrame
  simp only
  split <;>
  · intro framed member
    simp only [framedOf, List.filterMap_cons, Sum.getLeft?_inl, List.mem_cons] at member
    rcases member with rfl | member
    · rfl
    · exact labelled_results context _ framed member

theorem takeFrame_labelled (bytes : List UInt8) :
    Labelled context (stream.takeFrame context capturedAtNs bytes).2.emitted := by
  unfold takeFrame
  simp only
  split <;> split
  all_goals first | exact labelled_nil | exact finishFrame_labelled

theorem takeLength_labelled (bytes : List UInt8) :
    Labelled context (stream.takeLength capturedAtNs bytes).2.emitted := by
  unfold takeLength
  simp only
  split
  · split
    · exact labelled_nil
    · unfold startFrame
      simp only
      split
      · exact labelled_nil
      · split <;> exact labelled_nil
  · exact labelled_nil

theorem round_labelled (bytes : List UInt8) :
    Labelled context (stream.round context capturedAtNs bytes).2.emitted := by
  unfold round
  simp only
  split
  · exact labelled_nil
  · split
    · exact takeLength_labelled bytes
    · exact takeFrame_labelled _

theorem drain_labelled (fuel : Nat) (bytes : List UInt8) (stream : DnsStream)
    {outcome : DnsStreamOutcome}
    (drained : Emission.drain (fun bytes stream => some (stream.round context capturedAtNs bytes))
      fuel bytes stream = some outcome) : Labelled context outcome.emitted := by
  induction fuel generalizing bytes stream outcome with
  | zero =>
      cases bytes with
      | nil =>
          cases drained
          exact labelled_nil
      | cons byte rest => cases drained
  | succ fuel ih =>
      cases bytes with
      | nil =>
          cases drained
          exact labelled_nil
      | cons byte rest =>
          have first := @round_labelled context capturedAtNs stream (byte :: rest)
          simp only [Emission.drain] at drained
          split at drained
          · cases drained
            exact first
          · obtain ⟨later, drainedLater, rfl⟩ := Option.map_eq_some_iff.mp drained
            exact first.append (ih _ _ drainedLater)

theorem onEvent_labelled {event : DnsStreamEvent} {outcome : DnsStreamOutcome}
    (consumed : stream.onEvent context event = some outcome) :
    Labelled context outcome.emitted := by
  cases event with
  | gap =>
      cases consumed
      exact labelled_results context _
  | ended =>
      cases consumed
      exact labelled_nil
  | data bytes capturedAtNs =>
      simp only [onEvent] at consumed
      split at consumed
      · cases consumed
        split <;> exact labelled_nil
      · unfold consumeData at consumed
        split at consumed
        · cases consumed
          exact labelled_nil
        · exact drain_labelled _ _ _ consumed

theorem onEvents_labelled {events : List DnsStreamEvent} {outcome : DnsStreamOutcome}
    (consumed : onEvents context events stream = some outcome) :
    Labelled context outcome.emitted := by
  induction events generalizing stream outcome with
  | nil =>
      cases consumed
      exact labelled_nil
  | cons event rest ih =>
      unfold onEvents at consumed
      split at consumed
      · cases consumed
      · next first consumedFirst =>
          have earlier := onEvent_labelled consumedFirst
          split at consumed
          · cases consumed
            exact earlier
          · obtain ⟨later, consumedLater, rfl⟩ := Option.map_eq_some_iff.mp consumed
            exact earlier.append (ih consumedLater)

/-- The messages of a call are all of its direction. -/
theorem Labelled.bodies {items : List DnsFramerItem} (labelled : Labelled context items)
    (key : DnsDirectionKey) :
    DnsFramer.bodies key items = if DnsFramer.key context = key then bodiesOf items else [] := by
  unfold DnsFramer.bodies
  split
  · next same =>
      have all : (framedOf items).filter (fun framed =>
          (framed.sessionId, framed.direction) = key) = framedOf items := by
        refine List.filter_eq_self.mpr fun framed member => ?_
        rw [labelled framed member, same]
        exact decide_eq_true rfl
      rw [all]
      rfl
  · next different =>
      have none_ : (framedOf items).filter (fun framed =>
          (framed.sessionId, framed.direction) = key) = [] := by
        refine List.filter_eq_nil_iff.mpr fun framed member => ?_
        rw [labelled framed member]
        simpa using different
      rw [none_]
      rfl

end DnsStream

namespace DnsFramer

variable {framer : DnsFramer} {key : DnsDirectionKey} {left : Option (List UInt8)}

theorem directions_erase (erased key : DnsDirectionKey) :
    (framer.eraseDirection erased).directions key =
      if key = erased then none else framer.directions key := by
  unfold eraseDirection
  split
  · next absent =>
      split
      · next same => rw [same, absent]
      · rfl
  · simp only [Function.update_apply]

theorem Holds.erase (erased : DnsDirectionKey) (holds : framer.Holds key left) :
    (framer.eraseDirection erased).Holds key (if key = erased then some [] else left) := by
  unfold Holds at holds ⊢
  rw [directions_erase]
  by_cases same : key = erased
  · rw [if_pos same, if_pos same]
  · rw [if_neg same, if_neg same]
    exact holds

/-- The direction of a call, as it was left. -/
theorem openDirection_holds {opened : DnsStream} (holds : framer.Holds key left)
    (found : framer.openDirection key = some opened) : opened.direction.Holds left := by
  unfold Holds at holds
  unfold openDirection at found
  cases direction : framer.directions key with
  | some direction =>
      rw [direction] at holds found
      cases found
      exact holds
  | none =>
      rw [direction] at holds found
      obtain ⟨tracker, -, rfl⟩ := Option.map_eq_some_iff.mp found
      rw [holds]
      exact DnsDirection.started_holds

/-- What a call leaves of the stream of a direction. -/
def leftAfter (context : DnsStreamContext) (left : Option (List UInt8)) : Option (List UInt8) :=
  if left = none ∧ context.finalDrain then some [] else left

/-- What a call leaves of the direction that it works on, -/
theorem settle_self {context : DnsStreamContext} {outcome : DnsStreamOutcome}
    (ok : outcome.error = none) (holds : outcome.state.direction.Holds left) :
    (framer.settle context outcome).state.Holds (DnsFramer.key context) (leftAfter context left) := by
  have stored : (framer.store (DnsFramer.key context) outcome.state).Holds
      (DnsFramer.key context) left := by
    simpa [Holds, store] using holds
  have disabled : outcome.state.direction.disabled = true ↔ left = none := by
    cases left with
    | none => exact iff_of_true holds rfl
    | some left => exact iff_of_false (by simp [holds.1.enabled]) (by simp)
  unfold settle leftAfter
  simp only [ok, disabled, true_and]
  split
  · have erased := stored.erase (DnsFramer.key context)
    rwa [if_pos rfl] at erased
  · exact stored

/-- and of the others. -/
theorem settle_other {context : DnsStreamContext} {outcome : DnsStreamOutcome}
    (different : DnsFramer.key context ≠ key) (holds : framer.Holds key left) :
    (framer.settle context outcome).state.Holds key left := by
  have stored : (framer.store (DnsFramer.key context) outcome.state).Holds key left := by
    unfold Holds store
    simp only
    rw [Function.update_of_ne (Ne.symm different)]
    exact holds
  unfold settle
  simp only
  split
  · have erased := stored.erase (DnsFramer.key context)
    rwa [if_neg (Ne.symm different)] at erased
  · exact stored

/-- What a call cuts of the stream of a direction, and what it leaves. -/
def afterReadable (context : DnsStreamContext) (events : List DnsStreamEvent)
    (key : DnsDirectionKey) (left : Option (List UInt8)) :
    List (List UInt8) × Option (List UInt8) :=
  if DnsFramer.key context = key then
    ((DnsStreamEvent.resumeAll left (DnsFramerCall.opening context events)).1,
      leftAfter context (DnsStreamEvent.resumeAll left (DnsFramerCall.opening context events)).2)
  else ([], left)

/-- A call that fails before it reads anything. -/
theorem CutsOf.fail (error : DnsError) (expected : List (List UInt8) × Option (List UInt8)) :
    CutsOf key (.fail error framer) expected :=
  ⟨List.nil_prefix, nofun⟩

theorem onReadable_cuts {left : DnsDirectionKey → Option (List UInt8)}
    (holds : ∀ key, framer.Holds key (left key)) (context : DnsStreamContext)
    (events : List DnsStreamEvent) :
    ∃ outcome, framer.onReadable context events = some outcome ∧
      ∀ key, CutsOf key outcome (afterReadable context events key (left key)) := by
  unfold onReadable
  by_cases zero : context.sessionId = 0
  · rw [if_pos zero]
    exact ⟨_, rfl, fun key => .fail ..⟩
  · rw [if_neg zero]
    cases found : framer.openDirection (DnsFramer.key context) with
    | none => exact ⟨_, rfl, fun key => .fail ..⟩
    | some opened =>
        have openedHolds := openDirection_holds (holds (DnsFramer.key context)) found
        simp only
        generalize enteredEq : (if context.origin ≠ .syn then opened.disable else opened) = entered
        obtain ⟨start, enteredHolds, spec⟩ : ∃ start, entered.direction.Holds start ∧
            DnsStreamEvent.resumeAll start events =
              DnsStreamEvent.resumeAll (left (DnsFramer.key context))
                (DnsFramerCall.opening context events) := by
          unfold DnsFramerCall.opening
          rw [← enteredEq]
          split
          · exact ⟨none, rfl, rfl⟩
          · exact ⟨_, openedHolds, rfl⟩
        obtain ⟨outcome, consumed, cuts⟩ :=
          @DnsStream.onEvents_cuts context entered start enteredHolds events
        have labelled := DnsStream.onEvents_labelled consumed
        rw [consumed]
        refine ⟨_, rfl, fun key => ?_⟩
        have bodiesEq := labelled.bodies key
        unfold afterReadable
        split
        · next same =>
            subst same
            rw [if_pos rfl] at bodiesEq
            rw [spec] at cuts
            constructor
            · exact (congrArg (· <+: _) bodiesEq).mpr cuts.cut
            · intro ok
              obtain ⟨all, kept⟩ := cuts.all ok
              exact ⟨bodiesEq.trans all, settle_self ok kept⟩
        · next different =>
            rw [if_neg different] at bodiesEq
            constructor
            · exact (congrArg (· <+: _) bodiesEq).mpr List.nil_prefix
            · intro _
              exact ⟨bodiesEq, settle_other different (holds key)⟩

/-- A session ends with both of its directions. -/
theorem erase_session (holds : framer.Holds key left) (sessionId : Nat) :
    ((framer.eraseDirection (sessionId, .aToB)).eraseDirection (sessionId, .bToA)).Holds key
      (if key.1 = sessionId then some [] else left) := by
  have erased := (holds.erase (sessionId, .aToB)).erase (sessionId, .bToA)
  obtain ⟨session, direction⟩ := key
  cases direction with
  | aToB => simpa using erased
  | bToA => simpa using erased

theorem onSessionEnd_cuts (holds : framer.Holds key left) (sessionId : Nat) (observedAtNs : Int) :
    CutsOf key (framer.onSessionEnd sessionId observedAtNs)
      ([], if key.1 = sessionId then some [] else left) := by
  unfold onSessionEnd
  simp only
  constructor
  · exact (congrArg (· <+: _) (bodies_results key _)).mpr List.nil_prefix
  · intro ok
    rw [bodies_results]
    refine ⟨rfl, ?_⟩
    split
    · next failed => exact absurd (ok.symm.trans failed) nofun
    · exact @erase_session
        { framer with tracker := (framer.tracker.onSessionEnd sessionId observedAtNs).state } key
        left holds sessionId

/-! ## Runs -/

/-- What one call cuts of the stream of a direction, and what it leaves. -/
def afterCall (key : DnsDirectionKey) (left : Option (List UInt8)) :
    DnsFramerCall → List (List UInt8) × Option (List UInt8)
  | .readable context events => afterReadable context events key left
  | .sessionEnd sessionId _ => ([], if key.1 = sessionId then some [] else left)
  | .elsewhere _ => ([], left)

theorem expected_cons (key : DnsDirectionKey) (left : Option (List UInt8)) (call : DnsFramerCall)
    (rest : List DnsFramerCall) :
    DnsFramerCall.expected key left (call :: rest) =
      (afterCall key left call).1 ++
        DnsFramerCall.expected key (afterCall key left call).2 rest := by
  cases call with
  | readable context events =>
      simp only [DnsFramerCall.expected, afterCall, afterReadable, leftAfter]
      split <;> rfl
  | sessionEnd sessionId observedAtNs => rfl
  | elsewhere tracker => rfl

theorem call_cuts {left : DnsDirectionKey → Option (List UInt8)}
    (holds : ∀ key, framer.Holds key (left key)) (call : DnsFramerCall) :
    ∃ outcome, framer.call call = some outcome ∧
      ∀ key, CutsOf key outcome (afterCall key (left key) call) := by
  cases call with
  | readable context events => exact onReadable_cuts holds context events
  | sessionEnd sessionId observedAtNs =>
      exact ⟨_, rfl, fun key => onSessionEnd_cuts (holds key) sessionId observedAtNs⟩
  | elsewhere tracker => exact ⟨_, rfl, fun key => ⟨List.nil_prefix, fun _ => ⟨rfl, holds key⟩⟩⟩

/-- A run ends, and cuts the messages of each direction out of its own bytes. -/
theorem run_cuts (calls : List DnsFramerCall) {left : DnsDirectionKey → Option (List UInt8)}
    (holds : ∀ key, framer.Holds key (left key)) :
    ∃ outcome, run calls framer = some outcome ∧ ∀ key,
      bodies key outcome.emitted <+: DnsFramerCall.expected key (left key) calls ∧
      (outcome.error = none →
        bodies key outcome.emitted = DnsFramerCall.expected key (left key) calls) := by
  induction calls generalizing framer left with
  | nil => exact ⟨_, rfl, fun key => ⟨List.nil_prefix, fun _ => rfl⟩⟩
  | cons call rest ih =>
      obtain ⟨first, called, cuts⟩ := call_cuts holds call
      unfold run
      rw [called]
      simp only
      cases failed : first.error with
      | some error =>
          refine ⟨first, rfl, fun key => ⟨?_, ?_⟩⟩
          · rw [expected_cons]
            exact (cuts key).cut.trans (List.prefix_append ..)
          · rw [failed]
            nofun
      | none =>
          obtain ⟨later, ran, laterCuts⟩ := ih fun key => ((cuts key).all failed).2
          refine ⟨later.after first.emitted, ?_, fun key => ?_⟩
          · simp only [ran]
            rfl
          · obtain ⟨same, -⟩ := (cuts key).all failed
            obtain ⟨cut, all⟩ := laterCuts key
            have emitted : bodies key (later.after first.emitted).emitted =
                bodies key first.emitted ++ bodies key later.emitted :=
              bodies_append key first.emitted later.emitted
            rw [expected_cons, emitted, same]
            constructor
            · exact (List.prefix_append_right_inj _).mpr cut
            · intro ok
              rw [all ok]

/-- However the streams of a task are cut into events and calls, the framer ends and hands
over the messages that the length bytes give, in order and each once, until a call fails. A
stream that goes on gives the messages of its bytes up to the first gap or end, and these end
with the first length of zero. -/
theorem framer_cuts_messages (tracker : DnsTracker) (calls : List DnsFramerCall) :
    ∃ outcome, run calls { tracker := tracker } = some outcome ∧ ∀ key,
      bodies key outcome.emitted <+: DnsFramerCall.expected key (some []) calls ∧
      (outcome.error = none →
        bodies key outcome.emitted = DnsFramerCall.expected key (some []) calls) ∧
      ((∀ call ∈ calls, call.GoesOn key) → DnsFramerCall.expected key (some []) calls =
        dnsFraming.messages
          (DnsStreamEvent.unbroken (calls.flatMap (DnsFramerCall.eventsOf key)))) := by
  obtain ⟨outcome, ran, cuts⟩ :=
    @run_cuts { tracker := tracker } calls (fun _ => some []) fun _ => rfl
  refine ⟨outcome, ran, fun key => ⟨(cuts key).1, (cuts key).2, fun goesOn => ?_⟩⟩
  rw [DnsFramerCall.expected_eq key calls goesOn,
    DnsStreamEvent.resumeAll_messages _ Framing.leftover_nil]
  rfl

/-- The framing of messages that may be empty. -/
def plainFraming : Framing UInt8 := ⟨2, fun header => some (dnsFrameLength header), dnsFraming.positive⟩

/-- After an empty message nothing is handed over any more. -/
theorem framer_stops_at_zero :
    let context : DnsStreamContext := ⟨7, .aToB, .syn, false, 0⟩
    let stream : List UInt8 := [0, 0, 0, 1, 65]
    (run [.readable context [.data stream none]]
      { tracker := { config := {}, budget := { config := {} } } }).map
        (fun outcome => (outcome.error, bodies (7, .aToB) outcome.emitted)) = some (none, []) ∧
      plainFraming.messages stream = [[], [65]] := by
  constructor
  · decide +kernel
  · have first := @Framing.split_message _ plainFraming [0, 0] [] rfl rfl [0, 1, 65]
    have second := @Framing.split_message _ plainFraming [0, 1] [65] rfl rfl []
    have third : plainFraming.split [] = ([], some []) :=
      Framing.split_short plainFraming.positive
    simp only [List.nil_append, List.cons_append, List.append_nil] at first second
    rw [Framing.messages, first, second, third]

end DnsFramer

end Flowsql.Npm
