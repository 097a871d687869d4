import Flowsql.Npm.TlsSegmentation

/-!
# TLS streams

The framer over a whole session. Two sequences of events that carry the same bytes at the
same capture times are framed in the same way, and what is kept of a hello stays within
the configured limit.
-/

namespace Flowsql.Npm

open Flowsql.Library

/-! ## Sessions -/

theorem TlsDirection.Ready.retained {limit : Nat} {direction : TlsDirection}
    (ready : direction.Ready limit) : direction.helloBytes.length ≤ limit := by
  cases hello : direction.isHello with
  | true => exact Nat.le_of_add_right_le (ready.message.hello hello)
  | false =>
      rw [ready.message.other hello]
      exact Nat.zero_le _

namespace TlsFraming

/-- What is kept of a hello is within the limit, and a direction that is not disabled is
ready for its next byte. -/
structure Sound (framer : TlsFraming) : Prop where
  retained : ∀ side, (framer.directions side).helloBytes.length ≤ framer.helloLimit
  ready : ∀ side, (framer.directions side).disabled = false →
    (framer.directions side).Ready framer.helloLimit

variable {framer after : TlsFraming} {side : PacketDirection} {captured : Option Int}

/-- A direction that was disabled stays disabled. -/
def StaysDisabled (before after : TlsFraming) : Prop :=
  ∀ side, (before.directions side).disabled = true → (after.directions side).disabled = true

/-- Accepted or rejected, the framer stays sound. -/
theorem Accepts.sound {outcome : TlsOutcome} (sound : framer.Sound)
    (accepts : Accepts side (·.Ready framer.helloLimit) framer outcome) :
    outcome.state.Sound ∧ framer.StaysDisabled outcome.state := by
  cases accepts with
  | rejected failed maxHelloBytes disabled cleared others =>
      have limitEq : outcome.state.helloLimit = framer.helloLimit := by
        unfold helloLimit
        rw [maxHelloBytes]
      refine ⟨⟨?_, ?_⟩, ?_⟩
      · intro direction
        rw [limitEq]
        by_cases same : direction = side
        · rw [same, cleared]
          exact Nat.zero_le _
        · rcases others direction same with kept | clear
          · rw [kept]
            exact sound.retained direction
          · rw [clear.2]
            exact Nat.zero_le _
      · intro direction enabled
        rw [limitEq]
        by_cases same : direction = side
        · rw [same, disabled] at enabled
          cases enabled
        · rcases others direction same with kept | clear
          · rw [kept] at enabled ⊢
            exact sound.ready direction enabled
          · rw [clear.1] at enabled
            cases enabled
      · intro direction was
        by_cases same : direction = side
        · rw [same]
          exact disabled
        · rcases others direction same with kept | clear
          · rw [kept]
            exact was
          · exact clear.1
  | accepted ok keeps holds =>
      have limitEq : outcome.state.helloLimit = framer.helloLimit := by
        unfold helloLimit
        rw [keeps.maxHelloBytes]
      refine ⟨⟨?_, ?_⟩, ?_⟩
      · intro direction
        rw [limitEq]
        by_cases same : direction = side
        · rw [same]
          exact TlsDirection.Ready.retained holds
        · rw [keeps.others direction same]
          exact sound.retained direction
      · intro direction enabled
        rw [limitEq]
        by_cases same : direction = side
        · rw [same]
          exact holds
        · rw [keeps.others direction same] at enabled ⊢
          exact sound.ready direction enabled
      · intro direction was
        by_cases same : direction = side
        · rw [same] at was ⊢
          exact keeps.disabled.trans was
        · rw [keeps.others direction same]
          exact was

theorem Accepts.maxHelloBytes_eq {accepted : TlsDirection → Prop} {outcome : TlsOutcome}
    (accepts : Accepts side accepted framer outcome) :
    outcome.state.maxHelloBytes = framer.maxHelloBytes := by
  cases accepts with
  | rejected _ maxHelloBytes _ _ _ => exact maxHelloBytes
  | accepted _ keeps _ => exact keeps.maxHelloBytes

/-- What the bytes of an event lead to. -/
theorem feed_accepts (bytes : List UInt8)
    (ready : (framer.directions side).Ready framer.helloLimit) :
    Accepts side (·.Ready framer.helloLimit) framer
      (Emission.feed (recordByte side captured) bytes framer) := by
  induction bytes generalizing framer with
  | nil => exact .accepted rfl ⟨rfl, rfl, fun _ _ => rfl, rfl⟩ ready
  | cons byte rest ih =>
      rw [Emission.feed_cons]
      cases @recordByte_accepts side captured framer ready byte with
      | rejected failed maxHelloBytes disabled cleared others =>
          rw [Emission.andThen_of_error failed]
          exact .rejected failed maxHelloBytes disabled cleared others
      | accepted ok keeps holds =>
          have limitEq : (framer.recordByte side captured byte).state.helloLimit =
              framer.helloLimit := by
            unfold helloLimit
            rw [keeps.maxHelloBytes]
          rw [Emission.andThen_of_none ok]
          have later := (@ih (framer.recordByte side captured byte).state
            (limitEq.symm ▸ holds)).of_keeps keeps
          rw [limitEq] at later
          cases later with
          | rejected failed maxHelloBytes disabled cleared others =>
              exact .rejected failed maxHelloBytes disabled cleared others
          | accepted ok keeps holds => exact .accepted ok keeps holds

theorem sound_disable {closed : Bool} (sound : framer.Sound) :
    let after := framer.setDirection side { framer.directions side with disabled := true }
    ({ after with closed := closed } : TlsFraming).Sound ∧
      framer.StaysDisabled { after with closed := closed } := by
  have directions : ∀ direction, direction ≠ side →
      (framer.setDirection side
        { framer.directions side with disabled := true }).directions direction =
          framer.directions direction := fun direction other => by simp [setDirection, other]
  refine ⟨⟨?_, ?_⟩, ?_⟩
  · intro direction
    by_cases same : direction = side
    · subst same
      simp only [setDirection_directions]
      exact sound.retained direction
    · simp only [directions direction same]
      exact sound.retained direction
  · intro direction enabled
    by_cases same : direction = side
    · subst same
      simp at enabled
    · simp only [directions direction same] at enabled ⊢
      exact sound.ready direction enabled
  · intro direction was
    by_cases same : direction = side
    · subst same
      simp
    · simp only [directions direction same]
      exact was

/-- Every event is consumed. -/
theorem consumeAt_spec (sound : framer.Sound) (input : FramerInput) (nextOffset : Nat) :
    ∃ outcome moves, framer.consumeAt input nextOffset = some (outcome, moves) ∧
      outcome.state.Sound ∧ framer.StaysDisabled outcome.state ∧
      outcome.state.maxHelloBytes = framer.maxHelloBytes := by
  have accepted : ∀ {outcome : TlsOutcome},
      Accepts input.direction (·.Ready framer.helloLimit) framer outcome →
      outcome.state.Sound ∧ framer.StaysDisabled outcome.state ∧
        outcome.state.maxHelloBytes = framer.maxHelloBytes :=
    fun accepts => ⟨(accepts.sound sound).1, (accepts.sound sound).2, accepts.maxHelloBytes_eq⟩
  unfold consumeAt
  simp only
  split
  · exact ⟨_, _, rfl, sound, fun _ disabled => disabled, rfl⟩
  split
  · exact ⟨_, _, rfl, sound, fun _ disabled => disabled, rfl⟩
  split
  · exact ⟨_, _, rfl, accepted (accepts_reject _ _)⟩
  split
  · exact ⟨_, _, rfl, accepted (accepts_reject _ _)⟩
  next enabled _ _ =>
    split
    · exact ⟨_, _, rfl, accepted (accepts_reject _ _)⟩
    · split
      · exact ⟨_, _, rfl, accepted (accepts_fail _)⟩
      · exact ⟨_, _, rfl, (sound_disable sound).1, (sound_disable sound).2, rfl⟩
    · split
      · exact ⟨_, _, rfl, sound, fun _ disabled => disabled, rfl⟩
      · have ready := sound.ready input.direction (by simpa using enabled)
        rw [consumeData_eq_feed input.bytes ready]
        exact ⟨_, _, rfl, accepted (feed_accepts input.bytes ready)⟩

/-- The offset makes a difference only while the direction is not disabled. -/
theorem consumeAt_offset (input : FramerInput) (first second : Nat)
    (same : framer.closed = false → (framer.directions input.direction).disabled = false →
      first = second) : framer.consumeAt input first = framer.consumeAt input second := by
  unfold consumeAt
  simp only
  split
  · rfl
  split
  · rfl
  next open_ enabled => rw [same (by simpa using open_) (by simpa using enabled)]

end TlsFraming

namespace TlsFramer

/-- The framers differ at most in the offsets of disabled directions. -/
structure Agrees (first second : TlsFramer) : Prop where
  framing : first.framing = second.framing
  nextOffset : ∀ side, (first.framing.directions side).disabled = false →
    first.nextOffset side = second.nextOffset side

theorem Agrees.refl (framer : TlsFramer) : framer.Agrees framer := ⟨rfl, fun _ _ => rfl⟩

theorem Agrees.symm {first second : TlsFramer} (agrees : first.Agrees second) :
    second.Agrees first :=
  ⟨agrees.framing.symm, fun side enabled =>
    (agrees.nextOffset side (agrees.framing ▸ enabled)).symm⟩

theorem Agrees.trans {first second third : TlsFramer} (left : first.Agrees second)
    (right : second.Agrees third) : first.Agrees third :=
  ⟨left.framing.trans right.framing, fun side enabled =>
    (left.nextOffset side enabled).trans (right.nextOffset side (left.framing ▸ enabled))⟩

/-- What a run reports and emits, and the framer that it leads to. -/
structure Run where
  errors : List TlsFramerError
  events : List TlsFramedEvent
  framer : TlsFramer

/-- The run over a sequence of events, none if one of them is not consumed. An error ends
the event, and the framer skips what it has to. -/
def run : List FramerInput → TlsFramer → Option Run
  | [], framer => some ⟨[], [], framer⟩
  | input :: rest, framer =>
      (framer.consume input).bind fun outcome =>
        (outcome.state.run rest).map fun later =>
          ⟨outcome.error.toList ++ later.errors, outcome.emitted ++ later.events, later.framer⟩

theorem run_cons {input : FramerInput} {rest : List FramerInput} {framer : TlsFramer}
    {outcome : Emission TlsFramerError TlsFramer TlsFramedEvent} {later : Run}
    (consumed : framer.consume input = some outcome) (ran : outcome.state.run rest = some later) :
    framer.run (input :: rest) =
      some ⟨outcome.error.toList ++ later.errors, outcome.emitted ++ later.events,
        later.framer⟩ := by
  simp only [run, consumed, Option.bind_some, ran, Option.map_some]

/-- Both runs exist, and they report and emit the same. -/
def SameRun (first second : Option Run) : Prop :=
  ∃ left right, first = some left ∧ second = some right ∧ left.errors = right.errors ∧
    left.events = right.events ∧ left.framer.Agrees right.framer

theorem consume_agrees {first second : TlsFramer} (sound : first.framing.Sound)
    (agrees : first.Agrees second) (input : FramerInput) :
    ∃ left right, first.consume input = some left ∧ second.consume input = some right ∧
      left.error = right.error ∧ left.emitted = right.emitted ∧ left.state.Agrees right.state ∧
      left.state.framing.Sound ∧
      left.state.framing.maxHelloBytes = first.framing.maxHelloBytes := by
  obtain ⟨outcome, moves, consumed, soundAfter, stays, limit⟩ :=
    TlsFraming.consumeAt_spec sound input (first.nextOffset input.direction)
  have consumedToo := consumed
  rw [TlsFraming.consumeAt_offset input _ (second.nextOffset input.direction)
    (fun _ enabled => agrees.nextOffset _ enabled), agrees.framing] at consumedToo
  refine ⟨outcome.mapState (first.move input moves), outcome.mapState (second.move input moves),
    by rw [consume, consumed]; rfl, by rw [consume, consumedToo]; rfl, rfl, rfl, ⟨rfl, ?_⟩,
    soundAfter, limit⟩
  intro side enabled
  have before : (first.framing.directions side).disabled = false := by
    by_contra disabled
    have after := stays side (by simpa using disabled)
    exact absurd (after.symm.trans enabled) (by simp)
  cases moves with
  | false => exact agrees.nextOffset side before
  | true =>
      by_cases same : side = input.direction
      · subst same
        simp [Emission.mapState, move]
      · simpa [Emission.mapState, move, same] using agrees.nextOffset side before

theorem run_agrees (inputs : List FramerInput) {first second : TlsFramer}
    (sound : first.framing.Sound) (agrees : first.Agrees second) :
    SameRun (first.run inputs) (second.run inputs) := by
  induction inputs generalizing first second with
  | nil => exact ⟨_, _, rfl, rfl, rfl, rfl, agrees⟩
  | cons input rest ih =>
      obtain ⟨left, right, consumed, consumedToo, errorEq, emittedEq, after, soundAfter, _⟩ :=
        consume_agrees sound agrees input
      obtain ⟨later, laterToo, ran, ranToo, errorsEq, eventsEq, final⟩ := ih soundAfter after
      refine ⟨_, _, run_cons consumed ran, run_cons consumedToo ranToo, ?_, ?_, final⟩
      · simp only [errorEq, errorsEq]
      · simp only [emittedEq, eventsEq]

theorem SameRun.symm {first second : Option Run} (same : SameRun first second) :
    SameRun second first := by
  obtain ⟨left, right, leftEq, rightEq, errors, events, framer⟩ := same
  exact ⟨right, left, rightEq, leftEq, errors.symm, events.symm, framer.symm⟩

theorem SameRun.trans {first second third : Option Run} (left : SameRun first second)
    (right : SameRun second third) : SameRun first third := by
  obtain ⟨run, middle, runEq, middleEq, errors, events, framer⟩ := left
  obtain ⟨middle', last, middleEq', lastEq, errors', events', framer'⟩ := right
  obtain rfl : middle = middle' := Option.some.inj (middleEq.symm.trans middleEq')
  exact ⟨run, last, runEq, lastEq, errors.trans errors', events.trans events', framer.trans framer'⟩

/-- A run over two sequences is the first run, then the second. -/
theorem run_append {first second : List FramerInput} {framer : TlsFramer} {earlier later : Run}
    (ran : framer.run first = some earlier) (ranOn : earlier.framer.run second = some later) :
    framer.run (first ++ second) =
      some ⟨earlier.errors ++ later.errors, earlier.events ++ later.events, later.framer⟩ := by
  induction first generalizing framer earlier with
  | nil =>
      obtain rfl := Option.some.inj ran
      exact ranOn
  | cons input rest ih =>
      unfold run at ran
      obtain ⟨outcome, consumed, rested⟩ := Option.bind_eq_some_iff.mp ran
      obtain ⟨middle, ranMiddle, rfl⟩ := Option.map_eq_some_iff.mp rested
      rw [List.cons_append, run_cons consumed (ih ranMiddle ranOn)]
      simp

end TlsFramer

/-- The event with this byte only. -/
def FramerInput.piece (input : FramerInput) (offset : Nat) (byte : UInt8) : FramerInput :=
  { input with begin := offset, end_ := offset + 1, bytes := [byte] }

/-- One event for each of these bytes. -/
def FramerInput.bytePieces (input : FramerInput) : Nat → List UInt8 → List FramerInput
  | _, [] => []
  | offset, byte :: rest => input.piece offset byte :: input.bytePieces (offset + 1) rest

/-- The event cut into single bytes. What is no well-formed data event is left whole. -/
def FramerInput.pieces (input : FramerInput) : List FramerInput :=
  if input.kind = .data ∧ input.bytes ≠ [] ∧ input.end_ = input.begin + input.bytes.length then
    input.bytePieces input.begin input.bytes
  else [input]

namespace TlsFramer

/-- The framer takes no more bytes of this direction. -/
def Skips (framer : TlsFramer) (side : PacketDirection) : Prop :=
  framer.framing.closed = true ∨ (framer.framing.directions side).disabled = true

theorem consume_skips {framer : TlsFramer} {input : FramerInput}
    (skips : framer.Skips input.direction) : framer.consume input = some (.done framer) := by
  unfold consume TlsFraming.consumeAt
  rcases skips with closed | disabled
  · rw [if_pos closed]
    rfl
  · simp only [disabled, if_true]
    split <;> rfl

/-- A direction that takes no more bytes skips them. -/
theorem run_bytePieces_skips (input : FramerInput) (bytes : List UInt8) (offset : Nat)
    {framer : TlsFramer} (skips : framer.Skips input.direction) :
    framer.run (input.bytePieces offset bytes) = some ⟨[], [], framer⟩ := by
  induction bytes generalizing offset with
  | nil => rfl
  | cons byte rest ih =>
      exact run_cons (@consume_skips framer (input.piece offset byte) skips) (ih (offset + 1))

/-- A data event that is not skipped. -/
theorem consume_data {framer : TlsFramer} {input : FramerInput} (data : input.kind = .data)
    (syn : input.origin = .syn) (sound : framer.framing.Sound)
    (open_ : framer.framing.closed = false)
    (enabled : (framer.framing.directions input.direction).disabled = false)
    (begins : input.begin = framer.nextOffset input.direction) (nonempty : input.bytes ≠ [])
    (ends : input.end_ = input.begin + input.bytes.length) :
    framer.consume input =
      some ((Emission.feed (TlsFraming.recordByte input.direction input.capturedAtNs) input.bytes
        framer.framing).mapState (framer.move input true)) := by
  have ready := sound.ready input.direction enabled
  have next : ¬ (input.begin ≠ framer.nextOffset input.direction ∨ input.end_ < input.begin) := by
    rw [not_or, not_not]
    exact ⟨begins, by omega⟩
  have formed : ¬ (input.bytes = [] ∨ input.end_ - input.begin ≠ input.bytes.length) := by
    rw [not_or, not_not]
    exact ⟨nonempty, by omega⟩
  unfold consume TlsFraming.consumeAt
  simp only [open_, enabled, syn, if_neg next, data, if_neg formed,
    TlsFraming.consumeData_eq_feed input.bytes ready]
  rfl

/-- Bytes one by one are framed like the event that has them all. -/
theorem run_bytePieces (input : FramerInput) (data : input.kind = .data) (syn : input.origin = .syn)
    (bytes : List UInt8) {framer : TlsFramer} (sound : framer.framing.Sound)
    (open_ : framer.framing.closed = false)
    (enabled : (framer.framing.directions input.direction).disabled = false) :
    let offset := framer.nextOffset input.direction
    let outcome := Emission.feed (TlsFraming.recordByte input.direction input.capturedAtNs) bytes
      framer.framing
    ∃ run, framer.run (input.bytePieces offset bytes) = some run ∧
      run.errors = outcome.error.toList ∧ run.events = outcome.emitted ∧
      run.framer.Agrees
        ⟨outcome.state, Function.update framer.nextOffset input.direction
          (offset + bytes.length)⟩ := by
  induction bytes generalizing framer with
  | nil => exact ⟨_, rfl, rfl, rfl, by simpa using .refl framer⟩
  | cons byte rest ih =>
      intro offset outcome
      have consumed := @consume_data framer (input.piece offset byte) data syn sound open_ enabled
        rfl (List.cons_ne_nil _ _) rfl
      have accepts := @TlsFraming.recordByte_accepts input.direction input.capturedAtNs
        framer.framing (sound.ready _ enabled) byte
      have soundAfter := TlsFraming.Accepts.sound sound accepts
      simp only [FramerInput.piece, Emission.feed_cons, Emission.andThen_feed_nil] at consumed
      have outcomeEq : outcome = (framer.framing.recordByte input.direction input.capturedAtNs
        byte).andThen (Emission.feed
          (TlsFraming.recordByte input.direction input.capturedAtNs) rest) := rfl
      rw [outcomeEq]
      generalize framer.framing.recordByte input.direction input.capturedAtNs byte = first at *
      cases accepts with
      | rejected failed maxHelloBytes disabled cleared others =>
          rw [Emission.andThen_of_error failed]
          refine ⟨_, run_cons consumed (run_bytePieces_skips input rest (offset + 1) (.inr disabled)),
            by simp [Emission.mapState], by simp [Emission.mapState], ⟨rfl, ?_⟩⟩
          intro side after
          by_cases same : side = input.direction
          · rw [same] at after
            exact absurd (disabled.symm.trans after) (by simp)
          · simp [Emission.mapState, move, same]
      | accepted ok keeps holds =>
          have moved : (framer.move (input.piece offset byte) true first.state).nextOffset
              input.direction = offset + 1 := by
            simp [move, FramerInput.piece]
          obtain ⟨run, ran, errors, events, agrees⟩ :=
            @ih (framer.move (input.piece offset byte) true first.state) soundAfter.1
              (keeps.closed.trans open_) (keeps.disabled.trans enabled)
          rw [moved] at ran agrees
          rw [Emission.andThen_of_none ok]
          refine ⟨_, run_cons consumed ran, ?_, ?_, agrees.trans ⟨rfl, fun side _ => ?_⟩⟩
          · simp [Emission.mapState, ok, errors, Emission.after, move]
          · simp [Emission.mapState, events, Emission.after, move]
          · by_cases same : side = input.direction
            · subst same
              simp only [Function.update_self, List.length_cons]
              omega
            · simp [move, same, FramerInput.piece]

theorem run_single {framer : TlsFramer} {input : FramerInput}
    {outcome : Emission TlsFramerError TlsFramer TlsFramedEvent}
    (consumed : framer.consume input = some outcome) :
    framer.run [input] = some ⟨outcome.error.toList, outcome.emitted, outcome.state⟩ := by
  have ran := @run_cons input [] framer outcome ⟨[], [], outcome.state⟩ consumed rfl
  rwa [List.append_nil, List.append_nil] at ran

theorem reject_skips {framing : TlsFraming} {side : PacketDirection}
    (known unknown : TlsFramerError) (nextOffset : PacketDirection → Nat) :
    Skips ⟨(framing.reject side known unknown).state, nextOffset⟩ side := by
  have accepts : TlsFraming.Accepts side (fun _ => False) framing
      (framing.reject side known unknown) := TlsFraming.accepts_reject known unknown
  cases accepts with
  | rejected failed maxHelloBytes disabled cleared others => exact .inr disabled
  | accepted ok keeps holds => exact holds.elim

/-- An event that is out of place disables its direction, whatever else it has. -/
theorem consume_misplaced {framer : TlsFramer} {input : FramerInput}
    (takes : ¬ framer.Skips input.direction)
    (misplaced : input.origin ≠ .syn ∨ input.begin ≠ framer.nextOffset input.direction) :
    ∃ outcome, outcome.state.Skips input.direction ∧
      ∀ other : FramerInput, other.direction = input.direction → other.origin = input.origin →
        other.begin = input.begin → framer.consume other = some outcome := by
  unfold Skips at takes
  rw [not_or, Bool.not_eq_true, Bool.not_eq_true] at takes
  obtain ⟨open_, enabled⟩ := takes
  by_cases syn : input.origin = .syn
  · have elsewhere := misplaced.resolve_left (not_not.mpr syn)
    refine ⟨(framer.framing.reject input.direction .unsupportedFraming .notTls).mapState
      (framer.move input false), reject_skips .unsupportedFraming .notTls framer.nextOffset, ?_⟩
    intro other directionEq originEq beginEq
    unfold consume TlsFraming.consumeAt
    simp only [directionEq, originEq, beginEq, open_, enabled, syn, ne_eq, elsewhere]
    rfl
  · refine ⟨(framer.framing.reject input.direction .unsupportedFraming .midstream).mapState
      (framer.move input false), reject_skips .unsupportedFraming .midstream framer.nextOffset, ?_⟩
    intro other directionEq originEq beginEq
    unfold consume TlsFraming.consumeAt
    simp only [directionEq, originEq, open_, enabled, ne_eq, syn]
    rfl

/-- An event cut into single bytes is consumed like the event. -/
theorem run_pieces (input : FramerInput) {framer : TlsFramer} (sound : framer.framing.Sound) :
    SameRun (framer.run [input]) (framer.run input.pieces) := by
  unfold FramerInput.pieces
  split
  · next formed =>
      obtain ⟨data, nonempty, ends⟩ := formed
      obtain ⟨byte, rest, bytesEq⟩ := List.exists_cons_of_ne_nil nonempty
      by_cases skips : framer.Skips input.direction
      · exact ⟨_, _, run_single (consume_skips skips),
          run_bytePieces_skips input input.bytes input.begin skips, rfl, rfl, .refl framer⟩
      by_cases misplaced : input.origin ≠ .syn ∨ input.begin ≠ framer.nextOffset input.direction
      · obtain ⟨outcome, skipsAfter, same⟩ := consume_misplaced skips misplaced
        have first := same (input.piece input.begin byte) rfl rfl rfl
        rw [bytesEq]
        refine ⟨_, _, run_single (same input rfl rfl rfl), run_cons first
          (run_bytePieces_skips input rest (input.begin + 1) skipsAfter), ?_, ?_, .refl _⟩
        · simp
        · simp
      · rw [not_or, not_not, not_not] at misplaced
        obtain ⟨syn, begins⟩ := misplaced
        unfold Skips at skips
        rw [not_or, Bool.not_eq_true, Bool.not_eq_true] at skips
        have consumed := consume_data data syn sound skips.1 skips.2 begins nonempty ends
        obtain ⟨run, ran, errors, events, agrees⟩ :=
          run_bytePieces input data syn input.bytes sound skips.1 skips.2
        rw [begins]
        refine ⟨_, _, run_single consumed, ran, errors.symm, events.symm, .symm ?_⟩
        refine agrees.trans ⟨rfl, fun side _ => ?_⟩
        simp [Emission.mapState, move, ends, begins]
  · obtain ⟨left, right, consumed, _⟩ := consume_agrees sound (.refl framer) input
    exact ⟨_, _, run_single consumed, run_single consumed, rfl, rfl, .refl _⟩

/-- Cutting every event into single bytes changes nothing. -/
theorem run_flatMap_pieces (inputs : List FramerInput) {framer : TlsFramer}
    (sound : framer.framing.Sound) :
    SameRun (framer.run inputs) (framer.run (inputs.flatMap FramerInput.pieces)) := by
  induction inputs generalizing framer with
  | nil => exact ⟨_, _, rfl, rfl, rfl, rfl, .refl framer⟩
  | cons input rest ih =>
      obtain ⟨outcome, same, consumed, _, _, _, _, soundAfter, _⟩ :=
        consume_agrees sound (.refl framer) input
      obtain ⟨whole, cut, wholeEq, cutEq, errors, events, agrees⟩ := run_pieces input sound
      obtain rfl := Option.some.inj ((run_single consumed).symm.trans wholeEq)
      obtain ⟨later, laterCut, ran, ranCut, errorsLater, eventsLater, agreesLater⟩ :=
        SameRun.trans (ih soundAfter) (run_agrees (rest.flatMap FramerInput.pieces) soundAfter agrees)
      refine ⟨_, _, run_cons consumed ran, run_append cutEq ranCut, ?_, ?_, agreesLater⟩
      · rw [← errors, errorsLater]
      · rw [← events, eventsLater]

/-- A framer before its first event. -/
def start (maxHelloBytes : Nat) : TlsFramer := { framing := { maxHelloBytes := maxHelloBytes } }

theorem start_sound (maxHelloBytes : Nat) : (start maxHelloBytes).framing.Sound := by
  constructor
  · exact fun _ => Nat.zero_le _
  · intro side _
    have fresh := @TlsDirection.resetRecord_ready {} (start maxHelloBytes).framing.helloLimit
      (@TlsDirection.resetMessage_ready {} _)
    exact fresh

theorem run_sound {inputs : List FramerInput} {framer : TlsFramer} {run : Run}
    (sound : framer.framing.Sound) (ran : framer.run inputs = some run) :
    run.framer.framing.Sound ∧
      run.framer.framing.maxHelloBytes = framer.framing.maxHelloBytes := by
  induction inputs generalizing framer run with
  | nil =>
      obtain rfl := Option.some.inj ran
      exact ⟨sound, rfl⟩
  | cons input rest ih =>
      obtain ⟨outcome, _, consumed, _, _, _, _, soundAfter, limit⟩ :=
        consume_agrees sound (.refl framer) input
      unfold TlsFramer.run at ran
      rw [consumed, Option.bind_some] at ran
      obtain ⟨later, ranLater, rfl⟩ := Option.map_eq_some_iff.mp ran
      obtain ⟨soundLater, limitLater⟩ := @ih _ later soundAfter ranLater
      exact ⟨soundLater, limitLater.trans limit⟩

end TlsFramer

/-- Events that carry the same bytes at the same capture times, cut in any way, lead to
the same framed events and the same errors. At every moment what is kept of a hello, with
what its message still lacks, is within the limit. -/
theorem tls_framing_ignores_cuts (maxHelloBytes : Nat) :
    (∀ inputs cut : List FramerInput,
      inputs.flatMap FramerInput.pieces = cut.flatMap FramerInput.pieces →
      ∃ run runCut, (TlsFramer.start maxHelloBytes).run inputs = some run ∧
        (TlsFramer.start maxHelloBytes).run cut = some runCut ∧
        run.events = runCut.events ∧ run.errors = runCut.errors) ∧
    ∀ inputs run, (TlsFramer.start maxHelloBytes).run inputs = some run → ∀ side,
      (run.framer.framing.directions side).helloBytes.length ≤ maxHelloBytes ∧
        ((run.framer.framing.directions side).disabled = false →
          (run.framer.framing.directions side).isHello = true →
          (run.framer.framing.directions side).helloBytes.length +
            (run.framer.framing.directions side).handshakeRemaining ≤ maxHelloBytes) := by
  have sound := TlsFramer.start_sound maxHelloBytes
  constructor
  · intro inputs cut same
    have left := TlsFramer.run_flatMap_pieces inputs sound
    have right := TlsFramer.run_flatMap_pieces cut sound
    rw [same] at left
    obtain ⟨run, runCut, ran, ranCut, errors, events, _⟩ := left.trans right.symm
    exact ⟨run, runCut, ran, ranCut, events, errors⟩
  · intro inputs run ran side
    obtain ⟨soundAfter, limitEq⟩ := TlsFramer.run_sound sound ran
    have limit : run.framer.framing.helloLimit ≤ maxHelloBytes := by
      unfold TlsFraming.helloLimit
      rw [limitEq]
      exact Nat.sub_le _ _
    constructor
    · exact Nat.le_trans (soundAfter.retained side) limit
    · intro enabled hello
      exact Nat.le_trans ((soundAfter.ready side enabled).message.hello hello) limit

/-- The start of a ClientHello record, as one event or as two. -/
theorem tls_framing_ignores_cuts_header :
    let whole : FramerInput :=
      { direction := .aToB, origin := .syn, kind := .data, begin := 0, end_ := 6
        bytes := [22, 3, 1, 0, 50, 1], capturedAtNs := some 7 }
    let cut : List FramerInput :=
      [{ whole with end_ := 2, bytes := [22, 3] },
        { whole with begin := 2, bytes := [1, 0, 50, 1] }]
    ∃ run runCut, (TlsFramer.start 4096).run [whole] = some run ∧
      (TlsFramer.start 4096).run cut = some runCut ∧
      run.events = runCut.events ∧ run.errors = runCut.errors :=
  (tls_framing_ignores_cuts 4096).1 _ _ rfl

end Flowsql.Npm
