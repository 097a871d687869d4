import Flowsql.Npm.TlsFramer

/-!
# TLS framing does not depend on segmentation

`recordByte` frames one byte. The loops of the framer do the same with the bytes of an
event as `recordByte` does with one after the other, so it makes no difference where a
stream is cut.
-/

namespace Flowsql.Npm

open Flowsql.Library

/-! ## Parts of a direction -/

@[simp] theorem laterTime_laterTime (captured : Int) (latest : Option Int) :
    laterTime captured (laterTime captured latest) = laterTime captured latest := by
  unfold laterTime
  cases latest with
  | none => simp
  | some latest => by_cases later : captured > latest <;> simp [later]

namespace TlsDirection

variable {direction : TlsDirection} {captured : Option Int}

theorem takeRecordHeader_cons (byte : UInt8) (rest : List UInt8) :
    direction.takeRecordHeader captured (byte :: rest) =
      (direction.takeRecordHeader captured [byte]).takeRecordHeader captured rest := by
  cases captured <;> simp [takeRecordHeader, markRecord]

theorem takeRecordBody_cons (byte : UInt8) (rest : List UInt8) :
    direction.takeRecordBody captured (byte :: rest) =
      (direction.takeRecordBody captured [byte]).takeRecordBody captured rest := by
  have kept : direction.controlBytes ++ (byte :: rest).take (2 - direction.controlBytes.length) =
      direction.controlBytes ++ [byte].take (2 - direction.controlBytes.length) ++
        rest.take (2 - (direction.controlBytes ++
          [byte].take (2 - direction.controlBytes.length)).length) := by
    cases count : 2 - direction.controlBytes.length with
    | zero => simp [count]
    | succ room =>
        have roomAfter : 2 - (direction.controlBytes.length + 1) = room := by omega
        simp [roomAfter]
  have left : direction.recordRemaining - (rest.length + 1) =
      direction.recordRemaining - 1 - rest.length := by omega
  cases captured with
  | none => simp [takeRecordBody, markRecord, kept, left]
  | some captured => simp [takeRecordBody, markRecord, kept, left]

theorem takeHandshakeHeader_cons (byte : UInt8) (rest : List UInt8) :
    direction.takeHandshakeHeader captured (byte :: rest) =
      (direction.takeHandshakeHeader captured [byte]).takeHandshakeHeader captured rest := by
  have left : direction.recordRemaining - (rest.length + 1) =
      direction.recordRemaining - 1 - rest.length := by omega
  by_cases first : direction.handshakeHeader = []
  · cases captured <;> simp [takeHandshakeHeader, markMessage, first, left]
  · cases captured <;> simp [takeHandshakeHeader, markMessage, first, left]

theorem takeMessageBody_cons (byte : UInt8) (rest : List UInt8) :
    direction.takeMessageBody captured (byte :: rest) =
      (direction.takeMessageBody captured [byte]).takeMessageBody captured rest := by
  have left : direction.recordRemaining - (rest.length + 1) =
      direction.recordRemaining - 1 - rest.length := by omega
  have lacks : direction.handshakeRemaining - (rest.length + 1) =
      direction.handshakeRemaining - 1 - rest.length := by omega
  by_cases hello : direction.isHello = true
  · cases captured <;> simp_all [takeMessageBody, markMessage, isHello]
  · cases captured <;> simp_all [takeMessageBody, markMessage, isHello]

/-- What the bytes of a handshake record leave as it is. -/
structure SameRecord (before after : TlsDirection) (count : Nat) : Prop where
  recordHeader : after.recordHeader = before.recordHeader
  recordRemaining : after.recordRemaining = before.recordRemaining - count
  recordType : after.recordType = before.recordType
  disabled : after.disabled = before.disabled

theorem takeHandshakeHeader_record (bytes : List UInt8) :
    direction.SameRecord (direction.takeHandshakeHeader captured bytes) bytes.length := by
  unfold takeHandshakeHeader
  split <;> cases captured <;> exact ⟨rfl, rfl, rfl, rfl⟩

theorem takeHandshakeHeader_message (bytes : List UInt8) :
    let after := direction.takeHandshakeHeader captured bytes
    after.handshakeHeader = direction.handshakeHeader ++ bytes ∧
      after.handshakeRemaining = direction.handshakeRemaining ∧
      after.helloBytes = direction.helloBytes ∧ after.messageType = direction.messageType := by
  unfold takeHandshakeHeader
  split <;> cases captured <;> exact ⟨rfl, rfl, rfl, rfl⟩

theorem takeMessageBody_record (bytes : List UInt8) :
    direction.SameRecord (direction.takeMessageBody captured bytes) bytes.length := by
  unfold takeMessageBody
  cases captured <;> exact ⟨rfl, rfl, rfl, rfl⟩

theorem takeMessageBody_message (bytes : List UInt8) :
    let after := direction.takeMessageBody captured bytes
    after.handshakeHeader = direction.handshakeHeader ∧
      after.handshakeRemaining = direction.handshakeRemaining - bytes.length ∧
      after.helloBytes =
        (if direction.isHello then direction.helloBytes ++ bytes else direction.helloBytes) ∧
      after.messageType = direction.messageType := by
  unfold takeMessageBody
  cases captured <;> exact ⟨rfl, rfl, rfl, rfl⟩

/-- The next byte belongs to a record header or to a record. -/
def RecordFramed (direction : TlsDirection) : Prop :=
  direction.inRecordHeader = true ∨ 0 < direction.recordRemaining

/-- The next handshake byte belongs to a handshake header or to a message. -/
def MessageFramed (direction : TlsDirection) : Prop :=
  direction.inHandshakeHeader = true ∨ 0 < direction.handshakeRemaining

/-- The message is framed, and what is kept of a hello, with what it lacks, is within the
limit. -/
structure MessageReady (limit : Nat) (direction : TlsDirection) : Prop where
  framed : direction.MessageFramed
  header : direction.inHandshakeHeader = true → direction.helloBytes = []
  hello : direction.isHello = true →
    direction.helloBytes.length + direction.handshakeRemaining ≤ limit
  other : direction.isHello = false → direction.helloBytes = []

theorem inRecordHeader_iff : direction.inRecordHeader = true ↔
    direction.recordHeader.length < tlsRecordHeaderBytes ∧ direction.recordRemaining = 0 := by
  simp [inRecordHeader]

theorem inHandshakeHeader_iff : direction.inHandshakeHeader = true ↔
    direction.handshakeHeader.length < tlsHandshakeHeaderBytes ∧
      direction.handshakeRemaining = 0 := by
  simp [inHandshakeHeader]

theorem resetMessage_ready (limit : Nat) : direction.resetMessage.MessageReady limit := by
  constructor
  · exact .inl (inHandshakeHeader_iff.mpr ⟨Nat.zero_lt_succ _, rfl⟩)
  · exact fun _ => rfl
  · exact fun _ => Nat.zero_le _
  · exact fun _ => rfl

/-- The direction is ready for its next byte. -/
structure Ready (limit : Nat) (direction : TlsDirection) : Prop where
  record : direction.RecordFramed
  message : direction.MessageReady limit

/-- Fields of the record do not matter for the message. -/
theorem MessageReady.of_same {limit : Nat} {before after : TlsDirection}
    (ready : before.MessageReady limit) (header : after.handshakeHeader = before.handshakeHeader)
    (remaining : after.handshakeRemaining = before.handshakeRemaining)
    (hello : after.helloBytes = before.helloBytes) (type : after.messageType = before.messageType) :
    after.MessageReady limit := by
  have headerSame : after.inHandshakeHeader = before.inHandshakeHeader := by
    unfold inHandshakeHeader
    rw [header, remaining]
  have helloSame : after.isHello = before.isHello := by
    unfold isHello
    rw [type]
  constructor
  · unfold MessageFramed
    rw [headerSame, remaining]
    exact ready.framed
  · rw [headerSame, hello]
    exact ready.header
  · rw [helloSame, hello, remaining]
    exact ready.hello
  · rw [helloSame, hello]
    exact ready.other

theorem resetRecord_ready {limit : Nat} (ready : direction.MessageReady limit) :
    direction.resetRecord.Ready limit :=
  ⟨.inl (inRecordHeader_iff.mpr ⟨Nat.zero_lt_succ _, rfl⟩), ready.of_same rfl rfl rfl rfl⟩

theorem takeRecordHeader_message {limit : Nat} (ready : direction.MessageReady limit)
    (bytes : List UInt8) : (direction.takeRecordHeader captured bytes).MessageReady limit := by
  cases captured <;> exact ready.of_same rfl rfl rfl rfl

theorem takeRecordBody_message {limit : Nat} (ready : direction.MessageReady limit)
    (bytes : List UInt8) : (direction.takeRecordBody captured bytes).MessageReady limit := by
  cases captured <;> exact ready.of_same rfl rfl rfl rfl

@[simp] theorem takeRecordHeader_recordHeader (bytes : List UInt8) :
    (direction.takeRecordHeader captured bytes).recordHeader = direction.recordHeader ++ bytes := by
  cases captured <;> rfl

@[simp] theorem takeRecordHeader_recordRemaining (bytes : List UInt8) :
    (direction.takeRecordHeader captured bytes).recordRemaining = direction.recordRemaining := by
  cases captured <;> rfl

@[simp] theorem takeRecordHeader_disabled (bytes : List UInt8) :
    (direction.takeRecordHeader captured bytes).disabled = direction.disabled := by
  cases captured <;> rfl

@[simp] theorem takeRecordBody_recordRemaining (bytes : List UInt8) :
    (direction.takeRecordBody captured bytes).recordRemaining =
      direction.recordRemaining - bytes.length := by
  cases captured <;> rfl

@[simp] theorem takeRecordBody_recordType (bytes : List UInt8) :
    (direction.takeRecordBody captured bytes).recordType = direction.recordType := by
  cases captured <;> rfl

@[simp] theorem takeRecordBody_disabled (bytes : List UInt8) :
    (direction.takeRecordBody captured bytes).disabled = direction.disabled := by
  cases captured <;> rfl

end TlsDirection

namespace TlsFraming

variable {side : PacketDirection} {captured : Option Int} {framer : TlsFraming}

/-- One byte of a handshake record. -/
def handshakeByte (side : PacketDirection) (captured : Option Int) (framer : TlsFraming)
    (byte : UInt8) : TlsOutcome :=
  if (framer.directions side).inHandshakeHeader then
    framer.takeHandshakeHeader side captured [byte]
  else framer.takeMessageBody side captured [byte]

/-- One byte of a stream. -/
def recordByte (side : PacketDirection) (captured : Option Int) (framer : TlsFraming)
    (byte : UInt8) : TlsOutcome :=
  let direction := framer.directions side
  if direction.inRecordHeader then framer.takeRecordHeader side captured [byte]
  else if direction.recordType ≠ tlsHandshakeRecord then
    (framer.setDirection side (direction.takeRecordBody captured [byte])).closeRecord side
  else (framer.handshakeByte side captured byte).andThen (closeRecord side)

/-! ## What the parts of a round do -/

theorem finishMessage_cases : (∃ error, framer.finishMessage side = framer.fail error) ∨
    ∃ events, framer.finishMessage side =
      ⟨none, framer.setDirection side (framer.directions side).resetMessage, events⟩ := by
  unfold finishMessage
  simp only
  split
  · split
    · exact .inl ⟨_, rfl⟩
    · exact .inl ⟨_, rfl⟩
    · exact .inr ⟨_, rfl⟩
  · exact .inr ⟨_, rfl⟩

theorem finishRecord_cases : ∃ events, framer.finishRecord side =
    ⟨none, framer.setDirection side (framer.directions side).resetRecord, events⟩ := by
  unfold finishRecord
  simp only
  split <;> exact ⟨_, rfl⟩

theorem becomeCandidate_same (firstByteAtNs : Option Int) :
    (framer.becomeCandidate side firstByteAtNs).closed = framer.closed ∧
      (framer.becomeCandidate side firstByteAtNs).directions = framer.directions ∧
      (framer.becomeCandidate side firstByteAtNs).maxHelloBytes = framer.maxHelloBytes := by
  unfold becomeCandidate
  split <;> exact ⟨rfl, rfl, rfl⟩

/-- What an accepted byte does not change. -/
structure Keeps (side : PacketDirection) (before after : TlsFraming) : Prop where
  closed : after.closed = before.closed
  maxHelloBytes : after.maxHelloBytes = before.maxHelloBytes
  others : ∀ direction, direction ≠ side →
    after.directions direction = before.directions direction
  disabled : (after.directions side).disabled = (before.directions side).disabled

theorem Keeps.trans {first second third : TlsFraming} (left : Keeps side first second)
    (right : Keeps side second third) : Keeps side first third :=
  ⟨right.closed.trans left.closed, right.maxHelloBytes.trans left.maxHelloBytes,
    fun direction other => (right.others direction other).trans (left.others direction other),
    right.disabled.trans left.disabled⟩

theorem keeps_setDirection {value : TlsDirection}
    (disabled : value.disabled = (framer.directions side).disabled) :
    Keeps side framer (framer.setDirection side value) :=
  ⟨rfl, rfl, fun direction other => by simp [setDirection, other], by simpa using disabled⟩

/-- A byte is rejected, which disables its direction, or accepted. -/
inductive Accepts (side : PacketDirection) (accepted : TlsDirection → Prop) (before : TlsFraming)
    (outcome : TlsOutcome) : Prop where
  | rejected (failed : outcome.error ≠ none)
      (maxHelloBytes : outcome.state.maxHelloBytes = before.maxHelloBytes)
      (disabled : (outcome.state.directions side).disabled = true)
      (cleared : (outcome.state.directions side).helloBytes = [])
      (others : ∀ direction, direction ≠ side →
        outcome.state.directions direction = before.directions direction ∨
          (outcome.state.directions direction).disabled = true ∧
            (outcome.state.directions direction).helloBytes = [])
  | accepted (ok : outcome.error = none) (keeps : Keeps side before outcome.state)
      (holds : accepted (outcome.state.directions side))

variable {accepted next : TlsDirection → Prop}

theorem accepts_fail (error : TlsFramerError) :
    Accepts side accepted framer (framer.fail error) :=
  .rejected nofun rfl rfl rfl fun _ _ => .inr ⟨rfl, rfl⟩

theorem accepts_noCandidate (error : TlsFramerError) :
    Accepts side accepted framer (framer.noCandidate side error) := by
  refine .rejected nofun rfl ?_ ?_ fun direction other => .inl ?_
  · simp [noCandidate, Emission.fail, setDirection]
  · simp [noCandidate, Emission.fail, setDirection]
  · simp [noCandidate, Emission.fail, setDirection, other]

theorem accepts_reject (known unknown : TlsFramerError) :
    Accepts side accepted framer (framer.reject side known unknown) := by
  unfold reject
  split
  · exact accepts_fail known
  · exact accepts_noCandidate unknown

theorem accepts_done {value : TlsDirection}
    (disabled : value.disabled = (framer.directions side).disabled) (holds : accepted value) :
    Accepts side accepted framer (.done (framer.setDirection side value)) :=
  .accepted rfl (keeps_setDirection disabled) (by simpa using holds)

theorem Accepts.of_keeps {before middle : TlsFraming} {outcome : TlsOutcome}
    (keeps : Keeps side before middle) (accepts : Accepts side accepted middle outcome) :
    Accepts side accepted before outcome := by
  cases accepts with
  | accepted ok later holds => exact .accepted ok (keeps.trans later) holds
  | rejected failed maxHelloBytes disabled cleared others =>
      refine .rejected failed (maxHelloBytes.trans keeps.maxHelloBytes) disabled cleared ?_
      intro direction other
      rw [← keeps.others direction other]
      exact others direction other

theorem Accepts.mono {before : TlsFraming} {outcome : TlsOutcome}
    (accepts : Accepts side accepted before outcome)
    (weaken : ∀ direction, accepted direction → next direction) :
    Accepts side next before outcome := by
  cases accepts with
  | accepted ok keeps holds => exact .accepted ok keeps (weaken _ holds)
  | rejected failed maxHelloBytes disabled cleared others =>
      exact .rejected failed maxHelloBytes disabled cleared others

theorem Accepts.andThen {before : TlsFraming} {first : TlsOutcome}
    {second : TlsFraming → TlsOutcome} (accepts : Accepts side accepted before first)
    (continues : ∀ middle, accepted (middle.directions side) →
      Accepts side next middle (second middle)) :
    Accepts side next before (first.andThen second) := by
  cases accepts with
  | rejected failed maxHelloBytes disabled cleared others =>
      rw [Emission.andThen_of_error failed]
      exact .rejected failed maxHelloBytes disabled cleared others
  | accepted ok keeps holds =>
      rw [Emission.andThen_of_none ok]
      cases (continues first.state holds).of_keeps keeps with
      | rejected failed maxHelloBytes disabled cleared others =>
          exact .rejected failed maxHelloBytes disabled cleared others
      | accepted ok keeps holds => exact .accepted ok keeps holds

/-! ## What the parts of a round do -/

theorem finishMessage_accepts :
    Accepts side (· = (framer.directions side).resetMessage) framer (framer.finishMessage side) := by
  rcases finishMessage_cases with ⟨error, failed⟩ | ⟨events, finished⟩
  · rw [failed]
    exact accepts_fail error
  · rw [finished]
    exact .accepted rfl (keeps_setDirection rfl) (by simp)

theorem closeRecord_accepts :
    Accepts side
      (· = if (framer.directions side).recordRemaining = 0 then
        (framer.directions side).resetRecord else framer.directions side)
      framer (framer.closeRecord side) := by
  unfold closeRecord
  split
  · obtain ⟨events, finished⟩ := @finishRecord_cases side framer
    rw [finished]
    exact .accepted rfl (keeps_setDirection rfl) (by simp)
  · exact .accepted rfl ⟨rfl, rfl, fun _ _ => rfl, rfl⟩ rfl

theorem startRecord_accepts :
    Accepts side
      (fun after => ∃ type length, 0 < length ∧
        after = { framer.directions side with
          recordType := type, recordLength := length, recordRemaining := length })
      framer (framer.startRecord side) := by
  unfold startRecord
  simp only
  split
  · exact accepts_reject _ _
  split
  · exact accepts_noCandidate _
  split
  · exact accepts_reject _ _
  · refine accepts_done rfl ⟨_, _, ?_, rfl⟩
    simp only [not_or] at *
    omega

/-- The limit on the body of a hello. -/
def helloLimit (framer : TlsFraming) : Nat := framer.maxHelloBytes - min framer.maxHelloBytes 4

theorem startMessage_accepts :
    let started := (framer.directions side).startMessage
    Accepts side
      (fun after => ¬ (started.isHello = true ∧ started.handshakeRemaining > framer.helloLimit) ∧
        (after = { started with firstMessageSeen := true }.resetMessage ∨
          0 < started.handshakeRemaining ∧ after = { started with firstMessageSeen := true }))
      framer (framer.startMessage side) := by
  intro started
  have same := @becomeCandidate_same side (framer.setDirection side started) started.messageFirstAtNs
  have keeps : Keeps side framer
      ((becomeCandidate side started.messageFirstAtNs
        (framer.setDirection side started)).setDirection side
          { started with firstMessageSeen := true }) := by
    refine ⟨same.1, same.2.2, fun direction other => ?_, by simp; rfl⟩
    simp only [setDirection] at same ⊢
    rw [same.2.1, Function.update_idem, Function.update_of_ne other]
  unfold startMessage
  simp only
  split
  · exact (accepts_noCandidate _).of_keeps (@keeps_setDirection side framer started rfl)
  split
  · exact (accepts_fail _).of_keeps keeps
  next small =>
    rw [setDirection_maxHelloBytes, same.2.2] at small
    split
    · next empty =>
        refine ((finishMessage_accepts.of_keeps keeps).mono fun after reset => ⟨small, .inl ?_⟩)
        rw [reset, setDirection_directions]
    · next more =>
        exact .accepted rfl keeps
          ⟨small, .inr ⟨Nat.pos_of_ne_zero more, setDirection_directions _ _ _⟩⟩

/-- One byte of a handshake record: the record loses the byte. -/
theorem handshakeByte_accepts
    (ready : (framer.directions side).MessageReady framer.helloLimit) (byte : UInt8) :
    Accepts side
      (fun after => (framer.directions side).SameRecord after 1 ∧
        after.MessageReady framer.helloLimit)
      framer (framer.handshakeByte side captured byte) := by
  generalize directionEq : framer.directions side = direction at ready
  unfold handshakeByte
  rw [directionEq]
  split
  · next inHeader =>
      have record := @TlsDirection.takeHandshakeHeader_record direction captured [byte]
      obtain ⟨headerEq, remainingEq, helloEq, typeEq⟩ :=
        @TlsDirection.takeHandshakeHeader_message direction captured [byte]
      have noHello := helloEq.trans (ready.header inHeader)
      unfold takeHandshakeHeader
      rw [directionEq]
      generalize direction.takeHandshakeHeader captured [byte] = taken at *
      simp only
      split
      · next short =>
          refine accepts_done (record.disabled.trans (by rw [directionEq])) ⟨record, ?_, ?_, ?_, ?_⟩
          · exact .inl (TlsDirection.inHandshakeHeader_iff.mpr
              ⟨short, remainingEq.trans (TlsDirection.inHandshakeHeader_iff.mp inHeader).2⟩)
          · exact fun _ => noHello
          · intro _
            rw [noHello, remainingEq, (TlsDirection.inHandshakeHeader_iff.mp inHeader).2]
            exact Nat.zero_le _
          · exact fun _ => noHello
      · refine (startMessage_accepts.of_keeps (keeps_setDirection
          (record.disabled.trans (by rw [directionEq])))).mono ?_
        rintro after ⟨small, started⟩
        rw [setDirection_directions] at small started
        rcases started with rfl | ⟨more, rfl⟩
        · exact ⟨⟨record.recordHeader, record.recordRemaining, record.recordType, record.disabled⟩,
            TlsDirection.resetMessage_ready _⟩
        · refine ⟨⟨record.recordHeader, record.recordRemaining, record.recordType,
            record.disabled⟩, .inr more, fun _ => noHello, ?_, fun _ => noHello⟩
          intro hello
          have bounded : ¬ taken.startMessage.handshakeRemaining > framer.helloLimit :=
            fun large => small ⟨hello, large⟩
          simp only [TlsDirection.startMessage, noHello, List.length_nil] at bounded ⊢
          omega
  · next inBody =>
      have lacks : 0 < direction.handshakeRemaining := ready.framed.resolve_left inBody
      have record := @TlsDirection.takeMessageBody_record direction captured [byte]
      obtain ⟨headerEq, remainingEq, helloEq, typeEq⟩ :=
        @TlsDirection.takeMessageBody_message direction captured [byte]
      unfold takeMessageBody
      rw [directionEq]
      generalize direction.takeMessageBody captured [byte] = taken at *
      have helloSame : taken.isHello = direction.isHello := by
        unfold TlsDirection.isHello
        rw [typeEq]
      simp only
      split
      · refine (finishMessage_accepts.of_keeps (keeps_setDirection
          (record.disabled.trans (by rw [directionEq])))).mono ?_
        rintro after rfl
        rw [setDirection_directions]
        exact ⟨⟨record.recordHeader, record.recordRemaining, record.recordType, record.disabled⟩,
          TlsDirection.resetMessage_ready _⟩
      · next more =>
          refine accepts_done (record.disabled.trans (by rw [directionEq])) ⟨record, ?_, ?_, ?_, ?_⟩
          · exact .inr (Nat.pos_of_ne_zero more)
          · exact fun inHeader => absurd (TlsDirection.inHandshakeHeader_iff.mp inHeader).2 more
          · intro hello
            have bound := ready.hello (helloSame.symm.trans hello)
            rw [helloEq, if_pos (helloSame.symm.trans hello), remainingEq]
            simp only [List.length_append, List.length_singleton]
            omega
          · intro other
            rw [helloEq, if_neg (by simp [← helloSame, other])]
            exact ready.other (helloSame.symm.trans other)

/-- After a byte of a record, which may be its last. -/
theorem closeRecord_ready {limit : Nat} (ready : (framer.directions side).MessageReady limit) :
    Accepts side (·.Ready limit) framer (framer.closeRecord side) := by
  refine closeRecord_accepts.mono ?_
  rintro after rfl
  split
  · exact TlsDirection.resetRecord_ready ready
  · next more => exact ⟨.inr (Nat.pos_of_ne_zero more), ready⟩

/-- One byte of a stream. -/
theorem recordByte_accepts (ready : (framer.directions side).Ready framer.helloLimit)
    (byte : UInt8) :
    Accepts side (·.Ready framer.helloLimit) framer (framer.recordByte side captured byte) := by
  have message := ready.message
  unfold recordByte
  simp only
  split
  · next inHeader =>
      have header := TlsDirection.inRecordHeader_iff.mp inHeader
      have taken := @TlsDirection.takeRecordHeader_message (framer.directions side) captured _
        message [byte]
      unfold takeRecordHeader
      simp only
      split
      · next short =>
          exact accepts_done (by simp)
            ⟨.inl (TlsDirection.inRecordHeader_iff.mpr ⟨short, by simp [header.2]⟩), taken⟩
      · refine (startRecord_accepts.of_keeps (keeps_setDirection (by simp))).mono ?_
        rintro after ⟨type, length, positive, rfl⟩
        rw [setDirection_directions]
        exact ⟨.inr positive, taken.of_same rfl rfl rfl rfl⟩
  · split
    · refine (closeRecord_ready ?_).of_keeps (keeps_setDirection (by simp))
      rw [setDirection_directions]
      exact TlsDirection.takeRecordBody_message message [byte]
    · exact (handshakeByte_accepts message byte).andThen fun middle taken =>
        closeRecord_ready taken.2

/-! ## The loops -/

/-- The header of a record, all at once. -/
theorem feed_recordHeader (bytes : List UInt8) (nonempty : bytes ≠ [])
    (inHeader : (framer.directions side).inRecordHeader = true)
    (fits : bytes.length ≤ tlsRecordHeaderBytes - (framer.directions side).recordHeader.length) :
    Emission.feed (recordByte side captured) bytes framer =
      framer.takeRecordHeader side captured bytes := by
  refine @Emission.feed_eq_of_split _ _ _ _ (recordByte side captured)
    (fun bytes framer => framer.takeRecordHeader side captured bytes)
    (fun framer =>
      if (framer.directions side).inRecordHeader then
        tlsRecordHeaderBytes - (framer.directions side).recordHeader.length
      else 0)
    ?_ ?_ bytes framer nonempty (by rw [if_pos inHeader]; exact fits)
  · intro byte framer room
    split at room
    · next inHeader => simp only [recordByte, inHeader, if_true]
    · exact absurd room (Nat.lt_irrefl 0)
  · intro byte rest framer more room
    split at room
    · next inHeader =>
        have some_ := List.length_pos_iff.mpr more
        have header := TlsDirection.inRecordHeader_iff.mp inHeader
        have short : ((framer.directions side).takeRecordHeader captured [byte]).recordHeader.length <
            tlsRecordHeaderBytes := by
          simp only [TlsDirection.takeRecordHeader_recordHeader, List.length_append,
            List.length_singleton]
          omega
        have first : framer.takeRecordHeader side captured [byte] =
            .done (framer.setDirection side
              ((framer.directions side).takeRecordHeader captured [byte])) := if_pos short
        rw [first]
        constructor
        · simp only [Emission.done_andThen, takeRecordHeader, setDirection_directions,
            setDirection_setDirection]
          rw [TlsDirection.takeRecordHeader_cons]
        · intro _
          have inHeaderAfter : ((framer.directions side).takeRecordHeader captured
              [byte]).inRecordHeader = true :=
            TlsDirection.inRecordHeader_iff.mpr ⟨short, by simp [header.2]⟩
          simp only [Emission.done_state, setDirection_directions, inHeaderAfter, if_true, inHeader,
            TlsDirection.takeRecordHeader_recordHeader, List.length_append, List.length_singleton]
          omega
    · exact absurd room (Nat.not_lt_zero _)

theorem take_ne_nil {taken : Nat} {byte : UInt8} {rest : List UInt8} (positive : 0 < taken) :
    (byte :: rest).take taken ≠ [] := by
  cases taken with
  | zero => exact absurd positive (Nat.lt_irrefl 0)
  | succ taken => simp

theorem not_inRecordHeader {direction : TlsDirection} (more : 0 < direction.recordRemaining) :
    direction.inRecordHeader = false := by
  by_contra inHeader
  have header := TlsDirection.inRecordHeader_iff.mp (by simpa using inHeader)
  omega

theorem not_inHandshakeHeader {direction : TlsDirection} (more : 0 < direction.handshakeRemaining) :
    direction.inHandshakeHeader = false := by
  by_contra inHeader
  have header := TlsDirection.inHandshakeHeader_iff.mp (by simpa using inHeader)
  omega

/-- A part of a record that is no handshake, all at once. -/
theorem feed_recordBody (bytes : List UInt8) (nonempty : bytes ≠ [])
    (other : (framer.directions side).recordType ≠ tlsHandshakeRecord)
    (fits : bytes.length ≤ (framer.directions side).recordRemaining) :
    Emission.feed (recordByte side captured) bytes framer =
      (framer.setDirection side
        ((framer.directions side).takeRecordBody captured bytes)).closeRecord side := by
  refine @Emission.feed_eq_of_split _ _ _ _ (recordByte side captured)
    (fun bytes framer => (framer.setDirection side
      ((framer.directions side).takeRecordBody captured bytes)).closeRecord side)
    (fun framer =>
      if (framer.directions side).recordType ≠ tlsHandshakeRecord then
        (framer.directions side).recordRemaining
      else 0)
    ?_ ?_ bytes framer nonempty (by rw [if_pos other]; exact fits)
  · intro byte framer room
    split at room
    · next other =>
        simp only [recordByte, not_inRecordHeader room, if_pos other]
        rfl
    · exact absurd room (Nat.lt_irrefl 0)
  · intro byte rest framer more room
    split at room
    · next other =>
        have some_ := List.length_pos_iff.mpr more
        have first : (framer.setDirection side
            ((framer.directions side).takeRecordBody captured [byte])).closeRecord side =
            .done (framer.setDirection side
              ((framer.directions side).takeRecordBody captured [byte])) := by
          unfold closeRecord
          rw [if_neg]
          simp only [setDirection_directions, TlsDirection.takeRecordBody_recordRemaining,
            List.length_singleton]
          omega
        rw [first]
        constructor
        · simp only [Emission.done_andThen, setDirection_directions, setDirection_setDirection]
          rw [TlsDirection.takeRecordBody_cons]
        · intro _
          simp [other]
    · exact absurd room (Nat.not_lt_zero _)

/-- The header of a handshake message, all at once. -/
theorem feed_handshakeHeader (bytes : List UInt8) (nonempty : bytes ≠ [])
    (inHeader : (framer.directions side).inHandshakeHeader = true)
    (fits : bytes.length ≤
      tlsHandshakeHeaderBytes - (framer.directions side).handshakeHeader.length) :
    Emission.feed (handshakeByte side captured) bytes framer =
      framer.takeHandshakeHeader side captured bytes := by
  refine @Emission.feed_eq_of_split _ _ _ _ (handshakeByte side captured)
    (fun bytes framer => framer.takeHandshakeHeader side captured bytes)
    (fun framer =>
      if (framer.directions side).inHandshakeHeader then
        tlsHandshakeHeaderBytes - (framer.directions side).handshakeHeader.length
      else 0)
    ?_ ?_ bytes framer nonempty (by rw [if_pos inHeader]; exact fits)
  · intro byte framer room
    split at room
    · next inHeader => simp only [handshakeByte, inHeader, if_true]
    · exact absurd room (Nat.lt_irrefl 0)
  · intro byte rest framer more room
    split at room
    · next inHeader =>
        have some_ := List.length_pos_iff.mpr more
        have header := TlsDirection.inHandshakeHeader_iff.mp inHeader
        obtain ⟨headerEq, remainingEq, _, _⟩ :=
          @TlsDirection.takeHandshakeHeader_message (framer.directions side) captured [byte]
        have short : ((framer.directions side).takeHandshakeHeader captured
            [byte]).handshakeHeader.length < tlsHandshakeHeaderBytes := by
          simp only [headerEq, List.length_append, List.length_singleton]
          omega
        have first : framer.takeHandshakeHeader side captured [byte] =
            .done (framer.setDirection side
              ((framer.directions side).takeHandshakeHeader captured [byte])) := if_pos short
        rw [first]
        constructor
        · simp only [Emission.done_andThen, takeHandshakeHeader, setDirection_directions,
            setDirection_setDirection]
          rw [TlsDirection.takeHandshakeHeader_cons]
        · intro _
          have inHeaderAfter : ((framer.directions side).takeHandshakeHeader captured
              [byte]).inHandshakeHeader = true :=
            TlsDirection.inHandshakeHeader_iff.mpr ⟨short, remainingEq.trans header.2⟩
          simp only [Emission.done_state, setDirection_directions, inHeaderAfter, if_true, inHeader,
            headerEq, List.length_append, List.length_singleton]
          omega
    · exact absurd room (Nat.not_lt_zero _)

/-- A part of a handshake message, all at once. -/
theorem feed_messageBody (bytes : List UInt8) (nonempty : bytes ≠ [])
    (fits : bytes.length ≤ (framer.directions side).handshakeRemaining) :
    Emission.feed (handshakeByte side captured) bytes framer =
      framer.takeMessageBody side captured bytes := by
  refine @Emission.feed_eq_of_split _ _ _ _ (handshakeByte side captured)
    (fun bytes framer => framer.takeMessageBody side captured bytes)
    (fun framer => (framer.directions side).handshakeRemaining)
    ?_ ?_ bytes framer nonempty fits
  · intro byte framer room
    simp only [handshakeByte, not_inHandshakeHeader room]
    rfl
  · intro byte rest framer more room
    have some_ := List.length_pos_iff.mpr more
    obtain ⟨_, remainingEq, _, _⟩ :=
      @TlsDirection.takeMessageBody_message (framer.directions side) captured [byte]
    rw [List.length_singleton] at remainingEq
    have first : framer.takeMessageBody side captured [byte] =
        .done (framer.setDirection side
          ((framer.directions side).takeMessageBody captured [byte])) := by
      refine if_neg ?_
      omega
    rw [first]
    constructor
    · simp only [Emission.done_andThen, takeMessageBody, setDirection_directions,
        setDirection_setDirection]
      rw [TlsDirection.takeMessageBody_cons]
    · intro _
      simp [remainingEq]

/-- The inner loop ends, and frames the bytes one after the other. -/
theorem drain_handshakeRound (bytes : List UInt8) (fuel : Nat) (enough : bytes.length ≤ fuel)
    (ready : (framer.directions side).MessageReady framer.helloLimit) :
    Emission.drain (handshakeRound side captured) fuel bytes framer =
      some (Emission.feed (handshakeByte side captured) bytes framer) := by
  refine @Emission.drain_eq_feed _ _ _ _ (handshakeRound side captured) (handshakeByte side captured)
    (fun framer => (framer.directions side).MessageReady framer.helloLimit) ?_ ?_ fuel bytes framer
    enough ready
  · intro byte rest framer ready
    unfold handshakeRound
    simp only
    split
    · next inHeader =>
        have short := (TlsDirection.inHandshakeHeader_iff.mp inHeader).1
        have positive : 0 < min (tlsHandshakeHeaderBytes -
            (framer.directions side).handshakeHeader.length) (byte :: rest).length := by
          simp only [List.length_cons]
          omega
        refine ⟨_, positive, congrArg (fun outcome => some (_, outcome))
          (feed_handshakeHeader _ (take_ne_nil positive) inHeader ?_).symm⟩
        simp only [List.length_take]
        omega
    · next inBody =>
        have lacks := ready.framed.resolve_left inBody
        have positive : 0 < min (framer.directions side).handshakeRemaining
            (byte :: rest).length := by
          simp only [List.length_cons]
          omega
        refine ⟨_, positive, congrArg (fun outcome => some (_, outcome))
          (feed_messageBody _ (take_ne_nil positive) ?_).symm⟩
        simp only [List.length_take]
        omega
  · intro framer byte ready ok
    cases @handshakeByte_accepts side captured framer ready byte with
    | rejected failed => exact absurd ok failed
    | accepted _ keeps holds =>
        unfold helloLimit at holds ⊢
        rw [keeps.maxHelloBytes]
        exact holds.2

/-- A part of a handshake record, all at once. -/
theorem feed_handshakeRecord (bytes : List UInt8) (nonempty : bytes ≠ [])
    (ready : (framer.directions side).MessageReady framer.helloLimit)
    (handshake : (framer.directions side).recordType = tlsHandshakeRecord)
    (fits : bytes.length ≤ (framer.directions side).recordRemaining) :
    Emission.feed (recordByte side captured) bytes framer =
      (Emission.feed (handshakeByte side captured) bytes framer).andThen (closeRecord side) := by
  induction bytes generalizing framer with
  | nil => exact absurd rfl nonempty
  | cons byte rest ih =>
      rw [List.length_cons] at fits
      have first : framer.recordByte side captured byte =
          (framer.handshakeByte side captured byte).andThen (closeRecord side) := by
        simp only [recordByte, not_inRecordHeader (Nat.lt_of_lt_of_le (Nat.succ_pos _) fits),
          handshake]
        rfl
      rw [Emission.feed_cons, Emission.feed_cons, first]
      cases rest with
      | nil => rw [Emission.andThen_feed_nil, Emission.andThen_feed_nil]
      | cons next rest =>
          rw [Emission.andThen_assoc, Emission.andThen_assoc]
          cases @handshakeByte_accepts side captured framer ready byte with
          | rejected failed =>
              rw [Emission.andThen_of_error failed, Emission.andThen_of_error failed]
          | accepted ok keeps holds =>
              obtain ⟨record, readyAfter⟩ := holds
              have left := record.recordRemaining
              rw [List.length_cons] at fits
              have open_ : (framer.handshakeByte side captured byte).state.closeRecord side =
                  .done (framer.handshakeByte side captured byte).state :=
                if_neg (by omega)
              rw [Emission.andThen_of_none ok, Emission.andThen_of_none ok, open_,
                Emission.done_andThen]
              congr 1
              refine ih (by simp) ?_ (record.recordType.trans handshake) ?_
              · unfold helloLimit at readyAfter ⊢
                rw [keeps.maxHelloBytes]
                exact readyAfter
              · simp only [List.length_cons]
                omega

/-- `ConsumeData` ends, and frames the bytes one after the other. -/
theorem consumeData_eq_feed (bytes : List UInt8)
    (ready : (framer.directions side).Ready framer.helloLimit) :
    framer.consumeData side captured bytes =
      some (Emission.feed (recordByte side captured) bytes framer) := by
  refine @Emission.drain_eq_feed _ _ _ _ (recordRound side captured) (recordByte side captured)
    (fun framer => (framer.directions side).Ready framer.helloLimit) ?_ ?_ bytes.length bytes framer
    (Nat.le_refl _) ready
  · intro byte rest framer ready
    unfold recordRound
    simp only
    split
    · next inHeader =>
        have short := (TlsDirection.inRecordHeader_iff.mp inHeader).1
        have positive : 0 < min (tlsRecordHeaderBytes -
            (framer.directions side).recordHeader.length) (byte :: rest).length := by
          simp only [List.length_cons]
          omega
        refine ⟨_, positive, congrArg (fun outcome => some (_, outcome))
          (feed_recordHeader _ (take_ne_nil positive) inHeader ?_).symm⟩
        simp only [List.length_take]
        omega
    · next inBody =>
        have lacks := ready.record.resolve_left inBody
        have positive : 0 < min (framer.directions side).recordRemaining (byte :: rest).length := by
          simp only [List.length_cons]
          omega
        have fits : ((byte :: rest).take (min (framer.directions side).recordRemaining
            (byte :: rest).length)).length ≤ (framer.directions side).recordRemaining := by
          simp only [List.length_take]
          omega
        split
        · next other =>
            exact ⟨_, positive, congrArg (fun outcome => some (_, outcome))
              (feed_recordBody _ (take_ne_nil positive) other fits).symm⟩
        · next handshake =>
            refine ⟨_, positive, ?_⟩
            rw [drain_handshakeRound _ _ (by simp) ready.message,
              feed_handshakeRecord _ (take_ne_nil positive) ready.message (not_not.mp handshake) fits]
            rfl
  · intro framer byte ready ok
    cases @recordByte_accepts side captured framer ready byte with
    | rejected failed => exact absurd ok failed
    | accepted _ keeps holds =>
        unfold helloLimit at holds ⊢
        rw [keeps.maxHelloBytes]
        exact holds

end TlsFraming

end Flowsql.Npm
