import Flowsql.Library.Dialogue

/-!
# Blocks read from Kafka

A structured and a packet reader poll messages into a block, commit offsets when the block is
acknowledged, and stop for good when a block is released without that. A block operator is executed
over either of them. What they ask of their environment: the consumer session, the decoders, the
operator with its filter, and the flags of the control.
-/

namespace Flowsql.Kafka

open Flowsql.Library

def EIO : Int := 5

def EAGAIN : Int := 11

def EFAULT : Int := 14

def EBUSY : Int := 16

def EINVAL : Int := 22

def EPROTO : Int := 71

def EILSEQ : Int := 84

def ESTALE : Int := 116

def ECANCELED : Int := 125

def INT64_MAX : Int := 2 ^ 63 - 1

structure KafkaMessageV1 where
  topic : String
  partition : Int
  offset : Int
  key : List UInt8 := []
  value : List UInt8 := []
  deriving DecidableEq

structure KafkaOffsetV1 where
  partition : Int
  nextOffset : Int
  deriving DecidableEq

/-- A record batch that a reader has made, in which order, and of which messages. -/
structure Block where
  id : Nat
  messages : List KafkaMessageV1
  rows : Nat
  deriving DecidableEq

/-- `PacketEnvelope`, as far as the reader checks it: the sequences of the packets, and the sources
and sequences of the facts. -/
structure PacketEnvelope where
  streamEpoch : List UInt8
  captureGeneration : Nat
  pollSequence : Nat
  packets : List Nat
  progress : List (Nat × Nat)
  deriving DecidableEq

/-! ## The environment -/

inductive ReaderQuery where
  /-- A read of `cancelled_`. -/
  | cancelled
  | pollMessage (timeoutMs : Int)
  | commitOffsets (offsets : List KafkaOffsetV1)
  | decodeStructured (messages : List KafkaMessageV1)
  | decodePacket (message : KafkaMessageV1)
  | encodePacketFamily (envelope : PacketEnvelope)
  /-- The flags of the control. -/
  | cancelRequested
  | stopRequested
  | openFilter
  | schemaMatches
  | onSchemaReady
  | filter (block : Block)
  | processBlock (block : Block)
  | flush
  /-- No calls, but what has passed between the executor and the reader. -/
  | delivered (block : Block)
  | acknowledged (block : Block) (rc : Int)
  | released (block : Block) (rc : Int)
  deriving DecidableEq

/-- An exception is an error without a code. The filter answers with the rows that are left. -/
abbrev ReaderAnswer : ReaderQuery → Type
  | .cancelled | .cancelRequested | .stopRequested | .openFilter | .schemaMatches
  | .decodeStructured _ | .encodePacketFamily _ => Bool
  | .pollMessage _ => Except Int KafkaMessageV1
  | .commitOffsets _ => Int
  | .decodePacket _ => Option PacketEnvelope
  | .onSchemaReady | .processBlock _ | .flush => Except Unit Int
  | .filter _ => Except Unit (Option Nat)
  | .delivered _ | .acknowledged _ _ | .released _ _ => Unit

abbrev Reading := Program ReaderQuery ReaderAnswer

def inquire (query : ReaderQuery) : Reading (ReaderAnswer query) := Program.call query

/-- `BlockPollEvent`. A reader of Kafka never ends. -/
inductive PollEvent where
  | data (block : Block)
  | timeout
  | cancelled
  | error (rc : Int)
  deriving DecidableEq

/-! ## The structured reader -/

structure StructuredReader where
  maxBatchRows : Nat
  /-- `commit_policy` is not `none`. -/
  commits : Bool
  opened : Bool := true
  /-- `terminal_`, with the error. -/
  terminal : Option Int := none
  acknowledged : Bool := false
  outstanding : Option Nat := none
  offsets : List KafkaOffsetV1 := []
  blocks : Nat := 0

/-- The offset after the greatest one of each partition, by partition. -/
def raiseNext : List KafkaOffsetV1 → Int → Int → List KafkaOffsetV1
  | [], partition, offset => [⟨partition, max 0 offset⟩]
  | first :: rest, partition, offset =>
      if first.partition = partition then ⟨partition, max first.nextOffset offset⟩ :: rest
      else if partition < first.partition then ⟨partition, max 0 offset⟩ :: first :: rest
      else first :: raiseNext rest partition offset

inductive Collected where
  | done (messages : List KafkaMessageV1) (next : List KafkaOffsetV1)
  | cancelled
  | failed (rc : Int)

/-- What `PollBlock` has taken so far. -/
structure Gathering where
  messages : List KafkaMessageV1 := []
  next : List KafkaOffsetV1 := []
  bytes : Nat := 0

/-- One message is taken, or the loop of `PollBlock` ends. -/
def takeMessage (timeoutMs : Int) (taken : Gathering) : Reading (Gathering ⊕ Collected) := do
  match ← inquire (.pollMessage (if taken.messages = [] then timeoutMs else 0)) with
  | .error rc =>
      pure (.inr (if rc = EAGAIN then .done taken.messages taken.next
        else if rc = ECANCELED then .cancelled else .failed rc))
  | .ok message =>
      if message.offset < 0 ∨ message.offset = INT64_MAX ∨ message.partition < 0 then
        pure (.inr (.failed EPROTO))
      else
        pure (.inl {
          messages := taken.messages ++ [message]
          next := raiseNext taken.next message.partition (message.offset + 1)
          bytes := taken.bytes + message.value.length + message.key.length })

/-- The loop of `PollBlock`, for one message and as many others as there is room. -/
def collect (timeoutMs : Int) : Nat → Gathering → Reading Collected
  | 0, taken => do
      match ← takeMessage timeoutMs taken with
      | .inr ended => pure ended
      | .inl taken => pure (.done taken.messages taken.next)
  | room + 1, taken => do
      match ← takeMessage timeoutMs taken with
      | .inr ended => pure ended
      | .inl taken =>
          if taken.bytes < 16777216 then collect timeoutMs room taken
          else pure (.done taken.messages taken.next)

namespace StructuredReader

variable (reader : StructuredReader)

def error (rc : Int) : PollEvent × StructuredReader :=
  (.error rc, { reader with terminal := some rc })

def pollBlock (timeoutMs : Int) : Reading (PollEvent × StructuredReader) := do
  let cancelled ← inquire .cancelled
  if cancelled then
    pure (.cancelled, reader)
  else
    match reader.terminal with
    | some rc => pure (.error rc, reader)
    | none =>
        if !reader.opened ∨ timeoutMs < 0 ∨ 30000 < timeoutMs then
          pure (reader.error EINVAL)
        else if reader.outstanding.isSome then
          pure (.error EBUSY, reader)
        else
          match ← collect timeoutMs (reader.maxBatchRows - 1) {} with
          | .cancelled => pure (.cancelled, reader)
          | .failed rc => pure (reader.error rc)
          | .done messages next =>
              if messages = [] then
                pure (.timeout, reader)
              else
                let decoded ← inquire (.decodeStructured messages)
                if decoded then
                  pure (.data { id := reader.blocks, messages := messages, rows := messages.length },
                    { reader with
                      outstanding := some reader.blocks
                      offsets := next
                      acknowledged := false
                      blocks := reader.blocks + 1 })
                else
                  pure (reader.error EILSEQ)

def acknowledgeBlock (block : Block) : Reading (Int × StructuredReader) := do
  let cancelled ← inquire .cancelled
  if cancelled then
    pure (ECANCELED, reader)
  else if reader.outstanding ≠ some block.id ∨ reader.acknowledged then
    pure (EINVAL, reader)
  else
    let rc ← if reader.commits then inquire (.commitOffsets reader.offsets) else pure 0
    if rc ≠ 0 then
      pure (rc, (reader.error rc).2)
    else
      pure (0, { reader with acknowledged := true })

def releaseBlock (block : Block) : Int × StructuredReader :=
  if reader.outstanding ≠ some block.id then
    (EINVAL, reader)
  else
    (0, { reader with
      terminal := if reader.acknowledged then reader.terminal else some ECANCELED
      outstanding := none
      offsets := [] })

end StructuredReader

/-! ## The packet reader -/

structure PacketReader where
  topic : String
  maxWaitMs : Int
  commits : Bool
  opened : Bool := true
  terminal : Option Int := none
  bound : Bool := false
  acknowledged : Bool := false
  epoch : List UInt8 := []
  remoteGeneration : Nat := 0
  pollSequence : Nat := 0
  packetSequence : Nat := 0
  factSequences : Nat → Nat := fun _ => 0
  currentOffset : Int := -1
  outstanding : Option Nat := none
  blocks : Nat := 0

/-- The sequences of the packets increase, from the last one of the poll before. -/
def packetOrder : Nat → List Nat → Option Nat
  | last, [] => some last
  | last, sequence :: rest => if sequence ≤ last then none else packetOrder sequence rest

namespace PacketReader

variable (reader : PacketReader)

def error (rc : Int) : PollEvent × PacketReader :=
  (.error rc, { reader with terminal := some rc })

/-- The message is not one that this reader expects next. -/
def misplaced (message : KafkaMessageV1) : Bool :=
  message.topic ≠ reader.topic || message.partition ≠ 0 || message.offset < 0 ||
    message.offset = INT64_MAX || (reader.bound && message.offset ≤ reader.currentOffset)

/-- The envelope does not continue the stream. -/
def strange (envelope : PacketEnvelope) : Bool :=
  reader.bound && (envelope.streamEpoch ≠ reader.epoch ||
    envelope.captureGeneration ≠ reader.remoteGeneration ||
    reader.pollSequence = 2 ^ 64 - 1 || envelope.pollSequence ≠ reader.pollSequence + 1)

/-- The envelope of a message has passed all checks. -/
def accept (message : KafkaMessageV1) (envelope : PacketEnvelope) (sequence : Nat) :
    PollEvent × PacketReader :=
  (.data { id := reader.blocks, messages := [message], rows := envelope.packets.length },
    { reader with
      epoch := envelope.streamEpoch
      remoteGeneration := envelope.captureGeneration
      pollSequence := envelope.pollSequence
      packetSequence := sequence
      bound := true
      currentOffset := message.offset
      factSequences := envelope.progress.foldl
        (fun sequences fact source => if source = fact.1 then fact.2 else sequences source)
        reader.factSequences
      outstanding := some reader.blocks
      acknowledged := false
      blocks := reader.blocks + 1 })

def decode (message : KafkaMessageV1) : Reading (PollEvent × PacketReader) := do
  match ← inquire (.decodePacket message) with
  | none => pure (reader.error EILSEQ)
  | some envelope =>
      if reader.strange envelope then
        pure (reader.error ESTALE)
      else
        match packetOrder reader.packetSequence envelope.packets with
        | none => pure (reader.error EPROTO)
        | some sequence =>
            if envelope.progress.any fun fact => fact.2 ≤ reader.factSequences fact.1 then
              pure (reader.error EPROTO)
            else
              let encoded ← inquire (.encodePacketFamily envelope)
              if encoded then pure (reader.accept message envelope sequence)
              else pure (reader.error EILSEQ)

def pollCapture (timeoutMs : Int) : Reading (PollEvent × PacketReader) := do
  let cancelled ← inquire .cancelled
  if cancelled then
    pure (.cancelled, reader)
  else
    match reader.terminal with
    | some rc => pure (.error rc, reader)
    | none =>
        if !reader.opened ∨ timeoutMs < 0 ∨ 30000 < timeoutMs then
          pure (reader.error EINVAL)
        else if reader.outstanding.isSome then
          pure (.error EBUSY, reader)
        else
          match ← inquire (.pollMessage (min timeoutMs reader.maxWaitMs)) with
          | .error rc =>
              pure (if rc = EAGAIN then (.timeout, reader)
                else if rc = ECANCELED then (.cancelled, reader) else reader.error rc)
          | .ok message =>
              if reader.misplaced message then pure (reader.error EPROTO)
              else reader.decode message

def acknowledgeBlock (block : Block) : Reading (Int × PacketReader) := do
  let cancelled ← inquire .cancelled
  if cancelled then
    pure (ECANCELED, reader)
  else
    match reader.terminal with
    | some rc => pure (rc, reader)
    | none =>
        if reader.outstanding ≠ some block.id ∨ reader.acknowledged then
          pure (EINVAL, reader)
        else
          let rc ← if reader.commits then inquire (.commitOffsets [⟨0, reader.currentOffset + 1⟩])
            else pure 0
          if rc ≠ 0 then
            pure (rc, (reader.error rc).2)
          else
            pure (0, { reader with acknowledged := true })

def releaseBlock (block : Block) : Int × PacketReader :=
  if reader.outstanding ≠ some block.id then
    (EINVAL, reader)
  else
    (0, { reader with
      terminal := if !reader.acknowledged && reader.terminal.isNone then some ECANCELED
        else reader.terminal
      outstanding := none })

end PacketReader

/-! ## The execution of a block operator -/

/-- What an execution uses of a reader. -/
structure BlockReader (σ : Type) where
  pollBlock : σ → Int → Reading (PollEvent × σ)
  acknowledgeBlock : σ → Block → Reading (Int × σ)
  releaseBlock : σ → Block → Int × σ

def structuredReader : BlockReader StructuredReader :=
  ⟨StructuredReader.pollBlock, StructuredReader.acknowledgeBlock, StructuredReader.releaseBlock⟩

def packetReader : BlockReader PacketReader :=
  ⟨PacketReader.pollCapture, PacketReader.acknowledgeBlock, PacketReader.releaseBlock⟩

inductive BlockExecutionTerminal where
  | failed
  | cancelled
  | stopped
  | completed
  deriving DecidableEq

/-- `ExecuteBlockOperator` returns: its code, the terminal, and the reader afterwards. -/
structure Executed (σ : Type) where
  rc : Int
  terminal : BlockExecutionTerminal := .failed
  rows : Nat := 0
  reader : σ

structure ExecutorConfig where
  hasControl : Bool := true
  hasResidual : Bool := false

namespace ExecutorConfig

variable (config : ExecutorConfig)

def cancelRequested : Reading Bool :=
  if config.hasControl then inquire .cancelRequested else pure false

def stopRequested : Reading Bool :=
  if config.hasControl then inquire .stopRequested else pure false

def openFilter : Reading Bool := if config.hasResidual then inquire .openFilter else pure true

end ExecutorConfig

/-- Between two blocks. -/
structure Executing (σ : Type) where
  reader : σ
  rows : Nat := 0
  schemaReady : Bool := false

/-- The outcome of the `try` around the operator. -/
structure Attempted where
  rc : Int
  schemaReady : Bool := true
  schemaFailed : Bool := false
  rows : Nat

/-- The schema of the first block. -/
def readySchema (schemaReady : Bool) (rows : Nat) : Reading Attempted :=
  if schemaReady then
    pure { rc := 0, rows := rows }
  else do
    let matching ← inquire .schemaMatches
    if matching then
      match ← inquire .onSchemaReady with
      | .error () => pure { rc := EFAULT, schemaReady := false, schemaFailed := true, rows := rows }
      | .ok rc => pure { rc := rc, schemaReady := rc = 0, schemaFailed := rc ≠ 0, rows := rows }
    else
      pure { rc := EINVAL, schemaReady := false, schemaFailed := true, rows := rows }

/-- The residual filter of the source, and the operator when there is something left. -/
def attemptBlock (config : ExecutorConfig) (schemaReady : Bool) (block : Block) :
    Reading Attempted := do
  let ready ← readySchema schemaReady block.rows
  if ready.rc ≠ 0 then
    pure ready
  else if config.hasResidual then
    match ← inquire (.filter block) with
    | .error () => pure { ready with rc := EFAULT }
    | .ok none => pure { ready with rc := EINVAL }
    | .ok (some rows) =>
        if 0 < rows then
          match ← inquire (.processBlock block) with
          | .error () => pure { ready with rc := EFAULT, rows := rows }
          | .ok rc => pure { ready with rc := rc, rows := rows }
        else
          pure { ready with rows := rows }
  else
    match ← inquire (.processBlock block) with
    | .error () => pure { ready with rc := EFAULT }
    | .ok rc => pure { ready with rc := rc }

/-- What a round of the loop leads to. -/
inductive RoundEnd (σ : Type) where
  /-- A return. -/
  | return_ (executed : Executed σ)
  /-- The end of the loop. -/
  | leave (executing : Executing σ)

variable {σ : Type}

/-- The block is released; `failed` says whether its acknowledgement has failed. -/
def finishBlock (ops : BlockReader σ) (executing : Executing σ) (block : Block)
    (attempted : Attempted) (rc : Int) (failed : Bool) (reader : σ) :
    Reading (Executing σ ⊕ RoundEnd σ) := do
  let (releaseRc, reader) := ops.releaseBlock reader block
  inquire (.released block releaseRc)
  let next : Executing σ := {
    reader := reader
    rows := executing.rows + attempted.rows
    schemaReady := attempted.schemaReady }
  if releaseRc ≠ 0 then
    pure (.inr (.return_ { rc := releaseRc, reader := reader }))
  else if attempted.schemaFailed ∨ failed then
    pure (.inr (.return_ { rc := rc, reader := reader }))
  else if rc = 1 then
    pure (.inr (.leave next))
  else if rc ≠ 0 then
    pure (.inr (.return_ { rc := rc, reader := reader }))
  else
    pure (.inl next)

/-- The block is acknowledged when it has been processed, and released. -/
def settleBlock (ops : BlockReader σ) (executing : Executing σ) (block : Block)
    (attempted : Attempted) (reader : σ) : Reading (Executing σ ⊕ RoundEnd σ) :=
  if !attempted.schemaFailed ∧ (attempted.rc = 0 ∨ attempted.rc = 1) then do
    let (ackRc, reader) ← ops.acknowledgeBlock reader block
    inquire (.acknowledged block ackRc)
    if ackRc ≠ 0 then finishBlock ops executing block attempted ackRc true reader
    else finishBlock ops executing block attempted attempted.rc false reader
  else
    finishBlock ops executing block attempted attempted.rc false reader

/-- What one poll leads to. -/
def servePoll (ops : BlockReader σ) (config : ExecutorConfig) (executing : Executing σ) :
    Reading (Executing σ ⊕ RoundEnd σ) := do
  let (event, reader) ← ops.pollBlock executing.reader 100
  match event with
  | .data block => do
      inquire (.delivered block)
      let attempted ← attemptBlock config executing.schemaReady block
      settleBlock ops executing block attempted reader
  | .timeout => pure (.inl { executing with reader := reader })
  | .cancelled =>
      pure (.inr (.return_ {
        rc := ECANCELED, terminal := .cancelled, rows := executing.rows, reader := reader }))
  | .error rc => pure (.inr (.return_ { rc := if rc ≠ 0 then rc else EIO, reader := reader }))

/-- One round of the loop. -/
def executeRound (ops : BlockReader σ) (config : ExecutorConfig) (executing : Executing σ) :
    Reading (Executing σ ⊕ RoundEnd σ) := do
  let cancel ← config.cancelRequested
  if cancel then
    pure (.inr (.return_ {
      rc := ECANCELED, terminal := .cancelled, rows := executing.rows, reader := executing.reader }))
  else
    let stop ← config.stopRequested
    if stop then pure (.inr (.leave executing)) else servePoll ops config executing

/-- `ExecuteBlockOperator`, for as many rounds as there is fuel. -/
def executeBlockOperator (ops : BlockReader σ) (config : ExecutorConfig) (reader : σ) (fuel : Nat) :
    Reading (Option (Executed σ)) := do
  let opened ← config.openFilter
  if !opened then
    pure (some { rc := EINVAL, reader := reader })
  else
    match ← Program.loop (executeRound ops config) fuel { reader := reader } with
    | none => pure none
    | some (.return_ executed) => pure (some executed)
    | some (.leave executing) =>
        match ← inquire .flush with
        | .error () => pure (some { rc := EFAULT, reader := executing.reader })
        | .ok rc =>
            if rc ≠ 0 then pure (some { rc := rc, reader := executing.reader })
            else pure (some { rc := 0, terminal := .stopped, rows := executing.rows
                              reader := executing.reader })

/-- Executions over the same reader, one after the other. -/
def executeAll (ops : BlockReader σ) (fuel : Nat) : List ExecutorConfig → σ → Reading (Option σ)
  | [], reader => pure (some reader)
  | config :: rest, reader => do
      match ← executeBlockOperator ops config reader fuel with
      | none => pure none
      | some executed => executeAll ops fuel rest executed.reader

end Flowsql.Kafka
