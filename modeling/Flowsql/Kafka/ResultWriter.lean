import Flowsql.Library.Dialogue

/-!
# Rows written to Kafka

The producer session hands messages to the client library and counts their delivery reports until a
deadline. The result writer encodes the rows of a batch into windows of limited size, hands each to
the producer and accounts for every row. What they ask of their environment: whether they are
cancelled, the clock, and the client library.
-/

namespace Flowsql.Kafka

open Flowsql.Library

structure KafkaProduceMessageV1 where
  key : List UInt8
  value : List UInt8
  deriving DecidableEq

def KafkaProduceMessageV1.size (message : KafkaProduceMessageV1) : Nat :=
  message.key.length + message.value.length

structure KafkaDeliveryV1 where
  confirmed : Nat := 0
  notSent : Nat := 0
  unknown : Nat := 0
  deriving DecidableEq

/-- The limits of the configuration; its check leaves no empty queue. -/
structure SinkConfig where
  maxMessageBytes : Nat := 1048576
  queueMaxMessages : Nat := 1024
  queueMaxBytes : Nat := 8388608
  deliveryTimeoutMs : Nat := 10000
  queueMaxMessages_pos : 0 < queueMaxMessages := by decide

inductive Errno where
  | ecanceled
  | einval
  | emsgsize
  | etimedout
  | eio
  | eacces
  | other (code : Int)
  deriving DecidableEq

/-- The answers of `rd_kafka_producev`. -/
inductive SendResult where
  | accepted
  | queueFull
  | failed
  deriving DecidableEq

/-- A call of `Delivered`: the message by its place among all messages that were accepted, the receipt
it is tagged with, its error, and whether the deadline of the receipt is over. -/
structure DeliveryReport where
  message : Nat
  receipt : Nat
  failed : Bool := false
  late : Bool := false
  deriving DecidableEq

/-! ## The environment -/

inductive Request where
  /-- A read of `cancelled_`. -/
  | cancelled
  /-- `Clock::now() >= deadline`. -/
  | expired
  /-- The milliseconds until the deadline. -/
  | remaining
  /-- An error of the authentication. -/
  | denied
  | checkPacketTopology (remaining : Int)
  | producev (receipt : Nat) (message : KafkaProduceMessageV1)
  | poll
  /-- `rd_kafka_purge`, and a last poll. -/
  | purge

abbrev Answer : Request → Type
  | .cancelled | .expired | .denied => Bool
  | .remaining => Int
  | .checkPacketTopology _ => Option Errno
  | .producev _ _ => SendResult
  | .poll | .purge => List DeliveryReport

abbrev Sending := Program Request Answer

def ask (request : Request) : Sending (Answer request) := Program.call request

/-- `cancelled_ || Clock::now() >= deadline`, and the error then. -/
def interrupted : Sending (Option Errno) := do
  let cancelled ← ask .cancelled
  let ended ← if cancelled then pure true else ask .expired
  if ended then
    let cancelled ← ask .cancelled
    pure (some (if cancelled then .ecanceled else .etimedout))
  else
    pure none

/-! ## The producer session -/

/-- `Receipt`, with the number of the call that it belongs to. -/
structure Receipt where
  number : Nat
  completed : Nat := 0
  confirmed : Nat := 0
  error : Bool := false

/-- `Delivered`. The receipts of the calls before are closed. -/
def Receipt.delivered (receipt : Receipt) (report : DeliveryReport) : Receipt :=
  if report.receipt ≠ receipt.number then receipt
  else if !report.failed && !report.late then
    { receipt with completed := receipt.completed + 1, confirmed := receipt.confirmed + 1 }
  else
    { receipt with completed := receipt.completed + 1, error := true }

/-- `Client`, as a producer session. -/
structure Client where
  sink : Bool := true
  packet : Bool := false
  limits : SinkConfig := {}
  producerFailed : Bool := false
  /-- How many receipts have been made. -/
  receipts : Nat := 0

/-- One round of the loop that hands a message over. -/
def attempt (message : KafkaProduceMessageV1) (receipt : Receipt) :
    Sending (Receipt ⊕ Receipt × Option Errno) := do
  match ← interrupted with
  | some rc => pure (.inr (receipt, some rc))
  | none =>
      let denied ← ask .denied
      if denied then
        pure (.inr (receipt, some .eacces))
      else
        match ← ask (.producev receipt.number message) with
        | .accepted => pure (.inr (receipt, none))
        | .failed => pure (.inr (receipt, some .eio))
        | .queueFull =>
            let reports ← ask .poll
            pure (.inl (reports.foldl Receipt.delivered receipt))

/-- The messages one after the other, with the number of those that were accepted. -/
def sendAll (fuel : Nat) : List KafkaProduceMessageV1 → Nat → Receipt →
    Sending (Option (Receipt × Nat × Option Errno))
  | [], accepted, receipt => pure (some (receipt, accepted, none))
  | message :: rest, accepted, receipt => do
      match ← Program.loop (attempt message) fuel receipt with
      | none => pure none
      | some (receipt, some rc) => pure (some (receipt, accepted, some rc))
      | some (receipt, none) => sendAll fuel rest (accepted + 1) receipt

/-- One round of the loop that waits for the delivery reports. -/
def await (accepted : Nat) (receipt : Receipt) : Sending (Receipt ⊕ Receipt × Option Errno) :=
  if receipt.error then
    pure (.inr (receipt, some .eio))
  else if receipt.completed = accepted then
    pure (.inr (receipt, none))
  else do
    match ← interrupted with
    | some rc => pure (.inr (receipt, some rc))
    | none =>
        let reports ← ask .poll
        pure (.inl (reports.foldl Receipt.delivered receipt))

/-- What `Produce` returns: its code, the counts, and the client afterwards. -/
abbrev Produced := Option Errno × KafkaDeliveryV1 × Client

namespace Client

variable (client : Client)

/-- The checks of the sizes. -/
def fits (limits : SinkConfig) : Nat → List KafkaProduceMessageV1 → Bool
  | _, [] => true
  | bytes, message :: rest =>
      !(message.key.length > 4096 || message.size > limits.maxMessageBytes ||
        bytes + message.size > limits.queueMaxBytes) && fits limits (bytes + message.size) rest

/-- The end of `Produce`, once the receipt is closed. -/
def settle (count : Nat) (receipt : Receipt) (accepted : Nat) (rc : Option Errno) :
    Sending Produced := do
  let delivery : KafkaDeliveryV1 := {
    confirmed := receipt.confirmed
    notSent := count - accepted
    unknown := accepted - receipt.confirmed }
  let rc := if receipt.error ∧ rc = none then some .eio else rc
  let client := { client with receipts := client.receipts + 1 }
  if rc.isSome then
    let _ ← ask .purge
    pure (rc, delivery, { client with producerFailed := true })
  else
    pure (rc, delivery, client)

/-- `Produce` behind its checks. -/
def deliver (messages : List KafkaProduceMessageV1) (fuel : Nat) : Sending (Option Produced) := do
  match ← sendAll fuel messages 0 { number := client.receipts } with
  | none => pure none
  | some (receipt, accepted, some rc) =>
      let produced ← client.settle messages.length receipt accepted (some rc)
      pure (some produced)
  | some (receipt, accepted, none) =>
      match ← Program.loop (await accepted) fuel receipt with
      | none => pure none
      | some (receipt, rc) =>
          let produced ← client.settle messages.length receipt accepted rc
          pure (some produced)

/-- The check of the topology, for packets only. -/
def topology : Sending (Option Errno) :=
  if client.packet then do
    let remaining ← ask .remaining
    if 0 < remaining then ask (.checkPacketTopology remaining) else pure (some .etimedout)
  else
    pure none

/-- `Produce`, whose loops go on for as many rounds as there is fuel. -/
def produce (messages : List KafkaProduceMessageV1) (timeoutMs : Int) (fuel : Nat) :
    Sending (Option Produced) := do
  let nothing : KafkaDeliveryV1 := { notSent := messages.length }
  let cancelled ← ask .cancelled
  if cancelled then
    pure (some (some .ecanceled, nothing, client))
  else if client.producerFailed || !client.sink then
    pure (some (some .einval, nothing, client))
  else if timeoutMs = 0 ∨ client.limits.deliveryTimeoutMs < timeoutMs ∨
      client.limits.queueMaxMessages < messages.length then
    pure (some (some .einval, nothing, client))
  else if !fits client.limits 0 messages then
    pure (some (some .emsgsize, nothing, client))
  else
    match ← client.topology with
    | some rc => pure (some (some rc, nothing, { client with producerFailed := true }))
    | none => client.deliver messages fuel

/-- Calls of `Produce`, one after the other, with what each of them has returned. -/
def produceAll (fuel : Nat) : List (List KafkaProduceMessageV1 × Int) → Client →
    Sending (Option (List (List KafkaProduceMessageV1 × KafkaDeliveryV1)))
  | [], _ => pure (some [])
  | (messages, timeoutMs) :: rest, client => do
      match ← client.produce messages timeoutMs fuel with
      | none => pure none
      | some (_, delivery, client) =>
          match ← produceAll fuel rest client with
          | none => pure none
          | some others => pure (some ((messages, delivery) :: others))

end Client

/-! ## The result writer -/

inductive SinkState where
  | created
  | open
  | writing
  | finished
  | failed
  | cancelled
  deriving DecidableEq

structure ResultSinkReportV1 where
  state : SinkState
  code : String := "OK"
  stage : String := "sink_open"
  inputRows : Nat := 0
  confirmedRows : Nat := 0
  notSentRows : Nat := 0
  unknownRows : Nat := 0
  deriving DecidableEq

/-- A record batch, by what the codec says of it and of its rows. -/
structure Batch where
  numRows : Nat
  validate : Except String Unit := .ok ()
  /-- The message of a row, given its ordinal. -/
  row : Nat → Nat → Except String KafkaProduceMessageV1

structure ResultWriter where
  config : SinkConfig
  report : ResultSinkReportV1
  client : Client

/-- The rows that have been taken so far. -/
structure Window where
  messages : List KafkaProduceMessageV1 := []
  bytes : Nat := 0
  row : Nat
  pending : Option KafkaProduceMessageV1

/-- The loop that fills a window, for as many messages as there is room. -/
def fillWindow (config : SinkConfig) (batch : Batch) (ordinal : Nat) : Nat → Window →
    Sending (Except String Window)
  | 0, window => pure (.ok window)
  | room + 1, window =>
      if window.row < batch.numRows ∨ window.pending.isSome then
        match window.pending.elim (batch.row window.row (ordinal + window.row)) .ok with
        | .error text => pure (.error text)
        | .ok message =>
            let row := if window.pending.isSome then window.row else window.row + 1
            if window.messages ≠ [] ∧ config.queueMaxBytes < window.bytes + message.size then
              pure (.ok { window with row := row, pending := some message })
            else do
              let window : Window := {
                messages := window.messages ++ [message]
                bytes := window.bytes + message.size
                row := row
                pending := none }
              let cancelled ← ask .cancelled
              let ended ← if cancelled then pure true else ask .expired
              if ended then pure (.ok window) else fillWindow config batch ordinal room window
      else
        pure (.ok window)

/-- What `Write` knows between two windows. -/
structure Writing where
  row : Nat := 0
  pending : Option KafkaProduceMessageV1 := none
  accounted : Nat := 0
  report : ResultSinkReportV1
  client : Client

namespace ResultWriter

variable (writer : ResultWriter)

/-- `Fail`, which reads the flag three times. -/
def fail (report : ResultSinkReportV1) (client : Client) (rc : Errno) (code stage : String) :
    Sending (Option (Option Errno × ResultWriter)) := do
  let first ← ask .cancelled
  let second ← ask .cancelled
  let third ← ask .cancelled
  let report := { report with
    state := if first then .cancelled else .failed
    code := if second then "CANCELLED" else code
    stage := stage }
  pure (some (some (if third then .ecanceled else rc),
    { writer with report := report, client := client }))

/-- `remainder`: what is not accounted for has not been sent. -/
def remainder (report : ResultSinkReportV1) (left : Nat) : ResultSinkReportV1 :=
  { report with notSentRows := report.notSentRows + left }

/-- The counts of a delivery. -/
def count (report : ResultSinkReportV1) (delivery : KafkaDeliveryV1) : ResultSinkReportV1 :=
  { report with
    confirmedRows := report.confirmedRows + delivery.confirmed
    notSentRows := report.notSentRows + delivery.notSent
    unknownRows := report.unknownRows + delivery.unknown }

/-- A window is handed to the producer. -/
def sendWindow (batch : Batch) (writing : Writing) (window : Window) (remaining : Int)
    (fuel : Nat) : Sending (Writing ⊕ Option (Option Errno × ResultWriter)) := do
  let report := { writing.report with stage := "sink_deliver" }
  match ← writing.client.produce window.messages remaining fuel with
  | none => pure (.inr none)
  | some (rc, delivery, client) =>
      let report := count report delivery
      let accounted := writing.accounted + window.messages.length
      match rc with
      | some rc => do
          let failed ← writer.fail (remainder report (batch.numRows - accounted)) client rc
            "SINK_DELIVERY_FAILED" "sink_deliver"
          pure (.inr failed)
      | none =>
          pure (.inl {
            row := window.row
            pending := window.pending
            accounted := accounted
            report := report
            client := client })

/-- The end of `Write`. -/
def finishWrite (report : ResultSinkReportV1) (client : Client) :
    Sending (Option (Option Errno × ResultWriter)) := do
  let first ← ask .cancelled
  let second ← ask .cancelled
  pure (some (if second then some .ecanceled else none, { writer with
    report := { report with state := if first then .cancelled else .open }
    client := client }))

/-- One round of the loop of `Write`. -/
def round (batch : Batch) (ordinal : Nat) (fuel : Nat) (writing : Writing) :
    Sending (Writing ⊕ Option (Option Errno × ResultWriter)) :=
  let failing (rc : Errno) (code stage : String) :
      Sending (Writing ⊕ Option (Option Errno × ResultWriter)) := do
    let failed ← writer.fail (remainder writing.report (batch.numRows - writing.accounted))
      writing.client rc code stage
    pure (.inr failed)
  if writing.row < batch.numRows ∨ writing.pending.isSome then do
    match ← interrupted with
    | some rc => failing rc "SINK_TIMEOUT" "sink_deliver"
    | none =>
        match ← fillWindow writer.config batch ordinal writer.config.queueMaxMessages
            { row := writing.row, pending := writing.pending } with
        | .error text => failing .einval text "sink_encode"
        | .ok window =>
            let remaining ← ask .remaining
            let cancelled ← ask .cancelled
            if cancelled ∨ remaining ≤ 0 then
              let cancelled ← ask .cancelled
              failing (if cancelled then .ecanceled else .etimedout) "SINK_TIMEOUT" "sink_deliver"
            else
              writer.sendWindow batch writing window remaining fuel
  else do
    let finished ← writer.finishWrite writing.report writing.client
    pure (.inr finished)

/-- `Write` -/
def write (batch : Option Batch) (fuel : Nat) :
    Sending (Option (Option Errno × ResultWriter)) :=
  if writer.report.state ≠ .open then do
    let cancelled ← ask .cancelled
    pure (some (some (if cancelled then .ecanceled else .einval), writer))
  else
    match batch with
    | none => pure (some (some .einval, writer))
    | some batch =>
        let ordinal := writer.report.inputRows
        let report := { writer.report with
          inputRows := writer.report.inputRows + batch.numRows
          state := .writing
          stage := "sink_encode" }
        match batch.validate with
        | .error text =>
            writer.fail (remainder report batch.numRows) writer.client .einval text "sink_encode"
        | .ok () => do
            -- A round accounts for one row at least.
            match ← Program.loop (writer.round batch ordinal fuel) (batch.numRows + 1)
                { report := report, client := writer.client } with
            | none => pure none
            | some outcome => pure outcome

def cancel : ResultWriter :=
  if writer.report.state ≠ .finished ∧ writer.report.state ≠ .failed then
    { writer with report := { writer.report with state := .cancelled, code := "CANCELLED" } }
  else
    writer

end ResultWriter

/-- What the owner of a writer does with it. -/
inductive WriterCall where
  | write (batch : Option Batch)
  | cancel

/-- Calls of a writer, one after the other. -/
def ResultWriter.callAll (fuel : Nat) : List WriterCall → ResultWriter →
    Sending (Option ResultWriter)
  | [], writer => pure (some writer)
  | .cancel :: rest, writer => callAll fuel rest writer.cancel
  | .write batch :: rest, writer => do
      match ← writer.write batch fuel with
      | none => pure none
      | some (_, writer) => callAll fuel rest writer

end Flowsql.Kafka
