import Flowsql.Library.Emission
import Flowsql.Npm.AnalysisContract
import Flowsql.Npm.DnsMessages

/-!
# DNS transactions

This module embeds `NpmDnsUdpTrackerV1`, which pairs the queries and the responses of a
session. The task budget is there, and allocations succeed.
-/

namespace Flowsql.Npm

open Flowsql.Library

/-- `NpmDnsConfigV1`, in the ranges that `ParseNpmDnsConfigV1` accepts. -/
structure DnsConfig where
  responseTimeoutNs : Int := 5000000000
  maxPendingPerSession : Nat := 256
  timeoutInRange : 1000000 ≤ responseTimeoutNs ∧ responseTimeoutNs ≤ 300000000000 := by decide
  pendingInRange : 1 ≤ maxPendingPerSession ∧ maxPendingPerSession ≤ 4096 := by decide
  deriving DecidableEq

/-- `NpmDnsQuestionKeyV1`, compared by `SameQuestion`. -/
structure DnsQuestionKey where
  sessionId : Nat
  queryDirection : PacketDirection
  dnsId : UInt16
  opcode : UInt8
  wireQname : List UInt8
  qtype : UInt16
  qclass : UInt16
  deriving DecidableEq, Repr

/-- `NpmDnsTransactionV1`, without the facts of a response, which stay unset. -/
structure DnsTransaction where
  entityInstanceId : UInt64
  key : DnsQuestionKey
  queryAtNs : Option Int
  deadlineNs : Option Int
  queryRetries : UInt32 := 0
  deriving DecidableEq, Repr

structure DnsPending where
  transaction : DnsTransaction
  qnameDisplay : List UInt8
  deriving DecidableEq, Repr

namespace DnsPending

def key (entry : DnsPending) : DnsQuestionKey := entry.transaction.key

def sessionId (entry : DnsPending) : Nat := entry.key.sessionId

def id (entry : DnsPending) : UInt64 := entry.transaction.entityInstanceId

/-- The query was seen again. -/
def retried (entry : DnsPending) : DnsPending :=
  { entry with transaction :=
      { entry.transaction with queryRetries := entry.transaction.queryRetries + 1 } }

end DnsPending

/-- `NpmDnsUdpResultV1`. -/
structure DnsResult where
  entityInstanceId : UInt64 := 0
  sessionId : Nat := 0
  dnsId : UInt16 := 0
  outcome : String := ""
  incompleteReason : Option String := none
  queryRetries : UInt32 := 0
  queryDirection : Option PacketDirection := none
  responseDirection : Option PacketDirection := none
  qname : Option (List UInt8) := none
  qtype : Option UInt16 := none
  qclass : Option UInt16 := none
  queryAtNs : Option Int := none
  responseAtNs : Option Int := none
  latencyNs : Option Int := none
  responseRcode : Option UInt16 := none
  responseTc : Option Bool := none
  observedAtNs : Int := 0
  deriving DecidableEq, Repr

/-- `QueryResult`. -/
def DnsPending.queryResult (observedAtNs : Int) (reason : String) (entry : DnsPending) : DnsResult :=
  { entityInstanceId := entry.id
    sessionId := entry.sessionId
    dnsId := entry.key.dnsId
    outcome := "query_only"
    incompleteReason := some reason
    queryRetries := entry.transaction.queryRetries
    queryDirection := some entry.key.queryDirection
    qname := some entry.qnameDisplay
    qtype := some entry.key.qtype
    qclass := some entry.key.qclass
    queryAtNs := entry.transaction.queryAtNs
    observedAtNs := observedAtNs }

inductive DnsError where
  | invalid
  | noSpace
  | overflow
  deriving DecidableEq, Repr

/-- `NpmDnsUdpTrackerV1`. The lists of the sessions stand in a row, in the order of the
sessions; a session without pending queries has no list. -/
structure DnsTracker where
  config : DnsConfig
  budget : TaskBudget
  nextId : UInt64 := 1
  watermarkNs : Option Int := none
  resultChargeBytes : Nat := 0
  pending : List DnsPending := []

abbrev DnsOutcome := Emission DnsError DnsTracker DnsResult

def dnsPendingCharge : Nat := 4096

def dnsResultCharge : Nat := 4096

/-- The key of the question of a message. -/
def DnsParsedMessage.questionKey (sessionId : Nat) (direction : PacketDirection)
    (parsed : DnsParsedMessage) : Option DnsQuestionKey :=
  match parsed.keyAvailable, parsed.message.wireQname, parsed.message.qtype,
      parsed.message.qclass with
  | true, some wireQname, some qtype, some qclass =>
      some
        { sessionId := sessionId
          queryDirection := if parsed.message.isResponse then direction.opposite else direction
          dnsId := parsed.message.dnsId
          opcode := parsed.message.opcode
          wireQname := wireQname
          qtype := qtype
          qclass := qclass }
  | _, _, _, _ => none

theorem questionKey_sessionId {sessionId : Nat} {direction : PacketDirection}
    {parsed : DnsParsedMessage} {key : DnsQuestionKey}
    (found : parsed.questionKey sessionId direction = some key) : key.sessionId = sessionId := by
  unfold DnsParsedMessage.questionKey at found
  split at found
  · cases found
    rfl
  · cases found

namespace DnsTracker

/-- `ChargePending`. -/
def chargePending (tracker : DnsTracker) : Option DnsTracker :=
  match tracker.budget.reserve .moduleState dnsPendingCharge with
  | (.none, budget) => some { tracker with budget := budget }
  | _ => none

/-- `ReleasePending`. -/
def releasePending (count : Nat) (tracker : DnsTracker) : DnsTracker :=
  if count = 0 then tracker
  else
    { tracker with
      budget := (tracker.budget.release .moduleState (count * dnsPendingCharge)).2 }

/-- `ChargeResult`. -/
def chargeResult (tracker : DnsTracker) : Option DnsTracker :=
  match tracker.budget.reserve .moduleState dnsResultCharge with
  | (.none, budget) =>
      some
        { tracker with
          budget := budget
          resultChargeBytes := tracker.resultChargeBytes + dnsResultCharge }
  | _ => none

/-- `NextId`, after the identifier, which is zero when there are no more. -/
def afterNextId (tracker : DnsTracker) : DnsTracker :=
  if tracker.nextId = 0 then tracker else { tracker with nextId := tracker.nextId + 1 }

/-- The pending query of this question. -/
def matching (key : DnsQuestionKey) (tracker : DnsTracker) : Option DnsPending :=
  tracker.pending.find? fun entry => entry.key = key

/-- `pending->erase(match)`. -/
def erase (key : DnsQuestionKey) (tracker : DnsTracker) : DnsTracker :=
  { tracker with pending := tracker.pending.eraseP fun entry => entry.key = key }

/-- The pending queries of a session. -/
def pendingOf (sessionId : Nat) (tracker : DnsTracker) : List DnsPending :=
  tracker.pending.filter fun entry => entry.sessionId = sessionId

/-- `PendingCount`. -/
def pendingCount (sessionId : Nat) (tracker : DnsTracker) : Nat :=
  (tracker.pendingOf sessionId).length

end DnsTracker

/-- `pending_[session_id].push_back`. -/
def enqueueDns (entry : DnsPending) : List DnsPending → List DnsPending
  | [] => [entry]
  | first :: rest =>
      if entry.sessionId < first.sessionId then entry :: first :: rest
      else first :: enqueueDns entry rest

/-- `++match->transaction.query_retries`. -/
def retryDns (key : DnsQuestionKey) : List DnsPending → List DnsPending
  | [] => []
  | first :: rest => if first.key = key then first.retried :: rest else first :: retryDns key rest

/-- What `OnMessage` is called with, after the message has been parsed. -/
structure DnsArrival where
  sessionId : Nat
  direction : PacketDirection
  completeAtNs : Option Int
  observedAtNs : Int
  parsed : DnsParsedMessage
  key : DnsQuestionKey

namespace DnsTracker

/-- A response that cannot be read answers its query. -/
def onIncomplete (reason : String) (arrival : DnsArrival) (tracker : DnsTracker) : DnsOutcome :=
  match arrival.parsed.message.isResponse, tracker.matching arrival.key with
  | true, some found =>
      match tracker.chargeResult with
      | none => .fail .noSpace tracker
      | some charged =>
          ⟨none, (charged.erase arrival.key).releasePending 1,
            [found.queryResult arrival.observedAtNs reason]⟩
  | _, _ => .done tracker

def onUnsupported (arrival : DnsArrival) (tracker : DnsTracker) : DnsOutcome :=
  match tracker.chargeResult with
  | none => .fail .noSpace tracker
  | some charged =>
      if charged.nextId = 0 then .fail .overflow charged
      else
        let message := arrival.parsed.message
        let result : DnsResult :=
          { entityInstanceId := charged.nextId
            sessionId := arrival.sessionId
            dnsId := message.dnsId
            outcome := "unsupported_message"
            incompleteReason := some "unsupported_opcode_or_transfer"
            queryDirection := if message.isResponse then none else some arrival.direction
            responseDirection := if message.isResponse then some arrival.direction else none
            qname := some arrival.parsed.qnameDisplay
            qtype := message.qtype
            qclass := message.qclass
            queryAtNs := if message.isResponse then none else arrival.completeAtNs
            responseAtNs := if message.isResponse then arrival.completeAtNs else none
            observedAtNs := arrival.observedAtNs }
        ⟨none, charged.afterNextId, [result]⟩

/-- The deadline of a query. -/
def deadline (config : DnsConfig) (completeAtNs : Int) : Int :=
  if completeAtNs > maxInt64 - config.responseTimeoutNs then maxInt64
  else completeAtNs + config.responseTimeoutNs

def onQuery (arrival : DnsArrival) (tracker : DnsTracker) : DnsOutcome :=
  match tracker.matching arrival.key with
  | some found =>
      if found.transaction.queryRetries = UInt32.ofNat (2 ^ 32 - 1) then .fail .overflow tracker
      else .done { tracker with pending := retryDns arrival.key tracker.pending }
  | none =>
      if tracker.pendingCount arrival.sessionId ≠ 0 ∧
          tracker.pendingCount arrival.sessionId ≥ tracker.config.maxPendingPerSession then
        .fail .overflow tracker
      else
        match tracker.chargePending with
        | none => .fail .noSpace tracker
        | some charged =>
            if charged.nextId = 0 then .fail .overflow (charged.releasePending 1)
            else
              let entry : DnsPending :=
                { transaction :=
                    { entityInstanceId := charged.nextId
                      key := arrival.key
                      queryAtNs := arrival.completeAtNs
                      deadlineNs := arrival.completeAtNs.map (deadline tracker.config) }
                  qnameDisplay := arrival.parsed.qnameDisplay }
              .done { charged.afterNextId with pending := enqueueDns entry tracker.pending }

/-- The time from the query to the response, where it is a nonnegative `int64_t`. -/
def latency (queryAtNs responseAtNs : Option Int) : Option Int :=
  match queryAtNs, responseAtNs with
  | some queryAtNs, some responseAtNs =>
      if responseAtNs ≥ queryAtNs ∧ responseAtNs - queryAtNs ≤ maxInt64 then
        some (responseAtNs - queryAtNs)
      else none
  | _, _ => none

def onResponse (arrival : DnsArrival) (tracker : DnsTracker) : DnsOutcome :=
  match tracker.chargeResult with
  | none => .fail .noSpace tracker
  | some charged =>
      let message := arrival.parsed.message
      let result : DnsResult :=
        { sessionId := arrival.sessionId
          dnsId := message.dnsId
          responseDirection := some arrival.direction
          responseAtNs := arrival.completeAtNs
          responseRcode := some message.responseRcode
          responseTc := some message.truncated
          observedAtNs := arrival.observedAtNs
          qname := some arrival.parsed.qnameDisplay
          qtype := message.qtype
          qclass := message.qclass }
      match tracker.matching arrival.key with
      | some found =>
          let result : DnsResult :=
            { result with
              entityInstanceId := found.id
              queryDirection := some found.key.queryDirection
              queryAtNs := found.transaction.queryAtNs
              queryRetries := found.transaction.queryRetries
              qname := some found.qnameDisplay
              latencyNs := latency found.transaction.queryAtNs arrival.completeAtNs
              outcome := if message.truncated then "truncated_response" else "matched"
              incompleteReason := if message.truncated then some "dns_tc_set" else none }
          ⟨none, (charged.erase arrival.key).releasePending 1, [result]⟩
      | none =>
          if charged.nextId = 0 then .fail .overflow charged
          else
            let result : DnsResult :=
              { result with
                entityInstanceId := charged.nextId
                outcome := "response_only"
                incompleteReason := some "no_pending_query" }
            ⟨none, charged.afterNextId, [result]⟩

/-- `OnMessage`. -/
def onMessage (sessionId : Nat) (direction : PacketDirection) (body : List UInt8)
    (bodyComplete : Bool) (completeAtNs : Option Int) (observedAtNs : Int) (tracker : DnsTracker) :
    DnsOutcome :=
  if sessionId = 0 then .fail .invalid tracker
  else
    let (status, parsed) := parseDnsMessage body bodyComplete
    match parsed.questionKey sessionId direction with
    | none => .done tracker
    | some key =>
        let arrival : DnsArrival := ⟨sessionId, direction, completeAtNs, observedAtNs, parsed, key⟩
        match status with
        | .malformed => tracker.onIncomplete "malformed_response" arrival
        | .captureTruncated => tracker.onIncomplete "capture_truncation" arrival
        | .unsupported => tracker.onUnsupported arrival
        | .complete =>
            if parsed.message.isResponse then tracker.onResponse arrival
            else tracker.onQuery arrival

/-- A loop that reports and erases these pending queries, one after the other. -/
def finishWhere (finishes : DnsPending → Bool) (report : DnsPending → DnsResult) :
    List DnsPending → DnsTracker → DnsOutcome
  | [], tracker => .done { tracker with pending := [] }
  | entry :: rest, tracker =>
      if finishes entry then
        match tracker.chargeResult with
        | none => .fail .noSpace { tracker with pending := entry :: rest }
        | some charged =>
            (finishWhere finishes report rest (charged.releasePending 1)).after [report entry]
      else
        (finishWhere finishes report rest tracker).mapState fun tracker =>
          { tracker with pending := entry :: tracker.pending }

/-- `OnResponsePathGap`. -/
def onResponsePathGap (sessionId : Nat) (responseDirection : PacketDirection) (observedAtNs : Int)
    (tracker : DnsTracker) : DnsOutcome :=
  if sessionId = 0 then .fail .invalid tracker
  else
    finishWhere
      (fun entry => entry.sessionId = sessionId ∧ entry.key.queryDirection ≠ responseDirection)
      (DnsPending.queryResult observedAtNs "response_path_gap") tracker.pending tracker

/-- `OnCaptureWatermark`. -/
def onCaptureWatermark (watermarkNs : Int) (tracker : DnsTracker) : DnsOutcome :=
  if tracker.watermarkNs.any (watermarkNs ≤ ·) then .done tracker
  else
    finishWhere (fun entry => entry.transaction.deadlineNs.any (· ≤ watermarkNs))
      (DnsPending.queryResult watermarkNs "response_not_observed_by_deadline") tracker.pending
      { tracker with watermarkNs := some watermarkNs }

/-- The loop of `OnSessionEnd`, which reports these pending queries and erases none. -/
def reportAll (report : DnsPending → DnsResult) : List DnsPending → DnsTracker → DnsOutcome
  | [], tracker => .done tracker
  | entry :: rest, tracker =>
      match tracker.chargeResult with
      | none => .fail .noSpace tracker
      | some charged => (reportAll report rest charged).after [report entry]

/-- `OnSessionEnd`. -/
def onSessionEnd (sessionId : Nat) (observedAtNs : Int) (tracker : DnsTracker) : DnsOutcome :=
  if sessionId = 0 then .fail .invalid tracker
  else
    (reportAll (DnsPending.queryResult observedAtNs "session_end") (tracker.pendingOf sessionId)
      tracker).andThen fun charged =>
        let kept := charged.pending.filter fun entry => entry.sessionId ≠ sessionId
        .done ({ charged with pending := kept }.releasePending (tracker.pendingCount sessionId))

/-- `ReleaseResults`. -/
def releaseResults (tracker : DnsTracker) : DnsTracker :=
  if tracker.resultChargeBytes = 0 then tracker
  else
    { tracker with
      budget := (tracker.budget.release .moduleState tracker.resultChargeBytes).2
      resultChargeBytes := 0 }

end DnsTracker

end Flowsql.Npm
