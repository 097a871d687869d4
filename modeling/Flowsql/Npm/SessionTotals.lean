import Flowsql.Npm.SessionAccounting
import Flowsql.Npm.SessionCharges
import Mathlib

/-!
# The totals of all sessions

At the end of the input every instance has one ended snapshot, and together the snapshots
count all accepted packets.
-/

namespace Flowsql.Npm

open Flowsql.Library

namespace Balanced

variable {tallies : List Tally} {started : List Nat} {accepted : List AcceptedPacket}

/-- Counters that are right modulo 2 to the 64 have the right sum modulo 2 to the 64. -/
theorem total (balanced : Balanced tallies started accepted) (counter : Tally → Nat)
    (weight : AcceptedPacket → Nat)
    (right : ∀ sessionId packets,
      counter (tallyOf sessionId packets) = (packets.map weight).sum % 2 ^ 64) :
    (tallies.map counter).sum ≡ (accepted.map weight).sum [MOD 2 ^ 64] := by
  have each : tallies.map counter = (tallies.map fun tally =>
      ((packetsOf tally.sessionId accepted).map weight).sum).map (· % 2 ^ 64) := by
    rw [List.map_map]
    refine List.map_congr_left fun tally member => ?_
    rw [Function.comp_apply, ← right tally.sessionId, ← balanced.counted tally member]
  have regroup : (tallies.map fun tally =>
      ((packetsOf tally.sessionId accepted).map weight).sum).sum = (accepted.map weight).sum := by
    have moved := (balanced.instances.map fun sessionId =>
      ((packetsOf sessionId accepted).map weight).sum).sum_eq
    rw [List.map_map] at moved
    exact moved.trans (sum_packetsOf weight balanced.nodup balanced.known)
  rw [Nat.ModEq, each, ← List.sum_nat_mod, regroup]

end Balanced

section Runs

variable {sizes : TableSizes} {table : SessionTable} {budget : TaskBudget} {history : TableHistory}

/-- The counters of one instance are those of its accepted packets. -/
def CountsPackets (accepted : List AcceptedPacket) (tally : Tally) : Prop :=
  ∀ direction,
    tally.packets direction =
        packetCount direction (packetsOf tally.sessionId accepted) % 2 ^ 64 ∧
      tally.wireBytes direction =
        wireByteCount direction (packetsOf tally.sessionId accepted) % 2 ^ 64

theorem Recorded.countsPackets (recorded : Recorded table history) {tally : Tally}
    (member : tally ∈ tallies table history.ended) : CountsPackets history.accepted tally := by
  have counted := recorded.balanced.counted tally member
  intro direction
  constructor
  · rw [← tallyOf_packets tally.sessionId, ← counted]
  · rw [← tallyOf_wireBytes tally.sessionId, ← counted]

/-- The snapshots of a finished table count all accepted packets. -/
theorem Recorded.totals (recorded : Recorded table history)
    (finished : table.sessions.entries = []) :
    (history.ended.map fun row => row.facts.sessionId).Perm history.started ∧
      ∀ direction,
        (history.ended.map fun row => row.tally.packets direction).sum ≡
            packetCount direction history.accepted [MOD 2 ^ 64] ∧
          (history.ended.map fun row => row.tally.wireBytes direction).sum ≡
            wireByteCount direction history.accepted [MOD 2 ^ 64] := by
  have balanced := recorded.balanced
  unfold tallies at balanced
  rw [finished, List.map_nil, List.nil_append] at balanced
  refine ⟨?_, fun direction => ⟨?_, ?_⟩⟩
  · have instances := balanced.instances
    rwa [List.map_map] at instances
  · have total := balanced.total (Tally.packets direction) _ fun sessionId =>
      tallyOf_packets sessionId direction
    rwa [List.map_map] at total
  · have total := balanced.total (Tally.wireBytes direction) _ fun sessionId =>
      tallyOf_wireBytes sessionId direction
    rwa [List.map_map] at total

/-- A packet that is rejected leaves the table as it was, and the rows of the batch. The
budget has changed by what the storage of the batch has, and not at all for an empty one. -/
theorem observe_rejected {before after : TableState} {allocations : ObserveAllocations}
    {binding : PacketBinding} {meta_ : PacketMeta} {label : UInt32} {error : TableError}
    (holds : before.table.Invariant before.budget)
    (outcome : before.observe sizes allocations binding meta_ label = (.error error, after)) :
    before.KeepsTable after [] ∧ (before.Charged sizes → before.Settles sizes after) ∧
      (before.ended = {} → after = before) := by
  have keeps : before.KeepsTable after [] := by
    cases keyed : binding.key with
    | none =>
        simp only [TableState.observe, keyed] at outcome
        cases outcome
        exact ⟨rfl, by simp, .refl _⟩
    | some key =>
        cases TableState.observe_observed holds keyed outcome with
        | rejected keeps => exact keeps
  refine ⟨keeps, fun charged => (TableState.observe_outcome charged outcome).1, fun empty => ?_⟩
  have charged : before.Charged sizes := by
    constructor <;> rw [empty]
    · exact SnapshotBatch.leased_empty _
    · exact Nat.zero_le _
  obtain ⟨settles, rejected⟩ := TableState.observe_outcome charged outcome
  have ended : after.ended = {} := by
    rcases rejected error rfl (by rw [empty]; rfl) with same | cleared
    · exact same.trans empty
    · exact cleared
  have used : after.budget.used .inputBatch = before.budget.used .inputBatch := by
    have balance := settles.balance
    rw [ended, empty] at balance
    exact balance
  have budgetEq : after.budget = before.budget := by
    have changes := keeps.budget
    rw [TaskBudget.OnlyChanges, used, TaskBudget.withUsed_used] at changes
    exact changes
  obtain ⟨table, batch, budget⟩ := after
  obtain ⟨table', batch', budget'⟩ := before
  simp only at ended empty budgetEq
  have tableEq : table = table' := keeps.table
  rw [ended, empty, budgetEq, tableEq]

end Runs

/-- Every accepted packet is counted in one instance and one direction, and the instance
ends once, so at the end of the input the snapshots count all accepted packets. Counters
are `uint64_t`. A rejected packet changes neither the table nor the rows of the batch,
and the budget by what the storage of a batch with rows has grown by. -/
theorem sessions_accounted {sizes : TableSizes} {table : SessionTable} {budget : TaskBudget}
    {history : TableHistory} (run : TableRun sizes table budget history) :
    history.started.Nodup ∧
      (∀ packet ∈ history.accepted, packet.sessionId ∈ history.started) ∧
      (∀ entry ∈ table.sessions.entries, CountsPackets history.accepted entry.2.tally) ∧
      (∀ row ∈ history.ended, CountsPackets history.accepted row.tally) ∧
      (∀ arrays allocations output after,
        TableState.finishAllAtEof sizes arrays allocations ⟨table, output, budget⟩ =
            (none, after) →
          let snapshots := history.ended ++ after.ended.rows
          (snapshots.map fun row => row.facts.sessionId).Perm history.started ∧
            ∀ direction,
              (snapshots.map fun row => row.tally.packets direction).sum ≡
                  packetCount direction history.accepted [MOD 2 ^ 64] ∧
                (snapshots.map fun row => row.tally.wireBytes direction).sum ≡
                  wireByteCount direction history.accepted [MOD 2 ^ 64]) ∧
      ∀ allocations binding meta_ label ended error after,
        TableState.observe sizes allocations binding meta_ label ⟨table, ended, budget⟩ =
            (.error error, after) →
          after.table = table ∧ after.ended.rows = ended.rows ∧
            budget.OnlyChanges .inputBatch after.budget ∧
            (ended.Leased sizes.snapshots → ended.leaseBytes ≤ budget.used .inputBatch →
              after.budget.used .inputBatch + ended.leaseBytes =
                budget.used .inputBatch + after.ended.leaseBytes) ∧
            (ended = {} → after.budget = budget) := by
  have recorded := run.recorded
  refine ⟨recorded.balanced.nodup, recorded.balanced.known, ?_, ?_, ?_, ?_⟩
  · exact fun entry member => recorded.countsPackets
      (List.mem_append_left _ (List.mem_map_of_mem member))
  · exact fun row member => recorded.countsPackets
      (List.mem_append_right _ (List.mem_map_of_mem member))
  · intro arrays allocations output after outcome
    have finished := TableState.finish_finished run.invariant outcome
    have empty : after.table.sessions.entries = [] := by
      cases finished with
      | finished table _ _ _ _ _ =>
          rw [table]
          rfl
    exact (recorded.finish finished).totals empty
  · intro allocations binding meta_ label ended error after outcome
    obtain ⟨keeps, settles, same⟩ := observe_rejected run.invariant outcome
    refine ⟨keeps.table, by simpa using keeps.rows, keeps.budget, ?_, ?_⟩
    · exact fun leased covered => (settles ⟨leased, covered⟩).balance
    · exact fun empty => congrArg TableState.budget (same empty)

/-! ## Counters that wrap, and storage that stays -/

/-- The key of the datagrams. -/
def datagramKey : SessionKey :=
  .ipv4
    { aIp := sampleHost 1
      bIp := sampleHost 2
      observationDomainId := 0
      inputNamespace := ""
      aPort := 53
      bPort := 4000
      transportProtocol := udpProtocol }

/-- Their session, with these counters. -/
def loadedSession (packets bytes : Nat) : SessionState :=
  { sessionId := 1
    firstNs := 5
    lastNs := 5
    packetsAb := packets
    wireBytesAb := bytes
    primaryLabelId := 0
    idleDeadlineNs := 30000000005
    initialSyn := none
    finAb := false
    finBa := false
    trackedBytes := 416 }

/-- The table with this session only. -/
def loadedTable (packets bytes : Nat) : SessionTable :=
  { config := {}
    nextSessionId := 2
    sessions := AList.singleton datagramKey (loadedSession packets bytes)
    ids := AList.singleton 1 datagramKey
    deadlines := OrderedSet.empty.insert (toLex (30000000005, 1))
    trackedSessionBytes := 416 }

def loadedBudget : TaskBudget := ⟨{}, { sessionStateBytes := 416 }⟩

theorem observe_loaded (packets bytes : Nat) :
    TableState.observe tableSizes {} (datagram .aToB) ⟨5, 60⟩ 0
        ⟨loadedTable packets bytes, {}, loadedBudget⟩ =
      (.ok ⟨some ((loadedSession (addUInt64 packets 1) (addUInt64 bytes 60)).view datagramKey), 0, 0⟩,
        ⟨loadedTable (addUInt64 packets 1) (addUInt64 bytes 60), {}, loadedBudget⟩) := rfl

/-- One more datagram. -/
theorem run_loaded_step {packets bytes : Nat} {started : List Nat}
    {accepted : List AcceptedPacket}
    (run : TableRun tableSizes (loadedTable packets bytes) loadedBudget
      { started := started, accepted := accepted, ended := [] }) :
    TableRun tableSizes (loadedTable (addUInt64 packets 1) (addUInt64 bytes 60)) loadedBudget
      { started := started ++ [], accepted := accepted ++ [⟨1, .aToB, 60⟩], ended := [] } :=
  run.observe (observe_loaded packets bytes)

/-- A run of this many datagrams of one session. -/
theorem run_loaded (count : Nat) :
    ∃ packets bytes started, packets = (count + 1) % 2 ^ 64 ∧
      TableRun tableSizes (loadedTable packets bytes) loadedBudget
        { started := started
          accepted := List.replicate (count + 1) ⟨1, .aToB, 60⟩
          ended := [] } := by
  induction count with
  | zero =>
      have outcome : TableState.observe tableSizes {} (datagram .aToB) ⟨5, 60⟩ 0
          ⟨.create {}, {}, ⟨{}, {}⟩⟩ =
          (.ok ⟨some ((loadedSession 1 60).view datagramKey), 0, 0⟩,
            ⟨loadedTable 1 60, {}, loadedBudget⟩) := rfl
      exact ⟨1, 60, _, rfl, (@TableRun.create tableSizes {} ⟨{}, {}⟩ rfl).observe outcome⟩
  | succ count ih =>
      obtain ⟨packets, bytes, started, counted, run⟩ := ih
      have wraps : addUInt64 packets 1 = (count + 1 + 1) % 2 ^ 64 := by
        unfold addUInt64
        omega
      rw [List.replicate_succ']
      exact ⟨_, _, _, wraps, run_loaded_step run⟩

/-- The input batch category after these bytes. -/
def stagedBudget (bytes : Nat) : TaskBudget :=
  ⟨{}, { sessionStateBytes := 416, inputBatchBytes := bytes }⟩

/-- A batch with room for one snapshot. -/
def preparedBatch : SnapshotBatch := { capacity4 := 1, rowCapacity := 1, leaseBytes := 304 }

theorem prepare_loaded (table : SessionTable) :
    TableState.prepareRows tableSizes {} 1 0 ⟨table, {}, loadedBudget⟩ =
      (true, ⟨table, preparedBatch, stagedBudget 304⟩) := by
  have prepared : SnapshotBatch.prepare tableSizes.snapshots {} (0 + 1) (0 + 0) (0 + 1 + 0) {}
      loadedBudget = (true, preparedBatch, stagedBudget 304) := by decide
  unfold TableState.prepareRows
  rw [if_pos (by decide)]
  simp only [SnapshotBatch.keyCount, List.countP_nil, List.length_nil, prepared]

/-- The snapshot of the session fits there. -/
theorem append_loaded (table : SessionTable) (session : SessionState) :
    TableState.appendSnapshot tableSizes {} datagramKey session .eof session.lastNs
        ⟨table, preparedBatch, stagedBudget 304⟩ =
      (true,
        ⟨table,
          { preparedBatch with
            rows := [⟨datagramKey, session.endedView datagramKey, .eof, session.lastNs, 16⟩]
            stringBytes := 16
            leaseBytes := 320 },
          stagedBudget 320⟩) := by
  have again : preparedBatch.prepare tableSizes.snapshots {} 1 0 1 (stagedBudget 304) =
      (true, preparedBatch, stagedBudget 304) := by decide
  have name : (stagedBudget 304).reserve .inputBatch 16 = (.none, stagedBudget 320) := by decide
  have four : datagramKey.isIpv4 = true := rfl
  have bytes : tableSizes.snapshots.nameCapacity datagramKey.inputNamespace + 1 = 16 := rfl
  have rows : SnapshotBatch.grow preparedBatch.rows.length preparedBatch.rowCapacity = 1 := rfl
  have keys : SnapshotBatch.grow (preparedBatch.keyCount true) preparedBatch.capacity4 = 1 := rfl
  have none : preparedBatch.capacity6 = 0 := rfl
  unfold TableState.appendSnapshot SnapshotBatch.append
  simp only [four, if_true, keys, none, rows, again, bytes, name]
  rfl

/-- The end of the input for this session. -/
theorem finish_loaded (packets bytes : Nat) :
    ∃ after, TableState.finishAllAtEof tableSizes {} (fun _ => {})
        ⟨loadedTable packets bytes, {}, loadedBudget⟩ = (none, after) ∧
      (after.ended.rows.map fun row => row.tally.packets .aToB) = [packets] := by
  have entries : TableState.familyEntries (loadedTable packets bytes) =
      [⟨datagramKey, loadedSession packets bytes⟩] := rfl
  have four : (List.countP (fun entry => entry.1.isIpv4)
      [(⟨datagramKey, loadedSession packets bytes⟩ : (_ : SessionKey) × SessionState)]) = 1 := rfl
  have six : (List.countP (fun entry => !entry.1.isIpv4)
      [(⟨datagramKey, loadedSession packets bytes⟩ : (_ : SessionKey) × SessionState)]) = 0 := rfl
  unfold TableState.finishAllAtEof TableState.stageAll
  simp only [entries, four, six, prepare_loaded, TableState.stageEntries, append_loaded]
  exact ⟨_, rfl, rfl⟩

/-- A reset that starts a session and ends it. -/
def resetPacket : PacketBinding :=
  { datagram .aToB with
    key := some (.ipv4
      { aIp := sampleHost 1
        bIp := sampleHost 2
        observationDomainId := 0
        inputNamespace := ""
        aPort := 80
        bPort := 4000
        transportProtocol := tcpProtocol })
    transport :=
      { payloadWireBytes := 0
        payloadCapturedBytes := 0
        payloadComplete := true
        tcp := { valid := true, syn := false, fin := false, rst := true, sequence := 0 } } }

/-- The table and the batch of its caller after one of them. -/
def tableAfterReset : TableState :=
  (TableState.observe tableSizes {} resetPacket ⟨5, 60⟩ 0 ⟨.create {}, {}, ⟨{}, {}⟩⟩).2

/-- A second one, with no memory for the name in its snapshot. -/
def tableAfterRefusal : Except TableError ObserveResult × TableState :=
  TableState.observe tableSizes { closed := { name := false } } resetPacket ⟨6, 60⟩ 0
    tableAfterReset

/-- The counter at the end of the input, after this many datagrams. -/
theorem finished_count (count : Nat) :
    ∃ table budget history, TableRun tableSizes table budget history ∧
      ∃ after, TableState.finishAllAtEof tableSizes {} (fun _ => {}) ⟨table, {}, budget⟩ =
          (none, after) ∧
        packetCount .aToB history.accepted = count + 1 ∧
        ((history.ended ++ after.ended.rows).map fun row => row.tally.packets .aToB).sum =
          (count + 1) % 2 ^ 64 := by
  obtain ⟨packets, bytes, started, counted, run⟩ := run_loaded count
  obtain ⟨after, done, rows⟩ := finish_loaded packets bytes
  refine ⟨_, _, _, run, after, done, ?_, ?_⟩
  · simp [packetCount]
  · rw [List.nil_append, rows, List.sum_singleton, counted]

/-- After `2 ^ 64` packets of one session its counter is zero again, and a packet that is
rejected can leave more of the budget in use. -/
theorem sessions_accounted_fails :
    (∃ table budget history, TableRun tableSizes table budget history ∧
      ∃ after, TableState.finishAllAtEof tableSizes {} (fun _ => {}) ⟨table, {}, budget⟩ =
          (none, after) ∧
        packetCount .aToB history.accepted ≠
          ((history.ended ++ after.ended.rows).map fun row => row.tally.packets .aToB).sum) ∧
      tableAfterRefusal.1 = .error .allocationFailed ∧
      tableAfterRefusal.2.budget.used .inputBatch ≠ tableAfterReset.budget.used .inputBatch := by
  constructor
  · obtain ⟨table, budget, history, run, after, done, count, sum⟩ := finished_count (2 ^ 64 - 1)
    refine ⟨table, budget, history, run, after, done, ?_⟩
    rw [count, sum]
    omega
  · decide

theorem sessions_accounted_datagram :
    tableAfterDatagram.table.sessions.entries.length = 1 ∧
      ∀ entry ∈ tableAfterDatagram.table.sessions.entries,
        CountsPackets [⟨1, .aToB, 60⟩] entry.2.tally := by
  have outcome : TableState.observe tableSizes {} (datagram .aToB) ⟨5, 60⟩ 0
      ⟨.create {}, {}, ⟨{}, {}⟩⟩ = (_, tableAfterDatagram) := rfl
  have run := (@TableRun.create tableSizes {} ⟨{}, {}⟩ rfl).observe outcome
  exact ⟨rfl, (sessions_accounted run).2.2.1⟩

end Flowsql.Npm
