import Flowsql.Npm.SessionEnds

/-!
# Runs of the session table

A run makes any calls in any order, with any packets and updates, any batch for the
snapshots, and any allocations that fail. Other components use the same budget between
two calls, but only the table reserves session state.
-/

namespace Flowsql.Npm

open Flowsql.Library

/-- A packet that the table has accepted, with the session instance that it was counted in. -/
structure AcceptedPacket where
  sessionId : Nat
  direction : PacketDirection
  wireLen : UInt32

/-- What the callers of the table have seen: the ids of the instances that were started,
the packets that were accepted, and the snapshots of ended instances. -/
structure TableHistory where
  started : List Nat := []
  accepted : List AcceptedPacket := []
  ended : List SnapshotRow := []

/-- The rows of a batch between two places. -/
def SnapshotBatch.range (first last : Nat) (batch : SnapshotBatch) : List SnapshotRow :=
  (batch.rows.take last).drop first

/-- The instance of an accepted packet: the active one, or else the last one that ended. -/
def ObserveResult.instanceId (rows : List SnapshotRow) (result : ObserveResult) : Nat :=
  match result.activeSession, rows.getLast? with
  | some view, _ => view.sessionId
  | none, some row => row.facts.sessionId
  | none, none => 0

namespace TableHistory

/-- After `Observe`. An instance is new if the key did not have it before. -/
def observe (table : SessionTable) (binding : PacketBinding) (meta_ : PacketMeta)
    (result : Except TableError ObserveResult) (ended : SnapshotBatch) (history : TableHistory) :
    TableHistory :=
  match result with
  | .error _ => history
  | .ok result =>
      let rows := ended.range result.endedBegin result.endedEnd
      let sessionId := result.instanceId rows
      let known := (binding.key.bind table.sessions.lookup).map SessionState.sessionId
      { started := history.started ++ if known = some sessionId then [] else [sessionId]
        accepted := history.accepted ++ [⟨sessionId, binding.direction, meta_.wireLen⟩]
        ended := history.ended ++ rows }

/-- After `AdvanceCaptureProgress`. -/
def advance (result : Option CaptureProgressResult) (ended : SnapshotBatch)
    (history : TableHistory) : TableHistory :=
  match result with
  | none => history
  | some result =>
      { history with ended := history.ended ++ ended.range result.endedBegin result.endedEnd }

/-- After `FinishAllAtEof`. -/
def finish (result : Option TableError) (output : SnapshotBatch) (history : TableHistory) :
    TableHistory :=
  match result with
  | some _ => history
  | none => { history with ended := history.ended ++ output.rows }

end TableHistory

/-- A table with a history, after any calls. -/
inductive TableRun (sizes : TableSizes) : SessionTable → TaskBudget → TableHistory → Prop where
  | create (config : AnalysisConfig) (budget : TaskBudget)
      (unused : budget.used .sessionState = 0) : TableRun sizes (.create config) budget {}
  | observe {table : SessionTable} {budget : TaskBudget} {history : TableHistory}
      {allocations : ObserveAllocations} {binding : PacketBinding} {meta_ : PacketMeta}
      {label : UInt32} {ended : SnapshotBatch} {result : Except TableError ObserveResult}
      {after : TableState} (run : TableRun sizes table budget history)
      (outcome : TableState.observe sizes allocations binding meta_ label
        ⟨table, ended, budget⟩ = (result, after)) :
      TableRun sizes after.table after.budget
        (history.observe table binding meta_ result after.ended)
  | advance {table : SessionTable} {budget : TaskBudget} {history : TableHistory}
      {arrays : ArrayAllocations} {allocations : Nat → AppendAllocations}
      {update : CaptureProgressUpdate} {ended : SnapshotBatch}
      {result : Option CaptureProgressResult} {after : TableState}
      (run : TableRun sizes table budget history)
      (outcome : TableState.advanceCaptureProgress sizes arrays allocations update
        ⟨table, ended, budget⟩ = (result, after)) :
      TableRun sizes after.table after.budget (history.advance result after.ended)
  | finish {table : SessionTable} {budget : TaskBudget} {history : TableHistory}
      {arrays : ArrayAllocations} {allocations : SessionKey → AppendAllocations}
      {output : SnapshotBatch} {result : Option TableError} {after : TableState}
      (run : TableRun sizes table budget history)
      (outcome : TableState.finishAllAtEof sizes arrays allocations ⟨table, output, budget⟩ =
        (result, after)) :
      TableRun sizes after.table after.budget (history.finish result after.ended)
  | sample {table : SessionTable} {budget : TaskBudget} {history : TableHistory}
      (run : TableRun sizes table budget history) (key : SessionKey) (sessionId : Nat)
      (payload : ByteSpan) (identified : IdentifiedProtocol) :
      TableRun sizes (table.sampleProtocol key sessionId payload identified).2 budget history
  | others {table : SessionTable} {budget : TaskBudget} {history : TableHistory}
      (run : TableRun sizes table budget history) (after : TaskBudget)
      (kept : after.used .sessionState = budget.used .sessionState) :
      TableRun sizes table after history

/-! ## Protocol samples -/

namespace SessionState

/-- What a sample of the protocol leaves as it is. -/
structure SameTracking (before after : SessionState) : Prop where
  sessionId : after.sessionId = before.sessionId
  lastNs : after.lastNs = before.lastNs
  packetsAb : after.packetsAb = before.packetsAb
  packetsBa : after.packetsBa = before.packetsBa
  wireBytesAb : after.wireBytesAb = before.wireBytesAb
  wireBytesBa : after.wireBytesBa = before.wireBytesBa
  idleDeadlineNs : after.idleDeadlineNs = before.idleDeadlineNs
  initialSyn : after.initialSyn = before.initialSyn
  finAb : after.finAb = before.finAb
  finBa : after.finBa = before.finBa
  trackedBytes : after.trackedBytes = before.trackedBytes

theorem sample_same {config : AnalysisConfig} {payload : ByteSpan} {identified : IdentifiedProtocol}
    {session sampled : SessionState}
    (ok : session.sample config payload identified = .ok sampled) : session.SameTracking sampled := by
  unfold sample at ok
  split at ok
  · cases ok
    constructor <;> rfl
  split at ok
  · cases ok
  simp only at ok
  split at ok
  · cases ok
    constructor <;> rfl
  · split at ok <;> cases ok <;> constructor <;> rfl

end SessionState

namespace SessionTable

variable {table : SessionTable} {budget : TaskBudget} {key : SessionKey} {sessionId : Nat}
  {payload : ByteSpan} {identified : IdentifiedProtocol}

/-- A sample replaces one state by another that is tracked alike, or changes nothing. -/
theorem sampleProtocol_cases :
    (table.sampleProtocol key sessionId payload identified).2 = table ∨
      ∃ old sampled, table.sessions.lookup key = some old ∧ old.SameTracking sampled ∧
        (table.sampleProtocol key sessionId payload identified).2 =
          { table with sessions := table.sessions.replace key sampled } := by
  unfold sampleProtocol
  split
  · exact .inl rfl
  · next old found =>
      split
      · exact .inl rfl
      · split
        · next sampled ok => exact .inr ⟨old, sampled, found, old.sample_same ok, rfl⟩
        · exact .inl rfl

/-- The entries of a table after a sample, as far as they are tracked. -/
theorem replace_map {β : Type} {old sampled : SessionState} (tracked : SessionEntry → β)
    (found : table.sessions.lookup key = some old)
    (same : tracked ⟨key, sampled⟩ = tracked ⟨key, old⟩) :
    ((table.sessions.replace key sampled).entries.map tracked).Perm
      (table.sessions.entries.map tracked) := by
  refine ((entries_replace_perm sampled found).map tracked).trans ?_
  rw [List.map_cons, same, ← List.map_cons]
  exact ((entries_erase_perm found).map tracked).symm

theorem Invariant.sampleProtocol (holds : table.Invariant budget) :
    (table.sampleProtocol key sessionId payload identified).2.Invariant budget := by
  rcases table.sampleProtocol_cases with same | ⟨old, sampled, found, same, tableEq⟩
  · exact same.symm ▸ holds
  rw [tableEq]
  refine ⟨?_, ?_, ?_, holds.reserved, ?_, ?_, holds.representable⟩
  · exact holds.ids.trans (replace_map _ found (by rw [same.sessionId])).symm
  · refine holds.deadlines.trans (replace_map _ found ?_).symm
    simp only [SessionState.deadlineKey, same.sessionId, same.idleDeadlineNs]
  · rw [(replace_map _ found same.trackedBytes).sum_eq]
    exact holds.tracked
  · have length := (entries_replace_perm sampled found).length_eq.trans
      (entries_erase_perm found).length_eq.symm
    simp only [size, length]
    exact holds.limited
  · intro entry member
    rcases List.mem_cons.mp ((entries_replace_perm sampled found).mem_iff.mp member) with rfl | kept
    · simp only [same.sessionId]
      exact holds.assigned _ (mem_entries.mpr found)
    · exact holds.assigned entry (Invariant.mem_of_mem_erase kept)

end SessionTable

/-! ## What holds in every run -/

namespace SessionTable.Invariant

variable {sizes : TableSizes} {before after : TableState}

theorem create (config : AnalysisConfig) {budget : TaskBudget}
    (unused : budget.used .sessionState = 0) : (SessionTable.create config).Invariant budget :=
  ⟨.refl _, .refl _, rfl, unused, Nat.zero_le _, fun _ member => absurd member List.not_mem_nil,
    (by decide : 1 ≤ maxUInt64)⟩

theorem of_keepsTable {rows : List SnapshotRow} (holds : before.table.Invariant before.budget)
    (keeps : before.KeepsTable after rows) : after.table.Invariant after.budget := by
  rw [keeps.table]
  exact holds.of_same rfl rfl rfl rfl rfl rfl (keeps.budget.used_ne (by decide))

theorem observe {allocations : ObserveAllocations} {binding : PacketBinding} {meta_ : PacketMeta}
    {label : UInt32} {result : Except TableError ObserveResult}
    (holds : before.table.Invariant before.budget)
    (outcome : before.observe sizes allocations binding meta_ label = (result, after)) :
    after.table.Invariant after.budget := by
  cases keyed : binding.key with
  | none =>
      simp only [TableState.observe, keyed] at outcome
      cases outcome
      exact holds
  | some key =>
      cases TableState.observe_observed holds keyed outcome with
      | rejected keeps => exact holds.of_keepsTable keeps
      | accepted _ accepts _ _ _ reserved => exact holds.accepts accepts reserved

theorem progressed {update : CaptureProgressUpdate} {result : Option CaptureProgressResult}
    (holds : before.table.Invariant before.budget)
    (progressed : before.Progressed sizes update result after) :
    after.table.Invariant after.budget := by
  cases progressed with
  | deferred | unchanged => exact holds
  | thrown keeps => exact holds.of_keepsTable keeps
  | advanced _ _ _ _ _ holds => exact holds

theorem finished {result : Option TableError} (holds : before.table.Invariant before.budget)
    (finished : before.Finished sizes result after) : after.table.Invariant after.budget := by
  cases finished with
  | failed table ended budget =>
      rw [table]
      exact holds.of_same rfl rfl rfl rfl rfl rfl (budget.used_ne (by decide))
  | finished table ended sorted config others reserved =>
      rw [table]
      exact ⟨.refl _, .refl _, rfl, reserved, Nat.zero_le _,
        fun _ member => absurd member List.not_mem_nil, holds.representable⟩

end SessionTable.Invariant

theorem TableRun.invariant {sizes : TableSizes} {table : SessionTable} {budget : TaskBudget}
    {history : TableHistory} (run : TableRun sizes table budget history) :
    table.Invariant budget := by
  induction run with
  | create config budget unused => exact .create config unused
  | observe run outcome ih => exact SessionTable.Invariant.observe ih outcome
  | advance run outcome ih =>
      exact SessionTable.Invariant.progressed ih (TableState.advance_progressed ih outcome)
  | finish run outcome ih =>
      exact SessionTable.Invariant.finished ih (TableState.finish_finished ih outcome)
  | sample run key sessionId payload identified ih => exact ih.sampleProtocol
  | others run after kept ih => exact ih.of_same rfl rfl rfl rfl rfl rfl kept

end Flowsql.Npm
