import Flowsql.Npm.SessionTable
import Mathlib

/-!
# What the calls of the session table do

`Observe` accepts a packet in six ways: it starts, replaces or updates a session, and the
session that the packet belongs to may end with it. A packet that is not accepted leaves
the table as it was, since everything staged is undone.
-/

namespace Flowsql.Npm

open Flowsql.Library

/-- The state of the table between two calls. -/
structure SessionTable.Invariant (table : SessionTable) (budget : TaskBudget) : Prop where
  ids : table.ids.entries.Perm
    (table.sessions.entries.map fun entry => ⟨entry.2.sessionId, entry.1⟩)
  deadlines : table.deadlines.elements.Perm
    (table.sessions.entries.map fun entry => entry.2.deadlineKey)
  tracked : table.trackedSessionBytes =
    (table.sessions.entries.map fun entry => entry.2.trackedBytes).sum
  reserved : budget.used .sessionState = table.trackedSessionBytes
  limited : table.size ≤ table.config.maxActiveSessions
  assigned : ∀ entry ∈ table.sessions.entries, 0 < entry.2.sessionId ∧
    (table.nextSessionId ≠ 0 → entry.2.sessionId < table.nextSessionId)
  representable : table.nextSessionId ≤ maxUInt64

/-- The row of a snapshot. -/
def snapshotRow (sizes : TableSizes) (key : SessionKey) (session : SessionState)
    (reason : SessionEndReason) (observedAtNs : Int) : SnapshotRow :=
  ⟨key, session.endedView key, reason, observedAtNs,
    sizes.snapshots.nameCapacity key.inputNamespace + 1⟩

namespace SessionTable

/-- The table with a session of a new key. -/
def withPlaced (key : SessionKey) (session : SessionState) (table : SessionTable) : SessionTable :=
  { table with
    sessions := table.sessions.insert key session
    ids := table.ids.insert session.sessionId key
    deadlines := table.deadlines.insert session.deadlineKey
    trackedSessionBytes := table.trackedSessionBytes + session.trackedBytes }

/-- The table with another instance of a key. -/
def withReplaced (key : SessionKey) (old session : SessionState) (table : SessionTable) :
    SessionTable :=
  { table with
    sessions := table.sessions.replace key session
    ids := (table.ids.insert session.sessionId key).erase old.sessionId
    deadlines := (table.deadlines.insert session.deadlineKey).erase old.deadlineKey }

/-- The table without a session. -/
def withErased (key : SessionKey) (old : SessionState) (table : SessionTable) : SessionTable :=
  { table.eraseSession key old with
    trackedSessionBytes := table.trackedSessionBytes - old.trackedBytes }

/-- What an accepted packet does: the session that is active after it, the snapshots it
adds, and the table it leaves. -/
inductive Accepts (sizes : TableSizes) (key : SessionKey) (binding : PacketBinding)
    (meta_ : PacketMeta) (label : UInt32) (table : SessionTable) :
    Option SessionState → List SnapshotRow → SessionTable → Prop where
  | placed {session : SessionState} (absent : table.sessions.lookup key = none)
      (room : table.size < table.config.maxActiveSessions) (available : table.nextSessionId ≠ 0)
      (sessionEq : session = .start table.config key binding meta_ label table.nextSessionId
        (estimateTrackedBytes sizes key binding.nameCapacity))
      (stays : binding.closes key session.finAb session.finBa = false) :
      Accepts sizes key binding meta_ label table (some session) []
        (table.withPlaced key session).takeId
  | placedClosed {session : SessionState} (absent : table.sessions.lookup key = none)
      (room : table.size < table.config.maxActiveSessions) (available : table.nextSessionId ≠ 0)
      (sessionEq : session = .start table.config key binding meta_ label table.nextSessionId
        (estimateTrackedBytes sizes key binding.nameCapacity))
      (closes : binding.closes key session.finAb session.finBa = true) :
      Accepts sizes key binding meta_ label table none
        [snapshotRow sizes key session .closed meta_.timestampNs] table.takeId
  | replaced {old session : SessionState} (present : table.sessions.lookup key = some old)
      (reuses : binding.reusesTuple key old.initialSyn = true) (available : table.nextSessionId ≠ 0)
      (sessionEq : session = .start table.config key binding meta_ label table.nextSessionId
        old.trackedBytes)
      (stays : binding.closes key session.finAb session.finBa = false) :
      Accepts sizes key binding meta_ label table (some session)
        [snapshotRow sizes key old .tupleReuse meta_.timestampNs]
        (table.withReplaced key old session).takeId
  | replacedClosed {old session : SessionState} (present : table.sessions.lookup key = some old)
      (reuses : binding.reusesTuple key old.initialSyn = true) (available : table.nextSessionId ≠ 0)
      (sessionEq : session = .start table.config key binding meta_ label table.nextSessionId
        old.trackedBytes)
      (closes : binding.closes key session.finAb session.finBa = true) :
      Accepts sizes key binding meta_ label table none
        [snapshotRow sizes key old .tupleReuse meta_.timestampNs,
          snapshotRow sizes key session .closed meta_.timestampNs]
        (table.withErased key old).takeId
  | updated {old session : SessionState} (present : table.sessions.lookup key = some old)
      (continues : binding.reusesTuple key old.initialSyn = false)
      (sessionEq : session = old.observe table.config key binding meta_)
      (stays : binding.closes key session.finAb session.finBa = false) :
      Accepts sizes key binding meta_ label table (some session) []
        (table.updateSession key old session)
  | updatedClosed {old session : SessionState} (present : table.sessions.lookup key = some old)
      (continues : binding.reusesTuple key old.initialSyn = false)
      (sessionEq : session = old.observe table.config key binding meta_)
      (closes : binding.closes key session.finAb session.finBa = true) :
      Accepts sizes key binding meta_ label table none
        [snapshotRow sizes key session .closed meta_.timestampNs] (table.withErased key old)

/-! ## What the invariant gives -/

namespace Invariant

variable {table : SessionTable} {budget : TaskBudget} {key : SessionKey} {session : SessionState}
  {sessionId : Nat}

theorem lookup_ids (holds : table.Invariant budget) :
    table.ids.lookup sessionId = some key ↔
      ∃ session, table.sessions.lookup key = some session ∧ session.sessionId = sessionId := by
  rw [← mem_entries, holds.ids.mem_iff, List.mem_map]
  constructor
  · rintro ⟨⟨other, session⟩, member, same⟩
    simp only [Sigma.mk.injEq, heq_eq_eq] at same
    exact ⟨session, same.2 ▸ mem_entries.mp member, same.1⟩
  · rintro ⟨session, found, same⟩
    exact ⟨⟨key, session⟩, mem_entries.mpr found, by rw [same]⟩

theorem mem_deadlines (holds : table.Invariant budget) {node : DeadlineKey} :
    node ∈ table.deadlines ↔
      ∃ key session, table.sessions.lookup key = some session ∧ session.deadlineKey = node := by
  rw [OrderedSet.mem_def, holds.deadlines.mem_iff, List.mem_map]
  constructor
  · rintro ⟨⟨key, session⟩, member, same⟩
    exact ⟨key, session, mem_entries.mp member, same⟩
  · rintro ⟨key, session, found, same⟩
    exact ⟨⟨key, session⟩, mem_entries.mpr found, same⟩

theorem owned (holds : table.Invariant budget) (found : table.sessions.lookup key = some session) :
    session.trackedBytes ≤ table.trackedSessionBytes := by
  rw [holds.tracked, ((entries_erase_perm found).map _).sum_eq, List.map_cons, List.sum_cons]
  exact Nat.le_add_right _ _

/-- No index knows the next id. -/
theorem fresh (holds : table.Invariant budget) (available : table.nextSessionId ≠ 0)
    (found : table.sessions.lookup key = some session) :
    session.sessionId ≠ table.nextSessionId :=
  ((holds.assigned _ (mem_entries.mpr found)).2 available).ne

theorem fresh_id (holds : table.Invariant budget) (available : table.nextSessionId ≠ 0) :
    table.ids.lookup table.nextSessionId = none := by
  cases known : table.ids.lookup table.nextSessionId with
  | none => rfl
  | some key =>
      obtain ⟨session, found, same⟩ := holds.lookup_ids.mp known
      exact absurd same (holds.fresh available found)

theorem fresh_deadline (holds : table.Invariant budget) (available : table.nextSessionId ≠ 0)
    (next : session.sessionId = table.nextSessionId) : session.deadlineKey ∉ table.deadlines := by
  intro member
  obtain ⟨key, other, found, same⟩ := holds.mem_deadlines.mp member
  have sameId : other.sessionId = session.sessionId := congrArg (fun node => (ofLex node).2) same
  exact holds.fresh available found (sameId.trans next)

end Invariant

end SessionTable

namespace TableState

variable {sizes : TableSizes} {state after : TableState} {bytes : Nat} {done : Bool}

theorem reserveSession_ok (ok : state.reserveSession bytes = (true, after)) :
    after = { state with
      table := { state.table with trackedSessionBytes := state.table.trackedSessionBytes + bytes }
      budget := state.budget.withUsed .sessionState
        (state.budget.used .sessionState + bytes) } := by
  unfold reserveSession at ok
  split at ok
  · next budget granted =>
      cases ok
      rw [TaskBudget.reserve_ok granted]
  · cases ok

theorem reserveSession_refused (refused : state.reserveSession bytes = (false, after)) :
    after = state := by
  unfold reserveSession at refused
  split at refused
  · cases refused
  · next error budget notNone failed =>
      cases refused
      rw [TaskBudget.reserve_error failed notNone]

theorem releaseSession_eq (owned : bytes ≤ state.budget.used .sessionState) :
    state.releaseSession bytes = { state with
      table := { state.table with trackedSessionBytes := state.table.trackedSessionBytes - bytes }
      budget := state.budget.withUsed .sessionState
        (state.budget.used .sessionState - bytes) } := by
  unfold releaseSession
  split
  · next zero => simp [zero]
  · rw [TaskBudget.release_eq owned]

/-- What only the snapshots of a call change. -/
structure KeepsTable (before after : TableState) (rows : List SnapshotRow) : Prop where
  table : after.table = before.table
  rows : after.ended.rows = before.ended.rows ++ rows
  budget : before.budget.OnlyChanges .inputBatch after.budget

theorem appendSnapshot_keeps {allocations : AppendAllocations} {key : SessionKey}
    {session : SessionState} {reason : SessionEndReason} {observedAtNs : Int}
    (appended : state.appendSnapshot sizes allocations key session reason observedAtNs =
      (done, after)) :
    state.KeepsTable after
      (if done then [snapshotRow sizes key session reason observedAtNs] else []) := by
  unfold appendSnapshot at appended
  generalize outcome : state.ended.append _ _ _ _ _ _ _ = result at appended
  obtain ⟨ok, ended, budget⟩ := result
  cases appended
  obtain ⟨rowsEq, changes⟩ := SnapshotBatch.append_keeps outcome
  exact ⟨rfl, rowsEq, changes⟩

theorem stageSnapshot_keeps {allocations : AppendAllocations} {key : SessionKey}
    {session : SessionState} {reason : SessionEndReason} {observedAtNs : Int}
    (staged : state.stageSnapshot sizes allocations key session reason observedAtNs =
      (done, after)) :
    state.KeepsTable after
      (if done then [snapshotRow sizes key session reason observedAtNs] else []) := by
  unfold stageSnapshot at staged
  split at staged
  · next ended budget prepared =>
      obtain ⟨rowsEq, changes⟩ := SnapshotBatch.prepare_keeps prepared
      have keeps := appendSnapshot_keeps staged
      exact ⟨keeps.table, keeps.rows.trans (by rw [rowsEq]), changes.trans keeps.budget⟩
  · next ended budget prepared =>
      obtain ⟨rowsEq, changes⟩ := SnapshotBatch.prepare_keeps prepared
      cases staged
      exact ⟨rfl, by simp [rowsEq], changes⟩

theorem truncate_keeps {before : TableState} {rows : List SnapshotRow}
    (keeps : before.KeepsTable state rows) :
    before.KeepsTable (state.truncate before.ended.rows.length) [] := by
  unfold truncate
  generalize outcome : state.ended.truncate _ _ = result
  obtain ⟨ended, budget⟩ := result
  obtain ⟨rowsEq, changes⟩ := SnapshotBatch.truncate_keeps outcome
  refine ⟨keeps.table, ?_, keeps.budget.trans changes⟩
  simp [rowsEq, keeps.rows]

/-- The state after a reservation. -/
def charged (bytes : Nat) (state : TableState) : TableState :=
  { state with
    table := { state.table with trackedSessionBytes := state.table.trackedSessionBytes + bytes }
    budget := state.budget.withUsed .sessionState (state.budget.used .sessionState + bytes) }

theorem release_charged {before : TableState} {rows : List SnapshotRow}
    (keeps : (before.charged bytes).KeepsTable state rows) :
    before.KeepsTable (state.releaseSession bytes) rows := by
  have used : state.budget.used .sessionState = before.budget.used .sessionState + bytes := by
    rw [keeps.budget.used_ne (by decide)]
    exact TaskBudget.used_withUsed
  rw [releaseSession_eq (by omega)]
  refine ⟨?_, keeps.rows, TaskBudget.onlyChanges_iff.mpr ⟨?_, fun other different => ?_⟩⟩
  · simp only [keeps.table, charged, Nat.add_sub_cancel]
  · exact keeps.budget.config
  · by_cases same : other = .sessionState
    · subst same
      simp [used]
    · rw [TaskBudget.used_withUsed_ne same, keeps.budget.used_ne different]
      exact TaskBudget.used_withUsed_ne same

theorem abandon_charged {before : TableState} {rows : List SnapshotRow}
    {result : Except TableError ObserveResult}
    (keeps : (before.charged bytes).KeepsTable state rows)
    (abandoned : state.abandon (some bytes) before.ended.rows.length = (result, after)) :
    result = .error .allocationFailed ∧ before.KeepsTable after [] := by
  cases abandoned
  exact ⟨rfl, truncate_keeps (release_charged keeps)⟩

theorem abandon_keeps {before : TableState} {rows : List SnapshotRow}
    {result : Except TableError ObserveResult} (keeps : before.KeepsTable state rows)
    (abandoned : state.abandon none before.ended.rows.length = (result, after)) :
    result = .error .allocationFailed ∧ before.KeepsTable after [] := by
  cases abandoned
  exact ⟨rfl, truncate_keeps keeps⟩

end TableState

namespace SessionTable

variable {table next : SessionTable} {allocations : ObserveAllocations} {key : SessionKey}
  {old session : SessionState}

theorem emplaceId_fresh {sessionId : Nat} (fresh : table.ids.lookup sessionId = none) :
    table.emplaceId sessionId key = { table with ids := table.ids.insert sessionId key } :=
  if_neg (AList.lookup_eq_none.mp fresh)

theorem placeNew_ok (fresh : table.ids.lookup session.sessionId = none)
    (placed : table.placeNew allocations key session = (true, next)) :
    next = { table with
      sessions := table.sessions.insert key session
      ids := table.ids.insert session.sessionId key
      deadlines := table.deadlines.insert session.deadlineKey } := by
  unfold placeNew at placed
  split at placed
  · simp only at placed
    split at placed
    · split at placed
      · cases placed
        exact emplaceId_fresh fresh
      · cases placed
    · cases placed
  · cases placed

/-- The rollback takes out what was put in. -/
theorem placeNew_failed (absent : table.sessions.lookup key = none)
    (fresh : table.ids.lookup session.sessionId = none)
    (freshDeadline : session.deadlineKey ∉ table.deadlines)
    (failed : table.placeNew allocations key session = (false, next)) : next = table := by
  have idsEq : table.ids.erase session.sessionId = table.ids := erase_of_lookup_eq_none fresh
  unfold placeNew at failed
  split at failed
  · simp only at failed
    split at failed
    · split at failed
      · cases failed
      · cases failed
        simp only [eraseSession, emplaceDeadline, OrderedSet.erase_insert freshDeadline, idsEq,
          erase_insert absent]
    · cases failed
      simp only [eraseSession, OrderedSet.erase_of_not_mem freshDeadline, idsEq,
        erase_insert absent]
  · cases failed
    rfl

theorem placeReused_ok (fresh : table.ids.lookup session.sessionId = none)
    (placed : table.placeReused allocations key old session = (true, next)) :
    next = table.withReplaced key old session := by
  unfold placeReused at placed
  split at placed
  · simp only at placed
    split at placed
    · cases placed
      rw [@emplaceId_fresh (table.emplaceDeadline session.deadlineKey) _ _ fresh]
      rfl
    · cases placed
  · cases placed

theorem placeReused_failed (freshDeadline : session.deadlineKey ∉ table.deadlines)
    (failed : table.placeReused allocations key old session = (false, next)) : next = table := by
  unfold placeReused at failed
  split at failed
  · simp only at failed
    split at failed
    · cases failed
    · cases failed
      simp only [emplaceDeadline, OrderedSet.erase_insert freshDeadline]
  · cases failed
    rfl

end SessionTable

/-! ## Observing a packet -/

namespace SessionState

@[simp] theorem countPacket_sessionId (direction : PacketDirection) (meta_ : PacketMeta)
    (session : SessionState) : (session.countPacket direction meta_).sessionId = session.sessionId := by
  cases direction <;> rfl

@[simp] theorem countPacket_trackedBytes (direction : PacketDirection) (meta_ : PacketMeta)
    (session : SessionState) :
    (session.countPacket direction meta_).trackedBytes = session.trackedBytes := by
  cases direction <;> rfl

@[simp] theorem countPacket_idleDeadlineNs (direction : PacketDirection) (meta_ : PacketMeta)
    (session : SessionState) :
    (session.countPacket direction meta_).idleDeadlineNs = session.idleDeadlineNs := by
  cases direction <;> rfl

@[simp] theorem start_sessionId (config : AnalysisConfig) (key : SessionKey)
    (binding : PacketBinding) (meta_ : PacketMeta) (label : UInt32) (sessionId charge : Nat) :
    (start config key binding meta_ label sessionId charge).sessionId = sessionId := by
  simp [start]

@[simp] theorem start_trackedBytes (config : AnalysisConfig) (key : SessionKey)
    (binding : PacketBinding) (meta_ : PacketMeta) (label : UInt32) (sessionId charge : Nat) :
    (start config key binding meta_ label sessionId charge).trackedBytes = charge := by
  simp [start]

@[simp] theorem touch_sessionId (config : AnalysisConfig) (key : SessionKey) (timestampNs : Int)
    (session : SessionState) :
    (session.touch config key timestampNs).sessionId = session.sessionId := by
  unfold touch
  split <;> rfl

@[simp] theorem touch_trackedBytes (config : AnalysisConfig) (key : SessionKey) (timestampNs : Int)
    (session : SessionState) :
    (session.touch config key timestampNs).trackedBytes = session.trackedBytes := by
  unfold touch
  split <;> rfl

@[simp] theorem observe_sessionId (config : AnalysisConfig) (key : SessionKey)
    (binding : PacketBinding) (meta_ : PacketMeta) (session : SessionState) :
    (session.observe config key binding meta_).sessionId = session.sessionId := by
  simp [observe]

@[simp] theorem observe_trackedBytes (config : AnalysisConfig) (key : SessionKey)
    (binding : PacketBinding) (meta_ : PacketMeta) (session : SessionState) :
    (session.observe config key binding meta_).trackedBytes = session.trackedBytes := by
  simp [observe]

end SessionState

namespace TableState

/-- The outcome of `Observe` for a packet of this key. -/
inductive Observed (sizes : TableSizes) (key : SessionKey) (binding : PacketBinding)
    (meta_ : PacketMeta) (label : UInt32) (before : TableState) :
    Except TableError ObserveResult → TableState → Prop where
  | rejected {error : TableError} {after : TableState} (keeps : before.KeepsTable after []) :
      Observed sizes key binding meta_ label before (.error error) after
  | accepted {active : Option SessionState} {rows : List SnapshotRow} {after : TableState}
      (onTime : before.table.isLatePacket meta_.timestampNs = false)
      (accepts : before.table.Accepts sizes key binding meta_ label active rows after.table)
      (ended : after.ended.rows = before.ended.rows ++ rows)
      (config : after.budget.config = before.budget.config)
      (others : ∀ category, category ≠ .sessionState → category ≠ .inputBatch →
        after.budget.used category = before.budget.used category)
      (reserved : after.budget.used .sessionState = after.table.trackedSessionBytes) :
      Observed sizes key binding meta_ label before
        (.ok ⟨active.map (SessionState.view key), before.ended.rows.length,
          after.ended.rows.length⟩) after

variable {sizes : TableSizes} {allocations : ObserveAllocations} {key : SessionKey}
  {binding : PacketBinding} {meta_ : PacketMeta} {label : UInt32}
  {before state after : TableState} {old session : SessionState}
  {result : Except TableError ObserveResult}

theorem commitStart_new (holds : before.table.Invariant before.budget)
    (onTime : before.table.isLatePacket meta_.timestampNs = false)
    (absent : before.table.sessions.lookup key = none)
    (room : before.table.size < before.table.config.maxActiveSessions)
    (available : before.table.nextSessionId ≠ 0)
    (sessionEq : session = .start before.table.config key binding meta_ label
      before.table.nextSessionId
      (SessionTable.estimateTrackedBytes sizes key binding.nameCapacity))
    (outcome : (before.charged session.trackedBytes).commitStart sizes allocations key binding meta_
      none session before.ended.rows.length = (result, after)) :
    before.Observed sizes key binding meta_ label result after := by
  have sessionId : session.sessionId = before.table.nextSessionId := by simp [sessionEq]
  have fresh : before.table.ids.lookup session.sessionId = none :=
    sessionId ▸ holds.fresh_id available
  have freshDeadline := holds.fresh_deadline available sessionId
  unfold commitStart at outcome
  simp only at outcome
  split at outcome
  · next closes =>
      split at outcome
      · next staged ok =>
          have keeps := stageSnapshot_keeps ok
          have released := release_charged keeps
          cases outcome
          refine @Observed.accepted _ _ _ _ _ before none
            [snapshotRow sizes key session .closed meta_.timestampNs] _ onTime ?_ ?_ ?_ ?_ ?_
          · change SessionTable.Accepts _ _ _ _ _ _ _ _
              (staged.releaseSession session.trackedBytes).table.takeId
            rw [released.table]
            exact .placedClosed absent room available sessionEq closes
          · exact released.rows
          · exact released.budget.config
          · exact fun category _ notInput => released.budget.used_ne notInput
          · change (staged.releaseSession session.trackedBytes).budget.used .sessionState =
              (staged.releaseSession session.trackedBytes).table.trackedSessionBytes
            rw [released.budget.used_ne (by decide), released.table, holds.reserved]
      · next staged failed =>
          obtain ⟨rfl, keeps⟩ := abandon_charged (stageSnapshot_keeps failed) outcome
          exact .rejected keeps
  · next stays =>
      split at outcome
      · next table ok =>
          have tableEq := @SessionTable.placeNew_ok (before.charged _).table _ _ _ _ fresh ok
          cases outcome
          subst tableEq
          refine @Observed.accepted _ _ _ _ _ before (some session) [] _ onTime ?_ ?_ ?_ ?_ ?_
          · exact .placed absent room available sessionEq (by simpa using stays)
          · exact (List.append_nil _).symm
          · rfl
          · intro category notSession _
            exact TaskBudget.used_withUsed_ne notSession
          · exact TaskBudget.used_withUsed.trans
              (congrArg (· + session.trackedBytes) holds.reserved)
      · next table failed =>
          have tableEq := @SessionTable.placeNew_failed (before.charged _).table _ _ _ _ absent
            fresh freshDeadline failed
          have keeps : (before.charged session.trackedBytes).KeepsTable
              { before.charged session.trackedBytes with table := table } [] :=
            ⟨tableEq, by simp, .refl _⟩
          obtain ⟨rfl, keeps⟩ := abandon_charged keeps outcome
          exact .rejected keeps

theorem observeNew_observed (holds : before.table.Invariant before.budget)
    (onTime : before.table.isLatePacket meta_.timestampNs = false)
    (absent : before.table.sessions.lookup key = none)
    (outcome : before.observeNew sizes allocations key binding meta_ label = (result, after)) :
    before.Observed sizes key binding meta_ label result after := by
  have same : before.KeepsTable before [] := ⟨rfl, by simp, .refl _⟩
  unfold observeNew at outcome
  split at outcome
  · cases outcome
    exact .rejected same
  · next room =>
      split at outcome
      · cases outcome
        exact .rejected same
      · next available =>
          simp only at outcome
          split at outcome
          · next reserved ok =>
              rw [reserveSession_ok ok] at outcome
              refine @commitStart_new sizes allocations _ _ _ _ _ _ _ _ holds onTime absent
                (not_le.mp room) available rfl ?_
              rw [SessionState.start_trackedBytes]
              exact outcome
          · next refused failed =>
              rw [reserveSession_refused failed] at outcome
              cases outcome
              exact .rejected same

/-- The session of a key leaves the indexes and gives back its charge. -/
theorem release_erased (holds : before.table.Invariant before.budget)
    (present : before.table.sessions.lookup key = some old) {rows : List SnapshotRow}
    (keeps : before.KeepsTable state rows) :
    { state with table := state.table.eraseSession key old }.releaseSession old.trackedBytes =
      { state with
        table := before.table.withErased key old
        budget := state.budget.withUsed .sessionState
          (before.table.trackedSessionBytes - old.trackedBytes) } := by
  have used : state.budget.used .sessionState = before.table.trackedSessionBytes :=
    (keeps.budget.used_ne (by decide)).trans holds.reserved
  have owned : old.trackedBytes ≤ state.budget.used .sessionState := used ▸ holds.owned present
  have released := @releaseSession_eq
    { state with table := state.table.eraseSession key old } _ owned
  rw [released]
  simp only [keeps.table, used]
  rfl

theorem commitStart_reused (holds : before.table.Invariant before.budget)
    (onTime : before.table.isLatePacket meta_.timestampNs = false)
    (present : before.table.sessions.lookup key = some old)
    (reuses : binding.reusesTuple key old.initialSyn = true)
    (available : before.table.nextSessionId ≠ 0)
    (sessionEq : session = .start before.table.config key binding meta_ label
      before.table.nextSessionId old.trackedBytes)
    (keeps : before.KeepsTable state [snapshotRow sizes key old .tupleReuse meta_.timestampNs])
    (outcome : state.commitStart sizes allocations key binding meta_ (some old) session
      before.ended.rows.length = (result, after)) :
    before.Observed sizes key binding meta_ label result after := by
  have sessionId : session.sessionId = before.table.nextSessionId := by simp [sessionEq]
  have charge : session.trackedBytes = old.trackedBytes := by simp [sessionEq]
  have fresh : state.table.ids.lookup session.sessionId = none := by
    rw [keeps.table, sessionId]
    exact holds.fresh_id available
  have freshDeadline : session.deadlineKey ∉ state.table.deadlines :=
    keeps.table.symm ▸ holds.fresh_deadline available sessionId
  unfold commitStart at outcome
  simp only at outcome
  split at outcome
  · next closes =>
      split at outcome
      · next staged ok =>
          have stages := stageSnapshot_keeps ok
          have both : before.KeepsTable staged
              [snapshotRow sizes key old .tupleReuse meta_.timestampNs,
                snapshotRow sizes key session .closed meta_.timestampNs] :=
            ⟨stages.table.trans keeps.table, by rw [stages.rows, keeps.rows]; simp,
              keeps.budget.trans stages.budget⟩
          rw [charge, release_erased holds present both] at outcome
          cases outcome
          refine @Observed.accepted _ _ _ _ _ before none
            [snapshotRow sizes key old .tupleReuse meta_.timestampNs,
              snapshotRow sizes key session .closed meta_.timestampNs] _ onTime ?_ ?_ ?_ ?_ ?_
          · exact .replacedClosed present reuses available sessionEq closes
          · exact both.rows
          · exact both.budget.config
          · exact fun category notSession notInput =>
              (TaskBudget.used_withUsed_ne notSession).trans (both.budget.used_ne notInput)
          · exact TaskBudget.used_withUsed
      · next staged failed =>
          have stages := stageSnapshot_keeps failed
          have both : before.KeepsTable staged
              [snapshotRow sizes key old .tupleReuse meta_.timestampNs] :=
            ⟨stages.table.trans keeps.table, by rw [stages.rows, keeps.rows]; simp,
              keeps.budget.trans stages.budget⟩
          obtain ⟨rfl, kept⟩ := abandon_keeps both outcome
          exact .rejected kept
  · next stays =>
      split at outcome
      · next table ok =>
          have tableEq := SessionTable.placeReused_ok fresh ok
          rw [keeps.table] at tableEq
          cases outcome
          subst tableEq
          refine @Observed.accepted _ _ _ _ _ before (some session)
            [snapshotRow sizes key old .tupleReuse meta_.timestampNs] _ onTime ?_ ?_ ?_ ?_ ?_
          · exact .replaced present reuses available sessionEq (by simpa using stays)
          · exact keeps.rows
          · exact keeps.budget.config
          · exact fun category _ notInput => keeps.budget.used_ne notInput
          · exact (keeps.budget.used_ne (by decide)).trans holds.reserved
      · next table failed =>
          have tableEq := SessionTable.placeReused_failed freshDeadline failed
          obtain ⟨rfl, kept⟩ := @abandon_keeps { state with table := table } _ _ _ _
            ⟨tableEq.trans keeps.table, keeps.rows, keeps.budget⟩ outcome
          exact .rejected kept

theorem observeReused_observed (holds : before.table.Invariant before.budget)
    (onTime : before.table.isLatePacket meta_.timestampNs = false)
    (present : before.table.sessions.lookup key = some old)
    (reuses : binding.reusesTuple key old.initialSyn = true)
    (outcome : before.observeReused sizes allocations key binding meta_ label old =
      (result, after)) :
    before.Observed sizes key binding meta_ label result after := by
  unfold observeReused at outcome
  split at outcome
  · cases outcome
    exact .rejected ⟨rfl, by simp, .refl _⟩
  · next available =>
      split at outcome
      · next staged ok =>
          exact commitStart_reused holds onTime present reuses available rfl
            (stageSnapshot_keeps ok) outcome
      · next staged failed =>
          obtain ⟨rfl, kept⟩ := abandon_keeps (stageSnapshot_keeps failed) outcome
          exact .rejected kept

theorem observeExisting_observed (holds : before.table.Invariant before.budget)
    (onTime : before.table.isLatePacket meta_.timestampNs = false)
    (present : before.table.sessions.lookup key = some old)
    (continues : binding.reusesTuple key old.initialSyn = false)
    (outcome : before.observeExisting sizes allocations key binding meta_ old = (result, after)) :
    before.Observed sizes key binding meta_ label result after := by
  unfold observeExisting at outcome
  simp only at outcome
  generalize sessionEq : old.observe before.table.config key binding meta_ = session at outcome
  split at outcome
  · next closes =>
      split at outcome
      · next staged ok =>
          have keeps := stageSnapshot_keeps ok
          rw [release_erased holds present keeps] at outcome
          cases outcome
          refine @Observed.accepted _ _ _ _ _ before none
            [snapshotRow sizes key session .closed meta_.timestampNs] _ onTime ?_ ?_ ?_ ?_ ?_
          · exact .updatedClosed present continues sessionEq.symm closes
          · exact keeps.rows
          · exact keeps.budget.config
          · exact fun category notSession notInput =>
              (TaskBudget.used_withUsed_ne notSession).trans (keeps.budget.used_ne notInput)
          · exact TaskBudget.used_withUsed
      · next staged failed =>
          obtain ⟨rfl, kept⟩ := abandon_keeps (stageSnapshot_keeps failed) outcome
          exact .rejected kept
  · next stays =>
      cases outcome
      refine @Observed.accepted _ _ _ _ _ before (some session) [] _ onTime ?_ ?_ ?_ ?_ ?_
      · exact .updated present continues sessionEq.symm (by simpa using stays)
      · exact (List.append_nil _).symm
      · rfl
      · exact fun _ _ _ => rfl
      · exact holds.reserved

/-- What `Observe` does with a packet that has a key. -/
theorem observe_observed (holds : before.table.Invariant before.budget)
    (keyed : binding.key = some key)
    (outcome : before.observe sizes allocations binding meta_ label = (result, after)) :
    before.Observed sizes key binding meta_ label result after := by
  unfold observe at outcome
  simp only [keyed] at outcome
  split at outcome
  · cases outcome
    exact .rejected ⟨rfl, by simp, .refl _⟩
  · next notLate =>
      have onTime : before.table.isLatePacket meta_.timestampNs = false := by simpa using notLate
      split at outcome
      · next absent => exact observeNew_observed holds onTime absent outcome
      · next old present =>
          split at outcome
          · next reuses => exact observeReused_observed holds onTime present reuses outcome
          · next continues =>
              exact observeExisting_observed holds onTime present (by simpa using continues) outcome

end TableState

end Flowsql.Npm
