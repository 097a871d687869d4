import Flowsql.Npm.SessionIndexes

/-!
# Sessions that end without a packet

An advance of the capture progress retires the sessions whose deadline has come, in the
order of the deadlines, and the end of the input retires all of them.
-/

namespace Flowsql.Npm

open Flowsql.Library

/-- An entry of the session maps. -/
abbrev SessionEntry := (_ : SessionKey) × SessionState

/-- The row of a snapshot of an entry. -/
def SessionEntry.row (sizes : TableSizes) (reason : SessionEndReason)
    (observedAtNs : SessionState → Int) (entry : SessionEntry) : SnapshotRow :=
  snapshotRow sizes entry.1 entry.2 reason (observedAtNs entry.2)

/-- The session that a deadline node belongs to. -/
def SessionTable.owner (node : DeadlineKey) (table : SessionTable) : Option SessionEntry :=
  match table.ids.lookup (ofLex node).2 with
  | none => none
  | some key => (table.sessions.lookup key).map fun session => ⟨key, session⟩

theorem SessionTable.Invariant.owner_eq {table : SessionTable} {budget : TaskBudget}
    (holds : table.Invariant budget) {entry : SessionEntry}
    (member : entry ∈ table.sessions.entries) : table.owner entry.2.deadlineKey = some entry := by
  obtain ⟨key, session⟩ := entry
  have found := mem_entries.mp member
  have known : table.ids.lookup session.sessionId = some key :=
    holds.lookup_ids.mpr ⟨session, found, rfl⟩
  simp [owner, known, found]

theorem SessionTable.Invariant.of_same {table next : SessionTable} {budget after : TaskBudget}
    (holds : table.Invariant budget) (sessions : next.sessions = table.sessions)
    (ids : next.ids = table.ids) (deadlines : next.deadlines = table.deadlines)
    (tracked : next.trackedSessionBytes = table.trackedSessionBytes)
    (config : next.config = table.config) (nextSessionId : next.nextSessionId = table.nextSessionId)
    (reserved : after.used .sessionState = budget.used .sessionState) : next.Invariant after := by
  refine ⟨?_, ?_, ?_, ?_, ?_, ?_, ?_⟩
  · rw [ids, sessions]
    exact holds.ids
  · rw [deadlines, sessions]
    exact holds.deadlines
  · rw [tracked, sessions]
    exact holds.tracked
  · rw [reserved, tracked]
    exact holds.reserved
  · rw [SessionTable.size, sessions, config]
    exact holds.limited
  · rw [sessions, nextSessionId]
    exact holds.assigned
  · rw [nextSessionId]
    exact holds.representable

namespace TableState

variable {sizes : TableSizes} {state before after : TableState} {done : Bool}

theorem KeepsTable.trans {middle : TableState} {first second : List SnapshotRow}
    (left : before.KeepsTable middle first) (right : middle.KeepsTable after second) :
    before.KeepsTable after (first ++ second) :=
  ⟨right.table.trans left.table, by rw [right.rows, left.rows, List.append_assoc],
    left.budget.trans right.budget⟩

theorem prepareRows_keeps {arrays : ArrayAllocations} {count4 count6 : Nat}
    (prepared : state.prepareRows sizes arrays count4 count6 = (done, after)) :
    state.KeepsTable after [] := by
  unfold prepareRows at prepared
  split at prepared
  · generalize outcome : state.ended.prepare _ _ _ _ _ _ = result at prepared
    obtain ⟨ok, ended, budget⟩ := result
    cases prepared
    obtain ⟨rowsEq, changes⟩ := SnapshotBatch.prepare_keeps outcome
    exact ⟨rfl, by simp [rowsEq], changes⟩
  · cases prepared
    exact ⟨rfl, by simp, .refl _⟩

/-- The snapshots that the sessions of these entries get, in their order. -/
theorem stageDue_keeps {allocations : Nat → AppendAllocations} {observedAtNs : Int}
    (holds : state.table.Invariant before.budget) {expired : List SessionEntry}
    (members : ∀ entry ∈ expired, entry ∈ state.table.sessions.entries)
    (staged : state.stageDue sizes allocations observedAtNs
      (expired.map fun entry => entry.2.deadlineKey) = (done, after)) :
    ∃ rows, state.KeepsTable after rows ∧
      (done = true → rows = expired.map (SessionEntry.row sizes .idleTimeout fun _ => observedAtNs)) := by
  induction expired generalizing state with
  | nil =>
      cases staged
      exact ⟨[], ⟨rfl, by simp, .refl _⟩, fun _ => rfl⟩
  | cons entry expired ih =>
      obtain ⟨key, session⟩ := entry
      have found := mem_entries.mp (members _ List.mem_cons_self)
      have known : state.table.ids.lookup session.sessionId = some key :=
        holds.lookup_ids.mpr ⟨session, found, rfl⟩
      simp only [List.map_cons, stageDue, SessionState.deadlineKey_snd, known, found, if_true]
        at staged
      split at staged
      · next middle appended =>
          have keeps := appendSnapshot_keeps appended
          rw [← keeps.table] at holds
          obtain ⟨rows, rest, rowsEq⟩ := ih holds
            (fun entry member => keeps.table ▸ members entry (List.mem_cons_of_mem _ member)) staged
          exact ⟨_, keeps.trans rest, fun ok => by rw [rowsEq ok]; rfl⟩
      · next failed =>
          have keeps := appendSnapshot_keeps staged
          refine ⟨_, keeps, fun ok => ?_⟩
          subst ok
          exact absurd staged (failed after)

/-! ## Retiring -/

/-- Some sessions have left the table, and nothing else has changed but the budget. -/
structure Retires (before after : TableState) (expired : List SessionEntry) : Prop where
  entries : before.table.sessions.entries.Perm (expired ++ after.table.sessions.entries)
  holds : after.table.Invariant after.budget
  ended : after.ended = before.ended
  config : after.table.config = before.table.config
  nextSessionId : after.table.nextSessionId = before.table.nextSessionId
  initialized : after.table.watermarkInitialized = before.table.watermarkInitialized
  watermark : after.table.watermarkNs = before.table.watermarkNs
  budget : before.budget.OnlyChanges .sessionState after.budget

theorem retire_eq {key : SessionKey} {session : SessionState}
    (holds : state.table.Invariant state.budget)
    (found : state.table.sessions.lookup key = some session) :
    state.retire session.deadlineKey =
      { state with
        table := state.table.withErased key session
        budget := state.budget.withUsed .sessionState
          (state.table.trackedSessionBytes - session.trackedBytes) } := by
  have known : state.table.ids.lookup session.sessionId = some key :=
    holds.lookup_ids.mpr ⟨session, found, rfl⟩
  have owned : session.trackedBytes ≤ state.budget.used .sessionState :=
    holds.reserved ▸ holds.owned found
  have released := @releaseSession_eq { state with
    table := { state.table with sessions := state.table.sessions.erase key } } _ owned
  simp only [retire, SessionState.deadlineKey_snd, known, found, if_true, released, holds.reserved]
  rfl

theorem retire_retires {entry : SessionEntry} (holds : state.table.Invariant state.budget)
    (member : entry ∈ state.table.sessions.entries) :
    state.Retires (state.retire entry.2.deadlineKey) [entry] := by
  obtain ⟨key, session⟩ := entry
  have found := mem_entries.mp member
  rw [retire_eq holds found]
  exact ⟨entries_erase_perm found, holds.erased found TaskBudget.used_withUsed, rfl, rfl, rfl, rfl,
    rfl, .withUsed⟩

/-- The loop that retires sessions. -/
theorem foldl_retire {expired : List SessionEntry} {rest : List SessionEntry}
    (holds : state.table.Invariant state.budget)
    (split : state.table.sessions.entries.Perm (expired ++ rest)) :
    state.Retires ((expired.map fun entry => entry.2.deadlineKey).foldl retire state) expired := by
  induction expired generalizing state with
  | nil => exact ⟨.refl _, holds, rfl, rfl, rfl, rfl, rfl, .refl _⟩
  | cons entry expired ih =>
      have member : entry ∈ state.table.sessions.entries := split.mem_iff.mpr List.mem_cons_self
      have first := retire_retires holds member
      have remains : (state.retire entry.2.deadlineKey).table.sessions.entries.Perm
          (expired ++ rest) := (first.entries.symm.trans split).cons_inv
      have others := ih first.holds remains
      exact ⟨first.entries.trans (others.entries.cons _), others.holds,
        others.ended.trans first.ended, others.config.trans first.config,
        others.nextSessionId.trans first.nextSessionId,
        others.initialized.trans first.initialized, others.watermark.trans first.watermark,
        first.budget.trans others.budget⟩

/-- The entries whose deadlines are due, in the order of the deadlines. -/
def dueEntries (watermarkNs : Int) (table : SessionTable) : List SessionEntry :=
  (dueNodes watermarkNs table).filterMap table.owner

section Due

variable {table : SessionTable} {budget : TaskBudget} {watermarkNs : Int}

theorem mem_dueNodes {node : DeadlineKey} :
    node ∈ dueNodes watermarkNs table ↔ node ∈ table.deadlines ∧ (ofLex node).1 ≤ watermarkNs := by
  unfold dueNodes
  rw [OrderedSet.mem_upTo, decide_eq_true_eq]
  intro low high below within
  simp only [decide_eq_true_eq] at within ⊢
  exact (Prod.Lex.monotone_fst _ _ below).trans within

theorem owner_mem (holds : table.Invariant budget) {node : DeadlineKey}
    (known : node ∈ table.deadlines) :
    ∃ entry ∈ table.sessions.entries, entry.2.deadlineKey = node ∧ table.owner node = some entry := by
  obtain ⟨key, session, found, same⟩ := holds.mem_deadlines.mp known
  have member : (⟨key, session⟩ : SessionEntry) ∈ table.sessions.entries := mem_entries.mpr found
  exact ⟨_, member, same, same ▸ holds.owner_eq member⟩

theorem map_dueEntries (holds : table.Invariant budget) :
    (dueEntries watermarkNs table).map (fun entry => entry.2.deadlineKey) =
      dueNodes watermarkNs table := by
  have known : ∀ node ∈ dueNodes watermarkNs table, node ∈ table.deadlines :=
    fun node member => (mem_dueNodes.mp member).1
  unfold dueEntries
  generalize dueNodes watermarkNs table = nodes at known ⊢
  induction nodes with
  | nil => rfl
  | cons node nodes ih =>
      obtain ⟨entry, _, same, owner⟩ := owner_mem holds (known node List.mem_cons_self)
      rw [List.filterMap_cons, owner, List.map_cons, same,
        ih fun node member => known node (List.mem_cons_of_mem _ member)]

theorem mem_dueEntries (holds : table.Invariant budget) {entry : SessionEntry} :
    entry ∈ dueEntries watermarkNs table ↔
      entry ∈ table.sessions.entries ∧ entry.2.idleDeadlineNs ≤ watermarkNs := by
  unfold dueEntries
  rw [List.mem_filterMap]
  constructor
  · rintro ⟨node, due, owner⟩
    obtain ⟨known, within⟩ := mem_dueNodes.mp due
    obtain ⟨other, member, same, ownerEq⟩ := owner_mem holds known
    obtain rfl : other = entry := Option.some.inj (ownerEq.symm.trans owner)
    rw [← same] at within
    exact ⟨member, within⟩
  · rintro ⟨member, within⟩
    have known : entry.2.deadlineKey ∈ table.deadlines :=
      holds.mem_deadlines.mpr ⟨_, _, mem_entries.mp member, rfl⟩
    exact ⟨_, mem_dueNodes.mpr ⟨known, within⟩, holds.owner_eq member⟩

theorem nodup_entries (table : SessionTable) : table.sessions.entries.Nodup :=
  table.sessions.nodupKeys.nodup

theorem nodup_dueEntries (holds : table.Invariant budget) :
    (dueEntries watermarkNs table).Nodup := by
  have nodes : (dueNodes watermarkNs table).Nodup :=
    table.deadlines.nodup.sublist (OrderedSet.upTo_sublist _)
  rw [← map_dueEntries holds] at nodes
  exact nodes.of_map _

/-- The due entries, and those that stay. -/
theorem split_due (holds : table.Invariant budget) :
    table.sessions.entries.Perm (dueEntries watermarkNs table ++
      table.sessions.entries.filter fun entry => !decide (entry.2.idleDeadlineNs ≤ watermarkNs)) := by
  have due : (dueEntries watermarkNs table).Perm
      (table.sessions.entries.filter fun entry => decide (entry.2.idleDeadlineNs ≤ watermarkNs)) := by
    refine (List.perm_ext_iff_of_nodup (nodup_dueEntries holds)
      ((nodup_entries table).filter _)).mpr fun entry => ?_
    rw [mem_dueEntries holds, List.mem_filter, decide_eq_true_eq]
  exact ((due.append_right _).trans (List.filter_append_perm _ _)).symm

end Due

/-! ## The calls -/

theorem deferral_ne_advanced {config : AnalysisConfig} {update : CaptureProgressUpdate}
    {disposition : CaptureProgressDisposition} (deferred : deferral config update = some disposition) :
    disposition ≠ .advanced := by
  rintro rfl
  unfold deferral at deferred
  split_ifs at deferred <;> cases deferred

/-- The outcome of `AdvanceCaptureProgress`. -/
inductive Progressed (sizes : TableSizes) (update : CaptureProgressUpdate) (before : TableState) :
    Option CaptureProgressResult → TableState → Prop where
  | deferred {disposition : CaptureProgressDisposition}
      (deferral : deferral before.table.config update = some disposition) :
      Progressed sizes update before
        (some ⟨disposition, before.table.watermarkInitialized, before.table.watermarkNs, 0, 0⟩) before
  | unchanged (prompt : deferral before.table.config update = none)
      (initialized : before.table.watermarkInitialized = true)
      (notLater : candidateWatermark before.table.config update ≤ before.table.watermarkNs) :
      Progressed sizes update before
        (some ⟨.unchanged, before.table.watermarkInitialized, before.table.watermarkNs, 0, 0⟩) before
  | thrown {after : TableState} (keeps : before.KeepsTable after []) :
      Progressed sizes update before none after
  | advanced {after : TableState} (prompt : deferral before.table.config update = none)
      (later : before.table.watermarkInitialized = true →
        before.table.watermarkNs < candidateWatermark before.table.config update)
      (entries : before.table.sessions.entries.Perm
        (dueEntries (candidateWatermark before.table.config update) before.table ++
          after.table.sessions.entries))
      (remaining : ∀ entry ∈ after.table.sessions.entries,
        candidateWatermark before.table.config update < entry.2.idleDeadlineNs)
      (ended : after.ended.rows = before.ended.rows ++
        (dueEntries (candidateWatermark before.table.config update) before.table).map
          (SessionEntry.row sizes .idleTimeout fun _ => update.captureTimeNs))
      (holds : after.table.Invariant after.budget)
      (config : after.table.config = before.table.config)
      (nextSessionId : after.table.nextSessionId = before.table.nextSessionId)
      (initialized : after.table.watermarkInitialized = true)
      (watermark : after.table.watermarkNs = candidateWatermark before.table.config update)
      (budgetConfig : after.budget.config = before.budget.config)
      (others : ∀ category, category ≠ .sessionState → category ≠ .inputBatch →
        after.budget.used category = before.budget.used category) :
      Progressed sizes update before
        (some ⟨.advanced, true, candidateWatermark before.table.config update,
          before.ended.rows.length, after.ended.rows.length⟩) after

theorem stageExpired_keeps {arrays : ArrayAllocations} {allocations : Nat → AppendAllocations}
    {observedAtNs watermarkNs : Int} (holds : before.table.Invariant before.budget)
    (staged : before.stageExpired sizes arrays allocations observedAtNs
      (dueNodes watermarkNs before.table) = (done, after)) :
    ∃ rows, before.KeepsTable after rows ∧
      (done = true → rows = (dueEntries watermarkNs before.table).map
        (SessionEntry.row sizes .idleTimeout fun _ => observedAtNs)) := by
  unfold stageExpired at staged
  split at staged
  · next prepared ok =>
      have keeps := prepareRows_keeps ok
      rw [← map_dueEntries holds] at staged
      obtain ⟨rows, stages, rowsEq⟩ := @stageDue_keeps _ _ before _ _ _ _
        (keeps.table.symm ▸ holds) _
        (fun entry member => keeps.table.symm ▸ ((mem_dueEntries holds).mp member).1) staged
      exact ⟨_, keeps.trans stages, rowsEq⟩
  · next failed =>
      refine ⟨[], prepareRows_keeps staged, fun ok => ?_⟩
      subst ok
      exact absurd staged (failed after)

theorem setWatermark_table {staged : TableState} {rows : List SnapshotRow}
    (keeps : before.KeepsTable staged rows) (watermarkNs : Int) :
    (staged.setWatermark watermarkNs).table.sessions = before.table.sessions ∧
      (staged.setWatermark watermarkNs).table.config = before.table.config ∧
      (staged.setWatermark watermarkNs).table.nextSessionId = before.table.nextSessionId := by
  simp only [setWatermark, keeps.table, and_self]

/-- The watermark moves, and the sessions that are due leave. -/
theorem setWatermark_retires {staged : TableState} {rows : List SnapshotRow}
    (holds : before.table.Invariant before.budget) (keeps : before.KeepsTable staged rows)
    (watermarkNs : Int) :
    (staged.setWatermark watermarkNs).Retires
      ((dueNodes watermarkNs before.table).foldl retire (staged.setWatermark watermarkNs))
      (dueEntries watermarkNs before.table) := by
  have advancedHolds : (staged.setWatermark watermarkNs).table.Invariant
      (staged.setWatermark watermarkNs).budget := by
    simp only [setWatermark, keeps.table]
    exact holds.of_same rfl rfl rfl rfl rfl rfl (keeps.budget.used_ne (by decide))
  have split := @split_due before.table before.budget watermarkNs holds
  rw [← (setWatermark_table keeps watermarkNs).1] at split
  have retires := foldl_retire advancedHolds split
  rwa [map_dueEntries holds] at retires

theorem advance_progressed {arrays : ArrayAllocations} {allocations : Nat → AppendAllocations}
    {update : CaptureProgressUpdate} {result : Option CaptureProgressResult}
    (holds : before.table.Invariant before.budget)
    (outcome : before.advanceCaptureProgress sizes arrays allocations update = (result, after)) :
    before.Progressed sizes update result after := by
  unfold advanceCaptureProgress at outcome
  simp only at outcome
  split at outcome
  · next disposition deferral =>
      cases outcome
      exact .deferred deferral
  · next prompt =>
      split at outcome
      · next old =>
          cases outcome
          exact .unchanged prompt old.1 old.2
      · next moves =>
          split at outcome
          · next staged ok =>
              obtain ⟨rows, keeps, rowsEq⟩ := stageExpired_keeps holds ok
              have retires := setWatermark_retires holds keeps
                (candidateWatermark before.table.config update)
              cases outcome
              rw [rowsEq rfl] at keeps
              obtain ⟨sessionsEq, configEq, nextEq⟩ := setWatermark_table keeps
                (candidateWatermark before.table.config update)
              have entries := sessionsEq ▸ retires.entries
              have rowsAfter := (congrArg SnapshotBatch.rows retires.ended).trans keeps.rows
              have lengths : staged.ended.rows.length = _ :=
                (congrArg (fun ended => ended.rows.length) retires.ended).symm
              rw [lengths]
              refine .advanced prompt ?_ entries ?_ rowsAfter retires.holds
                (retires.config.trans configEq) (retires.nextSessionId.trans nextEq)
                retires.initialized retires.watermark
                (retires.budget.config.trans keeps.budget.config)
                (fun category notSession notInput => (retires.budget.used_ne notSession).trans
                  (keeps.budget.used_ne notInput))
              · intro initialized
                exact not_le.mp fun notLater => moves ⟨initialized, notLater⟩
              · intro entry member
                have stays := (List.perm_append_left_iff _).mp
                  (entries.symm.trans (split_due holds))
                simpa using (List.mem_filter.mp (stays.mem_iff.mp member)).2
          · next staged failed =>
              obtain ⟨rows, keeps, _⟩ := stageExpired_keeps holds failed
              cases outcome
              exact .thrown (truncate_keeps keeps)

/-! ## The end of the input -/

theorem familyEntries_perm (table : SessionTable) :
    (familyEntries table).Perm table.sessions.entries :=
  List.filter_append_perm _ _

theorem stageEntries_keeps {allocations : SessionKey → AppendAllocations}
    {entries : List SessionEntry}
    (staged : state.stageEntries sizes allocations entries = (done, after)) :
    ∃ rows, state.KeepsTable after rows ∧
      (done = true → rows = entries.map (SessionEntry.row sizes .eof SessionState.lastNs)) := by
  induction entries generalizing state with
  | nil =>
      cases staged
      exact ⟨[], ⟨rfl, by simp, .refl _⟩, fun _ => rfl⟩
  | cons entry entries ih =>
      obtain ⟨key, session⟩ := entry
      unfold stageEntries at staged
      split at staged
      · next middle appended =>
          obtain ⟨rows, rest, rowsEq⟩ := ih staged
          exact ⟨_, (appendSnapshot_keeps appended).trans rest, fun ok => by rw [rowsEq ok]; rfl⟩
      · next failed =>
          refine ⟨_, appendSnapshot_keeps staged, fun ok => ?_⟩
          subst ok
          exact absurd staged (failed after)

/-- The outcome of `FinishAllAtEof`. -/
inductive Finished (sizes : TableSizes) (before : TableState) : Option TableError → TableState → Prop
  where
  | failed {after : TableState} (table : after.table = before.table)
      (ended : after.ended = before.ended)
      (budget : before.budget.OnlyChanges .inputBatch after.budget) :
      Finished sizes before (some .allocationFailed) after
  | finished {after : TableState}
      (table : after.table = { before.table with
        sessions := ∅
        ids := ∅
        deadlines := .empty
        trackedSessionBytes := 0 })
      (ended : after.ended.rows.Perm
        (before.table.sessions.entries.map (SessionEntry.row sizes .eof SessionState.lastNs)))
      (sorted : after.ended.rows.Pairwise fun left right =>
        left.facts.sessionId ≤ right.facts.sessionId)
      (config : after.budget.config = before.budget.config)
      (others : ∀ category, category ≠ .sessionState → category ≠ .inputBatch →
        after.budget.used category = before.budget.used category)
      (reserved : after.budget.used .sessionState = 0) :
      Finished sizes before none after

theorem stageAll_keeps {arrays : ArrayAllocations} {allocations : SessionKey → AppendAllocations}
    (staged : state.stageAll sizes arrays allocations = (done, after)) :
    ∃ rows, state.KeepsTable after rows ∧
      (done = true → rows = (familyEntries state.table).map
        (SessionEntry.row sizes .eof SessionState.lastNs)) := by
  unfold stageAll at staged
  simp only at staged
  split at staged
  · next prepared ok =>
      obtain ⟨rows, stages, rowsEq⟩ := stageEntries_keeps staged
      exact ⟨_, (prepareRows_keeps ok).trans stages, rowsEq⟩
  · next failed =>
      refine ⟨_, prepareRows_keeps staged, fun ok => ?_⟩
      subst ok
      exact absurd staged (failed after)

theorem sorted_rows (rows : List SnapshotRow) :
    (rows.insertionSort fun left right => left.facts.sessionId ≤ right.facts.sessionId).Pairwise
      fun left right => left.facts.sessionId ≤ right.facts.sessionId := by
  have total : Std.Total fun left right : SnapshotRow =>
      left.facts.sessionId ≤ right.facts.sessionId := ⟨fun _ _ => le_total _ _⟩
  have trans : IsTrans SnapshotRow fun left right =>
      left.facts.sessionId ≤ right.facts.sessionId := ⟨fun _ _ _ => le_trans⟩
  exact List.pairwise_insertionSort _ rows

theorem finish_finished {arrays : ArrayAllocations} {allocations : SessionKey → AppendAllocations}
    {result : Option TableError} (holds : before.table.Invariant before.budget)
    (outcome : before.finishAllAtEof sizes arrays allocations = (result, after)) :
    before.Finished sizes result after := by
  unfold finishAllAtEof at outcome
  split at outcome
  · next staged ok =>
      obtain ⟨rows, keeps, rowsEq⟩ := stageAll_keeps ok
      have used : staged.budget.used .sessionState = before.table.trackedSessionBytes :=
        (keeps.budget.used_ne (by decide)).trans holds.reserved
      have tracked : staged.table.trackedSessionBytes = before.table.trackedSessionBytes :=
        congrArg SessionTable.trackedSessionBytes keeps.table
      have released := @releaseSession_eq staged.clearSessions staged.table.trackedSessionBytes
        (tracked.trans used.symm).le
      simp only [released] at outcome
      cases outcome
      refine .finished ?_ ?_ (sorted_rows _) ?_ ?_ ?_
      · simp [clearSessions, keeps.table]
      · refine (List.perm_insertionSort _ _).trans ?_
        rw [keeps.rows, rowsEq rfl]
        exact (familyEntries_perm before.table).map _
      · exact (SnapshotBatch.onlyChanges_clear.config).trans keeps.budget.config
      · intro category notSession notInput
        refine (SnapshotBatch.onlyChanges_clear.used_ne notInput).trans ?_
        exact (TaskBudget.used_withUsed_ne notSession).trans (keeps.budget.used_ne notInput)
      · refine (SnapshotBatch.onlyChanges_clear.used_ne (by decide)).trans ?_
        rw [TaskBudget.used_withUsed, tracked]
        exact Nat.sub_eq_zero_of_le used.le
  · next staged failed =>
      obtain ⟨rows, keeps, _⟩ := stageAll_keeps failed
      cases outcome
      exact .failed keeps.table rfl (keeps.budget.trans SnapshotBatch.onlyChanges_clear)

end TableState

end Flowsql.Npm
