import Flowsql.Npm.SessionCalls

/-!
# The indexes of the session table

Every call keeps the indexes in step with the sessions.
-/

namespace Flowsql.Npm

open Flowsql.Library

namespace SessionTable

variable {table next : SessionTable} {budget after : TaskBudget} {key : SessionKey}
  {old session : SessionState}

namespace Invariant

/-- Giving out an id. -/
theorem takeId (ids : table.ids.entries.Perm
      (table.sessions.entries.map fun entry => ⟨entry.2.sessionId, entry.1⟩))
    (deadlines : table.deadlines.elements.Perm
      (table.sessions.entries.map fun entry => entry.2.deadlineKey))
    (tracked : table.trackedSessionBytes =
      (table.sessions.entries.map fun entry => entry.2.trackedBytes).sum)
    (reserved : after.used .sessionState = table.trackedSessionBytes)
    (limited : table.size ≤ table.config.maxActiveSessions)
    (assigned : ∀ entry ∈ table.sessions.entries,
      0 < entry.2.sessionId ∧ entry.2.sessionId ≤ table.nextSessionId)
    (representable : table.nextSessionId ≤ maxUInt64) : table.takeId.Invariant after := by
  refine ⟨ids, deadlines, tracked, reserved, limited, fun entry member => ?_, ?_⟩
  · refine ⟨(assigned entry member).1, fun available => ?_⟩
    have bounded := (assigned entry member).2
    unfold SessionTable.takeId addUInt64 at available ⊢
    unfold maxUInt64 at representable
    simp only at available ⊢
    omega
  · unfold SessionTable.takeId addUInt64 maxUInt64
    simp only
    omega

theorem bounded (holds : table.Invariant budget) (available : table.nextSessionId ≠ 0)
    {entry : (_ : SessionKey) × SessionState} (member : entry ∈ table.sessions.entries) :
    0 < entry.2.sessionId ∧ entry.2.sessionId ≤ table.nextSessionId :=
  ⟨(holds.assigned entry member).1, ((holds.assigned entry member).2 available).le⟩

theorem placed (holds : table.Invariant budget) (available : table.nextSessionId ≠ 0)
    (absent : table.sessions.lookup key = none)
    (room : table.size < table.config.maxActiveSessions)
    (sessionId : session.sessionId = table.nextSessionId)
    (reserved : after.used .sessionState = table.trackedSessionBytes + session.trackedBytes) :
    (table.withPlaced key session).takeId.Invariant after := by
  have fresh : table.ids.lookup session.sessionId = none := sessionId ▸ holds.fresh_id available
  have entriesEq := entries_insert session absent
  refine takeId ?_ ?_ ?_ reserved ?_ ?_ holds.representable
  · simp only [withPlaced, entriesEq, entries_insert key fresh, List.map_cons]
    exact holds.ids.cons _
  · simp only [withPlaced, entriesEq, List.map_cons]
    exact (OrderedSet.insert_perm (holds.fresh_deadline available sessionId)).trans
      (holds.deadlines.cons _)
  · simp only [withPlaced, entriesEq, List.map_cons, List.sum_cons, holds.tracked]
    exact Nat.add_comm _ _
  · simp only [size, withPlaced, entriesEq, List.length_cons]
    exact room
  · simp only [withPlaced, entriesEq, List.mem_cons]
    rintro entry (rfl | member)
    · exact ⟨sessionId ▸ Nat.pos_of_ne_zero available, sessionId.le⟩
    · exact holds.bounded available member

/-- What is left of the indexes without one session. -/
theorem erase_perms (holds : table.Invariant budget)
    (present : table.sessions.lookup key = some old) :
    (table.ids.erase old.sessionId).entries.Perm
        ((table.sessions.erase key).entries.map fun entry => ⟨entry.2.sessionId, entry.1⟩) ∧
      (table.deadlines.erase old.deadlineKey).elements.Perm
        ((table.sessions.erase key).entries.map fun entry => entry.2.deadlineKey) ∧
      table.trackedSessionBytes = old.trackedBytes +
        ((table.sessions.erase key).entries.map fun entry => entry.2.trackedBytes).sum ∧
      table.size = (table.sessions.erase key).entries.length + 1 := by
  have split := entries_erase_perm present
  have known : table.ids.lookup old.sessionId = some key := holds.lookup_ids.mpr ⟨old, present, rfl⟩
  have node : old.deadlineKey ∈ table.deadlines := holds.mem_deadlines.mpr ⟨key, old, present, rfl⟩
  refine ⟨?_, ?_, ?_, split.length_eq⟩
  · exact ((entries_erase_perm known).symm.trans (holds.ids.trans (split.map _))).cons_inv
  · exact ((OrderedSet.erase_perm node).symm.trans (holds.deadlines.trans (split.map _))).cons_inv
  · rw [holds.tracked, (split.map _).sum_eq, List.map_cons, List.sum_cons]

theorem mem_of_mem_erase {entry : (_ : SessionKey) × SessionState}
    (member : entry ∈ (table.sessions.erase key).entries) : entry ∈ table.sessions.entries :=
  (List.kerase_sublist key table.sessions.entries).subset member

theorem erased (holds : table.Invariant budget) (present : table.sessions.lookup key = some old)
    (reserved : after.used .sessionState = table.trackedSessionBytes - old.trackedBytes) :
    (table.withErased key old).Invariant after := by
  obtain ⟨ids, deadlines, tracked, size⟩ := holds.erase_perms present
  refine ⟨ids, deadlines, ?_, reserved, ?_, ?_, holds.representable⟩
  · simp only [withErased, eraseSession, tracked]
    omega
  · have limited := holds.limited
    simp only [SessionTable.size, withErased, eraseSession] at *
    omega
  · exact fun entry member => holds.assigned entry (mem_of_mem_erase member)

theorem erasedTakeId (holds : table.Invariant budget) (available : table.nextSessionId ≠ 0)
    (present : table.sessions.lookup key = some old)
    (reserved : after.used .sessionState = table.trackedSessionBytes - old.trackedBytes) :
    (table.withErased key old).takeId.Invariant after := by
  have erased := holds.erased present reserved
  exact takeId erased.ids erased.deadlines erased.tracked erased.reserved erased.limited
    (fun entry member => holds.bounded available (mem_of_mem_erase member)) holds.representable

theorem replaced (holds : table.Invariant budget) (available : table.nextSessionId ≠ 0)
    (present : table.sessions.lookup key = some old)
    (sessionId : session.sessionId = table.nextSessionId)
    (charge : session.trackedBytes = old.trackedBytes)
    (reserved : after.used .sessionState = table.trackedSessionBytes) :
    (table.withReplaced key old session).takeId.Invariant after := by
  obtain ⟨ids, deadlines, tracked, size⟩ := holds.erase_perms present
  have fresh : table.ids.lookup session.sessionId = none := sessionId ▸ holds.fresh_id available
  have freshDeadline := holds.fresh_deadline available sessionId
  have known : table.ids.lookup old.sessionId = some key := holds.lookup_ids.mpr ⟨old, present, rfl⟩
  have node : old.deadlineKey ∈ table.deadlines := holds.mem_deadlines.mpr ⟨key, old, present, rfl⟩
  have split := entries_replace_perm session present
  refine takeId ?_ ?_ ?_ reserved ?_ ?_ holds.representable
  · refine List.Perm.trans ?_ (split.map _).symm
    exact (entries_insert_erase_perm fresh known).trans (ids.cons _)
  · refine List.Perm.trans ?_ (split.map _).symm
    exact (OrderedSet.insert_erase_perm freshDeadline node).trans (deadlines.cons _)
  · simp only [withReplaced]
    rw [tracked, (split.map _).sum_eq, List.map_cons, List.sum_cons, charge]
  · have limited := holds.limited
    simp only [SessionTable.size, withReplaced, split.length_eq, List.length_cons] at *
    omega
  · intro entry member
    rcases List.mem_cons.mp (split.mem_iff.mp member) with rfl | kept
    · exact ⟨sessionId ▸ Nat.pos_of_ne_zero available, sessionId.le⟩
    · exact holds.bounded available (mem_of_mem_erase kept)

/-- A node with the id of a session is the node of that session. -/
theorem deadline_eq (holds : table.Invariant budget)
    (present : table.sessions.lookup key = some old) (sameId : session.sessionId = old.sessionId)
    (node : session.deadlineKey ∈ table.deadlines) : session.deadlineKey = old.deadlineKey := by
  obtain ⟨other, owner, found, same⟩ := holds.mem_deadlines.mp node
  have ownerId : owner.sessionId = old.sessionId :=
    (congrArg (fun node => (ofLex node).2) same).trans sameId
  have first := holds.lookup_ids.mpr ⟨owner, found, ownerId⟩
  have second := holds.lookup_ids.mpr ⟨old, present, rfl⟩
  obtain rfl : other = key := Option.some.inj (first.symm.trans second)
  obtain rfl : owner = old := Option.some.inj (found.symm.trans present)
  exact same.symm

theorem updated (holds : table.Invariant budget) (present : table.sessions.lookup key = some old)
    (sameId : session.sessionId = old.sessionId) (charge : session.trackedBytes = old.trackedBytes)
    (reserved : after.used .sessionState = table.trackedSessionBytes) :
    (table.updateSession key old session).Invariant after := by
  obtain ⟨ids, deadlines, tracked, size⟩ := holds.erase_perms present
  have known : table.ids.lookup old.sessionId = some key := holds.lookup_ids.mpr ⟨old, present, rfl⟩
  have node : old.deadlineKey ∈ table.deadlines := holds.mem_deadlines.mpr ⟨key, old, present, rfl⟩
  have split := entries_replace_perm session present
  refine ⟨?_, ?_, ?_, reserved, ?_, ?_, holds.representable⟩
  · refine List.Perm.trans ?_ (split.map _).symm
    rw [List.map_cons, sameId]
    exact (entries_erase_perm known).trans (ids.cons _)
  · refine List.Perm.trans ?_ (split.map _).symm
    unfold updateSession
    split_ifs with moves
    · refine (OrderedSet.insert_perm fun member => ?_).trans (deadlines.cons _)
      exact moves (holds.deadline_eq present sameId (OrderedSet.mem_erase.mp member).2)
    · rw [List.map_cons, not_not.mp moves]
      exact (OrderedSet.erase_perm node).trans (deadlines.cons _)
  · simp only [updateSession]
    rw [tracked, (split.map _).sum_eq, List.map_cons, List.sum_cons, charge]
  · have limited := holds.limited
    simp only [SessionTable.size, updateSession, split.length_eq, List.length_cons] at *
    omega
  · intro entry member
    rcases List.mem_cons.mp (split.mem_iff.mp member) with rfl | kept
    · have assigned := holds.assigned _ (mem_entries.mpr present)
      exact ⟨sameId ▸ assigned.1, fun available => sameId ▸ assigned.2 available⟩
    · exact holds.assigned entry (mem_of_mem_erase kept)

/-- An accepted packet keeps the indexes in step. -/
theorem accepts {sizes : TableSizes} {binding : PacketBinding} {meta_ : PacketMeta} {label : UInt32}
    {active : Option SessionState} {rows : List SnapshotRow} (holds : table.Invariant budget)
    (accepts : table.Accepts sizes key binding meta_ label active rows next)
    (reserved : after.used .sessionState = next.trackedSessionBytes) : next.Invariant after := by
  cases accepts with
  | placed absent room available sessionEq stays =>
      exact holds.placed available absent room (by simp [sessionEq]) reserved
  | placedClosed absent room available sessionEq closes =>
      exact takeId holds.ids holds.deadlines holds.tracked reserved holds.limited
        (fun entry member => holds.bounded available member) holds.representable
  | replaced present reuses available sessionEq stays =>
      exact holds.replaced available present (by simp [sessionEq]) (by simp [sessionEq]) reserved
  | replacedClosed present reuses available sessionEq closes =>
      exact holds.erasedTakeId available present reserved
  | updated present continues sessionEq stays =>
      exact holds.updated present (by simp [sessionEq]) (by simp [sessionEq]) reserved
  | updatedClosed present continues sessionEq closes => exact holds.erased present reserved

end Invariant

end SessionTable

end Flowsql.Npm
