import Flowsql.Npm.SessionRuns
import Mathlib

/-!
# The books of the session table

Every instance that was ever started is either active or has one ended snapshot, and its
counters are those of the packets that were accepted for it, as far as `uint64_t` counts.
-/

namespace Flowsql.Npm

open Flowsql.Library

/-- The counters of one session instance. -/
structure Tally where
  sessionId : Nat
  packetsAb : Nat := 0
  packetsBa : Nat := 0
  wireBytesAb : Nat := 0
  wireBytesBa : Nat := 0

namespace Tally

def packets (direction : PacketDirection) (tally : Tally) : Nat :=
  match direction with
  | .aToB => tally.packetsAb
  | .bToA => tally.packetsBa

def wireBytes (direction : PacketDirection) (tally : Tally) : Nat :=
  match direction with
  | .aToB => tally.wireBytesAb
  | .bToA => tally.wireBytesBa

/-- The counters after one more packet. -/
def count (direction : PacketDirection) (wireLen : UInt32) (tally : Tally) : Tally :=
  match direction with
  | .aToB =>
      { tally with
        packetsAb := addUInt64 tally.packetsAb 1
        wireBytesAb := addUInt64 tally.wireBytesAb wireLen.toNat }
  | .bToA =>
      { tally with
        packetsBa := addUInt64 tally.packetsBa 1
        wireBytesBa := addUInt64 tally.wireBytesBa wireLen.toNat }

@[simp] theorem count_sessionId (direction : PacketDirection) (wireLen : UInt32) (tally : Tally) :
    (tally.count direction wireLen).sessionId = tally.sessionId := by
  cases direction <;> rfl

theorem packets_count (direction other : PacketDirection) (wireLen : UInt32) (tally : Tally) :
    (tally.count direction wireLen).packets other =
      if direction = other then addUInt64 (tally.packets other) 1 else tally.packets other := by
  cases direction <;> cases other <;> rfl

theorem wireBytes_count (direction other : PacketDirection) (wireLen : UInt32) (tally : Tally) :
    (tally.count direction wireLen).wireBytes other =
      if direction = other then addUInt64 (tally.wireBytes other) wireLen.toNat
      else tally.wireBytes other := by
  cases direction <;> cases other <;> rfl

end Tally

def SessionState.tally (session : SessionState) : Tally :=
  ⟨session.sessionId, session.packetsAb, session.packetsBa, session.wireBytesAb,
    session.wireBytesBa⟩

def SnapshotRow.tally (row : SnapshotRow) : Tally :=
  ⟨row.facts.sessionId, row.facts.packetsAb, row.facts.packetsBa, row.facts.wireBytesAb,
    row.facts.wireBytesBa⟩

@[simp] theorem snapshotRow_tally (sizes : TableSizes) (key : SessionKey) (session : SessionState)
    (reason : SessionEndReason) (observedAtNs : Int) :
    (snapshotRow sizes key session reason observedAtNs).tally = session.tally := by
  unfold snapshotRow SnapshotRow.tally SessionState.endedView
  split <;> rfl

namespace SessionState

theorem tally_countPacket (direction : PacketDirection) (meta_ : PacketMeta)
    (session : SessionState) :
    (session.countPacket direction meta_).tally = session.tally.count direction meta_.wireLen := by
  cases direction <;> rfl

@[simp] theorem tally_touch (config : AnalysisConfig) (key : SessionKey) (timestampNs : Int)
    (session : SessionState) : (session.touch config key timestampNs).tally = session.tally := by
  unfold touch
  split <;> rfl

/-- A session starts with the counters of its first packet. -/
theorem tally_start (config : AnalysisConfig) (key : SessionKey) (binding : PacketBinding)
    (meta_ : PacketMeta) (label : UInt32) (sessionId charge : Nat) :
    (start config key binding meta_ label sessionId charge).tally =
      Tally.count binding.direction meta_.wireLen { sessionId := sessionId } := by
  rw [start, tally_countPacket]
  rfl

/-- A further packet is counted once. -/
theorem tally_observe (config : AnalysisConfig) (key : SessionKey) (binding : PacketBinding)
    (meta_ : PacketMeta) (session : SessionState) :
    (session.observe config key binding meta_).tally =
      session.tally.count binding.direction meta_.wireLen := by
  change SessionState.tally (countPacket _ _ _) = _
  rw [tally_countPacket, tally_touch]
  rfl

theorem SameTracking.tally {before after : SessionState} (same : before.SameTracking after) :
    after.tally = before.tally := by
  simp [SessionState.tally, same.sessionId, same.packetsAb, same.packetsBa, same.wireBytesAb,
    same.wireBytesBa]

end SessionState

@[simp] theorem snapshotRow_sessionId (sizes : TableSizes) (key : SessionKey)
    (session : SessionState) (reason : SessionEndReason) (observedAtNs : Int) :
    (snapshotRow sizes key session reason observedAtNs).facts.sessionId = session.sessionId :=
  congrArg Tally.sessionId (snapshotRow_tally sizes key session reason observedAtNs)

/-- The accepted packets of an instance. -/
def packetsOf (sessionId : Nat) (accepted : List AcceptedPacket) : List AcceptedPacket :=
  accepted.filter fun packet => decide (packet.sessionId = sessionId)

/-- The number of packets in one direction. -/
def packetCount (direction : PacketDirection) (packets : List AcceptedPacket) : Nat :=
  (packets.map fun packet => if packet.direction = direction then 1 else 0).sum

/-- The bytes on the wire in one direction. -/
def wireByteCount (direction : PacketDirection) (packets : List AcceptedPacket) : Nat :=
  (packets.map fun packet => if packet.direction = direction then packet.wireLen.toNat else 0).sum

/-- The counters after these packets. -/
def tallyOf (sessionId : Nat) (packets : List AcceptedPacket) : Tally :=
  packets.foldl (fun tally packet => tally.count packet.direction packet.wireLen)
    { sessionId := sessionId }

theorem tallyOf_concat (sessionId : Nat) (packets : List AcceptedPacket) (packet : AcceptedPacket) :
    tallyOf sessionId (packets ++ [packet]) =
      (tallyOf sessionId packets).count packet.direction packet.wireLen := by
  simp [tallyOf]

/-- `uint64_t` counters count modulo 2 to the 64. -/
theorem tallyOf_packets (sessionId : Nat) (direction : PacketDirection)
    (packets : List AcceptedPacket) :
    (tallyOf sessionId packets).packets direction = packetCount direction packets % 2 ^ 64 := by
  induction packets using List.reverseRecOn with
  | nil => cases direction <;> rfl
  | append_singleton packets packet ih =>
      rw [tallyOf_concat, Tally.packets_count, ih]
      unfold packetCount addUInt64
      simp only [List.map_append, List.map_cons, List.map_nil, List.sum_append, List.sum_singleton]
      split <;> omega

theorem tallyOf_wireBytes (sessionId : Nat) (direction : PacketDirection)
    (packets : List AcceptedPacket) :
    (tallyOf sessionId packets).wireBytes direction = wireByteCount direction packets % 2 ^ 64 := by
  induction packets using List.reverseRecOn with
  | nil => cases direction <;> rfl
  | append_singleton packets packet ih =>
      rw [tallyOf_concat, Tally.wireBytes_count, ih]
      unfold wireByteCount addUInt64
      simp only [List.map_append, List.map_cons, List.map_nil, List.sum_append, List.sum_singleton]
      split <;> omega

/-! ## The books -/

/-- The counters of the instances agree with the accepted packets. -/
structure Balanced (tallies : List Tally) (started : List Nat) (accepted : List AcceptedPacket) :
    Prop where
  instances : (tallies.map Tally.sessionId).Perm started
  nodup : started.Nodup
  known : ∀ packet ∈ accepted, packet.sessionId ∈ started
  counted : ∀ tally ∈ tallies, tally = tallyOf tally.sessionId (packetsOf tally.sessionId accepted)

theorem packetsOf_concat_self (accepted : List AcceptedPacket) (packet : AcceptedPacket) :
    packetsOf packet.sessionId (accepted ++ [packet]) =
      packetsOf packet.sessionId accepted ++ [packet] := by
  simp [packetsOf]

theorem packetsOf_concat_ne {sessionId : Nat} (accepted : List AcceptedPacket)
    {packet : AcceptedPacket} (different : packet.sessionId ≠ sessionId) :
    packetsOf sessionId (accepted ++ [packet]) = packetsOf sessionId accepted := by
  simp [packetsOf, different]

namespace Balanced

variable {tallies rest : List Tally} {started : List Nat} {accepted : List AcceptedPacket}

theorem perm {others : List Tally} (balanced : Balanced tallies started accepted)
    (same : others.Perm tallies) : Balanced others started accepted :=
  ⟨(same.map _).trans balanced.instances, balanced.nodup, balanced.known,
    fun tally member => balanced.counted tally (same.mem_iff.mp member)⟩

theorem mem_started (balanced : Balanced tallies started accepted) {tally : Tally}
    (member : tally ∈ tallies) : tally.sessionId ∈ started :=
  balanced.instances.mem_iff.mp (List.mem_map_of_mem member)

/-- An instance starts with its first packet. -/
theorem start (balanced : Balanced tallies started accepted) (packet : AcceptedPacket)
    (fresh : packet.sessionId ∉ started) :
    Balanced (Tally.count packet.direction packet.wireLen { sessionId := packet.sessionId } :: tallies)
      (started ++ [packet.sessionId]) (accepted ++ [packet]) := by
  have none_ : packetsOf packet.sessionId accepted = [] := by
    refine List.filter_eq_nil_iff.mpr fun other member => ?_
    have known := balanced.known other member
    simp only [decide_eq_true_eq]
    exact fun same => fresh (same ▸ known)
  refine ⟨?_, ?_, ?_, ?_⟩
  · rw [List.map_cons, Tally.count_sessionId]
    exact (balanced.instances.cons _).trans (List.perm_append_singleton _ _).symm
  · exact (List.perm_append_singleton _ _).nodup_iff.mpr
      (List.nodup_cons.mpr ⟨fresh, balanced.nodup⟩)
  · intro other member
    rcases List.mem_append.mp member with old | new
    · exact List.mem_append_left _ (balanced.known other old)
    · rw [List.mem_singleton.mp new]
      exact List.mem_append_right _ (List.mem_singleton_self _)
  · intro tally member
    rcases List.mem_cons.mp member with rfl | old
    · rw [Tally.count_sessionId, packetsOf_concat_self, none_]
      rfl
    · have different : packet.sessionId ≠ tally.sessionId :=
        fun same => fresh (same ▸ balanced.mem_started old)
      rw [packetsOf_concat_ne accepted different]
      exact balanced.counted tally old

/-- A further packet of an instance. -/
theorem again {old : Tally} (balanced : Balanced (old :: rest) started accepted)
    (packet : AcceptedPacket) (same : packet.sessionId = old.sessionId) :
    Balanced (old.count packet.direction packet.wireLen :: rest) started (accepted ++ [packet]) := by
  have nodup := balanced.instances.nodup_iff.mpr balanced.nodup
  rw [List.map_cons, List.nodup_cons] at nodup
  refine ⟨?_, balanced.nodup, ?_, ?_⟩
  · rw [List.map_cons, Tally.count_sessionId]
    exact balanced.instances
  · intro other member
    rcases List.mem_append.mp member with earlier | new
    · exact balanced.known other earlier
    · rw [List.mem_singleton.mp new, same]
      exact balanced.mem_started List.mem_cons_self
  · intro tally member
    rcases List.mem_cons.mp member with rfl | other
    · rw [Tally.count_sessionId, ← same, packetsOf_concat_self, tallyOf_concat, same,
        ← balanced.counted old List.mem_cons_self]
    · have different : packet.sessionId ≠ tally.sessionId := fun sameId =>
        nodup.1 (same ▸ sameId ▸ List.mem_map_of_mem other)
      rw [packetsOf_concat_ne accepted different]
      exact balanced.counted tally (List.mem_cons_of_mem _ other)

theorem sum_map_single {sessionId weight : Nat} (nodup : started.Nodup)
    (member : sessionId ∈ started) :
    (started.map fun other => if sessionId = other then weight else 0).sum = weight := by
  induction started with
  | nil => cases member
  | cons first started ih =>
      obtain ⟨notLater, restNodup⟩ := List.nodup_cons.mp nodup
      rw [List.map_cons, List.sum_cons]
      by_cases same : sessionId = first
      · have others : ∀ other ∈ started, (if sessionId = other then weight else 0) = 0 :=
          fun other later => if_neg fun sameOther : sessionId = other => notLater (same ▸ sameOther ▸ later)
        rw [if_pos same, List.map_congr_left others]
        simp
      · rw [if_neg same, ih restNodup ((List.mem_cons.mp member).resolve_left same), Nat.zero_add]

/-- The packets of an instance weigh what they weigh among all packets, whatever the
instances are, as long as each packet has one. -/
theorem sum_packetsOf (weight : AcceptedPacket → Nat) (nodup : started.Nodup)
    (known : ∀ packet ∈ accepted, packet.sessionId ∈ started) :
    (started.map fun sessionId => ((packetsOf sessionId accepted).map weight).sum).sum =
      (accepted.map weight).sum := by
  induction accepted with
  | nil => simp [packetsOf]
  | cons packet accepted ih =>
      have rest := ih fun other member => known other (List.mem_cons_of_mem _ member)
      have added : ∀ sessionId, ((packetsOf sessionId (packet :: accepted)).map weight).sum =
          (if packet.sessionId = sessionId then weight packet else 0) +
            ((packetsOf sessionId accepted).map weight).sum := by
        intro sessionId
        by_cases same : packet.sessionId = sessionId <;> simp [packetsOf, same]
      simp only [added, List.sum_map_add, rest, List.map_cons, List.sum_cons]
      rw [sum_map_single nodup (known packet List.mem_cons_self)]

end Balanced

/-! ## Runs -/

section Runs

variable {sizes : TableSizes} {table next : SessionTable} {budget : TaskBudget}
  {history : TableHistory}

/-- The counters of all instances: of the active ones and of those that have ended. -/
def tallies (table : SessionTable) (ended : List SnapshotRow) : List Tally :=
  table.sessions.entries.map (fun entry => entry.2.tally) ++ ended.map SnapshotRow.tally

/-- What a history knows of a table. -/
structure Recorded (table : SessionTable) (history : TableHistory) : Prop where
  balanced : Balanced (tallies table history.ended) history.started history.accepted
  assigned : ∀ sessionId ∈ history.started,
    0 < sessionId ∧ (table.nextSessionId ≠ 0 → sessionId < table.nextSessionId)

/-- An instance ends with the counters that it has. -/
theorem tallies_concat (ended : List SnapshotRow) (row : SnapshotRow) (active : List Tally) :
    (active ++ (ended ++ [row]).map SnapshotRow.tally).Perm
      (row.tally :: (active ++ ended.map SnapshotRow.tally)) := by
  rw [List.map_append, ← List.append_assoc]
  exact List.perm_append_singleton _ _

/-- What an accepted packet does to the counters: it starts an instance or is counted in
one that is there. -/
theorem tallies_accepts {key : SessionKey} {binding : PacketBinding} {meta_ : PacketMeta}
    {label : UInt32} {active : Option SessionState} {rows : List SnapshotRow}
    (ended : List SnapshotRow)
    (accepts : table.Accepts sizes key binding meta_ label active rows next) :
    ∃ session : SessionState, (active = some session ∨
        active = none ∧ ∃ row, rows.getLast? = some row ∧ row.facts.sessionId = session.sessionId) ∧
      ((table.nextSessionId ≠ 0 ∧ session.sessionId = table.nextSessionId ∧
          next.nextSessionId = addUInt64 table.nextSessionId 1 ∧
          session.tally = Tally.count binding.direction meta_.wireLen
            { sessionId := session.sessionId } ∧
          (tallies next (ended ++ rows)).Perm (session.tally :: tallies table ended)) ∨
        ∃ old rest, table.sessions.lookup key = some old ∧ session.sessionId = old.sessionId ∧
          next.nextSessionId = table.nextSessionId ∧
          session.tally = old.tally.count binding.direction meta_.wireLen ∧
          (tallies table ended).Perm (old.tally :: rest) ∧
          (tallies next (ended ++ rows)).Perm (session.tally :: rest)) := by
  cases accepts with
  | @placed session absent room available sessionEq stays =>
      refine ⟨session, .inl rfl, .inl ⟨available, by simp [sessionEq], rfl, ?_, ?_⟩⟩
      · rw [sessionEq, SessionState.tally_start, SessionState.start_sessionId]
      · unfold tallies
        simp only [SessionTable.takeId, SessionTable.withPlaced, entries_insert session absent,
          List.append_nil, List.map_cons, List.cons_append]
        exact .refl _
  | @placedClosed session absent room available sessionEq closes =>
      refine ⟨session, .inr ⟨rfl, _, rfl, snapshotRow_sessionId ..⟩,
        .inl ⟨available, by simp [sessionEq], rfl, ?_, ?_⟩⟩
      · rw [sessionEq, SessionState.tally_start, SessionState.start_sessionId]
      · have appended := tallies_concat ended (snapshotRow sizes key session .closed meta_.timestampNs)
          (table.sessions.entries.map fun entry => entry.2.tally)
        rwa [snapshotRow_tally] at appended
  | @replaced old session present reuses available sessionEq stays =>
      refine ⟨session, .inl rfl, .inl ⟨available, by simp [sessionEq], rfl, ?_, ?_⟩⟩
      · rw [sessionEq, SessionState.tally_start, SessionState.start_sessionId]
      · have replaced := (entries_replace_perm session present).map fun entry => entry.2.tally
        have erased := (entries_erase_perm present).map fun entry => entry.2.tally
        have appended := tallies_concat ended (snapshotRow sizes key old .tupleReuse meta_.timestampNs)
          ((table.sessions.erase key).entries.map fun entry => entry.2.tally)
        rw [snapshotRow_tally] at appended
        exact (replaced.append_right _).trans
          ((appended.trans (erased.append_right _).symm).cons session.tally)
  | @replacedClosed old session present reuses available sessionEq closes =>
      refine ⟨session, .inr ⟨rfl, _, rfl, snapshotRow_sessionId ..⟩,
        .inl ⟨available, by simp [sessionEq], rfl, ?_, ?_⟩⟩
      · rw [sessionEq, SessionState.tally_start, SessionState.start_sessionId]
      · have erased := (entries_erase_perm present).map fun entry => entry.2.tally
        have first := tallies_concat ended (snapshotRow sizes key old .tupleReuse meta_.timestampNs)
          ((table.sessions.erase key).entries.map fun entry => entry.2.tally)
        have last := tallies_concat (ended ++ [snapshotRow sizes key old .tupleReuse meta_.timestampNs])
          (snapshotRow sizes key session .closed meta_.timestampNs)
          ((table.sessions.erase key).entries.map fun entry => entry.2.tally)
        rw [snapshotRow_tally, List.append_assoc] at last
        rw [snapshotRow_tally] at first
        exact last.trans ((first.trans (erased.append_right _).symm).cons session.tally)
  | @updated old session present continues sessionEq stays =>
      have replaced := (entries_replace_perm session present).map fun entry => entry.2.tally
      have erased := (entries_erase_perm present).map fun entry => entry.2.tally
      refine ⟨session, .inl rfl, .inr ⟨old, (table.sessions.erase key).entries.map
        (fun entry => entry.2.tally) ++ ended.map SnapshotRow.tally, present, by simp [sessionEq],
        rfl, ?_, erased.append_right _, ?_⟩⟩
      · rw [sessionEq, SessionState.tally_observe]
      · rw [List.append_nil]
        exact replaced.append_right _
  | @updatedClosed old session present continues sessionEq closes =>
      have erased := (entries_erase_perm present).map fun entry => entry.2.tally
      refine ⟨session, .inr ⟨rfl, _, rfl, snapshotRow_sessionId ..⟩,
        .inr ⟨old, (table.sessions.erase key).entries.map
          (fun entry => entry.2.tally) ++ ended.map SnapshotRow.tally, present, by simp [sessionEq],
          rfl, ?_, erased.append_right _, ?_⟩⟩
      · rw [sessionEq, SessionState.tally_observe]
      · have appended := tallies_concat ended (snapshotRow sizes key session .closed meta_.timestampNs)
          ((table.sessions.erase key).entries.map fun entry => entry.2.tally)
        rwa [snapshotRow_tally] at appended

namespace Recorded

variable {before after : TableState}

theorem same (recorded : Recorded table history)
    (entries : (next.sessions.entries.map fun entry => entry.2.tally).Perm
      (table.sessions.entries.map fun entry => entry.2.tally))
    (nextSessionId : next.nextSessionId = table.nextSessionId) : Recorded next history :=
  ⟨recorded.balanced.perm (entries.append_right _), nextSessionId ▸ recorded.assigned⟩

/-- Instances that end keep their counters. -/
theorem ended {rows : List SnapshotRow} (recorded : Recorded table history)
    (moved : (tallies next (history.ended ++ rows)).Perm (tallies table history.ended))
    (nextSessionId : next.nextSessionId = table.nextSessionId) :
    Recorded next { history with ended := history.ended ++ rows } :=
  ⟨recorded.balanced.perm moved, nextSessionId ▸ recorded.assigned⟩

theorem range_concat {rows : List SnapshotRow} (ended : after.ended.rows = before.ended.rows ++ rows) :
    after.ended.range before.ended.rows.length after.ended.rows.length = rows := by
  rw [SnapshotBatch.range, List.take_length, ended, List.drop_left]

theorem observe {allocations : ObserveAllocations} {binding : PacketBinding} {meta_ : PacketMeta}
    {label : UInt32} {result : Except TableError ObserveResult}
    (recorded : Recorded before.table history) (holds : before.table.Invariant before.budget)
    (outcome : before.observe sizes allocations binding meta_ label = (result, after)) :
    Recorded after.table (history.observe before.table binding meta_ result after.ended) := by
  cases keyed : binding.key with
  | none =>
      simp only [TableState.observe, keyed] at outcome
      cases outcome
      exact recorded
  | some key =>
      cases TableState.observe_observed holds keyed outcome with
      | rejected keeps => exact recorded.same (by rw [keeps.table]) (by rw [keeps.table])
      | @accepted active rows _ onTime accepts ended config others reserved =>
          obtain ⟨session, counts, effect⟩ := tallies_accepts history.ended accepts
          have instanceEq : ObserveResult.instanceId rows
              ⟨active.map (SessionState.view key), before.ended.rows.length,
                after.ended.rows.length⟩ = session.sessionId := by
            rcases counts with rfl | ⟨rfl, row, last, same⟩
            · rfl
            · simp [ObserveResult.instanceId, last, same]
          unfold TableHistory.observe
          simp only [range_concat ended, instanceEq, keyed, Option.bind_some]
          rcases effect with ⟨available, sessionId, nextEq, tallyEq, moved⟩ |
            ⟨old, rest, present, sessionId, nextEq, tallyEq, split, moved⟩
          · have fresh : (before.table.sessions.lookup key).map SessionState.sessionId ≠
                some session.sessionId := by
              intro known
              obtain ⟨old, found, same⟩ := Option.map_eq_some_iff.mp known
              exact holds.fresh available found (same.trans sessionId)
            rw [if_neg fresh]
            refine ⟨?_, ?_⟩
            · have started := recorded.balanced.start
                ⟨session.sessionId, binding.direction, meta_.wireLen⟩ fun member =>
                  ((recorded.assigned _ member).2 available).ne sessionId
              rw [← tallyEq] at started
              exact started.perm moved
            · intro other member
              have positive := Nat.pos_of_ne_zero available
              have representable := holds.representable
              rw [nextEq]
              unfold addUInt64
              unfold maxUInt64 at representable
              rcases List.mem_append.mp member with earlier | new
              · have assigned := recorded.assigned other earlier
                exact ⟨assigned.1, fun _ => by have := assigned.2 available; omega⟩
              · have otherEq := List.mem_singleton.mp new
                exact ⟨by omega, fun _ => by omega⟩
          · have known : (before.table.sessions.lookup key).map SessionState.sessionId =
                some session.sessionId := by rw [present, Option.map_some, sessionId]
            rw [if_pos known, List.append_nil]
            refine ⟨?_, nextEq ▸ recorded.assigned⟩
            have again := (recorded.balanced.perm split.symm).again
              ⟨session.sessionId, binding.direction, meta_.wireLen⟩ sessionId
            rw [← tallyEq] at again
            exact again.perm moved

theorem map_tally (reason : SessionEndReason) (observedAtNs : SessionState → Int)
    (entries : List SessionEntry) :
    (entries.map (SessionEntry.row sizes reason observedAtNs)).map SnapshotRow.tally =
      entries.map fun entry => entry.2.tally := by
  simp [SessionEntry.row, Function.comp_def]

theorem advance {update : CaptureProgressUpdate} {result : Option CaptureProgressResult}
    (recorded : Recorded before.table history)
    (progressed : before.Progressed sizes update result after) :
    Recorded after.table (history.advance result after.ended) := by
  cases progressed with
  | deferred deferral =>
      simpa [TableHistory.advance, SnapshotBatch.range] using recorded
  | unchanged prompt initialized notLater =>
      simpa [TableHistory.advance, SnapshotBatch.range] using recorded
  | thrown keeps => exact recorded.same (by rw [keeps.table]) (by rw [keeps.table])
  | advanced prompt later entries remaining ended holds config nextEq initialized watermark
      budgetConfig others =>
      unfold TableHistory.advance
      simp only [range_concat ended]
      refine recorded.ended ?_ nextEq
      unfold tallies
      rw [List.map_append, map_tally]
      have moved := (entries.map fun entry => entry.2.tally).append_right
        (history.ended.map SnapshotRow.tally)
      rw [List.map_append] at moved
      refine List.Perm.trans ?_ moved.symm
      rw [← List.append_assoc]
      exact List.perm_append_comm.trans (by rw [List.append_assoc])

theorem finish {result : Option TableError} (recorded : Recorded before.table history)
    (finished : before.Finished sizes result after) :
    Recorded after.table (history.finish result after.ended) := by
  cases finished with
  | failed table ended budget => exact recorded.same (by rw [table]) (by rw [table])
  | finished table ended sorted config others reserved =>
      unfold TableHistory.finish
      refine recorded.ended ?_ (by rw [table])
      unfold tallies
      rw [table, List.map_append]
      have moved := ended.map SnapshotRow.tally
      rw [map_tally] at moved
      exact ((moved.append_left _).trans List.perm_append_comm)

theorem sample {key : SessionKey} {sessionId : Nat} {payload : ByteSpan}
    {identified : IdentifiedProtocol} (recorded : Recorded table history) :
    Recorded (table.sampleProtocol key sessionId payload identified).2 history := by
  rcases table.sampleProtocol_cases with same | ⟨old, sampled, found, same, tableEq⟩
  · exact same.symm ▸ recorded
  · rw [tableEq]
    exact recorded.same (SessionTable.replace_map _ found same.tally) rfl

end Recorded

theorem TableRun.recorded (run : TableRun sizes table budget history) : Recorded table history := by
  induction run with
  | create config budget unused =>
      exact ⟨⟨.refl _, .nil, fun _ member => absurd member List.not_mem_nil,
        fun _ member => absurd member List.not_mem_nil⟩,
        fun _ member => absurd member List.not_mem_nil⟩
  | observe run outcome ih => exact ih.observe run.invariant outcome
  | advance run outcome ih => exact ih.advance (TableState.advance_progressed run.invariant outcome)
  | finish run outcome ih => exact ih.finish (TableState.finish_finished run.invariant outcome)
  | sample run key sessionId payload identified ih => exact ih.sample
  | others run after kept ih => exact ih

end Runs

/-! ## The watermark -/

/-- Once there is a watermark it stays, and does not decrease. -/
def SessionTable.WatermarkKept (before after : SessionTable) : Prop :=
  before.watermarkInitialized = true →
    after.watermarkInitialized = true ∧ before.watermarkNs ≤ after.watermarkNs

namespace SessionTable.WatermarkKept

variable {sizes : TableSizes} {table next : SessionTable} {before after : TableState}

theorem of_same (initialized : next.watermarkInitialized = table.watermarkInitialized)
    (watermark : next.watermarkNs = table.watermarkNs) : table.WatermarkKept next :=
  fun known => ⟨initialized.trans known, watermark.ge⟩

theorem accepts {key : SessionKey} {binding : PacketBinding} {meta_ : PacketMeta} {label : UInt32}
    {active : Option SessionState} {rows : List SnapshotRow}
    (accepts : table.Accepts sizes key binding meta_ label active rows next) :
    next.watermarkInitialized = table.watermarkInitialized ∧
      next.watermarkNs = table.watermarkNs := by
  cases accepts <;> exact ⟨rfl, rfl⟩

theorem observe {allocations : ObserveAllocations} {binding : PacketBinding} {meta_ : PacketMeta}
    {label : UInt32} {result : Except TableError ObserveResult}
    (holds : before.table.Invariant before.budget)
    (outcome : before.observe sizes allocations binding meta_ label = (result, after)) :
    before.table.WatermarkKept after.table := by
  cases keyed : binding.key with
  | none =>
      simp only [TableState.observe, keyed] at outcome
      cases outcome
      exact of_same rfl rfl
  | some key =>
      cases TableState.observe_observed holds keyed outcome with
      | rejected keeps => exact keeps.table ▸ of_same rfl rfl
      | accepted _ accepted _ _ _ _ => exact of_same (accepts accepted).1 (accepts accepted).2

theorem advance {update : CaptureProgressUpdate} {result : Option CaptureProgressResult}
    (progressed : before.Progressed sizes update result after) :
    before.table.WatermarkKept after.table := by
  cases progressed with
  | deferred | unchanged => exact of_same rfl rfl
  | thrown keeps => exact keeps.table ▸ of_same rfl rfl
  | advanced _ later _ _ _ _ _ _ initialized watermark =>
      exact fun known => ⟨initialized, watermark ▸ (later known).le⟩

theorem finish {result : Option TableError} (finished : before.Finished sizes result after) :
    before.table.WatermarkKept after.table := by
  cases finished with
  | failed table _ _ => exact table ▸ of_same rfl rfl
  | finished table _ _ _ _ _ => exact table ▸ of_same rfl rfl

end SessionTable.WatermarkKept

/-- In every run the indexes list the active sessions and nothing else, there are no more
sessions than the limit allows, no id is given twice, and the session charge is that of
the active sessions. No call takes the watermark back, and an advance leaves no session
whose deadline the watermark has reached. -/
theorem session_indexes {sizes : TableSizes} {table : SessionTable} {budget : TaskBudget}
    {history : TableHistory} (run : TableRun sizes table budget history) :
    table.ids.entries.Perm
        (table.sessions.entries.map fun entry => ⟨entry.2.sessionId, entry.1⟩) ∧
      table.deadlines.elements.Perm
        (table.sessions.entries.map fun entry =>
          toLex (entry.2.idleDeadlineNs, entry.2.sessionId)) ∧
      table.size ≤ table.config.maxActiveSessions ∧
      history.started.Nodup ∧
      (table.sessions.entries.map (fun entry => entry.2.sessionId) ++
        history.ended.map fun row => row.facts.sessionId).Perm history.started ∧
      table.trackedSessionBytes =
        (table.sessions.entries.map fun entry => entry.2.trackedBytes).sum ∧
      budget.used .sessionState = table.trackedSessionBytes ∧
      (∀ allocations binding meta_ label ended result after,
        TableState.observe sizes allocations binding meta_ label ⟨table, ended, budget⟩ =
            (result, after) →
          table.WatermarkKept after.table) ∧
      (∀ arrays allocations output result after,
        TableState.finishAllAtEof sizes arrays allocations ⟨table, output, budget⟩ =
            (result, after) →
          table.WatermarkKept after.table) ∧
      ∀ arrays allocations update ended result after,
        TableState.advanceCaptureProgress sizes arrays allocations update
            ⟨table, ended, budget⟩ = (result, after) →
          table.WatermarkKept after.table ∧
            ∀ progress, result = some progress → progress.disposition = .advanced →
              after.table.watermarkInitialized = true ∧
                ∀ entry ∈ after.table.sessions.entries,
                  after.table.watermarkNs < entry.2.idleDeadlineNs := by
  have holds := run.invariant
  have balanced := run.recorded.balanced
  refine ⟨holds.ids, holds.deadlines, holds.limited, balanced.nodup, ?_, holds.tracked,
    holds.reserved, ?_, ?_, ?_⟩
  · have instances := balanced.instances
    rw [tallies, List.map_append, List.map_map, List.map_map] at instances
    exact instances
  · exact fun _ _ _ _ _ _ _ outcome => SessionTable.WatermarkKept.observe holds outcome
  · exact fun _ _ _ _ _ outcome =>
      SessionTable.WatermarkKept.finish (TableState.finish_finished holds outcome)
  · intro arrays allocations update ended result after outcome
    have progressed := TableState.advance_progressed holds outcome
    refine ⟨.advance progressed, fun progress resultEq advanced => ?_⟩
    subst resultEq
    cases progressed with
    | deferred deferral =>
        have notAdvanced := TableState.deferral_ne_advanced deferral
        exact absurd advanced notAdvanced
    | unchanged => cases advanced
    | advanced _ _ _ remaining _ _ _ _ initialized watermark =>
        exact ⟨initialized, fun entry member => watermark ▸ remaining entry member⟩

/-- Sizes as a 64-bit platform has them. -/
def tableSizes : TableSizes :=
  { snapshots :=
      { key4 := 64
        key6 := 88
        row := 120
        batch := 120
        nameCapacity := fun name => max 15 name.utf8ByteSize
        key4_pos := by decide
        key6_pos := by decide
        row_pos := by decide }
    session4 := 400
    session6 := 424 }

/-- A host of the network of the sample. -/
def sampleHost (host : UInt8) : Vector UInt8 4 := #v[10, 0, 0, host]

/-- A packet of one UDP session. -/
def datagram (direction : PacketDirection) : PacketBinding :=
  { key := some (.ipv4
      { aIp := sampleHost 1
        bIp := sampleHost 2
        observationDomainId := 0
        inputNamespace := ""
        aPort := 53
        bPort := 4000
        transportProtocol := udpProtocol })
    nameCapacity := 15
    direction := direction
    payload := ⟨none, 0, by simp⟩
    transport :=
      { payloadWireBytes := 0
        payloadCapturedBytes := 0
        payloadComplete := true
        tcp := { valid := false, syn := false, fin := false, rst := false, sequence := 0 } }
    acknowledgment := none }

/-- A table that has seen one packet. -/
def tableAfterDatagram : TableState :=
  (TableState.observe tableSizes {} (datagram .aToB) ⟨5, 60⟩ 0 ⟨.create {}, {}, ⟨{}, {}⟩⟩).2

theorem session_indexes_datagram :
    tableAfterDatagram.table.deadlines.elements = [toLex (30000000005, 1)] ∧
      tableAfterDatagram.table.deadlines.elements.Perm
        (tableAfterDatagram.table.sessions.entries.map fun entry =>
          toLex (entry.2.idleDeadlineNs, entry.2.sessionId)) := by
  have outcome : TableState.observe tableSizes {} (datagram .aToB) ⟨5, 60⟩ 0
      ⟨.create {}, {}, ⟨{}, {}⟩⟩ = (_, tableAfterDatagram) := rfl
  have run := (@TableRun.create tableSizes {} ⟨{}, {}⟩ rfl).observe outcome
  exact ⟨rfl, (session_indexes run).2.1⟩

/-! ## The next deadline -/

/-- The first node is that of the session that ends first. -/
theorem SessionTable.Invariant.nextDeadline {table : SessionTable} {budget : TaskBudget}
    (holds : table.Invariant budget) :
    table.nextEventDeadlineNs = none ∧ table.sessions.entries = [] ∨
      ∃ deadline, table.nextEventDeadlineNs = some deadline ∧
        IsLeast {time | ∃ entry ∈ table.sessions.entries, entry.2.idleDeadlineNs = time} deadline := by
  unfold SessionTable.nextEventDeadlineNs
  cases nodes : table.deadlines.elements with
  | nil =>
      have none_ := holds.deadlines
      rw [nodes] at none_
      exact .inl ⟨rfl, List.map_eq_nil_iff.mp none_.nil_eq.symm⟩
  | cons first rest =>
      have sorted := table.deadlines.sorted
      rw [nodes] at sorted
      have listed {node : DeadlineKey} : node ∈ table.deadlines ↔ node = first ∨ node ∈ rest := by
        rw [OrderedSet.mem_def, nodes, List.mem_cons]
      obtain ⟨owner, member, same, -⟩ := TableState.owner_mem holds (listed.mpr (.inl rfl))
      refine .inr ⟨_, rfl, ⟨owner, member, congrArg (fun node => (ofLex node).1) same⟩, ?_⟩
      rintro _ ⟨entry, present, rfl⟩
      refine Prod.Lex.monotone_fst first entry.2.deadlineKey ?_
      rcases listed.mp (holds.mem_deadlines.mpr ⟨_, _, mem_entries.mp present, rfl⟩) with same | later
      · exact same.ge
      · exact ((List.pairwise_cons.mp sorted).1 _ later).le

/-- In every run a deadline is known exactly while there are sessions, it is the least of theirs, and an advance of
the watermark ends sessions exactly when it reaches the deadline. -/
theorem next_deadline_decides {sizes : TableSizes} {table : SessionTable} {budget : TaskBudget}
    {history : TableHistory} (run : TableRun sizes table budget history) :
    (table.nextEventDeadlineNs = none ↔ table.sessions.entries = []) ∧
      (∀ deadline, table.nextEventDeadlineNs = some deadline →
        IsLeast {time | ∃ entry ∈ table.sessions.entries, entry.2.idleDeadlineNs = time} deadline) ∧
      ∀ arrays allocations update ended progress after,
        TableState.advanceCaptureProgress sizes arrays allocations update ⟨table, ended, budget⟩ =
            (some progress, after) →
          progress.disposition = .advanced →
          (ended.rows.length < after.ended.rows.length ↔
            ∃ deadline, table.nextEventDeadlineNs = some deadline ∧ deadline ≤ progress.watermarkNs) := by
  have holds := run.invariant
  have next := holds.nextDeadline
  refine ⟨?_, fun deadline known => ?_, fun arrays allocations update ended progress after outcome advanced => ?_⟩
  · rcases next with ⟨unknown, none_⟩ | ⟨deadline, known, ⟨entry, present, -⟩, -⟩
    · simp [unknown, none_]
    · simp [known, List.ne_nil_of_mem present]
  · rcases next with ⟨unknown, -⟩ | ⟨_, known_, least⟩
    · cases unknown.symm.trans known
    · cases known_.symm.trans known
      exact least
  · cases TableState.advance_progressed holds outcome with
    | deferred deferral => exact absurd advanced (TableState.deferral_ne_advanced deferral)
    | unchanged => cases advanced
    | advanced _ _ _ _ rows =>
        rw [rows, List.length_append, List.length_map, Nat.lt_add_right_iff_pos, List.length_pos_iff_exists_mem]
        constructor
        · rintro ⟨entry, due⟩
          obtain ⟨present, reached⟩ := (TableState.mem_dueEntries holds).mp due
          rcases next with ⟨-, none_⟩ | ⟨deadline, known, least⟩
          · rw [none_] at present
            cases present
          · exact ⟨deadline, known, (least.2 ⟨entry, present, rfl⟩).trans reached⟩
        · rintro ⟨deadline, known, reached⟩
          rcases next with ⟨unknown, -⟩ | ⟨_, known_, ⟨entry, present, same⟩, -⟩
          · cases unknown.symm.trans known
          · cases known_.symm.trans known
            exact ⟨entry, (TableState.mem_dueEntries holds).mpr ⟨present, same.trans_le reached⟩⟩

theorem next_deadline_decides_datagram :
    tableAfterDatagram.table.nextEventDeadlineNs = some 30000000005 ∧
      (tableAfterDatagram.table.nextEventDeadlineNs = none ↔ tableAfterDatagram.table.sessions.entries = []) := by
  have outcome : TableState.observe tableSizes {} (datagram .aToB) ⟨5, 60⟩ 0
      ⟨.create {}, {}, ⟨{}, {}⟩⟩ = (_, tableAfterDatagram) := rfl
  have run := (@TableRun.create tableSizes {} ⟨{}, {}⟩ rfl).observe outcome
  exact ⟨rfl, (next_deadline_decides run).1⟩

end Flowsql.Npm
