import Flowsql.Npm.AdmissionPlanner
import Flowsql.Npm.SessionAccounting

/-!
# The planner and the table

Each plan is a copy of the session that the table has for the key, or it is due at the
watermark and the table has no session. So the planner answers as the table does, unless
a session is due that the table still has. That happens at the end of time only, where
the deadline cannot be later than the watermark.
-/

namespace Flowsql.Npm

open Flowsql.Library

/-! ## Sessions and their copies -/

namespace PlannedSession

variable {config : AnalysisConfig} {key : SessionKey} {binding : PacketBinding}
  {meta_ : PacketMeta} {timestampNs watermarkNs later : Int} {initialized : Bool}
  {planned : PlannedSession}

theorem ofSession_countPacket (direction : PacketDirection) (session : SessionState) :
    ofSession (session.countPacket direction meta_) = ofSession session := by
  cases direction <;> rfl

theorem ofSession_start (label : UInt32) (sessionId charge : Nat) :
    ofSession (.start config key binding meta_ label sessionId charge) =
      start config key binding meta_.timestampNs := by
  unfold SessionState.start
  rw [ofSession_countPacket]
  rfl

theorem ofSession_observe (session : SessionState) :
    ofSession (session.observe config key binding meta_) =
      (ofSession session).observe config key binding meta_.timestampNs := by
  by_cases newer : meta_.timestampNs > session.lastNs <;> cases direction : binding.direction <;>
    simp [ofSession, observe, SessionState.observe, SessionState.touch, SessionState.countPacket,
      newer, direction]

/-- A plan is due when its session is. -/
theorem expire_empty : expire initialized watermarkNs {} = {} := by
  unfold expire
  split <;> rfl

/-- What is due stays due. -/
theorem expire_later (due : planned.expire initialized watermarkNs = {})
    (notEarlier : initialized = true → watermarkNs ≤ later) :
    planned.expire true later = {} := by
  unfold expire at due
  split at due
  · next reached =>
      unfold expire
      rw [if_pos ⟨reached.1, rfl, reached.2.2.trans (notEarlier reached.2.1)⟩]
  · rw [due]
    exact expire_empty

/-- The plan for a key depends on an earlier one only where the packet continues it. -/
theorem next_admitted (required : planned.requiresAdmission key binding = true) :
    planned.next config key binding timestampNs =
      let started := start config key binding timestampNs
      if binding.closes key started.finAb started.finBa then {} else started := by
  unfold next
  rw [required]
  rfl

theorem next_continued (continues : planned.requiresAdmission key binding = false) :
    planned.next config key binding timestampNs =
      let observed := planned.observe config key binding timestampNs
      if binding.closes key observed.finAb observed.finBa then {} else observed := by
  unfold next
  rw [continues]
  rfl

theorem requires_empty : requiresAdmission key binding {} = true := rfl

theorem requires_ofSession (session : SessionState) :
    (ofSession session).requiresAdmission key binding =
      binding.reusesTuple key session.initialSyn := rfl

end PlannedSession

namespace SessionTable.Accepts

open PlannedSession

variable {sizes : TableSizes} {key other : SessionKey} {binding : PacketBinding}
  {meta_ : PacketMeta} {label : UInt32} {table next : SessionTable} {active : Option SessionState}
  {rows : List SnapshotRow}

theorem config (accepts : table.Accepts sizes key binding meta_ label active rows next) :
    next.config = table.config := by
  cases accepts <;> rfl

/-- The sessions after an accepted packet: those of other keys are as they were. -/
theorem lookup_sessions (accepts : table.Accepts sizes key binding meta_ label active rows next) :
    next.sessions.lookup other = if other = key then active else table.sessions.lookup other := by
  cases accepts with
  | placed absent =>
      split
      · next same => exact same ▸ AList.lookup_insert _
      · next different => exact AList.lookup_insert_ne different
  | placedClosed absent =>
      split
      · next same => exact same ▸ absent
      · rfl
  | replaced present | updated present =>
      refine (lookup_replace ..).trans ?_
      rw [present]
      rfl
  | replacedClosed | updatedClosed =>
      split
      · next same => exact same ▸ AList.lookup_erase _ _
      · next different => exact AList.lookup_erase_ne different

/-- A packet that starts a session. -/
theorem copy_started {session : SessionState} {sessionId charge : Nat} {planned : PlannedSession}
    (required : planned.requiresAdmission key binding = true)
    (sessionEq : session = .start table.config key binding meta_ label sessionId charge) :
    planned.next table.config key binding meta_.timestampNs =
      if binding.closes key session.finAb session.finBa then {} else ofSession session := by
  have copied : ofSession session = start table.config key binding meta_.timestampNs := by
    rw [sessionEq, ofSession_start]
  rw [next_admitted required, ← copied]
  rfl

/-- A packet that continues a session. -/
theorem copy_continued {old session : SessionState}
    (continues : binding.reusesTuple key old.initialSyn = false)
    (sessionEq : session = old.observe table.config key binding meta_) :
    (ofSession old).next table.config key binding meta_.timestampNs =
      if binding.closes key session.finAb session.finBa then {} else ofSession session := by
  have copied : ofSession session =
      (ofSession old).observe table.config key binding meta_.timestampNs := by
    rw [sessionEq, ofSession_observe]
  rw [next_continued ((requires_ofSession old).trans continues), ← copied]
  rfl

/-- The copy of the session after the packet is what the planner makes of the copy before. -/
theorem copy_next (accepts : table.Accepts sizes key binding meta_ label active rows next) :
    copy active = (copy (table.sessions.lookup key)).next table.config key binding
      meta_.timestampNs := by
  cases accepts with
  | placed absent _ _ sessionEq stays =>
      rw [absent, copy_none, copy_some, copy_started requires_empty sessionEq,
        if_neg (by simp [stays])]
  | placedClosed absent _ _ sessionEq closes =>
      rw [absent, copy_none, copy_started requires_empty sessionEq, if_pos closes]
  | replaced present reuses _ sessionEq stays =>
      rw [present, copy_some, copy_some, copy_started ((requires_ofSession _).trans reuses)
        sessionEq, if_neg (by simp [stays])]
  | replacedClosed present reuses _ sessionEq closes =>
      rw [present, copy_none, copy_some, copy_started ((requires_ofSession _).trans reuses)
        sessionEq, if_pos closes]
  | updated present continues sessionEq stays =>
      rw [present, copy_some, copy_some, copy_continued continues sessionEq,
        if_neg (by simp [stays])]
  | updatedClosed present continues sessionEq closes =>
      rw [present, copy_none, copy_some, copy_continued continues sessionEq, if_pos closes]

/-- A new instance takes an id, and the packets that start one are those that require
admission. -/
theorem takes_id (accepts : table.Accepts sizes key binding meta_ label active rows next) :
    next.nextSessionId ≠ table.nextSessionId ↔
      (copy (table.sessions.lookup key)).requiresAdmission key binding = true := by
  have taken : addUInt64 table.nextSessionId 1 ≠ table.nextSessionId := by
    unfold addUInt64
    omega
  cases accepts with
  | placed absent | placedClosed absent =>
      rw [absent]
      exact iff_of_true taken requires_empty
  | replaced present reuses | replacedClosed present reuses =>
      rw [present]
      exact iff_of_true taken ((requires_ofSession _).trans reuses)
  | updated present continues | updatedClosed present continues =>
      rw [present, copy_some, requires_ofSession, continues]
      exact iff_of_false (fun changed => changed rfl) Bool.false_ne_true

/-- The deadline of the session is that of the packet, or stays. -/
theorem deadline {session : SessionState}
    (accepts : table.Accepts sizes key binding meta_ label (some session) rows next) :
    session.idleDeadlineNs = saturatingAdd meta_.timestampNs (table.config.idleTimeout key) ∨
      ∃ old, table.sessions.lookup key = some old ∧
        session.idleDeadlineNs = old.idleDeadlineNs := by
  cases accepts with
  | placed _ _ _ sessionEq | replaced _ _ _ sessionEq =>
      rw [sessionEq, SessionState.start, SessionState.countPacket_idleDeadlineNs]
      exact .inl rfl
  | updated present _ sessionEq =>
      rw [sessionEq, SessionState.observe]
      simp only [SessionState.countPacket_idleDeadlineNs, SessionState.touch]
      split
      · exact .inl rfl
      · exact .inr ⟨_, present, rfl⟩

end SessionTable.Accepts

/-! ## Deadlines and the watermark -/

theorem lt_saturatingAdd {timestampNs timeoutNs : Int} (positive : 0 < timeoutNs) :
    timestampNs < saturatingAdd timestampNs timeoutNs ∨
      saturatingAdd timestampNs timeoutNs = maxInt64 := by
  unfold saturatingAdd
  split
  · exact .inr rfl
  split
  · omega
  · exact .inl (by omega)

theorem saturatingAdd_le {timestampNs timeoutNs : Int} (positive : 0 < timeoutNs) :
    saturatingAdd timestampNs timeoutNs ≤ maxInt64 := by
  unfold saturatingAdd
  split
  · exact le_rfl
  split
  · omega
  · omega

theorem saturatingSubtract_le {timestampNs toleranceNs : Int} (low : minInt64 ≤ timestampNs)
    (notNegative : 0 ≤ toleranceNs) : saturatingSubtract timestampNs toleranceNs ≤ timestampNs := by
  unfold saturatingSubtract
  split
  · exact low
  split
  · omega
  · omega

namespace AnalysisConfig

variable {config : AnalysisConfig}

theorem idleTimeout_pos (valid : config.valid = true) (key : SessionKey) :
    0 < config.idleTimeout key := by
  simp only [AnalysisConfig.valid, isInRange, Bool.and_eq_true, decide_eq_true_eq] at valid
  unfold idleTimeout
  split <;> omega

theorem tolerance_nonneg (valid : config.valid = true) : 0 ≤ config.outOfOrderToleranceNs := by
  simp only [AnalysisConfig.valid, isInRange, Bool.and_eq_true, decide_eq_true_eq] at valid
  omega

end AnalysisConfig

/-- No deadline is after the end of time, and a session is due only if that has come. -/
def SessionTable.Timely (table : SessionTable) : Prop :=
  ∀ key session, table.sessions.lookup key = some session →
    session.idleDeadlineNs ≤ maxInt64 ∧
      (table.watermarkInitialized = true → session.idleDeadlineNs ≤ table.watermarkNs →
        maxInt64 ≤ table.watermarkNs)

namespace SessionTable.Timely

variable {sizes : TableSizes} {table next : SessionTable} {before after : TableState}

theorem of_lookup (holds : table.Timely)
    (initialized : next.watermarkInitialized = table.watermarkInitialized)
    (watermark : next.watermarkNs = table.watermarkNs)
    (kept : ∀ key session, next.sessions.lookup key = some session →
      ∃ old, table.sessions.lookup key = some old ∧
        old.idleDeadlineNs = session.idleDeadlineNs) : next.Timely := by
  intro key session found
  obtain ⟨old, present, same⟩ := kept key session found
  rw [initialized, watermark, ← same]
  exact holds key old present

/-- A packet that is not late gives its session a deadline after the watermark. -/
theorem accepts {key : SessionKey} {binding : PacketBinding} {meta_ : PacketMeta}
    {label : UInt32} {active : Option SessionState} {rows : List SnapshotRow}
    (holds : table.Timely) (valid : table.config.valid = true)
    (onTime : table.isLatePacket meta_.timestampNs = false)
    (accepts : table.Accepts sizes key binding meta_ label active rows next) : next.Timely := by
  intro other session found
  obtain ⟨initialized, watermark⟩ := WatermarkKept.accepts accepts
  rw [initialized, watermark]
  rw [accepts.lookup_sessions] at found
  split at found
  · subst found
    rcases accepts.deadline with moved | ⟨old, present, same⟩
    · have positive := AnalysisConfig.idleTimeout_pos valid key
      rw [moved]
      refine ⟨saturatingAdd_le positive, fun known due => ?_⟩
      have reached : table.watermarkNs ≤ meta_.timestampNs := by
        simpa [isLatePacket, known] using onTime
      rcases lt_saturatingAdd positive with later | last
      · exact absurd (due.trans reached) (not_le.mpr later)
      · exact last ▸ due
    · exact same ▸ holds key old present
  · exact holds other session found

theorem advance {update : CaptureProgressUpdate} {result : Option CaptureProgressResult}
    (holds : before.table.Timely) (progressed : before.Progressed sizes update result after) :
    after.table.Timely := by
  cases progressed with
  | deferred | unchanged => exact holds
  | thrown keeps => exact keeps.table ▸ holds
  | advanced _ _ entries remaining _ _ _ _ _ watermark =>
      intro key session found
      have member : (⟨key, session⟩ : SessionEntry) ∈ after.table.sessions.entries :=
        mem_entries.mpr found
      have known := entries.symm.subset (List.mem_append_right _ member)
      refine ⟨(holds key session (mem_entries.mp known)).1, fun _ due => ?_⟩
      rw [watermark] at due
      exact absurd due (not_le.mpr (remaining _ member))

theorem sample {key : SessionKey} {sessionId : Nat} {payload : ByteSpan}
    {identified : IdentifiedProtocol} (holds : table.Timely) :
    (table.sampleProtocol key sessionId payload identified).2.Timely := by
  rcases table.sampleProtocol_cases with same | ⟨old, sampled, present, same, tableEq⟩
  · exact same.symm ▸ holds
  rw [tableEq]
  refine holds.of_lookup rfl rfl fun other session found => ?_
  rw [lookup_replace] at found
  split at found
  · next sameKey =>
      rw [present, Option.map_some, Option.some_inj] at found
      exact ⟨old, sameKey ▸ present, found ▸ same.idleDeadlineNs.symm⟩
  · exact ⟨session, found, rfl⟩

end SessionTable.Timely

/-- No call changes the configuration. -/
theorem TableState.observe_config {sizes : TableSizes} {allocations : ObserveAllocations}
    {binding : PacketBinding} {meta_ : PacketMeta} {label : UInt32}
    {result : Except TableError ObserveResult} {before after : TableState}
    (holds : before.table.Invariant before.budget)
    (outcome : before.observe sizes allocations binding meta_ label = (result, after)) :
    after.table.config = before.table.config ∧
      (before.table.config.valid = true → before.table.Timely → after.table.Timely) := by
  cases keyed : binding.key with
  | none =>
      simp only [TableState.observe, keyed] at outcome
      cases outcome
      exact ⟨rfl, fun _ timely => timely⟩
  | some key =>
      cases TableState.observe_observed holds keyed outcome with
      | rejected keeps => exact ⟨congrArg _ keeps.table, fun _ timely => keeps.table ▸ timely⟩
      | accepted onTime accepts =>
          exact ⟨accepts.config, fun valid timely => timely.accepts valid onTime accepts⟩

theorem TableState.Progressed.config {sizes : TableSizes} {update : CaptureProgressUpdate}
    {result : Option CaptureProgressResult} {before after : TableState}
    (progressed : before.Progressed sizes update result after) :
    after.table.config = before.table.config := by
  cases progressed with
  | deferred | unchanged => rfl
  | thrown keeps => exact congrArg _ keeps.table
  | advanced _ _ _ _ _ _ config => exact config

theorem TableState.Finished.config {sizes : TableSizes} {result : Option TableError}
    {before after : TableState} (finished : before.Finished sizes result after) :
    after.table.config = before.table.config := by
  cases finished with
  | failed table | finished table => rw [table]

theorem SessionTable.sampleProtocol_config {table : SessionTable} {key : SessionKey}
    {sessionId : Nat} {payload : ByteSpan} {identified : IdentifiedProtocol} :
    (table.sampleProtocol key sessionId payload identified).2.config = table.config := by
  rcases table.sampleProtocol_cases with same | ⟨old, sampled, present, same, tableEq⟩
  · rw [same]
  · rw [tableEq]

theorem TableRun.timely {sizes : TableSizes} {table : SessionTable} {budget : TaskBudget}
    {history : TableHistory} (run : TableRun sizes table budget history)
    (valid : table.config.valid = true) : table.Timely := by
  induction run with
  | create => exact fun _ _ found => nomatch found
  | observe run outcome ih =>
      obtain ⟨config, kept⟩ := TableState.observe_config run.invariant outcome
      rw [config] at valid
      exact kept valid (ih valid)
  | advance run outcome ih =>
      have progressed := TableState.advance_progressed run.invariant outcome
      exact .advance (ih (progressed.config ▸ valid)) progressed
  | finish run outcome ih =>
      have finished := TableState.finish_finished run.invariant outcome
      have timely := ih (finished.config ▸ valid)
      cases finished with
      | failed table => exact table ▸ timely
      | finished table =>
          rw [table]
          exact fun _ _ found => nomatch found
  | sample run key sessionId payload identified ih =>
      exact (ih (SessionTable.sampleProtocol_config ▸ valid)).sample
  | others run after kept ih => exact ih valid

/-! ## Late packets -/

namespace TableState

variable {sizes : TableSizes} {arrays : ArrayAllocations} {advances : Nat → AppendAllocations}
  {allocations : ObserveAllocations} {binding : PacketBinding} {meta_ : PacketMeta}
  {label : UInt32} {before after : TableState} {timestampNs : Int} {key : SessionKey}
  {old session : SessionState} {existing : Option SessionState} {endedBegin : Nat}

/-- What the table does before a packet. -/
theorem advanceBeforePacket_progressed (holds : before.table.Invariant before.budget)
    (outcome : before.advanceBeforePacket sizes arrays advances timestampNs = (true, after)) :
    before.table.config.runMode ≠ .offline ∧ after = before ∨
      before.table.config.runMode = .offline ∧
        ∃ result, before.Progressed sizes { captureTimeNs := timestampNs, packetObserved := true }
          (some result) after := by
  unfold advanceBeforePacket at outcome
  split at outcome
  · next offline =>
      split at outcome
      · next result advanced progress =>
          cases outcome
          exact .inr ⟨offline, result, advance_progressed holds progress⟩
      · cases outcome
  · next realtime =>
      cases outcome
      exact .inl ⟨realtime, rfl⟩

theorem deferral_offline {config : AnalysisConfig} (offline : config.runMode = .offline)
    (update : CaptureProgressUpdate) : deferral config update = none := by
  unfold deferral
  rw [if_neg (by simp [offline])]

theorem commitStart_error {error : TableError}
    (outcome : before.commitStart sizes allocations key binding meta_ existing session endedBegin =
      (.error error, after)) : error = .allocationFailed := by
  unfold commitStart at outcome
  simp only at outcome
  split at outcome <;> split at outcome <;> cases outcome <;> rfl

/-- Only packets behind the watermark are late. -/
theorem observe_late
    (outcome : before.observe sizes allocations binding meta_ label =
      (.error .latePacket, after)) : before.table.isLatePacket meta_.timestampNs = true := by
  by_contra onTime
  unfold observe at outcome
  split at outcome
  · cases outcome
  rw [if_neg onTime] at outcome
  split at outcome
  · unfold observeNew at outcome
    split at outcome
    · cases outcome
    split at outcome
    · cases outcome
    simp only at outcome
    split at outcome
    · cases commitStart_error outcome
    · cases outcome
  split at outcome
  · unfold observeReused at outcome
    split at outcome
    · cases outcome
    split at outcome
    · cases commitStart_error outcome
    · cases outcome
  · unfold observeExisting at outcome
    simp only at outcome
    split at outcome
    · split at outcome <;> cases outcome
    · cases outcome

theorem observe_of_late (keyed : binding.key = some key)
    (late : before.table.isLatePacket meta_.timestampNs = true) :
    before.observe sizes allocations binding meta_ label = (.error .latePacket, before) := by
  unfold observe
  simp only [keyed, late, if_true]

/-- The watermark that a packet brings is not after the packet. -/
theorem candidate_le (valid : before.table.config.valid = true) (low : minInt64 ≤ timestampNs) :
    candidateWatermark before.table.config { captureTimeNs := timestampNs, packetObserved := true } ≤
      timestampNs :=
  saturatingSubtract_le low (AnalysisConfig.tolerance_nonneg valid)

/-- A late packet does not move the watermark. -/
theorem advance_of_late (holds : before.table.Invariant before.budget)
    (valid : before.table.config.valid = true) (low : minInt64 ≤ timestampNs)
    (late : before.table.isLatePacket timestampNs = true)
    (outcome : before.advanceBeforePacket sizes arrays advances timestampNs = (true, after)) :
    after = before := by
  rcases advanceBeforePacket_progressed holds outcome with ⟨_, same⟩ | ⟨_, result, progressed⟩
  · exact same
  cases progressed with
  | deferred | unchanged => rfl
  | advanced _ later =>
      simp only [SessionTable.isLatePacket, Bool.and_eq_true, decide_eq_true_eq] at late
      have moved := (later late.1).trans_le (candidate_le valid low)
      exact absurd late.2 moved.not_gt

/-- A packet that is not late is not late after the advance either. -/
theorem advance_onTime (holds : before.table.Invariant before.budget)
    (valid : before.table.config.valid = true) (low : minInt64 ≤ timestampNs)
    (onTime : before.table.isLatePacket timestampNs = false)
    (outcome : before.advanceBeforePacket sizes arrays advances timestampNs = (true, after)) :
    after.table.isLatePacket timestampNs = false := by
  rcases advanceBeforePacket_progressed holds outcome with ⟨_, same⟩ | ⟨_, result, progressed⟩
  · exact same ▸ onTime
  cases progressed with
  | deferred | unchanged => exact onTime
  | advanced _ _ _ _ _ _ _ _ initialized watermark =>
      simp only [SessionTable.isLatePacket, initialized, watermark, Bool.true_and,
        decide_eq_false_iff_not, not_lt]
      exact candidate_le valid low

end TableState

end Flowsql.Npm
