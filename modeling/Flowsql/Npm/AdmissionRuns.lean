import Flowsql.Npm.AdmissionAgreement

/-!
# Batches: planned, then executed

The planner goes over the rows of a batch before the table sees them. Other components
use the budget in both passes, and in the second one they sample the sessions.
-/

namespace Flowsql.Npm

open Flowsql.Library

/-! ## The two passes -/

/-- The planner after these rows, with its answers. It stops where it has no room for a plan. -/
inductive PlanRun (sizes : PlannerSizes) (table : SessionTable) :
    AdmissionPlanner → List BatchRow → List (Except TableError Bool) → Prop where
  | create : PlanRun sizes table (.create table) [] []
  | row {planner next : AdmissionPlanner} {rows : List BatchRow}
      {answers : List (Except TableError Bool)} {row : BatchRow} {allocated : Bool}
      {budget after : TaskBudget} {answer : Except TableError Bool}
      (run : PlanRun sizes table planner rows answers)
      (outcome : planner.planRow sizes allocated row budget = (answer, next, after))
      (goesOn : ∀ error, answer = .error error → error = .latePacket) :
      PlanRun sizes table next (rows ++ [row]) (answers ++ [answer])

/-- A row that was executed: the tables before and after it, and what was reported. -/
structure ExecutedRow where
  row : BatchRow
  before : SessionTable
  after : SessionTable
  result : Except TableError Unit

/-- The table and the budget after these rows, from a table that any run has left. The
execution stops where a packet is refused for want of a resource. -/
inductive BatchRun (sizes : TableSizes) (start : SessionTable) :
    SessionTable → TaskBudget → List ExecutedRow → Prop where
  | start {budget : TaskBudget} {history : TableHistory}
      (run : TableRun sizes start budget history) : BatchRun sizes start start budget []
  | row {table : SessionTable} {budget between : TaskBudget} {rows : List ExecutedRow}
      {arrays : ArrayAllocations} {advances : Nat → AppendAllocations}
      {allocations : ObserveAllocations} {label : UInt32} {row : BatchRow} {ended : SnapshotBatch}
      {advanced after : TableState} {result : Except TableError Unit}
      (run : BatchRun sizes start table budget rows)
      (low : minInt64 ≤ row.timestampNs) (high : row.timestampNs ≤ maxInt64)
      (advance : TableState.advanceBeforePacket sizes arrays advances row.timestampNs
        ⟨table, ended, budget⟩ = (true, advanced))
      (kept : between.used .sessionState = advanced.budget.used .sessionState)
      (dispatch : TableState.dispatchRow sizes allocations label row
        { advanced with budget := between } = (result, after))
      (goesOn : ∀ error, result = .error error → error = .latePacket) :
      BatchRun sizes start after.table after.budget (rows ++ [⟨row, table, after.table, result⟩])
  | sample {table : SessionTable} {budget : TaskBudget} {rows : List ExecutedRow}
      (run : BatchRun sizes start table budget rows) (key : SessionKey) (sessionId : Nat)
      (payload : ByteSpan) (identified : IdentifiedProtocol) :
      BatchRun sizes start (table.sampleProtocol key sessionId payload identified).2 budget rows
  | others {table : SessionTable} {budget : TaskBudget} {rows : List ExecutedRow}
      (run : BatchRun sizes start table budget rows) (after : TaskBudget)
      (kept : after.used .sessionState = budget.used .sessionState) :
      BatchRun sizes start table after rows

/-- The row has started a session, which takes an id. -/
def ExecutedRow.Starts (executed : ExecutedRow) : Prop :=
  executed.after.nextSessionId ≠ executed.before.nextSessionId

/-- The answer of the planner is what the execution shows. -/
def Agrees (answer : Except TableError Bool) (executed : ExecutedRow) : Prop :=
  (answer = .ok true ↔ executed.Starts) ∧
    (answer = .error .latePacket ↔ executed.result = .error .latePacket)

/-- The row continues a session at the end of time, with the watermark there already. -/
def ExecutedRow.AtEndOfTime (executed : ExecutedRow) : Prop :=
  executed.before.watermarkInitialized = true ∧ executed.before.watermarkNs = maxInt64 ∧
    executed.row.timestampNs = maxInt64 ∧
    ∃ binding meta_ key session, executed.row = .data binding meta_ ∧ binding.key = some key ∧
      executed.before.sessions.lookup key = some session ∧
      binding.reusesTuple key session.initialSyn = false

namespace TableState

variable {sizes : TableSizes} {table : SessionTable} {budget : TaskBudget} {history : TableHistory}

theorem advanceBeforePacket_run {arrays : ArrayAllocations} {advances : Nat → AppendAllocations}
    {timestampNs : Int} {ended : SnapshotBatch} {done : Bool} {after : TableState}
    (run : TableRun sizes table budget history)
    (outcome : advanceBeforePacket sizes arrays advances timestampNs ⟨table, ended, budget⟩ =
      (done, after)) :
    ∃ history, TableRun sizes after.table after.budget history := by
  unfold advanceBeforePacket at outcome
  split at outcome
  · split at outcome <;> next progress =>
      cases outcome
      exact ⟨_, run.advance progress⟩
  · cases outcome
    exact ⟨_, run⟩

theorem dispatchRow_run {allocations : ObserveAllocations} {label : UInt32} {row : BatchRow}
    {ended : SnapshotBatch} {result : Except TableError Unit} {after : TableState}
    (run : TableRun sizes table budget history)
    (outcome : dispatchRow sizes allocations label row ⟨table, ended, budget⟩ = (result, after)) :
    ∃ history, TableRun sizes after.table after.budget history := by
  cases row with
  | data binding meta_ =>
      simp only [dispatchRow] at outcome
      split at outcome <;> next observed =>
        cases outcome
        exact ⟨_, run.observe observed⟩
  | control timestampNs =>
      simp only [dispatchRow] at outcome
      split at outcome <;> cases outcome <;> exact ⟨_, run⟩

end TableState

/-- A batch is executed on a table that a run leaves. -/
theorem BatchRun.tableRun {sizes : TableSizes} {start table : SessionTable} {budget : TaskBudget}
    {rows : List ExecutedRow} (run : BatchRun sizes start table budget rows) :
    ∃ history, TableRun sizes table budget history := by
  induction run with
  | start run => exact ⟨_, run⟩
  | row run low high advance kept dispatch goesOn ih =>
      obtain ⟨history, run⟩ := ih
      obtain ⟨history, run⟩ := TableState.advanceBeforePacket_run run advance
      exact TableState.dispatchRow_run (run.others _ kept) dispatch
  | sample run key sessionId payload identified ih =>
      obtain ⟨history, run⟩ := ih
      exact ⟨history, run.sample key sessionId payload identified⟩
  | others run after kept ih =>
      obtain ⟨history, run⟩ := ih
      exact ⟨history, run.others after kept⟩

/-! ## The planner follows the table -/

/-- The planner has the configuration and the watermark of the table. -/
structure AdmissionPlanner.Follows (planner : AdmissionPlanner) (table : SessionTable) : Prop where
  config : planner.sessions.config = table.config
  initialized : planner.watermarkInitialized = table.watermarkInitialized
  watermark : planner.watermarkNs = table.watermarkNs

/-- The plan for a key is the copy of its session, or it is due and there is no session. -/
def AdmissionPlanner.Tracks (planner : AdmissionPlanner) (table : SessionTable) : Prop :=
  ∀ key, planner.planned key = .copy (table.sessions.lookup key) ∨
    (planner.planned key).expire planner.watermarkInitialized planner.watermarkNs = {} ∧
      table.sessions.lookup key = none

namespace AdmissionPlanner

open PlannedSession

variable {planner next : AdmissionPlanner} {sizes : TableSizes} {before after : TableState}
  {table : SessionTable} {timestampNs : Int} {key : SessionKey} {binding : PacketBinding}
  {meta_ : PacketMeta} {label : UInt32} {active : Option SessionState} {rows : List SnapshotRow}

/-- What `AdvanceControl` does with a time that is not late. -/
inductive Moves (timestampNs : Int) (planner next : AdmissionPlanner) : Prop where
  | stays (same : next = planner)
      (notLater : planner.sessions.config.runMode = .offline →
        planner.watermarkInitialized = true ∧
          saturatingSubtract timestampNs planner.sessions.config.outOfOrderToleranceNs ≤
            planner.watermarkNs)
  | advances (offline : planner.sessions.config.runMode = .offline)
      (later : planner.watermarkInitialized = true → planner.watermarkNs <
        saturatingSubtract timestampNs planner.sessions.config.outOfOrderToleranceNs)
      (nextEq : next = { planner with
        watermarkInitialized := true
        watermarkNs :=
          saturatingSubtract timestampNs planner.sessions.config.outOfOrderToleranceNs })

theorem advanceControl_late (follows : planner.Follows table)
    (late : table.isLatePacket timestampNs = true) :
    planner.advanceControl timestampNs = .error .latePacket := by
  simp only [SessionTable.isLatePacket, Bool.and_eq_true, decide_eq_true_eq] at late
  unfold advanceControl
  rw [if_pos ⟨follows.initialized.trans late.1, follows.watermark ▸ late.2⟩]

theorem advanceControl_onTime (follows : planner.Follows table)
    (onTime : table.isLatePacket timestampNs = false) :
    ∃ next, planner.advanceControl timestampNs = .ok next ∧ planner.Moves timestampNs next := by
  have notLate : ¬ (planner.watermarkInitialized = true ∧ timestampNs < planner.watermarkNs) := by
    rw [follows.initialized, follows.watermark]
    simpa [SessionTable.isLatePacket] using onTime
  unfold advanceControl
  rw [if_neg notLate]
  split
  · next offline =>
      simp only
      split
      · next later =>
          refine ⟨_, rfl, .advances offline (fun known => ?_) rfl⟩
          simpa [known] using later
      · next notLater =>
          refine ⟨_, rfl, .stays rfl fun _ => ?_⟩
          simpa using notLater
  · next realtime => exact ⟨_, rfl, .stays rfl fun offline => absurd offline realtime⟩

/-- The sessions that an advance takes are those that are due. -/
theorem advanced_lookup (key : SessionKey) {due : List SessionEntry}
    (entries : before.table.sessions.entries.Perm (due ++ after.table.sessions.entries)) :
    (∀ session, after.table.sessions.lookup key = some session →
        before.table.sessions.lookup key = some session) ∧
      ∀ session, before.table.sessions.lookup key = some session →
        ⟨key, session⟩ ∈ due ∨ after.table.sessions.lookup key = some session := by
  constructor
  · exact fun session found => mem_entries.mp
      (entries.symm.subset (List.mem_append_right _ (mem_entries.mpr found)))
  · intro session found
    rcases List.mem_append.mp (entries.subset (mem_entries.mpr found)) with taken | kept
    · exact .inl taken
    · exact .inr (mem_entries.mp kept)

/-- Planner and table move their watermarks alike. -/
theorem Follows.advance {arrays : ArrayAllocations} {advances : Nat → AppendAllocations}
    (follows : planner.Follows before.table) (holds : before.table.Invariant before.budget)
    (moves : planner.Moves timestampNs next)
    (outcome : before.advanceBeforePacket sizes arrays advances timestampNs = (true, after)) :
    next.Follows after.table ∧ (planner.Tracks before.table → next.Tracks after.table) := by
  have candidate : TableState.candidateWatermark before.table.config
      { captureTimeNs := timestampNs, packetObserved := true } =
      saturatingSubtract timestampNs planner.sessions.config.outOfOrderToleranceNs := by
    rw [follows.config]
    rfl
  rcases TableState.advanceBeforePacket_progressed holds outcome with
    ⟨realtime, same⟩ | ⟨offline, result, progressed⟩
  · cases moves with
    | stays nextEq =>
        rw [nextEq, same]
        exact ⟨follows, id⟩
    | advances offline => exact absurd (follows.config ▸ offline) realtime
  cases progressed with
  | deferred deferral =>
      rw [TableState.deferral_offline offline] at deferral
      cases deferral
  | unchanged _ initialized notLater =>
      cases moves with
      | stays nextEq =>
          rw [nextEq]
          exact ⟨follows, id⟩
      | advances _ later =>
          rw [candidate, ← follows.watermark] at notLater
          exact absurd (later (follows.initialized.trans initialized)) notLater.not_gt
  | advanced _ later entries remaining _ _ config _ initialized watermark =>
      rw [candidate] at later entries watermark
      cases moves with
      | stays _ notLater =>
          obtain ⟨known, notLater⟩ := notLater (follows.config ▸ offline)
          rw [follows.watermark] at notLater
          exact absurd (later (follows.initialized ▸ known)) notLater.not_gt
      | advances _ moved nextEq =>
          subst nextEq
          refine ⟨⟨follows.config.trans config.symm, initialized.symm, watermark.symm⟩, ?_⟩
          intro tracks key
          obtain ⟨earlier, kept⟩ := advanced_lookup key entries
          have same : { planner with
              watermarkInitialized := true
              watermarkNs := saturatingSubtract timestampNs
                planner.sessions.config.outOfOrderToleranceNs }.planned key =
              planner.planned key := rfl
          have gone : before.table.sessions.lookup key = none →
              after.table.sessions.lookup key = none := by
            intro absent
            by_contra found
            obtain ⟨session, found⟩ := Option.ne_none_iff_exists'.mp found
            exact absurd ((earlier session found).symm.trans absent) (Option.some_ne_none _)
          rw [same]
          rcases tracks key with copied | ⟨due, absent⟩
          · cases present : before.table.sessions.lookup key with
            | none => exact .inl (by rw [copied, present, gone present])
            | some session =>
                rcases kept session present with due | found
                · have reached := ((TableState.mem_dueEntries holds).mp due).2
                  refine .inr ⟨?_, ?_⟩
                  · rw [copied, present, copy_some]
                    exact if_pos ⟨rfl, rfl, reached⟩
                  · by_contra found
                    obtain ⟨other, found⟩ := Option.ne_none_iff_exists'.mp found
                    obtain rfl : session = other :=
                      Option.some.inj (present.symm.trans (earlier other found))
                    have later := remaining _ (mem_entries.mpr found)
                    rw [candidate] at later
                    exact absurd reached later.not_ge
                · exact .inl (by rw [copied, present, found])
          · exact .inr ⟨expire_later due fun known => (moved known).le, gone absent⟩

theorem plan_fst :
    (planner.plan key binding timestampNs).1 =
      ((planner.planned key).expire planner.watermarkInitialized
        planner.watermarkNs).requiresAdmission key binding := rfl

theorem planned_plan (other : SessionKey) :
    (planner.plan key binding timestampNs).2.planned other =
      if other = key then
        ((planner.planned key).expire planner.watermarkInitialized planner.watermarkNs).next
          planner.sessions.config key binding timestampNs
      else planner.planned other := by
  by_cases same : other = key
  · rw [if_pos same, same]
    unfold planned plan
    simp only [AList.lookup_insert]
    rfl
  · rw [if_neg same]
    unfold planned plan
    simp only [AList.lookup_insert_ne same]

/-- Where the packet may continue a session that is due. -/
def DueInTable (key : SessionKey) (binding : PacketBinding) (table : SessionTable) : Prop :=
  table.watermarkInitialized = true ∧ ∃ session, table.sessions.lookup key = some session ∧
    session.idleDeadlineNs ≤ table.watermarkNs ∧
    binding.reusesTuple key session.initialSyn = false

/-- What is planned for a key, with what has expired, stands for its session. -/
theorem Tracks.expired (tracks : planner.Tracks table) (follows : planner.Follows table)
    (key : SessionKey) :
    (planner.planned key).expire planner.watermarkInitialized planner.watermarkNs =
      (copy (table.sessions.lookup key)).expire table.watermarkInitialized table.watermarkNs := by
  rw [← follows.initialized, ← follows.watermark]
  rcases tracks key with copied | ⟨due, absent⟩
  · rw [copied]
  · rw [due, absent, copy_none, expire_empty]

/-- The plan of a packet, unless it continues a session that is due. -/
theorem plan_agrees (notDue : ¬ DueInTable key binding table) :
    let copied := copy (table.sessions.lookup key)
    let expired := copied.expire table.watermarkInitialized table.watermarkNs
    expired.requiresAdmission key binding = copied.requiresAdmission key binding ∧
      expired.next table.config key binding timestampNs =
        copied.next table.config key binding timestampNs := by
  intro copied expired
  by_cases same : expired = copied
  · rw [same]
    exact ⟨rfl, rfl⟩
  have due : copied.active ∧ table.watermarkInitialized ∧
      copied.idleDeadlineNs ≤ table.watermarkNs := by
    by_contra later
    exact same (if_neg later)
  have forgotten : expired = {} := if_pos due
  have required : copied.requiresAdmission key binding = true := by
    cases found : table.sessions.lookup key with
    | none =>
        have empty : copied = {} := congrArg copy found
        rw [empty, requires_empty]
    | some session =>
        have ofSession : copied = .ofSession session := congrArg copy found
        rw [ofSession] at due ⊢
        by_contra continues
        exact notDue ⟨due.2.1, session, found, due.2.2,
          (requires_ofSession session).symm.trans (by simpa using continues)⟩
  rw [forgotten, requires_empty, required, next_admitted required, next_admitted requires_empty]
  exact ⟨rfl, rfl⟩

/-- The plan of a packet that continues a session that is due: the planner has forgotten it. -/
theorem plan_differs (due : DueInTable key binding table) :
    let copied := copy (table.sessions.lookup key)
    (copied.expire table.watermarkInitialized table.watermarkNs).requiresAdmission key binding =
        true ∧
      copied.requiresAdmission key binding = false := by
  obtain ⟨initialized, session, found, reached, continues⟩ := due
  rw [found]
  simp only [copy_some]
  have forgotten : (ofSession session).expire table.watermarkInitialized table.watermarkNs = {} :=
    if_pos ⟨rfl, initialized, reached⟩
  rw [forgotten]
  exact ⟨requires_empty, continues⟩

theorem observeAndAdvance_plan {plannerSizes : PlannerSizes} {allocated : Bool}
    {advanced : AdmissionPlanner} {budget left : TaskBudget} {answer : Except TableError Bool}
    (keyed : binding.key = some key)
    (moved : planner.advanceControl meta_.timestampNs = .ok advanced)
    (outcome : planner.observeAndAdvance plannerSizes allocated binding meta_ budget =
      (answer, next, left))
    (goesOn : ∀ error, answer = .error error → error = .latePacket) :
    answer = .ok (advanced.plan key binding meta_.timestampNs).1 ∧
      ∃ charged, next = { (advanced.plan key binding meta_.timestampNs).2 with
        chargedBytes := charged } := by
  unfold observeAndAdvance at outcome
  simp only [keyed, moved] at outcome
  split at outcome
  · cases outcome
    exact ⟨rfl, _, rfl⟩
  split at outcome
  · split at outcome
    · cases outcome
      exact ⟨rfl, _, rfl⟩
    · cases outcome
      cases goesOn _ rfl
  · cases outcome
    cases goesOn _ rfl

theorem observeAndAdvance_late {plannerSizes : PlannerSizes} {allocated : Bool}
    {budget left : TaskBudget} {answer : Except TableError Bool}
    (keyed : binding.key = some key)
    (late : planner.advanceControl meta_.timestampNs = .error .latePacket)
    (outcome : planner.observeAndAdvance plannerSizes allocated binding meta_ budget =
      (answer, next, left)) : answer = .error .latePacket ∧ next = planner := by
  unfold observeAndAdvance at outcome
  simp only [keyed, late] at outcome
  cases outcome
  exact ⟨rfl, rfl⟩

theorem observeAndAdvance_keyed {plannerSizes : PlannerSizes} {allocated : Bool}
    {budget left : TaskBudget} {answer : Except TableError Bool}
    (outcome : planner.observeAndAdvance plannerSizes allocated binding meta_ budget =
      (answer, next, left))
    (goesOn : ∀ error, answer = .error error → error = .latePacket) :
    ∃ key, binding.key = some key := by
  cases keyed : binding.key with
  | none =>
      unfold observeAndAdvance at outcome
      simp only [keyed] at outcome
      cases outcome
      cases goesOn _ rfl
  | some key => exact ⟨key, rfl⟩

end AdmissionPlanner

/-! ## One row -/

namespace ExecutedRow

open AdmissionPlanner PlannedSession

variable {sizes : TableSizes} {before advanced after : TableState} {arrays : ArrayAllocations}
  {advances : Nat → AppendAllocations} {timestampNs : Int} {binding : PacketBinding}
  {meta_ : PacketMeta} {key : SessionKey}

theorem advance_nextSessionId (holds : before.table.Invariant before.budget)
    (outcome : before.advanceBeforePacket sizes arrays advances timestampNs = (true, advanced)) :
    advanced.table.nextSessionId = before.table.nextSessionId := by
  rcases TableState.advanceBeforePacket_progressed holds outcome with
    ⟨_, same⟩ | ⟨_, result, progressed⟩
  · rw [same]
  cases progressed with
  | deferred | unchanged => rfl
  | advanced _ _ _ _ _ _ _ nextSessionId => exact nextSessionId

theorem advance_config (holds : before.table.Invariant before.budget)
    (outcome : before.advanceBeforePacket sizes arrays advances timestampNs = (true, advanced)) :
    advanced.table.config = before.table.config := by
  rcases TableState.advanceBeforePacket_progressed holds outcome with
    ⟨_, same⟩ | ⟨_, result, progressed⟩
  · rw [same]
  · exact progressed.config

theorem advance_holds (holds : before.table.Invariant before.budget)
    (outcome : before.advanceBeforePacket sizes arrays advances timestampNs = (true, advanced)) :
    advanced.table.Invariant advanced.budget := by
  rcases TableState.advanceBeforePacket_progressed holds outcome with
    ⟨_, same⟩ | ⟨_, result, progressed⟩
  · exact same ▸ holds
  · exact holds.progressed progressed

/-- Before a packet the table stays as it is, or the watermark moves up to the packet at
most and past all deadlines. -/
theorem advance_cases (valid : before.table.config.valid = true)
    (holds : before.table.Invariant before.budget) (low : minInt64 ≤ timestampNs)
    (outcome : before.advanceBeforePacket sizes arrays advances timestampNs = (true, advanced)) :
    advanced = before ∨
      advanced.table.watermarkNs ≤ timestampNs ∧
        (before.table.watermarkInitialized = true →
          before.table.watermarkNs < advanced.table.watermarkNs) ∧
        ∀ key session, advanced.table.sessions.lookup key = some session →
          advanced.table.watermarkNs < session.idleDeadlineNs := by
  rcases TableState.advanceBeforePacket_progressed holds outcome with
    ⟨_, same⟩ | ⟨_, result, progressed⟩
  · exact .inl same
  cases progressed with
  | deferred | unchanged => exact .inl rfl
  | advanced _ later _ remaining _ _ _ _ _ watermark =>
      rw [watermark]
      exact .inr ⟨TableState.candidate_le valid low, later,
        fun key session found => remaining _ (mem_entries.mpr found)⟩

/-- A packet finds a session that is due at the end of time and then only. -/
theorem atEndOfTime_iff (valid : before.table.config.valid = true)
    (holds : before.table.Invariant before.budget) (timely : before.table.Timely)
    (keyed : binding.key = some key) (low : minInt64 ≤ meta_.timestampNs)
    (high : meta_.timestampNs ≤ maxInt64)
    (onTime : before.table.isLatePacket meta_.timestampNs = false)
    (outcome : before.advanceBeforePacket sizes arrays advances meta_.timestampNs =
      (true, advanced)) (table : SessionTable) (result : Except TableError Unit) :
    AtEndOfTime ⟨.data binding meta_, before.table, table, result⟩ ↔
      DueInTable key binding advanced.table := by
  have cases := advance_cases valid holds low outcome
  constructor
  · rintro ⟨initialized, watermark, time, other, otherMeta, otherKey, session, row, otherKeyed,
      found, continues⟩
    cases row
    obtain rfl : key = otherKey := Option.some.inj (keyed.symm.trans otherKeyed)
    rcases cases with same | ⟨reached, later, _⟩
    · rw [same]
      exact ⟨initialized, session, found, watermark ▸ (timely key session found).1, continues⟩
    · have moved := later initialized
      rw [watermark] at moved
      exact absurd (moved.trans_le reached) time.not_gt
  · rintro ⟨initialized, session, found, due, continues⟩
    rcases cases with same | ⟨_, _, remaining⟩
    · rw [same] at initialized found due
      have last := (timely key session found).2 initialized due
      have reached : before.table.watermarkNs ≤ meta_.timestampNs := by
        simpa [SessionTable.isLatePacket, initialized] using onTime
      exact ⟨initialized, le_antisymm (reached.trans high) last,
        le_antisymm high (last.trans reached), binding, meta_, key, session, rfl, keyed, found,
        continues⟩
    · exact absurd due (remaining key session found).not_ge

/-- What one row does to planner and table. -/
structure Step (planner next : AdmissionPlanner) (answer : Except TableError Bool)
    (executed : ExecutedRow) : Prop where
  follows : next.Follows executed.after
  late : answer = .error .latePacket ↔ executed.result = .error .latePacket
  differs : planner.Tracks executed.before → executed.AtEndOfTime → ¬ Agrees answer executed
  agrees : planner.Tracks executed.before → ¬ executed.AtEndOfTime →
    Agrees answer executed ∧ next.Tracks executed.after

variable {planner next : AdmissionPlanner} {plannerSizes : PlannerSizes} {allocated : Bool}
  {budget between left : TaskBudget} {answer : Except TableError Bool}
  {result : Except TableError Unit} {row : BatchRow} {allocations : ObserveAllocations}
  {label : UInt32}

theorem step_late (follows : planner.Follows before.table)
    (late : before.table.isLatePacket row.timestampNs = true) :
    Step planner planner (.error .latePacket)
      ⟨row, before.table, before.table, .error .latePacket⟩ := by
  have notLast : ¬ AtEndOfTime ⟨row, before.table, before.table, .error .latePacket⟩ := by
    rintro ⟨_, watermark, time, _⟩
    simp only [SessionTable.isLatePacket, Bool.and_eq_true, decide_eq_true_eq] at late watermark time
    exact absurd late.2 (by rw [watermark, time]; exact lt_irrefl _)
  exact ⟨follows, by simp, fun _ last => absurd last notLast,
    fun tracks _ => ⟨⟨by simp [Starts], by simp⟩, tracks⟩⟩

theorem step_control (holds : before.table.Invariant before.budget)
    (follows : planner.Follows before.table) (moves : planner.Moves timestampNs next)
    (advance : before.advanceBeforePacket sizes arrays advances timestampNs = (true, advanced)) :
    Step planner next (.ok false)
      ⟨.control timestampNs, before.table, advanced.table, .ok ()⟩ := by
  obtain ⟨follows, tracks⟩ := follows.advance holds moves advance
  refine ⟨follows, by simp, ?_, fun before _ => ⟨⟨?_, by simp⟩, tracks before⟩⟩
  · rintro _ ⟨_, _, _, binding, meta_, _, _, row, _⟩
    cases row
  · simpa [Starts] using advance_nextSessionId holds advance

theorem step_data (valid : before.table.config.valid = true)
    (holds : before.table.Invariant before.budget) (timely : before.table.Timely)
    (follows : planner.Follows before.table)
    (low : minInt64 ≤ meta_.timestampNs) (high : meta_.timestampNs ≤ maxInt64)
    (onTime : before.table.isLatePacket meta_.timestampNs = false)
    (advance : before.advanceBeforePacket sizes arrays advances meta_.timestampNs =
      (true, advanced))
    {moved : AdmissionPlanner} (moves : planner.Moves meta_.timestampNs moved)
    (keyed : binding.key = some key) {active : Option SessionState} {rows : List SnapshotRow}
    {table : SessionTable}
    (accepts : advanced.table.Accepts sizes key binding meta_ label active rows table)
    (charged : Nat) :
    Step planner
      { (moved.plan key binding meta_.timestampNs).2 with chargedBytes := charged }
      (.ok (moved.plan key binding meta_.timestampNs).1)
      ⟨.data binding meta_, before.table, table, .ok ()⟩ := by
  obtain ⟨movedFollows, movedTracks⟩ := follows.advance holds moves advance
  obtain ⟨initialized, watermark⟩ := SessionTable.WatermarkKept.accepts accepts
  have last := atEndOfTime_iff valid holds timely keyed low high onTime advance table (.ok ())
  have started : Starts ⟨.data binding meta_, before.table, table, .ok ()⟩ ↔
      (copy (advanced.table.sessions.lookup key)).requiresAdmission key binding = true := by
    unfold Starts
    rw [← advance_nextSessionId holds advance]
    exact accepts.takes_id
  refine ⟨⟨?_, ?_, ?_⟩, by simp, ?_, ?_⟩
  · exact movedFollows.config.trans accepts.config.symm
  · exact movedFollows.initialized.trans initialized.symm
  · exact movedFollows.watermark.trans watermark.symm
  · intro tracks atEnd agrees
    obtain ⟨forgotten, continues⟩ := plan_differs (last.mp atEnd)
    have required : (moved.plan key binding meta_.timestampNs).1 = true := by
      rw [plan_fst, (movedTracks tracks).expired movedFollows key, forgotten]
    have starts := started.mp (agrees.1.mp (congrArg _ required))
    exact absurd (starts.symm.trans continues) (by decide)
  · intro tracks notLast
    have expired := (movedTracks tracks).expired movedFollows key
    obtain ⟨required, nextEq⟩ := @plan_agrees advanced.table meta_.timestampNs key binding
      fun due => notLast (last.mpr due)
    refine ⟨⟨?_, by simp⟩, fun other => ?_⟩
    · rw [started, plan_fst, expired, required, Except.ok.injEq]
    · change (moved.plan key binding meta_.timestampNs).2.planned other = _ ∨
        ((moved.plan key binding meta_.timestampNs).2.planned other).expire
          moved.watermarkInitialized moved.watermarkNs = {} ∧ _
      rw [planned_plan, accepts.lookup_sessions]
      split
      · rw [expired, movedFollows.config, nextEq, accepts.copy_next]
        exact .inl rfl
      · exact movedTracks tracks other

/-- What both passes do with a row. -/
theorem step_row (valid : before.table.config.valid = true)
    (holds : before.table.Invariant before.budget) (timely : before.table.Timely)
    (follows : planner.Follows before.table)
    (low : minInt64 ≤ row.timestampNs) (high : row.timestampNs ≤ maxInt64)
    (advance : before.advanceBeforePacket sizes arrays advances row.timestampNs =
      (true, advanced))
    (kept : between.used .sessionState = advanced.budget.used .sessionState)
    (dispatch : { advanced with budget := between }.dispatchRow sizes allocations label row =
      (result, after))
    (goesOn : ∀ error, result = .error error → error = .latePacket)
    (plan : planner.planRow plannerSizes allocated row budget = (answer, next, left))
    (plansOn : ∀ error, answer = .error error → error = .latePacket) :
    Step planner next answer ⟨row, before.table, after.table, result⟩ := by
  cases onTime : before.table.isLatePacket row.timestampNs with
  | true =>
      have late := advanceControl_late follows onTime
      have same := TableState.advance_of_late holds valid low onTime advance
      subst same
      cases row with
      | control timestampNs =>
          simp only [BatchRow.timestampNs] at late onTime
          simp only [planRow, late] at plan
          simp only [TableState.dispatchRow, onTime, if_true] at dispatch
          cases plan
          cases dispatch
          exact step_late follows onTime
      | data binding meta_ =>
          simp only [planRow] at plan
          obtain ⟨key, keyed⟩ := observeAndAdvance_keyed plan plansOn
          obtain ⟨rfl, rfl⟩ := observeAndAdvance_late keyed late plan
          have observed := @TableState.observe_of_late sizes allocations binding meta_ label
            { advanced with budget := between } key keyed onTime
          simp only [TableState.dispatchRow, observed] at dispatch
          cases dispatch
          exact step_late follows onTime
  | false =>
      obtain ⟨moved, movedEq, moves⟩ := advanceControl_onTime follows onTime
      have still := TableState.advance_onTime holds valid low onTime advance
      cases row with
      | control timestampNs =>
          simp only [BatchRow.timestampNs] at movedEq moves still advance
          simp only [planRow, movedEq] at plan
          simp only [TableState.dispatchRow, still] at dispatch
          cases plan
          cases dispatch
          have step := step_control holds follows moves advance
          exact step
      | data binding meta_ =>
          simp only [planRow] at plan
          obtain ⟨key, keyed⟩ := observeAndAdvance_keyed plan plansOn
          obtain ⟨rfl, charged, rfl⟩ := observeAndAdvance_plan keyed movedEq plan plansOn
          have betweenHolds : advanced.table.Invariant between :=
            (advance_holds holds advance).of_same rfl rfl rfl rfl rfl rfl kept
          simp only [TableState.dispatchRow] at dispatch
          split at dispatch
          · next accepted observed outcome =>
              cases dispatch
              cases TableState.observe_observed betweenHolds keyed outcome with
              | accepted _ accepts =>
                  exact step_data valid holds timely follows low high onTime advance moves keyed
                    accepts charged
          · next error refused outcome =>
              cases dispatch
              obtain rfl := goesOn _ rfl
              have late := TableState.observe_late outcome
              exact absurd (still.symm.trans late) (by decide)

end ExecutedRow

/-! ## Whole batches -/

namespace AdmissionPlanner

open PlannedSession

theorem Follows.create (table : SessionTable) : (create table).Follows table := ⟨rfl, rfl, rfl⟩

theorem Tracks.create (table : SessionTable) : (create table).Tracks table := fun _ => .inl rfl

variable {planner : AdmissionPlanner} {table : SessionTable} {key : SessionKey} {sessionId : Nat}
  {payload : ByteSpan} {identified : IdentifiedProtocol}

/-- A sample of the protocol changes nothing that the planner copies. -/
theorem Follows.sample (follows : planner.Follows table) :
    planner.Follows (table.sampleProtocol key sessionId payload identified).2 := by
  rcases table.sampleProtocol_cases with same | ⟨_, _, _, _, tableEq⟩
  · exact same.symm ▸ follows
  · exact tableEq ▸ ⟨follows.config, follows.initialized, follows.watermark⟩

theorem Tracks.sample (tracks : planner.Tracks table) :
    planner.Tracks (table.sampleProtocol key sessionId payload identified).2 := by
  rcases table.sampleProtocol_cases with same | ⟨old, sampled, present, same, tableEq⟩
  · exact same.symm ▸ tracks
  rw [tableEq]
  intro other
  have copied : ofSession sampled = ofSession old := by
    simp only [ofSession, same.lastNs, same.idleDeadlineNs, same.initialSyn, same.finAb, same.finBa]
  rw [lookup_replace]
  split
  · next sameKey =>
      rw [sameKey, present, Option.map_some, copy_some, copied]
      rcases tracks key with known | ⟨_, absent⟩
      · exact .inl (by rw [known, present, copy_some])
      · exact absurd (present.symm.trans absent) (Option.some_ne_none _)
  · exact tracks other

end AdmissionPlanner

theorem PlanRun.of_nil {sizes : PlannerSizes} {table : SessionTable} {planner : AdmissionPlanner}
    {answers : List (Except TableError Bool)} (run : PlanRun sizes table planner [] answers) :
    planner = .create table ∧ answers = [] := by
  generalize rowsEq : ([] : List BatchRow) = rows at run
  cases run with
  | create => exact ⟨rfl, rfl⟩
  | row => exact absurd rowsEq (by simp)

/-- The last row of a batch. -/
theorem PlanRun.of_concat {sizes : PlannerSizes} {table : SessionTable} {next : AdmissionPlanner}
    {rows : List BatchRow} {row : BatchRow} {answers : List (Except TableError Bool)}
    (run : PlanRun sizes table next (rows ++ [row]) answers) :
    ∃ planner first answer allocated budget left,
      PlanRun sizes table planner rows first ∧
        planner.planRow sizes allocated row budget = (answer, next, left) ∧
        (∀ error, answer = .error error → error = .latePacket) ∧ answers = first ++ [answer] := by
  generalize rowsEq : rows ++ [row] = all at run
  cases run with
  | create => exact absurd rowsEq (by simp)
  | row run outcome goesOn =>
      obtain ⟨rfl, same⟩ := List.append_inj' rowsEq rfl
      cases same
      exact ⟨_, _, _, _, _, _, run, outcome, goesOn, rfl⟩

theorem TableState.dispatchRow_config {sizes : TableSizes} {allocations : ObserveAllocations}
    {label : UInt32} {row : BatchRow} {result : Except TableError Unit} {before after : TableState}
    (holds : before.table.Invariant before.budget)
    (outcome : before.dispatchRow sizes allocations label row = (result, after)) :
    after.table.config = before.table.config := by
  cases row with
  | data binding meta_ =>
      simp only [dispatchRow] at outcome
      split at outcome <;> next observed =>
        cases outcome
        exact (observe_config holds observed).1
  | control timestampNs =>
      simp only [dispatchRow] at outcome
      split at outcome <;> cases outcome <;> rfl

theorem BatchRun.config {sizes : TableSizes} {start table : SessionTable} {budget : TaskBudget}
    {rows : List ExecutedRow} (run : BatchRun sizes start table budget rows) :
    table.config = start.config := by
  induction run with
  | start => rfl
  | row run low high advance kept dispatch goesOn ih =>
      obtain ⟨_, before⟩ := run.tableRun
      have holds := ExecutedRow.advance_holds before.invariant advance
      refine (TableState.dispatchRow_config ?_ dispatch).trans
        ((ExecutedRow.advance_config before.invariant advance).trans ih)
      exact holds.of_same rfl rfl rfl rfl rfl rfl kept
  | sample run key sessionId payload identified ih =>
      exact SessionTable.sampleProtocol_config.trans ih
  | others run after kept ih => exact ih

theorem forall₂_concat {α β : Type} {related : α → β → Prop} {left : List α} {right : List β}
    {last : α} {other : β} :
    List.Forall₂ related (left ++ [last]) (right ++ [other]) ↔
      List.Forall₂ related left right ∧ related last other := by
  rw [← List.forall₂_reverse_iff, List.reverse_concat, List.reverse_concat, List.forall₂_cons,
    List.forall₂_reverse_iff, and_comm]

open AdmissionPlanner in
/-- The planner over a batch and the execution of the batch, row by row. -/
theorem BatchRun.planned {sizes : TableSizes} {plannerSizes : PlannerSizes}
    {start table : SessionTable} {budget : TaskBudget} {rows : List ExecutedRow}
    {planner : AdmissionPlanner} {answers : List (Except TableError Bool)}
    (valid : start.config.valid = true) (executed : BatchRun sizes start table budget rows)
    (planned : PlanRun plannerSizes start planner (rows.map ExecutedRow.row) answers) :
    planner.Follows table ∧
      List.Forall₂ (fun answer executed =>
        answer = .error .latePacket ↔ executed.result = .error .latePacket) answers rows ∧
      ((∀ executed ∈ rows, ¬ executed.AtEndOfTime) →
        List.Forall₂ Agrees answers rows ∧ planner.Tracks table) ∧
      (List.Forall₂ Agrees answers rows → ∀ executed ∈ rows, ¬ executed.AtEndOfTime) := by
  induction executed generalizing planner answers with
  | start run =>
      obtain ⟨rfl, rfl⟩ := planned.of_nil
      exact ⟨.create start, .nil, fun _ => ⟨.nil, .create start⟩, fun _ _ => List.not_mem_nil.elim⟩
  | @row table budget _ rows _ _ _ _ row ended _ after result run low high advance kept dispatch
      goesOn ih =>
      rw [List.map_append, List.map_singleton] at planned
      obtain ⟨_, _, _, _, _, _, earlier, plan, plansOn, rfl⟩ := planned.of_concat
      obtain ⟨follows, late, agrees, rest⟩ := ih earlier
      obtain ⟨_, before⟩ := run.tableRun
      have validHere : table.config.valid = true := by
        rw [run.config]
        exact valid
      have step := @ExecutedRow.step_row sizes ⟨table, ended, budget⟩ _ _ _ _ _ _ _ _ _ _ _ _ _
        row _ _ validHere before.invariant (before.timely validHere) follows low high advance kept
        dispatch goesOn plan plansOn
      refine ⟨step.follows, forall₂_concat.mpr ⟨late, step.late⟩, fun notLast => ?_, fun all => ?_⟩
      · obtain ⟨notBefore, notHere⟩ := List.forall_mem_append.mp notLast
        obtain ⟨agreed, tracks⟩ := agrees notBefore
        obtain ⟨here, tracksAfter⟩ := step.agrees tracks (notHere _ (List.mem_singleton_self _))
        exact ⟨forall₂_concat.mpr ⟨agreed, here⟩, tracksAfter⟩
      · obtain ⟨agreed, here⟩ := forall₂_concat.mp all
        have notBefore := rest agreed
        have notHere := fun last => step.differs (agrees notBefore).2 last here
        exact List.forall_mem_append.mpr ⟨notBefore, fun executed member =>
          List.mem_singleton.mp member ▸ notHere⟩
  | sample run key sessionId payload identified ih =>
      obtain ⟨follows, late, agrees, rest⟩ := ih planned
      exact ⟨follows.sample, late, fun notLast =>
        ⟨(agrees notLast).1, (agrees notLast).2.sample⟩, rest⟩
  | others run after kept ih => exact ih planned

/-- The planner reports late packets as the execution does, and it predicts the new sessions of
a batch if and only if no row continues a session at the end of time. -/
theorem admission_predicted {sizes : TableSizes} {plannerSizes : PlannerSizes}
    {start table : SessionTable} {budget : TaskBudget} {rows : List ExecutedRow}
    {planner : AdmissionPlanner} {answers : List (Except TableError Bool)}
    (valid : start.config.valid = true) (executed : BatchRun sizes start table budget rows)
    (planned : PlanRun plannerSizes start planner (rows.map ExecutedRow.row) answers) :
    List.Forall₂ (fun answer executed =>
        answer = .error .latePacket ↔ executed.result = .error .latePacket) answers rows ∧
      (List.Forall₂ Agrees answers rows ↔ ∀ executed ∈ rows, ¬ executed.AtEndOfTime) := by
  obtain ⟨_, late, agrees, rest⟩ := executed.planned valid planned
  exact ⟨late, rest, fun notLast => (agrees notLast).1⟩

/-! ## A batch at the end of time -/

/-- A configuration without tolerance for packets out of order. -/
def promptConfig : AnalysisConfig := { outOfOrderToleranceNs := 0 }

def promptStart : SessionTable := .create promptConfig

def plannerSizes : PlannerSizes := ⟨144, 168⟩

/-- A datagram with the last time there is. -/
def lastDatagram : BatchRow := .data (datagram .aToB) ⟨maxInt64, 60⟩

/-- The table before a further datagram of this kind. -/
def beforeDatagram (state : TableState) : Bool × TableState :=
  state.advanceBeforePacket tableSizes {} (fun _ => {}) maxInt64

/-- The table after it. -/
def afterDatagram (state : TableState) : Except TableError Unit × TableState :=
  (beforeDatagram state).2.dispatchRow tableSizes {} 0 lastDatagram

theorem BatchRun.datagram {start : SessionTable} {state : TableState} {rows : List ExecutedRow}
    (run : BatchRun tableSizes start state.table state.budget rows)
    (advanced : (beforeDatagram state).1 = true) (accepted : (afterDatagram state).1 = .ok ()) :
    BatchRun tableSizes start (afterDatagram state).2.table (afterDatagram state).2.budget
      (rows ++ [⟨lastDatagram, state.table, (afterDatagram state).2.table, .ok ()⟩]) :=
  .row run (by decide) (by decide) (Prod.ext advanced rfl) rfl (Prod.ext accepted rfl)
    (fun _ failed => nomatch failed)

def promptState : TableState := ⟨promptStart, {}, ⟨promptConfig, {}⟩⟩

/-- The rows of two such datagrams. -/
def lastRows : List ExecutedRow :=
  [⟨lastDatagram, promptStart, (afterDatagram promptState).2.table, .ok ()⟩,
    ⟨lastDatagram, (afterDatagram promptState).2.table,
      (afterDatagram (afterDatagram promptState).2).2.table, .ok ()⟩]

theorem batch_last :
    ∃ table budget, BatchRun tableSizes promptStart table budget lastRows := by
  have start : BatchRun tableSizes promptStart promptState.table promptState.budget [] :=
    .start (.create promptConfig ⟨promptConfig, {}⟩ rfl)
  have first := start.datagram (by decide) (by decide)
  exact ⟨_, _, first.datagram (by decide) (by decide)⟩

/-- The planner with one datagram more. -/
def planDatagram (planner : AdmissionPlanner) :
    Except TableError Bool × AdmissionPlanner × TaskBudget :=
  planner.planRow plannerSizes true lastDatagram ⟨promptConfig, {}⟩

theorem PlanRun.datagram {start : SessionTable} {planner : AdmissionPlanner} {rows : List BatchRow}
    {answers : List (Except TableError Bool)}
    (run : PlanRun plannerSizes start planner rows answers) (admission : Bool)
    (planned : (planDatagram planner).1 = .ok admission) :
    PlanRun plannerSizes start (planDatagram planner).2.1 (rows ++ [lastDatagram])
      (answers ++ [.ok admission]) :=
  .row run (Prod.ext planned rfl) (fun _ failed => nomatch failed)

/-- The second datagram continues the session of the first, and the planner admits it again. -/
theorem admission_predicted_fails :
    ∃ table budget planner answers, BatchRun tableSizes promptStart table budget lastRows ∧
      PlanRun plannerSizes promptStart planner (lastRows.map ExecutedRow.row) answers ∧
      ¬ List.Forall₂ Agrees answers lastRows := by
  obtain ⟨table, budget, executed⟩ := batch_last
  have first := (@PlanRun.create plannerSizes promptStart).datagram true (by decide)
  have second := first.datagram true (by decide)
  refine ⟨table, budget, _, [.ok true, .ok true], executed, second, fun agrees => ?_⟩
  cases agrees with
  | cons _ rest =>
      cases rest with
      | cons continues _ => exact continues.1.mp rfl (by decide)

theorem admission_predicted_datagram :
    promptStart.config.valid = true ∧
      (List.Forall₂ Agrees [.ok true]
          [⟨lastDatagram, promptStart, (afterDatagram promptState).2.table, .ok ()⟩] ↔
        ∀ executed ∈ [(⟨lastDatagram, promptStart, (afterDatagram promptState).2.table,
          .ok ()⟩ : ExecutedRow)], ¬ executed.AtEndOfTime) := by
  have start : BatchRun tableSizes promptStart promptState.table promptState.budget [] :=
    .start (.create promptConfig ⟨promptConfig, {}⟩ rfl)
  have executed := start.datagram (by decide) (by decide)
  have planned := (@PlanRun.create plannerSizes promptStart).datagram true (by decide)
  exact ⟨by decide, (admission_predicted (by decide) executed planned).2⟩

end Flowsql.Npm
