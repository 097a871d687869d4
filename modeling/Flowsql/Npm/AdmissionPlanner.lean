import Flowsql.Npm.SessionRuns

/-!
# Admission planning

`NpmSessionAdmissionPlanner` from `npm_session_table.h` and `npm_session_table.cpp`. The
planner predicts, for a whole batch and before the table changes, which packets start a
session. It copies what it needs of a session when it first meets its key.
-/

namespace Flowsql.Npm

open Flowsql.Library

/-- `NpmSessionAdmissionPlanner::State`. -/
structure PlannedSession where
  active : Bool := false
  lastNs : Int := 0
  idleDeadlineNs : Int := 0
  initialSyn : Option InitialSyn := none
  finAb : Bool := false
  finBa : Bool := false
  deriving DecidableEq

namespace PlannedSession

/-- The copy of a session of the table. -/
def ofSession (session : SessionState) : PlannedSession :=
  { active := true
    lastNs := session.lastNs
    idleDeadlineNs := session.idleDeadlineNs
    initialSyn := session.initialSyn
    finAb := session.finAb
    finBa := session.finBa }

/-- What is planned for a key that the planner has not met. -/
def copy (existing : Option SessionState) : PlannedSession :=
  match existing with
  | none => {}
  | some session => ofSession session

@[simp] theorem copy_none : copy none = {} := rfl

@[simp] theorem copy_some (session : SessionState) : copy (some session) = ofSession session := rfl

/-- A session that is due at the watermark is forgotten. -/
def expire (watermarkInitialized : Bool) (watermarkNs : Int) (planned : PlannedSession) :
    PlannedSession :=
  if planned.active ∧ watermarkInitialized ∧ planned.idleDeadlineNs ≤ watermarkNs then {}
  else planned

/-- `requires_admission`. -/
def requiresAdmission (key : SessionKey) (binding : PacketBinding) (planned : PlannedSession) :
    Bool :=
  !planned.active || (planned.active && binding.reusesTuple key planned.initialSyn)

/-- A session that this packet starts. -/
def start (config : AnalysisConfig) (key : SessionKey) (binding : PacketBinding)
    (timestampNs : Int) : PlannedSession :=
  { active := true
    lastNs := timestampNs
    idleDeadlineNs := saturatingAdd timestampNs (config.idleTimeout key)
    initialSyn := binding.initialSyn key
    finAb := binding.finFrom key .aToB
    finBa := binding.finFrom key .bToA }

/-- A session with one packet more. -/
def observe (config : AnalysisConfig) (key : SessionKey) (binding : PacketBinding)
    (timestampNs : Int) (planned : PlannedSession) : PlannedSession :=
  let touched := if timestampNs > planned.lastNs then
    { planned with
      lastNs := timestampNs
      idleDeadlineNs := saturatingAdd timestampNs (config.idleTimeout key) }
  else planned
  { touched with
    finAb := touched.finAb || binding.finFrom key .aToB
    finBa := touched.finBa || binding.finFrom key .bToA }

/-- The plan for a key after a packet. -/
def next (config : AnalysisConfig) (key : SessionKey) (binding : PacketBinding)
    (timestampNs : Int) (planned : PlannedSession) : PlannedSession :=
  let counted := if planned.requiresAdmission key binding then
    start config key binding timestampNs
  else planned.observe config key binding timestampNs
  if binding.closes key counted.finAb counted.finBa then {} else counted

end PlannedSession

/-- `NpmSessionAdmissionPlanner`. Its two maps are one map here, as those of the table. -/
structure AdmissionPlanner where
  sessions : SessionTable
  watermarkInitialized : Bool
  watermarkNs : Int
  states : AList fun _ : SessionKey => PlannedSession
  chargedBytes : Nat := 0

/-- `sizeof` of a map node and its links, for each family. -/
structure PlannerSizes where
  state4 : Nat
  state6 : Nat

/-- A row of a packet batch, as the batch loop hands it to planner and table. -/
inductive BatchRow where
  | data (binding : PacketBinding) (meta_ : PacketMeta)
  | control (timestampNs : Int)

def BatchRow.timestampNs : BatchRow → Int
  | data _ meta_ => meta_.timestampNs
  | control timestampNs => timestampNs

namespace AdmissionPlanner

/-- The constructor. -/
def create (table : SessionTable) : AdmissionPlanner :=
  { sessions := table
    watermarkInitialized := table.watermarkInitialized
    watermarkNs := table.watermarkNs
    states := ∅ }

/-- `AdvanceControl`. -/
def advanceControl (timestampNs : Int) (planner : AdmissionPlanner) :
    Except TableError AdmissionPlanner :=
  if planner.watermarkInitialized ∧ timestampNs < planner.watermarkNs then .error .latePacket
  else if planner.sessions.config.runMode = .offline then
    let candidate := saturatingSubtract timestampNs planner.sessions.config.outOfOrderToleranceNs
    if !planner.watermarkInitialized ∨ candidate > planner.watermarkNs then
      .ok { planner with watermarkInitialized := true, watermarkNs := candidate }
    else .ok planner
  else .ok planner

/-- The plan for a key, copied from the table if there is none yet. -/
def planned (key : SessionKey) (planner : AdmissionPlanner) : PlannedSession :=
  match planner.states.lookup key with
  | some planned => planned
  | none => .copy (planner.sessions.sessions.lookup key)

/-- The answer for a packet, once there is room for the plan of its key. -/
def plan (key : SessionKey) (binding : PacketBinding) (timestampNs : Int)
    (planner : AdmissionPlanner) : Bool × AdmissionPlanner :=
  let planned := (planner.planned key).expire planner.watermarkInitialized planner.watermarkNs
  (planned.requiresAdmission key binding,
    { planner with
      states := planner.states.insert key
        (planned.next planner.sessions.config key binding timestampNs) })

/-- What a new plan costs. -/
def stateBytes (sizes : PlannerSizes) (key : SessionKey) (binding : PacketBinding) : Nat :=
  (if key.isIpv4 then sizes.state4 else sizes.state6) + binding.nameCapacity + 1

/-- `ObserveAndAdvance`. The node of a new plan is `allocated` or not. -/
def observeAndAdvance (sizes : PlannerSizes) (allocated : Bool) (binding : PacketBinding)
    (meta_ : PacketMeta) (planner : AdmissionPlanner) (budget : TaskBudget) :
    Except TableError Bool × AdmissionPlanner × TaskBudget :=
  match binding.key with
  | none => (.error .invalidPacketView, planner, budget)
  | some key =>
      match planner.advanceControl meta_.timestampNs with
      | .error error => (.error error, planner, budget)
      | .ok advanced =>
          if key ∈ advanced.states then
            let (admission, next) := advanced.plan key binding meta_.timestampNs
            (.ok admission, next, budget)
          else
            let bytes := stateBytes sizes key binding
            match budget.reserve .inputBatch bytes with
            | (.none, reserved) =>
                if allocated then
                  let (admission, next) := advanced.plan key binding meta_.timestampNs
                  (.ok admission, { next with chargedBytes := next.chargedBytes + bytes }, reserved)
                else (.error .allocationFailed, advanced, (reserved.release .inputBatch bytes).2)
            | (_, refused) => (.error .sessionBudgetExceeded, advanced, refused)

/-- The first pass of `ProcessNpmOfflinePacketBatch` over a row. -/
def planRow (sizes : PlannerSizes) (allocated : Bool) (row : BatchRow) (planner : AdmissionPlanner)
    (budget : TaskBudget) : Except TableError Bool × AdmissionPlanner × TaskBudget :=
  match row with
  | .data binding meta_ => planner.observeAndAdvance sizes allocated binding meta_ budget
  | .control timestampNs =>
      match planner.advanceControl timestampNs with
      | .error error => (.error error, planner, budget)
      | .ok advanced => (.ok false, advanced, budget)

end AdmissionPlanner

/-! ## The execution of a row -/

namespace TableState

/-- The call of `AdvanceCaptureProgress` before a packet; `false` stands for `std::bad_alloc`. -/
def advanceBeforePacket (sizes : TableSizes) (arrays : ArrayAllocations)
    (allocations : Nat → AppendAllocations) (timestampNs : Int) (state : TableState) :
    Bool × TableState :=
  if state.table.config.runMode = .offline then
    match state.advanceCaptureProgress sizes arrays allocations
        { captureTimeNs := timestampNs, packetObserved := true } with
    | (some _, advanced) => (true, advanced)
    | (none, failed) => (false, failed)
  else (true, state)

/-- What the table does for a row after that: `Observe`, or the check of a control packet. -/
def dispatchRow (sizes : TableSizes) (allocations : ObserveAllocations) (label : UInt32)
    (row : BatchRow) (state : TableState) : Except TableError Unit × TableState :=
  match row with
  | .data binding meta_ =>
      match state.observe sizes allocations binding meta_ label with
      | (.ok _, observed) => (.ok (), observed)
      | (.error error, refused) => (.error error, refused)
  | .control timestampNs =>
      if state.table.isLatePacket timestampNs then (.error .latePacket, state) else (.ok (), state)

end TableState

end Flowsql.Npm
