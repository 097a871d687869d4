import Flowsql.Npm.StreamContract

/-!
# The analysis contract

Configuration and memory budget of an analysis task, from `npm_analysis_contract.h`
and `npm_analysis_contract.cpp`. Byte counts are `uint64_t`, modelled by natural
numbers; the functions test before they add.
-/

namespace Flowsql.Npm

def minInt64 : Int := -2 ^ 63

/-- Addition of two `uint64_t` values, which wraps around. -/
def addUInt64 (left right : Nat) : Nat := (left + right) % 2 ^ 64

theorem addUInt64_eq {left right : Nat} (bounded : left + right ≤ maxUInt64) :
    addUInt64 left right = left + right := by
  unfold maxUInt64 at bounded
  exact Nat.mod_eq_of_lt (by omega)

/-- `SaturatingAdd` on `uint64_t`. -/
def saturatingAddUInt64 (left right : Nat) : Nat :=
  if right > maxUInt64 - left then maxUInt64 else left + right

inductive RunMode where
  | offline
  | realtime
  deriving DecidableEq, Repr

/-- The part of `NpmAnalysisConfig` that the session table and the budget read. -/
structure AnalysisConfig where
  runMode : RunMode := .offline
  outputIntervalNs : Int := 30000000000
  tcpIdleTimeoutNs : Int := 60000000000
  udpIdleTimeoutNs : Int := 30000000000
  outOfOrderToleranceNs : Int := 1000000000
  payloadSamplePackets : UInt32 := 8
  maxActiveSessions : Nat := 100000
  maxTrackedBytes : Nat := 268435456
  maxPendingOutputBytes : Nat := 67108864
  deriving DecidableEq, Repr

/-- `IsInRange`. -/
def isInRange (value least greatest : Int) : Bool :=
  decide (least ≤ value) && decide (value ≤ greatest)

/-- `ValidateNpmAnalysisConfig` succeeds, as far as the modelled fields go. -/
def AnalysisConfig.valid (config : AnalysisConfig) : Bool :=
  isInRange config.outputIntervalNs 10000000 3600000000000 &&
    isInRange config.tcpIdleTimeoutNs 1000000000 86400000000000 &&
    isInRange config.udpIdleTimeoutNs 1000000000 86400000000000 &&
    isInRange config.outOfOrderToleranceNs 0 60000000000 &&
    isInRange config.payloadSamplePackets.toNat 1 64 &&
    isInRange config.maxActiveSessions 1 10000000 &&
    isInRange config.maxTrackedBytes 1048576 1099511627776 &&
    isInRange config.maxPendingOutputBytes 1048576 1099511627776

example : (({} : AnalysisConfig).valid) = true := by decide

/-! ## Sessions -/

/-- `NpmSessionKey4` and `NpmSessionKey6`, which differ in the size of an address. The
endpoints are ordered, so both directions of a conversation have the same key. -/
structure FamilyKey (addressSize : Nat) where
  aIp : Vector UInt8 addressSize
  bIp : Vector UInt8 addressSize
  observationDomainId : UInt64
  inputNamespace : String
  aPort : UInt16
  bPort : UInt16
  transportProtocol : UInt8
  deriving DecidableEq

/-- `NpmSessionKeyView`: a key of either family. -/
inductive SessionKey where
  | ipv4 (key : FamilyKey 4)
  | ipv6 (key : FamilyKey 16)
  deriving DecidableEq

def SessionKey.protocol : SessionKey → UInt8
  | ipv4 key => key.transportProtocol
  | ipv6 key => key.transportProtocol

inductive ProtocolStatus where
  | pending
  | identified
  | unknown
  deriving DecidableEq, Repr

/-- `NpmSessionView`. -/
structure SessionView where
  sessionId : Nat
  key : Option SessionKey
  firstNs : Int
  lastNs : Int
  packetsAb : Nat
  packetsBa : Nat
  wireBytesAb : Nat
  wireBytesBa : Nat
  primaryLabelId : UInt32
  protocolStatus : ProtocolStatus
  protocolId : Option UInt16
  protocolSubId : Option UInt16
  deriving DecidableEq

namespace PacketDirection

/-- `OppositeDirection`. -/
def opposite : PacketDirection → PacketDirection
  | aToB => bToA
  | bToA => aToB

@[simp] theorem opposite_opposite (direction : PacketDirection) :
    direction.opposite.opposite = direction := by
  cases direction <;> rfl

@[simp] theorem opposite_ne (direction : PacketDirection) : direction.opposite ≠ direction := by
  cases direction <;> simp [opposite]

end PacketDirection

def tcpProtocol : UInt8 := 6

def udpProtocol : UInt8 := 17

/-! ## The task budget -/

inductive BudgetCategory where
  | sessionState
  | moduleState
  | inputBatch
  | pendingOutput
  deriving DecidableEq, Repr

/-- `NpmBudgetUsage`: the bytes reserved in each category. -/
structure BudgetUsage where
  sessionStateBytes : Nat := 0
  moduleStateBytes : Nat := 0
  inputBatchBytes : Nat := 0
  pendingOutputBytes : Nat := 0
  deriving DecidableEq, Repr

inductive BudgetError where
  | none
  | trackedLimitExceeded
  | pendingOutputLimitExceeded
  | releaseUnderflow
  deriving DecidableEq, Repr

namespace BudgetUsage

/-- `BudgetCounter`, read. -/
def counter (usage : BudgetUsage) : BudgetCategory → Nat
  | .sessionState => usage.sessionStateBytes
  | .moduleState => usage.moduleStateBytes
  | .inputBatch => usage.inputBatchBytes
  | .pendingOutput => usage.pendingOutputBytes

/-- `BudgetCounter`, written. -/
def setCounter (usage : BudgetUsage) (bytes : Nat) : BudgetCategory → BudgetUsage
  | .sessionState => { usage with sessionStateBytes := bytes }
  | .moduleState => { usage with moduleStateBytes := bytes }
  | .inputBatch => { usage with inputBatchBytes := bytes }
  | .pendingOutput => { usage with pendingOutputBytes := bytes }

@[simp] theorem counter_setCounter (usage : BudgetUsage) (bytes : Nat) (category : BudgetCategory) :
    (usage.setCounter bytes category).counter category = bytes := by
  cases category <;> rfl

@[simp] theorem setCounter_setCounter (usage : BudgetUsage) (first second : Nat)
    (category : BudgetCategory) :
    (usage.setCounter first category).setCounter second category =
      usage.setCounter second category := by
  cases category <;> rfl

@[simp] theorem setCounter_counter (usage : BudgetUsage) (category : BudgetCategory) :
    usage.setCounter (usage.counter category) category = usage := by
  cases category <;> rfl

theorem counter_setCounter_ne {usage : BudgetUsage} {bytes : Nat} {category other : BudgetCategory}
    (different : other ≠ category) :
    (usage.setCounter bytes category).counter other = usage.counter other := by
  cases category <;> cases other <;> first | rfl | exact absurd rfl different

end BudgetUsage

/-- `NpmTrackedBudgetBytes`. -/
def trackedBudgetBytes (usage : BudgetUsage) : Nat :=
  saturatingAddUInt64 (saturatingAddUInt64 usage.sessionStateBytes usage.moduleStateBytes)
    usage.inputBatchBytes

/-- `ReserveNpmBudget`: an error leaves the usage as it is. -/
def reserveNpmBudget (config : AnalysisConfig) (category : BudgetCategory) (bytes : Nat)
    (usage : BudgetUsage) : BudgetError × BudgetUsage :=
  let reserved := usage.setCounter (usage.counter category + bytes) category
  if category = .pendingOutput then
    if usage.pendingOutputBytes > config.maxPendingOutputBytes ∨
        bytes > config.maxPendingOutputBytes - usage.pendingOutputBytes then
      (.pendingOutputLimitExceeded, usage)
    else (.none, reserved)
  else if trackedBudgetBytes usage > config.maxTrackedBytes ∨
      bytes > config.maxTrackedBytes - trackedBudgetBytes usage then
    (.trackedLimitExceeded, usage)
  else (.none, reserved)

/-- `ReleaseNpmBudget`. -/
def releaseNpmBudget (category : BudgetCategory) (bytes : Nat) (usage : BudgetUsage) :
    BudgetError × BudgetUsage :=
  if bytes > usage.counter category then (.releaseUnderflow, usage)
  else (.none, usage.setCounter (usage.counter category - bytes) category)

theorem reserveNpmBudget_ok {config : AnalysisConfig} {category : BudgetCategory} {bytes : Nat}
    {usage reserved : BudgetUsage}
    (granted : reserveNpmBudget config category bytes usage = (.none, reserved)) :
    reserved = usage.setCounter (usage.counter category + bytes) category := by
  unfold reserveNpmBudget at granted
  split at granted <;> split at granted <;> first | exact (Prod.mk.inj granted).2.symm | simp at granted

theorem reserveNpmBudget_error {config : AnalysisConfig} {category : BudgetCategory} {bytes : Nat}
    {usage kept : BudgetUsage} {error : BudgetError}
    (refused : reserveNpmBudget config category bytes usage = (error, kept)) (failed : error ≠ .none) :
    kept = usage := by
  unfold reserveNpmBudget at refused
  split at refused <;> split at refused <;>
    first
      | exact (Prod.mk.inj refused).2.symm
      | exact absurd (Prod.mk.inj refused).1.symm failed

/-- What was just reserved can be released, and then nothing has changed. -/
theorem releaseNpmBudget_setCounter (usage : BudgetUsage) (category : BudgetCategory) (bytes : Nat) :
    releaseNpmBudget category bytes (usage.setCounter (usage.counter category + bytes) category) =
      (.none, usage) := by
  simp [releaseNpmBudget]

/-- `NpmTaskBudget`, which the components of a task share. -/
structure TaskBudget where
  config : AnalysisConfig
  usage : BudgetUsage := {}
  deriving DecidableEq

namespace TaskBudget

variable {budget next : TaskBudget} {category other : BudgetCategory} {bytes : Nat}
  {error : BudgetError}

/-- `NpmTaskBudget::Reserve`. -/
def reserve (category : BudgetCategory) (bytes : Nat) (budget : TaskBudget) :
    BudgetError × TaskBudget :=
  let (error, usage) := reserveNpmBudget budget.config category bytes budget.usage
  (error, { budget with usage := usage })

/-- `NpmTaskBudget::Release`. -/
def release (category : BudgetCategory) (bytes : Nat) (budget : TaskBudget) :
    BudgetError × TaskBudget :=
  let (error, usage) := releaseNpmBudget category bytes budget.usage
  (error, { budget with usage := usage })

/-- The bytes reserved in a category. -/
def used (budget : TaskBudget) (category : BudgetCategory) : Nat := budget.usage.counter category

/-- The budget with another amount reserved in a category. -/
def withUsed (budget : TaskBudget) (category : BudgetCategory) (bytes : Nat) : TaskBudget :=
  { budget with usage := budget.usage.setCounter bytes category }

@[simp] theorem used_withUsed : (budget.withUsed category bytes).used category = bytes := by
  simp [used, withUsed]

@[simp] theorem withUsed_used : budget.withUsed category (budget.used category) = budget := by
  simp [used, withUsed]

@[simp] theorem withUsed_withUsed {more : Nat} :
    (budget.withUsed category bytes).withUsed category more = budget.withUsed category more := by
  simp [withUsed]

theorem used_withUsed_ne (different : other ≠ category) :
    (budget.withUsed category bytes).used other = budget.used other :=
  BudgetUsage.counter_setCounter_ne different

theorem reserve_ok (granted : budget.reserve category bytes = (.none, next)) :
    next = budget.withUsed category (budget.used category + bytes) := by
  unfold reserve at granted
  generalize outcome : reserveNpmBudget budget.config category bytes budget.usage = result at granted
  obtain ⟨error, usage⟩ := result
  cases granted
  rw [reserveNpmBudget_ok outcome]
  rfl

theorem reserve_error (refused : budget.reserve category bytes = (error, next))
    (failed : error ≠ .none) : next = budget := by
  unfold reserve at refused
  generalize outcome : reserveNpmBudget budget.config category bytes budget.usage = result at refused
  obtain ⟨error, usage⟩ := result
  cases refused
  rw [reserveNpmBudget_error outcome failed]

/-- What is reserved can be released. -/
theorem release_eq (owned : bytes ≤ budget.used category) :
    budget.release category bytes =
      (.none, budget.withUsed category (budget.used category - bytes)) := by
  have notMore : ¬ bytes > budget.usage.counter category := Nat.not_lt.mpr owned
  unfold release releaseNpmBudget
  rw [if_neg notMore]
  rfl

/-- Reservations and releases of one category. -/
def OnlyChanges (category : BudgetCategory) (before after : TaskBudget) : Prop :=
  after = before.withUsed category (after.used category)

theorem OnlyChanges.refl (budget : TaskBudget) : OnlyChanges category budget budget := by
  simp [OnlyChanges]

theorem OnlyChanges.trans {first second third : TaskBudget}
    (left : OnlyChanges category first second) (right : OnlyChanges category second third) :
    OnlyChanges category first third := by
  unfold OnlyChanges at *
  rw [right, left]
  simp

theorem OnlyChanges.withUsed : OnlyChanges category budget (budget.withUsed category bytes) := by
  simp [OnlyChanges]

theorem OnlyChanges.config {after : TaskBudget} (changes : OnlyChanges category budget after) :
    after.config = budget.config := by
  rw [changes]
  rfl

theorem OnlyChanges.used_ne {after : TaskBudget} (changes : OnlyChanges category budget after)
    (different : other ≠ category) : after.used other = budget.used other := by
  rw [changes]
  exact used_withUsed_ne different

theorem onlyChanges_iff {after : TaskBudget} : OnlyChanges category budget after ↔
    after.config = budget.config ∧ ∀ other, other ≠ category → after.used other = budget.used other := by
  constructor
  · exact fun changes => ⟨changes.config, fun other => changes.used_ne⟩
  · rintro ⟨configEq, usedEq⟩
    obtain ⟨config, ⟨session, module_, input, output⟩⟩ := budget
    obtain ⟨config', ⟨session', module', input', output'⟩⟩ := after
    have sessionEq := usedEq .sessionState
    have moduleEq := usedEq .moduleState
    have inputEq := usedEq .inputBatch
    have outputEq := usedEq .pendingOutput
    cases category <;>
      simp_all [OnlyChanges, used, withUsed, BudgetUsage.counter, BudgetUsage.setCounter]

theorem onlyChanges_reserve (outcome : budget.reserve category bytes = (error, next)) :
    OnlyChanges category budget next := by
  by_cases granted : error = .none
  · subst granted
    rw [reserve_ok outcome]
    exact .withUsed
  · rw [reserve_error outcome granted]
    exact .refl budget

theorem onlyChanges_release : OnlyChanges category budget (budget.release category bytes).2 := by
  by_cases owned : bytes ≤ budget.used category
  · rw [release_eq owned]
    exact .withUsed
  · have more : bytes > budget.usage.counter category := Nat.not_le.mp owned
    unfold release releaseNpmBudget
    rw [if_pos more]
    exact .refl budget

end TaskBudget

end Flowsql.Npm
