import Flowsql.Baseline.RelationBasis

/-!
# The running basis of a relation task

The accumulator keeps bounded counters for the mass of each group. The runtime state turns them into a
basis from time to time: it collects, refreshes, lets a candidate through only when it has been stable
and changes few groups, and warms up after a handover.
-/

namespace Flowsql.Baseline

/-! ## The accumulator -/

structure RelationStreamBasisConfig where
  maxGroups : Nat := 256
  thresholdMargin : ℚ := 6 / 5

def normalizeMaxGroups (value : Nat) : Nat := if value = 0 then 256 else value

def normalizeMargin (value : ℚ) : ℚ := if value < 1 then 1 else value

structure RelationBootstrapMetric where
  total : ℚ
  valuesByGroup : List ℚ

structure RelationRollingObservation where
  bucketId : Int
  groupIdx : List Nat
  metrics : List RelationBootstrapMetric

def isValidRelationMetric (metric : RelationBootstrapMetric) (groupCount : Nat) : Bool :=
  0 < metric.total && metric.valuesByGroup.length = groupCount && metric.valuesByGroup.all (0 ≤ ·)

structure RelationStreamGroupEstimate where
  groupIdx : Nat
  estimatedMass : ℚ
  massErrorUpperBound : ℚ := 0
  activeBucketCount : Nat := 1
  lastSeenBucket : Int
  deriving DecidableEq

structure RelationStreamBasisAccumulator where
  config : RelationStreamBasisConfig
  validBucketCount : Nat := 0
  totalMass : ℚ := 0
  firstBucketId : Int := 0
  lastBucketId : Int := 0
  groups : List RelationStreamGroupEstimate := []

/-- Less mass; of two groups with the same, the one with the larger index. -/
def lessEstimate (lhs rhs : RelationStreamGroupEstimate) : Bool :=
  if lhs.estimatedMass ≠ rhs.estimatedMass then lhs.estimatedMass < rhs.estimatedMass
  else rhs.groupIdx < lhs.groupIdx

/-- `std::min_element`. -/
def minEstimate : List RelationStreamGroupEstimate → Option RelationStreamGroupEstimate
  | [] => none
  | first :: rest =>
      match minEstimate rest with
      | none => some first
      | some least => some (if lessEstimate least first then least else first)

structure ConservativeCandidate where
  stat : RelationGroupHistoryStat
  histShareLower : ℚ
  activeRatio : ℚ
  lastSeenBucket : Int

/-- `CandidateOrder(rhs, lhs)` does not hold. -/
def candidateLe (lhs rhs : ConservativeCandidate) : Bool :=
  if lhs.histShareLower ≠ rhs.histShareLower then lhs.histShareLower > rhs.histShareLower
  else if lhs.activeRatio ≠ rhs.activeRatio then lhs.activeRatio > rhs.activeRatio
  else if lhs.lastSeenBucket ≠ rhs.lastSeenBucket then lhs.lastSeenBucket > rhs.lastSeenBucket
  else lhs.stat.groupIdx ≤ rhs.stat.groupIdx

namespace RelationStreamBasisAccumulator

def new (config : RelationStreamBasisConfig) : RelationStreamBasisAccumulator where
  config := {
    maxGroups := normalizeMaxGroups config.maxGroups
    thresholdMargin := normalizeMargin config.thresholdMargin }

variable (self : RelationStreamBasisAccumulator)

def observeMass (groupIdx : Nat) (mass : ℚ) (bucketId : Int) : RelationStreamBasisAccumulator :=
  if mass ≤ 0 then self
  else if self.groups.any (·.groupIdx = groupIdx) then
    { self with groups := self.groups.map fun estimate =>
        if estimate.groupIdx = groupIdx then { estimate with
          estimatedMass := estimate.estimatedMass + mass
          activeBucketCount := estimate.activeBucketCount + 1
          lastSeenBucket := bucketId }
        else estimate }
  else if self.groups.length < self.config.maxGroups then
    { self with groups := self.groups ++ [{
        groupIdx := groupIdx, estimatedMass := mass, lastSeenBucket := bucketId }] }
  else
    match minEstimate self.groups with
    | none => self
    | some least => { self with
        groups := self.groups.filter (·.groupIdx ≠ least.groupIdx) ++ [{
          groupIdx := groupIdx
          estimatedMass := least.estimatedMass + mass
          massErrorUpperBound := least.estimatedMass
          lastSeenBucket := bucketId }] }

/-- The masses of one observation, one after the other. -/
def observeMasses (masses : List (Nat × ℚ)) (bucketId : Int) : RelationStreamBasisAccumulator :=
  masses.foldl (fun accumulator entry => accumulator.observeMass entry.1 entry.2 bucketId) self

/-- Both overloads of `Observe`; `ObserveValidated` is the part behind the checks. -/
def observe (obs : RelationRollingObservation) (metricIndex : Nat) :
    Except BaselineStatus RelationStreamBasisAccumulator :=
  if 0 < self.validBucketCount ∧ obs.bucketId ≤ self.lastBucketId then .error .kInvalidArgument
  else
    match obs.metrics[metricIndex]? with
    | none => .error .kInvalidArgument
    | some metric =>
        if isValidRelationMetric metric obs.groupIdx.length then
          let counted := { self with
            firstBucketId := if self.validBucketCount = 0 then obs.bucketId else self.firstBucketId
            lastBucketId := obs.bucketId
            validBucketCount := self.validBucketCount + 1
            totalMass := self.totalMass + metric.total }
          .ok (counted.observeMasses (obs.groupIdx.zip metric.valuesByGroup) obs.bucketId)
        else .error .kInvalidArgument

/-- The span is a `uint64_t`. -/
def coverageRatio : ℚ :=
  if self.validBucketCount = 0 ∨ self.lastBucketId < self.firstBucketId then 0
  else
    let span := ((self.lastBucketId - self.firstBucketId + 1) % 2 ^ 64).toNat
    if span = 0 then 0 else self.validBucketCount / span

def massLower (estimate : RelationStreamGroupEstimate) : ℚ :=
  max 0 (estimate.estimatedMass - estimate.massErrorUpperBound)

/-- A group that passes both thresholds. -/
def candidate? (policy : RelationSupportPolicySpec) (estimate : RelationStreamGroupEstimate) :
    Option ConservativeCandidate :=
  let histShareLower := massLower estimate / self.totalMass
  let activeRatio : ℚ := estimate.activeBucketCount / self.validBucketCount
  if histShareLower < policy.minHistShare * self.config.thresholdMargin ∨
      activeRatio < policy.minActiveRatio * self.config.thresholdMargin then none
  else some {
    stat := {
      groupIdx := estimate.groupIdx
      histMass := massLower estimate
      activeBucketCount := estimate.activeBucketCount }
    histShareLower := histShareLower
    activeRatio := activeRatio
    lastSeenBucket := estimate.lastSeenBucket }

def buildConservativeInput (baseInput : RelationBasisBuildInput) :
    Except BaselineStatus RelationBasisBuildInput :=
  if self.validBucketCount = 0 ∨ self.totalMass ≤ 0 then .error .kInsufficientData
  else
    let candidates := self.groups.filterMap (self.candidate? baseInput.supportPolicy)
    .ok { baseInput with
      validBucketCount := self.validBucketCount
      totalHistMassDenominator := self.totalMass
      groupStats := (candidates.mergeSort candidateLe).map (·.stat) }

end RelationStreamBasisAccumulator

/-! ## The runtime state -/

inductive RelationBasisStatus where
  | kNoBasis
  | kCollecting
  | kBasisWarming
  | kBasisReady
  | kHandoverWarming
  deriving DecidableEq

structure RelationBasisRuntimeConfig where
  stream : RelationStreamBasisConfig := {}
  collectMinBuckets : Nat := 1440
  readyMinBuckets : Nat := 4320
  refreshIntervalBuckets : Nat := 1440
  candidateMinCoverageRatio : ℚ := 3 / 5
  replacementCapRatio : ℚ := 1 / 5
  replacementCapMax : Nat := 2
  handoverWarmupBuckets : Nat := 1440
  minStableRefreshCount : Nat := 2

structure RelationBasisRefreshDecision where
  status : BaselineStatus := .kOk
  evaluated : Bool := false
  basisUpdated : Bool := false
  handoverStarted : Bool := false
  rejectedByReplacementCap : Bool := false
  basisStatus : RelationBasisStatus
  basisVersion : UInt64
  deriving DecidableEq

def replacementCap (oldSize newSize : Nat) (capRatio : ℚ) (capMax : Nat) : Nat :=
  let baseSize := max 1 (max oldSize newSize)
  let boundedRatioCap := max 1 ⌈max 0 capRatio * baseSize⌉.toNat
  if capMax = 0 then boundedRatioCap else min capMax boundedRatioCap

def replacementCount (oldGroups newGroups : List Nat) : Nat :=
  max (newGroups.filter (· ∉ oldGroups)).length (oldGroups.filter (· ∉ newGroups)).length

/-- A group that is not in `stable_refresh_counts_` counts as 0 there. `lastRefreshBucket` is 0 before
the first refresh. -/
structure RelationBasisRuntimeState where
  config : RelationBasisRuntimeConfig
  accumulator : RelationStreamBasisAccumulator
  basisStatus : RelationBasisStatus := .kNoBasis
  activeBasis : Option RelationServiceBasis := none
  lastRefreshBucket : Int := 0
  handoverStartBucket : Int := 0
  stableRefreshCounts : Nat → Nat := fun _ => 0

namespace RelationBasisRuntimeState

def new (config : RelationBasisRuntimeConfig) : RelationBasisRuntimeState where
  config := config
  accumulator := .new config.stream

variable (self : RelationBasisRuntimeState)

def observe (obs : RelationRollingObservation) (metricIndex : Nat) :
    BaselineStatus × RelationBasisRuntimeState :=
  match self.accumulator.observe obs metricIndex with
  | .error status => (status, self)
  | .ok accumulator => (.kOk, { self with
      accumulator := accumulator
      basisStatus := if self.activeBasis.isNone then .kCollecting else self.basisStatus })

def loadSeedBasis (basis : RelationServiceBasis) (status : RelationBasisStatus) :
    BaselineStatus × RelationBasisRuntimeState :=
  if basis.metricName = "" ∨ basis.groupSpaceId = "" ∨ basis.basisVersion = 0 then
    (.kInvalidArgument, self)
  else (.kOk, { self with
    activeBasis := some basis
    basisStatus := match status with
      | .kNoBasis | .kCollecting => .kBasisWarming
      | other => other })

def completeHandoverIfReady (bucketId : Int) : RelationBasisRuntimeState :=
  if self.basisStatus = .kHandoverWarming ∧ self.handoverStartBucket ≤ bucketId ∧
      self.config.handoverWarmupBuckets ≤ (bucketId - self.handoverStartBucket).toNat then
    { self with basisStatus := .kBasisReady }
  else self

def isRefreshDue (bucketId : Int) : Bool :=
  if self.lastRefreshBucket = 0 then true
  else if bucketId < self.lastRefreshBucket then false
  else self.config.refreshIntervalBuckets ≤ (bucketId - self.lastRefreshBucket).toNat

def activeVersion : UInt64 := self.activeBasis.elim 0 (·.basisVersion)

def nextBasisVersion : UInt64 := self.activeBasis.elim 1 (·.basisVersion + 1)

def sameBasis (active candidate : RelationServiceBasis) : Bool :=
  active.supportExplicit = candidate.supportExplicit && active.stableHead = candidate.stableHead

def isWithinReplacementCap (active candidate : RelationServiceBasis) : Bool :=
  replacementCount active.supportExplicit candidate.supportExplicit ≤
      replacementCap active.supportExplicit.length candidate.supportExplicit.length
        self.config.replacementCapRatio self.config.replacementCapMax &&
    replacementCount active.stableHead candidate.stableHead ≤
      replacementCap active.stableHead.length candidate.stableHead.length
        self.config.replacementCapRatio self.config.replacementCapMax

/-- The counts after the candidates of one more refresh. -/
def countStable (stats : List RelationGroupHistoryStat) (group : Nat) : Nat :=
  if group ∈ stats.map (·.groupIdx) then
    self.stableRefreshCounts group + (stats.map (·.groupIdx)).count group
  else 0

def applyStableRefreshGate (input : RelationBasisBuildInput) :
    RelationBasisBuildInput × RelationBasisRuntimeState :=
  if self.config.minStableRefreshCount ≤ 1 then (input, self)
  else
    let counts := self.countStable input.groupStats
    ({ input with
        groupStats := input.groupStats.filter fun stat =>
          self.config.minStableRefreshCount ≤ counts stat.groupIdx },
      { self with stableRefreshCounts := counts })

def decide_ : RelationBasisRefreshDecision where
  basisStatus := self.basisStatus
  basisVersion := self.activeVersion

/-- The part of `MaybeRefresh` behind the gate. -/
def adopt (candidate : RelationServiceBasis) (bucketId : Int) :
    RelationBasisRefreshDecision × RelationBasisRuntimeState :=
  match self.activeBasis with
  | none =>
      let after := { self with
        activeBasis := some candidate
        basisStatus := if self.config.readyMinBuckets ≤ self.accumulator.validBucketCount
          then .kBasisReady else .kBasisWarming }
      ({ after.decide_ with evaluated := true, basisUpdated := true }, after)
  | some active =>
      if sameBasis active candidate then
        let after := { self with
          basisStatus := if self.basisStatus = .kBasisWarming ∧
              self.config.readyMinBuckets ≤ self.accumulator.validBucketCount
            then .kBasisReady else self.basisStatus }
        ({ after.decide_ with evaluated := true }, after)
      else if !self.isWithinReplacementCap active candidate then
        ({ self.decide_ with evaluated := true, rejectedByReplacementCap := true }, self)
      else
        let after := { self with
          activeBasis := some candidate
          basisStatus := .kHandoverWarming
          handoverStartBucket := bucketId }
        ({ after.decide_ with evaluated := true, basisUpdated := true, handoverStarted := true },
          after)

def maybeRefresh (baseInput : RelationBasisBuildInput) (bucketId : Int) :
    RelationBasisRefreshDecision × RelationBasisRuntimeState :=
  let self := self.completeHandoverIfReady bucketId
  if self.accumulator.validBucketCount < self.config.collectMinBuckets then
    let after := { self with
      basisStatus := if self.activeBasis.isNone then .kCollecting else self.basisStatus }
    (after.decide_, after)
  else if !self.isRefreshDue bucketId then (self.decide_, self)
  else if self.accumulator.coverageRatio < self.config.candidateMinCoverageRatio then
    (self.decide_, self)
  else
    match self.accumulator.buildConservativeInput
        { baseInput with basisVersion := self.nextBasisVersion } with
    | .error status => ({ self.decide_ with status := status }, self)
    | .ok conservative =>
        let (buildInput, gated) := self.applyStableRefreshGate conservative
        let refreshed := { gated with lastRefreshBucket := bucketId }
        if 1 < self.config.minStableRefreshCount ∧ buildInput.groupStats = [] then
          ({ refreshed.decide_ with evaluated := true }, refreshed)
        else
          match buildServiceBasis buildInput with
          | none => ({ refreshed.decide_ with status := .kTrainFailed, evaluated := true }, refreshed)
          | some candidate => refreshed.adopt candidate bucketId

end RelationBasisRuntimeState

/-! ## Seeds -/

inductive BootstrapSeedStatus where
  | kNone
  | kWeak
  | kPartial
  | kFull
  deriving DecidableEq

def basisStatusFromSeedStatus (status : BootstrapSeedStatus) : RelationBasisStatus :=
  if status = .kFull then .kBasisReady else .kBasisWarming

/-- The state of a source and metric, as the relation task sets it up. -/
def RelationBasisRuntimeState.initializeState (config : RelationBasisRuntimeConfig)
    (seed : Option (RelationServiceBasis × BootstrapSeedStatus)) : RelationBasisRuntimeState :=
  seed.elim (.new config) fun (basis, status) =>
    ((RelationBasisRuntimeState.new config).loadSeedBasis basis (basisStatusFromSeedStatus status)).2

end Flowsql.Baseline
