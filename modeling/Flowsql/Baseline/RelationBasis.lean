import Mathlib

/-!
# The basis of a relation task

A basis lists the groups that had enough of the mass in enough of the buckets, ranked by their
share, and the first of them as its stable head. Masses, shares and ratios are exact.
-/

namespace Flowsql.Baseline

inductive BaselineStatus where
  | kOk
  | kInvalidArgument
  | kInsufficientData
  | kTrainFailed
  deriving DecidableEq

structure RelationGroupHistoryStat where
  groupIdx : Nat
  histMass : ℚ
  activeBucketCount : Nat
  deriving DecidableEq

/-- The check of the configuration leaves only positive values of `kSupport` and `kStable`. -/
structure RelationSupportPolicySpec where
  kSupport : Nat
  minHistShare : ℚ
  minActiveRatio : ℚ

structure RelationSummaryPolicySpec where
  kHead : Int
  kStable : Nat

structure RelationBasisBuildInput where
  basisVersion : UInt64 := 1
  featureBase : String
  metricName : String
  groupSpaceId : String
  groupSpaceVersion : String
  otherGroupIdxs : List Nat
  supportPolicy : RelationSupportPolicySpec
  summaryPolicy : RelationSummaryPolicySpec
  validBucketCount : Nat := 0
  totalHistMassDenominator : ℚ := 0
  groupStats : List RelationGroupHistoryStat := []

structure RelationServiceBasis where
  basisVersion : UInt64
  featureBase : String
  metricName : String
  groupSpaceId : String
  groupSpaceVersion : String
  kHead : Int
  otherGroupIdxs : List Nat
  supportExplicit : List Nat
  stableHead : List Nat
  headProtoQ : List ℚ
  deriving DecidableEq

structure RankedGroup where
  groupIdx : Nat
  histShare : ℚ
  activeRatio : ℚ

/-- `RankedGroupOrder(rhs, lhs)` does not hold. -/
def rankedGroupLe (lhs rhs : RankedGroup) : Bool :=
  if lhs.histShare ≠ rhs.histShare then lhs.histShare > rhs.histShare
  else if lhs.activeRatio ≠ rhs.activeRatio then lhs.activeRatio > rhs.activeRatio
  else lhs.groupIdx ≤ rhs.groupIdx

/-- The denominator of the shares. -/
def totalHistMass (input : RelationBasisBuildInput) : ℚ :=
  if input.totalHistMassDenominator ≤ 0 then
    input.totalHistMassDenominator +
      ((input.groupStats.filter (0 < ·.histMass)).map (·.histMass)).sum
  else input.totalHistMassDenominator

def supportGroups (input : RelationBasisBuildInput) : List RankedGroup :=
  let groups := input.groupStats.filterMap fun stat =>
    if stat.histMass ≤ 0 ∨ stat.groupIdx ∈ input.otherGroupIdxs then none
    else
      let group : RankedGroup := {
        groupIdx := stat.groupIdx
        histShare := stat.histMass / totalHistMass input
        activeRatio := stat.activeBucketCount / input.validBucketCount }
      if input.supportPolicy.minHistShare ≤ group.histShare ∧
          input.supportPolicy.minActiveRatio ≤ group.activeRatio then some group
      else none
  (groups.mergeSort rankedGroupLe).take input.supportPolicy.kSupport

/-- `none` where the code returns `BAD_REQUEST`. -/
def buildServiceBasis (input : RelationBasisBuildInput) : Option RelationServiceBasis :=
  if input.featureBase = "" ∨ input.metricName = "" ∨ input.groupSpaceId = "" then none
  else if input.validBucketCount = 0 then none
  else if totalHistMass input ≤ 0 then none
  else
    let support := supportGroups input
    let stable := support.take input.summaryPolicy.kStable
    let stableShare := (stable.map (·.histShare)).sum
    some {
      basisVersion := input.basisVersion
      featureBase := input.featureBase
      metricName := input.metricName
      groupSpaceId := input.groupSpaceId
      groupSpaceVersion := input.groupSpaceVersion
      kHead := input.summaryPolicy.kHead
      otherGroupIdxs := (input.otherGroupIdxs.mergeSort (· ≤ ·)).dedup
      supportExplicit := support.map (·.groupIdx)
      stableHead := stable.map (·.groupIdx)
      headProtoQ := stable.map fun group =>
        if 0 < stableShare then group.histShare / stableShare else 0 }

/-! ## What a basis holds -/

theorem mem_supportGroups {input : RelationBasisBuildInput} {group : RankedGroup}
    (member : group ∈ supportGroups input) :
    ∃ stat ∈ input.groupStats, stat.groupIdx = group.groupIdx := by
  have sorted := List.mem_mergeSort.mp (List.mem_of_mem_take member)
  obtain ⟨stat, there, found⟩ := List.mem_filterMap.mp sorted
  refine ⟨stat, there, ?_⟩
  split at found
  · cases found
  · dsimp only at found
    split at found
    · cases found
      rfl
    · cases found

/-- A basis has the version it was asked for, and only groups that have statistics. -/
theorem buildServiceBasis_groups {input : RelationBasisBuildInput} {basis : RelationServiceBasis}
    (built : buildServiceBasis input = some basis) :
    basis.basisVersion = input.basisVersion ∧
      ∀ group ∈ basis.supportExplicit ++ basis.stableHead,
        group ∈ input.groupStats.map (·.groupIdx) := by
  unfold buildServiceBasis at built
  split at built
  · cases built
  split at built
  · cases built
  split at built
  · cases built
  cases built
  refine ⟨rfl, fun group member => ?_⟩
  have ranked : ∃ found ∈ supportGroups input, found.groupIdx = group := by
    rcases List.mem_append.mp member with support | stable
    · exact List.mem_map.mp support
    · obtain ⟨found, there, same⟩ := List.mem_map.mp stable
      exact ⟨found, List.mem_of_mem_take there, same⟩
  obtain ⟨found, there, same⟩ := ranked
  obtain ⟨stat, listed, its⟩ := mem_supportGroups there
  exact List.mem_map.mpr ⟨stat, listed, its.trans same⟩

end Flowsql.Baseline
