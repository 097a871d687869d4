import Flowsql.Baseline.RelationBasisState
import Flowsql.Library.SpaceSaving

/-!
# The accumulator errs on the safe side

The estimates of the accumulator against the observations it has accepted: what each group really
weighs, in how many buckets it was really active, and that only groups that meet the policy are
selected.
-/

namespace Flowsql.Baseline

open Flowsql.Library

/-! ## What was observed -/

/-- The observation, and the index of the metric. -/
abbrev Observed := RelationRollingObservation × Nat

namespace Observed

variable (observed : Observed)

def masses : List (Nat × ℚ) :=
  observed.1.metrics[observed.2]?.elim [] fun metric => observed.1.groupIdx.zip metric.valuesByGroup

def total : ℚ := observed.1.metrics[observed.2]?.elim 0 (·.total)

end Observed

def massOf (masses : List (Nat × ℚ)) (group : Nat) : ℚ :=
  ((masses.filter (·.1 = group)).map (·.2)).sum

/-- The positions at which the group has some mass. -/
def positionsOf (masses : List (Nat × ℚ)) (group : Nat) : Nat :=
  masses.countP fun entry => entry.1 = group ∧ 0 < entry.2

def trueMass (history : List Observed) (group : Nat) : ℚ :=
  (history.map fun observed => massOf observed.masses group).sum

def trueTotal (history : List Observed) : ℚ := (history.map Observed.total).sum

/-- The buckets in which the group was active. -/
def trueActive (history : List Observed) (group : Nat) : Nat :=
  history.countP fun observed => 0 < positionsOf observed.masses group

/-- No group has mass at two positions. -/
def Observed.Distinct (observed : Observed) : Prop :=
  ∀ group, positionsOf observed.masses group ≤ 1

theorem massOf_cons (group : Nat) (mass : ℚ) (rest : List (Nat × ℚ)) (other : Nat) :
    massOf ((group, mass) :: rest) other = (if other = group then mass else 0) + massOf rest other := by
  unfold massOf
  by_cases same : group = other
  · rw [List.filter_cons_of_pos (by simpa using same), List.map_cons, List.sum_cons,
      if_pos same.symm]
  · rw [List.filter_cons_of_neg (by simpa using same), if_neg (Ne.symm same), zero_add]

theorem positionsOf_cons (group : Nat) (mass : ℚ) (rest : List (Nat × ℚ)) (other : Nat) :
    positionsOf ((group, mass) :: rest) other =
      (if other = group ∧ 0 < mass then 1 else 0) + positionsOf rest other := by
  unfold positionsOf
  rw [List.countP_cons, Nat.add_comm]
  congr 1
  refine if_congr ?_ rfl rfl
  rw [decide_eq_true_eq]
  exact and_congr_left' eq_comm

theorem positionsOf_zip_le (groups : List Nat) (values : List ℚ) (group : Nat) :
    positionsOf (groups.zip values) group ≤ groups.count group := by
  induction groups generalizing values with
  | nil => exact Nat.zero_le _
  | cons first rest ih =>
      cases values with
      | nil => exact Nat.zero_le _
      | cons value others =>
          rw [List.zip_cons_cons, positionsOf_cons, List.count_cons, Nat.add_comm]
          refine Nat.add_le_add (ih others) ?_
          split
          next here => rw [if_pos (beq_iff_eq.mpr here.1.symm)]
          · exact Nat.zero_le _

/-- An observation that lists each group once. -/
theorem Observed.distinct_of_nodup {observed : Observed} (unique : observed.1.groupIdx.Nodup) :
    observed.Distinct := by
  intro group
  unfold Observed.masses
  cases observed.1.metrics[observed.2]? with
  | none => exact Nat.zero_le _
  | some metric =>
      exact (positionsOf_zip_le _ _ _).trans (List.nodup_iff_count_le_one.mp unique group)

/-! ## One observation -/

def RelationStreamGroupEstimate.counter (estimate : RelationStreamGroupEstimate) :
    Counter Nat ℚ where
  key := estimate.groupIdx
  estimate := estimate.estimatedMass
  error := estimate.massErrorUpperBound

theorem minEstimate_eq_none {groups : List RelationStreamGroupEstimate} :
    minEstimate groups = none ↔ groups = [] := by
  cases groups with
  | nil => exact ⟨fun _ => rfl, fun _ => rfl⟩
  | cons first rest =>
      unfold minEstimate
      cases minEstimate rest with
      | none => exact ⟨(fun wrong => nomatch wrong), (fun wrong => nomatch wrong)⟩
      | some least => exact ⟨(fun wrong => nomatch wrong), (fun wrong => nomatch wrong)⟩

theorem minEstimate_least {groups : List RelationStreamGroupEstimate}
    {least : RelationStreamGroupEstimate} (found : minEstimate groups = some least) :
    least ∈ groups ∧ ∀ estimate ∈ groups, least.estimatedMass ≤ estimate.estimatedMass := by
  induction groups generalizing least with
  | nil => cases found
  | cons first rest ih =>
      unfold minEstimate at found
      cases smallest : minEstimate rest with
      | none =>
          rw [smallest] at found
          cases found
          refine ⟨List.mem_cons_self, fun estimate member => ?_⟩
          rcases List.mem_cons.mp member with rfl | inside
          · exact le_rfl
          · rw [minEstimate_eq_none.mp smallest] at inside
            cases inside
      | some candidate =>
          rw [smallest] at found
          cases found
          obtain ⟨member, below⟩ := ih smallest
          by_cases less : lessEstimate candidate first = true
          · rw [if_pos less]
            refine ⟨List.mem_cons_of_mem _ member, fun estimate inside => ?_⟩
            rcases List.mem_cons.mp inside with rfl | later
            · unfold lessEstimate at less
              split at less
              · exact (of_decide_eq_true less).le
              next same => exact (not_ne_iff.mp same).le
            · exact below estimate later
          · rw [if_neg less]
            refine ⟨List.mem_cons_self, fun estimate inside => ?_⟩
            rcases List.mem_cons.mp inside with rfl | later
            · exact le_rfl
            · refine le_trans ?_ (below estimate later)
              unfold lessEstimate at less
              split at less
              · exact not_lt.mp fun smaller => less (decide_eq_true smaller)
              next same => exact (not_ne_iff.mp same).ge

namespace RelationStreamBasisAccumulator

variable {accumulator after : RelationStreamBasisAccumulator}

def counters (accumulator : RelationStreamBasisAccumulator) : List (Counter Nat ℚ) :=
  accumulator.groups.map RelationStreamGroupEstimate.counter

theorem keys_counters (accumulator : RelationStreamBasisAccumulator) :
    accumulator.counters.map Counter.key = accumulator.groups.map (·.groupIdx) := by
  unfold counters
  rw [List.map_map]
  rfl

theorem counter_mem {estimate : RelationStreamGroupEstimate} (member : estimate ∈ accumulator.groups) :
    estimate.counter ∈ accumulator.counters :=
  List.mem_map.mpr ⟨estimate, member, rfl⟩

theorem observeMass_config (groupIdx : Nat) (mass : ℚ) (bucketId : Int) :
    (accumulator.observeMass groupIdx mass bucketId).config = accumulator.config := by
  unfold observeMass
  split
  · rfl
  split
  · rfl
  split
  · rfl
  split <;> rfl

/-- A mass keeps the counters within their bounds. -/
theorem observeMass_bounding {weight : Nat → ℚ}
    (bounding : Bounding accumulator.config.maxGroups accumulator.counters weight) (groupIdx : Nat) {mass : ℚ}
    (gain : 0 ≤ mass) (bucketId : Int) (roomy : 0 < accumulator.config.maxGroups) :
    Bounding accumulator.config.maxGroups (accumulator.observeMass groupIdx mass bucketId).counters
      (heavier weight groupIdx mass) := by
  unfold observeMass
  split
  next none_ =>
    have zero : mass = 0 := le_antisymm none_ gain
    have same : heavier weight groupIdx mass = weight := by
      funext other
      unfold heavier
      rw [zero, ite_self, add_zero]
    rw [same]
    exact bounding
  split
  next tracked =>
    have known : groupIdx ∈ accumulator.counters.map Counter.key := by
      rw [keys_counters]
      obtain ⟨estimate, member, same⟩ := List.any_eq_true.mp tracked
      exact List.mem_map.mpr ⟨estimate, member, of_decide_eq_true same⟩
    have bumped := bounding.bump known gain
    convert bumped using 1
    unfold counters
    rw [List.map_map, List.map_map]
    refine List.map_congr_left fun estimate _ => ?_
    simp only [Function.comp_apply]
    by_cases same : estimate.groupIdx = groupIdx
    · rw [if_pos same, if_pos (show estimate.counter.key = groupIdx from same)]
      rfl
    · rw [if_neg same, if_neg (show ¬estimate.counter.key = groupIdx from same)]
  next untracked =>
    have fresh : groupIdx ∉ accumulator.counters.map Counter.key := by
      rw [keys_counters]
      intro inside
      obtain ⟨estimate, member, same⟩ := List.mem_map.mp inside
      exact untracked (List.any_eq_true.mpr ⟨estimate, member, decide_eq_true same⟩)
    have length : accumulator.counters.length = accumulator.groups.length := List.length_map _
    split
    next room =>
      have tracked := bounding.track fresh (length.trans_lt room) gain
      unfold counters at tracked ⊢
      rw [List.map_append]
      exact tracked
    next full =>
      split
      next nothing =>
        rw [minEstimate_eq_none.mp nothing] at full
        exact absurd roomy full
      next least found =>
        obtain ⟨member, below⟩ := minEstimate_least found
        have replaced := bounding.replace fresh (counter_mem member)
          (fun counter inside => ?_) (length.symm ▸ Nat.le_of_not_lt full) gain
        · unfold counters at replaced ⊢
          rw [List.map_append]
          rw [List.filter_map] at replaced
          exact replaced
        · obtain ⟨estimate, there, rfl⟩ := List.mem_map.mp inside
          exact below estimate there

theorem observeMasses_config (masses : List (Nat × ℚ)) (bucketId : Int) :
    (accumulator.observeMasses masses bucketId).config = accumulator.config := by
  unfold observeMasses
  induction masses generalizing accumulator with
  | nil => rfl
  | cons entry rest ih =>
      rw [List.foldl_cons, ih]
      exact observeMass_config entry.1 entry.2 bucketId

/-- The masses of one observation keep the counters within their bounds. -/
theorem observeMasses_bounding {weight : Nat → ℚ}
    (bounding : Bounding accumulator.config.maxGroups accumulator.counters weight)
    (roomy : 0 < accumulator.config.maxGroups) {masses : List (Nat × ℚ)}
    (gain : ∀ entry ∈ masses, 0 ≤ entry.2) (bucketId : Int) :
    Bounding accumulator.config.maxGroups (accumulator.observeMasses masses bucketId).counters
      fun group => weight group + massOf masses group := by
  unfold observeMasses
  induction masses generalizing accumulator weight with
  | nil =>
      have same : (fun group => weight group + massOf [] group) = weight := by
        funext group
        exact add_zero _
      rw [same]
      exact bounding
  | cons entry rest ih =>
      have first := observeMass_bounding bounding entry.1 (gain entry List.mem_cons_self) bucketId
        roomy
      have config := @observeMass_config accumulator entry.1 entry.2 bucketId
      rw [← config] at first roomy
      have rest_ := ih first roomy fun other later => gain other (List.mem_cons_of_mem _ later)
      rw [config] at rest_
      have same : (fun group => weight group + massOf (entry :: rest) group) =
          fun group => heavier weight entry.1 entry.2 group + massOf rest group := by
        funext group
        rw [massOf_cons, heavier, add_assoc]
      rw [same]
      exact rest_

/-- A group is counted once more for each position at which it has mass. -/
theorem observeMass_active {active : Nat → Nat}
    (counted : ∀ estimate ∈ accumulator.groups, estimate.activeBucketCount ≤ active estimate.groupIdx)
    (groupIdx : Nat) (mass : ℚ) (bucketId : Int) :
    ∀ estimate ∈ (accumulator.observeMass groupIdx mass bucketId).groups, estimate.activeBucketCount ≤
      active estimate.groupIdx + if estimate.groupIdx = groupIdx ∧ 0 < mass then 1 else 0 := by
  have kept : ∀ estimate ∈ accumulator.groups, estimate.activeBucketCount ≤
      active estimate.groupIdx + if estimate.groupIdx = groupIdx ∧ 0 < mass then 1 else 0 :=
    fun estimate member => (counted estimate member).trans (Nat.le_add_right _ _)
  unfold observeMass
  split
  · exact kept
  next some_ =>
    have positive : 0 < mass := not_le.mp some_
    have new : 1 ≤ active groupIdx + if groupIdx = groupIdx ∧ 0 < mass then 1 else 0 := by
      rw [if_pos ⟨rfl, positive⟩]
      exact Nat.le_add_left _ _
    split
    · intro estimate member
      obtain ⟨before, there, rfl⟩ := List.mem_map.mp member
      by_cases same : before.groupIdx = groupIdx
      · rw [if_pos same]
        change before.activeBucketCount + 1 ≤ active before.groupIdx +
          if before.groupIdx = groupIdx ∧ 0 < mass then 1 else 0
        rw [if_pos ⟨same, positive⟩]
        exact Nat.succ_le_succ (counted before there)
      · rw [if_neg same]
        exact kept before there
    split
    · intro estimate member
      rcases List.mem_append.mp member with there | added
      · exact kept estimate there
      · rw [List.mem_singleton.mp added]
        exact new
    split
    · exact kept
    · intro estimate member
      rcases List.mem_append.mp member with there | added
      · exact kept estimate (List.mem_of_mem_filter there)
      · rw [List.mem_singleton.mp added]
        exact new

theorem observeMasses_active {active : Nat → Nat}
    (counted : ∀ estimate ∈ accumulator.groups, estimate.activeBucketCount ≤ active estimate.groupIdx)
    (masses : List (Nat × ℚ)) (bucketId : Int) :
    ∀ estimate ∈ (accumulator.observeMasses masses bucketId).groups, estimate.activeBucketCount ≤
      active estimate.groupIdx + positionsOf masses estimate.groupIdx := by
  unfold observeMasses
  induction masses generalizing accumulator active with
  | nil => exact counted
  | cons entry rest ih =>
      intro estimate member
      have later := @ih (accumulator.observeMass entry.1 entry.2 bucketId)
        (fun group => active group + if group = entry.1 ∧ 0 < entry.2 then 1 else 0)
        (observeMass_active counted entry.1 entry.2 bucketId) estimate member
      rw [positionsOf_cons, ← Nat.add_assoc]
      exact later

/-! ## All observations -/

/-- The accumulator agrees with the observations it has accepted. -/
structure Sound (accumulator : RelationStreamBasisAccumulator) (history : List Observed) : Prop where
  roomy : 0 < accumulator.config.maxGroups
  margin : 1 ≤ accumulator.config.thresholdMargin
  count : accumulator.validBucketCount = history.length
  total : accumulator.totalMass = trueTotal history
  bounding : Bounding accumulator.config.maxGroups accumulator.counters (trueMass history)
  active : ∀ estimate ∈ accumulator.groups, estimate.activeBucketCount ≤
    trueActive history estimate.groupIdx

theorem new_sound (config : RelationStreamBasisConfig) : (new config).Sound [] where
  roomy := by
    change 0 < normalizeMaxGroups config.maxGroups
    unfold normalizeMaxGroups
    split <;> omega
  margin := by
    change 1 ≤ normalizeMargin config.thresholdMargin
    unfold normalizeMargin
    split
    · exact le_rfl
    next large => exact not_lt.mp large
  count := rfl
  total := rfl
  bounding := .start _
  active := fun _ wrong => nomatch wrong

theorem trueMass_snoc (history : List Observed) (observed : Observed) (group : Nat) :
    trueMass (history ++ [observed]) group =
      trueMass history group + massOf observed.masses group := by
  unfold trueMass
  rw [List.map_append, List.sum_append, List.map_singleton, List.sum_singleton]

theorem trueActive_snoc (history : List Observed) (observed : Observed) (group : Nat) :
    trueActive (history ++ [observed]) group =
      trueActive history group + if 0 < positionsOf observed.masses group then 1 else 0 := by
  unfold trueActive
  rw [List.countP_append, List.countP_singleton]
  simp only [decide_eq_true_eq]

/-- What an observation does that is accepted. -/
theorem observe_ok {observed : Observed} (accepted : accumulator.observe observed.1 observed.2 = .ok after) :
    (∀ entry ∈ observed.masses, 0 ≤ entry.2) ∧ ∃ counted : RelationStreamBasisAccumulator,
      counted.config = accumulator.config ∧ counted.groups = accumulator.groups ∧
      counted.validBucketCount = accumulator.validBucketCount + 1 ∧
      counted.totalMass = accumulator.totalMass + observed.total ∧
      after = counted.observeMasses observed.masses observed.1.bucketId := by
  unfold observe at accepted
  split at accepted
  · cases accepted
  split at accepted
  · cases accepted
  next metric found =>
    split at accepted
    next valid =>
      cases accepted
      have masses : observed.masses = observed.1.groupIdx.zip metric.valuesByGroup := by
        unfold Observed.masses
        rw [found]
        rfl
      have total : observed.total = metric.total := by
        unfold Observed.total
        rw [found]
        rfl
      rw [masses, total]
      refine ⟨fun entry member => ?_, _, ?_, ?_, ?_, ?_, rfl⟩
      rotate_left
      · rfl
      · rfl
      · rfl
      · rfl
      unfold isValidRelationMetric at valid
      rw [Bool.and_eq_true, List.all_eq_true] at valid
      exact of_decide_eq_true (valid.2 entry.2 (List.of_mem_zip member).2)
    · cases accepted

theorem observeMasses_counts (masses : List (Nat × ℚ)) (bucketId : Int) :
    (accumulator.observeMasses masses bucketId).validBucketCount = accumulator.validBucketCount ∧
      (accumulator.observeMasses masses bucketId).totalMass = accumulator.totalMass := by
  unfold observeMasses
  induction masses generalizing accumulator with
  | nil => exact ⟨rfl, rfl⟩
  | cons entry rest ih =>
      have first : (accumulator.observeMass entry.1 entry.2 bucketId).validBucketCount =
          accumulator.validBucketCount ∧
          (accumulator.observeMass entry.1 entry.2 bucketId).totalMass = accumulator.totalMass := by
        unfold observeMass
        split
        · exact ⟨rfl, rfl⟩
        split
        · exact ⟨rfl, rfl⟩
        split
        · exact ⟨rfl, rfl⟩
        split <;> exact ⟨rfl, rfl⟩
      rw [List.foldl_cons]
      exact ⟨ih.1.trans first.1, ih.2.trans first.2⟩

/-- One more observation is accepted. -/
theorem Sound.observe {history : List Observed} (sound : accumulator.Sound history) {observed : Observed}
    (distinct : observed.Distinct) (accepted : accumulator.observe observed.1 observed.2 = .ok after) :
    after.Sound (history ++ [observed]) := by
  obtain ⟨gain, counted, config, groups, count, total, rfl⟩ := observe_ok accepted
  have counts := @observeMasses_counts counted observed.masses observed.1.bucketId
  have configs := @observeMasses_config counted observed.masses observed.1.bucketId
  have counters : counted.counters = accumulator.counters := by
    unfold RelationStreamBasisAccumulator.counters
    rw [groups]
  refine ⟨?_, ?_, ?_, ?_, ?_, ?_⟩
  · rw [configs, config]
    exact sound.roomy
  · rw [configs, config]
    exact sound.margin
  · rw [counts.1, count, sound.count, List.length_append, List.length_singleton]
  · rw [counts.2, total, sound.total]
    unfold trueTotal
    rw [List.map_append, List.sum_append, List.map_singleton, List.sum_singleton]
  · have weights : trueMass (history ++ [observed]) =
        fun group => trueMass history group + massOf observed.masses group := by
      funext group
      exact trueMass_snoc history observed group
    rw [configs, weights]
    refine observeMasses_bounding ?_ ?_ gain observed.1.bucketId
    · rw [counters, config]
      exact sound.bounding
    · rw [config]
      exact sound.roomy
  · intro estimate member
    have before : ∀ estimate ∈ counted.groups, estimate.activeBucketCount ≤
        trueActive history estimate.groupIdx := by
      rw [groups]
      exact sound.active
    have active := observeMasses_active before observed.masses observed.1.bucketId estimate member
    rw [trueActive_snoc]
    have once := distinct estimate.groupIdx
    split
    · omega
    · omega

/-- All observations of a history are accepted, one after the other. -/
def observeAll (accumulator : RelationStreamBasisAccumulator) (history : List Observed) :
    Except BaselineStatus RelationStreamBasisAccumulator :=
  history.foldlM (fun before observed => before.observe observed.1 observed.2) accumulator

theorem Sound.observeAll {past history : List Observed} (sound : accumulator.Sound past)
    (distinct : ∀ observed ∈ history, observed.Distinct)
    (accepted : accumulator.observeAll history = .ok after) : after.Sound (past ++ history) := by
  induction history generalizing accumulator past with
  | nil =>
      cases accepted
      rw [List.append_nil]
      exact sound
  | cons observed rest ih =>
      unfold RelationStreamBasisAccumulator.observeAll at accepted
      rw [List.foldlM_cons] at accepted
      cases first : accumulator.observe observed.1 observed.2 with
      | error status =>
          rw [first] at accepted
          cases accepted
      | ok next =>
          rw [first] at accepted
          have sound := sound.observe (distinct observed List.mem_cons_self) first
          have all := ih sound (fun other later => distinct other (List.mem_cons_of_mem _ later))
            accepted
          rw [List.append_assoc] at all
          exact all

/-! ## The guarantees -/

/-- The estimates err on the safe side, and what is selected meets the policy. -/
structure Conservative (accumulator : RelationStreamBasisAccumulator) (history : List Observed) :
    Prop where
  size : accumulator.groups.length ≤ accumulator.config.maxGroups
  upper : ∀ estimate ∈ accumulator.groups, trueMass history estimate.groupIdx ≤ estimate.estimatedMass
  lower : ∀ estimate ∈ accumulator.groups,
    estimate.estimatedMass - estimate.massErrorUpperBound ≤ trueMass history estimate.groupIdx
  untracked : ∀ group ∉ accumulator.groups.map (·.groupIdx), ∀ estimate ∈ accumulator.groups,
    trueMass history group ≤ estimate.estimatedMass
  active : ∀ estimate ∈ accumulator.groups,
    estimate.activeBucketCount ≤ trueActive history estimate.groupIdx
  valid : ∀ estimate ∈ accumulator.groups,
    estimate.activeBucketCount ≤ accumulator.validBucketCount
  selected : ∀ baseInput input, accumulator.buildConservativeInput baseInput = .ok input →
    ∀ stat ∈ input.groupStats,
      baseInput.supportPolicy.minHistShare ≤ trueMass history stat.groupIdx / trueTotal history ∧
      baseInput.supportPolicy.minActiveRatio ≤
        (trueActive history stat.groupIdx : ℚ) / history.length

/-- A threshold that is met with the margin is met without it. -/
theorem le_of_margin {threshold margin ratio : ℚ} (large : 1 ≤ margin) (nonneg : 0 ≤ ratio)
    (met : threshold * margin ≤ ratio) : threshold ≤ ratio := by
  rcases le_or_gt 0 threshold with positive | negative
  · exact (le_mul_of_one_le_right positive large).trans met
  · exact negative.le.trans nonneg

/-- The statistics of a selected group come from an estimate that passes the thresholds. -/
theorem mem_groupStats {baseInput input : RelationBasisBuildInput}
    (built : accumulator.buildConservativeInput baseInput = .ok input)
    {stat : RelationGroupHistoryStat} (member : stat ∈ input.groupStats) :
    0 < accumulator.validBucketCount ∧ 0 < accumulator.totalMass ∧
      ∃ estimate ∈ accumulator.groups, stat.groupIdx = estimate.groupIdx ∧
        baseInput.supportPolicy.minHistShare * accumulator.config.thresholdMargin ≤
          massLower estimate / accumulator.totalMass ∧
        baseInput.supportPolicy.minActiveRatio * accumulator.config.thresholdMargin ≤
          (estimate.activeBucketCount : ℚ) / accumulator.validBucketCount := by
  unfold buildConservativeInput at built
  split at built
  · cases built
  next enough =>
    rw [not_or] at enough
    cases built
    refine ⟨Nat.pos_of_ne_zero enough.1, not_le.mp enough.2, ?_⟩
    obtain ⟨candidate, sorted, rfl⟩ := List.mem_map.mp member
    obtain ⟨estimate, there, found⟩ := List.mem_filterMap.mp (List.mem_mergeSort.mp sorted)
    refine ⟨estimate, there, ?_⟩
    unfold candidate? at found
    dsimp only at found
    split at found
    · cases found
    next passes =>
      cases found
      rw [not_or, not_lt, not_lt] at passes
      exact ⟨rfl, passes⟩

theorem Sound.upper {history : List Observed} (sound : accumulator.Sound history)
    {estimate : RelationStreamGroupEstimate} (member : estimate ∈ accumulator.groups) :
    trueMass history estimate.groupIdx ≤ estimate.estimatedMass :=
  sound.bounding.upper estimate.counter (counter_mem member)

theorem Sound.lower {history : List Observed} (sound : accumulator.Sound history)
    {estimate : RelationStreamGroupEstimate} (member : estimate ∈ accumulator.groups) :
    estimate.estimatedMass - estimate.massErrorUpperBound ≤ trueMass history estimate.groupIdx :=
  sound.bounding.lower estimate.counter (counter_mem member)

/-- A group that is selected meets the policy. -/
theorem Sound.selected {history : List Observed} (sound : accumulator.Sound history)
    {baseInput input : RelationBasisBuildInput}
    (built : accumulator.buildConservativeInput baseInput = .ok input)
    {stat : RelationGroupHistoryStat} (member : stat ∈ input.groupStats) :
    baseInput.supportPolicy.minHistShare ≤ trueMass history stat.groupIdx / trueTotal history ∧
      baseInput.supportPolicy.minActiveRatio ≤
        (trueActive history stat.groupIdx : ℚ) / history.length := by
  obtain ⟨valid, positive, estimate, there, same, share, ratio⟩ := mem_groupStats built member
  have nonneg : 0 ≤ trueMass history estimate.groupIdx := sound.bounding.nonneg estimate.groupIdx
  have mass : massLower estimate ≤ trueMass history estimate.groupIdx :=
    max_le nonneg (sound.lower there)
  have counted : (estimate.activeBucketCount : ℚ) ≤ trueActive history estimate.groupIdx :=
    Nat.cast_le.mpr (sound.active estimate there)
  have buckets : (0 : ℚ) ≤ accumulator.validBucketCount := Nat.cast_nonneg _
  rw [same, ← sound.total, ← sound.count]
  constructor
  · refine le_of_margin sound.margin (div_nonneg nonneg positive.le) (share.trans ?_)
    exact div_le_div_of_nonneg_right mass positive.le
  · refine le_of_margin sound.margin (div_nonneg (Nat.cast_nonneg _) buckets) (ratio.trans ?_)
    exact div_le_div_of_nonneg_right counted buckets

theorem Sound.conservative {history : List Observed} (sound : accumulator.Sound history) :
    accumulator.Conservative history where
  size := by
    have size := sound.bounding.size
    unfold counters at size
    rw [List.length_map] at size
    exact size
  upper := fun _ member => sound.upper member
  lower := fun _ member => sound.lower member
  untracked := by
    intro group absent estimate member
    rw [← keys_counters] at absent
    exact sound.bounding.untracked group absent estimate.counter (counter_mem member)
  active := sound.active
  valid := by
    intro estimate member
    rw [sound.count]
    exact (sound.active estimate member).trans List.countP_le_length
  selected := fun _ _ built _ member => sound.selected built member

end RelationStreamBasisAccumulator

/-- Whatever an accumulator has accepted without a group that is listed twice in one observation, it
errs on the safe side. -/
theorem basis_accumulator_conservative (config : RelationStreamBasisConfig)
    (history : List Observed) (accumulator : RelationStreamBasisAccumulator)
    (distinct : ∀ observed ∈ history, observed.Distinct)
    (accepted : (RelationStreamBasisAccumulator.new config).observeAll history = .ok accumulator) :
    accumulator.Conservative history := by
  have sound := (RelationStreamBasisAccumulator.new_sound config).observeAll distinct accepted
  rw [List.nil_append] at sound
  exact sound.conservative

def massesAt (bucketId : Int) (groups : List Nat) (masses : List ℚ) : Observed :=
  ({ bucketId := bucketId, groupIdx := groups, metrics := [{ total := 4, valuesByGroup := masses }] },
    0)

/-- Two counters for three groups. -/
theorem basis_accumulator_conservative_evicts :
    ∃ accumulator : RelationStreamBasisAccumulator,
      accumulator.groups.map (·.groupIdx) = [7, 9] ∧
        accumulator.Conservative [massesAt 1 [5, 7] [1, 3], massesAt 2 [9] [2]] := by
  refine ⟨_, ?_, basis_accumulator_conservative { maxGroups := 2 }
    [massesAt 1 [5, 7] [1, 3], massesAt 2 [9] [2]] _ ?_ rfl⟩
  · rfl
  · intro observed member group
    simp only [List.mem_cons, List.not_mem_nil, or_false] at member
    rcases member with rfl | rfl
    · exact Observed.distinct_of_nodup (by decide) group
    · exact Observed.distinct_of_nodup (by decide) group

/-- One observation lists group 5 twice. -/
theorem group_listed_twice : ∃ accumulator,
    (RelationStreamBasisAccumulator.new {}).observeAll [massesAt 1 [5, 5] [1, 1]] =
      .ok accumulator ∧ ¬accumulator.Conservative [massesAt 1 [5, 5] [1, 1]] := by
  refine ⟨_, rfl, fun conservative => ?_⟩
  have wrong := conservative.valid _ List.mem_cons_self
  exact absurd wrong (by decide)

end Flowsql.Baseline
