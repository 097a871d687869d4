import Flowsql.Baseline.BasisBounds
import Flowsql.Library.Transitions

/-!
# When the basis changes

Runs of the runtime state in which the buckets that ask for a refresh increase. What one call can
do, and how refreshes, versions, replacements and handovers follow each other.
-/

namespace Flowsql.Baseline

open Flowsql.Library

namespace RelationBasisRuntimeState

/-! ## What one call can do -/

/-- The candidates of a refresh, before the gate. -/
def candidates (state : RelationBasisRuntimeState) (baseInput : RelationBasisBuildInput) :
    List RelationGroupHistoryStat :=
  match state.accumulator.buildConservativeInput
      { baseInput with basisVersion := state.nextBasisVersion } with
  | .error _ => []
  | .ok input => input.groupStats

/-- The state after the gate of an evaluated refresh. -/
def gated (state : RelationBasisRuntimeState) (baseInput : RelationBasisBuildInput)
    (bucketId : Int) : RelationBasisRuntimeState :=
  { state with
    lastRefreshBucket := bucketId
    stableRefreshCounts := if state.config.minStableRefreshCount ≤ 1 then state.stableRefreshCounts
      else state.countStable (state.candidates baseInput) }

/-- The groups that a basis may have. -/
def admitted (state : RelationBasisRuntimeState) (baseInput : RelationBasisBuildInput)
    (group : Nat) : Prop :=
  group ∈ (state.candidates baseInput).map (·.groupIdx) ∧
    (1 < state.config.minStableRefreshCount →
      state.config.minStableRefreshCount ≤ state.countStable (state.candidates baseInput) group)

/-- The outcomes of a refresh, from the state in which a handover may just have been completed. -/
inductive Refresh (state : RelationBasisRuntimeState) (baseInput : RelationBasisBuildInput)
    (bucketId : Int) : RelationBasisRefreshDecision → RelationBasisRuntimeState → Prop where
  /-- Nothing is evaluated. -/
  | waits {decision : RelationBasisRefreshDecision} {status : RelationBasisStatus}
      (idle : decision.evaluated = false) (still : decision.handoverStarted = false)
      (kept : status = state.basisStatus ∨ state.activeBasis = none ∧ status = .kCollecting) :
      Refresh state baseInput bucketId decision { state with basisStatus := status }
  /-- A refresh that leaves the basis as it is. -/
  | keeps {decision : RelationBasisRefreshDecision} {status : RelationBasisStatus}
      (due : state.isRefreshDue bucketId = true) (evaluated : decision.evaluated = true)
      (still : decision.handoverStarted = false)
      (kept : status = state.basisStatus ∨
        state.basisStatus = .kBasisWarming ∧ status = .kBasisReady) :
      Refresh state baseInput bucketId decision
        { state.gated baseInput bucketId with basisStatus := status }
  /-- The first basis. -/
  | adopts {decision : RelationBasisRefreshDecision} {candidate : RelationServiceBasis}
      {status : RelationBasisStatus}
      (due : state.isRefreshDue bucketId = true) (evaluated : decision.evaluated = true)
      (still : decision.handoverStarted = false) (first : state.activeBasis = none)
      (version : candidate.basisVersion = 1)
      (groups : ∀ group ∈ candidate.supportExplicit ++ candidate.stableHead,
        state.admitted baseInput group)
      (fresh : status = .kBasisReady ∨ status = .kBasisWarming) :
      Refresh state baseInput bucketId decision { state.gated baseInput bucketId with
        activeBasis := some candidate, basisStatus := status }
  /-- Another basis, and the start of a handover. -/
  | replaces {decision : RelationBasisRefreshDecision} {active candidate : RelationServiceBasis}
      (due : state.isRefreshDue bucketId = true) (evaluated : decision.evaluated = true)
      (started : decision.handoverStarted = true) (before : state.activeBasis = some active)
      (version : candidate.basisVersion = active.basisVersion + 1)
      (groups : ∀ group ∈ candidate.supportExplicit ++ candidate.stableHead,
        state.admitted baseInput group)
      (within : state.isWithinReplacementCap active candidate = true) :
      Refresh state baseInput bucketId decision { state.gated baseInput bucketId with
        activeBasis := some candidate, basisStatus := .kHandoverWarming
        handoverStartBucket := bucketId }

section Gate

variable {state : RelationBasisRuntimeState} {baseInput input : RelationBasisBuildInput}

theorem candidates_eq (built : state.accumulator.buildConservativeInput
    { baseInput with basisVersion := state.nextBasisVersion } = .ok input) :
    state.candidates baseInput = input.groupStats := by
  unfold candidates
  rw [built]

/-- The gate counts the candidates and changes nothing else. -/
theorem applyStableRefreshGate_gated (bucketId : Int)
    (listed : state.candidates baseInput = input.groupStats) :
    { (state.applyStableRefreshGate input).2 with lastRefreshBucket := bucketId } =
      state.gated baseInput bucketId := by
  unfold applyStableRefreshGate gated
  rw [listed]
  split <;> rfl

theorem applyStableRefreshGate_admitted (listed : state.candidates baseInput = input.groupStats)
    {group : Nat}
    (member : group ∈ (state.applyStableRefreshGate input).1.groupStats.map (·.groupIdx)) :
    state.admitted baseInput group := by
  unfold applyStableRefreshGate at member
  unfold admitted
  rw [listed]
  split at member
  next ungated => exact ⟨member, fun gates => absurd gates (Nat.not_lt.mpr ungated)⟩
  · obtain ⟨stat, filtered, rfl⟩ := List.mem_map.mp member
    obtain ⟨there, enough⟩ := List.mem_filter.mp filtered
    exact ⟨List.mem_map.mpr ⟨stat, there, rfl⟩, fun _ => of_decide_eq_true enough⟩

theorem applyStableRefreshGate_version :
    (state.applyStableRefreshGate input).1.basisVersion = input.basisVersion := by
  unfold applyStableRefreshGate
  split <;> rfl

theorem buildConservativeInput_version (built : state.accumulator.buildConservativeInput
    baseInput = .ok input) : input.basisVersion = baseInput.basisVersion := by
  unfold RelationStreamBasisAccumulator.buildConservativeInput at built
  split at built
  · cases built
  · cases built
    rfl

end Gate

/-- Adopting a candidate keeps the basis, is the first one, or replaces it. -/
theorem adopt_cases {state : RelationBasisRuntimeState} {baseInput : RelationBasisBuildInput}
    {bucketId : Int} {candidate : RelationServiceBasis}
    (due : state.isRefreshDue bucketId = true)
    (version : candidate.basisVersion = state.nextBasisVersion)
    (groups : ∀ group ∈ candidate.supportExplicit ++ candidate.stableHead,
      state.admitted baseInput group) :
    Refresh state baseInput bucketId ((state.gated baseInput bucketId).adopt candidate bucketId).1
      ((state.gated baseInput bucketId).adopt candidate bucketId).2 := by
  unfold nextBasisVersion at version
  unfold adopt
  split
  next has =>
    have first : state.activeBasis = none := has
    rw [first] at version
    refine .adopts due rfl rfl first version groups ?_
    split
    · exact .inl rfl
    · exact .inr rfl
  next active has =>
    have before : state.activeBasis = some active := has
    rw [before] at version
    dsimp only
    split
    · refine .keeps due rfl rfl ?_
      split
      next ready => exact .inr ⟨ready.1, rfl⟩
      · exact .inl rfl
    split
    · exact .keeps due rfl rfl (.inl rfl)
    next within =>
      rw [Bool.not_eq_true', Bool.not_eq_false] at within
      exact .replaces due rfl rfl before version groups within

theorem maybeRefresh_cases (state : RelationBasisRuntimeState)
    (baseInput : RelationBasisBuildInput) (bucketId : Int) :
    Refresh (state.completeHandoverIfReady bucketId) baseInput bucketId
      (state.maybeRefresh baseInput bucketId).1 (state.maybeRefresh baseInput bucketId).2 := by
  unfold maybeRefresh
  generalize state.completeHandoverIfReady bucketId = state
  dsimp only
  split
  · refine .waits rfl rfl ?_
    split
    next none_ => exact .inr ⟨Option.isNone_iff_eq_none.mp none_, rfl⟩
    · exact .inl rfl
  split
  · exact .waits rfl rfl (.inl rfl)
  next due =>
    rw [Bool.not_eq_true', Bool.not_eq_false] at due
    split
    · exact .waits rfl rfl (.inl rfl)
    split
    · exact .waits rfl rfl (.inl rfl)
    next input built =>
      have listed := candidates_eq built
      have gates := applyStableRefreshGate_gated bucketId listed
      rw [gates]
      split
      · exact .keeps due rfl rfl (.inl rfl)
      split
      · exact .keeps due rfl rfl (.inl rfl)
      next candidate built_ =>
        obtain ⟨version, groups⟩ := buildServiceBasis_groups built_
        refine adopt_cases due ?_ fun group member => ?_
        · rw [version, applyStableRefreshGate_version, buildConservativeInput_version built]
        · exact applyStableRefreshGate_admitted listed (groups group member)

end RelationBasisRuntimeState

/-! ## Runs -/

/-- An evaluated refresh, with the groups that were candidates. -/
structure Evaluation where
  bucketId : Int
  candidates : List Nat

/-- In how many of the latest refreshes the group was a candidate, one after the other. -/
def streak (evaluations : List Evaluation) (group : Nat) : Nat :=
  (evaluations.takeWhile (group ∈ ·.candidates)).length

/-- A basis that a refresh has put in place, and the refreshes up to this one. -/
structure Adoption where
  basis : RelationServiceBasis
  evaluations : List Evaluation

/-- All lists have the latest entry in front; `handover` is the bucket of the last replacement. -/
structure BasisRun where
  state : RelationBasisRuntimeState
  lastCall : Option Int := none
  evaluations : List Evaluation := []
  bases : List RelationServiceBasis
  adoptions : List Adoption := []
  handover : Option Int := none

inductive BasisEvent where
  | observe (obs : RelationRollingObservation) (metricIndex : Nat)
  | refresh (baseInput : RelationBasisBuildInput) (bucketId : Int)

namespace BasisRun

def start (config : RelationBasisRuntimeConfig)
    (seed : Option (RelationServiceBasis × BootstrapSeedStatus)) : BasisRun where
  state := .initializeState config seed
  bases := (RelationBasisRuntimeState.initializeState config seed).activeBasis.toList

variable (run : BasisRun)

/-- The basis that is new in this state. -/
def newBasis (after : RelationBasisRuntimeState) : List RelationServiceBasis :=
  if after.activeBasis = run.state.activeBasis then [] else after.activeBasis.toList

def observe (obs : RelationRollingObservation) (metricIndex : Nat) : BasisRun :=
  let after := (run.state.observe obs metricIndex).2
  { run with state := after, bases := run.newBasis after ++ run.bases }

def record (candidates : List Nat) (bucketId : Int) (decision : RelationBasisRefreshDecision)
    (after : RelationBasisRuntimeState) : BasisRun :=
  let evaluations := if decision.evaluated then ⟨bucketId, candidates⟩ :: run.evaluations
    else run.evaluations
  { state := after
    lastCall := some bucketId
    evaluations := evaluations
    bases := run.newBasis after ++ run.bases
    adoptions := (run.newBasis after).map (⟨·, evaluations⟩) ++ run.adoptions
    handover := if decision.handoverStarted then some bucketId else run.handover }

def refresh (baseInput : RelationBasisBuildInput) (bucketId : Int) : BasisRun :=
  let (decision, after) := run.state.maybeRefresh baseInput bucketId
  run.record ((run.state.candidates baseInput).map (·.groupIdx)) bucketId decision after

/-- The buckets that ask for a refresh increase. -/
def step : BasisEvent → Option BasisRun
  | .observe obs metricIndex => some (run.observe obs metricIndex)
  | .refresh baseInput bucketId =>
      if ∀ last ∈ run.lastCall, last < bucketId then some (run.refresh baseInput bucketId) else none

/-- After a refresh at bucket 0 none is asked for within the interval, and the version of the basis
is not the last one. -/
def Orderly : BasisEvent → Prop
  | .observe _ _ => True
  | .refresh _ bucketId =>
      (∀ evaluation ∈ run.evaluations.head?, evaluation.bucketId = 0 →
        run.state.config.refreshIntervalBuckets ≤ bucketId) ∧
      ∀ basis ∈ run.state.activeBasis, basis.basisVersion.toNat + 1 < 2 ^ 64

/-- One basis follows the other. -/
structure Follows (config : RelationBasisRuntimeConfig) (new old : RelationServiceBasis) : Prop where
  version : new.basisVersion.toNat = old.basisVersion.toNat + 1
  support : replacementCount old.supportExplicit new.supportExplicit ≤
    replacementCap old.supportExplicit.length new.supportExplicit.length
      config.replacementCapRatio config.replacementCapMax
  stable : replacementCount old.stableHead new.stableHead ≤
    replacementCap old.stableHead.length new.stableHead.length
      config.replacementCapRatio config.replacementCapMax

/-- The law of refreshes, versions, replacements and handovers. -/
structure Lawful (run : BasisRun) (config : RelationBasisRuntimeConfig)
    (seeds : List RelationServiceBasis) : Prop where
  apart : run.evaluations.Pairwise fun later earlier =>
    (config.refreshIntervalBuckets : Int) ≤ later.bucketId - earlier.bucketId
  active : run.bases.head? = run.state.activeBasis
  chain : run.bases.IsChain (Follows config)
  origin : run.bases = run.adoptions.map (·.basis) ++ seeds
  stable : 1 < config.minStableRefreshCount → ∀ adoption ∈ run.adoptions,
    ∀ group ∈ adoption.basis.supportExplicit ++ adoption.basis.stableHead,
      config.minStableRefreshCount ≤ streak adoption.evaluations group
  unreplaced : run.handover = none → run.state.basisStatus ≠ .kHandoverWarming
  warming : ∀ since ∈ run.handover, ∃ last ∈ run.lastCall, since ≤ last ∧
    run.state.basisStatus = if last = since ∨ last - since < config.handoverWarmupBuckets
      then .kHandoverWarming else .kBasisReady

/-- What the law rests on. -/
structure Sound (run : BasisRun) (config : RelationBasisRuntimeConfig)
    (seeds : List RelationServiceBasis) : Prop where
  lawful : run.Lawful config seeds
  config_eq : run.state.config = config
  roomy : 0 < run.state.accumulator.config.maxGroups
  bounding : ∃ weight, Bounding run.state.accumulator.config.maxGroups
    run.state.accumulator.counters weight
  refreshed : run.state.lastRefreshBucket = run.evaluations.head?.elim 0 (·.bucketId)
  streaks : 1 < config.minStableRefreshCount → ∀ group,
    run.state.stableRefreshCounts group = streak run.evaluations group
  since : ∀ since ∈ run.handover, run.state.handoverStartBucket = since ∧
    run.state.activeBasis.isSome = true

/-! ## The parts of a step -/

variable {run} {after : BasisRun} {config : RelationBasisRuntimeConfig}
  {seeds : List RelationServiceBasis}

theorem newBasis_of_eq {after : RelationBasisRuntimeState}
    (same : after.activeBasis = run.state.activeBasis) : run.newBasis after = [] :=
  if_pos same

theorem newBasis_of_some {after : RelationBasisRuntimeState} {basis : RelationServiceBasis}
    (new : after.activeBasis = some basis) (different : run.state.activeBasis ≠ some basis) :
    run.newBasis after = [basis] := by
  unfold newBasis
  rw [new, if_neg different.symm]
  rfl

theorem streak_cons (evaluation : Evaluation) (evaluations : List Evaluation) (group : Nat) :
    streak (evaluation :: evaluations) group =
      if group ∈ evaluation.candidates then streak evaluations group + 1 else 0 := by
  unfold streak
  rw [List.takeWhile_cons]
  by_cases there : group ∈ evaluation.candidates
  · rw [if_pos there, decide_eq_true there]
    rfl
  · rw [if_neg there, decide_eq_false there]
    rfl

end BasisRun

namespace RelationBasisRuntimeState

variable {state : RelationBasisRuntimeState}

/-- Each candidate is one of the groups of the accumulator. -/
theorem candidates_sublist (groups : List RelationStreamGroupEstimate)
    (choose : RelationStreamGroupEstimate → Option ConservativeCandidate)
    (kept : ∀ estimate candidate, choose estimate = some candidate →
      candidate.stat.groupIdx = estimate.groupIdx) :
    ((groups.filterMap choose).map (·.stat.groupIdx)).Sublist (groups.map (·.groupIdx)) := by
  induction groups with
  | nil => exact List.Sublist.slnil
  | cons first rest ih =>
      cases chosen : choose first with
      | none =>
          rw [List.filterMap_cons_none chosen, List.map_cons]
          exact ih.cons _
      | some candidate =>
          rw [List.filterMap_cons_some chosen, List.map_cons, List.map_cons, kept _ _ chosen]
          exact ih.cons_cons _

theorem candidates_nodup (unique : (state.accumulator.groups.map (·.groupIdx)).Nodup)
    (baseInput : RelationBasisBuildInput) :
    ((state.candidates baseInput).map (·.groupIdx)).Nodup := by
  unfold candidates
  split
  · exact List.nodup_nil
  next input built =>
    unfold RelationStreamBasisAccumulator.buildConservativeInput at built
    split at built
    · cases built
    · cases built
      rw [List.map_map]
      have sorted := (List.mergeSort_perm (state.accumulator.groups.filterMap
        (state.accumulator.candidate? baseInput.supportPolicy)) candidateLe).map
          (·.stat.groupIdx)
      refine sorted.nodup_iff.mpr (unique.sublist (candidates_sublist _ _ ?_))
      intro estimate candidate chosen
      unfold RelationStreamBasisAccumulator.candidate? at chosen
      dsimp only at chosen
      split at chosen
      · cases chosen
      · cases chosen
        rfl

/-- A handover that has warmed up long enough is completed, and nothing else changes. -/
theorem completeHandoverIfReady_eq (state : RelationBasisRuntimeState) (bucketId : Int) :
    state.completeHandoverIfReady bucketId = { state with
      basisStatus := if state.basisStatus = .kHandoverWarming ∧
          state.handoverStartBucket ≤ bucketId ∧
          state.config.handoverWarmupBuckets ≤ (bucketId - state.handoverStartBucket).toNat
        then .kBasisReady else state.basisStatus } := by
  unfold completeHandoverIfReady
  split <;> rfl

end RelationBasisRuntimeState

namespace BasisRun

variable {run after : BasisRun} {config : RelationBasisRuntimeConfig}
  {seeds : List RelationServiceBasis} {baseInput : RelationBasisBuildInput} {bucketId : Int}

/-- The state of the run in which a handover may just have been completed. -/
def handed (run : BasisRun) (bucketId : Int) : RelationBasisRuntimeState :=
  run.state.completeHandoverIfReady bucketId

theorem handed_eq (run : BasisRun) (bucketId : Int) :
    ∃ status, run.handed bucketId = { run.state with basisStatus := status } :=
  ⟨_, RelationBasisRuntimeState.completeHandoverIfReady_eq run.state bucketId⟩

/-- What a status at this bucket says of the last handover. -/
structure Told (run : BasisRun) (config : RelationBasisRuntimeConfig) (bucketId : Int)
    (status : RelationBasisStatus) : Prop where
  unreplaced : run.handover = none → status ≠ .kHandoverWarming
  warming : ∀ since ∈ run.handover, since < bucketId ∧
    status = if bucketId - since < config.handoverWarmupBuckets then .kHandoverWarming
      else .kBasisReady

/-- The status before the refresh. -/
theorem Sound.handed_status (sound : run.Sound config seeds)
    (later : ∀ last ∈ run.lastCall, last < bucketId) :
    run.Told config bucketId (run.handed bucketId).basisStatus := by
  unfold handed
  rw [RelationBasisRuntimeState.completeHandoverIfReady_eq]
  dsimp only
  constructor
  · intro none_
    have unreplaced := sound.lawful.unreplaced none_
    rw [if_neg fun ready => unreplaced ready.1]
    exact unreplaced
  · intro since started
    obtain ⟨last, called, before, status⟩ := sound.lawful.warming since started
    have start := (sound.since since started).1
    have after := later last called
    refine ⟨Int.lt_of_le_of_lt before after, ?_⟩
    rw [start, sound.config_eq, status]
    by_cases warm : last = since ∨ last - since < config.handoverWarmupBuckets
    · rw [if_pos warm]
      by_cases ready : bucketId - since < config.handoverWarmupBuckets
      · rw [if_neg (by omega), if_pos ready]
      · rw [if_pos ⟨rfl, by omega, by omega⟩, if_neg ready]
    · rw [if_neg warm, if_neg (fun wrong => nomatch wrong.1), if_neg (by omega)]

/-- Without a handover any other status may follow. -/
theorem Told.of_none {status : RelationBasisStatus} (none_ : run.handover = none)
    (other : status ≠ .kHandoverWarming) : run.Told config bucketId status where
  unreplaced := fun _ => other
  warming := by
    intro since started
    rw [none_] at started
    cases started

/-- A basis that warms up without a handover may become ready. -/
theorem Told.ready {status : RelationBasisStatus} (told : run.Told config bucketId .kBasisWarming)
    (ready : status = .kBasisReady) : run.Told config bucketId status where
  unreplaced := by
    intro _ wrong
    rw [ready] at wrong
    cases wrong
  warming := by
    intro since started
    have status := (told.warming since started).2
    split at status <;> cases status

theorem Sound.no_handover (sound : run.Sound config seeds)
    (first : run.state.activeBasis = none) : run.handover = none := by
  cases started : run.handover with
  | none => rfl
  | some since =>
      have has := (sound.since since started).2
      rw [first] at has
      cases has

theorem Sound.apart_cons (sound : run.Sound config seeds)
    (orderly : run.Orderly (.refresh baseInput bucketId))
    (due : (run.handed bucketId).isRefreshDue bucketId = true) (candidates : List Nat) :
    (⟨bucketId, candidates⟩ :: run.evaluations : List Evaluation).Pairwise fun later earlier =>
      (config.refreshIntervalBuckets : Int) ≤ later.bucketId - earlier.bucketId := by
  obtain ⟨status, handed⟩ := run.handed_eq bucketId
  rw [handed] at due
  have refreshed := sound.refreshed
  have apart := sound.lawful.apart
  have start := orderly.1
  rw [sound.config_eq] at start
  unfold RelationBasisRuntimeState.isRefreshDue at due
  dsimp only at due
  rw [sound.config_eq, refreshed] at due
  cases evaluations : run.evaluations with
  | nil => exact List.pairwise_singleton _ _
  | cons latest rest =>
      rw [evaluations] at due start apart
      have first : (config.refreshIntervalBuckets : Int) ≤ bucketId - latest.bucketId := by
        by_cases zero : latest.bucketId = 0
        · have wait := start latest rfl zero
          omega
        · change (if latest.bucketId = 0 then true else if bucketId < latest.bucketId then false
            else decide (config.refreshIntervalBuckets ≤ (bucketId - latest.bucketId).toNat)) =
              true at due
          rw [if_neg zero] at due
          split at due
          · cases due
          · have wait := of_decide_eq_true due
            omega
      refine List.pairwise_cons.mpr ⟨fun earlier member => ?_, apart⟩
      rcases List.mem_cons.mp member with rfl | older
      · exact first
      · have before := (List.pairwise_cons.mp apart).1 earlier older
        change (config.refreshIntervalBuckets : Int) ≤ bucketId - earlier.bucketId
        omega

/-- The counts of the gate are the streaks of the groups. -/
theorem Sound.streaks_cons (sound : run.Sound config seeds)
    (gates : 1 < config.minStableRefreshCount) (group : Nat) :
    run.state.countStable (run.state.candidates baseInput) group =
      streak (⟨bucketId, (run.state.candidates baseInput).map (·.groupIdx)⟩ :: run.evaluations)
        group := by
  obtain ⟨weight, bounding⟩ := sound.bounding
  have unique := bounding.keys
  rw [RelationStreamBasisAccumulator.keys_counters] at unique
  have distinct := RelationBasisRuntimeState.candidates_nodup unique baseInput
  rw [streak_cons]
  unfold RelationBasisRuntimeState.countStable
  dsimp only
  by_cases there : group ∈ (run.state.candidates baseInput).map (·.groupIdx)
  · rw [if_pos there, if_pos there, List.count_eq_one_of_mem distinct there,
      sound.streaks gates group]
  · rw [if_neg there, if_neg there]

/-- The refreshes so far, against the state. -/
structure Tracked (config : RelationBasisRuntimeConfig) (evaluations : List Evaluation)
    (state : RelationBasisRuntimeState) : Prop where
  apart : evaluations.Pairwise fun later earlier =>
    (config.refreshIntervalBuckets : Int) ≤ later.bucketId - earlier.bucketId
  refreshed : state.lastRefreshBucket = evaluations.head?.elim 0 (·.bucketId)
  streaks : 1 < config.minStableRefreshCount → ∀ group,
    state.stableRefreshCounts group = streak evaluations group

/-- An evaluated refresh is tracked. -/
theorem Sound.tracked_cons (sound : run.Sound config seeds)
    (orderly : run.Orderly (.refresh baseInput bucketId))
    (due : (run.handed bucketId).isRefreshDue bucketId = true) :
    Tracked config
      (⟨bucketId, (run.state.candidates baseInput).map (·.groupIdx)⟩ :: run.evaluations)
      (run.state.gated baseInput bucketId) where
  apart := sound.apart_cons orderly due _
  refreshed := rfl
  streaks := by
    intro gates group
    have counts := @Sound.streaks_cons run config seeds baseInput bucketId sound gates group
    unfold RelationBasisRuntimeState.gated
    dsimp only
    rw [if_neg (by rw [sound.config_eq]; omega)]
    exact counts

/-- A group that a basis may have was a candidate often enough. -/
theorem Sound.admitted (sound : run.Sound config seeds) {group : Nat}
    (admitted : run.state.admitted baseInput group) (gates : 1 < config.minStableRefreshCount) :
    config.minStableRefreshCount ≤ streak
      (⟨bucketId, (run.state.candidates baseInput).map (·.groupIdx)⟩ :: run.evaluations) group := by
  rw [← sound.streaks_cons gates group]
  have enough := admitted.2
  rw [sound.config_eq] at enough
  exact enough gates

section Record

variable {decision : RelationBasisRefreshDecision} {after : RelationBasisRuntimeState}
  {candidates : List Nat}

/-- The law after a refresh, from what the refresh has done to the basis and to the handover. -/
theorem Sound.record (sound : run.Sound config seeds) {added : List RelationServiceBasis}
    (new : run.newBasis after = added) (active : (added ++ run.bases).head? = after.activeBasis)
    (chain : (added ++ run.bases).IsChain (Follows config))
    (stable : 1 < config.minStableRefreshCount → ∀ basis ∈ added,
      ∀ group ∈ basis.supportExplicit ++ basis.stableHead, config.minStableRefreshCount ≤
        streak (run.record candidates bucketId decision after).evaluations group)
    (config_eq : after.config = run.state.config)
    (accumulator : after.accumulator = run.state.accumulator)
    (tracked : Tracked config (run.record candidates bucketId decision after).evaluations after)
    (unreplaced : (run.record candidates bucketId decision after).handover = none →
      after.basisStatus ≠ .kHandoverWarming)
    (warming : ∀ since ∈ (run.record candidates bucketId decision after).handover,
      since ≤ bucketId ∧ after.handoverStartBucket = since ∧ after.activeBasis.isSome = true ∧
      after.basisStatus = if bucketId = since ∨ bucketId - since < config.handoverWarmupBuckets
        then .kHandoverWarming else .kBasisReady) :
    (run.record candidates bucketId decision after).Sound config seeds := by
  have bases : (run.record candidates bucketId decision after).bases = added ++ run.bases := by
    rw [← new]
    rfl
  have adoptions : (run.record candidates bucketId decision after).adoptions = added.map
      (⟨·, (run.record candidates bucketId decision after).evaluations⟩) ++ run.adoptions := by
    rw [← new]
    rfl
  refine ⟨⟨tracked.apart, ?_, ?_, ?_, ?_, unreplaced, ?_⟩, config_eq.trans sound.config_eq, ?_, ?_,
    tracked.refreshed, tracked.streaks, ?_⟩
  · rw [bases]
    exact active
  · rw [bases]
    exact chain
  · rw [bases, adoptions, List.map_append, List.map_map, List.append_assoc, ← sound.lawful.origin]
    exact congrArg (· ++ run.bases) (List.map_id added).symm
  · rw [adoptions]
    intro gates adoption member
    rcases List.mem_append.mp member with here | before
    · obtain ⟨basis, there, rfl⟩ := List.mem_map.mp here
      exact stable gates basis there
    · exact sound.lawful.stable gates adoption before
  · intro since started
    obtain ⟨before, _, _, status⟩ := warming since started
    exact ⟨bucketId, rfl, before, status⟩
  · change 0 < after.accumulator.config.maxGroups
    rw [accumulator]
    exact sound.roomy
  · change ∃ weight, Bounding after.accumulator.config.maxGroups after.accumulator.counters weight
    rw [accumulator]
    exact sound.bounding
  · intro since started
    obtain ⟨_, start, has, _⟩ := warming since started
    exact ⟨start, has⟩

/-- A refresh that leaves the basis as it is. -/
theorem Sound.record_same (sound : run.Sound config seeds)
    (same : after.activeBasis = run.state.activeBasis)
    (start : after.handoverStartBucket = run.state.handoverStartBucket)
    (config_eq : after.config = run.state.config)
    (accumulator : after.accumulator = run.state.accumulator)
    (still : decision.handoverStarted = false)
    (tracked : Tracked config (run.record candidates bucketId decision after).evaluations after)
    (told : run.Told config bucketId after.basisStatus) :
    (run.record candidates bucketId decision after).Sound config seeds := by
  have handover : (run.record candidates bucketId decision after).handover = run.handover := by
    unfold BasisRun.record
    rw [still]
    rfl
  refine sound.record (newBasis_of_eq same) ?_ sound.lawful.chain (fun _ _ wrong => nomatch wrong)
    config_eq accumulator tracked ?_ ?_
  · rw [same]
    exact sound.lawful.active
  · rw [handover]
    exact told.unreplaced
  · rw [handover]
    intro since started
    obtain ⟨before, status⟩ := told.warming since started
    obtain ⟨begun, has⟩ := sound.since since started
    refine ⟨Int.le_of_lt before, start.trans begun, same ▸ has, ?_⟩
    rw [status]
    refine if_congr ?_ rfl rfl
    constructor
    · exact .inr
    · rintro (wrong | warm)
      · omega
      · exact warm

end Record

/-- A version that is not the last one. -/
theorem next_version {version : UInt64} (room : version.toNat + 1 < 2 ^ 64) :
    (version + 1).toNat = version.toNat + 1 := by
  rw [UInt64.toNat_add]
  exact Nat.mod_eq_of_lt room

theorem Sound.refresh (sound : run.Sound config seeds)
    (orderly : run.Orderly (.refresh baseInput bucketId))
    (later : ∀ last ∈ run.lastCall, last < bucketId) :
    (run.refresh baseInput bucketId).Sound config seeds := by
  have told := sound.handed_status later
  have tracks := @Sound.tracked_cons run config seeds baseInput bucketId sound orderly
  have cases := RelationBasisRuntimeState.maybeRefresh_cases run.state baseInput bucketId
  unfold BasisRun.refresh
  generalize run.state.maybeRefresh baseInput bucketId = outcome at cases ⊢
  obtain ⟨decision, after⟩ := outcome
  obtain ⟨status, handed⟩ := run.handed_eq bucketId
  change RelationBasisRuntimeState.Refresh (run.handed bucketId) baseInput bucketId decision after
    at cases
  rw [handed] at told tracks cases
  have recorded : decision.evaluated = true →
      (run.record ((run.state.candidates baseInput).map (·.groupIdx)) bucketId decision
        after).evaluations =
      ⟨bucketId, (run.state.candidates baseInput).map (·.groupIdx)⟩ :: run.evaluations := by
    intro evaluated
    unfold BasisRun.record
    rw [evaluated]
    rfl
  have handover : (run.record ((run.state.candidates baseInput).map (·.groupIdx)) bucketId decision
      after).handover = if decision.handoverStarted then some bucketId else run.handover := rfl
  cases cases with
  | waits idle still kept =>
      refine sound.record_same rfl rfl rfl rfl still ?_ ?_
      · unfold BasisRun.record
        rw [idle]
        exact ⟨sound.lawful.apart, sound.refreshed, sound.streaks⟩
      · rcases kept with rfl | ⟨first, rfl⟩
        · exact told
        · exact .of_none (sound.no_handover first) (fun wrong => nomatch wrong)
  | keeps due evaluated still kept =>
      refine sound.record_same rfl rfl rfl rfl still ?_ ?_
      · rw [recorded evaluated]
        have tracked := tracks due
        exact ⟨tracked.apart, tracked.refreshed, tracked.streaks⟩
      · rcases kept with rfl | ⟨warms, ready⟩
        · exact told
        · change status = .kBasisWarming at warms
          subst warms
          exact told.ready ready
  | @adopts candidate status due evaluated still first version groups fresh =>
      have none_ : run.handover = none := sound.no_handover first
      have empty : run.bases = [] := List.head?_eq_none_iff.mp (sound.lawful.active.trans first)
      refine sound.record (newBasis_of_some rfl ?_) rfl ?_ ?_ rfl rfl ?_ ?_ ?_
      · intro wrong
        rw [first] at wrong
        cases wrong
      · rw [empty]
        exact .singleton _
      · intro gates basis member group inside
        rw [List.mem_singleton.mp member] at inside
        rw [recorded evaluated]
        exact sound.admitted (groups group inside) gates
      · rw [recorded evaluated]
        have tracked := tracks due
        exact ⟨tracked.apart, tracked.refreshed, tracked.streaks⟩
      · rintro - wrong
        rcases fresh with rfl | rfl <;> cases wrong
      · intro since started
        rw [handover, still, none_] at started
        cases started
  | @replaces active candidate due evaluated started before version groups within =>
      have next := next_version (orderly.2 active before)
      rw [← version] at next
      have latest : run.bases.head? = some active := sound.lawful.active.trans before
      obtain ⟨rest, bases⟩ := List.head?_eq_some_iff.mp latest
      refine sound.record (newBasis_of_some rfl ?_) rfl ?_ ?_ rfl rfl ?_ ?_ ?_
      · intro same
        rw [before] at same
        cases same
        omega
      · rw [bases]
        have chain := sound.lawful.chain
        rw [bases] at chain
        refine .cons_cons ?_ chain
        rw [RelationBasisRuntimeState.isWithinReplacementCap, Bool.and_eq_true] at within
        dsimp only at within
        rw [sound.config_eq] at within
        exact ⟨next, of_decide_eq_true within.1, of_decide_eq_true within.2⟩
      · intro gates basis member group inside
        rw [List.mem_singleton.mp member] at inside
        rw [recorded evaluated]
        exact sound.admitted (groups group inside) gates
      · rw [recorded evaluated]
        have tracked := tracks due
        exact ⟨tracked.apart, tracked.refreshed, tracked.streaks⟩
      · intro wrong
        rw [handover, started] at wrong
        cases wrong
      · intro since begun
        rw [handover, started] at begun
        cases begun
        exact ⟨Int.le_refl _, rfl, rfl, (if_pos (.inl rfl)).symm⟩

/-- An observation changes the accumulator, and the status while there is no basis. -/
theorem Sound.observe (sound : run.Sound config seeds) (obs : RelationRollingObservation)
    (metricIndex : Nat) : (run.observe obs metricIndex).Sound config seeds := by
  have same : ∀ accumulator status, run.newBasis { run.state with
      accumulator := accumulator, basisStatus := status } = [] := fun _ _ => newBasis_of_eq rfl
  unfold BasisRun.observe RelationBasisRuntimeState.observe
  cases accepted : run.state.accumulator.observe obs metricIndex with
  | error status =>
      dsimp only
      have unchanged : run.newBasis run.state = [] := newBasis_of_eq rfl
      rw [unchanged]
      exact sound
  | ok accumulator =>
      dsimp only
      rw [same, List.nil_append]
      obtain ⟨gain, counted, config_eq, groups, _, _, rfl⟩ :=
        @RelationStreamBasisAccumulator.observe_ok _ _ (obs, metricIndex) accepted
      obtain ⟨weight, bounding⟩ := sound.bounding
      have counters : counted.counters = run.state.accumulator.counters := by
        unfold RelationStreamBasisAccumulator.counters
        rw [groups]
      have roomy := sound.roomy
      rw [← config_eq] at roomy bounding
      rw [← counters] at bounding
      have config_after := @RelationStreamBasisAccumulator.observeMasses_config counted
        (Observed.masses (obs, metricIndex)) obs.bucketId
      refine ⟨⟨sound.lawful.apart, sound.lawful.active, sound.lawful.chain, sound.lawful.origin,
        sound.lawful.stable, ?_, ?_⟩, sound.config_eq, ?_, ?_, sound.refreshed, sound.streaks,
        sound.since⟩
      · intro none_
        dsimp only
        split
        · exact (fun wrong => nomatch wrong)
        · exact sound.lawful.unreplaced none_
      · intro since started
        dsimp only
        have has := (sound.since since started).2
        rw [if_neg (by rw [Option.isNone_eq_false_iff.mpr has]; exact Bool.false_ne_true)]
        exact sound.lawful.warming since started
      · change 0 < (counted.observeMasses _ _).config.maxGroups
        rw [config_after]
        exact roomy
      · change ∃ weight, Bounding (counted.observeMasses _ _).config.maxGroups
          (counted.observeMasses _ _).counters weight
        rw [config_after]
        exact ⟨_, RelationStreamBasisAccumulator.observeMasses_bounding bounding roomy gain
          obs.bucketId⟩

theorem start_sound (config : RelationBasisRuntimeConfig)
    (seed : Option (RelationServiceBasis × BootstrapSeedStatus)) :
    (start config seed).Sound config (start config seed).bases := by
  have fresh := RelationStreamBasisAccumulator.new_sound config.stream
  have state : ∃ basis status, status ≠ .kHandoverWarming ∧ (start config seed).state =
      { RelationBasisRuntimeState.new config with activeBasis := basis, basisStatus := status } := by
    cases seed with
    | none => exact ⟨none, .kNoBasis, (fun wrong => nomatch wrong), rfl⟩
    | some seed =>
        obtain ⟨basis, seedStatus⟩ := seed
        by_cases valid : basis.metricName = "" ∨ basis.groupSpaceId = "" ∨ basis.basisVersion = 0
        · refine ⟨none, .kNoBasis, (fun wrong => nomatch wrong), ?_⟩
          change (((RelationBasisRuntimeState.new config).loadSeedBasis basis _).2) = _
          unfold RelationBasisRuntimeState.loadSeedBasis
          rw [if_pos valid]
          rfl
        · refine ⟨some basis, basisStatusFromSeedStatus seedStatus, ?_, ?_⟩
          · cases seedStatus <;> exact (fun wrong => nomatch wrong)
          · change (((RelationBasisRuntimeState.new config).loadSeedBasis basis _).2) = _
            unfold RelationBasisRuntimeState.loadSeedBasis
            rw [if_neg valid]
            cases seedStatus <;> rfl
  obtain ⟨basis, status, other, state⟩ := state
  have bases : (start config seed).bases = (start config seed).state.activeBasis.toList := rfl
  refine ⟨⟨.nil, ?_, ?_, rfl, (fun _ _ wrong => nomatch wrong), ?_,
    (fun _ wrong => nomatch wrong)⟩, ?_, ?_, ?_, ?_, ?_, (fun _ wrong => nomatch wrong)⟩
  · rw [bases]
    cases (start config seed).state.activeBasis <;> rfl
  · rw [bases]
    cases (start config seed).state.activeBasis with
    | none => exact .nil
    | some basis => exact .singleton basis
  · intro _
    rw [state]
    exact other
  · rw [state]
    rfl
  · rw [state]
    exact fresh.roomy
  · rw [state]
    exact ⟨_, fresh.bounding⟩
  · rw [state]
    rfl
  · intro _ _
    rw [state]
    rfl

theorem Sound.step {event : BasisEvent} (sound : run.Sound config seeds)
    (orderly : run.Orderly event) (moved : run.step event = some after) :
    after.Sound config seeds := by
  cases event with
  | observe obs metricIndex =>
      cases moved
      exact sound.observe obs metricIndex
  | refresh baseInput bucketId =>
      unfold BasisRun.step at moved
      dsimp only at moved
      split at moved
      next later =>
        cases moved
        exact sound.refresh orderly later
      · cases moved

instance : ∀ event, Decidable (run.Orderly event)
  | .observe _ _ => inferInstanceAs (Decidable True)
  | .refresh _ _ => inferInstanceAs (Decidable (_ ∧ _))

end BasisRun

def eagerConfig : RelationBasisRuntimeConfig where
  collectMinBuckets := 1
  readyMinBuckets := 1
  refreshIntervalBuckets := 1
  handoverWarmupBuckets := 2

def bytesInput : RelationBasisBuildInput where
  featureBase := "bytes"
  metricName := "bytes"
  groupSpaceId := "ports"
  groupSpaceVersion := "1"
  otherGroupIdxs := []
  supportPolicy := { kSupport := 2, minHistShare := 1 / 4, minActiveRatio := 0 }
  summaryPolicy := { kHead := 1, kStable := 1 }

def bytesAt (bucketId : Int) (groups : List Nat) (total : ℚ) (masses : List ℚ) : BasisEvent :=
  .observe {
    bucketId := bucketId
    groupIdx := groups
    metrics := [{ total := total, valuesByGroup := masses }] } 0

end Flowsql.Baseline
