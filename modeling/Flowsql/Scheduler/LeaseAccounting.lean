import Flowsql.Scheduler.ChannelLeases

/-!
# What the channel leases count

The tables of the scheduler agree with the leases that its tasks hold, in every run whose
counts fit their 32 bits.
-/

namespace Flowsql.Scheduler

open Flowsql.Library

namespace ChannelLeases

/-- How often the live leases hold a key, by one of their lists. -/
def uses (keysOf : StreamTaskLeaseInfo → List String)
    (leases : AList fun _ : String => StreamTaskLeaseInfo) (key : String) : Nat :=
  (leases.entries.map fun entry => (keysOf entry.2).count key).sum

section Uses

variable {keysOf : StreamTaskLeaseInfo → List String}
  {leases : AList fun _ : String => StreamTaskLeaseInfo} {info : StreamTaskLeaseInfo} {id : String}

theorem uses_insert (absent : leases.lookup id = none) :
    uses keysOf (leases.insert id info) = fun key =>
      uses keysOf leases key + (keysOf info).count key := by
  funext key
  rw [uses, entries_insert info absent, List.map_cons, List.sum_cons]
  exact Nat.add_comm _ _

theorem uses_erase (found : leases.lookup id = some info) :
    uses keysOf leases = fun key =>
      uses keysOf (leases.erase id) key + (keysOf info).count key := by
  funext key
  rw [uses, ((entries_erase_perm found).map _).sum_nat, List.map_cons, List.sum_cons]
  exact Nat.add_comm _ _

theorem uses_eq_zero {key : String} :
    uses keysOf leases key = 0 ↔ ∀ entry ∈ leases.entries, key ∉ keysOf entry.2 := by
  rw [uses, List.sum_eq_zero_iff_forall_eq_nat, List.forall_mem_map]
  simp only [List.count_eq_zero]

/-- A list without repetitions counts its leases. -/
theorem uses_allKeys (key : String) :
    uses StreamTaskLeaseInfo.allKeys leases key =
      leases.entries.countP fun entry => decide (key ∈ entry.2.allKeys) := by
  unfold uses
  induction leases.entries with
  | nil => rfl
  | cons entry entries ih =>
      rw [List.map_cons, List.sum_cons, ih, List.countP_cons, Nat.add_comm]
      congr 1
      by_cases held : key ∈ entry.2.allKeys
      · rw [List.count_eq_one_of_mem entry.2.distinct held]
        simp [held]
      · rw [List.count_eq_zero_of_not_mem held]
        simp [held]

end Uses

/-! ## Source leases -/

/-- The counts of the source leases. -/
def sourceCounts (leases : String → Option StreamSourceLeaseState) : String → Option UInt32 :=
  fun key => (leases key).map StreamSourceLeaseState.refCount

section Sources

variable {owner : String} {leases : String → Option StreamSourceLeaseState} {keys : List String}

theorem sourceCounts_retainSource (key : String) :
    sourceCounts (retainSource owner leases key) =
      ReferenceCounts.retain (sourceCounts leases) key := by
  funext other
  unfold sourceCounts retainSource ReferenceCounts.retain
  by_cases same : other = key
  · subst same
    simp only [Function.update_self, Option.map_some]
    cases leases other <;> rfl
  · simp only [Function.update_of_ne same]

theorem sourceCounts_retain_all :
    sourceCounts (keys.foldl (retainSource owner) leases) =
      keys.foldl ReferenceCounts.retain (sourceCounts leases) := by
  induction keys generalizing leases with
  | nil => rfl
  | cons first rest ih => rw [List.foldl_cons, ih, sourceCounts_retainSource, List.foldl_cons]

theorem sourceCounts_releaseSource {key : String}
    (owned : ∀ lease ∈ leases key, lease.ownerId = owner) :
    sourceCounts (releaseSource owner leases key) =
      ReferenceCounts.release (sourceCounts leases) key := by
  funext other
  unfold releaseSource ReferenceCounts.release sourceCounts
  cases found : leases key with
  | none => simp
  | some lease =>
      simp only [if_pos (owned lease found), Option.map_some]
      by_cases last : lease.refCount ≤ 1
      · simp only [if_pos last]
        by_cases same : other = key
        · subst same
          simp
        · simp [Function.update_of_ne same]
      · simp only [if_neg last]
        by_cases same : other = key
        · subst same
          simp
        · simp [Function.update_of_ne same]

/-- Giving a source back keeps the owners of what remains. -/
theorem releaseSource_owner {key other : String} {lease : StreamSourceLeaseState}
    (remains : releaseSource owner leases key other = some lease) :
    ∃ old, leases other = some old ∧ old.ownerId = lease.ownerId := by
  cases found : leases key with
  | none =>
      simp only [releaseSource, found] at remains
      exact ⟨lease, remains, rfl⟩
  | some state =>
      simp only [releaseSource, found] at remains
      by_cases same : other = key
      · subst same
        refine ⟨state, found, ?_⟩
        split at remains
        · split at remains <;> rw [Function.update_self] at remains <;> cases remains
          rfl
        · rw [found] at remains
          cases remains
          rfl
      · refine ⟨lease, ?_, rfl⟩
        split at remains
        · split at remains <;> rwa [Function.update_of_ne same] at remains
        · exact remains

theorem release_all_owner {key : String} {lease : StreamSourceLeaseState}
    (remains : keys.foldl (releaseSource owner) leases key = some lease) :
    ∃ old, leases key = some old ∧ old.ownerId = lease.ownerId := by
  induction keys generalizing leases with
  | nil => exact ⟨lease, remains, rfl⟩
  | cons first rest ih =>
      obtain ⟨middle, found, same⟩ := ih remains
      obtain ⟨old, first_, before⟩ := releaseSource_owner found
      exact ⟨old, first_, before.trans same⟩

theorem sourceCounts_release_all
    (owned : ∀ key ∈ keys, ∀ lease ∈ leases key, lease.ownerId = owner) :
    sourceCounts (keys.foldl (releaseSource owner) leases) =
      keys.foldl ReferenceCounts.release (sourceCounts leases) := by
  induction keys generalizing leases with
  | nil => rfl
  | cons first rest ih =>
      have still : ∀ key ∈ rest, ∀ lease ∈ releaseSource owner leases first key,
          lease.ownerId = owner := by
        intro key member lease found
        obtain ⟨old, before, same⟩ := releaseSource_owner found
        exact same ▸ owned key (List.mem_cons_of_mem _ member) old before
      rw [List.foldl_cons, ih still,
        sourceCounts_releaseSource (owned first List.mem_cons_self), List.foldl_cons]

/-- A source that is taken belongs to the one who takes it, if nobody else had it. -/
theorem retainSource_owner {key other : String} {lease : StreamSourceLeaseState}
    (owned : ∀ lease ∈ leases key, lease.ownerId = owner)
    (held : retainSource owner leases key other = some lease) :
    (other = key ∧ lease.ownerId = owner) ∨ (other ≠ key ∧ leases other = some lease) := by
  unfold retainSource at held
  by_cases same : other = key
  · subst same
    left
    rw [Function.update_self] at held
    cases held
    refine ⟨rfl, ?_⟩
    cases found : leases other with
    | none => rfl
    | some old =>
        have mine := owned old found
        simp only [Option.getD_some]
        split
        · rfl
        · exact mine
  · right
    rw [Function.update_of_ne same] at held
    exact ⟨same, held⟩

theorem retain_all_owner {key : String} {lease : StreamSourceLeaseState}
    (owned : ∀ key ∈ keys, ∀ lease ∈ leases key, lease.ownerId = owner)
    (held : keys.foldl (retainSource owner) leases key = some lease) :
    (key ∈ keys ∧ lease.ownerId = owner) ∨ (key ∉ keys ∧ leases key = some lease) := by
  induction keys generalizing leases with
  | nil => exact Or.inr ⟨List.not_mem_nil, held⟩
  | cons first rest ih =>
      have ownedFirst := owned first List.mem_cons_self
      have still : ∀ key ∈ rest, ∀ lease ∈ retainSource owner leases first key,
          lease.ownerId = owner := by
        intro key member lease found
        rcases retainSource_owner ownedFirst found with ⟨-, mine⟩ | ⟨-, before⟩
        · exact mine
        · exact owned key (List.mem_cons_of_mem _ member) lease before
      rcases ih still held with ⟨member, mine⟩ | ⟨absent, before⟩
      · exact Or.inl ⟨List.mem_cons_of_mem _ member, mine⟩
      · rcases retainSource_owner ownedFirst before with ⟨same, mine⟩ | ⟨different, earlier⟩
        · subst same
          exact Or.inl ⟨List.mem_cons_self, mine⟩
        · refine Or.inr ⟨?_, earlier⟩
          simp [different, absent]

end Sources

/-! ## The invariant -/

/-- The tables agree with the leases of the tasks. -/
structure Invariant (state : ChannelLeases) : Prop where
  counted : ReferenceCounts.Counts state.streamChannelRefCounts
    (uses StreamTaskLeaseInfo.allKeys state.streamTaskLeases)
  sources : ReferenceCounts.Counts (sourceCounts state.streamSourceLeases)
    (uses StreamTaskLeaseInfo.sourceKeys state.streamTaskLeases)
  owners : ∀ key lease, state.streamSourceLeases key = some lease →
    ∀ entry ∈ state.streamTaskLeases.entries, key ∈ entry.2.sourceKeys →
      entry.2.leaseOwnerId = lease.ownerId
  exclusive : ∀ key ∈ state.streamChannelMutating,
    ∀ entry ∈ state.streamTaskLeases.entries, key ∉ entry.2.allKeys
  named : state.streamTaskLeases.lookup "" = none

/-- Every count is below `2 ^ 32`. -/
def Fits (state : ChannelLeases) : Prop :=
  ∀ key, uses StreamTaskLeaseInfo.allKeys state.streamTaskLeases key < 2 ^ 32 ∧
    uses StreamTaskLeaseInfo.sourceKeys state.streamTaskLeases key < 2 ^ 32

/-- A task acquires under an id that holds no lease. -/
def Fresh (state : ChannelLeases) : Call → Prop
  | .acquire runtimeTaskId .. => state.streamTaskLeases.lookup runtimeTaskId = none
  | _ => True

variable {state : ChannelLeases}

theorem initial_invariant : initial.Invariant where
  counted := fun _ => rfl
  sources := fun _ => rfl
  owners := fun _ _ _ _ member => absurd member List.not_mem_nil
  exclusive := fun _ member => absurd member (Finset.notMem_empty _)
  named := rfl

/-! ### Acquisition -/

/-- What the checks of an acquisition leave. -/
theorem acquireRefusal_none {owner : String} {sourceKeys sinkKeys : List String}
    {expectedVersions : Option (String → Option UInt64)}
    (accepted : state.acquireRefusal owner sourceKeys sinkKeys expectedVersions = none) :
    (∀ expected ∈ expectedVersions, ∀ key ∈ uniqueKeys sourceKeys sinkKeys,
      ¬ state.Outdated expected key) ∧
    (∀ key ∈ uniqueKeys sourceKeys sinkKeys, key ∉ state.streamChannelMutating) ∧
    ∀ key ∈ sourceKeys, ¬ state.OwnedByOther owner key := by
  unfold acquireRefusal at accepted
  simp only at accepted
  split at accepted
  · cases accepted
  · next current =>
      split at accepted
      · cases accepted
      · next idle =>
          rw [Option.map_eq_none_iff, List.find?_eq_none] at accepted
          rw [List.find?_eq_none] at idle
          refine ⟨fun expected given key member => ?_, fun key member => ?_, fun key member => ?_⟩
          · rw [Option.mem_def.mp given, Option.bind_some, List.find?_eq_none] at current
            exact fun outdated => current key member (decide_eq_true outdated)
          · exact fun mutating => idle key member (decide_eq_true mutating)
          · exact fun foreign => accepted key member (decide_eq_true foreign)

/-- What an acquisition answers and does. -/
theorem tryAcquireStreamTaskLeases_cases (state : ChannelLeases) (runtimeTaskId : String)
    (sourceKeys sinkKeys : List String) (leaseOwnerId : String)
    (expectedVersions : Option (String → Option UInt64)) :
    ((state.tryAcquireStreamTaskLeases runtimeTaskId sourceKeys sinkKeys leaseOwnerId
        expectedVersions).1 ≠ none ∧
      (state.tryAcquireStreamTaskLeases runtimeTaskId sourceKeys sinkKeys leaseOwnerId
        expectedVersions).2 = state) ∨
    ∃ named : runtimeTaskId ≠ "",
      state.acquireRefusal (leaseOwner runtimeTaskId leaseOwnerId) sourceKeys sinkKeys
        expectedVersions = none ∧
      state.tryAcquireStreamTaskLeases runtimeTaskId sourceKeys sinkKeys leaseOwnerId
        expectedVersions =
        (none, state.withLease runtimeTaskId
          (leaseInfo named sourceKeys sinkKeys leaseOwnerId)) := by
  unfold tryAcquireStreamTaskLeases
  split
  · exact Or.inl ⟨nofun, rfl⟩
  · next named =>
      split
      · exact Or.inl ⟨nofun, rfl⟩
      · next accepted => exact Or.inr ⟨named, accepted, rfl⟩

namespace Invariant

variable {runtimeTaskId : String} {info : StreamTaskLeaseInfo}

theorem withLease (holds : state.Invariant) (named : runtimeTaskId ≠ "")
    (fresh : state.streamTaskLeases.lookup runtimeTaskId = none)
    (idle : ∀ key ∈ info.allKeys, key ∉ state.streamChannelMutating)
    (free : ∀ key ∈ info.sourceKeys, ¬ state.OwnedByOther info.leaseOwnerId key) :
    (state.withLease runtimeTaskId info).Invariant := by
  have mine : ∀ key ∈ info.sourceKeys, ∀ lease ∈ state.streamSourceLeases key,
      lease.ownerId = info.leaseOwnerId := by
    intro key member lease found
    by_contra different
    exact free key member ⟨lease, found, different⟩
  have entriesEq := entries_insert info fresh
  constructor
  case counted =>
    simp only [ChannelLeases.withLease]
    rw [uses_insert fresh]
    exact holds.counted.retain_all _
  case sources =>
    simp only [ChannelLeases.withLease]
    rw [uses_insert fresh, sourceCounts_retain_all]
    exact holds.sources.retain_all _
  case owners =>
    intro key lease held entry member source
    simp only [ChannelLeases.withLease, entriesEq, List.mem_cons] at member
    rcases retain_all_owner mine held with ⟨taken, owner⟩ | ⟨other, before⟩
    · rcases member with same | member
      · rw [same]
        exact owner.symm
      · rw [owner]
        -- the key was counted, so that it had an owner, the one who takes it now
        cases found : state.streamSourceLeases key with
        | none =>
            have none : sourceCounts state.streamSourceLeases key = none := by
              rw [sourceCounts, found]
              rfl
            have unused : uses StreamTaskLeaseInfo.sourceKeys state.streamTaskLeases key = 0 := by
              by_contra used
              rw [holds.sources key, if_neg used] at none
              cases none
            exact absurd source (uses_eq_zero.mp unused entry member)
        | some old =>
            exact (holds.owners key old found entry member source).trans (mine key taken old found)
    · rcases member with same | member
      · rw [same] at source
        exact absurd source other
      · exact holds.owners key lease before entry member source
  case exclusive =>
    intro key mutating entry member
    simp only [ChannelLeases.withLease, entriesEq, List.mem_cons] at member
    rcases member with same | member
    · rw [same]
      exact fun held => idle key held mutating
    · exact holds.exclusive key mutating entry member
  case named =>
    simp only [ChannelLeases.withLease]
    rw [AList.lookup_insert_ne (Ne.symm named)]
    exact holds.named

theorem tryAcquireStreamTaskLeases (holds : state.Invariant)
    (fresh : state.streamTaskLeases.lookup runtimeTaskId = none)
    (sourceKeys sinkKeys : List String) (leaseOwnerId : String)
    (expectedVersions : Option (String → Option UInt64)) :
    (state.tryAcquireStreamTaskLeases runtimeTaskId sourceKeys sinkKeys leaseOwnerId
      expectedVersions).2.Invariant := by
  rcases state.tryAcquireStreamTaskLeases_cases runtimeTaskId sourceKeys sinkKeys leaseOwnerId
    expectedVersions with ⟨-, same⟩ | ⟨named, accepted, result⟩
  · rw [same]
    exact holds
  · rw [result]
    obtain ⟨-, idle, free⟩ := acquireRefusal_none accepted
    exact holds.withLease named fresh idle free

/-! ### Release -/

theorem withoutLease (holds : state.Invariant) (fits : state.Fits)
    (found : state.streamTaskLeases.lookup runtimeTaskId = some info) :
    (state.withoutLease runtimeTaskId info).Invariant := by
  have held := mem_entries.mpr found
  have remaining : ∀ entry ∈ (state.streamTaskLeases.erase runtimeTaskId).entries,
      entry ∈ state.streamTaskLeases.entries := by
    intro entry member
    exact (entries_erase_perm found).mem_iff.mpr (List.mem_cons_of_mem _ member)
  have mine : ∀ key ∈ info.sourceKeys, ∀ lease ∈ state.streamSourceLeases key,
      lease.ownerId = info.leaseOwnerId := by
    intro key member lease given
    exact (holds.owners key lease given _ held member).symm
  constructor
  case counted =>
    have counted := holds.counted
    rw [uses_erase found] at counted
    refine counted.release_all fun key => ?_
    have bounded := (fits key).1
    rwa [uses_erase found] at bounded
  case sources =>
    have sources := holds.sources
    rw [uses_erase found] at sources
    simp only [ChannelLeases.withoutLease]
    rw [sourceCounts_release_all mine]
    refine sources.release_all fun key => ?_
    have bounded := (fits key).2
    rwa [uses_erase found] at bounded
  case owners =>
    intro key lease remains entry member source
    obtain ⟨old, before, same⟩ := release_all_owner remains
    rw [← same]
    exact holds.owners key old before entry (remaining entry member) source
  case exclusive =>
    intro key mutating entry member
    exact holds.exclusive key mutating entry (remaining entry member)
  case named =>
    have other : "" ≠ runtimeTaskId := by
      intro same
      rw [← same, holds.named] at found
      cases found
    simp only [ChannelLeases.withoutLease]
    rw [AList.lookup_erase_ne other]
    exact holds.named

theorem releaseStreamTaskLeases (holds : state.Invariant) (fits : state.Fits)
    (runtimeTaskId : String) : (state.releaseStreamTaskLeases runtimeTaskId).Invariant := by
  unfold ChannelLeases.releaseStreamTaskLeases
  split
  · exact holds
  · split
    · exact holds
    · next info found => exact holds.withoutLease fits found

/-! ### Mutation -/

/-- A key without a count is in no lease. -/
theorem unused (holds : state.Invariant) (fits : state.Fits) {key : String}
    (uncounted : ¬ 0 < (state.streamChannelRefCounts key).getD 0) :
    ∀ entry ∈ state.streamTaskLeases.entries, key ∉ entry.2.allKeys := by
  rw [← uses_eq_zero]
  rw [holds.counted.getD, UInt32.lt_iff_toNat_lt, UInt32.toNat_ofNat_of_lt' (fits key).1] at uncounted
  exact Nat.eq_zero_of_not_pos uncounted

theorem tryBeginStreamChannelMutation (holds : state.Invariant) (fits : state.Fits)
    (key : String) : (state.tryBeginStreamChannelMutation key).2.Invariant := by
  unfold ChannelLeases.tryBeginStreamChannelMutation
  split
  · exact holds
  · split
    · exact holds
    · next uncounted =>
        split
        · exact holds
        · split
          · exact holds
          · refine ⟨holds.counted, holds.sources, holds.owners, fun other member => ?_, holds.named⟩
            rcases Finset.mem_insert.mp member with same | member
            · rw [same]
              exact holds.unused fits uncounted
            · exact holds.exclusive other member

theorem endStreamChannelMutation (holds : state.Invariant) (key : String) :
    (state.endStreamChannelMutation key).Invariant := by
  unfold ChannelLeases.endStreamChannelMutation
  split
  · exact holds
  · exact ⟨holds.counted, holds.sources, holds.owners, fun other member =>
      holds.exclusive other (Finset.mem_of_mem_erase member), holds.named⟩

/-- Every call keeps the tables in step. -/
theorem call (holds : state.Invariant) (fits : state.Fits) {call : Call}
    (fresh : state.Fresh call) : (state.call call).Invariant := by
  cases call with
  | acquire => exact holds.tryAcquireStreamTaskLeases fresh _ _ _ _
  | release runtimeTaskId => exact holds.releaseStreamTaskLeases fits runtimeTaskId
  | beginMutation key => exact holds.tryBeginStreamChannelMutation fits key
  | endMutation key => exact holds.endStreamChannelMutation key

end Invariant

/-! ## Runs -/

/-- Every acquisition is made under an id without a lease, and every count stays below
`2 ^ 32`. -/
def Admissible (state : ChannelLeases) : List Call → Prop
  | [] => True
  | first :: rest => state.Fresh first ∧ (state.call first).Fits ∧ (state.call first).Admissible rest

theorem initial_fits : initial.Fits := fun _ => ⟨Nat.two_pow_pos 32, Nat.two_pow_pos 32⟩

theorem Invariant.run {calls : List Call} (holds : state.Invariant) (fits : state.Fits)
    (admissible : state.Admissible calls) :
    (state.run calls).Invariant ∧ (state.run calls).Fits := by
  induction calls generalizing state with
  | nil => exact ⟨holds, fits⟩
  | cons first rest ih =>
      obtain ⟨fresh, fitting, remaining⟩ := admissible
      exact ih (holds.call fits fresh) fitting remaining

theorem run_append (state : ChannelLeases) (calls later : List Call) :
    state.run (calls ++ later) = (state.run calls).run later :=
  List.foldl_append

/-! ### Versions -/

theorem version_call (state : ChannelLeases) (key : String) (call : Call) :
    (state.call call).version key =
      state.version key + UInt64.ofNat (if state.Begins key call then 1 else 0) := by
  cases call with
  | acquire runtimeTaskId sourceKeys sinkKeys leaseOwnerId expectedVersions =>
      simp only [Begins]
      rcases state.tryAcquireStreamTaskLeases_cases runtimeTaskId sourceKeys sinkKeys leaseOwnerId
        expectedVersions with ⟨-, same⟩ | ⟨named, -, result⟩
      · rw [ChannelLeases.call, same]
        exact (UInt64.add_zero _).symm
      · rw [ChannelLeases.call, result]
        exact (UInt64.add_zero _).symm
  | release runtimeTaskId =>
      simp only [Begins, ChannelLeases.call, releaseStreamTaskLeases]
      split
      · exact (UInt64.add_zero _).symm
      · split <;> exact (UInt64.add_zero _).symm
  | beginMutation other =>
      simp only [ChannelLeases.call, Begins]
      unfold tryBeginStreamChannelMutation
      split
      · simp
      · split
        · simp
        · split
          · simp
          · split
            · simp
            · simp only [and_true, withMutation, version]
              by_cases same : other = key
              · subst same
                rw [Function.update_self, if_pos rfl]
                rfl
              · rw [Function.update_of_ne (Ne.symm same), if_neg same]
                exact (UInt64.add_zero _).symm
  | endMutation other =>
      simp only [Begins, ChannelLeases.call, endStreamChannelMutation]
      split <;> exact (UInt64.add_zero _).symm

/-- The version of a key counts its mutations, in 64 bits. -/
theorem version_run (state : ChannelLeases) (key : String) (calls : List Call) :
    (state.run calls).version key =
      state.version key + UInt64.ofNat (state.mutations key calls) := by
  induction calls generalizing state with
  | nil => exact (UInt64.add_zero _).symm
  | cons first rest ih =>
      have stepped := ih (state.call first)
      rw [version_call, UInt64.add_assoc, ← UInt64.ofNat_add] at stepped
      exact stepped

theorem mutations_append (state : ChannelLeases) (key : String) (calls later : List Call) :
    state.mutations key (calls ++ later) =
      state.mutations key calls + (state.run calls).mutations key later := by
  induction calls generalizing state with
  | nil => exact (Nat.zero_add _).symm
  | cons first rest ih =>
      rw [List.cons_append, mutations, ih, mutations, Nat.add_assoc]
      rfl

/-- A snapshot from before a mutation is outdated after it. -/
theorem captured_outdated {calls later : List Call} {key : String} (keys : List String)
    (mutated : 0 < (initial.run calls).mutations key later)
    (few : initial.mutations key (calls ++ later) < 2 ^ 64) :
    ((initial.run calls).run later).Outdated
      ((initial.run calls).captureStreamChannelVersionSnapshot keys) key := by
  rw [mutations_append] at few
  have before : ((initial.run calls).version key).toNat = initial.mutations key calls := by
    rw [version_run]
    change (0 + UInt64.ofNat _).toNat = _
    rw [UInt64.zero_add]
    exact UInt64.toNat_ofNat_of_lt' (Nat.lt_of_le_of_lt (Nat.le_add_right _ _) few)
  have after : (((initial.run calls).run later).version key).toNat =
      initial.mutations key calls + (initial.run calls).mutations key later := by
    rw [version_run, version_run, UInt64.add_assoc, ← UInt64.ofNat_add]
    change (0 + UInt64.ofNat _).toNat = _
    rw [UInt64.zero_add]
    exact UInt64.toNat_ofNat_of_lt' few
  intro same
  have equal := congrArg UInt64.toNat same
  rw [after, captureStreamChannelVersionSnapshot] at equal
  split at equal
  · rw [Option.getD_some, before] at equal
    omega
  · have zero : ((none : Option UInt64).getD 0).toNat = 0 := rfl
    rw [zero] at equal
    omega

theorem acquire_outdated {state : ChannelLeases} {expected : String → Option UInt64} {key : String}
    (outdated : state.Outdated expected key) (runtimeTaskId : String)
    {sourceKeys sinkKeys : List String} (member : key ∈ sourceKeys ++ sinkKeys)
    (leaseOwnerId : String) :
    (state.tryAcquireStreamTaskLeases runtimeTaskId sourceKeys sinkKeys leaseOwnerId
      (some expected)).1 ≠ none := by
  rcases state.tryAcquireStreamTaskLeases_cases runtimeTaskId sourceKeys sinkKeys leaseOwnerId
    (some expected) with ⟨refused, -⟩ | ⟨named, accepted, -⟩
  · exact refused
  · exact absurd outdated
      ((acquireRefusal_none accepted).1 expected rfl key (List.mem_dedup.mpr member))

/-! ### Afterwards -/

theorem leases_release (state : ChannelLeases) {runtimeTaskId : String} (named : runtimeTaskId ≠ "") :
    (state.releaseStreamTaskLeases runtimeTaskId).streamTaskLeases =
      state.streamTaskLeases.erase runtimeTaskId := by
  unfold releaseStreamTaskLeases
  rw [if_neg named]
  split
  · next absent => exact (erase_of_lookup_eq_none absent).symm
  · rfl

theorem mutating_releases (state : ChannelLeases) (ids : List String) :
    (state.run (ids.map .release)).streamChannelMutating = state.streamChannelMutating := by
  induction ids generalizing state with
  | nil => rfl
  | cons first rest ih =>
      refine (ih _).trans ?_
      simp only [call, releaseStreamTaskLeases]
      split
      · rfl
      · split <;> rfl

theorem Fits.release (fits : state.Fits) (runtimeTaskId : String) :
    (state.releaseStreamTaskLeases runtimeTaskId).Fits := by
  unfold releaseStreamTaskLeases
  split
  · exact fits
  · split
    · exact fits
    · next info found =>
        intro key
        have bounded := fits key
        rw [uses_erase found, uses_erase found] at bounded
        exact ⟨Nat.lt_of_le_of_lt (Nat.le_add_right _ _) bounded.1,
          Nat.lt_of_le_of_lt (Nat.le_add_right _ _) bounded.2⟩

theorem Fits.releases (fits : state.Fits) (ids : List String) :
    state.Admissible (ids.map .release) := by
  induction ids generalizing state with
  | nil => trivial
  | cons first rest ih => exact ⟨trivial, fits.release first, ih (fits.release first)⟩

/-- Releases of all ids leave no lease. -/
theorem released_all {ids : List String} (named : state.streamTaskLeases.lookup "" = none)
    (live : ∀ id, state.streamTaskLeases.lookup id ≠ none → id ∈ ids) :
    (state.run (ids.map .release)).streamTaskLeases = ∅ := by
  induction ids generalizing state with
  | nil =>
      apply AList.ext
      refine List.eq_nil_iff_forall_not_mem.mpr fun entry member => ?_
      have found := mem_entries.mp (show ⟨entry.1, entry.2⟩ ∈ state.streamTaskLeases.entries from member)
      exact List.not_mem_nil (live entry.1 (by rw [found]; nofun))
  | cons first rest ih =>
      have erased : ∀ id, (state.releaseStreamTaskLeases first).streamTaskLeases.lookup id =
          if id = first ∧ first ≠ "" then none else state.streamTaskLeases.lookup id := by
        intro id
        by_cases empty : first = ""
        · simp [releaseStreamTaskLeases, empty]
        · rw [leases_release state empty]
          by_cases same : id = first
          · rw [same, AList.lookup_erase, if_pos ⟨rfl, empty⟩]
          · rw [AList.lookup_erase_ne same, if_neg fun both => same both.1]
      refine @ih (state.releaseStreamTaskLeases first) ?_ ?_
      · rw [erased]
        split
        · rfl
        · exact named
      · intro id found
        rw [erased] at found
        split at found
        · exact absurd rfl found
        · next kept =>
            rcases List.mem_cons.mp (live id found) with same | member
            · refine absurd ⟨same, fun empty => ?_⟩ kept
              rw [same, empty, named] at found
              exact found rfl
            · exact member

/-- Every lease was given back. -/
theorem Invariant.mutable (holds : state.Invariant) (released : state.streamTaskLeases = ∅)
    {key : String} (named : key ≠ "") (idle : key ∉ state.streamChannelMutating) :
    (state.tryBeginStreamChannelMutation key).1 = none := by
  have unused : ∀ keysOf, uses keysOf state.streamTaskLeases key = 0 := by
    intro keysOf
    rw [released]
    rfl
  have uncounted : state.streamChannelRefCounts key = none := by
    rw [holds.counted key, if_pos (unused _)]
  have unowned : state.streamSourceLeases key = none := by
    have none := holds.sources key
    rw [if_pos (unused _)] at none
    exact Option.map_eq_none_iff.mp none
  unfold ChannelLeases.tryBeginStreamChannelMutation
  rw [if_neg named, uncounted, unowned]
  simp [idle]

/-- The tables hold what the live leases say. -/
structure Accounted (state : ChannelLeases) : Prop where
  /-- A key's reference count is the number of leases that contain it. -/
  counted : ∀ key, ((state.streamChannelRefCounts key).getD 0).toNat =
    state.streamTaskLeases.entries.countP fun entry => decide (key ∈ entry.2.allKeys)
  /-- A source lease counts the occurrences of its key, all of one owner. -/
  sources : ∀ key lease, state.streamSourceLeases key = some lease →
    lease.refCount.toNat = uses StreamTaskLeaseInfo.sourceKeys state.streamTaskLeases key ∧
    ∀ entry ∈ state.streamTaskLeases.entries, key ∈ entry.2.sourceKeys →
      entry.2.leaseOwnerId = lease.ownerId
  /-- There is no source lease for a key that occurs nowhere. -/
  unowned : ∀ key, state.streamSourceLeases key = none ↔
    ∀ entry ∈ state.streamTaskLeases.entries, key ∉ entry.2.sourceKeys
  /-- No key is being changed and leased. -/
  exclusive : ∀ key ∈ state.streamChannelMutating,
    ∀ entry ∈ state.streamTaskLeases.entries, key ∉ entry.2.allKeys

theorem Invariant.accounted (holds : state.Invariant) (fits : state.Fits) : state.Accounted where
  counted := by
    intro key
    rw [holds.counted.getD, ← uses_allKeys]
    exact UInt32.toNat_ofNat_of_lt' (fits key).1
  sources := by
    intro key lease found
    refine ⟨?_, holds.owners key lease found⟩
    have counted := holds.sources key
    rw [sourceCounts, found, Option.map_some] at counted
    split at counted
    · cases counted
    · rw [Option.some.inj counted]
      exact UInt32.toNat_ofNat_of_lt' (fits key).2
  unowned := by
    intro key
    rw [← uses_eq_zero, ← @Option.map_eq_none_iff _ _ _ StreamSourceLeaseState.refCount]
    have counted := holds.sources key
    rw [sourceCounts] at counted
    rw [counted]
    simp
  exclusive := holds.exclusive

/-- In every run of the scheduler in which the counts fit 32 bits the tables agree with the
leases, a refused acquisition changes nothing, a snapshot from before a mutation acquires
nothing, and once all leases are released every named channel that is not being changed may
be changed. -/
theorem leases_accounted (calls : List Call) (admissible : initial.Admissible calls) :
    (initial.run calls).Accounted ∧
    (∀ runtimeTaskId sourceKeys sinkKeys leaseOwnerId expectedVersions,
      ((initial.run calls).tryAcquireStreamTaskLeases runtimeTaskId sourceKeys sinkKeys
        leaseOwnerId expectedVersions).1 ≠ none →
      ((initial.run calls).tryAcquireStreamTaskLeases runtimeTaskId sourceKeys sinkKeys
        leaseOwnerId expectedVersions).2 = initial.run calls) ∧
    (∀ before later keys key, calls = before ++ later →
      0 < (initial.run before).mutations key later → initial.mutations key calls < 2 ^ 64 →
      ∀ runtimeTaskId sourceKeys sinkKeys leaseOwnerId, key ∈ sourceKeys ++ sinkKeys →
        ((initial.run calls).tryAcquireStreamTaskLeases runtimeTaskId sourceKeys sinkKeys
          leaseOwnerId
          (some ((initial.run before).captureStreamChannelVersionSnapshot keys))).1 ≠ none) ∧
    (∀ ids : List String, (∀ id, (initial.run calls).streamTaskLeases.lookup id ≠ none → id ∈ ids) →
      ∀ key ≠ "", key ∉ (initial.run calls).streamChannelMutating →
        (((initial.run calls).run (ids.map .release)).tryBeginStreamChannelMutation key).1 =
          none) := by
  obtain ⟨holds, fits⟩ := initial_invariant.run initial_fits admissible
  refine ⟨holds.accounted fits, ?_, ?_, ?_⟩
  · intro runtimeTaskId sourceKeys sinkKeys leaseOwnerId expectedVersions refused
    rcases (initial.run calls).tryAcquireStreamTaskLeases_cases runtimeTaskId sourceKeys sinkKeys
      leaseOwnerId expectedVersions with ⟨-, same⟩ | ⟨named, -, result⟩
    · exact same
    · exact absurd (congrArg Prod.fst result) refused
  · intro before later keys key split mutated few runtimeTaskId sourceKeys sinkKeys leaseOwnerId
      member
    subst split
    have outdated := captured_outdated keys mutated few
    rw [← run_append] at outdated
    exact acquire_outdated outdated runtimeTaskId member leaseOwnerId
  · intro ids live key named idle
    obtain ⟨stillHolds, -⟩ := holds.run fits (fits.releases ids)
    refine stillHolds.mutable (released_all holds.named live) named ?_
    rwa [mutating_releases]

/-- A release in between, a source taken twice, and a snapshot that a mutation outdates. -/
theorem leases_accounted_released :
    initial.Admissible [.acquire "task" ["a", "a"] ["b"] "" none, .release "task"] ∧
    (initial.run [.acquire "task" ["a", "a"] ["b"] "" none, .release "task"]).Accounted := by
  have admissible :
      initial.Admissible [.acquire "task" ["a", "a"] ["b"] "" none, .release "task"] := by
    have few : ∀ key, ["a", "b"].count key < 2 ^ 32 ∧ ["a", "a"].count key < 2 ^ 32 := fun key =>
      ⟨Nat.lt_of_le_of_lt List.count_le_length (by decide),
        Nat.lt_of_le_of_lt List.count_le_length (by decide)⟩
    exact ⟨rfl, fun key => few key, trivial, initial_fits, trivial⟩
  exact ⟨admissible, (leases_accounted _ admissible).1⟩

/-- Nothing stands in the way of the first acquisition. -/
theorem acquireRefusal_initial (owner : String) (sourceKeys sinkKeys : List String) :
    initial.acquireRefusal owner sourceKeys sinkKeys none = none := by
  have idle : (uniqueKeys sourceKeys sinkKeys).find?
      (fun key => decide (key ∈ initial.streamChannelMutating)) = none :=
    List.find?_eq_none.mpr fun key _ mutating =>
      Finset.notMem_empty key (of_decide_eq_true mutating)
  have free : sourceKeys.find? (fun key => decide (initial.OwnedByOther owner key)) = none := by
    refine List.find?_eq_none.mpr fun key _ foreign => ?_
    obtain ⟨lease, found, -⟩ := of_decide_eq_true foreign
    cases found
  unfold acquireRefusal
  simp only [Option.bind_none, idle, free, Option.map_none]

/-- If the tables agree after one task named a source this often, the count fits. -/
theorem fits_of_accounted {count : Nat} (positive : count ≠ 0)
    (accounted :
      (initial.run [.acquire "task" (List.replicate count "a") [] "" none]).Accounted) :
    (UInt32.ofNat count).toNat = count := by
  have result : initial.run [.acquire "task" (List.replicate count "a") [] "" none] =
      initial.withLease "task" (leaseInfo (show "task" ≠ "" by decide)
        (List.replicate count "a") [] "") := by
    simp only [run, List.foldl_cons, List.foldl_nil, call, tryAcquireStreamTaskLeases,
      acquireRefusal_initial]
    rfl
  have used : uses StreamTaskLeaseInfo.sourceKeys initial.streamTaskLeases "a" +
      (List.replicate count "a").count "a" = count := by
    rw [List.count_replicate_self]
    exact Nat.zero_add count
  have counted := (initial_invariant.sources.retain_all (List.replicate count "a")) "a"
  simp only [used, if_neg positive] at counted
  rw [← @sourceCounts_retain_all (leaseOwner "task" "")] at counted
  obtain ⟨lease, found, value⟩ := Option.map_eq_some_iff.mp counted
  rw [result] at accounted
  have agreed := (accounted.sources "a" lease found).1
  simp only [withLease, leaseInfo] at agreed
  rw [uses_insert (show initial.streamTaskLeases.lookup "task" = none from rfl)] at agreed
  exact (congrArg UInt32.toNat value).symm.trans (agreed.trans used)

/-- The key was changed up to this version. -/
def changed (version : UInt64) : ChannelLeases :=
  { initial with streamChannelVersions := Function.update (fun _ => none) "a" (some version) }

/-- The key is changed this often. -/
def changes (count : Nat) : List Call :=
  (List.replicate count [.beginMutation "a", .endMutation "a"]).flatten

theorem changes_succ (count : Nat) :
    changes (count + 1) = .beginMutation "a" :: .endMutation "a" :: changes count := rfl

theorem run_changes (version : UInt64) (count : Nat) :
    (changed version).run (changes count) = changed (version + UInt64.ofNat count) := by
  induction count generalizing version with
  | zero => exact congrArg changed (UInt64.add_zero version).symm
  | succ count ih =>
      have changedAgain : ((changed version).call (.beginMutation "a")).call (.endMutation "a") =
          changed (version + 1) := by
        simp only [changed, initial, call, tryBeginStreamChannelMutation, withMutation,
          ChannelLeases.version, endStreamChannelMutation]
        have unmutated : ({"a"} : Finset String).erase "a" = ∅ := rfl
        simp [unmutated]
      rw [changes_succ, run, List.foldl_cons, List.foldl_cons, changedAgain]
      refine (ih _).trans ?_
      rw [UInt64.add_assoc, UInt64.add_comm 1, ← UInt64.ofNat_one, ← UInt64.ofNat_add]

/-- A source named `2 ^ 32` times by one task counts nothing, and after `2 ^ 64` changes a key
is back at the version that an old snapshot has. -/
theorem leases_accounted_fails :
    ¬ (initial.run [.acquire "task" (List.replicate (2 ^ 32) "a") [] "" none]).Accounted ∧
    (initial.run (.beginMutation "a" :: .endMutation "a" :: changes (2 ^ 64 - 1))).version "a" = 0 ∧
    0 < initial.mutations "a"
      (.beginMutation "a" :: .endMutation "a" :: changes (2 ^ 64 - 1)) ∧
    ((initial.run (.beginMutation "a" :: .endMutation "a" :: changes (2 ^ 64 - 1))).tryAcquireStreamTaskLeases
      "task" ["a"] [] "" (some (initial.captureStreamChannelVersionSnapshot ["a"]))).1 = none := by
  have first : (initial.call (.beginMutation "a")).call (.endMutation "a") = changed 1 := rfl
  have wrapped : (initial.run (.beginMutation "a" :: .endMutation "a" :: changes (2 ^ 64 - 1))) =
      changed 0 := by
    rw [run, List.foldl_cons, List.foldl_cons, first]
    exact (run_changes 1 (2 ^ 64 - 1)).trans (congrArg changed (by decide))
  refine ⟨fun accounted => ?_, ?_, ?_, ?_⟩
  · exact absurd (fits_of_accounted (Nat.ne_of_gt (Nat.two_pow_pos 32)) accounted) (by decide)
  · rw [wrapped]
    rfl
  · rw [mutations, if_pos ⟨rfl, rfl⟩]
    exact Nat.lt_add_right _ Nat.one_pos
  · rw [wrapped]
    rfl

end ChannelLeases

end Flowsql.Scheduler
