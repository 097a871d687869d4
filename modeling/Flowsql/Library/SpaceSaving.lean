import Mathlib
import Flowsql.Library.KeyedRows

/-!
# Bounded counters with eviction by minimum

A bounded list of counters estimates the weights of arbitrarily many keys. A new key takes the place
of a counter with the least estimate, and inherits this estimate as its error. The estimates never
fall below the weights, and exceed them by the error at most.
-/

namespace Flowsql.Library

/-- A counter, and by how much its estimate may be too large. -/
structure Counter (Key Weight : Type*) where
  key : Key
  estimate : Weight
  error : Weight

variable {Key Weight : Type*}

theorem nodup_append_singleton {keys : List Key} (unique : keys.Nodup) {key : Key}
    (fresh : key ∉ keys) : (keys ++ [key]).Nodup :=
  List.nodup_append_comm.mp (List.nodup_cons.mpr ⟨fresh, unique⟩)

section Weights

variable [DecidableEq Key] [AddCommGroup Weight] {weight : Key → Weight}

/-- The weights after `mass` has been added to those of one key. -/
def heavier (weight : Key → Weight) (key : Key) (mass : Weight) (other : Key) : Weight :=
  weight other + if other = key then mass else 0

theorem heavier_of_ne {key other : Key} (different : other ≠ key) (mass : Weight) :
    heavier weight key mass other = weight other := by
  unfold heavier
  rw [if_neg different, add_zero]

theorem heavier_self (key : Key) (mass : Weight) :
    heavier weight key mass key = weight key + mass := by
  unfold heavier
  rw [if_pos rfl]

theorem heavier_nonneg [LinearOrder Weight] [IsOrderedAddMonoid Weight]
    (nonneg : ∀ key, 0 ≤ weight key) (key : Key) {mass : Weight} (gain : 0 ≤ mass)
    (other : Key) : 0 ≤ heavier weight key mass other := by
  unfold heavier
  split
  · exact add_nonneg (nonneg other) gain
  · exact (nonneg other).trans_eq (add_zero _).symm

end Weights

variable [AddCommGroup Weight] [LinearOrder Weight]

/-- What the counters say of the weights. -/
structure Bounding (capacity : Nat) (counters : List (Counter Key Weight))
    (weight : Key → Weight) : Prop where
  nonneg : ∀ key, 0 ≤ weight key
  keys : (counters.map Counter.key).Nodup
  size : counters.length ≤ capacity
  upper : ∀ counter ∈ counters, weight counter.key ≤ counter.estimate
  lower : ∀ counter ∈ counters, counter.estimate - counter.error ≤ weight counter.key
  untracked : ∀ key ∉ counters.map Counter.key, ∀ counter ∈ counters, weight key ≤ counter.estimate
  unseen : counters.length < capacity → ∀ key ∉ counters.map Counter.key, weight key = 0

namespace Bounding

variable {capacity : Nat} {counters : List (Counter Key Weight)} {weight : Key → Weight}

/-- No counter, and nothing has any weight. -/
theorem start (capacity : Nat) : Bounding capacity ([] : List (Counter Key Weight)) fun _ => 0 where
  nonneg := fun _ => le_rfl
  keys := List.nodup_nil
  size := Nat.zero_le _
  upper := fun _ wrong => nomatch wrong
  lower := fun _ wrong => nomatch wrong
  untracked := fun _ _ _ wrong => nomatch wrong
  unseen := fun _ _ _ => rfl

variable [DecidableEq Key]

/-- The counter of a key is raised. -/
theorem bump [IsOrderedAddMonoid Weight] (bounding : Bounding capacity counters weight) {key : Key}
    (tracked : key ∈ counters.map Counter.key) {mass : Weight} (gain : 0 ≤ mass) :
    Bounding capacity (counters.map fun counter =>
        if counter.key = key then { counter with estimate := counter.estimate + mass } else counter)
      (heavier weight key mass) := by
  have keys : (counters.map fun counter => if counter.key = key then
      { counter with estimate := counter.estimate + mass } else counter).map Counter.key =
      counters.map Counter.key := by
    rw [List.map_map]
    refine List.map_congr_left fun counter _ => ?_
    rw [Function.comp_apply]
    split <;> rfl
  refine ⟨heavier_nonneg bounding.nonneg key gain, ?_, ?_, ?_, ?_, ?_, ?_⟩
  · rw [keys]
    exact bounding.keys
  · rw [List.length_map]
    exact bounding.size
  · intro counter member
    obtain ⟨before, there, rfl⟩ := List.mem_map.mp member
    have upper := bounding.upper before there
    by_cases same : before.key = key
    · subst same
      rw [if_pos rfl]
      exact (heavier_self _ _).trans_le (add_le_add_left upper mass)
    · rw [if_neg same, heavier_of_ne same]
      exact upper
  · intro counter member
    obtain ⟨before, there, rfl⟩ := List.mem_map.mp member
    have lower := bounding.lower before there
    by_cases same : before.key = key
    · subst same
      rw [if_pos rfl, add_sub_right_comm]
      exact (add_le_add_left lower mass).trans_eq (heavier_self _ _).symm
    · rw [if_neg same, heavier_of_ne same]
      exact lower
  · intro other untracked counter member
    rw [keys] at untracked
    obtain ⟨before, there, rfl⟩ := List.mem_map.mp member
    have below := bounding.untracked other untracked before there
    have different : other ≠ key := fun same => untracked (same ▸ tracked)
    rw [heavier_of_ne different]
    split
    · exact below.trans (le_add_of_nonneg_right gain)
    · exact below
  · intro room other untracked
    rw [List.length_map] at room
    rw [keys] at untracked
    have different : other ≠ key := fun same => untracked (same ▸ tracked)
    rw [heavier_of_ne different]
    exact bounding.unseen room other untracked

/-- A counter for a new key, while there is room. -/
theorem track [IsOrderedAddMonoid Weight] (bounding : Bounding capacity counters weight) {key : Key}
    (untracked : key ∉ counters.map Counter.key) (room : counters.length < capacity)
    {mass : Weight} (gain : 0 ≤ mass) :
    Bounding capacity (counters ++ [⟨key, mass, 0⟩]) (heavier weight key mass) := by
  have unseen := bounding.unseen room
  have keys : (counters ++ [(⟨key, mass, 0⟩ : Counter Key Weight)]).map Counter.key =
      counters.map Counter.key ++ [key] := by rw [List.map_append, List.map_singleton]
  have own : heavier weight key mass key = mass := by
    rw [heavier_self, unseen key untracked, zero_add]
  have apart : ∀ counter ∈ counters, counter.key ≠ key := fun counter member same =>
    untracked (same ▸ List.mem_map.mpr ⟨counter, member, rfl⟩)
  refine ⟨heavier_nonneg bounding.nonneg key gain, ?_, ?_, ?_, ?_, ?_, ?_⟩
  · rw [keys]
    exact nodup_append_singleton bounding.keys untracked
  · rw [List.length_append]
    exact room
  · intro counter member
    rcases List.mem_append.mp member with there | new
    · rw [heavier_of_ne (apart counter there)]
      exact bounding.upper counter there
    · rw [List.mem_singleton.mp new]
      exact own.le
  · intro counter member
    rcases List.mem_append.mp member with there | new
    · rw [heavier_of_ne (apart counter there)]
      exact bounding.lower counter there
    · rw [List.mem_singleton.mp new]
      exact (sub_zero mass).le.trans own.ge
  · intro other fresh counter member
    rw [keys, List.mem_append, not_or] at fresh
    rw [heavier_of_ne fun same => fresh.2 (List.mem_singleton.mpr same)]
    rcases List.mem_append.mp member with there | new
    · exact bounding.untracked other fresh.1 counter there
    · rw [List.mem_singleton.mp new, unseen other fresh.1]
      exact gain
  · intro _ other fresh
    rw [keys, List.mem_append, not_or] at fresh
    rw [heavier_of_ne fun same => fresh.2 (List.mem_singleton.mpr same)]
    exact unseen other fresh.1

/-- A new key takes the place of a counter with the least estimate. -/
theorem replace [IsOrderedAddMonoid Weight] (bounding : Bounding capacity counters weight)
    {key : Key} (untracked : key ∉ counters.map Counter.key) {least : Counter Key Weight}
    (member : least ∈ counters) (least_le : ∀ counter ∈ counters, least.estimate ≤ counter.estimate)
    (full : capacity ≤ counters.length) {mass : Weight} (gain : 0 ≤ mass) :
    Bounding capacity (counters.filter (fun counter => counter.key ≠ least.key) ++
      [⟨key, least.estimate + mass, least.estimate⟩]) (heavier weight key mass) := by
  have below : ∀ other, other ∉ (counters.filter (fun counter => counter.key ≠ least.key)).map
      Counter.key → weight other ≤ least.estimate := by
    intro other dropped
    by_cases here : other ∈ counters.map Counter.key
    · obtain ⟨counter, there, rfl⟩ := List.mem_map.mp here
      by_cases same : counter.key = least.key
      · rw [same]
        exact bounding.upper least member
      · refine absurd (List.mem_map.mpr ⟨counter, List.mem_filter.mpr ⟨there, ?_⟩, rfl⟩) dropped
        exact decide_eq_true same
    · exact bounding.untracked other here least member
  have kept : ∀ counter ∈ counters.filter (fun counter => counter.key ≠ least.key),
      counter ∈ counters ∧ counter.key ≠ key := by
    intro counter inside
    have there := List.mem_of_mem_filter inside
    exact ⟨there, fun same => untracked (same ▸ List.mem_map.mpr ⟨counter, there, rfl⟩)⟩
  have length : (counters.filter (fun counter => counter.key ≠ least.key)).length + 1 =
      counters.length := length_filter_key_ne bounding.keys member
  have keys : (counters.filter (fun counter => counter.key ≠ least.key) ++
      [(⟨key, least.estimate + mass, least.estimate⟩ : Counter Key Weight)]).map Counter.key =
      (counters.filter (fun counter => counter.key ≠ least.key)).map Counter.key ++ [key] := by
    rw [List.map_append, List.map_singleton]
  refine ⟨heavier_nonneg bounding.nonneg key gain, ?_, ?_, ?_, ?_, ?_, ?_⟩
  · rw [keys]
    refine nodup_append_singleton (bounding.keys.sublist (List.filter_sublist.map _)) fun inside => ?_
    obtain ⟨counter, there, same⟩ := List.mem_map.mp inside
    exact (kept counter there).2 same
  · rw [List.length_append, List.length_singleton, length]
    exact bounding.size
  · intro counter inside
    rcases List.mem_append.mp inside with there | new
    · obtain ⟨before, different⟩ := kept counter there
      rw [heavier_of_ne different]
      exact bounding.upper counter before
    · rw [List.mem_singleton.mp new, heavier_self]
      exact add_le_add_left (bounding.untracked key untracked least member) mass
  · intro counter inside
    rcases List.mem_append.mp inside with there | new
    · obtain ⟨before, different⟩ := kept counter there
      rw [heavier_of_ne different]
      exact bounding.lower counter before
    · rw [List.mem_singleton.mp new, heavier_self, add_sub_cancel_left]
      exact le_add_of_nonneg_left (bounding.nonneg key)
  · intro other fresh counter inside
    rw [keys, List.mem_append, not_or] at fresh
    rw [heavier_of_ne fun same => fresh.2 (List.mem_singleton.mpr same)]
    rcases List.mem_append.mp inside with there | new
    · exact (below other fresh.1).trans (least_le counter (kept counter there).1)
    · rw [List.mem_singleton.mp new]
      exact (below other fresh.1).trans (le_add_of_nonneg_right gain)
  · intro room
    rw [List.length_append, List.length_singleton, length] at room
    exact absurd room (Nat.not_lt.mpr full)

end Bounding

end Flowsql.Library
