import Flowsql.Baseliner.BucketAggregator

/-!
# What a filled dataset publishes

The rows of an identity in a bucket have a value, or they were all skipped. The observations of an identity are
known from its values: the buckets up to the last value, with zeros between the values.
-/

namespace Flowsql.Baseliner.Buckets

namespace Dataset

variable {Row σ Payload : Type} {dataset : Dataset Row σ Payload}
variable {index : Nat} {metric : Metric Row σ Payload} {identity : String} {bucket : Int}
variable {output next : Output Row σ Payload}

/-! ## One of several steps -/

/-- Steps of which only those of one key change what is seen. -/
theorem foldlM_view {S α K V : Type} {step : S → α → Option S} (keyOf : α → K) (view : S → V) (key : K)
    (others : ∀ state value after, keyOf value ≠ key → step state value = some after → view after = view state)
    {values : List α} (nodup : (values.map keyOf).Nodup) {state after : S}
    (folded : values.foldlM step state = some after) :
    (key ∉ values.map keyOf → view after = view state) ∧
      ∀ value ∈ values, keyOf value = key → ∃ before now, view before = view state ∧
        step before value = some now ∧ view after = view now := by
  induction values generalizing state with
  | nil =>
      cases folded
      exact ⟨fun _ => rfl, fun _ mem => nomatch mem⟩
  | cons value values ih =>
      rw [List.foldlM_cons] at folded
      obtain ⟨middle, stepped, folded⟩ := Option.bind_eq_some_iff.mp folded
      rw [List.map_cons, List.nodup_cons] at nodup
      obtain ⟨same, found⟩ := ih nodup.2 folded
      constructor
      · intro absent
        rw [List.map_cons, List.mem_cons, not_or] at absent
        exact (same absent.2).trans (others _ _ _ (Ne.symm absent.1) stepped)
      · intro other mem here
        rcases List.mem_cons.mp mem with rfl | mem
        · exact ⟨state, middle, rfl, stepped, same (here ▸ nodup.1)⟩
        · have away : keyOf value ≠ key := fun wrong =>
            nodup.1 (wrong.trans here.symm ▸ List.mem_map_of_mem mem)
          obtain ⟨before, now, started, ran, ended⟩ := found other mem here
          exact ⟨before, now, started.trans (others _ _ _ away stepped), ran, ended⟩

/-- Steps that change nothing of what is seen. -/
theorem foldlM_keeps {S α V : Type} {step : S → α → Option S} (view : S → V)
    (keeps : ∀ state value after, step state value = some after → view after = view state) {values : List α}
    {state after : S} (folded : values.foldlM step state = some after) : view after = view state := by
  induction values generalizing state with
  | nil =>
      cases folded
      rfl
  | cons value values ih =>
      rw [List.foldlM_cons] at folded
      obtain ⟨middle, stepped, folded⟩ := Option.bind_eq_some_iff.mp folded
      exact (ih folded).trans (keeps _ _ _ stepped)

theorem nodup_zipIdx (values : List (Metric Row σ Payload)) : (values.zipIdx.map (·.2)).Nodup := by
  rw [List.zipIdx_map_snd]
  exact List.nodup_range'

theorem nodup_inOrder {α : Type} (map : AList fun _ : String => α) : ((inOrder map).map (·.1)).Nodup := by
  have perm : ((inOrder map).map (·.1)).Perm map.keys := (List.perm_insertionSort _ _).map _
  exact perm.nodup_iff.mpr map.keys_nodup

theorem mem_inOrder {α : Type} {map : AList fun _ : String => α} {value : α} :
    ⟨identity, value⟩ ∈ inOrder map ↔ map.lookup identity = some value :=
  (List.perm_insertionSort _ _).mem_iff.trans AList.mem_lookup_iff.symm

/-! ## Values -/

/-- What the accumulators of an identity hold for a bucket. -/
def group (dataset : Dataset Row σ Payload) (metric : Metric Row σ Payload) (seen : List Row) (identity : String)
    (bucket : Int) : Option σ :=
  (seen.filter fun row => metric.identity row = identity ∧ dataset.target row = some bucket).foldl
    (fun state row => match metric.add state row with
      | .value next => some next
      | _ => state) none

/-- The value of an identity in a bucket, unless its rows or their result were skipped. -/
def value (dataset : Dataset Row σ Payload) (metric : Metric Row σ Payload) (seen : List Row) (identity : String)
    (bucket : Int) : Option Payload :=
  (dataset.group metric seen identity bucket).bind fun state => match metric.finish state with
    | .value payload => some payload
    | _ => none

/-- The observation of a bucket. -/
def cell (dataset : Dataset Row σ Payload) (index : Nat) (metric : Metric Row σ Payload) (seen : List Row)
    (identity : String) (bucket : Int) : Observation Payload :=
  match dataset.value metric seen identity bucket with
  | some payload => ⟨index, identity, bucket, payload, false⟩
  | none => ⟨index, identity, bucket, metric.zero, true⟩

def published (index : Nat) (identity : String) (out : List (Observation Payload)) : List (Observation Payload) :=
  out.filter fun observation => observation.metric = index ∧ observation.identity = identity

/-- What the steps see of an identity of a metric. -/
def view (index : Nat) (identity : String) (output : Output Row σ Payload) :
    (AList fun _ : String => σ) × Option Int × List (Observation Payload) :=
  (output.1.states index, (output.1.emitted index).lookup identity, published index identity output.2)

/-- The observations before a bucket are those of the values before it, with zeros up to the last of them. -/
def Filled (dataset : Dataset Row σ Payload) (index : Nat) (metric : Metric Row σ Payload) (seen : List Row)
    (identity : String) (bound : Int) (emitted : Option Int) (out : List (Observation Payload)) : Prop :=
  match emitted with
  | none => out = [] ∧ ∀ bucket < bound, dataset.value metric seen identity bucket = none
  | some last => dataset.scope.1 ≤ last ∧ last < bound ∧
      out = (Int.range dataset.scope.1 (last + 1)).map (dataset.cell index metric seen identity) ∧
      dataset.value metric seen identity last ≠ none ∧
      ∀ bucket, last < bucket → bucket < bound → dataset.value metric seen identity bucket = none

variable {seen : List Row} {bound : Int} {emitted : Option Int} {out : List (Observation Payload)}

theorem range_append {low middle high : Int} (first : low ≤ middle) (second : middle ≤ high) :
    Int.range low high = Int.range low middle ++ Int.range middle high := by
  unfold Int.range
  have length : (high - low).toNat = (middle - low).toNat + (high - middle).toNat := by omega
  rw [length, List.range_add, List.map_append, List.map_map]
  refine congrArg _ (List.map_congr_left fun step _ => ?_)
  simp only [Function.comp_apply]
  omega

theorem range_single (bucket : Int) : Int.range bucket (bucket + 1) = [bucket] := by
  have length : (bucket + 1 - bucket).toNat = 1 := by omega
  simp [Int.range]

/-- Zeros where there is no value. -/
theorem zeros_eq {low high : Int} (none_ : ∀ bucket, low ≤ bucket → bucket < high →
    dataset.value metric seen identity bucket = none) :
    zeros index metric identity low high =
      (Int.range low high).map (dataset.cell index metric seen identity) := by
  refine List.map_congr_left fun bucket mem => ?_
  obtain ⟨least, most⟩ := Int.mem_range_iff.mp mem
  unfold cell
  rw [none_ bucket least most]

/-- Buckets without a value do not matter. -/
theorem Filled.later (filled : dataset.Filled index metric seen identity bound emitted out) {later : Int}
    (le : bound ≤ later)
    (none_ : ∀ bucket, bound ≤ bucket → bucket < later → dataset.value metric seen identity bucket = none) :
    dataset.Filled index metric seen identity later emitted out := by
  cases emitted with
  | none =>
      refine ⟨filled.1, fun bucket less => ?_⟩
      rcases lt_or_ge bucket bound with before | behind
      · exact filled.2 bucket before
      · exact none_ bucket behind less
  | some last =>
      obtain ⟨least, most, all, some_, between⟩ := filled
      refine ⟨least, lt_of_lt_of_le most le, all, some_, fun bucket more less => ?_⟩
      rcases lt_or_ge bucket bound with before | behind
      · exact between bucket more before
      · exact none_ bucket behind less

/-- Rows of later buckets do not matter. -/
theorem Filled.congr (filled : dataset.Filled index metric seen identity bound emitted out) {more : List Row}
    (same : ∀ bucket < bound, dataset.value metric more identity bucket =
      dataset.value metric seen identity bucket) :
    dataset.Filled index metric more identity bound emitted out := by
  cases emitted with
  | none => exact ⟨filled.1, fun bucket less => (same bucket less).trans (filled.2 bucket less)⟩
  | some last =>
      obtain ⟨least, most, all, some_, between⟩ := filled
      refine ⟨least, most, all.trans (List.map_congr_left fun bucket mem => ?_), ?_, fun bucket after less => ?_⟩
      · have less := (Int.mem_range_iff.mp mem).2
        unfold cell
        rw [same bucket (by omega)]
      · rwa [same last most]
      · rw [same bucket less]
        exact between bucket after less

/-- The zeros before a value, and its observation. -/
theorem Filled.publish {payload : Payload}
    (filled : dataset.Filled index metric seen identity bucket emitted out) (least : dataset.scope.1 ≤ bucket)
    (known : dataset.value metric seen identity bucket = some payload) :
    dataset.Filled index metric seen identity (bucket + 1) (some bucket)
      (out ++ zeros index metric identity (emitted.elim dataset.scope.1 (· + 1)) bucket ++
        [⟨index, identity, bucket, payload, false⟩]) := by
  have here : [(⟨index, identity, bucket, payload, false⟩ : Observation Payload)] =
      (Int.range bucket (bucket + 1)).map (dataset.cell index metric seen identity) := by
    rw [range_single, List.map_singleton, cell, known]
  refine ⟨least, by omega, ?_, by rw [known]; exact Option.some_ne_none _, fun other more less => by omega⟩
  rw [here, @range_append _ bucket _ least (by omega), List.map_append]
  refine congrArg (· ++ _) ?_
  cases emitted with
  | none =>
      rw [filled.1, List.nil_append]
      exact zeros_eq fun other _ less => filled.2 other less
  | some last =>
      obtain ⟨first, less, all, -, between⟩ := filled
      rw [all, Option.elim_some, zeros_eq fun other more most => between other (by omega) most,
        ← List.map_append, ← range_append (by omega) (by omega)]

/-- The zeros behind the last value. -/
theorem Filled.complete (filled : dataset.Filled index metric seen identity bound emitted out)
    (last : bound ≤ dataset.scope.2)
    (none_ : ∀ bucket, bound ≤ bucket → dataset.value metric seen identity bucket = none) :
    (emitted = none → out = [] ∧ ∀ bucket, dataset.value metric seen identity bucket = none) ∧
      ∀ last, emitted = some last → out ++ zeros index metric identity (last + 1) dataset.scope.2 =
        (Int.range dataset.scope.1 dataset.scope.2).map (dataset.cell index metric seen identity) ∧
        dataset.value metric seen identity last ≠ none := by
  have all := filled.later last fun bucket more _ => none_ bucket more
  constructor
  · rintro rfl
    refine ⟨all.1, fun bucket => ?_⟩
    rcases lt_or_ge bucket dataset.scope.2 with before | behind
    · exact all.2 bucket before
    · exact none_ bucket (by omega)
  · rintro last rfl
    obtain ⟨first, less, same, some_, between⟩ := all
    refine ⟨?_, some_⟩
    rw [same, zeros_eq fun other more most => between other (by omega) most, ← List.map_append,
      ← range_append (by omega) (by omega)]

end Dataset

end Flowsql.Baseliner.Buckets
