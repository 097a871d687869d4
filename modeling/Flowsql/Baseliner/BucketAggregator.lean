import Mathlib

/-!
# The bucket aggregator

The rows of a dataset arrive in the order of their buckets. The metrics accumulate the rows of a bucket for
each identity, and publish an observation when the bucket closes. Where missing buckets are filled, zeros come
before each observation, and behind the last one when the dataset ends.
-/

namespace Flowsql.Baseliner.Buckets

/-- What a calculation ends with: a numeric error is skipped where the policy of the metric says so, and
leaves as any other error does where it does not. -/
inductive Attempt (α : Type) where
  | value (value : α)
  | skipped
  | failed

/-- `Metric` of any kind, with the accumulators of its kind. -/
structure Metric (Row σ Payload : Type) where
  identity : Row → String
  /-- The accumulators of an identity with one more row. -/
  add : Option σ → Row → Attempt σ
  finish : σ → Attempt Payload
  zero : Payload

structure Observation (Payload : Type) where
  /-- The index of the metric. -/
  metric : Nat
  identity : String
  bucket : Int
  payload : Payload
  /-- Made by `Zero`; the observation itself does not tell. -/
  synthetic : Bool

/-- The state of a dataset that is not finished. -/
structure Aggregate (Row σ : Type) where
  bucket : Option Int := none
  dedup : AList fun _ : String => String := ∅
  states : Nat → AList fun _ : String => σ := fun _ => ∅
  emitted : Nat → AList fun _ : String => Int := fun _ => ∅
  /-- The rows that reached the metrics, which the code does not keep. -/
  seen : List Row := []

structure Dataset (Row σ Payload : Type) where
  metrics : List (Metric Row σ Payload)
  fillMissingZero : Bool
  /-- `begin_bucket` and `end_bucket`. -/
  scope : Int × Int
  latestRevision : Bool
  /-- Whether the row is a fact of the dataset, if its fields can be read. -/
  selects : Row → Option Bool
  target : Row → Option Int
  /-- The identity of the row among its duplicates, and its digest. -/
  fact : Row → Option (String × String)
  maxRuntimeIdentities : Nat
  /-- `Budget`, which depends on sizes of texts. -/
  fits : Aggregate Row σ → List (Observation Payload) → Bool

namespace Dataset

variable {Row σ Payload : Type} (dataset : Dataset Row σ Payload)

/-- `Zero`. -/
def zeros (index : Nat) (metric : Metric Row σ Payload) (identity : String) (begin_ end_ : Int) :
    List (Observation Payload) :=
  (Int.range begin_ end_).map fun bucket => ⟨index, identity, bucket, metric.zero, true⟩

abbrev Output (Row σ Payload : Type) := Aggregate Row σ × List (Observation Payload)

/-- `Append`, for several observations. -/
def append (observations : List (Observation Payload)) (output : Output Row σ Payload) :
    Option (Output Row σ Payload) :=
  if dataset.fits output.1 (output.2 ++ observations) then some (output.1, output.2 ++ observations) else none

def publish (index : Nat) (metric : Metric Row σ Payload) (observation : Observation Payload)
    (output : Output Row σ Payload) : Option (Output Row σ Payload) :=
  if dataset.fillMissingZero then
    let found := (output.1.emitted index).lookup observation.identity
    let begin_ := found.elim dataset.scope.1 (· + 1)
    (dataset.append (zeros index metric observation.identity begin_ observation.bucket) output).bind fun output =>
      if found = none ∧ dataset.maxRuntimeIdentities ≤ (output.1.emitted index).entries.length then none
      else dataset.append [observation] ({ output.1 with
        emitted := Function.update output.1.emitted index
          ((output.1.emitted index).insert observation.identity observation.bucket) }, output.2)
  else dataset.append [observation] output

/-- The entries of a map in the order of their keys. -/
def inOrder {α : Type} (map : AList fun _ : String => α) : List ((_ : String) × α) :=
  map.entries.insertionSort fun left right => left.1 ≤ right.1

/-- One identity of a metric when the bucket closes. -/
def closeIdentity (index : Nat) (metric : Metric Row σ Payload) (bucket : Int) (output : Output Row σ Payload)
    (entry : (_ : String) × σ) : Option (Output Row σ Payload) :=
  match metric.finish entry.2 with
  | .value payload => dataset.publish index metric ⟨index, entry.1, bucket, payload, false⟩ output
  | .skipped => some output
  | .failed => none

def closeMetric (bucket : Int) (output : Output Row σ Payload) (metric : Metric Row σ Payload × Nat) :
    Option (Output Row σ Payload) :=
  ((inOrder (output.1.states metric.2)).foldlM (dataset.closeIdentity metric.2 metric.1 bucket) output).map
    fun output => ({ output.1 with states := Function.update output.1.states metric.2 ∅ }, output.2)

def close (output : Output Row σ Payload) : Option (Output Row σ Payload) :=
  match output.1.bucket with
  | none => some output
  | some bucket =>
      dataset.metrics.zipIdx.foldlM (dataset.closeMetric bucket)
        (if dataset.latestRevision then output.1 else { output.1 with dedup := ∅ }, output.2)

/-- One metric of a row. -/
def addMetric (row : Row) (state : Aggregate Row σ) (metric : Metric Row σ Payload × Nat) :
    Option (Aggregate Row σ) :=
  let identity := metric.1.identity row
  let found := (state.states metric.2).lookup identity
  match metric.1.add found row with
  | .value next =>
      if found.isNone ∧ (dataset.maxRuntimeIdentities ≤ (state.states metric.2).entries.length ∨
          ¬dataset.fits state []) then none
      else some { state with
        states := Function.update state.states metric.2 ((state.states metric.2).insert identity next) }
  | .skipped => some state
  | .failed => none

/-- A row of the target bucket that is no duplicate. -/
def addFact (row : Row) (fact : String × String) (output : Output Row σ Payload) : Option (Output Row σ Payload) :=
  if dataset.fits output.1 output.2 then
    (dataset.metrics.zipIdx.foldlM (dataset.addMetric row)
      { output.1 with dedup := output.1.dedup.insert fact.1 fact.2, seen := output.1.seen ++ [row] }).map
        fun state => (state, output.2)
  else none

/-- A row of a later bucket closes the current one. -/
def reach (target : Int) (output : Output Row σ Payload) : Option (Output Row σ Payload) :=
  match output.1.bucket with
  | none => some output
  | some bucket =>
      if target < bucket then none else if bucket < target then dataset.close output else some output

/-- `Add`. -/
def add (output : Output Row σ Payload) (row : Row) : Option (Output Row σ Payload) := do
  if ¬(← dataset.selects row) then return output
  let target ← dataset.target row
  if target < dataset.scope.1 ∨ dataset.scope.2 ≤ target then none
  else
    let closed ← dataset.reach target output
    let output := ({ closed.1 with bucket := some target }, closed.2)
    let fact ← dataset.fact row
    match output.1.dedup.lookup fact.1 with
    | some digest => if digest = fact.2 then return output else none
    | none => dataset.addFact row fact output

/-- `Push`, which returns the observations of one batch. -/
def push (output : Output Row σ Payload) (rows : List Row) : Option (Output Row σ Payload) :=
  (rows.foldlM dataset.add (output.1, [])).map fun last => (last.1, output.2 ++ last.2)

/-- The zeros behind the last observation of each identity. -/
def fillIdentity (index : Nat) (metric : Metric Row σ Payload) (output : Output Row σ Payload)
    (entry : (_ : String) × Int) : Option (Output Row σ Payload) :=
  dataset.append (zeros index metric entry.1 (entry.2 + 1) dataset.scope.2) output

def fillMetric (output : Output Row σ Payload) (metric : Metric Row σ Payload × Nat) :
    Option (Output Row σ Payload) :=
  (inOrder (output.1.emitted metric.2)).foldlM (dataset.fillIdentity metric.2 metric.1) output

def fillAll (output : Output Row σ Payload) : Option (Output Row σ Payload) :=
  if dataset.fillMissingZero then dataset.metrics.zipIdx.foldlM dataset.fillMetric output else some output

/-- `FinishDataset`. -/
def finish (output : Output Row σ Payload) : Option (Output Row σ Payload) :=
  ((dataset.close (output.1, [])).bind dataset.fillAll).map fun filled => (filled.1, output.2 ++ filled.2)

/-- All batches of a dataset, and its end. -/
def run (batches : List (List Row)) : Option (Output Row σ Payload) := do
  dataset.finish (← batches.foldlM dataset.push ({}, []))

end Dataset

end Flowsql.Baseliner.Buckets
