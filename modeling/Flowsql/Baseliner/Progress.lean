import Mathlib

/-!
# Source progress

How far the datasets of a task have been read.
-/

namespace Flowsql.Baseliner

def kMaxDatasets : Nat := 64
def kMaxConfigBytes : Nat := 1024 * 1024
def kContractVersion : Nat := 1

/-- `BlockDatasetProgressV1`. -/
structure DatasetProgress where
  datasetId : String
  epoch : String
  committedPosition : String
  closedBeforeBucket : Int
  deriving DecidableEq, Repr

/-- `BlockInputProgressV1`. -/
structure InputProgress where
  contractVersion : Nat := kContractVersion
  datasets : List DatasetProgress := []
  deriving DecidableEq, Repr

/-- The loop of `ValidateProgress`, with the datasets seen so far. -/
def validPositions (datasets : List String) : List String → List DatasetProgress → Bool
  | _, [] => true
  | seen, position :: later =>
      decide (position.datasetId ∈ datasets ∧ position.datasetId ∉ seen ∧ position.epoch ≠ "" ∧
        position.committedPosition ≠ "" ∧
        position.committedPosition.utf8ByteSize ≤ kMaxConfigBytes) &&
      validPositions datasets (position.datasetId :: seen) later

/-- `ValidateProgress`. -/
def validateProgress (progress : InputProgress) (datasets : List String) : Bool :=
  decide (progress.contractVersion = kContractVersion ∧ progress.datasets.length ≤ kMaxDatasets) &&
    validPositions datasets [] progress.datasets

end Flowsql.Baseliner
