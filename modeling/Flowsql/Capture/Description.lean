import Mathlib

/-!
# The description of a capture source

A capture source describes its inputs and how much it lends out.
-/

namespace Flowsql.Capture

/-- The name is empty where the pointer is null. -/
structure CaptureQueueIdentityV1 where
  versioned : Bool := true
  observationDomainId : UInt64
  sourceName : String
  sourceId : UInt32
  queueId : UInt32
  generation : UInt64
  linkType : UInt32
  deriving DecidableEq

structure CaptureReaderLimitsV1 where
  versioned : Bool := true
  maxPacketsPerBatch : Nat := 0
  maxBytesPerBatch : Nat := 0
  maxWaitMs : Nat := 0
  maxOutstandingBatches : Nat := 0
  deriving DecidableEq

inductive CaptureDescriptionErrorV1 where
  | none
  | invalidVersion
  | invalidIdentity
  | invalidLimits
  deriving DecidableEq

def validateCaptureReaderDescriptionV1 (identity : CaptureQueueIdentityV1)
    (limits : CaptureReaderLimitsV1) : CaptureDescriptionErrorV1 :=
  if !identity.versioned || !limits.versioned then .invalidVersion
  else if identity.sourceName = "" ∨ identity.generation = 0 then .invalidIdentity
  else if limits.maxPacketsPerBatch = 0 ∨ limits.maxBytesPerBatch = 0 ∨ limits.maxWaitMs = 0 ∨
      limits.maxOutstandingBatches = 0 then .invalidLimits
  else .none

end Flowsql.Capture
