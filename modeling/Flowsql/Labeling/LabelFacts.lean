import Mathlib

/-!
# Label facts

What is known of a packet where its flow is labelled.
-/

namespace Flowsql.Labeling

/-- `FlowLabelEndpointFactsV1`. -/
structure EndpointFacts where
  /-- The six bytes in network order. -/
  mac : BitVec 48 := 0
  macValid : Bool := false
  /-- The bytes at the borrowed pointer in network order. Of an IPv4 address only the first four are
  there. -/
  ip : Option (BitVec 128) := none
  ipValid : Bool := false
  port : BitVec 16 := 0
  portValid : Bool := false
  deriving DecidableEq

/-- `FlowLabelVlanFactsV1`. -/
structure VlanFacts where
  tpid : BitVec 16 := 0
  vid : BitVec 16 := 0
  valid : Bool := false
  deriving DecidableEq

/-- `sizeof(FlowLabelFactsV1)`. -/
def kFlowLabelFactsV1Size : Nat := 88

/-- `FlowLabelFactsV1`. -/
structure LabelFacts where
  structSize : Nat := kFlowLabelFactsV1Size
  observationDomainId : BitVec 64 := 0
  ipFamily : BitVec 8 := 0
  transportProtocol : BitVec 8 := 0
  transportValid : Bool := false
  source : EndpointFacts := {}
  destination : EndpointFacts := {}
  outerVlan : VlanFacts := {}
  innerVlan : VlanFacts := {}
  deriving DecidableEq

end Flowsql.Labeling
