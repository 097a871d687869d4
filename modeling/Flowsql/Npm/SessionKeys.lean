import Flowsql.Labeling.LabelFacts
import Flowsql.Library.CheckedReads
import Flowsql.Npm.AnalysisContract

/-!
# The session of a packet

A packet belongs to the session of its two endpoints. The layers of the packet come from a decoder; every
length is read again from the packet, and the payload is what the lengths and the capture leave.
-/

namespace Flowsql.Npm.Keys

open Flowsql.Library.CheckedReads

/-! ## Packets and layers -/

/-- `NpmSessionPacketError` without success and the error for missing outputs. -/
inductive SessionPacketError where
  | invalidObservationDomainMap
  | unknownSourceId
  | invalidPacketBounds
  | layerUnavailable
  | malformedLayer
  | invalidLayerSelection
  | ambiguousTunnelContext
  | incompleteEndpoint
  | unsupportedTransportProtocol
  | nonInitialFragment
  | incompleteTransportHeader
  | invalidPayloadBounds
  deriving DecidableEq

abbrev Run := Library.CheckedReads.Run SessionPacketError

structure PacketMeta where
  capturedLen : UInt32
  wireLen : UInt32
  sourceId : UInt32

structure PacketView where
  meta_ : PacketMeta
  bytes : List UInt8

inductive LayerStatus where
  | notDecoded
  | decoded
  | truncated
  | malformed
  | unsupportedLinkType
  | undefined

inductive EndpointScope where
  | innermost
  | outermost
  | undefined
  deriving DecidableEq

inductive AddressState where
  | notRequested
  | notPresent
  | available
  | incomplete
  deriving DecidableEq

inductive AddressFamily where
  | ipv4
  | ipv6
  deriving DecidableEq

namespace AddressFamily

def octets : AddressFamily → Nat
  | ipv4 => 4
  | ipv6 => 16

def code : AddressFamily → Nat
  | ipv4 => 4
  | ipv6 => 6

end AddressFamily

abbrev Address (family : AddressFamily) :=
  Vector UInt8 family.octets

structure IpEndpoints (family : AddressFamily) where
  src : Address family
  dst : Address family

structure LayerRef where
  kind : UInt16
  offset : UInt32

def kMaxLayerDepth : Nat := 15

structure LayerView where
  status : LayerStatus
  layerCount : UInt8
  layers : Vector LayerRef kMaxLayerDepth
  endpointScope : EndpointScope
  networkLayerIndex : UInt8
  transportLayerIndex : UInt8
  payloadOffset : UInt32
  srcMac : Vector UInt8 6
  dstMac : Vector UInt8 6
  srcMacValid : Bool
  dstMacValid : Bool
  addressState : AddressState
  transportProtocol : UInt8
  srcPort : UInt16
  dstPort : UInt16
  portsValid : Bool
  endpoints : Option (Sigma IpEndpoints)

/-- `Get4` and `Get6`. -/
def LayerView.get (layer : LayerView) (family : AddressFamily) : Option (IpEndpoints family) :=
  match layer.endpoints with
  | some ⟨own, endpoints⟩ => if same : own = family then some (same ▸ endpoints) else none
  | none => none

namespace eLayer

def TOP : UInt16 := 0

def ETHERNET : UInt16 := 2

def VLAN : UInt16 := 3

def IPv4 : UInt16 := 17

def IPv6 : UInt16 := 18

def IPv6_EXT_HOPOPTS : UInt16 := 19

def IPv6_EXT_ROUTING : UInt16 := 20

def IPv6_EXT_FRAGMENT : UInt16 := 21

def IPv6_EXT_AH : UInt16 := 24

def IPv6_EXT_DSTOPTS : UInt16 := 25

def TCP : UInt16 := 33

def UDP : UInt16 := 34

end eLayer

def isNetworkLayer (kind : UInt16) : Bool :=
  kind = eLayer.IPv4 || kind = eLayer.IPv6

def sizeMax : Nat := 2 ^ 64 - 1

def addSize (left right : Nat) : Option Nat :=
  if sizeMax - left < right then none else some (left + right)

structure SourceDomainBinding where
  sourceId : UInt32
  observationDomainId : UInt64

/-- `NpmObservationDomainLookup`, with its bindings in the order of their sources. -/
structure ObservationDomainLookup where
  inputNamespace : String
  bindings : List SourceDomainBinding
  sourceIdAsDomain : Bool

/-- `Resolve`. -/
def ObservationDomainLookup.resolve (lookup : ObservationDomainLookup) (sourceId : UInt32) :
    Option UInt64 :=
  match lookup.bindings.dropWhile (·.sourceId < sourceId) with
  | found :: _ =>
      if found.sourceId = sourceId then some found.observationDomainId
      else if lookup.sourceIdAsDomain then some sourceId.toUInt64 else none
  | [] => if lookup.sourceIdAsDomain then some sourceId.toUInt64 else none

/-! ## The network layer -/

structure NetworkRange where
  domain : UInt64
  finish : Nat
  body : Nat
  protocol : Nat
  family : AddressFamily

section

variable (lookup : ObservationDomainLookup) (packet : PacketView) (layer : LayerView)

/-- A layer of the array. -/
def layerAt (index : Nat) : Run LayerRef :=
  element layer.layers.toList index

def validateLayerStatus : LayerStatus → Run Unit
  | .decoded | .truncated => .ok ()
  | .malformed => fail .malformedLayer
  | .notDecoded | .unsupportedLinkType | .undefined => fail .layerUnavailable

/-- The loops that refuse network layers, over so many layers. -/
def noNetworkLayer (error : SessionPacketError) : Nat → Nat → Run Unit
  | 0, _ => .ok ()
  | left + 1, index => do
      let ref ← layerAt layer index
      check (isNetworkLayer ref.kind) error
      noNetworkLayer error left (index + 1)

/-- `ValidateIpv6Fragments`, for the layers that are left. -/
def validateIpv6Fragments : Nat → Nat → Run Unit
  | 0, _ => .ok ()
  | left + 1, index => do
      let ref ← layerAt layer index
      if isNetworkLayer ref.kind then .ok ()
      else if ref.kind ≠ eLayer.IPv6_EXT_FRAGMENT then validateIpv6Fragments left (index + 1)
      else
        let header ← need (headerAt packet.bytes ref.offset.toNat 8) .incompleteTransportHeader
        let fragment ← load packet.bytes (header + 2) 2
        check (fragment &&& 0xfff8 ≠ 0) .nonInitialFragment
        validateIpv6Fragments left (index + 1)

/-- The range of an IPv4 datagram. -/
def ipv4Range (domain : UInt64) (offset : Nat) : Run NetworkRange := do
  let header ← need (headerAt packet.bytes offset 20) .invalidPacketBounds
  let first ← load packet.bytes header 1
  check (first / 16 ≠ 4 ∨ first % 16 < 5) .malformedLayer
  let headerSize := first % 16 * 4
  check (packet.bytes.length - offset < headerSize) .invalidPacketBounds
  let totalLength ← load packet.bytes (header + 2) 2
  check (totalLength < headerSize) .invalidPayloadBounds
  let finish ← need (addSize offset totalLength) .invalidPayloadBounds
  let fragment ← load packet.bytes (header + 6) 2
  check (fragment &&& 0x1fff ≠ 0) .nonInitialFragment
  let protocol ← load packet.bytes (header + 9) 1
  return ⟨domain, finish, offset + headerSize, protocol, .ipv4⟩

/-- The range of an IPv6 datagram. -/
def ipv6Range (domain : UInt64) (offset : Nat) : Run NetworkRange := do
  let header ← need (headerAt packet.bytes offset 40) .invalidPacketBounds
  let first ← load packet.bytes header 1
  check (first / 16 ≠ 6) .invalidPayloadBounds
  let payload ← load packet.bytes (header + 4) 2
  let finish ← need (addSize offset (40 + payload)) .invalidPayloadBounds
  let network := layer.networkLayerIndex.toNat
  validateIpv6Fragments packet layer (layer.layerCount.toNat - (network + 1)) (network + 1)
  let protocol ← load packet.bytes (header + 6) 1
  return ⟨domain, finish, offset + 40, protocol, .ipv6⟩

def networkRange (domain : UInt64) (network : LayerRef) : Run NetworkRange :=
  if network.kind = eLayer.IPv4 then ipv4Range packet domain network.offset.toNat
  else ipv6Range packet layer domain network.offset.toNat

def validateNetworkRange : Run NetworkRange := do
  let domain ← need (lookup.resolve packet.meta_.sourceId) .unknownSourceId
  check (packet.bytes.length ≠ packet.meta_.capturedLen.toNat ∨ packet.bytes.length = 0 ∨
    (packet.meta_.wireLen ≠ 0 ∧ packet.meta_.wireLen < packet.meta_.capturedLen)) .invalidPacketBounds
  validateLayerStatus layer.status
  check (layer.layerCount = 0 ∨ kMaxLayerDepth < layer.layerCount.toNat ∨
    layer.layerCount ≤ layer.networkLayerIndex ∨ layer.endpointScope = .undefined) .invalidLayerSelection
  let network ← layerAt layer layer.networkLayerIndex.toNat
  check (isNetworkLayer network.kind = false) .invalidLayerSelection
  noNetworkLayer layer .ambiguousTunnelContext layer.networkLayerIndex.toNat 0
  let range ← networkRange packet layer domain network
  check (packet.meta_.wireLen ≠ 0 ∧ packet.meta_.wireLen.toNat < range.finish) .invalidPayloadBounds
  return range

end

/-! ## Control packets -/

section

variable (lookup : ObservationDomainLookup) (packet : PacketView) (layer : LayerView)

structure ControlInput where
  observationDomainId : UInt64
  /-- What is written into the layer of the caller. -/
  transportProtocol : Nat
  bodyStart : Nat
  bodySize : Nat
  bodyComplete : Bool

def isExtension (protocol : Nat) : Bool :=
  protocol = 0 || protocol = 43 || protocol = 44 || protocol = 60 || protocol = 51

def extensionKind (protocol : Nat) : UInt16 :=
  if protocol = 0 then eLayer.IPv6_EXT_HOPOPTS
  else if protocol = 43 then eLayer.IPv6_EXT_ROUTING
  else if protocol = 44 then eLayer.IPv6_EXT_FRAGMENT
  else if protocol = 51 then eLayer.IPv6_EXT_AH
  else eLayer.IPv6_EXT_DSTOPTS

def extensionLength (protocol extlen : Nat) : Nat :=
  if protocol = 44 then 8
  else if protocol = 51 then (extlen + 2) * 4
  else (extlen + 1) * 8

/-- A fragment header must be the first. -/
def checkFragment (range : NetworkRange) : Run Unit :=
  if range.protocol = 44 then do
    let fragment ← load packet.bytes (range.body + 2) 2
    check (fragment &&& 0xfff8 ≠ 0) .nonInitialFragment
  else .ok ()

/-- The body of the loop over the extension headers. -/
def stepExtension (range : NetworkRange) (index : Nat) : Run NetworkRange := do
  check (layer.layerCount.toNat ≤ index) .invalidPayloadBounds
  let ref ← layerAt layer index
  check (ref.offset.toNat ≠ range.body ∨ packet.bytes.length < range.body ∨
    packet.bytes.length - range.body < 8 ∨ range.finish < range.body ∨ range.finish - range.body < 8)
    .invalidPayloadBounds
  check (ref.kind ≠ extensionKind range.protocol) .invalidLayerSelection
  let extlen ← load packet.bytes (range.body + 1) 1
  let length := extensionLength range.protocol extlen
  check (range.protocol = 51 ∧ length < 12) .invalidPayloadBounds
  checkFragment packet range
  check (packet.bytes.length - range.body < length ∨ range.finish - range.body < length)
    .invalidPayloadBounds
  let protocol ← load packet.bytes range.body 1
  return { range with protocol := protocol, body := range.body + length }

/-- The loop over the extension headers, cut off after so many turns. -/
def walkExtensions : Nat → NetworkRange → Nat → Run (NetworkRange × Nat)
  | 0, _, _ => .error .cutOff
  | turns + 1, range, index =>
      if isExtension range.protocol then do
        let range ← stepExtension packet layer range index
        walkExtensions turns range (index + 1)
      else .ok (range, index)

/-- The layers behind the body are markers. -/
def onlyMarkers (body : Nat) : Nat → Nat → Run Unit
  | 0, _ => .ok ()
  | left + 1, index => do
      let ref ← layerAt layer index
      check (ref.kind ≠ eLayer.TOP ∨ ref.offset.toNat ≠ body) .invalidLayerSelection
      onlyMarkers body left (index + 1)

def expectedControl : AddressFamily → Nat
  | .ipv4 => 1
  | .ipv6 => 58

def controlBody (turns : Nat) (range : NetworkRange) : Run (NetworkRange × Nat) :=
  if range.family = .ipv6 then
    walkExtensions packet layer turns range (layer.networkLayerIndex.toNat + 1)
  else .ok (range, layer.networkLayerIndex.toNat + 1)

def buildNpmControlInput (turns : Nat) : Run ControlInput := do
  let range ← validateNetworkRange lookup packet layer
  let (range, index) ← controlBody packet layer turns range
  check (range.protocol ≠ expectedControl range.family) .unsupportedTransportProtocol
  check (range.finish < range.body ∨ packet.bytes.length < range.body) .invalidPayloadBounds
  onlyMarkers layer range.body (layer.layerCount.toNat - index) index
  return {
    observationDomainId := range.domain
    transportProtocol := expectedControl range.family
    bodyStart := range.body
    bodySize := min range.finish packet.bytes.length - range.body
    bodyComplete := range.finish ≤ packet.bytes.length }

end

/-! ## Transport -/

structure TcpFacts where
  valid : Bool := false
  syn : Bool := false
  ack : Bool := false
  fin : Bool := false
  rst : Bool := false
  sequence : UInt32 := 0
  acknowledgment : UInt32 := 0
  window : UInt16 := 0
  deriving DecidableEq

/-- Where the payload is, and what the lengths say of it. -/
structure PayloadRange where
  start : Nat
  finish : Nat
  wireBytes : Nat
  tcp : TcpFacts := {}

structure SessionKey (family : AddressFamily) where
  inputNamespace : String
  observationDomainId : UInt64
  transportProtocol : Nat
  aIp : Address family
  bIp : Address family
  aPort : UInt16
  bPort : UInt16
  deriving DecidableEq

/-- `NpmPacketBindingView`. The payload is known by its place in the packet. -/
structure Binding (family : AddressFamily) where
  key : SessionKey family
  direction : PacketDirection
  payloadStart : Nat
  payloadSize : Nat
  payloadWireBytes : UInt32
  payloadCapturedBytes : UInt32
  payloadComplete : Bool
  tcp : TcpFacts
  labelFacts : Labeling.LabelFacts

section

variable (packet : PacketView) (layer : LayerView)

/-- The payload of a segment in a datagram that ends at `finish`. -/
def tcpPayload (finish offset : Nat) : Run PayloadRange := do
  let header ← need (headerAt packet.bytes offset 20) .incompleteTransportHeader
  let dataOffset ← load packet.bytes (header + 12) 1
  check (dataOffset / 16 < 5) .invalidPayloadBounds
  let start ← need (addSize offset (dataOffset / 16 * 4)) .invalidPayloadBounds
  check (packet.bytes.length < start) .incompleteTransportHeader
  check (finish < start) .invalidPayloadBounds
  let flags ← load packet.bytes (header + 13) 1
  let sequence ← load packet.bytes (header + 4) 4
  let acknowledgment ← load packet.bytes (header + 8) 4
  let window ← load packet.bytes (header + 14) 2
  return {
    start := start
    finish := min finish packet.bytes.length
    wireBytes := finish - start
    tcp := {
      valid := true
      syn := flags.testBit 1
      ack := flags.testBit 4
      fin := flags.testBit 0
      rst := flags.testBit 2
      sequence := UInt32.ofNat sequence
      acknowledgment := UInt32.ofNat acknowledgment
      window := UInt16.ofNat window } }

def udpPayload (finish offset : Nat) : Run PayloadRange := do
  let header ← need (headerAt packet.bytes offset 8) .incompleteTransportHeader
  let length ← load packet.bytes (header + 4) 2
  check (length < 8) .invalidPayloadBounds
  let udpEnd ← need (addSize offset length) .invalidPayloadBounds
  check (finish < udpEnd) .invalidPayloadBounds
  return {
    start := offset + 8
    finish := min udpEnd packet.bytes.length
    wireBytes := udpEnd - (offset + 8) }

def expectedProtocol (kind : UInt16) : Nat :=
  if kind = eLayer.TCP then 6 else if kind = eLayer.UDP then 17 else 0

def payloadRange (kind : UInt16) (finish offset : Nat) : Run PayloadRange :=
  if kind = eLayer.TCP then tcpPayload packet finish offset else udpPayload packet finish offset

/-- The middle of `BuildNpmSessionPacketBinding`: the selected transport layer and its payload. -/
def transportPayload (range : NetworkRange) : Run (Nat × PayloadRange) := do
  let network ← layerAt layer layer.networkLayerIndex.toNat
  check (layer.layerCount ≤ layer.transportLayerIndex ∨
    layer.transportLayerIndex ≤ layer.networkLayerIndex) .invalidLayerSelection
  noNetworkLayer layer .invalidLayerSelection
    (layer.transportLayerIndex.toNat - (layer.networkLayerIndex.toNat + 1))
    (layer.networkLayerIndex.toNat + 1)
  let transport ← layerAt layer layer.transportLayerIndex.toNat
  let expected := expectedProtocol transport.kind
  check (expected = 0 ∨ layer.transportProtocol.toNat ≠ expected) .unsupportedTransportProtocol
  check (layer.portsValid = false) .incompleteEndpoint
  check (layer.addressState ≠ .available ∨ layer.get range.family = none) .incompleteEndpoint
  check (transport.offset < network.offset ∨ range.finish ≤ transport.offset.toNat)
    .invalidPayloadBounds
  let payload ← payloadRange packet transport.kind range.finish transport.offset.toNat
  check (layer.payloadOffset.toNat ≠ payload.start ∨ payload.finish < payload.start)
    .invalidPayloadBounds
  return (expected, payload)

/-! ## Labels -/

/-- `PopulateLabelEndpoint`. -/
def labelEndpoint {family : AddressFamily} (mac : Vector UInt8 6) (macValid : Bool)
    (ip : Address family) (port : UInt16) : Labeling.EndpointFacts where
  mac := if macValid then BitVec.ofNat 48 (Library.BigEndian.get mac.toList) else 0
  macValid := macValid
  ip := some (BitVec.ofNat 128
    (Library.BigEndian.get ip.toList * 256 ^ (AddressFamily.ipv6.octets - family.octets)))
  ipValid := true
  port := BitVec.ofNat 16 port.toNat
  portValid := true

/-- The type behind the addresses of the layer before a tag. -/
def vlanTpid (index : Nat) : Run Nat :=
  if index = 0 then .ok 0
  else do
    let previous ← layerAt layer (index - 1)
    if previous.kind = eLayer.ETHERNET then
      match headerAt packet.bytes previous.offset.toNat 14 with
      | some header => load packet.bytes (header + 12) 2
      | none => .ok 0
    else if previous.kind = eLayer.VLAN then
      match headerAt packet.bytes previous.offset.toNat 4 with
      | some header => load packet.bytes (header + 2) 2
      | none => .ok 0
    else .ok 0

/-- The tags of the layers that are left, for so many places. -/
def labelVlans : Nat → Nat → Nat → Run (List Labeling.VlanFacts)
  | 0, _, _ => .ok []
  | _ + 1, _, 0 => .ok []
  | left + 1, index, places + 1 => do
      let ref ← layerAt layer index
      if ref.kind ≠ eLayer.VLAN then labelVlans left (index + 1) (places + 1)
      else
        let tpid ← vlanTpid packet layer index
        match headerAt packet.bytes ref.offset.toNat 4 with
        | none => labelVlans left (index + 1) (places + 1)
        | some header =>
            if tpid = 0 then labelVlans left (index + 1) (places + 1)
            else
              let tci ← load packet.bytes header 2
              let rest ← labelVlans left (index + 1) places
              return { tpid := BitVec.ofNat 16 tpid, vid := BitVec.ofNat 16 (tci &&& 0x0fff)
                       valid := true } :: rest

end

/-! ## Keys -/

/-- `std::memcmp` of equally long arrays. -/
def memcmp : List UInt8 → List UInt8 → Int
  | left :: lefts, right :: rights =>
      if left = right then memcmp lefts rights else (left.toNat : Int) - right.toNat
  | _, _ => 0

section

variable {family : AddressFamily} (endpoints : IpEndpoints family) (layer : LayerView)

/-- The source is the first endpoint of the session. -/
def isForward : Bool :=
  let order := memcmp endpoints.src.toList endpoints.dst.toList
  order < 0 || (order = 0 && layer.srcPort ≤ layer.dstPort)

/-- The endpoints in their order. -/
def normalizedKey (inputNamespace : String) (domain : UInt64) (protocol : Nat) : SessionKey family :=
  let forward := isForward endpoints layer
  { inputNamespace := inputNamespace
    observationDomainId := domain
    transportProtocol := protocol
    aIp := if forward then endpoints.src else endpoints.dst
    bIp := if forward then endpoints.dst else endpoints.src
    aPort := if forward then layer.srcPort else layer.dstPort
    bPort := if forward then layer.dstPort else layer.srcPort }

end

variable (family : AddressFamily) (lookup : ObservationDomainLookup) (packet : PacketView)
  (layer : LayerView)

/-- What is built of a packet that is accepted. -/
def makeBinding (domain : UInt64) (rangeFamily : AddressFamily) (protocol : Nat)
    (payload : PayloadRange) (endpoints : IpEndpoints family) (vlans : List Labeling.VlanFacts) :
    Binding family :=
  { key := normalizedKey endpoints layer lookup.inputNamespace domain protocol
    direction := if isForward endpoints layer then .aToB else .bToA
    payloadStart := payload.start
    payloadSize := payload.finish - payload.start
    payloadWireBytes := UInt32.ofNat payload.wireBytes
    payloadCapturedBytes := UInt32.ofNat (payload.finish - payload.start)
    payloadComplete := payload.finish - payload.start = payload.wireBytes
    tcp := payload.tcp
    labelFacts := {
      observationDomainId := BitVec.ofNat 64 domain.toNat
      ipFamily := BitVec.ofNat 8 rangeFamily.code
      transportProtocol := BitVec.ofNat 8 protocol
      transportValid := true
      source := labelEndpoint layer.srcMac layer.srcMacValid endpoints.src layer.srcPort
      destination := labelEndpoint layer.dstMac layer.dstMacValid endpoints.dst layer.dstPort
      outerVlan := vlans.head?.getD {}
      innerVlan := vlans.tail.head?.getD {} } }

/-- `BuildNpmSessionPacketBinding` for the keys of one family. -/
def buildNpmSessionPacketBinding : Run (Binding family) := do
  let range ← validateNetworkRange lookup packet layer
  let (protocol, payload) ← transportPayload packet layer range
  let endpoints ← need (layer.get family) .incompleteEndpoint
  let vlans ← labelVlans packet layer layer.networkLayerIndex.toNat 0 2
  return makeBinding family lookup layer range.domain range.family protocol payload endpoints vlans

end Flowsql.Npm.Keys
