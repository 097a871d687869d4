import Flowsql.Npm.SessionKeys
import Mathlib

/-!
# Payloads and keys of accepted packets

No run reads outside of the packet or the layers. A payload lies inside of the capture and the datagram, and
the key depends on the two endpoints without their order.
-/

namespace Flowsql.Npm.Keys

open Flowsql.Library Flowsql.Library.CheckedReads

section

variable {layer : LayerView}

theorem addSize_eq_some {left right total : Nat} (added : addSize left right = some total) :
    total = left + right := by
  unfold addSize at added
  split at added
  · cases added
  · exact (Option.some.inj added).symm

theorem layerAt_meets {index : Nat} (below : index < kMaxLayerDepth) :
    Meets (layerAt layer index) (layer.layers.toList[index]? = some ·) :=
  Meets.element (by rwa [Vector.length_toList])

theorem noNetworkLayer_meets {error : SessionPacketError} {left index : Nat}
    (within : index + left ≤ kMaxLayerDepth) :
    Meets (noNetworkLayer layer error left index) fun _ => True := by
  induction left generalizing index with
  | zero => trivial
  | succ left ih =>
      rw [noNetworkLayer]
      refine (layerAt_meets (by omega)).bind fun ref _ _ => ?_
      refine (Meets.check _ _).bind fun _ _ _ => ?_
      exact ih (by omega)

theorem validateLayerStatus_meets (status : LayerStatus) :
    Meets (validateLayerStatus status) fun _ => True := by
  cases status <;> trivial

theorem onlyMarkers_meets {body left index : Nat} (within : index + left ≤ kMaxLayerDepth) :
    Meets (onlyMarkers layer body left index) fun _ => True := by
  induction left generalizing index with
  | zero => trivial
  | succ left ih =>
      rw [onlyMarkers]
      refine (layerAt_meets (by omega)).bind fun ref _ _ => ?_
      refine (Meets.check _ _).bind fun _ _ _ => ?_
      exact ih (by omega)

theorem validateIpv6Fragments_meets {packet : PacketView} {left index : Nat}
    (within : index + left ≤ kMaxLayerDepth) :
    Meets (validateIpv6Fragments packet layer left index) fun _ => True := by
  induction left generalizing index with
  | zero => trivial
  | succ left ih =>
      rw [validateIpv6Fragments]
      refine (layerAt_meets (by omega)).bind fun ref _ _ => ?_
      split
      · trivial
      · split
        · exact ih (by omega)
        · refine (Meets.header ..).bind fun header _ inside => ?_
          refine (Meets.load (by omega)).bind fun fragment _ _ => ?_
          refine (Meets.check _ _).bind fun _ _ _ => ?_
          exact ih (by omega)

end

/-! ## The network layer -/

/-- Where the datagram ends that the network layer declares. -/
def datagramEnd (bytes : List UInt8) (network : LayerRef) : Nat :=
  if network.kind = eLayer.IPv4 then network.offset.toNat + fieldAt bytes (network.offset.toNat + 2) 2
  else network.offset.toNat + (40 + fieldAt bytes (network.offset.toNat + 4) 2)

/-- The range of a datagram. -/
structure RangeWell (bytes : List UInt8) (domain : UInt64) (network : LayerRef)
    (range : NetworkRange) : Prop where
  domain : range.domain = domain
  finish : range.finish = datagramEnd bytes network
  start : network.offset.toNat ≤ range.body
  captured : range.body ≤ bytes.length
  body : range.body ≤ range.finish

/-- The layers of a packet whose network layer is accepted. -/
structure LayersWell (packet : PacketView) (layer : LayerView) : Prop where
  captured : packet.bytes.length = packet.meta_.capturedLen.toNat
  depth : layer.layerCount.toNat ≤ kMaxLayerDepth
  network : layer.networkLayerIndex.toNat < layer.layerCount.toNat

section

variable {packet : PacketView} {layer : LayerView} {domain : UInt64} {network : LayerRef}

theorem ipv4Range_meets (kind : network.kind = eLayer.IPv4) :
    Meets (ipv4Range packet domain network.offset.toNat) (RangeWell packet.bytes domain network) := by
  unfold ipv4Range
  refine (Meets.header ..).bind fun header _ ⟨same, inside⟩ => ?_
  subst same
  refine (Meets.load (by omega)).bind fun first _ _ => ?_
  refine (Meets.check _ _).bind fun _ _ _ => ?_
  refine (Meets.check _ _).bind fun _ _ fits => ?_
  refine (Meets.load (by omega)).bind fun total _ length => ?_
  refine (Meets.check _ _).bind fun _ _ covers => ?_
  refine (Meets.need _ _).bind fun finish _ added => ?_
  refine (Meets.load (by omega)).bind fun fragment _ _ => ?_
  refine (Meets.check _ _).bind fun _ _ _ => ?_
  refine (Meets.load (by omega)).bind fun protocol _ _ => ?_
  have ends := addSize_eq_some added
  refine Meets.pure ⟨rfl, ?_, Nat.le_add_right _ _, ?_, ?_⟩
  · rw [datagramEnd, if_pos kind, ← length]
    exact ends
  · change network.offset.toNat + _ ≤ packet.bytes.length
    omega
  · change network.offset.toNat + _ ≤ finish
    omega

theorem ipv6Range_meets (kind : network.kind ≠ eLayer.IPv4) (well : LayersWell packet layer) :
    Meets (ipv6Range packet layer domain network.offset.toNat) (RangeWell packet.bytes domain network) := by
  obtain ⟨-, depth, index⟩ := well
  unfold ipv6Range
  refine (Meets.header ..).bind fun header _ ⟨same, inside⟩ => ?_
  subst same
  refine (Meets.load (by omega)).bind fun first _ _ => ?_
  refine (Meets.check _ _).bind fun _ _ _ => ?_
  refine (Meets.load (by omega)).bind fun payload _ length => ?_
  refine (Meets.need _ _).bind fun finish _ added => ?_
  refine (validateIpv6Fragments_meets (by omega)).bind fun _ _ _ => ?_
  refine (Meets.load (by omega)).bind fun protocol _ _ => ?_
  have ends := addSize_eq_some added
  refine Meets.pure ⟨rfl, ?_, Nat.le_add_right _ _, inside, ?_⟩
  · rw [datagramEnd, if_neg kind, ← length]
    exact ends
  · change network.offset.toNat + 40 ≤ finish
    omega

theorem networkRange_meets (well : LayersWell packet layer) :
    Meets (networkRange packet layer domain network) (RangeWell packet.bytes domain network) := by
  unfold networkRange
  split
  · exact ipv4Range_meets ‹_›
  · exact ipv6Range_meets ‹_› well

/-- An accepted network layer. -/
theorem validateNetworkRange_meets (lookup : ObservationDomainLookup) (packet : PacketView)
    (layer : LayerView) :
    Meets (validateNetworkRange lookup packet layer) fun range => LayersWell packet layer ∧
      ∃ domain network, lookup.resolve packet.meta_.sourceId = some domain ∧
        layer.layers.toList[layer.networkLayerIndex.toNat]? = some network ∧
        RangeWell packet.bytes domain network range := by
  unfold validateNetworkRange
  refine (Meets.need _ _).bind fun domain _ resolved => ?_
  refine (Meets.check _ _).bind fun _ _ bounds => ?_
  refine (validateLayerStatus_meets _).bind fun _ _ _ => ?_
  refine (Meets.check _ _).bind fun _ _ selected => ?_
  have well : LayersWell packet layer := by
    refine ⟨not_not.mp fun wrong => bounds (.inl wrong),
      Nat.not_lt.mp fun wrong => selected (.inr (.inl wrong)), ?_⟩
    exact Nat.not_le.mp fun wrong => selected (.inr (.inr (.inl (UInt8.le_iff_toNat_le.mpr wrong))))
  have depth := well.depth
  have index := well.network
  refine (layerAt_meets (by omega)).bind fun network _ found => ?_
  refine (Meets.check _ _).bind fun _ _ _ => ?_
  refine (noNetworkLayer_meets (by omega)).bind fun _ _ _ => ?_
  refine (networkRange_meets well).bind fun range _ fits => ?_
  refine (Meets.check _ _).bind fun _ _ _ => ?_
  exact Meets.pure ⟨well, domain, network, resolved, found, fits⟩

end

/-! ## Control packets -/

section

variable {packet : PacketView} {layer : LayerView}

/-- What the loop over the extension headers keeps. -/
structure BodyWell (bytes : List UInt8) (range : NetworkRange) : Prop where
  captured : range.body ≤ bytes.length
  finish : range.body ≤ range.finish

/-- One extension header moves the body on, and there was a layer for it. -/
theorem stepExtension_meets {range : NetworkRange} {index : Nat} (well : LayersWell packet layer) :
    Meets (stepExtension packet layer range index) fun after =>
      index < layer.layerCount.toNat ∧ BodyWell packet.bytes after := by
  have depth := well.depth
  unfold stepExtension
  refine (Meets.check _ _).bind fun _ _ left => ?_
  refine (layerAt_meets (by omega)).bind fun ref _ _ => ?_
  refine (Meets.check _ _).bind fun _ _ bounds => ?_
  refine (Meets.check _ _).bind fun _ _ _ => ?_
  refine (Meets.load (by omega)).bind fun extlen _ _ => ?_
  refine (Meets.check _ _).bind fun _ _ _ => ?_
  have fragment : Meets (checkFragment packet range) fun _ => True := by
    unfold checkFragment
    split
    · refine (Meets.load (by omega)).bind fun fragment _ _ => ?_
      exact (Meets.check _ _).imp fun _ _ => trivial
    · trivial
  refine fragment.bind fun _ _ _ => ?_
  refine (Meets.check _ _).bind fun _ _ fits => ?_
  refine (Meets.load (by omega)).bind fun protocol _ _ => ?_
  refine Meets.pure ⟨Nat.not_le.mp left, ?_, ?_⟩
  · change range.body + _ ≤ packet.bytes.length
    omega
  · change range.body + _ ≤ range.finish
    omega

/-- The loop ends within as many turns as there are layers. -/
theorem walkExtensions_meets {turns : Nat} {range : NetworkRange} {index : Nat}
    (well : LayersWell packet layer) (body : BodyWell packet.bytes range)
    (within : index ≤ layer.layerCount.toNat) (enough : layer.layerCount.toNat < index + turns) :
    Meets (walkExtensions packet layer turns range index) fun after =>
      index ≤ after.2 ∧ BodyWell packet.bytes after.1 := by
  induction turns generalizing range index with
  | zero => omega
  | succ turns ih =>
      rw [walkExtensions]
      split
      · refine (stepExtension_meets well).bind fun after _ ⟨below, body⟩ => ?_
        exact (ih body below (by omega)).imp fun _ ⟨behind, body⟩ => ⟨by omega, body⟩
      · exact ⟨Nat.le_refl _, body⟩

/-- The body of a control packet. -/
def ControlWell (bytes : List UInt8) (input : ControlInput) : Prop :=
  input.bodyStart + input.bodySize ≤ bytes.length

/-- The walk ends, and the body is captured. -/
theorem buildNpmControlInput_meets (lookup : ObservationDomainLookup) (packet : PacketView)
    (layer : LayerView) {turns : Nat} (enough : kMaxLayerDepth < turns) :
    Meets (buildNpmControlInput lookup packet layer turns) (ControlWell packet.bytes) := by
  unfold buildNpmControlInput
  refine (validateNetworkRange_meets lookup packet layer).bind
    fun range _ ⟨well, domain, network, _, _, fits⟩ => ?_
  have depth := well.depth
  have index := well.network
  have walked : Meets (controlBody packet layer turns range) fun after =>
      layer.networkLayerIndex.toNat + 1 ≤ after.2 ∧ BodyWell packet.bytes after.1 := by
    unfold controlBody
    split
    · exact walkExtensions_meets well ⟨fits.captured, fits.body⟩ index (by omega)
    · exact ⟨Nat.le_refl _, fits.captured, fits.body⟩
  refine walked.bind fun ⟨after, next⟩ _ ⟨behind, body⟩ => ?_
  refine (Meets.check _ _).bind fun _ _ _ => ?_
  refine (Meets.check _ _).bind fun _ _ bounds => ?_
  have markers : Meets (onlyMarkers layer after.body (layer.layerCount.toNat - next) next)
      fun _ => True := by
    by_cases some : next < layer.layerCount.toNat
    · exact onlyMarkers_meets (by omega)
    · rw [Nat.sub_eq_zero_of_le (Nat.not_lt.mp some)]
      trivial
  refine markers.bind fun _ _ _ => ?_
  refine Meets.pure ?_
  change after.body + (min after.finish packet.bytes.length - after.body) ≤ packet.bytes.length
  have captured := body.captured
  dsimp only at captured
  omega

end

/-! ## Payloads -/

/-- Where the header of the transport layer declares its end. -/
def headerEnd (bytes : List UInt8) (transport : LayerRef) : Nat :=
  if transport.kind = eLayer.TCP then
    transport.offset.toNat + fieldAt bytes (transport.offset.toNat + 12) 1 / 16 * 4
  else transport.offset.toNat + 8

/-- Where the payload ends by the declared lengths. -/
def payloadEnd (bytes : List UInt8) (network transport : LayerRef) : Nat :=
  if transport.kind = eLayer.TCP then datagramEnd bytes network
  else transport.offset.toNat + fieldAt bytes (transport.offset.toNat + 4) 2

/-- A payload range by the declared lengths. -/
structure PayloadWell (bytes : List UInt8) (network transport : LayerRef) (payload : PayloadRange) :
    Prop where
  start : payload.start = headerEnd bytes transport
  finish : payload.finish = min (payloadEnd bytes network transport) bytes.length
  wireBytes : payload.start + payload.wireBytes = payloadEnd bytes network transport
  captured : payload.start ≤ bytes.length
  datagram : payloadEnd bytes network transport ≤ datagramEnd bytes network

section

variable {packet : PacketView} {layer : LayerView} {network transport : LayerRef} {finish : Nat}

theorem tcpPayload_meets (kind : transport.kind = eLayer.TCP)
    (ends : finish = datagramEnd packet.bytes network) :
    Meets (tcpPayload packet finish transport.offset.toNat)
      (PayloadWell packet.bytes network transport) := by
  unfold tcpPayload
  refine (Meets.header ..).bind fun header _ ⟨same, inside⟩ => ?_
  subst same
  refine (Meets.load (by omega)).bind fun dataOffset _ words => ?_
  refine (Meets.check _ _).bind fun _ _ _ => ?_
  refine (Meets.need _ _).bind fun start _ added => ?_
  refine (Meets.check _ _).bind fun _ _ captured => ?_
  refine (Meets.check _ _).bind fun _ _ fits => ?_
  refine (Meets.load (by omega)).bind fun flags _ _ => ?_
  refine (Meets.load (by omega)).bind fun sequence _ _ => ?_
  refine (Meets.load (by omega)).bind fun acknowledgment _ _ => ?_
  refine (Meets.load (by omega)).bind fun window _ _ => ?_
  have last : payloadEnd packet.bytes network transport = finish := by
    rw [payloadEnd, if_pos kind, ends]
  refine Meets.pure ⟨?_, ?_, ?_, Nat.not_lt.mp captured, ?_⟩
  · rw [headerEnd, if_pos kind, ← words]
    exact addSize_eq_some added
  · rw [last]
  · rw [last]
    exact Nat.add_sub_of_le (Nat.not_lt.mp fits)
  · rw [last, ends]

theorem udpPayload_meets (kind : transport.kind ≠ eLayer.TCP)
    (ends : finish = datagramEnd packet.bytes network) :
    Meets (udpPayload packet finish transport.offset.toNat)
      (PayloadWell packet.bytes network transport) := by
  unfold udpPayload
  refine (Meets.header ..).bind fun header _ ⟨same, inside⟩ => ?_
  subst same
  refine (Meets.load (by omega)).bind fun length _ declared => ?_
  refine (Meets.check _ _).bind fun _ _ covers => ?_
  refine (Meets.need _ _).bind fun udpEnd _ added => ?_
  refine (Meets.check _ _).bind fun _ _ fits => ?_
  have stops := addSize_eq_some added
  have last : payloadEnd packet.bytes network transport = udpEnd := by
    rw [payloadEnd, if_neg kind, ← declared, stops]
  refine Meets.pure ⟨?_, ?_, ?_, inside, ?_⟩
  · rw [headerEnd, if_neg kind]
  · rw [last]
  · rw [last]
    exact Nat.add_sub_of_le (show transport.offset.toNat + 8 ≤ udpEnd by omega)
  · rw [last, ← ends]
    exact Nat.not_lt.mp fits

theorem payloadRange_meets (ends : finish = datagramEnd packet.bytes network) :
    Meets (payloadRange packet transport.kind finish transport.offset.toNat)
      (PayloadWell packet.bytes network transport) := by
  unfold payloadRange
  split
  · exact tcpPayload_meets ‹_› ends
  · exact udpPayload_meets ‹_› ends

/-- An accepted transport layer. -/
theorem transportPayload_meets {range : NetworkRange} {domain : UInt64}
    (well : LayersWell packet layer)
    (found : layer.layers.toList[layer.networkLayerIndex.toNat]? = some network)
    (fits : RangeWell packet.bytes domain network range) :
    Meets (transportPayload packet layer range) fun result =>
      result.1 = layer.transportProtocol.toNat ∧ result.2.start ≤ result.2.finish ∧
      ∃ transport, layer.layers.toList[layer.transportLayerIndex.toNat]? = some transport ∧
        network.offset ≤ transport.offset ∧
        PayloadWell packet.bytes network transport result.2 := by
  have depth := well.depth
  have index := well.network
  unfold transportPayload
  refine (layerAt_meets (by omega)).bind fun network' _ again => ?_
  obtain rfl := Option.some.inj (found.symm.trans again)
  refine (Meets.check _ _).bind fun _ _ selected => ?_
  rw [not_or, UInt8.not_le, UInt8.not_le, UInt8.lt_iff_toNat_lt, UInt8.lt_iff_toNat_lt] at selected
  refine (noNetworkLayer_meets (by omega)).bind fun _ _ _ => ?_
  refine (layerAt_meets (by omega)).bind fun transport _ present => ?_
  refine (Meets.check _ _).bind fun _ _ expected => ?_
  refine (Meets.check _ _).bind fun _ _ _ => ?_
  refine (Meets.check _ _).bind fun _ _ _ => ?_
  refine (Meets.check _ _).bind fun _ _ inside => ?_
  refine (payloadRange_meets fits.finish).bind fun payload _ placed => ?_
  refine (Meets.check _ _).bind fun _ _ ordered => ?_
  refine Meets.pure ⟨?_, Nat.not_lt.mp fun wrong => ordered (.inr wrong), transport, present, ?_, placed⟩
  · exact (not_not.mp fun wrong => expected (.inr wrong)).symm
  · exact UInt32.not_lt.mp fun wrong => inside (.inl wrong)

/-! ## Labels -/

theorem vlanTpid_meets {index : Nat} (below : index < kMaxLayerDepth) :
    Meets (vlanTpid packet layer index) fun _ => True := by
  have read : ∀ offset size place header, headerAt packet.bytes offset size = some header →
      place + 2 ≤ size → Meets (load packet.bytes (header + place) 2 : Run Nat) fun _ => True := by
    intro offset size place header found within
    obtain ⟨rfl, inside⟩ := headerAt_eq_some.mp found
    exact (Meets.load (by omega)).imp fun _ _ => trivial
  unfold vlanTpid
  split
  · trivial
  · refine (layerAt_meets (by omega)).bind fun previous _ _ => ?_
    split
    · split
      · exact read _ 14 12 _ ‹_› (by omega)
      · trivial
    · split
      · split
        · exact read _ 4 2 _ ‹_› (by omega)
        · trivial
      · trivial

theorem labelVlans_meets {left index places : Nat} (within : index + left ≤ kMaxLayerDepth) :
    Meets (labelVlans packet layer left index places) fun _ => True := by
  induction left generalizing index places with
  | zero => trivial
  | succ left ih =>
      cases places with
      | zero => trivial
      | succ places =>
          rw [labelVlans]
          refine (layerAt_meets (by omega)).bind fun ref _ _ => ?_
          split
          · exact ih (by omega)
          · refine (vlanTpid_meets (by omega)).bind fun tpid _ _ => ?_
            split
            · exact ih (by omega)
            · rename_i header found
              obtain ⟨rfl, inside⟩ := headerAt_eq_some.mp found
              split
              · exact ih (by omega)
              · refine (Meets.load (by omega)).bind fun tci _ _ => ?_
                refine (ih (by omega)).bind fun rest _ _ => ?_
                trivial

end

/-! ## Bindings -/

section

variable {family : AddressFamily}

/-- The payload of a binding, by the lengths in the packet and the capture. -/
structure BindingWell (packet : PacketView) (layer : LayerView) (network transport : LayerRef)
    (binding : Binding family) : Prop where
  networkLayer : layer.layers.toList[layer.networkLayerIndex.toNat]? = some network
  transportLayer : layer.layers.toList[layer.transportLayerIndex.toNat]? = some transport
  start : binding.payloadStart = headerEnd packet.bytes transport
  captured : binding.payloadStart + binding.payloadSize ≤ packet.bytes.length
  datagram : network.offset.toNat ≤ binding.payloadStart ∧
    binding.payloadStart + binding.payloadSize ≤ datagramEnd packet.bytes network
  wireBytes : binding.payloadStart + binding.payloadWireBytes.toNat =
    payloadEnd packet.bytes network transport
  declared : payloadEnd packet.bytes network transport ≤ datagramEnd packet.bytes network
  capturedBytes : binding.payloadCapturedBytes.toNat = binding.payloadSize
  complete : binding.payloadComplete = true ↔
    payloadEnd packet.bytes network transport ≤ packet.bytes.length
  size : binding.payloadSize =
    min (payloadEnd packet.bytes network transport) packet.bytes.length - binding.payloadStart

/-- The session of a binding, by the endpoints of the packet. -/
structure SessionWell (lookup : ObservationDomainLookup) (packet : PacketView) (layer : LayerView)
    (domain : UInt64) (endpoints : IpEndpoints family) (binding : Binding family) : Prop where
  resolved : lookup.resolve packet.meta_.sourceId = some domain
  named : layer.get family = some endpoints
  key : binding.key = normalizedKey endpoints layer lookup.inputNamespace domain
    layer.transportProtocol.toNat
  direction : binding.direction = if isForward endpoints layer then .aToB else .bToA

theorem datagramEnd_lt (bytes : List UInt8) (network : LayerRef) :
    datagramEnd bytes network ≤ network.offset.toNat + 65575 := by
  have total := fieldAt_lt bytes (network.offset.toNat + 2) 2
  have payload := fieldAt_lt bytes (network.offset.toNat + 4) 2
  unfold datagramEnd
  split <;> omega

/-- A binding of an accepted packet. -/
theorem buildNpmSessionPacketBinding_meets (lookup : ObservationDomainLookup) (packet : PacketView)
    (layer : LayerView) :
    Meets (buildNpmSessionPacketBinding family lookup packet layer) fun binding =>
      (∃ network transport, BindingWell packet layer network transport binding) ∧
      ∃ domain endpoints, SessionWell lookup packet layer domain endpoints binding := by
  unfold buildNpmSessionPacketBinding
  refine (validateNetworkRange_meets lookup packet layer).bind
    fun range _ ⟨well, domain, network, resolved, found, fits⟩ => ?_
  have depth := well.depth
  have index := well.network
  refine (transportPayload_meets well found fits).bind
    fun ⟨protocol, payload⟩ _ ⟨same, ordered, transport, present, behind, placed⟩ => ?_
  refine (Meets.need _ _).bind fun endpoints _ named => ?_
  refine (labelVlans_meets (by omega)).bind fun vlans _ _ => ?_
  obtain ⟨start, finish, wire, captured, declared⟩ := placed
  have small := datagramEnd_lt packet.bytes network
  have inside : network.offset.toNat ≤ headerEnd packet.bytes transport := by
    have := UInt32.le_iff_toNat_le.mp behind
    unfold headerEnd
    split <;> omega
  dsimp only at same ordered start finish wire captured
  have exact32 : ∀ count, count ≤ payload.wireBytes → (UInt32.ofNat count).toNat = count := by
    intro count below
    exact UInt32.toNat_ofNat_of_lt' (by show count < 2 ^ 32; omega)
  refine Meets.pure ⟨⟨network, transport, found, present, start, ?_, ⟨?_, ?_⟩, ?_, declared, ?_, ?_, ?_⟩,
    range.domain, endpoints, fits.domain ▸ resolved, named, ?_, rfl⟩
  · change payload.start + (payload.finish - payload.start) ≤ packet.bytes.length
    omega
  · exact inside.trans_eq start.symm
  · change payload.start + (payload.finish - payload.start) ≤ _
    omega
  · change payload.start + (UInt32.ofNat payload.wireBytes).toNat = _
    rw [exact32 _ (Nat.le_refl _), wire]
  · exact exact32 _ (by omega)
  · refine decide_eq_true_iff.trans ?_
    omega
  · change payload.finish - payload.start = _ - payload.start
    rw [finish]
  · rw [← same]
    rfl

end

/-! ## The order of endpoints -/

theorem memcmp_swap (lefts rights : List UInt8) : memcmp rights lefts = -memcmp lefts rights := by
  induction lefts generalizing rights with
  | nil => cases rights <;> rfl
  | cons left lefts ih =>
      cases rights with
      | nil => rfl
      | cons right rights =>
          rw [memcmp, memcmp]
          by_cases same : left = right
          · rw [if_pos same, if_pos same.symm, ih]
          · rw [if_neg same, if_neg (Ne.symm same)]
            omega

theorem memcmp_eq_zero {lefts rights : List UInt8} (length : lefts.length = rights.length) :
    memcmp lefts rights = 0 ↔ lefts = rights := by
  induction lefts generalizing rights with
  | nil =>
      obtain rfl := List.length_eq_zero_iff.mp length.symm
      exact ⟨fun _ => rfl, fun _ => rfl⟩
  | cons left lefts ih =>
      cases rights with
      | nil => cases length
      | cons right rights =>
          rw [memcmp, List.cons.injEq]
          split
          · rename_i same
            rw [ih (Nat.succ.inj length)]
            exact ⟨fun rest => ⟨same, rest⟩, And.right⟩
          · rename_i different
            refine ⟨fun zero => absurd (UInt8.toNat_inj.mp ?_) different, fun both => absurd both.1 different⟩
            omega

section

variable {family : AddressFamily}

def IpEndpoints.swap (endpoints : IpEndpoints family) : IpEndpoints family :=
  ⟨endpoints.dst, endpoints.src⟩

/-- The layers of the packet in the other direction. -/
def LayerView.exchange (layer : LayerView) : LayerView :=
  { layer with
    srcMac := layer.dstMac, dstMac := layer.srcMac
    srcMacValid := layer.dstMacValid, dstMacValid := layer.srcMacValid
    srcPort := layer.dstPort, dstPort := layer.srcPort
    endpoints := layer.endpoints.map fun own => ⟨own.1, own.2.swap⟩ }

/-- The two endpoints are equal. -/
def SameEndpoints (endpoints : IpEndpoints family) (layer : LayerView) : Prop :=
  endpoints.src = endpoints.dst ∧ layer.srcPort = layer.dstPort

theorem memcmp_addresses {endpoints : IpEndpoints family} :
    memcmp endpoints.src.toList endpoints.dst.toList = 0 ↔ endpoints.src = endpoints.dst := by
  rw [memcmp_eq_zero (by rw [Vector.length_toList, Vector.length_toList]), Vector.toList_inj]

/-- Of two different endpoints, one is the first in both directions. -/
theorem isForward_exchange (endpoints : IpEndpoints family) (layer : LayerView) :
    (SameEndpoints endpoints layer ∧ isForward endpoints layer = true ∧
      isForward endpoints.swap layer.exchange = true) ∨
    (¬ SameEndpoints endpoints layer ∧
      isForward endpoints.swap layer.exchange = !isForward endpoints layer) := by
  have swapped := memcmp_swap endpoints.src.toList endpoints.dst.toList
  have equal := @memcmp_addresses family endpoints
  have forward : isForward endpoints.swap layer.exchange =
      (decide (memcmp endpoints.dst.toList endpoints.src.toList < 0) ||
        (decide (memcmp endpoints.dst.toList endpoints.src.toList = 0) &&
          decide (layer.dstPort ≤ layer.srcPort))) := rfl
  have ports : layer.srcPort = layer.dstPort ↔ layer.srcPort.toNat = layer.dstPort.toNat :=
    UInt16.toNat_inj.symm
  rw [forward, swapped]
  unfold isForward SameEndpoints
  rw [← equal, ports]
  simp only [UInt16.le_iff_toNat_le]
  generalize memcmp endpoints.src.toList endpoints.dst.toList = order
  by_cases addresses : order = 0
  · subst addresses
    by_cases same : layer.srcPort.toNat = layer.dstPort.toNat
    · exact .inl ⟨⟨rfl, same⟩, by simp [same], by simp [same]⟩
    · refine .inr ⟨fun both => same both.2, ?_⟩
      by_cases below : layer.srcPort.toNat ≤ layer.dstPort.toNat
      · simp [below, show ¬ layer.dstPort.toNat ≤ layer.srcPort.toNat by omega]
      · simp [below, show layer.dstPort.toNat ≤ layer.srcPort.toNat by omega]
  · refine .inr ⟨fun both => addresses both.1, ?_⟩
    by_cases below : order < 0
    · simp [below, addresses]
      omega
    · simp [below, addresses]
      omega

/-- The key is the same in both directions. -/
theorem normalizedKey_exchange (endpoints : IpEndpoints family) (layer : LayerView)
    (inputNamespace : String) (domain : UInt64) (protocol : Nat) :
    normalizedKey endpoints.swap layer.exchange inputNamespace domain protocol =
      normalizedKey endpoints layer inputNamespace domain protocol := by
  unfold normalizedKey
  rcases isForward_exchange endpoints layer with ⟨⟨addresses, ports⟩, forward, other⟩ | ⟨-, other⟩
  · simp only [forward, other, if_true]
    change SessionKey.mk _ _ _ endpoints.dst endpoints.src layer.dstPort layer.srcPort = _
    rw [addresses, ports]
  · rw [other]
    cases isForward endpoints layer <;> rfl

/-- The endpoints of a packet, without their order. -/
def endpointPair (endpoints : IpEndpoints family) (layer : LayerView) : Sym2 (Address family × UInt16) :=
  s((endpoints.src, layer.srcPort), (endpoints.dst, layer.dstPort))

/-- The endpoints in a key. -/
def SessionKey.pair (key : SessionKey family) : Sym2 (Address family × UInt16) :=
  s((key.aIp, key.aPort), (key.bIp, key.bPort))

theorem normalizedKey_pair (endpoints : IpEndpoints family) (layer : LayerView)
    (inputNamespace : String) (domain : UInt64) (protocol : Nat) :
    (normalizedKey endpoints layer inputNamespace domain protocol).pair =
      endpointPair endpoints layer := by
  unfold normalizedKey SessionKey.pair endpointPair
  cases isForward endpoints layer
  · exact Sym2.eq_swap
  · rfl

/-- Equal pairs of endpoints are equal or exchanged, so they give one key. -/
theorem normalizedKey_eq_of_pair {endpoints other : IpEndpoints family} {layer otherLayer : LayerView}
    {inputNamespace : String} {domain : UInt64} {protocol : Nat}
    (same : endpointPair endpoints layer = endpointPair other otherLayer) :
    normalizedKey endpoints layer inputNamespace domain protocol =
      normalizedKey other otherLayer inputNamespace domain protocol := by
  have by_fields : ∀ {layer otherLayer : LayerView} {endpoints other : IpEndpoints family},
      endpoints.src = other.src → endpoints.dst = other.dst → layer.srcPort = otherLayer.srcPort →
      layer.dstPort = otherLayer.dstPort →
      normalizedKey endpoints layer inputNamespace domain protocol =
        normalizedKey other otherLayer inputNamespace domain protocol := by
    intro layer otherLayer endpoints other src dst srcPort dstPort
    unfold normalizedKey isForward
    rw [src, dst, srcPort, dstPort]
  rcases Sym2.eq_iff.mp same with ⟨first, second⟩ | ⟨first, second⟩
  · exact by_fields (congrArg Prod.fst first) (congrArg Prod.fst second) (congrArg Prod.snd first)
      (congrArg Prod.snd second)
  · rw [← normalizedKey_exchange other]
    exact by_fields (congrArg Prod.fst first) (congrArg Prod.fst second) (congrArg Prod.snd first)
      (congrArg Prod.snd second)

theorem get_exchange (layer : LayerView) :
    layer.exchange.get family = (layer.get family).map IpEndpoints.swap := by
  unfold LayerView.get LayerView.exchange
  match layer.endpoints with
  | none => rfl
  | some ⟨own, endpoints⟩ =>
      by_cases same : own = family
      · subst same
        simp
      · simp [same]

/-! ## Both directions -/

theorem check_congr {wrong other : Prop} [Decidable wrong] [Decidable other]
    {error : SessionPacketError} (same : wrong ↔ other) :
    (check wrong error : Run Unit) = check other error := by
  unfold CheckedReads.check
  by_cases holds : wrong
  · rw [if_pos holds, if_pos (same.mp holds)]
  · rw [if_neg holds, if_neg fun also => holds (same.mpr also)]

theorem noNetworkLayer_exchange (layer : LayerView) (error : SessionPacketError) (left index : Nat) :
    noNetworkLayer layer.exchange error left index = noNetworkLayer layer error left index := by
  induction left generalizing index with
  | zero => rfl
  | succ left ih =>
      rw [noNetworkLayer, noNetworkLayer]
      simp only [ih]
      rfl

theorem validateIpv6Fragments_exchange (packet : PacketView) (layer : LayerView) (left index : Nat) :
    validateIpv6Fragments packet layer.exchange left index =
      validateIpv6Fragments packet layer left index := by
  induction left generalizing index with
  | zero => rfl
  | succ left ih =>
      rw [validateIpv6Fragments, validateIpv6Fragments]
      simp only [ih]
      rfl

theorem labelVlans_exchange (packet : PacketView) (layer : LayerView) (left index places : Nat) :
    labelVlans packet layer.exchange left index places = labelVlans packet layer left index places := by
  induction left generalizing index places with
  | zero => rfl
  | succ left ih =>
      cases places with
      | zero => rfl
      | succ places =>
          rw [labelVlans, labelVlans]
          simp only [ih]
          rfl

theorem validateNetworkRange_exchange (lookup : ObservationDomainLookup) (packet : PacketView)
    (layer : LayerView) :
    validateNetworkRange lookup packet layer.exchange = validateNetworkRange lookup packet layer := by
  have ranged : ∀ domain network,
      networkRange packet layer.exchange domain network = networkRange packet layer domain network := by
    intro domain network
    unfold networkRange ipv6Range
    simp only [validateIpv6Fragments_exchange]
    rfl
  unfold validateNetworkRange
  simp only [noNetworkLayer_exchange, ranged]
  rfl

theorem transportPayload_exchange (packet : PacketView) (layer : LayerView) (range : NetworkRange) :
    transportPayload packet layer.exchange range = transportPayload packet layer range := by
  have absent : (layer.exchange.addressState ≠ .available ∨ layer.exchange.get range.family = none) ↔
      (layer.addressState ≠ .available ∨ layer.get range.family = none) := by
    rw [get_exchange, Option.map_eq_none_iff]
    rfl
  unfold transportPayload
  simp only [noNetworkLayer_exchange, check_congr absent]
  rfl

/-- The packet of the other direction belongs to the same session. -/
theorem buildNpmSessionPacketBinding_exchange {lookup : ObservationDomainLookup} {packet : PacketView}
    {layer : LayerView} {binding : Binding family}
    (built : buildNpmSessionPacketBinding family lookup packet layer = .ok binding) :
    ∃ endpoints other, layer.get family = some endpoints ∧
      buildNpmSessionPacketBinding family lookup packet layer.exchange = .ok other ∧
      other.key = binding.key ∧
      ((SameEndpoints endpoints layer ∧ other.direction = binding.direction) ∨
        (¬ SameEndpoints endpoints layer ∧ other.direction = binding.direction.opposite)) := by
  unfold buildNpmSessionPacketBinding at built ⊢
  rw [validateNetworkRange_exchange]
  cases ranged : validateNetworkRange lookup packet layer with
  | error stop => rw [ranged] at built; cases built
  | ok range =>
      rw [ranged] at built
      change (transportPayload packet layer range >>= _) = _ at built
      change ∃ endpoints other, _ ∧ (transportPayload packet layer.exchange range >>= _) = _ ∧ _
      rw [transportPayload_exchange]
      cases placed : transportPayload packet layer range with
      | error stop => rw [placed] at built; cases built
      | ok result =>
          rw [placed] at built
          change (need (layer.get family) _ >>= _) = _ at built
          change ∃ endpoints other, _ ∧ (need (layer.exchange.get family) _ >>= _) = _ ∧ _
          rw [get_exchange]
          cases named : layer.get family with
          | none => rw [named] at built; cases built
          | some endpoints =>
              rw [named] at built
              change (labelVlans packet layer _ 0 2 >>= _) = _ at built
              change ∃ endpoints other, _ ∧
                (labelVlans packet layer.exchange layer.networkLayerIndex.toNat 0 2 >>= _) = _ ∧ _
              rw [labelVlans_exchange]
              cases tagged : labelVlans packet layer layer.networkLayerIndex.toNat 0 2 with
              | error stop => rw [tagged] at built; cases built
              | ok vlans =>
                  rw [tagged] at built
                  cases built
                  refine ⟨endpoints, _, rfl, rfl, normalizedKey_exchange .., ?_⟩
                  change (_ ∧ (if isForward endpoints.swap layer.exchange then _ else _) = _) ∨
                    (_ ∧ (if isForward endpoints.swap layer.exchange then _ else _) = _)
                  rcases isForward_exchange endpoints layer with ⟨same, forward, other⟩ | ⟨different, other⟩
                  · refine .inl ⟨same, ?_⟩
                    change _ = if isForward endpoints layer then PacketDirection.aToB else .bToA
                    rw [forward, other]
                  · refine .inr ⟨different, ?_⟩
                    change _ = (if isForward endpoints layer then PacketDirection.aToB else .bToA).opposite
                    rw [other]
                    cases isForward endpoints layer <;> rfl

/-- Two packets have one key when they are of one domain, one protocol and one pair of endpoints. -/
theorem keys_eq_iff {lookup otherLookup : ObservationDomainLookup} {packet otherPacket : PacketView}
    {layer otherLayer : LayerView} {binding other : Binding family} {domain otherDomain : UInt64}
    {endpoints otherEndpoints : IpEndpoints family}
    (well : SessionWell lookup packet layer domain endpoints binding)
    (otherWell : SessionWell otherLookup otherPacket otherLayer otherDomain otherEndpoints other) :
    binding.key = other.key ↔ lookup.inputNamespace = otherLookup.inputNamespace ∧
      domain = otherDomain ∧ layer.transportProtocol = otherLayer.transportProtocol ∧
      endpointPair endpoints layer = endpointPair otherEndpoints otherLayer := by
  rw [well.key, otherWell.key]
  constructor
  · intro same
    refine ⟨congrArg SessionKey.inputNamespace same, congrArg SessionKey.observationDomainId same,
      UInt8.toNat_inj.mp (congrArg SessionKey.transportProtocol same), ?_⟩
    have pairs := congrArg SessionKey.pair same
    rwa [normalizedKey_pair, normalizedKey_pair] at pairs
  · rintro ⟨names, rfl, protocols, pairs⟩
    rw [names, protocols]
    exact normalizedKey_eq_of_pair pairs

end

def sampleLookup : ObservationDomainLookup := ⟨"capture", [⟨7, 1⟩], false⟩

/-- A datagram of two bytes from 10.0.0.1:53 to 10.0.0.2:256. -/
def samplePacket : PacketView where
  meta_ := ⟨30, 30, 7⟩
  bytes := [0x45, 0, 0, 30, 0, 0, 0, 0, 64, 17, 0, 0, 10, 0, 0, 1, 10, 0, 0, 2,
    0, 53, 1, 0, 0, 10, 0, 0, 1, 2]

def sampleLayer : LayerView where
  status := .decoded
  layerCount := 2
  layers := #v[⟨eLayer.IPv4, 0⟩, ⟨eLayer.UDP, 20⟩, ⟨0, 0⟩, ⟨0, 0⟩, ⟨0, 0⟩, ⟨0, 0⟩, ⟨0, 0⟩, ⟨0, 0⟩,
    ⟨0, 0⟩, ⟨0, 0⟩, ⟨0, 0⟩, ⟨0, 0⟩, ⟨0, 0⟩, ⟨0, 0⟩, ⟨0, 0⟩]
  endpointScope := .innermost
  networkLayerIndex := 0
  transportLayerIndex := 1
  payloadOffset := 28
  srcMac := #v[0, 0, 0, 0, 0, 0]
  dstMac := #v[0, 0, 0, 0, 0, 0]
  srcMacValid := false
  dstMacValid := false
  addressState := .available
  transportProtocol := 17
  srcPort := 53
  dstPort := 256
  portsValid := true
  endpoints := some ⟨.ipv4, ⟨#v[10, 0, 0, 1], #v[10, 0, 0, 2]⟩⟩

end Flowsql.Npm.Keys
