import Flowsql.Library.SeparatedSpans
import Flowsql.Npm.TcpPerformance

/-!
# Packets in the unwrapped sequence space

What the tracker's arithmetic means: each packet of a session has one place in an
unbounded sequence space, within half of the 32-bit space of the highest end seen so
far in its direction. `Placed` says so without reference to the tracker's state.
-/

namespace Flowsql.Npm

open Flowsql.Library

/-- The value is congruent to the sequence number and close to the reference. -/
def UnwrapsTo (sequence : UInt32) (reference value : Int) : Prop :=
  value % 2 ^ 32 = sequence.toNat ∧ -2 ^ 31 < value - reference ∧ value - reference < 2 ^ 31

theorem unwrapsTo_of_unwrap {sequence : UInt32} {reference value : Int}
    (unwraps : unwrap sequence reference = some value) : UnwrapsTo sequence reference value := by
  have small := sequence.toNat_lt
  unfold unwrap sequenceDistance at unwraps
  simp only [Option.ite_none_left_eq_some, Option.some.injEq] at unwraps
  obtain ⟨notHalf, _, rfl⟩ := unwraps
  unfold UnwrapsTo
  split <;> omega

/-- A packet with its place: the unwrapped sequence number, and the unwrapped
acknowledgment if the packet acknowledges data that was seen. -/
structure PlacedPacket where
  packet : PacketView
  sequence : Int
  ack : Option Int

namespace PlacedPacket

def direction (placed : PlacedPacket) : PacketDirection := placed.packet.direction

def payload (placed : PlacedPacket) : Nat := placed.packet.transport.payloadWireBytes.toNat

/-- The first payload byte: a SYN takes up one sequence number in front of it. -/
def begin (placed : PlacedPacket) : Int :=
  placed.sequence + placed.packet.transport.tcp.syn.toNat

def end_ (placed : PlacedPacket) : Int := placed.begin + placed.payload

/-- The end in sequence space, where a FIN counts, too. -/
def sequenceEnd (placed : PlacedPacket) : Int :=
  placed.end_ + placed.packet.transport.tcp.fin.toNat

end PlacedPacket

/-- The packets of a direction. -/
def inDirection (direction : PacketDirection) (packets : List PlacedPacket) : List PlacedPacket :=
  packets.filter fun placed => placed.direction = direction

/-- The highest end seen in a direction. -/
def progressOf (direction : PacketDirection) (packets : List PlacedPacket) : Option Int :=
  ((inDirection direction packets).map PlacedPacket.sequenceEnd).max?

/-- The highest acknowledgment of a direction's data. -/
def highestAckOf (direction : PacketDirection) (packets : List PlacedPacket) : Option Int :=
  ((inDirection direction.opposite packets).filterMap PlacedPacket.ack).max?

/-- The place of the next packet. The first packet of a direction lies where its
sequence number says. -/
structure PlacedNext (packets : List PlacedPacket) (next : PlacedPacket) : Prop where
  sequence :
    match progressOf next.direction packets with
    | none => next.sequence = next.packet.transport.tcp.sequence.toNat
    | some progress => UnwrapsTo next.packet.transport.tcp.sequence progress next.sequence
  ack :
    match progressOf next.direction.opposite packets, next.packet.acknowledgment with
    | some progress, some acknowledgment =>
        ∃ ack, next.ack = some ack ∧ UnwrapsTo acknowledgment progress ack
    | _, _ => next.ack = none

/-- The places of all packets of a session, oldest first. -/
inductive Placed : List PlacedPacket → Prop where
  | nil : Placed []
  | concat {packets : List PlacedPacket} {next : PlacedPacket} (earlier : Placed packets)
      (place : PlacedNext packets next) : Placed (packets ++ [next])

/-- The payload ranges of a direction. -/
def payloadSpans (direction : PacketDirection) (packets : List PlacedPacket) : List Span :=
  (inDirection direction packets).map fun placed => (placed.begin, placed.end_)

/-- The payload bytes on the wire of a direction. -/
def payloadBytes (direction : PacketDirection) (packets : List PacketView) : Nat :=
  ((packets.filter fun packet => packet.direction = direction).map fun packet =>
    packet.transport.payloadWireBytes.toNat).sum

/-! ## One more packet -/

section Concat

variable {packets : List PlacedPacket} {next : PlacedPacket} {direction : PacketDirection}

theorem inDirection_concat_same (same : next.direction = direction) :
    inDirection direction (packets ++ [next]) = inDirection direction packets ++ [next] := by
  simp [inDirection, same]

theorem inDirection_concat_other (other : next.direction ≠ direction) :
    inDirection direction (packets ++ [next]) = inDirection direction packets := by
  simp [inDirection, other]

theorem max?_concat (values : List Int) (last : Int) :
    (values ++ [last]).max? = some (values.max?.elim last (max · last)) := by
  cases values with
  | nil => rfl
  | cons value values =>
      rw [List.cons_append, List.max?_cons', List.max?_cons', List.foldl_append]
      rfl

theorem progressOf_concat_same (same : next.direction = direction) :
    progressOf direction (packets ++ [next]) =
      some ((progressOf direction packets).elim next.sequenceEnd (max · next.sequenceEnd)) := by
  rw [progressOf, inDirection_concat_same same, List.map_append, List.map_singleton, max?_concat]
  rfl

theorem progressOf_concat_other (other : next.direction ≠ direction) :
    progressOf direction (packets ++ [next]) = progressOf direction packets := by
  rw [progressOf, inDirection_concat_other other, progressOf]

theorem payloadSpans_concat_same (same : next.direction = direction) :
    payloadSpans direction (packets ++ [next]) =
      payloadSpans direction packets ++ [(next.begin, next.end_)] := by
  rw [payloadSpans, inDirection_concat_same same, List.map_append, List.map_singleton, payloadSpans]

theorem payloadSpans_concat_other (other : next.direction ≠ direction) :
    payloadSpans direction (packets ++ [next]) = payloadSpans direction packets := by
  rw [payloadSpans, inDirection_concat_other other, payloadSpans]

theorem payloadBytes_concat_same {packets : List PacketView} {packet : PacketView}
    (same : packet.direction = direction) :
    payloadBytes direction (packets ++ [packet]) =
      payloadBytes direction packets + packet.transport.payloadWireBytes.toNat := by
  simp [payloadBytes, same]

theorem payloadBytes_concat_other {packets : List PacketView} {packet : PacketView}
    (other : packet.direction ≠ direction) :
    payloadBytes direction (packets ++ [packet]) = payloadBytes direction packets := by
  simp [payloadBytes, other]

end Concat

/-! ## The tracker's placement -/

/-- A direction's progress is the highest end of the packets seen in it. -/
def FollowsProgress (direction : PacketDirection) (packets : List PlacedPacket)
    (state : DirectionState) : Prop :=
  progressOf direction packets = if state.initialized then some state.progress else none

/-- The packet at the place that the tracker found. -/
def PacketPlacement.toPlaced (placement : PacketPlacement) (packet : PacketView) : PlacedPacket :=
  { packet, sequence := placement.sequence, ack := placement.ack }

@[simp] theorem PacketPlacement.direction_toPlaced (placement : PacketPlacement)
    (packet : PacketView) : (placement.toPlaced packet).direction = packet.direction := rfl

@[simp] theorem PacketPlacement.packet_toPlaced (placement : PacketPlacement)
    (packet : PacketView) : (placement.toPlaced packet).packet = packet := rfl

theorem placePacket_some {outgoing acknowledged : DirectionState} {packet : PacketView}
    {placement : PacketPlacement}
    (found : placePacket outgoing acknowledged packet = some placement) :
    (if outgoing.initialized then
        unwrap packet.transport.tcp.sequence outgoing.progress = some placement.sequence
      else placement.sequence = packet.transport.tcp.sequence.toNat) ∧
    (match if acknowledged.initialized then packet.acknowledgment else none with
      | some acknowledgment =>
          ∃ ack, placement.ack = some ack ∧ unwrap acknowledgment acknowledged.progress = some ack
      | none => placement.ack = none) ∧
    placement.sequenceLength =
      packet.transport.payloadWireBytes.toNat + packet.transport.tcp.syn.toNat +
        packet.transport.tcp.fin.toNat ∧
    placement.sequenceLength < 2 ^ 31 := by
  unfold placePacket at found
  simp only at found
  split at found
  · cases found
  · next sequence sequenceEq =>
      simp only [Option.ite_none_left_eq_some, Bool.or_eq_true, not_or, decide_eq_true_eq,
        Option.some.injEq] at found
      obtain ⟨⟨⟨ackFound, short⟩, _⟩, rfl⟩ := found
      refine ⟨?_, ?_, rfl, not_le.mp short⟩
      · split at sequenceEq
        · next started => simpa [started] using sequenceEq
        · next fresh => simpa [fresh] using sequenceEq.symm
      · cases expected : if acknowledged.initialized then packet.acknowledgment else none with
        | none => rfl
        | some acknowledgment =>
            simp only [expected, Option.isSome_some, Option.bind_some, Bool.true_and,
              Option.isNone_iff_eq_none] at ackFound ⊢
            obtain ⟨ack, ackEq⟩ := Option.ne_none_iff_exists'.mp ackFound
            exact ⟨ack, ackEq, ackEq⟩

/-- A placement is where the packet lies after the packets before it. -/
theorem placedNext_of_placePacket {packets : List PlacedPacket} {packet : PacketView}
    {outgoing acknowledged : DirectionState} {placement : PacketPlacement}
    (outgoingFollows : FollowsProgress packet.direction packets outgoing)
    (acknowledgedFollows : FollowsProgress packet.direction.opposite packets acknowledged)
    (found : placePacket outgoing acknowledged packet = some placement) :
    PlacedNext packets (placement.toPlaced packet) := by
  obtain ⟨sequence, ack, _, _⟩ := placePacket_some found
  constructor
  · change match progressOf packet.direction packets with
      | none => _
      | some progress => _
    rw [outgoingFollows]
    cases started : outgoing.initialized with
    | false => simpa [started, PacketPlacement.toPlaced] using sequence
    | true => exact unwrapsTo_of_unwrap (by simpa [started, PacketPlacement.toPlaced] using sequence)
  · change match progressOf packet.direction.opposite packets, packet.acknowledgment with
      | some progress, some acknowledgment => _
      | _, _ => _
    rw [acknowledgedFollows]
    cases started : acknowledged.initialized with
    | false => simpa [started, PacketPlacement.toPlaced] using ack
    | true =>
        cases acknowledgmentEq : packet.acknowledgment with
        | none => simpa [started, acknowledgmentEq, PacketPlacement.toPlaced] using ack
        | some acknowledgment =>
            simp only [started, if_true, acknowledgmentEq] at ack
            obtain ⟨value, valueEq, unwraps⟩ := ack
            exact ⟨value, valueEq, unwrapsTo_of_unwrap unwraps⟩

theorem sequenceEnd_toPlaced {outgoing acknowledged : DirectionState} {packet : PacketView}
    {placement : PacketPlacement}
    (found : placePacket outgoing acknowledged packet = some placement) :
    (placement.toPlaced packet).sequenceEnd = placement.sequence + placement.sequenceLength := by
  obtain ⟨_, _, length, _⟩ := placePacket_some found
  simp only [PlacedPacket.sequenceEnd, PlacedPacket.end_, PlacedPacket.begin, PlacedPacket.payload,
    PacketPlacement.toPlaced, length]
  omega

end Flowsql.Npm
