import Flowsql.Npm.StreamPublication

/-!
# Reassembly of a true byte stream

The segments of one byte stream arrive in some order. Each starts within half of
the sequence space around the highest end seen before it, so its stream offset is
known. The direction then publishes bytes of the stream only, each offset once.
As long as nothing disturbs it, it publishes the longest captured prefix, which
no arrival order changes.
-/

namespace Flowsql.Npm

open Flowsql.Library

variable {σ : Type}

/-! ## Streams and segments -/

/-- What one side of a connection sends: byte `k` has the sequence number
`initialSequence + 1 + k`. -/
structure ByteStream where
  initialSequence : UInt32
  length : Nat
  byteAt : Nat → UInt8

def ByteStream.slice (stream : ByteStream) (start size : Nat) : List UInt8 :=
  (List.range size).map fun index => stream.byteAt (start + index)

/-- A segment as it was sent, and how many of its bytes were captured. A SYN comes
before the first byte and a FIN after the last. -/
structure Segment (stream : ByteStream) where
  start : Nat
  wire : Nat
  captured : Nat
  syn : Bool
  fin : Bool
  timestampNs : Int
  captured_le : captured ≤ wire
  inside : start + wire ≤ stream.length
  wire_lt : wire < 2 ^ 32
  syn_start : syn = true → start = 0
  fin_end : fin = true → start + wire = stream.length

namespace Segment

variable {stream : ByteStream}

def end_ (segment : Segment stream) : Nat := segment.start + segment.wire

/-- The segment takes up sequence numbers. -/
def carries (segment : Segment stream) : Bool :=
  segment.syn || segment.fin || decide (segment.wire ≠ 0)

/-- The segment brings the byte at this position of the stream. -/
def CapturesAt (segment : Segment stream) (position : Nat) : Prop :=
  segment.start ≤ position ∧ position < segment.start + segment.captured

instance (segment : Segment stream) (position : Nat) : Decidable (segment.CapturesAt position) :=
  inferInstanceAs (Decidable (_ ∧ _))

def sequence (segment : Segment stream) : UInt32 :=
  if segment.syn then stream.initialSequence
  else stream.initialSequence + 1 + UInt32.ofNat segment.start

/-- The packet facts of the segment. -/
def packet (segment : Segment stream) : PacketView where
  timestampNs := segment.timestampNs
  payload :=
    { data := some (stream.slice segment.start segment.captured)
      size := segment.captured
      length_eq := by
        intro bytes bytesEq
        cases bytesEq
        simp [ByteStream.slice] }
  direction := .aToB
  transport :=
    { payloadWireBytes := UInt32.ofNat segment.wire
      payloadCapturedBytes := UInt32.ofNat segment.captured
      payloadComplete := segment.captured == segment.wire
      tcp :=
        { valid := true, syn := segment.syn, fin := segment.fin, rst := false,
          sequence := segment.sequence } }

theorem wire_toNat (segment : Segment stream) :
    segment.packet.transport.payloadWireBytes.toNat = segment.wire := by
  change (UInt32.ofNat segment.wire).toNat = _
  rw [UInt32.toNat_ofNat', Nat.mod_eq_of_lt segment.wire_lt]

theorem captured_toNat (segment : Segment stream) :
    segment.packet.transport.payloadCapturedBytes.toNat = segment.captured := by
  change (UInt32.ofNat segment.captured).toNat = _
  rw [UInt32.toNat_ofNat', Nat.mod_eq_of_lt]
  exact Nat.lt_of_le_of_lt segment.captured_le segment.wire_lt

theorem payloadSequence_packet (segment : Segment stream) :
    payloadSequence segment.packet = stream.initialSequence + 1 + UInt32.ofNat segment.start := by
  unfold payloadSequence
  change segment.sequence + (if segment.syn = true then 1 else 0) = _
  unfold sequence
  by_cases isSyn : segment.syn = true
  · have zero : UInt32.ofNat 0 = 0 := rfl
    rw [if_pos isSyn, if_pos isSyn, segment.syn_start isSyn, zero, UInt32.add_zero]
  · rw [if_neg isSyn, if_neg isSyn, UInt32.add_zero]

theorem carries_iff (segment : Segment stream) :
    CarriesSequence segment.packet ↔ segment.carries = true := by
  unfold CarriesSequence carries
  have wireZero : segment.packet.transport.payloadWireBytes = 0 ↔ segment.wire = 0 := by
    rw [← UInt32.toNat_inj, segment.wire_toNat]
    rfl
  rw [wireZero]
  change ¬ (segment.syn = false ∧ segment.fin = false ∧ segment.wire = 0) ↔ _
  cases segment.syn <;> cases segment.fin <;> simp

/-- The bytes of a segment, seen from stream offsets. -/
theorem payloadAt_packet (segment : Segment stream) {begin prefix_ offset : Nat}
    (captured : prefix_ + (offset - begin) < segment.captured) :
    payloadAt segment.packet begin prefix_ offset =
      some (stream.byteAt (segment.start + (prefix_ + (offset - begin)))) := by
  unfold payloadAt
  change (stream.slice segment.start segment.captured)[prefix_ + (offset - begin)]? = _
  simp [ByteStream.slice, captured]

end Segment

/-! ## Sequence numbers near the highest end -/

/-- Two positions are less than half of the sequence space apart. -/
def InWindow (highest start : Nat) : Prop :=
  start ≤ highest + (2 ^ 31 - 1) ∧ highest ≤ start + (2 ^ 31 - 1)

theorem mapSequence_of_window {core : StreamDirection σ} {stream : ByteStream}
    {origin start begin prefix_ : Nat}
    (base : core.baseSequence = stream.initialSequence + 1 + UInt32.ofNat origin)
    (window : InWindow (origin + core.progress) start)
    (mapped : mapSequence core (stream.initialSequence + 1 + UInt32.ofNat start) =
      some (begin, prefix_)) :
    begin = start - origin ∧ prefix_ = origin - start := by
  obtain ⟨notFar, notOld⟩ := window
  have deltaEq : stream.initialSequence + 1 + UInt32.ofNat start -
      (core.baseSequence + UInt32.ofNat core.progress) =
      UInt32.ofNat start - UInt32.ofNat (origin + core.progress) := by
    rw [base, UInt32.ofNat_add]
    grind
  unfold mapSequence at mapped
  simp only [deltaEq] at mapped
  have half : (0x80000000 : UInt32).toNat = 2 ^ 31 := rfl
  rcases Nat.lt_or_ge start (origin + core.progress) with behind | ahead
  · have deltaNat : (UInt32.ofNat start - UInt32.ofNat (origin + core.progress)).toNat =
        2 ^ 32 - (origin + core.progress - start) := by
      rw [UInt32.toNat_sub, UInt32.toNat_ofNat', UInt32.toNat_ofNat']
      omega
    have notHalf : UInt32.ofNat start - UInt32.ofNat (origin + core.progress) ≠ 0x80000000 := by
      intro same
      rw [same, half] at deltaNat
      omega
    have backward :
        ¬ UInt32.ofNat start - UInt32.ofNat (origin + core.progress) < 0x80000000 := by
      rw [UInt32.lt_iff_toNat_lt, deltaNat, half]
      omega
    have backwards : (0 - (UInt32.ofNat start - UInt32.ofNat (origin + core.progress))).toNat =
        origin + core.progress - start := by
      have zero : (0 : UInt32).toNat = 0 := rfl
      rw [UInt32.toNat_sub, deltaNat, zero]
      omega
    rw [if_neg notHalf, if_neg backward, backwards] at mapped
    split at mapped <;> simp only [Option.some.injEq, Prod.mk.injEq] at mapped <;> omega
  · have deltaNat : (UInt32.ofNat start - UInt32.ofNat (origin + core.progress)).toNat =
        start - (origin + core.progress) := by
      rw [UInt32.toNat_sub, UInt32.toNat_ofNat', UInt32.toNat_ofNat']
      omega
    have notHalf : UInt32.ofNat start - UInt32.ofNat (origin + core.progress) ≠ 0x80000000 := by
      intro same
      rw [same, half] at deltaNat
      omega
    have forward : UInt32.ofNat start - UInt32.ofNat (origin + core.progress) < 0x80000000 := by
      rw [UInt32.lt_iff_toNat_lt, deltaNat, half]
      omega
    rw [if_neg notHalf, if_pos forward, deltaNat] at mapped
    split at mapped
    · cases mapped
    · simp only [Option.some.injEq, Prod.mk.injEq] at mapped
      omega

/-! ## What a direction knows about the stream -/

/-- The view of a direction agrees with the stream behind the origin: its bytes are
bytes of the stream, and every captured byte is either there or too late. -/
structure Tracks {stream : ByteStream} (origin : Nat) (seen : List (Segment stream))
    (core : StreamDirection σ) : Prop where
  anchored : core.origin ≠ .unknown
  base : core.baseSequence = stream.initialSequence + 1 + UInt32.ofNat origin
  inside : origin + core.progress ≤ stream.length
  fin : ∀ position, core.fin = some position → origin + position = stream.length
  sound : ∀ offset byte, core.view offset = some (some byte) →
    byte = stream.byteAt (origin + offset) ∧ ∃ segment ∈ seen, segment.CapturesAt (origin + offset)
  complete : ∀ segment ∈ seen, ∀ offset, segment.CapturesAt (origin + offset) →
    offset < core.published ∨ ∃ byte, core.view offset = some (some byte)

section Track

variable {stream : ByteStream} {origin : Nat} {seen : List (Segment stream)}
  {core next : StreamDirection σ} {environment : Environment σ}
  {agrees : List StreamEvent → Nat → σ → Prop} {objectCharge : Nat}

theorem Tracks.drained (tracks : Tracks origin seen core) (drained : Drained core next) :
    Tracks origin seen next where
  anchored := by rw [drained.frame]; exact tracks.anchored
  base := by rw [drained.frame]; exact tracks.base
  inside := by rw [drained.frame]; exact tracks.inside
  fin := by rw [drained.frame]; exact tracks.fin
  sound := by
    intro offset byte viewEq
    rw [drained.view_eq] at viewEq
    exact tracks.sound offset byte viewEq
  complete := by
    intro segment member offset captures
    rw [drained.view_eq]
    exact (tracks.complete segment member offset captures).imp_left
      fun published => Nat.lt_of_lt_of_le published drained.grows

/-- Where a segment of the stream is put. -/
structure PutAt (origin : Nat) (segment : Segment stream) (begin prefix_ declaredEnd : Nat) :
    Prop where
  begin_eq : begin = segment.start - origin
  prefix_eq : prefix_ = origin - segment.start
  reaches : origin ≤ segment.end_
  declaredEnd_eq : origin + declaredEnd = segment.end_

theorem Tracks.putAt (tracks : Tracks origin seen core) {segment : Segment stream}
    (window : InWindow (origin + core.progress) segment.start) {begin prefix_ declaredEnd : Nat}
    (placed : PlacedAt core (payloadSequence segment.packet) segment.packet begin prefix_
      declaredEnd) : PutAt origin segment begin prefix_ declaredEnd := by
  have mapped := placed.mapped
  rw [segment.payloadSequence_packet] at mapped
  obtain ⟨begin_eq, prefix_eq⟩ := mapSequence_of_window tracks.base window mapped
  have prefix_le := placed.prefix_le
  have declaredEnd_eq := placed.declaredEnd_eq
  rw [segment.wire_toNat] at prefix_le declaredEnd_eq
  exact ⟨begin_eq, prefix_eq, by unfold Segment.end_; omega, by unfold Segment.end_; omega⟩

/-- A known FIN never cuts a segment of the stream. -/
theorem Tracks.endAfter_eq (tracks : Tracks origin seen core) {segment : Segment stream}
    {begin prefix_ declaredEnd : Nat} (put : PutAt origin segment begin prefix_ declaredEnd) :
    endAfter core segment.packet declaredEnd = declaredEnd := by
  unfold endAfter
  cases finEq : finAfter core segment.packet declaredEnd with
  | none => rfl
  | some position =>
      apply Nat.min_eq_left
      unfold finAfter at finEq
      split at finEq
      · exact Nat.le_of_eq (Option.some.inj finEq)
      · have atEnd := tracks.fin position finEq
        have inside := segment.inside
        have endEq := put.declaredEnd_eq
        unfold Segment.end_ at endEq
        omega

theorem view_of_unpublished {offset : Nat} (unpublished : core.published ≤ offset) :
    core.view offset = cellAt core.ranges offset := by
  rw [StreamDirection.view, if_neg (Nat.not_lt.mpr unpublished)]

theorem stored_view_published {packet : PacketView} {begin prefix_ declaredEnd : Nat}
    (stored : Stored environment agrees objectCharge core packet begin prefix_ declaredEnd next)
    {offset : Nat} (published : offset < core.published) : next.view offset = core.view offset := by
  rw [stored.frame]
  unfold StreamDirection.view
  change (if offset < core.published then lookup StreamEvent.byteAt core.emitted offset else _) = _
  rw [if_pos published, if_pos published]

theorem PutAt.captures_iff {segment : Segment stream} {begin prefix_ declaredEnd : Nat}
    (put : PutAt origin segment begin prefix_ declaredEnd) (offset : Nat) :
    (begin ≤ offset ∧ offset < min (capturedEnd segment.packet begin prefix_) declaredEnd) ↔
      segment.CapturesAt (origin + offset) := by
  have capturedEq : capturedEnd segment.packet begin prefix_ =
      begin + (segment.captured - prefix_) := by
    unfold capturedEnd
    rw [segment.captured_toNat]
    split <;> omega
  have captured_le := segment.captured_le
  have endEq := put.declaredEnd_eq
  have begin_eq := put.begin_eq
  have prefix_eq := put.prefix_eq
  unfold Segment.end_ at endEq
  unfold Segment.CapturesAt
  rw [capturedEq]
  omega

/-- The view after a segment of the stream was stored: its bytes are in every cell
that had none, and its other offsets are gaps. -/
theorem Tracks.stored_view (tracks : Tracks origin seen core)
    (live : Live environment agrees objectCharge core) {segment : Segment stream}
    {begin prefix_ declaredEnd : Nat} (put : PutAt origin segment begin prefix_ declaredEnd)
    (stored : Stored environment agrees objectCharge core segment.packet begin prefix_
      declaredEnd next)
    {offset : Nat} (unpublished : core.published ≤ offset) :
    next.view offset =
      if segment.CapturesAt (origin + offset) ∧ (core.view offset).join = none then
        some (some (stream.byteAt (origin + offset)))
      else if core.extent ≤ offset ∧ offset < declaredEnd then some none
      else core.view offset := by
  have nextPublished : next.published = core.published := by rw [stored.frame]
  have endEq := put.declaredEnd_eq
  have cells := stored.cells offset unpublished
  rw [view_of_unpublished (nextPublished ▸ unpublished), cells, view_of_unpublished unpublished,
    tracks.endAfter_eq put]
  -- The FIN cuts nothing off: it lies behind every pending range.
  have kept : (if segment.packet.transport.tcp.fin = true ∧ core.fin = none ∧
      declaredEnd ≤ offset then none else cellAt core.ranges offset) =
      cellAt core.ranges offset := by
    split
    · next cut =>
        have atEnd := segment.fin_end cut.1
        have inside := tracks.inside
        have progress := live.progress.1
        unfold Segment.end_ at endEq
        exact (live.pending.cellAt_eq_none (Or.inr (by omega))).symm
    · rfl
  simp only [kept]
  by_cases captures : segment.CapturesAt (origin + offset)
  · obtain ⟨after, before⟩ := (put.captures_iff offset).mpr captures
    have beforeEnd : offset < declaredEnd := by omega
    have payload : payloadAt segment.packet begin prefix_ offset =
        some (stream.byteAt (origin + offset)) := by
      have begin_eq := put.begin_eq
      have prefix_eq := put.prefix_eq
      have position : segment.start + (prefix_ + (offset - begin)) = origin + offset := by omega
      obtain ⟨start_le, lt_captured⟩ := captures
      rw [segment.payloadAt_packet (by omega), position]
    simp only [after, before, captures, beforeEnd, true_and, and_true, payload]
    rcases Nat.lt_or_ge offset core.extent with pending | beyond
    · obtain ⟨cell, cellEq⟩ :=
        Option.isSome_iff_exists.mp (live.pending.cellAt_isSome unpublished pending)
      have notBeyond : ¬ core.extent ≤ offset := Nat.not_le.mpr pending
      simp only [cellEq, notBeyond, if_false]
      cases cell <;> simp
    · rw [live.pending.cellAt_eq_none (Or.inr beyond)]
      simp [beyond]
  · have notCaptured : ∀ condition, ¬ (begin ≤ offset ∧
        offset < min (capturedEnd segment.packet begin prefix_) declaredEnd ∧ condition) :=
      fun _ all => captures ((put.captures_iff offset).mp ⟨all.1, all.2.1⟩)
    simp only [notCaptured, captures, false_and, if_false]

theorem Tracks.stored (tracks : Tracks origin seen core)
    (live : Live environment agrees objectCharge core) {segment : Segment stream}
    {begin prefix_ declaredEnd : Nat} (put : PutAt origin segment begin prefix_ declaredEnd)
    (stored : Stored environment agrees objectCharge core segment.packet begin prefix_
      declaredEnd next) :
    Tracks origin (segment :: seen) next := by
  have nextPublished : next.published = core.published := by rw [stored.frame]
  have endEq := put.declaredEnd_eq
  have segmentInside := segment.inside
  have inside := tracks.inside
  have newView : ∀ offset, core.published ≤ offset → _ :=
    fun offset => @stored_view _ _ _ _ _ _ _ _ _ tracks live _ _ _ _ put stored offset
  refine ⟨?_, ?_, ?_, ?_, ?_, ?_⟩
  · rw [stored.frame]
    exact tracks.anchored
  · rw [stored.frame]
    exact tracks.base
  · rw [stored.frame]
    change origin + max core.progress (endAfter core segment.packet declaredEnd) ≤ stream.length
    rw [tracks.endAfter_eq put]
    unfold Segment.end_ at endEq
    omega
  · intro position finEq
    rw [stored.frame] at finEq
    change finAfter core segment.packet declaredEnd = some position at finEq
    unfold finAfter at finEq
    split at finEq
    · next first =>
        cases finEq
        rw [endEq]
        exact segment.fin_end first.1
    · exact tracks.fin position finEq
  · intro offset byte viewEq
    rcases Nat.lt_or_ge offset core.published with published | unpublished
    · rw [stored_view_published stored published] at viewEq
      obtain ⟨byteEq, witness, member, captures⟩ := tracks.sound offset byte viewEq
      exact ⟨byteEq, witness, List.mem_cons_of_mem _ member, captures⟩
    · rw [newView offset unpublished] at viewEq
      split at viewEq
      · next fills =>
          cases viewEq
          exact ⟨rfl, segment, List.mem_cons_self, fills.1⟩
      · split at viewEq
        · cases viewEq
        · obtain ⟨byteEq, witness, member, captures⟩ := tracks.sound offset byte viewEq
          exact ⟨byteEq, witness, List.mem_cons_of_mem _ member, captures⟩
  · intro other member offset captures
    rw [nextPublished]
    rcases Nat.lt_or_ge offset core.published with published | unpublished
    · exact Or.inl published
    · right
      rw [newView offset unpublished]
      split
      · exact ⟨_, rfl⟩
      · next notFilled =>
          have hasByte : ∃ byte, core.view offset = some (some byte) := by
            rcases List.mem_cons.mp member with rfl | earlier
            · have joined : (core.view offset).join ≠ none := fun empty =>
                notFilled ⟨captures, empty⟩
              obtain ⟨byte, joinedEq⟩ := Option.ne_none_iff_exists'.mp joined
              exact ⟨byte, Option.join_eq_some_iff.mp joinedEq⟩
            · exact (tracks.complete other earlier offset captures).resolve_left
                (Nat.not_lt.mpr unpublished)
          obtain ⟨byte, viewEq⟩ := hasByte
          have pending : offset < core.extent := by
            by_contra beyond
            rw [view_of_unpublished unpublished,
              live.pending.cellAt_eq_none (Or.inr (Nat.not_lt.mp beyond))] at viewEq
            cases viewEq
          rw [if_neg (by omega)]
          exact ⟨byte, viewEq⟩

end Track

end Flowsql.Npm
