import Flowsql.Library.SeparatedSpans
import Flowsql.Npm.TcpPerformance

/-!
# The history of payload ranges

The history of a direction lists separated ranges. A packet replaces the ranges that
it overlaps or touches by their hull, so the history covers the payload of every
packet so far, and the bytes of a packet that it covers already are exactly those
that count as sent again.
-/

namespace Flowsql.Npm

open Flowsql.Library

/-- The ranges of a history. -/
def spans (history : List OutstandingSegment) : List Span :=
  history.map fun segment => (segment.sequenceBegin, segment.sequenceEnd)

@[simp] theorem spans_nil : spans [] = [] := rfl

@[simp] theorem spans_cons (segment : OutstandingSegment) (history : List OutstandingSegment) :
    spans (segment :: history) = (segment.sequenceBegin, segment.sequenceEnd) :: spans history := rfl

@[simp] theorem spans_append (history later : List OutstandingSegment) :
    spans (history ++ later) = spans history ++ spans later := List.map_append

/-! ## The scan -/

section Scan

variable {begin end_ : Int} {scan : HistoryScan} {position : Nat}

/-- Ranges in front of the new one are passed over. -/
theorem scanHistory_before {before rest : List OutstandingSegment}
    (left : ∀ segment ∈ before, segment.sequenceEnd < begin) :
    scanHistory begin end_ position (before ++ rest) scan =
      scanHistory begin end_ (position + before.length) rest scan := by
  induction before generalizing position with
  | nil => rfl
  | cons segment before ih =>
      obtain ⟨head, tail⟩ := List.forall_mem_cons.mp left
      rw [List.cons_append, scanHistory, if_pos head, ih tail, List.length_cons]
      congr 1
      omega

/-- At a range behind the new one the scan stops. -/
theorem scanHistory_after {after : List OutstandingSegment} (nonempty : begin < end_)
    (ordered : ∀ segment ∈ after, segment.sequenceBegin < segment.sequenceEnd)
    (right : ∀ segment ∈ after, end_ < segment.sequenceBegin) :
    scanHistory begin end_ position after scan =
      { scan with first := scan.first.or (if after = [] then none else some position) } := by
  cases after with
  | nil => simp [scanHistory]
  | cons segment after =>
      have behind := right segment List.mem_cons_self
      have inOrder := ordered segment List.mem_cons_self
      rw [scanHistory, if_neg (by omega), if_pos behind]
      simp

/-- The state of the scan behind the ranges that touch the new one. -/
def HistoryScan.merge (scan : HistoryScan) (begin end_ : Int) (position : Nat)
    (touching : List OutstandingSegment) : HistoryScan :=
  let hull := Span.hull (scan.mergedBegin, scan.mergedEnd) (spans touching)
  { first := if scan.mergedRanges = 0 ∧ touching ≠ [] then some position else scan.first
    mergedRanges := scan.mergedRanges + touching.length
    mergedBegin := hull.1
    mergedEnd := hull.2
    overlap := scan.overlap + ((spans touching).map (Span.overlap (begin, end_))).sum }

theorem scanHistory_touching {touching rest : List OutstandingSegment}
    (touch : ∀ segment ∈ touching,
      Span.Touches (begin, end_) (segment.sequenceBegin, segment.sequenceEnd))
    (bounded : scan.overlap + ((spans touching).map (Span.overlap (begin, end_))).sum ≤ maxUInt64) :
    scanHistory begin end_ position (touching ++ rest) scan =
      scanHistory begin end_ (position + touching.length) rest
        (scan.merge begin end_ position touching) := by
  induction touching generalizing position scan with
  | nil => simp [HistoryScan.merge]
  | cons segment touching ih =>
      obtain ⟨head, tail⟩ := List.forall_mem_cons.mp touch
      obtain ⟨left, right⟩ := head
      have added : (if min end_ segment.sequenceEnd > max begin segment.sequenceBegin then
          addUInt64 scan.overlap
            (min end_ segment.sequenceEnd - max begin segment.sequenceBegin).toNat
          else scan.overlap) =
          scan.overlap + Span.overlap (begin, end_) (segment.sequenceBegin, segment.sequenceEnd) := by
        rw [spans_cons, List.map_cons, List.sum_cons] at bounded
        unfold Span.overlap at bounded ⊢
        split
        · exact addUInt64_eq (by omega)
        · omega
      rw [List.cons_append, scanHistory, if_neg (not_lt.mpr left), if_neg (not_lt.mpr right)]
      simp only [added]
      rw [ih tail]
      · simp only [HistoryScan.merge, spans_cons, Span.hull_cons, List.map_cons, List.sum_cons,
          List.length_cons]
        congr 1
        · omega
        · simp [Nat.add_assoc, Nat.add_comm 1]
      · simpa [Nat.add_assoc] using bounded

/-- The ranges of a separated history, split by where they lie to the new one. -/
theorem split_history {history : List OutstandingSegment} (begin end_ : Int)
    (separated : Span.Separated (spans history)) :
    ∃ before touching after, history = before ++ touching ++ after ∧
      (∀ segment ∈ before, segment.sequenceEnd < begin) ∧
      (∀ segment ∈ touching,
        Span.Touches (begin, end_) (segment.sequenceBegin, segment.sequenceEnd)) ∧
      ∀ segment ∈ after, end_ < segment.sequenceBegin := by
  induction history with
  | nil => exact ⟨[], [], [], rfl, by simp, by simp, by simp⟩
  | cons segment history ih =>
      obtain ⟨nonempty, behind, rest⟩ := Span.separated_cons.mp separated
      have later : ∀ other ∈ history, segment.sequenceEnd < other.sequenceBegin :=
        fun other member => behind _ (List.mem_map_of_mem member)
      obtain ⟨before, touching, after, rfl, left, touch, right⟩ := ih rest
      by_cases inFront : segment.sequenceEnd < begin
      · exact ⟨segment :: before, touching, after, rfl,
          List.forall_mem_cons.mpr ⟨inFront, left⟩, touch, right⟩
      · -- A range that is not in front of the new one has none behind it that is.
        have noneBefore : before = [] := by
          rw [List.eq_nil_iff_forall_not_mem]
          intro other member
          have ends := left other member
          have begins := later other (by simp [member])
          have inOrder := rest.1 _ (List.mem_map_of_mem (f := fun segment : OutstandingSegment =>
            (segment.sequenceBegin, segment.sequenceEnd)) (by simp [member] : other ∈ _))
          simp only at inOrder
          omega
        subst noneBefore
        by_cases touches : segment.sequenceBegin ≤ end_
        · exact ⟨[], segment :: touching, after, rfl, by simp,
            List.forall_mem_cons.mpr ⟨⟨not_lt.mp inFront, touches⟩, touch⟩, right⟩
        · have noneTouching : touching = [] := by
            rw [List.eq_nil_iff_forall_not_mem]
            intro other member
            have begins := later other (by simp [member])
            have touches := (touch other member).2
            simp only at nonempty touches
            omega
          subst noneTouching
          exact ⟨[], [], segment :: after, rfl, by simp, by simp,
            List.forall_mem_cons.mpr ⟨not_le.mp touches, right⟩⟩

/-- The result of the whole scan, for a history that is split so. -/
theorem scanHistory_split {before touching after : List OutstandingSegment}
    (nonempty : begin < end_) (short : (end_ - begin).toNat ≤ maxUInt64)
    (separated : Span.Separated (spans (before ++ touching ++ after)))
    (left : ∀ segment ∈ before, segment.sequenceEnd < begin)
    (touch : ∀ segment ∈ touching,
      Span.Touches (begin, end_) (segment.sequenceBegin, segment.sequenceEnd))
    (right : ∀ segment ∈ after, end_ < segment.sequenceBegin) :
    scanHistory begin end_ 0 (before ++ touching ++ after)
        { first := none, mergedRanges := 0, mergedBegin := begin, mergedEnd := end_, overlap := 0 } =
      { first :=
          if touching ≠ [] then some before.length
          else if after = [] then none
          else some (before.length + touching.length)
        mergedRanges := touching.length
        mergedBegin := (Span.hull (begin, end_) (spans touching)).1
        mergedEnd := (Span.hull (begin, end_) (spans touching)).2
        overlap := ((spans touching).map (Span.overlap (begin, end_))).sum } := by
  rw [spans_append, spans_append] at separated
  obtain ⟨outer, afterSeparated, _⟩ := Span.separated_append.mp separated
  obtain ⟨_, touchingSeparated, _⟩ := Span.separated_append.mp outer
  have bounded : ((spans touching).map (Span.overlap (begin, end_))).sum ≤ maxUInt64 := by
    rw [← Span.card_inter_covered (begin, end_) touchingSeparated]
    refine (Finset.card_le_card Finset.inter_subset_left).trans ?_
    rwa [Int.card_Ico]
  have ordered : ∀ segment ∈ after, segment.sequenceBegin < segment.sequenceEnd :=
    fun segment member => afterSeparated.1 _ (List.mem_map_of_mem member)
  rw [List.append_assoc, scanHistory_before left, scanHistory_touching touch (by simpa using bounded),
    scanHistory_after nonempty ordered right]
  by_cases merges : touching = []
  · simp [HistoryScan.merge, merges]
  · simp [HistoryScan.merge, merges]

/-- Ranges away from the new one do not overlap it. -/
theorem overlap_eq_zero {history : List OutstandingSegment}
    (away : ∀ segment ∈ history, segment.sequenceEnd < begin ∨ end_ < segment.sequenceBegin) :
    ((spans history).map (Span.overlap (begin, end_))).sum = 0 := by
  induction history with
  | nil => rfl
  | cons segment history ih =>
      obtain ⟨head, tail⟩ := List.forall_mem_cons.mp away
      rw [spans_cons, List.map_cons, List.sum_cons, ih tail]
      simp only [Span.overlap]
      omega

/-- The history after the new range is committed. -/
theorem spans_commit {before touching after : List OutstandingSegment} {scan : HistoryScan}
    {segment : OutstandingSegment}
    (merged : scan.mergedRanges = touching.length)
    (hull : (scan.mergedBegin, scan.mergedEnd) =
      Span.hull (segment.sequenceBegin, segment.sequenceEnd) (spans touching))
    (first : scan.first.getD (before ++ touching ++ after).length = before.length) :
    spans (scan.commit segment true (before ++ touching ++ after)) =
      spans before ++
        Span.hull (segment.sequenceBegin, segment.sequenceEnd) (spans touching) :: spans after := by
  unfold HistoryScan.commit
  rw [first, merged, ← hull]
  cases touching with
  | nil =>
      simp only [spans_nil, Span.hull_nil] at hull
      simp [hull]
  | cons head touching => simp

end Scan

/-- What one packet does to the history of its direction. -/
structure HistoryStep (begin end_ : Int) (before : List OutstandingSegment) (overlap : Nat)
    (after : List OutstandingSegment) : Prop where
  separated : Span.Separated (spans after)
  covered : Span.covered (spans after) = Finset.Ico begin end_ ∪ Span.covered (spans before)
  overlap_eq : overlap = (Finset.Ico begin end_ ∩ Span.covered (spans before)).card

theorem historyStep_of_scan {history : List OutstandingSegment} {segment : OutstandingSegment}
    (separated : Span.Separated (spans history))
    (nonempty : segment.sequenceBegin < segment.sequenceEnd)
    (short : (segment.sequenceEnd - segment.sequenceBegin).toNat ≤ maxUInt64) :
    let scan := scanRange segment.sequenceBegin segment.sequenceEnd history
    HistoryStep segment.sequenceBegin segment.sequenceEnd history scan.overlap
      (scan.commit segment true history) := by
  intro scan
  obtain ⟨before, touching, after, rfl, left, touch, right⟩ :=
    split_history segment.sequenceBegin segment.sequenceEnd separated
  have scanEq : scan = _ :=
    (if_pos nonempty).trans (scanHistory_split nonempty short separated left touch right)
  have committed : spans (scan.commit segment true (before ++ touching ++ after)) =
      spans before ++
        Span.hull (segment.sequenceBegin, segment.sequenceEnd) (spans touching) :: spans after := by
    apply spans_commit
    · rw [scanEq]
    · rw [scanEq]
    · rw [scanEq]
      by_cases merges : touching = []
      · by_cases last : after = [] <;> simp [merges, last]
      · simp [merges]
  have parts := separated
  rw [spans_append, spans_append] at parts
  have leftSpans : ∀ other ∈ spans before, other.2 < segment.sequenceBegin := by
    simpa [spans] using left
  have rightSpans : ∀ other ∈ spans after, segment.sequenceEnd < other.1 := by
    simpa [spans] using right
  have touchSpans : ∀ other ∈ spans touching,
      Span.Touches (segment.sequenceBegin, segment.sequenceEnd) other := by
    simpa [spans] using touch
  constructor
  · rw [committed]
    exact parts.replace nonempty leftSpans rightSpans
  · rw [committed, Span.covered_replace parts nonempty touchSpans, spans_append, spans_append]
  · rw [Span.card_inter_covered (segment.sequenceBegin, segment.sequenceEnd) separated, scanEq,
      spans_append, spans_append, List.map_append, List.map_append, List.sum_append, List.sum_append,
      overlap_eq_zero fun other member => .inl (left other member),
      overlap_eq_zero fun other member => .inr (right other member)]
    simp

end Flowsql.Npm
