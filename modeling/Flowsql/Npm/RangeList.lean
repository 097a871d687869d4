import Flowsql.Npm.StreamDirection
import Mathlib

/-!
# The pending ranges as a map from offsets to bytes

The pending list of a direction covers the offsets from `published` to `extent`
without gaps between its ranges. Each edit of the list is described by the change
it makes to the cell of every offset, and by the bytes it adds to the ledger.
-/

namespace Flowsql.Npm

open Flowsql.Library

/-- The byte that a range holds for an offset; a gap holds none. -/
def Range.byteAt (range : Range) (offset : Nat) : Option UInt8 :=
  range.data.bind fun data => data[offset - range.begin]?

/-- The cell of an offset: `none` outside the list, `some none` in a gap. -/
def cellAt (ranges : List Range) (offset : Nat) : Option (Option UInt8) :=
  lookup Range.byteAt ranges offset

/-- A range is nonempty and its buffer has a byte for every offset. -/
structure Range.Valid (range : Range) : Prop where
  nonempty : range.begin < range.end_
  gap_unallocated : range.data = none → range.allocatedBytes = 0
  buffered : ∀ data, range.data = some data →
    range.allocatedBytes = data.length ∧ range.end_ - range.begin ≤ data.length

/-- The ranges partition the offsets from `lo` to `hi`. -/
structure Pending (lo : Nat) (ranges : List Range) (hi : Nat) : Prop where
  contiguous : Contiguous lo ranges hi
  valid : ∀ range ∈ ranges, range.Valid

/-- What the ranges of a list are charged together. -/
def rangesCharge (rangeCharge : Nat) (ranges : List Range) : Nat :=
  (ranges.map (Range.charge rangeCharge)).sum

section Basic

variable {rangeCharge lo hi middle offset : Nat} {at_ : Range} {ranges rest others : List Range}

@[simp] theorem rangesCharge_nil : rangesCharge rangeCharge [] = 0 := rfl

@[simp] theorem rangesCharge_cons :
    rangesCharge rangeCharge (at_ :: rest) =
      at_.charge rangeCharge + rangesCharge rangeCharge rest := by
  simp [rangesCharge]

@[simp] theorem rangesCharge_append :
    rangesCharge rangeCharge (ranges ++ others) =
      rangesCharge rangeCharge ranges + rangesCharge rangeCharge others := by
  simp [rangesCharge]

@[simp] theorem cellAt_nil : cellAt [] offset = none := rfl

theorem cellAt_cons :
    cellAt (at_ :: rest) offset =
      if at_.begin ≤ offset ∧ offset < at_.end_ then some (at_.byteAt offset)
      else cellAt rest offset := lookup_cons

theorem cellAt_append :
    cellAt (ranges ++ others) offset = (cellAt ranges offset).or (cellAt others offset) :=
  lookup_append

theorem Range.byteAt_of_gap (gap : at_.data = none) : at_.byteAt offset = none := by
  simp [Range.byteAt, gap]

theorem cellAt_cons_newGap {begin end_ : Nat} {timestamp : Int} {truncated : Bool} :
    cellAt (newGap begin end_ timestamp truncated :: rest) offset =
      if begin ≤ offset ∧ offset < end_ then some none else cellAt rest offset :=
  cellAt_cons

theorem cellAt_cons_gap (gap : at_.data = none) :
    cellAt (at_ :: rest) offset =
      if at_.begin ≤ offset ∧ offset < at_.end_ then some none else cellAt rest offset := by
  rw [cellAt_cons, Range.byteAt_of_gap gap]

theorem Range.Valid.byteAt_isSome {data : List UInt8} (valid : at_.Valid)
    (dataEq : at_.data = some data) (after : at_.begin ≤ offset) (before : offset < at_.end_) :
    ∃ byte, at_.byteAt offset = some byte := by
  have enough := (valid.buffered data dataEq).2
  have inside : offset - at_.begin < data.length := by omega
  exact ⟨data[offset - at_.begin], by simp [Range.byteAt, dataEq, inside]⟩

theorem Range.valid_newGap {begin end_ : Nat} (ordered : begin < end_) (timestamp : Int)
    (truncated : Bool) : (newGap begin end_ timestamp truncated).Valid where
  nonempty := ordered
  gap_unallocated := fun _ => rfl
  buffered := by
    intro data absurdData
    cases absurdData

namespace Pending

theorem nil (position : Nat) : Pending position [] position :=
  ⟨rfl, by simp⟩

theorem cons_iff :
    Pending lo (at_ :: rest) hi ↔ at_.begin = lo ∧ at_.Valid ∧ Pending at_.end_ rest hi := by
  constructor
  · rintro ⟨⟨start, _, tail⟩, valid⟩
    exact ⟨start, valid at_ (by simp), tail, fun range member => valid range (by simp [member])⟩
  · rintro ⟨start, headValid, tail⟩
    have ordered := headValid.nonempty
    refine ⟨⟨start, ?_, tail.contiguous⟩, ?_⟩
    · change lo ≤ at_.end_
      omega
    · intro range member
      rcases List.mem_cons.mp member with rfl | later
      · exact headValid
      · exact tail.valid range later

theorem le (pending : Pending lo ranges hi) : lo ≤ hi := pending.contiguous.le

theorem append (left : Pending lo ranges middle) (right : Pending middle others hi) :
    Pending lo (ranges ++ others) hi where
  contiguous := left.contiguous.append right.contiguous
  valid := by
    intro range member
    rcases List.mem_append.mp member with inLeft | inRight
    · exact left.valid range inLeft
    · exact right.valid range inRight

theorem cellAt_eq_none (pending : Pending lo ranges hi) (outside : offset < lo ∨ hi ≤ offset) :
    cellAt ranges offset = none :=
  lookup_eq_none pending.contiguous outside

theorem cellAt_isSome (pending : Pending lo ranges hi) (after : lo ≤ offset)
    (before : offset < hi) : (cellAt ranges offset).isSome = true :=
  lookup_isSome pending.contiguous after before

end Pending

end Basic

/-! ## Splitting a gap -/

section Split

variable {rangeCharge position : Nat} {at_ : Range}

/-- The two parts of a gap replace it, for one more list node. -/
structure SplitOf (rangeCharge : Nat) (at_ : Range) (position : Nat) (before : Option Range)
    (right : Range) (charges : List Nat) : Prop where
  begin_eq : right.begin = position
  end_eq : right.end_ = at_.end_
  gap : right.data = none
  unallocated : right.allocatedBytes = 0
  pending : Pending at_.begin before.toList position
  cells : ∀ offset, cellAt before.toList offset =
    if at_.begin ≤ offset ∧ offset < position then some none else none
  charge_eq : rangesCharge rangeCharge before.toList = charges.sum

theorem splitGap_spec (valid : at_.Valid) (gap : at_.data = none) (after : at_.begin ≤ position) :
    SplitOf rangeCharge at_ position (splitGap rangeCharge at_ position).1
      (splitGap rangeCharge at_ position).2.1 (splitGap rangeCharge at_ position).2.2 := by
  unfold splitGap
  split
  · next same =>
      exact ⟨same.symm, rfl, gap, valid.gap_unallocated gap, same ▸ Pending.nil _,
        fun offset => by rw [if_neg (by omega)]; rfl, rfl⟩
  · next moved =>
      have leftValid : ({ at_ with end_ := position } : Range).Valid :=
        ⟨by change at_.begin < position; omega, valid.gap_unallocated,
          fun data dataEq => by rw [gap] at dataEq; cases dataEq⟩
      refine ⟨rfl, rfl, rfl, rfl, Pending.cons_iff.mpr ⟨rfl, leftValid, Pending.nil _⟩, ?_, ?_⟩
      · intro offset
        have leftGap : ({ at_ with end_ := position } : Range).data = none := gap
        change cellAt [_] offset = _
        rw [cellAt_cons, Range.byteAt_of_gap leftGap, cellAt_nil]
      · change rangesCharge rangeCharge [_] = _
        simp [Range.charge, valid.gap_unallocated gap]

theorem splitAfter_of_lt (inside : at_.begin < position) :
    splitAfter rangeCharge at_ position =
      ({ at_ with end_ := position },
        [newGap position at_.end_ at_.timestampNs at_.truncated], [rangeCharge]) := by
  simp [splitAfter, splitGap, Nat.ne_of_gt inside]

end Split

/-! ## Filling gaps -/

section Fill

attribute [local simp] fill splitGap

variable {rangeCharge begin end_ lo hi : Nat} {bytes : List UInt8} {capturedAt : Int}
  {at_ : Range} {rest ranges : List Range}

/-- The range that `Fill` makes of the part of a gap from `left` to `right`. -/
def filledRange (begin left right : Nat) (bytes : List UInt8) (capturedAt : Int) : Range where
  begin := left
  end_ := right
  timestampNs := capturedAt
  truncated := false
  allocatedBytes := right - left
  data := some ((bytes.drop (left - begin)).take (right - left))

theorem filledRange_valid {left right : Nat} (ordered : left < right)
    (enough : right - begin ≤ bytes.length) (after : begin ≤ left) :
    (filledRange begin left right bytes capturedAt).Valid where
  nonempty := ordered
  gap_unallocated := by intro absurdGap; cases absurdGap
  buffered := by
    intro data dataEq
    cases dataEq
    have lengthEq : ((bytes.drop (left - begin)).take (right - left)).length = right - left := by
      rw [List.length_take, List.length_drop]
      omega
    exact ⟨lengthEq.symm, Nat.le_of_eq lengthEq.symm⟩

theorem filledRange_byteAt {left right offset : Nat} (after : left ≤ offset)
    (before : offset < right) (ordered : begin ≤ left) :
    (filledRange begin left right bytes capturedAt).byteAt offset = bytes[offset - begin]? := by
  have shift : left - begin + (offset - left) = offset - begin := by omega
  simp only [Range.byteAt, filledRange, Option.bind_some, List.getElem?_take, List.getElem?_drop,
    shift]
  rw [if_pos (by omega)]

/-- The part of a gap in front of the position, the filled part up to `right` and
then the ranges of `tail`. -/
theorem SplitOf.pending_filled {left right : Nat} {before : Option Range} {splitRight : Range}
    {charges : List Nat} {tail : List Range}
    (split : SplitOf rangeCharge at_ left before splitRight charges) (ordered : left < right)
    (enough : right - begin ≤ bytes.length) (after : begin ≤ left)
    (pending : Pending right tail hi) :
    Pending at_.begin
      (before.toList ++ filledRange begin left right bytes capturedAt :: tail) hi :=
  split.pending.append
    (Pending.cons_iff.mpr ⟨rfl, filledRange_valid ordered enough after, pending⟩)

theorem SplitOf.cellAt_filled {left right offset : Nat} {before : Option Range}
    {splitRight : Range} {charges : List Nat} {tail : List Range}
    (split : SplitOf rangeCharge at_ left before splitRight charges) (after : begin ≤ left) :
    cellAt (before.toList ++ filledRange begin left right bytes capturedAt :: tail) offset =
      if at_.begin ≤ offset ∧ offset < left then some none
      else if left ≤ offset ∧ offset < right then some bytes[offset - begin]?
      else cellAt tail offset := by
  rw [cellAt_append, split.cells, cellAt_cons]
  by_cases inFront : at_.begin ≤ offset ∧ offset < left
  · rw [if_pos inFront, if_pos inFront]
    rfl
  · rw [if_neg inFront, if_neg inFront, Option.none_or]
    change (if left ≤ offset ∧ offset < right then _ else _) = _
    by_cases inside : left ≤ offset ∧ offset < right
    · rw [if_pos inside, if_pos inside, filledRange_byteAt inside.1 inside.2 after]
    · rw [if_neg inside, if_neg inside]

theorem SplitOf.charge_filled {left right : Nat} {before : Option Range} {splitRight : Range}
    {charges : List Nat} {tail : List Range}
    (split : SplitOf rangeCharge at_ left before splitRight charges) (valid : at_.Valid)
    (gap : at_.data = none) :
    rangesCharge rangeCharge
        (before.toList ++ filledRange begin left right bytes capturedAt :: tail) =
      at_.charge rangeCharge + rangesCharge rangeCharge tail + (charges.sum + (right - left)) := by
  rw [rangesCharge_append, split.charge_eq, rangesCharge_cons, Range.charge, Range.charge,
    valid.gap_unallocated gap]
  simp only [filledRange]
  omega

theorem fill_cons_stop (later : end_ ≤ at_.begin) :
    fill rangeCharge begin end_ bytes capturedAt (at_ :: rest) = (at_ :: rest, []) := by
  rw [fill, if_neg (by omega)]

theorem fill_cons_skip (reached : at_.begin < end_)
    (untouched : at_.end_ ≤ begin ∨ at_.data.isSome = true) :
    fill rangeCharge begin end_ bytes capturedAt (at_ :: rest) =
      (at_ :: (fill rangeCharge begin end_ bytes capturedAt rest).1,
        (fill rangeCharge begin end_ bytes capturedAt rest).2) := by
  rw [fill, if_pos reached, if_pos untouched]

/-- A gap that ends in the filled stretch is filled to its end. -/
theorem fill_cons_through (reached : at_.begin < end_) (overlaps : begin < at_.end_)
    (gap : at_.data = none) (valid : at_.Valid) (through : at_.end_ ≤ end_) :
    let split := splitGap rangeCharge at_ (max begin at_.begin)
    let later := fill rangeCharge begin end_ bytes capturedAt rest
    fill rangeCharge begin end_ bytes capturedAt (at_ :: rest) =
      (split.1.toList ++
          filledRange begin (max begin at_.begin) at_.end_ bytes capturedAt :: later.1,
        split.2.2 ++ [at_.end_ - max begin at_.begin] ++ later.2) := by
  intro split later
  have spec := @splitGap_spec rangeCharge _ _ valid gap (Nat.le_max_right begin at_.begin)
  have notSkipped : ¬ (at_.end_ ≤ begin ∨ at_.data.isSome = true) := by
    simp only [gap, Option.isSome_none, Bool.false_eq_true, or_false, Nat.not_le]
    exact overlaps
  have rightEq : min end_ at_.end_ = at_.end_ := Nat.min_eq_right through
  rw [fill, if_pos reached, if_neg notSkipped, rightEq]
  simp only [spec.end_eq, Nat.lt_irrefl, if_false, List.isEmpty_nil, if_true, List.append_nil]
  simp only [spec.begin_eq]
  rfl

/-- A gap that reaches beyond the filled stretch keeps its last part as a gap. -/
theorem fill_cons_within (ordered : begin < end_) (reached : at_.begin < end_)
    (overlaps : begin < at_.end_) (gap : at_.data = none) (valid : at_.Valid)
    (within : end_ < at_.end_) :
    let split := splitGap rangeCharge at_ (max begin at_.begin)
    fill rangeCharge begin end_ bytes capturedAt (at_ :: rest) =
      (split.1.toList ++
          filledRange begin (max begin at_.begin) end_ bytes capturedAt ::
            newGap end_ at_.end_ split.2.1.timestampNs split.2.1.truncated :: rest,
        split.2.2 ++ [rangeCharge] ++ [end_ - max begin at_.begin]) := by
  intro split
  have spec := @splitGap_spec rangeCharge _ _ valid gap (Nat.le_max_right begin at_.begin)
  have notSkipped : ¬ (at_.end_ ≤ begin ∨ at_.data.isSome = true) := by
    simp only [gap, Option.isSome_none, Bool.false_eq_true, or_false, Nat.not_le]
    exact overlaps
  have rightEq : min end_ at_.end_ = end_ := Nat.min_eq_left (Nat.le_of_lt within)
  have inside : (splitGap rangeCharge at_ (max begin at_.begin)).2.1.begin < end_ := by
    rw [spec.begin_eq]
    omega
  rw [fill, if_pos reached, if_neg notSkipped, rightEq]
  simp only [spec.end_eq, within, if_true, splitAfter_of_lt inside, List.isEmpty_cons,
    Bool.false_eq_true, if_false, List.append_assoc, List.cons_append, List.nil_append,
    spec.begin_eq]
  rfl

theorem cells_of_within (tail : Pending at_.end_ rest hi) (reached : at_.begin < end_)
    (overlaps : begin < at_.end_) (within : end_ < at_.end_) (offset : Nat) :
    (if at_.begin ≤ offset ∧ offset < max begin at_.begin then some none
      else if max begin at_.begin ≤ offset ∧ offset < end_ then some bytes[offset - begin]?
      else if end_ ≤ offset ∧ offset < at_.end_ then some none else cellAt rest offset) =
      if begin ≤ offset ∧ offset < end_ ∧
          (if at_.begin ≤ offset ∧ offset < at_.end_ then some none
            else cellAt rest offset) = some none then some bytes[offset - begin]?
      else if at_.begin ≤ offset ∧ offset < at_.end_ then some none else cellAt rest offset := by
  by_cases inside : at_.begin ≤ offset ∧ offset < at_.end_
  · simp only [if_pos inside, and_true]
    split_ifs <;> first | rfl | omega
  · rcases Nat.lt_or_ge offset at_.begin with before | after
    · rw [show cellAt rest offset = none from tail.cellAt_eq_none (by omega)]
      simp only [if_neg inside, reduceCtorEq, and_false, if_false]
      split_ifs <;> first | rfl | omega
    · split_ifs <;> first | rfl | omega

theorem cells_of_through (tail : Pending at_.end_ rest hi) (nonempty : at_.begin < at_.end_)
    (overlaps : begin < at_.end_) (through : at_.end_ ≤ end_) (offset : Nat) :
    (if at_.begin ≤ offset ∧ offset < max begin at_.begin then some none
      else if max begin at_.begin ≤ offset ∧ offset < at_.end_ then some bytes[offset - begin]?
      else if begin ≤ offset ∧ offset < end_ ∧ cellAt rest offset = some none then
        some bytes[offset - begin]?
      else cellAt rest offset) =
      if begin ≤ offset ∧ offset < end_ ∧
          (if at_.begin ≤ offset ∧ offset < at_.end_ then some none
            else cellAt rest offset) = some none then some bytes[offset - begin]?
      else if at_.begin ≤ offset ∧ offset < at_.end_ then some none else cellAt rest offset := by
  by_cases inside : at_.begin ≤ offset ∧ offset < at_.end_
  · simp only [if_pos inside, and_true]
    split_ifs <;> first | rfl | omega
  · rcases Nat.lt_or_ge offset at_.begin with before | after
    · rw [show cellAt rest offset = none from tail.cellAt_eq_none (by omega)]
      split_ifs <;> first | rfl | omega
    · simp only [if_neg inside]
      rw [if_neg (by omega), if_neg (by omega)]

/-- What `Fill` does to a list of pending ranges. -/
structure Filled (rangeCharge begin end_ : Nat) (bytes : List UInt8) (lo hi : Nat)
    (ranges : List Range) (result : List Range × List Nat) : Prop where
  pending : Pending lo result.1 hi
  charge_eq :
    rangesCharge rangeCharge result.1 = rangesCharge rangeCharge ranges + result.2.sum
  cells : ∀ offset, cellAt result.1 offset =
    if begin ≤ offset ∧ offset < end_ ∧ cellAt ranges offset = some none then
      some bytes[offset - begin]?
    else cellAt ranges offset

theorem fill_spec (rangeCharge : Nat) (capturedAt : Int) (ordered : begin < end_)
    (enough : end_ - begin ≤ bytes.length)
    (pending : Pending lo ranges hi) :
    Filled rangeCharge begin end_ bytes lo hi ranges
      (fill rangeCharge begin end_ bytes capturedAt ranges) := by
  induction ranges generalizing lo with
  | nil => exact ⟨pending, rfl, fun offset => by simp [fill]⟩
  | cons at_ rest ih =>
      obtain ⟨start, valid, tail⟩ := Pending.cons_iff.mp pending
      have atOrdered := valid.nonempty
      rcases Nat.lt_or_ge at_.begin end_ with reached | later
      · by_cases untouched : at_.end_ ≤ begin ∨ at_.data.isSome = true
        · -- A range in front of the stretch, or one that has its bytes already.
          have filled := ih tail
          rw [fill_cons_skip reached untouched]
          refine ⟨Pending.cons_iff.mpr ⟨start, valid, filled.pending⟩, ?_, ?_⟩
          · simp only [rangesCharge_cons, filled.charge_eq, Nat.add_assoc]
          · intro offset
            rw [cellAt_cons, cellAt_cons, filled.cells]
            by_cases inside : at_.begin ≤ offset ∧ offset < at_.end_
            · rw [if_pos inside, if_pos inside]
              rcases untouched with before | buffered
              · rw [if_neg (by omega)]
              · obtain ⟨data, dataEq⟩ := Option.isSome_iff_exists.mp buffered
                obtain ⟨byte, byteEq⟩ := valid.byteAt_isSome dataEq inside.1 inside.2
                rw [byteEq, if_neg (by simp)]
            · rw [if_neg inside, if_neg inside]
        · have overlaps : begin < at_.end_ := by
            by_contra before
            exact untouched (Or.inl (Nat.not_lt.mp before))
          have gap : at_.data = none := by
            cases dataEq : at_.data with
            | none => rfl
            | some data => exact absurd (Or.inr (by simp [dataEq])) untouched
          have split := @splitGap_spec rangeCharge _ _ valid gap (Nat.le_max_right begin at_.begin)
          rcases Nat.lt_or_ge end_ at_.end_ with within | through
          · -- The stretch ends inside this gap.
            have restValid := Range.valid_newGap within
              (splitGap rangeCharge at_ (max begin at_.begin)).2.1.timestampNs
              (splitGap rangeCharge at_ (max begin at_.begin)).2.1.truncated
            have gapTail := Pending.cons_iff.mpr ⟨rfl, restValid, tail⟩
            rw [fill_cons_within ordered reached overlaps gap valid within]
            refine ⟨?_, ?_, fun offset => ?_⟩
            · exact start ▸ split.pending_filled (by omega) enough (Nat.le_max_left _ _) gapTail
            · rw [split.charge_filled valid gap]
              simp only [rangesCharge_cons, Range.charge, newGap, List.sum_append,
                List.sum_singleton]
              omega
            · rw [split.cellAt_filled (Nat.le_max_left _ _), cellAt_cons_newGap,
                cellAt_cons_gap gap]
              exact cells_of_within tail reached overlaps within offset
          · -- The gap ends in the stretch, which goes on in the next range.
            have filled := ih tail
            rw [fill_cons_through reached overlaps gap valid through]
            refine ⟨?_, ?_, fun offset => ?_⟩
            · exact start ▸ split.pending_filled (by omega) (by omega) (Nat.le_max_left _ _)
                filled.pending
            · rw [split.charge_filled valid gap, filled.charge_eq]
              simp only [rangesCharge_cons, List.sum_append, List.sum_singleton]
              omega
            · rw [split.cellAt_filled (Nat.le_max_left _ _), cellAt_cons_gap gap, filled.cells]
              exact cells_of_through tail atOrdered overlaps through offset
      · rw [fill_cons_stop later]
        refine ⟨pending, by simp, fun offset => ?_⟩
        by_cases before : offset < end_
        · have outside : cellAt (at_ :: rest) offset = none := pending.cellAt_eq_none (by omega)
          rw [outside, if_neg (by simp)]
        · rw [if_neg (by omega)]

end Fill

/-! ## Marking gaps -/

section Mark

variable {rangeCharge begin end_ lo hi position : Nat} {at_ right : Range}
  {before : Option Range} {charges : List Nat} {rest ranges tail : List Range}

/-- The right part of a split gap, marked up to `end_`. -/
def markedRange (right : Range) (end_ : Nat) : Range := { right with end_, truncated := true }

/-- The cells of a gap do not change when it is split and its right part is marked. -/
theorem SplitOf.cellAt_marked (split : SplitOf rangeCharge at_ position before right charges)
    (ordered : at_.begin ≤ position ∧ position < end_) (offset : Nat) :
    cellAt (before.toList ++ markedRange right end_ :: tail) offset =
      if at_.begin ≤ offset ∧ offset < end_ then some none else cellAt tail offset := by
  have gap : (markedRange right end_).data = none := split.gap
  rw [cellAt_append, split.cells, cellAt_cons_gap gap]
  change Option.or _ (if right.begin ≤ offset ∧ offset < end_ then _ else _) = _
  rw [split.begin_eq]
  by_cases inFront : at_.begin ≤ offset ∧ offset < position
  · rw [if_pos inFront, if_pos (show at_.begin ≤ offset ∧ offset < end_ by omega)]
    rfl
  · rw [if_neg inFront, Option.none_or]
    split_ifs <;> first | rfl | omega

theorem SplitOf.pending_marked (split : SplitOf rangeCharge at_ position before right charges)
    (ordered : position < end_) (pending : Pending end_ tail hi) :
    Pending at_.begin (before.toList ++ markedRange right end_ :: tail) hi := by
  have markedValid : (markedRange right end_).Valid :=
    ⟨split.begin_eq ▸ ordered, fun _ => split.unallocated, fun data dataEq => by
      have gap : (markedRange right end_).data = none := split.gap
      rw [gap] at dataEq
      cases dataEq⟩
  exact split.pending.append (Pending.cons_iff.mpr ⟨split.begin_eq, markedValid, pending⟩)

theorem SplitOf.charge_marked (split : SplitOf rangeCharge at_ position before right charges)
    (valid : at_.Valid) (gap : at_.data = none) :
    rangesCharge rangeCharge (before.toList ++ markedRange right end_ :: tail) =
      at_.charge rangeCharge + rangesCharge rangeCharge tail + charges.sum := by
  have unallocated : (markedRange right end_).allocatedBytes = 0 := split.unallocated
  rw [rangesCharge_append, split.charge_eq, rangesCharge_cons, Range.charge, Range.charge,
    valid.gap_unallocated gap, unallocated]
  omega

/-- What `MarkTruncated` does to a list of pending ranges: no cell changes. -/
structure Marked (rangeCharge lo hi : Nat) (ranges : List Range)
    (result : List Range × List Nat) : Prop where
  pending : Pending lo result.1 hi
  charge_eq :
    rangesCharge rangeCharge result.1 = rangesCharge rangeCharge ranges + result.2.sum
  cells : ∀ offset, cellAt result.1 offset = cellAt ranges offset

theorem markTruncated_cons_skip (reached : at_.begin < end_)
    (untouched : at_.end_ ≤ begin ∨ at_.data.isSome = true ∨ at_.truncated = true) :
    markTruncated rangeCharge begin end_ (at_ :: rest) =
      (at_ :: (markTruncated rangeCharge begin end_ rest).1,
        (markTruncated rangeCharge begin end_ rest).2) := by
  rw [markTruncated, if_pos reached, if_pos untouched]

section Touched

variable (reached : at_.begin < end_)
  (touched : ¬ (at_.end_ ≤ begin ∨ at_.data.isSome = true ∨ at_.truncated = true))
  (split : SplitOf rangeCharge at_ (max begin at_.begin)
    (splitGap rangeCharge at_ (max begin at_.begin)).1
    (splitGap rangeCharge at_ (max begin at_.begin)).2.1
    (splitGap rangeCharge at_ (max begin at_.begin)).2.2)

include reached touched split

/-- Nothing is left of the gap behind the marked stretch, or the stretch is empty. -/
theorem markTruncated_cons_through (through : at_.end_ ≤ end_ ∨ end_ = max begin at_.begin) :
    let parts := splitGap rangeCharge at_ (max begin at_.begin)
    let later := markTruncated rangeCharge begin end_ rest
    markTruncated rangeCharge begin end_ (at_ :: rest) =
      (parts.1.toList ++ markedRange parts.2.1 at_.end_ :: later.1, parts.2.2 ++ later.2) := by
  intro parts later
  rw [markTruncated, if_pos reached, if_neg touched]
  rcases Nat.lt_or_ge end_ at_.end_ with within | covered
  · have same : end_ = (splitGap rangeCharge at_ (max begin at_.begin)).2.1.begin := by
      rw [split.begin_eq]
      omega
    have notSplit : splitAfter rangeCharge (splitGap rangeCharge at_ (max begin at_.begin)).2.1
        end_ = ((splitGap rangeCharge at_ (max begin at_.begin)).2.1, [], []) := by
      simp only [splitAfter, splitGap.eq_1 _ _ end_, if_pos same]
    simp only [split.end_eq, within, if_true, notSplit, List.isEmpty_nil, List.append_nil]
    rfl
  · simp only [split.end_eq, Nat.not_lt.mpr covered, if_false, List.isEmpty_nil, if_true,
      List.append_nil]
    rfl

theorem markTruncated_cons_within (within : end_ < at_.end_)
    (inside : max begin at_.begin < end_) :
    let parts := splitGap rangeCharge at_ (max begin at_.begin)
    markTruncated rangeCharge begin end_ (at_ :: rest) =
      (parts.1.toList ++ markedRange parts.2.1 end_ ::
          newGap end_ at_.end_ parts.2.1.timestampNs parts.2.1.truncated :: rest,
        parts.2.2 ++ [rangeCharge]) := by
  intro parts
  have inside' : (splitGap rangeCharge at_ (max begin at_.begin)).2.1.begin < end_ := by
    rw [split.begin_eq]
    exact inside
  rw [markTruncated, if_pos reached, if_neg touched]
  simp only [split.end_eq, within, if_true, splitAfter_of_lt inside', List.isEmpty_cons,
    Bool.false_eq_true, if_false, List.append_assoc, List.cons_append, List.nil_append]
  rfl

end Touched

theorem markTruncated_spec (harmless : begin ≤ end_ ∨ hi ≤ begin ∨ end_ ≤ lo)
    (pending : Pending lo ranges hi) :
    Marked rangeCharge lo hi ranges (markTruncated rangeCharge begin end_ ranges) := by
  induction ranges generalizing lo with
  | nil => exact ⟨pending, rfl, fun _ => rfl⟩
  | cons at_ rest ih =>
      obtain ⟨start, valid, tail⟩ := Pending.cons_iff.mp pending
      have atOrdered := valid.nonempty
      have atBelow := tail.le
      rcases Nat.lt_or_ge at_.begin end_ with reached | later
      · have later := ih (by omega) tail
        by_cases untouched : at_.end_ ≤ begin ∨ at_.data.isSome = true ∨ at_.truncated = true
        · rw [markTruncated_cons_skip reached untouched]
          refine ⟨Pending.cons_iff.mpr ⟨start, valid, later.pending⟩, ?_, fun offset => ?_⟩
          · simp only [rangesCharge_cons, later.charge_eq, Nat.add_assoc]
          · rw [cellAt_cons, cellAt_cons, later.cells]
        · have overlaps : begin < at_.end_ := by
            by_contra before
            exact untouched (Or.inl (Nat.not_lt.mp before))
          have gap : at_.data = none := by
            cases dataEq : at_.data with
            | none => rfl
            | some data => exact absurd (Or.inr (Or.inl (by simp [dataEq]))) untouched
          have split := @splitGap_spec rangeCharge _ _ valid gap (Nat.le_max_right begin at_.begin)
          by_cases through : at_.end_ ≤ end_ ∨ end_ = max begin at_.begin
          · rw [markTruncated_cons_through reached untouched split through]
            refine ⟨?_, ?_, fun offset => ?_⟩
            · exact start ▸ split.pending_marked (by omega) later.pending
            · rw [split.charge_marked valid gap, later.charge_eq]
              simp only [rangesCharge_cons, List.sum_append]
              omega
            · rw [split.cellAt_marked (by omega), later.cells, cellAt_cons_gap gap]
          · have within : end_ < at_.end_ := by omega
            have inside : max begin at_.begin < end_ := by omega
            rw [markTruncated_cons_within reached untouched split within inside]
            have restValid := Range.valid_newGap within
              (splitGap rangeCharge at_ (max begin at_.begin)).2.1.timestampNs
              (splitGap rangeCharge at_ (max begin at_.begin)).2.1.truncated
            refine ⟨?_, ?_, fun offset => ?_⟩
            · exact start ▸ split.pending_marked inside
                (Pending.cons_iff.mpr ⟨rfl, restValid, tail⟩)
            · rw [split.charge_marked valid gap]
              simp only [rangesCharge_cons, Range.charge, newGap, List.sum_append,
                List.sum_singleton]
              omega
            · rw [split.cellAt_marked (by omega), cellAt_cons_newGap, cellAt_cons_gap gap]
              split_ifs <;> first | rfl | omega
      · rw [markTruncated, if_neg (by omega)]
        exact ⟨pending, by simp, fun _ => rfl⟩

end Mark

/-! ## Trimming at the FIN -/

section Trim

variable {rangeCharge position lo hi : Nat} {ranges : List Range}

/-- What `TrimAtFin` does to a list of pending ranges. -/
structure Trimmed (rangeCharge position lo hi : Nat) (ranges : List Range)
    (result : List Range × List Nat) : Prop where
  pending : Pending lo result.1 (min hi position)
  charge_eq :
    rangesCharge rangeCharge ranges = rangesCharge rangeCharge result.1 + result.2.sum
  cells : ∀ offset, cellAt result.1 offset =
    if offset < position then cellAt ranges offset else none

theorem trimRanges_of_le (before : position ≤ lo) (pending : Pending lo ranges hi) :
    (trimRanges rangeCharge position ranges).1 = [] ∧
      (trimRanges rangeCharge position ranges).2.sum = rangesCharge rangeCharge ranges := by
  induction ranges generalizing lo with
  | nil => exact ⟨rfl, rfl⟩
  | cons at_ rest ih =>
      obtain ⟨start, valid, tail⟩ := Pending.cons_iff.mp pending
      have ordered := valid.nonempty
      obtain ⟨emptied, erased⟩ := ih (by omega) tail
      have beyond : at_.begin ≥ position := by omega
      simp only [trimRanges, beyond, if_true, emptied, List.sum_cons, erased, rangesCharge_cons]
      trivial

theorem trimRanges_spec (rangeCharge : Nat) (after : lo ≤ position) (pending : Pending lo ranges hi) :
    Trimmed rangeCharge position lo hi ranges (trimRanges rangeCharge position ranges) := by
  induction ranges generalizing lo with
  | nil =>
      have same : lo = hi := pending.contiguous
      subst same
      rw [trimRanges]
      exact ⟨by rw [Nat.min_eq_left after]; exact Pending.nil lo, rfl, by simp⟩
  | cons at_ rest ih =>
      obtain ⟨start, valid, tail⟩ := Pending.cons_iff.mp pending
      have ordered := valid.nonempty
      have atBelow := tail.le
      rcases Nat.lt_or_ge at_.begin position with before | beyond
      · rcases Nat.lt_or_ge position at_.end_ with cut | whole
        · -- The FIN lies in this range; all later ranges are erased.
          obtain ⟨emptied, erased⟩ :=
            @trimRanges_of_le rangeCharge position _ _ _ (Nat.le_of_lt cut) tail
          have notBeyond : ¬ at_.begin ≥ position := by omega
          have cutValid : ({ at_ with end_ := position } : Range).Valid := by
            refine ⟨before, valid.gap_unallocated, fun data dataEq => ?_⟩
            have buffered := valid.buffered data dataEq
            refine ⟨buffered.1, ?_⟩
            change position - at_.begin ≤ data.length
            omega
          simp only [trimRanges, notBeyond, if_false, gt_iff_lt, cut, if_true, emptied]
          refine ⟨?_, ?_, fun offset => ?_⟩
          · rw [Nat.min_eq_right (by omega)]
            exact Pending.cons_iff.mpr ⟨start, cutValid, Pending.nil position⟩
          · rw [rangesCharge_cons, rangesCharge_cons, erased]
            rfl
          · rw [cellAt_cons, cellAt_cons, cellAt_nil]
            change (if at_.begin ≤ offset ∧ offset < position then some (at_.byteAt offset)
              else none) = _
            by_cases inside : offset < position
            · rw [if_pos inside]
              by_cases after : at_.begin ≤ offset
              · rw [if_pos ⟨after, inside⟩, if_pos ⟨after, by omega⟩]
              · rw [if_neg (by omega), if_neg (by omega), tail.cellAt_eq_none (by omega)]
            · rw [if_neg inside, if_neg (by omega)]
        · have later := ih whole tail
          have notBeyond : ¬ at_.begin ≥ position := by omega
          have notCut : ¬ position < at_.end_ := by omega
          simp only [trimRanges, notBeyond, if_false, gt_iff_lt, notCut]
          refine ⟨Pending.cons_iff.mpr ⟨start, valid, later.pending⟩, ?_, fun offset => ?_⟩
          · rw [rangesCharge_cons, rangesCharge_cons, later.charge_eq, Nat.add_assoc]
          · rw [cellAt_cons, cellAt_cons, later.cells]
            split_ifs <;> first | rfl | omega
      · have empty : lo = position := by omega
        subst empty
        obtain ⟨emptied, erased⟩ := @trimRanges_of_le rangeCharge lo _ _ _ (Nat.le_refl lo) pending
        refine ⟨?_, ?_, fun offset => ?_⟩
        · rw [emptied, Nat.min_eq_right (by omega)]
          exact Pending.nil lo
        · rw [emptied, erased, rangesCharge_nil, Nat.zero_add]
        · rw [emptied, cellAt_nil]
          split_ifs with outside
          · rw [pending.cellAt_eq_none (Or.inl outside)]
          · rfl

end Trim

end Flowsql.Npm
