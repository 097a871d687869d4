import Mathlib
import Flowsql.Baseline.EventCalendar

/-!
# The ranges of a bound calendar

A range of bucket ids says of every bucket what the overlap of an interval with the bucket says:
first for one pair of offsets, then between two boundaries, then for all buckets of an entry.
-/

namespace Flowsql.Baseline.EventCalendar

open Flowsql.Library IntervalIndex

/-! ## Division -/

theorem floorDiv_bounds {delta : Int} (pos : 0 < delta) (value : Int) :
    floorDiv value delta * delta ≤ value ∧ value < (floorDiv value delta + 1) * delta := by
  have whole := Int.tdiv_mul_add_tmod value delta
  have below := Int.tmod_lt_of_pos value pos
  have above := Int.lt_tmod_of_pos value pos
  unfold floorDiv
  split
  all_goals
    simp only [Int.sub_mul, Int.add_mul, Int.one_mul, Int.zero_mul]
    constructor <;> linarith

theorem floorDiv_le_iff {delta : Int} (pos : 0 < delta) (value k : Int) :
    floorDiv value delta ≤ k ↔ value < (k + 1) * delta := by
  obtain ⟨lower, upper⟩ := floorDiv_bounds pos value
  constructor
  · intro le
    have scaled := Int.mul_le_mul_of_nonneg_right (Int.add_le_add_right le 1) pos.le
    exact Int.lt_of_lt_of_le upper scaled
  · intro lt
    have := Int.lt_of_mul_lt_mul_right (Int.lt_of_le_of_lt lower lt) pos.le
    omega

theorem le_floorDiv_iff {delta : Int} (pos : 0 < delta) (value k : Int) :
    k ≤ floorDiv value delta ↔ k * delta ≤ value := by
  have below := floorDiv_le_iff pos value (k - 1)
  rw [Int.sub_add_cancel] at below
  omega

theorem lt_ceilDiv_iff {delta : Int} (pos : 0 < delta) (value k : Int) :
    k < ceilDiv value delta ↔ k * delta < value := by
  have floor := floorDiv_le_iff pos (-value) (-k - 1)
  have scaled : (-k - 1 + 1) * delta = -(k * delta) := by ring
  rw [scaled] at floor
  unfold ceilDiv
  omega

theorem ceilDiv_le_iff {delta : Int} (pos : 0 < delta) (value k : Int) :
    ceilDiv value delta ≤ k ↔ value ≤ k * delta := by
  have := lt_ceilDiv_iff pos value k
  omega

/-! ## One range -/

/-- Both ends of the bucket fit. -/
def BucketFits (delta bucketId : Int) : Prop :=
  FitsInt64 (bucketId * delta) ∧ FitsInt64 ((bucketId + 1) * delta)

instance (delta bucketId : Int) : Decidable (BucketFits delta bucketId) :=
  inferInstanceAs (Decidable (_ ∧ _))

theorem firstBucket_le {delta bucketId : Int} (pos : 0 < delta) (fits : BucketFits delta bucketId) :
    firstBucket delta ≤ bucketId :=
  (ceilDiv_le_iff pos _ _).2 fits.1.1

theorem lt_bucketLimit {delta bucketId : Int} (pos : 0 < delta)
    (fits : BucketFits delta bucketId) : bucketId < bucketLimit delta := by
  have ends := fits.2.2
  rw [Int.add_mul, Int.one_mul] at ends
  have last : bucketId ≤ floorDiv (INT64_MAX - delta) delta :=
    (le_floorDiv_iff pos _ _).2 (by omega)
  exact Int.lt_add_one_iff.2 last

/-- For the buckets whose ends fit a range is what it is made of. -/
theorem covered_addBucketRange {delta bucketId : Int} (pos : 0 < delta)
    (fits : BucketFits delta bucketId) (start stop : Int) (code label : Nat)
    (ranges : List CompiledEventBucketRange) :
    Covered (addBucketRange start stop delta code ranges) label bucketId ↔
      Covered ranges label bucketId ∨ code = label ∧ start ≤ bucketId ∧ bucketId < stop := by
  have first := firstBucket_le pos fits
  have limit := lt_bucketLimit pos fits
  unfold addBucketRange
  dsimp only
  split
  · rw [covered_append]
    refine or_congr_right ?_
    simp only [covered_cons, covered_nil, or_false, Span.Covers]
    refine and_congr_right fun _ => ?_
    omega
  · rename_i empty
    have outside : ¬ (start ≤ bucketId ∧ bucketId < stop) := by omega
    simp [outside]

/-! ## The boundaries -/

/-- A bucket at which one of the offsets may change. -/
def Critical (rules : ZoneRules) (delta start stop limit cursor boundary : Int) : Prop :=
  start < boundary ∧ boundary < stop ∧
    ∃ transition ∈ rules.transitions, cursor < transition ∧ transition ≤ limit ∧
      (boundary = ceilDiv transition delta - 1 ∨ boundary = ceilDiv transition delta)

theorem getNextTransition_spec {rules : ZoneRules} {cursor next : Int}
    (found : rules.getNextTransition cursor = some next) :
    next ∈ rules.transitions ∧ cursor < next ∧
      ∀ transition ∈ rules.transitions, cursor < transition → next ≤ transition := by
  obtain ⟨held, least⟩ := List.min?_eq_some_iff.1 found
  simp only [List.mem_filter, decide_eq_true_eq] at held least
  exact ⟨held.1, held.2, fun transition known later => least _ ⟨known, later⟩⟩

theorem getNextTransition_none {rules : ZoneRules} {cursor : Int}
    (ended : rules.getNextTransition cursor = none) :
    ∀ transition ∈ rules.transitions, ¬ cursor < transition := by
  have empty := List.min?_eq_none_iff.1 ended
  simpa [List.filter_eq_nil_iff] using empty

/-- The loop finds all critical boundaries, and nothing outside the open interval. -/
theorem mem_transitionBoundaries {rules : ZoneRules} {delta start stop limit : Int} {left : Nat}
    {cursor : Int} (enough : (rules.transitions.filter (cursor < ·)).length ≤ left)
    {boundary : Int} :
    boundary ∈ transitionBoundaries rules delta start stop limit left cursor ↔
      Critical rules delta start stop limit cursor boundary := by
  induction left generalizing cursor with
  | zero =>
      have none := List.filter_eq_nil_iff.1 (List.length_eq_zero_iff.1 (Nat.le_zero.1 enough))
      simp only [transitionBoundaries, List.not_mem_nil, false_iff]
      rintro ⟨-, -, transition, held, later, -⟩
      simpa [later] using none transition held
  | succ left ih =>
      unfold transitionBoundaries
      split
      · rename_i ended
        simp only [List.not_mem_nil, false_iff]
        rintro ⟨-, -, transition, held, later, -⟩
        exact getNextTransition_none ended transition held later
      · rename_i next found
        obtain ⟨known, later, least⟩ := getNextTransition_spec found
        have fewer : (rules.transitions.filter (next < ·)).length ≤ left := by
          have nested : rules.transitions.filter (next < ·) =
              (rules.transitions.filter (cursor < ·)).filter (next < ·) := by
            rw [List.filter_filter]
            refine List.filter_congr fun transition _ => ?_
            by_cases after : next < transition
            · simp [after, later.trans after]
            · simp [after]
          have dropped : ((rules.transitions.filter (cursor < ·)).filter (next < ·)).length <
              (rules.transitions.filter (cursor < ·)).length :=
            List.length_filter_lt_length_iff_exists.2
              ⟨next, List.mem_filter.2 ⟨known, by simpa using later⟩, by simp⟩
          rw [nested]
          omega
        split
        · rename_i inside
          simp only [List.mem_append, ih fewer, List.mem_filter, List.mem_cons, List.not_mem_nil,
            or_false, Bool.and_eq_true, decide_eq_true_eq]
          constructor
          · rintro (⟨here, above, below⟩ | ⟨above, below, transition, held, after, within, here⟩)
            · exact ⟨above, below, next, known, later, inside, here⟩
            · exact ⟨above, below, transition, held, later.trans after, within, here⟩
          · rintro ⟨above, below, transition, held, after, within, here⟩
            rcases Int.lt_or_eq_of_le (least transition held after) with beyond | rfl
            · exact .inr ⟨above, below, transition, held, beyond, within, here⟩
            · exact .inl ⟨here, above, below⟩
        · rename_i outside
          simp only [List.not_mem_nil, false_iff]
          rintro ⟨-, -, transition, held, after, within, -⟩
          exact outside ((least transition held after).trans within)

/-! ## Between the boundaries -/

/-- What the library says of a zone agrees: the offset changes at transitions only, and is that of
one of the rules, or 0 where it cannot be determined. -/
structure ZoneRules.Agrees (rules : ZoneRules) : Prop where
  constant : ∀ earlier later, FitsInt64 earlier → FitsInt64 later → earlier ≤ later →
    (∀ transition ∈ rules.transitions, ¬ (earlier < transition ∧ transition ≤ later)) →
      rules.offsetAt earlier = rules.offsetAt later
  fromRules : ∀ second, FitsInt64 second →
    rules.offsetAt second = 0 ∨ rules.offsetAt second ∈ rules.ruleOffsets

/-- The bucket overlaps an interval of local time. -/
def LocalOverlap (rules : ZoneRules) (localBegin localEnd delta bucketId : Int) : Prop :=
  bucketId * delta + rules.offsetAt (bucketId * delta) < localEnd ∧
    localBegin < (bucketId + 1) * delta + rules.offsetAt ((bucketId + 1) * delta)

/-- No transition lies between the starts, nor between the ends, of two buckets that no critical
boundary separates. -/
theorem no_transition {rules : ZoneRules} {delta start stop first bucketId transition : Int}
    (pos : 0 < delta) (known : transition ∈ rules.transitions) (from_ : start ≤ first)
    (upTo : bucketId < stop)
    (apart : ∀ boundary, Critical rules delta start stop (stop * delta) (start * delta) boundary →
      boundary ≤ first ∨ bucketId < boundary) :
    ¬ (first * delta < transition ∧ transition ≤ bucketId * delta) ∧
      ¬ ((first + 1) * delta < transition ∧ transition ≤ (bucketId + 1) * delta) := by
  have above := ceilDiv_le_iff pos transition
  have below := lt_ceilDiv_iff pos transition
  have after := Int.mul_le_mul_of_nonneg_right from_ pos.le
  have before := Int.mul_le_mul_of_nonneg_right (Int.add_one_le_iff.2 upTo) pos.le
  have grows : first * delta < (first + 1) * delta := by rw [Int.add_mul]; omega
  have grows' : bucketId * delta < (bucketId + 1) * delta := by rw [Int.add_mul]; omega
  constructor
  · rintro ⟨behind, within⟩
    have new := (below first).2 behind
    have reached := (above bucketId).2 within
    have critical : Critical rules delta start stop (stop * delta) (start * delta)
        (ceilDiv transition delta) :=
      ⟨by omega, by omega, transition, known, by omega, by omega, .inr rfl⟩
    have := apart _ critical
    omega
  · rintro ⟨behind, within⟩
    have new := (below (first + 1)).2 behind
    have reached := (above (bucketId + 1)).2 within
    have critical : Critical rules delta start stop (stop * delta) (start * delta)
        (ceilDiv transition delta - 1) :=
      ⟨by omega, by omega, transition, known, by omega, by omega, .inl rfl⟩
    have := apart _ critical
    omega

/-- One pair of boundaries: the offsets at the first bucket are those at all of them. -/
theorem segment_overlap {rules : ZoneRules} (agrees : rules.Agrees)
    {localBegin localEnd delta start stop first second bucketId : Int} (pos : 0 < delta)
    (fits : BucketFits delta bucketId) (from_ : start ≤ first) (fitsFrom : firstBucket delta ≤ start)
    (upTo : second ≤ stop)
    (apart : ∀ boundary, Critical rules delta start stop (stop * delta) (start * delta) boundary →
      boundary ≤ first ∨ second ≤ boundary) :
    (max first (floorDiv (localBegin - rules.offsetAt ((first + 1) * delta)) delta) ≤ bucketId ∧
      bucketId < min second (ceilDiv (localEnd - rules.offsetAt (first * delta)) delta)) ↔
    (first ≤ bucketId ∧ bucketId < second) ∧
      LocalOverlap rules localBegin localEnd delta bucketId := by
  by_cases within : first ≤ bucketId ∧ bucketId < second
  · have none (transition : Int) (known : transition ∈ rules.transitions) :=
      no_transition pos known from_ (Int.lt_of_lt_of_le within.2 upTo) fun boundary critical =>
        (apart boundary critical).imp_right (Int.lt_of_lt_of_le within.2)
    have low : INT64_MIN ≤ first * delta :=
      (ceilDiv_le_iff pos _ _).1 (Int.le_trans fitsFrom from_)
    have upper := Int.mul_le_mul_of_nonneg_right within.1 pos.le
    have upper' := Int.mul_le_mul_of_nonneg_right (Int.add_le_add_right within.1 1) pos.le
    have grows : first * delta < (first + 1) * delta := by rw [Int.add_mul]; omega
    have starts : rules.offsetAt (first * delta) = rules.offsetAt (bucketId * delta) :=
      agrees.constant _ _ ⟨low, Int.le_trans upper fits.1.2⟩ fits.1 upper
        fun transition known => (none transition known).1
    have ends : rules.offsetAt ((first + 1) * delta) = rules.offsetAt ((bucketId + 1) * delta) :=
      agrees.constant _ _ ⟨by omega, Int.le_trans upper' fits.2.2⟩ fits.2 upper'
        fun transition known => (none transition known).2
    have reaches := floorDiv_le_iff pos
      (localBegin - rules.offsetAt ((bucketId + 1) * delta)) bucketId
    have precedes := lt_ceilDiv_iff pos (localEnd - rules.offsetAt (bucketId * delta)) bucketId
    rw [starts, ends]
    unfold LocalOverlap
    omega
  · have outside : ¬ (first ≤ bucketId ∧ bucketId < second) := within
    omega

/-- All pairs of boundaries together. -/
theorem covered_segmentRanges {rules : ZoneRules} (agrees : rules.Agrees)
    {localBegin localEnd delta start stop bucketId : Int} (pos : 0 < delta)
    (fits : BucketFits delta bucketId) (fitsFrom : firstBucket delta ≤ start) (code label : Nat)
    {first : Int} {boundaries : List Int} (sorted : (first :: boundaries).Pairwise (· < ·))
    (from_ : start ≤ first) (upTo : ∀ boundary ∈ first :: boundaries, boundary ≤ stop)
    (complete : ∀ boundary,
      Critical rules delta start stop (stop * delta) (start * delta) boundary →
        first < boundary → boundary ∈ boundaries)
    (ranges : List CompiledEventBucketRange) :
    Covered (segmentRanges rules localBegin localEnd delta code (first :: boundaries) ranges)
        label bucketId ↔
      Covered ranges label bucketId ∨
        code = label ∧ (first ≤ bucketId ∧ bucketId < (first :: boundaries).getLast (by simp)) ∧
          LocalOverlap rules localBegin localEnd delta bucketId := by
  induction boundaries generalizing first ranges with
  | nil =>
      have outside : ¬ (first ≤ bucketId ∧ bucketId < first) := by omega
      simp [segmentRanges, outside]
  | cons second boundaries ih =>
      obtain ⟨before, rest⟩ := List.pairwise_cons.1 sorted
      obtain ⟨before', -⟩ := List.pairwise_cons.1 rest
      have step : first < second := before second (.head _)
      have apart : ∀ boundary,
          Critical rules delta start stop (stop * delta) (start * delta) boundary →
            boundary ≤ first ∨ second ≤ boundary := by
        intro boundary critical
        rcases Int.lt_or_le first boundary with beyond | behind
        · rcases List.mem_cons.1 (complete boundary critical beyond) with rfl | later
          · exact .inr le_rfl
          · exact .inr (before' boundary later).le
        · exact .inl behind
      have completeRest : ∀ boundary,
          Critical rules delta start stop (stop * delta) (start * delta) boundary →
            second < boundary → boundary ∈ boundaries := by
        intro boundary critical beyond
        rcases List.mem_cons.1 (complete boundary critical (step.trans beyond)) with rfl | later
        · exact absurd beyond (lt_irrefl _)
        · exact later
      have last : second ≤ (second :: boundaries).getLast (by simp) := by
        rcases List.mem_cons.1 (List.getLast_mem (List.cons_ne_nil second boundaries)) with
          same | later
        · exact same.ge
        · exact (before' _ later).le
      have here := @segment_overlap rules agrees localBegin localEnd delta start stop first second
        bucketId pos fits from_ fitsFrom (upTo second (.tail _ (.head _))) apart
      unfold segmentRanges
      rw [ih rest (by omega) (fun boundary held => upTo boundary (.tail _ held)) completeRest,
        covered_addBucketRange pos fits, here, List.getLast_cons (List.cons_ne_nil _ _), or_assoc]
      refine or_congr_right ?_
      rw [← and_or_left, ← or_and_right]
      refine and_congr_right fun _ => and_congr_left fun _ => ?_
      omega

/-! ## One entry -/

theorem sorted_unique {α : Type} [LinearOrder α] (list : List α) :
    ((list.insertionSort (· ≤ ·)).dedup).Pairwise (· < ·) := by
  have sorted := (List.pairwise_insertionSort (· ≤ ·) list).sublist (List.dedup_sublist _)
  have distinct := List.nodup_dedup (list.insertionSort (· ≤ ·))
  exact (sorted.and distinct).imp fun ⟨le, ne⟩ => lt_of_le_of_ne le ne

theorem mem_sorted_unique {α : Type} [LinearOrder α] {list : List α} {value : α} :
    value ∈ (list.insertionSort (· ≤ ·)).dedup ↔ value ∈ list := by
  rw [List.mem_dedup, List.mem_insertionSort]

theorem foldl_min_le (list : List Int) (least : Int) :
    list.foldl min least ≤ least ∧ ∀ value ∈ list, list.foldl min least ≤ value := by
  induction list generalizing least with
  | nil => simp
  | cons value list ih =>
      obtain ⟨below, all⟩ := ih (min least value)
      simp only [List.foldl_cons, List.mem_cons, forall_eq_or_imp]
      exact ⟨by omega, by omega, all⟩

theorem le_foldl_max (list : List Int) (greatest : Int) :
    greatest ≤ list.foldl max greatest ∧ ∀ value ∈ list, value ≤ list.foldl max greatest := by
  induction list generalizing greatest with
  | nil => simp
  | cons value list ih =>
      obtain ⟨above, all⟩ := ih (max greatest value)
      simp only [List.foldl_cons, List.mem_cons, forall_eq_or_imp]
      exact ⟨by omega, by omega, all⟩

theorem offsetAt_bounds {rules : ZoneRules} (agrees : rules.Agrees) {second : Int}
    (fits : FitsInt64 second) :
    rules.minOffset ≤ rules.offsetAt second ∧ rules.offsetAt second ≤ rules.maxOffset := by
  obtain ⟨belowZero, below⟩ := foldl_min_le rules.ruleOffsets 0
  obtain ⟨aboveZero, above⟩ := le_foldl_max rules.ruleOffsets 0
  rcases agrees.fromRules second fits with zero | known
  · rw [zero]
    exact ⟨belowZero, aboveZero⟩
  · exact ⟨below _ known, above _ known⟩

/-- For the buckets whose ends fit the ranges of a local entry are its overlap with the bucket. -/
theorem covered_compileLocalBucketRanges (platform : Platform) {rules : ZoneRules}
    (agrees : rules.Agrees) {delta bucketId : Int} (pos : 0 < delta)
    (fits : BucketFits delta bucketId) (entry : CompiledEventCalendarEntry) (timezone : String)
    (label : Nat) (ranges : List CompiledEventBucketRange) :
    Covered (compileLocalBucketRanges platform entry timezone rules delta ranges) label bucketId ↔
      Covered ranges label bucketId ∨ entry.eventCodeIndex = label ∧
        LocalOverlap rules (localWallClockSecond platform entry.startTs timezone)
          (localWallClockSecond platform entry.endTs timezone) delta bucketId := by
  unfold compileLocalBucketRanges
  generalize localWallClockSecond platform entry.startTs timezone = localBegin
  generalize localWallClockSecond platform entry.endTs timezone = localEnd
  dsimp only
  generalize startIs : max (floorDiv (localBegin - rules.maxOffset) delta) (firstBucket delta) =
    start
  generalize stopIs : min (ceilDiv (localEnd - rules.minOffset) delta) (bucketLimit delta) = stop
  have fitsFrom : firstBucket delta ≤ start := startIs ▸ Int.le_max_right _ _
  -- With the extreme offsets the interval contains every bucket that overlaps.
  have inside : LocalOverlap rules localBegin localEnd delta bucketId →
      start ≤ bucketId ∧ bucketId < stop := by
    rintro ⟨begins, ends⟩
    have low := (offsetAt_bounds agrees fits.1).1
    have high := (offsetAt_bounds agrees fits.2).2
    have from_ := (floorDiv_le_iff pos (localBegin - rules.maxOffset) bucketId).2 (by omega)
    have upTo := (lt_ceilDiv_iff pos (localEnd - rules.minOffset) bucketId).2 (by omega)
    have first := firstBucket_le pos fits
    have limit := lt_bucketLimit pos fits
    omega
  split
  · rename_i empty
    refine ⟨.inl, fun covered => covered.resolve_right fun overlap => ?_⟩
    have := inside overlap.2
    omega
  · rename_i nonempty
    generalize boundariesAre : [start, stop] ++ transitionBoundaries rules delta start stop
      (stop * delta) rules.transitions.length (start * delta) = list
    have found (boundary : Int) : boundary ∈ list ↔ boundary = start ∨ boundary = stop ∨
        Critical rules delta start stop (stop * delta) (start * delta) boundary := by
      subst boundariesAre
      simp only [List.cons_append, List.nil_append, List.mem_cons,
        mem_transitionBoundaries (List.length_filter_le _ _)]
    have known (boundary : Int) := @mem_sorted_unique Int _ list boundary
    have sorted := sorted_unique list
    cases shape : (list.insertionSort (· ≤ ·)).dedup with
    | nil =>
        have := (known start).2 ((found start).2 (.inl rfl))
        simp [shape] at this
    | cons first boundaries =>
        rw [shape] at sorted known
        obtain ⟨before, rest⟩ := List.pairwise_cons.1 sorted
        have within : ∀ boundary ∈ first :: boundaries, start ≤ boundary ∧ boundary ≤ stop := by
          intro boundary held
          rcases (found boundary).1 ((known boundary).1 held) with rfl | rfl | critical
          · omega
          · omega
          · exact ⟨critical.1.le, critical.2.1.le⟩
        have firstIs : first = start := by
          have held := (known start).2 ((found start).2 (.inl rfl))
          rcases List.mem_cons.1 held with same | later
          · exact same.symm
          · have := before start later
            have := (within first (.head _)).1
            omega
        have lastIs : (first :: boundaries).getLast (by simp) = stop := by
          have held := (known stop).2 ((found stop).2 (.inr (.inl rfl)))
          have atMost := (within _ (List.getLast_mem (List.cons_ne_nil first boundaries))).2
          have atLeast := (sorted.imp le_of_lt).rel_getLast held
          omega
        subst firstIs
        have complete : ∀ boundary,
            Critical rules delta first stop (stop * delta) (first * delta) boundary →
              first < boundary → boundary ∈ boundaries := by
          intro boundary critical beyond
          have held := (known boundary).2 ((found boundary).2 (.inr (.inr critical)))
          exact (List.mem_cons.1 held).resolve_left (Int.ne_of_gt beyond)
        rw [covered_segmentRanges agrees pos fits fitsFrom _ _ sorted le_rfl
          (fun boundary held => (within boundary held).2) complete, lastIs]
        refine or_congr_right (and_congr_right fun _ => ⟨And.right, fun overlap => ?_⟩)
        exact ⟨inside overlap, overlap⟩

end Flowsql.Baseline.EventCalendar
