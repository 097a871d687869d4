import Flowsql.Baseline.CalendarRanges

/-!
# Bound and unbound calendars

A bound calendar gives the answers of the unbound one, for every bucket whose ends fit, also by the
wall clocks of the entries.
-/

namespace Flowsql.Baseline.EventCalendar

open Flowsql.Library IntervalIndex

/-- What the zone library says when it is asked in different ways agrees. -/
structure Platform.Agrees (platform : Platform) : Prop where
  rules : ∀ tz rules, platform.prepareZone tz = some rules → rules.Agrees
  offset : ∀ tz rules, platform.prepareZone tz = some rules → ∀ second, FitsInt64 second →
    rules.offsetAt second =
      if isUtcTimezone tz then 0
      else (platform.resolveLocalOffsetSecond (effectiveTimezone tz) second).getD 0

section
variable (platform : Platform) (task : BaselineTaskSpec) (bucketId : Int)

/-- The wall clock of the zone can show the instant. -/
def WallClockFits (second : Int) (tz : String) : Prop :=
  isUtcTimezone tz = true ∨
    FitsInt64 (second + (platform.resolveLocalOffsetSecond (effectiveTimezone tz) second).getD 0)

/-- The wall clock of the entry can show both ends of the bucket. -/
def BucketShown (entry : CompiledEventCalendarEntry) : Prop :=
  entry.isAbsolute = true ∨
    WallClockFits platform (bucketId * task.delta) (entry.timezone task) ∧
      WallClockFits platform ((bucketId + 1) * task.delta) (entry.timezone task)

/-- The overlap of an entry with a bucket, without any bound on the numbers. -/
def Overlaps (entry : CompiledEventCalendarEntry) : Prop :=
  if entry.isAbsolute then
    bucketId * task.delta < entry.endTs ∧ entry.startTs < (bucketId + 1) * task.delta
  else
    ∃ rules, platform.prepareZone (entry.timezone task) = some rules ∧
      LocalOverlap rules (localWallClockSecond platform entry.startTs (entry.timezone task))
        (localWallClockSecond platform entry.endTs (entry.timezone task)) task.delta bucketId

variable {platform task bucketId}

theorem covered_bindEntries (agrees : platform.Agrees) (pos : 0 < task.delta)
    (fits : BucketFits task.delta bucketId) {entries : List CompiledEventCalendarEntry}
    {ranges bound : List CompiledEventBucketRange}
    (binds : bindEntries platform task entries ranges = .ok bound) (label : Nat) :
    Covered bound label bucketId ↔
      Covered ranges label bucketId ∨
        ∃ entry ∈ entries, entry.eventCodeIndex = label ∧
          Overlaps platform task bucketId entry := by
  induction entries generalizing ranges with
  | nil =>
      obtain rfl := Except.ok.inj binds
      simp
  | cons entry entries ih =>
      unfold bindEntries at binds
      simp only [List.mem_cons, exists_eq_or_imp, ← or_assoc]
      split at binds
      · rename_i absolute
        rw [ih binds, covered_addBucketRange pos fits, floorDiv_le_iff pos, lt_ceilDiv_iff pos]
        simp only [Overlaps, absolute, if_true]
        refine or_congr_left (or_congr_right (and_congr_right fun _ => and_comm))
      · rename_i wallClock
        split at binds
        · simp at binds
        · rename_i rules prepared
          rw [ih binds,
            covered_compileLocalBucketRanges platform (agrees.rules _ _ prepared) pos fits]
          simp [Overlaps, wallClock, prepared]

theorem int64_eq {value : Int} (fits : FitsInt64 value) : int64 value = value := by
  obtain ⟨low, high⟩ := fits
  simp only [INT64_MIN, INT64_MAX] at low high
  refine Int.bmod_eq_of_le_mul_two ?_ ?_ <;> omega

theorem localWallClockSecond_eq (agrees : platform.Agrees) {tz : String} {rules : ZoneRules}
    (prepared : platform.prepareZone tz = some rules) {second : Int} (fits : FitsInt64 second)
    (shown : WallClockFits platform second tz) :
    localWallClockSecond platform second tz = second + rules.offsetAt second := by
  rw [agrees.offset tz rules prepared second fits]
  unfold localWallClockSecond
  by_cases utc : isUtcTimezone tz = true
  · simp [utc]
  · have inRange := shown.resolve_left utc
    simp only [utc]
    cases offset : platform.resolveLocalOffsetSecond (effectiveTimezone tz) second with
    | none => simp
    | some seconds =>
        rw [offset] at inRange
        simpa using int64_eq inRange

/-- Where nothing wraps around, the test of the unbound calendar is the overlap. -/
theorem entryOverlapsBucket_iff (agrees : platform.Agrees)
    (fits : BucketFits task.delta bucketId) {entry : CompiledEventCalendarEntry}
    (prepared : entry.isAbsolute = false →
      (platform.prepareZone (entry.timezone task)).isSome = true)
    (shown : BucketShown platform task bucketId entry) :
    entryOverlapsBucket platform entry task bucketId = true ↔
      Overlaps platform task bucketId entry := by
  have start := int64_eq fits.1
  have next : bucketId * task.delta + task.delta = (bucketId + 1) * task.delta := by
    rw [Int.add_mul, Int.one_mul]
  have stop := int64_eq fits.2
  unfold entryOverlapsBucket Overlaps
  dsimp only
  rw [start, next, stop]
  cases absolute : entry.isAbsolute with
  | true => simp [intervalsOverlap]
  | false =>
      obtain ⟨rules, found⟩ := Option.isSome_iff_exists.1 (prepared absolute)
      obtain ⟨startShown, stopShown⟩ := shown.resolve_left (by simp [absolute])
      simp [found, localWallClockSecond_eq agrees found fits.1 startShown,
        localWallClockSecond_eq agrees found fits.2 stopShown, intervalsOverlap, LocalOverlap]

/-! ## Binding -/

/-- All zones of the entries could be prepared. -/
theorem bindEntries_prepared {entries : List CompiledEventCalendarEntry}
    {ranges bound : List CompiledEventBucketRange}
    (binds : bindEntries platform task entries ranges = .ok bound) :
    ∀ entry ∈ entries, entry.isAbsolute = false →
      (platform.prepareZone (entry.timezone task)).isSome = true := by
  induction entries generalizing ranges with
  | nil => simp
  | cons entry entries ih =>
      unfold bindEntries at binds
      simp only [List.mem_cons, forall_eq_or_imp]
      split at binds
      · rename_i absolute
        exact ⟨by simp [absolute], ih binds⟩
      · split at binds
        · simp at binds
        · rename_i rules prepared
          exact ⟨fun _ => by simp [prepared], ih binds⟩

theorem bindEventCalendar_ok {calendar bound : CompiledEventCalendar}
    (binds : bindEventCalendar platform calendar task = .ok bound) :
    0 < task.delta ∧ ∃ ranges, bindEntries platform task calendar.entries [] = .ok ranges ∧
      bound = { calendar with
        bucketRanges := (index (platform.sortByBegin.sort
          (merge (platform.sortByCode.sort ranges)))).1
        boundBucketSeconds := task.delta } := by
  unfold bindEventCalendar at binds
  split at binds
  · simp [bind, Except.bind, throw, throwThe, MonadExceptOf.throw] at binds
  · rename_i positive
    cases ran : bindEntries platform task calendar.entries [] with
    | error text => simp [ran, bind, Except.bind] at binds
    | ok ranges =>
        simp only [ran, bind, Except.bind, pure, Except.pure, Except.ok.injEq] at binds
        exact ⟨by omega, ranges, rfl, binds.symm⟩

theorem startOrdered_of_sortByCode (ranges : List CompiledEventBucketRange) :
    StartOrdered (platform.sortByCode.sort ranges) := by
  refine (platform.sortByCode.ordered ranges).imp fun {left right} ordered same => ?_
  simpa [byCodeThenBegin, same] using ordered

/-- The lookup in a bound calendar finds the codes of the entries that overlap the bucket. -/
theorem mem_visit_bound {calendar bound : CompiledEventCalendar}
    (binds : bindEventCalendar platform calendar task = .ok bound) (agrees : platform.Agrees)
    (fits : BucketFits task.delta bucketId) (label : Nat) :
    label ∈ visit bucketId bound.bucketRanges ↔
      ∃ entry ∈ calendar.entries, entry.eventCodeIndex = label ∧
        Overlaps platform task bucketId entry := by
  obtain ⟨positive, ranges, ran, rfl⟩ := bindEventCalendar_ok binds
  have sorted : (platform.sortByBegin.sort (merge (platform.sortByCode.sort ranges))).Pairwise
      (·.start ≤ ·.start) :=
    (platform.sortByBegin.ordered _).imp fun {left right} ordered => by
      simpa [byBegin] using ordered
  rw [mem_visit_index sorted, covered_perm (platform.sortByBegin.perm _),
    covered_merge (startOrdered_of_sortByCode ranges), covered_perm (platform.sortByCode.perm _),
    covered_bindEntries agrees positive fits ran]
  simp

/-! ## The answers -/

/-- The cells that are set in a row. -/
theorem getElem?_foldl_set {ι α : Type} (items : List ι) (holds : ι → Bool) (cell : ι → Nat)
    (value : α) (row : List α) (i : Nat) :
    (items.foldl (fun row item => if holds item then row.set (cell item) value else row) row)[i]? =
      if ∃ item ∈ items, holds item = true ∧ cell item = i then row[i]?.map (fun _ => value)
      else row[i]? := by
  induction items generalizing row with
  | nil => simp
  | cons item items ih =>
      rw [List.foldl_cons, ih]
      simp only [List.mem_cons, exists_eq_or_imp]
      by_cases here : holds item = true ∧ cell item = i
      · obtain ⟨held, rfl⟩ := here
        simp only [held, true_and, true_or, if_true]
        by_cases inside : cell item < row.length <;> simp [inside]
      · by_cases held : holds item = true
        · have elsewhere : cell item ≠ i := fun same => here ⟨held, same⟩
          simp [held, elsewhere]
        · simp [held]

/-- The entries have codes of the calendar. -/
def IndicesValid (calendar : CompiledEventCalendar) : Prop :=
  ∀ entry ∈ calendar.entries, entry.eventCodeIndex < calendar.enabledEventCodes.length

theorem hits_length (calendar : CompiledEventCalendar) :
    (hits platform calendar task bucketId).length = calendar.enabledEventCodes.length := by
  unfold hits
  suffices kept : ∀ (entries : List CompiledEventCalendarEntry) (row : List Bool),
      (entries.foldl (fun hit entry =>
        if entryOverlapsBucket platform entry task bucketId then hit.set entry.eventCodeIndex true
        else hit) row).length = row.length by
    rw [kept, List.length_replicate]
  intro entries
  induction entries with
  | nil => simp
  | cons entry entries ih =>
      intro row
      rw [List.foldl_cons, ih]
      split <;> simp

theorem hits_get {calendar : CompiledEventCalendar} {i : Nat}
    (inside : i < calendar.enabledEventCodes.length) :
    (hits platform calendar task bucketId)[i]? = some true ↔
      ∃ entry ∈ calendar.entries, entryOverlapsBucket platform entry task bucketId = true ∧
        entry.eventCodeIndex = i := by
  unfold hits
  rw [getElem?_foldl_set]
  by_cases hit : ∃ entry ∈ calendar.entries,
      entryOverlapsBucket platform entry task bucketId = true ∧ entry.eventCodeIndex = i
  · simp [hit, inside]
  · simp [hit, inside]

theorem eq_of_strictly_sorted {left right : List Nat} (leftSorted : left.Pairwise (· < ·))
    (rightSorted : right.Pairwise (· < ·)) (same : ∀ value, value ∈ left ↔ value ∈ right) :
    left = right := by
  have perm : left.Perm right :=
    (List.perm_ext_iff_of_nodup (leftSorted.imp Nat.ne_of_lt) (rightSorted.imp Nat.ne_of_lt)).2 same
  exact perm.eq_of_pairwise' (leftSorted.imp Nat.le_of_lt) (rightSorted.imp Nat.le_of_lt)

/-- The conditions under which a calendar is asked. -/
structure Asked (platform : Platform) (calendar : CompiledEventCalendar) (task : BaselineTaskSpec)
    (bucketId : Int) : Prop where
  fits : BucketFits task.delta bucketId
  shown : ∀ entry ∈ calendar.entries, BucketShown platform task bucketId entry

/-- The bound calendar finds the entries that the unbound one finds. -/
theorem mem_visit_iff {calendar bound : CompiledEventCalendar}
    (binds : bindEventCalendar platform calendar task = .ok bound) (agrees : platform.Agrees)
    (asked : Asked platform calendar task bucketId) (label : Nat) :
    label ∈ visit bucketId bound.bucketRanges ↔
      ∃ entry ∈ calendar.entries, entryOverlapsBucket platform entry task bucketId = true ∧
        entry.eventCodeIndex = label := by
  obtain ⟨-, ranges, ran, -⟩ := bindEventCalendar_ok binds
  rw [mem_visit_bound binds agrees asked.fits]
  refine exists_congr fun entry => and_congr_right fun held => ?_
  rw [entryOverlapsBucket_iff agrees asked.fits (bindEntries_prepared ran entry held)
    (asked.shown entry held), and_comm]

theorem resolveBucketEvents_bound {calendar bound : CompiledEventCalendar}
    (valid : IndicesValid calendar) (unbound : calendar.boundBucketSeconds = 0)
    (binds : bindEventCalendar platform calendar task = .ok bound) (agrees : platform.Agrees)
    (asked : Asked platform calendar task bucketId) :
    resolveBucketEvents platform bound task bucketId =
      resolveBucketEvents platform calendar task bucketId := by
  have found := mem_visit_iff binds agrees asked
  obtain ⟨positive, ranges, -, isBound⟩ := bindEventCalendar_ok binds
  have seconds : 0 < bound.boundBucketSeconds := by rw [isBound]; exact positive
  have codes : bound.enabledEventCodes = calendar.enabledEventCodes := by rw [isBound]
  have same : ((visit bucketId bound.bucketRanges).insertionSort (· ≤ ·)).dedup =
      (List.range (hits platform calendar task bucketId).length).filter
        (fun index => (hits platform calendar task bucketId)[index]? = some true) := by
    refine eq_of_strictly_sorted (sorted_unique _)
      (List.pairwise_lt_range.sublist List.filter_sublist) fun value => ?_
    rw [mem_sorted_unique, found, List.mem_filter, List.mem_range, hits_length]
    constructor
    · rintro ⟨entry, held, overlaps, rfl⟩
      refine ⟨valid entry held, ?_⟩
      simpa using (hits_get (valid entry held)).2 ⟨entry, held, overlaps, rfl⟩
    · rintro ⟨inside, hit⟩
      exact (hits_get inside).1 (by simpa using hit)
  unfold resolveBucketEvents
  simp only [if_pos seconds, unbound, lt_irrefl, if_false]
  rw [same, codes]

theorem buildEventIndicatorRow_bound {calendar bound : CompiledEventCalendar}
    (unbound : calendar.boundBucketSeconds = 0)
    (binds : bindEventCalendar platform calendar task = .ok bound) (agrees : platform.Agrees)
    (asked : Asked platform calendar task bucketId) (rowSize : Nat) :
    buildEventIndicatorRow platform bound task bucketId rowSize =
      buildEventIndicatorRow platform calendar task bucketId rowSize := by
  have found := mem_visit_iff binds agrees asked
  obtain ⟨positive, ranges, -, isBound⟩ := bindEventCalendar_ok binds
  have seconds : 0 < bound.boundBucketSeconds := by rw [isBound]; exact positive
  have codes : bound.enabledEventCodes = calendar.enabledEventCodes := by rw [isBound]
  unfold buildEventIndicatorRow
  rw [codes]
  split
  · rfl
  · simp only [unbound, lt_irrefl, if_false]
    refine congrArg some (List.ext_getElem? fun i => ?_)
    have visited := getElem?_foldl_set (visit bucketId bound.bucketRanges) (fun _ => true) id
      (1 : Rat) (List.replicate rowSize 0) i
    simp only [if_true, id, true_and] at visited
    rw [visited, getElem?_foldl_set]
    refine if_congr ?_ rfl rfl
    rw [exists_eq_right, found]

/-! ## Compiled calendars -/

theorem codeIndex_valid (codes : List String) (code : String) :
    (codeIndex codes code).1 < (codeIndex codes code).2.length ∧
      codes.length ≤ (codeIndex codes code).2.length := by
  unfold codeIndex
  split
  · rename_i known
    exact ⟨known, Nat.le_refl _⟩
  · simp

theorem compileEntries_valid {entries : List EventCalendarEntry}
    {start calendar : CompiledEventCalendar} (compiled : compileEntries entries start = .ok calendar)
    (valid : IndicesValid start) :
    IndicesValid calendar ∧ calendar.boundBucketSeconds = start.boundBucketSeconds := by
  induction entries generalizing start with
  | nil =>
      obtain rfl := Except.ok.inj compiled
      exact ⟨valid, rfl⟩
  | cons entry entries ih =>
      unfold compileEntries at compiled
      split at compiled
      · exact ih compiled valid
      · split at compiled
        · simp at compiled
        · split at compiled
          · simp at compiled
          · split at compiled
            · simp at compiled
            · obtain ⟨inside, grows⟩ := codeIndex_valid start.enabledEventCodes entry.eventCode
              split at compiled
              rename_i index codes found
              rw [found] at inside grows
              have step := @ih _ compiled
              refine step fun other held => ?_
              rcases List.mem_append.1 held with old | new
              · exact Nat.lt_of_lt_of_le (valid other old) grows
              · obtain rfl := List.mem_singleton.1 new
                exact inside

/-- Compiled without a bucket length a calendar is unbound. -/
theorem compileEventCalendar_unbound {spec : EventCalendarSpec} {clock : BaselineTaskSpec}
    {calendar : CompiledEventCalendar} (noLength : clock.delta ≤ 0)
    (compiled : compileEventCalendar platform spec clock = .ok calendar) :
    IndicesValid calendar ∧ calendar.boundBucketSeconds = 0 := by
  simp only [compileEventCalendar, if_neg (Int.not_lt.2 noLength)] at compiled
  split at compiled
  · simp [bind, Except.bind, throw, throwThe, MonadExceptOf.throw] at compiled
  · cases ran : compileEntries spec.entries
      { calendarId := spec.calendarId, calendarVersion := spec.calendarVersion } with
    | error text => simp [ran, bind, Except.bind] at compiled
    | ok plain =>
        simp only [ran, bind, Except.bind, pure, Except.pure, Except.ok.injEq] at compiled
        subst compiled
        exact compileEntries_valid ran (by simp [IndicesValid])

end

/-! ## The answers of a bound calendar -/

/-- A calendar that is bound to the buckets of a task answers as it does entry by entry, for every
bucket whose two ends fit in `int64_t` and can be shown by the wall clocks of the entries. -/
theorem bound_calendar_matches (platform : Platform) (agrees : platform.Agrees)
    (spec : EventCalendarSpec) (clock task : BaselineTaskSpec) (noLength : clock.delta ≤ 0)
    (calendar bound : CompiledEventCalendar)
    (compiled : compileEventCalendar platform spec clock = .ok calendar)
    (binds : bindEventCalendar platform calendar task = .ok bound) (bucketId : Int)
    (asked : Asked platform calendar task bucketId) :
    resolveBucketEvents platform bound task bucketId =
        resolveBucketEvents platform calendar task bucketId ∧
      ∀ rowSize, buildEventIndicatorRow platform bound task bucketId rowSize =
        buildEventIndicatorRow platform calendar task bucketId rowSize := by
  obtain ⟨valid, unbound⟩ := compileEventCalendar_unbound noLength compiled
  exact ⟨resolveBucketEvents_bound valid unbound binds agrees asked,
    buildEventIndicatorRow_bound unbound binds agrees asked⟩

/-! ## A zone with a transition -/

/-- A sort by insertion. -/
def insertionSortBy (before : CompiledEventBucketRange → CompiledEventBucketRange → Bool)
    (total : ∀ left right, before left right = false ∨ before right left = false)
    (trans : ∀ first second third, before second first = false → before third second = false →
      before third first = false) : StdSort before where
  sort ranges := ranges.insertionSort fun left right => before right left = false
  perm ranges := List.perm_insertionSort _ ranges
  ordered ranges := by
    have : Std.Total fun left right : CompiledEventBucketRange => before right left = false :=
      ⟨fun left right => total right left⟩
    have : IsTrans CompiledEventBucketRange fun left right => before right left = false :=
      ⟨trans⟩
    exact List.pairwise_insertionSort _ ranges

/-- Two hours ahead of UTC, and one until the transition at `transition`. -/
def twoHoursAhead (transition : Option Int) : Platform where
  prepareZone tz :=
    if isUtcTimezone tz then some { ruleOffsets := [0], transitions := [], offsetAt := fun _ => 0 }
    else some
      { ruleOffsets := [3600, 7200]
        transitions := transition.toList
        offsetAt := fun second => if transition.any (second < ·) then 3600 else 7200 }
  resolveLocalOffsetSecond _ second := some (if transition.any (second < ·) then 3600 else 7200)
  sortByCode := insertionSortBy byCodeThenBegin
    (fun left right => by
      unfold byCodeThenBegin
      split <;> split <;> simp_all <;> omega)
    (fun first second third => by
      unfold byCodeThenBegin
      split <;> split <;> split <;> simp_all <;> omega)
  sortByBegin := insertionSortBy byBegin
    (fun left right => by simp [byBegin]; omega)
    (fun first second third => by simp [byBegin]; omega)

theorem twoHoursAhead_agrees (transition : Option Int) : (twoHoursAhead transition).Agrees where
  rules tz rules prepared := by
    simp only [twoHoursAhead] at prepared
    split at prepared
    · obtain rfl := Option.some.inj prepared
      exact ⟨fun _ _ _ _ _ _ => rfl, fun _ _ => .inl rfl⟩
    · obtain rfl := Option.some.inj prepared
      constructor
      · intro earlier later _ _ order unchanged
        cases transition with
        | none => rfl
        | some second =>
            have here := unchanged second (by simp)
            by_cases before : earlier < second
            · have still : later < second := by omega
              simp [before, still]
            · have still : ¬ later < second := by omega
              simp [before, still]
      · intro second _
        refine .inr ?_
        dsimp only
        split <;> simp
  offset tz rules prepared second _ := by
    simp only [twoHoursAhead] at prepared ⊢
    split at prepared
    · rename_i utc
      obtain rfl := Option.some.inj prepared
      simp [utc]
    · rename_i other
      obtain rfl := Option.some.inj prepared
      simp [other]

/-- One event on the wall clock. -/
def release (startTs endTs : Int) : CompiledEventCalendar where
  calendarId := "releases"
  calendarVersion := "1"
  enabledEventCodes := ["release"]
  entries :=
    [{ eventCode := "release", alignmentMode := "local_wall_clock", startTs := startTs,
       endTs := endTs, tz := "", eventCodeIndex := 0 }]

def releaseSpec (startTs endTs : Int) : EventCalendarSpec where
  calendarId := "releases"
  calendarVersion := "1"
  entries :=
    [{ eventCode := "release", alignmentMode := "local_wall_clock", startTs := startTs,
       endTs := endTs }]

def hourly : BaselineTaskSpec := { delta := 3600, tz := "Europe/Helsinki" }

/-- The calendar bound, or itself if that fails. -/
def boundRelease (platform : Platform) (startTs endTs : Int) : CompiledEventCalendar :=
  ((bindEventCalendar platform (release startTs endTs) hourly).toOption).getD
    (release startTs endTs)

theorem bound_calendar_matches_transition :
    resolveBucketEvents (twoHoursAhead (some 10800))
        (boundRelease (twoHoursAhead (some 10800)) 9000 12600) hourly 2 =
      resolveBucketEvents (twoHoursAhead (some 10800)) (release 9000 12600) hourly 2 :=
  (bound_calendar_matches (twoHoursAhead (some 10800)) (twoHoursAhead_agrees _)
    (releaseSpec 9000 12600) {} hourly (by decide) (release 9000 12600)
    (boundRelease (twoHoursAhead (some 10800)) 9000 12600) rfl rfl 2
    ⟨by decide, fun entry held => by
      obtain rfl := List.mem_singleton.1 held
      exact .inr ⟨.inr (by decide), .inr (by decide)⟩⟩).1

/-- Both ends of the bucket fit, but the wall clock cannot show the second: its sum with the offset
wraps around, and only the bound calendar finds the event. -/
theorem wall_clock_wraps_around :
    ¬ ∀ (platform : Platform) (_ : platform.Agrees) (spec : EventCalendarSpec)
      (clock task : BaselineTaskSpec) (_ : clock.delta ≤ 0) (calendar bound : CompiledEventCalendar)
      (_ : compileEventCalendar platform spec clock = .ok calendar)
      (_ : bindEventCalendar platform calendar task = .ok bound) (bucketId : Int)
      (_ : BucketFits task.delta bucketId),
      resolveBucketEvents platform bound task bucketId =
        resolveBucketEvents platform calendar task bucketId := by
  intro always
  have same := always (twoHoursAhead none) (twoHoursAhead_agrees none)
    (releaseSpec 9223372036854766800 9223372036854766801) {} hourly (by decide)
    (release 9223372036854766800 9223372036854766801)
    (boundRelease (twoHoursAhead none) 9223372036854766800 9223372036854766801) rfl rfl
    2562047788015213 (by decide)
  revert same
  decide +kernel

end Flowsql.Baseline.EventCalendar
