import Mathlib
import Flowsql.Library.IntervalIndex

/-!
# Event calendars

A calendar says in which periods its events take place, as instants or by the wall clock of a zone.
Unbound, it is asked for a bucket entry by entry. Bound to the length of the buckets it is compiled
into ranges of bucket ids, which are merged and searched as an index.
-/

namespace Flowsql.Baseline.EventCalendar

open Flowsql.Library

def INT64_MIN : Int := -9223372036854775808

def INT64_MAX : Int := 9223372036854775807

def FitsInt64 (value : Int) : Prop := INT64_MIN ≤ value ∧ value ≤ INT64_MAX

instance (value : Int) : Decidable (FitsInt64 value) :=
  inferInstanceAs (Decidable (_ ∧ _))

/-- A sum or a product of `int64_t` values. -/
def int64 (value : Int) : Int := Int.bmod value 18446744073709551616

/-! ## Zones and sorting -/

/-- What the zone library knows of a zone: the offsets of its rules, all its transitions, and the
offset at an instant, all in seconds. -/
structure ZoneRules where
  ruleOffsets : List Int
  transitions : List Int
  offsetAt : Int → Int

namespace ZoneRules

def minOffset (rules : ZoneRules) : Int := rules.ruleOffsets.foldl min 0

def maxOffset (rules : ZoneRules) : Int := rules.ruleOffsets.foldl max 0

/-- The first transition after `cursor`. -/
def getNextTransition (rules : ZoneRules) (cursor : Int) : Option Int :=
  (rules.transitions.filter (cursor < ·)).min?

end ZoneRules

/-- A range of bucket ids, its label the index of an event code. -/
abbrev CompiledEventBucketRange := IntervalIndex.Span Int Nat

/-- A sort that may put equals in any order. -/
structure StdSort (before : CompiledEventBucketRange → CompiledEventBucketRange → Bool) where
  sort : List CompiledEventBucketRange → List CompiledEventBucketRange
  perm : ∀ ranges, (sort ranges).Perm ranges
  ordered : ∀ ranges, (sort ranges).Pairwise fun left right => before right left = false

/-- The order before ranges are merged, and that of the index. -/
def byCodeThenBegin (lhs rhs : CompiledEventBucketRange) : Bool :=
  if lhs.label ≠ rhs.label then decide (lhs.label < rhs.label) else decide (lhs.start < rhs.start)

def byBegin (lhs rhs : CompiledEventBucketRange) : Bool := decide (lhs.start < rhs.start)

/-- What the calendar builds on: `PrepareZone` and `ResolveLocalOffsetSecond`, which may both fail,
and the two sorts. -/
structure Platform where
  prepareZone : String → Option ZoneRules
  resolveLocalOffsetSecond : String → Int → Option Int
  sortByCode : StdSort byCodeThenBegin
  sortByBegin : StdSort byBegin

/-! ## Calendars -/

structure EventCalendarEntry where
  eventCode : String
  alignmentMode : String
  startTs : Int
  endTs : Int
  enabled : Bool := true
  tz : String := ""

structure EventCalendarSpec where
  calendarId : String
  calendarVersion : String
  entries : List EventCalendarEntry

/-- `BaselineTaskSpec`: the length of the buckets, and the zone of entries that name none. -/
structure BaselineTaskSpec where
  delta : Int := 0
  tz : String := ""

structure CompiledEventCalendarEntry where
  eventCode : String
  alignmentMode : String
  startTs : Int
  endTs : Int
  tz : String
  eventCodeIndex : Nat

structure CompiledEventCalendar where
  calendarId : String
  calendarVersion : String
  enabledEventCodes : List String := []
  entries : List CompiledEventCalendarEntry := []
  boundBucketSeconds : Int := 0
  bucketRanges : List CompiledEventBucketRange := []

def CompiledEventCalendarEntry.isAbsolute (entry : CompiledEventCalendarEntry) : Bool :=
  entry.alignmentMode = "absolute_utc"

/-- The zone of an entry. -/
def CompiledEventCalendarEntry.timezone (entry : CompiledEventCalendarEntry)
    (task : BaselineTaskSpec) : String :=
  if entry.tz.isEmpty then task.tz else entry.tz

def isAllowedAlignment (alignmentMode : String) : Bool :=
  alignmentMode = "absolute_utc" || alignmentMode = "local_wall_clock"

/-! ## Wall clocks -/

def effectiveTimezone (tz : String) : String := if tz.isEmpty then "UTC" else tz

def isUtcTimezone (tz : String) : Bool :=
  effectiveTimezone tz = "UTC" || effectiveTimezone tz = "Etc/UTC" || effectiveTimezone tz = "GMT"

section
variable (platform : Platform)

def localWallClockSecond (utcEpochSecond : Int) (tz : String) : Int :=
  if isUtcTimezone tz then utcEpochSecond
  else
    match platform.resolveLocalOffsetSecond (effectiveTimezone tz) utcEpochSecond with
    | none => utcEpochSecond
    | some offsetSecond => int64 (utcEpochSecond + offsetSecond)

/-! ## Entry by entry -/

def intervalsOverlap (lhsStart lhsEnd rhsStart rhsEnd : Int) : Bool :=
  decide (lhsStart < rhsEnd) && decide (rhsStart < lhsEnd)

def entryOverlapsBucket (entry : CompiledEventCalendarEntry) (task : BaselineTaskSpec)
    (bucketId : Int) : Bool :=
  let bucketStartUtc := int64 (bucketId * task.delta)
  let bucketEndUtc := int64 (bucketStartUtc + task.delta)
  if entry.isAbsolute then
    intervalsOverlap bucketStartUtc bucketEndUtc entry.startTs entry.endTs
  else
    let eventTz := entry.timezone task
    intervalsOverlap
      (localWallClockSecond platform bucketStartUtc eventTz)
      (localWallClockSecond platform bucketEndUtc eventTz)
      (localWallClockSecond platform entry.startTs eventTz)
      (localWallClockSecond platform entry.endTs eventTz)

end

/-! ## Ranges of buckets -/

def floorDiv (value divisor : Int) : Int :=
  value.tdiv divisor - if value.tmod divisor < 0 then 1 else 0

def ceilDiv (value divisor : Int) : Int := - floorDiv (-value) divisor

/-- The first bucket whose ends fit in `int64_t`, and the one after the last. -/
def firstBucket (delta : Int) : Int := ceilDiv INT64_MIN delta

def bucketLimit (delta : Int) : Int := floorDiv (INT64_MAX - delta) delta + 1

def addBucketRange (start stop delta : Int) (code : Nat)
    (ranges : List CompiledEventBucketRange) : List CompiledEventBucketRange :=
  let start := max start (firstBucket delta)
  let stop := min stop (bucketLimit delta)
  if start < stop then
    ranges ++ [{ start := start, stop := stop, subtreeStop := 0, label := code }]
  else
    ranges

/-- The loop over the transitions, which finds at most as many as there are. -/
def transitionBoundaries (rules : ZoneRules) (delta start stop limit : Int) : Nat → Int → List Int
  | 0, _ => []
  | left + 1, cursor =>
      match rules.getNextTransition cursor with
      | none => []
      | some transition =>
          if transition ≤ limit then
            let firstNewStart := ceilDiv transition delta
            -- A bucket that ends behind the transition has different offsets at its two ends.
            [firstNewStart - 1, firstNewStart].filter (fun boundary =>
              decide (start < boundary) && decide (boundary < stop)) ++
              transitionBoundaries rules delta start stop limit left transition
          else
            []

/-- The ranges between the boundaries. -/
def segmentRanges (rules : ZoneRules) (localBegin localEnd delta : Int) (code : Nat) :
    List Int → List CompiledEventBucketRange → List CompiledEventBucketRange
  | first :: second :: boundaries, ranges =>
      let startOffset := rules.offsetAt (first * delta)
      let endOffset := rules.offsetAt ((first + 1) * delta)
      segmentRanges rules localBegin localEnd delta code (second :: boundaries)
        (addBucketRange (max first (floorDiv (localBegin - endOffset) delta))
          (min second (ceilDiv (localEnd - startOffset) delta)) delta code ranges)
  | _, ranges => ranges

section
variable (platform : Platform)

def compileLocalBucketRanges (entry : CompiledEventCalendarEntry) (timezone : String)
    (rules : ZoneRules) (delta : Int) (ranges : List CompiledEventBucketRange) :
    List CompiledEventBucketRange :=
  let localBegin := localWallClockSecond platform entry.startTs timezone
  let localEnd := localWallClockSecond platform entry.endTs timezone
  let start := max (floorDiv (localBegin - rules.maxOffset) delta) (firstBucket delta)
  let stop := min (ceilDiv (localEnd - rules.minOffset) delta) (bucketLimit delta)
  if stop ≤ start then ranges
  else
    let boundaries := [start, stop] ++
      transitionBoundaries rules delta start stop (stop * delta) rules.transitions.length
        (start * delta)
    segmentRanges rules localBegin localEnd delta entry.eventCodeIndex
      (boundaries.insertionSort (· ≤ ·)).dedup ranges

/-- The loop of `BindEventCalendar`. -/
def bindEntries (task : BaselineTaskSpec) :
    List CompiledEventCalendarEntry → List CompiledEventBucketRange →
      Except String (List CompiledEventBucketRange)
  | [], ranges => .ok ranges
  | entry :: entries, ranges =>
      if entry.isAbsolute then
        bindEntries task entries
          (addBucketRange (floorDiv entry.startTs task.delta) (ceilDiv entry.endTs task.delta)
            task.delta entry.eventCodeIndex ranges)
      else
        match platform.prepareZone (entry.timezone task) with
        | none => .error "event calendar timezone rules could not be compiled"
        | some rules =>
            bindEntries task entries
              (compileLocalBucketRanges platform entry (entry.timezone task) rules task.delta ranges)

def bindEventCalendar (calendar : CompiledEventCalendar) (task : BaselineTaskSpec) :
    Except String CompiledEventCalendar := do
  if task.delta ≤ 0 then
    throw "event calendar binding requires a positive task bucket length"
  let ranges ← bindEntries platform task calendar.entries []
  let merged := IntervalIndex.merge (platform.sortByCode.sort ranges)
  pure { calendar with
    bucketRanges := (IntervalIndex.index (platform.sortByBegin.sort merged)).1
    boundBucketSeconds := task.delta }

/-! ## Compiling a calendar -/

/-- The index of an event code, which is added if it is not there. -/
def codeIndex (codes : List String) (code : String) : Nat × List String :=
  if codes.idxOf code < codes.length then (codes.idxOf code, codes)
  else (codes.length, codes ++ [code])

/-- The loop of `CompileEventCalendar`. -/
def compileEntries : List EventCalendarEntry → CompiledEventCalendar →
    Except String CompiledEventCalendar
  | [], calendar => .ok calendar
  | entry :: entries, calendar =>
      if !entry.enabled then compileEntries entries calendar
      else if entry.eventCode.isEmpty then .error "event_code must not be empty"
      else if !isAllowedAlignment entry.alignmentMode then .error "alignment_mode is invalid"
      else if entry.endTs ≤ entry.startTs then .error "event interval must be positive"
      else
        let (index, codes) := codeIndex calendar.enabledEventCodes entry.eventCode
        compileEntries entries
          { calendar with
            enabledEventCodes := codes
            entries := calendar.entries ++
              [{ eventCode := entry.eventCode
                 alignmentMode := entry.alignmentMode
                 startTs := entry.startTs
                 endTs := entry.endTs
                 tz := entry.tz
                 eventCodeIndex := index }] }

def compileEventCalendar (spec : EventCalendarSpec) (task : BaselineTaskSpec) :
    Except String CompiledEventCalendar := do
  if spec.calendarId.isEmpty || spec.calendarVersion.isEmpty then
    throw "calendar_id and calendar_version must not be empty"
  let calendar ← compileEntries spec.entries
    { calendarId := spec.calendarId, calendarVersion := spec.calendarVersion }
  if 0 < task.delta then bindEventCalendar platform calendar task else pure calendar

/-! ## Asking a calendar -/

/-- The codes that an entry of an unbound calendar hits. -/
def hits (calendar : CompiledEventCalendar) (task : BaselineTaskSpec) (bucketId : Int) :
    List Bool :=
  calendar.entries.foldl
    (fun hit entry =>
      if entryOverlapsBucket platform entry task bucketId then hit.set entry.eventCodeIndex true
      else hit)
    (List.replicate calendar.enabledEventCodes.length false)

def resolveBucketEvents (calendar : CompiledEventCalendar) (task : BaselineTaskSpec)
    (bucketId : Int) : List String :=
  if 0 < calendar.boundBucketSeconds then
    let codes := IntervalIndex.visit bucketId calendar.bucketRanges
    (codes.insertionSort (· ≤ ·)).dedup.filterMap (calendar.enabledEventCodes[·]?)
  else
    let hit := hits platform calendar task bucketId
    ((List.range hit.length).filter (fun index => hit[index]? = some true)).filterMap
      (calendar.enabledEventCodes[·]?)

/-- The row has a 1 for the codes of the events that hit the bucket. A row that is too short is
refused. -/
def buildEventIndicatorRow (calendar : CompiledEventCalendar) (task : BaselineTaskSpec)
    (bucketId : Int) (rowSize : Nat) : Option (List Rat) :=
  if rowSize < calendar.enabledEventCodes.length then none
  else
    let zeros : List Rat := List.replicate rowSize 0
    some <| if 0 < calendar.boundBucketSeconds then
      (IntervalIndex.visit bucketId calendar.bucketRanges).foldl (fun row code => row.set code 1)
        zeros
    else
      calendar.entries.foldl
        (fun row entry =>
          if entryOverlapsBucket platform entry task bucketId then row.set entry.eventCodeIndex 1
          else row)
        zeros

end

end Flowsql.Baseline.EventCalendar
