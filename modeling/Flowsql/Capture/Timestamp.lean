import Flowsql.Capture.CivilDate
import Flowsql.Library.Decimals

/-!
# Timestamps of packet filters

A timestamp is a date and a time of day with an explicit offset. The parser looks at fixed places for the date and
the time, and behind them at a fraction of a second and the offset. What it accepts is compared with the spellings of
the moments of the calendar.
-/

namespace Flowsql.Capture.Timestamp

open Decimals

/-! ## The parser -/

inductive ErrorCode where
  | EINVAL
  | EOVERFLOW
  deriving DecidableEq

structure Failure where
  code : ErrorCode
  message : String
  deriving DecidableEq

/-- What the caller sees. No code is success. -/
structure Answer where
  code : Option ErrorCode
  output : Int
  error : String
  deriving DecidableEq

def require (holds : Prop) [Decidable holds] (code : ErrorCode) (message : String) : Except Failure Unit :=
  if holds then .ok () else .error ⟨code, message⟩

def parseDigits (text : List Char) (offset count : Nat) : Option Nat :=
  if offset > text.length ∨ count > text.length - offset then none
  else number ((text.drop offset).take count)

structure Civil where
  year : Nat
  month : Nat
  day : Nat
  hour : Nat
  minute : Nat
  second : Nat
  deriving DecidableEq

/-- The characters at fixed places. -/
def LaidOut (text : List Char) : Prop :=
  20 ≤ text.length ∧ text[4]? = some '-' ∧ text[7]? = some '-' ∧ (text[10]? = some 'T' ∨ text[10]? = some 't') ∧
    text[13]? = some ':' ∧ text[16]? = some ':'

instance (text : List Char) : Decidable (LaidOut text) :=
  inferInstanceAs (Decidable (_ ∧ _))

def parseComponents (text : List Char) : Option Civil := do
  let year ← parseDigits text 0 4
  let month ← parseDigits text 5 2
  let day ← parseDigits text 8 2
  let hour ← parseDigits text 11 2
  let minute ← parseDigits text 14 2
  let second ← parseDigits text 17 2
  return ⟨year, month, day, hour, minute, second⟩

def parseCivil (text : List Char) : Except Failure Civil :=
  match parseComponents text with
  | none => .error ⟨.EINVAL, "timestamp date and time components must be decimal digits"⟩
  | some civil =>
      if civil.year = 0 ∨ civil.month < 1 ∨ civil.month > 12 ∨ civil.day < 1 ∨
          civil.day > daysInMonth civil.year civil.month ∨ civil.hour > 23 ∨ civil.minute > 59 ∨ civil.second > 59 then
        .error ⟨.EINVAL, "timestamp date or time component is out of range"⟩
      else .ok civil

/-- The loop over the digits of a fraction, with the digits read and their number. -/
def readFraction : Nat → Nat → List Char → Except Failure (Nat × Nat × List Char)
  | count, value, [] => .ok (count, value, [])
  | count, value, c :: rest =>
      if c.isDigit then
        if count = 9 then .error ⟨.EINVAL, "timestamp fractional seconds exceed nanosecond precision"⟩
        else readFraction (count + 1) (value * 10 + digitValue c) rest
      else .ok (count, value, c :: rest)

/-- The nanoseconds of a fraction, and what follows it. -/
def parseFraction : List Char → Except Failure (Nat × List Char)
  | '.' :: rest => do
      let (count, value, rest) ← readFraction 0 0 rest
      require (count ≠ 0) .EINVAL "timestamp fractional seconds must contain digits"
      return (value * 10 ^ (9 - count), rest)
  | rest => .ok (0, rest)

/-- The minutes of an offset, and what follows it. -/
def parseZone (text : List Char) : Except Failure (Int × List Char) :=
  if text[0]? = some 'Z' ∨ text[0]? = some 'z' then .ok (0, text.drop 1)
  else do
    require ((text[0]? = some '+' ∨ text[0]? = some '-') ∧ text.length = 6 ∧ text[3]? = some ':') .EINVAL
      "timestamp must include Z or an explicit HH:MM offset"
    match parseDigits text 1 2, parseDigits text 4 2 with
    | some hour, some minute =>
        require (hour ≤ 23 ∧ minute ≤ 59) .EINVAL "timestamp UTC offset is invalid"
        let minutes : Int := hour * 60 + minute
        return (if text[0]? = some '-' then -minutes else minutes, text.drop 6)
    | _, _ => .error ⟨.EINVAL, "timestamp UTC offset is invalid"⟩

/-- The nanoseconds from the epoch to a local date and time with an offset. -/
def epochNs (civil : Civil) (fractionalNs : Nat) (offsetMinutes : Int) : Int :=
  let days := daysFromCivil civil.year civil.month civil.day
  let localSeconds := days * 86400 + civil.hour * 3600 + civil.minute * 60 + civil.second
  let utcSeconds := localSeconds - offsetMinutes * 60
  utcSeconds * 1000000000 + fractionalNs

/-- A count fits into a signed word of 64 bits. -/
def Fits (count : Int) : Prop :=
  -2 ^ 63 ≤ count ∧ count ≤ 2 ^ 63 - 1

instance (count : Int) : Decidable (Fits count) :=
  inferInstanceAs (Decidable (_ ∧ _))

def parse (text : List Char) : Except Failure Int := do
  require (LaidOut text) .EINVAL "timestamp must be RFC3339 with an explicit UTC offset"
  let civil ← parseCivil text
  let (fractionalNs, rest) ← parseFraction (text.drop 19)
  let (offsetMinutes, rest) ← parseZone rest
  require (rest = []) .EINVAL "timestamp contains trailing characters"
  require (Fits (epochNs civil fractionalNs offsetMinutes)) .EOVERFLOW
    "timestamp is outside the epoch-nanosecond int64 range"
  return epochNs civil fractionalNs offsetMinutes

/-- `ParseRfc3339TimestampNs`. Every failure sets the output to zero. -/
def parseRfc3339TimestampNs (text : List Char) : Answer :=
  match parse text with
  | .ok count => ⟨none, count, ""⟩
  | .error failure => ⟨some failure.code, 0, failure.message⟩

example : parseRfc3339TimestampNs "1969-12-31t23:00:00.5-01:00".toList = ⟨none, 500000000, ""⟩ := by
  decide +kernel

/-! ## Moments -/

inductive Zone where
  | utc
  | offset (west : Bool) (hour minute : Nat)

namespace Zone

def minutes : Zone → Int
  | .utc => 0
  | .offset west hour minute => if west then -(hour * 60 + minute) else hour * 60 + minute

def Valid : Zone → Prop
  | .utc => True
  | .offset _ hour minute => hour ≤ 23 ∧ minute ≤ 59

def Spelled : Zone → List Char → Prop
  | .utc, text => text = ['Z'] ∨ text = ['z']
  | .offset west hour minute, text =>
      text = (if west then '-' else '+') :: (digits 2 hour ++ ':' :: digits 2 minute)

end Zone

/-- The digits behind a decimal point: how many, and their number. -/
structure Fraction where
  count : Nat
  value : Nat
  least : 1 ≤ count
  most : count ≤ 9
  small : value < 10 ^ count

namespace Fraction

def nanoseconds : Option Fraction → Nat
  | none => 0
  | some fraction => fraction.value * 10 ^ (9 - fraction.count)

def spelling : Option Fraction → List Char
  | none => []
  | some fraction => '.' :: digits fraction.count fraction.value

end Fraction

/-- A date of the calendar with a time of day. -/
structure Civil.Valid (civil : Civil) : Prop where
  year : 1 ≤ civil.year ∧ civil.year ≤ 9999
  month : 1 ≤ civil.month ∧ civil.month ≤ 12
  day : 1 ≤ civil.day ∧ civil.day ≤ daysInMonth civil.year civil.month
  hour : civil.hour ≤ 23
  minute : civil.minute ≤ 59
  second : civil.second ≤ 59

def Civil.spelling (civil : Civil) (letter : Char) : List Char :=
  digits 4 civil.year ++ '-' :: (digits 2 civil.month ++ '-' :: (digits 2 civil.day ++ letter ::
    (digits 2 civil.hour ++ ':' :: (digits 2 civil.minute ++ ':' :: digits 2 civil.second))))

structure Moment where
  civil : Civil
  fraction : Option Fraction
  zone : Zone
  date : civil.Valid
  offset : zone.Valid

namespace Moment

/-- The nanoseconds from the epoch, by the count of the days. -/
def instant (moment : Moment) : Int :=
  let civil := moment.civil
  (daysSinceEpoch civil.year civil.month civil.day * 86400 + civil.hour * 3600 + civil.minute * 60 + civil.second -
    moment.zone.minutes * 60) * 10 ^ 9 + Fraction.nanoseconds moment.fraction

def Spelled (moment : Moment) (text : List Char) : Prop :=
  ∃ letter zone, (letter = 'T' ∨ letter = 't') ∧ moment.zone.Spelled zone ∧
    text = moment.civil.spelling letter ++ (Fraction.spelling moment.fraction ++ zone)

end Moment

/-! ## Steps of the parser -/

theorem bind_ok {α β : Type} {first : Except Failure α} {next : α → Except Failure β} {result : β} :
    (first >>= next) = .ok result ↔ ∃ value, first = .ok value ∧ next value = .ok result := by
  cases first <;> simp [bind, Except.bind]

theorem require_ok {holds : Prop} [Decidable holds] {code : ErrorCode} {message : String} {answer : Unit} :
    require holds code message = .ok answer ↔ holds := by
  rw [require]
  split <;> simp [*]

/-- A character at a place starts what stands from there on. -/
theorem getElem?_iff {text : List Char} {offset : Nat} {c : Char} :
    text[offset]? = some c ↔ text.drop offset = c :: text.drop (offset + 1) := by
  constructor
  · intro there
    obtain ⟨inside, rfl⟩ := List.getElem?_eq_some_iff.mp there
    exact List.drop_eq_getElem_cons inside
  · intro starts
    rw [← List.head?_drop, starts, List.head?_cons]

theorem parseDigits_iff {text : List Char} {offset count value : Nat} (positive : 0 < count) :
    parseDigits text offset count = some value ↔
      text.drop offset = digits count value ++ text.drop (offset + count) ∧ value < 10 ^ count := by
  have parts := (List.take_append_drop count (text.drop offset)).symm
  rw [List.drop_drop] at parts
  constructor
  · intro read
    rw [parseDigits] at read
    split at read
    · exact nomatch read
    next enough =>
      have width : ((text.drop offset).take count).length = count := by
        rw [List.length_take, List.length_drop]
        omega
      obtain ⟨row, small⟩ := number_iff.mp read
      rw [width] at row small
      exact ⟨by rw [← row]; exact parts, small⟩
  · rintro ⟨row, small⟩
    have width := congrArg List.length row
    rw [List.length_append, length_digits, List.length_drop, List.length_drop] at width
    rw [parseDigits, if_neg (by omega), row, List.take_left' (length_digits count value)]
    exact number_digits small

theorem drop_digits {text rest : List Char} {offset count value : Nat}
    (starts : text.drop offset = digits count value ++ rest) : text.drop (offset + count) = rest := by
  rw [← List.drop_drop, starts, List.drop_left' (length_digits count value)]

theorem drop_char {text rest : List Char} {offset : Nat} {c : Char} (starts : text.drop offset = c :: rest) :
    text.drop (offset + 1) = rest := by
  rw [← List.drop_drop, starts, List.drop_one, List.tail_cons]

theorem parseComponents_iff {text : List Char} {civil : Civil} :
    parseComponents text = some civil ↔
      (text.drop 0 = digits 4 civil.year ++ text.drop 4 ∧ civil.year < 10 ^ 4) ∧
      (text.drop 5 = digits 2 civil.month ++ text.drop 7 ∧ civil.month < 10 ^ 2) ∧
      (text.drop 8 = digits 2 civil.day ++ text.drop 10 ∧ civil.day < 10 ^ 2) ∧
      (text.drop 11 = digits 2 civil.hour ++ text.drop 13 ∧ civil.hour < 10 ^ 2) ∧
      (text.drop 14 = digits 2 civil.minute ++ text.drop 16 ∧ civil.minute < 10 ^ 2) ∧
      (text.drop 17 = digits 2 civil.second ++ text.drop 19 ∧ civil.second < 10 ^ 2) := by
  simp only [parseComponents, Option.bind_eq_bind, Option.bind_eq_some_iff, Option.pure_def, Option.some.injEq,
    parseDigits_iff (show 0 < 4 by decide), parseDigits_iff (show 0 < 2 by decide)]
  constructor
  · rintro ⟨year, years, month, months, day, days, hour, hours, minute, minutes, second, seconds, rfl⟩
    exact ⟨years, months, days, hours, minutes, seconds⟩
  · rintro ⟨years, months, days, hours, minutes, seconds⟩
    exact ⟨_, years, _, months, _, days, _, hours, _, minutes, _, seconds, rfl⟩

theorem parseCivil_iff {text : List Char} {civil : Civil} :
    parseCivil text = .ok civil ↔ parseComponents text = some civil ∧ civil.Valid := by
  rw [parseCivil]
  cases components : parseComponents text with
  | none => simp
  | some found =>
      have fourDigits : found.year < 10 ^ 4 := (parseComponents_iff.mp components).1.2
      simp only [Option.some.injEq]
      constructor
      · intro accepted
        split at accepted
        · exact nomatch accepted
        next inRange =>
          cases accepted
          exact ⟨rfl, ⟨by omega, by omega, by omega, by omega, by omega, by omega⟩⟩
      · rintro ⟨rfl, valid⟩
        obtain ⟨year, month, day, hour, minute, second⟩ := valid
        rw [if_neg (by omega)]

theorem drop_spelling (civil : Civil) (letter : Char) (rest : List Char) :
    (civil.spelling letter ++ rest).drop 19 = rest :=
  List.drop_left' (by simp [Civil.spelling])

/-- The places of the date and the time are those of a spelling. -/
theorem civil_iff {text : List Char} {civil : Civil} (valid : civil.Valid) :
    LaidOut text ∧ parseComponents text = some civil ↔
      ∃ letter rest, (letter = 'T' ∨ letter = 't') ∧ rest ≠ [] ∧ text = civil.spelling letter ++ rest := by
  rw [parseComponents_iff, LaidOut]
  simp only [getElem?_iff]
  constructor
  · rintro ⟨⟨long, four, seven, ten, thirteen, sixteen⟩, ⟨year, -⟩, ⟨month, -⟩, ⟨day, -⟩, ⟨hour, -⟩, ⟨minute, -⟩,
      second, -⟩
    have spelled {letter : Char} (ten : text.drop 10 = letter :: text.drop 11) :
        text = civil.spelling letter ++ text.drop 19 := by
      rw [four, month, seven, day, ten, hour, thirteen, minute, sixteen, second] at year
      simpa [Civil.spelling] using year
    have more : text.drop 19 ≠ [] := by
      rw [Ne, List.drop_eq_nil_iff]
      omega
    obtain ten | ten := ten
    · exact ⟨'T', _, .inl rfl, more, spelled ten⟩
    · exact ⟨'t', _, .inr rfl, more, spelled ten⟩
  · rintro ⟨letter, rest, either, more, spelled⟩
    have long : 20 ≤ text.length := by
      have := List.length_pos_iff.mpr more
      simp only [spelled, Civil.spelling, List.length_append, List.length_cons, length_digits]
      omega
    have start : text.drop 0 = digits 4 civil.year ++ '-' :: (digits 2 civil.month ++ '-' :: (digits 2 civil.day ++
        letter :: (digits 2 civil.hour ++ ':' :: (digits 2 civil.minute ++ ':' :: (digits 2 civil.second ++ rest))))) := by
      rw [List.drop_zero, spelled]
      simp [Civil.spelling]
    have four : text.drop 4 = _ := drop_digits start
    have five : text.drop 5 = _ := drop_char four
    have seven : text.drop 7 = _ := drop_digits five
    have eight : text.drop 8 = _ := drop_char seven
    have ten : text.drop 10 = _ := drop_digits eight
    have eleven : text.drop 11 = _ := drop_char ten
    have thirteen : text.drop 13 = _ := drop_digits eleven
    have fourteen : text.drop 14 = _ := drop_char thirteen
    have sixteen : text.drop 16 = _ := drop_digits fourteen
    have seventeen : text.drop 17 = _ := drop_char sixteen
    have nineteen : text.drop 19 = _ := drop_digits seventeen
    obtain ⟨⟨-, years⟩, ⟨-, months⟩, ⟨-, days⟩, hours, minutes, seconds⟩ := valid
    have fewDays : civil.day < 10 ^ 2 := by
      have := days.trans (daysInMonth_le _ _)
      omega
    refine ⟨⟨long, by rw [four, five], by rw [seven, eight], ?_, by rw [thirteen, fourteen], by rw [sixteen, seventeen]⟩,
      ⟨by rw [start, four], by omega⟩, ⟨by rw [five, seven], by omega⟩, ⟨by rw [eight, ten], fewDays⟩,
      ⟨by rw [eleven, thirteen], by omega⟩, ⟨by rw [fourteen, sixteen], by omega⟩,
      by rw [seventeen, nineteen], by omega⟩
    rw [ten, eleven]
    exact either.imp (fun same => by rw [same]) fun same => by rw [same]

/-! ## Fractions and offsets -/

section Fractions

variable {seen more text rest : List Char} {value count result : Nat}

theorem number_nil : number [] = some 0 := rfl

theorem number_next (read : number seen = some value) {c : Char} (digit : c.isDigit = true) :
    number (seen ++ [c]) = some (value * 10 + digitValue c) := by
  rw [number_concat, read, Option.bind_some, addDigit, if_pos digit]

theorem readFraction_ok (read : number seen = some value) (short : seen.length ≤ 9)
    (accepted : readFraction seen.length value text = .ok (count, result, rest)) :
    ∃ more, text = more ++ rest ∧ number (seen ++ more) = some result ∧ (seen ++ more).length = count ∧ count ≤ 9 := by
  induction text generalizing seen value with
  | nil =>
      cases accepted
      exact ⟨[], rfl, by rwa [List.append_nil], by rw [List.append_nil], short⟩
  | cons c text ih =>
      rw [readFraction] at accepted
      split at accepted
      next digit =>
        split at accepted
        · exact nomatch accepted
        next notFull =>
          have width : (seen ++ [c]).length = seen.length + 1 := by simp
          obtain ⟨more, rfl, found, rest⟩ := ih (number_next read digit) (by omega) (by rwa [width])
          exact ⟨c :: more, rfl, by simpa using found, by simpa using rest⟩
      next =>
        cases accepted
        exact ⟨[], rfl, by rwa [List.append_nil], by rw [List.append_nil], short⟩

theorem readFraction_digits (read : number seen = some value) (found : number (seen ++ more) = some result)
    (short : (seen ++ more).length ≤ 9) (ends : ∀ c, rest.head? = some c → c.isDigit = false) :
    readFraction seen.length value (more ++ rest) = .ok ((seen ++ more).length, result, rest) := by
  induction more generalizing seen value with
  | nil =>
      rw [List.append_nil] at found
      cases Option.some.inj (read.symm.trans found)
      cases rest with
      | nil => simp [readFraction]
      | cons c rest => simp [readFraction, ends c rfl]
  | cons c more ih =>
      have digit : c.isDigit = true := isDigit_of_number found (by simp)
      have width : (seen ++ [c]).length = seen.length + 1 := by simp
      have notFull : seen.length ≠ 9 := by
        rw [List.length_append, List.length_cons] at short
        omega
      have joined : seen ++ [c] ++ more = seen ++ c :: more := by simp
      rw [List.cons_append, readFraction, if_pos digit, if_neg notFull, ← width,
        ih (number_next read digit) (by rwa [joined]) (by rwa [joined]), joined]

theorem parseFraction_ok {nanoseconds : Nat} (accepted : parseFraction text = .ok (nanoseconds, rest)) :
    ∃ fraction, text = Fraction.spelling fraction ++ rest ∧ nanoseconds = Fraction.nanoseconds fraction := by
  rw [parseFraction.eq_def] at accepted
  split at accepted
  next behind =>
    simp only [bind_ok, require_ok] at accepted
    obtain ⟨⟨count, value, after⟩, read, -, filled, ended⟩ := accepted
    cases ended
    obtain ⟨more, rfl, found, width, short⟩ := readFraction_ok number_nil (by decide) read
    obtain ⟨row, small⟩ := number_iff.mp found
    rw [List.nil_append] at width row
    rw [width] at row
    exact ⟨some ⟨count, value, by omega, short, by simpa [width] using small⟩, by rw [Fraction.spelling, ← row]; rfl, rfl⟩
  · cases accepted
    exact ⟨none, rfl, rfl⟩

theorem parseFraction_spelling (fraction : Option Fraction)
    (ends : ∀ c, rest.head? = some c → c.isDigit = false ∧ c ≠ '.') :
    parseFraction (Fraction.spelling fraction ++ rest) = .ok (Fraction.nanoseconds fraction, rest) := by
  cases fraction with
  | none =>
      rw [Fraction.spelling, List.nil_append, parseFraction.eq_2]
      · rfl
      · rintro behind rfl
        exact (ends '.' rfl).2 rfl
  | some fraction =>
      have found : number ([] ++ digits fraction.count fraction.value) = _ := number_digits fraction.small
      have read := readFraction_digits number_nil found (by simpa using fraction.most) fun c starts => (ends c starts).1
      rw [List.nil_append, length_digits] at read
      have least := fraction.least
      simp only [Fraction.spelling, List.cons_append, parseFraction, bind_ok, require_ok]
      exact ⟨_, read, (), by omega, rfl⟩

end Fractions

theorem parseZone_ok {text : List Char} {minutes : Int} (accepted : parseZone text = .ok (minutes, [])) :
    ∃ zone : Zone, zone.Valid ∧ zone.Spelled text ∧ minutes = zone.minutes := by
  rw [parseZone] at accepted
  simp only [getElem?_iff] at accepted
  split at accepted
  next utc =>
    obtain ⟨rfl, last⟩ := Prod.mk.inj (Except.ok.inj accepted)
    rw [List.drop_zero, last] at utc
    exact ⟨.utc, trivial, utc, rfl⟩
  next =>
    simp only [bind_ok, require_ok] at accepted
    obtain ⟨-, ⟨sign, width, colon⟩, accepted⟩ := accepted
    split at accepted
    next hour minute hours minutes =>
      simp only [bind_ok, require_ok] at accepted
      obtain ⟨-, inRange, ended⟩ := accepted
      obtain ⟨hours, -⟩ := (parseDigits_iff (by decide)).mp hours
      obtain ⟨minutes, -⟩ := (parseDigits_iff (by decide)).mp minutes
      obtain ⟨rfl, last⟩ := Prod.mk.inj (Except.ok.inj ended)
      rw [last, List.append_nil] at minutes
      rw [colon, minutes] at hours
      rw [hours, List.drop_zero] at sign
      refine ⟨.offset (text.drop 0 = '-' :: text.drop 1) hour minute, inRange, ?_, by simp [Zone.minutes]⟩
      obtain plus | minus := sign
      · simp [Zone.Spelled, plus]
      · simp [Zone.Spelled, minus]
    next => exact nomatch accepted

theorem parseZone_spelled {zone : Zone} {text : List Char} (valid : zone.Valid) (spelled : zone.Spelled text) :
    parseZone text = .ok (zone.minutes, []) := by
  cases zone with
  | utc => obtain rfl | rfl := spelled <;> rfl
  | offset west hour minute =>
      have start : text.drop 0 = (if west then '-' else '+') :: (digits 2 hour ++ ':' :: (digits 2 minute ++ [])) := by
        rw [List.append_nil]
        exact spelled
      have one : text.drop 1 = _ := drop_char start
      have three : text.drop 3 = _ := drop_digits one
      have four : text.drop 4 = _ := drop_char three
      have six : text.drop 6 = [] := drop_digits four
      obtain ⟨hours, minutes⟩ := valid
      have readHour : parseDigits text 1 2 = some hour :=
        (parseDigits_iff (by decide)).mpr ⟨by rw [one, three], by omega⟩
      have readMinute : parseDigits text 4 2 = some minute :=
        (parseDigits_iff (by decide)).mpr ⟨by rw [four, six], by omega⟩
      have sign : text[0]? = some (if west then '-' else '+') := getElem?_iff.mpr (by rw [start, one])
      have colon : text[3]? = some ':' := getElem?_iff.mpr (by rw [three, four])
      have width : text.length = 6 := by
        rw [← List.drop_zero (l := text), start]
        simp
      rw [parseZone, sign, if_neg (by cases west <;> decide)]
      simp only [bind_ok, require_ok, readHour, readMinute]
      refine ⟨(), ⟨by cases west <;> decide, width, colon⟩, (), ⟨hours, minutes⟩, ?_⟩
      cases west <;> simp [Zone.minutes, six, pure, Except.pure]

theorem Zone.Spelled.head {zone : Zone} {text : List Char} (spelled : zone.Spelled text) :
    text ≠ [] ∧ ∀ c, text.head? = some c → c.isDigit = false ∧ c ≠ '.' := by
  cases zone with
  | utc => obtain rfl | rfl := spelled <;> simp
  | offset west hour minute =>
      cases west <;> subst spelled <;> simp

/-! ## The whole timestamp -/

theorem epochNs_eq (moment : Moment) :
    epochNs moment.civil (Fraction.nanoseconds moment.fraction) moment.zone.minutes = moment.instant := by
  have date := moment.date
  rw [epochNs, daysFromCivil_eq date.year.1 date.month.1 date.month.2 date.day.1]
  rfl

theorem parse_ok {text : List Char} {count : Int} (accepted : parse text = .ok count) :
    ∃ moment : Moment, moment.Spelled text ∧ Fits moment.instant ∧ count = moment.instant := by
  simp only [parse, bind_ok, require_ok] at accepted
  obtain ⟨-, places, civil, date, ⟨nanoseconds, behind⟩, fractionRead, ⟨minutes, last⟩, zoneRead, -, rfl, -, fits,
    ended⟩ := accepted
  cases ended
  obtain ⟨components, valid⟩ := parseCivil_iff.mp date
  obtain ⟨letter, rest, either, -, rfl⟩ := (civil_iff valid).mp ⟨places, components⟩
  rw [drop_spelling] at fractionRead
  obtain ⟨fraction, rfl, rfl⟩ := parseFraction_ok fractionRead
  obtain ⟨zone, offset, spelled, rfl⟩ := parseZone_ok zoneRead
  have same := epochNs_eq ⟨civil, fraction, zone, valid, offset⟩
  exact ⟨⟨civil, fraction, zone, valid, offset⟩, ⟨letter, behind, either, spelled, rfl⟩, same ▸ fits, same⟩

theorem parse_spelled {text : List Char} {moment : Moment} (spelled : moment.Spelled text)
    (fits : Fits moment.instant) : parse text = .ok moment.instant := by
  obtain ⟨letter, zone, either, spelled, rfl⟩ := spelled
  obtain ⟨nonempty, head⟩ := spelled.head
  have more : Fraction.spelling moment.fraction ++ zone ≠ [] := by simp [nonempty]
  obtain ⟨places, components⟩ := (civil_iff moment.date).mpr ⟨letter, _, either, more, rfl⟩
  rw [← epochNs_eq] at fits ⊢
  simp only [parse, bind_ok, require_ok, drop_spelling]
  exact ⟨(), places, _, parseCivil_iff.mpr ⟨components, moment.date⟩, _, parseFraction_spelling moment.fraction head, _,
    parseZone_spelled moment.offset spelled, (), rfl, (), fits, rfl⟩

/-- A text is accepted when it spells a moment that a word of nanoseconds holds, and the output is that moment. -/
theorem timestamp_exact (text : List Char) :
    ((parseRfc3339TimestampNs text).code = none ↔
      ∃ moment : Moment, moment.Spelled text ∧ Fits moment.instant) ∧
    (∀ moment : Moment, moment.Spelled text → Fits moment.instant →
      parseRfc3339TimestampNs text = ⟨none, moment.instant, ""⟩) ∧
    ((parseRfc3339TimestampNs text).code ≠ none → (parseRfc3339TimestampNs text).output = 0) := by
  have accepts {moment : Moment} (spelled : moment.Spelled text) (fits : Fits moment.instant) :
      parseRfc3339TimestampNs text = ⟨none, moment.instant, ""⟩ := by
    rw [parseRfc3339TimestampNs, parse_spelled spelled fits]
  refine ⟨⟨fun accepted => ?_, ?_⟩, fun _ => accepts, fun failed => ?_⟩
  · rw [parseRfc3339TimestampNs] at accepted
    split at accepted
    next count run =>
      obtain ⟨moment, spelled, fits, -⟩ := parse_ok run
      exact ⟨moment, spelled, fits⟩
    next => exact nomatch accepted
  · rintro ⟨moment, spelled, fits⟩
    rw [accepts spelled fits]
  · rw [parseRfc3339TimestampNs] at failed ⊢
    split at failed
    · exact absurd rfl failed
    · rfl

end Flowsql.Capture.Timestamp
