import Mathlib

/-!
# Civil dates

A date of the proleptic Gregorian calendar is turned into a count of days by a closed formula over years that start in
March. The count itself is the sum of the days of the years and months that have passed.
-/

namespace Flowsql.Capture

def isLeapYear (year : Nat) : Bool :=
  year % 4 = 0 && (year % 100 ≠ 0 || year % 400 = 0)

def daysInMonth (year month : Nat) : Nat :=
  if month = 2 ∧ isLeapYear year then 29
  else [31, 28, 31, 30, 31, 30, 31, 31, 30, 31, 30, 31].getD (month - 1) 0

/-- The days from the first of January 1970 to a date. -/
def daysFromCivil (year : Int) (month day : Nat) : Int :=
  let year := if month ≤ 2 then year - 1 else year
  let era := (if year ≥ 0 then year else year - 399).tdiv 400
  let yearOfEra := ((year - era * 400) % 2 ^ 32).toNat
  let shiftedMonth := if month > 2 then month - 3 else month + 9
  let dayOfYear := (153 * shiftedMonth + 2) / 5 + day - 1
  let dayOfEra := yearOfEra * 365 + yearOfEra / 4 - yearOfEra / 100 + dayOfYear
  era * 146097 + dayOfEra - 719468

/-! ## The count of days -/

def daysInYear (year : Nat) : Nat :=
  if isLeapYear year then 366 else 365

/-- The days from the first of January of the year 1 to a date. -/
def dayNumber (year month day : Nat) : Nat :=
  ∑ passed ∈ Finset.Ico 1 year, daysInYear passed + ∑ passed ∈ Finset.Ico 1 month, daysInMonth year passed + (day - 1)

def daysSinceEpoch (year month day : Nat) : Int :=
  dayNumber year month day - dayNumber 1970 1 1

theorem isLeapYear_iff {year : Nat} :
    isLeapYear year = true ↔ year % 4 = 0 ∧ (year % 100 ≠ 0 ∨ year % 400 = 0) := by
  simp [isLeapYear]

theorem daysInMonth_le (year month : Nat) : daysInMonth year month ≤ 31 := by
  rw [daysInMonth]
  split
  · decide
  · rw [List.getD_eq_getElem?_getD]
    cases found : [31, 28, 31, 30, 31, 30, 31, 31, 30, 31, 30, 31][month - 1]? with
    | none => decide
    | some days =>
        have bounded : ∀ days ∈ [31, 28, 31, 30, 31, 30, 31, 31, 30, 31, 30, 31], days ≤ 31 := by decide
        exact bounded days (List.mem_of_getElem? found)

/-- The days of so many years from the year 1 on. -/
def elapsed (years : Nat) : Nat :=
  365 * years + years / 4 - years / 100 + years / 400

theorem elapsed_succ (years : Nat) : elapsed (years + 1) = elapsed years + daysInYear (years + 1) := by
  have fourth : (years + 1) / 4 = years / 4 + if (years + 1) % 4 = 0 then 1 else 0 := by split <;> omega
  have century : (years + 1) / 100 = years / 100 + if (years + 1) % 100 = 0 then 1 else 0 := by split <;> omega
  have era : (years + 1) / 400 = years / 400 + if (years + 1) % 400 = 0 then 1 else 0 := by split <;> omega
  have fewer : years / 100 ≤ years / 4 := by omega
  have leap : (if isLeapYear (years + 1) = true then 366 else 365) + (if (years + 1) % 100 = 0 then 1 else 0) =
      365 + (if (years + 1) % 4 = 0 then 1 else 0) + if (years + 1) % 400 = 0 then 1 else 0 := by
    simp only [isLeapYear_iff]
    split_ifs <;> omega
  rw [elapsed, elapsed, daysInYear, fourth, century, era]
  omega

theorem daysOfYears {year : Nat} (positive : 1 ≤ year) :
    ∑ passed ∈ Finset.Ico 1 year, daysInYear passed = elapsed (year - 1) := by
  induction year, positive using Nat.le_induction with
  | base => rfl
  | succ year positive ih =>
      rw [Finset.sum_Ico_succ_top positive, ih, Nat.add_sub_cancel]
      obtain ⟨before, rfl⟩ := Nat.exists_eq_add_of_le' positive
      exact (elapsed_succ before).symm

/-- The months before a month, with the days from March on in the closed form. -/
theorem daysOfMonths (year : Nat) {month : Nat} (first : 1 ≤ month) (last : month ≤ 12) :
    ∑ passed ∈ Finset.Ico 1 month, daysInMonth year passed =
      if month ≤ 2 then 31 * (month - 1)
      else 59 + (if isLeapYear year then 1 else 0) + (153 * (month - 3) + 2) / 5 := by
  unfold daysInMonth
  generalize isLeapYear year = leap
  interval_cases month <;> cases leap <;> rfl

theorem yearOfEra_eq (year : Nat) :
    (((year : Int) - (year : Int).tdiv 400 * 400) % 2 ^ 32).toNat = year % 400 := by
  rw [Int.tdiv_eq_ediv_of_nonneg (by omega)]
  omega

/-- The eras of a closed formula are those of the count of leap years. -/
theorem daysOfEra (year : Nat) :
    (year : Int).tdiv 400 * 146097 + (year % 400 * 365 + year % 400 / 4 - year % 400 / 100 : Nat) = elapsed year := by
  have era : (year : Int).tdiv 400 = (year / 400 : Nat) := Int.tdiv_eq_ediv_of_nonneg (by omega)
  have fourth : year / 4 = 100 * (year / 400) + year % 400 / 4 := by omega
  have century : year / 100 = 4 * (year / 400) + year % 400 / 100 := by omega
  have days : 365 * year = 146000 * (year / 400) + year % 400 * 365 := by omega
  have fewer : year % 400 / 100 ≤ year % 400 / 4 := by omega
  rw [era, elapsed, fourth, century, days]
  omega

/-- The formula is the count of the days. -/
theorem daysFromCivil_eq {year month day : Nat} (positive : 1 ≤ year) (first : 1 ≤ month) (last : month ≤ 12)
    (started : 1 ≤ day) : daysFromCivil year month day = daysSinceEpoch year month day := by
  have epoch : dayNumber 1970 1 1 = 719162 := by
    rw [dayNumber, daysOfYears (by decide)]
    rfl
  rw [daysSinceEpoch, epoch, dayNumber, daysOfYears positive, daysOfMonths year first last]
  by_cases early : month ≤ 2
  · have late : ¬ month > 2 := by omega
    have previous : (year : Int) - 1 = (year - 1 : Nat) := by omega
    have eras := daysOfEra (year - 1)
    simp only [daysFromCivil, if_pos early, if_neg late, previous, if_pos (Int.natCast_nonneg _), ge_iff_le,
      yearOfEra_eq]
    omega
  · have late : month > 2 := by omega
    have eras := daysOfEra year
    have leap := elapsed_succ (year - 1)
    rw [Nat.sub_add_cancel positive, daysInYear] at leap
    simp only [daysFromCivil, if_neg early, if_pos late, if_pos (Int.natCast_nonneg _), ge_iff_le, yearOfEra_eq]
    by_cases leaps : isLeapYear year = true
    · rw [if_pos leaps] at leap ⊢
      omega
    · rw [if_neg leaps] at leap ⊢
      omega

end Flowsql.Capture
