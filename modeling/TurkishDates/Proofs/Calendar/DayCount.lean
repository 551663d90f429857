import Mathlib.Tactic.IntervalCases
import TurkishDates.Calendar.Timestamp

/-!
The count of days and the table of month lengths agree. Every day number reads back as a date that the
table knows, and every such date as its day number, so a date exists in the count when its day lies
within its month.
-/

namespace TurkishDates

theorem isLeap_iff (year : Int) :
    isLeap year = true ↔ year % 4 = 0 ∧ year % 100 ≠ 0 ∨ year % 400 = 0 := by
  have whole (n : Int) : year.tmod n = 0 ↔ year % n = 0 := by
    rw [← Int.dvd_iff_tmod_eq_zero, ← Int.dvd_iff_emod_eq_zero]
  simp only [isLeap, Bool.or_eq_true, Bool.and_eq_true, beq_iff_eq, bne_iff_ne, ne_eq, whole]

theorem not_isLeap_beside {year : Int} (leap : isLeap year = true) :
    isLeap (year - 1) = false ∧ isLeap (year + 1) = false := by
  rw [isLeap_iff] at leap
  constructor
  · rw [← Bool.not_eq_true, isLeap_iff]
    omega
  · rw [← Bool.not_eq_true, isLeap_iff]
    omega

/-- February ends the counting year; every other month ends where the next one begins. -/
theorem daysInMonth?_eq {year month : Int} (first : 1 ≤ month) (last : month ≤ 12) :
    daysInMonth? year month = some (if month = 2 then if isLeap year then 29 else 28
      else Date.monthStart ((month + 9) % 12 + 1) - Date.monthStart ((month + 9) % 12)) := by
  interval_cases month <;> cases leap : isLeap year <;>
    simp [daysInMonth?, commonMonthLengths, Date.monthStart, leap]

theorem daysInMonth?_eq_none {year month : Int} (outside : ¬(1 ≤ month ∧ month ≤ 12)) :
    daysInMonth? year month = none := by
  unfold daysInMonth?
  split
  · rfl
  · rw [List.getElem?_eq_none, Option.map_none]
    simp only [commonMonthLengths, List.length_cons, List.length_nil]
    omega

theorem month_of_daysInMonth? {year month days : Int} (known : daysInMonth? year month = some days) :
    1 ≤ month ∧ month ≤ 12 := by
  by_contra outside
  rw [daysInMonth?_eq_none outside] at known
  cases known

namespace Date

theorem yearStart_mono {year later : Int} (order : year ≤ later) : yearStart year ≤ yearStart later := by
  unfold yearStart
  omega

/-- A counting year has a leap day when the year that it ends in is a leap year. -/
theorem yearStart_succ (year : Int) :
    yearStart (year + 1) = yearStart year + if isLeap (year + 1) then 366 else 365 := by
  unfold yearStart
  split
  next leap =>
    rw [isLeap_iff] at leap
    omega
  next common =>
    rw [isLeap_iff] at common
    omega

theorem yearStart_countingYear_le (number : Int) : yearStart (countingYear number) ≤ number := by
  unfold countingYear
  simp only
  split
  · assumption
  · split
    · assumption
    · unfold yearStart at *
      omega

theorem lt_yearStart_countingYear (number : Int) : number < yearStart (countingYear number + 1) := by
  unfold countingYear
  simp only
  split
  · unfold yearStart at *
    omega
  · split
    · omega
    · unfold yearStart at *
      omega

theorem countingYear_eq {number year : Int} (after : yearStart year ≤ number)
    (before : number < yearStart (year + 1)) : countingYear number = year := by
  have low := yearStart_countingYear_le number
  have high := lt_yearStart_countingYear number
  apply Int.le_antisymm
  · apply Int.not_lt.mp
    intro later
    have order := yearStart_mono (show year + 1 ≤ countingYear number by omega)
    omega
  · apply Int.not_lt.mp
    intro earlier
    have order := yearStart_mono (show countingYear number + 1 ≤ year by omega)
    omega

/-- Whether the day lies within its month, by the table of month lengths. -/
def IsReal (date : Date) : Prop :=
  ∃ days, daysInMonth? date.year date.month = some days ∧ 1 ≤ date.day ∧ date.day ≤ days

theorem isReal_february_iff {year day : Int} :
    IsReal ⟨year, 2, day⟩ ↔ 1 ≤ day ∧ day ≤ if isLeap year then 29 else 28 := by
  have length : daysInMonth? year 2 = some (if isLeap year then 29 else 28) :=
    daysInMonth?_eq (by decide) (by decide)
  constructor
  · intro ⟨days, known, first, last⟩
    obtain rfl := Option.some.inj (length.symm.trans known)
    exact ⟨first, last⟩
  · intro ⟨first, last⟩
    exact ⟨_, length, first, last⟩

theorem IsReal.of_month_ne_two {date : Date} (real : date.IsReal) (other : date.month ≠ 2) (year : Int) :
    IsReal ⟨year, date.month, date.day⟩ := by
  obtain ⟨days, known, first, last⟩ := real
  obtain ⟨low, high⟩ := month_of_daysInMonth? known
  rw [daysInMonth?_eq low high, if_neg other] at known
  refine ⟨days, ?_, first, last⟩
  rw [daysInMonth?_eq low high, if_neg other, known]

theorem isReal_beside_iff {date : Date} (real : date.IsReal) {year : Int}
    (beside : year = date.year - 1 ∨ year = date.year + 1) :
    IsReal ⟨year, date.month, date.day⟩ ↔ ¬(date.month = 2 ∧ date.day = 29) := by
  by_cases february : date.month = 2
  · obtain ⟨thisYear, month, day⟩ := date
    obtain rfl : month = 2 := february
    rw [isReal_february_iff] at real ⊢
    cases leap : isLeap thisYear with
    | true =>
      obtain ⟨before, after⟩ := not_isLeap_beside leap
      have common : isLeap year = false := by
        cases beside with
        | inl earlier => rw [earlier, before]
        | inr later => rw [later, after]
      simp only [leap, common, if_true, Bool.false_eq_true, if_false, true_and] at real ⊢
      omega
    | false =>
      simp only [leap, Bool.false_eq_true, if_false, true_and] at real ⊢
      split <;> omega
  · have there := real.of_month_ne_two february year
    exact ⟨fun _ leapDay => february leapDay.1, fun _ => there⟩

theorem beginsYear_iff {month : Int} (low : 1 ≤ month) (high : month ≤ 12) :
    month ≤ 2 ↔ ¬ (month + 9) % 12 < 10 := by
  omega

theorem month_of_dayOfYear {month dayOfYear : Int} (after : monthStart month ≤ dayOfYear)
    (before : dayOfYear < monthStart (month + 1)) : (5 * dayOfYear + 2) / 153 = month := by
  unfold monthStart at *
  omega

theorem monthStart_le (dayOfYear : Int) : monthStart ((5 * dayOfYear + 2) / 153) ≤ dayOfYear := by
  unfold monthStart
  omega

theorem lt_monthStart (dayOfYear : Int) :
    dayOfYear < monthStart ((5 * dayOfYear + 2) / 153 + 1) := by
  unfold monthStart
  omega

theorem IsReal.dayOfYear_bounds {date : Date} (real : date.IsReal) :
    let month := (date.month + 9) % 12
    let dayOfYear := monthStart month + (date.day - 1)
    let year := if date.month ≤ 2 then date.year - 1 else date.year
    dayOfYear < monthStart (month + 1) ∧ 0 ≤ dayOfYear ∧
      yearStart year + dayOfYear < yearStart (year + 1) := by
  intro month dayOfYear year
  obtain ⟨days, known, first, last⟩ := real
  obtain ⟨low, high⟩ := month_of_daysInMonth? known
  rw [daysInMonth?_eq low high, Option.some.injEq] at known
  rw [yearStart_succ]
  by_cases february : date.month = 2
  · have ended : year + 1 = date.year := by
      simp only [year, february, Int.le_refl, if_true]
      omega
    have begun : month = 11 := by
      simp only [month, february]
      decide
    rw [if_pos february] at known
    simp only [dayOfYear, begun, ended, monthStart]
    split at known
    next leap =>
      simp only [leap, if_true]
      omega
    next common =>
      simp only [common]
      omega
  · rw [if_neg february] at known
    have notLast : month ≤ 10 := by
      simp only [month]
      omega
    have notBefore : 0 ≤ month := by
      simp only [month]
      omega
    change monthStart (month + 1) - monthStart month = days at known
    have within : dayOfYear < monthStart (month + 1) := by
      simp only [dayOfYear]
      omega
    refine ⟨within, ?_, ?_⟩
    · simp only [dayOfYear, monthStart]
      omega
    · have short : monthStart (month + 1) ≤ 337 := by
        unfold monthStart
        omega
      split
      · omega
      · omega

theorem ofDayNumber_dayNumber {date : Date} (real : date.IsReal) : ofDayNumber date.dayNumber = date := by
  obtain ⟨beforeNext, notNegative, beforeYearEnd⟩ := real.dayOfYear_bounds
  obtain ⟨days, known, first, last⟩ := real
  obtain ⟨low, high⟩ := month_of_daysInMonth? known
  obtain ⟨year, month, day⟩ := date
  simp only at *
  have counted : countingYear (dayNumber ⟨year, month, day⟩) = if month ≤ 2 then year - 1 else year := by
    apply countingYear_eq
    · simp only [dayNumber]
      omega
    · simp only [dayNumber]
      omega
  have index : (5 * (monthStart ((month + 9) % 12) + (day - 1)) + 2) / 153 = (month + 9) % 12 :=
    month_of_dayOfYear (by omega) beforeNext
  have dayOfYear : dayNumber ⟨year, month, day⟩ - yearStart (if month ≤ 2 then year - 1 else year) =
      monthStart ((month + 9) % 12) + (day - 1) := by
    simp only [dayNumber]
    omega
  simp only [ofDayNumber, counted, dayOfYear, index]
  by_cases early : month ≤ 2
  · have afterDecember : ¬ (month + 9) % 12 < 10 := (beginsYear_iff low high).mp early
    rw [if_neg afterDecember, if_pos early]
    congr 1
    · omega
    · omega
    · omega
  · have untilDecember : (month + 9) % 12 < 10 := Int.not_le.mp fun late =>
      early ((beginsYear_iff low high).mpr (Int.not_lt.mpr late))
    rw [if_pos untilDecember, if_neg early]
    congr 1
    · omega
    · omega

/-- The counting year of a day, its month from March on, and where it lies in both. -/
theorem place_of_dayNumber (number : Int) :
    let dayOfYear := number - yearStart (countingYear number)
    let month := (5 * dayOfYear + 2) / 153
    0 ≤ month ∧ month ≤ 11 ∧ monthStart month ≤ dayOfYear ∧ dayOfYear < monthStart (month + 1) ∧
      dayOfYear < if isLeap (countingYear number + 1) then 366 else 365 := by
  intro dayOfYear month
  have after := yearStart_countingYear_le number
  have before := lt_yearStart_countingYear number
  rw [yearStart_succ] at before
  have withinYear : dayOfYear < if isLeap (countingYear number + 1) then 366 else 365 := by
    simp only [dayOfYear]
    omega
  refine ⟨?_, ?_, monthStart_le dayOfYear, lt_monthStart dayOfYear, withinYear⟩
  · simp only [month]
    omega
  · simp only [month]
    split at withinYear <;> omega

theorem isReal_ofDayNumber (number : Int) : (ofDayNumber number).IsReal := by
  obtain ⟨notNegative, notMore, after, before, withinYear⟩ := place_of_dayNumber number
  unfold ofDayNumber
  simp only
  generalize number - yearStart (countingYear number) = dayOfYear at *
  generalize (5 * dayOfYear + 2) / 153 = month at *
  split
  next untilDecember =>
    have same : (month + 3 + 9) % 12 = month := by omega
    have notFebruary : ¬ month + 3 = 2 := by omega
    refine ⟨_, daysInMonth?_eq (show 1 ≤ month + 3 by omega) (show month + 3 ≤ 12 by omega), ?_, ?_⟩
    · simp only
      omega
    · simp only [same, if_neg notFebruary]
      omega
  next afterDecember =>
    have same : (month - 9 + 9) % 12 = month := by omega
    refine ⟨_, daysInMonth?_eq (show 1 ≤ month - 9 by omega) (show month - 9 ≤ 12 by omega), ?_, ?_⟩
    · simp only
      omega
    · by_cases february : month = 11
      · subst february
        have late : monthStart 11 = 337 := by decide
        rw [if_pos (show (11 : Int) - 9 = 2 by decide)]
        simp only [late]
        split
        next leap =>
          rw [if_pos leap] at withinYear
          omega
        next common =>
          rw [if_neg common] at withinYear
          omega
      · have notFebruary : ¬ month - 9 = 2 := by omega
        simp only [same, if_neg notFebruary]
        omega

theorem dayNumber_ofDayNumber (number : Int) : (ofDayNumber number).dayNumber = number := by
  obtain ⟨notNegative, notMore, -⟩ := place_of_dayNumber number
  unfold ofDayNumber
  simp only
  generalize place : number - yearStart (countingYear number) = dayOfYear at *
  generalize (5 * dayOfYear + 2) / 153 = month at *
  split
  next untilDecember =>
    have same : (month + 3 + 9) % 12 = month := by omega
    have late : ¬ month + 3 ≤ 2 := by omega
    simp only [dayNumber, same, if_neg late]
    omega
  next afterDecember =>
    have same : (month - 9 + 9) % 12 = month := by omega
    have early : month - 9 ≤ 2 := by omega
    simp only [dayNumber, same, if_pos early, Int.add_sub_cancel]
    omega

theorem ofParts?_eq_some_iff {year month day : Int} {date : Date} :
    ofParts? year month day = some date ↔
      date = ⟨year, month, day⟩ ∧ earliestYear ≤ year ∧ year ≤ latestYear ∧ date.IsReal := by
  simp only [ofParts?]
  constructor
  · intro found
    split at found
    next holds =>
      obtain ⟨after, before, same⟩ := holds
      obtain rfl := Option.some.inj found
      refine ⟨rfl, after, before, ?_⟩
      rw [← same]
      exact isReal_ofDayNumber _
    next => cases found
  · intro ⟨same, after, before, real⟩
    subst same
    rw [if_pos ⟨after, before, ofDayNumber_dayNumber real⟩]

end Date

end TurkishDates
