import Mathlib.Tactic.IntervalCases
import TurkishDates.Proofs.Calendar.Range

/-!
Months one after the other, counted from January of the year 0. Each of them begins where the one before
ends, so real dates are in the order of their months, and within a month in the order of their days.
-/

namespace TurkishDates

namespace Date

def months (date : Date) : Int := 12 * date.year + (date.month - 1)

def newMonth (months : Int) : Int := dayNumber ⟨months / 12, months % 12 + 1, 1⟩

theorem year_eq_months {date : Date} (first : 1 ≤ date.month) (last : date.month ≤ 12) :
    date.months / 12 = date.year := by
  unfold months
  omega

theorem month_eq_months {date : Date} (first : 1 ≤ date.month) (last : date.month ≤ 12) :
    date.months % 12 + 1 = date.month := by
  unfold months
  omega

theorem dayNumber_eq_newMonth {date : Date} (first : 1 ≤ date.month) (last : date.month ≤ 12) :
    date.dayNumber = newMonth date.months + (date.day - 1) := by
  rw [newMonth, year_eq_months first last, month_eq_months first last]
  simp only [dayNumber]
  omega

/-- A month is as long as the table says, in a year that runs from January to December. -/
theorem dayNumber_next_month {year month days : Int} (known : daysInMonth? year month = some days) :
    (if month = 12 then newYear (year + 1) else dayNumber ⟨year, month + 1, 1⟩) =
      dayNumber ⟨year, month, 1⟩ + days := by
  obtain ⟨low, high⟩ := month_of_daysInMonth? known
  rw [daysInMonth?_eq low high, Option.some.injEq] at known
  have leapDay := yearStart_succ (year - 1)
  rw [Int.sub_add_cancel] at leapDay
  have next : newYear (year + 1) = yearStart year + 306 := by
    rw [newYear_eq, Int.add_sub_cancel]
  cases leap : isLeap year <;> rw [leap] at known leapDay <;> interval_cases month <;>
    simp [dayNumber, monthStart] at known leapDay ⊢ <;> omega

theorem newMonth_succ {months days : Int}
    (known : daysInMonth? (months / 12) (months % 12 + 1) = some days) :
    newMonth (months + 1) = newMonth months + days := by
  rw [newMonth, newMonth, ← dayNumber_next_month known]
  split
  next december =>
    have year : (months + 1) / 12 = months / 12 + 1 := by omega
    have month : (months + 1) % 12 = 0 := by omega
    rw [year, month, newYear, Int.zero_add]
  next earlier =>
    have year : (months + 1) / 12 = months / 12 := by omega
    have month : (months + 1) % 12 = months % 12 + 1 := by omega
    rw [year, month]

theorem newMonth_lt_succ (months : Int) : newMonth months < newMonth (months + 1) := by
  have first : 1 ≤ months % 12 + 1 := by omega
  have last : months % 12 + 1 ≤ 12 := by omega
  rw [newMonth_succ (daysInMonth?_eq first last)]
  unfold monthStart
  split
  · split <;> omega
  · omega

theorem newMonth_mono {months later : Int} (order : months ≤ later) : newMonth months ≤ newMonth later := by
  induction later, order using Int.leInduction with
  | base => exact Int.le_refl _
  | succ later _ ih => exact Int.le_trans ih (Int.le_of_lt (newMonth_lt_succ later))

theorem IsReal.month_bounds {date : Date} (real : date.IsReal) : 1 ≤ date.month ∧ date.month ≤ 12 := by
  obtain ⟨days, known, -⟩ := real
  exact month_of_daysInMonth? known

theorem IsReal.day_bounds {date : Date} (real : date.IsReal) : 1 ≤ date.day ∧ date.day ≤ 31 := by
  obtain ⟨low, high⟩ := real.month_bounds
  obtain ⟨days, known, first, last⟩ := real
  rw [daysInMonth?_eq low high, Option.some.injEq] at known
  refine ⟨first, Int.le_trans last ?_⟩
  rw [← known]
  unfold monthStart
  split
  · split <;> decide
  · omega

theorem IsReal.newMonth_le {date : Date} (real : date.IsReal) : newMonth date.months ≤ date.dayNumber := by
  rw [dayNumber_eq_newMonth real.month_bounds.1 real.month_bounds.2]
  obtain ⟨days, known, first, last⟩ := real
  omega

theorem IsReal.lt_newMonth {date : Date} (real : date.IsReal) :
    date.dayNumber < newMonth (date.months + 1) := by
  obtain ⟨low, high⟩ := real.month_bounds
  obtain ⟨days, known, first, last⟩ := real
  rw [← year_eq_months low high, ← month_eq_months low high] at known
  rw [newMonth_succ known, dayNumber_eq_newMonth low high]
  omega

theorem IsReal.year_and_month_eq {date later : Date} (real : date.IsReal) (real' : later.IsReal)
    (same : date.months = later.months) : later.year = date.year ∧ later.month = date.month := by
  obtain ⟨january, december⟩ := real.month_bounds
  obtain ⟨january', december'⟩ := real'.month_bounds
  unfold months at same
  omega

theorem IsReal.dayNumber_le {date later : Date} (real : date.IsReal) (real' : later.IsReal)
    (order : date.months ≤ later.months) (days : date.months = later.months → date.day ≤ later.day) :
    date.dayNumber ≤ later.dayNumber := by
  rcases Int.lt_or_eq_of_le order with earlier | same
  · have before := real.lt_newMonth
    have next := newMonth_mono (show date.months + 1 ≤ later.months from earlier)
    have after := real'.newMonth_le
    omega
  · rw [dayNumber_eq_newMonth real.month_bounds.1 real.month_bounds.2,
      dayNumber_eq_newMonth real'.month_bounds.1 real'.month_bounds.2, same]
    have inMonth := days same
    omega

theorem IsReal.dayNumber_le_iff {date later : Date} (real : date.IsReal) (real' : later.IsReal) :
    date.dayNumber ≤ later.dayNumber ↔
      date.months < later.months ∨ date.months = later.months ∧ date.day ≤ later.day := by
  constructor
  · intro order
    have count := dayNumber_eq_newMonth real.month_bounds.1 real.month_bounds.2
    have count' := dayNumber_eq_newMonth real'.month_bounds.1 real'.month_bounds.2
    rcases Int.lt_trichotomy date.months later.months with earlier | same | reversed
    · exact .inl earlier
    · rw [same] at count
      exact .inr ⟨same, by omega⟩
    · have next := newMonth_mono (show later.months + 1 ≤ date.months from reversed)
      have before := real'.lt_newMonth
      have after := real.newMonth_le
      omega
  · rintro (earlier | ⟨same, days⟩)
    · exact real.dayNumber_le real' (Int.le_of_lt earlier) fun same => by omega
    · exact real.dayNumber_le real' (Int.le_of_eq same) fun _ => days

end Date

end TurkishDates
