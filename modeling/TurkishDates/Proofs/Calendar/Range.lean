import TurkishDates.Proofs.Calendar.DayCount

/-!
The days and seconds of a year. A real date lies between the first day of its year and that of the next,
so the representable times are those whose date has a representable year.
-/

namespace TurkishDates

namespace Date

def newYear (year : Int) : Int := dayNumber ⟨year, 1, 1⟩

theorem newYear_eq (year : Int) : newYear year = yearStart (year - 1) + 306 := by
  change yearStart (year - 1) + 306 + (1 - 1) = yearStart (year - 1) + 306
  omega

theorem newYear_mono {year later : Int} (order : year ≤ later) : newYear year ≤ newYear later := by
  rw [newYear_eq, newYear_eq]
  have starts := yearStart_mono (show year - 1 ≤ later - 1 by omega)
  omega

theorem dayNumber_lastDay (year : Int) : dayNumber ⟨year, 12, 31⟩ = newYear (year + 1) - 1 := by
  rw [newYear_eq, Int.add_sub_cancel]
  change yearStart year + 275 + (31 - 1) = yearStart year + 306 - 1
  omega

theorem IsReal.newYear_le {date : Date} (real : date.IsReal) : newYear date.year ≤ date.dayNumber := by
  obtain ⟨days, known, first, last⟩ := real
  obtain ⟨low, high⟩ := month_of_daysInMonth? known
  rw [newYear_eq]
  unfold dayNumber
  simp only
  split
  next early =>
    have begun : 10 ≤ (date.month + 9) % 12 := by omega
    have late : 306 ≤ monthStart ((date.month + 9) % 12) := by
      unfold monthStart
      omega
    omega
  next late =>
    have start : 0 ≤ monthStart ((date.month + 9) % 12) := by
      unfold monthStart
      omega
    have year := yearStart_succ (date.year - 1)
    rw [Int.sub_add_cancel] at year
    split at year <;> omega

theorem IsReal.lt_newYear {date : Date} (real : date.IsReal) :
    date.dayNumber < newYear (date.year + 1) := by
  obtain ⟨beforeNext, notNegative, beforeYearEnd⟩ := real.dayOfYear_bounds
  obtain ⟨days, known, first, last⟩ := real
  obtain ⟨low, high⟩ := month_of_daysInMonth? known
  rw [newYear_eq, Int.add_sub_cancel]
  unfold dayNumber
  simp only
  split
  next early =>
    rw [if_pos early, Int.sub_add_cancel] at beforeYearEnd
    omega
  next late =>
    have notLast : (date.month + 9) % 12 ≤ 9 := by omega
    have early : monthStart ((date.month + 9) % 12 + 1) ≤ 306 := by
      unfold monthStart
      omega
    omega

theorem IsReal.le_year_iff {date : Date} (real : date.IsReal) {year : Int} :
    year ≤ date.year ↔ newYear year ≤ date.dayNumber := by
  constructor
  · intro order
    exact Int.le_trans (newYear_mono order) real.newYear_le
  · intro order
    apply Int.not_lt.mp
    intro later
    have next := newYear_mono (show date.year + 1 ≤ year by omega)
    have before := real.lt_newYear
    omega

end Date

namespace Timestamp

theorem isReal_date (t : Timestamp) : t.date.IsReal := Date.isReal_ofDayNumber _

theorem dayNumber_date (t : Timestamp) : t.date.dayNumber = t.seconds / secondsPerDay :=
  Date.dayNumber_ofDayNumber _

theorem latestSecond_eq : latestSecond = secondsPerDay * Date.newYear (latestYear + 1) - 1 := by
  unfold latestSecond secondsPerDay
  rw [Date.dayNumber_lastDay]
  omega

theorem year_bounds (t : Timestamp) : earliestYear ≤ t.date.year ∧ t.date.year ≤ latestYear := by
  obtain ⟨after, before⟩ := t.representable
  rw [latestSecond_eq] at before
  have day := t.dayNumber_date
  unfold secondsPerDay at before day
  constructor
  · rw [t.isReal_date.le_year_iff, day]
    change 86400 * Date.newYear earliestYear ≤ t.seconds at after
    omega
  · apply Int.not_lt.mp
    intro late
    have order := t.isReal_date.le_year_iff.mp (show latestYear + 1 ≤ t.date.year from late)
    omega

theorem clock_bounds (t : Timestamp) : (0 ≤ t.hour ∧ t.hour ≤ 23) ∧ (0 ≤ t.minute ∧ t.minute ≤ 59) ∧
    0 ≤ t.second ∧ t.second ≤ 59 := by
  unfold hour minute second secondOfDay secondsPerDay
  omega

theorem seconds_of_ofParts? {date : Date} {hour minute second : Int} {t : Timestamp}
    (found : ofParts? date hour minute second = some t) :
    t.seconds = secondsPerDay * date.dayNumber + 3600 * hour + 60 * minute + second := by
  unfold ofParts? at found
  split at found
  next => exact ofSeconds?_eq_some_iff.mp found
  next => cases found

theorem second_bounds_of_ofParts? {date : Date} (real : date.IsReal) {hour minute second : Int}
    {t : Timestamp} (found : ofParts? date hour minute second = some t) :
    secondsPerDay * Date.newYear date.year ≤ t.seconds ∧
      t.seconds < secondsPerDay * Date.newYear (date.year + 1) := by
  have after := real.newYear_le
  have before := real.lt_newYear
  unfold ofParts? at found
  split at found
  next clock =>
    rw [ofSeconds?_eq_some_iff.mp found]
    unfold secondsPerDay
    omega
  next => cases found

theorem exists_ofParts? {date : Date} (real : date.IsReal) (after : earliestYear ≤ date.year)
    (before : date.year ≤ latestYear) {hour minute second : Int}
    (clock : 0 ≤ hour ∧ hour < 24 ∧ 0 ≤ minute ∧ minute < 60 ∧ 0 ≤ second ∧ second < 60) :
    ∃ t, ofParts? date hour minute second = some t ∧
      t.seconds = secondsPerDay * date.dayNumber + 3600 * hour + 60 * minute + second := by
  have notEarlier := Int.le_trans (Date.newYear_mono after) real.newYear_le
  have notLater := Int.lt_of_lt_of_le real.lt_newYear
    (Date.newYear_mono (Int.add_le_add_right before 1))
  have representable : earliestSecond ≤ secondsPerDay * date.dayNumber + 3600 * hour + 60 * minute + second ∧
      secondsPerDay * date.dayNumber + 3600 * hour + 60 * minute + second ≤ latestSecond := by
    rw [latestSecond_eq]
    change secondsPerDay * Date.newYear earliestYear ≤ _ ∧ _
    unfold secondsPerDay
    omega
  refine ⟨⟨_, representable⟩, ?_, rfl⟩
  rw [ofParts?, if_pos clock, ofSeconds?_eq_some_iff]

theorem exists_shift? {t : Timestamp} {amount : Int} (after : earliestSecond ≤ t.seconds + amount)
    (before : t.seconds + amount ≤ latestSecond) : ∃ later, t.shift? amount = some later :=
  ⟨⟨_, after, before⟩, ofSeconds?_eq_some_iff.mpr rfl⟩

end Timestamp

end TurkishDates
