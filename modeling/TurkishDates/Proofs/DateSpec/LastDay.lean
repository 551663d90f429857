import TurkishDates.Proofs.DateSpec.CapturedDays

/-!
The last day of a month. The table of month lengths has exactly the dates that exist in the count of days, so a
description that asks for the last day of a month names the last date of it that there is.
-/

namespace TurkishDates

theorem one_le_of_daysInMonth? {year month days : Int} (known : daysInMonth? year month = some days) : 1 ≤ days := by
  obtain ⟨first, last⟩ := month_of_daysInMonth? known
  obtain ⟨days', known', long⟩ := DateSpec.exists_daysInMonth? year ⟨first, last⟩
  have same := Option.some.inj (known.symm.trans known')
  omega

namespace Date

variable {year month day : Int}

theorem isSome_ofParts?_iff : (ofParts? year month day).isSome = true ↔
    earliestYear ≤ year ∧ year ≤ latestYear ∧ IsReal ⟨year, month, day⟩ := by
  rw [Option.isSome_iff_exists]
  simp only [ofParts?_eq_some_iff, exists_eq_left]

def IsLastDay (year month day : Int) : Prop :=
  (ofParts? year month day).isSome = true ∧ ∀ later, (ofParts? year month later).isSome = true → later ≤ day

theorem isLastDay_iff (after : earliestYear ≤ year) (before : year ≤ latestYear) :
    IsLastDay year month day ↔ daysInMonth? year month = some day := by
  simp only [IsLastDay, isSome_ofParts?_iff, after, before, true_and]
  constructor
  · rintro ⟨⟨days, known, first, notMore⟩, last⟩
    have longest : days ≤ day := last days ⟨days, known, Int.le_trans first notMore, Int.le_refl days⟩
    rw [known, Int.le_antisymm longest notMore]
  · intro known
    refine ⟨⟨day, known, one_le_of_daysInMonth? known, Int.le_refl day⟩, ?_⟩
    rintro later ⟨days, known', -, notMore⟩
    rwa [Option.some.inj (known.symm.trans known')]

end Date

namespace DateSpec

variable {spec : DateSpec} {captures : Captures}

theorem dayOf_lastDay_iff (last : spec.day = .lastDay) {today : Date} {year month day : Int} :
    spec.dayOf captures today year month = .ok day ↔ daysInMonth? year month = some day := by
  rw [dayOf, last]
  exact found_eq_ok_iff

theorem isLastDay_of_anchor (last : spec.day = .lastDay) {reference : Moment} {t : Timestamp}
    (anchored : spec.anchor captures reference = .ok t) : Date.IsLastDay t.date.year t.date.month t.date.day := by
  obtain ⟨date, hour, minute, second, dated, clock, real, -⟩ := anchor_eq_ok anchored
  obtain ⟨-, found⟩ := dated.found_of_anchor clock anchored
  have same := Timestamp.date_of_ofParts? real found
  obtain ⟨after, before⟩ := t.year_bounds
  rw [Date.isLastDay_iff after before, same]
  exact (dayOf_lastDay_iff last).mp dated.day

end DateSpec

/-- The table of month lengths agrees with the calendar: a date exists exactly if its year is representable and the
table has its day, whatever the numbers of its month and its day are. A description that asks for the last day of a month
therefore names the last day that exists there, and where there is no such month it names none. -/
theorem month_lengths_agree (year month : Int) :
    (∀ day, (Date.ofParts? year month day).isSome = true ↔ earliestYear ≤ year ∧ year ≤ latestYear ∧
      ∃ days, daysInMonth? year month = some days ∧ 1 ≤ day ∧ day ≤ days) ∧
    ∀ (spec : DateSpec) (captures : Captures), spec.day = .lastDay →
      (∀ today day, earliestYear ≤ year → year ≤ latestYear →
        (spec.dayOf captures today year month = .ok day ↔ Date.IsLastDay year month day)) ∧
      ∀ reference t, spec.anchor captures reference = .ok t →
        Date.IsLastDay t.date.year t.date.month t.date.day := by
  refine ⟨fun day => Date.isSome_ofParts?_iff, fun spec captures last => ⟨?_, ?_⟩⟩
  · intro today day after before
    exact (DateSpec.dayOf_lastDay_iff last).trans (Date.isLastDay_iff after before).symm
  · exact fun reference t anchored => DateSpec.isLastDay_of_anchor last anchored

/-- The year 0 is a leap year, and the day before the earliest year does not exist. -/
theorem month_lengths_agree_year_zero :
    Date.IsLastDay 0 2 29 ∧ ¬ (Date.ofParts? (-262144) 12 31).isSome = true := by
  let spec : DateSpec := { month := 2, day := .lastDay }
  obtain ⟨-, named⟩ := month_lengths_agree 0 2
  obtain ⟨table, -⟩ := month_lengths_agree (-262144) 12
  have leapDay : spec.dayOf ⟨[], []⟩ ⟨2021, 6, 15⟩ 0 2 = .ok 29 := rfl
  refine ⟨((named spec ⟨[], []⟩ rfl).1 ⟨2021, 6, 15⟩ 29 (by decide) (by decide)).mp leapDay, fun exists_ => ?_⟩
  exact absurd ((table 31).mp exists_).1 (by decide)

end TurkishDates
