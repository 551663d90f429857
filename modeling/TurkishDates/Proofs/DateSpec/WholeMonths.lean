import TurkishDates.Proofs.Calendar.WholeMonths
import TurkishDates.Proofs.DateSpec.CapturedDays

/-!
Descriptions of whole months. The month that the fields of the year and the month are read as, rounded and shifted,
is told by its count, and a span from the start of one such month to the end of another covers just these months.
-/

namespace TurkishDates

namespace DateSpec

variable {captures : Captures} {reference : Moment}

/-- Whether the year and the month are read as the month of this count. -/
def HasMonth (spec : DateSpec) (captures : Captures) (reference : Moment) (months : Int) : Prop :=
  spec.yearAndMonth captures reference.date = .ok (months / 12, months % 12 + 1)

def monthStart (spec : DateSpec) : DateSpec := startOfDay { spec with day := 1 }

def monthEnd (spec : DateSpec) : DateSpec := endOfDay { spec with day := .lastDay }

variable {spec : DateSpec} {months : Int}

theorem exists_daysInMonth?_of_months (months : Int) :
    ∃ days, daysInMonth? (months / 12) (months % 12 + 1) = some days ∧ 28 ≤ days := by
  apply exists_daysInMonth?
  simp only [Bounds.mem_iff, calendarMonths]
  omega

theorem representable_of_months (after : 12 * earliestYear ≤ months) (before : months < 12 * (latestYear + 1)) :
    earliestYear ≤ months / 12 ∧ months / 12 ≤ latestYear := by
  omega

theorem HasMonth.begins_of_build (dated : spec.HasMonth captures reference months) (unshifted : spec.IsUnshifted)
    {t : Timestamp} (built : spec.monthStart.build captures reference = .ok t) :
    Timestamp.ofParts? ⟨months / 12, months % 12 + 1, 1⟩ 0 0 0 = some t := by
  have firstDay : spec.monthStart.HasDate captures reference ⟨months / 12, months % 12 + 1, 1⟩ := ⟨dated, rfl⟩
  have unshifted' : spec.monthStart.IsUnshifted := unshifted
  rw [unshifted'.build_eq] at built
  exact (firstDay.found_of_anchor (hasClock_startOfDay _) built).2

theorem HasMonth.ends_of_build (dated : spec.HasMonth captures reference months) (unshifted : spec.IsUnshifted)
    {t : Timestamp} (built : spec.monthEnd.build captures reference = .ok t) :
    ∃ days, daysInMonth? (months / 12) (months % 12 + 1) = some days ∧
      Timestamp.ofParts? ⟨months / 12, months % 12 + 1, days⟩ 23 59 59 = some t := by
  obtain ⟨days, known, -⟩ := exists_daysInMonth?_of_months months
  have lastDay : spec.monthEnd.HasDate captures reference ⟨months / 12, months % 12 + 1, days⟩ :=
    ⟨dated, found_eq_ok_iff.mpr known⟩
  have unshifted' : spec.monthEnd.IsUnshifted := unshifted
  rw [unshifted'.build_eq] at built
  exact ⟨days, known, (lastDay.found_of_anchor (hasClock_endOfDay _) built).2⟩

theorem HasMonth.exists_build_monthStart (dated : spec.HasMonth captures reference months)
    (unshifted : spec.IsUnshifted) (after : 12 * earliestYear ≤ months) (before : months < 12 * (latestYear + 1)) :
    ∃ t, spec.monthStart.build captures reference = .ok t ∧
      Timestamp.ofParts? ⟨months / 12, months % 12 + 1, 1⟩ 0 0 0 = some t := by
  obtain ⟨notEarlier, notLater⟩ := representable_of_months after before
  obtain ⟨days, known, enough⟩ := exists_daysInMonth?_of_months months
  have firstDay : spec.monthStart.HasDate captures reference ⟨months / 12, months % 12 + 1, 1⟩ := ⟨dated, rfl⟩
  have midnight : spec.monthStart.HasClock captures reference 0 0 0 := hasClock_startOfDay _
  obtain ⟨t, anchored, found⟩ := firstDay.exists_anchor midnight ⟨days, known, Int.le_refl 1, by simp only; omega⟩
    notEarlier notLater
  have unshifted' : spec.monthStart.IsUnshifted := unshifted
  exact ⟨t, by rw [unshifted'.build_eq, anchored], found⟩

theorem HasMonth.exists_build_monthEnd (dated : spec.HasMonth captures reference months)
    (unshifted : spec.IsUnshifted) (after : 12 * earliestYear ≤ months) (before : months < 12 * (latestYear + 1)) :
    ∃ t, spec.monthEnd.build captures reference = .ok t ∧
      ∃ days, daysInMonth? (months / 12) (months % 12 + 1) = some days ∧
        Timestamp.ofParts? ⟨months / 12, months % 12 + 1, days⟩ 23 59 59 = some t := by
  obtain ⟨notEarlier, notLater⟩ := representable_of_months after before
  obtain ⟨days, known, enough⟩ := exists_daysInMonth?_of_months months
  have lastDay : spec.monthEnd.HasDate captures reference ⟨months / 12, months % 12 + 1, days⟩ :=
    ⟨dated, found_eq_ok_iff.mpr known⟩
  have lastSecond : spec.monthEnd.HasClock captures reference 23 59 59 := hasClock_endOfDay _
  obtain ⟨t, anchored, found⟩ := lastDay.exists_anchor lastSecond
    ⟨days, known, by simp only; omega, Int.le_refl days⟩ notEarlier notLater
  have unshifted' : spec.monthEnd.IsUnshifted := unshifted
  exact ⟨t, by rw [unshifted'.build_eq, anchored], days, known, found⟩

theorem exists_denote_months {start stop : DateSpec} {first last : Int}
    (begun : start.HasMonth captures reference first) (ended : stop.HasMonth captures reference last)
    (unshifted : start.IsUnshifted) (unshifted' : stop.IsUnshifted) (after : 12 * earliestYear ≤ first)
    (order : first ≤ last) (before : last < 12 * (latestYear + 1)) :
    ∃ t t', (Action.span start.monthStart stop.monthEnd).denote captures reference = .ok (.span t t') ∧
      SpansMonths first last t t' := by
  obtain ⟨t, begins, found⟩ := begun.exists_build_monthStart unshifted after (by omega)
  obtain ⟨t', ends, found'⟩ := ended.exists_build_monthEnd unshifted' (by omega) before
  refine ⟨t, t', ?_, found, found'⟩
  rw [Action.denote, begins, ends]
  rfl

/-- A span from the start of one month to the end of another, in whatever order they are. -/
theorem spansMonths_of_denote {start stop : DateSpec} {first last : Int}
    (begun : start.HasMonth captures reference first) (ended : stop.HasMonth captures reference last)
    (unshifted : start.IsUnshifted) (unshifted' : stop.IsUnshifted) {t t' : Timestamp}
    (denoted : (Action.span start.monthStart stop.monthEnd).denote captures reference = .ok (.span t t')) :
    SpansMonths first last t t' := by
  obtain ⟨begins, ends⟩ := Action.denote_span_eq_ok_iff.mp denoted
  exact ⟨begun.begins_of_build unshifted begins, ended.ends_of_build unshifted' ends⟩

section Fields

theorem hasMonth_moved {field shift : Field} {month delta : Int}
    (monthRead : valueOf captures reference.date.month field = .ok month) (january : 1 ≤ month) (december : month ≤ 12)
    (given : shift ≠ .unset) (read : valueOf captures 0 shift = .ok delta) (small : delta.natAbs ≤ greatestWord) :
    ({ month := field, monthShift := shift } : DateSpec).HasMonth captures reference
      (12 * reference.date.year + (month - 1) + delta) := by
  have sure : shiftIsSure representableYears calendarMonths ⟨-greatestWord, greatestWord⟩ = true := by decide
  have inYears : reference.date.year ∈ representableYears := reference.year_bounds
  have inDeltas : delta ∈ (⟨-greatestWord, greatestWord⟩ : Bounds) := by
    simp only [Bounds.mem_iff]
    omega
  have fitsYear := fitsWord_of_representable inYears.1 inYears.2
  obtain ⟨fits, -⟩ := all_fitsWord_of_shiftIsSure sure inYears ⟨january, december⟩ inDeltas
  obtain ⟨first, last, count⟩ := shiftMonths_spec reference.date.year january december delta
  have target : shiftMonths reference.date.year month delta =
      ((12 * reference.date.year + (month - 1) + delta) / 12,
        (12 * reference.date.year + (month - 1) + delta) % 12 + 1) :=
    Prod.ext (by simp only; omega) (by simp only; omega)
  change (valueOf captures reference.date.month field >>= fun month => checked (reference.date.year + 0) >>= fun year =>
    applyMonthShift captures shift year month) = _
  rw [monthRead, checked, Int.add_zero, if_pos fitsYear]
  change applyMonthShift captures shift reference.date.year month = _
  rw [applyMonthShift_eq given, read]
  change (if (shiftSteps reference.date.year month delta).all fitsWord = true then
    (.ok (shiftMonths reference.date.year month delta) : Except BuildError (Int × Int)) else .error .overflow) = _
  rw [if_pos fits, target]

theorem hasMonth_shifted {shift : Field} (given : shift ≠ .unset) {delta : Int}
    (read : valueOf captures 0 shift = .ok delta) (small : delta.natAbs ≤ greatestWord) :
    ({ monthShift := shift } : DateSpec).HasMonth captures reference (reference.date.months + delta) := by
  obtain ⟨january, december⟩ := reference.isReal_date.month_bounds
  exact hasMonth_moved rfl january december given read small

theorem roundYear_eq {rounding : YearRounding} {year : Int} (fits : fitsWord (year - 1) = true)
    (month referenceMonth : Int) :
    roundYear rounding year month referenceMonth = .ok (year - yearsBack rounding month referenceMonth) := by
  unfold roundYear yearsBack
  cases pivotMonth rounding month with
  | none => simp
  | some pivot =>
    simp only [Option.any_some, decide_eq_true_eq]
    split
    next => rw [word, if_pos fits]
    next => rw [Int.sub_zero]

theorem hasMonth_ofYear {field shift : Field} {month years : Int} {rounding : YearRounding}
    (monthRead : valueOf captures reference.date.month field = .ok month) (january : 1 ≤ month) (december : month ≤ 12)
    (read : valueOf captures 0 shift = .ok years) (small : -100 ≤ years ∧ years ≤ 100) :
    ({ month := field, rounding, yearShift := shift } : DateSpec).HasMonth captures reference
      (12 * (reference.date.year - yearsBack rounding month reference.date.month + years) + (month - 1)) := by
  obtain ⟨after, before⟩ := reference.year_bounds
  have near (year : Int) (low : reference.date.year - 200 ≤ year) (high : year ≤ reference.date.year + 200) :
      fitsWord year = true := by
    rw [Bounds.fitsWord_iff, Bounds.mem_iff]
    simp only [Bounds.words, leastWord, greatestWord]
    unfold earliestYear latestYear at *
    omega
  have back : 0 ≤ yearsBack rounding month reference.date.month ∧
      yearsBack rounding month reference.date.month ≤ 1 := by
    unfold yearsBack
    split <;> omega
  change (valueOf captures reference.date.month field >>= fun month =>
    roundYear rounding reference.date.year month reference.date.month >>= fun year =>
    valueOf captures 0 shift >>= fun years => checked (year + years) >>= fun year => .ok (year, month)) = _
  rw [monthRead]
  change (roundYear rounding reference.date.year month reference.date.month >>= fun year =>
    valueOf captures 0 shift >>= fun years => checked (year + years) >>= fun year => .ok (year, month)) = _
  rw [roundYear_eq (near _ (by omega) (by omega)), read]
  change (checked (reference.date.year - yearsBack rounding month reference.date.month + years) >>= fun year =>
    .ok (year, month)) = _
  rw [checked, if_pos (near _ (by omega) (by omega))]
  have sameYear (year : Int) : (12 * year + (month - 1)) / 12 = year := by omega
  have sameMonth (year : Int) : (12 * year + (month - 1)) % 12 + 1 = month := by omega
  rw [sameYear, sameMonth]
  rfl

theorem hasMonth_read {field : Field} {month : Int}
    (monthRead : valueOf captures reference.date.month field = .ok month) (january : 1 ≤ month)
    (december : month ≤ 12) :
    ({ month := field } : DateSpec).HasMonth captures reference (12 * reference.date.year + (month - 1)) := by
  have dated : ({ month := field } : DateSpec).HasMonth captures reference
      (12 * (reference.date.year - yearsBack .off month reference.date.month + 0) + (month - 1)) :=
    hasMonth_ofYear monthRead january december rfl (by decide)
  have still : yearsBack .off month reference.date.month = 0 := rfl
  rwa [still, Int.sub_zero, Int.add_zero] at dated

theorem hasMonth_unshifted : ({} : DateSpec).HasMonth captures reference reference.date.months := by
  obtain ⟨january, december⟩ := reference.isReal_date.month_bounds
  exact hasMonth_read rfl january december

end Fields

end DateSpec

end TurkishDates
