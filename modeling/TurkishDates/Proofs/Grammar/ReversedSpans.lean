import TurkishDates.Proofs.DateSpec.CapturedDays

/-!
Spans that may end before they begin. A span since a day of a month begins in a year that the month alone decides on,
and the two ends of a range of months or days may share one year. Either is reversed exactly for some days and months.
-/

namespace TurkishDates

open DateSpec

/-- A span since a day of a month runs up to the second of the reference, which is the reference exactly if that has no
fraction. It begins in the reference year or the one before, as the month says, and so after the reference exactly for a
later day of the reference month. -/
theorem since_spans_reach_back_iff : ∀ (expression : Text) (captures : Captures),
    Grammar.sinceDayMonth.match? expression = some captures →
      ∀ (reference : Moment) (start stop : Timestamp),
        Grammar.sinceDayMonth.action.denote captures reference = .ok (.span start stop) →
          stop = reference.toTimestamp ∧ ((stop : Moment) = reference ↔ reference.nanoseconds = 0) ∧ ∃ date : Date,
            captures.ReadsNumber 1 date.day ∧ captures.ReadsMonth 2 date.month ∧
            date.year = (if reference.date.month < date.month then reference.date.year - 1 else reference.date.year) ∧
            Timestamp.ofParts? date 0 0 0 = some start ∧
            ((start : Moment) ≤ reference ↔
              ¬(date.month = reference.date.month ∧ reference.date.day < date.day)) := by
  intro expression captures matched reference start stop denoted
  let since : DateSpec := startOfDay { month := monthOf 2, day := group 1, rounding := .ownMonth }
  have member : Grammar.sinceDayMonth ∈ grammar := by simp [grammar, Grammar.spanRules]
  have met : since.IsMet captures := isMet_of_mem_specs member matched List.mem_cons_self
  have unshifted : since.IsUnshifted := ⟨rfl, rfl, rfl, rfl, rfl, rfl⟩
  obtain ⟨begins, ends⟩ := Action.denote_span_eq_ok_iff.mp denoted
  obtain rfl : reference.toTimestamp = stop := Except.ok.inj (build_unset.symm.trans ends)
  obtain ⟨date, real, read, found⟩ := unshifted.exists_date rfl rfl (hasClock_startOfDay _) begins
  have dayRead : valueOf captures reference.date.day (group 1) = .ok date.day := read.day
  have day := met.readsNumber (by simp [since, startOfDay, fields]) dayRead
  have month := met.readsMonth (by simp [since, startOfDay, fields]) read.month
  obtain ⟨year, yearRead, rounded⟩ := read.year
  obtain rfl : reference.date.year = year := Except.ok.inj yearRead
  have back : date.year =
      if reference.date.month < date.month then reference.date.year - 1 else reference.date.year := by
    rw [rounded]
    simp only [since, startOfDay, yearsBack, pivotMonth, Option.any_some, decide_eq_true_eq]
    split <;> omega
  refine ⟨rfl, Moment.toTimestamp_eq_iff, date, day, month, back, found, ?_⟩
  obtain ⟨january, december⟩ := real.month_bounds
  obtain ⟨january', december'⟩ := reference.isReal_date.month_bounds
  rw [Moment.toMoment_le, Timestamp.midnight_le_iff found, real.dayNumber_le_iff reference.isReal_date]
  unfold Date.months
  split at back <;> omega

/-- On a fifteenth of June and half a second past noon, since the twentieth of June. -/
theorem since_spans_reach_back_iff_later_day :
    let expression : Text := "20 hazirandan beri".toList
    let captures : Captures := ⟨expression, [some "20".toList, some "haziran".toList]⟩
    let noon : Timestamp := ⟨secondsPerDay * Date.dayNumber ⟨2021, 6, 15⟩ + 43200, by decide⟩
    let reference : Moment := ⟨noon, 500000000, by decide⟩
    let start : Timestamp := ⟨secondsPerDay * Date.dayNumber ⟨2021, 6, 20⟩, by decide⟩
    Grammar.sinceDayMonth.match? expression = some captures ∧
      Grammar.sinceDayMonth.action.denote captures reference = .ok (.span start noon) ∧
      (noon : Moment) ≠ reference ∧ ¬(start : Moment) ≤ reference ∧
      ∃ date : Date, Timestamp.ofParts? date 0 0 0 = some start ∧
        date.month = reference.date.month ∧ reference.date.day < date.day := by
  intro expression captures noon reference start
  have matched : Grammar.sinceDayMonth.match? expression = some captures := rfl
  have denoted : Grammar.sinceDayMonth.action.denote captures reference = .ok (.span start noon) := by decide
  have reversed : ¬(start : Moment) ≤ reference := by decide
  obtain ⟨-, whole, date, -, -, -, found, ordered⟩ :=
    since_spans_reach_back_iff expression captures matched reference start noon denoted
  have fraction : reference.nanoseconds ≠ 0 := by decide
  have later := not_not.mp (mt ordered.mpr reversed)
  exact ⟨matched, denoted, mt whole.mp fraction, reversed, date, found, later⟩

section SharedYear

/-- The groups that a range is read from, when both of its ends lie in one year: that of the group, or the reference
year. Without days, whole months are meant. -/
structure RangeGroups where
  year : Option Nat
  firstMonth : Nat
  lastMonth : Nat
  days : Option (Nat × Nat)

namespace RangeGroups

def first (groups : RangeGroups) : DateSpec where
  year := groups.year.elim .unset group
  month := monthOf groups.firstMonth
  day := groups.days.elim 1 fun days => group days.1

def last (groups : RangeGroups) : DateSpec where
  year := groups.year.elim .unset group
  month := monthOf groups.lastMonth
  day := groups.days.elim .lastDay fun days => group days.2

structure Spell (groups : RangeGroups) (captures : Captures) (reference : Moment) (first last : Date) : Prop where
  year : match groups.year with
    | none => first.year = reference.date.year
    | some index => captures.ReadsNumber index first.year
  sameYear : last.year = first.year
  firstMonth : captures.ReadsMonth groups.firstMonth first.month
  lastMonth : captures.ReadsMonth groups.lastMonth last.month
  days : match groups.days with
    | none => first.day = 1 ∧ daysInMonth? last.year last.month = some last.day
    | some (index, index') => captures.ReadsNumber index first.day ∧ captures.ReadsNumber index' last.day

variable {groups : RangeGroups} {captures : Captures} {reference : Moment}

theorem spell_of_readsDate (met : groups.first.startOfDay.IsMet captures) (met' : groups.last.endOfDay.IsMet captures)
    {first last : Date}
    (read : groups.first.startOfDay.ReadsDate captures reference first)
    (read' : groups.last.endOfDay.ReadsDate captures reference last) : groups.Spell captures reference first last := by
  obtain ⟨⟨year, yearRead, rounded⟩, monthRead, dayRead⟩ := read
  obtain ⟨⟨year', yearRead', rounded'⟩, monthRead', dayRead'⟩ := read'
  obtain rfl : first.year = year := rounded.trans (Int.sub_zero year)
  obtain rfl : last.year = year' := rounded'.trans (Int.sub_zero year')
  obtain ⟨yearGroup, firstMonth, lastMonth, days⟩ := groups
  refine ⟨?_, Except.ok.inj (yearRead'.symm.trans yearRead), met.readsMonth ?_ monthRead, met'.readsMonth ?_ monthRead',
    ?_⟩
  · cases yearGroup with
    | none => exact (Except.ok.inj yearRead).symm
    | some index => exact met.readsNumber (by simp [startOfDay, fields, RangeGroups.first]) yearRead
  · simp [startOfDay, fields, RangeGroups.first]
  · simp [endOfDay, fields, RangeGroups.last]
  · cases days with
    | none => exact ⟨(Except.ok.inj dayRead).symm, found_eq_ok_iff.mp dayRead'⟩
    | some days =>
      have numbered : valueOf captures reference.date.day (group days.1) = .ok first.day := dayRead
      have numbered' : valueOf captures reference.date.day (group days.2) = .ok last.day := dayRead'
      exact ⟨met.readsNumber (by simp [startOfDay, fields, RangeGroups.first]) numbered,
        met'.readsNumber (by simp [endOfDay, fields, RangeGroups.last]) numbered'⟩

end RangeGroups

def sharedYearRanges : List (Rule × RangeGroups) :=
  [(Grammar.betweenMonths, ⟨none, 1, 2, none⟩), (Grammar.dayMonthToDayMonth, ⟨none, 2, 4, some (1, 3)⟩),
    (Grammar.dayMonthYearToDayMonth, ⟨some 3, 2, 5, some (1, 4)⟩),
    (Grammar.dayMonthToDayMonthYear, ⟨some 5, 2, 4, some (1, 3)⟩)]

theorem action_of_mem_sharedYearRanges : ∀ range ∈ sharedYearRanges,
    range.1.action = Grammar.dayRange range.2.first range.2.last := by
  decide

theorem mem_grammar_of_mem_sharedYearRanges : ∀ range ∈ sharedYearRanges, range.1 ∈ grammar := by
  simp [sharedYearRanges, grammar, Grammar.spanRules]

/-- Whatever one of these ranges reads, both of its ends lie in the year that is written once or not at all. So the
range ends before it begins exactly if its last day, or its last month, comes earlier in the calendar. -/
theorem shared_year_ranges_ordered_iff : ∀ range ∈ sharedYearRanges, ∀ (expression : Text) (captures : Captures),
    range.1.match? expression = some captures → ∀ (reference : Moment) (start stop : Timestamp),
      range.1.action.denote captures reference = .ok (.span start stop) →
        ∃ first last : Date, range.2.Spell captures reference first last ∧
          Timestamp.ofParts? first 0 0 0 = some start ∧ Timestamp.ofParts? last 23 59 59 = some stop ∧
          (start.seconds ≤ stop.seconds ↔
            first.month < last.month ∨ first.month = last.month ∧ first.day ≤ last.day) := by
  intro range listed expression captures matched reference start stop denoted
  have member := mem_grammar_of_mem_sharedYearRanges range listed
  have action := action_of_mem_sharedYearRanges range listed
  have met : range.2.first.startOfDay.IsMet captures :=
    isMet_of_mem_specs member matched (by simp [action, Grammar.dayRange, Action.specs])
  have met' : range.2.last.endOfDay.IsMet captures :=
    isMet_of_mem_specs member matched (by simp [action, Grammar.dayRange, Action.specs])
  rw [action] at denoted
  obtain ⟨begins, ends⟩ := Action.denote_span_eq_ok_iff.mp denoted
  have unshifted : range.2.first.startOfDay.IsUnshifted := ⟨rfl, rfl, rfl, rfl, rfl, rfl⟩
  have unshifted' : range.2.last.endOfDay.IsUnshifted := ⟨rfl, rfl, rfl, rfl, rfl, rfl⟩
  obtain ⟨first, real, read, found⟩ := unshifted.exists_date rfl rfl (hasClock_startOfDay _) begins
  obtain ⟨last, real', read', found'⟩ := unshifted'.exists_date rfl rfl (hasClock_endOfDay _) ends
  have spelled : range.2.Spell captures reference first last := RangeGroups.spell_of_readsDate met met' read read'
  refine ⟨first, last, spelled, found, found', ?_⟩
  rw [Timestamp.midnight_le_iff found, Timestamp.date_of_ofParts? real' found', real.dayNumber_le_iff real']
  have sameYear := spelled.sameYear
  unfold Date.months
  omega

/-- From the end of a year to the beginning of the same year. -/
theorem shared_year_ranges_ordered_iff_december_to_january :
    let expression : Text := "21 aralık 2017 ve 10 ocak arası".toList
    let captures : Captures := ⟨expression, ["21", "aralık", "2017", "10", "ocak"].map fun text => some text.toList⟩
    let range : Rule × RangeGroups := (Grammar.dayMonthYearToDayMonth, ⟨some 3, 2, 5, some (1, 4)⟩)
    let reference : Timestamp := ⟨secondsPerDay * Date.dayNumber ⟨2021, 6, 15⟩ + 43200, by decide⟩
    let start : Timestamp := ⟨secondsPerDay * Date.dayNumber ⟨2017, 12, 21⟩, by decide⟩
    let stop : Timestamp := ⟨secondsPerDay * Date.dayNumber ⟨2017, 1, 11⟩ - 1, by decide⟩
    range ∈ sharedYearRanges ∧ range.1.match? expression = some captures ∧
      range.1.action.denote captures reference = .ok (.span start stop) ∧ stop.seconds < start.seconds ∧
      ∃ first last : Date, range.2.Spell captures reference first last ∧
        ¬(first.month < last.month ∨ first.month = last.month ∧ first.day ≤ last.day) := by
  intro expression captures range reference start stop
  have listed : range ∈ sharedYearRanges := by simp [sharedYearRanges, range]
  have matched : range.1.match? expression = some captures := rfl
  have denoted : range.1.action.denote captures reference = .ok (.span start stop) := by decide
  have reversed : stop.seconds < start.seconds := by decide
  obtain ⟨first, last, spelled, -, -, ordered⟩ :=
    shared_year_ranges_ordered_iff range listed expression captures matched reference start stop denoted
  exact ⟨listed, matched, denoted, reversed, first, last, spelled, mt ordered.mpr (Int.not_le.mpr reversed)⟩

end SharedYear

end TurkishDates
