import TurkishDates.DateSpec

/-!
Descriptions that say the whole date and time of day. Whatever the reference is, they describe the same
point in time.
-/

namespace TurkishDates

namespace DateSpec

def isTimeless (spec : DateSpec) : Bool :=
  spec.year ≠ .unset && spec.month ≠ .unset && spec.day ≠ .unset && spec.hour ≠ .unset &&
    spec.minute ≠ .unset && spec.second ≠ .unset && spec.rounding = .off && spec.weekday = .unset

theorem valueOf_eq_of_ne {field : Field} (given : field ≠ .unset) (captures : Captures) (unset unset' : Int) :
    valueOf captures unset field = valueOf captures unset' field := by
  cases field with
  | unset => exact absurd rfl given
  | literal | capture | lastDay => rfl

theorem build_eq_of_isTimeless {spec : DateSpec} (timeless : spec.isTimeless = true) (captures : Captures)
    (reference other : Moment) : spec.build captures reference = spec.build captures other := by
  simp only [isTimeless, Bool.and_eq_true, decide_eq_true_eq] at timeless
  obtain ⟨⟨⟨⟨⟨⟨⟨year, month⟩, day⟩, hour⟩, minute⟩, second⟩, rounding⟩, weekday⟩ := timeless
  have sameDay (year month : Int) :
      spec.dayOf captures reference.date year month = spec.dayOf captures other.date year month := by
    unfold dayOf
    split
    · rfl
    · exact valueOf_eq_of_ne day captures _ _
  have sameMonth : spec.yearAndMonth captures reference.date = spec.yearAndMonth captures other.date := by
    simp only [yearAndMonth, rounding, roundYear, pivotMonth,
      valueOf_eq_of_ne year captures reference.date.year other.date.year,
      valueOf_eq_of_ne month captures reference.date.month other.date.month]
  have sameAnchor : spec.anchor captures reference = spec.anchor captures other := by
    simp only [anchor, sameMonth, sameDay, valueOf_eq_of_ne hour captures reference.hour other.hour,
      valueOf_eq_of_ne minute captures reference.minute other.minute,
      valueOf_eq_of_ne second captures reference.second other.second]
  have sameWeekday : spec.weekdayShift captures reference = spec.weekdayShift captures other := by
    rw [weekdayShift, weekdayShift, weekday]
  simp only [build, sameAnchor, sameWeekday]

end DateSpec

end TurkishDates
