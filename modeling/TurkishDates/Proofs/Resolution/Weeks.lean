import TurkishDates.Proofs.DateSpec.Shifts
import TurkishDates.Proofs.Resolution.Phrases

/-!
Weeks around the reference, by expressions. A week begins on Monday, and a weekday of a week before or after the one of
the reference is looked for from its own Monday, so it never lies in another week than the one that was counted to.
-/

namespace TurkishDates

open Numeral

def weekdaysFromMonday : List (Text × Int) :=
  [("pazartesi".toList, 0), ("salı".toList, 1), ("çarşamba".toList, 2), ("perşembe".toList, 3), ("cuma".toList, 4),
    ("cumartesi".toList, 5), ("pazar".toList, 6)]

theorem weekdayOffset?_of_mem : ∀ day ∈ weekdaysFromMonday, weekdayOffset? day.1 = some day.2 := by decide

theorem mem_weekdayNames : ∀ day ∈ weekdaysFromMonday, day.1 ∈ weekdayNames := by decide

theorem place_bounds : ∀ day ∈ weekdaysFromMonday, 0 ≤ day.2 ∧ day.2 ≤ 6 := by decide

/-- Whether a point in time has the time of day of the reference, on the day with a number. -/
structure IsOnDay (number : Int) (reference : Moment) (t : Timestamp) : Prop where
  day : t.date.dayNumber = number
  clock : t.secondOfDay = reference.secondOfDay

theorem IsOnDay.seconds {number : Int} {reference : Moment} {t : Timestamp} (onDay : IsOnDay number reference t) :
    t.seconds = secondsPerDay * number + reference.secondOfDay := by
  rw [← onDay.day, ← onDay.clock, t.dayNumber_date]
  exact (Int.mul_ediv_add_emod t.seconds secondsPerDay).symm

theorem IsOnDay.unique {number : Int} {reference : Moment} {t other : Timestamp} (onDay : IsOnDay number reference t)
    (onDay' : IsOnDay number reference other) : t = other :=
  Timestamp.eq_of_seconds (onDay.seconds.trans onDay'.seconds.symm)

def IsSpanOf (first last : Int) (value : Option Denotation) : Prop :=
  ∃ start stop, value = some (.span start stop) ∧ start.seconds = first ∧ stop.seconds = last

section

variable {captures : Captures} {reference : Moment} {weekday : Text} {place weeks : Int}

theorem exists_denote_weekday {shift : Field} {index : Nat} (captured : captures.group? index = some weekday)
    (named : (weekday, place) ∈ weekdaysFromMonday) (read : DateSpec.valueOf captures 0 shift = .ok weeks)
    (inside : Timestamp.IsInside 7 (reference.seconds + 7 * secondsPerDay * weeks)) :
    ∃ t : Timestamp, (Action.instant { weekShift := shift, weekday := weekdayOf index }).denote captures reference =
      .ok (.instant t) ∧ IsOnDay (reference.date.monday + 7 * weeks + place) reference t := by
  obtain ⟨days, known, monday, sunday, weekdayRead⟩ :=
    DateSpec.exists_valueOf_weekdayOf captured (mem_weekdayNames _ named)
  obtain rfl : place = days := Option.some.inj ((weekdayOffset?_of_mem _ named).symm.trans known)
  have clock : DateSpec.KeepsClock { weekShift := shift, weekday := weekdayOf index } := ⟨rfl, rfl, rfl⟩
  have given : weekdayOf index ≠ .unset := by simp [weekdayOf]
  obtain ⟨t, built, seconds⟩ := DateSpec.exists_build_weekday ⟨rfl, rfl⟩ ⟨rfl, rfl, rfl, rfl⟩ clock.hasClock read
    given weekdayRead monday sunday inside
  have parts := reference.secondOfDay_eq
  have valid : 0 ≤ reference.secondOfDay ∧ reference.secondOfDay < secondsPerDay := by
    unfold Timestamp.secondOfDay secondsPerDay
    omega
  have atDay : t.seconds = secondsPerDay * (reference.date.monday + 7 * weeks + place) + reference.secondOfDay := by
    omega
  obtain ⟨day, sameClock⟩ := Timestamp.dayNumber_and_secondOfDay valid atDay
  refine ⟨t, ?_, ⟨day, sameClock⟩⟩
  rw [Action.denote, built]
  rfl

theorem exists_value_countedWeekday {words digits : Text} {rule : Rule} (listed : (words, rule) ∈ countedWeekdayPhrases)
    {negated : Bool} (action : rule.action =
      .instant { weekShift := .capture ⟨1, none, negated, 0⟩, weekday := weekdayOf 2 }) (isDigits : IsDigits digits)
    (named : (weekday, place) ∈ weekdaysFromMonday)
    (counted : weeks = if negated then -(digitsValue digits : Int) else digitsValue digits)
    (inside : Timestamp.IsInside 7 (reference.seconds + 7 * secondsPerDay * weeks)) (fallback : Option Fallback) :
    ∃ t : Timestamp,
      ((⟨grammar, reference, fallback⟩ : Resolver).resolve (digits ++ ' ' :: (words ++ ' ' :: weekday))).value =
      some (.instant t) ∧ IsOnDay (reference.date.monday + 7 * weeks + place) reference t := by
  have fits : fitsWord (digitsValue digits) = true := by
    have range : earliestSecond > -10 ^ 13 ∧ latestSecond < 10 ^ 13 := by decide
    have bounds := reference.seconds_bounds
    unfold Timestamp.IsInside secondsPerDay at inside
    simp only [Bounds.fitsWord_iff, Bounds.mem_iff, Bounds.words, leastWord, greatestWord]
    cases negated
    all_goals
      simp only [Bool.false_eq_true, if_true, if_false] at counted
      omega
  have only := isOnlyMatch_countedWeekday listed isDigits (mem_weekdayNames _ named)
  let captures : Captures := ⟨digits ++ ' ' :: (words ++ ' ' :: weekday), [some digits, some weekday]⟩
  have captured : captures.group? 1 = some digits := rfl
  have captured' : captures.group? 2 = some weekday := rfl
  have read : DateSpec.valueOf captures 0 (.capture ⟨1, none, negated, 0⟩) = .ok weeks := by
    rw [counted]
    exact (DateSpec.readCapture_of_isDigits captured isDigits negated).trans (if_pos fits)
  obtain ⟨t, denoted, onDay⟩ := exists_denote_weekday captured' named read inside
  rw [← action] at denoted
  exact ⟨t, only.value_resolve denoted fallback, onDay⟩

theorem exists_value_weekday {words : Text} {rule : Rule} (listed : (words, rule) ∈ weekdayPhrases)
    (action : rule.action = .instant { weekShift := .literal weeks, weekday := weekdayOf 1 })
    (named : (weekday, place) ∈ weekdaysFromMonday)
    (inside : Timestamp.IsInside 7 (reference.seconds + 7 * secondsPerDay * weeks)) (fallback : Option Fallback) :
    ∃ t : Timestamp,
      ((⟨grammar, reference, fallback⟩ : Resolver).resolve (words ++ ' ' :: weekday)).value = some (.instant t) ∧
      IsOnDay (reference.date.monday + 7 * weeks + place) reference t := by
  let captures : Captures := ⟨words ++ ' ' :: weekday, [some weekday]⟩
  have captured : captures.group? 1 = some weekday := rfl
  have read : DateSpec.valueOf captures 0 (.literal weeks) = .ok weeks := rfl
  obtain ⟨t, denoted, onDay⟩ := exists_denote_weekday captured named read inside
  rw [← action] at denoted
  exact ⟨t, (isOnlyMatch_weekday listed (mem_weekdayNames _ named)).value_resolve denoted fallback, onDay⟩

/-- A word for the week after or before is read like the number 1. -/
theorem exists_value_besideWeekday {words words' : Text} {rule rule' : Rule} (listed : (words, rule) ∈ weekdayPhrases)
    (listed' : (words', rule') ∈ countedWeekdayPhrases) {negated : Bool}
    (action : rule.action = .instant { weekShift := .literal weeks, weekday := weekdayOf 1 })
    (action' : rule'.action = .instant { weekShift := .capture ⟨1, none, negated, 0⟩, weekday := weekdayOf 2 })
    (beside : weeks = if negated then -1 else 1) (named : (weekday, place) ∈ weekdaysFromMonday)
    (inside : Timestamp.IsInside 7 (reference.seconds + 7 * secondsPerDay * weeks)) (fallback : Option Fallback) :
    ∃ t : Timestamp,
      ((⟨grammar, reference, fallback⟩ : Resolver).resolve (words ++ ' ' :: weekday)).value = some (.instant t) ∧
      ((⟨grammar, reference, fallback⟩ : Resolver).resolve ("1".toList ++ ' ' :: (words' ++ ' ' :: weekday))).value =
        some (.instant t) ∧
      IsOnDay (reference.date.monday + 7 * weeks + place) reference t := by
  have one : IsDigits "1".toList := by decide
  obtain ⟨t, beside', onDay⟩ := exists_value_weekday listed action named inside fallback
  obtain ⟨other, counted, onDay'⟩ := exists_value_countedWeekday listed' action' one named beside inside fallback
  rw [onDay'.unique onDay] at counted
  exact ⟨t, beside', counted, onDay⟩

theorem isSpanOf_weekdays {words : Text} {rule : Rule} (listed : (words, rule) ∈ plainPhrases) {shift : Field}
    {first last : Int} (action : rule.action = Grammar.weekdaySpan shift (.literal first) (.literal last))
    (read : DateSpec.valueOf ⟨words, []⟩ 0 shift = .ok weeks) (weekdays : 0 ≤ first ∧ first ≤ last ∧ last ≤ 6)
    (inside : Timestamp.IsInside 7 (reference.seconds + 7 * secondsPerDay * weeks)) {day next : Int}
    (begins : day = reference.date.monday + 7 * weeks + first)
    (ends : next = reference.date.monday + 7 * weeks + last + 1) (fallback : Option Fallback) :
    IsSpanOf (secondsPerDay * day) (secondsPerDay * next - 1)
      ((⟨grammar, reference, fallback⟩ : Resolver).resolve words).value := by
  obtain ⟨start, stop, denoted, atStart, atStop⟩ := DateSpec.exists_denote_weekdaySpan read weekdays inside
  rw [← action] at denoted
  rw [begins, ends]
  exact ⟨start, stop, (isOnlyMatch_plain listed).value_resolve denoted fallback, atStart, atStop⟩

theorem isSpanOf_thisWeek (inside : Timestamp.IsInside 7 reference.seconds) (fallback : Option Fallback) :
    IsSpanOf (secondsPerDay * reference.date.monday) reference.seconds
      ((⟨grammar, reference, fallback⟩ : Resolver).resolve "bu hafta".toList).value := by
  have midnight : (DateSpec.startOfDay { weekday := 0 }).HasClock ⟨"bu hafta".toList, []⟩ reference 0 0 0 :=
    DateSpec.hasClock_startOfDay _
  have given : (0 : Field) ≠ .unset := by decide
  obtain ⟨start, begins, seconds⟩ := DateSpec.exists_build_weekday ⟨rfl, rfl⟩ ⟨rfl, rfl, rfl, rfl⟩ midnight rfl given
    rfl (by decide) (by decide) (by rwa [Int.mul_zero, Int.add_zero])
  have listed : ("bu hafta".toList, Grammar.thisWeek) ∈ plainPhrases := by simp [plainPhrases]
  have denoted := DateSpec.denote_untilNow begins
  refine ⟨start, reference.toTimestamp, (isOnlyMatch_plain listed).value_resolve denoted fallback, ?_, rfl⟩
  simpa using seconds

theorem spaced (front words back : Text) :
    front ++ (' ' :: (words ++ [' '])) ++ back = front ++ ' ' :: (words ++ ' ' :: back) := by
  simp

theorem exists_value_weeksAway {digits : Text} (isDigits : IsDigits digits)
    (named : (weekday, place) ∈ weekdaysFromMonday)
    (fallback : Option Fallback) :
    let value (t : Text) := ((⟨grammar, reference, fallback⟩ : Resolver).resolve t).value
    let n : Int := digitsValue digits
    (Timestamp.IsInside 14 (reference.seconds + 7 * secondsPerDay * n) →
      ∃ t : Timestamp, value (digits ++ " hafta sonra ".toList ++ weekday) = some (.instant t) ∧
        IsOnDay (reference.date.monday + 7 * n + place) reference t) ∧
    (Timestamp.IsInside 14 (reference.seconds - 7 * secondsPerDay * n) →
      ∃ t : Timestamp, value (digits ++ " hafta önce ".toList ++ weekday) = some (.instant t) ∧
        IsOnDay (reference.date.monday - 7 * n + place) reference t) := by
  intro value n
  have later : ("hafta sonra".toList, Grammar.weeksLaterAtWeekday) ∈ countedWeekdayPhrases := by
    simp [countedWeekdayPhrases]
  have earlier : ("hafta önce".toList, Grammar.weeksBeforeAtWeekday) ∈ countedWeekdayPhrases := by
    simp [countedWeekdayPhrases]
  have texts : " hafta sonra ".toList = ' ' :: ("hafta sonra".toList ++ [' ']) ∧
      " hafta önce ".toList = ' ' :: ("hafta önce".toList ++ [' ']) := by
    decide
  have away (unit : Int) : reference.seconds - unit * n = reference.seconds + unit * -n ∧
      reference.date.monday - unit * n = reference.date.monday + unit * -n := by
    rw [Int.mul_neg]
    omega
  rw [texts.1, texts.2, spaced, spaced, (away (7 * secondsPerDay)).1, (away 7).2]
  constructor
  · intro far
    exact exists_value_countedWeekday later rfl isDigits named rfl (far.of_le (by decide)) fallback
  · intro far
    exact exists_value_countedWeekday earlier rfl isDigits named rfl (far.of_le (by decide)) fallback

theorem exists_value_weekBeside (inside : Timestamp.IsInside 14 reference.seconds)
    (named : (weekday, place) ∈ weekdaysFromMonday)
    (fallback : Option Fallback) :
    let value (t : Text) := ((⟨grammar, reference, fallback⟩ : Resolver).resolve t).value
    (∃ t : Timestamp, value ("önümüzdeki ".toList ++ weekday) = some (.instant t) ∧
      value ("1 hafta sonra ".toList ++ weekday) = some (.instant t) ∧
      IsOnDay (reference.date.monday + 7 + place) reference t) ∧
    ∃ t : Timestamp, value ("geçen ".toList ++ weekday) = some (.instant t) ∧
      value ("1 hafta önce ".toList ++ weekday) = some (.instant t) ∧
      IsOnDay (reference.date.monday - 7 + place) reference t := by
  intro value
  have later : ("hafta sonra".toList, Grammar.weeksLaterAtWeekday) ∈ countedWeekdayPhrases := by
    simp [countedWeekdayPhrases]
  have earlier : ("hafta önce".toList, Grammar.weeksBeforeAtWeekday) ∈ countedWeekdayPhrases := by
    simp [countedWeekdayPhrases]
  have next : ("önümüzdeki".toList, Grammar.nextWeekday) ∈ weekdayPhrases := by simp [weekdayPhrases]
  have previous : ("geçen".toList, Grammar.previousWeekday) ∈ weekdayPhrases := by simp [weekdayPhrases]
  have forth : Grammar.nextWeekday.action = .instant { weekShift := .literal 1, weekday := weekdayOf 1 } := rfl
  have back : Grammar.previousWeekday.action = .instant { weekShift := .literal (-1), weekday := weekdayOf 1 } := rfl
  have texts : "1 hafta sonra ".toList = "1".toList ++ (' ' :: ("hafta sonra".toList ++ [' '])) ∧
      "1 hafta önce ".toList = "1".toList ++ (' ' :: ("hafta önce".toList ++ [' '])) ∧
      "önümüzdeki ".toList = "önümüzdeki".toList ++ [' '] ∧ "geçen ".toList = "geçen".toList ++ [' '] := by
    decide
  obtain ⟨oneLater, oneBefore, nextText, previousText⟩ := texts
  rw [oneLater, oneBefore, nextText, previousText, spaced, spaced, List.append_assoc, List.append_assoc]
  exact ⟨exists_value_besideWeekday next later forth rfl rfl named (inside.beside (by decide) (by decide)) fallback,
    exists_value_besideWeekday previous earlier back rfl rfl named (inside.beside (by decide) (by decide)) fallback⟩

theorem isSpanOf_weeks (inside : Timestamp.IsInside 14 reference.seconds) (fallback : Option Fallback) :
    let value (t : Text) := ((⟨grammar, reference, fallback⟩ : Resolver).resolve t).value
    let monday := reference.date.monday
    IsSpanOf (secondsPerDay * (monday - 7)) (secondsPerDay * monday - 1) (value "geçen hafta".toList) ∧
      IsSpanOf (secondsPerDay * monday) reference.seconds (value "bu hafta".toList) ∧
      IsSpanOf (secondsPerDay * monday) (secondsPerDay * (monday + 5) - 1) (value "hafta içi".toList) ∧
      IsSpanOf (secondsPerDay * (monday - 2)) (secondsPerDay * monday - 1) (value "hafta sonu".toList) := by
  intro value monday
  have lastWeek : ("geçen hafta".toList, Grammar.lastWeek) ∈ plainPhrases := by simp [plainPhrases]
  have weekdays : ("hafta içi".toList, Grammar.weekdays) ∈ plainPhrases := by simp [plainPhrases]
  have weekend : ("hafta sonu".toList, Grammar.weekend) ∈ plainPhrases := by simp [plainPhrases]
  have back (t : Text) : DateSpec.valueOf ⟨t, []⟩ 0 (-1) = .ok (-1) := rfl
  have before := inside.beside (Int.le_refl (-1)) (by decide)
  have now := inside.beside (show -1 ≤ 0 by decide) (by decide)
  refine ⟨?_, isSpanOf_thisWeek (inside.of_le (by decide)) fallback, ?_, ?_⟩
  · have action : Grammar.lastWeek.action = Grammar.weekdaySpan (-1) (.literal 0) (.literal 6) := rfl
    exact isSpanOf_weekdays lastWeek action (back _) (by decide) before (by omega) (by omega) fallback
  · have action : Grammar.weekdays.action = Grammar.weekdaySpan .unset (.literal 0) (.literal 4) := rfl
    exact isSpanOf_weekdays weekdays action rfl (by decide) now (by omega) (by omega) fallback
  · have action : Grammar.weekend.action = Grammar.weekdaySpan (-1) (.literal 5) (.literal 6) := rfl
    exact isSpanOf_weekdays weekend action (back _) (by decide) before (by omega) (by omega) fallback

end

/-- The twenty-sixth of February 2024 was a Monday. -/
theorem seven_dvd_monday (date : Date) : 7 ∣ date.monday - Date.dayNumber ⟨2024, 2, 26⟩ := by
  have known : (Date.dayNumber ⟨2024, 2, 26⟩ + 2) % 7 = 0 := by decide
  unfold Date.monday Date.daysSinceMonday
  omega

/-- Whatever the weekday of the reference is, weeks are counted from the Monday of its week. What ends at the reference,
or has its time of day, does so without the fraction of its second. -/
theorem weeks_begin_on_monday (reference : Moment) (inside : Timestamp.IsInside 14 reference.seconds)
    (fallback : Option Fallback) :
    let value (t : Text) := ((⟨grammar, reference, fallback⟩ : Resolver).resolve t).value
    let monday := reference.date.monday
    let today := reference.date.dayNumber
    ((Date.ofDayNumber monday).daysSinceMonday = 0 ∧ 7 ∣ monday - Date.dayNumber ⟨2024, 2, 26⟩ ∧
      monday ≤ today ∧ today ≤ monday + 6) ∧
    (∀ day ∈ weekdaysFromMonday, ∀ digits, IsDigits digits →
      (Timestamp.IsInside 14 (reference.seconds + 7 * secondsPerDay * digitsValue digits) →
        ∃ t : Timestamp, value (digits ++ " hafta sonra ".toList ++ day.1) = some (.instant t) ∧
          IsOnDay (monday + 7 * digitsValue digits + day.2) reference t) ∧
      (Timestamp.IsInside 14 (reference.seconds - 7 * secondsPerDay * digitsValue digits) →
        ∃ t : Timestamp, value (digits ++ " hafta önce ".toList ++ day.1) = some (.instant t) ∧
          IsOnDay (monday - 7 * digitsValue digits + day.2) reference t)) ∧
    (∀ day ∈ weekdaysFromMonday, ∃ next previous : Timestamp,
      value ("önümüzdeki ".toList ++ day.1) = some (.instant next) ∧
        value ("1 hafta sonra ".toList ++ day.1) = some (.instant next) ∧
        IsOnDay (monday + 7 + day.2) reference next ∧
        today + 1 ≤ next.date.dayNumber ∧ next.date.dayNumber ≤ today + 13 ∧
        value ("geçen ".toList ++ day.1) = some (.instant previous) ∧
        value ("1 hafta önce ".toList ++ day.1) = some (.instant previous) ∧
        IsOnDay (monday - 7 + day.2) reference previous ∧
        today - 13 ≤ previous.date.dayNumber ∧ previous.date.dayNumber ≤ today - 1) ∧
    IsSpanOf (secondsPerDay * (monday - 7)) (secondsPerDay * monday - 1) (value "geçen hafta".toList) ∧
    IsSpanOf (secondsPerDay * monday) reference.seconds (value "bu hafta".toList) ∧
    IsSpanOf (secondsPerDay * monday) (secondsPerDay * (monday + 5) - 1) (value "hafta içi".toList) ∧
    IsSpanOf (secondsPerDay * (monday - 2)) (secondsPerDay * monday - 1) (value "hafta sonu".toList) := by
  intro value monday today
  have week : monday ≤ today ∧ today ≤ monday + 6 := by
    have bounds := reference.date.daysSinceMonday_bounds
    unfold monday Date.monday
    omega
  refine ⟨⟨reference.date.daysSinceMonday_monday, seven_dvd_monday reference.date, week⟩, ?_, ?_,
    isSpanOf_weeks inside fallback⟩
  · exact fun day named digits isDigits => exists_value_weeksAway isDigits named fallback
  · intro day named
    obtain ⟨⟨next, beside, counted, isNext⟩, previous, beside', counted', isPrevious⟩ :=
      exists_value_weekBeside inside named fallback
    have place := place_bounds day named
    have after := isNext.day
    have before := isPrevious.day
    exact ⟨next, previous, beside, counted, isNext, by omega, by omega, beside', counted', isPrevious, by omega,
      by omega⟩

/-- Around half a second past one in the morning of a leap day, which is a Thursday. -/
theorem weeks_begin_on_monday_leap_day :
    let reference : Moment := ⟨⟨secondsPerDay * Date.dayNumber ⟨2024, 2, 29⟩ + 3600, by decide⟩, 500000000, by decide⟩
    let sunday : Timestamp := ⟨secondsPerDay * Date.dayNumber ⟨2024, 3, 17⟩ + 3600, by decide⟩
    let monday : Timestamp := ⟨secondsPerDay * Date.dayNumber ⟨2024, 2, 12⟩ + 3600, by decide⟩
    let thisMonday : Timestamp := ⟨secondsPerDay * Date.dayNumber ⟨2024, 2, 26⟩, by decide⟩
    let value (t : Text) := ((⟨grammar, reference, none⟩ : Resolver).resolve t).value
    Timestamp.IsInside 14 reference.seconds ∧
      Timestamp.IsInside 14 (reference.seconds + 7 * secondsPerDay * digitsValue "02".toList) ∧
      Timestamp.IsInside 14 (reference.seconds - 7 * secondsPerDay * digitsValue "02".toList) ∧
      IsDigits "02".toList ∧ value "02 hafta sonra pazar".toList = some (.instant sunday) ∧
      value "02 hafta önce pazartesi".toList = some (.instant monday) ∧
      value "bu hafta".toList = some (.span thisMonday reference.toTimestamp) ∧
      IsSpanOf (secondsPerDay * Date.dayNumber ⟨2024, 2, 24⟩) (secondsPerDay * Date.dayNumber ⟨2024, 2, 26⟩ - 1)
        (value "hafta sonu".toList) := by
  intro reference sunday monday thisMonday value
  have inside : Timestamp.IsInside 14 reference.seconds := by unfold Timestamp.IsInside; decide
  have later : Timestamp.IsInside 14 (reference.seconds + 7 * secondsPerDay * digitsValue "02".toList) := by
    unfold Timestamp.IsInside
    decide
  have earlier : Timestamp.IsInside 14 (reference.seconds - 7 * secondsPerDay * digitsValue "02".toList) := by
    unfold Timestamp.IsInside
    decide
  have two : IsDigits "02".toList := by decide
  have thisWeek : reference.date.monday = Date.dayNumber ⟨2024, 2, 26⟩ := by decide
  obtain ⟨-, counted, -, -, ⟨start, stop, now, atStart, atStop⟩, -, weekend⟩ :=
    weeks_begin_on_monday reference inside none
  obtain ⟨t, found, onSunday⟩ := (counted ("pazar".toList, 6) (by decide) "02".toList two).1 later
  obtain rfl : t = sunday := Timestamp.eq_of_seconds (onSunday.seconds.trans (by decide))
  obtain ⟨t, found', onMonday⟩ := (counted ("pazartesi".toList, 0) (by decide) "02".toList two).2 earlier
  obtain rfl : t = monday := Timestamp.eq_of_seconds (onMonday.seconds.trans (by decide))
  obtain rfl : start = thisMonday := Timestamp.eq_of_seconds (atStart.trans (by decide))
  obtain rfl : stop = reference.toTimestamp := Timestamp.eq_of_seconds atStop
  rw [thisWeek] at weekend
  exact ⟨inside, later, earlier, two, found, found', now, weekend⟩

end TurkishDates
