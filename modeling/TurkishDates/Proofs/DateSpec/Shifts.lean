import TurkishDates.Proofs.DateSpec.Anchor
import TurkishDates.Proofs.Grammar.Captures

/-!
Descriptions that move the reference, or the start or the end of its day. Such a day and time of day always
exist, so what is described fails only for amounts that are no words, and for shifts out of the representable range.
-/

namespace TurkishDates

namespace Date

def monday (date : Date) : Int := date.dayNumber - date.daysSinceMonday

theorem daysSinceMonday_bounds (date : Date) : 0 ≤ date.daysSinceMonday ∧ date.daysSinceMonday ≤ 6 := by
  unfold daysSinceMonday
  omega

theorem daysSinceMonday_monday (date : Date) : (ofDayNumber date.monday).daysSinceMonday = 0 := by
  have number := dayNumber_ofDayNumber date.monday
  unfold monday daysSinceMonday at *
  omega

end Date

namespace Timestamp

theorem secondOfDay_eq (t : Timestamp) : 3600 * t.hour + 60 * t.minute + t.second = t.secondOfDay := by
  unfold hour minute second
  omega

theorem ofParts?_parts (t : Timestamp) : ofParts? t.date t.hour t.minute t.second = some t := by
  have clock := t.clock_bounds
  have parts := t.secondOfDay_eq
  rw [ofParts?, if_pos (by omega), ofSeconds?_eq_some_iff, t.dayNumber_date]
  unfold secondOfDay secondsPerDay at *
  omega

theorem seconds_bounds (t : Timestamp) : -10 ^ 13 < t.seconds ∧ t.seconds < 10 ^ 13 := by
  have range : -10 ^ 13 < earliestSecond ∧ latestSecond < 10 ^ 13 := by decide
  obtain ⟨after, before⟩ := t.representable
  omega

def IsInside (days seconds : Int) : Prop :=
  earliestSecond + secondsPerDay * days ≤ seconds ∧ seconds ≤ latestSecond - secondsPerDay * days

theorem IsInside.of_le {days fewer seconds : Int} (inside : IsInside days seconds) (less : fewer ≤ days) :
    IsInside fewer seconds := by
  unfold IsInside secondsPerDay at *
  omega

theorem IsInside.beside {seconds weeks : Int} (inside : IsInside 14 seconds) (low : -1 ≤ weeks) (high : weeks ≤ 1) :
    IsInside 7 (seconds + 7 * secondsPerDay * weeks) := by
  unfold IsInside secondsPerDay at *
  omega

theorem eq_of_seconds {t later : Timestamp} (same : t.seconds = later.seconds) : t = later :=
  Option.some.inj ((ofSeconds?_eq_some_iff.mpr rfl).symm.trans (ofSeconds?_eq_some_iff.mpr same.symm))

theorem dayNumber_and_secondOfDay {t : Timestamp} {number second : Int} (valid : 0 ≤ second ∧ second < secondsPerDay)
    (same : t.seconds = secondsPerDay * number + second) : t.date.dayNumber = number ∧ t.secondOfDay = second := by
  rw [t.dayNumber_date]
  unfold secondOfDay
  unfold secondsPerDay at *
  omega

end Timestamp

namespace DateSpec

variable {spec : DateSpec} {captures : Captures} {reference : Moment}

def KeepsDay (spec : DateSpec) : Prop := spec.keepsMonth = true ∧ spec.day = .unset

theorem KeepsDay.hasDate (keeps : spec.KeepsDay) : spec.HasDate captures reference reference.date where
  yearAndMonth := by
    obtain ⟨after, before⟩ := reference.year_bounds
    obtain ⟨sameMonth, -⟩ := keeps
    simp only [keepsMonth, Bool.and_eq_true, decide_eq_true_eq] at sameMonth
    obtain ⟨⟨⟨⟨year, month⟩, rounding⟩, yearShift⟩, monthShift⟩ := sameMonth
    rw [DateSpec.yearAndMonth, year, month, rounding, yearShift, monthShift]
    change (checked (reference.date.year + 0) >>= fun year => .ok (year, reference.date.month)) = _
    rw [checked, Int.add_zero, if_pos (fitsWord_of_representable after before)]
    rfl
  day := by
    rw [dayOf, keeps.2]
    rfl

theorem KeepsDay.exists_anchor (keeps : spec.KeepsDay) {hour minute second : Int}
    (clock : spec.HasClock captures reference hour minute second) :
    ∃ t, spec.anchor captures reference = .ok t ∧
      Timestamp.ofParts? reference.date hour minute second = some t := by
  obtain ⟨after, before⟩ := reference.year_bounds
  exact keeps.hasDate.exists_anchor clock reference.isReal_date after before

def KeepsClock (spec : DateSpec) : Prop := spec.hour = .unset ∧ spec.minute = .unset ∧ spec.second = .unset

theorem KeepsClock.hasClock (keeps : spec.KeepsClock) :
    spec.HasClock captures reference reference.hour reference.minute reference.second := by
  obtain ⟨hour, minute, second⟩ := keeps
  have bounds := reference.clock_bounds
  exact ⟨by rw [hour]; rfl, by rw [minute]; rfl, by rw [second]; rfl, by omega⟩

theorem KeepsDay.anchor_eq (keeps : spec.KeepsDay) (keepsClock : spec.KeepsClock) :
    spec.anchor captures reference = .ok reference.toTimestamp := by
  obtain ⟨t, anchored, found⟩ := keeps.exists_anchor keepsClock.hasClock
  rw [anchored, Option.some.inj (found.symm.trans reference.ofParts?_parts)]

/-- A description with nothing set is that of the reference without its fraction. -/
theorem build_unset : ({} : DateSpec).build captures reference = .ok reference.toTimestamp := by
  have unshifted : ({} : DateSpec).IsUnshifted := ⟨rfl, rfl, rfl, rfl, rfl, rfl⟩
  rw [unshifted.build_eq]
  exact KeepsDay.anchor_eq ⟨rfl, rfl⟩ ⟨rfl, rfl, rfl⟩

theorem denote_untilNow {start : Timestamp} (begins : spec.startOfDay.build captures reference = .ok start) :
    (Action.untilNow spec).denote captures reference = .ok (.span start reference.toTimestamp) := by
  rw [Action.untilNow, Action.denote, begins, build_unset]
  rfl

theorem move_eq_ok_iff {t later : Timestamp} {unit amount : Int} :
    move t unit amount = .ok later ↔ later.seconds = t.seconds + unit * amount := by
  rw [move, found_eq_ok_iff, Timestamp.shift?, Timestamp.ofSeconds?_eq_some_iff]

theorem ok_bind {α β : Type} (a : α) (next : α → Except BuildError β) : (Except.ok a >>= next) = next a := rfl

theorem bind_ok {α : Type} (computation : Except BuildError α) : (computation >>= fun a => .ok a) = computation :=
  bind_pure computation

theorem valueOf_unset (unset : Int) : valueOf captures unset .unset = .ok unset := rfl

theorem build_dayShift (shift : Field) : build { dayShift := shift } captures reference =
    valueOf captures 0 shift >>= move reference.toTimestamp secondsPerDay := by
  have anchored : DateSpec.anchor { dayShift := shift } captures reference = .ok reference.toTimestamp :=
    KeepsDay.anchor_eq ⟨rfl, rfl⟩ ⟨rfl, rfl, rfl⟩
  simp only [build, anchored, valueOf_unset, weekdayShift, ok_bind, move_zero, bind_ok]

theorem build_weekShift (shift : Field) : build { weekShift := shift } captures reference =
    valueOf captures 0 shift >>= move reference.toTimestamp (7 * secondsPerDay) := by
  have anchored : DateSpec.anchor { weekShift := shift } captures reference = .ok reference.toTimestamp :=
    KeepsDay.anchor_eq ⟨rfl, rfl⟩ ⟨rfl, rfl, rfl⟩
  simp only [build, anchored, valueOf_unset, weekdayShift, ok_bind, move_zero, bind_ok]

theorem build_minuteShift (shift : Field) : build { minuteShift := shift } captures reference =
    valueOf captures 0 shift >>= move reference.toTimestamp 60 := by
  have anchored : DateSpec.anchor { minuteShift := shift } captures reference = .ok reference.toTimestamp :=
    KeepsDay.anchor_eq ⟨rfl, rfl⟩ ⟨rfl, rfl, rfl⟩
  simp only [build, anchored, valueOf_unset, weekdayShift, ok_bind, move_zero, bind_ok]

theorem readCapture_of_isDigits {index : Nat} {digits : Text} (captured : captures.group? index = some digits)
    (isDigits : Numeral.IsDigits digits) (negated : Bool) :
    readCapture captures ⟨index, none, negated, 0⟩ = if fitsWord (digitsValue digits) then
      .ok (if negated then -(digitsValue digits : Int) else digitsValue digits) else .error .numberTooLarge := by
  rw [readCapture_eq captured, lookUp, readNumeral, Numeral.readNumber_of_isDigits isDigits]
  by_cases fits : fitsWord (digitsValue digits) = true
  · have bounds := Bounds.fitsWord_iff.mp fits
    have negative : fitsWord (-(digitsValue digits : Int)) = true := by
      simp only [Bounds.fitsWord_iff, Bounds.mem_iff, Bounds.words, leastWord, greatestWord] at bounds ⊢
      omega
    simp only [if_pos fits, ok_bind]
    cases negated with
    | true => simp only [if_true, word, negative, ok_bind, checked, Int.add_zero]
    | false => simp only [Bool.false_eq_true, if_false, ok_bind, checked, Int.add_zero, fits, if_true]
  · simp only [if_neg fits]
    rfl

/-- What is counted in digits is where the sum of seconds is. A number that is no word leads out of the range. -/
theorem readCapture_move_eq_ok_iff {index : Nat} {digits : Text} (captured : captures.group? index = some digits)
    (isDigits : Numeral.IsDigits digits) (negated : Bool) {unit : Int} (forward : 1 ≤ unit) {t later : Timestamp} :
    (readCapture captures ⟨index, none, negated, 0⟩ >>= move t unit) = .ok later ↔
      later.seconds = t.seconds + unit * (if negated then -(digitsValue digits : Int) else digitsValue digits) := by
  rw [readCapture_of_isDigits captured isDigits negated]
  by_cases fits : fitsWord (digitsValue digits) = true
  · rw [if_pos fits, ok_bind, move_eq_ok_iff]
  · rw [if_neg fits]
    have far : 10 ^ 14 < (digitsValue digits : Int) := by
      simp only [Bounds.fitsWord_iff, Bounds.mem_iff, Bounds.words, leastWord, greatestWord] at fits
      omega
    have further : (digitsValue digits : Int) ≤ unit * digitsValue digits :=
      le_mul_of_one_le_left (Int.natCast_nonneg _) forward
    have here := t.seconds_bounds
    have there := later.seconds_bounds
    constructor
    · intro failed
      cases failed
    · intro same
      cases negated with
      | true =>
        simp only [if_true, Int.mul_neg] at same
        omega
      | false =>
        simp only [Bool.false_eq_true, if_false] at same
        omega

section Weeks

def CountsWeeks (spec : DateSpec) : Prop :=
  spec.dayShift = .unset ∧ spec.hourShift = .unset ∧ spec.minuteShift = .unset ∧ spec.secondShift = .unset

theorem weekdayShift_eq {weekday : Int} (given : spec.weekday ≠ .unset)
    (read : valueOf captures 0 spec.weekday = .ok weekday) (monday : 0 ≤ weekday) (sunday : weekday ≤ 6) :
    spec.weekdayShift captures reference = .ok (weekday - reference.date.daysSinceMonday) := by
  have bounds := reference.date.daysSinceMonday_bounds
  have fits : fitsWord (weekday - reference.date.daysSinceMonday) = true := by
    simp only [Bounds.fitsWord_iff, Bounds.mem_iff, Bounds.words, leastWord, greatestWord]
    omega
  rw [weekdayShift_of_given given, read, ok_bind, word, if_pos fits]

/-- A weekday of the reference week or of a week before or after it. The weekday is counted from that of the
reference, which is the same on the day that the weeks lead to. -/
theorem exists_build_weekday (keeps : spec.KeepsDay) (counts : spec.CountsWeeks) {hour minute second : Int}
    (clock : spec.HasClock captures reference hour minute second) {weeks weekday : Int}
    (weeksRead : valueOf captures 0 spec.weekShift = .ok weeks) (given : spec.weekday ≠ .unset)
    (read : valueOf captures 0 spec.weekday = .ok weekday) (monday : 0 ≤ weekday) (sunday : weekday ≤ 6)
    (inside : Timestamp.IsInside 7 (reference.seconds + 7 * secondsPerDay * weeks)) :
    ∃ t, spec.build captures reference = .ok t ∧ t.seconds = secondsPerDay *
      (reference.date.monday + 7 * weeks + weekday) + 3600 * hour + 60 * minute + second := by
  obtain ⟨start, anchored, found⟩ := keeps.exists_anchor clock
  have begun := Timestamp.seconds_of_ofParts? found
  obtain ⟨days, hours, minutes, seconds⟩ := counts
  have valid := clock.valid
  have day := reference.dayNumber_date
  have bounds := reference.date.daysSinceMonday_bounds
  unfold Timestamp.IsInside at inside
  unfold secondsPerDay at *
  obtain ⟨moved, shifted⟩ : ∃ moved, start.shift? (7 * 86400 * weeks) = some moved :=
    Timestamp.exists_shift? (by omega) (by omega)
  have movedSeconds := Timestamp.seconds_of_shift? shifted
  obtain ⟨t, shifted'⟩ : ∃ t, moved.shift? (86400 * (weekday - reference.date.daysSinceMonday)) = some t :=
    Timestamp.exists_shift? (by omega) (by omega)
  have tSeconds := Timestamp.seconds_of_shift? shifted'
  have toWeek : move start (7 * secondsPerDay) weeks = .ok moved := move_eq_ok_iff.mpr movedSeconds
  have toDay : move moved secondsPerDay (weekday - reference.date.daysSinceMonday) = .ok t :=
    move_eq_ok_iff.mpr tSeconds
  refine ⟨t, ?_, ?_⟩
  · simp only [build, anchored, weeksRead, days, weekdayShift_eq given read monday sunday, hours, minutes, seconds,
      valueOf_unset, ok_bind, move_zero, toWeek, toDay]
  · unfold Date.monday
    omega

theorem exists_valueOf_weekdayOf {index : Nat} {weekday : Text} (captured : captures.group? index = some weekday)
    (name : weekday ∈ weekdayNames) : ∃ days, weekdayOffset? weekday = some days ∧ 0 ≤ days ∧ days ≤ 6 ∧
      valueOf captures 0 (weekdayOf index) = .ok days := by
  obtain ⟨days, known, bounds⟩ := (Option.any_eq_true _ _).mp (weekdayOffset?_of_mem weekday name)
  simp only [Bool.and_eq_true, decide_eq_true_eq] at bounds
  refine ⟨days, known, bounds.1, bounds.2, ?_⟩
  let source : Capture := ⟨index, some .weekdays, false, 0⟩
  have admitted : source.use.Admits weekday := name
  have read : lookUp source.names weekday = .ok days := found_eq_ok_iff.mpr known
  have looked : readCapture captures source = .ok (days + 0) :=
    readCapture_of_lookUp captured admitted read (by rfl) (by rfl)
  rwa [Int.add_zero] at looked

/-- From the start of a weekday to the end of a later one, in the same week. -/
theorem exists_denote_weekdaySpan {shift : Field} {weeks first last : Int}
    (read : valueOf captures 0 shift = .ok weeks) (weekdays : 0 ≤ first ∧ first ≤ last ∧ last ≤ 6)
    (inside : Timestamp.IsInside 7 (reference.seconds + 7 * secondsPerDay * weeks)) :
    ∃ start stop, (Grammar.weekdaySpan shift (.literal first) (.literal last)).denote captures reference =
        .ok (.span start stop) ∧
      start.seconds = secondsPerDay * (reference.date.monday + 7 * weeks + first) ∧
      stop.seconds = secondsPerDay * (reference.date.monday + 7 * weeks + last + 1) - 1 := by
  have midnight : (startOfDay { weekShift := shift, weekday := .literal first }).HasClock captures reference 0 0 0 :=
    hasClock_startOfDay _
  have lastSecond : (endOfDay { weekShift := shift, weekday := .literal last }).HasClock captures reference 23 59 59 :=
    hasClock_endOfDay _
  have given (n : Int) : Field.literal n ≠ .unset := by simp
  obtain ⟨start, begins, atStart⟩ := exists_build_weekday ⟨rfl, rfl⟩ ⟨rfl, rfl, rfl, rfl⟩ midnight read (given first)
    rfl (by omega) (by omega) inside
  obtain ⟨stop, ends, atStop⟩ := exists_build_weekday ⟨rfl, rfl⟩ ⟨rfl, rfl, rfl, rfl⟩ lastSecond read (given last)
    rfl (by omega) (by omega) inside
  refine ⟨start, stop, ?_, ?_, ?_⟩
  · rw [Grammar.weekdaySpan, Action.denote, begins, ends]
    rfl
  · omega
  · unfold secondsPerDay at *
    omega

end Weeks

end DateSpec

end TurkishDates
