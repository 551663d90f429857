import TurkishDates.Proofs.DateSpec.WholeMonths
import TurkishDates.Proofs.Resolution.Phrases

/-!
Months around the reference, by expressions. The months counted back, the one before, the one of the reference and the
one after it are whole months that follow each other.
-/

namespace TurkishDates

open Numeral

theorem digitsOf_of_lt {n : Nat} (single : n < 10) : digitsOf n = [n.digitChar] := by
  rw [digitsOf, Nat.toDigits_eq_if (by decide), if_pos single]

theorem digitsOf_of_le {n : Nat} (more : 10 ≤ n) : digitsOf n = digitsOf (n / 10) ++ [(n % 10).digitChar] := by
  rw [digitsOf, Nat.toDigits_eq_if (by decide), if_neg (by omega)]
  rfl

theorem head?_digitsOf {n : Nat} (positive : 1 ≤ n) : (digitsOf n).head? ≠ some '0' := by
  induction n using Nat.strongRecOn with
  | ind n ih =>
    by_cases single : n < 10
    · have letters : ∀ n < 10, 1 ≤ n → [n.digitChar].head? ≠ some '0' := by decide
      rw [digitsOf_of_lt single]
      exact letters n single positive
    · have further := ih (n / 10) (by omega) (by omega)
      obtain ⟨c, others, first⟩ := List.exists_cons_of_ne_nil (isDigits_digitsOf (n / 10)).1
      rw [digitsOf_of_le (by omega), first]
      rwa [first] at further

namespace DateSpec

variable {captures : Captures} {reference : Moment}

theorem readCapture_negated_digitsOf {index n : Nat} (captured : captures.group? index = some (digitsOf n))
    (small : (n : Int) ≤ greatestWord) : readCapture captures ⟨index, none, true, 0⟩ = .ok (-(n : Int)) := by
  have fits : fitsWord n = true := by
    simp only [Bounds.fitsWord_iff, Bounds.mem_iff, Bounds.words, leastWord]
    omega
  rw [readCapture_of_isDigits captured (isDigits_digitsOf n) true, digitsValue_digitsOf, if_pos fits]
  rfl

theorem exists_denote_wholeMonth {shift : Field} (given : shift ≠ .unset) {delta : Int}
    (read : valueOf captures 0 shift = .ok delta) (small : delta.natAbs ≤ greatestWord)
    (after : 12 * earliestYear ≤ reference.date.months + delta)
    (before : reference.date.months + delta < 12 * (latestYear + 1)) :
    ∃ start stop, (Action.wholeMonth { monthShift := shift }).denote captures reference = .ok (.span start stop) ∧
      SpansMonths (reference.date.months + delta) (reference.date.months + delta) start stop :=
  have dated := hasMonth_shifted given read small
  have unshifted : ({ monthShift := shift } : DateSpec).IsUnshifted := ⟨rfl, rfl, rfl, rfl, rfl, rfl⟩
  exists_denote_months dated dated unshifted unshifted after (Int.le_refl _) before

theorem exists_denote_thisMonth : ∃ start stop,
    (Action.untilNow { day := 1 }).denote captures reference = .ok (.span start reference.toTimestamp) ∧
      SpansMonths reference.date.months reference.date.months start stop := by
  obtain ⟨after, before⟩ := reference.year_bounds
  obtain ⟨january, december⟩ := reference.isReal_date.month_bounds
  have representable : 12 * earliestYear ≤ reference.date.months ∧ reference.date.months < 12 * (latestYear + 1) := by
    unfold Date.months
    omega
  have unshifted : ({} : DateSpec).IsUnshifted := ⟨rfl, rfl, rfl, rfl, rfl, rfl⟩
  have dated : ({} : DateSpec).HasMonth captures reference reference.date.months := hasMonth_unshifted
  obtain ⟨start, begins, found⟩ := dated.exists_build_monthStart unshifted representable.1 representable.2
  obtain ⟨stop, -, ends⟩ := dated.exists_build_monthEnd unshifted representable.1 representable.2
  exact ⟨start, stop, denote_untilNow begins, found, ends⟩

end DateSpec

section

variable {reference : Moment}

theorem exists_value_monthsBefore {n : Nat} (positive : 1 ≤ n) (after : 12 * earliestYear ≤ reference.date.months - n)
    (fallback : Option Fallback) :
    ∃ start stop, ((⟨grammar, reference, fallback⟩ : Resolver).resolve (digitsOf n ++ " ay önce".toList)).value =
      some (.span start stop) ∧ SpansMonths (reference.date.months - n) (reference.date.months - n) start stop := by
  obtain ⟨-, before⟩ := reference.year_bounds
  obtain ⟨january, december⟩ := reference.isReal_date.month_bounds
  have near : (n : Int) ≤ 10 ^ 7 ∧ reference.date.months < 12 * (latestYear + 1) := by
    unfold Date.months at *
    unfold earliestYear latestYear at *
    omega
  have spaced : " ay önce".toList = ' ' :: "ay önce".toList := by decide
  have listed : ("ay önce".toList, Grammar.monthsBefore) ∈ countedPhrases := by simp [countedPhrases]
  have reads : ∀ shape ∈ Grammar.monthsBefore.pattern.keptShapes, shape.Reads (digitsOf n) (' ' :: "ay önce".toList) :=
    List.forall_mem_singleton.mpr (reads_divisor.mpr ⟨isDigits_digitsOf n, head?_digitsOf positive⟩)
  have only := isOnlyMatch_counted listed (isDigits_digitsOf n) reads
  have read : DateSpec.readCapture ⟨digitsOf n ++ ' ' :: "ay önce".toList, [some (digitsOf n)]⟩ ⟨1, none, true, 0⟩ =
      .ok (-(n : Int)) := DateSpec.readCapture_negated_digitsOf rfl (by unfold greatestWord; omega)
  have given : -group 1 ≠ .unset := by decide
  have inRange : 12 * earliestYear ≤ reference.date.months + -(n : Int) := by omega
  obtain ⟨start, stop, denoted, spans⟩ := DateSpec.exists_denote_wholeMonth given read
    (by unfold greatestWord; omega) inRange (by omega)
  rw [spaced]
  exact ⟨start, stop, only.value_resolve denoted fallback, spans⟩

theorem exists_value_plain_month {words : Text} {rule : Rule} (listed : (words, rule) ∈ plainPhrases) {delta : Int}
    (action : rule.action = .wholeMonth { monthShift := .literal delta }) (small : delta.natAbs ≤ 12)
    (after : 12 * earliestYear ≤ reference.date.months + delta)
    (before : reference.date.months + delta < 12 * (latestYear + 1)) (fallback : Option Fallback) :
    ∃ start stop, ((⟨grammar, reference, fallback⟩ : Resolver).resolve words).value = some (.span start stop) ∧
      SpansMonths (reference.date.months + delta) (reference.date.months + delta) start stop := by
  have given : Field.literal delta ≠ .unset := by simp
  have read : DateSpec.valueOf ⟨words, []⟩ 0 (.literal delta) = .ok delta := rfl
  obtain ⟨start, stop, denoted, spans⟩ := DateSpec.exists_denote_wholeMonth given read
    (by unfold greatestWord; omega) after before
  rw [← action] at denoted
  exact ⟨start, stop, (isOnlyMatch_plain listed).value_resolve denoted fallback, spans⟩

end

/-- Every month that is counted back ends one second before the next one, down to the earliest that is representable. -/
theorem months_tile_time (reference : Moment) (after : -262000 ≤ reference.date.year)
    (before : reference.date.year ≤ 262000) (fallback : Option Fallback) :
    let value (t : Text) := ((⟨grammar, reference, fallback⟩ : Resolver).resolve t).value
    let month := reference.date.months
    (∀ n : Nat, 1 ≤ n → 12 * earliestYear ≤ month - (n + 1 : Nat) → ∃ start stop start' stop',
      value (digitsOf n ++ " ay önce".toList) = some (.span start stop) ∧
        SpansMonths (month - n) (month - n) start stop ∧
        value (digitsOf (n + 1) ++ " ay önce".toList) = some (.span start' stop') ∧
        SpansMonths (month - (n + 1 : Nat)) (month - (n + 1 : Nat)) start' stop' ∧
        stop'.seconds + 1 = start.seconds) ∧
    ∃ lastStart lastStop thisStart thisStop nextStart nextStop,
      value "1 ay önce".toList = some (.span lastStart lastStop) ∧
        value "geçen ay".toList = some (.span lastStart lastStop) ∧
        value "bu ay".toList = some (.span thisStart reference.toTimestamp) ∧
        value "gelecek ay".toList = some (.span nextStart nextStop) ∧
        SpansMonths (month - 1) (month - 1) lastStart lastStop ∧ SpansMonths month month thisStart thisStop ∧
        SpansMonths (month + 1) (month + 1) nextStart nextStop ∧
        lastStop.seconds + 1 = thisStart.seconds ∧ thisStop.seconds + 1 = nextStart.seconds := by
  intro value month
  obtain ⟨january, december⟩ := reference.isReal_date.month_bounds
  have far : 12 * earliestYear ≤ month - 2 ∧ month + 1 < 12 * (latestYear + 1) := by
    unfold month Date.months earliestYear latestYear
    omega
  constructor
  · intro n positive inRange
    obtain ⟨start, stop, counted, spans⟩ := exists_value_monthsBefore positive
      (show 12 * earliestYear ≤ month - n by omega) fallback
    obtain ⟨start', stop', counted', spans'⟩ := exists_value_monthsBefore (show 1 ≤ n + 1 by omega) inRange fallback
    exact ⟨start, stop, start', stop', counted, spans, counted', spans', spans'.stop_add_one spans (by omega)⟩
  · obtain ⟨lastStart, lastStop, counted, lastSpans⟩ := exists_value_monthsBefore (Nat.le_refl 1)
      (show 12 * earliestYear ≤ month - (1 : Nat) by omega) fallback
    have previous : ("geçen ay".toList, Grammar.previousMonth) ∈ plainPhrases := by simp [plainPhrases]
    have next : ("gelecek ay".toList, Grammar.nextMonth) ∈ plainPhrases := by simp [plainPhrases]
    have this : ("bu ay".toList, Grammar.thisMonth) ∈ plainPhrases := by simp [plainPhrases]
    obtain ⟨start, stop, named, spans⟩ := exists_value_plain_month previous rfl (by decide)
      (show 12 * earliestYear ≤ month + -1 by omega) (by omega) fallback
    obtain ⟨nextStart, nextStop, nextNamed, nextSpans⟩ := exists_value_plain_month next rfl (by decide)
      (show 12 * earliestYear ≤ month + 1 by omega) far.2 fallback
    obtain ⟨thisStart, thisStop, denoted, thisSpans⟩ := DateSpec.exists_denote_thisMonth
    have thisNamed := (isOnlyMatch_plain this).value_resolve denoted fallback
    obtain ⟨rfl, rfl⟩ := lastSpans.unique spans
    exact ⟨lastStart, lastStop, thisStart, thisStop, nextStart, nextStop, counted, named, thisNamed, nextNamed,
      lastSpans, thisSpans, nextSpans, lastSpans.stop_add_one thisSpans (by omega),
      thisSpans.stop_add_one nextSpans rfl⟩

/-- From a leap day back across the beginning of the year 0. -/
theorem months_tile_time_leap_day :
    let leapDay : Moment := ⟨⟨secondsPerDay * Date.dayNumber ⟨2024, 2, 29⟩, by decide⟩, 500000000, by decide⟩
    let value (t : Text) := ((⟨grammar, leapDay, none⟩ : Resolver).resolve t).value
    leapDay.date = ⟨2024, 2, 29⟩ ∧
      (∃ start stop start' stop', value "24289 ay önce".toList = some (.span start stop) ∧ SpansMonths 0 0 start stop ∧
        value "24290 ay önce".toList = some (.span start' stop') ∧ SpansMonths (-1) (-1) start' stop' ∧
        stop'.seconds + 1 = start.seconds) ∧
      ∃ lastStart lastStop thisStart nextStart nextStop, value "geçen ay".toList = some (.span lastStart lastStop) ∧
        value "bu ay".toList = some (.span thisStart leapDay.toTimestamp) ∧
        value "gelecek ay".toList = some (.span nextStart nextStop) ∧ lastStop.seconds + 1 = thisStart.seconds := by
  intro leapDay value
  have date : leapDay.date = ⟨2024, 2, 29⟩ := by decide
  have month : leapDay.date.months = 24289 := by decide
  have texts : "24289 ay önce".toList = digitsOf 24289 ++ " ay önce".toList ∧
      "24290 ay önce".toList = digitsOf 24290 ++ " ay önce".toList := by
    decide
  obtain ⟨counted, lastStart, lastStop, thisStart, -, nextStart, nextStop, -, last, this, next, -, -, -, meets, -⟩ :=
    months_tile_time leapDay (by rw [date]; decide) (by rw [date]; decide) none
  obtain ⟨start, stop, start', stop', value, spans, value', spans', meets'⟩ :=
    counted 24289 (by decide) (by rw [month]; decide)
  rw [month] at spans spans'
  rw [texts.1, texts.2]
  exact ⟨date, ⟨start, stop, start', stop', value, spans, value', spans', meets'⟩,
    lastStart, lastStop, thisStart, nextStart, nextStop, last, this, next, meets⟩

end TurkishDates
