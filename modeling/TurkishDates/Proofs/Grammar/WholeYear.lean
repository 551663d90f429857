import TurkishDates.Proofs.DateSpec.Anchor
import TurkishDates.Proofs.Grammar.Captures
import TurkishDates.Resolution.Resolver

/-!
The rule for whole years. It decides on every year between 1900 and 2099 that is written in digits, whatever
the reference is.
-/

namespace TurkishDates

def writtenYears : List Text :=
  let digits := "0123456789".toList
  ["19".toList, "20".toList].flatMap fun century =>
    digits.flatMap fun c => digits.map fun d => century ++ [c, d]

theorem mem_writtenYears_of_isYear {expression : Text} (year : Resolver.isYear expression = true) :
    expression ∈ writtenYears := by
  have written (century : Text) (listed : century ∈ ["19".toList, "20".toList]) {c d : Char}
      (digits : (isDigit c && isDigit d) = true) : century ++ [c, d] ∈ writtenYears := by
    rw [Bool.and_eq_true] at digits
    exact List.mem_flatMap.mpr ⟨century, listed, List.mem_flatMap.mpr
      ⟨c, Numeral.mem_digits_iff.mpr digits.1, List.mem_map_of_mem (Numeral.mem_digits_iff.mpr digits.2)⟩⟩
  unfold Resolver.isYear at year
  split at year
  next => exact written ['1', '9'] (by decide) year
  next => exact written ['2', '0'] (by decide) year
  next => cases year

theorem wholeYear_of_mem_writtenYears : ∀ year ∈ writtenYears,
    Grammar.wholeYear.match? year = some ⟨year, [some year]⟩ ∧
      DateSpec.readCapture ⟨year, [some year]⟩ ⟨1, none, false, 0⟩ = .ok (digitsValue year) ∧
      1900 ≤ digitsValue year ∧ digitsValue year ≤ 2099 := by
  decide +kernel

namespace DateSpec

def capturedYear (month : Int) (day hour minute second : Field) : DateSpec :=
  { year := group 1, month := .literal month, day, hour, minute, second }

variable {captures : Captures} {reference : Moment} {year month dayNumber h m s : Int}
  {day hour minute second : Field}

theorem hasDate_capturedYear (read : readCapture captures ⟨1, none, false, 0⟩ = .ok year)
    (small : fitsWord year = true)
    (days : (capturedYear month day hour minute second).dayOf captures reference.date year month =
      .ok dayNumber) :
    (capturedYear month day hour minute second).HasDate captures reference ⟨year, month, dayNumber⟩ where
  yearAndMonth := by
    change (readCapture captures ⟨1, none, false, 0⟩ >>= fun year =>
      checked (year + 0) >>= fun year => .ok (year, month)) = _
    rw [read]
    change (checked (year + 0) >>= _) = _
    rw [checked, Int.add_zero, if_pos small]
    rfl
  day := days

theorem exists_build_capturedYear (read : readCapture captures ⟨1, none, false, 0⟩ = .ok year)
    (representable : earliestYear ≤ year ∧ year ≤ latestYear)
    (days : (capturedYear month day hour minute second).dayOf captures reference.date year month =
      .ok dayNumber)
    (clock : (capturedYear month day hour minute second).HasClock captures reference h m s)
    (real : (⟨year, month, dayNumber⟩ : Date).IsReal) :
    ∃ t, (capturedYear month day hour minute second).build captures reference = .ok t := by
  have small := fitsWord_of_representable representable.1 representable.2
  have dated := hasDate_capturedYear read small days
  have unshifted : (capturedYear month day hour minute second).IsUnshifted := ⟨rfl, rfl, rfl, rfl, rfl, rfl⟩
  exact (dated.exists_build_iff clock unshifted).mpr ⟨representable.1, representable.2, real⟩

end DateSpec

/-- The rule for years decides on every year, whatever the reference: its first and its last day exist. -/
theorem wholeYear_decides {expression : Text} (year : Resolver.isYear expression = true)
    (reference : Moment) : Grammar.wholeYear.Decides expression reference := by
  obtain ⟨matched, read, low, high⟩ := wholeYear_of_mem_writtenYears expression (mem_writtenYears_of_isYear year)
  let captures : Captures := ⟨expression, [some expression]⟩
  let number : Int := digitsValue expression
  have representable : earliestYear ≤ number ∧ number ≤ latestYear := by
    unfold earliestYear latestYear
    omega
  have january : daysInMonth? number 1 = some 31 := by simp [daysInMonth?, commonMonthLengths]
  have december : daysInMonth? number 12 = some 31 := by simp [daysInMonth?, commonMonthLengths]
  have lastDay : DateSpec.found .noSuchDate (daysInMonth? number 12) = .ok 31 := by
    rw [december]
    rfl
  have first : ∃ t, (DateSpec.capturedYear 1 1 0 0 0).build captures reference = .ok t :=
    DateSpec.exists_build_capturedYear read representable rfl ⟨rfl, rfl, rfl, by decide⟩ ⟨31, january, by simp⟩
  have last : ∃ t, (DateSpec.capturedYear 12 .lastDay 23 59 59).build captures reference = .ok t :=
    DateSpec.exists_build_capturedYear read representable lastDay ⟨rfl, rfl, rfl, by decide⟩
      ⟨31, december, by simp⟩
  obtain ⟨value, denoted⟩ := Action.exists_denote_span_iff.mpr ⟨first, last⟩
  exact ⟨captures, value, matched, denoted⟩

end TurkishDates
