import TurkishDates.Proofs.Resolution.FallbackCalls

/-!
Rules that read no captures. What they denote exists at every reference, but for two that move the reference
by a year and keep its day: on a leap day there is no such day a year earlier or later.
-/

namespace TurkishDates

def innerYears : Bounds := ⟨-262000, 262000⟩

namespace DateSpec

variable {captures : Captures} {reference : Moment}

def yearsLater (years : Int) (hour minute second : Field) : DateSpec :=
  { yearShift := .literal years, hour, minute, second }

theorem hasDate_yearsLater {years : Int} (inWords : fitsWord (reference.date.year + years) = true)
    (hour minute second : Field) : (yearsLater years hour minute second).HasDate captures reference
      ⟨reference.date.year + years, reference.date.month, reference.date.day⟩ where
  yearAndMonth := by
    change (checked (reference.date.year + years) >>= fun year => .ok (year, reference.date.month)) = _
    rw [checked, if_pos inWords]
    rfl
  day := rfl

/-- Moving the year can only lose a leap day. -/
theorem exists_build_yearsLater_iff {years : Int} (near : years = -1 ∨ years = 1)
    (inYears : reference.date.year ∈ innerYears) {hour minute second : Field} {h m s : Int}
    (clock : (yearsLater years hour minute second).HasClock captures reference h m s) :
    (∃ t, (yearsLater years hour minute second).build captures reference = .ok t) ↔
      ¬(reference.date.month = 2 ∧ reference.date.day = 29) := by
  simp only [Bounds.mem_iff, innerYears] at inYears
  have after : earliestYear ≤ reference.date.year + years := by
    unfold earliestYear
    omega
  have before : reference.date.year + years ≤ latestYear := by
    unfold latestYear
    omega
  have inWords := fitsWord_of_representable after before
  have beside : reference.date.year + years = reference.date.year - 1 ∨
      reference.date.year + years = reference.date.year + 1 := by omega
  have unshifted : (yearsLater years hour minute second).IsUnshifted := ⟨rfl, rfl, rfl, rfl, rfl, rfl⟩
  rw [(hasDate_yearsLater inWords hour minute second).exists_build_iff clock unshifted,
    ← Date.isReal_beside_iff reference.isReal_date beside]
  exact ⟨fun holds => holds.2.2, fun real => ⟨after, before, real⟩⟩

end DateSpec

def Grammar.dayKeepingActions : List Action := [lastYear.action, oneYearLater.action]

theorem exists_denote_dayKeeping_iff {action : Action} (member : action ∈ Grammar.dayKeepingActions)
    (captures : Captures) {reference : Moment} (inYears : reference.date.year ∈ innerYears) :
    (∃ value, action.denote captures reference = .ok value) ↔
      ¬(reference.date.month = 2 ∧ reference.date.day = 29) := by
  have reached : ∃ t, ({} : DateSpec).build captures reference = .ok t := by
    have never : ({} : DateSpec).causes innerYears = [] := by decide +kernel
    have free : ({} : DateSpec).IsMet captures := fun source member => by cases member
    exact (DateSpec.build_meets free inYears).exists_ok never
  obtain ⟨hours, minutes, seconds⟩ := reference.clock_bounds
  simp only [Grammar.dayKeepingActions, List.mem_cons, List.not_mem_nil, or_false] at member
  cases member with
  | inl lastYear =>
    have start : (∃ t, (DateSpec.yearsLater (-1) 0 0 0).build captures reference = .ok t) ↔ _ :=
      DateSpec.exists_build_yearsLater_iff (.inl rfl) inYears ⟨rfl, rfl, rfl, by decide⟩
    rw [lastYear]
    exact Action.exists_denote_span_iff.trans ((and_iff_left reached).trans start)
  | inr oneYearLater =>
    have stop : (∃ t, (DateSpec.yearsLater 1 .unset .unset .unset).build captures reference = .ok t) ↔ _ :=
      DateSpec.exists_build_yearsLater_iff (.inr rfl) inYears ⟨rfl, rfl, rfl, by omega⟩
    rw [oneYearLater]
    exact Action.exists_denote_span_iff.trans ((and_iff_right reached).trans stop)

/-- An action that reads no captures has no cause to fail, unless it keeps the day in another year. -/
theorem causes_of_uses_eq_nil : ∀ rule ∈ grammar, rule.action.uses = [] →
    rule.action ∈ Grammar.dayKeepingActions ∨ rule.action.causes innerYears = [] := by
  decide

/-- An action that reads no captures denotes something, and every expression of its rule has a value, except
that the last year and the next are lost on a leap day. -/
theorem capture_free_denotes_iff : ∀ rule ∈ grammar, rule.action.uses = [] →
    ∀ reference : Moment, -262000 ≤ reference.date.year → reference.date.year ≤ 262000 →
      let isLost := rule.action ∈ [Grammar.lastYear.action, Grammar.oneYearLater.action] ∧
        reference.date.month = 2 ∧ reference.date.day = 29
      (∀ captures, (∃ value, rule.action.denote captures reference = .ok value) ↔ ¬isLost) ∧
      (¬isLost → ∀ (fallback : Option Fallback) (t : Text) (captures : Captures),
        rule.match? (normalize t) = some captures →
          ∃ value, ((⟨grammar, reference, fallback⟩ : Resolver).resolve t).value = some value) := by
  intro rule member free reference after before isLost
  have denotes (captures : Captures) :
      (∃ value, rule.action.denote captures reference = .ok value) ↔ ¬isLost := by
    by_cases keeping : rule.action ∈ Grammar.dayKeepingActions
    · rw [exists_denote_dayKeeping_iff keeping captures ⟨after, before⟩]
      exact not_congr (and_iff_right keeping).symm
    · have never := (causes_of_uses_eq_nil rule member free).resolve_left keeping
      have met : ∀ use ∈ rule.action.uses, use.IsMet captures := by
        intro use used
        rw [free] at used
        cases used
      have denoted := (Action.denote_meets met ⟨after, before⟩).exists_ok never
      exact ⟨fun _ lost => keeping lost.1, fun _ => denoted⟩
  refine ⟨denotes, ?_⟩
  intro kept fallback t captures matched
  obtain ⟨value, denoted⟩ := (denotes captures).mpr kept
  rw [Resolver.resolve_of_isDecided ⟨rule, member, captures, value, matched, denoted⟩]
  exact isDecided_iff.mp ⟨rule, member, captures, value, matched, denoted⟩

theorem capture_free_denotes_iff_leap_day :
    let leapDay : Moment := ⟨⟨63871243200, by decide⟩, 500000000, by decide⟩
    let dayBefore : Moment := ⟨⟨63871156800, by decide⟩, 500000000, by decide⟩
    let captures : Captures := ⟨"geçen yıl".toList, []⟩
    leapDay.date = ⟨2024, 2, 29⟩ ∧ dayBefore.date = ⟨2024, 2, 28⟩ ∧ Grammar.lastYear ∈ grammar ∧
      Grammar.lastYear.action.uses = [] ∧ Grammar.lastYear.match? "geçen yıl".toList = some captures ∧
      (¬∃ value, Grammar.lastYear.action.denote captures leapDay = .ok value) ∧
      ∃ value, Grammar.lastYear.action.denote captures dayBefore = .ok value := by
  intro leapDay dayBefore captures
  have lost : leapDay.date = ⟨2024, 2, 29⟩ := by decide
  have kept : dayBefore.date = ⟨2024, 2, 28⟩ := by decide
  have member : Grammar.lastYear ∈ grammar := by simp [grammar, Grammar.spanRules]
  have free : Grammar.lastYear.action.uses = [] := rfl
  have matched : Grammar.lastYear.match? "geçen yıl".toList = some captures := rfl
  obtain ⟨onLeapDay, -⟩ := capture_free_denotes_iff Grammar.lastYear member free leapDay
    (by rw [lost]; decide) (by rw [lost]; decide)
  obtain ⟨onDayBefore, -⟩ := capture_free_denotes_iff Grammar.lastYear member free dayBefore
    (by rw [kept]; decide) (by rw [kept]; decide)
  refine ⟨lost, kept, member, free, matched, ?_, ?_⟩
  · rw [onLeapDay captures, lost]
    decide
  · rw [onDayBefore captures, kept]
    decide

end TurkishDates
