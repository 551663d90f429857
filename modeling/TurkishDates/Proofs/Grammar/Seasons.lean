import Mathlib.Data.List.Rotate
import TurkishDates.Proofs.DateSpec.WholeMonths

/-!
Seasons. Each rule denotes three whole months from the latest such season start that is not after the reference,
and the four of them fill the year up to the end of the season of the reference. They end with the last whole second
of a month: a reference with a fraction in that second lies in none of them.

Seasons are numbered one after the other, so that each begins three months after the one before it.
-/

namespace TurkishDates

def seasons : List (Rule × Int) :=
  [(Grammar.spring, 3), (Grammar.summer, 6), (Grammar.autumn, 9), (Grammar.winter, 12)]

structure SeasonSpan where
  rule : Rule
  firstMonth : Int
  start : Timestamp
  stop : Timestamp

/-- Three whole months, from the latest first second of such a season that is not after the reference. -/
structure SeasonSpan.IsLatest (span : SeasonSpan) (reference : Moment) : Prop where
  denoted : ∀ captures, span.rule.action.denote captures reference = .ok (.span span.start span.stop)
  months : ∃ first, first % 12 + 1 = span.firstMonth ∧ SpansMonths first (first + 2) span.start span.stop
  begun : (span.start : Moment) ≤ reference
  latest : ∀ year, secondsPerDay * Date.dayNumber ⟨year, span.firstMonth, 1⟩ ≤ reference.seconds →
    secondsPerDay * Date.dayNumber ⟨year, span.firstMonth, 1⟩ ≤ span.start.seconds

def SeasonSpan.IsFollowedBy (earlier later : SeasonSpan) : Prop :=
  earlier.start.seconds < later.start.seconds ∧ earlier.stop.seconds + 1 = later.start.seconds

section

variable {reference : Moment} {first last months : Int}

theorem hasMonth_seasonStart {captures : Captures} (begins : months % 12 + 1 = first)
    (begun : months ≤ reference.date.months) (recent : reference.date.months < months + 12) :
    ({ month := .literal first, rounding := .ownMonth } : DateSpec).HasMonth captures reference months := by
  obtain ⟨january, december⟩ := reference.isReal_date.month_bounds
  have dated : DateSpec.HasMonth { month := .literal first, rounding := .ownMonth } captures reference
      (12 * (reference.date.year - DateSpec.yearsBack .ownMonth first reference.date.month + 0) + (first - 1)) :=
    DateSpec.hasMonth_ofYear rfl (by omega) (by omega) rfl (by decide)
  have same : 12 * (reference.date.year - DateSpec.yearsBack .ownMonth first reference.date.month + 0) + (first - 1) =
      months := by
    unfold DateSpec.yearsBack DateSpec.pivotMonth
    unfold Date.months at begun recent
    simp only [Option.any_some, decide_eq_true_eq]
    split <;> omega
  rwa [same] at dated

/-- The month that the season ends with is rounded as the first one is. -/
theorem hasMonth_seasonEnd {captures : Captures} (begins : months % 12 + 1 = first)
    (ends : (months + 2) % 12 + 1 = last) (begun : months ≤ reference.date.months)
    (recent : reference.date.months < months + 12) :
    ({ month := .literal last, rounding := .pivot first, yearShift := if last < first then 1 else .unset } :
      DateSpec).HasMonth captures reference (months + 2) := by
  obtain ⟨january, december⟩ := reference.isReal_date.month_bounds
  have read : DateSpec.valueOf captures 0 (if last < first then 1 else .unset) =
      .ok (if last < first then 1 else 0) := by
    split <;> rfl
  have dated : DateSpec.HasMonth
      { month := .literal last, rounding := .pivot first, yearShift := if last < first then 1 else .unset } captures
      reference (12 * (reference.date.year - DateSpec.yearsBack (.pivot first) last reference.date.month +
        (if last < first then 1 else 0)) + (last - 1)) :=
    DateSpec.hasMonth_ofYear rfl (by omega) (by omega) read (by split <;> decide)
  have same : 12 * (reference.date.year - DateSpec.yearsBack (.pivot first) last reference.date.month +
      (if last < first then 1 else 0)) + (last - 1) = months + 2 := by
    unfold DateSpec.yearsBack DateSpec.pivotMonth
    unfold Date.months at begun recent
    simp only [Option.any_some, decide_eq_true_eq]
    split <;> split <;> omega
  rwa [same] at dated

theorem exists_denote_season (begins : months % 12 + 1 = first) (ends : (months + 2) % 12 + 1 = last)
    (begun : months ≤ reference.date.months) (recent : reference.date.months < months + 12)
    (after : 12 * earliestYear ≤ months) (before : months + 2 < 12 * (latestYear + 1)) (captures : Captures) :
    ∃ start stop, (Grammar.season first last).denote captures reference = .ok (.span start stop) ∧
      SpansMonths months (months + 2) start stop :=
  DateSpec.exists_denote_months (hasMonth_seasonStart begins begun recent) (hasMonth_seasonEnd begins ends begun recent)
    ⟨rfl, rfl, rfl, rfl, rfl, rfl⟩ ⟨rfl, rfl, rfl, rfl, rfl, rfl⟩ after (by omega) before

theorem exists_isLatest {rule : Rule} (seasonal : rule.action = Grammar.season first last)
    (free : rule.action.uses = []) (begins : months % 12 + 1 = first) (ends : (months + 2) % 12 + 1 = last)
    (begun : months ≤ reference.date.months) (recent : reference.date.months < months + 12)
    (after : 12 * earliestYear ≤ months) (before : months + 2 < 12 * (latestYear + 1)) :
    ∃ start stop, SeasonSpan.IsLatest ⟨rule, first, start, stop⟩ reference ∧
      SpansMonths months (months + 2) start stop := by
  let nothing : Captures := ⟨[], []⟩
  obtain ⟨start, stop, denoted, spans⟩ := exists_denote_season begins ends begun recent after before nothing
  rw [← seasonal] at denoted
  refine ⟨start, stop, ⟨fun captures => ?_, ⟨months, begins, spans⟩,
    Moment.toMoment_le.mpr (spans.start_le_iff.mpr begun), ?_⟩, spans⟩
  · have same : rule.action.denote captures reference = rule.action.denote nothing reference :=
      Action.denote_congr (fun use used => by rw [free] at used; cases used) reference
    exact same.trans denoted
  · intro year notAfter
    -- Such months are a year apart, so none lies between the latest one and the reference.
    have firstDay : Date.dayNumber ⟨year, first, 1⟩ = Date.newMonth (12 * year + (first - 1)) := by
      have sameYear : (12 * year + (first - 1)) / 12 = year := by omega
      have sameMonth : (12 * year + (first - 1)) % 12 + 1 = first := by omega
      rw [Date.newMonth, sameYear, sameMonth]
    simp only [firstDay, spans.start_seconds] at notAfter ⊢
    have notLater := Date.newMonth_mono
      (show 12 * year + (first - 1) ≤ months by have := Timestamp.le_months_iff.mpr notAfter; omega)
    unfold secondsPerDay
    omega

/-- The rule of the season with a number, where the spring of the year 0 is the season 0. -/
theorem exists_seasonal_rule (number : Int) :
    ∃ rule, seasons[(number % 4).toNat]? = some (rule, (3 * number + 2) % 12 + 1) ∧
      rule.action = Grammar.season ((3 * number + 2) % 12 + 1) ((3 * number + 2 + 2) % 12 + 1) ∧
      rule.action.uses = [] := by
  have inYear : number % 4 = 0 ∨ number % 4 = 1 ∨ number % 4 = 2 ∨ number % 4 = 3 := by omega
  have dated (place : Int) (now : number % 4 = place) :
      (3 * number + 2) % 12 = (3 * place + 2) % 12 ∧ (3 * number + 2 + 2) % 12 = (3 * place + 2 + 2) % 12 := by
    omega
  rcases inYear with now | now | now | now
  all_goals
    obtain ⟨first, last⟩ := dated _ now
    rw [now, first, last]
    exact ⟨_, rfl, rfl, rfl⟩

theorem eq_rotate_seasons {number : Int} {a b c d : Rule × Int} (first : seasons[(number % 4).toNat]? = some a)
    (second : seasons[((number + 1) % 4).toNat]? = some b) (third : seasons[((number + 1 + 1) % 4).toNat]? = some c)
    (fourth : seasons[((number + 1 + 1 + 1) % 4).toNat]? = some d) :
    [a, b, c, d] = seasons.rotate (number % 4).toNat := by
  have inYear : number % 4 = 0 ∨ number % 4 = 1 ∨ number % 4 = 2 ∨ number % 4 = 3 := by omega
  have later (place : Int) (now : number % 4 = place) : (number + 1) % 4 = (place + 1) % 4 ∧
      (number + 1 + 1) % 4 = (place + 2) % 4 ∧ (number + 1 + 1 + 1) % 4 = (place + 3) % 4 := by
    omega
  rcases inYear with now | now | now | now
  all_goals
    obtain ⟨next, afterNext, last⟩ := later _ now
    rw [now] at first ⊢
    rw [next] at second
    rw [afterNext] at third
    rw [last] at fourth
    rw [← Option.some.inj first, ← Option.some.inj second, ← Option.some.inj third, ← Option.some.inj fourth]
    rfl

theorem exists_seasonSpan (reference : Moment) (number : Int) (begun : 3 * number + 2 ≤ reference.date.months)
    (recent : reference.date.months < 3 * number + 14) (after : 12 * earliestYear ≤ 3 * number + 2)
    (before : 3 * number + 4 < 12 * (latestYear + 1)) :
    ∃ span : SeasonSpan, seasons[(number % 4).toNat]? = some (span.rule, span.firstMonth) ∧ span.IsLatest reference ∧
      SpansMonths (3 * number + 2) (3 * number + 4) span.start span.stop := by
  obtain ⟨rule, listed, seasonal, free⟩ := exists_seasonal_rule number
  obtain ⟨start, stop, latest, spans⟩ := exists_isLatest seasonal free rfl rfl begun (by omega) after (by omega)
  have ends : 3 * number + 2 + 2 = 3 * number + 4 := by omega
  rw [ends] at spans
  exact ⟨⟨rule, _, start, stop⟩, listed, latest, spans⟩

theorem SeasonSpan.isFollowedBy {earlier later : SeasonSpan} {number : Int}
    (spans : SpansMonths (3 * number + 2) (3 * number + 4) earlier.start earlier.stop)
    (spans' : SpansMonths (3 * (number + 1) + 2) (3 * (number + 1) + 4) later.start later.stop) :
    earlier.IsFollowedBy later := by
  have next := spans.stop_add_one spans' (by omega)
  have order := spans.start_lt_stop (by omega)
  exact ⟨by omega, next⟩

end

/-- The four seasons, each in its latest occurrence, follow each other up to the one in which the second of the
reference lies. The reference itself lies in it but for a fraction in the last second of the season. -/
theorem seasons_tile_time (reference : Moment) (after : -262000 ≤ reference.date.year)
    (before : reference.date.year ≤ 262000) :
    ∃ spans : List SeasonSpan, (spans.map fun span => (span.rule, span.firstMonth)).Perm seasons ∧
      (∀ span ∈ spans, span.IsLatest reference) ∧ spans.IsChain SeasonSpan.IsFollowedBy ∧
      ∃ current ∈ spans.getLast?,
        current.start.seconds ≤ reference.seconds ∧ reference.seconds ≤ current.stop.seconds ∧
          (reference ≤ (current.stop : Moment) ↔
            ¬(reference.seconds = current.stop.seconds ∧ reference.nanoseconds ≠ 0)) := by
  obtain ⟨january, december⟩ := reference.isReal_date.month_bounds
  have far : 12 * earliestYear + 20 ≤ reference.date.months ∧
      reference.date.months + 20 < 12 * (latestYear + 1) := by
    unfold Date.months earliestYear latestYear
    omega
  obtain ⟨number, begun, recent⟩ : ∃ number, 3 * (number + 3) + 2 ≤ reference.date.months ∧
      reference.date.months < 3 * (number + 3) + 5 := ⟨(reference.date.months - 2) / 3 - 3, by omega, by omega⟩
  have season (later : Int) (low : number ≤ later) (high : later ≤ number + 3) :=
    exists_seasonSpan reference later (by omega) (by omega) (by omega) (by omega)
  obtain ⟨first, isFirst, firstLatest, firstSpans⟩ := season number (by omega) (by omega)
  obtain ⟨second, isSecond, secondLatest, secondSpans⟩ := season (number + 1) (by omega) (by omega)
  obtain ⟨third, isThird, thirdLatest, thirdSpans⟩ := season (number + 1 + 1) (by omega) (by omega)
  obtain ⟨fourth, isFourth, fourthLatest, fourthSpans⟩ := season (number + 1 + 1 + 1) (by omega) (by omega)
  have begun' : fourth.start.seconds ≤ reference.seconds := fourthSpans.start_le_iff.mpr (by omega)
  have notAfter : reference.seconds ≤ fourth.stop.seconds := fourthSpans.le_stop_iff.mpr (by omega)
  refine ⟨[first, second, third, fourth], ?_, ?_, ?_, fourth, rfl, begun', notAfter, ?_⟩
  · have rotated : [first, second, third, fourth].map (fun span => (span.rule, span.firstMonth)) =
        seasons.rotate (number % 4).toNat :=
      eq_rotate_seasons isFirst isSecond isThird isFourth
    rw [rotated]
    exact seasons.rotate_perm _
  · simp only [List.forall_mem_cons]
    exact ⟨firstLatest, secondLatest, thirdLatest, fourthLatest, by simp⟩
  · simp only [List.isChain_cons_cons]
    exact ⟨SeasonSpan.isFollowedBy firstSpans secondSpans, SeasonSpan.isFollowedBy secondSpans thirdSpans,
      SeasonSpan.isFollowedBy thirdSpans fourthSpans, List.IsChain.singleton fourth⟩
  · rw [Moment.le_toMoment]
    omega

/-- Winter began in December of the year before and ends with the leap day. -/
theorem seasons_tile_time_leap_day :
    let leapDay : Moment := ⟨⟨secondsPerDay * Date.dayNumber ⟨2024, 2, 29⟩, by decide⟩, 500000000, by decide⟩
    leapDay.date = ⟨2024, 2, 29⟩ ∧
      ∃ spans : List SeasonSpan, (spans.map fun span => (span.rule, span.firstMonth)).Perm seasons ∧
        (∀ span ∈ spans, span.IsLatest leapDay) ∧ spans.IsChain SeasonSpan.IsFollowedBy ∧
        ∃ current ∈ spans.getLast?, current.start.seconds = secondsPerDay * Date.dayNumber ⟨2023, 12, 1⟩ ∧
          current.stop.seconds = secondsPerDay * Date.dayNumber ⟨2024, 3, 1⟩ - 1 ∧
          leapDay ≤ (current.stop : Moment) := by
  intro leapDay
  have date : leapDay.date = ⟨2024, 2, 29⟩ := by decide
  obtain ⟨spans, listed, latest, followed, current, last, -, notAfter, contains⟩ :=
    seasons_tile_time leapDay (by rw [date]; decide) (by rw [date]; decide)
  have member : current ∈ spans := List.mem_of_getLast? last
  let isOverOrWinter (value : Denotation) : Bool :=
    match value with
    | .span start stop => stop.seconds < leapDay.seconds ||
        start.seconds == secondsPerDay * Date.dayNumber ⟨2023, 12, 1⟩ &&
          stop.seconds == secondsPerDay * Date.dayNumber ⟨2024, 3, 1⟩ - 1
    | _ => false
  have checked : (seasons.all fun season =>
      (season.1.action.denote ⟨[], []⟩ leapDay).toOption.any isOverOrWinter) = true := by decide
  have now := List.all_eq_true.mp checked _ (listed.mem_iff.mp (List.mem_map_of_mem member))
  simp only [(latest current member).denoted] at now
  change (current.stop.seconds < leapDay.seconds || _) = true at now
  simp only [Bool.or_eq_true, Bool.and_eq_true, decide_eq_true_eq, beq_iff_eq] at now
  obtain ⟨begins, ends⟩ := now.resolve_left (Int.not_lt.mpr notAfter)
  have before : leapDay.seconds ≠ current.stop.seconds := by
    rw [ends]
    decide
  exact ⟨date, spans, listed, latest, followed, current, last, begins, ends, contains.mpr fun same => before same.1⟩

/-- The leap second between summer and autumn lies in no season. -/
theorem seasons_leave_leap_second :
    let reference : Moment :=
      ⟨⟨secondsPerDay * Date.dayNumber ⟨2021, 9, 1⟩ - 1, by decide⟩, nanosecondsPerSecond, by decide⟩
    reference.date = ⟨2021, 8, 31⟩ ∧
      ¬∃ spans : List SeasonSpan, (spans.map fun span => (span.rule, span.firstMonth)).Perm seasons ∧
        (∀ span ∈ spans, span.IsLatest reference) ∧ spans.IsChain SeasonSpan.IsFollowedBy ∧
        ∃ current ∈ spans.getLast?, (current.start : Moment) ≤ reference ∧ reference ≤ (current.stop : Moment) := by
  intro reference
  refine ⟨by decide, ?_⟩
  rintro ⟨spans, listed, latest, -, current, last, -, contains⟩
  have member : current ∈ spans := List.mem_of_getLast? last
  let isOver (value : Denotation) : Bool :=
    match value with
    | .span _ stop => !decide (reference ≤ (stop : Moment))
    | _ => false
  have checked : (seasons.all fun season =>
      (season.1.action.denote ⟨[], []⟩ reference).toOption.any isOver) = true := by decide
  have gone := List.all_eq_true.mp checked _ (listed.mem_iff.mp (List.mem_map_of_mem member))
  simp only [(latest current member).denoted] at gone
  change (!decide (reference ≤ (current.stop : Moment))) = true at gone
  rw [decide_eq_true contains] at gone
  cases gone

end TurkishDates
