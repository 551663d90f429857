import TurkishDates.Proofs.DateSpec.CapturedDays
import TurkishDates.Proofs.Resolution.MonthSpans

/-!
Spans of the last days, weeks or months. They are counted back from the second of the reference, where they end without
its fraction. Days and weeks may be as many as the representable range has; the pattern for months has room for no more
than 19 of them.
-/

namespace TurkishDates

open Numeral Shape Grammar

def lastUnits : List (Text × Rule) :=
  [("gün".toList, lastDays), ("hafta".toList, lastWeeks), ("ay".toList, lastMonths)]

def lastText (digits unit : Text) : Text := "son".toList ++ ' ' :: (digits ++ ' ' :: unit)

def lastShape (number : Shape) (unit : Text) : Shape := "son" ++ " " ++ number ++ " " ++ .word unit

section

variable {digits unit : Text} {rule : Rule}

theorem reads_lastShape {number : Shape} (reads : ∀ later, number.Reads digits later) :
    (lastShape number unit).Reads (lastText digits unit) [] :=
  ⟨"son".toList ++ ' ' :: (digits ++ [' ']), unit, by simp [lastText],
    ⟨"son".toList ++ ' ' :: digits, [' '], by simp,
      ⟨"son".toList ++ [' '], digits, by simp, ⟨"son".toList, [' '], rfl, rfl, rfl⟩, reads _⟩, rfl⟩, rfl⟩

theorem lastUnits_apart : ∀ last ∈ lastUnits,
    (lastShape (digitsFrom 1) last.1).isApartFrom (otherShapes grammar last.2.name) = true := by
  decide

theorem normalize_lastText (isDigits : IsDigits digits) (listed : (unit, rule) ∈ lastUnits) :
    normalize (lastText digits unit) = lastText digits unit := by
  have known : ∀ last ∈ lastUnits, last.1 ∈ phraseWords := by decide
  have word : IsNormal unit := isNormal_phraseWords unit
    (List.mem_append_right _ (List.mem_append_left _ (known (unit, rule) listed)))
  have small : "son".toList.all isPlain = true := by decide
  have single : "son".toList.all (fun c => !isSeparator c) = true := by decide
  have whole : IsWhole "son".toList := by simpa [IsWhole] using single
  have noNumeral : ¬IsNumeric "son".toList := by decide
  exact ((isNormal_digits isDigits).append_space word).normalize_word_space (Text.isSmall_of_all_isPlain small) whole
    noNumeral

theorem isOnlyMatch_last (listed : (unit, rule) ∈ lastUnits) (isDigits : IsDigits digits)
    (matched : rule.match? (lastText digits unit) = some ⟨lastText digits unit, [some digits]⟩) :
    rule.IsOnlyMatch (lastText digits unit) [digits] where
  member := by
    have known : ∀ last ∈ lastUnits, last.2 ∈ grammar := by simp [lastUnits, grammar, spanRules]
    exact known (unit, rule) listed
  normal := normalize_lastText isDigits listed
  left := isLeftTo_of_isApartFrom (lastUnits_apart (unit, rule) listed)
    (reads_lastShape (reads_digitsFrom 1 isDigits))
  matched := matched

theorem match?_last (listed : (unit, rule) ∈ lastUnits)
    (clear : (rule.pattern.isSteady && rule.pattern.isClear) = true)
    (reads : ∀ shape ∈ rule.pattern.keptShapes, shape.Reads digits (' ' :: unit)) :
    rule.match? (lastText digits unit) = some ⟨lastText digits unit, [some digits]⟩ := by
  have known : ∀ last ∈ lastUnits,
      last.2.pattern = ⟨.skip Wording.before :: .skip " " :: last.2.pattern.pieces.drop 2⟩ ∧
        Pattern.keepsBefore ⟨last.2.pattern.pieces.drop 2⟩ (' ' :: last.1) = true := by
    decide
  obtain ⟨pieces, keeps⟩ := known (unit, rule) listed
  simp only at pieces keeps
  have son : Wording.before.Reads "son".toList (' ' :: (digits ++ ' ' :: unit) ++ []) :=
    reads_of_spells (by rfl) (by decide) _
  have skipped : rule.pattern.Reads [digits] (lastText digits unit) [] := by
    rw [pieces] at reads ⊢
    exact ⟨"son".toList, _, rfl, son, [' '], _, rfl, rfl, Pattern.reads_of_keepsBefore keeps reads⟩
  exact Option.map_eq_some_iff.mpr ⟨[digits], (Pattern.match?_eq_some_iff clear).mpr skipped, rfl⟩

theorem isOnlyMatch_last_positive (listed : (unit, rule) ∈ lastUnits)
    (number : rule.pattern.keptShapes = [Wording.positiveNumber])
    (clear : (rule.pattern.isSteady && rule.pattern.isClear) = true) {n : Nat} (positive : 1 ≤ n) :
    rule.IsOnlyMatch (lastText (digitsOf n) unit) [digitsOf n] := by
  refine isOnlyMatch_last listed (isDigits_digitsOf n) (match?_last listed clear ?_)
  rw [number]
  exact List.forall_mem_singleton.mpr (reads_divisor.mpr ⟨isDigits_digitsOf n, head?_digitsOf positive⟩)

theorem isOnlyMatch_lastMonths {n : Nat} (few : n ≤ 19) :
    lastMonths.IsOnlyMatch (lastText (digitsOf n) "ay".toList) [digitsOf n] := by
  have matched : ∀ n < 20, lastMonths.match? (lastText (digitsOf n) "ay".toList) =
      some ⟨lastText (digitsOf n) "ay".toList, [some (digitsOf n)]⟩ := by
    decide
  exact isOnlyMatch_last (by simp [lastUnits]) (isDigits_digitsOf n) (matched n (by omega))

/-- Two digits of which the first is no 0 or 1, or more digits. -/
def largeNumber : Shape :=
  anyOf [anyChar "23456789" ++ Wording.digit, Wording.digit ++ Wording.digit ++ Wording.number]

theorem reads_threeDigits (isDigits : IsDigits digits) (long : 3 ≤ digits.length) (later : Text) :
    (Wording.digit ++ Wording.digit ++ Wording.number).Reads digits later := by
  match digits, long with
  | c :: d :: e :: others, _ =>
    obtain ⟨-, all⟩ := isDigits
    obtain ⟨first, second, all⟩ : isDigit c = true ∧ isDigit d = true ∧ ∀ x ∈ e :: others, isDigit x = true := by
      simpa using all
    exact ⟨[c, d], e :: others, rfl,
      ⟨[c], [d], rfl, ⟨c, mem_digits_iff.mpr first, rfl⟩, ⟨d, mem_digits_iff.mpr second, rfl⟩⟩,
      reads_digits.mpr ⟨List.cons_ne_nil e others, all⟩⟩

theorem reads_largeNumber {n : Nat} (large : 20 ≤ n) (later : Text) : largeNumber.Reads (digitsOf n) later := by
  have isDigits := isDigits_digitsOf n
  by_cases two : n / 10 < 10
  · have notSmall : ∀ m < 10, 2 ≤ m → m.digitChar ∈ "23456789".toList := by decide
    have digit : ∀ m < 10, m.digitChar ∈ "0123456789".toList := by decide
    rw [digitsOf_of_le (by omega), digitsOf_of_lt two]
    exact .inl ⟨[(n / 10).digitChar], [(n % 10).digitChar], rfl, ⟨_, notSmall (n / 10) two (by omega), rfl⟩,
      ⟨_, digit (n % 10) (by omega), rfl⟩⟩
  · have front : 1 ≤ (digitsOf (n / 10 / 10)).length := List.length_pos_of_ne_nil (isDigits_digitsOf _).1
    have long : 3 ≤ (digitsOf n).length := by
      rw [digitsOf_of_le (show 10 ≤ n by omega), digitsOf_of_le (show 10 ≤ n / 10 by omega)]
      simp only [List.length_append, List.length_singleton]
      omega
    exact .inr (reads_threeDigits isDigits long later)

theorem lastShape_largeNumber_apart :
    (lastShape largeNumber "ay".toList).isApartFrom (grammar.map fun rule => rule.pattern.shape) = true := by
  decide

end

section

variable {reference : Moment} {n : Nat}

theorem exists_value_last {unit : Text} {rule : Rule} (listed : (unit, rule) ∈ lastUnits)
    (number : rule.pattern.keptShapes = [Wording.positiveNumber])
    (clear : (rule.pattern.isSteady && rule.pattern.isClear) = true) {back : DateSpec}
    (action : rule.action = .span back {}) {seconds : Int} (forward : 1 ≤ seconds)
    (counts : ∀ captures, back.build captures reference =
      DateSpec.readCapture captures ⟨1, none, true, 0⟩ >>= DateSpec.move reference.toTimestamp seconds)
    (positive : 1 ≤ n) (after : earliestSecond ≤ reference.seconds - seconds * n) (fallback : Option Fallback) :
    ∃ start : Timestamp, start.seconds = reference.seconds - seconds * n ∧
      ((⟨grammar, reference, fallback⟩ : Resolver).resolve (lastText (digitsOf n) unit)).value =
        some (.span start reference.toTimestamp) := by
  have only := isOnlyMatch_last_positive listed number clear positive
  have before : reference.seconds - seconds * n ≤ latestSecond := by
    have here := reference.representable.2
    have away : 0 ≤ seconds * n := Int.mul_nonneg (by omega) (Int.natCast_nonneg n)
    omega
  let start : Timestamp := ⟨reference.seconds - seconds * n, after, before⟩
  have counted : start.seconds = reference.seconds +
      seconds * (if true then -(digitsValue (digitsOf n) : Int) else digitsValue (digitsOf n)) := by
    rw [if_pos rfl, digitsValue_digitsOf, Int.mul_neg, ← Int.sub_eq_add_neg]
  have begins := (counts ⟨lastText (digitsOf n) unit, [some (digitsOf n)]⟩).trans
    ((DateSpec.readCapture_move_eq_ok_iff rfl (isDigits_digitsOf n) true forward).mpr counted)
  have denoted := Action.denote_span_eq_ok_iff.mpr ⟨begins, DateSpec.build_unset⟩
  rw [← action] at denoted
  exact ⟨start, rfl, only.value_resolve denoted fallback⟩

theorem exists_value_lastMonths (few : n ≤ 19) (after : 12 * earliestYear ≤ reference.date.months - n)
    (fallback : Option Fallback) :
    ∃ start, Timestamp.ofParts? ⟨(reference.date.months - n) / 12, (reference.date.months - n) % 12 + 1, 1⟩ 0 0 0 =
        some start ∧
      ((⟨grammar, reference, fallback⟩ : Resolver).resolve (lastText (digitsOf n) "ay".toList)).value =
        some (.span start reference.toTimestamp) := by
  obtain ⟨-, before⟩ := reference.year_bounds
  obtain ⟨-, december⟩ := reference.isReal_date.month_bounds
  have notLater : reference.date.months - n < 12 * (latestYear + 1) := by
    unfold Date.months
    omega
  let captures : Captures := ⟨lastText (digitsOf n) "ay".toList, [some (digitsOf n)]⟩
  have read : DateSpec.readCapture captures ⟨1, none, true, 0⟩ = .ok (-(n : Int)) :=
    DateSpec.readCapture_negated_digitsOf rfl (by unfold greatestWord; omega)
  have given : -group 1 ≠ .unset := by decide
  have dated : ({ monthShift := -group 1 } : DateSpec).HasMonth captures reference (reference.date.months - n) := by
    rw [Int.sub_eq_add_neg]
    exact DateSpec.hasMonth_shifted given read (by unfold greatestWord; omega)
  obtain ⟨start, begins, found⟩ := dated.exists_build_monthStart ⟨rfl, rfl, rfl, rfl, rfl, rfl⟩ after notLater
  exact ⟨start, found, (isOnlyMatch_lastMonths few).value_resolve (DateSpec.denote_untilNow begins) fallback⟩

/-- No rule matches twenty months or more. -/
theorem value_manyMonths (many : 20 ≤ n) :
    ((⟨grammar, reference, none⟩ : Resolver).resolve (lastText (digitsOf n) "ay".toList)).value = none := by
  have listed : ("ay".toList, lastMonths) ∈ lastUnits := by simp [lastUnits]
  have reads : (lastShape largeNumber "ay".toList).Reads (lastText (digitsOf n) "ay".toList) [] :=
    reads_lastShape (reads_largeNumber many)
  rw [Resolver.resolve_eq_byRules, normalize_lastText (isDigits_digitsOf n) listed,
    Option.eq_none_iff_forall_ne_some]
  intro value resolved
  obtain ⟨rule, member, captures, matched, -⟩ := Resolver.exists_rule_of_value rfl resolved
  have unmatched := Rule.match?_eq_none_of_reads lastShape_largeNumber_apart reads (List.mem_map_of_mem member)
  rw [unmatched] at matched
  cases matched

end

/-- The spans go back any number of days or weeks that is representable, and up to 19 months, all from the second of the
reference. More months are matched by no rule. -/
theorem last_spans_reach_back (reference : Moment) (n : Nat) (positive : 1 ≤ n) :
    let value (fallback : Option Fallback) (unit : String) :=
      ((⟨grammar, reference, fallback⟩ : Resolver).resolve ("son ".toList ++ digitsOf n ++ unit.toList)).value
    let month := reference.date.months
    (earliestSecond ≤ reference.seconds - secondsPerDay * n → ∀ fallback, ∃ start : Timestamp,
      start.seconds = reference.seconds - secondsPerDay * n ∧
        value fallback " gün" = some (.span start reference.toTimestamp)) ∧
    (earliestSecond ≤ reference.seconds - 7 * secondsPerDay * n → ∀ fallback, ∃ start : Timestamp,
      start.seconds = reference.seconds - 7 * secondsPerDay * n ∧
        value fallback " hafta" = some (.span start reference.toTimestamp)) ∧
    (n ≤ 19 → 12 * earliestYear ≤ month - n → ∀ fallback, ∃ start : Timestamp,
      Timestamp.ofParts? ⟨(month - n) / 12, (month - n) % 12 + 1, 1⟩ 0 0 0 = some start ∧
        value fallback " ay" = some (.span start reference.toTimestamp)) ∧
    (20 ≤ n → value none " ay" = none) := by
  intro value month
  have text (unit : String) (front : Text) (spaced : unit.toList = ' ' :: front) (fallback : Option Fallback) :
      value fallback unit =
        ((⟨grammar, reference, fallback⟩ : Resolver).resolve (lastText (digitsOf n) front)).value := by
    have son : "son ".toList = "son".toList ++ [' '] := by decide
    simp only [value, lastText, spaced, son, List.append_assoc, List.cons_append, List.nil_append]
  have days := text " gün" "gün".toList (by decide)
  have weeks := text " hafta" "hafta".toList (by decide)
  have months := text " ay" "ay".toList (by decide)
  have lastDays : ("gün".toList, lastDays) ∈ lastUnits := by simp [lastUnits]
  have lastWeeks : ("hafta".toList, lastWeeks) ∈ lastUnits := by simp [lastUnits]
  simp only [days, weeks, months]
  refine ⟨fun after fallback => ?_, fun after fallback => ?_, fun few after fallback => ?_, value_manyMonths⟩
  · exact exists_value_last lastDays rfl (by decide) rfl (by decide) (fun _ => DateSpec.build_dayShift (-group 1))
      positive after fallback
  · exact exists_value_last lastWeeks rfl (by decide) rfl (by decide) (fun _ => DateSpec.build_weekShift (-group 1))
      positive after fallback
  · exact exists_value_lastMonths few after fallback

/-- From half a second into a leap day back to the years before it. -/
theorem last_spans_reach_back_leap_day :
    let leapDay : Timestamp := ⟨secondsPerDay * Date.dayNumber ⟨2024, 2, 29⟩, by decide⟩
    let newYearsEve : Timestamp := ⟨secondsPerDay * Date.dayNumber ⟨2023, 12, 31⟩, by decide⟩
    let weeksBefore : Timestamp := ⟨secondsPerDay * Date.dayNumber ⟨2023, 12, 28⟩, by decide⟩
    let monthsBefore : Timestamp := ⟨secondsPerDay * Date.dayNumber ⟨2022, 7, 1⟩, by decide⟩
    let reference : Moment := ⟨leapDay, 500000000, by decide⟩
    let value (t : Text) := ((⟨grammar, reference, none⟩ : Resolver).resolve t).value
    value "son 60 gün".toList = some (.span newYearsEve leapDay) ∧
      value "son 9 hafta".toList = some (.span weeksBefore leapDay) ∧
      value "son 19 ay".toList = some (.span monthsBefore leapDay) ∧ value "son 20 ay".toList = none := by
  intro leapDay newYearsEve weeksBefore monthsBefore reference value
  have texts : "son 60 gün".toList = "son ".toList ++ digitsOf 60 ++ " gün".toList ∧
      "son 9 hafta".toList = "son ".toList ++ digitsOf 9 ++ " hafta".toList ∧
      "son 19 ay".toList = "son ".toList ++ digitsOf 19 ++ " ay".toList ∧
      "son 20 ay".toList = "son ".toList ++ digitsOf 20 ++ " ay".toList := by
    decide
  obtain ⟨inDays, inWeeks, inMonths, inMore⟩ := texts
  obtain ⟨days, -⟩ := last_spans_reach_back reference 60 (by decide)
  obtain ⟨-, weeks, -⟩ := last_spans_reach_back reference 9 (by decide)
  obtain ⟨-, -, months, -⟩ := last_spans_reach_back reference 19 (by decide)
  obtain ⟨-, -, -, more⟩ := last_spans_reach_back reference 20 (by decide)
  obtain ⟨start, seconds, counted⟩ := days (by decide) none
  obtain rfl : start = newYearsEve := Timestamp.eq_of_seconds (seconds.trans (by decide))
  obtain ⟨start, seconds, counted'⟩ := weeks (by decide) none
  obtain rfl : start = weeksBefore := Timestamp.eq_of_seconds (seconds.trans (by decide))
  obtain ⟨start, found, counted''⟩ := months (by decide) (by decide) none
  obtain rfl : start = monthsBefore := Option.some.inj (found.symm.trans (by decide))
  rw [inDays, inWeeks, inMonths, inMore]
  exact ⟨counted, counted', counted'', more (by decide)⟩

end TurkishDates
