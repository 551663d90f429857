import TurkishDates.Proofs.DateSpec.WholeMonths

/-!
The first and the last months of a year. Both are counted in digits: the first ones up to the month with this
number, the last ones back from December, which is the first of them. There is no span of no first months, but counting
none back from December leads to January of the year after.
-/

namespace TurkishDates

open DateSpec

/-- From the start of one month of a year to the end of another; the months are those of the year when their numbers
are between 1 and 12. -/
def SpansMonthsOf (year first last : Int) (start stop : Timestamp) : Prop :=
  SpansMonths (12 * year + (first - 1)) (12 * year + (last - 1)) start stop

theorem Rule.exists_digits_of_match? {rule : Rule} {expression : Text} {captures : Captures}
    (matched : rule.match? expression = some captures) {i most : Nat}
    (known : (rule.pattern.keptShapes[i]?.bind Shape.texts?).any (fun texts =>
      texts.all fun digits => Numeral.IsDigits digits ∧ digitsValue digits ≤ most) = true) :
    ∃ digits, captures.group? (i + 1) = some digits ∧ Numeral.IsDigits digits ∧ digitsValue digits ≤ most := by
  obtain ⟨texts, listed, valid⟩ := (Option.any_eq_true _ _).mp known
  obtain ⟨shape, piece, spelled⟩ := Option.bind_eq_some_iff.mp listed
  obtain ⟨digits, rest, captured, reads⟩ := Rule.exists_reads_of_match? matched piece
  have checked := List.all_eq_true.mp valid digits (Shape.mem_texts?_of_reads spelled reads)
  exact ⟨digits, captured, of_decide_eq_true checked⟩

section Counted

variable {captures : Captures} {reference : Moment} {start stop : Timestamp} {digits : Text}

theorem DateSpec.lookUp_of_few (isDigits : Numeral.IsDigits digits) (few : digitsValue digits ≤ 19) :
    lookUp none digits = .ok (digitsValue digits : Int) := by
  have fits : fitsWord (digitsValue digits) = true := by
    simp only [Bounds.fitsWord_iff, Bounds.mem_iff, Bounds.words, leastWord, greatestWord]
    omega
  rw [lookUp, readNumeral, Numeral.readNumber_of_isDigits isDigits, if_pos fits]

theorem valueOf_firstMonths (captured : captures.group? 1 = some digits) (isDigits : Numeral.IsDigits digits)
    (few : digitsValue digits ≤ 19) (unset : Int) :
    valueOf captures unset (group 1) = .ok (digitsValue digits : Int) := by
  let source : Capture := ⟨1, none, false, 0⟩
  have admitted : source.use.Admits digits := isDigits
  have read : readCapture captures source = .ok ((digitsValue digits : Int) + 0) :=
    readCapture_of_lookUp captured admitted (lookUp_of_few isDigits few) (by rfl) (by rfl)
  rwa [Int.add_zero] at read

theorem valueOf_lastMonths (captured : captures.group? 1 = some digits) (isDigits : Numeral.IsDigits digits)
    (few : digitsValue digits ≤ 19) :
    valueOf captures 0 ((-group 1).plus 1) = .ok (-(digitsValue digits : Int) + 1) := by
  let source : Capture := ⟨1, none, true, 1⟩
  have admitted : source.use.Admits digits := isDigits
  have read : readCapture captures source = .ok (-(digitsValue digits : Int) + 1) :=
    readCapture_of_lookUp captured admitted (lookUp_of_few isDigits few) (by rfl) (by rfl)
  exact read

variable {n : Nat}

theorem month_of_build_monthEnd (read : valueOf captures reference.date.month (group 1) = .ok n)
    (built : ({ month := group 1 } : DateSpec).monthEnd.build captures reference = .ok stop) : 1 ≤ n ∧ n ≤ 12 := by
  have unshifted : ({ month := group 1 } : DateSpec).monthEnd.IsUnshifted := ⟨rfl, rfl, rfl, rfl, rfl, rfl⟩
  obtain ⟨date, real, dateRead, -⟩ := unshifted.exists_date rfl rfl (hasClock_endOfDay _) built
  have same : (n : Int) = date.month := Except.ok.inj (read.symm.trans dateRead.month)
  obtain ⟨january, december⟩ := real.month_bounds
  omega

theorem denote_firstMonths (read : valueOf captures reference.date.month (group 1) = .ok n) :
    (∀ start stop, Grammar.firstMonthsOfYear.action.denote captures reference = .ok (.span start stop) →
      SpansMonthsOf reference.date.year 1 n start stop) ∧
    ((∃ start stop, Grammar.firstMonthsOfYear.action.denote captures reference = .ok (.span start stop)) ↔
      1 ≤ n ∧ n ≤ 12) := by
  obtain ⟨after, before⟩ := reference.year_bounds
  let first : DateSpec := { month := 1 }
  let last : DateSpec := { month := group 1 }
  have action : Grammar.firstMonthsOfYear.action = .span first.monthStart last.monthEnd := rfl
  have begun : first.HasMonth captures reference (12 * reference.date.year + (1 - 1)) :=
    hasMonth_read rfl (by decide) (by decide)
  have ended (january : 1 ≤ n) (december : n ≤ 12) :
      last.HasMonth captures reference (12 * reference.date.year + (n - 1)) :=
    hasMonth_read read (by omega) (by omega)
  have unshifted : first.IsUnshifted := ⟨rfl, rfl, rfl, rfl, rfl, rfl⟩
  have unshifted' : last.IsUnshifted := ⟨rfl, rfl, rfl, rfl, rfl, rfl⟩
  have counted (start stop : Timestamp)
      (denoted : (Action.span first.monthStart last.monthEnd).denote captures reference = .ok (.span start stop)) :
      1 ≤ n ∧ n ≤ 12 :=
    month_of_build_monthEnd read (Action.denote_span_eq_ok_iff.mp denoted).2
  rw [action]
  refine ⟨fun start stop denoted => ?_, fun ⟨start, stop, denoted⟩ => counted start stop denoted, ?_⟩
  · obtain ⟨january, december⟩ := counted start stop denoted
    exact spansMonths_of_denote begun (ended january december) unshifted unshifted' denoted
  · rintro ⟨january, december⟩
    obtain ⟨start, stop, denoted, -⟩ := exists_denote_months begun (ended january december) unshifted unshifted'
      (by omega) (by omega) (by omega)
    exact ⟨start, stop, denoted⟩

theorem denote_lastMonths (read : valueOf captures 0 ((-group 1).plus 1) = .ok (-(n : Int) + 1)) (few : n ≤ 12) :
    (∀ start stop, Grammar.lastMonthsOfYear.action.denote captures reference = .ok (.span start stop) →
      SpansMonthsOf reference.date.year (13 - n) 12 start stop ∧ (start.seconds < stop.seconds ↔ 1 ≤ n)) ∧
    (1 ≤ n → ∃ start stop,
      Grammar.lastMonthsOfYear.action.denote captures reference = .ok (.span start stop)) := by
  obtain ⟨after, before⟩ := reference.year_bounds
  let first : DateSpec := { month := 12, monthShift := (-group 1).plus 1 }
  let last : DateSpec := { month := 12 }
  have action : Grammar.lastMonthsOfYear.action = .span first.monthStart last.monthEnd := rfl
  have begun : first.HasMonth captures reference (12 * reference.date.year + (13 - n - 1)) := by
    have moved : first.HasMonth captures reference (12 * reference.date.year + (12 - 1) + (-(n : Int) + 1)) :=
      hasMonth_moved rfl (by decide) (by decide) (by decide) read (by unfold greatestWord; omega)
    have same : 12 * reference.date.year + (12 - 1) + (-(n : Int) + 1) = 12 * reference.date.year + (13 - n - 1) := by
      omega
    rwa [same] at moved
  have ended : last.HasMonth captures reference (12 * reference.date.year + (12 - 1)) :=
    hasMonth_read rfl (by decide) (by decide)
  have unshifted : first.IsUnshifted := ⟨rfl, rfl, rfl, rfl, rfl, rfl⟩
  have unshifted' : last.IsUnshifted := ⟨rfl, rfl, rfl, rfl, rfl, rfl⟩
  rw [action]
  constructor
  · intro start stop denoted
    have spans := spansMonths_of_denote begun ended unshifted unshifted' denoted
    refine ⟨spans, ?_, fun positive => spans.start_lt_stop (by omega)⟩
    intro ordered
    by_contra empty
    obtain rfl : n = 0 := by omega
    have next := spans.stop_add_one spans (by omega)
    omega
  · intro positive
    obtain ⟨start, stop, denoted, -⟩ := exists_denote_months begun ended unshifted unshifted' (by omega) (by omega)
      (by omega)
    exact ⟨start, stop, denoted⟩

end Counted

/-- The first months of the year are the months 1 to n, when there are so many; there is no such span for other numbers.
The last months are the months 13 - n to 12. No last months are counted from the end of the year as well, to a span that
begins when the year is over. -/
theorem months_of_year_counted (expression : Text) (captures : Captures) :
    (Grammar.firstMonthsOfYear.match? expression = some captures → ∃ n : Nat, captures.ReadsNumber 1 n ∧
      ∀ reference : Moment,
        (∀ start stop, Grammar.firstMonthsOfYear.action.denote captures reference = .ok (.span start stop) →
          SpansMonthsOf reference.date.year 1 n start stop) ∧
        ((∃ start stop, Grammar.firstMonthsOfYear.action.denote captures reference = .ok (.span start stop)) ↔
          1 ≤ n ∧ n ≤ 12)) ∧
    (Grammar.lastMonthsOfYear.match? expression = some captures → ∃ n : Nat, captures.ReadsNumber 1 n ∧ n ≤ 9 ∧
      ∀ reference : Moment,
        (∀ start stop, Grammar.lastMonthsOfYear.action.denote captures reference = .ok (.span start stop) →
          SpansMonthsOf reference.date.year (13 - n) 12 start stop ∧ (start.seconds < stop.seconds ↔ 1 ≤ n)) ∧
        (1 ≤ n → ∃ start stop,
          Grammar.lastMonthsOfYear.action.denote captures reference = .ok (.span start stop))) := by
  constructor
  · intro matched
    obtain ⟨digits, captured, isDigits, few⟩ : ∃ digits, captures.group? (0 + 1) = some digits ∧
        Numeral.IsDigits digits ∧ digitsValue digits ≤ 19 := Rule.exists_digits_of_match? matched (by decide)
    exact ⟨digitsValue digits, ⟨digits, captured, isDigits, rfl⟩, fun reference =>
      denote_firstMonths (valueOf_firstMonths captured isDigits few _)⟩
  · intro matched
    obtain ⟨digits, captured, isDigits, few⟩ : ∃ digits, captures.group? (0 + 1) = some digits ∧
        Numeral.IsDigits digits ∧ digitsValue digits ≤ 9 := Rule.exists_digits_of_match? matched (by decide)
    exact ⟨digitsValue digits, ⟨digits, captured, isDigits, rfl⟩, few, fun reference =>
      denote_lastMonths (valueOf_lastMonths captured isDigits (by omega)) (by omega)⟩

/-- Three months at either end of a leap year, and no months, which lead out of it. -/
theorem months_of_year_counted_none :
    let captures (t digits : Text) : Captures := ⟨t, [some digits]⟩
    let reference : Timestamp := ⟨secondsPerDay * Date.dayNumber ⟨2024, 6, 15⟩ + 43200, by decide⟩
    let newYear : Timestamp := ⟨secondsPerDay * Date.dayNumber ⟨2025, 1, 1⟩, by decide⟩
    let yearEnd : Timestamp := ⟨secondsPerDay * Date.dayNumber ⟨2025, 1, 1⟩ - 1, by decide⟩
    let noMonths := captures "yılın son 0 ayı".toList "0".toList
    let threeMonths := captures "yılın ilk 3 ayı".toList "3".toList
    Grammar.firstMonthsOfYear.match? "yılın ilk 3 ayı".toList = some threeMonths ∧
      (∃ start stop, Grammar.firstMonthsOfYear.action.denote threeMonths reference = .ok (.span start stop) ∧
        SpansMonthsOf 2024 1 3 start stop) ∧
      Grammar.lastMonthsOfYear.match? "yılın son 0 ayı".toList = some noMonths ∧
      Grammar.lastMonthsOfYear.action.denote noMonths reference = .ok (.span newYear yearEnd) ∧
      SpansMonthsOf 2024 13 12 newYear yearEnd ∧ ¬newYear.seconds < yearEnd.seconds := by
  intro captures reference newYear yearEnd noMonths threeMonths
  have matched : Grammar.firstMonthsOfYear.match? "yılın ilk 3 ayı".toList = some threeMonths := rfl
  have matched' : Grammar.lastMonthsOfYear.match? "yılın son 0 ayı".toList = some noMonths := rfl
  have denoted : Grammar.lastMonthsOfYear.action.denote noMonths reference = .ok (.span newYear yearEnd) := by decide
  have year : (reference : Moment).date.year = 2024 := by decide
  obtain ⟨first, -⟩ := months_of_year_counted "yılın ilk 3 ayı".toList threeMonths
  obtain ⟨-, last⟩ := months_of_year_counted "yılın son 0 ayı".toList noMonths
  obtain ⟨n, ⟨digits, captured, -, value⟩, counted⟩ := first matched
  obtain rfl : "3".toList = digits := Option.some.inj captured
  obtain rfl : n = 3 := Int.ofNat.inj (value.trans (by decide))
  obtain ⟨spans, exists_iff⟩ := counted reference
  obtain ⟨start, stop, denoted'⟩ := exists_iff.mpr (by decide)
  obtain ⟨m, ⟨digits', captured', -, value'⟩, -, counted'⟩ := last matched'
  obtain rfl : "0".toList = digits' := Option.some.inj captured'
  obtain rfl : m = 0 := Int.ofNat.inj (value'.trans (by decide))
  obtain ⟨spans', reversed⟩ := (counted' reference).1 newYear yearEnd denoted
  rw [year] at spans spans'
  exact ⟨matched, ⟨start, stop, denoted', spans start stop denoted'⟩, matched', denoted, spans',
    fun ordered => absurd (reversed.mp ordered) (by decide)⟩

end TurkishDates
