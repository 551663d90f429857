import TurkishDates.Proofs.Resolution.WrittenOut
import TurkishDates.Proofs.Written.Rules
import TurkishDates.Proofs.Written.Years

/-!
Written dates read back. The text of a date, or of a range between two dates, is normal, and it is matched by the
rule for its form and by no other one. So it resolves to the days that were written, and a date in digits that does
not exist resolves to nothing.
-/

namespace TurkishDates

open Numeral Shape

section Forms

def digitRun : Nat → Shape
  | 0 => Shape.empty
  | n + 1 => Wording.digit ++ digitRun n

theorem reads_digitRun {x : Text} (digits : ∀ c ∈ x, isDigit c = true) (rest : Text) :
    (digitRun x.length).Reads x rest := by
  induction x with
  | nil => rfl
  | cons c x ih =>
    obtain ⟨first, others⟩ := List.forall_mem_cons.mp digits
    exact ⟨[c], x, rfl, ⟨c, mem_digits_iff.mpr first, rfl⟩, ih others⟩

def numericForm : Shape :=
  digitRun 2 ++ (Wording.dateSeparator ++ (digitRun 2 ++ (Wording.dateSeparator ++ digitRun 4)))

theorem reads_numericForm {date : Date} (fits : date.FitsDigits) {s s' : Char} (separator : s ∈ dateSeparators)
    (separator' : s' ∈ dateSeparators) (rest : Text) : numericForm.Reads (date.numericText s s') rest := by
  have digits {width n : Nat} (short : n < 10 ^ width) (positive : 0 < width) (later : Text) :
      (digitRun width).Reads (paddedDigits width n) later := by
    have reads := reads_digitRun (isDigits_paddedDigits width n).2 later
    rwa [length_paddedDigits short positive] at reads
  obtain ⟨⟨days, days'⟩, ⟨months, months'⟩, ⟨years, years'⟩⟩ := fits
  exact ⟨_, _, rfl, digits (by omega) (by decide) _, [s], _, rfl, Date.reads_dateSeparator separator _,
    _, _, rfl, digits (by omega) (by decide) _, [s'], _, rfl, Date.reads_dateSeparator separator' _,
    digits (by omega) (by decide) _⟩

theorem numericForm_isApart :
    numericForm.isApartFrom (otherShapes grammar Grammar.numericDate.name) = true := by
  decide +kernel

theorem isLeftTo_numericDate {date : Date} (fits : date.FitsDigits) {s s' : Char} (separator : s ∈ dateSeparators)
    (separator' : s' ∈ dateSeparators) : IsLeftTo Grammar.numericDate.name (date.numericText s s') :=
  isLeftTo_of_isApartFrom numericForm_isApart (reads_numericForm fits separator separator' [])

theorem dayRules_apart : ∀ rule ∈ Grammar.dayRules, rule.pattern.shape.isApartFrom
    (otherShapes (grammar.filter fun rule => rule.action.isFixedSpan) rule.name) = true := by
  decide +kernel

theorem isLeftTo_of_match? {rule : Rule} (listed : rule ∈ Grammar.dayRules) {expression : Text}
    {captures : Captures} (matched : rule.match? expression = some captures) : IsLeftTo rule.name expression := by
  have written : rule ∈ yearRules := by
    simp only [Grammar.dayRules, List.mem_cons, List.not_mem_nil, or_false] at listed
    rcases listed with rfl | rfl | rfl | rfl <;> simp [yearRules]
  intro other member captures' matched'
  by_contra different
  -- The rules that look at the reference are out already, so only those for fixed spans have to be apart.
  have fixed := isFixedSpan_of_match? written matched member matched'
  have candidate : other ∈ grammar.filter fun rule => rule.action.isFixedSpan :=
    List.mem_filter.mpr ⟨member, fixed⟩
  have none := Rule.match?_eq_none_of_reads (dayRules_apart rule listed) (Rule.reads_of_match? matched)
    (mem_otherShapes candidate different)
  rw [none] at matched'
  cases matched'

end Forms

section Reading

variable {reference : Moment} {t : Text} {date first last : Date}

/-- Whether, without a fallback, a text resolves to the days from the start of the first to the end of the last. -/
def ResolvesToDays (reference : Moment) (t : Text) (first last : Date) : Prop :=
  ∃ start stop, ((⟨grammar, reference, none⟩ : Resolver).resolve t).value = some (.span start stop) ∧
    Timestamp.ofParts? first 0 0 0 = some start ∧ Timestamp.ofParts? last 23 59 59 = some stop

theorem mem_grammar_of_mem_dayRules {rule : Rule} (listed : rule ∈ Grammar.dayRules) : rule ∈ grammar := by
  simp only [Grammar.dayRules, List.mem_cons, List.not_mem_nil, or_false] at listed
  rcases listed with rfl | rfl | rfl | rfl <;> simp [grammar, Grammar.spanRules]

theorem resolvesToDays_of_match? {rule : Rule} (listed : rule ∈ Grammar.dayRules) (normal : normalize t = t)
    {captures : Captures} (matched : rule.match? t = some captures) {index index' : Nat}
    {names names' : Option NameTable}
    (ranges : rule.action = Grammar.dayRange (Grammar.capturedDay index names) (Grammar.capturedDay index' names'))
    (writable : first.IsWritable) (writable' : last.IsWritable)
    (spells : Grammar.Spells captures index names first) (spells' : Grammar.Spells captures index' names' last) :
    ResolvesToDays reference t first last := by
  obtain ⟨start, stop, denoted, begins, ends⟩ :=
    Grammar.denote_dayRange spells spells' writable writable' reference
  refine ⟨start, stop, ?_, begins, ends⟩
  rw [Resolver.resolve_eq_byRules, normal]
  exact value_of_isLeftTo (isLeftTo_of_match? listed matched) (mem_grammar_of_mem_dayRules listed) matched
    (by rw [ranges, denoted])

theorem resolvesToDays_numericText (writable : date.IsWritable) {s s' : Char} (separator : s ∈ dateSeparators)
    (separator' : s' ∈ dateSeparators) : ResolvesToDays reference (date.numericText s s') date date := by
  have normal := IsNormal.of_numberLetters (date.all_numericText separator separator')
  have matched := Grammar.match?_numericDate writable separator separator'
  have spells := Grammar.spells_numericParts writable.fitsDigits (date.numericText s s') [] []
  exact resolvesToDays_of_match? (by simp [Grammar.dayRules]) (normal.normalize_eq (List.prefix_append _ _)) matched
    rfl writable writable spells spells

theorem resolvesToDays_namedText (writable : date.IsWritable) {width : Nat} (known : width ∈ [1, 2]) :
    ResolvesToDays reference (date.namedText width) date date := by
  have normal := date.isNormal_namedText writable width
  have matched := Grammar.match?_dayMonthYear writable known
  have spells := Grammar.spells_namedParts writable width (date.namedText width) [] []
  exact resolvesToDays_of_match? (by simp [Grammar.dayRules]) (normal.normalize_eq (List.prefix_append _ _)) matched
    rfl writable writable spells spells

theorem resolvesToDays_numericRange (writable : first.IsWritable) (writable' : last.IsWritable)
    {joint ending : Text} (joins : joint ∈ rangeJoints) (ends : ending ∈ rangeEndings) :
    ResolvesToDays reference (first.numericText '.' '.' ++ joint ++ last.numericText '.' '.' ++ ending)
      first last := by
  have dot : '.' ∈ dateSeparators := by decide
  have normal := isNormal_numericRange (first.all_numericText dot dot) (last.all_numericText dot dot) joins ends
  have begins : paddedDigits 2 first.day.toNat <+:
      first.numericText '.' '.' ++ joint ++ last.numericText '.' '.' ++ ending := by
    simp [Date.numericText]
  generalize same : first.numericText '.' '.' ++ joint ++ last.numericText '.' '.' ++ ending = t at normal begins ⊢
  have matched := Grammar.match?_numericDateRange writable writable' joins ends same.symm
  have spells := Grammar.spells_numericParts writable.fitsDigits t [] last.numericParts
  have spells' := Grammar.spells_numericParts writable'.fitsDigits t first.numericParts []
  exact resolvesToDays_of_match? (by simp [Grammar.dayRules]) (normal.normalize_eq begins) matched rfl
    writable writable' spells spells'

theorem resolvesToDays_namedRange (writable : first.IsWritable) (writable' : last.IsWritable) {width width' : Nat}
    (known : width ∈ [1, 2]) (known' : width' ∈ [1, 2]) {joint : Text} (joins : joint ∈ conjunctions) :
    ResolvesToDays reference (first.namedText width ++ joint ++ last.namedText width' ++ " arasında".toList)
      first last := by
  have ending : " arasında".toList ∈ rangeEndings := by decide
  have normal := isNormal_ended (isNormal_conjoined (first.isNormal_namedText writable width)
    (last.isNormal_namedText writable' width') joins) ending
  have begins : paddedDigits width first.day.toNat <+:
      first.namedText width ++ joint ++ last.namedText width' ++ " arasında".toList := by
    simp [Date.namedText]
  generalize same : first.namedText width ++ joint ++ last.namedText width' ++ " arasında".toList = t
    at normal begins ⊢
  have matched := Grammar.match?_dayMonthYearToDayMonthYear writable writable' known known' joins same.symm
  have spells := Grammar.spells_namedParts writable width t [] (last.namedParts width')
  have spells' := Grammar.spells_namedParts writable' width' t (first.namedParts width) []
  exact resolvesToDays_of_match? (by simp [Grammar.dayRules]) (normal.normalize_eq begins) matched rfl
    writable writable' spells spells'

theorem value_numericText_of_not_isReal (fits : date.FitsDigits) (unreal : ¬date.IsReal) {s s' : Char}
    (separator : s ∈ dateSeparators) (separator' : s' ∈ dateSeparators) (reference : Moment) :
    ((⟨grammar, reference, none⟩ : Resolver).resolve (date.numericText s s')).value = none := by
  have normal := IsNormal.of_numberLetters (date.all_numericText separator separator')
  rw [Resolver.resolve_eq_byRules, normal.normalize_eq (List.prefix_append _ _)]
  refine value_eq_none_of_isLeftTo (isLeftTo_numericDate fits separator separator')
    (mem_grammar_of_mem_dayRules (by simp [Grammar.dayRules])) fun captures matched => ?_
  obtain rfl := Grammar.captures_of_numericDate fits matched
  have spells := Grammar.spells_numericParts fits (date.numericText s s') [] []
  exact ⟨.noSuchDate, Grammar.denote_wholeDay_of_not_isReal spells unreal reference⟩

end Reading

/-- Dates of the years 1900 to 2099 are read back from what they are written as, in digits with any two separators or
with the name of the month and one or two digits of the day, and so are ranges between two such dates. In any year
of four digits, what is written in digits and is no date has no value. -/
theorem written_dates_read_back (reference : Moment) :
    (∀ date : Date, date.IsWritable →
      (∀ s ∈ dateSeparators, ∀ s' ∈ dateSeparators,
        ResolvesToDays reference (date.numericText s s') date date) ∧
      ∀ width ∈ [1, 2], ResolvesToDays reference (date.namedText width) date date) ∧
    (∀ first last : Date, first.IsWritable → last.IsWritable →
      (∀ joint ∈ rangeJoints, ∀ ending ∈ rangeEndings, ResolvesToDays reference
        (first.numericText '.' '.' ++ joint ++ last.numericText '.' '.' ++ ending) first last) ∧
      ∀ width ∈ [1, 2], ∀ width' ∈ [1, 2], ∀ joint ∈ conjunctions, ResolvesToDays reference
        (first.namedText width ++ joint ++ last.namedText width' ++ " arasında".toList) first last) ∧
    ∀ date : Date, date.FitsDigits → ¬date.IsReal → ∀ s ∈ dateSeparators, ∀ s' ∈ dateSeparators,
      ((⟨grammar, reference, none⟩ : Resolver).resolve (date.numericText s s')).value = none := by
  refine ⟨fun date writable => ⟨?_, ?_⟩, fun first last writable writable' => ⟨?_, ?_⟩, ?_⟩
  · exact fun s separator s' separator' => resolvesToDays_numericText writable separator separator'
  · exact fun width known => resolvesToDays_namedText writable known
  · exact fun joint joins ending ends => resolvesToDays_numericRange writable writable' joins ends
  · exact fun width known width' known' joint joins =>
      resolvesToDays_namedRange writable writable' known known' joins
  · exact fun date fits unreal s separator s' separator' =>
      value_numericText_of_not_isReal fits unreal separator separator' reference

theorem written_dates_read_back_leap_day :
    let reference : Timestamp := ⟨0, by decide⟩
    let leapDay : Date := ⟨2024, 2, 29⟩
    let nextDay : Date := ⟨2024, 3, 1⟩
    ResolvesToDays reference "29/02-2024".toList leapDay leapDay ∧
      ResolvesToDays reference "1 mart 2024".toList nextDay nextDay ∧
      ResolvesToDays reference "29.02.2024 ve 01.03.2024 tarihleri arasında".toList leapDay nextDay ∧
      ResolvesToDays reference "29 şubat 2024 ile 01 mart 2024 arasında".toList leapDay nextDay ∧
      ((⟨grammar, reference, none⟩ : Resolver).resolve "29.02.2023".toList).value = none := by
  intro reference leapDay nextDay
  have first : leapDay.IsWritable := ⟨⟨29, by decide, by decide⟩, by decide⟩
  have last : nextDay.IsWritable := ⟨⟨31, by decide, by decide⟩, by decide⟩
  have unreal : ¬(⟨2023, 2, 29⟩ : Date).IsReal := by
    rw [Date.isReal_february_iff]
    decide
  have inDigits : "29/02-2024".toList = leapDay.numericText '/' '-' := by decide
  have named : "1 mart 2024".toList = nextDay.namedText 1 := by decide
  have digitRange : "29.02.2024 ve 01.03.2024 tarihleri arasında".toList =
      leapDay.numericText '.' '.' ++ " ve ".toList ++ nextDay.numericText '.' '.' ++
        " tarihleri arasında".toList := by
    decide
  have namedRange : "29 şubat 2024 ile 01 mart 2024 arasında".toList =
      leapDay.namedText 1 ++ " ile ".toList ++ nextDay.namedText 2 ++ " arasında".toList := by
    decide
  have noDate : "29.02.2023".toList = Date.numericText '.' '.' ⟨2023, 2, 29⟩ := by decide
  obtain ⟨days, ranges, noDates⟩ := written_dates_read_back reference
  rw [inDigits, named, digitRange, namedRange, noDate]
  refine ⟨?_, ?_, ?_, ?_, ?_⟩
  · exact (days leapDay first).1 '/' (by decide) '-' (by decide)
  · exact (days nextDay last).2 1 (by decide)
  · exact (ranges leapDay nextDay first last).1 " ve ".toList (by decide) " tarihleri arasında".toList (by decide)
  · exact (ranges leapDay nextDay first last).2 1 (by decide) 2 (by decide) " ile ".toList (by decide)
  · exact noDates ⟨2023, 2, 29⟩ ⟨by decide, by decide, by decide⟩ unreal '.' (by decide) '.' (by decide)

end TurkishDates
