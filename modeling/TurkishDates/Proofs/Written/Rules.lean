import TurkishDates.Proofs.Calendar.DateTexts
import TurkishDates.Proofs.DateSpec.Anchor
import TurkishDates.Proofs.Grammar.Captures
import TurkishDates.Proofs.Pattern.Completeness

/-!
What the rules for written dates read and denote. A pattern for a date captures its day, month and year as they
were written, whatever comes behind them, and the captured texts denote the days from the start of the first date
to the end of the last one.
-/

namespace TurkishDates

open Shape

namespace Date

def numericParts (date : Date) : List Text :=
  [paddedDigits 2 date.day.toNat, paddedDigits 2 date.month.toNat, paddedDigits 4 date.year.toNat]

def namedParts (width : Nat) (date : Date) : List Text :=
  [paddedDigits width date.day.toNat, date.monthName, paddedDigits 4 date.year.toNat]

section Reading

variable {date : Date} {pieces : List Piece} {kept : List Text} {x rest : Text}

theorem reads_fullYear (writable : date.IsWritable) (later : Text) :
    Wording.fullYear.Reads (paddedDigits 4 date.year.toNat) later := by
  have spelled : ∀ n < 200, Wording.fullYear.spells (paddedDigits 4 (1900 + n)) = true := by decide +kernel
  obtain ⟨first, last⟩ := writable.year
  have year := spelled (date.year.toNat - 1900) (by omega)
  rw [Nat.add_sub_cancel' (by omega)] at year
  exact reads_of_spells (by rfl) year later

theorem reads_twoDigitDay (writable : date.IsWritable) (later : Text) :
    Wording.twoDigitDay.Reads (paddedDigits 2 date.day.toNat) later := by
  have spelled : ∀ n < 32, Wording.twoDigitDay.spells (paddedDigits 2 n) = true := by decide
  obtain ⟨first, last⟩ := writable.real.day_bounds
  exact reads_of_spells (by rfl) (spelled date.day.toNat (by omega)) later

theorem reads_twoDigitMonth (writable : date.IsWritable) (later : Text) :
    Wording.twoDigitMonth.Reads (paddedDigits 2 date.month.toNat) later := by
  have spelled : ∀ n < 13, Wording.twoDigitMonth.spells (paddedDigits 2 n) = true := by decide
  obtain ⟨first, last⟩ := writable.real.month_bounds
  exact reads_of_spells (by rfl) (spelled date.month.toNat (by omega)) later

theorem reads_dayNumber (writable : date.IsWritable) {width : Nat} (known : width ∈ [1, 2]) (later : Text) :
    Wording.dayNumber.Reads (paddedDigits width date.day.toNat) later := by
  have spelled : ∀ width ∈ [1, 2], ∀ n < 32, Wording.dayNumber.spells (paddedDigits width n) = true := by
    decide
  obtain ⟨first, last⟩ := writable.real.day_bounds
  exact reads_of_spells (by rfl) (spelled width known date.day.toNat (by omega)) later

theorem reads_monthName (writable : date.IsWritable) (later : Text) :
    Wording.monthName.Reads date.monthName later := by
  have spelled : ∀ name ∈ monthNames, Wording.monthName.spells name = true := by decide
  exact reads_of_spells (by rfl) (spelled date.monthName writable.monthName_read.1) later

theorem reads_dateSeparator {s : Char} (separator : s ∈ dateSeparators) (later : Text) :
    Wording.dateSeparator.Reads [s] later := ⟨s, separator, rfl⟩

theorem reads_numericDay (writable : date.IsWritable) {s s' : Char} (separator : s ∈ dateSeparators)
    (separator' : s' ∈ dateSeparators) (others : Pattern.PiecesRead pieces kept x rest) :
    Pattern.PiecesRead (Grammar.numericDay.pieces ++ pieces) (date.numericParts ++ kept)
      (date.numericText s s' ++ x) rest := by
  refine ⟨_, _, _, rfl, ?_, reads_twoDigitDay writable _, [s], _, rfl, reads_dateSeparator separator _,
    _, _, _, rfl, rfl, reads_twoDigitMonth writable _, [s'], _, rfl, reads_dateSeparator separator' _,
    _, _, _, rfl, rfl, reads_fullYear writable _, others⟩
  simp [numericText]

def namedDay : Pattern := keep Wording.dayNumber ++ " " ++ keep Wording.monthName ++ " " ++ keep Wording.fullYear

theorem reads_namedDay (writable : date.IsWritable) {width : Nat} (known : width ∈ [1, 2])
    (others : Pattern.PiecesRead pieces kept x rest) :
    Pattern.PiecesRead (namedDay.pieces ++ pieces) (date.namedParts width ++ kept)
      (date.namedText width ++ x) rest := by
  refine ⟨_, _, _, rfl, ?_, reads_dayNumber writable known _, [' '], _, rfl, rfl,
    _, _, _, rfl, rfl, reads_monthName writable _, [' '], _, rfl, rfl,
    _, _, _, rfl, rfl, reads_fullYear writable _, others⟩
  simp [namedText]

end Reading

end Date

namespace Grammar

section Matching

variable {first last : Date} {t : Text}

def dayRules : List Rule := [dayMonthYear, numericDate, numericDateRange, dayMonthYearToDayMonthYear]

theorem match?_of_reads : ∀ rule ∈ dayRules, ∀ {parts : List Text}, rule.pattern.Reads parts t [] →
    rule.match? t = some ⟨t, parts.map some⟩ := by
  have sure : ∀ rule ∈ dayRules, (rule.pattern.isSteady && rule.pattern.isClear) = true := by decide
  intro rule member parts reads
  exact Option.map_eq_some_iff.mpr ⟨parts, (Pattern.match?_eq_some_iff (sure rule member)).mpr reads, rfl⟩

theorem reads_last {shape : Shape} {x : Text} (reads : shape.Reads x []) :
    Pattern.PiecesRead [.skip shape] [] x [] := ⟨x, [], (List.append_nil x).symm, reads, rfl, rfl⟩

theorem match?_numericDate (writable : first.IsWritable) {s s' : Char} (separator : s ∈ dateSeparators)
    (separator' : s' ∈ dateSeparators) :
    numericDate.match? (first.numericText s s') = some ⟨first.numericText s s', first.numericParts.map some⟩ := by
  have ending : (opt Wording.caseEnding).Reads [] [] := reads_opt.mpr (.inr rfl)
  have reads := Date.reads_numericDay writable separator separator' (reads_last ending)
  rw [List.append_nil, List.append_nil] at reads
  exact match?_of_reads numericDate (by simp [dayRules]) reads

/-- Whatever the numbers are, a date in digits is captured as it was written: the lengths tell where its parts
end. -/
theorem captures_of_numericDate (fits : first.FitsDigits) {s s' : Char} {captures : Captures}
    (matched : numericDate.match? (first.numericText s s') = some captures) :
    captures = ⟨first.numericText s s', first.numericParts.map some⟩ := by
  have day := fits.day
  have month := fits.month
  have year := fits.year
  have dayLength : Wording.twoDigitDay.lengths? = some [(paddedDigits 2 first.day.toNat).length] := by
    rw [length_paddedDigits (by omega) (by decide)]
    rfl
  have monthLength : Wording.twoDigitMonth.lengths? = some [(paddedDigits 2 first.month.toNat).length] := by
    rw [length_paddedDigits (by omega) (by decide)]
    rfl
  have yearLength : Wording.fullYear.lengths? = some [(paddedDigits 4 first.year.toNat).length] := by
    rw [length_paddedDigits (by omega) (by decide)]
    rfl
  have markLength (s : Char) : Wording.dateSeparator.lengths? = some [[s].length] := rfl
  obtain ⟨kept, found, rfl⟩ := Option.map_eq_some_iff.mp matched
  obtain ⟨_, _, _, rfl, atDay, dayReads, _, _, rfl, markReads, _, _, _, rfl, rfl, monthReads,
    _, _, rfl, markReads', _, ending, _, rfl, rfl, yearReads, _, _, -, -, rfl, -⟩ := Pattern.reads_of_match? found
  -- From left to right, each part ends where what was written for it ends.
  obtain ⟨rfl, atMark⟩ := eq_of_lengths? dayLength dayReads atDay
  obtain ⟨-, atMonth⟩ := eq_of_lengths? (markLength s) markReads atMark
  obtain ⟨rfl, atMark'⟩ := eq_of_lengths? monthLength monthReads atMonth
  obtain ⟨-, atYear⟩ := eq_of_lengths? (markLength s') markReads' atMark'
  obtain ⟨rfl, -⟩ := eq_of_lengths? yearLength yearReads ((List.append_nil _).trans atYear)
  rfl

theorem match?_dayMonthYear (writable : first.IsWritable) {width : Nat} (known : width ∈ [1, 2]) :
    dayMonthYear.match? (first.namedText width) =
      some ⟨first.namedText width, (first.namedParts width).map some⟩ := by
  have ending : (opt Wording.caseEnding).Reads [] [] := reads_opt.mpr (.inr rfl)
  have reads := Date.reads_namedDay writable known (reads_last ending)
  rw [List.append_nil, List.append_nil] at reads
  exact match?_of_reads dayMonthYear (by simp [dayRules]) reads

theorem match?_numericDateRange (writable : first.IsWritable) (writable' : last.IsWritable) {joint ending : Text}
    (joins : joint ∈ rangeJoints) (ends : ending ∈ rangeEndings) (same : t =
      first.numericText '.' '.' ++ joint ++ last.numericText '.' '.' ++ ending) :
    numericDateRange.match? t = some ⟨t, (first.numericParts ++ last.numericParts).map some⟩ := by
  have dot : '.' ∈ dateSeparators := by decide
  have joined : ∀ joint ∈ rangeJoints, (opt Grammar.joint).spells joint = true := by decide
  have ended : ∀ ending ∈ rangeEndings,
      (opt (" " ++ opt "tarihleri " ++ Wording.inflected "arası")).spells ending = true := by
    decide
  have closing := reads_last (reads_of_spells (by rfl) (ended ending ends) [])
  have second := Date.reads_numericDay writable' dot dot closing
  have middle := reads_of_spells (by rfl) (joined joint joins) ((last.numericText '.' '.' ++ ending) ++ [])
  have others : Pattern.PiecesRead (.skip (opt Grammar.joint) :: _) last.numericParts
      (joint ++ (last.numericText '.' '.' ++ ending)) [] := ⟨joint, _, rfl, middle, second⟩
  have reads := Date.reads_numericDay writable dot dot others
  rw [← List.append_assoc, ← List.append_assoc, ← same] at reads
  exact match?_of_reads numericDateRange (by simp [dayRules]) reads

theorem match?_dayMonthYearToDayMonthYear (writable : first.IsWritable) (writable' : last.IsWritable)
    {width width' : Nat} (known : width ∈ [1, 2]) (known' : width' ∈ [1, 2]) {joint : Text}
    (joins : joint ∈ conjunctions) (same : t =
      first.namedText width ++ joint ++ last.namedText width' ++ " arasında".toList) :
    dayMonthYearToDayMonthYear.match? t =
      some ⟨t, (first.namedParts width ++ last.namedParts width').map some⟩ := by
  have joined : ∀ joint ∈ conjunctions, Grammar.joint.spells joint = true := by decide
  have ended : inBetween.spells " arasında".toList = true := by decide
  have closing := reads_last (reads_of_spells (by rfl) ended [])
  have second := Date.reads_namedDay writable' known' closing
  have middle := reads_of_spells (by rfl) (joined joint joins)
    ((last.namedText width' ++ " arasında".toList) ++ [])
  have others : Pattern.PiecesRead (.skip Grammar.joint :: _) (last.namedParts width')
      (joint ++ (last.namedText width' ++ " arasında".toList)) [] := ⟨joint, _, rfl, middle, second⟩
  have reads := Date.reads_namedDay writable known others
  rw [← List.append_assoc, ← List.append_assoc, ← same] at reads
  exact match?_of_reads dayMonthYearToDayMonthYear (by simp [dayRules]) reads

end Matching

section Denoting

variable {captures : Captures} {reference : Moment} {index index' : Nat} {names names' : Option NameTable}
  {date first last : Date}

def capturedDay (index : Nat) (names : Option NameTable) : DateSpec :=
  { year := group (index + 2), month := .capture ⟨index + 1, names, false, 0⟩, day := group index }

theorem fitsWord_of_short {number : Int} (natural : 0 ≤ number) (short : number < 10000) :
    fitsWord number = true := by
  apply DateSpec.fitsWord_of_representable
  · unfold earliestYear
    omega
  · unfold latestYear
    omega

theorem lookUp_paddedDigits {number : Int} (natural : 0 ≤ number) (short : number < 10000) (width : Nat) :
    DateSpec.lookUp none (paddedDigits width number.toNat) = .ok number := by
  have value : ((digitsValue (paddedDigits width number.toNat) : Nat) : Int) = number := by
    rw [digitsValue_paddedDigits, Int.toNat_of_nonneg natural]
  change DateSpec.readNumeral _ = _
  rw [DateSpec.readNumeral, Numeral.readNumber_of_isDigits (isDigits_paddedDigits _ _), value,
    if_pos (fitsWord_of_short natural short)]

structure Spells (captures : Captures) (index : Nat) (names : Option NameTable) (date : Date) : Prop where
  day : DateSpec.readCapture captures ⟨index, none, false, 0⟩ = .ok date.day
  month : DateSpec.readCapture captures ⟨index + 1, names, false, 0⟩ = .ok date.month
  year : DateSpec.readCapture captures ⟨index + 2, none, false, 0⟩ = .ok date.year
  fits : fitsWord date.year = true

theorem readCapture_of_group {text : Text} {value : Int} (captured : captures.group? index = some text)
    (read : DateSpec.lookUp names text = .ok value) (fits : fitsWord value = true) :
    DateSpec.readCapture captures ⟨index, names, false, 0⟩ = .ok value := by
  rw [DateSpec.readCapture_eq captured, read]
  change DateSpec.checked (value + 0) = _
  rw [DateSpec.checked, Int.add_zero, if_pos fits]

/-- Three captured texts among others are read as a date when the one in the middle is read as its month. -/
theorem spells_parts (fits : date.FitsDigits) {width : Nat} {month : Text}
    (read : DateSpec.lookUp names month = .ok date.month) (t : Text) (before after : List Text) :
    Spells ⟨t, (before ++ ([paddedDigits width date.day.toNat, month, paddedDigits 4 date.year.toNat] ++ after)).map
      some⟩ (before.length + 1) names date := by
  have captured (i : Nat) (texts : List Text) :
      Captures.group? ⟨t, (before ++ texts).map some⟩ (before.length + 1 + i) = texts[i]? := by
    rw [Nat.add_right_comm, Captures.group?, List.getElem?_map, List.getElem?_append_right (Nat.le_add_right _ _),
      Nat.add_sub_cancel_left]
    cases texts[i]? <;> rfl
  obtain ⟨⟨days, days'⟩, ⟨months, months'⟩, ⟨years, years'⟩⟩ := fits
  have days' : date.day < 10000 := by omega
  have months' : date.month < 10000 := by omega
  exact ⟨readCapture_of_group (captured 0 _) (lookUp_paddedDigits days days' width) (fitsWord_of_short days days'),
    readCapture_of_group (captured 1 _) read (fitsWord_of_short months months'),
    readCapture_of_group (captured 2 _) (lookUp_paddedDigits years years' 4) (fitsWord_of_short years years'),
    fitsWord_of_short years years'⟩

theorem spells_numericParts (fits : date.FitsDigits) (t : Text) (before after : List Text) :
    Spells ⟨t, (before ++ (date.numericParts ++ after)).map some⟩ (before.length + 1) none date := by
  have month := fits.month
  exact spells_parts fits (lookUp_paddedDigits month.1 (by omega) 2) t before after

theorem spells_namedParts (writable : date.IsWritable) (width : Nat) (t : Text) (before after : List Text) :
    Spells ⟨t, (before ++ (date.namedParts width ++ after)).map some⟩ (before.length + 1) (some .months) date := by
  refine spells_parts writable.fitsDigits ?_ t before after
  rw [DateSpec.lookUp, writable.monthName_read.2]
  rfl

theorem build_capturedDay (spells : Spells captures index names date) (hour minute second : Field) {h m s : Int}
    (clock : DateSpec.HasClock { capturedDay index names with hour, minute, second } captures reference h m s) :
    DateSpec.build { capturedDay index names with hour, minute, second } captures reference =
      (DateSpec.found .noSuchDate (Date.ofParts? date.year date.month date.day) >>= fun date =>
        DateSpec.found .noSuchTime (Timestamp.ofParts? date h m s)) := by
  have dated : DateSpec.HasDate { capturedDay index names with hour, minute, second } captures reference date :=
    { yearAndMonth := by
        change (DateSpec.readCapture captures ⟨index + 2, none, false, 0⟩ >>= fun year =>
          DateSpec.readCapture captures ⟨index + 1, names, false, 0⟩ >>= fun month =>
          DateSpec.checked (year + 0) >>= fun year => .ok (year, month)) = _
        rw [spells.year, spells.month]
        change (DateSpec.checked (date.year + 0) >>= _) = _
        rw [DateSpec.checked, Int.add_zero, if_pos spells.fits]
        rfl
      day := spells.day }
  rw [DateSpec.IsUnshifted.build_eq ⟨rfl, rfl, rfl, rfl, rfl, rfl⟩, dated.anchor_eq clock]

theorem exists_build_capturedDay (spells : Spells captures index names date) (writable : date.IsWritable)
    (hour minute second : Field) {h m s : Int}
    (clock : DateSpec.HasClock { capturedDay index names with hour, minute, second } captures reference h m s) :
    ∃ t, DateSpec.build { capturedDay index names with hour, minute, second } captures reference = .ok t ∧
      Timestamp.ofParts? date h m s = some t := by
  obtain ⟨after, before⟩ : earliestYear ≤ date.year ∧ date.year ≤ latestYear := by
    have year := writable.year
    unfold earliestYear latestYear
    omega
  have real : Date.ofParts? date.year date.month date.day = some date :=
    Date.ofParts?_eq_some_iff.mpr ⟨rfl, after, before, writable.real⟩
  obtain ⟨t, found, -⟩ := Timestamp.exists_ofParts? writable.real after before clock.valid
  refine ⟨t, ?_, found⟩
  rw [build_capturedDay spells hour minute second clock, real]
  change DateSpec.found .noSuchTime (Timestamp.ofParts? date h m s) = _
  rw [found]
  rfl

theorem denote_dayRange (spells : Spells captures index names first) (spells' : Spells captures index' names' last)
    (writable : first.IsWritable) (writable' : last.IsWritable) (reference : Moment) :
    ∃ start stop, (dayRange (capturedDay index names) (capturedDay index' names')).denote captures reference =
        .ok (.span start stop) ∧
      Timestamp.ofParts? first 0 0 0 = some start ∧ Timestamp.ofParts? last 23 59 59 = some stop := by
  obtain ⟨start, begun, begins⟩ : ∃ start,
      (capturedDay index names).startOfDay.build captures reference = .ok start ∧ _ :=
    exists_build_capturedDay spells writable 0 0 0 ⟨rfl, rfl, rfl, by decide⟩
  obtain ⟨stop, ended, ends⟩ : ∃ stop,
      (capturedDay index' names').endOfDay.build captures reference = .ok stop ∧ _ :=
    exists_build_capturedDay spells' writable' 23 59 59 ⟨rfl, rfl, rfl, by decide⟩
  refine ⟨start, stop, ?_, begins, ends⟩
  change ((capturedDay index names).startOfDay.build captures reference >>= fun start =>
    (capturedDay index' names').endOfDay.build captures reference >>= fun stop =>
      (.ok (.span start stop) : Except BuildError Denotation)) = _
  rw [begun, ended]
  rfl

theorem denote_wholeDay_of_not_isReal (spells : Spells captures index names date) (unreal : ¬date.IsReal)
    (reference : Moment) :
    (Action.wholeDay (capturedDay index names)).denote captures reference = .error .noSuchDate := by
  have none : Date.ofParts? date.year date.month date.day = none := by
    rw [Option.eq_none_iff_forall_ne_some]
    intro found same
    obtain ⟨rfl, -, -, real⟩ := Date.ofParts?_eq_some_iff.mp same
    exact unreal real
  have begun : (capturedDay index names).startOfDay.build captures reference = _ :=
    build_capturedDay spells 0 0 0 ⟨rfl, rfl, rfl, by decide⟩
  change ((capturedDay index names).startOfDay.build captures reference >>= fun start =>
    (capturedDay index names).endOfDay.build captures reference >>= fun stop =>
      (.ok (.span start stop) : Except BuildError Denotation)) = _
  rw [begun, none]
  rfl

end Denoting

end Grammar

end TurkishDates
