import TurkishDates.Proofs.DateSpec.Order
import TurkishDates.Proofs.DateSpec.Shifts

/-!
Days that are read from the captures. A description to which nothing is added names a real date, whose month and day
are the captured ones and whose year is the captured one or that of the reference, rounded.
-/

namespace TurkishDates

namespace Captures

def ReadsNumber (captures : Captures) (index : Nat) (n : Int) : Prop :=
  ∃ digits, captures.group? index = some digits ∧ Numeral.IsDigits digits ∧ n = digitsValue digits

def ReadsMonth (captures : Captures) (index : Nat) (month : Int) : Prop :=
  ∃ name, captures.group? index = some name ∧ monthNumber? name = some month

end Captures

namespace Timestamp

variable {t later : Timestamp} {date : Date}

theorem date_eq_iff (real : date.IsReal) : t.date = date ↔ t.date.dayNumber = date.dayNumber := by
  constructor
  · intro same
    rw [same]
  · intro number
    rw [← Date.ofDayNumber_dayNumber t.isReal_date, number, Date.ofDayNumber_dayNumber real]

theorem date_of_ofParts? {hour minute second : Int} (real : date.IsReal)
    (found : ofParts? date hour minute second = some t) : t.date = date := by
  have seconds := seconds_of_ofParts? found
  unfold ofParts? at found
  split at found
  next clock =>
    rw [date_eq_iff real, t.dayNumber_date, seconds]
    unfold secondsPerDay
    omega
  next => cases found

theorem midnight_le_iff (found : ofParts? date 0 0 0 = some t) :
    t.seconds ≤ later.seconds ↔ date.dayNumber ≤ later.date.dayNumber := by
  have seconds := seconds_of_ofParts? found
  have day := later.dayNumber_date
  unfold secondsPerDay at seconds day
  omega

end Timestamp

namespace DateSpec

variable {spec : DateSpec} {captures : Captures} {reference : Moment} {unset n : Int}

/-- What the fields of the date are read as, when neither the year nor the month is moved after rounding. -/
structure ReadsDate (spec : DateSpec) (captures : Captures) (reference : Moment) (date : Date) : Prop where
  year : ∃ year, valueOf captures reference.date.year spec.year = .ok year ∧
    date.year = year - yearsBack spec.rounding date.month reference.date.month
  month : valueOf captures reference.date.month spec.month = .ok date.month
  day : spec.dayOf captures reference.date date.year date.month = .ok date.day

theorem IsUnshifted.exists_date (unshifted : spec.IsUnshifted) (years : spec.yearShift = .unset)
    (months : spec.monthShift = .unset) {hour minute second : Int}
    (clock : spec.HasClock captures reference hour minute second) {t : Timestamp}
    (built : spec.build captures reference = .ok t) :
    ∃ date : Date, date.IsReal ∧ spec.ReadsDate captures reference date ∧
      Timestamp.ofParts? date hour minute second = some t := by
  rw [unshifted.build_eq] at built
  obtain ⟨date, hour', minute', second', dated, clock', real, seconds⟩ := anchor_eq_ok built
  obtain rfl : hour = hour' := Except.ok.inj (clock.hourRead.symm.trans clock'.hourRead)
  obtain rfl : minute = minute' := Except.ok.inj (clock.minuteRead.symm.trans clock'.minuteRead)
  obtain rfl : second = second' := Except.ok.inj (clock.secondRead.symm.trans clock'.secondRead)
  obtain ⟨year, month, yearShift, monthShift, read, count, still⟩ := yearAndMonth_eq_ok dated.yearAndMonth
  obtain rfl : 0 = yearShift := Except.ok.inj (years ▸ read.yearShiftRead)
  obtain ⟨sameMonth, rfl⟩ := still months
  simp only at count sameMonth
  subst sameMonth
  refine ⟨date, real, ⟨⟨year, read.yearRead, by omega⟩, read.monthRead, dated.day⟩, ?_⟩
  rw [Timestamp.ofParts?, if_pos clock.valid, Timestamp.ofSeconds?_eq_some_iff]
  exact seconds

theorem IsMet.readsNumber (met : spec.IsMet captures) {index : Nat} (member : group index ∈ spec.fields)
    (read : valueOf captures unset (group index) = .ok n) : captures.ReadsNumber index n := by
  obtain ⟨digits, captured, isDigits⟩ := met.field member ⟨index, none, false, 0⟩ List.mem_cons_self
  have known : valueOf captures unset (group index) = _ := readCapture_of_isDigits captured isDigits false
  rw [known] at read
  split at read
  · exact ⟨digits, captured, isDigits, (Except.ok.inj read).symm⟩
  · cases read

theorem IsMet.readsMonth (met : spec.IsMet captures) {index : Nat} (member : monthOf index ∈ spec.fields)
    (read : valueOf captures unset (monthOf index) = .ok n) : captures.ReadsMonth index n := by
  obtain ⟨name, captured, -⟩ := met.field member ⟨index, some .months, false, 0⟩ List.mem_cons_self
  have known : valueOf captures unset (monthOf index) = _ := readCapture_eq captured
  rw [known] at read
  simp only [lookUp, bind_eq_ok_iff, found_eq_ok_iff] at read
  obtain ⟨month, named, _, same, small⟩ := read
  obtain rfl : month = _ := Except.ok.inj same
  unfold checked at small
  split at small
  · obtain rfl := Except.ok.inj small
    exact ⟨name, captured, by rw [named, Int.add_zero]⟩
  · cases small

end DateSpec

theorem Action.denote_instant_eq_ok_iff {time : DateSpec} {captures : Captures} {reference : Moment} {t : Timestamp} :
    (Action.instant time).denote captures reference = .ok (.instant t) ↔ time.build captures reference = .ok t := by
  simp only [denote, bind_eq_ok_iff]
  constructor
  · rintro ⟨t', built, same⟩
    cases same
    exact built
  · intro built
    exact ⟨t, built, rfl⟩

theorem Action.denote_span_eq_ok_iff {start stop : DateSpec} {captures : Captures} {reference : Moment}
    {first last : Timestamp} :
    (Action.span start stop).denote captures reference = .ok (.span first last) ↔
      start.build captures reference = .ok first ∧ stop.build captures reference = .ok last := by
  simp only [denote, bind_eq_ok_iff]
  constructor
  · rintro ⟨t, built, t', built', same⟩
    cases same
    exact ⟨built, built'⟩
  · rintro ⟨built, built'⟩
    exact ⟨first, built, last, built', rfl⟩

end TurkishDates
