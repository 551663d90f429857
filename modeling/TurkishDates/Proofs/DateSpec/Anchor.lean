import TurkishDates.Proofs.Calendar.Range
import TurkishDates.Proofs.DateSpec.Bounds

/-!
Descriptions to which no weeks, days, hours or minutes are added. Building one succeeds exactly if the
date that its fields are read as exists.
-/

namespace TurkishDates

namespace DateSpec

variable {spec : DateSpec} {captures : Captures} {reference : Moment}

theorem fitsWord_of_representable {year : Int} (after : earliestYear ≤ year) (before : year ≤ latestYear) :
    fitsWord year = true := by
  rw [Bounds.fitsWord_iff, Bounds.mem_iff]
  unfold earliestYear latestYear at *
  simp only [Bounds.words, leastWord, greatestWord]
  omega

def IsUnshifted (spec : DateSpec) : Prop :=
  spec.weekShift = .unset ∧ spec.dayShift = .unset ∧ spec.weekday = .unset ∧ spec.hourShift = .unset ∧
    spec.minuteShift = .unset ∧ spec.secondShift = .unset

theorem move_zero (t : Timestamp) (unit : Int) : move t unit 0 = .ok t := by
  have stays : t.shift? (unit * 0) = some t := by
    rw [Timestamp.shift?, Timestamp.ofSeconds?_eq_some_iff]
    omega
  rw [move, stays]
  rfl

theorem IsUnshifted.build_eq (unshifted : spec.IsUnshifted) (captures : Captures) (reference : Moment) :
    spec.build captures reference = spec.anchor captures reference := by
  obtain ⟨weeks, days, weekday, hours, minutes, seconds⟩ := unshifted
  have still (t : Timestamp) (unit : Int) : (valueOf captures 0 .unset >>= move t unit) = pure t :=
    move_zero t unit
  have weekdayStill (t : Timestamp) (unit : Int) :
      (weekdayShift spec captures reference >>= move t unit) = pure t := by
    rw [weekdayShift, weekday]
    exact move_zero t unit
  simp only [build, weeks, days, hours, minutes, seconds, still, weekdayStill, bind_pure]

/-- What the fields of the time of day are read as, when there is such a time. -/
structure HasClock (spec : DateSpec) (captures : Captures) (reference : Moment)
    (hour minute second : Int) : Prop where
  hourRead : valueOf captures reference.hour spec.hour = .ok hour
  minuteRead : valueOf captures reference.minute spec.minute = .ok minute
  secondRead : valueOf captures reference.second spec.second = .ok second
  valid : 0 ≤ hour ∧ hour < 24 ∧ 0 ≤ minute ∧ minute < 60 ∧ 0 ≤ second ∧ second < 60

theorem hasClock_startOfDay (spec : DateSpec) : spec.startOfDay.HasClock captures reference 0 0 0 :=
  ⟨rfl, rfl, rfl, by decide⟩

theorem hasClock_endOfDay (spec : DateSpec) : spec.endOfDay.HasClock captures reference 23 59 59 :=
  ⟨rfl, rfl, rfl, by decide⟩

/-- What the fields of the date are read as, after all rounding and shifting. -/
structure HasDate (spec : DateSpec) (captures : Captures) (reference : Moment) (date : Date) : Prop where
  yearAndMonth : spec.yearAndMonth captures reference.date = .ok (date.year, date.month)
  day : spec.dayOf captures reference.date date.year date.month = .ok date.day

theorem HasDate.anchor_eq {date : Date} (dated : spec.HasDate captures reference date)
    {hour minute second : Int} (clock : spec.HasClock captures reference hour minute second) :
    spec.anchor captures reference = (found .noSuchDate (Date.ofParts? date.year date.month date.day) >>=
      fun date => found .noSuchTime (Timestamp.ofParts? date hour minute second)) := by
  rw [anchor, dated.yearAndMonth]
  change (spec.dayOf captures reference.date date.year date.month >>= fun day =>
    valueOf captures reference.hour spec.hour >>= fun hour =>
    valueOf captures reference.minute spec.minute >>= fun minute =>
    valueOf captures reference.second spec.second >>= fun second =>
    found .noSuchDate (Date.ofParts? date.year date.month day) >>= fun date =>
    found .noSuchTime (Timestamp.ofParts? date hour minute second)) = _
  rw [dated.day, clock.hourRead, clock.minuteRead, clock.secondRead]
  rfl

theorem HasDate.exists_anchor {date : Date} (dated : spec.HasDate captures reference date)
    {hour minute second : Int} (clock : spec.HasClock captures reference hour minute second)
    (real : date.IsReal) (after : earliestYear ≤ date.year) (before : date.year ≤ latestYear) :
    ∃ t, spec.anchor captures reference = .ok t ∧ Timestamp.ofParts? date hour minute second = some t := by
  obtain ⟨t, known, -⟩ := Timestamp.exists_ofParts? real after before clock.valid
  refine ⟨t, ?_, known⟩
  rw [dated.anchor_eq clock, Date.ofParts?_eq_some_iff.mpr ⟨rfl, after, before, real⟩]
  exact found_eq_ok_iff.mpr known

theorem HasDate.found_of_anchor {date : Date} (dated : spec.HasDate captures reference date) {hour minute second : Int}
    (clock : spec.HasClock captures reference hour minute second) {t : Timestamp}
    (anchored : spec.anchor captures reference = .ok t) :
    date.IsReal ∧ Timestamp.ofParts? date hour minute second = some t := by
  rw [dated.anchor_eq clock] at anchored
  simp only [bind_eq_ok_iff, found_eq_ok_iff] at anchored
  obtain ⟨_, isDate, known⟩ := anchored
  obtain ⟨rfl, -, -, real⟩ := Date.ofParts?_eq_some_iff.mp isDate
  exact ⟨real, known⟩

theorem anchor_eq_ok {t : Timestamp} (anchored : spec.anchor captures reference = .ok t) :
    ∃ date hour minute second, spec.HasDate captures reference date ∧
      spec.HasClock captures reference hour minute second ∧ date.IsReal ∧
      t.seconds = secondsPerDay * date.dayNumber + 3600 * hour + 60 * minute + second := by
  simp only [anchor, bind_eq_ok_iff, found_eq_ok_iff] at anchored
  obtain ⟨⟨year, month⟩, months, day, dayRead, hour, hourRead, minute, minuteRead, second, secondRead, date,
    isDate, known⟩ := anchored
  obtain ⟨rfl, -, -, real⟩ := Date.ofParts?_eq_some_iff.mp isDate
  unfold Timestamp.ofParts? at known
  split at known
  next valid =>
    exact ⟨_, hour, minute, second, ⟨months, dayRead⟩, ⟨hourRead, minuteRead, secondRead, valid⟩, real,
      Timestamp.ofSeconds?_eq_some_iff.mp known⟩
  next => cases known

/-- With a time of day that exists, building succeeds exactly for dates that exist. -/
theorem HasDate.exists_build_iff {date : Date} (dated : spec.HasDate captures reference date)
    {hour minute second : Int} (clock : spec.HasClock captures reference hour minute second)
    (unshifted : spec.IsUnshifted) : (∃ t, spec.build captures reference = .ok t) ↔
      earliestYear ≤ date.year ∧ date.year ≤ latestYear ∧ date.IsReal := by
  rw [unshifted.build_eq, dated.anchor_eq clock]
  simp only [bind_eq_ok_iff, found_eq_ok_iff]
  constructor
  · intro ⟨_, dated, found, _⟩
    obtain ⟨rfl, representable⟩ := Date.ofParts?_eq_some_iff.mp found
    exact representable
  · intro ⟨after, before, real⟩
    obtain ⟨t, known, -⟩ := Timestamp.exists_ofParts? real after before clock.valid
    exact ⟨t, date, Date.ofParts?_eq_some_iff.mpr ⟨rfl, after, before, real⟩, known⟩

end DateSpec

end TurkishDates
