import TurkishDates.Proofs.DateSpec.CapturedDays

/-!
Times of day. A description that leaves the day as it is and adds nothing but hours is that many hours away from its
time on the reference day. Clock times and parts of the day add none and stay on that day. The hour of an evening is
moved by half a day whatever it is, so from 12 on it leads into the day after.
-/

namespace TurkishDates

open DateSpec

namespace DateSpec

variable {spec : DateSpec} {captures : Captures} {reference : Moment} {t : Timestamp}

def CountsHours (spec : DateSpec) : Prop :=
  spec.weekShift = .unset ∧ spec.dayShift = .unset ∧ spec.weekday = .unset ∧ spec.minuteShift = .unset ∧
    spec.secondShift = .unset

theorem CountsHours.build_eq (counts : spec.CountsHours) (captures : Captures) (reference : Moment) :
    spec.build captures reference = spec.anchor captures reference >>= fun t =>
      valueOf captures 0 spec.hourShift >>= move t 3600 := by
  obtain ⟨weeks, days, weekday, minutes, seconds⟩ := counts
  simp only [build, weeks, days, weekday, minutes, seconds, valueOf_unset, weekdayShift, ok_bind, move_zero, bind_ok]

theorem KeepsDay.exists_clock (keeps : spec.KeepsDay) (counts : spec.CountsHours)
    (built : spec.build captures reference = .ok t) :
    ∃ hour minute second hours, spec.HasClock captures reference hour minute second ∧
      valueOf captures 0 spec.hourShift = .ok hours ∧
      t.seconds = secondsPerDay * reference.date.dayNumber + 3600 * (hour + hours) + 60 * minute + second := by
  rw [counts.build_eq, bind_eq_ok_iff] at built
  obtain ⟨start, anchored, shifted⟩ := built
  obtain ⟨hours, read, moved⟩ := bind_eq_ok_iff.mp shifted
  obtain ⟨-, hour, minute, second, -, clock, -, -⟩ := anchor_eq_ok anchored
  obtain ⟨-, found⟩ := keeps.hasDate.found_of_anchor clock anchored
  refine ⟨hour, minute, second, hours, clock, read, ?_⟩
  rw [move_eq_ok_iff.mp moved, Timestamp.seconds_of_ofParts? found]
  omega

/-- The day is left exactly if the hours lead past one of its ends. -/
theorem HasClock.date_eq_iff {hour minute second hours : Int}
    (clock : spec.HasClock captures reference hour minute second)
    (same : t.seconds = secondsPerDay * reference.date.dayNumber + 3600 * (hour + hours) + 60 * minute + second) :
    t.date = reference.date ↔ 0 ≤ hour + hours ∧ hour + hours < 24 := by
  have valid := clock.valid
  rw [Timestamp.date_eq_iff reference.isReal_date, t.dayNumber_date, same]
  unfold secondsPerDay
  omega

end DateSpec

def timesOfDay : List Rule :=
  [Grammar.clock, Grammar.inTheEvening, Grammar.morningHour, Grammar.inTheMorning]

theorem exists_instant_of_mem_timesOfDay : ∀ rule ∈ timesOfDay, ∃ time : DateSpec,
    rule.action = .instant time ∧ time.KeepsDay ∧ time.CountsHours ∧ time.hourShift = .unset := by
  intro rule member
  simp only [timesOfDay, List.mem_cons, List.not_mem_nil, or_false] at member
  rcases member with rfl | rfl | rfl | rfl
  all_goals exact ⟨_, rfl, ⟨rfl, rfl⟩, ⟨rfl, rfl, rfl, rfl, rfl⟩, rfl⟩

/-- Whatever a rule for a time of day matches, the instant that it denotes lies on the reference day, but for an hour of
the evening: half a day is added to it, and it lies on that day exactly if it is one of the first twelve. -/
theorem times_of_day_stay_iff (expression : Text) (captures : Captures) (reference : Moment) (t : Timestamp) :
    (∀ rule ∈ timesOfDay, rule.match? expression = some captures →
      rule.action.denote captures reference = .ok (.instant t) → t.date = reference.date) ∧
    (Grammar.eveningHour.match? expression = some captures →
      Grammar.eveningHour.action.denote captures reference = .ok (.instant t) →
        ∃ hour, captures.ReadsNumber 1 hour ∧
          t.seconds = secondsPerDay * reference.date.dayNumber + 3600 * (hour + 12) ∧
          (t.date = reference.date ↔ hour < 12)) := by
  constructor
  · intro rule member _ denoted
    obtain ⟨time, action, keeps, counts, unshifted⟩ := exists_instant_of_mem_timesOfDay rule member
    rw [action, Action.denote_instant_eq_ok_iff] at denoted
    obtain ⟨hour, minute, second, hours, clock, read, seconds⟩ := keeps.exists_clock counts denoted
    obtain rfl : 0 = hours := Except.ok.inj (unshifted ▸ read)
    obtain ⟨notBefore, before, -⟩ := clock.valid
    exact (clock.date_eq_iff seconds).mpr (by omega)
  · intro matched denoted
    let time : DateSpec := { hour := group 1, hourShift := 12, minute := 0, second := 0 }
    have member : Grammar.eveningHour ∈ grammar := by simp [grammar, Grammar.instantRules]
    have met : time.IsMet captures := isMet_of_mem_specs member matched List.mem_cons_self
    have built : time.build captures reference = .ok t := Action.denote_instant_eq_ok_iff.mp denoted
    have keeps : time.KeepsDay := ⟨rfl, rfl⟩
    obtain ⟨hour, minute, second, hours, clock, read, seconds⟩ :=
      keeps.exists_clock ⟨rfl, rfl, rfl, rfl, rfl⟩ built
    obtain rfl : 12 = hours := Except.ok.inj read
    obtain rfl : 0 = minute := Except.ok.inj clock.minuteRead
    obtain rfl : 0 = second := Except.ok.inj clock.secondRead
    have reads := met.readsNumber (by simp [time, fields]) clock.hourRead
    obtain ⟨notBefore, -⟩ := clock.valid
    refine ⟨hour, reads, by omega, (clock.date_eq_iff seconds).trans ?_⟩
    omega

/-- Seven in the evening as it is written on a clock. -/
theorem times_of_day_stay_iff_nineteen :
    let captures (digits : Text) : Captures := ⟨"akşam ".toList ++ digits, [some digits]⟩
    let noon : Timestamp := ⟨secondsPerDay * Date.dayNumber ⟨2021, 6, 15⟩ + 43200, by decide⟩
    let nextMorning : Timestamp := ⟨secondsPerDay * Date.dayNumber ⟨2021, 6, 16⟩ + 25200, by decide⟩
    Grammar.eveningHour.match? "akşam 19".toList = some (captures "19".toList) ∧
      Grammar.eveningHour.action.denote (captures "19".toList) noon = .ok (.instant nextMorning) ∧
      nextMorning.date ≠ noon.date := by
  intro captures noon nextMorning
  have matched : Grammar.eveningHour.match? "akşam 19".toList = some (captures "19".toList) := rfl
  have denoted : Grammar.eveningHour.action.denote (captures "19".toList) noon = .ok (.instant nextMorning) := by decide
  obtain ⟨-, evening⟩ := times_of_day_stay_iff "akşam 19".toList (captures "19".toList) noon nextMorning
  obtain ⟨hour, -, seconds, stays⟩ := evening matched denoted
  have late : ¬hour < 12 := by
    have number : nextMorning.seconds = secondsPerDay * (noon : Moment).date.dayNumber + 3600 * 31 := by decide
    omega
  exact ⟨matched, denoted, mt stays.mp late⟩

end TurkishDates
