import TurkishDates.Proofs.Calendar.Months

/-!
Spans of whole months, from the first second of one month to the last second of another. Months are counted from
January of the year 0, so the span of a month ends one second before that of the next month begins, and a point in
time lies in the latest month that has begun.
-/

namespace TurkishDates

namespace Timestamp

variable {t : Timestamp} {months : Int}

theorem le_months_iff : months ≤ t.date.months ↔ secondsPerDay * Date.newMonth months ≤ t.seconds := by
  have day := t.dayNumber_date
  have notBefore := t.isReal_date.newMonth_le
  have beforeNext := t.isReal_date.lt_newMonth
  unfold secondsPerDay at day ⊢
  constructor
  · intro order
    have begun := Date.newMonth_mono order
    omega
  · intro begun
    by_contra later
    have next := Date.newMonth_mono (show t.date.months + 1 ≤ months by omega)
    omega

end Timestamp

/-- From the first second of the first day of one month to the last second of the last day of another. -/
structure SpansMonths (first last : Int) (start stop : Timestamp) : Prop where
  begins : Timestamp.ofParts? ⟨first / 12, first % 12 + 1, 1⟩ 0 0 0 = some start
  ends : ∃ days, daysInMonth? (last / 12) (last % 12 + 1) = some days ∧
    Timestamp.ofParts? ⟨last / 12, last % 12 + 1, days⟩ 23 59 59 = some stop

namespace SpansMonths

variable {first last : Int} {start stop t : Timestamp}

theorem unique {start' stop' : Timestamp} (spans : SpansMonths first last start stop)
    (spans' : SpansMonths first last start' stop') : start = start' ∧ stop = stop' := by
  obtain ⟨days, known, ends⟩ := spans.ends
  obtain ⟨days', known', ends'⟩ := spans'.ends
  rw [← Option.some.inj (known.symm.trans known')] at ends'
  exact ⟨Option.some.inj (spans.begins.symm.trans spans'.begins), Option.some.inj (ends.symm.trans ends')⟩

theorem start_seconds (spans : SpansMonths first last start stop) :
    start.seconds = secondsPerDay * Date.newMonth first := by
  rw [Timestamp.seconds_of_ofParts? spans.begins, Date.newMonth]
  omega

theorem stop_seconds (spans : SpansMonths first last start stop) :
    stop.seconds = secondsPerDay * Date.newMonth (last + 1) - 1 := by
  obtain ⟨days, known, ended⟩ := spans.ends
  have lastDay : Date.dayNumber ⟨last / 12, last % 12 + 1, days⟩ = Date.newMonth (last + 1) - 1 := by
    rw [Date.newMonth_succ known, Date.newMonth]
    simp only [Date.dayNumber]
    omega
  rw [Timestamp.seconds_of_ofParts? ended, lastDay]
  unfold secondsPerDay
  omega

/-- The span of the months before ends one second before these months begin. -/
theorem stop_add_one {first' last' : Int} {start' stop' : Timestamp} (spans : SpansMonths first last start stop)
    (spans' : SpansMonths first' last' start' stop') (next : first' = last + 1) :
    stop.seconds + 1 = start'.seconds := by
  rw [spans.stop_seconds, spans'.start_seconds, next]
  omega

theorem start_lt_stop (spans : SpansMonths first last start stop) (order : first ≤ last) :
    start.seconds < stop.seconds := by
  have begins := Date.newMonth_mono order
  have ends := Date.newMonth_lt_succ last
  rw [spans.start_seconds, spans.stop_seconds]
  unfold secondsPerDay
  omega

theorem start_le_iff (spans : SpansMonths first last start stop) :
    start.seconds ≤ t.seconds ↔ first ≤ t.date.months := by
  rw [spans.start_seconds, Timestamp.le_months_iff]

theorem le_stop_iff (spans : SpansMonths first last start stop) : t.seconds ≤ stop.seconds ↔ t.date.months ≤ last := by
  have begun : last + 1 ≤ t.date.months ↔ _ := Timestamp.le_months_iff
  rw [spans.stop_seconds]
  omega

end SpansMonths

end TurkishDates
