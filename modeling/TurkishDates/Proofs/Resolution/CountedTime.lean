import TurkishDates.Proofs.DateSpec.Shifts
import TurkishDates.Proofs.Resolution.Phrases

/-!
Days and minutes counted from the reference. Whatever number is written, an expression resolves to the point in time
that lies so far from the second of the reference, or to none when that is not representable. The fraction of the
reference is lost.
-/

namespace TurkishDates

open Numeral

section

variable {captures : Captures} {reference : Moment} {digits : Text}

def instantAt (seconds : Int) : Option Denotation := (Timestamp.ofSeconds? seconds).map fun t : Timestamp => .instant t

theorem instantAt_of_whole (whole : reference.nanoseconds = 0) (amount : Int) :
    instantAt (reference.seconds + amount) = (reference.shift? amount).map .instant := by
  rw [Moment.shift?_of_whole whole, Option.map_map]
  rfl

theorem denote_counted {time : DateSpec} {index : Nat} (captured : captures.group? index = some digits)
    (isDigits : IsDigits digits) {negated : Bool} {unit : Int} (forward : 1 ≤ unit)
    (counts : time.build captures reference =
      DateSpec.readCapture captures ⟨index, none, negated, 0⟩ >>= DateSpec.move reference.toTimestamp unit) :
    ((Action.instant time).denote captures reference).toOption =
      instantAt (reference.seconds + unit * (if negated then -(digitsValue digits : Int) else digitsValue digits)) := by
  generalize amount : unit * (if negated then -(digitsValue digits : Int) else digitsValue digits) = seconds
  have counted (later : Timestamp) :
      time.build captures reference = .ok later ↔ later.seconds = reference.seconds + seconds := by
    rw [counts, ← amount]
    exact DateSpec.readCapture_move_eq_ok_iff captured isDigits negated forward
  change (time.build captures reference >>= fun t => (.ok (.instant t) : Except BuildError Denotation)).toOption = _
  cases built : time.build captures reference with
  | ok later =>
    have found := Timestamp.ofSeconds?_eq_some_iff.mpr ((counted later).mp built)
    rw [instantAt, found]
    rfl
  | error cause =>
    have absent : Timestamp.ofSeconds? (reference.seconds + seconds) = none := by
      rw [Option.eq_none_iff_forall_ne_some]
      intro later found
      have built' := (counted later).mpr (Timestamp.ofSeconds?_eq_some_iff.mp found)
      rw [built] at built'
      cases built'
    rw [instantAt, absent]
    rfl

theorem value_counted {words : Text} {rule : Rule} (listed : (words, rule) ∈ countedPhrases)
    (isDigits : IsDigits digits) (free : rule.pattern.keptShapes = [Wording.number]) {time : DateSpec}
    (action : rule.action = .instant time)
    {negated : Bool} {unit amount : Int} (forward : 1 ≤ unit) (counts : ∀ captures, time.build captures reference =
      DateSpec.readCapture captures ⟨1, none, negated, 0⟩ >>= DateSpec.move reference.toTimestamp unit)
    (counted : amount = if negated then -(digitsValue digits : Int) else digitsValue digits) :
    ((⟨grammar, reference, none⟩ : Resolver).resolve (digits ++ ' ' :: words)).value =
      instantAt (reference.seconds + unit * amount) := by
  have reads : ∀ shape ∈ rule.pattern.keptShapes, shape.Reads digits (' ' :: words) := by
    rw [free]
    exact List.forall_mem_singleton.mpr (reads_digits.mpr isDigits)
  rw [(isOnlyMatch_counted listed isDigits reads).value_withoutFallback, action, counted]
  exact denote_counted rfl isDigits forward (counts _)

end

/-- A number of days or minutes may have any digits, and zeros in front. It is counted from the second of the reference,
which is the reference if that has no fraction. -/
theorem counted_time_exact_or_absent (reference : Moment) (digits : Text) (isDigits : IsDigits digits) :
    let value (t : Text) := ((⟨grammar, reference, none⟩ : Resolver).resolve t).value
    let n : Int := digitsValue digits
    value (digits ++ " gün sonra".toList) = instantAt (reference.seconds + secondsPerDay * n) ∧
      value (digits ++ " gün önce".toList) = instantAt (reference.seconds - secondsPerDay * n) ∧
      value (digits ++ " dakika sonra".toList) = instantAt (reference.seconds + 60 * n) ∧
      value (digits ++ " dakika önce".toList) = instantAt (reference.seconds - 60 * n) ∧
      (reference.nanoseconds = 0 →
        ∀ amount, instantAt (reference.seconds + amount) = (reference.shift? amount).map .instant) := by
  intro value n
  have away (unit : Int) : reference.seconds - unit * n = reference.seconds + unit * -n := by
    rw [Int.mul_neg, Int.sub_eq_add_neg]
  have spaced : " gün sonra".toList = ' ' :: "gün sonra".toList ∧ " gün önce".toList = ' ' :: "gün önce".toList ∧
      " dakika sonra".toList = ' ' :: "dakika sonra".toList ∧ " dakika önce".toList = ' ' :: "dakika önce".toList := by
    decide
  obtain ⟨atDaysLater, atDaysBefore, atMinutesLater, atMinutesBefore⟩ := spaced
  rw [away, away, atDaysLater, atDaysBefore, atMinutesLater, atMinutesBefore]
  have daysLater : ("gün sonra".toList, Grammar.daysLater) ∈ countedPhrases := by simp [countedPhrases]
  have daysBefore : ("gün önce".toList, Grammar.daysBefore) ∈ countedPhrases := by simp [countedPhrases]
  have minutesLater : ("dakika sonra".toList, Grammar.minutesAfter) ∈ countedPhrases := by simp [countedPhrases]
  have minutesBefore : ("dakika önce".toList, Grammar.minutesBefore) ∈ countedPhrases := by simp [countedPhrases]
  refine ⟨?_, ?_, ?_, ?_, instantAt_of_whole⟩
  · exact value_counted daysLater isDigits rfl rfl (by decide) (fun _ => DateSpec.build_dayShift (group 1)) rfl
  · exact value_counted daysBefore isDigits rfl rfl (by decide) (fun _ => DateSpec.build_dayShift (-group 1)) rfl
  · exact value_counted minutesLater isDigits rfl rfl (by decide) (fun _ => DateSpec.build_minuteShift (group 1)) rfl
  · exact value_counted minutesBefore isDigits rfl rfl (by decide) (fun _ => DateSpec.build_minuteShift (-group 1)) rfl

/-- A week behind zeros, and a number that is no word. The half second of the reference is lost on the way. -/
theorem counted_time_exact_or_absent_zeros_and_nines :
    let reference : Moment := ⟨⟨secondsPerDay * Date.dayNumber ⟨2024, 2, 29⟩ + 60, by decide⟩, 500000000, by decide⟩
    let weekLater : Timestamp := ⟨secondsPerDay * Date.dayNumber ⟨2024, 3, 7⟩ + 60, by decide⟩
    let midnight : Timestamp := ⟨secondsPerDay * Date.dayNumber ⟨2024, 2, 29⟩, by decide⟩
    let value (t : Text) := ((⟨grammar, reference, none⟩ : Resolver).resolve t).value
    IsDigits "007".toList ∧ value "007 gün sonra".toList = some (.instant weekLater) ∧
      reference.shift? (secondsPerDay * 7) = some ⟨weekLater, 500000000, by decide⟩ ∧
      IsDigits "1".toList ∧ value "1 dakika önce".toList = some (.instant midnight) ∧
      IsDigits "99999999999999999999".toList ∧ value "99999999999999999999 gün önce".toList = none ∧
      value "99999999999999999999 dakika sonra".toList = none := by
  intro reference weekLater midnight value
  have zeros : IsDigits "007".toList := by decide
  have one : IsDigits "1".toList := by decide
  have nines : IsDigits "99999999999999999999".toList := by decide
  have inWeek : "007 gün sonra".toList = "007".toList ++ " gün sonra".toList := by decide
  have justBefore : "1 dakika önce".toList = "1".toList ++ " dakika önce".toList := by decide
  have early : "99999999999999999999 gün önce".toList = "99999999999999999999".toList ++ " gün önce".toList := by decide
  have late : "99999999999999999999 dakika sonra".toList = "99999999999999999999".toList ++ " dakika sonra".toList := by
    decide
  obtain ⟨later, -, -, -⟩ := counted_time_exact_or_absent reference "007".toList zeros
  obtain ⟨-, -, -, before, -⟩ := counted_time_exact_or_absent reference "1".toList one
  obtain ⟨-, tooEarly, tooLate, -⟩ := counted_time_exact_or_absent reference "99999999999999999999".toList nines
  rw [inWeek, justBefore, early, late]
  refine ⟨zeros, later.trans ?_, ?_, one, before.trans ?_, nines, tooEarly.trans ?_, tooLate.trans ?_⟩
  all_goals decide

end TurkishDates
